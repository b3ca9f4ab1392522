import Grouproxy.Verification.Subscriptions.NodeLinks

/-! # Single nodes and the two validators

The document of an accepted link passes the backend's inspection and the monitor's parser if and
only if its name is free, its host is not too long, and its transport has not too many hosts.
-/

namespace Grouproxy.SingleNode

open Text hiding isSpace
open Ipaddress Value Inspection JsonReader Steps
open Repair (Dict Loaded)

/-! ## Both readers -/

section Readers

/-- The document around an outbound. -/
def documentOf (outbound : Dict) : Tree := .dict [("outbounds", .list [.dict outbound])]

/-- How deep the document of a link is at most. -/
def documentDepth : Nat := depthBelow + 2

/-- `json.loads` gives back what `json.dumps` wrote. -/
def PythonReads (libs : Libraries) : Prop :=
  ∀ document, IsPlain documentDepth document →
    libs.jsonLoads (String.ofList document.dumps) = .value document.sorted

/-- A JSON number is a `float64`. -/
def goNumber (n : Int) : Any := .float (Float64.ofInt n)

/-- `json.Unmarshal` gives back what `json.dumps` wrote. -/
def GoReads (readers : Subscription.Readers) : Prop :=
  ∀ document, IsPlain documentDepth document →
    readers.json (String.ofList document.dumps) = some (document.sorted.view goNumber)

/-- Both sides take the content for the one node that it is. -/
structure IsPreserved (libs : Libraries) (readers : Subscription.Readers) (content : ByteArray) :
    Prop where
  inspected : inspectSubscription libs content = .ok ⟨"sing-box", 1⟩
  parsed : ∃ outbound text entry, content = singleNodePayload outbound ∧
    String.fromUTF8? content = some text ∧
    Subscription.parse readers text "sing-box" = .ok [.map entry] ∧
    ∀ key ∈ ["tag", "server", "server_port", "uuid"],
      Fields.get entry key = (Value.Tree.get outbound key).view goNumber

variable {libs : Libraries} {readers : Subscription.Readers} {kind tag : String} {outbound : Dict}

theorem isPlain_documentOf (h : IsNode kind tag outbound) :
    IsPlain documentDepth (documentOf outbound) := by
  have houtbound : IsPlain depthBelow (.dict outbound) := .dict _ outbound h.nodup h.plain
  have hlist : IsPlain (depthBelow + 1) (.list [.dict outbound]) := by
    apply IsPlain.list
    rw [List.forall_mem_singleton]
    exact houtbound
  refine .dict _ _ (List.nodup_singleton _) ?_
  rw [List.forall_mem_singleton]
  exact hlist

theorem sorted_documentOf (outbound : Dict) : (documentOf outbound).sorted =
    .dict [("outbounds", .list [.dict (Tree.sortKeys (Tree.sortedFields outbound))])] := by
  rw [documentOf, Tree.sorted]
  rfl

theorem fromUTF8?_toUTF8 (text : String) : String.fromUTF8? text.toUTF8 = some text :=
  dif_pos text.isValidUTF8

/-- The text of the document is an object. -/
theorem exists_dumps_documentOf (outbound : Dict) :
    ∃ cs, (documentOf outbound).dumps = '\x7b' :: cs := by
  rw [documentOf, Tree.dumps_dict]
  exact ⟨_, rfl⟩

theorem decodeUtf8Sig_payload (outbound : Dict) :
    Backend.decodeUtf8Sig (singleNodePayload outbound) =
      some (String.ofList (documentOf outbound).dumps) := by
  obtain ⟨cs, hcs⟩ := exists_dumps_documentOf outbound
  have hpayload : singleNodePayload outbound = (String.ofList (documentOf outbound).dumps).toUTF8 :=
    rfl
  rw [hpayload, Backend.decodeUtf8Sig, fromUTF8?_toUTF8, Option.map_some, if_neg]
  rw [String.toList_ofList, hcs, List.head?_cons]
  decide

theorem strip_ne_of_object (cs : List Char) : strip (String.ofList ('\x7b' :: cs)) ≠ "" := by
  intro hempty
  have htrim : trimBy isSpace ('\x7b' :: cs) = [] := by
    have hchars := congrArg String.toList hempty
    rwa [strip, String.toList_ofList, String.toList_ofList] at hchars
  obtain ⟨before, after, hparts, hbefore, hafter⟩ := exists_trimBy isSpace ('\x7b' :: cs)
  rw [htrim, List.append_nil] at hparts
  have hmem : '\x7b' ∈ before ++ after := by
    rw [← hparts]
    exact List.mem_cons_self
  have hspace : isSpace '\x7b' = true :=
    (List.mem_append.mp hmem).elim (hbefore _) (hafter _)
  exact absurd hspace (by decide)

/-- A document is no link. -/
theorem singleNodeScheme_object (cs : List Char) :
    singleNodeScheme (String.ofList ('\x7b' :: cs)) = "" := by
  rw [singleNodeScheme, String.toList_ofList, List.dropWhile_cons_of_neg (by decide)]
  exact if_neg fun h => absurd h.1 (by decide)

/-- The content of a node is read as its document. -/
theorem inspectSubscription_payload (hpython : PythonReads libs) (h : IsNode kind tag outbound) :
    inspectSubscription libs (singleNodePayload outbound) =
      parseSingbox (documentOf outbound).sorted := by
  obtain ⟨cs, hcs⟩ := exists_dumps_documentOf outbound
  have hscheme := singleNodeScheme_object cs
  have hloads := hpython _ (isPlain_documentOf h)
  rw [← hcs] at hscheme
  have hstrip : ¬ strip (String.ofList (documentOf outbound).dumps) = "" := by
    rw [hcs]
    exact strip_ne_of_object cs
  rw [inspectSubscription, decodeUtf8Sig_payload, orRefuse_some_bind, refuse_bind hstrip, hscheme,
    if_neg (by decide), inspectDocument, hloads, sorted_documentOf]
  rfl

theorem string_kind (hkind : kind = "vless" ∨ kind = "vmess") (code : String) :
    string (.str kind) code = .ok kind ∧ lower kind = kind ∧ kind ∉ controlOutboundTypes ∧
      kind ∈ supportedOutboundTypes := by
  rcases hkind with rfl | rfl
  · exact ⟨string_eq_ok.mpr (by decide), by decide, by decide, by decide⟩
  · exact ⟨string_eq_ok.mpr (by decide), by decide, by decide, by decide⟩

/-- The inspection counts an outbound whose name is free and whose values pass. -/
theorem countOutbounds_node (h : IsNode kind tag outbound) :
    countOutbounds [] [.dict (Tree.sortKeys (Tree.sortedFields outbound))] =
      if tag ∈ reservedOutboundTags then .ok []
      else
        match validateValue 0 (Tree.dict outbound).sorted with
        | .ok () => .ok [tag]
        | .error e => .error e := by
  obtain ⟨hkind, hlower, hcontrol, hsupported⟩ :=
    string_kind h.known "subscription_outbound_type_invalid"
  have htype : Value.Tree.get (Tree.sortKeys (Tree.sortedFields outbound)) "type" = .str kind := by
    rw [Tree.get_sorted h.nodup, h.typed]
    rfl
  have htag : Value.Tree.get? (Tree.sortKeys (Tree.sortedFields outbound)) "tag" = some (.str tag) := by
    rw [Value.Tree.get?_sorted h.nodup, h.tagged]
    rfl
  have hshort : tag.length ≤ maxFieldLength := h.short.trans (by decide)
  have hname : string (.str tag) "subscription_tag_invalid" = .ok tag := by
    rw [string_eq_ok, h.stripped]
    exact ⟨h.named, hshort, rfl⟩
  rw [countOutbounds, mapping, ok_bind, htype, hkind, ok_bind, hlower, if_neg hcontrol,
    refuse_bind (not_not.mpr hsupported), htag, Option.getD_some]
  dsimp only
  rw [hname, ok_bind]
  split
  · rfl
  · rw [refuse_bind (List.not_mem_nil), refuse_bind (by decide), Tree.sorted]
    cases validateValue 0 (.dict (Tree.sortKeys (Tree.sortedFields outbound))) with
    | error e => rfl
    | ok u => rfl

/-- The inspection accepts the document of a node if and only if its name is free and its values
pass. -/
theorem inspectSubscription_eq_ok_iff (hpython : PythonReads libs) (h : IsNode kind tag outbound) :
    inspectSubscription libs (singleNodePayload outbound) = .ok ⟨"sing-box", 1⟩ ↔
      tag ∉ reservedOutboundTags ∧ validateValue 0 (.dict outbound) = .ok () := by
  have hitems : singboxItems (documentOf outbound).sorted =
      .ok (.list [.dict (Tree.sortKeys (Tree.sortedFields outbound))]) := by
    rw [sorted_documentOf]
    rfl
  have hcount := countOutbounds_node h
  have hnonempty :
      ¬ [Tree.dict (Tree.sortKeys (Tree.sortedFields outbound))].isEmpty = true := Bool.false_ne_true
  rw [inspectSubscription_payload hpython h, parseSingbox, hitems, ok_bind, validateOutbounds,
    refuse_bind hnonempty, hcount, ← validateValue_sorted]
  by_cases hreserved : tag ∈ reservedOutboundTags
  · rw [if_pos hreserved]
    refine iff_of_false ?_ fun hfree => hfree.1 hreserved
    exact fun hok => by cases hok
  · rw [if_neg hreserved]
    cases validateValue 0 (Tree.dict outbound).sorted with
    | error e =>
        refine iff_of_false ?_ fun hfits => by cases hfits.2
        exact fun hok => by cases hok
    | ok u => exact iff_of_true rfl ⟨hreserved, rfl⟩

/-! ### The monitor -/

/-- Python strips at least what Go trims. -/
theorem trimSpace_of_strip {s : String} (h : strip s = s) : trimSpace s = s := by
  have hchars : trimBy isSpace s.toList = s.toList := by
    have hlist := congrArg String.toList h
    rwa [strip, String.toList_ofList] at hlist
  have hspace : ∀ c, isSpace c = false → Text.isSpace c = false := by
    intro c hc
    rw [isSpace, Bool.or_eq_false_iff] at hc
    exact hc.1
  rw [trimSpace, trimBy_of_ends, String.ofList_toList]
  · intro c hc
    rw [← hchars] at hc
    exact hspace c (head?_trimBy c hc)
  · intro c hc
    rw [← hchars] at hc
    exact hspace c (getLast?_trimBy c hc)

theorem optionalString_of_strip {s : String} (hstrip : strip s = s) (h : s.length ≤ 255) :
    Subscription.optionalString (.str s) = .ok s := by
  have hsize : s.utf8ByteSize ≤ 4 * s.toList.length := by
    have hle := utf8ByteSize_le s.toList
    rwa [String.ofList_toList] at hle
  have hmax : 4 * 255 < Subscription.maxFieldLength := by decide
  rw [String.length_toList] at hsize
  rw [Subscription.optionalString, if_neg (by omega), trimSpace_of_strip hstrip]

/-- The monitor keeps an outbound whose name is free as it is. -/
theorem keepOutbounds_node (h : IsNode kind tag outbound) (hfree : tag ∉ reservedOutboundTags) :
    Subscription.validateOutbounds
        [.map (Tree.viewFields goNumber (Tree.sortKeys (Tree.sortedFields outbound)))] =
      .ok [.map (Tree.viewFields goNumber (Tree.sortKeys (Tree.sortedFields outbound)))] := by
  have htype : Fields.get (Tree.viewFields goNumber (Tree.sortKeys (Tree.sortedFields outbound)))
      "type" = .str kind := by
    rw [Tree.get_viewFields, Tree.get_sorted h.nodup, h.typed]
    rfl
  have htag : Fields.get (Tree.viewFields goNumber (Tree.sortKeys (Tree.sortedFields outbound)))
      "tag" = .str tag := by
    rw [Tree.get_viewFields, Tree.get_sorted h.nodup, Value.Tree.get, h.tagged]
    rfl
  have hkind : Subscription.requiredString (.str kind) = .ok kind ∧ toLower kind = kind ∧
      kind ∉ Subscription.controlTypes ∧ kind ∈ Subscription.supportedTypes := by
    rcases h.known with rfl | rfl
    · exact ⟨rfl, by decide, by decide, by decide⟩
    · exact ⟨rfl, by decide, by decide, by decide⟩
  have hname := optionalString_of_strip h.stripped h.short
  have hfree : ¬ (tag = "direct" ∨ tag = "block" ∨ tag = "subscription") := by
    rintro (rfl | rfl | rfl)
    all_goals exact hfree (by decide)
  have hkeep : Subscription.keepOutbound 0
      (.map (Tree.viewFields goNumber (Tree.sortKeys (Tree.sortedFields outbound)))) =
      .ok (some (tag, Tree.viewFields goNumber (Tree.sortKeys (Tree.sortedFields outbound)))) := by
    rw [Subscription.keepOutbound]
    simp only [Any.asMap?]
    rw [htype, hkind.1]
    simp only [hkind.2.1, hkind.2.2.1, hkind.2.2.2, if_false, not_true, htag, hname, if_neg hfree,
      Subscription.nameOutbound, if_neg h.named]
  rw [Subscription.validateOutbounds, if_neg (List.cons_ne_nil _ _), Subscription.keepOutbounds,
    hkeep]
  rfl

/-- The monitor parses the document of a node with a free name to its outbound. -/
theorem parse_node (hgo : GoReads readers) (h : IsNode kind tag outbound)
    (hfree : tag ∉ reservedOutboundTags) :
    Subscription.parse readers (String.ofList (documentOf outbound).dumps) "sing-box" =
      .ok [.map (Tree.viewFields goNumber (Tree.sortKeys (Tree.sortedFields outbound)))] := by
  have hjson := hgo _ (isPlain_documentOf h)
  rw [Subscription.parse, if_pos rfl, Subscription.parseSingbox, hjson, sorted_documentOf]
  exact keepOutbounds_node h hfree

theorem isPreserved_iff (hpython : PythonReads libs) (hgo : GoReads readers)
    (h : IsNode kind tag outbound) : IsPreserved libs readers (singleNodePayload outbound) ↔
      tag ∉ reservedOutboundTags ∧ validateValue 0 (.dict outbound) = .ok () := by
  constructor
  · exact fun hpreserved => (inspectSubscription_eq_ok_iff hpython h).mp hpreserved.inspected
  · intro hfits
    refine ⟨(inspectSubscription_eq_ok_iff hpython h).mpr hfits, ?_⟩
    refine ⟨outbound, _, _, rfl, fromUTF8?_toUTF8 _, parse_node hgo h hfits.1, ?_⟩
    intro key hkey
    rw [Tree.get_viewFields, Tree.get_sorted h.nodup, h.atoms key hkey]

end Readers

/-! ## Links -/

/-- The name of a link is not reserved, the host of a VLESS link is short enough for the inspection,
and an HTTP transport of a VMess link has no more hosts than a list may have. -/
inductive IsPortable (libs : Libraries) (value : String) : Prop
  | vless (parsed : NodeUrl) (hscheme : singleNodeScheme (strip value) = "vless")
    (hurl : libs.urlsplit (strip value) = some parsed)
    (hname : strip (libs.unquote parsed.fragment) ∉ reservedOutboundTags)
    (hhost : (strip (SourceFetch.hostOf parsed.toUrl)).length ≤ maxFieldLength) :
    IsPortable libs value
  | vmess (document : Dict) (hscheme : singleNodeScheme (strip value) = "vmess")
    (hdocument : vmessPayloadDocument libs (strip value) = .ok document)
    (hname : ∀ name ∈ fieldText? libs (firstOf document ["ps", "name", "remark"]) "vmess-node",
      name ∉ reservedOutboundTags)
    (hhosts : HasFewHosts libs document) : IsPortable libs value

section Links

variable {libs : Libraries} {readers : Subscription.Readers}

theorem isPortable_vless_iff {value : String} {parsed : NodeUrl}
    (hscheme : singleNodeScheme (strip value) = "vless")
    (hurl : libs.urlsplit (strip value) = some parsed) : IsPortable libs value ↔
      vlessTag libs parsed ∉ reservedOutboundTags ∧
        (strip (SourceFetch.hostOf parsed.toUrl)).length ≤ maxFieldLength := by
  have hdefault : "vless-node" ∉ reservedOutboundTags := by decide
  rw [vlessTag, orDefault_mem_reserved hdefault]
  constructor
  · intro h
    cases h with
    | vless parsed' _ hurl' hname hhost =>
        rw [hurl] at hurl'
        cases hurl'
        exact ⟨hname, hhost⟩
    | vmess _ hscheme' =>
        rw [hscheme] at hscheme'
        exact absurd hscheme' (by decide)
  · exact fun h => .vless parsed hscheme hurl h.1 h.2

theorem isPortable_vmess_iff {value name : String} {document : Dict}
    (hscheme : singleNodeScheme (strip value) = "vmess")
    (hdocument : vmessPayloadDocument libs (strip value) = .ok document)
    (hname : fieldText? libs (firstOf document ["ps", "name", "remark"]) "vmess-node" = some name) :
    IsPortable libs value ↔ orDefault "vmess-node" name ∉ reservedOutboundTags ∧
      HasFewHosts libs document := by
  have hdefault : "vmess-node" ∉ reservedOutboundTags := by decide
  rw [orDefault_mem_reserved hdefault]
  constructor
  · intro h
    cases h with
    | vless _ hscheme' =>
        rw [hscheme] at hscheme'
        exact absurd hscheme' (by decide)
    | vmess document' _ hdocument' hname' hhosts =>
        rw [hdocument] at hdocument'
        cases hdocument'
        exact ⟨hname' name hname, hhosts⟩
  · intro h
    refine .vmess document hscheme hdocument ?_ h.2
    intro other hother
    rw [hname] at hother
    cases hother
    exact h.1

/-- The outbound of an accepted link is a node, and passes if and only if the link is portable. -/
theorem nodeOutbound_spec {value : String} {outbound : Dict}
    (h : nodeOutbound libs (strip value) = .ok outbound) : ∃ kind tag, IsNode kind tag outbound ∧
      (IsPortable libs value ↔
        tag ∉ reservedOutboundTags ∧ validateValue 0 (.dict outbound) = .ok ()) := by
  rw [nodeOutbound] at h
  split at h
  · rename_i hscheme
    obtain ⟨parsed, hurl, hnode, hfits⟩ := vlessOutbound_spec h
    exact ⟨_, _, hnode, by rw [isPortable_vless_iff hscheme hurl, hfits]⟩
  · split at h
    · rename_i hscheme
      obtain ⟨document, name, hdocument, hname, hnode, hfits⟩ := vmessOutbound_spec h
      exact ⟨_, _, hnode, by rw [isPortable_vmess_iff hscheme hdocument hname, hfits]⟩
    · cases h

theorem normalizeSingleNode_ok {value : String} {content : ByteArray}
    (h : normalizeSingleNode libs value = .ok content) :
    ∃ outbound, nodeOutbound libs (strip value) = .ok outbound ∧
      content = singleNodePayload outbound := by
  rw [normalizeSingleNode] at h
  obtain ⟨_, -, h⟩ := bind_eq_ok h
  obtain ⟨outbound, houtbound, h⟩ := bind_eq_ok h
  cases h
  exact ⟨outbound, houtbound, rfl⟩

/-- Both sides take the document of an accepted link for its one node if and only if the link is
portable. -/
theorem normalizeSingleNode_preserved_iff (hpython : PythonReads libs) (hgo : GoReads readers)
    {value : String} {content : ByteArray} (h : normalizeSingleNode libs value = .ok content) :
    IsPreserved libs readers content ↔ IsPortable libs value := by
  obtain ⟨outbound, houtbound, rfl⟩ := normalizeSingleNode_ok h
  obtain ⟨kind, tag, hnode, hportable⟩ := nodeOutbound_spec houtbound
  rw [isPreserved_iff hpython hgo hnode, hportable]

end Links

/-! ## Two links -/

section Samples

/-- A link that differs in its name only. -/
def sampleLink (name : String) : String :=
  "vless://f128b39b-fcaa-46fd-adf6-c1f746956645@192.0.2.1:443?encryption=none#" ++ name

def sampleUrl (name : String) : NodeUrl where
  scheme := "vless"
  netloc := "f128b39b-fcaa-46fd-adf6-c1f746956645@192.0.2.1:443"
  path := ""
  query := "encryption=none"
  hostname := some "192.0.2.1"
  username := some "f128b39b-fcaa-46fd-adf6-c1f746956645"
  password := none
  port? := some (some 443)
  fragment := name

/-- `urlsplit` and `parse_qs` on the two links, and a reader of JSON without fractions. -/
def sampleLibraries : Libraries where
  jsonLoads text :=
    match read (fun _ => none) text.toList with
    | some tree => .value tree
    | none => .malformed
  yamlLoad _ := .malformed
  reprOf _ := ""
  urlsplit raw :=
    if raw = sampleLink "edge" then some (sampleUrl "edge")
    else if raw = sampleLink "direct" then some (sampleUrl "direct")
    else none
  unquote text := text
  parseQs query := if query = "encryption=none" then some [("encryption", ["none"])] else none
  b64decode _ := none

def sampleReaders : Subscription.Readers where
  json text := (read (fun _ => none) text.toList).map (Tree.view goNumber)
  yaml _ := none

theorem pythonReads_sample : PythonReads sampleLibraries := by
  intro document hdocument
  have hread := read_dumps (fun _ => none) hdocument
  rw [sampleLibraries]
  simp only [String.toList_ofList, hread]

theorem goReads_sample : GoReads sampleReaders := by
  intro document hdocument
  have hread := read_dumps (fun _ => none) hdocument
  rw [sampleReaders]
  simp only [String.toList_ofList, hread, Option.map_some]

theorem exists_of_toOption {α : Type} {result : Except Refusal α}
    (h : result.toOption.isSome = true) : ∃ a, result = .ok a := by
  cases result with
  | error e => cases h
  | ok a => exact ⟨a, rfl⟩

theorem strip_sampleLink {name : String} (h : name = "edge" ∨ name = "direct") :
    strip (sampleLink name) = sampleLink name := by
  have hchars : (sampleLink name).toList = _ ++ name.toList :=
    String.toList_append.trans (congrArg (· ++ name.toList) String.toList_ofList)
  apply strip_eq_self
  · rw [hchars, List.cons_append, List.head?_cons]
    rintro c ⟨⟩
    rfl
  · rw [hchars, List.getLast?_append]
    rcases h with rfl | rfl
    all_goals
      rintro c ⟨⟩
      rfl

theorem singleNodeScheme_sampleLink {name : String} (h : name = "edge" ∨ name = "direct") :
    singleNodeScheme (sampleLink name) = "vless" := by
  have hchars : (sampleLink name).toList = _ ++ name.toList :=
    String.toList_append.trans (congrArg (· ++ name.toList) String.toList_ofList)
  rw [singleNodeScheme, hchars]
  rcases h with rfl | rfl
  · decide +kernel
  · decide +kernel

theorem sampleLink_ne : sampleLink "direct" ≠ sampleLink "edge" := fun h =>
  absurd ((String.append_right_inj _).mp h) (by decide)

theorem urlsplit_sampleLink {name : String} (h : name = "edge" ∨ name = "direct") :
    sampleLibraries.urlsplit (sampleLink name) = some (sampleUrl name) := by
  rw [sampleLibraries]
  dsimp only
  rcases h with rfl | rfl
  · rw [if_pos rfl]
  · rw [if_neg sampleLink_ne, if_pos rfl]

theorem isPortable_sample_iff {name : String} (h : name = "edge" ∨ name = "direct") :
    IsPortable sampleLibraries (sampleLink name) ↔ name ∉ reservedOutboundTags := by
  have hscheme : singleNodeScheme (strip (sampleLink name)) = "vless" := by
    rw [strip_sampleLink h, singleNodeScheme_sampleLink h]
  have hurl : sampleLibraries.urlsplit (strip (sampleLink name)) = some (sampleUrl name) := by
    rw [strip_sampleLink h, urlsplit_sampleLink h]
  have htag : vlessTag sampleLibraries (sampleUrl name) = name := by
    rcases h with rfl | rfl
    · decide +kernel
    · decide +kernel
  have hhost : (strip (SourceFetch.hostOf (sampleUrl name).toUrl)).length ≤ maxFieldLength := by
    rcases h with rfl | rfl
    · decide
    · decide
  rw [isPortable_vless_iff hscheme hurl, htag]
  exact and_iff_left hhost

theorem exists_normalizeSingleNode {name : String} (h : name = "edge" ∨ name = "direct") :
    ∃ content, normalizeSingleNode sampleLibraries (sampleLink name) = .ok content := by
  have hfits : refuse (sampleLink name = "" ∨
      singleNodeMaxBytes < (sampleLink name).utf8ByteSize) "single_node_too_large" = .ok () := by
    apply if_neg
    rcases h with rfl | rfl
    · decide +kernel
    · decide +kernel
  have hnode : (nodeOutbound sampleLibraries (sampleLink name)).toOption.isSome = true := by
    rw [nodeOutbound, if_pos (singleNodeScheme_sampleLink h), vlessOutbound, vlessUrl,
      urlsplit_sampleLink h]
    rcases h with rfl | rfl
    · decide +kernel
    · decide +kernel
  obtain ⟨outbound, houtbound⟩ := exists_of_toOption hnode
  refine ⟨singleNodePayload outbound, ?_⟩
  rw [normalizeSingleNode, strip_sampleLink h, hfits, houtbound]
  rfl

theorem normalizeSingleNode_edge : ∃ content,
    normalizeSingleNode sampleLibraries (sampleLink "edge") = .ok content ∧
      IsPreserved sampleLibraries sampleReaders content := by
  obtain ⟨content, hcontent⟩ := exists_normalizeSingleNode (.inl rfl)
  have hportable := (isPortable_sample_iff (.inl rfl)).mpr (by decide)
  exact ⟨content, hcontent,
    (normalizeSingleNode_preserved_iff pythonReads_sample goReads_sample hcontent).mpr hportable⟩

/-- A node with the name of a reserved outbound is accepted, and its document is not. -/
theorem normalizeSingleNode_direct : PythonReads sampleLibraries ∧ GoReads sampleReaders ∧
    ∃ content, normalizeSingleNode sampleLibraries (sampleLink "direct") = .ok content ∧
      ¬ IsPreserved sampleLibraries sampleReaders content := by
  obtain ⟨content, hcontent⟩ := exists_normalizeSingleNode (.inr rfl)
  refine ⟨pythonReads_sample, goReads_sample, content, hcontent, ?_⟩
  obtain ⟨outbound, houtbound, rfl⟩ := normalizeSingleNode_ok hcontent
  obtain ⟨kind, tag, hnode, hportable⟩ := nodeOutbound_spec houtbound
  rw [isPreserved_iff pythonReads_sample goReads_sample hnode, ← hportable,
    isPortable_sample_iff (.inr rfl)]
  decide

end Samples

end Grouproxy.SingleNode
