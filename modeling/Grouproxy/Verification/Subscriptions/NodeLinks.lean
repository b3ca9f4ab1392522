import Grouproxy.Library.Steps
import Grouproxy.Verification.Subscriptions.OutboundValues

/-! # The outbound of a link

Each step of the normalization adds a part to the outbound. All parts pass the inspection but for
two: the host of a VLESS link and the hosts of an HTTP transport.
-/

namespace Grouproxy.SingleNode

open Text hiding isSpace
open Ipaddress Value Inspection JsonReader Steps
open Repair (Dict)

/-! ## Steps of the normalization -/

section Steps

variable {libs : Libraries} {depth : Nat}

theorem refuse_eq_ok {bad : Prop} [Decidable bad] {code : String} {u : Unit} :
    refuse bad code = .ok u ↔ ¬ bad := by
  rw [refuse]
  split <;> simp [*]

theorem orRefuse_eq_ok {α : Type} {value : Option α} {code : String} {a : α} :
    orRefuse value code = .ok a ↔ value = some a := by
  cases value <;> simp [orRefuse]

theorem orRefuse_some_bind {α β : Type} (a : α) (code : String) (f : α → Except Refusal β) :
    (orRefuse (some a) code >>= f) = f a := rfl

theorem ok_bind {α β : Type} (a : α) (f : α → Except Refusal β) :
    ((.ok a : Except Refusal α) >>= f) = f a := rfl

theorem refuse_bind {bad : Prop} [Decidable bad] (h : ¬ bad) {β : Type} {code : String}
    {f : Unit → Except Refusal β} : (refuse bad code >>= f) = f () := by
  rw [refuse, if_neg h]
  rfl

theorem length_orDefault {default value : String} (hdefault : default.length ≤ maxFieldLength)
    (h : value.length ≤ maxFieldLength) : (orDefault default value).length ≤ maxFieldLength := by
  rw [orDefault]
  split
  · exact hdefault
  · exact h

/-- A name is reserved or it is not, also if it is the one that is given to a node without any. -/
theorem orDefault_mem_reserved {default : String} (h : default ∉ reservedOutboundTags)
    (value : String) :
    orDefault default value ∈ reservedOutboundTags ↔ value ∈ reservedOutboundTags := by
  rw [orDefault]
  split
  · rename_i hempty
    rw [hempty]
    exact iff_of_false h (by decide)
  · rfl

theorem areKeys_utls : AreKeys ["enabled", "fingerprint"] := ⟨by decide, by decide, by decide⟩

theorem isPart_utls (hdepth : depth < maxValueDepth) {fingerprint : String}
    (h : fingerprint.length ≤ maxFieldLength) : IsPart depth ["utls"] (utls fingerprint) := by
  rw [utls]
  split
  · exact IsPart.nil.skip _
  · apply IsPart.cons _ .nil
    apply isSmall_part hdepth areKeys_utls
    exact .cons (isSmall_bool hdepth true) (.cons (isSmall_str hdepth h) .nil)

/-! ### VLESS -/

section Vless

variable {query : List (String × List String)}

theorem length_parameter {name : String} {required : Bool} {text : String}
    (h : parameter libs query name required = .ok text) : text.length ≤ maxFieldLength := by
  rw [parameter] at h
  obtain ⟨_, -, h⟩ := bind_eq_ok h
  obtain ⟨_, hlength, h⟩ := bind_eq_ok h
  cases h
  exact Nat.le_of_not_lt (refuse_eq_ok.mp hlength)

theorem areKeys_reality : AreKeys ["enabled", "public_key", "short_id"] :=
  ⟨by decide, by decide, by decide⟩

theorem isPart_vlessReality {security : String} {reality : Dict} (hdepth : depth < maxValueDepth)
    (h : vlessReality libs query security = .ok reality) : IsPart depth ["reality"] reality := by
  rw [vlessReality] at h
  split at h
  · obtain ⟨publicKey, hkey, h⟩ := bind_eq_ok h
    obtain ⟨shortId, hid, h⟩ := bind_eq_ok h
    obtain ⟨_, -, h⟩ := bind_eq_ok h
    obtain ⟨_, -, h⟩ := bind_eq_ok h
    cases h
    apply IsPart.cons _ .nil
    apply isSmall_part hdepth areKeys_reality
    exact .cons (isSmall_bool hdepth true) (.cons (isSmall_str hdepth (length_parameter hkey))
      (.cons (isSmall_str hdepth (length_parameter hid)) .nil))
  · cases h
    exact IsPart.nil.skip _

theorem areKeys_vlessTls : AreKeys ["enabled", "server_name", "utls", "reality"] :=
  ⟨by decide, by decide, by decide⟩

theorem isPart_tls {serverName fingerprint : String} {reality : Dict}
    (hname : serverName.length ≤ maxFieldLength) (hprint : fingerprint.length ≤ maxFieldLength)
    (hreality : IsPart 2 ["reality"] reality) :
    IsPart 1 ["tls"] [("tls", .dict ([("enabled", .bool true)] ++
      optional "server_name" serverName ++ utls fingerprint ++ reality))] := by
  have hdepth : 2 < maxValueDepth := by decide
  have henabled : IsPart 2 ["enabled"] [("enabled", .bool true)] :=
    .cons (isSmall_bool hdepth.le true) .nil
  have hserver := isPart_optional hdepth.le "server_name" hname
  apply IsPart.cons _ .nil
  apply isSmall_part (by decide) areKeys_vlessTls
  exact ((henabled.append hserver).append (isPart_utls hdepth hprint)).append hreality

theorem isPart_vlessTls {security : String} {tls : Dict}
    (h : vlessTls libs query security = .ok tls) : IsPart 1 ["tls"] tls := by
  rw [vlessTls] at h
  split at h
  · cases h
    exact IsPart.nil.skip _
  · obtain ⟨serverName, hname, h⟩ := bind_eq_ok h
    obtain ⟨fingerprint, hprint, h⟩ := bind_eq_ok h
    obtain ⟨reality, hreality, h⟩ := bind_eq_ok h
    cases h
    exact isPart_tls (length_parameter hname) (length_parameter hprint)
      (isPart_vlessReality (by decide) hreality)

/-- A UUID is written in 36 characters. -/
theorem length_uuidText {text uuid : String} (h : uuidText text = some uuid) : uuid.length = 36 := by
  rw [uuidText] at h
  split at h
  · cases h
  · rw [Option.map_eq_some_iff] at h
    obtain ⟨n, -, rfl⟩ := h
    have hlength : (uuidDigits n).length = 32 := by
      rw [uuidDigits, List.length_map, List.length_range]
    generalize uuidDigits n = digits at hlength ⊢
    simp only [String.length_ofList, List.length_append, List.length_cons, List.length_take,
      List.length_drop]
    omega

theorem vlessUrl_ok {raw : String} {parsed : NodeUrl} {port : Nat}
    (h : vlessUrl libs raw = .ok (parsed, port)) : libs.urlsplit raw = some parsed := by
  rw [vlessUrl] at h
  obtain ⟨parsed', hurl, h⟩ := bind_eq_ok h
  obtain ⟨port?, -, h⟩ := bind_eq_ok h
  obtain ⟨_, -, h⟩ := bind_eq_ok h
  obtain ⟨port', -, h⟩ := bind_eq_ok h
  obtain ⟨_, -, h⟩ := bind_eq_ok h
  cases h
  exact orRefuse_eq_ok.mp hurl

theorem strip_orDefault {default value : String} (hdefault : strip default = default)
    (h : strip value = value) : strip (orDefault default value) = orDefault default value := by
  rw [orDefault]
  split
  · exact hdefault
  · exact h

theorem orDefault_ne {default : String} (h : default ≠ "") (value : String) :
    orDefault default value ≠ "" := by
  rw [orDefault]
  split
  · exact h
  · rename_i hvalue
    exact hvalue

theorem areKeys_vless : AreKeys (["type", "tag"] ++ ["server"] ++
    (["server_port", "uuid"] ++ ["flow"] ++ ["packet_encoding"] ++ ["tls"])) :=
  ⟨by decide, by decide, by decide⟩

/-- The outbound of a VLESS link. -/
def vlessFields (tag host uuid flow packetEncoding : String) (port : Nat) (tls : Dict) : Dict :=
  [("type", .str "vless"), ("tag", .str tag), ("server", .str host), ("server_port", .int port),
    ("uuid", .str uuid)] ++ optional "flow" flow ++ optional "packet_encoding" packetEncoding ++ tls

/-- Its values pass unless the host is too long. -/
theorem vlessFields_spec {tag uuid flow packetEncoding : String} {port : Nat} {tls : Dict}
    (host : String) (htag : strip tag = tag ∧ tag ≠ "" ∧ tag.length ≤ 255) (hport : port ≤ 65535)
    (huuid : uuid.length = 36) (hflow : flow.length ≤ maxFieldLength)
    (hpacket : packetEncoding.length ≤ maxFieldLength) (htls : IsPart 1 ["tls"] tls) :
    IsNode "vless" tag (vlessFields tag host uuid flow packetEncoding port tls) ∧
      (validateValue 0 (.dict (vlessFields tag host uuid flow packetEncoding port tls)) = .ok () ↔
        host.length ≤ maxFieldLength) := by
  have hdepth : 1 ≤ maxValueDepth := by decide
  have hmax : 255 < maxFieldLength := by decide
  have hfront : IsPart 1 ["type", "tag"] [("type", .str "vless"), ("tag", .str tag)] :=
    .cons (isSmall_str hdepth (by decide)) (.cons (isSmall_str hdepth (by omega)) .nil)
  have hpair : IsPart 1 ["server_port", "uuid"]
      [("server_port", .int port), ("uuid", .str uuid)] :=
    .cons (isSmall_int hdepth (by omega)) (.cons (isSmall_str hdepth (by omega)) .nil)
  have hback := ((hpair.append (isPart_optional hdepth "flow" hflow)).append
    (isPart_optional hdepth "packet_encoding" hpacket)).append htls
  have houtbound : vlessFields tag host uuid flow packetEncoding port tls =
      [("type", .str "vless"), ("tag", .str tag)] ++ [("server", .str host)] ++
      ([("server_port", .int port), ("uuid", .str uuid)] ++ optional "flow" flow ++
        optional "packet_encoding" packetEncoding ++ tls) := by
    simp [vlessFields]
  have hserver : ([("server", Tree.str host)].map Prod.fst).Sublist ["server"] :=
    List.Sublist.refl _
  constructor
  · refine ⟨?_, ?_, .inl rfl, ?_, ?_, htag.1, htag.2.1, htag.2.2, ?_⟩
    · rw [houtbound]
      exact areKeys_vless.nodup.sublist (sublist_around hfront hback hserver)
    · rw [houtbound]
      apply isPlain_around hfront hback
      rw [List.forall_mem_singleton]
      exact .str _ _
    · rw [houtbound]
      rfl
    · rw [houtbound]
      rfl
    · intro key hkey
      rw [houtbound]
      simp only [List.mem_cons, List.not_mem_nil, or_false] at hkey
      rcases hkey with rfl | rfl | rfl | rfl
      all_goals rfl
  · rw [houtbound, validateValue_around (by decide) areKeys_vless hfront hback hserver,
      List.forall_mem_singleton, validateValue_str hdepth]

/-- The outbound of a VLESS link passes unless its host is too long. -/
theorem vlessOutbound_spec {raw : String} {outbound : Dict}
    (h : vlessOutbound libs raw = .ok outbound) : ∃ parsed, libs.urlsplit raw = some parsed ∧
      IsNode "vless" (vlessTag libs parsed) outbound ∧
      (validateValue 0 (.dict outbound) = .ok () ↔
        (strip (SourceFetch.hostOf parsed.toUrl)).length ≤ maxFieldLength) := by
  rw [vlessOutbound] at h
  obtain ⟨⟨parsed, port⟩, hurl, h⟩ := bind_eq_ok h
  obtain ⟨uuid, huuid, h⟩ := bind_eq_ok h
  obtain ⟨_, hport, h⟩ := bind_eq_ok h
  obtain ⟨_, -, h⟩ := bind_eq_ok h
  obtain ⟨query, -, h⟩ := bind_eq_ok h
  obtain ⟨_, -, h⟩ := bind_eq_ok h
  obtain ⟨security, -, h⟩ := bind_eq_ok h
  obtain ⟨_, htag, h⟩ := bind_eq_ok h
  obtain ⟨flow, hflow, h⟩ := bind_eq_ok h
  obtain ⟨packetEncoding, hpacket, h⟩ := bind_eq_ok h
  obtain ⟨tls, htls, h⟩ := bind_eq_ok h
  rw [refuse_eq_ok] at hport htag
  have hname : strip (vlessTag libs parsed) = vlessTag libs parsed :=
    strip_orDefault (by decide) (strip_strip _)
  have hle : port ≤ 65535 := by omega
  have hspec := vlessFields_spec (strip (SourceFetch.hostOf parsed.toUrl))
    ⟨hname, orDefault_ne (by decide) _, Nat.le_of_not_lt htag⟩ hle
    (length_uuidText (orRefuse_eq_ok.mp huuid)) (length_parameter hflow)
    (length_parameter hpacket) (isPart_vlessTls htls)
  cases h
  exact ⟨parsed, vlessUrl_ok hurl, hspec⟩

end Vless

/-! ### VMess -/

section Vmess

variable {document : Dict}

theorem vmessText_ok {keys : List String} {default text : String} {required : Bool}
    (h : vmessText libs document keys default required = .ok text) :
    fieldText? libs (firstOf document keys) default = some text ∧ text.length ≤ maxFieldLength := by
  rw [vmessText] at h
  obtain ⟨result, hresult, h⟩ := bind_eq_ok h
  obtain ⟨_, hlength, h⟩ := bind_eq_ok h
  cases h
  rw [refuse_eq_ok, not_or] at hlength
  exact ⟨orRefuse_eq_ok.mp hresult, Nat.le_of_not_lt hlength.2⟩

theorem strip_fieldText {value : Tree} {default text : String} (hdefault : strip default = default)
    (h : fieldText? libs value default = some text) : strip text = text := by
  cases value with
  | null => cases h; exact hdefault
  | str s => cases h; exact strip_strip _
  | int n => cases h; exact strip_strip _
  | float x => cases h; exact strip_strip _
  | bool b => cases h
  | list items => cases h
  | dict fields => cases h

theorem vmessAlpn_ok {values : List String} (h : vmessAlpn document = .ok values) :
    values.length ≤ 16 ∧ ∀ value ∈ values, value.length ≤ maxFieldLength := by
  rw [vmessAlpn] at h
  obtain ⟨result, -, h⟩ := bind_eq_ok h
  obtain ⟨_, hlimits, h⟩ := bind_eq_ok h
  cases h
  rw [refuse_eq_ok, not_or, Bool.not_eq_true, List.any_eq_false] at hlimits
  refine ⟨Nat.le_of_not_lt hlimits.1, fun value hvalue => ?_⟩
  have hlength := hlimits.2 value hvalue
  rw [decide_eq_true_eq] at hlength
  exact Nat.le_of_not_lt hlength

theorem length_commaItems {text : String} (h : text.length ≤ maxFieldLength) :
    ∀ item ∈ commaItems text, item.length ≤ maxFieldLength := by
  intro item hitem
  rw [commaItems] at hitem
  obtain ⟨part, hpart, rfl⟩ := List.mem_map.mp (List.mem_filter.mp hitem).1
  have hsplit := length_le_of_mem_splitOn hpart
  have hstrip := length_strip_le (String.ofList part)
  rw [String.length_toList, String.toList_ofList] at hstrip
  rw [String.length_toList] at hsplit
  omega

theorem length_firstHost {text : String} (h : text.length ≤ maxFieldLength) :
    (firstHost text).length ≤ maxFieldLength := by
  have htake := (List.takeWhile_prefix (l := text.toList) (· ≠ ',')).length_le
  have hstrip := length_strip_le (String.ofList (text.toList.takeWhile (· ≠ ',')))
  rw [String.length_toList, String.toList_ofList] at hstrip
  rw [String.length_toList] at htake
  rw [firstHost]
  omega

theorem length_withoutSlashes {path : String} (h : path.length ≤ maxFieldLength) :
    (withoutSlashes path).length ≤ maxFieldLength := by
  have hdrop := (List.dropWhile_suffix (l := path.toList) (· = '/')).length_le
  rw [String.length_toList] at hdrop
  rw [withoutSlashes, String.length_ofList]
  omega

/-- The transport of an outbound passes if and only if `C`. -/
structure IsTransport (transport : Dict) (C : Prop) : Prop where
  keys : (transport.map Prod.fst).Sublist ["transport"]
  plain : ∀ f ∈ transport, IsPlain (depthBelow - 1) f.2
  fits : (∀ f ∈ transport, validateValue 1 f.2 = .ok ()) ↔ C

theorem isTransport_of_isPart {transport : Dict} {C : Prop}
    (h : IsPart 1 ["transport"] transport) (hC : C) : IsTransport transport C :=
  ⟨h.keys, fun f hf => (h.small f hf).plain, iff_of_true (fun f hf => (h.small f hf).fits) hC⟩

theorem areKeys_ws : AreKeys (["type", "path"] ++ ["headers"]) := ⟨by decide, by decide, by decide⟩

theorem areKeys_headers : AreKeys ["Host"] := ⟨by decide, by decide, by decide⟩

theorem areKeys_http : AreKeys (["type", "path"] ++ ["host"] ++ []) :=
  ⟨by decide, by decide, by decide⟩

theorem areKeys_grpc : AreKeys (["type"] ++ ["service_name"]) := ⟨by decide, by decide, by decide⟩

/-- The kind and the path of a transport. -/
theorem isPart_typePath {kind path : String} (hkind : kind.length ≤ maxFieldLength)
    (hpath : path.length ≤ maxFieldLength) : IsPart 2 ["type", "path"]
      [("type", .str kind), ("path", .str (orDefault "/" path))] :=
  have hdepth : 2 ≤ maxValueDepth := by decide
  .cons (isSmall_str hdepth hkind)
    (.cons (isSmall_str hdepth (length_orDefault (by decide) hpath)) .nil)

/-- The transport over HTTP has all the hosts of the list. -/
theorem isTransport_http {path hosts : String} (hpath : path.length ≤ maxFieldLength)
    (hhosts : hosts.length ≤ maxFieldLength) :
    IsTransport [("transport", .dict ([("type", .str "http"), ("path", .str (orDefault "/" path))] ++
      if hosts = "" then [] else [("host", .list ((commaItems hosts).map .str))]))]
      ((commaItems hosts).length ≤ maxSubscriptionNodes) := by
  have hfront : IsPart 2 ["type", "path"]
      [("type", .str "http"), ("path", .str (orDefault "/" path))] :=
    isPart_typePath (by decide) hpath
  by_cases hempty : hosts = ""
  · subst hempty
    rw [if_pos rfl, List.append_nil]
    apply isTransport_of_isPart
    · apply IsPart.cons _ .nil
      have hkeys : AreKeys ["type", "path"] := ⟨by decide, by decide, by decide⟩
      exact isSmall_part (by decide) hkeys hfront
    · decide
  · have hlist := validateValue_texts (show 2 < maxValueDepth by decide) (length_commaItems hhosts)
    have hmiddle : ([("host", Tree.list ((commaItems hosts).map .str))].map Prod.fst).Sublist
        ["host"] := List.Sublist.refl _
    have hback : IsPart 2 [] [] := IsPart.nil
    rw [if_neg hempty]
    refine ⟨List.Sublist.refl _, ?_, ?_⟩
    · rw [List.forall_mem_singleton, ← List.append_nil (_ ++ _)]
      apply isPlain_part areKeys_http (sublist_around hfront hback hmiddle)
      apply isPlain_around hfront hback
      rw [List.forall_mem_singleton]
      exact isPlain_texts _ _
    · rw [List.forall_mem_singleton, ← List.append_nil (_ ++ _),
        validateValue_around (by decide) areKeys_http hfront hback hmiddle,
        List.forall_mem_singleton, hlist]

theorem length_serviceName {path service : String} (hpath : path.length ≤ maxFieldLength)
    (h : serviceName libs document path = .ok service) : service.length ≤ maxFieldLength := by
  rw [serviceName] at h
  split at h
  · cases h
    exact length_withoutSlashes hpath
  · exact (vmessText_ok h).2

theorem vmessTransport_spec {network : String} {transport : Dict}
    (h : vmessTransport libs document network = .ok transport) :
    ∃ hosts, fieldText? libs (firstOf document ["host", "Host"]) "" = some hosts ∧
      IsTransport transport
        (network ∈ ["http", "h2"] → (commaItems hosts).length ≤ maxSubscriptionNodes) := by
  have hdepth : 2 ≤ maxValueDepth := by decide
  have hsmall : ∀ {keys : List String} {fields : Dict}, AreKeys keys → IsPart 2 keys fields →
      IsPart 1 ["transport"] [("transport", .dict fields)] :=
    fun hkeys hfields => .cons (isSmall_part (by decide) hkeys hfields) .nil
  rw [vmessTransport] at h
  obtain ⟨hosts, hhosts, h⟩ := bind_eq_ok h
  obtain ⟨_, -, h⟩ := bind_eq_ok h
  obtain ⟨path, hpath, h⟩ := bind_eq_ok h
  obtain ⟨hhosts, hhostsLength⟩ := vmessText_ok hhosts
  have hpathLength := (vmessText_ok hpath).2
  have hfirst : IsSmall 2 (.str (firstHost hosts)) :=
    isSmall_str hdepth (length_firstHost hhostsLength)
  refine ⟨hosts, hhosts, ?_⟩
  split at h
  · rename_i hws
    have hother : ∀ network ∈ ["ws", "websocket"], network ∉ ["http", "h2"] := by decide
    cases h
    apply isTransport_of_isPart _ fun hhttp => absurd hhttp (hother network hws)
    apply hsmall areKeys_ws
    apply (isPart_typePath (by decide) hpathLength).append
    split
    · exact IsPart.nil.skip _
    · have hhost : IsPart 3 ["Host"] [("Host", .str (firstHost hosts))] :=
        .cons (isSmall_str (by decide) (length_firstHost hhostsLength)) .nil
      exact .cons (isSmall_part (by decide) areKeys_headers hhost) .nil
  · split at h
    · rename_i hhttp
      cases h
      have htransport := isTransport_http hpathLength hhostsLength
      refine ⟨htransport.keys, htransport.plain, htransport.fits.trans ?_⟩
      exact ⟨fun hle _ => hle, fun hle => hle hhttp⟩
    · rename_i hhttp
      apply isTransport_of_isPart _ fun hmem => absurd hmem hhttp
      split at h
      · obtain ⟨service, hservice, h⟩ := bind_eq_ok h
        cases h
        apply hsmall areKeys_grpc
        have htype : IsPart 2 ["type"] [("type", .str "grpc")] :=
          .cons (isSmall_str hdepth (by decide)) .nil
        exact htype.append
          (isPart_optional hdepth "service_name" (length_serviceName hpathLength hservice))
      · split at h
        · cases h
          apply hsmall areKeys_http
          rw [List.append_nil]
          apply (isPart_typePath (by decide) hpathLength).append
          split
          · exact IsPart.nil.skip _
          · exact .cons hfirst .nil
        · cases h
          exact IsPart.nil.skip _

theorem areKeys_vmessTls : AreKeys (["enabled"] ++ ["server_name"] ++ ["utls"] ++ ["alpn"] ++
    ["insecure"]) :=
  ⟨by decide, by decide, by decide⟩

theorem isPart_vmessTls {tls : Dict} (h : vmessTls libs document = .ok tls) :
    IsPart 1 ["tls"] tls := by
  have hdepth : 2 < maxValueDepth := by decide
  rw [vmessTls] at h
  obtain ⟨enabled, -, h⟩ := bind_eq_ok h
  split at h
  · obtain ⟨serverName, hname, h⟩ := bind_eq_ok h
    obtain ⟨fingerprint, hprint, h⟩ := bind_eq_ok h
    obtain ⟨alpn, halpn, h⟩ := bind_eq_ok h
    obtain ⟨insecure, -, h⟩ := bind_eq_ok h
    cases h
    obtain ⟨hcount, hlengths⟩ := vmessAlpn_ok halpn
    have henabled : IsPart 2 ["enabled"] [("enabled", .bool true)] :=
      .cons (isSmall_bool hdepth.le true) .nil
    have hserver := isPart_optional hdepth.le "server_name" (vmessText_ok hname).2
    have hutls := isPart_utls hdepth (vmessText_ok hprint).2
    have hlist : IsPart 2 ["alpn"] (if alpn = [] then [] else [("alpn", .list (alpn.map .str))]) := by
      split
      · exact IsPart.nil.skip _
      · have hfits : alpn.length ≤ maxSubscriptionNodes := hcount.trans (by decide)
        refine .cons ⟨isPlain_texts _ _, ?_⟩ .nil
        exact (validateValue_texts hdepth hlengths).mpr hfits
    have hinsecure : IsPart 2 ["insecure"] (if insecure then [("insecure", .bool true)] else []) := by
      split
      · exact .cons (isSmall_bool hdepth.le true) .nil
      · exact IsPart.nil.skip _
    apply IsPart.cons _ .nil
    exact isSmall_part (by decide) areKeys_vmessTls
      ((((henabled.append hserver).append hutls).append hlist).append hinsecure)
  · cases h
    exact IsPart.nil.skip _

/-- The link's transport is HTTP, by its network or by its camouflage. -/
def UsesHttp (libs : Libraries) (document : Dict) : Prop :=
  ∃ network camouflage, fieldText? libs (firstOf document ["net", "network"]) "tcp" = some network ∧
    fieldText? libs (firstOf document ["type"]) "none" = some camouflage ∧
    networkOf (orDefault "tcp" (lower network)) (orDefault "none" (lower camouflage)) ∈
      ["http", "h2"]

/-- A transport over HTTP has at most 128 hosts. -/
def HasFewHosts (libs : Libraries) (document : Dict) : Prop :=
  UsesHttp libs document → ∀ hosts ∈ fieldText? libs (firstOf document ["host", "Host"]) "",
    (commaItems hosts).length ≤ maxSubscriptionNodes

theorem usesHttp_iff {network : String} (h : vmessNetwork libs document = .ok network) :
    UsesHttp libs document ↔ network ∈ ["http", "h2"] := by
  rw [vmessNetwork] at h
  obtain ⟨net, hnet, h⟩ := bind_eq_ok h
  obtain ⟨camouflage, hcamouflage, h⟩ := bind_eq_ok h
  obtain ⟨_, -, h⟩ := bind_eq_ok h
  have hnetwork := Except.ok.inj h
  have hnet := (vmessText_ok hnet).1
  have hcamouflage := (vmessText_ok hcamouflage).1
  rw [← hnetwork]
  constructor
  · rintro ⟨net', camouflage', hnet', hcamouflage', hmem⟩
    rw [hnet] at hnet'
    rw [hcamouflage] at hcamouflage'
    cases hnet'
    cases hcamouflage'
    exact hmem
  · exact fun hmem => ⟨net, camouflage, hnet, hcamouflage, hmem⟩

theorem areKeys_vmess : AreKeys (["type", "tag", "server", "server_port", "uuid", "security",
    "alter_id"] ++ ["packet_encoding"] ++ ["transport"] ++ ["tls"]) :=
  ⟨by decide, by decide, by decide⟩

/-- The outbound of a VMess link passes unless its transport has too many hosts. -/
theorem vmessOutbound_spec {raw : String} {outbound : Dict}
    (h : vmessOutbound libs raw = .ok outbound) : ∃ document name,
      vmessPayloadDocument libs raw = .ok document ∧
      fieldText? libs (firstOf document ["ps", "name", "remark"]) "vmess-node" = some name ∧
      IsNode "vmess" (orDefault "vmess-node" name) outbound ∧
      (validateValue 0 (.dict outbound) = .ok () ↔ HasFewHosts libs document) := by
  rw [vmessOutbound] at h
  obtain ⟨document, hdocument, h⟩ := bind_eq_ok h
  obtain ⟨host, hhost, h⟩ := bind_eq_ok h
  obtain ⟨_, -, h⟩ := bind_eq_ok h
  obtain ⟨port, -, h⟩ := bind_eq_ok h
  obtain ⟨_, hport, h⟩ := bind_eq_ok h
  obtain ⟨id, -, h⟩ := bind_eq_ok h
  obtain ⟨uuid, huuid, h⟩ := bind_eq_ok h
  obtain ⟨name, hname, h⟩ := bind_eq_ok h
  obtain ⟨_, htag, h⟩ := bind_eq_ok h
  obtain ⟨scy, -, h⟩ := bind_eq_ok h
  obtain ⟨_, hsecurity, h⟩ := bind_eq_ok h
  obtain ⟨alterId, -, h⟩ := bind_eq_ok h
  obtain ⟨_, halter, h⟩ := bind_eq_ok h
  obtain ⟨network, hnetwork, h⟩ := bind_eq_ok h
  obtain ⟨transport, htransport, h⟩ := bind_eq_ok h
  obtain ⟨packetEncoding, hpacket, h⟩ := bind_eq_ok h
  obtain ⟨tls, htls, h⟩ := bind_eq_ok h
  rw [refuse_eq_ok] at hport htag hsecurity halter
  rw [not_not] at hsecurity
  have hlength := length_uuidText (orRefuse_eq_ok.mp huuid)
  have hdepth : 1 ≤ maxValueDepth := by decide
  have hmax : 255 < maxFieldLength := by decide
  have hsecurityLength : (orDefault "auto" (lower scy)).length ≤ maxFieldLength := by
    have hall : ∀ s ∈ ["auto", "none", "zero", "aes-128-gcm", "chacha20-poly1305"],
        s.length ≤ maxFieldLength := by decide
    exact hall _ hsecurity
  obtain ⟨hosts, hhosts, hspec⟩ := vmessTransport_spec htransport
  obtain ⟨hname, -⟩ := vmessText_ok hname
  have hnode : IsPart 1 ["type", "tag", "server", "server_port", "uuid", "security", "alter_id"]
      [("type", .str "vmess"), ("tag", .str (orDefault "vmess-node" name)), ("server", .str host),
        ("server_port", .int port), ("uuid", .str uuid),
        ("security", .str (orDefault "auto" (lower scy))), ("alter_id", .int alterId)] :=
    .cons (isSmall_str hdepth (by decide)) <| .cons (isSmall_str hdepth (by omega)) <|
    .cons (isSmall_str hdepth (vmessText_ok hhost).2) <| .cons (isSmall_int hdepth (by omega)) <|
    .cons (isSmall_str hdepth (by omega)) <| .cons (isSmall_str hdepth hsecurityLength) <|
    .cons (isSmall_int hdepth (by omega)) .nil
  have hfront := hnode.append
    (isPart_optional hdepth "packet_encoding" (vmessText_ok hpacket).2)
  have hback := isPart_vmessTls htls
  cases h
  refine ⟨document, name, hdocument, hname, ?_, ?_⟩
  · refine ⟨?_, ?_, .inr rfl, rfl, rfl, ?_, ?_, Nat.le_of_not_lt htag, ?_⟩
    · exact areKeys_vmess.nodup.sublist (sublist_around hfront hback hspec.keys)
    · exact isPlain_around hfront hback hspec.plain
    · exact strip_orDefault (by decide) (strip_fieldText (by decide) hname)
    · exact orDefault_ne (by decide) _
    · intro key hkey
      simp only [List.mem_cons, List.not_mem_nil, or_false] at hkey
      rcases hkey with rfl | rfl | rfl | rfl
      all_goals rfl
  · rw [validateValue_around (by decide) areKeys_vmess hfront hback hspec.keys, hspec.fits,
      HasFewHosts, usesHttp_iff hnetwork, hhosts]
    simp

end Vmess

end Steps

end Grouproxy.SingleNode
