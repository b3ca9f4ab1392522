import Grouproxy.Library.Entries
import Grouproxy.Verification.Subscriptions.SingleNode

/-! # VLESS links read back

The link of a node has each text percent-encoded once. The name comes back as it was. The values of
the query are unquoted twice, so that one with an escape in it does not come back.
-/

namespace Grouproxy.SingleNode

open Text hiding isSpace
open Ipaddress Value Inspection JsonReader Steps Entries
open Repair (Dict)
open Urllib (HasEscape isGraphic isQuoted quote urlencode)

/-! ## Nodes and their links -/

/-- A character of a host name in lower case. -/
def isHostChar (c : Char) : Bool :=
  isGraphic c && !c.isUpper && !"/?#@:[]%".toList.contains c

/-- `str(uuid.UUID(int=n))` -/
def uuidString (n : Nat) : String :=
  let digits := uuidDigits n
  String.ofList (digits.take 8 ++ '-' :: (digits.drop 8).take 4 ++ '-' :: (digits.drop 12).take 4 ++
    '-' :: (digits.drop 16).take 4 ++ '-' :: digits.drop 20)

/-- A node whose values are within the limits of its link. -/
structure VlessNode where
  host : String
  port : Nat
  uuid : Nat
  tag : String
  flow : String
  packetEncoding : String
  serverName : String
  fingerprint : String
  host_ne : host ≠ ""
  host_chars : ∀ c ∈ host.toList, isHostChar c = true
  port_pos : 1 ≤ port
  port_le : port ≤ 65535
  uuid_lt : uuid < 2 ^ 128
  tag_text : tag ≠ "" ∧ strip tag = tag
  tag_length : tag.length ≤ 255
  texts : ∀ text ∈ [flow, packetEncoding, serverName, fingerprint], text ≠ "" ∧ strip text = text
  lengths : ∀ text ∈ [flow, packetEncoding, serverName, fingerprint], text.length ≤ maxFieldLength

namespace VlessNode

variable (node : VlessNode)

/-- The texts in the query of the link. -/
def queryTexts : List String :=
  [node.flow, node.packetEncoding, node.serverName, node.fingerprint]

def parameters : List (String × String) :=
  [("security", "tls"), ("flow", node.flow), ("packetEncoding", node.packetEncoding),
    ("sni", node.serverName), ("fp", node.fingerprint)]

def netloc : List Char :=
  (uuidString node.uuid).toList ++ '@' :: (node.host.toList ++ ':' :: Nat.toDigits 10 node.port)

/-- The link with the parameters in some order. -/
def linkText (query : List (String × String)) : String :=
  String.ofList (Urllib.linkText "vless".toList node.netloc (urlencode query)
    (quote node.tag.toList))

/-- The outbound with the values of the node. -/
def outbound : Dict :=
  [("type", .str "vless"), ("tag", .str node.tag), ("server", .str node.host),
    ("server_port", .int node.port), ("uuid", .str (uuidString node.uuid)),
    ("flow", .str node.flow), ("packet_encoding", .str node.packetEncoding),
    ("tls", .dict [("enabled", .bool true), ("server_name", .str node.serverName),
      ("utls", .dict [("enabled", .bool true), ("fingerprint", .str node.fingerprint)])])]

end VlessNode

/-- A node and the order of the parameters of its link, which is not too long. -/
structure VlessLink where
  node : VlessNode
  query : List (String × String)
  perm : query.Perm node.parameters
  fits : (node.linkText query).utf8ByteSize ≤ singleNodeMaxBytes

namespace VlessLink

def text (link : VlessLink) : String := link.node.linkText link.query

/-- The normalization of the link has exactly the values of the node. -/
def DecodesBack (libs : Libraries) (tables : Urllib.Tables) (link : VlessLink) : Prop :=
  normalizeSingleNode (libs.withUrllib tables) link.text =
    .ok (singleNodePayload link.node.outbound)

end VlessLink

/-! ## UUIDs -/

section Uuids

/-- The digits of a number, and the number. -/
theorem foldl_hexDigits (width n : Nat) :
    ((List.range width).map fun i => n / 16 ^ (width - 1 - i) % 16).foldl
      (fun m d => 16 * m + d) 0 = n % 16 ^ width := by
  induction width generalizing n with
  | zero => simp [Nat.mod_one]
  | succ width ih =>
      have hfront : (List.range width).map (fun i => n / 16 ^ (width + 1 - 1 - i) % 16) =
          (List.range width).map fun i => n / 16 / 16 ^ (width - 1 - i) % 16 := by
        apply List.map_congr_left
        intro i hi
        have hlt := List.mem_range.mp hi
        have hpower : width + 1 - 1 - i = width - 1 - i + 1 := by omega
        rw [hpower, Nat.pow_succ', Nat.div_div_eq_div_mul]
      rw [List.range_succ, List.map_append, List.foldl_append, hfront, ih]
      simp only [List.map_cons, List.map_nil, List.foldl_cons, List.foldl_nil,
        Nat.add_sub_cancel, Nat.sub_self, Nat.pow_zero, Nat.div_one]
      rw [Nat.pow_succ', Nat.mod_mul, Nat.add_comm]

theorem mem_uuidDigits {n : Nat} {c : Char} (h : c ∈ uuidDigits n) :
    ∃ d < 16, c = Nat.digitChar d := by
  obtain ⟨i, -, rfl⟩ := List.mem_map.mp h
  exact ⟨_, Nat.mod_lt _ (by decide), rfl⟩

theorem length_uuidDigits (n : Nat) : (uuidDigits n).length = 32 := by
  rw [uuidDigits, List.length_map, List.length_range]

/-- A digit in lower case is read as it is, and is none of the other characters of a UUID. -/
theorem digitChar_facts : ∀ d < 16, isSpace (Nat.digitChar d) = false ∧
    ((digit? (Nat.digitChar d)).map Nat.digitChar).getD (Nat.digitChar d) = Nat.digitChar d ∧
    "+_xXu\x7b\x7d-".toList.contains (Nat.digitChar d) = false := by decide

theorem notMem_uuidDigits {c : Char} (h : "+_xXu\x7b\x7d-".toList.contains c = true) (n : Nat) :
    c ∉ uuidDigits n := by
  intro hmem
  obtain ⟨d, hd, rfl⟩ := mem_uuidDigits hmem
  rw [(digitChar_facts d hd).2.2] at h
  cases h

theorem withoutHexPrefix_eq_self {cs : List Char} (hx : 'x' ∉ cs) (hX : 'X' ∉ cs) :
    withoutHexPrefix cs = cs := by
  unfold withoutHexPrefix
  split
  · exact absurd (by simp) hx
  · exact absurd (by simp) hX
  · exact absurd (by simp) hx
  · exact absurd (by simp) hX
  · rfl

theorem mapM_digitChar {digits : List Nat} (h : ∀ d ∈ digits, d < 16) :
    (digits.map Nat.digitChar).mapM hexValue? = some digits := by
  induction digits with
  | nil => rfl
  | cons d digits ih =>
      rw [List.forall_mem_cons] at h
      rw [List.map_cons, List.mapM_cons, hexValue?_digitChar d h.1, ih h.2]
      rfl

theorem intOfHex_uuidDigits {n : Nat} (h : n < 2 ^ 128) : intOfHex (uuidDigits n) = some n := by
  have htrim : trimBy isSpace (uuidDigits n) = uuidDigits n := by
    apply trimBy_eq_self
    intro c hc
    obtain ⟨d, hd, rfl⟩ := mem_uuidDigits hc
    exact (digitChar_facts d hd).1
  have hascii : (uuidDigits n).map (fun c => ((digit? c).map Nat.digitChar).getD c) =
      uuidDigits n := by
    rw [List.map_congr_left (g := id), List.map_id]
    intro c hc
    obtain ⟨d, hd, rfl⟩ := mem_uuidDigits hc
    exact (digitChar_facts d hd).2.1
  have hsign : ¬ (uuidDigits n).head? = some '+' := by
    intro hhead
    exact notMem_uuidDigits (by decide) n (List.mem_of_mem_head? hhead)
  have hprefix : withoutHexPrefix (uuidDigits n) = uuidDigits n :=
    withoutHexPrefix_eq_self (notMem_uuidDigits (by decide) n) (notMem_uuidDigits (by decide) n)
  have hsplit : (uuidDigits n).splitOn '_' = [uuidDigits n] :=
    List.splitOn_eq_singleton (notMem_uuidDigits (by decide) n)
  have hempty : ¬ ([uuidDigits n].any List.isEmpty) = true := by
    rw [List.any_cons, List.any_nil, Bool.or_false, List.isEmpty_iff]
    intro hnil
    have hlength := length_uuidDigits n
    rw [hnil] at hlength
    cases hlength
  have hdigits : (uuidDigits n).mapM hexValue? =
      some ((List.range 32).map fun i => n / 16 ^ (31 - i) % 16) := by
    rw [← mapM_digitChar, List.map_map]
    · rfl
    · intro d hd
      obtain ⟨i, -, rfl⟩ := List.mem_map.mp hd
      exact Nat.mod_lt _ (by decide)
  rw [intOfHex]
  simp only [htrim, hascii, if_neg hsign, hprefix, hsplit, if_neg hempty, List.flatten_cons,
    List.flatten_nil, List.append_nil, hdigits, Option.map_some]
  rw [foldl_hexDigits 32, Nat.mod_eq_of_lt (by simpa using h)]

theorem removeAll_of_notMem {first : Char} {pattern cs : List Char} (h : first ∉ cs) :
    removeAll (first :: pattern) 0 cs = cs := by
  induction cs with
  | nil => rfl
  | cons c cs ih =>
      rw [List.mem_cons, not_or] at h
      have hprefix : ¬ first :: pattern <+: c :: cs := fun hp => h.1 (List.cons_prefix_cons.mp hp).1
      rw [removeAll, if_neg hprefix, ih h.2]

theorem mem_uuidString {n : Nat} {c : Char} (h : c ∈ (uuidString n).toList) :
    c = '-' ∨ c ∈ uuidDigits n := by
  simp only [uuidString, String.toList_ofList, List.mem_append, List.mem_cons] at h
  rcases h with (((h | h | h) | h | h) | h | h) | h | h
  · exact .inr (List.mem_of_mem_take h)
  · exact .inl h
  · exact .inr (List.mem_of_mem_drop (List.mem_of_mem_take h))
  · exact .inl h
  · exact .inr (List.mem_of_mem_drop (List.mem_of_mem_take h))
  · exact .inl h
  · exact .inr (List.mem_of_mem_drop (List.mem_of_mem_take h))
  · exact .inl h
  · exact .inr (List.mem_of_mem_drop h)

theorem filter_uuidString (n : Nat) :
    (uuidString n).toList.filter (· ≠ '-') = uuidDigits n := by
  have hkept : ∀ cs ⊆ uuidDigits n, cs.filter (fun c => decide (c ≠ '-')) = cs := by
    intro cs hcs
    rw [List.filter_eq_self]
    intro c hc
    exact decide_eq_true (ne_of_mem_of_not_mem (hcs hc) (notMem_uuidDigits (by decide) n))
  have hdash : decide ('-' ≠ '-') = false := by decide
  have hparts : ∀ i k, (((uuidDigits n).drop i).take k).filter (fun c => decide (c ≠ '-')) =
      ((uuidDigits n).drop i).take k := by
    intro i k
    exact hkept _ fun c hc => List.mem_of_mem_drop (List.mem_of_mem_take hc)
  have hfirst := hkept ((uuidDigits n).take 8) (List.take_subset 8 _)
  have hlast := hkept ((uuidDigits n).drop 20) (List.drop_subset 20 _)
  have hjoin : ∀ i k, ((uuidDigits n).drop i).take k ++ (uuidDigits n).drop (i + k) =
      (uuidDigits n).drop i := by
    intro i k
    rw [← List.drop_drop, List.take_append_drop]
  rw [uuidString, String.toList_ofList]
  simp only [List.filter_append, List.filter_cons, hdash, hparts, hfirst, hlast,
    Bool.false_eq_true, ite_false, List.append_assoc]
  rw [hjoin 16 4, hjoin 12 4, hjoin 8 4, List.take_append_drop]

theorem uuidText_uuidString {n : Nat} (h : n < 2 ^ 128) :
    uuidText (uuidString n) = some (uuidString n) := by
  have hmem : ∀ c, c ≠ '-' → "+_xXu\x7b\x7d-".toList.contains c = true →
      c ∉ (uuidString n).toList := by
    intro c hdash hc hmem
    rcases mem_uuidString hmem with hmem | hmem
    · exact hdash hmem
    · exact notMem_uuidDigits hc n hmem
  have hu := hmem 'u' (by decide) (by decide)
  have hbare : removeAll "uuid:".toList 0 (removeAll "urn:".toList 0 (uuidString n).toList) =
      (uuidString n).toList := by
    have hurn : "urn:".toList = 'u' :: "rn:".toList := rfl
    have huuid : "uuid:".toList = 'u' :: "uid:".toList := rfl
    rw [hurn, huuid, removeAll_of_notMem hu, removeAll_of_notMem hu]
  have htrim : trimBy (fun c => c == '\x7b' || c == '\x7d') (uuidString n).toList =
      (uuidString n).toList := by
    apply trimBy_eq_self
    intro c hc
    rw [Bool.or_eq_false_iff, beq_eq_false_iff_ne, beq_eq_false_iff_ne]
    exact ⟨ne_of_mem_of_not_mem hc (hmem _ (by decide) (by decide)),
      ne_of_mem_of_not_mem hc (hmem _ (by decide) (by decide))⟩
  rw [uuidText]
  simp only [hbare, htrim, filter_uuidString, length_uuidDigits, intOfHex_uuidDigits h,
    ne_eq, not_true_eq_false, ite_false, Option.map_some]
  rfl

end Uuids

/-! ## The link taken apart -/

section Characters

variable {c : Char}

theorem isGraphic_of_isHostChar (h : isHostChar c = true) : isGraphic c = true := by
  rw [isHostChar, Bool.and_eq_true, Bool.and_eq_true] at h
  exact h.1.1

theorem ne_of_isHostChar {d : Char} (h : isHostChar c = true) (hd : isHostChar d = false) :
    c ≠ d := by
  rintro rfl
  rw [h] at hd
  cases hd

theorem toLower_of_isHostChar (h : isHostChar c = true) : c.toLower = c := by
  rw [isHostChar, Bool.and_eq_true, Bool.and_eq_true, Bool.not_eq_true'] at h
  have hupper : ¬ (c.val ≥ 'A'.val ∧ c.val ≤ 'Z'.val) := by
    intro hrange
    have htrue : c.isUpper = true := decide_eq_true hrange
    rw [htrue] at h
    cases h.1.2
  exact dif_neg hupper

theorem isHostChar_digitChar : ∀ d < 16, isHostChar (Nat.digitChar d) = true := by decide

theorem isHostChar_of_isDigit (h : c.isDigit = true) : isHostChar c = true := by
  have hgraphic : isGraphic c = true := by
    apply Urllib.isGraphic_of_isUnreserved
    simp [Urllib.isUnreserved, Char.isAlphanum, h]
  have hupper : ¬ c.isUpper = true := by
    intro hupper
    have hrange : c.val ≥ 'A'.val ∧ c.val ≤ 'Z'.val := of_decide_eq_true hupper
    simp only [Char.isDigit, Bool.and_eq_true, decide_eq_true_eq, ge_iff_le] at h
    have hle : c.val.toNat ≤ 57 := h.2
    have hge : 65 ≤ c.val.toNat := hrange.1
    omega
  have hall : "/?#@:[]%".toList.all (fun d => !d.isDigit) = true := by decide
  have hseparator : ¬ "/?#@:[]%".toList.contains c = true := by
    rw [List.contains_iff_mem]
    intro hmem
    have hno := List.all_eq_true.mp hall c hmem
    rw [h] at hno
    cases hno
  rw [isHostChar, hgraphic, Bool.eq_false_iff.mpr hupper, Bool.eq_false_iff.mpr hseparator]
  rfl

theorem isHostChar_of_mem_toDigits {n : Nat} (h : c ∈ Nat.toDigits 10 n) : isHostChar c = true :=
  isHostChar_of_isDigit (Nat.isDigit_of_mem_toDigits (by decide) (by decide) h)

theorem isHostChar_of_mem_uuidString {n : Nat} (h : c ∈ (uuidString n).toList) :
    isHostChar c = true := by
  rcases mem_uuidString h with rfl | h
  · decide
  · obtain ⟨d, hd, rfl⟩ := mem_uuidDigits h
    exact isHostChar_digitChar d hd

theorem mem_netloc {node : VlessNode} (h : c ∈ node.netloc) :
    isHostChar c = true ∨ c = '@' ∨ c = ':' := by
  rcases List.mem_append.mp h with h | h
  · exact .inl (isHostChar_of_mem_uuidString h)
  · rcases List.mem_cons.mp h with h | h
    · exact .inr (.inl h)
    · rcases List.mem_append.mp h with h | h
      · exact .inl (node.host_chars c h)
      · rcases List.mem_cons.mp h with h | h
        · exact .inr (.inr h)
        · exact .inl (isHostChar_of_mem_toDigits h)

theorem notMem_netloc {node : VlessNode} (hhost : isHostChar c = false) (hat : c ≠ '@')
    (hcolon : c ≠ ':') : c ∉ node.netloc := by
  intro h
  rcases mem_netloc h with h | h | h
  · rw [hhost] at h
    cases h
  · exact hat h
  · exact hcolon h

theorem isSpace_of_isGraphic (h : isGraphic c = true) : isSpace c = false := by
  rw [isGraphic, Bool.and_eq_true, decide_eq_true_eq, decide_eq_true_eq] at h
  simp only [isSpace, Text.isSpace, Bool.or_eq_false_iff, Bool.and_eq_false_iff,
    decide_eq_false_iff_not, beq_eq_false_iff_ne]
  omega

end Characters

namespace VlessLink

variable (libs : Libraries) (tables : Urllib.Tables) (link : VlessLink)

def parsed : Urllib.SplitResult :=
  ⟨"vless".toList, link.node.netloc, [], urlencode link.query, quote link.node.tag.toList⟩

theorem isGraphic_of_mem_text {c : Char} (h : c ∈ link.text.toList) : isGraphic c = true := by
  rw [text, VlessNode.linkText, String.toList_ofList, Urllib.linkText] at h
  simp only [List.mem_append, List.mem_cons] at h
  rcases h with h | rfl | (rfl | rfl | h) | rfl | h | rfl | h
  · have hall : "vless".toList.all isGraphic = true := by decide
    exact List.all_eq_true.mp hall c h
  · decide
  · decide
  · decide
  · rcases mem_netloc h with h | rfl | rfl
    · exact isGraphic_of_isHostChar h
    · decide
    · decide
  · decide
  · rcases Urllib.mem_urlencode h with h | rfl | rfl
    · exact Urllib.isGraphic_of_isQuoted h
    · decide
    · decide
  · decide
  · exact Urllib.isGraphic_of_isQuoted (Urllib.isQuoted_of_mem_quote h)

theorem urlsplit_text : Urllib.urlsplit tables link.text.toList = some link.parsed := by
  have hgraphic : ∀ d ∈ Urllib.linkText "vless".toList link.node.netloc (urlencode link.query)
      (quote link.node.tag.toList), isGraphic d = true := by
    intro d hd
    apply link.isGraphic_of_mem_text
    rw [text, VlessNode.linkText, String.toList_ofList]
    exact hd
  have hnetloc : ∀ d ∈ link.node.netloc, Urllib.isNetlocChar d = true := by
    intro d hd
    rcases mem_netloc hd with hd | rfl | rfl
    · have hne : ∀ e, isHostChar e = false → d ≠ e := fun e he => ne_of_isHostChar hd he
      simp [Urllib.isNetlocChar, hne '/' (by decide), hne '?' (by decide), hne '#' (by decide)]
    · decide
    · decide
  have hquery : '#' ∉ urlencode link.query := by
    intro h
    rcases Urllib.mem_urlencode h with h | h | h
    · exact absurd h (by decide)
    · exact absurd h (by decide)
    · exact absurd h (by decide)
  rw [text, VlessNode.linkText, String.toList_ofList]
  exact Urllib.urlsplit_linkText (by decide) (by decide) (by decide) hgraphic hnetloc
    (notMem_netloc (by decide) (by decide) (by decide))
    (notMem_netloc (by decide) (by decide) (by decide)) hquery

theorem parts : link.parsed.userinfo = some ((uuidString link.node.uuid).toList, none) ∧
    link.parsed.hostinfo = (link.node.host.toList, Nat.toDigits 10 link.node.port) := by
  have hnone : ∀ {cs : List Char}, (∀ c ∈ cs, isHostChar c = true) → ∀ d, isHostChar d = false →
      d ∉ cs := by
    intro cs hcs d hd hmem
    exact ne_of_isHostChar (hcs d hmem) hd rfl
  have huser := hnone fun c (hc : c ∈ (uuidString link.node.uuid).toList) =>
    isHostChar_of_mem_uuidString hc
  have hhost := hnone link.node.host_chars
  have hport := hnone fun c (hc : c ∈ Nat.toDigits 10 link.node.port) =>
    isHostChar_of_mem_toDigits hc
  exact Urllib.parts_of_netloc rfl (huser _ (by decide))
    ⟨hhost _ (by decide), hhost _ (by decide), hhost _ (by decide)⟩
    ⟨hport _ (by decide), hport _ (by decide)⟩

theorem username_parsed : link.parsed.username = some (uuidString link.node.uuid).toList := by
  rw [Urllib.SplitResult.username, link.parts.1, Option.map_some]

theorem password_parsed : link.parsed.password = none := by
  rw [Urllib.SplitResult.password, link.parts.1, Option.bind_some]

theorem hostname_parsed : link.parsed.hostname tables = some link.node.host.toList := by
  apply Urllib.hostname_of_hostinfo link.parts.2
  · rw [Ne, String.toList_eq_nil_iff]
    exact link.node.host_ne
  · intro c hc
    exact Urllib.isAscii_of_isGraphic (isGraphic_of_isHostChar (link.node.host_chars c hc))
  · rw [List.map_congr_left (g := id), List.map_id]
    intro c hc
    exact toLower_of_isHostChar (link.node.host_chars c hc)
  · intro hmem
    exact absurd (link.node.host_chars _ hmem) (by decide)

theorem port_parsed : link.parsed.port? = some (some link.node.port) :=
  Urllib.port?_of_hostinfo link.parts.2 link.node.port_le

theorem strip_host : strip link.node.host = link.node.host ∧
    link.node.host.toList.any isSpace = false := by
  have hspace : ∀ c ∈ link.node.host.toList, isSpace c = false := by
    intro c hc
    exact isSpace_of_isGraphic (isGraphic_of_isHostChar (link.node.host_chars c hc))
  constructor
  · rw [strip, trimBy_eq_self hspace, String.ofList_toList]
  · rw [List.any_eq_false]
    intro c hc
    rw [hspace c hc]
    decide

/-! ## The link normalized -/

theorem hostOf_nodeUrl : SourceFetch.hostOf (nodeUrl tables link.parsed).toUrl = link.node.host := by
  rw [SourceFetch.hostOf, nodeUrl]
  simp only [link.hostname_parsed, Option.map_some, String.ofList_toList, Option.getD_some]

theorem vlessUrl_text : vlessUrl (libs.withUrllib tables) link.text =
    .ok (nodeUrl tables link.parsed, link.node.port) := by
  have hsplit : (libs.withUrllib tables).urlsplit link.text = some (nodeUrl tables link.parsed) := by
    rw [Libraries.withUrllib]
    simp only [link.urlsplit_text, Option.map_some]
  have hport : (nodeUrl tables link.parsed).port? = some (some link.node.port) := by
    rw [nodeUrl, link.port_parsed]
  have hpassword : (nodeUrl tables link.parsed).password = none := by
    rw [nodeUrl, link.password_parsed, Option.map_none]
  have hscheme : lower (nodeUrl tables link.parsed).scheme = "vless" := by
    have hname : (nodeUrl tables link.parsed).scheme = "vless" := String.ofList_toList
    rw [hname]
    decide
  rw [vlessUrl, hsplit, orRefuse_some_bind, hport, orRefuse_some_bind, refuse_bind,
    orRefuse_some_bind, refuse_bind]
  · rfl
  · rw [hpassword]
    exact not_not.mpr rfl
  · rw [hscheme, link.hostOf_nodeUrl, not_or]
    exact ⟨not_not.mpr rfl, link.node.host_ne⟩

end VlessLink

/-- What comes of a text that has been unquoted once. -/
def unquotedAgain (text : String) : String :=
  strip (String.ofList (Urllib.unquote text.toList))

theorem length_unquotedAgain_le (text : String) : (unquotedAgain text).length ≤ text.length := by
  have hstrip := length_strip_le (String.ofList (Urllib.unquote text.toList))
  rw [String.toList_ofList] at hstrip
  have hunquote : (Urllib.unquote text.toList).length ≤ text.toList.length := by
    by_cases h : HasEscape text.toList
    · exact Nat.le_of_lt (Urllib.length_unquote_lt h)
    · rw [Urllib.unquote_of_not_hasEscape h]
  rw [unquotedAgain, ← String.length_toList, ← String.length_toList]
  exact hstrip.trans hunquote

/-- A text is the same after it is unquoted again if and only if there is no escape in it. -/
theorem unquotedAgain_eq_iff {text : String} (h : strip text = text) :
    unquotedAgain text = text ↔ ¬ HasEscape text.toList := by
  constructor
  · intro hsame hescape
    have hshort := Urllib.length_unquote_lt hescape
    have hstrip := length_strip_le (String.ofList (Urllib.unquote text.toList))
    rw [String.toList_ofList, ← unquotedAgain, hsame] at hstrip
    omega
  · intro hnone
    rw [unquotedAgain, Urllib.unquote_of_not_hasEscape hnone, String.ofList_toList, h]

section Query

variable {libs : Libraries} {tables : Urllib.Tables} {query : List (String × List String)}
  {name value : String}

theorem parameter_of_lookup (h : query.lookup name = some [value])
    (hlength : value.length ≤ maxFieldLength) :
    parameter (libs.withUrllib tables) query name false = .ok (unquotedAgain value) := by
  have hshort : ¬ maxFieldLength < (unquotedAgain value).length :=
    Nat.not_lt.mpr ((length_unquotedAgain_le value).trans hlength)
  rw [parameter, h, Option.getD_some, refuse_bind (by simp), refuse_bind]
  · rfl
  · exact hshort

theorem parameter_of_lookup_none (h : query.lookup name = none) :
    parameter (libs.withUrllib tables) query name false = .ok "" := by
  rw [parameter, h, Option.getD_none, refuse_bind (by simp), refuse_bind]
  · rfl
  · exact Nat.not_lt_zero _

end Query

/-! ## The outbound of a link -/

def tlsFields (serverName fingerprint : String) : Dict :=
  [("enabled", .bool true)] ++ optional "server_name" serverName ++ utls fingerprint ++ []

namespace VlessNode

variable (node : VlessNode)

/-- An outbound of the node with some texts of the query. -/
def fields (flow packetEncoding serverName fingerprint : String) : Dict :=
  vlessFields node.tag node.host (uuidString node.uuid) flow packetEncoding node.port
    [("tls", .dict (tlsFields serverName fingerprint))]

/-- The outbound that comes of a link. -/
def decoded : Dict :=
  node.fields (unquotedAgain node.flow) (unquotedAgain node.packetEncoding)
    (unquotedAgain node.serverName) (unquotedAgain node.fingerprint)

theorem outbound_eq : node.outbound =
    node.fields node.flow node.packetEncoding node.serverName node.fingerprint := by
  have hflow := (node.texts node.flow (by simp)).1
  have hpacket := (node.texts node.packetEncoding (by simp)).1
  have hname := (node.texts node.serverName (by simp)).1
  have hprint := (node.texts node.fingerprint (by simp)).1
  simp [outbound, fields, vlessFields, tlsFields, optional, utls, hflow, hpacket, hname, hprint]

variable {node} {flow packetEncoding serverName fingerprint : String}

theorem isNode_fields (hflow : flow.length ≤ maxFieldLength)
    (hpacket : packetEncoding.length ≤ maxFieldLength) (hname : serverName.length ≤ maxFieldLength)
    (hprint : fingerprint.length ≤ maxFieldLength) :
    IsNode "vless" node.tag (node.fields flow packetEncoding serverName fingerprint) := by
  have huuid := length_uuidText (uuidText_uuidString node.uuid_lt)
  exact (vlessFields_spec node.host ⟨node.tag_text.2, node.tag_text.1, node.tag_length⟩
    node.port_le huuid hflow hpacket (isPart_tls hname hprint (IsPart.nil.skip _))).1

end VlessNode

/-- The value of a field that may be left out. -/
def textField (text : String) : Option Tree := if text = "" then none else some (.str text)

theorem textField_inj {text other : String}
    (h : (textField text).map Tree.sorted = (textField other).map Tree.sorted) : text = other := by
  rw [textField, textField] at h
  split at h
  · split at h
    · rename_i htext hother
      rw [htext, hother]
    · cases h
  · split at h
    · cases h
    · cases h
      rfl

/-- Objects that are the same up to the order of their keys have the same values. -/
theorem get?_eq_of_sorted_eq {fields others : Dict} (hfields : (fields.map Prod.fst).Nodup)
    (hothers : (others.map Prod.fst).Nodup)
    (h : (Tree.dict fields).sorted = (Tree.dict others).sorted) (key : String) :
    (Value.Tree.get? fields key).map Tree.sorted =
      (Value.Tree.get? others key).map Tree.sorted := by
  rw [Tree.sorted, Tree.sorted, Tree.dict.injEq] at h
  rw [← Tree.get?_sorted hfields, ← Tree.get?_sorted hothers, h]

/-- Outbounds with the same content have the same values in both. -/
theorem get?_sorted_of_payload_eq {kind tag kind' tag' : String} {outbound other : Dict}
    (hnode : IsNode kind tag outbound) (hother : IsNode kind' tag' other)
    (h : singleNodePayload outbound = singleNodePayload other) (key : String) :
    (Value.Tree.get? outbound key).map Tree.sorted =
      (Value.Tree.get? other key).map Tree.sorted := by
  have htext := decodeUtf8Sig_payload outbound
  rw [h, decodeUtf8Sig_payload other, Option.some_inj, String.ofList_inj] at htext
  have hread := read_dumps (fun _ => none) (isPlain_documentOf hnode)
  rw [← htext, read_dumps _ (isPlain_documentOf hother), Option.some_inj, sorted_documentOf,
    sorted_documentOf] at hread
  apply get?_eq_of_sorted_eq hnode.nodup hother.nodup
  simpa [Tree.sorted] using hread.symm

section Texts

variable {node : VlessNode} {flow packetEncoding serverName fingerprint : String}

theorem get?_fields :
    Value.Tree.get? (node.fields flow packetEncoding serverName fingerprint) "flow" =
      textField flow ∧
    Value.Tree.get? (node.fields flow packetEncoding serverName fingerprint) "packet_encoding" =
      textField packetEncoding ∧
    Value.Tree.get? (node.fields flow packetEncoding serverName fingerprint) "tls" =
      some (.dict (tlsFields serverName fingerprint)) := by
  rw [VlessNode.fields, vlessFields, optional, optional, textField, textField]
  split <;> split <;> exact ⟨rfl, rfl, rfl⟩

theorem get?_tlsFields : Value.Tree.get? (tlsFields serverName fingerprint) "server_name" =
      textField serverName ∧
    Value.Tree.get? (tlsFields serverName fingerprint) "utls" =
      if fingerprint = "" then none
      else some (.dict [("enabled", .bool true), ("fingerprint", .str fingerprint)]) := by
  rw [tlsFields, optional, utls, textField]
  split <;> split <;> exact ⟨rfl, rfl⟩

theorem nodup_tlsFields : ((tlsFields serverName fingerprint).map Prod.fst).Nodup := by
  rw [tlsFields, optional, utls]
  split <;> split <;> simp

/-- The settings of TLS tell their texts. -/
theorem tlsFields_inj {otherName otherPrint : String}
    (h : (Tree.dict (tlsFields serverName fingerprint)).sorted =
      (Tree.dict (tlsFields otherName otherPrint)).sorted) :
    serverName = otherName ∧ fingerprint = otherPrint := by
  have hsame := get?_eq_of_sorted_eq nodup_tlsFields nodup_tlsFields h
  have hname := hsame "server_name"
  have hprint := hsame "utls"
  rw [get?_tlsFields.1, get?_tlsFields.1] at hname
  rw [get?_tlsFields.2, get?_tlsFields.2] at hprint
  refine ⟨textField_inj hname, ?_⟩
  split at hprint
  · split at hprint
    · rename_i hempty hother
      rw [hempty, hother]
    · cases hprint
  · split at hprint
    · cases hprint
    · rw [Option.map_some, Option.map_some, Option.some_inj] at hprint
      have htext := get?_eq_of_sorted_eq (by simp) (by simp) hprint "fingerprint"
      exact Tree.str.inj (Option.some.inj htext)

/-- Contents of one node with the same bytes have the same texts. -/
theorem texts_eq_of_payload_eq {flow' packetEncoding' serverName' fingerprint' : String}
    (hlengths : ∀ text ∈ [flow, packetEncoding, serverName, fingerprint],
      text.length ≤ maxFieldLength)
    (hlengths' : ∀ text ∈ [flow', packetEncoding', serverName', fingerprint'],
      text.length ≤ maxFieldLength)
    (h : singleNodePayload (node.fields flow packetEncoding serverName fingerprint) =
      singleNodePayload (node.fields flow' packetEncoding' serverName' fingerprint')) :
    flow = flow' ∧ packetEncoding = packetEncoding' ∧ serverName = serverName' ∧
      fingerprint = fingerprint' := by
  have hnode : IsNode "vless" node.tag (node.fields flow packetEncoding serverName fingerprint) :=
    VlessNode.isNode_fields (hlengths _ (by simp)) (hlengths _ (by simp)) (hlengths _ (by simp))
      (hlengths _ (by simp))
  have hother : IsNode "vless" node.tag
      (node.fields flow' packetEncoding' serverName' fingerprint') :=
    VlessNode.isNode_fields (hlengths' _ (by simp)) (hlengths' _ (by simp))
      (hlengths' _ (by simp)) (hlengths' _ (by simp))
  have hsame := get?_sorted_of_payload_eq hnode hother h
  have hflow := hsame "flow"
  have hpacket := hsame "packet_encoding"
  have htls := hsame "tls"
  rw [get?_fields.1, get?_fields.1] at hflow
  rw [get?_fields.2.1, get?_fields.2.1] at hpacket
  rw [get?_fields.2.2, get?_fields.2.2, Option.map_some, Option.map_some, Option.some_inj] at htls
  exact ⟨textField_inj hflow, textField_inj hpacket, tlsFields_inj htls⟩

end Texts

namespace VlessLink

variable (libs : Libraries) (tables : Urllib.Tables) (link : VlessLink)

/-- The values of the query by their names. -/
def groups : List (String × List String) := link.query.map fun field => (field.1, [field.2])

theorem parseQs_query : (libs.withUrllib tables).parseQs (nodeUrl tables link.parsed).query =
    some link.groups := by
  have hnodup : (link.query.map Prod.fst).Nodup := by
    rw [(link.perm.map Prod.fst).nodup_iff]
    simp [VlessNode.parameters]
  rw [groups, ← Urllib.parseQs_urlencode hnodup, Libraries.withUrllib, nodeUrl, parsed]
  simp only [String.toList_ofList]

theorem perm_groups :
    link.groups.Perm (link.node.parameters.map fun field => (field.1, [field.2])) :=
  link.perm.map _

theorem lookup_groups (name : String) : link.groups.lookup name =
    (link.node.parameters.map fun field => (field.1, [field.2])).lookup name := by
  apply lookup_eq_of_perm _ link.perm_groups
  rw [(link.perm_groups.map Prod.fst).nodup_iff]
  simp [VlessNode.parameters]

theorem vlessTag_parsed : vlessTag (libs.withUrllib tables) (nodeUrl tables link.parsed) =
    link.node.tag := by
  rw [vlessTag, Libraries.withUrllib, nodeUrl, parsed]
  simp only [String.toList_ofList, Urllib.unquote_quote, String.ofList_toList,
    link.node.tag_text.2]
  exact if_neg link.node.tag_text.1

theorem uuidText_parsed : uuidText ((libs.withUrllib tables).unquote
    ((nodeUrl tables link.parsed).username.getD "")) = some (uuidString link.node.uuid) := by
  have hnone : ¬ HasEscape (uuidString link.node.uuid).toList := by
    intro h
    exact absurd (isHostChar_of_mem_uuidString h.mem) (by decide)
  rw [Libraries.withUrllib, nodeUrl]
  simp only [link.username_parsed, Option.map_some, Option.getD_some, String.ofList_toList,
    Urllib.unquote_of_not_hasEscape hnone, uuidText_uuidString link.node.uuid_lt]

theorem vlessSecurity_groups :
    vlessSecurity (libs.withUrllib tables) link.groups = .ok "tls" := by
  have hencryption : link.groups.lookup "encryption" = none := link.lookup_groups _
  have hsecurity : link.groups.lookup "security" = some ["tls"] := link.lookup_groups _
  have htype : link.groups.lookup "type" = none := link.lookup_groups _
  have hkeep : unquotedAgain "tls" = "tls" := by decide
  rw [vlessSecurity, parameter_of_lookup_none hencryption, ok_bind, refuse_bind (by decide),
    parameter_of_lookup hsecurity (by decide), ok_bind, hkeep, refuse_bind (by decide),
    parameter_of_lookup_none htype, ok_bind, refuse_bind (by decide)]
  rfl

theorem vlessTls_groups : vlessTls (libs.withUrllib tables) link.groups "tls" =
    .ok [("tls", .dict (tlsFields (unquotedAgain link.node.serverName)
      (unquotedAgain link.node.fingerprint)))] := by
  have hname : link.groups.lookup "sni" = some [link.node.serverName] := link.lookup_groups _
  have hprint : link.groups.lookup "fp" = some [link.node.fingerprint] := link.lookup_groups _
  have hrequired : decide ("tls" = "reality") = false := by decide
  rw [vlessTls, if_neg (by decide), hrequired,
    parameter_of_lookup hname (link.node.lengths _ (by simp)), ok_bind,
    parameter_of_lookup hprint (link.node.lengths _ (by simp)), ok_bind, vlessReality,
    if_neg (by decide)]
  rfl

theorem vlessOutbound_text :
    vlessOutbound (libs.withUrllib tables) link.text = .ok link.node.decoded := by
  have hflow : link.groups.lookup "flow" = some [link.node.flow] := link.lookup_groups _
  have hpacket : link.groups.lookup "packetEncoding" = some [link.node.packetEncoding] :=
    link.lookup_groups _
  have hport : ¬ (link.node.port < 1 ∨ 65535 < link.node.port) := by
    have hlow := link.node.port_pos
    have hhigh := link.node.port_le
    omega
  have hhost : ¬ (link.node.host = "" ∨ link.node.host.toList.any isSpace = true) := by
    rw [link.strip_host.2]
    exact not_or.mpr ⟨link.node.host_ne, by decide⟩
  have hkeys : ¬ (link.groups.any fun f => decide (f.1 ∉ vlessKeys)) = true := by
    rw [link.perm_groups.any_eq]
    simp [VlessNode.parameters, vlessKeys]
  rw [vlessOutbound, link.vlessUrl_text, ok_bind]
  dsimp only
  rw [link.uuidText_parsed, orRefuse_some_bind, refuse_bind hport, link.hostOf_nodeUrl,
    link.strip_host.1, refuse_bind hhost, link.parseQs_query, orRefuse_some_bind,
    refuse_bind hkeys, link.vlessSecurity_groups, ok_bind, link.vlessTag_parsed,
    refuse_bind (Nat.not_lt.mpr link.node.tag_length),
    parameter_of_lookup hflow (link.node.lengths _ (by simp)), ok_bind,
    parameter_of_lookup hpacket (link.node.lengths _ (by simp)), ok_bind,
    link.vlessTls_groups, ok_bind]
  rfl

theorem singleNodeScheme_text : singleNodeScheme link.text = "vless" := by
  let isSchemeChar := fun c : Char => c.isAlphanum || c == '+' || c == '.' || c == '-'
  have hless : ∀ c ∈ "less".toList, isSchemeChar c = true :=
    List.all_eq_true.mp (show "less".toList.all isSchemeChar = true by decide)
  obtain ⟨rest, hrest⟩ : ∃ rest, link.text.toList =
      'v' :: ("less".toList ++ ':' :: ("//".toList ++ rest)) := by
    rw [text, VlessNode.linkText, String.toList_ofList]
    exact ⟨_, rfl⟩
  have hcolon : isSchemeChar ':' = false := by decide
  have hdrop := Urllib.dropWhile_append_cons hless hcolon ("//".toList ++ rest)
  have htake := Urllib.takeWhile_append_cons hless hcolon ("//".toList ++ rest)
  rw [singleNodeScheme, hrest, List.dropWhile_cons_of_neg (by decide)]
  dsimp only
  rw [hdrop, htake, if_pos ⟨by decide, List.prefix_append _ _⟩]
  decide

theorem normalizeSingleNode_text : normalizeSingleNode (libs.withUrllib tables) link.text =
    .ok (singleNodePayload link.node.decoded) := by
  have hspace : ∀ c ∈ link.text.toList, isSpace c = false := by
    intro c hc
    exact isSpace_of_isGraphic (link.isGraphic_of_mem_text hc)
  have hstrip : strip link.text = link.text := by
    rw [strip, trimBy_eq_self hspace, String.ofList_toList]
  have hne : link.text ≠ "" := by
    intro hempty
    have hscheme := link.singleNodeScheme_text
    rw [hempty] at hscheme
    exact absurd hscheme (by decide)
  have hfits := link.fits
  rw [← text] at hfits
  rw [normalizeSingleNode, hstrip, refuse_bind (not_or.mpr ⟨hne, Nat.not_lt.mpr hfits⟩),
    nodeOutbound, if_pos link.singleNodeScheme_text, link.vlessOutbound_text, ok_bind]
  rfl

/-- A link gives its node back if and only if each text of the query is the same when it is
unquoted again. -/
theorem decodesBack_iff_unquotedAgain : link.DecodesBack libs tables ↔
    ∀ text ∈ link.node.queryTexts, unquotedAgain text = text := by
  have hlengths : ∀ text ∈ [unquotedAgain link.node.flow, unquotedAgain link.node.packetEncoding,
      unquotedAgain link.node.serverName, unquotedAgain link.node.fingerprint],
      text.length ≤ maxFieldLength := by
    intro text htext
    obtain ⟨before, hbefore, rfl⟩ : ∃ before ∈ link.node.queryTexts,
        unquotedAgain before = text := by
      rw [← List.mem_map]
      exact htext
    exact (length_unquotedAgain_le before).trans (link.node.lengths before hbefore)
  rw [DecodesBack, link.normalizeSingleNode_text, Except.ok.injEq, VlessNode.outbound_eq,
    VlessNode.queryTexts]
  constructor
  · intro h
    obtain ⟨hflow, hpacket, hname, hprint⟩ :=
      texts_eq_of_payload_eq hlengths link.node.lengths h
    simp [hflow, hpacket, hname, hprint]
  · intro h
    rw [VlessNode.decoded, h _ (by simp), h _ (by simp), h _ (by simp), h _ (by simp)]

/-- A link gives back exactly the values of its node if and only if no text of the query has an
escape in it, since those are unquoted twice. -/
theorem decodesBack_iff : link.DecodesBack libs tables ↔
    ∀ text ∈ link.node.queryTexts, ¬ HasEscape text.toList := by
  rw [decodesBack_iff_unquotedAgain]
  apply forall₂_congr
  intro text htext
  exact unquotedAgain_eq_iff (link.node.texts text htext).2

end VlessLink

/-! ## A flow with an escape in it -/

/-- A node whose flow is the text of an escape. -/
def escapedNode : VlessNode where
  host := "a"
  port := 443
  uuid := 1
  tag := "b"
  flow := "%41"
  packetEncoding := "xudp"
  serverName := "c"
  fingerprint := "chrome"
  host_ne := by decide
  host_chars := by
    intro c hc
    have hletter : c = 'a' := by simpa using hc
    rw [hletter]
    rfl
  port_pos := by decide
  port_le := by omega
  uuid_lt := by decide
  tag_text := by decide
  tag_length := by decide
  texts := by decide
  lengths := by decide

def escapedLink : VlessLink where
  node := escapedNode
  query := escapedNode.parameters
  perm := .refl _
  fits := by decide

theorem not_decodesBack : ¬ ∃ libs tables, escapedLink.DecodesBack libs tables := by
  rintro ⟨libs, tables, h⟩
  rw [VlessLink.decodesBack_iff_unquotedAgain] at h
  have hflow := h "%41" (by decide)
  exact absurd hflow (by decide)

end Grouproxy.SingleNode
