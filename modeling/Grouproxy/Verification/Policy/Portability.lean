import Grouproxy.Model.Cidr
import Grouproxy.Verification.Policy.Resolution

/-! # Portable patterns

The backend normalizes a pattern with one address library and the monitor checks with
another that it is canonical. Host names always pass; an address passes unless it is
IPv4-mapped, and a network unless it is IPv4-mapped or has a scope.
-/

namespace Grouproxy.Cidr

open Text Netip Value Encoding Grouproxy.Bundle Policy Ipaddress

/-! ## Texts of addresses and networks -/

theorem addressText_eq_toString {a : Addr} (h : a.is4In6 = false) :
    String.ofList (addressText a) = a.toString := by
  cases a with
  | v4 n => simp [addressText, Addr.toString, Addr.bareText, Addr.zone, zoneText]
  | v6 n zone =>
      simp only [Addr.is4In6, beq_eq_false_iff_ne] at h
      simp only [addressText, Addr.toString, Addr.bareText, Addr.zone, if_neg h]

theorem parseAddr_addressText (a : Addr) : parseAddr (String.ofList (addressText a)) = some a := by
  cases a with
  | v4 n =>
      rw [addressText_eq_toString rfl]
      exact parseAddr_toString _
  | v6 n zone => exact parseAddr_groupsText n zone

theorem dot_notMem_groupsText (n : Nat) : '.' ∉ groupsText (groups n) := by
  intro h
  rcases mem_groupsText (fun g hg => lt_of_mem_groups hg) h with hc | hc
  · exact absurd hc (by decide)
  · exact absurd hc (by decide)

/-- An IPv4-mapped address is printed differently by the two libraries. -/
theorem addressText_ne_of_is4In6 {a : Addr} (h : a.is4In6 = true) :
    addressText a ≠ a.bareText ++ zoneText a.zone := by
  cases a with
  | v4 n => simp [Addr.is4In6] at h
  | v6 n zone =>
      simp only [Addr.is4In6, beq_iff_eq] at h
      intro heq
      simp only [addressText, Addr.bareText, Addr.zone, h, if_true, List.append_cancel_right_eq]
        at heq
      apply dot_notMem_groupsText n
      rw [heq]
      exact List.mem_append_right _ (dot_mem_ipv4Text n)

theorem isCanonicalSourceIP_addressText (a : Addr) :
    isCanonicalSourceIP (String.ofList (addressText a)) = !a.is4In6 := by
  rw [isCanonicalSourceIP]
  rw [parseAddr_addressText]
  cases h : a.is4In6 with
  | false => simp [addressText_eq_toString h]
  | true =>
      simp only [Bool.not_true, beq_eq_false_iff_ne]
      intro heq
      apply addressText_ne_of_is4In6 h
      rw [← String.ofList_injective heq]

/-- A network as `ip_network` returns it: no host bits, and a length that fits. -/
structure IsNetwork (p : Prefix) : Prop where
  bits : p.bits ≤ p.addr.bitLen
  mask : p.addr.zone = "" → p.masked = p

theorem parsePrefix_networkText (p : Prefix) (hb : p.bits ≤ p.addr.bitLen) :
    parsePrefix (String.ofList (Ipaddress.networkText p)) = if p.addr.zone = "" then some p else none := by
  have hall : ∀ c ∈ (Nat.toDigits 10 p.bits).reverse, decide (c ≠ '/') = true := fun c hc =>
    forall_ne_slash (slash_notMem_toDigits p.bits) c (List.mem_reverse.mp hc)
  have hrev : (Ipaddress.networkText p).reverse =
      (Nat.toDigits 10 p.bits).reverse ++ '/' :: (addressText p.addr).reverse := by
    simp [Ipaddress.networkText]
  rw [parsePrefix]
  rw [String.toList_ofList, hrev, List.takeWhile_append_of_pos hall,
    List.dropWhile_append_of_pos hall]
  by_cases hz : p.addr.zone = ""
  · simp [strictDecimal?_toDigits_aux p.bits (bits_lt_256 hb), parseAddr_addressText, hz, hb]
  · simp [strictDecimal?_toDigits_aux p.bits (bits_lt_256 hb), parseAddr_addressText, hz]

theorem networkText_eq_toString_iff (p : Prefix) :
    p.toString = String.ofList (Ipaddress.networkText p) ↔ p.addr.is4In6 = false := by
  constructor
  · intro heq
    by_contra h
    apply addressText_ne_of_is4In6 (by simpa using h)
    have hl := String.ofList_injective heq
    simp only [Addr.toString, String.toList_ofList, Ipaddress.networkText] at hl
    exact (List.append_cancel_right hl).symm
  · intro h
    rw [Prefix.toString, Ipaddress.networkText, ← addressText_eq_toString h, String.toList_ofList]

theorem isCanonicalSourceNetwork_networkText {p : Prefix} (hp : IsNetwork p) :
    isCanonicalSourceNetwork (String.ofList (Ipaddress.networkText p)) = true ↔
      p.addr.zone = "" ∧ p.addr.is4In6 = false := by
  rw [isCanonicalSourceNetwork]
  rw [parsePrefix_networkText p hp.bits]
  by_cases hz : p.addr.zone = ""
  · simp only [hz, if_true, Bool.and_eq_true, beq_iff_eq, hp.mask hz, true_and]
    exact networkText_eq_toString_iff p
  · simp [hz]

/-! ## Results of the readers -/

theorem mask_mask (a : Addr) (bits : Nat) : (a.mask bits).mask bits = a.mask bits := by
  cases a with
  | v4 n =>
      have hle : n.val / 2 ^ (32 - bits) * 2 ^ (32 - bits) < 2 ^ 32 :=
        lt_of_le_of_lt (Nat.div_mul_le_self _ _) n.isLt
      simp only [Addr.mask, Fin.val_ofNat, Nat.mod_eq_of_lt hle,
        Nat.mul_div_cancel _ (Nat.two_pow_pos _)]
  | v6 n zone =>
      have hle : n.val / 2 ^ (128 - bits) * 2 ^ (128 - bits) < 2 ^ 128 :=
        lt_of_le_of_lt (Nat.div_mul_le_self _ _) n.isLt
      simp only [Addr.mask, Fin.val_ofNat, Nat.mod_eq_of_lt hle,
        Nat.mul_div_cancel _ (Nat.two_pow_pos _)]

theorem isNetwork_networkOf {a : Addr} {bits : Nat} (hb : bits ≤ a.bitLen) :
    IsNetwork (networkOf a bits) := by
  cases a with
  | v4 n =>
      refine ⟨hb, fun _ => ?_⟩
      simp only [networkOf, Prefix.masked, mask_mask]
  | v6 n scope =>
      simp only [networkOf]
      split
      · rename_i hmask
        refine ⟨hb, fun hz => ?_⟩
        simp only [Addr.zone] at hz
        subst hz
        simp only [Prefix.masked, hmask]
      · refine ⟨hb, fun _ => ?_⟩
        simp only [Prefix.masked, mask_mask]

theorem prefixFromString_le {limit n : Nat} {cs : List Char}
    (h : prefixFromString limit cs = some n) : n ≤ limit := by
  rw [prefixFromString] at h
  split at h
  · split at h
    · cases h
      assumption
    · cases h
  · cases h

theorem prefixFromInt_le {m n : Nat} (h : prefixFromInt m = some n) : n ≤ 32 := by
  simp only [prefixFromInt] at h
  split at h
  · cases h
    exact Nat.sub_le _ _
  · cases h

theorem prefixFromMask_le {cs : List Char} {n : Nat} (h : prefixFromMask cs = some n) : n ≤ 32 := by
  rw [prefixFromMask] at h
  split at h
  · cases h
  · rw [Option.orElse_eq_some] at h
    rcases h with h | ⟨-, h⟩
    · exact prefixFromInt_le h
    · exact prefixFromInt_le h

theorem ipv4Address_bitLen {cs : List Char} {a : Addr} (h : ipv4Address cs = some a) :
    a.bitLen = 32 := by
  rw [ipv4Address] at h
  split at h
  · cases h
  · obtain ⟨n, -, rfl⟩ := Option.map_eq_some_iff.mp h
    rfl

theorem ipv6Address_bitLen {cs : List Char} {a : Addr} (h : ipv6Address cs = some a) :
    a.bitLen = 128 := by
  rw [ipv6Address] at h
  split at h
  · cases h
  · split at h
    · cases h
    · obtain ⟨n, -, rfl⟩ := Option.map_eq_some_iff.mp h
      rfl

theorem isNetwork_of_ipNetwork {s : String} {p : Prefix} (h : ipNetwork s = some p) :
    IsNetwork p := by
  rw [ipNetwork, Option.orElse_eq_some] at h
  rcases h with h | ⟨-, h⟩
  · unfold ipv4Network at h
    split at h
    · obtain ⟨a, ha, rfl⟩ := Option.map_eq_some_iff.mp h
      exact isNetwork_networkOf (ipv4Address_bitLen ha).ge
    · split at h
      · rename_i a bits ha hbits
        cases h
        apply isNetwork_networkOf
        rw [ipv4Address_bitLen ha]
        rw [Option.orElse_eq_some] at hbits
        rcases hbits with hbits | ⟨-, hbits⟩
        · exact prefixFromString_le hbits
        · exact prefixFromMask_le hbits
      · cases h
    · cases h
  · unfold ipv6Network at h
    split at h
    · obtain ⟨a, ha, rfl⟩ := Option.map_eq_some_iff.mp h
      exact isNetwork_networkOf (ipv6Address_bitLen ha).ge
    · split at h
      · rename_i a bits ha hbits
        cases h
        apply isNetwork_networkOf
        rw [ipv6Address_bitLen ha]
        exact prefixFromString_le hbits
      · cases h
    · cases h

theorem splitScopeId_spec {cs text : List Char} {scope : String}
    (h : splitScopeId cs = some (text, scope)) (hs : scope ≠ "") :
    cs = text ++ '%' :: scope.toList := by
  rw [splitScopeId] at h
  split at h
  · cases h
    exact absurd rfl hs
  · rename_i c rest hdrop
    split at h
    · cases h
    · cases h
      have hc : c = '%' := by
        have hhead := List.head?_dropWhile_not (fun c : Char => decide (c ≠ '%')) cs
        rw [hdrop] at hhead
        simpa using hhead
      have hparts := List.takeWhile_append_dropWhile (p := fun c => decide (c ≠ '%')) (l := cs)
      rw [hdrop, hc] at hparts
      rw [String.toList_ofList]
      exact hparts.symm

/-- The scope of an address is a suffix of its text. -/
theorem getLast?_scope {s : String} {a : Addr} (h : ipAddress s = some a) (hz : a.zone ≠ "") :
    s.toList.getLast? = a.zone.toList.getLast? := by
  rw [ipAddress, Option.orElse_eq_some] at h
  rcases h with h | ⟨-, h⟩
  · rw [ipv4Address] at h
    split at h
    · cases h
    · obtain ⟨n, -, rfl⟩ := Option.map_eq_some_iff.mp h
      exact absurd rfl hz
  · rw [ipv6Address] at h
    split at h
    · cases h
    · split at h
      · cases h
      · rename_i text scope hsplit
        obtain ⟨n, -, rfl⟩ := Option.map_eq_some_iff.mp h
        have hne : scope.toList ≠ [] := fun hnil => hz (String.toList_eq_nil_iff.mp hnil)
        rw [splitScopeId_spec hsplit hz, List.getLast?_append_of_ne_nil _ (by simp)]
        exact List.getLast?_cons_of_ne_nil hne

/-! ## Accepted patterns -/

/-- What the monitor asks of a pattern under its canonical kind. -/
structure AcceptedPattern (kind pattern : String) : Prop where
  nonempty : pattern ≠ ""
  trimmed : pattern = trimSpace pattern
  size : pattern.utf8ByteSize ≤ 512
  valid : validatePattern kind pattern = .ok ()

/-- A stored pattern that both address libraries print alike: no IPv4-mapped address, no
scope on a network, and a scope of bounded length on an address. -/
def isPortable (kind pattern : String) : Bool :=
  if kind = "ip" then
    (ipAddress (strip pattern)).all fun a =>
      !a.is4In6 && (String.ofList (addressText a)).utf8ByteSize ≤ 512
  else if kind = "cidr" then
    (ipNetwork (strip pattern)).all fun p => !p.addr.is4In6 && p.addr.zone == ""
  else true

theorem mem_addressText {a : Addr} {c : Char} (hz : a.zone = "") (h : c ∈ addressText a) :
    isHex c = true ∨ c = ':' ∨ c = '.' := by
  cases a with
  | v4 n =>
      rcases mem_ipv4Text h with hd | rfl
      · exact .inl (isHex_of_isDigit hd)
      · exact .inr (.inr rfl)
  | v6 n zone =>
      simp only [Addr.zone] at hz
      simp only [addressText, zoneText, hz, if_true, List.append_nil] at h
      rcases mem_groupsText (fun g hg => lt_of_mem_groups hg) h with hx | rfl
      · exact .inl hx
      · exact .inr (.inl rfl)

theorem length_joinGroups (gs : List Nat) : (joinGroups gs).length ≤ 5 * gs.length := by
  induction gs with
  | nil => simp [joinGroups]
  | cons g gs ih =>
      have hg := length_hexText_le g
      cases gs with
      | nil =>
          simp only [joinGroups, List.map_cons, List.map_nil, List.intercalate_singleton,
            List.length_singleton]
          omega
      | cons k gs =>
          rw [joinGroups_cons_cons, List.length_append, List.length_cons]
          simp only [List.length_cons] at ih ⊢
          omega

theorem length_groupsText (n : Nat) : (groupsText (groups n)).length ≤ 82 := by
  unfold groupsText
  simp only
  split
  · have hj := length_joinGroups (groups n)
    rw [length_groups] at hj
    omega
  · have hhigh := length_joinGroups ((groups n).take (longestZeroRun (groups n) 8).1)
    have hlow := length_joinGroups ((groups n).drop
      ((longestZeroRun (groups n) 8).1 + (longestZeroRun (groups n) 8).2))
    simp only [List.length_take, List.length_drop, length_groups] at hhigh hlow
    simp only [List.length_append, List.length_cons]
    omega

theorem length_ipv4Text (n : Nat) : (ipv4Text n).length ≤ 19 := by
  have h₁ := length_toDigits_octet (n / 2 ^ 24)
  have h₂ := length_toDigits_octet (n / 2 ^ 16)
  have h₃ := length_toDigits_octet (n / 2 ^ 8)
  have h₄ := length_toDigits_octet n
  simp only [ipv4Text, octets, List.map_cons, List.map_nil, List.intercalate_cons_cons,
    List.intercalate_singleton, List.length_append, List.length_singleton]
  omega

theorem length_addressText {a : Addr} (hz : a.zone = "") : (addressText a).length ≤ 82 := by
  cases a with
  | v4 n =>
      have h := length_ipv4Text n
      simp only [addressText]
      omega
  | v6 n zone =>
      simp only [Addr.zone] at hz
      simp only [addressText, zoneText, hz, if_true, List.append_nil]
      exact length_groupsText n

theorem length_toDigits_bits {p : Prefix} (hp : IsNetwork p) :
    (Nat.toDigits 10 p.bits).length ≤ 4 := by
  have h := length_toDigits_octet p.bits
  rwa [Nat.mod_eq_of_lt (bits_lt_256 hp.bits)] at h

/-- The text of a network without a scope is short, and holds no white space. -/
theorem networkText_shape {p : Prefix} (hp : IsNetwork p) (hz : p.addr.zone = "") :
    (String.ofList (Ipaddress.networkText p)).utf8ByteSize ≤ 512 ∧
      trimSpace (String.ofList (Ipaddress.networkText p)) =
        String.ofList (Ipaddress.networkText p) := by
  have hchar : ∀ c ∈ Ipaddress.networkText p, c.toNat < 128 ∧ Text.isSpace c = false := by
    intro c hc
    simp only [Ipaddress.networkText, List.mem_append, List.mem_cons] at hc
    rcases hc with hc | rfl | hc
    · rcases mem_addressText hz hc with hx | rfl | rfl
      · exact ⟨toNat_lt_of_isHex hx, isSpace_of_isHex hx⟩
      · decide
      · decide
    · decide
    · have hx := isHex_of_isDigit (Nat.isDigit_of_mem_toDigits (by decide) (by decide) hc)
      exact ⟨toNat_lt_of_isHex hx, isSpace_of_isHex hx⟩
  constructor
  · rw [utf8ByteSize_of_ascii fun c hc => (hchar c hc).1]
    have ha := length_addressText hz
    have hd := length_toDigits_bits hp
    simp only [Ipaddress.networkText, List.length_append, List.length_cons]
    omega
  · apply trimSpace_eq_self
    intro c hc
    rw [String.toList_ofList] at hc
    exact (hchar c hc).2

theorem isSpace_of_strip {s : String} : ∀ c ∈ (strip s).toList.getLast?, Text.isSpace c = false := by
  intro c hc
  rw [strip, String.toList_ofList] at hc
  have hspace := getLast?_trimBy c hc
  rw [Ipaddress.isSpace, Bool.or_eq_false_iff] at hspace
  exact hspace.1

/-- The text of a stored address starts and ends with a visible character. -/
theorem trimSpace_addressText {s : String} {a : Addr} (h : ipAddress (strip s) = some a) :
    trimSpace (String.ofList (addressText a)) = String.ofList (addressText a) := by
  by_cases hz : a.zone = ""
  · apply trimSpace_eq_self
    intro c hc
    rw [String.toList_ofList] at hc
    rcases mem_addressText hz hc with hx | rfl | rfl
    · exact isSpace_of_isHex hx
    · decide
    · decide
  · cases a with
    | v4 n => exact absurd rfl hz
    | v6 n zone =>
        have hscope := getLast?_scope h hz
        simp only [Addr.zone] at hz hscope
        have hne : zone.toList ≠ [] := fun hnil => hz (String.toList_eq_nil_iff.mp hnil)
        have hgroups : groupsText (groups n) ≠ [] := by
          intro hnil
          have hcolon := colon_mem_groupsText (length_groups n)
          rw [hnil] at hcolon
          cases hcolon
        rw [trimSpace, String.toList_ofList, trimBy_of_ends]
        · intro c hc
          rw [addressText, List.head?_append_of_ne_nil _ hgroups] at hc
          have hmem := List.mem_of_mem_head? hc
          rcases mem_groupsText (fun g hg => lt_of_mem_groups hg) hmem with hx | rfl
          · exact isSpace_of_isHex hx
          · decide
        · intro c hc
          simp only [addressText, zoneText, hz, if_false] at hc
          rw [List.getLast?_append_of_ne_nil _ (by simp), List.getLast?_cons_of_ne_nil hne,
            ← hscope] at hc
          exact isSpace_of_strip c hc

/-! ## Host names -/

theorem ofDigitChars_ge (cs : List Char) (acc : Nat) :
    acc * 10 ^ cs.length ≤ Nat.ofDigitChars 10 cs acc := by
  induction cs generalizing acc with
  | nil => simp
  | cons c cs ih =>
      rw [Nat.ofDigitChars_cons, List.length_cons, Nat.pow_succ]
      calc acc * (10 ^ cs.length * 10) = (10 * acc) * 10 ^ cs.length := by
            rw [Nat.mul_comm (10 ^ cs.length) 10, ← Nat.mul_assoc, Nat.mul_comm acc 10]
        _ ≤ (10 * acc + (c.toNat - '0'.toNat)) * 10 ^ cs.length :=
            Nat.mul_le_mul_right _ (Nat.le_add_right _ _)
        _ ≤ Nat.ofDigitChars 10 cs (10 * acc + (c.toNat - '0'.toNat)) := ih _

/-- A number of more than three digits without a leading zero does not fit an octet. -/
theorem length_le_of_octet {c : Char} {cs : List Char} (hd : c.isDigit = true) (hc : c ≠ '0')
    (hle : Nat.ofDigitChars 10 (c :: cs) 0 ≤ 255) : (c :: cs).length ≤ 3 := by
  by_contra hlong
  simp only [Char.isDigit, Bool.and_eq_true, decide_eq_true_eq, ge_iff_le,
    UInt32.le_iff_toNat_le] at hd
  have hlow : 48 ≤ c.toNat := hd.1
  have hne : c.toNat ≠ 48 := fun heq => hc (Char.toNat_inj.mp heq)
  have hz : '0'.toNat = 48 := rfl
  have hge := ofDigitChars_ge cs (10 * 0 + (c.toNat - '0'.toNat))
  rw [← Nat.ofDigitChars_cons] at hge
  have hpow : 10 ^ 3 ≤ 10 ^ cs.length :=
    Nat.pow_le_pow_right (by decide) (by simp only [List.length_cons] at hlong; omega)
  have hone : 1 * 10 ^ cs.length ≤ (10 * 0 + (c.toNat - '0'.toNat)) * 10 ^ cs.length :=
    Nat.mul_le_mul_right _ (by omega)
  omega

theorem parseOctet_netip_spec {cs : List Char} {n : Nat} (h : Netip.parseOctet cs = some n) :
    cs ≠ [] ∧ cs.all Char.isDigit = true ∧ (cs.length = 1 ∨ cs.head? ≠ some '0') ∧ n ≤ 255 ∧
      n = Nat.ofDigitChars 10 cs 0 := by
  unfold Netip.parseOctet strictDecimal? at h
  by_cases hs : cs.length = 1 ∨ cs.head? ≠ some '0'
  · by_cases hd : cs ≠ [] ∧ cs.all Char.isDigit = true
    · simp only [hs, if_true, decimal?, hd, ne_eq, not_false_eq_true, and_self] at h
      split at h
      · cases h
        exact ⟨hd.1, hd.2, hs, by assumption, rfl⟩
      · cases h
    · simp only [hs, if_true, decimal?, hd, if_false] at h
      cases h
  · simp only [hs, if_false] at h
    cases h

/-- What the monitor reads as an octet, the backend does too. -/
theorem parseOctet_of_netip {cs : List Char} {n : Nat} (h : Netip.parseOctet cs = some n) :
    Ipaddress.parseOctet cs = some n := by
  obtain ⟨hne, hdigits, hstrict, hle, rfl⟩ := parseOctet_netip_spec h
  cases cs with
  | nil => exact absurd rfl hne
  | cons c cs =>
      have hzero : ¬ (c :: cs ≠ ['0'] ∧ (c :: cs).head? = some '0') := by
        rintro ⟨hne', hhead⟩
        rcases hstrict with hone | hno
        · simp only [List.length_cons, Nat.add_eq_right, List.length_eq_zero_iff] at hone
          subst hone
          simp only [List.head?_cons, Option.some.injEq] at hhead
          exact hne' (by rw [hhead])
        · exact hno hhead
      have hlen : (c :: cs).length ≤ 3 := by
        by_cases hc : c = '0'
        · rcases hstrict with hone | hno
          · omega
          · exact absurd (by rw [hc]; rfl) hno
        · exact length_le_of_octet (List.all_eq_true.mp hdigits c (by simp)) hc hle
      have hcond : ¬ (c :: cs = [] ∨ ¬ (c :: cs).all Char.isDigit = true ∨
          3 < (c :: cs).length ∨ (c :: cs ≠ ['0'] ∧ (c :: cs).head? = some '0')) := by
        rintro (h | h | h | h)
        · cases h
        · exact h hdigits
        · omega
        · exact hzero h
      rw [Ipaddress.parseOctet, if_neg hcond, if_neg (by omega)]

theorem ipv4Int?_of_netip {cs : List Char} {n : Nat} (h : parseIPv4Fields cs = some n) :
    ipv4Int? cs = some n := by
  rw [parseIPv4Fields] at h
  split at h
  · rename_i f₁ f₂ f₃ f₄ hsplit
    split at h
    · rename_i n₁ n₂ n₃ n₄ h₁ h₂ h₃ h₄
      cases h
      simp [ipv4Int?, hsplit, parseOctet_of_netip h₁, parseOctet_of_netip h₂,
        parseOctet_of_netip h₃, parseOctet_of_netip h₄]
    · cases h
  · cases h

theorem toNat_of_isLowerAlnum {c : Char} (h : isLowerAlnum c = true) :
    (97 ≤ c.toNat ∧ c.toNat ≤ 122) ∨ (48 ≤ c.toNat ∧ c.toNat ≤ 57) := by
  simp only [isLowerAlnum, Bool.or_eq_true, Bool.and_eq_true, decide_eq_true_eq, Char.le_def,
    UInt32.le_iff_toNat_le] at h
  exact h

theorem not_isLowerAlnum_hyphen : isLowerAlnum '-' = false := by decide

/-- The regular expression of a label matches only what the monitor takes as a label. -/
theorem isCanonicalHostnameLabel_of_isHostnameLabel {label : List Char}
    (h : isHostnameLabel label = true) : isCanonicalHostnameLabel label = true := by
  cases label with
  | nil => cases h
  | cons c rest =>
      simp only [isHostnameLabel, Bool.and_eq_true, Bool.or_eq_true, List.isEmpty_iff] at h
      obtain ⟨hc, hrest⟩ := h
      have hhead : c ≠ '-' := by
        intro hsame
        subst hsame
        rw [not_isLowerAlnum_hyphen] at hc
        cases hc
      have hchar : ∀ d, isLowerAlnum d = true → (('a' ≤ d && d ≤ 'z') || ('0' ≤ d && d ≤ '9') ||
          d == '-') = true := by
        intro d hd
        rw [Bool.or_eq_true]
        exact .inl hd
      rcases List.eq_nil_or_concat' rest with rfl | ⟨middle, last, rfl⟩
      · simp [isCanonicalHostnameLabel, hchar c hc, hhead]
      · have hne : middle ++ [last] ≠ [] := by simp
        simp only [hne, false_or, List.length_append, List.length_singleton, decide_eq_true_eq,
          List.dropLast_concat, List.getLast?_concat, Option.any_some, List.all_eq_true] at hrest
        obtain ⟨⟨hlen, hmiddle⟩, hlast⟩ := hrest
        have hlastne : last ≠ '-' := by
          intro hsame
          subst hsame
          rw [not_isLowerAlnum_hyphen] at hlast
          cases hlast
        have hall : ∀ d ∈ c :: (middle ++ [last]), (('a' ≤ d && d ≤ 'z') ||
            ('0' ≤ d && d ≤ '9') || d == '-') = true := by
          intro d hd
          simp only [List.mem_cons, List.mem_append, List.not_mem_nil, or_false] at hd
          rcases hd with rfl | hd | rfl
          · exact hchar d hc
          · exact hmiddle d hd
          · exact hchar d hlast
        simp only [isCanonicalHostnameLabel, Bool.and_eq_true, decide_eq_true_eq,
          List.all_eq_true, bne_iff_ne]
        refine ⟨⟨⟨⟨by simp, ?_⟩, hall⟩, by simpa using hhead⟩, ?_⟩
        · simp only [List.length_cons, List.length_append, List.length_nil]
          omega
        · rw [← List.cons_append, List.getLast?_concat]
          simpa using hlastne

theorem isNumericAddressLabel_of_monitor {label : List Char}
    (h : Bundle.isNumericAddressLabel label = true) : isNumericAddressLabel label = true := by
  rw [Bundle.isNumericAddressLabel] at h
  split at h
  · rename_i hx
    have hne : (label.drop 2).isEmpty = false := by
      rw [List.isEmpty_eq_false_iff_exists_mem]
      have hlen : 0 < (label.drop 2).length := by
        rw [List.length_drop]
        omega
      exact List.exists_mem_of_length_pos hlen
    simp only [isNumericAddressLabel, hx.1, hne, h, beq_self_eq_true, Bool.not_false,
      Bool.and_self, Bool.true_or]
  · rw [Bool.and_eq_true] at h
    have hne : label.isEmpty = false := by simpa using h.2
    simp only [isNumericAddressLabel, hne, h.1, Bool.not_false, Bool.and_self, Bool.or_true]

theorem mem_of_isHostnameLabel {label : List Char} (h : isHostnameLabel label = true) :
    ∀ c ∈ label, isLowerAlnum c = true ∨ c = '-' := by
  intro c hc
  have hcanonical := isCanonicalHostnameLabel_of_isHostnameLabel h
  simp only [isCanonicalHostnameLabel, Bool.and_eq_true, List.all_eq_true] at hcanonical
  have hchar := hcanonical.1.1.2 c hc
  rw [Bool.or_eq_true, beq_iff_eq] at hchar
  exact hchar

/-- The characters of a name whose labels all match. -/
theorem mem_of_hostnameLabels {pattern : List Char}
    (h : ∀ label ∈ pattern.splitOn '.', isHostnameLabel label = true) {c : Char}
    (hc : c ∈ pattern) :
    (97 ≤ c.toNat ∧ c.toNat ≤ 122) ∨ (48 ≤ c.toNat ∧ c.toNat ≤ 57) ∨ c = '-' ∨ c = '.' := by
  rcases eq_or_mem_of_splitOn '.' hc with hdot | ⟨label, hlabel, hc⟩
  · exact .inr (.inr (.inr hdot))
  · rcases mem_of_isHostnameLabel (h label hlabel) c hc with halnum | hhyphen
    · rcases toNat_of_isLowerAlnum halnum with hn | hn
      · exact .inl hn
      · exact .inr (.inl hn)
    · exact .inr (.inr (.inl hhyphen))

section Labels

variable {pattern : List Char} (h : ∀ label ∈ pattern.splitOn '.', isHostnameLabel label = true)
include h

theorem toNat_lt_of_hostnameLabels {c : Char} (hc : c ∈ pattern) : c.toNat < 128 := by
  rcases mem_of_hostnameLabels h hc with hn | hn | rfl | rfl
  · omega
  · omega
  · decide
  · decide

theorem toLower_of_hostnameLabels : toLower (String.ofList pattern) = String.ofList pattern := by
  have hlower : ∀ n < 128, ¬ (65 ≤ n ∧ n ≤ 90) → lowerChar (Char.ofNat n) = Char.ofNat n := by
    decide
  have hchar : ∀ c ∈ pattern, lowerChar c = id c := by
    intro c hc
    have hupper : ¬ (65 ≤ c.toNat ∧ c.toNat ≤ 90) := by
      rcases mem_of_hostnameLabels h hc with hn | hn | rfl | rfl
      · omega
      · omega
      · decide
      · decide
    have hself := hlower c.toNat (toNat_lt_of_hostnameLabels h hc) hupper
    rwa [Char.ofNat_toNat] at hself
  rw [Text.toLower, String.toList_ofList, List.map_congr_left hchar, List.map_id]

/-- What the monitor reads as an address the backend reads as one. -/
theorem parseAddr_of_hostnameLabels (haddress : ipAddress (String.ofList pattern) = none) :
    Netip.parseAddr (String.ofList pattern) = none := by
  by_contra hsome
  obtain ⟨a, ha⟩ := Option.ne_none_iff_exists'.mp hsome
  have hseparator : ∀ c ∈ pattern, c ≠ ':' ∧ c ≠ '%' := by
    intro c hc
    refine ⟨?_, ?_⟩
    · intro hsame
      subst hsame
      exact absurd (mem_of_hostnameLabels h hc) (by decide)
    · intro hsame
      subst hsame
      exact absurd (mem_of_hostnameLabels h hc) (by decide)
  rw [Netip.parseAddr] at ha
  rw [String.toList_ofList] at ha
  split at ha
  · obtain ⟨n, hn, -⟩ := Option.map_eq_some_iff.mp ha
    have hslash : '/' ∉ pattern := fun hc => absurd (mem_of_hostnameLabels h hc) (by decide)
    have hpython : ipAddress (String.ofList pattern) = some (.v4 (Fin.ofNat _ n)) := by
      simp [ipAddress, ipv4Address, String.toList_ofList, hslash, ipv4Int?_of_netip hn]
    rw [haddress] at hpython
    cases hpython
  · rename_i hfind
    exact (hseparator ':' (List.mem_of_find?_eq_some hfind)).1 rfl
  · cases ha

end Labels

/-- What the checks of a host name leave over. -/
structure IsHostname (pattern : List Char) : Prop where
  ne_nil : pattern ≠ []
  length : pattern.length ≤ 253
  notAddress : ipAddress (String.ofList pattern) = none
  labels : ∀ label ∈ pattern.splitOn '.', isHostnameLabel label = true
  notNumeric : (pattern.splitOn '.').all isNumericAddressLabel = false

theorem isHostname_of_checkHostname {pattern : List Char} {p : String}
    (h : checkHostname pattern = .ok p) : IsHostname pattern ∧ p = String.ofList pattern := by
  rw [checkHostname] at h
  split at h
  · cases h
  · rename_i hshape
    split at h
    · cases h
    · rename_i haddress
      split at h
      · cases h
      · rename_i hlabels
        split at h
        · cases h
        · rename_i hnumeric
          cases h
          rw [not_or] at hshape
          refine ⟨⟨hshape.1, by omega, by simpa using haddress, ?_, by simpa using hnumeric⟩, rfl⟩
          simpa [List.all_eq_true] using hlabels

section Hostname

variable {pattern : List Char} (h : IsHostname pattern)
include h

theorem IsHostname.utf8ByteSize : (String.ofList pattern).utf8ByteSize ≤ 253 := by
  rw [utf8ByteSize_of_ascii fun c hc => toNat_lt_of_hostnameLabels h.labels hc]
  exact h.length

theorem IsHostname.toLower : toLower (String.ofList pattern) = String.ofList pattern :=
  toLower_of_hostnameLabels h.labels

theorem IsHostname.getLast? : pattern.getLast? ≠ some '.' := by
  intro hlast
  obtain ⟨init, rfl⟩ := List.getLast?_eq_some_iff.mp hlast
  have hsplit := List.splitOn_append_cons_self (a := '.') init []
  have hlabel := h.labels [] (by rw [hsplit]; simp)
  cases hlabel

theorem IsHostname.parseAddr : Netip.parseAddr (String.ofList pattern) = none :=
  parseAddr_of_hostnameLabels h.labels h.notAddress

/-- A name that the backend normalized is canonical for the monitor. -/
theorem IsHostname.isCanonical : isCanonicalSourceDomain (String.ofList pattern) = true := by
  have hshape : ¬ (String.ofList pattern = "" ∨ 253 < (String.ofList pattern).utf8ByteSize ∨
      String.ofList pattern ≠ Text.toLower (String.ofList pattern) ∨
      (String.ofList pattern).toList.getLast? = some '.') := by
    rintro (hempty | hsize | hlower | hlast)
    · exact h.ne_nil (String.ofList_eq_empty_iff.mp hempty)
    · exact absurd h.utf8ByteSize (by omega)
    · exact hlower h.toLower.symm
    · rw [String.toList_ofList] at hlast
      exact h.getLast? hlast
  rw [isCanonicalSourceDomain]
  rw [if_neg hshape, h.parseAddr]
  simp only [String.toList_ofList, Option.isSome_none, Bool.false_eq_true, if_false,
    Bool.and_eq_true, List.all_eq_true, Bool.not_eq_true']
  refine ⟨fun label hlabel => isCanonicalHostnameLabel_of_isHostnameLabel (h.labels label hlabel),
    ?_⟩
  by_contra hall
  rw [Bool.not_eq_false, List.all_eq_true] at hall
  have hnumeric := h.notNumeric
  rw [List.all_eq_true.mpr fun label hlabel =>
    isNumericAddressLabel_of_monitor (hall label hlabel)] at hnumeric
  cases hnumeric

theorem IsHostname.accepted : AcceptedPattern "domain" (String.ofList pattern) := by
  have hne : String.ofList pattern ≠ "" := fun hempty =>
    h.ne_nil (String.ofList_eq_empty_iff.mp hempty)
  refine ⟨hne, (trimSpace_domain h.isCanonical).1.symm, ?_, ?_⟩
  · have hsize := h.utf8ByteSize
    omega
  · simp [validatePattern, h.isCanonical]

end Hostname

/-! ## Portable patterns -/

theorem acceptedPattern_ip {s : String} {a : Addr} (h : ipAddress (strip s) = some a) :
    AcceptedPattern "ip" (String.ofList (addressText a)) ↔
      a.is4In6 = false ∧ (String.ofList (addressText a)).utf8ByteSize ≤ 512 := by
  constructor
  · intro haccepted
    refine ⟨?_, haccepted.size⟩
    have hvalid := haccepted.valid
    by_contra hmapped
    simp [validatePattern, isCanonicalSourceIP_addressText, hmapped] at hvalid
  · rintro ⟨hmapped, hsize⟩
    refine ⟨?_, (trimSpace_addressText h).symm, hsize, ?_⟩
    · rw [addressText_eq_toString hmapped]
      exact addrText_ne_empty a
    · simp [validatePattern, isCanonicalSourceIP_addressText, hmapped]

theorem acceptedPattern_cidr {s : String} {p : Prefix} (h : ipNetwork s = some p) :
    AcceptedPattern "cidr" (String.ofList (Ipaddress.networkText p)) ↔
      p.addr.is4In6 = false ∧ p.addr.zone = "" := by
  have hp := isNetwork_of_ipNetwork h
  constructor
  · intro haccepted
    have hcanonical : isCanonicalSourceNetwork (String.ofList (Ipaddress.networkText p)) = true := by
      by_contra hno
      have hvalid := haccepted.valid
      simp [validatePattern, hno] at hvalid
    exact ((isCanonicalSourceNetwork_networkText hp).mp hcanonical).symm
  · rintro ⟨hmapped, hz⟩
    obtain ⟨hsize, htrim⟩ := networkText_shape hp hz
    refine ⟨?_, htrim.symm, hsize, ?_⟩
    · rw [← (networkText_eq_toString_iff p).mpr hmapped]
      exact prefixText_ne_empty p
    · have hcanonical := (isCanonicalSourceNetwork_networkText hp).mpr ⟨hz, hmapped⟩
      simp [validatePattern, hcanonical]

theorem acceptedPattern_domain {value p : String} (h : normalizeSourceDomain value = .ok p) :
    AcceptedPattern "domain" p := by
  rw [normalizeSourceDomain] at h
  split at h
  · cases h
  · split at h
    · cases h
    · obtain ⟨hhostname, rfl⟩ := isHostname_of_checkHostname h
      exact hhostname.accepted

theorem canonicalizeKind_ok {kind k : String} (h : canonicalizeKind kind = .ok k) :
    k = Bundle.canonicalKind kind ∧ (k = "ip" ∨ k = "cidr" ∨ k = "domain") := by
  rw [canonicalizeKind] at h
  split at h
  · rename_i hk
    cases h
    exact ⟨by rw [hk]; rfl, .inr (.inl rfl)⟩
  · rename_i hk
    split at h
    · rename_i hcases
      cases h
      exact ⟨by simp [Bundle.canonicalKind, hk], hcases⟩
    · cases h

/-- The monitor accepts what the backend normalizes exactly if the stored pattern is
portable. -/
theorem acceptedPattern_iff_isPortable {kind pattern p : String}
    (hk : kind = "ip" ∨ kind = "cidr" ∨ kind = "domain")
    (h : normalizeSourceBlacklistPattern kind pattern = .ok p) :
    AcceptedPattern kind p ↔ isPortable kind pattern = true := by
  have hself : canonicalizeKind kind = .ok kind := by
    have hne : kind ≠ "network" := by
      rcases hk with rfl | rfl | rfl
      · decide
      · decide
      · decide
    simp [canonicalizeKind, hne, hk]
  rw [normalizeSourceBlacklistPattern] at h
  split at h
  · cases h
  · simp only [hself] at h
    rcases hk with rfl | rfl | rfl
    · simp only [if_true, normalizeSourceIp] at h
      split at h
      · rename_i a ha
        cases h
        rw [acceptedPattern_ip ha]
        simp [isPortable, ha]
      · cases h
    · simp only [if_true, normalizeCidr] at h
      rw [if_neg (by decide)] at h
      split at h
      · rename_i q hq
        cases h
        rw [acceptedPattern_cidr hq]
        simp [isPortable, hq]
      · cases h
    · rw [if_neg (by decide), if_neg (by decide)] at h
      exact iff_of_true (acceptedPattern_domain h) (by simp [isPortable])

end Grouproxy.Cidr
