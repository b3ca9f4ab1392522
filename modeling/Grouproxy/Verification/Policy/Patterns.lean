import Grouproxy.Model.Enforcement

/-! # Canonical patterns

What a pattern that passed validation denotes, and the texts the two renderers make of it.
The check reads patterns with `net/netip`, the renderers with `net`: they agree on every
pattern except an address with a zone.
-/

namespace Grouproxy.Policy

open Text Netip Value Grouproxy.Bundle

/-! ## Canonical texts -/

theorem isCanonicalSourceIP_iff {pattern : String} :
    isCanonicalSourceIP pattern = true ↔ ∃ a : Addr, pattern = a.toString := by
  constructor
  · intro h
    rw [isCanonicalSourceIP] at h
    split at h
    · rename_i a _
      exact ⟨a, (beq_iff_eq.mp h).symm⟩
    · cases h
  · rintro ⟨a, rfl⟩
    simp [isCanonicalSourceIP, parseAddr_toString]

/-- A prefix without a zone and without host bits. -/
structure CanonicalPrefix (p : Prefix) : Prop where
  zone : p.addr.zone = ""
  bits : p.bits ≤ p.addr.bitLen
  masked : p.masked = p

theorem isCanonicalSourceNetwork_iff {pattern : String} :
    isCanonicalSourceNetwork pattern = true ↔ ∃ p, CanonicalPrefix p ∧ pattern = p.toString := by
  constructor
  · intro h
    rw [isCanonicalSourceNetwork] at h
    split at h
    · rename_i p hp
      rw [Bool.and_eq_true, beq_iff_eq, beq_iff_eq] at h
      obtain ⟨hz, hb⟩ := parsePrefix_bits_le hp
      exact ⟨p, ⟨hz, hb, h.1⟩, h.2.symm⟩
    · cases h
  · rintro ⟨p, hp, rfl⟩
    simp [isCanonicalSourceNetwork, parsePrefix_toString hp.zone hp.bits, hp.masked]

theorem percent_mem_toString_iff (a : Addr) : '%' ∈ a.toString.toList ↔ a.zone ≠ "" := by
  by_cases hz : a.zone = ""
  · simp [toList_toString_of_zone hz, percent_notMem_bareText, hz]
  · simp [Addr.toString, zoneText, hz]

theorem isSpace_of_mem_addrText {a : Addr} (hz : a.zone = "") {c : Char}
    (hc : c ∈ a.toString.toList) : isSpace c = false := by
  rw [toList_toString_of_zone hz] at hc
  exact isSpace_of_mem_bareText hc

theorem trimSpace_addrText {a : Addr} (hz : a.zone = "") : trimSpace a.toString = a.toString :=
  trimSpace_eq_self fun _ hc => isSpace_of_mem_addrText hz hc

theorem isSpace_of_mem_prefixText {p : Prefix} (hz : p.addr.zone = "") {c : Char}
    (hc : c ∈ p.toString.toList) : isSpace c = false := by
  simp only [Prefix.toString, String.toList_ofList, List.mem_append, List.mem_cons] at hc
  rcases hc with hc | rfl | hc
  · exact isSpace_of_mem_addrText hz hc
  · decide
  · exact isSpace_of_isDigit (Nat.isDigit_of_mem_toDigits (by decide) (by decide) hc)

theorem trimSpace_prefixText {p : Prefix} (hz : p.addr.zone = "") :
    trimSpace p.toString = p.toString :=
  trimSpace_eq_self fun _ hc => isSpace_of_mem_prefixText hz hc

theorem addrText_ne_empty (a : Addr) : a.toString ≠ "" := by
  intro h
  have hp := parseAddr_toString a
  rw [h] at hp
  cases hp

theorem prefixText_ne_empty (p : Prefix) : p.toString ≠ "" := by
  intro h
  have hl : p.toString.toList = [] := by rw [h]; rfl
  simp [Prefix.toString] at hl

/-- The text of a prefix is not the text of an address. -/
theorem parseIP_prefixText (p : Prefix) : parseIP p.toString = none := by
  rw [parseIP]
  split
  · rename_i a ha
    split
    · rename_i hz
      have hslash : '/' ∈ p.toString.toList := by simp [Prefix.toString]
      rcases isAddrChar_of_parseAddr ha hz '/' hslash with h | h | h
      · exact absurd h (by decide)
      · exact absurd h (by decide)
      · exact absurd h (by decide)
    · rfl
  · rfl

theorem isSpace_of_isCanonicalHostnameLabel {label : List Char}
    (h : isCanonicalHostnameLabel label = true) : ∀ c ∈ label, isSpace c = false := by
  intro c hc
  simp only [isCanonicalHostnameLabel, Bool.and_eq_true] at h
  have hchar := List.all_eq_true.mp h.1.1.2 c hc
  simp only [Bool.or_eq_true, Bool.and_eq_true, decide_eq_true_eq, beq_iff_eq, Char.le_def,
    UInt32.le_iff_toNat_le] at hchar
  have hn : (97 ≤ c.toNat ∧ c.toNat ≤ 122) ∨ (48 ≤ c.toNat ∧ c.toNat ≤ 57) ∨ c.toNat = 45 := by
    rcases hchar with (hc | hc) | rfl
    · exact .inl hc
    · exact .inr (.inl hc)
    · exact .inr (.inr rfl)
  simp only [isSpace, Bool.or_eq_false_iff, Bool.and_eq_false_iff, decide_eq_false_iff_not,
    beq_eq_false_iff_ne]
  omega

theorem trimSpace_domain {pattern : String} (h : isCanonicalSourceDomain pattern = true) :
    trimSpace pattern = pattern ∧ pattern ≠ "" := by
  rw [isCanonicalSourceDomain] at h
  split at h
  · cases h
  · rename_i hshape
    split at h
    · cases h
    · refine ⟨?_, fun hempty => hshape (.inl hempty)⟩
      apply trimSpace_eq_self
      intro c hc
      rcases eq_or_mem_of_splitOn '.' hc with rfl | ⟨label, hlabel, hc⟩
      · decide
      · rw [Bool.and_eq_true] at h
        exact isSpace_of_isCanonicalHostnameLabel (List.all_eq_true.mp h.1 label hlabel) c hc

/-! ## What a pattern denotes -/

theorem unmap_addr (p : Prefix) : p.unmap.addr = p.addr.unmap := by
  rw [Prefix.unmap]
  split
  · rfl
  · rename_i h
    exact (unmap_of_not_is4In6 (by simpa using h)).symm

theorem denotes_ip {a b : Addr} : Denotes "ip" b.toString a ↔ b.unmap = a := by
  simp [Denotes, parseAddr_toString]

theorem denotes_cidr {p : Prefix} (hp : CanonicalPrefix p) {a : Addr} :
    Denotes "cidr" p.toString a ↔ p.unmap.contains a = true := by
  simp [Denotes, parsePrefix_toString hp.zone hp.bits]

/-! ## The text in the route -/

theorem normalizeSourceCIDR_ip {a : Addr} (hz : a.zone = "") :
    normalizeSourceCIDR a.toString = a.unmap.toString := by
  simp [normalizeSourceCIDR, trimSpace_addrText hz, parseIP_toString hz]

theorem normalizeSourceCIDR_cidr {p : Prefix} (hp : CanonicalPrefix p) :
    normalizeSourceCIDR p.toString = p.unmap.toString := by
  simp [normalizeSourceCIDR, trimSpace_prefixText hp.zone, parseIP_prefixText,
    parseCIDR_toString hp.zone hp.bits, hp.masked, networkText]

theorem matchesText_unmap {p : Prefix} (hp : CanonicalPrefix p) (a : Addr) :
    matchesText p.unmap.toString a = p.unmap.contains a :=
  matchesText_prefix (unmap_addr_zone hp.zone) (unmap_bits_le hp.bits) a

/-- An accepted address pattern without a zone: an address or a canonical prefix. -/
theorem address_cases {kind pattern : String} (hk : kind = "ip" ∨ kind = "cidr")
    (hv : validatePattern kind pattern = .ok ()) (hu : kind = "ip" → '%' ∉ pattern.toList) :
    (kind = "ip" ∧ ∃ a : Addr, a.zone = "" ∧ pattern = a.toString) ∨
      (kind = "cidr" ∧ ∃ p, CanonicalPrefix p ∧ pattern = p.toString) := by
  rcases hk with rfl | rfl
  · left
    have hc : isCanonicalSourceIP pattern = true := by
      by_contra h
      simp [validatePattern, h] at hv
    obtain ⟨a, rfl⟩ := isCanonicalSourceIP_iff.mp hc
    refine ⟨rfl, a, ?_, rfl⟩
    by_contra hz
    exact hu rfl ((percent_mem_toString_iff a).mpr hz)
  · right
    have hc : isCanonicalSourceNetwork pattern = true := by
      by_contra h
      simp [validatePattern, h] at hv
    exact ⟨rfl, isCanonicalSourceNetwork_iff.mp hc⟩

/-- The text in the route matches exactly the addresses that the pattern denotes. -/
theorem matchesText_normalizeSourceCIDR {kind pattern : String} (hk : kind = "ip" ∨ kind = "cidr")
    (hv : validatePattern kind pattern = .ok ()) (hu : kind = "ip" → '%' ∉ pattern.toList)
    (a : Addr) : matchesText (normalizeSourceCIDR pattern) a = true ↔ Denotes kind pattern a := by
  rcases address_cases hk hv hu with ⟨rfl, b, hz, rfl⟩ | ⟨rfl, p, hp, rfl⟩
  · rw [normalizeSourceCIDR_ip hz, matchesText_addr (unmap_zone hz), beq_iff_eq, denotes_ip]
  · rw [normalizeSourceCIDR_cidr hp, matchesText_unmap hp, denotes_cidr hp]

/-! ## The line of the firewall -/

theorem contains_family {p : Prefix} {a : Addr} (h : p.contains a = true) :
    familyText p.addr = familyText a := by
  obtain ⟨b, bits⟩ := p
  cases b with
  | v4 n =>
      cases a with
      | v4 m => rfl
      | v6 m zone => simp [Prefix.contains] at h
  | v6 n z =>
      cases a with
      | v4 m => simp [Prefix.contains] at h
      | v6 m zone => rfl

theorem normalizeSourceRule_ip {rule : SourceRule} (hk : rule.kind = "ip") {a : Addr}
    (hz : a.zone = "") (hp : rule.pattern = a.toString) :
    normalizeSourceRule rule = some (familyText a.unmap, a.unmap.toString) := by
  have hkind : toLower (trimSpace "ip") = "ip" := by decide
  simp only [normalizeSourceRule, hk, hp, hkind, trimSpace_addrText hz, addrText_ne_empty,
    parseIP_toString hz, if_false, if_true]
  cases a.unmap with
  | v4 n => rfl
  | v6 n zone => rfl

theorem normalizeSourceRule_cidr {rule : SourceRule} (hk : rule.kind = "cidr" ∨ rule.kind = "network")
    {p : Prefix} (hp : CanonicalPrefix p) (hpat : rule.pattern = p.toString) :
    normalizeSourceRule rule = some (familyText p.unmap.addr, p.unmap.toString) := by
  have hkind : toLower (trimSpace rule.kind) = "cidr" ∨ toLower (trimSpace rule.kind) = "network" := by
    rcases hk with hk | hk
    · left
      rw [hk]
      decide
    · right
      rw [hk]
      decide
  have hne : toLower (trimSpace rule.kind) ≠ "ip" := by
    rcases hkind with h | h
    · rw [h]
      decide
    · rw [h]
      decide
  simp only [normalizeSourceRule, hpat, trimSpace_prefixText hp.zone, prefixText_ne_empty, hne,
    hkind.symm, parseCIDR_toString hp.zone hp.bits, hp.masked, networkText, unmap_addr, if_false,
    if_true]
  cases p.addr.unmap with
  | v4 n => rfl
  | v6 n zone => rfl

end Grouproxy.Policy
