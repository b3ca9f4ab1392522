import Grouproxy.Library.IpaddressText
import Grouproxy.Verification.Policy.Portability

/-! # Networks that `ip_network` reads back

The text of a network that `ip_network` returned is read as that network.
-/

namespace Grouproxy.Cidr

open Text Netip Ipaddress

/-- A network whose text can be split again: its scope has no separator. -/
structure IsPrinted (p : Prefix) : Prop where
  bits : p.bits ≤ p.addr.bitLen
  network : networkOf p.addr p.bits = p
  scope : '/' ∉ p.addr.zone.toList ∧ '%' ∉ p.addr.zone.toList

theorem networkOf_networkOf (a : Addr) (bits : Nat) :
    networkOf (networkOf a bits).addr (networkOf a bits).bits = networkOf a bits := by
  cases a with
  | v4 n =>
      have hmask := mask_mask (.v4 n) bits
      simp only [Addr.mask] at hmask
      simp only [networkOf, Addr.mask, hmask]
  | v6 n scope =>
      by_cases hmask : (Addr.v6 n "").mask bits = .v6 n ""
      · rw [networkOf, if_pos hmask]
        dsimp only
        rw [networkOf, if_pos hmask]
      · rw [networkOf, if_neg hmask]
        exact if_pos (mask_mask (.v6 n "") bits)

/-- Clearing the host bits keeps the scope or drops it. -/
theorem zone_networkOf (a : Addr) (bits : Nat) :
    (networkOf a bits).addr.zone = a.zone ∨ (networkOf a bits).addr.zone = "" := by
  cases a with
  | v4 n => exact .inl rfl
  | v6 n scope =>
      simp only [networkOf]
      split
      · exact .inl rfl
      · exact .inr rfl

theorem zone_of_ipv4Address {cs : List Char} {a : Addr} (h : ipv4Address cs = some a) :
    a.zone = "" := by
  rw [ipv4Address] at h
  split at h
  · cases h
  · rcases Option.map_eq_some_iff.mp h with ⟨n, -, rfl⟩
    rfl

/-- The scope of an address is part of its text, and holds no separator. -/
theorem zone_of_ipv6Address {cs : List Char} {a : Addr} (h : ipv6Address cs = some a) :
    ('/' ∉ a.zone.toList ∧ '%' ∉ a.zone.toList) ∧ ∀ c ∈ a.zone.toList, c ∈ cs := by
  rw [ipv6Address] at h
  split at h
  · cases h
  · rename_i hslash
    cases hsplit : splitScopeId cs with
    | none =>
        rw [hsplit] at h
        cases h
    | some parts =>
        rcases parts with ⟨text, scope⟩
        rw [hsplit] at h
        rcases Option.map_eq_some_iff.mp h with ⟨n, -, rfl⟩
        by_cases hscope : scope = ""
        · subst hscope
          simp [Addr.zone]
        · have hcs := splitScopeId_spec hsplit hscope
          have hmem : ∀ c ∈ scope.toList, c ∈ cs := by
            intro c hc
            rw [hcs]
            exact List.mem_append_right _ (List.mem_cons_of_mem _ hc)
          refine ⟨⟨fun hc => hslash (hmem _ hc), ?_⟩, hmem⟩
          rw [splitScopeId] at hsplit
          split at hsplit
          · cases hsplit
            exact absurd rfl hscope
          · split at hsplit
            · cases hsplit
            · rename_i hcond
              cases hsplit
              simp only [Addr.zone, String.toList_ofList]
              exact fun hc => hcond (.inr hc)

/-- Every network is the network of an address that was read from a part of the text. -/
theorem ipNetwork_spec {s : String} {p : Prefix} (h : ipNetwork s = some p) :
    ∃ a bits part, p = networkOf a bits ∧ part ∈ s.toList.splitOn '/' ∧
      (ipv4Address part = some a ∨ ipv6Address part = some a) := by
  rw [ipNetwork, Option.orElse_eq_some] at h
  rcases h with h | ⟨-, h⟩
  · unfold ipv4Network at h
    split at h
    · rename_i addr hparts
      rcases Option.map_eq_some_iff.mp h with ⟨a, ha, rfl⟩
      exact ⟨a, 32, addr, rfl, by simp [hparts], .inl ha⟩
    · rename_i addr mask hparts
      split at h
      · rename_i a bits ha hbits
        cases h
        exact ⟨a, bits, addr, rfl, by simp [hparts], .inl ha⟩
      · cases h
    · cases h
  · unfold ipv6Network at h
    split at h
    · rename_i addr hparts
      rcases Option.map_eq_some_iff.mp h with ⟨a, ha, rfl⟩
      exact ⟨a, 128, addr, rfl, by simp [hparts], .inr ha⟩
    · rename_i addr mask hparts
      split at h
      · rename_i a bits ha hbits
        cases h
        exact ⟨a, bits, addr, rfl, by simp [hparts], .inr ha⟩
      · cases h
    · cases h

theorem isPrinted_of_ipNetwork {s : String} {p : Prefix} (h : ipNetwork s = some p) :
    IsPrinted p := by
  have hbits := (isNetwork_of_ipNetwork h).bits
  rcases ipNetwork_spec h with ⟨a, bits, part, rfl, -, ha⟩
  refine ⟨hbits, networkOf_networkOf a bits, ?_⟩
  have hscope : '/' ∉ a.zone.toList ∧ '%' ∉ a.zone.toList := by
    rcases ha with ha | ha
    · rw [zone_of_ipv4Address ha]
      simp
    · exact (zone_of_ipv6Address ha).1
  rcases zone_networkOf a bits with hzone | hzone
  · rw [hzone]
    exact hscope
  · rw [hzone]
    simp

/-- The scope of a network is part of the text it was read from. -/
theorem mem_zone_of_ipNetwork {s : String} {p : Prefix} (h : ipNetwork s = some p) {c : Char}
    (hc : c ∈ p.addr.zone.toList) : c ∈ s.toList := by
  rcases ipNetwork_spec h with ⟨a, bits, part, rfl, hpart, ha⟩
  rcases zone_networkOf a bits with hzone | hzone
  · rw [hzone] at hc
    rcases ha with ha | ha
    · rw [zone_of_ipv4Address ha] at hc
      cases hc
    · exact mem_of_mem_splitOn hpart ((zone_of_ipv6Address ha).2 c hc)
  · rw [hzone] at hc
    cases hc

/-! ## Texts -/

theorem mem_zoneText {zone : String} {c : Char} (h : c ∈ zoneText zone) :
    c = '%' ∨ c ∈ zone.toList := by
  rw [zoneText] at h
  split at h
  · cases h
  · exact List.mem_cons.mp h

theorem slash_notMem_addressText {a : Addr} (hscope : '/' ∉ a.zone.toList) :
    '/' ∉ addressText a := by
  intro h
  cases a with
  | v4 n =>
      rcases mem_ipv4Text h with hdigit | hdot
      · cases hdigit
      · cases hdot
  | v6 n scope =>
      rcases List.mem_append.mp h with h | h
      · rcases mem_groupsText (fun g hg => lt_of_mem_groups hg) h with hhex | hcolon
        · cases hhex
        · cases hcolon
      · rcases mem_zoneText h with hpercent | hzone
        · cases hpercent
        · exact hscope hzone

theorem splitOn_networkText {p : Prefix} (hp : IsPrinted p) :
    (Ipaddress.networkText p).splitOn '/' = [addressText p.addr, Nat.toDigits 10 p.bits] := by
  have hjoin : Ipaddress.networkText p =
      ['/'].intercalate [addressText p.addr, Nat.toDigits 10 p.bits] := by
    rw [List.intercalate_cons_cons, List.intercalate_singleton, List.append_assoc]
    rfl
  rw [hjoin]
  apply List.splitOn_intercalate
  · intro part hpart
    rcases List.mem_cons.mp hpart with rfl | hpart
    · exact slash_notMem_addressText hp.scope.1
    · rw [List.mem_singleton.mp hpart]
      exact slash_notMem_toDigits p.bits
  · simp

theorem prefixFromString_toDigits {limit n : Nat} (h : n ≤ limit) :
    prefixFromString limit (Nat.toDigits 10 n) = some n := by
  rw [prefixFromString, decimal?_toDigits]
  exact if_pos h

theorem ipv4Address_ipv4Text (n : Fin (2 ^ 32)) : ipv4Address (ipv4Text n) = some (.v4 n) := by
  rw [ipv4Address, if_neg, ipv4Int?_ipv4Text, Option.map_some, Nat.mod_eq_of_lt n.isLt]
  · simp
  · intro h
    rcases mem_ipv4Text h with hdigit | hdot
    · cases hdigit
    · cases hdot

theorem splitScopeId_append {text : List Char} {scope : String} (htext : '%' ∉ text)
    (hscope : '%' ∉ scope.toList) :
    splitScopeId (text ++ zoneText scope) = some (text, scope) := by
  have hall : ∀ c ∈ text, decide (c ≠ '%') = true := by
    intro c hc
    rw [decide_eq_true_eq]
    intro heq
    exact htext (heq ▸ hc)
  rw [splitScopeId, List.dropWhile_append_of_pos hall, List.takeWhile_append_of_pos hall, zoneText]
  by_cases hempty : scope = ""
  · simp [hempty]
  · have hne : scope.toList ≠ [] := fun hnil => hempty (String.toList_eq_nil_iff.mp hnil)
    rw [if_neg hempty]
    simp [hne, hscope]

theorem percent_notMem_groupsText (n : Nat) : '%' ∉ groupsText (groups n) := by
  intro h
  rcases mem_groupsText (fun g hg => lt_of_mem_groups hg) h with hhex | hcolon
  · cases hhex
  · cases hcolon

theorem ipv6Address_addressText {n : Fin (2 ^ 128)} {scope : String}
    (hslash : '/' ∉ addressText (.v6 n scope)) (hscope : '%' ∉ scope.toList) :
    ipv6Address (addressText (.v6 n scope)) = some (.v6 n scope) := by
  rw [ipv6Address, if_neg hslash, addressText,
    splitScopeId_append (percent_notMem_groupsText n) hscope]
  simp only [ipv6Int?_groupsText (length_groups n) fun g hg => lt_of_mem_groups hg,
    ofGroups_groups n.isLt, Option.map_some]
  simp

/-- A colon keeps a text from being an IPv4 address. -/
theorem ipv4Address_addressText (n : Fin (2 ^ 128)) (scope : String) :
    ipv4Address (addressText (.v6 n scope)) = none := by
  rw [ipv4Address]
  split
  · rfl
  · rw [Option.map_eq_none_iff, Option.eq_none_iff_forall_ne_some]
    intro m hm
    have hcolon : ':' ∈ addressText (.v6 n scope) :=
      List.mem_append_left _ (colon_mem_groupsText (length_groups n))
    rcases mem_of_ipv4Int? hm hcolon with hdigit | hdot
    · cases hdigit
    · cases hdot

/-- An address is read back if its scope has no separator. -/
theorem ipAddress_of_scope {a : Addr} (h : '/' ∉ a.zone.toList ∧ '%' ∉ a.zone.toList) :
    ipAddress (String.ofList (addressText a)) = some a := by
  rw [ipAddress, String.toList_ofList]
  cases a with
  | v4 n =>
      have hread : ipv4Address (addressText (.v4 n)) = some (.v4 n) := ipv4Address_ipv4Text n
      rw [hread]
      rfl
  | v6 n scope =>
      rw [ipv4Address_addressText, ipv6Address_addressText (slash_notMem_addressText h.1) h.2]
      rfl

/-- What `ip_network` returned, it reads back. -/
theorem ipNetwork_networkText {p : Prefix} (hp : IsPrinted p) :
    ipNetwork (String.ofList (Ipaddress.networkText p)) = some p := by
  have hslash := slash_notMem_addressText hp.scope.1
  rw [ipNetwork, String.toList_ofList, splitOn_networkText hp]
  rcases hp with ⟨hbits, hnetwork, hscope⟩
  cases p with
  | mk addr bits =>
      cases addr with
      | v4 n =>
          have hread : ipv4Network [addressText (.v4 n), Nat.toDigits 10 bits] =
              some ⟨.v4 n, bits⟩ := by
            have hlength : bits ≤ 32 := hbits
            simp only [ipv4Network, addressText, ipv4Address_ipv4Text,
              prefixFromString_toDigits hlength]
            exact congrArg some hnetwork
          rw [hread]
          rfl
      | v6 n scope =>
          have hnone : ipv4Network [addressText (.v6 n scope), Nat.toDigits 10 bits] = none := by
            simp only [ipv4Network, ipv4Address_addressText]
          have hread : ipv6Network [addressText (.v6 n scope), Nat.toDigits 10 bits] =
              some ⟨.v6 n scope, bits⟩ := by
            have hlength : bits ≤ 128 := hbits
            simp only [ipv6Network, ipv6Address_addressText hslash hscope.2,
              prefixFromString_toDigits hlength]
            exact congrArg some hnetwork
          rw [hnone, hread]
          rfl

end Grouproxy.Cidr
