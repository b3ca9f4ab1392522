import Mathlib.Data.List.Nodup
import Grouproxy.Library.Ipaddress

/-! # Texts of addresses that Python's `ipaddress` reads back -/

namespace Grouproxy.Ipaddress

open Text Netip

/-! ## IPv4 addresses -/

theorem parseOctet_toDigits_aux : ∀ n < 256, parseOctet (Nat.toDigits 10 n) = some n := by
  decide +kernel

theorem ipv4Int?_ipv4Text (n : Nat) : ipv4Int? (ipv4Text n) = some (n % 2 ^ 32) := by
  have h0 := parseOctet_toDigits_aux _ (Nat.mod_lt (n / 2 ^ 24) (by decide : 0 < 256))
  have h1 := parseOctet_toDigits_aux _ (Nat.mod_lt (n / 2 ^ 16) (by decide : 0 < 256))
  have h2 := parseOctet_toDigits_aux _ (Nat.mod_lt (n / 2 ^ 8) (by decide : 0 < 256))
  have h3 := parseOctet_toDigits_aux _ (Nat.mod_lt n (by decide : 0 < 256))
  rw [ipv4Int?, splitOn_ipv4Text]
  simp only [octets, List.map_cons, List.map_nil, h0, h1, h2, h3, Option.some.injEq]
  omega

theorem isDigit_of_parseOctet {cs : List Char} {n : Nat} (h : parseOctet cs = some n) :
    ∀ c ∈ cs, c.isDigit = true := by
  rw [parseOctet] at h
  split at h
  · cases h
  · rename_i hcond
    simp only [not_or, not_not, List.all_eq_true] at hcond
    exact hcond.2.1

/-- An IPv4 address is made of digits and dots. -/
theorem mem_of_ipv4Int? {cs : List Char} {n : Nat} (h : ipv4Int? cs = some n) {c : Char}
    (hc : c ∈ cs) : c.isDigit = true ∨ c = '.' := by
  rw [ipv4Int?] at h
  split at h
  · rename_i a b d e hparts
    rcases eq_or_mem_of_splitOn '.' hc with hdot | ⟨part, hpart, hmem⟩
    · exact .inr hdot
    · have hread : parseOctet part ∈ (cs.splitOn '.').map parseOctet := List.mem_map_of_mem hpart
      rw [hparts] at hread
      have hsome : ∃ m, parseOctet part = some m := by
        simp only [List.mem_cons, List.not_mem_nil, or_false] at hread
        rcases hread with hread | hread | hread | hread
        · exact ⟨a, hread⟩
        · exact ⟨b, hread⟩
        · exact ⟨d, hread⟩
        · exact ⟨e, hread⟩
      rcases hsome with ⟨m, hm⟩
      exact .inl (isDigit_of_parseOctet hm c hmem)
  · cases h

/-! ## IPv6 addresses -/

theorem parseHextet_hexText {x : Nat} (hx : x < 0x10000) : parseHextet (hexText x) = some x := by
  have hall : (hexText x).all isHex = true := by
    rw [List.all_eq_true]
    exact fun c hc => isHex_of_mem_hexText hx hc
  have hlen := length_hexText_le x
  have hne := hexText_ne_nil x
  rw [parseHextet, if_neg, hexNumber_hexText hx]
  simp only [hall, not_true_eq_false, hne, or_false, false_or]
  omega

theorem parseHextets_hexText {gs : List Nat} (hlt : ∀ g ∈ gs, g < 0x10000) :
    parseHextets (gs.map hexText) = some gs := by
  induction gs with
  | nil => rfl
  | cons g gs ih =>
      have hrest := ih fun k hk => hlt k (List.mem_cons_of_mem g hk)
      rw [parseHextets] at hrest ⊢
      rw [List.map_cons, List.foldr_cons, hrest, parseHextet_hexText (hlt g List.mem_cons_self)]

/-- The groups of one side of the ellipsis, as the colons split them. -/
def colonParts (gs : List Nat) : List (List Char) :=
  if gs = [] then [[]] else gs.map hexText

theorem colon_notMem_hexText {x : Nat} (hx : x < 0x10000) : ':' ∉ hexText x := by
  intro h
  have hhex := isHex_of_mem_hexText hx h
  rw [isHex_colon] at hhex
  cases hhex

theorem dot_notMem_hexText {x : Nat} (hx : x < 0x10000) : '.' ∉ hexText x := by
  intro h
  have hhex := isHex_of_mem_hexText hx h
  rw [isHex_dot] at hhex
  cases hhex

theorem splitOn_joinGroups {gs : List Nat} (hlt : ∀ g ∈ gs, g < 0x10000) :
    (joinGroups gs).splitOn ':' = colonParts gs := by
  rw [colonParts]
  split
  · rename_i hgs
    subst hgs
    rfl
  · rename_i hgs
    apply List.splitOn_intercalate
    · intro part hpart
      rcases List.mem_map.mp hpart with ⟨g, hg, rfl⟩
      exact colon_notMem_hexText (hlt g hg)
    · simpa using hgs

/-- The text with an ellipsis has one part more than the two sides have. -/
theorem splitOn_ellipsis {front back : List Nat} (hfront : ∀ g ∈ front, g < 0x10000)
    (hback : ∀ g ∈ back, g < 0x10000) :
    (joinGroups front ++ ':' :: ':' :: joinGroups back).splitOn ':' =
      colonParts front ++ [] :: colonParts back := by
  have hsplit : ∀ cs ds : List Char,
      (cs ++ ':' :: ds).splitOn ':' = cs.splitOn ':' ++ ds.splitOn ':' := by
    intro cs ds
    simp only [List.splitOn_eq_splitOnP]
    exact List.splitOnP_append_cons cs ds (by decide)
  have hempty := hsplit [] (joinGroups back)
  rw [List.nil_append] at hempty
  rw [hsplit, hempty, splitOn_joinGroups hfront, splitOn_joinGroups hback]
  rfl

theorem colonParts_ne_nil (gs : List Nat) : colonParts gs ≠ [] := by
  rw [colonParts]
  split
  · simp
  · rename_i hgs
    simpa using hgs

theorem length_colonParts (gs : List Nat) : (colonParts gs).length = max 1 gs.length := by
  rw [colonParts]
  split
  · rename_i hgs
    simp [hgs]
  · rename_i hgs
    have hpos := List.length_pos_iff.mpr hgs
    rw [List.length_map]
    omega

theorem head?_colonParts (gs : List Nat) : (colonParts gs).head? = some [] ↔ gs = [] := by
  rw [colonParts]
  split
  · rename_i hgs
    simp [hgs]
  · rename_i hgs
    cases gs with
    | nil => exact absurd rfl hgs
    | cons g gs => simp [hexText_ne_nil]

theorem getLast?_colonParts (gs : List Nat) : (colonParts gs).getLast? = some [] ↔ gs = [] := by
  rw [colonParts]
  split
  · rename_i hgs
    simp [hgs]
  · rename_i hgs
    rcases List.eq_nil_or_concat' gs with rfl | ⟨init, last, rfl⟩
    · exact absurd rfl hgs
    · simp [hexText_ne_nil]

/-- An empty part is the only part of its side. -/
theorem length_of_getElem?_colonParts {gs : List Nat} {i : Nat}
    (h : (colonParts gs)[i]? = some []) : i = 0 ∧ (colonParts gs).length = 1 := by
  rw [colonParts] at h ⊢
  split at h
  · rename_i hgs
    rcases List.getElem?_eq_some_iff.mp h with ⟨hlt, -⟩
    rw [if_pos hgs]
    rw [List.length_singleton] at hlt ⊢
    exact ⟨by omega, rfl⟩
  · rw [List.getElem?_map, Option.map_eq_some_iff] at h
    rcases h with ⟨g, -, hg⟩
    exact absurd hg (hexText_ne_nil g)

/-- The ellipsis is the only empty part between the ends. -/
theorem skipIndices_ellipsis (front back : List Nat) :
    skipIndices (colonParts front ++ [] :: colonParts back) = [(colonParts front).length] := by
  have hfront := List.length_pos_iff.mpr (colonParts_ne_nil front)
  have hback := List.length_pos_iff.mpr (colonParts_ne_nil back)
  have hiff : ∀ i ∈ List.range (colonParts front ++ [] :: colonParts back).length,
      (1 ≤ i && i + 1 < (colonParts front ++ [] :: colonParts back).length &&
        (colonParts front ++ [] :: colonParts back)[i]? == some []) =
      (i == (colonParts front).length) := by
    intro i hi
    rw [List.mem_range, List.length_append, List.length_cons] at hi
    rw [Bool.eq_iff_iff]
    simp only [Bool.and_eq_true, decide_eq_true_eq, beq_iff_eq, List.length_append,
      List.length_cons]
    constructor
    · rintro ⟨⟨hpos, hlast⟩, hpart⟩
      rcases Nat.lt_trichotomy i (colonParts front).length with hlt | heq | hgt
      · rw [List.getElem?_append_left hlt] at hpart
        have hzero := length_of_getElem?_colonParts hpart
        omega
      · exact heq
      · rw [List.getElem?_append_right (by omega),
          show i - (colonParts front).length = (i - (colonParts front).length - 1) + 1 by omega,
          List.getElem?_cons_succ] at hpart
        have hzero := length_of_getElem?_colonParts hpart
        omega
    · rintro rfl
      refine ⟨⟨hfront, by omega⟩, ?_⟩
      rw [List.getElem?_append_right (Nat.le_refl _), Nat.sub_self]
      rfl
  rw [skipIndices, List.filter_congr hiff, List.filter_beq,
    List.count_eq_one_of_mem List.nodup_range]
  · rfl
  · rw [List.mem_range, List.length_append, List.length_cons]
    omega

theorem take_colonParts (gs : List Nat) (rest : List (List Char)) :
    (colonParts gs ++ rest).take gs.length = gs.map hexText := by
  rw [colonParts]
  split
  · rename_i hgs
    rw [hgs]
    rfl
  · rw [List.take_append_of_le_length (by simp), List.take_of_length_le (by simp)]

theorem drop_colonParts (gs : List Nat) (rest : List (List Char)) :
    (rest ++ colonParts gs).drop ((rest ++ colonParts gs).length - gs.length) = gs.map hexText := by
  rw [colonParts]
  split
  · rename_i hgs
    simp [hgs]
  · have hlength : (rest ++ gs.map hexText).length - gs.length = rest.length := by simp
    rw [hlength, List.drop_left]

/-- An address that leaves out a run of groups. -/
theorem ipv6Groups?_ellipsis {front back : List Nat} (hfront : ∀ g ∈ front, g < 0x10000)
    (hback : ∀ g ∈ back, g < 0x10000) (hlen : front.length + back.length < 8) :
    ipv6Groups? (colonParts front ++ [] :: colonParts back) =
      some (front ++ List.replicate (8 - (front.length + back.length)) 0 ++ back) := by
  have hlength : (colonParts front ++ [] :: colonParts back).length =
      (colonParts front).length + 1 + (colonParts back).length := by
    rw [List.length_append, List.length_cons]
    omega
  have hhead : (colonParts front ++ [] :: colonParts back).head? = some [] ↔ front = [] := by
    rw [List.head?_append_of_ne_nil _ (colonParts_ne_nil front), head?_colonParts]
  have hlast : (colonParts front ++ [] :: colonParts back).getLast? = some [] ↔ back = [] := by
    rw [← List.singleton_append, ← List.append_assoc,
      List.getLast?_append_of_ne_nil _ (colonParts_ne_nil back), getLast?_colonParts]
  have hlf := length_colonParts front
  have hlb := length_colonParts back
  have hhi : (if front = [] then (colonParts front).length - 1 else (colonParts front).length) =
      front.length := by
    split
    · rename_i hnil
      rw [hnil] at hlf ⊢
      simp [hlf]
    · rename_i hne
      have hpos := List.length_pos_iff.mpr hne
      omega
  have hlo : (if back = [] then
      (colonParts front ++ [] :: colonParts back).length - (colonParts front).length - 2
      else (colonParts front ++ [] :: colonParts back).length - (colonParts front).length - 1) =
      back.length := by
    rw [hlength]
    split
    · rename_i hnil
      rw [hnil] at hlb ⊢
      simp only [List.length_nil] at hlb ⊢
      omega
    · rename_i hne
      have hpos := List.length_pos_iff.mpr hne
      omega
  have hdrop := drop_colonParts back (colonParts front ++ [[]])
  rw [List.append_assoc, List.singleton_append] at hdrop
  rw [ipv6Groups?, if_neg (by omega), skipIndices_ellipsis]
  simp only [hhead, hlast, hhi, hlo, take_colonParts, hdrop, parseHextets_hexText hfront,
    parseHextets_hexText hback]
  rw [if_neg]
  rintro (⟨hnil, hne⟩ | ⟨hnil, hne⟩ | hle)
  · exact hne (by rw [hnil]; rfl)
  · exact hne (by rw [hnil]; rfl)
  · omega

/-- An address with all its groups. -/
theorem ipv6Groups?_full {gs : List Nat} (hl : gs.length = 8) (hlt : ∀ g ∈ gs, g < 0x10000) :
    ipv6Groups? (gs.map hexText) = some gs := by
  have hparts : ∀ part ∈ gs.map hexText, part ≠ [] := by
    intro part hpart
    rcases List.mem_map.mp hpart with ⟨g, -, rfl⟩
    exact hexText_ne_nil g
  have hskip : skipIndices (gs.map hexText) = [] := by
    rw [skipIndices, List.filter_eq_nil_iff]
    intro i _ hi
    simp only [Bool.and_eq_true, beq_iff_eq] at hi
    exact hparts [] (List.mem_of_getElem? hi.2) rfl
  rw [ipv6Groups?, if_neg (by simp [hl]), hskip]
  dsimp only
  rw [if_neg, parseHextets_hexText hlt]
  rintro (hlength | hhead | hlast)
  · exact hlength (by simp [hl])
  · exact hparts [] (List.mem_of_mem_head? hhead) rfl
  · exact hparts [] (List.mem_of_getLast? hlast) rfl

theorem expandSuffix_of_dot_notMem {parts : List (List Char)} (hne : parts ≠ [])
    (hdot : ∀ part ∈ parts, '.' ∉ part) : expandSuffix parts = some parts := by
  rw [expandSuffix]
  cases hlast : parts.getLast? with
  | none => exact absurd (List.getLast?_eq_none_iff.mp hlast) hne
  | some last =>
      dsimp only
      rw [if_neg (hdot last (List.mem_of_getLast? hlast))]

theorem dot_notMem_colonParts {gs : List Nat} (hlt : ∀ g ∈ gs, g < 0x10000) :
    ∀ part ∈ colonParts gs, '.' ∉ part := by
  intro part hpart
  rw [colonParts] at hpart
  split at hpart
  · rw [List.mem_singleton.mp hpart]
    exact List.not_mem_nil
  · rcases List.mem_map.mp hpart with ⟨g, hg, rfl⟩
    exact dot_notMem_hexText (hlt g hg)

theorem ipv6Int?_groupsText {gs : List Nat} (hl : gs.length = 8) (hlt : ∀ g ∈ gs, g < 0x10000) :
    ipv6Int? (groupsText gs) = some (ofGroups gs) := by
  have hrun := longestZeroRun_spec gs 8 hl.ge
  have hsplit := splitAt_longestZeroRun gs hl
  simp only at hrun hsplit
  rw [groupsText]
  split
  · have hne : gs ≠ [] := by
      intro hnil
      rw [hnil] at hl
      cases hl
    have hparts : (joinGroups gs).splitOn ':' = gs.map hexText := by
      rw [splitOn_joinGroups hlt, colonParts, if_neg hne]
    have hdot := dot_notMem_colonParts hlt
    rw [colonParts, if_neg hne] at hdot
    rw [ipv6Int?, hparts, if_neg (by simp [hl]),
      expandSuffix_of_dot_notMem (by simpa using hne) hdot, Option.bind_some,
      ipv6Groups?_full hl hlt, Option.map_some]
  · rename_i hpos
    have hfront : ∀ g ∈ gs.take (longestZeroRun gs 8).1, g < 0x10000 :=
      fun g hg => hlt g (List.mem_of_mem_take hg)
    have hback : ∀ g ∈ gs.drop ((longestZeroRun gs 8).1 + (longestZeroRun gs 8).2), g < 0x10000 :=
      fun g hg => hlt g (List.mem_of_mem_drop hg)
    have hlens : (gs.take (longestZeroRun gs 8).1).length +
        (gs.drop ((longestZeroRun gs 8).1 + (longestZeroRun gs 8).2)).length =
        8 - (longestZeroRun gs 8).2 := by
      rw [List.length_take, List.length_drop]
      omega
    have hdot : ∀ part ∈ colonParts (gs.take (longestZeroRun gs 8).1) ++
        [] :: colonParts (gs.drop ((longestZeroRun gs 8).1 + (longestZeroRun gs 8).2)),
        '.' ∉ part := by
      intro part hpart
      rw [List.mem_append, List.mem_cons] at hpart
      rcases hpart with hpart | rfl | hpart
      · exact dot_notMem_colonParts hfront part hpart
      · exact List.not_mem_nil
      · exact dot_notMem_colonParts hback part hpart
    rw [ipv6Int?, splitOn_ellipsis hfront hback, if_neg, expandSuffix_of_dot_notMem (by simp) hdot,
      Option.bind_some, ipv6Groups?_ellipsis hfront hback (by omega), Option.map_some, hlens,
      Nat.sub_sub_self (by omega), ← hsplit]
    rw [List.length_append, List.length_cons, length_colonParts, length_colonParts]
    omega

end Grouproxy.Ipaddress
