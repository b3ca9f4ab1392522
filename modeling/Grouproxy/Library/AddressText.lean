import Mathlib.Data.Bool.AllAny
import Mathlib.Data.List.TakeWhile
import Grouproxy.Library.Address

/-! # Reading back a printed address -/

namespace Grouproxy.Netip

open Text

/-! ## Dotted octets -/

theorem parseOctet_toDigits {n : Nat} (h : n < 256) : parseOctet (Nat.toDigits 10 n) = some n := by
  rw [parseOctet, strictDecimal?_toDigits_aux n h]
  simp
  omega

theorem not_mem_toDigits {c : Char} (hc : c.isDigit = false) (n : Nat) :
    c ∉ Nat.toDigits 10 n := by
  intro h
  have hd := Nat.isDigit_of_mem_toDigits (by decide) (by decide) h
  simp [hc] at hd

theorem splitOn_ipv4Text (n : Nat) :
    (ipv4Text n).splitOn '.' = (octets n).map (Nat.toDigits 10) := by
  apply List.splitOn_intercalate
  · intro l hl
    obtain ⟨m, -, rfl⟩ := List.mem_map.mp hl
    exact not_mem_toDigits (by decide) m
  · simp [octets]

theorem parseIPv4Fields_ipv4Text (n : Nat) : parseIPv4Fields (ipv4Text n) = some (n % 2 ^ 32) := by
  have h0 := parseOctet_toDigits (Nat.mod_lt (n / 2 ^ 24) (by decide : 0 < 256))
  have h1 := parseOctet_toDigits (Nat.mod_lt (n / 2 ^ 16) (by decide : 0 < 256))
  have h2 := parseOctet_toDigits (Nat.mod_lt (n / 2 ^ 8) (by decide : 0 < 256))
  have h3 := parseOctet_toDigits (Nat.mod_lt n (by decide : 0 < 256))
  rw [parseIPv4Fields, splitOn_ipv4Text]
  simp only [octets, List.map_cons, List.map_nil, h0, h1, h2, h3, Option.some.injEq]
  omega

/-- The characters of a printed IPv4 address. -/
theorem mem_ipv4Text {n : Nat} {c : Char} (h : c ∈ ipv4Text n) : c.isDigit = true ∨ c = '.' := by
  have hd : ∀ m, ∀ d ∈ Nat.toDigits 10 m, d.isDigit = true := fun m d hm =>
    Nat.isDigit_of_mem_toDigits (by decide) (by decide) hm
  simp only [ipv4Text, octets, List.map_cons, List.map_nil, List.intercalate_cons_cons,
    List.intercalate_singleton, List.mem_append, List.mem_singleton] at h
  grind

theorem dot_mem_ipv4Text (n : Nat) : '.' ∈ ipv4Text n := by
  simp [ipv4Text, octets]

/-! ## Groups -/

theorem takeWhile_hexText {x : Nat} (hx : x < 0x10000) (rest : List Char)
    (hr : ∀ c ∈ rest.head?, isHex c = false) :
    (hexText x ++ rest).takeWhile isHex = hexText x ∧
      (hexText x ++ rest).dropWhile isHex = rest := by
  have hall : ∀ c ∈ hexText x, isHex c = true := fun c => isHex_of_mem_hexText hx
  have ht : rest.takeWhile isHex = [] ∧ rest.dropWhile isHex = rest := by
    cases rest with
    | nil => simp
    | cons c cs => simp [hr c (by simp)]
  rw [List.takeWhile_append_of_pos hall, List.dropWhile_append_of_pos hall, ht.1, ht.2]
  simp

theorem isHex_dot : isHex '.' = false := by decide

theorem isHex_colon : isHex ':' = false := by decide

theorem exists_cons_hexText {x : Nat} (hx : x < 0x10000) :
    ∃ c cs, hexText x = c :: cs ∧ isHex c = true := by
  cases h : hexText x with
  | nil => exact absurd h (hexText_ne_nil x)
  | cons c cs =>
      refine ⟨c, cs, rfl, isHex_of_mem_hexText hx ?_⟩
      rw [h]
      exact List.mem_cons_self

section Step

variable {x fuel : Nat} {acc : List Nat} {ellipsis : Option Nat} {tail : List Char}

theorem hexText_admissible (x : Nat) : ¬ (hexText x = [] ∨ 4 < (hexText x).length) := by
  rintro (h | h)
  · exact hexText_ne_nil x h
  · exact absurd h (Nat.not_lt.mpr (length_hexText_le x))

theorem parseGroups_last (hx : x < 0x10000) :
    parseGroups (fuel + 1) acc ellipsis (hexText x) = some (acc ++ [x], ellipsis, []) := by
  obtain ⟨ht, hd⟩ := takeWhile_hexText hx [] (by simp)
  rw [List.append_nil] at ht hd
  rw [parseGroups, ht, hd]
  simp [hexText_admissible x, hexNumber_hexText hx]

theorem parseGroups_colon (hx : x < 0x10000) {c : Char} (hc : c ≠ ':') :
    parseGroups (fuel + 1) acc ellipsis (hexText x ++ ':' :: c :: tail) =
      parseGroups fuel (acc ++ [x]) ellipsis (c :: tail) := by
  obtain ⟨ht, hd⟩ := takeWhile_hexText hx (':' :: c :: tail) (by simp [isHex_colon])
  rw [parseGroups, ht, hd]
  simp [hexText_admissible x, hexNumber_hexText hx, hc]

theorem parseGroups_ellipsis (hx : x < 0x10000) :
    parseGroups (fuel + 1) acc none (hexText x ++ ':' :: ':' :: tail) =
      if tail = [] then some (acc ++ [x], some (acc.length + 1), [])
      else parseGroups fuel (acc ++ [x]) (some (acc.length + 1)) tail := by
  obtain ⟨ht, hd⟩ := takeWhile_hexText hx (':' :: ':' :: tail) (by simp [isHex_colon])
  rw [parseGroups, ht, hd]
  simp [hexText_admissible x, hexNumber_hexText hx]

end Step

theorem joinGroups_cons_cons (g h : Nat) (gs : List Nat) :
    joinGroups (g :: h :: gs) = hexText g ++ ':' :: joinGroups (h :: gs) := by
  simp [joinGroups]

theorem exists_cons_joinGroups {gs : List Nat} (hne : gs ≠ []) (hlt : ∀ g ∈ gs, g < 0x10000) :
    ∃ c cs, joinGroups gs = c :: cs ∧ isHex c = true := by
  cases gs with
  | nil => exact absurd rfl hne
  | cons g gs =>
      obtain ⟨c, cs, hc, hh⟩ := exists_cons_hexText (hlt g (by simp))
      cases gs with
      | nil => exact ⟨c, cs, by simp [joinGroups, hc], hh⟩
      | cons h gs => exact ⟨c, _, by rw [joinGroups_cons_cons, hc]; rfl, hh⟩

theorem ne_colon_of_isHex {c : Char} (h : isHex c = true) : c ≠ ':' := by
  intro hsame
  subst hsame
  exact absurd h (by decide)

/-- Reading groups to the end of the text. -/
theorem parseGroups_joinGroups {gs : List Nat} (hlt : ∀ g ∈ gs, g < 0x10000) (hne : gs ≠ [])
    (fuel : Nat) (hf : gs.length ≤ fuel) (acc : List Nat) (ellipsis : Option Nat) :
    parseGroups fuel acc ellipsis (joinGroups gs) = some (acc ++ gs, ellipsis, []) := by
  induction gs generalizing fuel acc with
  | nil => exact absurd rfl hne
  | cons g gs ih =>
      obtain ⟨fuel, rfl⟩ := Nat.exists_eq_add_of_le' hf
      have hg := hlt g (by simp)
      cases gs with
      | nil =>
          rw [show joinGroups [g] = hexText g by simp [joinGroups]]
          exact parseGroups_last hg
      | cons h gs =>
          have hrest : ∀ k ∈ h :: gs, k < 0x10000 := fun k hk => hlt k (List.mem_cons_of_mem g hk)
          obtain ⟨c, cs, hc, hh⟩ := exists_cons_joinGroups (by simp) hrest
          rw [joinGroups_cons_cons, hc, List.length_cons, ← Nat.add_assoc,
            parseGroups_colon hg (ne_colon_of_isHex hh), ← hc,
            ih hrest (by simp) _ (by simp) (acc ++ [g])]
          simp

/-- Reading groups up to the ellipsis. -/
theorem parseGroups_joinGroups_ellipsis {gs : List Nat} (hlt : ∀ g ∈ gs, g < 0x10000)
    (hne : gs ≠ []) (fuel : Nat) (acc : List Nat) (tail : List Char) :
    parseGroups (fuel + gs.length) acc none (joinGroups gs ++ ':' :: ':' :: tail) =
      if tail = [] then some (acc ++ gs, some (acc.length + gs.length), [])
      else parseGroups fuel (acc ++ gs) (some (acc.length + gs.length)) tail := by
  induction gs generalizing acc with
  | nil => exact absurd rfl hne
  | cons g gs ih =>
      have hg := hlt g (by simp)
      cases gs with
      | nil =>
          rw [show joinGroups [g] = hexText g by simp [joinGroups]]
          exact parseGroups_ellipsis hg
      | cons h gs =>
          have hrest : ∀ k ∈ h :: gs, k < 0x10000 := fun k hk => hlt k (List.mem_cons_of_mem g hk)
          obtain ⟨c, cs, hc, hh⟩ := exists_cons_joinGroups (by simp) hrest
          have happ : joinGroups (g :: h :: gs) ++ ':' :: ':' :: tail =
              hexText g ++ ':' :: c :: (cs ++ ':' :: ':' :: tail) := by
            rw [joinGroups_cons_cons, hc]
            simp
          rw [happ, List.length_cons, ← Nat.add_assoc,
            parseGroups_colon hg (ne_colon_of_isHex hh), ← List.cons_append, ← hc,
            ih hrest (by simp) (acc ++ [g])]
          simp [Nat.add_assoc, Nat.add_comm 1]

/-! ## The compressed run -/

theorem zeroRun_spec (gs : List Nat) : gs.take (zeroRun gs) = List.replicate (zeroRun gs) 0 := by
  induction gs with
  | nil => simp [zeroRun]
  | cons g gs ih =>
      by_cases h : g = 0
      · subst h
        simpa [zeroRun, List.replicate_succ] using ih
      · simp [zeroRun, h]

theorem zeroRun_le (gs : List Nat) : zeroRun gs ≤ gs.length :=
  (List.takeWhile_sublist _).length_le

/-- The chosen run lies inside the groups and is a run of zeros. -/
theorem longestZeroRun_spec (gs : List Nat) (count : Nat) (hc : count ≤ gs.length) :
    let run := longestZeroRun gs count
    run.1 + run.2 ≤ gs.length ∧
      (gs.drop run.1).take run.2 = List.replicate run.2 0 := by
  induction count with
  | zero => simp [longestZeroRun]
  | succ count ih =>
      simp only [longestZeroRun]
      split
      · refine ⟨?_, zeroRun_spec _⟩
        have hl := zeroRun_le (gs.drop count)
        rw [List.length_drop] at hl
        simp only
        omega
      · exact ih (by omega)

theorem splitAt_longestZeroRun (gs : List Nat) (hl : gs.length = 8) :
    let run := longestZeroRun gs 8
    gs = gs.take run.1 ++ List.replicate run.2 0 ++ gs.drop (run.1 + run.2) := by
  obtain ⟨-, hz⟩ := longestZeroRun_spec gs 8 hl.ge
  simp only
  rw [← hz, List.append_assoc, ← List.drop_drop, List.take_append_drop, List.take_append_drop]

/-- A text that starts with a group does not start with `::`. -/
theorem parseIPv6Groups_joinGroups_append {gs : List Nat} (hne : gs ≠ [])
    (hlt : ∀ g ∈ gs, g < 0x10000) (rest : List Char) :
    parseIPv6Groups (joinGroups gs ++ rest) =
      (parseGroups 8 [] none (joinGroups gs ++ rest)).bind expandGroups := by
  obtain ⟨c, cs, hc, hh⟩ := exists_cons_joinGroups hne hlt
  have hnot := ne_colon_of_isHex hh
  rw [parseIPv6Groups]
  intro tail ht
  rw [hc] at ht
  exact hnot (List.cons.inj ht).1

/-- The groups after `::` are read and the missing ones are zero. -/
theorem expandGroups_after_ellipsis {front back : List Nat} {len fuel : Nat}
    (hback : ∀ g ∈ back, g < 0x10000) (hlength : front.length + len + back.length = 8)
    (hlen : 0 < len) (hfuel : back.length ≤ fuel) :
    ((if joinGroups back = [] then some (front, some front.length, [])
      else parseGroups fuel front (some front.length) (joinGroups back)).bind expandGroups) =
      some (front ++ List.replicate len 0 ++ back) := by
  by_cases hb : back = []
  · subst hb
    rw [List.length_nil] at hlength
    rw [if_pos (by simp [joinGroups]), Option.bind_some, expandGroups]
    have h8 : front.length < 8 := by omega
    have hk : 8 - front.length = len := by omega
    simp [h8, hk]
  · have hj : joinGroups back ≠ [] := by
      obtain ⟨c, cs, hc, -⟩ := exists_cons_joinGroups hb hback
      simp [hc]
    rw [if_neg hj, parseGroups_joinGroups hback hb fuel hfuel, Option.bind_some, expandGroups]
    have h8 : (front ++ back).length < 8 := by
      rw [List.length_append]
      omega
    have hk : 8 - (front ++ back).length = len := by
      rw [List.length_append]
      omega
    rw [if_neg (by simp), if_pos h8, hk]
    simp

/-- Reading `::` between two lists of groups gives as many zeros as are missing. -/
theorem parseIPv6Groups_ellipsis {front back : List Nat} {len : Nat}
    (hfront : ∀ g ∈ front, g < 0x10000) (hback : ∀ g ∈ back, g < 0x10000)
    (hlength : front.length + len + back.length = 8) (hlen : 0 < len) :
    parseIPv6Groups (joinGroups front ++ ':' :: ':' :: joinGroups back) =
      some (front ++ List.replicate len 0 ++ back) := by
  by_cases hf : front = []
  · subst hf
    have hall := expandGroups_after_ellipsis hback hlength hlen (show back.length ≤ 8 by omega)
    rw [show joinGroups ([] : List Nat) = [] by simp [joinGroups], List.nil_append, parseIPv6Groups]
    by_cases hj : joinGroups back = []
    · rw [if_pos hj] at hall ⊢
      rw [← hall]
      rfl
    · rw [if_neg hj] at hall ⊢
      exact hall
  · have hfuel : (8 : Nat) = 8 - front.length + front.length := by omega
    rw [parseIPv6Groups_joinGroups_append hf hfront, hfuel,
      parseGroups_joinGroups_ellipsis hfront hf]
    simpa using expandGroups_after_ellipsis hback hlength hlen
      (show back.length ≤ 8 - front.length by omega)

/-- Reading the compressed text of eight groups gives the groups. -/
theorem parseIPv6Groups_groupsText {gs : List Nat} (hl : gs.length = 8)
    (hlt : ∀ g ∈ gs, g < 0x10000) : parseIPv6Groups (groupsText gs) = some gs := by
  have hsplit := splitAt_longestZeroRun gs hl
  have hbound := (longestZeroRun_spec gs 8 hl.ge).1
  simp only at hsplit hbound
  rw [groupsText]
  generalize longestZeroRun gs 8 = run at hsplit hbound ⊢
  obtain ⟨start, len⟩ := run
  simp only at hsplit hbound ⊢
  by_cases hlen : len = 0
  · have hne : gs ≠ [] := by
      intro hsame
      subst hsame
      simp at hl
    have happend := parseIPv6Groups_joinGroups_append hne hlt []
    rw [List.append_nil, parseGroups_joinGroups hlt hne 8 hl.le] at happend
    rw [if_pos hlen, happend]
    simp [expandGroups, hl]
  · have hlength : (gs.take start).length + len + (gs.drop (start + len)).length = 8 := by
      rw [List.length_take, List.length_drop]
      omega
    rw [if_neg hlen, parseIPv6Groups_ellipsis (fun g hg => hlt g (List.mem_of_mem_take hg))
      (fun g hg => hlt g (List.mem_of_mem_drop hg)) hlength (by omega), ← hsplit]

/-! ## Embedded IPv4 addresses -/

theorem isHex_of_isDigit {c : Char} (h : c.isDigit = true) : isHex c = true := by
  have hc : '0' ≤ c ∧ c ≤ '9' := by
    simp only [Char.isDigit, Bool.and_eq_true, decide_eq_true_eq] at h
    exact h
  simp [isHex, hexValue?, hc]

theorem ipv4Text_eq (n : Nat) :
    ∃ rest, ipv4Text n = Nat.toDigits 10 (n / 2 ^ 24 % 256) ++ '.' :: rest := by
  simp [ipv4Text, octets]

theorem length_toDigits_octet (n : Nat) : (Nat.toDigits 10 (n % 256)).length ≤ 4 := by
  rw [Nat.length_toDigits_le_iff (by decide) (by decide)]
  omega

theorem parseGroups_ipv4Text {fuel n : Nat} {acc : List Nat} {e : Nat}
    (hacc : acc.length + 2 ≤ 8) :
    parseGroups (fuel + 1) acc (some e) (ipv4Text n) =
      some (acc ++ [n % 2 ^ 32 / 65536, n % 65536], some e, []) := by
  obtain ⟨rest, htext⟩ := ipv4Text_eq n
  have hall : ∀ c ∈ Nat.toDigits 10 (n / 2 ^ 24 % 256), isHex c = true := fun c hc =>
    isHex_of_isDigit (Nat.isDigit_of_mem_toDigits (by decide) (by decide) hc)
  have ht : (ipv4Text n).takeWhile isHex = Nat.toDigits 10 (n / 2 ^ 24 % 256) := by
    rw [htext, List.takeWhile_append_of_pos hall]
    simp [isHex_dot]
  have hd : (ipv4Text n).dropWhile isHex = '.' :: rest := by
    rw [htext, List.dropWhile_append_of_pos hall]
    simp [isHex_dot]
  have hok : ¬ (Nat.toDigits 10 (n / 2 ^ 24 % 256) = [] ∨
      4 < (Nat.toDigits 10 (n / 2 ^ 24 % 256)).length) := by
    rintro (h | h)
    · exact Nat.toDigits_ne_nil h
    · have := length_toDigits_octet (n / 2 ^ 24)
      omega
  have hroom : ¬ 8 < acc.length + 2 := by omega
  rw [parseGroups, ht, hd, parseIPv4Fields_ipv4Text]
  simp only [hok, ite_false, hroom, or_false, reduceCtorEq, false_and, Option.map_some,
    Option.some.injEq, Prod.mk.injEq, and_true, List.append_cancel_left_eq, List.cons.injEq,
    true_and]
  omega

theorem exists_cons_ipv4Text (n : Nat) : ∃ c cs, ipv4Text n = c :: cs ∧ c ≠ ':' := by
  cases h : ipv4Text n with
  | nil =>
      have hd := dot_mem_ipv4Text n
      simp [h] at hd
  | cons c cs =>
      refine ⟨c, cs, rfl, ?_⟩
      intro hsame
      subst hsame
      have hm : ':' ∈ ipv4Text n := by simp [h]
      rcases mem_ipv4Text hm with hd | hd
      · exact absurd hd (by decide)
      · exact absurd hd (by decide)

theorem parseIPv6Groups_mapped (n : Nat) :
    parseIPv6Groups ("::ffff:".toList ++ ipv4Text n) =
      some [0, 0, 0, 0, 0, 0xffff, n % 2 ^ 32 / 65536, n % 65536] := by
  obtain ⟨c, cs, hc, hne⟩ := exists_cons_ipv4Text n
  have htext : "::ffff:".toList ++ ipv4Text n =
      ':' :: ':' :: (hexText 0xffff ++ ':' :: c :: cs) := by
    rw [hc]
    rfl
  rw [htext, parseIPv6Groups, if_neg (by simp [hexText]),
    parseGroups_colon (by decide) hne, ← hc, parseGroups_ipv4Text (by simp)]
  simp [expandGroups, List.replicate]

/-! ## Addresses -/

@[simp] theorem length_groups (n : Nat) : (groups n).length = 8 := rfl

theorem lt_of_mem_groups {n g : Nat} (h : g ∈ groups n) : g < 0x10000 := by
  simp only [groups, List.mem_cons, List.not_mem_nil, or_false] at h
  omega

theorem ofGroups_groups {n : Nat} (h : n < 2 ^ 128) : ofGroups (groups n) = n := by
  simp only [ofGroups, groups, List.foldl_cons, List.foldl_nil]
  omega

theorem mem_joinGroups {gs : List Nat} (hlt : ∀ g ∈ gs, g < 0x10000) {c : Char}
    (h : c ∈ joinGroups gs) : isHex c = true ∨ c = ':' := by
  induction gs with
  | nil => simp [joinGroups] at h
  | cons g gs ih =>
      have hg := hlt g (by simp)
      cases gs with
      | nil =>
          left
          exact isHex_of_mem_hexText hg (by simpa [joinGroups] using h)
      | cons k gs =>
          rw [joinGroups_cons_cons, List.mem_append, List.mem_cons] at h
          rcases h with h | h | h
          · exact .inl (isHex_of_mem_hexText hg h)
          · exact .inr h
          · exact ih (fun m hm => hlt m (List.mem_cons_of_mem g hm)) h

theorem mem_groupsText {gs : List Nat} (hlt : ∀ g ∈ gs, g < 0x10000) {c : Char}
    (h : c ∈ groupsText gs) : isHex c = true ∨ c = ':' := by
  unfold groupsText at h
  simp only at h
  split at h
  · exact mem_joinGroups hlt h
  · simp only [List.mem_append, List.mem_cons] at h
    rcases h with h | rfl | rfl | h
    · exact mem_joinGroups (fun g hg => hlt g (List.mem_of_mem_take hg)) h
    · exact .inr rfl
    · exact .inr rfl
    · exact mem_joinGroups (fun g hg => hlt g (List.mem_of_mem_drop hg)) h

theorem colon_mem_groupsText {gs : List Nat} (hl : gs.length = 8) : ':' ∈ groupsText gs := by
  unfold groupsText
  simp only
  split
  · match gs, hl with
    | g :: k :: gs, _ =>
      rw [joinGroups_cons_cons]
      simp
  · simp

theorem mem_mapped {n : Nat} {c : Char} (h : c ∈ "::ffff:".toList ++ ipv4Text n) :
    isHex c = true ∨ c = ':' ∨ c = '.' := by
  rcases List.mem_append.mp h with h | h
  · have hall : ∀ d ∈ "::ffff:".toList, isHex d = true ∨ d = ':' :=
      List.all_iff_forall_prop.mp (by decide)
    rcases hall c h with hc | hc
    · exact .inl hc
    · exact .inr (.inl hc)
  · rcases mem_ipv4Text h with hc | hc
    · exact .inl (isHex_of_isDigit hc)
    · exact .inr (.inr hc)

/-- A printed address without its zone consists of hexadecimal digits, colons and dots. -/
theorem mem_bareText {a : Addr} {c : Char} (h : c ∈ a.bareText) :
    isHex c = true ∨ c = ':' ∨ c = '.' := by
  cases a with
  | v4 n =>
      rcases mem_ipv4Text h with hc | hc
      · exact .inl (isHex_of_isDigit hc)
      · exact .inr (.inr hc)
  | v6 n zone =>
      simp only [Addr.bareText] at h
      split at h
      · exact mem_mapped h
      · rcases mem_groupsText (fun g hg => lt_of_mem_groups hg) h with hc | hc
        · exact .inl hc
        · exact .inr (.inl hc)

theorem toNat_lt_of_isHex {c : Char} (h : isHex c = true) : c.toNat < 128 := by
  unfold isHex hexValue? at h
  split at h
  · rename_i hr
    exact lt_of_le_of_lt (Char.le_def.mp hr.2) (by decide)
  · split at h
    · rename_i hr
      exact lt_of_le_of_lt (Char.le_def.mp hr.2) (by decide)
    · split at h
      · rename_i hr
        exact lt_of_le_of_lt (Char.le_def.mp hr.2) (by decide)
      · simp at h

theorem isSpace_of_isHex {c : Char} (h : isHex c = true) : isSpace c = false := by
  have hhex : ∀ n < 128, isHex (Char.ofNat n) = true → isSpace (Char.ofNat n) = false := by
    decide +kernel
  have hc := hhex c.toNat (toNat_lt_of_isHex h)
  rw [Char.ofNat_toNat] at hc
  exact hc h

theorem isSpace_of_mem_bareText {a : Addr} {c : Char} (h : c ∈ a.bareText) :
    isSpace c = false := by
  rcases mem_bareText h with hc | rfl | rfl
  · exact isSpace_of_isHex hc
  · decide
  · decide

theorem percent_notMem_bareText (a : Addr) : '%' ∉ a.bareText := by
  intro h
  rcases mem_bareText h with hc | hc | hc
  · exact absurd hc (by decide)
  · exact absurd hc (by decide)
  · exact absurd hc (by decide)

theorem parseIPv6_append_zoneText {text : List Char} (hp : '%' ∉ text) (zone : String) :
    parseIPv6 (text ++ zoneText zone) = (parseIPv6Groups text).map fun gs =>
      .v6 (Fin.ofNat _ (ofGroups gs)) zone := by
  have hall : ∀ c ∈ text, decide (c ≠ '%') = true := by
    intro c hc
    simp only [decide_eq_true_eq]
    intro hsame
    subst hsame
    exact hp hc
  rw [parseIPv6]
  rw [List.takeWhile_append_of_pos hall, List.dropWhile_append_of_pos hall]
  by_cases hz : zone = ""
  · subst hz
    simp [zoneText, hp]
  · have hlist : zone.toList ≠ [] := by
      intro h
      exact hz (String.toList_eq_nil_iff.mp h)
    simp [zoneText, hz]

/-- The first separator of a printed IPv6 address is a colon. -/
theorem find?_separator_colon {text : List Char} (hall : ∀ c ∈ text, isHex c = true ∨ c = ':')
    (hm : ':' ∈ text) (rest : List Char) :
    (text ++ rest).find? (fun c => c == '.' || c == ':' || c == '%') = some ':' := by
  induction text with
  | nil => simp at hm
  | cons c text ih =>
      by_cases hc : c = ':'
      · simp [hc]
      · have hhex : isHex c = true := (hall c (by simp)).resolve_right hc
        have hdot : c ≠ '.' := by
          intro hsame
          subst hsame
          exact absurd hhex (by decide)
        have hpct : c ≠ '%' := by
          intro hsame
          subst hsame
          exact absurd hhex (by decide)
        have htail : ':' ∈ text := by
          rcases List.mem_cons.mp hm with h | h
          · exact absurd h.symm hc
          · exact h
        simpa [hc, hdot, hpct] using ih (fun d hd => hall d (List.mem_cons_of_mem c hd)) htail

theorem find?_separator_dot (n : Nat) :
    (ipv4Text n).find? (fun c => c == '.' || c == ':' || c == '%') = some '.' := by
  obtain ⟨rest, h⟩ := ipv4Text_eq n
  have hnone : (Nat.toDigits 10 (n / 2 ^ 24 % 256)).find?
      (fun c => c == '.' || c == ':' || c == '%') = none := by
    rw [List.find?_eq_none]
    intro c hc
    have hd := Nat.isDigit_of_mem_toDigits (by decide) (by decide) hc
    simp only [Bool.or_eq_true, beq_iff_eq]
    rintro ((rfl | rfl) | rfl)
    · exact absurd hd (by decide)
    · exact absurd hd (by decide)
    · exact absurd hd (by decide)
  rw [h, List.find?_append, hnone]
  simp

/-- The compressed groups of an address read back, also those of an IPv4-mapped address. -/
theorem parseAddr_groupsText (n : Fin (2 ^ 128)) (zone : String) :
    parseAddr (String.ofList (groupsText (groups n) ++ zoneText zone)) = some (.v6 n zone) := by
  have hmem : ∀ c ∈ groupsText (groups n), isHex c = true ∨ c = ':' := fun c hc =>
    mem_groupsText (fun g hg => lt_of_mem_groups hg) hc
  have hp : '%' ∉ groupsText (groups n) := by
    intro h
    rcases hmem _ h with hc | hc
    · exact absurd hc (by decide)
    · exact absurd hc (by decide)
  have hfind := find?_separator_colon hmem (colon_mem_groupsText (length_groups n)) (zoneText zone)
  rw [parseAddr, String.toList_ofList]
  simp only [hfind]
  rw [parseIPv6_append_zoneText hp,
    parseIPv6Groups_groupsText (length_groups n) (fun g hg => lt_of_mem_groups hg)]
  simp [ofGroups_groups n.isLt]

/-- Printing and then reading an address gives the address back. -/
theorem parseAddr_toString (a : Addr) : parseAddr a.toString = some a := by
  cases a with
  | v4 n =>
      rw [parseAddr, Addr.toString, String.toList_ofList]
      simp only [Addr.bareText, Addr.zone, zoneText, if_true, List.append_nil,
        find?_separator_dot, parseIPv4Fields_ipv4Text, Option.map_some]
      simp [Fin.ext_iff]
  | v6 n zone =>
      by_cases hm : n.val / 2 ^ 32 = 0xffff
      · have htext : (Addr.v6 n zone).bareText = "::ffff:".toList ++ ipv4Text n := by
          simp only [Addr.bareText, hm, if_true]
        have hp := percent_notMem_bareText (.v6 n zone)
        have hfind : ((Addr.v6 n zone).bareText ++ zoneText zone).find?
            (fun c => c == '.' || c == ':' || c == '%') = some ':' := by
          rw [htext]
          rfl
        rw [parseAddr, Addr.toString, String.toList_ofList]
        simp only [Addr.zone, hfind]
        rw [parseIPv6_append_zoneText hp, htext, parseIPv6Groups_mapped]
        simp only [Option.map_some, Option.some.injEq, Addr.v6.injEq, and_true, Fin.ext_iff,
          Fin.val_ofNat, ofGroups, List.foldl_cons, List.foldl_nil]
        have hn := n.isLt
        omega
      · have htext : (Addr.v6 n zone).bareText = groupsText (groups n) := by
          simp only [Addr.bareText, hm, if_false]
        rw [Addr.toString, htext]
        exact parseAddr_groupsText n zone

/-! ## The characters of a text that reads as an address -/

theorem isDigit_of_parseOctet {cs : List Char} {n : Nat} (h : parseOctet cs = some n) :
    ∀ c ∈ cs, c.isDigit = true := by
  have hs : ∃ m, strictDecimal? cs = some m := by
    rw [parseOctet] at h
    split at h
    · rename_i m hm
      exact ⟨m, hm⟩
    · cases h
  obtain ⟨m, hm⟩ := hs
  have hd := decimal?_of_strictDecimal? hm
  rw [decimal?] at hd
  split at hd
  · rename_i hall
    exact List.all_eq_true.mp hall.2
  · cases hd

theorem mem_of_parseIPv4Fields {cs : List Char} {n : Nat} (h : parseIPv4Fields cs = some n)
    {c : Char} (hc : c ∈ cs) : c.isDigit = true ∨ c = '.' := by
  rcases eq_or_mem_of_splitOn '.' hc with hdot | ⟨part, hpart, hc⟩
  · exact .inr hdot
  · left
    rw [parseIPv4Fields] at h
    split at h
    · rename_i f₁ f₂ f₃ f₄ hsplit
      split at h
      · rename_i n₁ n₂ n₃ n₄ h₁ h₂ h₃ h₄
        rw [hsplit] at hpart
        simp only [List.mem_cons, List.not_mem_nil, or_false] at hpart
        rcases hpart with rfl | rfl | rfl | rfl
        · exact isDigit_of_parseOctet h₁ c hc
        · exact isDigit_of_parseOctet h₂ c hc
        · exact isDigit_of_parseOctet h₃ c hc
        · exact isDigit_of_parseOctet h₄ c hc
      · cases h
    · cases h

/-- The characters of an address without a zone. -/
def isAddrChar (c : Char) : Prop := isHex c = true ∨ c = ':' ∨ c = '.'

theorem isAddrChar_of_parseIPv4Fields {cs : List Char} {n : Nat}
    (h : parseIPv4Fields cs = some n) : ∀ c ∈ cs, isAddrChar c := by
  intro c hc
  rcases mem_of_parseIPv4Fields h hc with hd | rfl
  · exact .inl (isHex_of_isDigit hd)
  · exact .inr (.inr rfl)

theorem mem_takeWhile_or_dropWhile {p : Char → Bool} {cs : List Char} {c : Char} (h : c ∈ cs) :
    p c = true ∨ c ∈ cs.dropWhile p := by
  rw [← List.takeWhile_append_dropWhile (p := p) (l := cs)] at h
  rcases List.mem_append.mp h with h | h
  · exact .inl (List.mem_takeWhile_imp h)
  · exact .inr h

theorem isAddrChar_of_parseGroups {fuel : Nat} {gs gs' : List Nat} {e e' : Option Nat}
    {s : List Char} (h : parseGroups fuel gs e s = some (gs', e', [])) :
    ∀ c ∈ s, isAddrChar c := by
  induction fuel generalizing gs e s with
  | zero =>
      simp only [parseGroups, Option.some.injEq, Prod.mk.injEq] at h
      simp [h.2.2]
  | succ fuel ih =>
      intro c hc
      rcases mem_takeWhile_or_dropWhile (p := isHex) hc with hx | hd
      · exact .inl hx
      · simp only [parseGroups] at h
        split at h
        · cases h
        · split at h
          · rename_i heq
            rw [heq] at hd
            cases hd
          · rename_i tail heq
            split at h
            · cases h
            · obtain ⟨n, hn, -⟩ := Option.map_eq_some_iff.mp h
              exact isAddrChar_of_parseIPv4Fields hn c hc
          · cases h
          · rename_i tail heq
            rw [heq] at hd
            split at h
            · cases h
            · split at h
              · rename_i ht
                subst ht
                simp only [List.mem_cons, List.not_mem_nil, or_false, or_self] at hd
                exact .inr (.inl hd)
              · rcases List.mem_cons.mp hd with rfl | hd
                · exact .inr (.inl rfl)
                · rcases List.mem_cons.mp hd with rfl | hd
                  · exact .inr (.inl rfl)
                  · exact ih h c hd
          · rename_i tail _ _ heq
            rw [heq] at hd
            rcases List.mem_cons.mp hd with rfl | hd
            · exact .inr (.inl rfl)
            · exact ih h c hd
          · cases h

theorem isAddrChar_of_bind {fuel : Nat} {gs gs' : List Nat} {e : Option Nat} {s : List Char}
    (h : (parseGroups fuel gs e s).bind expandGroups = some gs') : ∀ c ∈ s, isAddrChar c := by
  obtain ⟨⟨groups, ellipsis, rest⟩, hp, he⟩ := Option.bind_eq_some_iff.mp h
  by_cases hrest : rest = []
  · subst hrest
    exact isAddrChar_of_parseGroups hp
  · simp [expandGroups, hrest] at he

theorem isAddrChar_of_parseIPv6Groups {s : List Char} {gs : List Nat}
    (h : parseIPv6Groups s = some gs) : ∀ c ∈ s, isAddrChar c := by
  unfold parseIPv6Groups at h
  split at h
  · rename_i tail
    intro c hc
    rcases List.mem_cons.mp hc with rfl | hc
    · exact .inr (.inl rfl)
    · rcases List.mem_cons.mp hc with rfl | hc
      · exact .inr (.inl rfl)
      · split at h
        · rename_i ht
          subst ht
          cases hc
        · exact isAddrChar_of_bind h c hc
  · exact isAddrChar_of_bind h

/-- A text that reads as an address without a zone has no other characters. -/
theorem isAddrChar_of_parseAddr {s : String} {a : Addr} (h : parseAddr s = some a)
    (hz : a.zone = "") : ∀ c ∈ s.toList, isAddrChar c := by
  rw [parseAddr] at h
  split at h
  · obtain ⟨n, hn, -⟩ := Option.map_eq_some_iff.mp h
    exact isAddrChar_of_parseIPv4Fields hn
  · simp only [parseIPv6] at h
    split at h
    · cases h
    · rename_i hzone
      obtain ⟨gs, hgs, rfl⟩ := Option.map_eq_some_iff.mp h
      have hnil : (s.toList.dropWhile (· ≠ '%')).drop 1 = [] := by
        simpa [Addr.zone, String.ofList_eq_empty_iff] using hz
      have hno : '%' ∉ s.toList := fun hmem => hzone ⟨hmem, hnil⟩
      have htake : s.toList.takeWhile (· ≠ '%') = s.toList :=
        List.takeWhile_eq_self_iff.mpr fun c hc => by
          simp only [decide_eq_true_eq]
          intro hsame
          subst hsame
          exact hno hc
      rw [htake] at hgs
      exact isAddrChar_of_parseIPv6Groups hgs
  · cases h

end Grouproxy.Netip
