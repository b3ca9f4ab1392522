import Grouproxy.Library.TreeReading

/-! # A reader of JSON

White space, escapes with surrogate pairs, and objects, in which the last of several fields with
one key counts. What a text without quotes is as a number with a fraction is a parameter. The reader
gives back every document that `json.dumps` wrote.
-/

namespace Grouproxy.JsonReader

open Text Value Value.Tree
open Encoding (controlEscape? pythonEscape quoteWith)

/-- The white space of JSON. -/
def isBlank (c : Char) : Bool := decide (c ∈ [' ', '\t', '\n', '\r'])

/-! ## Texts in quotes -/

/-- The character that a letter after a backslash stands for. -/
def escaped? (c : Char) : Option Nat :=
  if c = '"' ∨ c = '\\' ∨ c = '/' then some c.toNat
  else if c = 'b' then some 8
  else if c = 'f' then some 12
  else if c = 'n' then some 10
  else if c = 'r' then some 13
  else if c = 't' then some 9
  else none

/-- Where in an escape the reader is: outside, after the backslash, or after some hexadecimal digits
and their value. -/
inductive Escape where
  | outside
  | backslash
  | digits (count value : Nat)

def addUnit (n : Nat) : Option (List Nat × List Char) → Option (List Nat × List Char)
  | some (units, rest) => some (n :: units, rest)
  | none => none

/-- The code points and the escaped code units up to the closing quote, and what follows it. -/
def readUnits : Escape → List Char → Option (List Nat × List Char)
  | _, [] => none
  | .outside, c :: cs =>
    if c = '"' then some ([], cs)
    else if c = '\\' then readUnits .backslash cs
    else if c.toNat < 0x20 then none
    else addUnit c.toNat (readUnits .outside cs)
  | .backslash, c :: cs =>
    if c = 'u' then readUnits (.digits 0 0) cs
    else
      match escaped? c with
      | some n => addUnit n (readUnits .outside cs)
      | none => none
  | .digits count value, c :: cs =>
    match hexValue? c with
    | none => none
    | some d =>
      if count = 3 then addUnit (16 * value + d) (readUnits .outside cs)
      else readUnits (.digits (count + 1) (16 * value + d)) cs

def isHighSurrogate (n : Nat) : Bool := 0xd800 ≤ n && n < 0xdc00

def isLowSurrogate (n : Nat) : Bool := 0xdc00 ≤ n && n < 0xe000

/-- A surrogate alone becomes the replacement character. -/
def unitChar (n : Nat) : Char :=
  if isHighSurrogate n || isLowSurrogate n then '\ufffd' else Char.ofNat n

/-- Joins the pairs of surrogates. -/
def joinUnits : List Nat → List Char
  | [] => []
  | [n] => [unitChar n]
  | high :: low :: units =>
    if isHighSurrogate high ∧ isLowSurrogate low then
      Char.ofNat (0x10000 + (high - 0xd800) * 0x400 + (low - 0xdc00)) :: joinUnits units
    else unitChar high :: joinUnits (low :: units)

def readText (cs : List Char) : Option (String × List Char) :=
  (readUnits .outside cs).map fun p => (String.ofList (joinUnits p.1), p.2)

/-- An escaped character is read as itself. -/
theorem readUnits_pythonEscape (c : Char) (rest : List Char) :
    readUnits .outside (pythonEscape c ++ rest) = addUnit c.toNat (readUnits .outside rest) := by
  rw [pythonEscape, controlEscape?]
  by_cases hquote : c = '"'
  · subst hquote
    rfl
  by_cases hslash : c = '\\'
  · subst hslash
    rfl
  by_cases hn : c = '\n'
  · subst hn
    rfl
  by_cases hr : c = '\r'
  · subst hr
    rfl
  by_cases ht : c = '\t'
  · subst ht
    rfl
  by_cases hb : c.toNat = 8
  · simp only [hquote, hslash, hn, hr, ht, hb, if_false, if_true, Option.getD_some]
    rfl
  by_cases hf : c.toNat = 12
  · simp only [hquote, hslash, hn, hr, ht, hf, if_false, if_true]
    rfl
  by_cases hcontrol : c.toNat < 0x20
  · have hhigh := hexValue?_digitChar (c.toNat / 16) (by omega)
    have hlow := hexValue?_digitChar (c.toNat % 16) (by omega)
    have hzero := hexValue?_digitChar 0 (by decide)
    have hvalue : 16 * (c.toNat / 16) + c.toNat % 16 = c.toNat := by omega
    have hdigit : Nat.digitChar 0 = '0' := rfl
    rw [hdigit] at hzero
    simp [hquote, hslash, hn, hr, ht, hb, hf, hcontrol, readUnits, hzero, hhigh, hlow, hvalue]
  · simp [hquote, hslash, hn, hr, ht, hb, hf, hcontrol, readUnits]

theorem readUnits_flatMap (cs rest : List Char) :
    readUnits .outside (cs.flatMap pythonEscape ++ '"' :: rest) =
      some (cs.map Char.toNat, rest) := by
  induction cs with
  | nil => rfl
  | cons c cs ih =>
      rw [List.flatMap_cons, List.append_assoc, readUnits_pythonEscape, ih]
      rfl

/-- No character is a surrogate. -/
theorem unitChar_toNat (c : Char) : unitChar c.toNat = c := by
  have hvalid : c.toNat < 0xd800 ∨ (0xdfff < c.toNat ∧ c.toNat < 0x110000) := c.valid
  have hplain : (isHighSurrogate c.toNat || isLowSurrogate c.toNat) = false := by
    simp only [isHighSurrogate, isLowSurrogate, Bool.or_eq_false_iff, Bool.and_eq_false_iff,
      decide_eq_false_iff_not]
    omega
  rw [unitChar, hplain, if_neg Bool.false_ne_true, Char.ofNat_toNat]

theorem isHighSurrogate_toNat (c : Char) : isHighSurrogate c.toNat = false := by
  have hvalid : c.toNat < 0xd800 ∨ (0xdfff < c.toNat ∧ c.toNat < 0x110000) := c.valid
  simp only [isHighSurrogate, Bool.and_eq_false_iff, decide_eq_false_iff_not]
  omega

theorem joinUnits_map_toNat (cs : List Char) : joinUnits (cs.map Char.toNat) = cs := by
  induction cs with
  | nil => rfl
  | cons c cs ih =>
      cases cs with
      | nil => rw [List.map_singleton, joinUnits, unitChar_toNat]
      | cons d cs =>
          rw [List.map_cons, List.map_cons, joinUnits, isHighSurrogate_toNat,
            if_neg fun h => Bool.false_ne_true h.1, unitChar_toNat, ← List.map_cons, ih]

/-- A quoted text is read back, with what follows it. -/
theorem readText_flatMap (s : String) (rest : List Char) :
    readText (s.toList.flatMap pythonEscape ++ '"' :: rest) = some (s, rest) := by
  rw [readText, readUnits_flatMap, Option.map_some, joinUnits_map_toNat, String.ofList_toList]

/-! ## Words -/

/-- An integer without superfluous zeros. -/
def strictInt? (cs : List Char) : Option Int :=
  match cs with
  | '-' :: digits => (strictDecimal? digits).map fun n : Nat => -(n : Int)
  | digits => (strictDecimal? digits).map fun n : Nat => (n : Int)

/-- The value of a word: a name, an integer, or what `float` makes of it. -/
def word? (float : String → Option Float64) (cs : List Char) : Option Tree :=
  if cs = "null".toList then some .null
  else if cs = "true".toList then some (.bool true)
  else if cs = "false".toList then some (.bool false)
  else
    match strictInt? cs with
    | some n => some (.int n)
    | none => (float (String.ofList cs)).map .float

/-- What a word does not contain. -/
def endsWord (c : Char) : Bool := isDelimiter c || isBlank c

theorem head?_toDigits {n : Nat} (h : 0 < n) : (Nat.toDigits 10 n).head? ≠ some '0' := by
  induction n using Nat.strongRecOn with
  | ind n ih =>
      by_cases hlt : n < 10
      · have hall : ∀ n < 10, 0 < n → (Nat.toDigits 10 n).head? ≠ some '0' := by decide
        exact hall n hlt h
      · have hne : Nat.toDigits 10 (n / 10) ≠ [] := Nat.toDigits_ne_nil
        rw [Nat.toDigits_of_base_le (by decide) (by omega), List.head?_append_of_ne_nil _ hne]
        exact ih (n / 10) (by omega) (by omega)

theorem strictDecimal?_toDigits (n : Nat) : strictDecimal? (Nat.toDigits 10 n) = some n := by
  rw [strictDecimal?]
  by_cases hn : 0 < n
  · rw [if_pos (.inr (head?_toDigits hn)), decimal?_toDigits]
  · obtain rfl : n = 0 := by omega
    rfl

theorem strictInt?_intText (n : Int) : strictInt? (intText n) = some n := by
  rw [intText]
  by_cases hn : n < 0
  · rw [if_pos hn, List.singleton_append]
    simp only [strictInt?, strictDecimal?_toDigits, Option.map_some, Option.some.injEq]
    omega
  · rw [if_neg hn, List.nil_append]
    have hminus : ∀ digits, Nat.toDigits 10 n.natAbs ≠ '-' :: digits := by
      intro digits hdigits
      have hmem : '-' ∈ Nat.toDigits 10 n.natAbs := by
        rw [hdigits]
        exact List.mem_cons_self
      have hdigit := Nat.isDigit_of_mem_toDigits (by decide) (by decide) hmem
      cases hdigit
    rw [strictInt?.eq_2 _ hminus, strictDecimal?_toDigits, Option.map_some, Option.some.injEq]
    omega

/-! ## Values -/

section Values

variable (float : String → Option Float64)

/-- Adds a field unless a later one has its key. -/
def addField (key : String) (value : Tree) (fields : List (String × Tree)) :
    List (String × Tree) :=
  if key ∈ fields.map Prod.fst then fields else (key, value) :: fields

mutual
/-- A value and what follows it; the number bounds the steps. -/
def readValue : Nat → List Char → Option (Tree × List Char)
  | 0, _ => none
  | fuel + 1, cs =>
    match cs.dropWhile isBlank with
    | [] => none
    | c :: cs =>
      if c = '"' then (readText cs).map fun p => (.str p.1, p.2)
      else if c = '[' then
        if (cs.dropWhile isBlank).head? = some ']' then some (.list [], (cs.dropWhile isBlank).tail)
        else (readItems fuel cs).map fun p => (.list p.1, p.2)
      else if c = '\x7b' then
        if (cs.dropWhile isBlank).head? = some '\x7d' then
          some (.dict [], (cs.dropWhile isBlank).tail)
        else (readFields fuel cs).map fun p => (.dict p.1, p.2)
      else
        (word? float ((c :: cs).takeWhile fun d => !endsWord d)).map fun tree =>
          (tree, (c :: cs).dropWhile fun d => !endsWord d)
/-- The items of a list, of which there is one. -/
def readItems : Nat → List Char → Option (List Tree × List Char)
  | 0, _ => none
  | fuel + 1, cs =>
    match readValue fuel cs with
    | none => none
    | some (item, rest) =>
      match rest.dropWhile isBlank with
      | ',' :: rest => (readItems fuel rest).map fun p => (item :: p.1, p.2)
      | ']' :: rest => some ([item], rest)
      | _ => none
/-- The fields of an object, of which there is one. -/
def readFields : Nat → List Char → Option (List (String × Tree) × List Char)
  | 0, _ => none
  | fuel + 1, cs =>
    match cs.dropWhile isBlank with
    | '"' :: cs =>
      match readText cs with
      | none => none
      | some (key, rest) =>
        match rest.dropWhile isBlank with
        | ':' :: rest =>
          match readValue fuel rest with
          | none => none
          | some (value, rest) =>
            match rest.dropWhile isBlank with
            | ',' :: rest => (readFields fuel rest).map fun p => (addField key value p.1, p.2)
            | '\x7d' :: rest => some ([(key, value)], rest)
            | _ => none
        | _ => none
    | _ => none
end

/-- The document that a text is of, with nothing after it but white space. -/
def read (cs : List Char) : Option Tree :=
  match readValue float (2 * cs.length + 1) cs with
  | some (tree, rest) => if rest.dropWhile isBlank = [] then some tree else none
  | none => none

end Values

/-! ## Documents read back -/

/-- A document of texts, of names and of integers that a `float64` holds exactly, in which no object
has a key twice, and its depth. -/
inductive IsPlain : Nat → Tree → Prop
  | null (depth : Nat) : IsPlain depth .null
  | bool (depth : Nat) (b : Bool) : IsPlain depth (.bool b)
  | int (depth : Nat) (n : Int) (h : n.natAbs < 2 ^ 53) : IsPlain depth (.int n)
  | str (depth : Nat) (s : String) : IsPlain depth (.str s)
  | list (depth : Nat) (items : List Tree) (h : ∀ item ∈ items, IsPlain depth item) :
    IsPlain (depth + 1) (.list items)
  | dict (depth : Nat) (fields : List (String × Tree)) (hkeys : (fields.map Prod.fst).Nodup)
    (h : ∀ f ∈ fields, IsPlain depth f.2) : IsPlain (depth + 1) (.dict fields)

section ReadBack

variable {float : String → Option Float64} {depth : Nat} {v : Tree}

/-- The text of `v` is read as `v` with its keys sorted, whatever follows it. -/
def Reads (float : String → Option Float64) (v : Tree) : Prop :=
  ∀ fuel rest, 2 * (dumps v).length + 1 ≤ fuel → Ended rest →
    readValue float fuel (dumps v ++ rest) = some (v.sorted, rest)

/-- A text of names and numbers is one word. -/
theorem reads_of_word (hne : dumps v ≠ []) (hword : ∀ c ∈ dumps v, isMark c = false ∧
    isBlank c = false) (hsorted : word? float (dumps v) = some v.sorted) : Reads float v := by
  intro fuel rest hfuel hrest
  obtain ⟨c, cs, hcs⟩ := List.exists_cons_of_ne_nil hne
  obtain ⟨fuel, rfl⟩ : ∃ k, fuel = k + 1 := ⟨fuel - 1, by omega⟩
  have hc := hword c (by rw [hcs]; exact List.mem_cons_self)
  have hends : ∀ d ∈ dumps v, (!endsWord d) = true := by
    intro d hd
    obtain ⟨hmark, hblank⟩ := hword d hd
    rw [isMark, Bool.or_eq_false_iff] at hmark
    rw [endsWord, hmark.1, hblank]
    rfl
  have hstop : ∀ d ∈ rest.head?, (!endsWord d) = false := by
    intro d hd
    rw [endsWord, hrest d hd]
    rfl
  have hquote : c ≠ '"' ∧ c ≠ '[' ∧ c ≠ '\x7b' := by
    have hall : isMark '"' = true ∧ isMark '[' = true ∧ isMark '\x7b' = true := by decide
    refine ⟨?_, ?_, ?_⟩
    · rintro rfl
      exact absurd hc.1 (by rw [hall.1]; decide)
    · rintro rfl
      exact absurd hc.1 (by rw [hall.2.1]; decide)
    · rintro rfl
      exact absurd hc.1 (by rw [hall.2.2]; decide)
  have htake : (dumps v ++ rest).takeWhile (fun d => !endsWord d) = dumps v := by
    rw [List.takeWhile_append_of_pos hends]
    cases rest with
    | nil => simp
    | cons d rest => simp [hstop d rfl]
  have hdrop : (dumps v ++ rest).dropWhile (fun d => !endsWord d) = rest := by
    rw [List.dropWhile_append_of_pos hends]
    cases rest with
    | nil => simp
    | cons d rest => simp [hstop d rfl]
  rw [readValue]
  rw [hcs, List.cons_append] at htake hdrop ⊢
  rw [List.dropWhile_cons_of_neg (by rw [hc.2]; decide)]
  simp only [hquote.1, hquote.2.1, hquote.2.2, if_false]
  rw [htake, hdrop, ← hcs, hsorted]
  rfl

theorem isBlank_of_isDigit {c : Char} (h : c.isDigit = true) : isBlank c = false := by
  rw [isBlank, decide_eq_false_iff_not]
  intro hblank
  have hall : ∀ d ∈ [' ', '\t', '\n', '\r'], d.isDigit = false := by simp
  rw [hall c hblank] at h
  cases h

theorem reads_int (n : Int) : Reads float (.int n) := by
  have hne : intText n ≠ [] := by
    intro hnil
    have hread := strictInt?_intText n
    rw [hnil] at hread
    cases hread
  have hletter : ∀ c, c ≠ '-' → c.isDigit = false → c ∉ intText n := by
    intro c hminus hdigit hc
    rcases mem_intText hc with hc | hc
    · exact hminus hc
    · rw [hdigit] at hc
      cases hc
  have hnull : intText n ≠ "null".toList := fun h =>
    hletter 'u' (by decide) (by decide) (by rw [h]; decide)
  have htrue : intText n ≠ "true".toList := fun h =>
    hletter 'u' (by decide) (by decide) (by rw [h]; decide)
  have hfalse : intText n ≠ "false".toList := fun h =>
    hletter 's' (by decide) (by decide) (by rw [h]; decide)
  apply reads_of_word
  · exact hne
  · intro c hc
    rw [dumps] at hc
    rcases mem_intText hc with rfl | hdigit
    · decide
    · exact ⟨isMark_of_isDigit hdigit, isBlank_of_isDigit hdigit⟩
  · rw [dumps, word?, if_neg hnull, if_neg htrue, if_neg hfalse, strictInt?_intText]
    rfl

theorem reads_str (s : String) : Reads float (.str s) := by
  intro fuel rest hfuel _
  obtain ⟨fuel, rfl⟩ : ∃ k, fuel = k + 1 := ⟨fuel - 1, by omega⟩
  have htext : dumps (.str s) ++ rest = '"' :: (s.toList.flatMap pythonEscape ++ '"' :: rest) := by
    rw [dumps, quoteWith]
    simp
  rw [readValue, htext, List.dropWhile_cons_of_neg (by decide)]
  simp only [if_true]
  rw [readText_flatMap]
  rfl

theorem IsPlain.readsBack (h : IsPlain depth v) : ReadsBack float v := by
  induction h with
  | null => exact .null
  | bool _ b => exact .bool b
  | int _ n => exact .int n
  | str _ s => exact .str s
  | list _ items _ ih => exact .list items ih
  | dict _ fields _ _ ih => exact .dict fields ih

/-- No text of a document starts with white space or with a closing bracket. -/
theorem IsPlain.exists_head (h : IsPlain depth v) :
    ∃ c cs, dumps v = c :: cs ∧ isBlank c = false ∧ isDelimiter c = false := by
  have hread : ReadsBack (fun _ => none) v := h.readsBack
  obtain ⟨c, cs, hcs, hdelimiter, -⟩ := exists_head_dumps hread
  refine ⟨c, cs, hcs, ?_, hdelimiter⟩
  cases h with
  | null => cases hcs; decide
  | bool _ b => cases b <;> cases hcs <;> decide
  | int _ n =>
      have hc : c ∈ intText n := by
        rw [dumps] at hcs
        rw [hcs]
        exact List.mem_cons_self
      rcases mem_intText hc with rfl | hdigit
      · decide
      · exact isBlank_of_isDigit hdigit
  | str _ s => cases hcs; decide
  | list _ items _ => cases hcs; decide
  | dict _ fields _ _ => cases hcs; decide

/-- The items of a list are read one after the other. -/
theorem readItems_texts {item : Tree} {items : List Tree} (hitem : Reads float item)
    (hitems : ∀ other ∈ items, Reads float other) (fuel : Nat) (rest : List Char)
    (hfuel : 2 * (dumps item ++ commaTexts (items.map dumps)).length + 2 ≤ fuel) :
    readItems float fuel (dumps item ++ (commaTexts (items.map dumps) ++ ']' :: rest)) =
      some ((item :: items).map sorted, rest) := by
  induction items generalizing item fuel with
  | nil =>
      obtain ⟨fuel, rfl⟩ : ∃ k, fuel = k + 1 := ⟨fuel - 1, by omega⟩
      rw [List.length_append] at hfuel
      rw [List.map_nil, commaTexts, List.flatMap_nil, List.nil_append, readItems,
        hitem fuel _ (by omega) (ended_cons rfl rest)]
      simp only
      rw [List.dropWhile_cons_of_neg (by decide)]
      rfl
  | cons next items ih =>
      obtain ⟨fuel, rfl⟩ : ∃ k, fuel = k + 1 := ⟨fuel - 1, by omega⟩
      rw [List.forall_mem_cons] at hitems
      have htexts : commaTexts ((next :: items).map dumps) =
          ',' :: (dumps next ++ commaTexts (items.map dumps)) := by
        rw [commaTexts, List.map_cons, List.flatMap_cons, List.cons_append, commaTexts]
      rw [htexts, List.length_append, List.length_cons] at hfuel
      have hnext := ih hitems.1 hitems.2 fuel (by omega)
      rw [htexts, readItems, List.cons_append, List.append_assoc,
        hitem fuel _ (by omega) (ended_cons rfl _)]
      simp only
      rw [List.dropWhile_cons_of_neg (by decide)]
      simp only
      rw [hnext]
      rfl

theorem reads_list {items : List Tree} (hplain : ∀ item ∈ items, IsPlain depth item)
    (h : ∀ item ∈ items, Reads float item) : Reads float (.list items) := by
  intro fuel rest hfuel _
  obtain ⟨fuel, rfl⟩ : ∃ k, fuel = k + 1 := ⟨fuel - 1, by omega⟩
  rw [dumps_list] at hfuel ⊢
  rw [readValue, sorted, sortedList_eq_map, List.cons_append, List.cons_append,
    List.dropWhile_cons_of_neg (by decide)]
  simp only [show ('[' : Char) ≠ '"' by decide, if_false, if_true]
  cases items with
  | nil => rfl
  | cons item items =>
      rw [List.forall_mem_cons] at hplain h
      obtain ⟨c, cs, hcs, hblank, hdelimiter⟩ := hplain.1.exists_head
      have hne : c ≠ ']' := by
        rintro rfl
        cases hdelimiter
      rw [List.map_cons, intercalate_comma] at hfuel ⊢
      simp only [List.length_append, List.length_cons, List.length_nil] at hfuel
      have htexts := readItems_texts h.1 h.2 fuel rest
        (by rw [List.length_append]; omega)
      have hbody : dumps item ++ commaTexts (items.map dumps) ++ [']'] ++ rest =
          dumps item ++ (commaTexts (items.map dumps) ++ ']' :: rest) := by simp
      have hhead : ((dumps item ++ (commaTexts (items.map dumps) ++ ']' :: rest)).dropWhile
          isBlank).head? ≠ some ']' := by
        rw [hcs, List.cons_append, List.dropWhile_cons_of_neg (by rw [hblank]; decide)]
        simpa using hne
      rw [hbody, if_neg hhead, htexts]
      rfl

theorem addField_of_notMem {key : String} {fields : List (String × Tree)}
    (h : key ∉ fields.map Prod.fst) (value : Tree) :
    addField key value fields = (key, value) :: fields := if_neg h

/-- The fields of an object are read one after the other. -/
theorem readFields_texts {f : String × Tree} {fields : List (String × Tree)}
    (hkeys : ((f :: fields).map Prod.fst).Nodup) (hf : Reads float f.2)
    (hfields : ∀ g ∈ fields, Reads float g.2) (fuel : Nat) (rest : List Char)
    (hfuel : 2 * (fieldText f ++ commaTexts (fields.map fieldText)).length + 2 ≤ fuel) :
    readFields float fuel (fieldText f ++ (commaTexts (fields.map fieldText) ++ '\x7d' :: rest)) =
      some ((f :: fields).map sortedField, rest) := by
  induction fields generalizing f fuel with
  | nil =>
      obtain ⟨fuel, rfl⟩ : ∃ k, fuel = k + 1 := ⟨fuel - 1, by omega⟩
      have htext : fieldText f ++ (commaTexts (([] : List (String × Tree)).map fieldText) ++
          '\x7d' :: rest) = '"' :: (f.1.toList.flatMap pythonEscape ++ '"' :: (':' ::
            (dumps f.2 ++ '\x7d' :: rest))) := by
        simp [fieldText, quoteWith, commaTexts]
      have hlength : (dumps f.2).length ≤ (fieldText f).length := by
        rw [fieldText, List.length_append, List.length_cons]
        omega
      rw [List.length_append] at hfuel
      rw [htext, readFields, List.dropWhile_cons_of_neg (by decide)]
      simp only
      rw [readText_flatMap]
      simp only
      rw [List.dropWhile_cons_of_neg (by decide)]
      simp only
      rw [hf fuel _ (by omega) (ended_cons rfl rest)]
      simp only
      rw [List.dropWhile_cons_of_neg (by decide)]
      rfl
  | cons g fields ih =>
      obtain ⟨fuel, rfl⟩ : ∃ k, fuel = k + 1 := ⟨fuel - 1, by omega⟩
      rw [List.forall_mem_cons] at hfields
      rw [List.map_cons, List.nodup_cons] at hkeys
      have htexts : commaTexts ((g :: fields).map fieldText) =
          ',' :: (fieldText g ++ commaTexts (fields.map fieldText)) := by
        rw [commaTexts, List.map_cons, List.flatMap_cons, List.cons_append, commaTexts]
      have htext : fieldText f ++ (commaTexts ((g :: fields).map fieldText) ++ '\x7d' :: rest) =
          '"' :: (f.1.toList.flatMap pythonEscape ++ '"' :: (':' :: (dumps f.2 ++ ',' ::
            (fieldText g ++ (commaTexts (fields.map fieldText) ++ '\x7d' :: rest))))) := by
        rw [htexts]
        simp [fieldText, quoteWith]
      have hlength : (dumps f.2).length ≤ (fieldText f).length := by
        rw [fieldText, List.length_append, List.length_cons]
        omega
      rw [htexts, List.length_append, List.length_cons] at hfuel
      have hnext := ih hkeys.2 hfields.1 hfields.2 fuel (by omega)
      have hkey : f.1 ∉ ((g :: fields).map sortedField).map Prod.fst := by
        rw [List.map_map]
        exact hkeys.1
      rw [htext, readFields, List.dropWhile_cons_of_neg (by decide)]
      simp only
      rw [readText_flatMap]
      simp only
      rw [List.dropWhile_cons_of_neg (by decide)]
      simp only
      rw [hf fuel _ (by omega) (ended_cons rfl _)]
      simp only
      rw [List.dropWhile_cons_of_neg (by decide)]
      simp only
      rw [hnext, Option.map_some, addField_of_notMem hkey]
      rfl

theorem reads_dict {fields : List (String × Tree)} (hkeys : (fields.map Prod.fst).Nodup)
    (h : ∀ f ∈ fields, Reads float f.2) : Reads float (.dict fields) := by
  intro fuel rest hfuel _
  obtain ⟨fuel, rfl⟩ : ∃ k, fuel = k + 1 := ⟨fuel - 1, by omega⟩
  have hperm := perm_sortKeys fields
  rw [dumps_dict] at hfuel ⊢
  rw [readValue, sorted_dict, List.cons_append, List.cons_append,
    List.dropWhile_cons_of_neg (by decide)]
  simp only [show ('\x7b' : Char) ≠ '"' by decide, show ('\x7b' : Char) ≠ '[' by decide, if_false,
    if_true]
  cases hsorted : sortKeys fields with
  | nil => rfl
  | cons f rest' =>
      have hmem : ∀ g ∈ f :: rest', Reads float g.2 := by
        intro g hg
        rw [← hsorted] at hg
        exact h g (hperm.mem_iff.mp hg)
      have hnodup : ((f :: rest').map Prod.fst).Nodup := by
        rw [← hsorted, (hperm.map Prod.fst).nodup_iff]
        exact hkeys
      rw [hsorted] at hfuel
      rw [List.map_cons, intercalate_comma] at hfuel ⊢
      simp only [List.length_append, List.length_cons, List.length_nil] at hfuel
      rw [List.forall_mem_cons] at hmem
      have htexts := readFields_texts hnodup hmem.1 hmem.2 fuel rest
        (by rw [List.length_append]; omega)
      have hbody : fieldText f ++ commaTexts (rest'.map fieldText) ++ ['\x7d'] ++ rest =
          fieldText f ++ (commaTexts (rest'.map fieldText) ++ '\x7d' :: rest) := by simp
      have hhead : ((fieldText f ++ (commaTexts (rest'.map fieldText) ++ '\x7d' :: rest)).dropWhile
          isBlank).head? ≠ some '\x7d' := by
        rw [fieldText, quoteWith, List.cons_append, List.cons_append, List.cons_append,
          List.dropWhile_cons_of_neg (by decide)]
        simp
      rw [hbody, if_neg hhead, htexts]
      rfl

theorem reads_of_isPlain (h : IsPlain depth v) : Reads float v := by
  induction h with
  | null =>
      exact reads_of_word (by decide) (by simp [dumps, isMark, isDelimiter, isBlank]) rfl
  | bool _ b =>
      cases b <;>
        exact reads_of_word (by decide)
          (by simp [dumps, Encoding.boolText, isMark, isDelimiter, isBlank]) rfl
  | int _ n => exact reads_int n
  | str _ s => exact reads_str s
  | list _ items hplain ih => exact reads_list hplain ih
  | dict _ fields hkeys _ ih => exact reads_dict hkeys ih

/-- The reader gives back a document that was written, with the keys in the order of the text. -/
theorem read_dumps (float : String → Option Float64) (h : IsPlain depth v) :
    read float (dumps v) = some v.sorted := by
  have hread : Reads float v := reads_of_isPlain h
  have hnone : Ended [] := fun c hc => by cases hc
  have hvalue := hread (2 * (dumps v).length + 1) [] (Nat.le_refl _) hnone
  rw [List.append_nil] at hvalue
  rw [read, hvalue]
  rfl

end ReadBack

end Grouproxy.JsonReader
