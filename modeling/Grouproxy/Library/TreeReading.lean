import Grouproxy.Library.TreeText

/-! # The JSON text of a document determines it

Two documents with the same text are the same up to the order of their keys. The text of a number
with a fraction is assumed to read back as the number.
-/

namespace Grouproxy.Value

open Text Encoding

/-! ## Texts that end -/

/-- What ends a number or a name: a comma or a closing bracket. -/
def isDelimiter (c : Char) : Bool := c == ',' || c == ']' || c == '}'

/-- The text after a value. -/
def Ended (rest : List Char) : Prop := ∀ c ∈ rest.head?, isDelimiter c = true

theorem ended_cons {c : Char} (h : isDelimiter c = true) (rest : List Char) : Ended (c :: rest) := by
  intro d hd
  cases hd
  exact h

/-- Words without a delimiter are told from what follows them. -/
theorem append_inj_of_ended {xs ys rest others : List Char}
    (hxs : ∀ c ∈ xs, isDelimiter c = false) (hys : ∀ c ∈ ys, isDelimiter c = false)
    (hrest : Ended rest) (hothers : Ended others) (h : xs ++ rest = ys ++ others) :
    xs = ys ∧ rest = others := by
  induction xs generalizing ys with
  | nil =>
      cases ys with
      | nil => exact ⟨rfl, h⟩
      | cons y ys =>
          rw [List.nil_append, List.cons_append] at h
          have hend := hrest y (by rw [h]; rfl)
          rw [hys y List.mem_cons_self] at hend
          cases hend
  | cons x xs ih =>
      cases ys with
      | nil =>
          rw [List.nil_append, List.cons_append] at h
          have hend := hothers x (by rw [← h]; rfl)
          rw [hxs x List.mem_cons_self] at hend
          cases hend
      | cons y ys =>
          rw [List.cons_append, List.cons_append, List.cons.injEq] at h
          obtain ⟨hsame, hrest'⟩ := ih (fun c hc => hxs c (List.mem_cons_of_mem _ hc))
            (fun c hc => hys c (List.mem_cons_of_mem _ hc)) h.2
          exact ⟨by rw [h.1, hsame], hrest'⟩

/-! ## Texts in quotes -/

/-- The value of a hexadecimal digit. -/
def hexValue (c : Char) : Nat :=
  if c.isDigit then c.toNat - '0'.toNat else c.toNat - 'a'.toNat + 10

theorem hexValue_digitChar : ∀ k < 16, hexValue (Nat.digitChar k) = k := by decide

/-- The character at the start of a quoted text, with what follows it. -/
def readChar : List Char → Option (Char × List Char)
  | '\\' :: 'u' :: '0' :: '0' :: a :: b :: rest =>
    some (Char.ofNat (16 * hexValue a + hexValue b), rest)
  | '\\' :: 'n' :: rest => some ('\n', rest)
  | '\\' :: 'r' :: rest => some ('\r', rest)
  | '\\' :: 't' :: rest => some ('\t', rest)
  | '\\' :: 'b' :: rest => some (Char.ofNat 8, rest)
  | '\\' :: 'f' :: rest => some (Char.ofNat 12, rest)
  | '\\' :: c :: rest => some (c, rest)
  | '"' :: _ => none
  | c :: rest => some (c, rest)
  | [] => none

theorem eq_ofNat {c : Char} {n : Nat} (h : c.toNat = n) : Char.ofNat n = c := by
  rw [← h, Char.ofNat_toNat]

theorem readChar_pythonEscape (c : Char) (rest : List Char) :
    readChar (pythonEscape c ++ rest) = some (c, rest) := by
  rw [pythonEscape, controlEscape?]
  by_cases hquote : c = '"'
  · subst hquote
    rfl
  by_cases hslash : c = '\\'
  · subst hslash
    rfl
  by_cases hn : c = '\n'
  · subst hn
    rfl
  by_cases hr : c = '\r'
  · subst hr
    rfl
  by_cases ht : c = '\t'
  · subst ht
    rfl
  by_cases hb : c.toNat = 8
  · simp only [hquote, hslash, hn, hr, ht, hb, if_false, if_true, Option.getD_some]
    exact congrArg (fun d => some (d, rest)) (eq_ofNat hb)
  by_cases hf : c.toNat = 12
  · simp only [hquote, hslash, hn, hr, ht, hf, if_false, if_true]
    exact congrArg (fun d => some (d, rest)) (eq_ofNat hf)
  by_cases hcontrol : c.toNat < 0x20
  · have hhigh := hexValue_digitChar (c.toNat / 16) (by omega)
    have hlow := hexValue_digitChar (c.toNat % 16) (by omega)
    have hchar : Char.ofNat (16 * (c.toNat / 16) + c.toNat % 16) = c := eq_ofNat (by omega)
    simp [hquote, hslash, hn, hr, ht, hb, hf, hcontrol, readChar, hhigh, hlow, hchar]
  · simp only [hquote, hslash, hn, hr, ht, hb, hf, hcontrol, if_false, Option.getD_none,
      List.cons_append, List.nil_append]
    rw [readChar.eq_def]
    split <;> simp_all

theorem pythonEscape_append_inj {c d : Char} {xs ys : List Char}
    (h : pythonEscape c ++ xs = pythonEscape d ++ ys) : c = d ∧ xs = ys := by
  have hread := congrArg readChar h
  rw [readChar_pythonEscape, readChar_pythonEscape] at hread
  cases hread
  exact ⟨rfl, rfl⟩

/-- No character of a text is written as the closing quote. -/
theorem pythonEscape_append_ne (c : Char) (xs ys : List Char) :
    pythonEscape c ++ xs ≠ '"' :: ys := by
  intro h
  have hread := congrArg readChar h
  rw [readChar_pythonEscape] at hread
  cases hread

theorem flatMap_pythonEscape_inj {cs ds xs ys : List Char}
    (h : cs.flatMap pythonEscape ++ '"' :: xs = ds.flatMap pythonEscape ++ '"' :: ys) :
    cs = ds ∧ xs = ys := by
  induction cs generalizing ds with
  | nil =>
      cases ds with
      | nil => exact ⟨rfl, (List.cons.inj h).2⟩
      | cons d ds =>
          rw [List.flatMap_cons, List.append_assoc] at h
          exact absurd h.symm (pythonEscape_append_ne _ _ _)
  | cons c cs ih =>
      rw [List.flatMap_cons, List.append_assoc] at h
      cases ds with
      | nil => exact absurd h (pythonEscape_append_ne _ _ _)
      | cons d ds =>
          rw [List.flatMap_cons, List.append_assoc] at h
          obtain ⟨rfl, hrest⟩ := pythonEscape_append_inj h
          obtain ⟨rfl, hend⟩ := ih hrest
          exact ⟨rfl, hend⟩

/-- A quoted text is told from what follows it. -/
theorem quoteWith_append_inj {s t : String} {xs ys : List Char}
    (h : quoteWith pythonEscape s ++ xs = quoteWith pythonEscape t ++ ys) : s = t ∧ xs = ys := by
  have hchars : s.toList.flatMap pythonEscape ++ '"' :: xs =
      t.toList.flatMap pythonEscape ++ '"' :: ys := by
    simpa [quoteWith] using h
  obtain ⟨hchars, hrest⟩ := flatMap_pythonEscape_inj hchars
  exact ⟨String.toList_inj.mp hchars, hrest⟩

/-! ## Numbers and names -/

/-- The characters of `float.__repr__`, of `NaN` and of `Infinity`. -/
def isFloatChar (c : Char) : Bool :=
  c.isDigit || decide (c ∈ ['-', '+', '.', 'e', 'N', 'a', 'I', 'n', 'f', 'i', 't', 'y'])

/-- A text that `json.dumps` writes of a `float`: it has a point, an exponent, or is a name. -/
def isFloatText (text : String) : Bool :=
  text.toList.all isFloatChar && text.toList.any fun c => decide (c ∈ ['.', 'e', 'N', 'I'])

/-- An integer in decimal. -/
def readInt (cs : List Char) : Option Int :=
  match cs with
  | '-' :: digits => (decimal? digits).map fun n : Nat => -(n : Int)
  | digits => (decimal? digits).map fun n : Nat => (n : Int)

theorem readInt_intText (n : Int) : readInt (intText n) = some n := by
  rw [intText]
  by_cases hn : n < 0
  · rw [if_pos hn, List.singleton_append]
    simp only [readInt, decimal?_toDigits, Option.map_some, Option.some.injEq]
    omega
  · rw [if_neg hn, List.nil_append]
    have hminus : ∀ digits, Nat.toDigits 10 n.natAbs ≠ '-' :: digits := by
      intro digits hdigits
      have hmem : '-' ∈ Nat.toDigits 10 n.natAbs := by
        rw [hdigits]
        exact List.mem_cons_self
      have hdigit := Nat.isDigit_of_mem_toDigits (by decide) (by decide) hmem
      cases hdigit
    rw [readInt.eq_2 _ hminus, decimal?_toDigits, Option.map_some, Option.some.injEq]
    omega

theorem isFloatText_intText (n : Int) : isFloatText (String.ofList (intText n)) = false := by
  rw [isFloatText, String.toList_ofList, Bool.and_eq_false_iff]
  right
  rw [List.any_eq_false]
  intro c hc hpoint
  have hpoints : ∀ d ∈ ['.', 'e', 'N', 'I'], d ≠ '-' ∧ d.isDigit = false := by simp
  have hpoint := hpoints c (of_decide_eq_true hpoint)
  rcases mem_intText hc with hminus | hdigit
  · exact hpoint.1 hminus
  · rw [hpoint.2] at hdigit
    cases hdigit

/-! ## Lists of texts -/

/-- Each text with a comma before it. -/
def commaTexts (parts : List (List Char)) : List Char := parts.flatMap fun part => ',' :: part

theorem intercalate_comma (part : List Char) (parts : List (List Char)) :
    [','].intercalate (part :: parts) = part ++ commaTexts parts := by
  induction parts generalizing part with
  | nil => simp [commaTexts]
  | cons next parts ih =>
      rw [List.intercalate_cons_cons, ih]
      simp [commaTexts]

section Parts

variable {α β : Type} {text : α → List Char} {meaning : α → β}

/-- The text of `x` is told from what follows it, among the texts of the items with `P`. -/
def Tells (text : α → List Char) (meaning : α → β) (P : α → Prop) (x : α) : Prop :=
  ∀ y, P y → ∀ rest others, Ended rest → Ended others → text x ++ rest = text y ++ others →
    meaning x = meaning y ∧ rest = others

theorem ended_commaTexts {close : Char} (hclose : isDelimiter close = true)
    (parts : List (List Char)) (rest : List Char) :
    Ended (commaTexts parts ++ close :: rest) := by
  cases parts with
  | nil => exact ended_cons hclose rest
  | cons part parts => exact ended_cons rfl _

theorem commaTexts_append_inj {P : α → Prop} {close : Char} (hclose : isDelimiter close = true)
    (hcomma : close ≠ ',') {xs ys : List α} (hxs : ∀ x ∈ xs, Tells text meaning P x)
    (hys : ∀ y ∈ ys, P y) {rest others : List Char}
    (h : commaTexts (xs.map text) ++ close :: rest = commaTexts (ys.map text) ++ close :: others) :
    xs.map meaning = ys.map meaning ∧ rest = others := by
  induction xs generalizing ys with
  | nil =>
      cases ys with
      | nil => exact ⟨rfl, (List.cons.inj h).2⟩
      | cons y ys => exact absurd (List.cons.inj h).1 hcomma
  | cons x xs ih =>
      cases ys with
      | nil => exact absurd (List.cons.inj h).1.symm hcomma
      | cons y ys =>
          have hpart : text x ++ (commaTexts (xs.map text) ++ close :: rest) =
              text y ++ (commaTexts (ys.map text) ++ close :: others) := by
            simpa [commaTexts] using h
          obtain ⟨hsame, hrest⟩ := hxs x List.mem_cons_self y (hys y List.mem_cons_self) _ _
            (ended_commaTexts hclose _ _) (ended_commaTexts hclose _ _) hpart
          obtain ⟨htail, hend⟩ := ih (fun z hz => hxs z (List.mem_cons_of_mem _ hz))
            (fun z hz => hys z (List.mem_cons_of_mem _ hz)) hrest
          exact ⟨by rw [List.map_cons, List.map_cons, hsame, htail], hend⟩

/-- The texts between brackets are told apart. -/
theorem intercalate_append_inj {P : α → Prop} {close : Char} (hclose : isDelimiter close = true)
    (hcomma : close ≠ ',') (hhead : ∀ x, P x → ∃ c cs, text x = c :: cs ∧ c ≠ close)
    {xs ys : List α} (hxs : ∀ x ∈ xs, P x ∧ Tells text meaning P x) (hys : ∀ y ∈ ys, P y)
    {rest others : List Char}
    (h : [','].intercalate (xs.map text) ++ close :: rest =
      [','].intercalate (ys.map text) ++ close :: others) :
    xs.map meaning = ys.map meaning ∧ rest = others := by
  cases xs with
  | nil =>
      cases ys with
      | nil => exact ⟨rfl, (List.cons.inj h).2⟩
      | cons y ys =>
          obtain ⟨c, cs, htext, hne⟩ := hhead y (hys y List.mem_cons_self)
          rw [List.map_cons, intercalate_comma, htext] at h
          exact absurd (List.cons.inj h).1.symm hne
  | cons x xs =>
      cases ys with
      | nil =>
          obtain ⟨c, cs, htext, hne⟩ := hhead x (hxs x List.mem_cons_self).1
          rw [List.map_cons, intercalate_comma, htext] at h
          exact absurd (List.cons.inj h).1 hne
      | cons y ys =>
          rw [List.map_cons, List.map_cons, intercalate_comma, intercalate_comma] at h
          apply commaTexts_append_inj hclose hcomma (fun z hz => (hxs z hz).2) hys
          simpa [commaTexts] using h

end Parts

/-! ## Documents -/

namespace Tree

/-- Every `float` in the document is read back from its text. -/
inductive ReadsBack (readFloat : String → Option Float64) : Tree → Prop
  | null : ReadsBack readFloat .null
  | bool (b : Bool) : ReadsBack readFloat (.bool b)
  | int (n : Int) : ReadsBack readFloat (.int n)
  | float (x : Float64) (hread : readFloat x.json = some x) (htext : isFloatText x.json = true) :
    ReadsBack readFloat (.float x)
  | str (s : String) : ReadsBack readFloat (.str s)
  | list (items : List Tree) (h : ∀ item ∈ items, ReadsBack readFloat item) :
    ReadsBack readFloat (.list items)
  | dict (fields : List (String × Tree)) (h : ∀ f ∈ fields, ReadsBack readFloat f.2) :
    ReadsBack readFloat (.dict fields)

/-- A document that is neither a text nor a list nor a mapping. -/
def isAtom : Tree → Bool
  | .str _ => false
  | .list _ => false
  | .dict _ => false
  | _ => true

/-- The characters that open a text, a list and a mapping, and those that end a value. -/
def isMark (c : Char) : Bool := isDelimiter c || decide (c ∈ ['"', '[', '\x7b'])

/-- The atom with a text. -/
def readAtom (readFloat : String → Option Float64) (cs : List Char) : Option Tree :=
  if cs = "null".toList then some .null
  else if cs = "true".toList then some (.bool true)
  else if cs = "false".toList then some (.bool false)
  else if isFloatText (String.ofList cs) then (readFloat (String.ofList cs)).map .float
  else (readInt cs).map .int

section Atoms

variable {readFloat : String → Option Float64} {v w : Tree}

theorem isMark_of_isDigit {c : Char} (h : c.isDigit = true) : isMark c = false := by
  rw [isMark, isDelimiter]
  simp only [Bool.or_eq_false_iff, beq_eq_false_iff_ne, decide_eq_false_iff_not, List.mem_cons,
    List.not_mem_nil, or_false, not_or]
  have hne : ∀ d : Char, d.isDigit = false → c ≠ d := by
    rintro d hdigit rfl
    rw [h] at hdigit
    cases hdigit
  exact ⟨⟨⟨hne _ rfl, hne _ rfl⟩, hne _ rfl⟩, hne _ rfl, hne _ rfl, hne _ rfl⟩

theorem isMark_of_isFloatChar {c : Char} (h : isFloatChar c = true) : isMark c = false := by
  rw [isFloatChar, Bool.or_eq_true] at h
  rcases h with hdigit | hmem
  · exact isMark_of_isDigit hdigit
  · have hwords : ∀ d ∈ ['-', '+', '.', 'e', 'N', 'a', 'I', 'n', 'f', 'i', 't', 'y'],
        isMark d = false := by
      simp [isMark, isDelimiter]
    exact hwords c (of_decide_eq_true hmem)

theorem isMark_of_mem_dumps (hv : ReadsBack readFloat v) (hatom : v.isAtom = true) :
    ∀ c ∈ dumps v, isMark c = false := by
  cases hv with
  | null =>
      rw [dumps]
      simp [isMark, isDelimiter]
  | bool b => cases b <;> simp [dumps, boolText, isMark, isDelimiter]
  | int n =>
      intro c hc
      rw [dumps] at hc
      rcases mem_intText hc with rfl | hdigit
      · decide
      · exact isMark_of_isDigit hdigit
  | float x hread htext =>
      intro c hc
      rw [isFloatText, Bool.and_eq_true, List.all_eq_true] at htext
      exact isMark_of_isFloatChar (htext.1 c hc)
  | str s => cases hatom
  | list items h => cases hatom
  | dict fields h => cases hatom

theorem readAtom_dumps (hv : ReadsBack readFloat v) (hatom : v.isAtom = true) :
    readAtom readFloat (dumps v) = some v := by
  cases hv with
  | null => rfl
  | bool b => cases b <;> rfl
  | int n =>
      have hword : ∀ c, c ≠ '-' → c.isDigit = false → c ∉ intText n := by
        intro c hminus hdigit hc
        rcases mem_intText hc with hc | hc
        · exact hminus hc
        · rw [hdigit] at hc
          cases hc
      have hnull : intText n ≠ "null".toList := fun h =>
        hword 'u' (by decide) (by decide) (by rw [h]; decide)
      have htrue : intText n ≠ "true".toList := fun h =>
        hword 'u' (by decide) (by decide) (by rw [h]; decide)
      have hfalse : intText n ≠ "false".toList := fun h =>
        hword 's' (by decide) (by decide) (by rw [h]; decide)
      rw [dumps, readAtom, if_neg hnull, if_neg htrue, if_neg hfalse, isFloatText_intText,
        if_neg (by decide), readInt_intText]
      rfl
  | float x hread htext =>
      have hword : ∀ text : List Char, isFloatText (String.ofList text) = false →
          x.json.toList ≠ text := by
        rintro _ hfalse rfl
        rw [String.ofList_toList, htext] at hfalse
        cases hfalse
      rw [dumps, readAtom, if_neg (hword _ (by decide)), if_neg (hword _ (by decide)),
        if_neg (hword _ (by decide)), String.ofList_toList, if_pos htext, hread]
      rfl
  | str s => cases hatom
  | list items h => cases hatom
  | dict fields h => cases hatom

/-- The first character tells which kind of value a text is of. -/
theorem exists_head_dumps (hv : ReadsBack readFloat v) : ∃ c cs, dumps v = c :: cs ∧
    isDelimiter c = false ∧ (v.isAtom = true → isMark c = false) := by
  by_cases hatom : v.isAtom = true
  · have hne : dumps v ≠ [] := by
      intro hnil
      have hread := readAtom_dumps hv hatom
      rw [hnil] at hread
      cases hread
    obtain ⟨c, cs, hcs⟩ := List.exists_cons_of_ne_nil hne
    have hmark := isMark_of_mem_dumps hv hatom c (by rw [hcs]; exact List.mem_cons_self)
    refine ⟨c, cs, hcs, ?_, fun _ => hmark⟩
    rw [isMark, Bool.or_eq_false_iff] at hmark
    exact hmark.1
  · cases hv with
    | null => exact absurd rfl hatom
    | bool b => exact absurd rfl hatom
    | int n => exact absurd rfl hatom
    | float x hread htext => exact absurd rfl hatom
    | str s => exact ⟨'"', _, rfl, by decide, fun h => absurd h hatom⟩
    | list items h => exact ⟨'[', _, rfl, by decide, fun h => absurd h hatom⟩
    | dict fields h => exact ⟨'\x7b', _, rfl, by decide, fun h => absurd h hatom⟩

theorem tells_atom (hv : ReadsBack readFloat v) (hatom : v.isAtom = true) :
    Tells dumps sorted (ReadsBack readFloat) v := by
  intro w hw rest others hrest hothers h
  obtain ⟨c, cs, hcs, -, hmark⟩ := exists_head_dumps hv
  have hmark := hmark hatom
  have hother : ∀ d, isMark d = true → ∀ ds, dumps v ++ rest ≠ d :: ds := by
    intro d hd ds hsame
    rw [hcs, List.cons_append] at hsame
    rw [(List.cons.inj hsame).1, hd] at hmark
    cases hmark
  have hdelimiter : ∀ {u : Tree}, ReadsBack readFloat u → u.isAtom = true →
      ∀ d ∈ dumps u, isDelimiter d = false := by
    intro u hu hatom d hd
    have hfree := isMark_of_mem_dumps hu hatom d hd
    rw [isMark, Bool.or_eq_false_iff] at hfree
    exact hfree.1
  by_cases hatom' : w.isAtom = true
  · obtain ⟨hsame, hend⟩ := append_inj_of_ended (hdelimiter hv hatom) (hdelimiter hw hatom') hrest
      hothers h
    have hread := readAtom_dumps hv hatom
    rw [hsame, readAtom_dumps hw hatom'] at hread
    cases hread
    exact ⟨rfl, hend⟩
  · cases hw with
    | null => exact absurd rfl hatom'
    | bool b => exact absurd rfl hatom'
    | int n => exact absurd rfl hatom'
    | float x hread htext => exact absurd rfl hatom'
    | str s => exact absurd h (hother '"' (by decide) _)
    | list items _ => exact absurd h (hother '[' (by decide) _)
    | dict fields _ => exact absurd h (hother '\x7b' (by decide) _)

end Atoms

/-- The text of a field of a mapping. -/
def fieldText (f : String × Tree) : List Char := quoteWith pythonEscape f.1 ++ ':' :: dumps f.2

def sortedField (f : String × Tree) : String × Tree := (f.1, f.2.sorted)

section Read

variable {readFloat : String → Option Float64} {v w : Tree}

theorem dumpsList_eq_map (items : List Tree) : dumpsList items = items.map dumps := by
  induction items with
  | nil => rfl
  | cons item items ih => rw [dumpsList, ih, List.map_cons]

theorem dumpsFields_eq_map (fields : List (String × Tree)) :
    dumpsFields fields = fields.map fun f => (f.1, dumps f.2) := by
  induction fields with
  | nil => rfl
  | cons f fields ih =>
      obtain ⟨key, value⟩ := f
      rw [dumpsFields, ih, List.map_cons]

theorem dumps_list (items : List Tree) :
    dumps (.list items) = '[' :: [','].intercalate (items.map dumps) ++ [']'] := by
  rw [dumps, arrayText, dumpsList_eq_map]

theorem dumps_dict (fields : List (String × Tree)) :
    dumps (.dict fields) =
      '\x7b' :: [','].intercalate ((sortKeys fields).map fieldText) ++ ['\x7d'] := by
  have hsort : (dumpsFields fields).insertionSort (fun a b => codePointLe a.1 b.1 = true) =
      (sortKeys fields).map fun f => (f.1, dumps f.2) := by
    rw [dumpsFields_eq_map]
    exact sortKeys_map (fun _ value => dumps value) fields
  rw [dumps, objectText, hsort, List.map_map]
  rfl

theorem sorted_dict (fields : List (String × Tree)) :
    sorted (.dict fields) = .dict ((sortKeys fields).map sortedField) := by
  rw [sorted, sortedFields_eq_map]
  exact congrArg Tree.dict (sortKeys_map (fun _ value => sorted value) fields)

theorem tells_field {f : String × Tree} (h : Tells dumps sorted (ReadsBack readFloat) f.2) :
    Tells fieldText sortedField (fun g => ReadsBack readFloat g.2) f := by
  intro g hg rest others hrest hothers hsame
  rw [fieldText, fieldText, List.append_assoc, List.append_assoc] at hsame
  obtain ⟨hkey, hvalue⟩ := quoteWith_append_inj hsame
  rw [List.cons_append, List.cons_append, List.cons.injEq] at hvalue
  obtain ⟨hread, hend⟩ := h g.2 hg rest others hrest hothers hvalue.2
  exact ⟨by rw [sortedField, sortedField, hkey, hread], hend⟩

/-- It is enough to tell a text from those that are no atoms. -/
theorem tells_of_composite (hv : ReadsBack readFloat v)
    (h : Tells dumps sorted (fun w => ReadsBack readFloat w ∧ w.isAtom = false) v) :
    Tells dumps sorted (ReadsBack readFloat) v := by
  intro w hw rest others hrest hothers hsame
  cases hatom : w.isAtom with
  | true =>
      obtain ⟨hread, hend⟩ := tells_atom hw hatom v hv others rest hothers hrest hsame.symm
      exact ⟨hread.symm, hend.symm⟩
  | false => exact h w ⟨hw, hatom⟩ rest others hrest hothers hsame

theorem tells_list {items : List Tree} (hitems : ∀ item ∈ items, ReadsBack readFloat item)
    (h : ∀ item ∈ items, Tells dumps sorted (ReadsBack readFloat) item) :
    Tells dumps sorted (fun w => ReadsBack readFloat w ∧ w.isAtom = false) (.list items) := by
  rintro w ⟨hw, hatom⟩ rest others _ _ hsame
  cases hw with
  | list others hothers =>
      rw [dumps_list, dumps_list, List.append_assoc, List.append_assoc] at hsame
      have hhead : ∀ x, ReadsBack readFloat x → ∃ c cs, dumps x = c :: cs ∧ c ≠ ']' := by
        intro x hx
        obtain ⟨c, cs, hcs, hdelimiter, -⟩ := exists_head_dumps hx
        refine ⟨c, cs, hcs, ?_⟩
        rintro rfl
        cases hdelimiter
      obtain ⟨hread, hend⟩ := intercalate_append_inj rfl (by decide) hhead
        (fun item hitem => ⟨hitems item hitem, h item hitem⟩) hothers (List.cons.inj hsame).2
      rw [sorted, sorted, sortedList_eq_map, sortedList_eq_map, hread]
      exact ⟨rfl, hend⟩
  | str t => cases (List.cons.inj hsame).1
  | dict fields _ => cases (List.cons.inj hsame).1
  | null => cases hatom
  | bool b => cases hatom
  | int n => cases hatom
  | float x _ _ => cases hatom

theorem tells_dict {fields : List (String × Tree)} (hfields : ∀ f ∈ fields, ReadsBack readFloat f.2)
    (h : ∀ f ∈ fields, Tells dumps sorted (ReadsBack readFloat) f.2) :
    Tells dumps sorted (fun w => ReadsBack readFloat w ∧ w.isAtom = false) (.dict fields) := by
  rintro w ⟨hw, hatom⟩ rest others _ _ hsame
  cases hw with
  | dict others hothers =>
      rw [dumps_dict, dumps_dict, List.append_assoc, List.append_assoc] at hsame
      have hhead : ∀ f : String × Tree, ReadsBack readFloat f.2 →
          ∃ c cs, fieldText f = c :: cs ∧ c ≠ '\x7d' :=
        fun f _ => ⟨'"', _, rfl, by decide⟩
      obtain ⟨hread, hend⟩ := intercalate_append_inj rfl (by decide) hhead
        (fun f hf => ⟨hfields f ((perm_sortKeys fields).mem_iff.mp hf),
          tells_field (h f ((perm_sortKeys fields).mem_iff.mp hf))⟩)
        (fun f hf => hothers f ((perm_sortKeys others).mem_iff.mp hf)) (List.cons.inj hsame).2
      rw [sorted_dict, sorted_dict, hread]
      exact ⟨rfl, hend⟩
  | str t => cases (List.cons.inj hsame).1
  | list items _ => cases (List.cons.inj hsame).1
  | null => cases hatom
  | bool b => cases hatom
  | int n => cases hatom
  | float x _ _ => cases hatom

theorem tells_str (s : String) :
    Tells dumps sorted (fun w => ReadsBack readFloat w ∧ w.isAtom = false) (.str s) := by
  rintro w ⟨hw, hatom⟩ rest others _ _ hsame
  cases hw with
  | str t =>
      obtain ⟨rfl, hend⟩ := quoteWith_append_inj hsame
      exact ⟨rfl, hend⟩
  | list items _ => cases (List.cons.inj hsame).1
  | dict fields _ => cases (List.cons.inj hsame).1
  | null => cases hatom
  | bool b => cases hatom
  | int n => cases hatom
  | float x _ _ => cases hatom

/-- The text of a document is told from what follows it. -/
theorem tells_dumps (hv : ReadsBack readFloat v) :
    Tells dumps sorted (ReadsBack readFloat) v := by
  induction hv with
  | null => exact tells_atom .null rfl
  | bool b => exact tells_atom (.bool b) rfl
  | int n => exact tells_atom (.int n) rfl
  | float x hread htext => exact tells_atom (.float x hread htext) rfl
  | str s => exact tells_of_composite (.str s) (tells_str s)
  | list items hitems ih => exact tells_of_composite (.list items hitems) (tells_list hitems ih)
  | dict fields hfields ih => exact tells_of_composite (.dict fields hfields) (tells_dict hfields ih)

/-- Documents with the same text are the same up to the order of their keys. -/
theorem sorted_eq_of_dumps_eq (hv : ReadsBack readFloat v) (hw : ReadsBack readFloat w)
    (h : dumps v = dumps w) : v.sorted = w.sorted := by
  have hnone : Ended [] := fun c hc => by cases hc
  exact (tells_dumps hv w hw [] [] hnone hnone (by rw [h])).1

end Read

end Tree

end Grouproxy.Value
