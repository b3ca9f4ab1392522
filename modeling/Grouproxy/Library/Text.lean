import Mathlib.Algebra.Group.Int.Defs
import Mathlib.Algebra.Group.Nat.Defs
import Mathlib.Data.List.TakeWhile
import Mathlib.Order.Nat

/-! # Text: white space, letter case, decimal and hexadecimal numbers -/

namespace Grouproxy.Text

/-! ## White space and letter case -/

/-- The white space that Unicode-aware trimming removes. -/
def isSpace (c : Char) : Bool :=
  let n := c.toNat
  (9 ≤ n && n ≤ 13) || n == 0x20 || n == 0x85 || n == 0xa0 || n == 0x1680 ||
    (0x2000 ≤ n && n ≤ 0x200a) || n == 0x2028 || n == 0x2029 || n == 0x202f ||
    n == 0x205f || n == 0x3000

def trimBy (p : Char → Bool) (cs : List Char) : List Char :=
  ((cs.dropWhile p).reverse.dropWhile p).reverse

def trimSpace (s : String) : String :=
  String.ofList (trimBy isSpace s.toList)

/-- Lower case, exact for every rune whose lower case is an ASCII letter: the
dotted capital I and the Kelvin sign are the only ones outside ASCII. -/
def lowerChar (c : Char) : Char :=
  if c.toNat = 0x130 then 'i'
  else if c.toNat = 0x212a then 'k'
  else c.toLower

def toLower (s : String) : String :=
  String.ofList (s.toList.map lowerChar)

theorem dropWhile_eq_self {p : Char → Bool} {cs : List Char}
    (h : ∀ c ∈ cs, p c = false) : cs.dropWhile p = cs := by
  cases cs with
  | nil => rfl
  | cons c cs => simp [h c (by simp)]

theorem trimBy_eq_self {p : Char → Bool} {cs : List Char}
    (h : ∀ c ∈ cs, p c = false) : trimBy p cs = cs := by
  have hr : ∀ c ∈ cs.reverse, p c = false := by
    intro c hc
    exact h c (List.mem_reverse.mp hc)
  rw [trimBy, dropWhile_eq_self h, dropWhile_eq_self hr, List.reverse_reverse]

theorem trimSpace_eq_self {s : String} (h : ∀ c ∈ s.toList, isSpace c = false) :
    trimSpace s = s := by
  rw [trimSpace, trimBy_eq_self h, String.ofList_toList]

theorem trimBy_of_ends {p : Char → Bool} {cs : List Char} (hh : ∀ c ∈ cs.head?, p c = false)
    (hl : ∀ c ∈ cs.getLast?, p c = false) : trimBy p cs = cs := by
  have hdrop : cs.dropWhile p = cs := by
    cases cs with
    | nil => rfl
    | cons c cs => simp [hh c (by simp)]
  have hrev : cs.reverse.dropWhile p = cs.reverse := by
    cases hr : cs.reverse with
    | nil => rfl
    | cons c rest =>
        have hc : c ∈ cs.getLast? := by
          rw [← List.head?_reverse, hr]
          rfl
        simp [hl c hc]
  rw [trimBy, hdrop, hrev, List.reverse_reverse]

theorem getLast?_trimBy {p : Char → Bool} {cs : List Char} :
    ∀ c ∈ (trimBy p cs).getLast?, p c = false := by
  intro c hc
  rw [trimBy, List.getLast?_reverse] at hc
  have := List.head?_dropWhile_not p ((cs.dropWhile p).reverse)
  rw [Option.mem_def] at hc
  rw [hc] at this
  simpa using this

theorem head?_trimBy {p : Char → Bool} {cs : List Char} :
    ∀ c ∈ (trimBy p cs).head?, p c = false := by
  intro c hc
  rw [trimBy, List.head?_reverse] at hc
  obtain ⟨front, hfront⟩ := List.dropWhile_suffix (l := (cs.dropWhile p).reverse) p
  have hlast : (cs.dropWhile p).reverse.getLast? = some c := by
    rw [← hfront, List.getLast?_append, hc]
    rfl
  rw [List.getLast?_reverse] at hlast
  have hhead := List.head?_dropWhile_not p cs
  rw [hlast] at hhead
  simpa using hhead

/-- What trimming removes: a run at each end. -/
theorem exists_trimBy (p : Char → Bool) (cs : List Char) :
    ∃ before after, cs = before ++ trimBy p cs ++ after ∧ (∀ c ∈ before, p c = true) ∧
      ∀ c ∈ after, p c = true := by
  refine ⟨cs.takeWhile p, ((cs.dropWhile p).reverse.takeWhile p).reverse, ?_, ?_, ?_⟩
  · rw [trimBy, List.append_assoc, ← List.reverse_append, List.takeWhile_append_dropWhile,
      List.reverse_reverse, List.takeWhile_append_dropWhile]
  · exact fun c hc => List.mem_takeWhile_imp hc
  · exact fun c hc => List.mem_takeWhile_imp (List.mem_reverse.mp hc)

theorem length_trimBy_le (p : Char → Bool) (cs : List Char) :
    (trimBy p cs).length ≤ cs.length := by
  obtain ⟨before, after, hparts, -⟩ := exists_trimBy p cs
  have hlength := congrArg List.length hparts
  simp only [List.length_append] at hlength
  omega

/-! ## Sizes -/

theorem utf8ByteSize_of_ascii {cs : List Char} (h : ∀ c ∈ cs, c.toNat < 128) :
    (String.ofList cs).utf8ByteSize = cs.length := by
  induction cs with
  | nil => rfl
  | cons c cs ih =>
      have hc : c.utf8Size = 1 := by
        have hlt := h c (by simp)
        have hle : c.val ≤ 127 := by
          rw [UInt32.le_iff_toNat_le]
          exact Nat.le_of_lt_succ hlt
        simp [Char.utf8Size, hle]
      rw [String.ofList_cons, String.utf8ByteSize_append, String.utf8ByteSize_singleton, hc,
        ih fun d hd => h d (List.mem_cons_of_mem c hd), List.length_cons]
      omega

theorem utf8ByteSize_le (cs : List Char) : (String.ofList cs).utf8ByteSize ≤ 4 * cs.length := by
  induction cs with
  | nil => simp
  | cons c cs ih =>
      have hchar := c.utf8Size_le_four
      rw [String.ofList_cons, String.utf8ByteSize_append, String.utf8ByteSize_singleton,
        List.length_cons]
      omega

theorem length_le_utf8ByteSize (cs : List Char) : cs.length ≤ (String.ofList cs).utf8ByteSize := by
  induction cs with
  | nil => simp
  | cons c cs ih =>
      have hchar := c.utf8Size_pos
      rw [String.ofList_cons, String.utf8ByteSize_append, String.utf8ByteSize_singleton,
        List.length_cons]
      omega

/-! ## Fields between separators -/

/-- A character of a joined text is the separator or comes from one of the parts. -/
theorem eq_or_mem_of_mem_intercalate {sep c : Char} {parts : List (List Char)}
    (h : c ∈ [sep].intercalate parts) : c = sep ∨ ∃ part ∈ parts, c ∈ part := by
  induction parts with
  | nil => simp at h
  | cons part parts ih =>
      cases parts with
      | nil =>
          rw [List.intercalate_singleton] at h
          exact .inr ⟨part, by simp, h⟩
      | cons next parts =>
          rw [List.intercalate_cons_cons, List.mem_append, List.mem_append,
            List.mem_singleton] at h
          rcases h with (h | h) | h
          · exact .inr ⟨part, by simp, h⟩
          · exact .inl h
          · rcases ih h with h | ⟨p, hp, h⟩
            · exact .inl h
            · exact .inr ⟨p, List.mem_cons_of_mem part hp, h⟩

theorem eq_or_mem_of_splitOn (sep : Char) {c : Char} {cs : List Char} (h : c ∈ cs) :
    c = sep ∨ ∃ part ∈ cs.splitOn sep, c ∈ part := by
  apply eq_or_mem_of_mem_intercalate
  rw [List.intercalate_splitOn]
  exact h

theorem mem_intercalate_of_mem {sep c : Char} {part : List Char} {parts : List (List Char)}
    (hpart : part ∈ parts) (hc : c ∈ part) : c ∈ [sep].intercalate parts := by
  induction parts with
  | nil => cases hpart
  | cons first parts ih =>
      cases parts with
      | nil =>
          rw [List.mem_singleton.mp hpart] at hc
          rw [List.intercalate_singleton]
          exact hc
      | cons next parts =>
          rw [List.intercalate_cons_cons, List.mem_append, List.mem_append]
          rcases List.mem_cons.mp hpart with rfl | hrest
          · exact .inl (.inl hc)
          · exact .inr (ih hrest)

theorem mem_of_mem_splitOn {sep c : Char} {cs part : List Char} (hpart : part ∈ cs.splitOn sep)
    (hc : c ∈ part) : c ∈ cs := by
  have hjoin : [sep].intercalate (cs.splitOn sep) = cs := List.intercalate_splitOn sep
  rw [← hjoin]
  exact mem_intercalate_of_mem hpart hc

theorem length_le_of_mem_intercalate {sep : Char} {part : List Char} {parts : List (List Char)}
    (h : part ∈ parts) : part.length ≤ ([sep].intercalate parts).length := by
  induction parts with
  | nil => cases h
  | cons first parts ih =>
      cases parts with
      | nil =>
          rw [List.mem_singleton.mp h, List.intercalate_singleton]
      | cons next parts =>
          rw [List.intercalate_cons_cons, List.length_append, List.length_append]
          rcases List.mem_cons.mp h with rfl | hrest
          · omega
          · have hlength := ih hrest
            omega

theorem length_le_of_mem_splitOn {sep : Char} {cs part : List Char}
    (h : part ∈ cs.splitOn sep) : part.length ≤ cs.length := by
  have hjoin : [sep].intercalate (cs.splitOn sep) = cs := List.intercalate_splitOn sep
  rw [← hjoin]
  exact length_le_of_mem_intercalate h

theorem intercalate_append {sep : Char} {front back : List (List Char)} (hfront : front ≠ [])
    (hback : back ≠ []) : [sep].intercalate (front ++ back) =
      [sep].intercalate front ++ sep :: [sep].intercalate back := by
  induction front with
  | nil => exact absurd rfl hfront
  | cons part front ih =>
      rw [List.cons_append, List.intercalate_cons_of_ne_nil (by simp [hback])]
      cases front with
      | nil => simp
      | cons next front =>
          rw [ih (by simp), List.intercalate_cons_cons]
          simp

/-- The parts of a text end those of another if the text is the other or follows a separator
at its end. -/
theorem splitOn_isSuffix_iff {sep : Char} {cs ds : List Char} :
    cs.splitOn sep <:+ ds.splitOn sep ↔ ds = cs ∨ sep :: cs <:+ ds := by
  constructor
  · rintro ⟨front, hfront⟩
    have hjoin : [sep].intercalate (front ++ cs.splitOn sep) = ds := by
      rw [hfront, List.intercalate_splitOn]
    cases front with
    | nil =>
        rw [List.nil_append, List.intercalate_splitOn] at hjoin
        exact .inl hjoin.symm
    | cons part front =>
        rw [intercalate_append (by simp) (List.splitOn_ne_nil sep cs), List.intercalate_splitOn]
          at hjoin
        exact .inr ⟨_, hjoin⟩
  · rintro (rfl | ⟨front, rfl⟩)
    · exact List.suffix_rfl
    · rw [List.splitOn_append_cons_self]
      exact List.suffix_append _ _

/-! ## Decimal numbers -/

/-- A nonempty run of decimal digits, read as a number. -/
def decimal? (cs : List Char) : Option Nat :=
  if cs ≠ [] ∧ cs.all Char.isDigit then some (Nat.ofDigitChars 10 cs 0) else none

theorem isSpace_of_isDigit {c : Char} (h : c.isDigit = true) : isSpace c = false := by
  simp only [Char.isDigit, Bool.and_eq_true, decide_eq_true_eq, ge_iff_le,
    UInt32.le_iff_toNat_le] at h
  have hlo : 48 ≤ c.toNat := h.1
  have hhi : c.toNat ≤ 57 := h.2
  simp only [isSpace, Bool.or_eq_false_iff, Bool.and_eq_false_iff, decide_eq_false_iff_not,
    beq_eq_false_iff_ne]
  omega

/-- A decimal number written without superfluous leading zeros. -/
def strictDecimal? (cs : List Char) : Option Nat :=
  if cs.length = 1 ∨ cs.head? ≠ some '0' then decimal? cs else none

theorem all_isDigit_toDigits (n : Nat) : (Nat.toDigits 10 n).all Char.isDigit := by
  rw [List.all_eq_true]
  intro c hc
  exact Nat.isDigit_of_mem_toDigits (by decide) (by decide) hc

@[simp] theorem decimal?_toDigits (n : Nat) : decimal? (Nat.toDigits 10 n) = some n := by
  have hne : Nat.toDigits 10 n ≠ [] := Nat.toDigits_ne_nil
  simp [decimal?, hne, all_isDigit_toDigits n]

theorem strictDecimal?_toDigits_aux :
    ∀ n < 256, strictDecimal? (Nat.toDigits 10 n) = some n := by
  decide +kernel

theorem decimal?_of_strictDecimal? {cs : List Char} {n : Nat}
    (h : strictDecimal? cs = some n) : decimal? cs = some n := by
  rw [strictDecimal?] at h
  split at h
  · exact h
  · cases h

/-- An optional sign and decimal digits, within the range of a 64-bit integer. -/
def atoi? (cs : List Char) : Option Int :=
  let value := match cs with
    | '-' :: ds => (decimal? ds).map fun n => -(n : Int)
    | '+' :: ds => (decimal? ds).map fun n => (n : Int)
    | ds => (decimal? ds).map fun n => (n : Int)
  value.filter fun n => -2 ^ 63 ≤ n && n < 2 ^ 63

/-- An integer in decimal. -/
def intText (n : Int) : List Char :=
  (if n < 0 then ['-'] else []) ++ Nat.toDigits 10 n.natAbs

theorem mem_intText {n : Int} {c : Char} (h : c ∈ intText n) : c = '-' ∨ c.isDigit = true := by
  rcases List.mem_append.mp h with h | h
  · left
    split at h
    · exact List.mem_singleton.mp h
    · cases h
  · exact .inr (Nat.isDigit_of_mem_toDigits (by decide) (by decide) h)

/-! ## Hexadecimal numbers -/

def hexValue? (c : Char) : Option Nat :=
  if '0' ≤ c ∧ c ≤ '9' then some (c.toNat - 48)
  else if 'a' ≤ c ∧ c ≤ 'f' then some (c.toNat - 87)
  else if 'A' ≤ c ∧ c ≤ 'F' then some (c.toNat - 55)
  else none

def isHex (c : Char) : Bool := (hexValue? c).isSome

def hexNumber (cs : List Char) : Nat :=
  cs.foldl (fun acc c => 16 * acc + (hexValue? c).getD 0) 0

/-- A 16-bit group in lower-case hexadecimal without leading zeros. -/
def hexText (x : Nat) : List Char :=
  (if 0x1000 ≤ x then [Nat.digitChar (x / 0x1000)] else []) ++
    (if 0x100 ≤ x then [Nat.digitChar (x / 0x100 % 16)] else []) ++
    (if 0x10 ≤ x then [Nat.digitChar (x / 0x10 % 16)] else []) ++
    [Nat.digitChar (x % 16)]

theorem hexValue?_digitChar : ∀ d < 16, hexValue? (Nat.digitChar d) = some d := by
  decide

theorem isHex_digitChar {d : Nat} (h : d < 16) : isHex (Nat.digitChar d) = true := by
  simp [isHex, hexValue?_digitChar d h]

theorem hexText_ne_nil (x : Nat) : hexText x ≠ [] := by
  simp [hexText]

theorem isHex_of_mem_hexText {x : Nat} (hx : x < 0x10000) {c : Char}
    (hc : c ∈ hexText x) : isHex c = true := by
  simp only [hexText, List.mem_append, List.mem_singleton] at hc
  rcases hc with ((hc | hc) | hc) | hc
  · split at hc
    · rw [List.mem_singleton.mp hc]
      exact isHex_digitChar (by omega)
    · cases hc
  · split at hc
    · rw [List.mem_singleton.mp hc]
      exact isHex_digitChar (by omega)
    · cases hc
  · split at hc
    · rw [List.mem_singleton.mp hc]
      exact isHex_digitChar (by omega)
    · cases hc
  · rw [hc]
    exact isHex_digitChar (by omega)

theorem length_hexText_le (x : Nat) : (hexText x).length ≤ 4 := by
  simp only [hexText, List.length_append, List.length_singleton]
  split <;> split <;> split <;> simp

theorem hexNumber_hexText {x : Nat} (hx : x < 0x10000) : hexNumber (hexText x) = x := by
  have h3 := hexValue?_digitChar (x / 0x1000)
  have h2 := hexValue?_digitChar (x / 0x100 % 16) (Nat.mod_lt _ (by decide))
  have h1 := hexValue?_digitChar (x / 0x10 % 16) (Nat.mod_lt _ (by decide))
  have h0 := hexValue?_digitChar (x % 16) (Nat.mod_lt _ (by decide))
  unfold hexText hexNumber
  by_cases ha : 0x1000 ≤ x
  · have hb : 0x100 ≤ x := by omega
    have hc : 0x10 ≤ x := by omega
    simp [ha, hb, hc, h0, h1, h2, h3 (by omega)]
    omega
  · by_cases hb : 0x100 ≤ x
    · have hc : 0x10 ≤ x := by omega
      simp [ha, hb, hc, h0, h1, h2]
      omega
    · by_cases hc : 0x10 ≤ x
      · simp [ha, hb, hc, h0, h1]
        omega
      · simp [ha, hb, hc, h0]
        omega

end Grouproxy.Text
