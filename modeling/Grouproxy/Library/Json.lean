import Mathlib.Data.Bool.AllAny
import Mathlib.Data.List.Sort
import Grouproxy.Library.Value

/-! # Two canonical JSON encoders

`dumps` is Python's `json.dumps` with `ensure_ascii=False`, `sort_keys=True` and compact
separators; `encode` is Go's `encoding/json` without HTML escaping. Both quote the same
control characters, but the Go encoder also quotes the two Unicode line separators.
-/

namespace Grouproxy.Encoding

open Text Value

/-! ## Lexicographic order of code units -/

def lexLt : List Nat → List Nat → Bool
  | _, [] => false
  | [], _ :: _ => true
  | a :: as, b :: bs => a < b || (a == b && lexLt as bs)

theorem lexLt_append_left (xs ys zs : List Nat) : lexLt (xs ++ ys) (xs ++ zs) = lexLt ys zs := by
  induction xs with
  | nil => rfl
  | cons x xs ih => simp [lexLt, ih]

/-- A code whose words decide every comparison before the words end. -/
structure OrderedCode (enc : Nat → List Nat) (valid : Nat → Prop) : Prop where
  ne_nil : ∀ x, enc x ≠ []
  lt : ∀ x y, valid x → valid y → x < y → ∀ us vs,
    lexLt (enc x ++ us) (enc y ++ vs) = true ∧ lexLt (enc y ++ vs) (enc x ++ us) = false

/-- Comparing encoded texts is comparing the texts. -/
theorem OrderedCode.lexLt_flatMap {enc : Nat → List Nat} {valid : Nat → Prop}
    (h : OrderedCode enc valid) {xs ys : List Nat} (hx : ∀ x ∈ xs, valid x)
    (hy : ∀ y ∈ ys, valid y) :
    lexLt (xs.flatMap enc) (ys.flatMap enc) = lexLt xs ys := by
  induction xs generalizing ys with
  | nil =>
      cases ys with
      | nil => rfl
      | cons y ys =>
          have hne : enc y ++ ys.flatMap enc ≠ [] := by simp [h.ne_nil y]
          rw [List.flatMap_cons]
          cases hl : enc y ++ ys.flatMap enc with
          | nil => exact absurd hl hne
          | cons b bs => rfl
  | cons x xs ih =>
      cases ys with
      | nil => simp [lexLt]
      | cons y ys =>
          have hvx := hx x (by simp)
          have hvy := hy y (by simp)
          rw [List.flatMap_cons, List.flatMap_cons, lexLt]
          rcases Nat.lt_trichotomy x y with hlt | heq | hgt
          · simp [(h.lt x y hvx hvy hlt _ _).1, hlt]
          · subst heq
            rw [lexLt_append_left, ih (fun z hz => hx z (List.mem_cons_of_mem x hz))
              (fun z hz => hy z (List.mem_cons_of_mem x hz))]
            simp
          · simp [(h.lt y x hvy hvx hgt _ _).2, Nat.lt_asymm hgt, Nat.ne_of_gt hgt]

def codePoints (s : String) : List Nat := s.toList.map Char.toNat

/-- The UTF-8 bytes of a text. -/
def utf8 (s : String) : List Nat := s.toList.flatMap fun c => (String.utf8EncodeChar c).map UInt8.toNat

/-- The UTF-8 bytes of one code point. -/
def utf8Bytes (v : Nat) : List Nat :=
  if v ≤ 0x7f then [v]
  else if v ≤ 0x7ff then [v / 64 % 0x20 + 0xc0, v % 0x40 + 0x80]
  else if v ≤ 0xffff then [v / 4096 % 0x10 + 0xe0, v / 64 % 0x40 + 0x80, v % 0x40 + 0x80]
  else [v / 262144 % 0x08 + 0xf0, v / 4096 % 0x40 + 0x80, v / 64 % 0x40 + 0x80, v % 0x40 + 0x80]

theorem utf8EncodeChar_toNat (c : Char) :
    (String.utf8EncodeChar c).map UInt8.toNat = utf8Bytes c.toNat := by
  have hv : c.val.toNat = c.toNat := rfl
  simp only [String.utf8EncodeChar, utf8Bytes, hv]
  generalize c.toNat = v
  split
  · simp
    omega
  · split
    · simp
      omega
    · split
      · simp
        omega
      · simp
        omega

theorem utf8_eq (s : String) : utf8 s = (codePoints s).flatMap utf8Bytes := by
  simp [utf8, codePoints, utf8EncodeChar_toNat, List.flatMap_map]

theorem utf8Bytes_cases (v : Nat) :
    (v ≤ 0x7f ∧ utf8Bytes v = [v]) ∨
    (0x7f < v ∧ v ≤ 0x7ff ∧ utf8Bytes v = [v / 64 % 0x20 + 0xc0, v % 0x40 + 0x80]) ∨
    (0x7ff < v ∧ v ≤ 0xffff ∧
      utf8Bytes v = [v / 4096 % 0x10 + 0xe0, v / 64 % 0x40 + 0x80, v % 0x40 + 0x80]) ∨
    (0xffff < v ∧ utf8Bytes v =
      [v / 262144 % 0x08 + 0xf0, v / 4096 % 0x40 + 0x80, v / 64 % 0x40 + 0x80, v % 0x40 + 0x80]) := by
  rw [utf8Bytes]
  split
  · simp [*]
  · split
    · simp [*]
      omega
    · split
      · simp [*]
        omega
      · simp [*]
        omega

theorem lexLt_utf8Bytes {x y : Nat} (hx : x < 0x110000) (hy : y < 0x110000) (hlt : x < y)
    (us vs : List Nat) :
    lexLt (utf8Bytes x ++ us) (utf8Bytes y ++ vs) = true ∧
      lexLt (utf8Bytes y ++ vs) (utf8Bytes x ++ us) = false := by
  -- Leading bytes grow with the length class; within a class the bytes are digits.
  have hx₂ : x / 64 / 64 = x / 4096 := Nat.div_div_eq_div_mul x 64 64
  have hx₃ : x / 4096 / 64 = x / 262144 := Nat.div_div_eq_div_mul x 4096 64
  have hy₂ : y / 64 / 64 = y / 4096 := Nat.div_div_eq_div_mul y 64 64
  have hy₃ : y / 4096 / 64 = y / 262144 := Nat.div_div_eq_div_mul y 4096 64
  have hx₄ : x / 262144 % 0x08 = x / 262144 := by omega
  have hy₄ : y / 262144 % 0x08 = y / 262144 := by omega
  rcases utf8Bytes_cases x with ⟨_, ex⟩ | ⟨_, _, ex⟩ | ⟨_, _, ex⟩ | ⟨_, ex⟩ <;>
    rcases utf8Bytes_cases y with ⟨_, ey⟩ | ⟨_, _, ey⟩ | ⟨_, _, ey⟩ | ⟨_, ey⟩ <;>
    rw [ex, ey] <;> constructor <;>
    simp only [List.cons_append, List.nil_append, lexLt, Bool.or_eq_true, Bool.and_eq_true,
      decide_eq_true_eq, beq_iff_eq, Bool.or_eq_false_iff, Bool.and_eq_false_iff,
      decide_eq_false_iff_not, beq_eq_false_iff_ne] <;>
    omega

theorem orderedCode_utf8Bytes : OrderedCode utf8Bytes (· < 0x110000) where
  ne_nil x := by
    rcases utf8Bytes_cases x with ⟨_, h⟩ | ⟨_, _, h⟩ | ⟨_, _, h⟩ | ⟨_, h⟩ <;> simp [h]
  lt _ _ hx hy hlt us vs := lexLt_utf8Bytes hx hy hlt us vs

theorem lexLt_utf8 (a b : String) : lexLt (utf8 a) (utf8 b) = lexLt (codePoints a) (codePoints b) := by
  have hvalid : ∀ s : String, ∀ x ∈ codePoints s, x < 0x110000 := by
    intro s x hx
    obtain ⟨c, -, rfl⟩ := List.mem_map.mp hx
    have hc := c.valid
    simp only [Char.toNat]
    rcases hc with hc | hc
    · exact lt_trans hc (by decide)
    · exact hc.2
  rw [utf8_eq, utf8_eq]
  exact orderedCode_utf8Bytes.lexLt_flatMap (hvalid a) (hvalid b)

/-! ## Encoders -/

/-- The escapes both encoders write: short forms where JSON has one, `\u00xx` otherwise. -/
def controlEscape? (c : Char) : Option (List Char) :=
  if c = '"' then some ['\\', '"']
  else if c = '\\' then some ['\\', '\\']
  else if c = '\n' then some ['\\', 'n']
  else if c = '\r' then some ['\\', 'r']
  else if c = '\t' then some ['\\', 't']
  else if c.toNat = 8 then some ['\\', 'b']
  else if c.toNat = 12 then some ['\\', 'f']
  else if c.toNat < 0x20 then
    some ['\\', 'u', '0', '0', Nat.digitChar (c.toNat / 16), Nat.digitChar (c.toNat % 16)]
  else none

/-- U+2028 and U+2029. -/
def isLineSeparator (c : Char) : Bool := c.toNat == 0x2028 || c.toNat == 0x2029

def pythonEscape (c : Char) : List Char := (controlEscape? c).getD [c]

def goEscape (c : Char) : List Char :=
  match controlEscape? c with
  | some e => e
  | none =>
    if isLineSeparator c then ['\\', 'u', '2', '0', '2', Nat.digitChar (c.toNat % 16)] else [c]

def quoteWith (escape : Char → List Char) (s : String) : List Char :=
  '"' :: s.toList.flatMap escape ++ ['"']

def codePointLe (a b : String) : Bool := !lexLt (codePoints b) (codePoints a)

def byteLe (a b : String) : Bool := !lexLt (utf8 b) (utf8 a)

def arrayText (parts : List (List Char)) : List Char :=
  '[' :: [','].intercalate parts ++ [']']

/-- Members sorted by key. -/
def objectText (escape : Char → List Char) (le : String → String → Bool)
    (members : List (String × List Char)) : List Char :=
  '{' :: [','].intercalate
    ((members.insertionSort (fun a b => le a.1 b.1 = true)).map fun m =>
      quoteWith escape m.1 ++ ':' :: m.2) ++ ['}']

def boolText (b : Bool) : List Char := if b then "true".toList else "false".toList

/-- An integer that a `float64` holds exactly. -/
abbrev SafeInt := { n : Int // n.natAbs < 2 ^ 53 }

/-- The values Python's `json` module writes, without floating-point numbers and without
integers that a JSON reader would round. -/
inductive Json where
  | null
  | bool (b : Bool)
  | int (n : SafeInt)
  | str (s : String)
  | arr (xs : List Json)
  | obj (fields : List (String × Json))

@[induction_eliminator]
theorem Json.ind {P : Json → Prop} (null : P .null) (bool : ∀ b, P (.bool b))
    (int : ∀ n, P (.int n)) (str : ∀ s, P (.str s))
    (arr : ∀ xs, (∀ x ∈ xs, P x) → P (.arr xs))
    (obj : ∀ fs : List (String × Json), (∀ f ∈ fs, P f.2) → P (.obj fs)) (v : Json) : P v :=
  @Json.rec P (fun xs => ∀ x ∈ xs, P x) (fun fs => ∀ f ∈ fs, P f.2) (fun f => P f.2)
    null bool int str arr obj
    (by simp) (fun _ _ hx hxs => List.forall_mem_cons.mpr ⟨hx, hxs⟩)
    (by simp) (fun _ _ hf hfs => List.forall_mem_cons.mpr ⟨hf, hfs⟩)
    (fun _ _ hv => hv) v

mutual
def dumps : Json → List Char
  | .null => "null".toList
  | .bool b => boolText b
  | .int n => intText n.val
  | .str s => quoteWith pythonEscape s
  | .arr xs => arrayText (dumpsList xs)
  | .obj fs => objectText pythonEscape codePointLe (dumpsFields fs)
def dumpsList : List Json → List (List Char)
  | [] => []
  | x :: xs => dumps x :: dumpsList xs
def dumpsFields : List (String × Json) → List (String × List Char)
  | [] => []
  | (k, x) :: fs => (k, dumps x) :: dumpsFields fs
end

mutual
def encode : Any → List Char
  | .nil => "null".toList
  | .bool b => boolText b
  | .int n => intText n
  | .float x => x.json.toList
  | .str s => quoteWith goEscape s
  | .strs xs => arrayText (xs.map (quoteWith goEscape))
  | .arr xs => arrayText (encodeList xs)
  | .map fs => objectText goEscape byteLe (encodeFields fs)
def encodeList : List Any → List (List Char)
  | [] => []
  | x :: xs => encode x :: encodeList xs
def encodeFields : List (String × Any) → List (String × List Char)
  | [] => []
  | (k, x) :: fs => (k, encode x) :: encodeFields fs
end

mutual
/-- The Go value decoded from the JSON text of a value. -/
def decoded : Json → Any
  | .null => .nil
  | .bool b => .bool b
  | .int n => .float (Float64.ofInt n.val)
  | .str s => .str s
  | .arr xs => .arr (decodedList xs)
  | .obj fs => .map (decodedFields fs)
def decodedList : List Json → List Any
  | [] => []
  | x :: xs => decoded x :: decodedList xs
def decodedFields : List (String × Json) → Fields
  | [] => []
  | (k, x) :: fs => (k, decoded x) :: decodedFields fs
end

def isPlainText (s : String) : Bool := s.toList.all fun c => !isLineSeparator c

mutual
/-- No text and no key of the value holds a line separator. -/
def Json.isPlain : Json → Bool
  | .null => true
  | .bool _ => true
  | .int _ => true
  | .str s => isPlainText s
  | .arr xs => isPlainList xs
  | .obj fs => isPlainFields fs
def isPlainList : List Json → Bool
  | [] => true
  | x :: xs => x.isPlain && isPlainList xs
def isPlainFields : List (String × Json) → Bool
  | [] => true
  | (k, x) :: fs => isPlainText k && x.isPlain && isPlainFields fs
end

section Unfold

theorem dumpsList_eq (xs : List Json) : dumpsList xs = xs.map dumps := by
  induction xs with
  | nil => rfl
  | cons x xs ih => simp [dumpsList, ih]

theorem dumpsFields_eq (fs : List (String × Json)) :
    dumpsFields fs = fs.map fun f => (f.1, dumps f.2) := by
  induction fs with
  | nil => rfl
  | cons f fs ih => simp [dumpsFields, ih]

theorem encodeList_eq (xs : List Any) : encodeList xs = xs.map encode := by
  induction xs with
  | nil => rfl
  | cons x xs ih => simp [encodeList, ih]

theorem encodeFields_eq (fs : Fields) :
    encodeFields fs = fs.map fun f => (f.1, encode f.2) := by
  induction fs with
  | nil => rfl
  | cons f fs ih => simp [encodeFields, ih]

theorem decodedList_eq (xs : List Json) : decodedList xs = xs.map decoded := by
  induction xs with
  | nil => rfl
  | cons x xs ih => simp [decodedList, ih]

theorem decodedFields_eq (fs : List (String × Json)) :
    decodedFields fs = fs.map fun f => (f.1, decoded f.2) := by
  induction fs with
  | nil => rfl
  | cons f fs ih => simp [decodedFields, ih]

theorem isPlainList_iff (xs : List Json) : isPlainList xs = true ↔ ∀ x ∈ xs, x.isPlain = true := by
  induction xs with
  | nil => simp [isPlainList]
  | cons x xs ih => simp [isPlainList, ih]

theorem isPlainFields_iff (fs : List (String × Json)) :
    isPlainFields fs = true ↔ ∀ f ∈ fs, isPlainText f.1 = true ∧ f.2.isPlain = true := by
  induction fs with
  | nil => simp [isPlainFields]
  | cons f fs ih => simp [isPlainFields, ih, and_assoc]

end Unfold

/-! ## The encoders agree on plain values -/

theorem byteLe_eq_codePointLe : byteLe = codePointLe := by
  funext a b
  simp [byteLe, codePointLe, lexLt_utf8]

theorem quoteWith_eq {s : String} (h : isPlainText s = true) :
    quoteWith pythonEscape s = quoteWith goEscape s := by
  have hc : ∀ c ∈ s.toList, pythonEscape c = goEscape c := by
    intro c hc
    have hplain : isLineSeparator c = false := by
      simpa using List.all_eq_true.mp h c hc
    unfold pythonEscape goEscape
    cases controlEscape? c with
    | none => simp [hplain]
    | some e => rfl
  rw [quoteWith, quoteWith, List.flatMap_congr hc]

theorem objectText_eq {members : List (String × List Char)}
    (h : ∀ m ∈ members, isPlainText m.1 = true) :
    objectText pythonEscape codePointLe members = objectText goEscape byteLe members := by
  rw [objectText]
  rw [byteLe_eq_codePointLe]
  congr 2
  apply congrArg
  apply List.map_congr_left
  intro m hm
  rw [quoteWith_eq (h m ((List.perm_insertionSort _ members).mem_iff.mp hm))]

theorem dumps_eq_encode {v : Json} (h : v.isPlain = true) : dumps v = encode (decoded v) := by
  induction v with
  | null => rfl
  | bool b => rfl
  | int n => simp [dumps, decoded, encode, Float64.ofInt]
  | str s => exact quoteWith_eq h
  | arr xs ih =>
      have hx := (isPlainList_iff xs).mp h
      rw [dumps, decoded, encode, dumpsList_eq, decodedList_eq, encodeList_eq, List.map_map]
      exact congrArg arrayText (List.map_congr_left fun x hm => ih x hm (hx x hm))
  | obj fs ih =>
      have hf := (isPlainFields_iff fs).mp h
      have hmembers : (fs.map fun f => (f.1, dumps f.2)) =
          (fs.map fun f => (f.1, decoded f.2)).map fun f => (f.1, encode f.2) := by
        rw [List.map_map]
        exact List.map_congr_left fun f hm => by simp [ih f hm (hf f hm).2]
      rw [dumps, decoded, encode, dumpsFields_eq, decodedFields_eq, encodeFields_eq, ← hmembers]
      apply objectText_eq
      intro m hm
      obtain ⟨f, hmem, rfl⟩ := List.mem_map.mp hm
      exact (hf f hmem).1

/-! ## Line separators tell the encoders apart -/

/-- A text in which no character is a line separator. -/
def Clean (cs : List Char) : Prop := ∀ c ∈ cs, isLineSeparator c = false

theorem Clean.cons {c : Char} {cs : List Char} (hc : isLineSeparator c = false) (h : Clean cs) :
    Clean (c :: cs) :=
  List.forall_mem_cons.mpr ⟨hc, h⟩

theorem Clean.append {xs ys : List Char} (hx : Clean xs) (hy : Clean ys) : Clean (xs ++ ys) :=
  List.forall_mem_append.mpr ⟨hx, hy⟩

theorem mem_intercalate_of_mem {c sep : Char} {p : List Char} {parts : List (List Char)}
    (hp : p ∈ parts) (hc : c ∈ p) : c ∈ [sep].intercalate parts := by
  induction parts with
  | nil => cases hp
  | cons q parts ih =>
      cases parts with
      | nil =>
          rw [List.mem_singleton.mp hp] at hc
          simpa using hc
      | cons r parts =>
          rw [List.intercalate_cons_cons]
          rcases List.mem_cons.mp hp with rfl | hp
          · simp [hc]
          · exact List.mem_append_right _ (ih hp)

theorem clean_intercalate {parts : List (List Char)} (h : ∀ p ∈ parts, Clean p) :
    Clean ([','].intercalate parts) := by
  induction parts with
  | nil => simp [Clean]
  | cons q parts ih =>
      cases parts with
      | nil => simpa using h q (by simp)
      | cons r parts =>
          rw [List.intercalate_cons_cons]
          exact ((h q (by simp)).append (Clean.cons (by decide) (by simp [Clean]))).append
            (ih fun p hp => h p (List.mem_cons_of_mem q hp))

theorem isLineSeparator_digitChar : ∀ k < 16, isLineSeparator (Nat.digitChar k) = false := by
  decide

theorem isLineSeparator_of_isDigit {c : Char} (h : c.isDigit = true) :
    isLineSeparator c = false := by
  simp only [Char.isDigit, Bool.and_eq_true, decide_eq_true_eq, ge_iff_le] at h
  have hle : c.toNat ≤ 57 := h.2
  simp only [isLineSeparator, Bool.or_eq_false_iff, beq_eq_false_iff_ne]
  omega

theorem clean_intText (n : Int) : Clean (intText n) := by
  intro c hc
  rcases mem_intText hc with rfl | hc
  · decide
  · exact isLineSeparator_of_isDigit hc

theorem clean_goEscape (c : Char) : Clean (goEscape c) := by
  have hhex := isLineSeparator_digitChar (c.toNat % 16) (Nat.mod_lt _ (by decide))
  rw [goEscape]
  cases h : controlEscape? c with
  | some e =>
      simp only
      rw [controlEscape?] at h
      split_ifs at h <;> cases h <;>
        first
        | exact List.all_iff_forall_prop.mp (by decide)
        | (have hhi := isLineSeparator_digitChar (c.toNat / 16) (by omega)
           simp only [Clean, List.forall_mem_cons, hhi, hhex]
           simp [isLineSeparator])
  | none =>
      simp only
      split
      · simp only [Clean, List.forall_mem_cons, hhex]
        simp [isLineSeparator]
      · rename_i hsep
        intro d hd
        rw [List.mem_singleton.mp hd]
        simpa using hsep

theorem clean_quoteWith_goEscape (s : String) : Clean (quoteWith goEscape s) := by
  refine (Clean.cons (by decide) ?_).append (Clean.cons (by decide) (by simp [Clean]))
  intro d hd
  obtain ⟨c, -, hd⟩ := List.mem_flatMap.mp hd
  exact clean_goEscape c d hd

/-- The Go encoder never writes a line separator. -/
theorem clean_encode_decoded (v : Json) : Clean (encode (decoded v)) := by
  have hclose : ∀ d, isLineSeparator d = false → Clean [d] := fun d hd =>
    Clean.cons hd (by simp [Clean])
  induction v with
  | null =>
      exact List.all_iff_forall_prop.mp (by decide)
  | bool b =>
      cases b <;> exact List.all_iff_forall_prop.mp (by decide)
  | int n => simpa [decoded, encode, Float64.ofInt] using clean_intText n
  | str s => exact clean_quoteWith_goEscape s
  | arr xs ih =>
      rw [decoded, encode, decodedList_eq, encodeList_eq, arrayText]
      refine (Clean.cons (by decide) (clean_intercalate ?_)).append (hclose _ (by decide))
      intro p hp
      obtain ⟨a, ha, rfl⟩ := List.mem_map.mp hp
      obtain ⟨x, hx, rfl⟩ := List.mem_map.mp ha
      exact ih x hx
  | obj fs ih =>
      rw [decoded, encode, decodedFields_eq, encodeFields_eq, objectText]
      refine (Clean.cons (by decide) (clean_intercalate ?_)).append (hclose _ (by decide))
      intro p hp
      obtain ⟨m, hm, rfl⟩ := List.mem_map.mp hp
      have hm := (List.perm_insertionSort _ _).mem_iff.mp hm
      obtain ⟨a, ha, rfl⟩ := List.mem_map.mp hm
      obtain ⟨f, hf, rfl⟩ := List.mem_map.mp ha
      exact (clean_quoteWith_goEscape f.1).append (Clean.cons (by decide) (ih f hf))

theorem pythonEscape_lineSeparator {c : Char} (h : isLineSeparator c = true) :
    c ∈ pythonEscape c := by
  have hc : controlEscape? c = none := by
    simp only [isLineSeparator, Bool.or_eq_true, beq_iff_eq] at h
    rw [controlEscape?]
    split_ifs with h1 h2 h3 h4 h5 <;> first | rfl | omega | (subst c; revert h; decide)
  simp [pythonEscape, hc]

theorem not_clean_quoteWith {s : String} (h : isPlainText s = false) :
    ¬ Clean (quoteWith pythonEscape s) := by
  intro hclean
  obtain ⟨c, hc, hsep⟩ := List.all_eq_false.mp h
  have hsep : isLineSeparator c = true := by simpa using hsep
  have hm : c ∈ quoteWith pythonEscape s := by
    refine List.mem_append_left _ (List.mem_cons_of_mem _ ?_)
    exact List.mem_flatMap.mpr ⟨c, hc, pythonEscape_lineSeparator hsep⟩
  rw [hclean c hm] at hsep
  cases hsep

/-- The Python encoder copies every line separator. -/
theorem isPlain_of_clean_dumps {v : Json} (h : Clean (dumps v)) : v.isPlain = true := by
  induction v with
  | null => rfl
  | bool b => rfl
  | int n => rfl
  | str s =>
      by_contra hs
      exact not_clean_quoteWith (by simpa [Json.isPlain] using hs) h
  | arr xs ih =>
      refine (isPlainList_iff xs).mpr fun x hx => ih x hx fun c hc => h c ?_
      rw [dumps, dumpsList_eq, arrayText]
      exact List.mem_append_left _ (List.mem_cons_of_mem _
        (mem_intercalate_of_mem (List.mem_map.mpr ⟨x, hx, rfl⟩) hc))
  | obj fs ih =>
      have hmem : ∀ f ∈ fs, ∀ c ∈ quoteWith pythonEscape f.1 ++ ':' :: dumps f.2,
          isLineSeparator c = false := by
        intro f hf c hc
        refine h c ?_
        rw [dumps, dumpsFields_eq, objectText]
        refine List.mem_append_left _ (List.mem_cons_of_mem _ (mem_intercalate_of_mem ?_ hc))
        refine List.mem_map.mpr ⟨(f.1, dumps f.2), ?_, rfl⟩
        exact (List.perm_insertionSort _ _).mem_iff.mpr (List.mem_map.mpr ⟨f, hf, rfl⟩)
      refine (isPlainFields_iff fs).mpr fun f hf => ⟨?_, ?_⟩
      · by_contra hk
        exact not_clean_quoteWith (by simpa using hk) fun c hc =>
          hmem f hf c (List.mem_append_left _ hc)
      · exact ih f hf fun c hc => hmem f hf c (by simp [hc])

/-- The two encoders write the same text exactly for values without line separators. -/
theorem dumps_eq_encode_iff (v : Json) : dumps v = encode (decoded v) ↔ v.isPlain = true := by
  refine ⟨fun h => isPlain_of_clean_dumps ?_, dumps_eq_encode⟩
  rw [h]
  exact clean_encode_decoded v

end Grouproxy.Encoding
