import Mathlib.Data.List.Induction
import Grouproxy.Library.Text

/-! # Python's `urllib.parse`

Percent-encoding, queries and the parts of a URL. Quoting a text and unquoting it again gives the
text back; unquoting changes a text exactly if it has an escape in it, and makes it shorter.
-/

namespace Grouproxy.Urllib

open Text

/-! ## UTF-8 -/

def isContinuation (b : UInt8) : Bool := 0x80 ≤ b && b < 0xc0

/-- Whether a byte can follow the first one of a sequence of three or four. -/
def isSecond (first second : UInt8) : Bool :=
  if first = 0xe0 then 0xa0 ≤ second && second < 0xc0
  else if first = 0xed then 0x80 ≤ second && second < 0xa0
  else if first = 0xf0 then 0x90 ≤ second && second < 0xc0
  else if first = 0xf4 then 0x80 ≤ second && second < 0x90
  else 0xe0 ≤ first && first < 0xf5 && isContinuation second

/-- How many bytes one replacement stands for: those that begin a sequence, or a single one. -/
def replacedLength : List UInt8 → Nat
  | first :: second :: third :: _ =>
    if isSecond first second then if 0xf0 ≤ first && isContinuation third then 3 else 2 else 1
  | [first, second] => if isSecond first second then 2 else 1
  | _ => 1

/-- The character at the start of the bytes, and how many of them it takes. -/
def decodeChar (bytes : List UInt8) : Char × Nat :=
  match bytes.toByteArray.utf8DecodeChar? 0 with
  | some c => (c, c.utf8Size)
  | none => ('\ufffd', replacedLength bytes)

/-- `bytes.decode("utf-8", "replace")`; `skip` counts what is left of the last character. -/
def decode : (skip : Nat) → List UInt8 → List Char
  | _, [] => []
  | skip + 1, _ :: bytes => decode skip bytes
  | 0, b :: bytes =>
    (decodeChar (b :: bytes)).1 :: decode ((decodeChar (b :: bytes)).2 - 1) bytes

def encode (cs : List Char) : List UInt8 := cs.flatMap String.utf8EncodeChar

theorem decode_append (front rest : List UInt8) :
    decode front.length (front ++ rest) = decode 0 rest := by
  induction front with
  | nil => rfl
  | cons b front ih => exact ih

theorem decodeChar_utf8EncodeChar (c : Char) (rest : List UInt8) :
    decodeChar (String.utf8EncodeChar c ++ rest) = (c, c.utf8Size) := by
  rw [decodeChar, List.toByteArray_append, ByteArray.utf8DecodeChar?_utf8EncodeChar_append]

theorem decode_encode (cs : List Char) : decode 0 (encode cs) = cs := by
  induction cs with
  | nil => rfl
  | cons c cs ih =>
      have hchar := decodeChar_utf8EncodeChar c (encode cs)
      have hlength := String.length_utf8EncodeChar c
      have hparts : encode (c :: cs) = String.utf8EncodeChar c ++ encode cs := List.flatMap_cons
      rw [hparts]
      cases hbytes : String.utf8EncodeChar c with
      | nil =>
          rw [hbytes] at hlength
          exact absurd hlength.symm (Nat.ne_of_gt c.utf8Size_pos)
      | cons b bytes =>
          rw [hbytes, List.cons_append] at hchar
          rw [hbytes, List.length_cons] at hlength
          rw [List.cons_append, decode, hchar, ← hlength, Nat.add_sub_cancel, decode_append, ih]

theorem length_decode_le (skip : Nat) (bytes : List UInt8) :
    (decode skip bytes).length ≤ bytes.length := by
  induction bytes generalizing skip with
  | nil => simp [decode]
  | cons b bytes ih =>
      cases skip with
      | zero =>
          rw [decode, List.length_cons, List.length_cons]
          exact Nat.succ_le_succ (ih _)
      | succ skip =>
          rw [decode, List.length_cons]
          exact Nat.le_succ_of_le (ih skip)

/-! ## Characters -/

def isAscii (c : Char) : Bool := c.toNat < 128

/-- A character of a URL that is kept as it is. -/
def isGraphic (c : Char) : Bool := 0x20 < c.toNat && c.toNat < 0x7f

def asciiByte (c : Char) : UInt8 := UInt8.ofNat c.toNat

theorem isAscii_of_isGraphic {c : Char} (h : isGraphic c = true) : isAscii c = true := by
  rw [isGraphic, Bool.and_eq_true, decide_eq_true_eq, decide_eq_true_eq] at h
  exact decide_eq_true (by omega)

theorem ne_of_isGraphic {c d : Char} (h : isGraphic c = true) (hd : isGraphic d = false) :
    c ≠ d := by
  intro heq
  rw [heq, hd] at h
  cases h

theorem utf8EncodeChar_of_isAscii {c : Char} (h : isAscii c = true) :
    String.utf8EncodeChar c = [asciiByte c] := by
  have hlt : c.val.toNat < 128 := of_decide_eq_true h
  rw [String.utf8EncodeChar, if_pos (show c.val.toNat ≤ 0x7f by omega)]
  rfl

theorem encode_of_isAscii {cs : List Char} (h : ∀ c ∈ cs, isAscii c = true) :
    encode cs = cs.map asciiByte := by
  induction cs with
  | nil => rfl
  | cons c cs ih =>
      have hrest := ih fun d hd => h d (List.mem_cons_of_mem c hd)
      rw [encode] at hrest ⊢
      rw [List.flatMap_cons, hrest, utf8EncodeChar_of_isAscii (h c List.mem_cons_self)]
      rfl

theorem decode_map_asciiByte {cs : List Char} (h : ∀ c ∈ cs, isAscii c = true) :
    decode 0 (cs.map asciiByte) = cs := by
  rw [← encode_of_isAscii h, decode_encode]

theorem isAscii_of_isHex {c : Char} (h : isHex c = true) : isAscii c = true := by
  have hbound : ∀ lo hi : Char, hi.toNat < 128 → lo ≤ c ∧ c ≤ hi → isAscii c = true := by
    intro lo hi hhi hc
    have hle : c.toNat ≤ hi.toNat := hc.2
    exact decide_eq_true (by omega)
  rw [isHex, hexValue?] at h
  split at h
  · exact hbound '0' '9' (by decide) ‹_›
  · split at h
    · exact hbound 'a' 'f' (by decide) ‹_›
    · split at h
      · exact hbound 'A' 'F' (by decide) ‹_›
      · cases h

/-! ## Unquoting -/

/-- The byte of the escape at the start of a text. -/
def escaped? : List Char → Option UInt8
  | c :: high :: low :: _ =>
    if c = '%' then
      (hexValue? high).bind fun h => (hexValue? low).map fun l => UInt8.ofNat (16 * h + l)
    else none
  | _ => none

/-- A percent sign with two hexadecimal digits behind it. -/
def HasEscape (cs : List Char) : Prop :=
  ∃ front high low back, cs = front ++ '%' :: high :: low :: back ∧
    isHex high = true ∧ isHex low = true

/-- `unquote_to_bytes` of an ASCII text; `skip` counts what is left of the last escape. -/
def unquoteToBytes : (skip : Nat) → List Char → List UInt8
  | _, [] => []
  | skip + 1, _ :: cs => unquoteToBytes skip cs
  | 0, c :: cs =>
    match escaped? (c :: cs) with
    | some b => b :: unquoteToBytes 2 cs
    | none => asciiByte c :: unquoteToBytes 0 cs

def unquoteRun (run : List Char) : List Char := decode 0 (unquoteToBytes 0 run)

/-- Runs of ASCII characters are unquoted; `run` is the one that is being read. -/
def unquoteFrom (run : List Char) : List Char → List Char
  | [] => unquoteRun run
  | c :: cs => if isAscii c then unquoteFrom (run ++ [c]) cs
    else unquoteRun run ++ c :: unquoteFrom [] cs

/-- `unquote(text)` -/
def unquote (cs : List Char) : List Char := if '%' ∉ cs then cs else unquoteFrom [] cs

theorem isSome_escaped?_iff {c : Char} {cs : List Char} : (escaped? (c :: cs)).isSome = true ↔
    ∃ high low back, c :: cs = '%' :: high :: low :: back ∧ isHex high = true ∧
      isHex low = true := by
  constructor
  · intro h
    match cs with
    | [] => cases h
    | [_] => cases h
    | high :: low :: back =>
        rw [escaped?] at h
        split at h
        · rename_i hc
          refine ⟨high, low, back, by rw [hc], ?_⟩
          rw [Option.isSome_bind, Option.any_eq_true] at h
          obtain ⟨n, hn, hlow⟩ := h
          rw [Option.isSome_map] at hlow
          exact ⟨Option.isSome_iff_exists.mpr ⟨n, hn⟩, hlow⟩
        · cases h
  · rintro ⟨high, low, back, heq, hhigh, hlow⟩
    obtain ⟨n, hn⟩ := Option.isSome_iff_exists.mp hhigh
    obtain ⟨m, hm⟩ := Option.isSome_iff_exists.mp hlow
    rw [heq, escaped?, if_pos rfl, hn, hm]
    rfl

theorem hasEscape_cons {c : Char} {cs : List Char} :
    HasEscape (c :: cs) ↔ (escaped? (c :: cs)).isSome = true ∨ HasEscape cs := by
  rw [isSome_escaped?_iff]
  constructor
  · rintro ⟨front, high, low, back, heq, hhex⟩
    cases front with
    | nil => exact .inl ⟨high, low, back, heq, hhex⟩
    | cons d front => exact .inr ⟨front, high, low, back, (List.cons.inj heq).2, hhex⟩
  · rintro (⟨high, low, back, heq, hhex⟩ | ⟨front, high, low, back, rfl, hhex⟩)
    · exact ⟨[], high, low, back, heq, hhex⟩
    · exact ⟨c :: front, high, low, back, rfl, hhex⟩

theorem not_hasEscape_nil : ¬ HasEscape [] := by
  rintro ⟨front, high, low, back, heq, -⟩
  simp at heq

theorem HasEscape.mem {cs : List Char} (h : HasEscape cs) : '%' ∈ cs := by
  obtain ⟨front, high, low, back, rfl, -⟩ := h
  simp

theorem HasEscape.append {cs : List Char} (h : HasEscape cs) (front back : List Char) :
    HasEscape (front ++ cs ++ back) := by
  obtain ⟨before, high, low, after, rfl, hhex⟩ := h
  exact ⟨front ++ before, high, low, after ++ back, by simp, hhex⟩

/-- An escape does not go across a character that is no ASCII. -/
theorem HasEscape.of_append_cons {front back : List Char} {c : Char} (hc : isAscii c = false)
    (h : HasEscape (front ++ c :: back)) : HasEscape front ∨ HasEscape back := by
  have hmiddle : ∀ {d : Char}, isAscii d = true → d ≠ c := by
    intro d hd heq
    rw [heq, hc] at hd
    cases hd
  induction front with
  | nil =>
      rw [List.nil_append, hasEscape_cons, isSome_escaped?_iff] at h
      rcases h with ⟨high, low, after, heq, -⟩ | h
      · exact absurd (List.cons.inj heq).1.symm (hmiddle (by decide))
      · exact .inr h
  | cons d front ih =>
      rw [List.cons_append, hasEscape_cons] at h
      rcases h with h | h
      · obtain ⟨high, low, after, heq, hhigh, hlow⟩ := isSome_escaped?_iff.mp h
        -- the two digits stand before the character
        match front with
        | [] =>
            rw [List.nil_append, List.cons_eq_cons, List.cons_eq_cons] at heq
            exact absurd heq.2.1.symm (hmiddle (isAscii_of_isHex hhigh))
        | [_] =>
            rw [List.cons_append, List.nil_append, List.cons_eq_cons, List.cons_eq_cons,
              List.cons_eq_cons] at heq
            exact absurd heq.2.2.1.symm (hmiddle (isAscii_of_isHex hlow))
        | e :: f :: rest =>
            rw [List.cons_append, List.cons_append, List.cons_eq_cons, List.cons_eq_cons,
              List.cons_eq_cons] at heq
            obtain ⟨rfl, rfl, rfl, -⟩ := heq
            exact .inl ⟨[], e, f, rest, rfl, hhigh, hlow⟩
      · rcases ih h with h | h
        · exact .inl (hasEscape_cons.mpr (.inr h))
        · exact .inr h

theorem unquoteToBytes_of_not_hasEscape {cs : List Char} (h : ¬ HasEscape cs) :
    unquoteToBytes 0 cs = cs.map asciiByte := by
  induction cs with
  | nil => rfl
  | cons c cs ih =>
      rw [hasEscape_cons, not_or, Bool.not_eq_true, Option.isSome_eq_false_iff,
        Option.isNone_iff_eq_none] at h
      rw [unquoteToBytes, h.1, List.map_cons]
      exact congrArg _ (ih h.2)

theorem length_unquoteToBytes_le (skip : Nat) (cs : List Char) :
    (unquoteToBytes skip cs).length ≤ cs.length - skip := by
  induction cs generalizing skip with
  | nil => simp [unquoteToBytes]
  | cons c cs ih =>
      cases skip with
      | succ skip =>
          rw [unquoteToBytes, List.length_cons]
          have hrest := ih skip
          omega
      | zero =>
          rw [unquoteToBytes, List.length_cons]
          cases escaped? (c :: cs) with
          | none =>
              have hrest := ih 0
              simp only [List.length_cons]
              omega
          | some b =>
              have hrest := ih 2
              simp only [List.length_cons]
              omega

theorem length_unquoteToBytes_lt {cs : List Char} (h : HasEscape cs) :
    (unquoteToBytes 0 cs).length < cs.length := by
  induction cs with
  | nil => exact absurd h not_hasEscape_nil
  | cons c cs ih =>
      rw [unquoteToBytes, List.length_cons]
      cases hbyte : escaped? (c :: cs) with
      | some b =>
          have hsome : (escaped? (c :: cs)).isSome = true := by
            rw [hbyte]
            rfl
          obtain ⟨high, low, back, heq, -⟩ := isSome_escaped?_iff.mp hsome
          obtain ⟨-, rfl⟩ := List.cons.inj heq
          have hrest := length_unquoteToBytes_le 2 (high :: low :: back)
          simp only [List.length_cons] at hrest ⊢
          omega
      | none =>
          rw [hasEscape_cons, hbyte] at h
          have hrest := ih (h.resolve_left (by decide))
          simp only [List.length_cons]
          omega

theorem unquoteRun_of_not_hasEscape {run : List Char} (hrun : ∀ c ∈ run, isAscii c = true)
    (h : ¬ HasEscape run) : unquoteRun run = run := by
  rw [unquoteRun, unquoteToBytes_of_not_hasEscape h, decode_map_asciiByte hrun]

theorem length_unquoteRun_le (run : List Char) : (unquoteRun run).length ≤ run.length :=
  Nat.le_trans (length_decode_le 0 _) (length_unquoteToBytes_le 0 run)

theorem length_unquoteRun_lt {run : List Char} (h : HasEscape run) :
    (unquoteRun run).length < run.length :=
  Nat.lt_of_le_of_lt (length_decode_le 0 _) (length_unquoteToBytes_lt h)

theorem unquoteFrom_of_not_hasEscape {run cs : List Char} (hrun : ∀ c ∈ run, isAscii c = true)
    (h : ¬ HasEscape (run ++ cs)) : unquoteFrom run cs = run ++ cs := by
  induction cs generalizing run with
  | nil =>
      rw [List.append_nil] at h ⊢
      exact unquoteRun_of_not_hasEscape hrun h
  | cons c cs ih =>
      rw [unquoteFrom]
      split
      · rename_i hc
        have hnext : run ++ c :: cs = run ++ [c] ++ cs := by simp
        rw [hnext] at h ⊢
        apply ih _ h
        intro d hd
        rcases List.mem_append.mp hd with hd | hd
        · exact hrun d hd
        · rw [List.mem_singleton.mp hd]
          exact hc
      · have hfront : ¬ HasEscape run := fun hr => h (hr.append [] _)
        have hback : ¬ HasEscape ([] ++ cs) := by
          intro hr
          have hwhole := hr.append (run ++ [c]) []
          simp only [List.nil_append, List.append_nil, List.append_assoc, List.singleton_append]
            at hwhole
          exact h hwhole
        rw [unquoteRun_of_not_hasEscape hrun hfront, ih (by simp) hback, List.nil_append]

theorem length_unquoteFrom_le (run cs : List Char) :
    (unquoteFrom run cs).length ≤ run.length + cs.length := by
  induction cs generalizing run with
  | nil => exact length_unquoteRun_le run
  | cons c cs ih =>
      rw [unquoteFrom, List.length_cons]
      split
      · have hrest := ih (run ++ [c])
        rw [List.length_append, List.length_singleton] at hrest
        omega
      · have hfront := length_unquoteRun_le run
        have hback := ih []
        rw [List.length_nil] at hback
        rw [List.length_append, List.length_cons]
        omega

theorem length_unquoteFrom_lt {run cs : List Char} (h : HasEscape (run ++ cs)) :
    (unquoteFrom run cs).length < run.length + cs.length := by
  induction cs generalizing run with
  | nil =>
      rw [List.append_nil] at h
      exact length_unquoteRun_lt h
  | cons c cs ih =>
      rw [unquoteFrom, List.length_cons]
      split
      · have hnext : run ++ c :: cs = run ++ [c] ++ cs := by simp
        rw [hnext] at h
        have hrest := ih h
        rw [List.length_append, List.length_singleton] at hrest
        omega
      · rename_i hc
        have hfront := length_unquoteRun_le run
        have hback := length_unquoteFrom_le [] cs
        rw [List.length_append, List.length_cons]
        rw [List.length_nil] at hback
        rcases h.of_append_cons (Bool.not_eq_true _ ▸ hc) with h | h
        · have hless := length_unquoteRun_lt h
          omega
        · have hempty : HasEscape ([] ++ cs) := h
          have hless := ih hempty
          rw [List.length_nil] at hless
          omega

theorem unquote_eq (cs : List Char) : unquote cs = unquoteFrom [] cs := by
  rw [unquote]
  split
  · rename_i hpercent
    have hnone : ¬ HasEscape ([] ++ cs) := fun h => hpercent h.mem
    exact (unquoteFrom_of_not_hasEscape (by simp) hnone).symm
  · rfl

theorem length_unquote_lt {cs : List Char} (h : HasEscape cs) :
    (unquote cs).length < cs.length := by
  have hempty : HasEscape ([] ++ cs) := h
  have hless := length_unquoteFrom_lt hempty
  rw [List.length_nil, Nat.zero_add] at hless
  rw [unquote_eq]
  exact hless

theorem unquote_of_not_hasEscape {cs : List Char} (h : ¬ HasEscape cs) : unquote cs = cs := by
  have hnone : ¬ HasEscape ([] ++ cs) := h
  rw [unquote_eq, unquoteFrom_of_not_hasEscape (by simp) hnone, List.nil_append]

theorem unquote_of_isAscii {cs : List Char} (h : ∀ c ∈ cs, isAscii c = true) :
    unquote cs = unquoteRun cs := by
  have hfrom : ∀ run, unquoteFrom run cs = unquoteRun (run ++ cs) := by
    induction cs with
    | nil =>
        intro run
        rw [List.append_nil, unquoteFrom]
    | cons c cs ih =>
        intro run
        rw [unquoteFrom, if_pos (h c List.mem_cons_self),
          ih fun d hd => h d (List.mem_cons_of_mem c hd)]
        simp
  rw [unquote_eq, hfrom, List.nil_append]

/-! ## Quoting -/

def isUnreserved (c : Char) : Bool := c.isAlphanum || c == '_' || c == '.' || c == '-' || c == '~'

def hexDigit (d : Nat) : Char := (Nat.digitChar d).toUpper

def quoteByte (b : UInt8) : List Char :=
  if isUnreserved (Char.ofUInt8 b) then [Char.ofUInt8 b]
  else ['%', hexDigit (b.toNat / 16), hexDigit (b.toNat % 16)]

/-- `quote(text, safe="")` -/
def quote (cs : List Char) : List Char := (encode cs).flatMap quoteByte

/-- A character of a quoted text. -/
def isQuoted (c : Char) : Bool := isUnreserved c || c == '%'

theorem isGraphic_of_isUnreserved {c : Char} (h : isUnreserved c = true) :
    isGraphic c = true := by
  have hbound : ∀ low high : UInt32, 0x20 < low.toNat → high.toNat < 0x7f → low ≤ c.val →
      c.val ≤ high → isGraphic c = true := by
    intro low high hlow hhigh hle hge
    have hlo : low.toNat ≤ c.toNat := hle
    have hhi : c.toNat ≤ high.toNat := hge
    rw [isGraphic, Bool.and_eq_true, decide_eq_true_eq, decide_eq_true_eq]
    omega
  rw [isUnreserved, Char.isAlphanum] at h
  delta Char.isAlpha Char.isUpper Char.isLower at h
  simp only [Char.isDigit, Bool.or_eq_true, Bool.and_eq_true, decide_eq_true_eq, beq_iff_eq] at h
  rcases h with (((((h | h) | h) | h) | h) | h) | h
  · exact hbound _ _ (by decide) (by decide) h.1 h.2
  · exact hbound _ _ (by decide) (by decide) h.1 h.2
  · exact hbound _ _ (by decide) (by decide) h.1 h.2
  all_goals
    rw [h]
    decide

theorem isGraphic_of_isQuoted {c : Char} (h : isQuoted c = true) : isGraphic c = true := by
  rw [isQuoted, Bool.or_eq_true, beq_iff_eq] at h
  rcases h with h | rfl
  · exact isGraphic_of_isUnreserved h
  · decide

theorem isUnreserved_hexDigit : ∀ d < 16, isUnreserved (hexDigit d) = true := by decide

theorem hexValue?_hexDigit : ∀ d < 16, hexValue? (hexDigit d) = some d := by decide

theorem isQuoted_of_mem_quoteByte {b : UInt8} {c : Char} (h : c ∈ quoteByte b) :
    isQuoted c = true := by
  have hlt : b.toNat < 256 := b.toNat_lt
  rw [isQuoted, Bool.or_eq_true, beq_iff_eq]
  rw [quoteByte] at h
  split at h
  · rw [List.mem_singleton.mp h]
    exact .inl ‹_›
  · simp only [List.mem_cons, List.not_mem_nil, or_false] at h
    rcases h with rfl | rfl | rfl
    · exact .inr rfl
    · exact .inl (isUnreserved_hexDigit _ (by omega))
    · exact .inl (isUnreserved_hexDigit _ (by omega))

theorem isQuoted_of_mem_quote {cs : List Char} {c : Char} (h : c ∈ quote cs) :
    isQuoted c = true := by
  obtain ⟨b, -, hc⟩ := List.mem_flatMap.mp h
  exact isQuoted_of_mem_quoteByte hc

theorem escaped?_cons_of_ne {c : Char} (h : c ≠ '%') (cs : List Char) :
    escaped? (c :: cs) = none := by
  match cs with
  | [] => rfl
  | [_] => rfl
  | _ :: _ :: _ => rw [escaped?, if_neg h]

theorem escaped?_escape (b : UInt8) (cs : List Char) :
    escaped? ('%' :: hexDigit (b.toNat / 16) :: hexDigit (b.toNat % 16) :: cs) = some b := by
  have hlt : b.toNat < 256 := b.toNat_lt
  have hnumber : 16 * (b.toNat / 16) + b.toNat % 16 = b.toNat := Nat.div_add_mod _ _
  rw [escaped?, if_pos rfl, hexValue?_hexDigit _ (by omega), hexValue?_hexDigit _ (by omega),
    Option.bind_some, Option.map_some, hnumber, UInt8.ofNat_toNat]

theorem unquoteToBytes_quoteByte (b : UInt8) (rest : List Char) :
    unquoteToBytes 0 (quoteByte b ++ rest) = b :: unquoteToBytes 0 rest := by
  rw [quoteByte]
  split
  · rename_i hb
    have hne : Char.ofUInt8 b ≠ '%' := by
      intro heq
      rw [heq] at hb
      exact absurd hb (by decide)
    have hbyte : asciiByte (Char.ofUInt8 b) = b := UInt8.ofNat_toNat
    rw [List.singleton_append, unquoteToBytes, escaped?_cons_of_ne hne, hbyte]
  · rw [List.cons_append, List.cons_append, List.cons_append, List.nil_append, unquoteToBytes,
      escaped?_escape]
    rfl

theorem unquoteToBytes_flatMap_quoteByte (bytes : List UInt8) :
    unquoteToBytes 0 (bytes.flatMap quoteByte) = bytes := by
  induction bytes with
  | nil => rfl
  | cons b bytes ih => rw [List.flatMap_cons, unquoteToBytes_quoteByte, ih]

theorem unquote_quote (cs : List Char) : unquote (quote cs) = cs := by
  have hascii : ∀ c ∈ quote cs, isAscii c = true := by
    intro c hc
    exact isAscii_of_isGraphic (isGraphic_of_isQuoted (isQuoted_of_mem_quote hc))
  rw [unquote_of_isAscii hascii, unquoteRun, quote, unquoteToBytes_flatMap_quoteByte,
    decode_encode]

/-! ## Separators -/

/-- What stands before the first separator, and what follows it if there is one. -/
def partition (sep : Char) (cs : List Char) : List Char × Option (List Char) :=
  match cs.dropWhile (· ≠ sep) with
  | [] => (cs, none)
  | _ :: after => (cs.takeWhile (· ≠ sep), some after)

/-- What stands before the last separator if there is one, and what follows it. -/
def rpartition (sep : Char) (cs : List Char) : Option (List Char) × List Char :=
  ((partition sep cs.reverse).2.map List.reverse, (partition sep cs.reverse).1.reverse)

theorem dropWhile_append_cons {p : Char → Bool} {front : List Char} {c : Char}
    (hfront : ∀ d ∈ front, p d = true) (hc : p c = false) (back : List Char) :
    (front ++ c :: back).dropWhile p = c :: back := by
  rw [List.dropWhile_append_of_pos hfront, List.dropWhile_cons_of_neg (by simp [hc])]

theorem takeWhile_append_cons {p : Char → Bool} {front : List Char} {c : Char}
    (hfront : ∀ d ∈ front, p d = true) (hc : p c = false) (back : List Char) :
    (front ++ c :: back).takeWhile p = front := by
  rw [List.takeWhile_append_of_pos hfront, List.takeWhile_cons_of_neg (by simp [hc]),
    List.append_nil]

theorem partition_append_cons {sep : Char} {front : List Char} (h : sep ∉ front)
    (back : List Char) : partition sep (front ++ sep :: back) = (front, some back) := by
  have hfront : ∀ d ∈ front, decide (d ≠ sep) = true := by
    intro d hd
    exact decide_eq_true (ne_of_mem_of_not_mem hd h)
  rw [partition, dropWhile_append_cons hfront (by simp),
    takeWhile_append_cons hfront (by simp)]

theorem partition_of_notMem {sep : Char} {cs : List Char} (h : sep ∉ cs) :
    partition sep cs = (cs, none) := by
  have hnil : cs.dropWhile (· ≠ sep) = [] := by
    rw [List.dropWhile_eq_nil_iff]
    intro d hd
    exact decide_eq_true (ne_of_mem_of_not_mem hd h)
  rw [partition, hnil]

theorem rpartition_append_cons {sep : Char} {back : List Char} (h : sep ∉ back)
    (front : List Char) : rpartition sep (front ++ sep :: back) = (some front, back) := by
  have hreverse : (front ++ sep :: back).reverse = back.reverse ++ sep :: front.reverse := by simp
  rw [rpartition, hreverse, partition_append_cons (by simpa using h)]
  simp

theorem rpartition_of_notMem {sep : Char} {cs : List Char} (h : sep ∉ cs) :
    rpartition sep cs = (none, cs) := by
  rw [rpartition, partition_of_notMem (by simpa using h)]
  simp

/-- The parts give the text back. -/
theorem append_partition (sep : Char) (cs : List Char) :
    (partition sep cs).1 ++ ((partition sep cs).2.map (sep :: ·)).getD [] = cs := by
  by_cases hsep : sep ∈ cs
  · obtain ⟨front, back, rfl, hfront⟩ := List.eq_append_cons_of_mem hsep
    rw [partition_append_cons hfront]
    rfl
  · rw [partition_of_notMem hsep, Option.map_none, Option.getD_none, List.append_nil]

/-! ## Queries -/

/-- `unquote_plus` -/
def unquotePlus (cs : List Char) : List Char :=
  unquote (cs.map fun c => if c = '+' then ' ' else c)

/-- A field of a query, unless it has no equals sign. -/
def parseField (field : List Char) : Option (String × String) :=
  (partition '=' field).2.map fun value =>
    (String.ofList (unquotePlus (partition '=' field).1), String.ofList (unquotePlus value))

/-- `parse_qsl(query, keep_blank_values=True, strict_parsing=True)`, unless it raises a
`ValueError`. -/
def parseQsl (query : List Char) : Option (List (String × String)) :=
  if query = [] then some [] else (query.splitOn '&').mapM parseField

section Grouping

variable {α β : Type} [DecidableEq α]

/-- A value is added to those of its name. -/
def addValue (field : α × β) : List (α × List β) → List (α × List β)
  | [] => [(field.1, [field.2])]
  | group :: groups =>
    if group.1 = field.1 then (group.1, group.2 ++ [field.2]) :: groups
    else group :: addValue field groups

def grouped (fields : List (α × β)) : List (α × List β) :=
  fields.foldl (fun groups field => addValue field groups) []

theorem addValue_of_notMem {field : α × β} {groups : List (α × List β)}
    (h : field.1 ∉ groups.map Prod.fst) :
    addValue field groups = groups ++ [(field.1, [field.2])] := by
  induction groups with
  | nil => rfl
  | cons group groups ih =>
      rw [List.map_cons, List.mem_cons, not_or] at h
      rw [addValue, if_neg (Ne.symm h.1), ih h.2, List.cons_append]

theorem grouped_of_nodup {fields : List (α × β)} (h : (fields.map Prod.fst).Nodup) :
    grouped fields = fields.map fun field => (field.1, [field.2]) := by
  induction fields using List.reverseRecOn with
  | nil => rfl
  | append_singleton fields field ih =>
      rw [List.map_append, List.nodup_append] at h
      obtain ⟨hfields, -, hdisjoint⟩ := h
      have hgrouped := ih hfields
      have hnew : field.1 ∉ (fields.map fun f => (f.1, [f.2])).map Prod.fst := by
        rw [List.map_map]
        intro hmem
        exact hdisjoint field.1 hmem field.1 (by simp) rfl
      rw [grouped, List.foldl_append]
      rw [grouped] at hgrouped
      rw [hgrouped, List.foldl_cons, List.foldl_nil, addValue_of_notMem hnew, List.map_append]
      rfl

end Grouping

/-- `parse_qs` with the same options. -/
def parseQs (query : List Char) : Option (List (String × List String)) :=
  (parseQsl query).map grouped

def quoteField (field : String × String) : List Char :=
  quote field.1.toList ++ '=' :: quote field.2.toList

/-- `urlencode(fields, safe="", quote_via=quote)` -/
def urlencode (fields : List (String × String)) : List Char :=
  ['&'].intercalate (fields.map quoteField)

theorem notMem_quote {sep : Char} (h : isQuoted sep = false) (cs : List Char) :
    sep ∉ quote cs := by
  intro hmem
  rw [isQuoted_of_mem_quote hmem] at h
  cases h

theorem mem_quoteField {field : String × String} {c : Char} (h : c ∈ quoteField field) :
    isQuoted c = true ∨ c = '=' := by
  rcases List.mem_append.mp h with h | h
  · exact .inl (isQuoted_of_mem_quote h)
  · rcases List.mem_cons.mp h with h | h
    · exact .inr h
    · exact .inl (isQuoted_of_mem_quote h)

theorem mem_urlencode {fields : List (String × String)} {c : Char} (h : c ∈ urlencode fields) :
    isQuoted c = true ∨ c = '=' ∨ c = '&' := by
  rcases eq_or_mem_of_mem_intercalate h with h | ⟨part, hpart, hc⟩
  · exact .inr (.inr h)
  · obtain ⟨field, -, rfl⟩ := List.mem_map.mp hpart
    rcases mem_quoteField hc with hc | hc
    · exact .inl hc
    · exact .inr (.inl hc)

theorem unquotePlus_quote (cs : List Char) : unquotePlus (quote cs) = cs := by
  have hplus : ∀ c ∈ quote cs, (if c = '+' then ' ' else c) = id c := by
    intro c hc
    exact if_neg (ne_of_mem_of_not_mem hc (notMem_quote (by decide) cs))
  rw [unquotePlus, List.map_congr_left hplus, List.map_id, unquote_quote]

theorem parseField_quoteField (field : String × String) :
    parseField (quoteField field) = some field := by
  rw [parseField, quoteField, partition_append_cons (notMem_quote (by decide) _),
    Option.map_some, unquotePlus_quote, unquotePlus_quote, String.ofList_toList,
    String.ofList_toList]

theorem mapM_parseField (fields : List (String × String)) :
    (fields.map quoteField).mapM parseField = some fields := by
  induction fields with
  | nil => rfl
  | cons field fields ih =>
      rw [List.map_cons, List.mapM_cons, parseField_quoteField, ih]
      rfl

theorem parseQsl_urlencode (fields : List (String × String)) :
    parseQsl (urlencode fields) = some fields := by
  cases fields with
  | nil => rfl
  | cons field fields =>
      have hseparate : ∀ part ∈ (field :: fields).map quoteField, '&' ∉ part := by
        intro part hpart hmem
        obtain ⟨f, -, rfl⟩ := List.mem_map.mp hpart
        rcases mem_quoteField hmem with h | h
        · exact absurd h (by decide)
        · exact absurd h (by decide)
      have hne : urlencode (field :: fields) ≠ [] := by
        have hmem : '=' ∈ urlencode (field :: fields) := by
          have hpart : quoteField field ∈ (field :: fields).map quoteField := by simp
          exact mem_intercalate_of_mem hpart (by simp [quoteField])
        exact List.ne_nil_of_mem hmem
      rw [parseQsl, if_neg hne, urlencode, List.splitOn_intercalate _ hseparate (by simp),
        mapM_parseField]

theorem parseQs_urlencode {fields : List (String × String)} (h : (fields.map Prod.fst).Nodup) :
    parseQs (urlencode fields) = some (fields.map fun field => (field.1, [field.2])) := by
  rw [parseQs, parseQsl_urlencode, Option.map_some, grouped_of_nodup h]

/-! ## URLs -/

structure SplitResult where
  scheme : List Char
  netloc : List Char
  path : List Char
  query : List Char
  fragment : List Char

/-- What a URL needs of Unicode beyond ASCII, and of addresses. -/
structure Tables where
  nfkc : List Char → List Char
  lower : List Char → List Char
  /-- Whether the brackets of a netloc hold an address. -/
  isBracketed : List Char → Bool

def isSchemeChar (c : Char) : Bool := c.isAlphanum || c == '+' || c == '-' || c == '.'

/-- The scheme in lower case, and what follows its colon. -/
def splitScheme (url : List Char) : List Char × List Char :=
  match partition ':' url with
  | (c :: scheme, some rest) =>
    if c.isAlpha = true ∧ (c :: scheme).all isSchemeChar = true then
      ((c :: scheme).map Char.toLower, rest)
    else ([], url)
  | _ => ([], url)

def isNetlocChar (c : Char) : Bool := c ≠ '/' && c ≠ '?' && c ≠ '#'

/-- The netloc behind two slashes, and the rest. -/
def splitNetloc : List Char → List Char × List Char
  | '/' :: '/' :: rest => (rest.takeWhile isNetlocChar, rest.dropWhile isNetlocChar)
  | url => ([], url)

section Parts

variable (tables : Tables)

/-- Whether one kind of bracket stands alone, or there is no address between them. -/
def hasBadBrackets (netloc : List Char) : Bool :=
  netloc.contains '[' != netloc.contains ']' ||
    (netloc.contains '[' && !tables.isBracketed netloc)

/-- `_checknetloc` -/
def hasHiddenDelimiter (netloc : List Char) : Bool :=
  let plain := netloc.filter fun c => c ≠ '@' ∧ c ≠ ':' ∧ c ≠ '#' ∧ c ≠ '?'
  !netloc.all isAscii && tables.nfkc plain ≠ plain &&
    (tables.nfkc plain).any fun c => !isNetlocChar c || c == '@' || c == ':'

/-- `urlsplit(url)`, unless it raises a `ValueError`. -/
def urlsplit (url : List Char) : Option SplitResult :=
  let url := (url.dropWhile fun c => c.toNat ≤ 0x20).filter fun c => c ≠ '\t' ∧ c ≠ '\r' ∧ c ≠ '\n'
  let (scheme, url) := splitScheme url
  let (netloc, url) := splitNetloc url
  if hasBadBrackets tables netloc || hasHiddenDelimiter tables netloc then none
  else
    let (url, fragment) := partition '#' url
    let (path, query) := partition '?' url
    some ⟨scheme, netloc, path, query.getD [], fragment.getD []⟩

/-- `urlunsplit((scheme, netloc, path, query, ""))` with a scheme and a netloc. -/
def urlunsplit (scheme netloc path query : List Char) : List Char :=
  let path := if path ≠ [] ∧ path.head? ≠ some '/' then '/' :: path else path
  let url := scheme ++ ':' :: ('/' :: '/' :: netloc ++ path)
  if query = [] then url else url ++ '?' :: query

namespace SplitResult

variable (parsed : SplitResult)

/-- The name and the password before the last `@`. -/
def userinfo : Option (List Char × Option (List Char)) :=
  (rpartition '@' parsed.netloc).1.map (partition ':')

def username : Option (List Char) := parsed.userinfo.map Prod.fst

def password : Option (List Char) := parsed.userinfo.bind Prod.snd

/-- The host and the text of the port. -/
def hostinfo : List Char × List Char :=
  let info := (rpartition '@' parsed.netloc).2
  match (partition '[' info).2 with
  | some bracketed =>
    let (host, rest) := partition ']' bracketed
    (host, ((partition ':' (rest.getD [])).2).getD [])
  | none => ((partition ':' info).1, (partition ':' info).2.getD [])

def lowered (cs : List Char) : List Char :=
  if cs.all isAscii then cs.map Char.toLower else tables.lower cs

/-- The host, of which the scope of an address is not in lower case. -/
def hostname : Option (List Char) :=
  if parsed.hostinfo.1 = [] then none
  else
    let (host, zone) := partition '%' parsed.hostinfo.1
    some (lowered tables host ++ (zone.map ('%' :: ·)).getD [])

/-- The port, unless it raises a `ValueError`; `int` takes at most 4300 digits. -/
def port? : Option (Option Nat) :=
  if parsed.hostinfo.2 = [] then some none
  else if 4300 < parsed.hostinfo.2.length then none
  else ((decimal? parsed.hostinfo.2).filter (· ≤ 65535)).map some

end SplitResult

/-! ### The parts of a link -/

variable {tables} {scheme netloc query fragment : List Char}

theorem splitScheme_append {c : Char} {rest : List Char} (halpha : c.isAlpha = true)
    (hall : (c :: scheme).all isSchemeChar = true)
    (hlower : (c :: scheme).map Char.toLower = c :: scheme) :
    splitScheme (c :: scheme ++ ':' :: rest) = (c :: scheme, rest) := by
  have hcolon : ':' ∉ c :: scheme := by
    intro hmem
    exact absurd (List.all_eq_true.mp hall ':' hmem) (by decide)
  rw [splitScheme, partition_append_cons hcolon]
  simp only [halpha, hall, and_self, ite_true, hlower]

theorem splitNetloc_append {c : Char} {rest : List Char}
    (hnetloc : ∀ d ∈ netloc, isNetlocChar d = true) (hc : isNetlocChar c = false) :
    splitNetloc ('/' :: '/' :: netloc ++ c :: rest) = (netloc, c :: rest) := by
  rw [List.cons_append, List.cons_append, splitNetloc, takeWhile_append_cons hnetloc hc,
    dropWhile_append_cons hnetloc hc]

theorem hasBadBrackets_eq_false (hopen : '[' ∉ netloc) (hclose : ']' ∉ netloc) :
    hasBadBrackets tables netloc = false := by
  simp [hasBadBrackets, hopen, hclose]

theorem hasHiddenDelimiter_eq_false (h : ∀ c ∈ netloc, isAscii c = true) :
    hasHiddenDelimiter tables netloc = false := by
  have hall : netloc.all isAscii = true := List.all_eq_true.mpr h
  simp [hasHiddenDelimiter, hall]

/-- The characters that `urlsplit` removes are not graphic. -/
theorem removed_of_isGraphic {url : List Char} (h : ∀ c ∈ url, isGraphic c = true) :
    (url.dropWhile fun c => c.toNat ≤ 0x20).filter (fun c => c ≠ '\t' ∧ c ≠ '\r' ∧ c ≠ '\n') =
      url := by
  have hspace : ∀ c ∈ url, (decide (c.toNat ≤ 0x20)) = false := by
    intro c hc
    have hgraphic := h c hc
    rw [isGraphic, Bool.and_eq_true, decide_eq_true_eq] at hgraphic
    exact decide_eq_false (by omega)
  rw [dropWhile_eq_self hspace, List.filter_eq_self]
  intro c hc
  have hne : ∀ d, isGraphic d = false → c ≠ d := fun d hd => ne_of_isGraphic (h c hc) hd
  exact decide_eq_true ⟨hne _ (by decide), hne _ (by decide), hne _ (by decide)⟩

/-- The text of a link. -/
def linkText (scheme netloc query fragment : List Char) : List Char :=
  scheme ++ ':' :: ('/' :: '/' :: netloc ++ '?' :: (query ++ '#' :: fragment))

/-- A link of graphic characters is taken apart at its delimiters. -/
theorem urlsplit_linkText {c : Char} (halpha : c.isAlpha = true)
    (hall : (c :: scheme).all isSchemeChar = true)
    (hlower : (c :: scheme).map Char.toLower = c :: scheme)
    (hgraphic : ∀ d ∈ linkText (c :: scheme) netloc query fragment, isGraphic d = true)
    (hnetloc : ∀ d ∈ netloc, isNetlocChar d = true) (hopen : '[' ∉ netloc) (hclose : ']' ∉ netloc)
    (hquery : '#' ∉ query) :
    urlsplit tables (linkText (c :: scheme) netloc query fragment) =
      some ⟨c :: scheme, netloc, [], query, fragment⟩ := by
  have hascii : ∀ d ∈ netloc, isAscii d = true := by
    intro d hd
    apply isAscii_of_isGraphic (hgraphic d _)
    simp [linkText, hd]
  have hfragment : '#' ∉ '?' :: query := by
    rw [List.mem_cons, not_or]
    exact ⟨by decide, hquery⟩
  have hsplit : partition '#' ('?' :: (query ++ '#' :: fragment)) =
      ('?' :: query, some fragment) := partition_append_cons hfragment fragment
  have hpath : partition '?' ('?' :: query) = ([], some query) :=
    partition_append_cons List.not_mem_nil query
  rw [urlsplit, removed_of_isGraphic hgraphic, linkText, splitScheme_append halpha hall hlower]
  simp only [splitNetloc_append hnetloc (show isNetlocChar '?' = false by decide),
    hasBadBrackets_eq_false hopen hclose, hasHiddenDelimiter_eq_false hascii, Bool.or_self,
    Bool.false_eq_true, ite_false, hsplit, hpath, Option.getD_some]

theorem exists_urlunsplit {path : List Char} (hpath : path ≠ []) : ∃ rest,
    urlunsplit scheme netloc path query = scheme ++ ':' :: ('/' :: '/' :: netloc ++ '/' :: rest) := by
  have hslash : ∃ rest, (if path ≠ [] ∧ path.head? ≠ some '/' then '/' :: path else path) =
      '/' :: rest := by
    cases path with
    | nil => exact absurd rfl hpath
    | cons c cs =>
        by_cases hc : c = '/'
        · exact ⟨cs, by simp [hc]⟩
        · exact ⟨c :: cs, by simp [hc]⟩
  obtain ⟨rest, hrest⟩ := hslash
  rw [urlunsplit, hrest]
  by_cases hquery : query = []
  · exact ⟨rest, by simp [hquery]⟩
  · exact ⟨rest ++ '?' :: query, by simp [hquery]⟩

/-- A netloc is read back from the URL that it was put into. -/
theorem urlsplit_urlunsplit {c : Char} {path : List Char} (halpha : c.isAlpha = true)
    (hall : (c :: scheme).all isSchemeChar = true)
    (hlower : (c :: scheme).map Char.toLower = c :: scheme)
    (hscheme : ∀ d ∈ c :: scheme, isGraphic d = true)
    (hgraphic : ∀ d ∈ netloc, isGraphic d = true)
    (hnetloc : ∀ d ∈ netloc, isNetlocChar d = true)
    (hbrackets : hasBadBrackets tables netloc = false) (hpath : path ≠ []) :
    ∃ parsed, urlsplit tables (urlunsplit (c :: scheme) netloc path query) = some parsed ∧
      parsed.scheme = c :: scheme ∧ parsed.netloc = netloc := by
  obtain ⟨rest, hrest⟩ : ∃ rest, urlunsplit (c :: scheme) netloc path query =
      c :: scheme ++ ':' :: ('/' :: '/' :: netloc ++ '/' :: rest) := exists_urlunsplit hpath
  have hfront : ∀ d ∈ c :: scheme ++ ':' :: '/' :: '/' :: netloc, isGraphic d = true := by
    intro d hd
    rcases List.mem_append.mp hd with hd | hd
    · exact hscheme d hd
    · simp only [List.mem_cons] at hd
      rcases hd with rfl | rfl | rfl | hd
      · decide
      · decide
      · decide
      · exact hgraphic d hd
  have hascii : ∀ d ∈ netloc, isAscii d = true := fun d hd => isAscii_of_isGraphic (hgraphic d hd)
  -- What is removed stands behind the netloc.
  have hremoved : ((c :: scheme ++ ':' :: ('/' :: '/' :: netloc ++ '/' :: rest)).dropWhile
      fun d => d.toNat ≤ 0x20).filter (fun d => d ≠ '\t' ∧ d ≠ '\r' ∧ d ≠ '\n') =
      c :: scheme ++ ':' :: ('/' :: '/' :: netloc ++ '/' ::
        rest.filter fun d => d ≠ '\t' ∧ d ≠ '\r' ∧ d ≠ '\n') := by
    have hparts : c :: scheme ++ ':' :: ('/' :: '/' :: netloc ++ '/' :: rest) =
        (c :: scheme ++ ':' :: '/' :: '/' :: netloc) ++ '/' :: rest := by simp
    have hkept := removed_of_isGraphic hfront
    have hspace : ¬ c.toNat ≤ 0x20 := by
      have hc := hscheme c List.mem_cons_self
      rw [isGraphic, Bool.and_eq_true, decide_eq_true_eq] at hc
      omega
    rw [List.cons_append, List.dropWhile_cons_of_neg (by simpa using hspace)] at hkept
    rw [hparts, List.cons_append, List.cons_append, List.dropWhile_cons_of_neg (by simpa using hspace),
      ← List.cons_append, ← List.cons_append, List.filter_append, List.cons_append, hkept]
    simp
  rw [urlsplit, hrest, hremoved, splitScheme_append halpha hall hlower]
  simp only [splitNetloc_append hnetloc (show isNetlocChar '/' = false by decide), hbrackets,
    hasHiddenDelimiter_eq_false hascii, Bool.or_self, Bool.false_eq_true, ite_false]
  exact ⟨_, rfl, rfl, rfl⟩

section Authority

variable {parsed : SplitResult} {user host port : List Char}

/-- What stands in a netloc with a name, a host and a port. -/
theorem parts_of_netloc (hparts : parsed.netloc = user ++ '@' :: (host ++ ':' :: port))
    (huser : ':' ∉ user) (hhost : '@' ∉ host ∧ ':' ∉ host ∧ '[' ∉ host)
    (hport : '@' ∉ port ∧ '[' ∉ port) :
    parsed.userinfo = some (user, none) ∧ parsed.hostinfo = (host, port) := by
  have hat : '@' ∉ host ++ ':' :: port := by
    rw [List.mem_append, List.mem_cons, not_or, not_or]
    exact ⟨hhost.1, by decide, hport.1⟩
  have hbracket : '[' ∉ host ++ ':' :: port := by
    rw [List.mem_append, List.mem_cons, not_or, not_or]
    exact ⟨hhost.2.2, by decide, hport.2⟩
  have hinfo := rpartition_append_cons hat user
  rw [← hparts] at hinfo
  constructor
  · rw [SplitResult.userinfo, hinfo, Option.map_some, partition_of_notMem huser]
  · simp only [SplitResult.hostinfo, hinfo, partition_of_notMem hbracket,
      partition_append_cons hhost.2.1, Option.getD_some]

/-- The host of a netloc that has neither a name nor brackets. -/
theorem hostinfo_of_bare {rest : List Char} (hparts : parsed.netloc = host ++ rest)
    (hrest : rest = [] ∨ rest = ':' :: port) (hhost : '@' ∉ host ∧ ':' ∉ host ∧ '[' ∉ host)
    (hport : '@' ∉ port ∧ '[' ∉ port) : parsed.hostinfo.1 = host := by
  have hmem : ∀ c, c ∉ host → c ≠ ':' → c ∉ port → c ∉ parsed.netloc := by
    intro c hc hne hcport
    rcases hrest with rfl | rfl <;> simp [hparts, hc, hne, hcport]
  have hinfo := rpartition_of_notMem (hmem '@' hhost.1 (by decide) hport.1)
  have hbracket := partition_of_notMem (hmem '[' hhost.2.2 (by decide) hport.2)
  have hcolon : (partition ':' parsed.netloc).1 = host := by
    rw [hparts]
    rcases hrest with rfl | rfl
    · rw [List.append_nil, partition_of_notMem hhost.2.1]
    · rw [partition_append_cons hhost.2.1]
  simp only [SplitResult.hostinfo, hinfo, hbracket, hcolon]

/-- The host of a netloc that has no name, in brackets. -/
theorem hostinfo_of_bracketed {rest : List Char}
    (hparts : parsed.netloc = '[' :: (host ++ ']' :: rest)) (hhost : '@' ∉ host ∧ ']' ∉ host)
    (hrest : '@' ∉ rest) : parsed.hostinfo.1 = host := by
  have hat : '@' ∉ parsed.netloc := by simp [hparts, hhost.1, hrest]
  have hopen : partition '[' parsed.netloc = ([], some (host ++ ']' :: rest)) := by
    rw [hparts]
    exact partition_append_cons List.not_mem_nil _
  simp only [SplitResult.hostinfo, rpartition_of_notMem hat, hopen,
    partition_append_cons hhost.2]

/-- A host is its host name if it is in lower case up to its scope. -/
theorem hostname_of_lower (h : parsed.hostinfo.1 = host) (hne : host ≠ [])
    (hascii : ∀ c ∈ (partition '%' host).1, isAscii c = true)
    (hlower : (partition '%' host).1.map Char.toLower = (partition '%' host).1) :
    parsed.hostname tables = some host := by
  have hall : (partition '%' host).1.all isAscii = true := List.all_eq_true.mpr hascii
  simp only [SplitResult.hostname, h, hne, ite_false, SplitResult.lowered, hall, ite_true, hlower,
    append_partition]

theorem hostname_of_hostinfo (h : parsed.hostinfo = (host, port)) (hne : host ≠ [])
    (hascii : ∀ c ∈ host, isAscii c = true) (hlower : host.map Char.toLower = host)
    (hzone : '%' ∉ host) : parsed.hostname tables = some host := by
  have hbare : (partition '%' host).1 = host := by rw [partition_of_notMem hzone]
  apply hostname_of_lower (by rw [h]) hne
  · rwa [hbare]
  · rw [hbare, hlower]

theorem port?_of_hostinfo {n : Nat} (h : parsed.hostinfo = (host, Nat.toDigits 10 n))
    (hn : n ≤ 65535) : parsed.port? = some (some n) := by
  have hne : Nat.toDigits 10 n ≠ [] := Nat.toDigits_ne_nil
  have hdigits : (Nat.toDigits 10 n).length ≤ 5 := by
    rw [Nat.length_toDigits_le_iff (by decide) (by decide)]
    omega
  have hlength : ¬ 4300 < (Nat.toDigits 10 n).length := by omega
  simp only [SplitResult.port?, h, hne, ite_false, hlength, decimal?_toDigits, Option.filter_some,
    hn, decide_true, ite_true, Option.map_some]

end Authority

end Parts

end Grouproxy.Urllib
