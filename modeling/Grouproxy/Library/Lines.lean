import Mathlib.Data.List.Basic

/-! # Lines of bytes

`bytes.splitlines()`: a line ends with a line feed, a carriage return, or both.
-/

namespace Grouproxy.Lines

abbrev Bytes : Type := List UInt8

/-- The bytes of a text in UTF-8. -/
def bytesOf (text : String) : Bytes := text.toUTF8.toList

theorem toList_eq_data (bytes : ByteArray) : bytes.toList = bytes.data.toList := by
  have hloop : ∀ i r, ByteArray.toList.loop bytes i r = r.reverse ++ bytes.data.toList.drop i := by
    intro i r
    induction i, r using ByteArray.toList.loop.induct bytes with
    | case1 i r hlt ih =>
        have hget : bytes.data.toList.drop i = bytes.get! i :: bytes.data.toList.drop (i + 1) := by
          rw [List.drop_eq_getElem_cons (by simpa using hlt)]
          simp [ByteArray.get!, hlt]
        rw [ByteArray.toList.loop, if_pos hlt, ih, List.reverse_cons, List.append_assoc, hget]
        rfl
    | case2 i r hge =>
        rw [ByteArray.toList.loop, if_neg hge, List.drop_eq_nil_of_le (by simpa using hge),
          List.append_nil]
  rw [ByteArray.toList, hloop]
  rfl

theorem toByteArray_bytesOf (text : String) : (bytesOf text).toByteArray = text.toUTF8 := by
  apply ByteArray.ext
  rw [List.data_toByteArray, bytesOf, toList_eq_data, Array.toArray_toList]

theorem length_bytesOf (text : String) : (bytesOf text).length = text.utf8ByteSize := by
  rw [bytesOf, toList_eq_data, Array.length_toList]
  rfl

def lineFeed : UInt8 := 10

def carriageReturn : UInt8 := 13

/-- The lines of the remaining bytes; `line` is the line under way, reversed, and a line feed
after a carriage return belongs to the same break. -/
def splitlinesFrom (line : Bytes) (afterReturn : Bool) : Bytes → List Bytes
  | [] => if line = [] then [] else [line.reverse]
  | b :: bytes =>
    if b = lineFeed ∧ afterReturn = true then splitlinesFrom line false bytes
    else if b = lineFeed ∨ b = carriageReturn then
      line.reverse :: splitlinesFrom [] (b = carriageReturn) bytes
    else splitlinesFrom (b :: line) false bytes

def splitlines (bytes : Bytes) : List Bytes := splitlinesFrom [] false bytes

/-- A line without a line break in it. -/
def IsLine (line : Bytes) : Prop := lineFeed ∉ line ∧ carriageReturn ∉ line

def terminated (line : Bytes) : Bytes := line ++ [lineFeed]

theorem splitlinesFrom_terminated {line : Bytes} (h : IsLine line) (start rest : Bytes) :
    splitlinesFrom start false (line ++ lineFeed :: rest) =
      (start.reverse ++ line) :: splitlinesFrom [] false rest := by
  induction line generalizing start with
  | nil => simp [splitlinesFrom, lineFeed, carriageReturn]
  | cons b line ih =>
      have hfeed : b ≠ lineFeed := fun heq => h.1 (heq ▸ List.mem_cons_self)
      have hreturn : b ≠ carriageReturn := fun heq => h.2 (heq ▸ List.mem_cons_self)
      have hline : IsLine line :=
        ⟨fun hmem => h.1 (List.mem_cons_of_mem _ hmem), fun hmem => h.2 (List.mem_cons_of_mem _ hmem)⟩
      rw [List.cons_append, splitlinesFrom, if_neg fun hb => hfeed hb.1,
        if_neg fun hb => hb.elim hfeed hreturn, ih hline]
      simp

/-- Terminated lines read back as they were written. -/
theorem splitlines_flatMap_terminated {lines : List Bytes} (h : ∀ line ∈ lines, IsLine line) :
    splitlines (lines.flatMap terminated) = lines := by
  induction lines with
  | nil => rfl
  | cons line lines ih =>
      have hrest := ih fun other hother => h other (List.mem_cons_of_mem _ hother)
      rw [splitlines] at hrest
      rw [splitlines, List.flatMap_cons, terminated, List.append_assoc, List.singleton_append,
        splitlinesFrom_terminated (h line List.mem_cons_self), hrest]
      rfl

end Grouproxy.Lines
