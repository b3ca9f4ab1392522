import Mathlib.Data.List.Infix
import Grouproxy.Library.Lines

/-! # The complete lines of a growing file

A line is complete once its line feed is there. What is appended later adds lines and leaves the
complete ones as they are.
-/

namespace Grouproxy.Lines

variable {line bytes rest added : Bytes} {lines : List Bytes}

/-- The complete lines, without their line feeds; `line` is the line under way, reversed. -/
def completeLinesFrom (line : Bytes) : Bytes → List Bytes
  | [] => []
  | b :: bytes =>
    if b = lineFeed then line.reverse :: completeLinesFrom [] bytes
    else completeLinesFrom (b :: line) bytes

def completeLines (bytes : Bytes) : List Bytes := completeLinesFrom [] bytes

/-- The size of lines in a file. -/
def linesSize (lines : List Bytes) : ℕ := (lines.flatMap terminated).length

@[simp] theorem linesSize_nil : linesSize [] = 0 := rfl

theorem linesSize_append (lines others : List Bytes) :
    linesSize (lines ++ others) = linesSize lines + linesSize others := by
  rw [linesSize, List.flatMap_append, List.length_append, linesSize, linesSize]

theorem completeLinesFrom_of_not_mem (h : lineFeed ∉ bytes) (line : Bytes) :
    completeLinesFrom line bytes = [] := by
  induction bytes generalizing line with
  | nil => rfl
  | cons b bytes ih =>
      obtain ⟨hb, hbytes⟩ := not_or.mp (mt List.mem_cons.mpr h)
      rw [completeLinesFrom, if_neg (Ne.symm hb), ih hbytes]

theorem completeLines_of_not_mem (h : lineFeed ∉ bytes) : completeLines bytes = [] :=
  completeLinesFrom_of_not_mem h []

theorem completeLinesFrom_terminated (h : lineFeed ∉ line) (start rest : Bytes) :
    completeLinesFrom start (line ++ lineFeed :: rest) =
      (start.reverse ++ line) :: completeLines rest := by
  induction line generalizing start with
  | nil => rw [List.nil_append, completeLinesFrom, if_pos rfl, List.append_nil, completeLines]
  | cons b line ih =>
      obtain ⟨hb, hline⟩ := not_or.mp (mt List.mem_cons.mpr h)
      rw [List.cons_append, completeLinesFrom, if_neg (Ne.symm hb), ih hline]
      simp

/-- Lines that are complete are the first of the complete lines. -/
theorem completeLines_flatMap_append (h : ∀ line ∈ lines, lineFeed ∉ line) (rest : Bytes) :
    completeLines (lines.flatMap terminated ++ rest) = lines ++ completeLines rest := by
  induction lines with
  | nil => rfl
  | cons line lines ih =>
      have hline := h line List.mem_cons_self
      have hlines := ih fun other hother => h other (List.mem_cons_of_mem _ hother)
      rw [List.flatMap_cons, terminated, List.append_assoc, List.append_assoc,
        List.singleton_append, completeLines, completeLinesFrom_terminated hline, hlines]
      rfl

end Grouproxy.Lines
