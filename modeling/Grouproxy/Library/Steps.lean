import Mathlib.Data.List.Forall2

/-! # Steps that may fail

A step changes a state and may fail; what it changed before the failure stays. Steps in
sequence stop at the first failure.
-/

namespace Grouproxy.Steps

variable {σ ε α β : Type}

abbrev Step (σ ε : Type) : Type := σ → σ × Except ε Unit

def andThen (s t : Step σ ε) : Step σ ε := fun w =>
  match s w with
  | (w', .ok ()) => t w'
  | (w', .error e) => (w', .error e)

def runAll : List (Step σ ε) → Step σ ε
  | [] => fun w => (w, .ok ())
  | s :: steps => andThen s (runAll steps)

theorem andThen_of_ok {s : Step σ ε} {w w' : σ} (h : s w = (w', .ok ())) (t : Step σ ε) :
    andThen s t w = t w' := by
  rw [andThen, h]

theorem andThen_of_error {s : Step σ ε} {w w' : σ} {e : ε} (h : s w = (w', .error e))
    (t : Step σ ε) : andThen s t w = (w', .error e) := by
  rw [andThen, h]

/-- A sequence either ends in the first step, with its failure, or in the second. -/
theorem andThen_cases (s t : Step σ ε) (w : σ) :
    (∃ w' e, s w = (w', .error e) ∧ andThen s t w = (w', .error e)) ∨
      ∃ w', s w = (w', .ok ()) ∧ andThen s t w = t w' := by
  cases h : s w with
  | mk w' r =>
      cases r with
      | error e => exact .inl ⟨w', e, rfl, andThen_of_error h t⟩
      | ok u => exact .inr ⟨w', rfl, andThen_of_ok h t⟩

/-- A sequence that succeeds succeeds in both parts. -/
theorem andThen_ok {s t : Step σ ε} {w w' : σ} (h : andThen s t w = (w', .ok ())) :
    ∃ v, s w = (v, .ok ()) ∧ t v = (w', .ok ()) := by
  rcases andThen_cases s t w with ⟨v, e, -, hrun⟩ | ⟨v, hv, hrun⟩
  · rw [hrun] at h
    cases h
  · exact ⟨v, hv, by rw [← hrun, h]⟩

theorem runAll_append (steps others : List (Step σ ε)) :
    runAll (steps ++ others) = andThen (runAll steps) (runAll others) := by
  induction steps with
  | nil => rfl
  | cons s steps ih =>
      funext w
      rw [List.cons_append, runAll, runAll, ih]
      rcases andThen_cases s (runAll steps) w with ⟨w', e, hw, hrun⟩ | ⟨w', hw, hrun⟩
      · rw [andThen_of_error hw, andThen_of_error hrun]
      · rw [andThen_of_ok hw, andThen, andThen, hrun]

/-- What every step keeps, the sequence keeps, also when it stops halfway. -/
theorem runAll_invariant {P : σ → Prop} {steps : List (Step σ ε)}
    (hstep : ∀ s ∈ steps, ∀ w, P w → P (s w).1) {w : σ} (h : P w) : P (runAll steps w).1 := by
  induction steps generalizing w with
  | nil => exact h
  | cons s steps ih =>
      have hs := hstep s List.mem_cons_self w h
      have ih := fun w (hw : P w) => ih (fun t ht => hstep t (List.mem_cons_of_mem s ht)) hw
      rw [runAll]
      rcases andThen_cases s (runAll steps) w with ⟨w', e, hw, hrun⟩ | ⟨w', hw, hrun⟩
      · rw [hw] at hs
        rw [hrun]
        exact hs
      · rw [hw] at hs
        rw [hrun]
        exact ih w' hs

/-- A computation with a result is the result of its parts. -/
theorem bind_eq_ok {x : Except ε α} {f : α → Except ε β} {b : β} (h : (x >>= f) = .ok b) :
    ∃ a, x = .ok a ∧ f a = .ok b := by
  cases x with
  | error e => cases h
  | ok a => exact ⟨a, rfl, h⟩

/-- A loop keeps what its body keeps. -/
theorem foldlM_invariant {step : β → α → Except ε β} {P : β → Prop}
    (hstep : ∀ s x s', P s → step s x = .ok s' → P s') {xs : List α} {s s' : β} (hs : P s)
    (h : xs.foldlM step s = .ok s') : P s' := by
  induction xs generalizing s with
  | nil =>
      cases h
      exact hs
  | cons x xs ih =>
      rw [List.foldlM_cons] at h
      obtain ⟨t, hfirst, hrest⟩ := bind_eq_ok h
      exact ih (hstep s x t hs hfirst) hrest

/-- A loop that succeeds has gone through every element. -/
theorem forall_ok_of_foldlM {step : β → α → Except ε β} {xs : List α} {s s' : β}
    (h : xs.foldlM step s = .ok s') : ∀ x ∈ xs, ∃ t t', step t x = .ok t' := by
  induction xs generalizing s with
  | nil => simp
  | cons x xs ih =>
      rw [List.foldlM_cons] at h
      obtain ⟨t, hfirst, hrest⟩ := bind_eq_ok h
      intro y hy
      rcases List.mem_cons.mp hy with rfl | hy
      · exact ⟨s, t, hfirst⟩
      · exact ih hrest y hy

/-- A loop whose body appends a run for each element appends all the runs in order. -/
theorem foldlM_appends {γ : Type} {step : β → α → Except ε β} {out : β → List γ}
    {Run : α → List γ → Prop}
    (hstep : ∀ s x s', step s x = .ok s' → ∃ run, out s' = out s ++ run ∧ Run x run)
    {xs : List α} {s s' : β} (h : xs.foldlM step s = .ok s') :
    ∃ runs : List (List γ), out s' = out s ++ runs.flatten ∧ List.Forall₂ Run xs runs := by
  induction xs generalizing s with
  | nil =>
      cases h
      exact ⟨[], by simp, .nil⟩
  | cons x xs ih =>
      rw [List.foldlM_cons] at h
      obtain ⟨t, hfirst, hrest⟩ := bind_eq_ok h
      obtain ⟨run, hrun, hx⟩ := hstep s x t hfirst
      obtain ⟨runs, hruns, hxs⟩ := ih hrest
      exact ⟨run :: runs, by rw [hruns, hrun, List.flatten_cons, List.append_assoc],
        .cons hx hxs⟩

end Grouproxy.Steps
