import Mathlib.Data.List.Basic

/-! # Runs of a transition system

A step takes a state and an event to the next state, or it cannot happen. What a step keeps, a run
keeps; what a step keeps exactly under a condition, a run keeps exactly if each of its steps meets
the condition.
-/

namespace Grouproxy.Transitions

variable {σ ε : Type} {step : σ → ε → Option σ} {s t u : σ} {e : ε} {events others : List ε}

/-- The state after a list of events, if all of them can happen. -/
def run (step : σ → ε → Option σ) : σ → List ε → Option σ
  | s, [] => some s
  | s, e :: events => (step s e).bind fun t => run step t events

@[simp] theorem run_nil : run step s [] = some s := rfl

theorem run_cons : run step s (e :: events) = some u ↔
    ∃ t, step s e = some t ∧ run step t events = some u :=
  Option.bind_eq_some_iff

theorem run_append : run step s (events ++ others) = some u ↔
    ∃ t, run step s events = some t ∧ run step t others = some u := by
  induction events generalizing s with
  | nil => simp
  | cons e events ih =>
      rw [List.cons_append, run_cons]
      constructor
      · rintro ⟨t, hstep, hrun⟩
        obtain ⟨v, hfirst, hrest⟩ := ih.mp hrun
        exact ⟨v, run_cons.mpr ⟨t, hstep, hfirst⟩, hrest⟩
      · rintro ⟨v, hfirst, hrest⟩
        obtain ⟨t, hstep, hrun⟩ := run_cons.mp hfirst
        exact ⟨t, hstep, ih.mpr ⟨v, hrun, hrest⟩⟩

/-- What every step keeps, a run keeps. -/
theorem run_invariant {inv : σ → Prop}
    (hstep : ∀ s e t, step s e = some t → inv s → inv t)
    (hrun : run step s events = some u) (h : inv s) : inv u := by
  induction events generalizing s with
  | nil =>
      cases hrun
      exact h
  | cons e events ih =>
      obtain ⟨t, hfirst, hrest⟩ := run_cons.mp hrun
      exact ih hrest (hstep s e t hfirst h)

/-- `good` holds in every state that the run reaches. -/
def Always (step : σ → ε → Option σ) (good : σ → Prop) (s : σ) (events : List ε) : Prop :=
  ∀ prior, prior <+: events → ∀ t, run step s prior = some t → good t

/-- Every step of the run meets a condition on the state that it finds. -/
def Meets (step : σ → ε → Option σ) (cond : σ → ε → Prop) (s : σ) (events : List ε) : Prop :=
  ∀ prior e, prior ++ [e] <+: events → ∀ t, run step s prior = some t → cond t e

theorem always_cons {good : σ → Prop} (h : step s e = some t) :
    Always step good s (e :: events) ↔ good s ∧ Always step good t events := by
  constructor
  · intro hall
    refine ⟨hall [] List.nil_prefix s rfl, ?_⟩
    intro prior hprior v hrun
    exact hall (e :: prior) (List.cons_prefix_cons.mpr ⟨rfl, hprior⟩) v (run_cons.mpr ⟨t, h, hrun⟩)
  · rintro ⟨hs, hall⟩ prior hprior v hrun
    cases prior with
    | nil =>
        cases hrun
        exact hs
    | cons a prior =>
        obtain ⟨rfl, hrest⟩ := List.cons_prefix_cons.mp hprior
        obtain ⟨w, hstep, hrun⟩ := run_cons.mp hrun
        rw [h, Option.some.injEq] at hstep
        subst hstep
        exact hall prior hrest v hrun

theorem meets_cons {cond : σ → ε → Prop} (h : step s e = some t) :
    Meets step cond s (e :: events) ↔ cond s e ∧ Meets step cond t events := by
  constructor
  · intro hall
    refine ⟨hall [] e (by simp) s rfl, ?_⟩
    intro prior a hprior v hrun
    exact hall (e :: prior) a (List.cons_prefix_cons.mpr ⟨rfl, hprior⟩) v
      (run_cons.mpr ⟨t, h, hrun⟩)
  · rintro ⟨hs, hall⟩ prior a hprior v hrun
    cases prior with
    | nil =>
        obtain ⟨rfl, -⟩ := List.cons_prefix_cons.mp hprior
        cases hrun
        exact hs
    | cons b prior =>
        obtain ⟨rfl, hrest⟩ := List.cons_prefix_cons.mp hprior
        obtain ⟨w, hstep, hrun⟩ := run_cons.mp hrun
        rw [h, Option.some.injEq] at hstep
        subst hstep
        exact hall prior a hrest v hrun

/-- If a step from a good state is good exactly under a condition, then so is a run. -/
theorem always_iff_meets {inv good : σ → Prop} {cond : σ → ε → Prop}
    (hinv : ∀ s e t, step s e = some t → inv s → inv t)
    (hgood : ∀ s e t, step s e = some t → inv s → good s → (good t ↔ cond s e))
    (hrun : run step s events = some u) (h : inv s) (hs : good s) :
    Always step good s events ↔ Meets step cond s events := by
  induction events generalizing s with
  | nil =>
      constructor
      · intro _ prior a hprior
        simp at hprior
      · intro _ prior hprior v hv
        rw [List.prefix_nil.mp hprior] at hv
        cases hv
        exact hs
  | cons e events ih =>
      obtain ⟨t, hstep, hrest⟩ := run_cons.mp hrun
      rw [always_cons hstep, meets_cons hstep]
      have hnext := hgood s e t hstep h hs
      constructor
      · rintro ⟨-, hall⟩
        have ht : good t := hall [] List.nil_prefix t rfl
        exact ⟨hnext.mp ht, (ih hrest (hinv s e t hstep h) ht).mp hall⟩
      · rintro ⟨hcond, hall⟩
        have ht : good t := hnext.mpr hcond
        exact ⟨hs, (ih hrest (hinv s e t hstep h) ht).mpr hall⟩

end Grouproxy.Transitions
