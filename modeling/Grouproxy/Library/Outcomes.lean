import Grouproxy.Library.Handlers

/-! # How a computation ends

Running alone, a computation returns or raises an exception. Each way of ending has a rule for
every construct, so that both can be read off the parts.
-/

namespace Grouproxy.Programs.Prog

variable {Λ σ ε α β : Type}

/-- The computation returns, with a result and a store of which `Q` holds. -/
def Returns (p : Prog Λ σ ε α) (s : σ) (Q : α → σ → Prop) : Prop :=
  ∃ a s', p.run s = (.ok a, s') ∧ Q a s'

/-- The computation raises, with an exception and a store of which `Q` holds. -/
def Raises (p : Prog Λ σ ε α) (s : σ) (Q : ε → σ → Prop) : Prop :=
  ∃ e s', p.run s = (.error e, s') ∧ Q e s'

section Outcomes

variable {p : Prog Λ σ ε α} {s : σ} {Q Q' : α → σ → Prop} {E E' : ε → σ → Prop} {R : β → σ → Prop}

theorem Returns.mono (h : p.Returns s Q) (hQ : ∀ a s', Q a s' → Q' a s') : p.Returns s Q' := by
  obtain ⟨a, s', hrun, hend⟩ := h
  exact ⟨a, s', hrun, hQ a s' hend⟩

theorem returns_congr (h : ∀ a s', Q a s' ↔ Q' a s') : p.Returns s Q ↔ p.Returns s Q' :=
  ⟨fun hp => hp.mono fun a s' => (h a s').mp, fun hp => hp.mono fun a s' => (h a s').mpr⟩

theorem raises_congr (h : ∀ e s', E e s' ↔ E' e s') : p.Raises s E ↔ p.Raises s E' := by
  constructor
  · rintro ⟨e, s', hrun, hend⟩
    exact ⟨e, s', hrun, (h e s').mp hend⟩
  · rintro ⟨e, s', hrun, hend⟩
    exact ⟨e, s', hrun, (h e s').mpr hend⟩

@[simp] theorem returns_ok {a : α} : (done (.ok a) : Prog Λ σ ε α).Returns s Q ↔ Q a s := by
  constructor
  · rintro ⟨_, _, hrun, hend⟩
    cases hrun
    exact hend
  · intro h
    exact ⟨a, s, rfl, h⟩

@[simp] theorem returns_error {e : ε} : (done (.error e) : Prog Λ σ ε α).Returns s Q ↔ False := by
  constructor
  · rintro ⟨_, _, hrun, -⟩
    cases hrun
  · intro h
    exact h.elim

@[simp] theorem raises_error {e : ε} : (done (.error e) : Prog Λ σ ε α).Raises s E ↔ E e s := by
  constructor
  · rintro ⟨_, _, hrun, hend⟩
    cases hrun
    exact hend
  · intro h
    exact ⟨e, s, rfl, h⟩

@[simp] theorem returns_bind {f : α → Prog Λ σ ε β} :
    (p >>= f).Returns s R ↔ p.Returns s fun a s' => (f a).Returns s' R := by
  constructor
  · rintro ⟨b, s', hrun, hend⟩
    obtain ⟨a, t, hp, hf⟩ := runWith_bind_eq_ok.mp hrun
    exact ⟨a, t, hp, b, s', hf, hend⟩
  · rintro ⟨a, t, hp, b, s', hf, hend⟩
    exact ⟨b, s', (run_bind_ok hp f).trans hf, hend⟩

@[simp] theorem returns_tryCatch {f : ε → Prog Λ σ ε α} :
    (p.tryCatch f).Returns s Q ↔ p.Returns s Q ∨ p.Raises s fun e s' => (f e).Returns s' Q := by
  constructor
  · rintro ⟨a, s', hrun, hend⟩
    rcases hp : p.run s with ⟨r, t⟩
    cases r with
    | ok b =>
        rw [run_tryCatch_ok hp] at hrun
        cases hrun
        exact .inl ⟨a, s', hp, hend⟩
    | error e =>
        rw [run_tryCatch_error hp] at hrun
        exact .inr ⟨e, t, hp, a, s', hrun, hend⟩
  · rintro (⟨a, s', hp, hend⟩ | ⟨e, t, hp, a, s', hrun, hend⟩)
    · exact ⟨a, s', run_tryCatch_ok hp f, hend⟩
    · exact ⟨a, s', (run_tryCatch_error hp f).trans hrun, hend⟩

end Outcomes

end Grouproxy.Programs.Prog
