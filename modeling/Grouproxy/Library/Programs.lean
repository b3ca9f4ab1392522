import Mathlib.Logic.Function.Basic

/-! # Handlers that share a store

A handler runs between its awaits; each await is one atomic operation on the store. Handlers
run alone, with chosen operations failing, or in a pool, where a schedule says who moves next.
-/

namespace Grouproxy.Programs

variable {Λ σ ε α β Γ ι : Type}

/-- A handler is done, or it awaits one operation. The operation replaces the store by `write`
of it and the handler goes on with `next`, which reads its answer off the store the operation
found. `failed` is what the handler does when the operation itself fails. -/
inductive Prog (Λ σ ε α : Type) where
  | done (result : Except ε α)
  | op (label : Λ) (write : σ → σ) (next : σ → Prog Λ σ ε α) (failed : Prog Λ σ ε α)

namespace Prog

def bind : Prog Λ σ ε α → (α → Prog Λ σ ε β) → Prog Λ σ ε β
  | done (.ok a), f => f a
  | done (.error e), _ => done (.error e)
  | op l w n k, f => op l w (fun s => (n s).bind f) (k.bind f)

def tryCatch : Prog Λ σ ε α → (ε → Prog Λ σ ε α) → Prog Λ σ ε α
  | done (.ok a), _ => done (.ok a)
  | done (.error e), f => f e
  | op l w n k, f => op l w (fun s => (n s).tryCatch f) (k.tryCatch f)

instance : Monad (Prog Λ σ ε) where
  pure a := done (.ok a)
  bind := bind

instance : MonadExcept ε (Prog Λ σ ε) where
  throw e := done (.error e)
  tryCatch := tryCatch

/-- One operation with an answer, which may be an exception. -/
def atomic (fault : ε) (label : Λ) (act : σ → Except ε α × σ) : Prog Λ σ ε α :=
  op label (fun s => (act s).2) (fun s => done (act s).1) (done (.error fault))

/-- The handler has not ended yet. -/
def Running : Prog Λ σ ε α → Prop
  | done _ => False
  | op _ _ _ _ => True

instance : (p : Prog Λ σ ε α) → Decidable p.Running
  | done _ => isFalse id
  | op _ _ _ _ => isTrue trivial

/-- The name of the operation a handler awaits. -/
def label? : Prog Λ σ ε α → Option Λ
  | done _ => none
  | op l _ _ _ => some l

/-! ## Running alone -/

/-- The operations `fails` names fail, without an effect; the others succeed. -/
def runWith (fails : Λ → Bool) : Prog Λ σ ε α → σ → Except ε α × σ
  | done r, s => (r, s)
  | op l w n k, s => if fails l then k.runWith fails s else (n s).runWith fails (w s)

/-- No operation fails. -/
def run (p : Prog Λ σ ε α) (s : σ) : Except ε α × σ := p.runWith (fun _ => false) s

@[simp] theorem pure_eq (a : α) : (pure a : Prog Λ σ ε α) = done (.ok a) := rfl

@[simp] theorem throw_eq (e : ε) : (throw e : Prog Λ σ ε α) = done (.error e) := rfl

@[simp] theorem done_ok_bind (a : α) (f : α → Prog Λ σ ε β) : (done (.ok a) >>= f) = f a := rfl

@[simp] theorem done_error_bind (e : ε) (f : α → Prog Λ σ ε β) :
    (done (.error e) >>= f) = done (.error e) := rfl

theorem bind_assoc {γ : Type} (p : Prog Λ σ ε α) (f : α → Prog Λ σ ε β) (g : β → Prog Λ σ ε γ) :
    (p >>= f) >>= g = p >>= fun a => f a >>= g := by
  change (p.bind f).bind g = p.bind fun a => (f a).bind g
  induction p with
  | done r =>
      cases r with
      | error e => rfl
      | ok a => rfl
  | op l w n k ihn ihk =>
      rw [bind, bind, bind, ihk]
      simp only [ihn]

@[simp] theorem runWith_done (fails : Λ → Bool) (r : Except ε α) (s : σ) :
    (done r : Prog Λ σ ε α).runWith fails s = (r, s) := rfl

/-- What follows a computation runs only after a result, in the store the computation left. -/
@[simp] theorem runWith_bind (fails : Λ → Bool) (p : Prog Λ σ ε α) (f : α → Prog Λ σ ε β) (s : σ) :
    (p >>= f).runWith fails s = match p.runWith fails s with
      | (.ok a, s') => (f a).runWith fails s'
      | (.error e, s') => (.error e, s') := by
  change (p.bind f).runWith fails s = _
  induction p generalizing s with
  | done r =>
      cases r with
      | error e => rfl
      | ok a => rfl
  | op l w n k ihn ihk =>
      rw [bind, runWith, runWith]
      cases fails l with
      | true => exact ihk s
      | false => exact ihn s (w s)

/-- A sequence returns only if both of its parts do. -/
theorem runWith_bind_eq_ok {fails : Λ → Bool} {p : Prog Λ σ ε α} {f : α → Prog Λ σ ε β} {s s' : σ}
    {b : β} : (p >>= f).runWith fails s = (.ok b, s') ↔
      ∃ a t, p.runWith fails s = (.ok a, t) ∧ (f a).runWith fails t = (.ok b, s') := by
  rw [runWith_bind]
  constructor
  · intro h
    split at h
    · rename_i a t hp
      exact ⟨a, t, hp, h⟩
    · cases h
  · rintro ⟨a, t, hp, hf⟩
    rw [hp]
    exact hf

@[simp] theorem runWith_tryCatch (fails : Λ → Bool) (p : Prog Λ σ ε α) (f : ε → Prog Λ σ ε α)
    (s : σ) :
    (p.tryCatch f).runWith fails s = match p.runWith fails s with
      | (.ok a, s') => (.ok a, s')
      | (.error e, s') => (f e).runWith fails s' := by
  induction p generalizing s with
  | done r =>
      cases r with
      | error e => rfl
      | ok a => rfl
  | op l w n k ihn ihk =>
      rw [tryCatch, runWith, runWith]
      cases fails l with
      | true => exact ihk s
      | false => exact ihn s (w s)

/-- A handler of exceptions that only raises again is no part of a run that returns. -/
theorem runWith_rethrow_eq_ok {fails : Λ → Bool} {p : Prog Λ σ ε α} {f : ε → ε} {s s' : σ} {a : α} :
    (p.tryCatch fun e => throw (f e)).runWith fails s = (.ok a, s') ↔
      p.runWith fails s = (.ok a, s') := by
  rw [runWith_tryCatch]
  rcases p.runWith fails s with ⟨r, t⟩
  cases r with
  | ok b => rfl
  | error e =>
      constructor
      · intro h
        cases h
      · intro h
        cases h

/-- A handler of exceptions that cleans up and raises again is no part of a run that returns. -/
theorem runWith_cleanup_eq_ok {fails : Λ → Bool} {p : Prog Λ σ ε α} {cleanup : ε → Prog Λ σ ε β}
    {s s' : σ} {a : α} :
    (p.tryCatch fun e => cleanup e >>= fun _ => throw e).runWith fails s = (.ok a, s') ↔
      p.runWith fails s = (.ok a, s') := by
  rw [runWith_tryCatch]
  rcases p.runWith fails s with ⟨r, t⟩
  cases r with
  | ok b => rfl
  | error e =>
      constructor
      · intro h
        obtain ⟨_, _, -, hthrow⟩ := runWith_bind_eq_ok.mp h
        cases hthrow
      · intro h
        cases h

@[simp] theorem runWith_atomic (fails : Λ → Bool) (fault : ε) (label : Λ)
    (act : σ → Except ε α × σ) (s : σ) :
    (atomic fault label act).runWith fails s =
      if fails label then (.error fault, s) else act s := rfl

@[simp] theorem run_done (r : Except ε α) (s : σ) : (done r : Prog Λ σ ε α).run s = (r, s) := rfl

@[simp] theorem run_atomic (fault : ε) (label : Λ) (act : σ → Except ε α × σ) (s : σ) :
    (atomic fault label act).run s = act s := rfl

/-- A computation that returns is followed by the next. -/
theorem run_bind_ok {p : Prog Λ σ ε α} {s s' : σ} {a : α} (h : p.run s = (.ok a, s'))
    (f : α → Prog Λ σ ε β) : (p >>= f).run s = (f a).run s' := by
  rw [run, runWith_bind, ← run, h]
  rfl

theorem run_bind_error {p : Prog Λ σ ε α} {s s' : σ} {e : ε} (h : p.run s = (.error e, s'))
    (f : α → Prog Λ σ ε β) : (p >>= f).run s = (.error e, s') := by
  rw [run, runWith_bind, ← run, h]

theorem run_tryCatch_ok {p : Prog Λ σ ε α} {s s' : σ} {a : α} (h : p.run s = (.ok a, s'))
    (f : ε → Prog Λ σ ε α) : (p.tryCatch f).run s = (.ok a, s') := by
  rw [run, runWith_tryCatch, ← run, h]

theorem run_tryCatch_error {p : Prog Λ σ ε α} {s s' : σ} {e : ε} (h : p.run s = (.error e, s'))
    (f : ε → Prog Λ σ ε α) : (p.tryCatch f).run s = (f e).run s' := by
  rw [run, runWith_tryCatch, ← run, h]
  rfl

/-! ## Operations a handler may take

A handler keeps a note of what it did: `next` updates the note at an operation, which `allowed`
permits or not from the note, the label and the store before and after. -/

/-- Whatever other handlers do to the store between its operations, as long as they keep what
`rely` says from the note: the handler only takes allowed operations, and `Q` holds of its note
and its result in the end. -/
def Follows (next : Γ → Λ → σ → Γ) (rely : Γ → σ → Prop) (allowed : Γ → Λ → σ → σ → Prop)
    (Q : Γ → Except ε α → Prop) : Γ → Prog Λ σ ε α → Prop
  | g, done r => Q g r
  | g, op l w n _ => ∀ s, rely g s →
    allowed g l s (w s) ∧ Follows next rely allowed Q (next g l s) (n s)

section Follows

variable {next : Γ → Λ → σ → Γ} {rely : Γ → σ → Prop} {allowed : Γ → Λ → σ → σ → Prop}
  {Q Q' : Γ → Except ε α → Prop} {R : Γ → Except ε β → Prop} {g : Γ}

theorem Follows.mono {p : Prog Λ σ ε α} (h : p.Follows next rely allowed Q g)
    (hQ : ∀ g r, Q g r → Q' g r) : p.Follows next rely allowed Q' g := by
  induction p generalizing g with
  | done r => exact hQ g r h
  | op l w n k ihn _ => exact fun s hs => ⟨(h s hs).1, ihn s (h s hs).2⟩

theorem Follows.bind {p : Prog Λ σ ε α} {f : α → Prog Λ σ ε β}
    (h : p.Follows next rely allowed Q g)
    (hok : ∀ g a, Q g (.ok a) → (f a).Follows next rely allowed R g)
    (herror : ∀ g e, Q g (.error e) → R g (.error e)) :
    (p >>= f).Follows next rely allowed R g := by
  change (p.bind f).Follows next rely allowed R g
  induction p generalizing g with
  | done r =>
      cases r with
      | error e => exact herror g e h
      | ok a => exact hok g a h
  | op l w n k ihn _ => exact fun s hs => ⟨(h s hs).1, ihn s (h s hs).2⟩

theorem Follows.tryCatch {p : Prog Λ σ ε α} {f : ε → Prog Λ σ ε α}
    (h : p.Follows next rely allowed Q g) (hok : ∀ g a, Q g (.ok a) → Q' g (.ok a))
    (herror : ∀ g e, Q g (.error e) → (f e).Follows next rely allowed Q' g) :
    (p.tryCatch f).Follows next rely allowed Q' g := by
  induction p generalizing g with
  | done r =>
      cases r with
      | error e => exact herror g e h
      | ok a => exact hok g a h
  | op l w n k ihn _ => exact fun s hs => ⟨(h s hs).1, ihn s (h s hs).2⟩

theorem Follows.atomic {fault : ε} {label : Λ} {act : σ → Except ε α × σ}
    (hallowed : ∀ s, rely g s → allowed g label s (act s).2)
    (hnext : ∀ s, rely g s → Q (next g label s) (act s).1) :
    (atomic fault label act).Follows next rely allowed Q g :=
  fun s hs => ⟨hallowed s hs, hnext s hs⟩

end Follows

/-! ## Operations a handler may take, without a note -/

/-- Every operation, also after failures of others, is a step that `P` allows. -/
def Uses (P : Λ → σ → σ → Prop) : Prog Λ σ ε α → Prop
  | done _ => True
  | op l w n k => (∀ s, P l s (w s) ∧ (n s).Uses P) ∧ k.Uses P

section Uses

variable {P P' : Λ → σ → σ → Prop}

theorem Uses.mono {p : Prog Λ σ ε α} (h : p.Uses P) (hP : ∀ l s s', P l s s' → P' l s s') :
    p.Uses P' := by
  induction p with
  | done r => trivial
  | op l w n k ihn ihk => exact ⟨fun s => ⟨hP l s _ (h.1 s).1, ihn s (h.1 s).2⟩, ihk h.2⟩

theorem Uses.pure (a : α) : (Pure.pure a : Prog Λ σ ε α).Uses P := trivial

theorem Uses.throw (e : ε) : (throw e : Prog Λ σ ε α).Uses P := trivial

theorem Uses.bind {p : Prog Λ σ ε α} {f : α → Prog Λ σ ε β} (h : p.Uses P)
    (hf : ∀ a, (f a).Uses P) : (p >>= f).Uses P := by
  change (p.bind f).Uses P
  induction p with
  | done r =>
      cases r with
      | error e => trivial
      | ok a => exact hf a
  | op l w n k ihn ihk => exact ⟨fun s => ⟨(h.1 s).1, ihn s (h.1 s).2⟩, ihk h.2⟩

theorem Uses.tryCatch {p : Prog Λ σ ε α} {f : ε → Prog Λ σ ε α} (h : p.Uses P)
    (hf : ∀ e, (f e).Uses P) : (p.tryCatch f).Uses P := by
  induction p with
  | done r =>
      cases r with
      | error e => exact hf e
      | ok a => trivial
  | op l w n k ihn ihk => exact ⟨fun s => ⟨(h.1 s).1, ihn s (h.1 s).2⟩, ihk h.2⟩

theorem Uses.atomic {fault : ε} {label : Λ} {act : σ → Except ε α × σ}
    (h : ∀ s, P label s (act s).2) : (atomic fault label act).Uses P :=
  ⟨fun s => ⟨h s, trivial⟩, trivial⟩

/-- A handler whose operations are all allowed and leave its note alone. -/
theorem Uses.follows {next : Γ → Λ → σ → Γ} {rely : Γ → σ → Prop}
    {allowed : Γ → Λ → σ → σ → Prop} {g : Γ} {p : Prog Λ σ ε α} (h : p.Uses P)
    (hP : ∀ l s s', P l s s' → allowed g l s s' ∧ next g l s = g) :
    p.Follows next rely allowed (fun g' _ => g' = g) g := by
  induction p with
  | done r => rfl
  | op l w n k ihn _ =>
      intro s _
      have hs := hP l s _ (h.1 s).1
      refine ⟨hs.1, ?_⟩
      rw [hs.2]
      exact ihn s (h.1 s).2

/-- What every step keeps, a run keeps, whichever operations fail. -/
theorem Uses.runWith {p : Prog Λ σ ε α} (h : p.Uses P) {R : σ → σ → Prop} (hrefl : ∀ s, R s s)
    (htrans : ∀ s s' s'', R s s' → R s' s'' → R s s'') (hP : ∀ l s s', P l s s' → R s s')
    (fails : Λ → Bool) (s : σ) : R s (p.runWith fails s).2 := by
  induction p generalizing s with
  | done r => exact hrefl s
  | op l w n k ihn ihk =>
      rw [Prog.runWith]
      split
      · exact ihk h.2 s
      · exact htrans _ _ _ (hP l s _ (h.1 s).1) (ihn s (h.1 s).2 (w s))

end Uses

/-! ## Stores a handler cannot tell apart -/

/-- Every operation answers the same in related stores, and leaves related stores. -/
def Blind (R : σ → σ → Prop) : Prog Λ σ ε α → Prop
  | done _ => True
  | op _ w n k => (∀ s s', R s s' → n s = n s' ∧ R (w s) (w s')) ∧ (∀ s, (n s).Blind R) ∧ k.Blind R

section Blind

variable {R : σ → σ → Prop}

theorem Blind.bind {p : Prog Λ σ ε α} {f : α → Prog Λ σ ε β} (h : p.Blind R)
    (hf : ∀ a, (f a).Blind R) : (p >>= f).Blind R := by
  change (p.bind f).Blind R
  induction p with
  | done r =>
      cases r with
      | error e => trivial
      | ok a => exact hf a
  | op l w n k ihn ihk =>
      refine ⟨fun s s' hs => ⟨?_, (h.1 s s' hs).2⟩, fun s => ihn s (h.2.1 s), ihk h.2.2⟩
      dsimp only
      rw [(h.1 s s' hs).1]

theorem Blind.atomic {fault : ε} {label : Λ} {act : σ → Except ε α × σ}
    (h : ∀ s s', R s s' → (act s).1 = (act s').1 ∧ R (act s).2 (act s').2) :
    (atomic fault label act).Blind R := by
  refine ⟨fun s s' hs => ⟨?_, (h s s' hs).2⟩, fun _ => trivial, trivial⟩
  dsimp only
  rw [(h s s' hs).1]

theorem Blind.runWith {p : Prog Λ σ ε α} (h : p.Blind R) (fails : Λ → Bool) {s s' : σ}
    (hs : R s s') : (p.runWith fails s).1 = (p.runWith fails s').1 ∧
      R (p.runWith fails s).2 (p.runWith fails s').2 := by
  induction p generalizing s s' with
  | done r => exact ⟨rfl, hs⟩
  | op l w n k ihn ihk =>
      rw [Prog.runWith, Prog.runWith]
      split
      · exact ihk h.2.2 hs
      · rw [(h.1 s s' hs).1]
        exact ihn s' (h.2.1 s') (h.1 s s' hs).2

end Blind

end Prog

/-! ## Pools -/

/-- Handlers under way, the note each keeps of itself, and the store they share. -/
structure Pool (ι Λ σ ε α Γ : Type) where
  thread : ι → Prog Λ σ ε α
  note : ι → Γ
  store : σ

namespace Pool

variable [DecidableEq ι] {next : Γ → Λ → σ → Γ} {rely : Γ → σ → Prop}
  {allowed : Γ → Λ → σ → σ → Prop} {Q : Γ → Except ε α → Prop}

/-- One handler takes its next operation; a handler that is done stays as it is. -/
def step (next : Γ → Λ → σ → Γ) (p : Pool ι Λ σ ε α Γ) (i : ι) : Pool ι Λ σ ε α Γ :=
  match p.thread i with
  | .done _ => p
  | .op l w n _ =>
    { thread := Function.update p.thread i (n p.store)
      note := Function.update p.note i (next (p.note i) l p.store)
      store := w p.store }

def run (next : Γ → Λ → σ → Γ) : Pool ι Λ σ ε α Γ → List ι → Pool ι Λ σ ε α Γ
  | p, [] => p
  | p, i :: schedule => run next (p.step next i) schedule

theorem step_thread_of_ne (p : Pool ι Λ σ ε α Γ) {i j : ι} (hj : j ≠ i) :
    (p.step next i).thread j = p.thread j := by
  rw [step]
  cases p.thread i with
  | done r => rfl
  | op l w n k => exact Function.update_of_ne hj _ _

theorem step_note_of_ne (p : Pool ι Λ σ ε α Γ) {i j : ι} (hj : j ≠ i) :
    (p.step next i).note j = p.note j := by
  rw [step]
  cases p.thread i with
  | done r => rfl
  | op l w n k => exact Function.update_of_ne hj _ _

theorem step_note_self {p : Pool ι Λ σ ε α Γ} {i : ι} {l : Λ} {w : σ → σ}
    {n : σ → Prog Λ σ ε α} {k : Prog Λ σ ε α} (h : p.thread i = .op l w n k) :
    (p.step next i).note i = next (p.note i) l p.store := by
  rw [step, h]
  exact Function.update_self _ _ _

theorem step_store {p : Pool ι Λ σ ε α Γ} {i : ι} {l : Λ} {w : σ → σ}
    {n : σ → Prog Λ σ ε α} {k : Prog Λ σ ε α} (h : p.thread i = .op l w n k) :
    (p.step next i).store = w p.store := by
  rw [step, h]

/-- Every step of the schedule meets a condition on the pool it finds. -/
def Meets (next : Γ → Λ → σ → Γ) (cond : Pool ι Λ σ ε α Γ → ι → Prop) :
    Pool ι Λ σ ε α Γ → List ι → Prop
  | _, [] => True
  | p, i :: schedule => cond p i ∧ Meets next cond (p.step next i) schedule

instance decidableMeets (next : Γ → Λ → σ → Γ) (cond : Pool ι Λ σ ε α Γ → ι → Prop)
    [∀ p i, Decidable (cond p i)] :
    (p : Pool ι Λ σ ε α Γ) → (schedule : List ι) → Decidable (p.Meets next cond schedule)
  | _, [] => isTrue trivial
  | p, i :: schedule =>
    have := decidableMeets next cond (p.step next i) schedule
    inferInstanceAs (Decidable (_ ∧ _))

/-- Every handler of the pool takes allowed operations only. -/
def Follow (next : Γ → Λ → σ → Γ) (rely : Γ → σ → Prop) (allowed : Γ → Λ → σ → σ → Prop)
    (Q : Γ → Except ε α → Prop) (p : Pool ι Λ σ ε α Γ) : Prop :=
  ∀ i, (p.thread i).Follows next rely allowed Q (p.note i)

theorem Follow.step {p : Pool ι Λ σ ε α Γ} (h : p.Follow next rely allowed Q) {i : ι}
    (hrely : rely (p.note i) p.store) : (p.step next i).Follow next rely allowed Q := by
  intro j
  rw [Pool.step]
  cases hthread : p.thread i with
  | done r => exact h j
  | op l w n k =>
      have hi := h i
      rw [hthread] at hi
      by_cases hj : j = i
      · subst hj
        simpa using (hi p.store hrely).2
      · simpa [Function.update_of_ne hj] using h j

/-- What one allowed operation keeps, under the condition of the schedule, a run keeps. The
invariant gives every handler that moves what it relies on. -/
theorem invariant_run (next : Γ → Λ → σ → Γ) (rely : Γ → σ → Prop)
    (allowed : Γ → Λ → σ → σ → Prop) (Q : Γ → Except ε α → Prop)
    (inv : Pool ι Λ σ ε α Γ → Prop) {cond : Pool ι Λ σ ε α Γ → ι → Prop}
    (hrely : ∀ p i, inv p → (p.thread i).Running → rely (p.note i) p.store)
    (hstep : ∀ p i l w n k, (p.step next i).Follow next rely allowed Q →
      p.thread i = .op l w n k → allowed (p.note i) l p.store (w p.store) → cond p i → inv p →
      inv (p.step next i))
    {p : Pool ι Λ σ ε α Γ} {schedule : List ι} (hfollow : p.Follow next rely allowed Q)
    (hmeets : p.Meets next cond schedule) (hinv : inv p) :
    inv (p.run next schedule) ∧ (p.run next schedule).Follow next rely allowed Q := by
  induction schedule generalizing p with
  | nil => exact ⟨hinv, hfollow⟩
  | cons i schedule ih =>
      cases hthread : p.thread i with
      | done r =>
          have hsame : p.step next i = p := by rw [Pool.step, hthread]
          rw [run, hsame]
          exact ih hfollow (hsame ▸ hmeets.2) hinv
      | op l w n k =>
          have hi := hfollow i
          rw [hthread] at hi
          have hready : rely (p.note i) p.store := by
            apply hrely p i hinv
            rw [hthread]
            trivial
          have hfollow' := hfollow.step hready
          exact ih hfollow' hmeets.2
            (hstep p i l w n k hfollow' hthread (hi p.store hready).1 hmeets.1 hinv)

end Pool

end Grouproxy.Programs
