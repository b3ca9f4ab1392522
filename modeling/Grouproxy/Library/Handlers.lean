import Grouproxy.Library.Programs

/-! # The operations that handlers are made of

Reads, writes and checks, with the rules that run them and follow them.
-/

namespace Grouproxy.Programs.Prog

variable {Λ σ ε α β Γ : Type}

/-- An operation that only reads. -/
def read (fault : ε) (label : Λ) (query : σ → α) : Prog Λ σ ε α :=
  atomic fault label fun s => (.ok (query s), s)

/-- An operation that only writes. -/
def write (fault : ε) (label : Λ) (f : σ → σ) : Prog Λ σ ε Unit :=
  atomic fault label fun s => (.ok (), f s)

/-- A check between two operations. -/
def reject (condition : Prop) [Decidable condition] (e : ε) : Prog Λ σ ε Unit :=
  if condition then throw e else return ()

/-- The handler is cut off after a number of operations. -/
def upTo (e : ε) : Nat → Prog Λ σ ε α → Prog Λ σ ε α
  | _, done r => done r
  | 0, op _ _ _ _ => done (.error e)
  | count + 1, op l w n k => op l w (fun s => (n s).upTo e count) (k.upTo e count)

/-- The same handler, whose operations have other names. -/
def relabel {Λ' : Type} (f : Λ → Λ') : Prog Λ σ ε α → Prog Λ' σ ε α
  | done r => done r
  | op l w n k => op (f l) w (fun s => (n s).relabel f) (k.relabel f)

/-- A handler of one part of a larger store. -/
def within {Λ' ε' τ : Type} (view : τ → σ) (put : σ → τ → τ) (name : Λ → Λ') (raised : ε → ε') :
    Prog Λ σ ε α → Prog Λ' τ ε' α
  | done (.ok a) => done (.ok a)
  | done (.error e) => done (.error (raised e))
  | op l w n k =>
    op (name l) (fun t => put (w (view t)) t) (fun t => (n (view t)).within view put name raised)
      (k.within view put name raised)

/-! ## Running alone -/

section Run

variable {fault e : ε} {label : Λ} {s : σ}

@[simp] theorem run_read_bind (query : σ → α) (f : α → Prog Λ σ ε β) :
    (read fault label query >>= f).run s = (f (query s)).run s :=
  run_bind_ok rfl f

@[simp] theorem run_write_bind (g : σ → σ) (f : Unit → Prog Λ σ ε β) :
    (write fault label g >>= f).run s = (f ()).run (g s) :=
  run_bind_ok rfl f

@[simp] theorem run_write (g : σ → σ) : (write fault label g).run s = (.ok (), g s) := rfl

@[simp] theorem run_reject_bind {condition : Prop} [Decidable condition]
    (f : Unit → Prog Λ σ ε β) :
    (reject condition e >>= f).run s = if condition then (.error e, s) else (f ()).run s := by
  rw [reject]
  split
  · rfl
  · rfl

end Run

/-! ## Following -/

section Follows

variable {next : Γ → Λ → σ → Γ} {rely : Γ → σ → Prop} {allowed : Γ → Λ → σ → σ → Prop}
  {Q : Γ → Except ε α → Prop} {R : Γ → Except ε β → Prop} {g : Γ} {fault e : ε} {label : Λ}

theorem Follows.done {r : Except ε α} (h : Q g r) :
    (done r : Prog Λ σ ε α).Follows next rely allowed Q g := h

/-- What was read is known of the store in which it was read. -/
theorem Follows.read_bind {query : σ → α} {f : α → Prog Λ σ ε β}
    (hallowed : ∀ s, rely g s → allowed g label s s)
    (hf : ∀ s, rely g s → (f (query s)).Follows next rely allowed R (next g label s)) :
    (read fault label query >>= f).Follows next rely allowed R g :=
  fun s hs => ⟨hallowed s hs, hf s hs⟩

theorem Follows.write_bind {w : σ → σ} {f : Unit → Prog Λ σ ε β}
    (hallowed : ∀ s, rely g s → allowed g label s (w s))
    (hf : ∀ s, rely g s → (f ()).Follows next rely allowed R (next g label s)) :
    (write fault label w >>= f).Follows next rely allowed R g :=
  fun s hs => ⟨hallowed s hs, hf s hs⟩

theorem Follows.reject_bind {condition : Prop} [Decidable condition]
    {f : Unit → Prog Λ σ ε β} (herror : condition → R g (.error e))
    (hf : ¬ condition → (f ()).Follows next rely allowed R g) :
    (reject condition e >>= f).Follows next rely allowed R g := by
  rw [reject]
  split
  · rename_i h
    exact herror h
  · rename_i h
    exact hf h

theorem Follows.upTo {p : Prog Λ σ ε α} (h : p.Follows next rely allowed Q g)
    {Q' : Γ → Except ε α → Prop} (hcut : ∀ g, Q' g (.error e)) (hQ : ∀ g r, Q g r → Q' g r)
    (count : Nat) : (p.upTo e count).Follows next rely allowed Q' g := by
  induction p generalizing g count with
  | done r => cases count <;> exact hQ g r h
  | op l w n k ihn _ =>
      cases count with
      | zero => exact hcut g
      | succ count => exact fun s hs => ⟨(h s hs).1, ihn s (h s hs).2 count⟩

/-- A handler whose operations have other names. -/
theorem Follows.relabel {Λ' : Type} {f : Λ → Λ'} {next' : Γ → Λ' → σ → Γ}
    {allowed' : Γ → Λ' → σ → σ → Prop} {p : Prog Λ σ ε α}
    (h : p.Follows (fun g l => next' g (f l)) rely (fun g l => allowed' g (f l)) Q g) :
    (p.relabel f).Follows next' rely allowed' Q g := by
  induction p generalizing g with
  | done r => exact h
  | op l w n k ihn _ => exact fun s hs => ⟨(h s hs).1, ihn s (h s hs).2⟩

end Follows

/-! ## Operations, without a note -/

section Uses

variable {P : Λ → σ → σ → Prop} {fault e : ε} {label : Λ}

theorem Uses.done {r : Except ε α} : (done r : Prog Λ σ ε α).Uses P := trivial

theorem Uses.read_bind {query : σ → α} {f : α → Prog Λ σ ε β} (h : ∀ s, P label s s)
    (hf : ∀ s, (f (query s)).Uses P) : (read fault label query >>= f).Uses P :=
  ⟨fun s => ⟨h s, hf s⟩, trivial⟩

theorem Uses.write_bind {w : σ → σ} {f : Unit → Prog Λ σ ε β} (h : ∀ s, P label s (w s))
    (hf : (f ()).Uses P) : (write fault label w >>= f).Uses P :=
  ⟨fun s => ⟨h s, hf⟩, trivial⟩

theorem Uses.reject_bind {condition : Prop} [Decidable condition] {f : Unit → Prog Λ σ ε β}
    (hf : (f ()).Uses P) : (reject condition e >>= f).Uses P := by
  rw [reject]
  split
  · exact Uses.done
  · exact hf

/-- Every result the handler can return, whatever the others write. -/
def Yields (Q : α → Prop) : Prog Λ σ ε α → Prop
  | Prog.done (.ok a) => Q a
  | Prog.done (.error _) => True
  | op _ _ n k => (∀ s, (n s).Yields Q) ∧ k.Yields Q

theorem Yields.bind {Q : α → Prop} {R : β → Prop} {p : Prog Λ σ ε α} {f : α → Prog Λ σ ε β}
    (h : p.Yields Q) (hf : ∀ a, Q a → (f a).Yields R) : (p >>= f).Yields R := by
  change (p.bind f).Yields R
  induction p with
  | done r =>
      cases r with
      | error e => trivial
      | ok a => exact hf a h
  | op l w n k ihn ihk => exact ⟨fun s => ihn s (h.1 s), ihk h.2⟩

theorem yields_true (p : Prog Λ σ ε α) : p.Yields fun _ => True := by
  induction p with
  | done r =>
      cases r with
      | error e => trivial
      | ok a => trivial
  | op l w n k ihn ihk => exact ⟨ihn, ihk⟩

theorem Uses.bind_yields {Q : α → Prop} {p : Prog Λ σ ε α} {f : α → Prog Λ σ ε β} (h : p.Uses P)
    (hp : p.Yields Q) (hf : ∀ a, Q a → (f a).Uses P) : (p >>= f).Uses P := by
  change (p.bind f).Uses P
  induction p with
  | done r =>
      cases r with
      | error e => trivial
      | ok a => exact hf a hp
  | op l w n k ihn ihk => exact ⟨fun s => ⟨(h.1 s).1, ihn s (h.1 s).2 (hp.1 s)⟩, ihk h.2 hp.2⟩

theorem Uses.relabel {Λ' : Type} {f : Λ → Λ'} {P' : Λ' → σ → σ → Prop} {p : Prog Λ σ ε α}
    (h : p.Uses P) (hP : ∀ l s s', P l s s' → P' (f l) s s') : (p.relabel f).Uses P' := by
  induction p with
  | done r => trivial
  | op l w n k ihn ihk => exact ⟨fun s => ⟨hP l s _ (h.1 s).1, ihn s (h.1 s).2⟩, ihk h.2⟩

/-- What any change of its part of the store does. -/
theorem uses_within {Λ' ε' τ : Type} {view : τ → σ} {put : σ → τ → τ} {name : Λ → Λ'}
    {raised : ε → ε'} {P' : Λ' → τ → τ → Prop} (hput : ∀ l s t, P' (name l) t (put s t))
    (p : Prog Λ σ ε α) : (p.within view put name raised).Uses P' := by
  induction p with
  | done r =>
      cases r with
      | ok a => trivial
      | error e => trivial
  | op l w n k ihn ihk => exact ⟨fun t => ⟨hput l _ t, ihn (view t)⟩, ihk⟩

end Uses

end Grouproxy.Programs.Prog

/-! ## Schedules in two parts -/

namespace Grouproxy.Programs.Pool

variable {Λ σ ε α Γ ι : Type} [DecidableEq ι] {next : Γ → Λ → σ → Γ}
  {cond : Pool ι Λ σ ε α Γ → ι → Prop}

theorem run_append (p : Pool ι Λ σ ε α Γ) (first rest : List ι) :
    p.run next (first ++ rest) = (p.run next first).run next rest := by
  induction first generalizing p with
  | nil => rfl
  | cons i first ih => exact ih (p.step next i)

theorem meets_append {p : Pool ι Λ σ ε α Γ} {first rest : List ι} :
    p.Meets next cond (first ++ rest) ↔
      p.Meets next cond first ∧ (p.run next first).Meets next cond rest := by
  induction first generalizing p with
  | nil => simp [Meets, run]
  | cons i first ih => simp [Meets, run, ih, and_assoc]

theorem meets_true (p : Pool ι Λ σ ε α Γ) (schedule : List ι) :
    p.Meets next (fun _ _ => True) schedule := by
  induction schedule generalizing p with
  | nil => trivial
  | cons i schedule ih => exact ⟨trivial, ih (p.step next i)⟩

theorem Meets.and {cond' : Pool ι Λ σ ε α Γ → ι → Prop} {p : Pool ι Λ σ ε α Γ}
    {schedule : List ι} (h : p.Meets next cond schedule) (h' : p.Meets next cond' schedule) :
    p.Meets next (fun p i => cond p i ∧ cond' p i) schedule := by
  induction schedule generalizing p with
  | nil => trivial
  | cons i schedule ih => exact ⟨⟨h.1, h'.1⟩, ih h.2 h'.2⟩

/-- A handler that the schedule leaves out does not move. -/
theorem run_of_notMem {p : Pool ι Λ σ ε α Γ} {schedule : List ι} {j : ι} (hj : j ∉ schedule) :
    (p.run next schedule).thread j = p.thread j ∧ (p.run next schedule).note j = p.note j := by
  induction schedule generalizing p with
  | nil => exact ⟨rfl, rfl⟩
  | cons i schedule ih =>
      have hne : j ≠ i := fun h => hj (h ▸ List.mem_cons_self)
      have hrest := ih (p := p.step next i) fun h => hj (List.mem_cons_of_mem i h)
      rw [step_thread_of_ne p hne, step_note_of_ne p hne] at hrest
      exact hrest

/-- What no operation takes away from a note. -/
theorem note_run {p : Pool ι Λ σ ε α Γ} {P : Γ → Prop} {j : ι}
    (hnext : ∀ g l s, P g → P (next g l s)) (schedule : List ι) (h : P (p.note j)) :
    P ((p.run next schedule).note j) := by
  induction schedule generalizing p with
  | nil => exact h
  | cons i schedule ih =>
      apply ih
      by_cases hj : j = i
      · subst hj
        cases hthread : p.thread j with
        | done r => rwa [step, hthread]
        | op l w n k =>
            rw [step_note_self hthread]
            exact hnext _ _ _ h
      · rwa [step_note_of_ne p hj]

/-! ## Runs that are counted -/

/-- A count that every step of a schedule may raise. -/
def tally {τ : Type} (next : Γ → Λ → σ → Γ) (tick : Pool ι Λ σ ε α Γ → ι → τ → τ) :
    τ → Pool ι Λ σ ε α Γ → List ι → τ
  | t, _, [] => t
  | t, p, i :: schedule => tally next tick (tick p i t) (p.step next i) schedule

/-- What one allowed operation keeps of the pool and the count, under the condition of the schedule,
a run keeps. -/
theorem invariant_tally {τ : Type} (next : Γ → Λ → σ → Γ) (rely : Γ → σ → Prop)
    (allowed : Γ → Λ → σ → σ → Prop) (Q : Γ → Except ε α → Prop)
    (tick : Pool ι Λ σ ε α Γ → ι → τ → τ) (inv : τ → Pool ι Λ σ ε α Γ → Prop)
    (hidle : ∀ p i t, ¬ (p.thread i).Running → tick p i t = t)
    (hrely : ∀ t p i, inv t p → (p.thread i).Running → rely (p.note i) p.store)
    (hstep : ∀ t p i l w n k, p.thread i = .op l w n k →
      allowed (p.note i) l p.store (w p.store) → cond p i → inv t p →
      inv (tick p i t) (p.step next i))
    {t : τ} {p : Pool ι Λ σ ε α Γ} {schedule : List ι} (hfollow : p.Follow next rely allowed Q)
    (hmeets : p.Meets next cond schedule) (hinv : inv t p) :
    inv (p.tally next tick t schedule) (p.run next schedule) := by
  induction schedule generalizing t p with
  | nil => exact hinv
  | cons i schedule ih =>
      rw [tally, run]
      cases hthread : p.thread i with
      | done r =>
          have hsame : p.step next i = p := by rw [Pool.step, hthread]
          have htick : tick p i t = t := hidle p i t (by simp [hthread, Prog.Running])
          rw [hsame, htick]
          exact ih hfollow (hsame ▸ hmeets.2) hinv
      | op l w n k =>
          have hi := hfollow i
          rw [hthread] at hi
          have hready : rely (p.note i) p.store := by
            apply hrely t p i hinv
            rw [hthread]
            trivial
          exact ih (hfollow.step hready) hmeets.2
            (hstep t p i l w n k hthread (hi p.store hready).1 hmeets.1 hinv)

end Grouproxy.Programs.Pool
