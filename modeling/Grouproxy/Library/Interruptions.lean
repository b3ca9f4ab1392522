import Grouproxy.Library.Handlers

/-! # Handlers that are interrupted

A handler can stop between any two of its operations. What holds of the store at each of these
points is shown along the handler, one rule for each construct.
-/

namespace Grouproxy.Programs.Prog

variable {Λ σ ε α β : Type}

/-- The store that a handler leaves when it is stopped. The outcomes say of each operation in turn
whether it succeeds; the handler is stopped where they end. -/
def interrupted : List Bool → Prog Λ σ ε α → σ → σ
  | _, done _, s => s
  | [], op _ _ _ _, s => s
  | true :: outcomes, op _ w n _, s => interrupted outcomes (n s) (w s)
  | false :: outcomes, op _ _ _ k, s => interrupted outcomes k s

/-- The store satisfies `I` at every point of the handler, whichever operations fail, and `Q` holds
where it ends. -/
def Keeps (I : σ → Prop) (Q : Except ε α → σ → Prop) : Prog Λ σ ε α → σ → Prop
  | done r, s => I s ∧ Q r s
  | op _ w n k, s => I s ∧ (n s).Keeps I Q (w s) ∧ k.Keeps I Q s

variable {I : σ → Prop} {Q Q' : Except ε α → σ → Prop} {R : Except ε β → σ → Prop} {s : σ}

theorem Keeps.interrupted {p : Prog Λ σ ε α} (h : p.Keeps I Q s) (outcomes : List Bool) :
    I (p.interrupted outcomes s) := by
  induction outcomes generalizing p s with
  | nil =>
      cases p with
      | done r => exact h.1
      | op l w n k => exact h.1
  | cons succeeds outcomes ih =>
      cases p with
      | done r => exact h.1
      | op l w n k =>
          cases succeeds with
          | true => exact ih h.2.1
          | false => exact ih h.2.2

theorem Keeps.mono {p : Prog Λ σ ε α} (h : p.Keeps I Q s) (hQ : ∀ r t, I t → Q r t → Q' r t) :
    p.Keeps I Q' s := by
  induction p generalizing s with
  | done r => exact ⟨h.1, hQ r s h.1 h.2⟩
  | op l w n k ihn ihk => exact ⟨h.1, ihn s h.2.1, ihk h.2.2⟩

theorem Keeps.weaken {J : σ → Prop} {p : Prog Λ σ ε α} (h : p.Keeps I Q s)
    (hI : ∀ t, I t → J t) : p.Keeps J Q s := by
  induction p generalizing s with
  | done r => exact ⟨hI s h.1, h.2⟩
  | op l w n k ihn ihk => exact ⟨hI s h.1, ihn s h.2.1, ihk h.2.2⟩

theorem Keeps.pure {a : α} (hI : I s) (hQ : Q (.ok a) s) :
    (Pure.pure a : Prog Λ σ ε α).Keeps I Q s := ⟨hI, hQ⟩

theorem Keeps.throw {e : ε} (hI : I s) (hQ : Q (.error e) s) :
    (MonadExcept.throw e : Prog Λ σ ε α).Keeps I Q s := ⟨hI, hQ⟩

theorem Keeps.bind {p : Prog Λ σ ε α} {f : α → Prog Λ σ ε β}
    (h : p.Keeps I Q s) (hok : ∀ a t, I t → Q (.ok a) t → (f a).Keeps I R t)
    (herror : ∀ e t, Q (.error e) t → R (.error e) t) : (p >>= f).Keeps I R s := by
  change (p.bind f).Keeps I R s
  induction p generalizing s with
  | done r =>
      cases r with
      | error e => exact ⟨h.1, herror e s h.2⟩
      | ok a => exact hok a s h.1 h.2
  | op l w n k ihn ihk => exact ⟨h.1, ihn s h.2.1, ihk h.2.2⟩

theorem Keeps.tryCatch {p : Prog Λ σ ε α} {f : ε → Prog Λ σ ε α}
    (h : p.Keeps I Q s) (hok : ∀ a t, Q (.ok a) t → Q' (.ok a) t)
    (herror : ∀ e t, I t → Q (.error e) t → (f e).Keeps I Q' t) :
    (p.tryCatch f).Keeps I Q' s := by
  induction p generalizing s with
  | done r =>
      cases r with
      | error e => exact herror e s h.1 h.2
      | ok a => exact ⟨h.1, hok a s h.2⟩
  | op l w n k ihn ihk => exact ⟨h.1, ihn s h.2.1, ihk h.2.2⟩

theorem Keeps.atomic {fault : ε} {label : Λ} {act : σ → Except ε α × σ} (hI : I s)
    (hact : I (act s).2) (hQ : Q (act s).1 (act s).2) (hfault : Q (.error fault) s) :
    (atomic fault label act).Keeps I Q s :=
  ⟨hI, ⟨hact, hQ⟩, hI, hfault⟩

theorem Keeps.write {fault : ε} {label : Λ} {f : σ → σ} {Q : Except ε Unit → σ → Prop} (hI : I s)
    (hact : I (f s)) (hQ : Q (.ok ()) (f s)) (hfault : Q (.error fault) s) :
    (write fault label f).Keeps I Q s :=
  Keeps.atomic hI hact hQ hfault

theorem Keeps.read {fault : ε} {label : Λ} {query : σ → α} (hI : I s) (hQ : Q (.ok (query s)) s)
    (hfault : Q (.error fault) s) : (read fault label query).Keeps I Q s :=
  Keeps.atomic hI hI hQ hfault

end Grouproxy.Programs.Prog
