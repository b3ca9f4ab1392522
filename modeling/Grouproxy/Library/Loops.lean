import Mathlib.Logic.Function.Iterate

/-! # Loops without a bound

A loop runs while its condition holds. Its rounds are counted by fuel, and it ends if some fuel is
enough: then more fuel changes nothing.
-/

namespace Grouproxy.Loops

variable {σ : Type} {cond : σ → Bool} {body : σ → σ} {s t : σ}

/-- `while cond: body`, unless the fuel runs out. -/
def run (cond : σ → Bool) (body : σ → σ) : (fuel : Nat) → σ → Option σ
  | 0, _ => none
  | fuel + 1, s => if cond s then run cond body fuel (body s) else some s

/-- `for ; cond; post { body }`, unless the fuel runs out. -/
def runFor (cond : σ → Bool) (body post : σ → σ) (fuel : Nat) (s : σ) : Option σ :=
  run cond (fun s => post (body s)) fuel s

/-- A computation with fuel has a result. -/
def Ends {α : Type} (f : Nat → Option α) (result : α) : Prop :=
  ∃ enough, ∀ fuel, enough ≤ fuel → f fuel = some result

theorem Ends.unique {α : Type} {f : Nat → Option α} {a b : α} (ha : Ends f a) (hb : Ends f b) :
    a = b := by
  obtain ⟨n, hn⟩ := ha
  obtain ⟨m, hm⟩ := hb
  have hboth := hn (n + m) (Nat.le_add_right n m)
  rw [hm (n + m) (Nat.le_add_left m n)] at hboth
  exact (Option.some.inj hboth).symm

theorem Ends.map {α β : Type} {f : Nat → Option α} {a : α} (h : Ends f a) (g : α → β) :
    Ends (fun fuel => (f fuel).map g) (g a) := by
  obtain ⟨enough, henough⟩ := h
  refine ⟨enough, fun fuel hfuel => ?_⟩
  dsimp only
  rw [henough fuel hfuel, Option.map_some]

/-- The loop ends in the first state it reaches where its condition fails. -/
theorem run_iterate {n fuel : Nat} (hbefore : ∀ i < n, cond (body^[i] s) = true)
    (hend : cond (body^[n] s) = false) (hfuel : n < fuel) :
    run cond body fuel s = some (body^[n] s) := by
  induction n generalizing s fuel with
  | zero =>
      obtain ⟨fuel, rfl⟩ := Nat.exists_eq_add_of_lt hfuel
      rw [Function.iterate_zero, id_eq] at hend
      simp [run, hend]
  | succ n ih =>
      cases fuel with
      | zero => cases hfuel
      | succ fuel =>
          have hfirst : cond s = true := hbefore 0 (Nat.succ_pos n)
          rw [run, if_pos hfirst, Function.iterate_succ_apply]
          apply ih
          · intro i hi
            rw [← Function.iterate_succ_apply]
            exact hbefore (i + 1) (Nat.succ_lt_succ hi)
          · rw [← Function.iterate_succ_apply]
            exact hend
          · exact Nat.lt_of_succ_lt_succ hfuel

theorem ends_iterate {n : Nat} (hbefore : ∀ i < n, cond (body^[i] s) = true)
    (hend : cond (body^[n] s) = false) :
    Ends (fun fuel => run cond body fuel s) (body^[n] s) :=
  ⟨n + 1, fun _ hfuel => run_iterate hbefore hend hfuel⟩

end Grouproxy.Loops
