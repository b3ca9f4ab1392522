import Mathlib.Algebra.Group.Nat.Defs
import Mathlib.Data.List.Basic
import Mathlib.Data.Nat.Basic

/-! # Decimal digits of a fixed width

Numbers that are padded with zeros to one width compare as texts as they do as numbers.
-/

namespace Grouproxy.Digits

/-- The last `width` decimal digits. -/
def fixedDigits : ℕ → ℕ → List Char
  | 0, _ => []
  | width + 1, n => fixedDigits width (n / 10) ++ [Nat.digitChar (n % 10)]

theorem length_fixedDigits (width n : ℕ) : (fixedDigits width n).length = width := by
  induction width generalizing n with
  | zero => rfl
  | succ width ih => simp [fixedDigits, ih]

theorem fixedDigits_zero (width : ℕ) : fixedDigits width 0 = List.replicate width '0' := by
  induction width with
  | zero => rfl
  | succ width ih =>
      rw [fixedDigits, Nat.zero_div, ih, List.replicate_succ']
      rfl

/-- Padding with zeros gives the digits of the width. -/
theorem replicate_append_toDigits (width : ℕ) {n : ℕ} (h : n < 10 ^ (width + 1)) :
    List.replicate (width + 1 - (Nat.toDigits 10 n).length) '0' ++ Nat.toDigits 10 n =
      fixedDigits (width + 1) n := by
  induction width generalizing n with
  | zero =>
      have hlt : n < 10 := by simpa using h
      rw [Nat.toDigits_of_lt_base hlt, fixedDigits, fixedDigits, Nat.mod_eq_of_lt hlt]
      rfl
  | succ width ih =>
      rw [fixedDigits]
      by_cases hlt : n < 10
      · rw [Nat.toDigits_of_lt_base hlt, Nat.mod_eq_of_lt hlt, Nat.div_eq_of_lt hlt,
          fixedDigits_zero]
        rfl
      · have hdiv : n / 10 < 10 ^ (width + 1) := by
          rw [Nat.div_lt_iff_lt_mul (by decide), ← Nat.pow_succ]
          exact h
        rw [Nat.toDigits_of_base_le (by decide) (not_lt.mp hlt), ← ih hdiv, List.length_append,
          List.length_singleton, Nat.add_sub_add_right, List.append_assoc]

/-! ## Order -/

theorem digitChar_lt : ∀ a < 10, ∀ b < 10, a < b → Nat.digitChar a < Nat.digitChar b := by decide

theorem append_lt_append_of_lt {s t : List Char} (hlength : s.length = t.length) (h : s < t)
    (x y : List Char) : s ++ x < t ++ y := by
  induction s generalizing t with
  | nil =>
      cases t with
      | nil => exact absurd h (List.not_lt_nil _)
      | cons d t => cases hlength
  | cons c s ih =>
      cases t with
      | nil => cases hlength
      | cons d t =>
          rw [List.cons_append, List.cons_append, List.cons_lt_cons_iff]
          rcases List.cons_lt_cons_iff.mp h with hlt | ⟨heq, hrest⟩
          · exact .inl hlt
          · exact .inr ⟨heq, ih (by simpa using hlength) hrest⟩

theorem fixedDigits_lt (width : ℕ) {n m : ℕ} (hm : m < 10 ^ width) (h : n < m) :
    fixedDigits width n < fixedDigits width m := by
  induction width generalizing n m with
  | zero =>
      rw [Nat.pow_zero] at hm
      omega
  | succ width ih =>
      rw [fixedDigits, fixedDigits]
      rcases Nat.lt_or_ge (n / 10) (m / 10) with hdiv | hdiv
      · apply append_lt_append_of_lt
        · rw [length_fixedDigits, length_fixedDigits]
        · apply ih _ hdiv
          rw [Nat.div_lt_iff_lt_mul (by decide), ← Nat.pow_succ]
          exact hm
      · have heq : n / 10 = m / 10 := by omega
        rw [heq]
        apply List.append_left_lt
        rw [List.cons_lt_cons_iff]
        exact .inl (digitChar_lt _ (by omega) _ (by omega) (by omega))

end Grouproxy.Digits
