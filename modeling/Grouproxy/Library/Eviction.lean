import Mathlib.Algebra.BigOperators.Group.List.Basic
import Mathlib.Algebra.GroupWithZero.Nat
import Mathlib.Algebra.Order.Group.Int
import Mathlib.Algebra.Ring.Int.Defs

/-! # Eviction in a fixed order

Items are removed from the front of a list until what is left and what is required stay within a
bound. An item that cannot be removed is passed over.
-/

namespace Grouproxy.Eviction

variable {α : Type} {size : α → ℕ} {fails : α → Bool} {bound required current : ℤ}
  {items before after : List α} {a : α}

/-- The items that are removed while `current` is what is there. -/
def evicted (size : α → ℕ) (fails : α → Bool) (bound required : ℤ) :
    ℤ → List α → List α
  | _, [] => []
  | current, a :: items =>
    if current + required ≤ bound then []
    else if fails a then evicted size fails bound required current items
    else a :: evicted size fails bound required (current - size a) items

def total (size : α → ℕ) (items : List α) : ℕ := (items.map size).sum

@[simp] theorem total_nil : total size [] = 0 := by rw [total, List.map_nil, List.sum_nil]

@[simp] theorem total_cons : total size (a :: items) = size a + total size items := by
  rw [total, List.map_cons, List.sum_cons, total]

@[simp] theorem total_append :
    total size (before ++ after) = total size before + total size after := by
  rw [total, List.map_append, List.sum_append, total, total]

theorem total_le_of_sublist (h : before.Sublist after) : total size before ≤ total size after := by
  induction h with
  | slnil => exact le_rfl
  | cons a _ ih =>
      rw [total_cons]
      omega
  | cons_cons a _ ih =>
      rw [total_cons, total_cons]
      omega

theorem evicted_of_le (h : current + required ≤ bound) :
    evicted size fails bound required current items = [] := by
  cases items with
  | nil => rfl
  | cons a items => rw [evicted, if_pos h]

theorem evicted_sublist :
    (evicted size fails bound required current items).Sublist
      (items.filter fun a => !fails a) := by
  induction items generalizing current with
  | nil => exact List.Sublist.refl _
  | cons a items ih =>
      rw [evicted]
      by_cases hstop : current + required ≤ bound
      · rw [if_pos hstop]
        exact List.nil_sublist _
      · rw [if_neg hstop]
        cases hfails : fails a with
        | true => simpa [hfails] using ih
        | false => simpa [hfails] using ih

/-- Items that cannot be removed make no difference. -/
theorem evicted_filter : evicted size (fun _ => false) bound required current
      (items.filter fun a => !fails a) = evicted size fails bound required current items := by
  induction items generalizing current with
  | nil => rfl
  | cons a items ih =>
      by_cases hstop : current + required ≤ bound
      · rw [evicted_of_le hstop, evicted_of_le hstop]
      · cases hfails : fails a with
        | true => simp [evicted, hstop, hfails, ih]
        | false => simp [evicted, hstop, hfails, ih]

/-- An item is removed exactly if it can be and what is removed before it does not make room. -/
theorem mem_evicted_iff (hnodup : (before ++ a :: after).Nodup) :
    a ∈ evicted size fails bound required current (before ++ a :: after) ↔
      fails a = false ∧
        bound < current - total size (before.filter fun b => !fails b) + required := by
  induction before generalizing current with
  | nil =>
      have hnot : a ∉ after := (List.nodup_cons.mp hnodup).1
      have hlater : ∀ c, a ∉ evicted size fails bound required c after := fun c hmem =>
        hnot (List.mem_of_mem_filter (evicted_sublist.subset hmem))
      rw [List.nil_append, evicted]
      by_cases hstop : current + required ≤ bound
      · simp [hstop]
      · cases hfails : fails a with
        | true => simp [hstop, hlater]
        | false =>
            have hfull := not_le.mp hstop
            simp [hstop, hfull]
  | cons b before ih =>
      rw [List.cons_append, List.nodup_cons] at hnodup
      have hne : a ≠ b := by
        rintro rfl
        exact hnodup.1 (by simp)
      rw [List.cons_append, evicted]
      by_cases hstop : current + required ≤ bound
      · simp only [if_pos hstop, List.not_mem_nil, false_iff, not_and]
        intro _
        omega
      · cases hfails : fails b with
        | true => simpa [hstop, hfails] using ih hnodup.2
        | false =>
            have hnext := @ih (current - size b) hnodup.2
            simp only [hstop, hfails, if_false, List.mem_cons, hne, false_or, hnext,
              Bool.false_eq_true, Bool.not_false, List.filter_cons_of_pos, total_cons]
            constructor
            · rintro ⟨hremovable, hroom⟩
              exact ⟨hremovable, by push_cast; omega⟩
            · rintro ⟨hremovable, hroom⟩
              exact ⟨hremovable, by push_cast at hroom; omega⟩

/-- Either room is made, or everything that can be removed is. -/
theorem evicted_eq_filter (h : bound < current -
    total size (evicted size fails bound required current items) + required) :
    evicted size fails bound required current items = items.filter fun a => !fails a := by
  induction items generalizing current with
  | nil => rfl
  | cons a items ih =>
      rw [evicted] at h ⊢
      by_cases hstop : current + required ≤ bound
      · rw [if_pos hstop, total_nil] at h
        omega
      · rw [if_neg hstop] at h ⊢
        cases hfails : fails a with
        | true =>
            rw [hfails, if_pos rfl] at h
            simpa [hfails] using ih h
        | false =>
            rw [hfails, if_neg (by simp), total_cons] at h
            push_cast at h
            have hrest := @ih (current - size a) (by omega)
            simp [hfails, hrest]

end Grouproxy.Eviction
