import Mathlib.Data.List.Sort
import Mathlib.Order.Basic

/-! # The first elements of a ranking

A list is arranged from the highest rank to the lowest, equal ranks in any order, and its first
elements are kept.
-/

namespace Grouproxy.Ranking

variable {α β : Type} [LinearOrder β] {rank : α → β} {xs ys : List α} {a b : α} {k : ℕ}

/-- An arrangement of `xs` from the highest rank to the lowest. -/
structure Ranks (rank : α → β) (xs ys : List α) : Prop where
  perm : ys.Perm xs
  sorted : ys.Pairwise fun a b => rank b ≤ rank a

/-- What is left out ranks no higher than what is kept. -/
theorem Ranks.le (h : Ranks rank xs ys) (ha : a ∈ ys.take k) (hb : b ∈ ys.drop k) :
    rank b ≤ rank a := by
  have hsorted := h.sorted
  rw [← List.take_append_drop k ys, List.pairwise_append] at hsorted
  exact hsorted.2.2 a ha b hb

/-- Fewer elements rank above one that is kept than are kept. -/
theorem Ranks.above_lt (h : Ranks rank xs ys) (ha : a ∈ ys.take k) :
    (xs.filter (rank a < rank ·)).length < k := by
  rw [← (h.perm.filter _).length_eq]
  obtain ⟨before, after, htake⟩ := List.append_of_mem ha
  have hlast : ∀ b ∈ after ++ ys.drop k, ¬ rank a < rank b := by
    have hsorted := h.sorted
    rw [← List.take_append_drop k ys, htake, List.append_assoc, List.pairwise_append,
      List.cons_append, List.pairwise_cons] at hsorted
    exact fun b hb => not_lt.mpr (hsorted.2.1.1 b hb)
  have hnone : (after ++ ys.drop k).filter (rank a < rank ·) = [] :=
    List.filter_eq_nil_iff.mpr fun b hb => by simpa using hlast b hb
  have hfilter : (ys.filter (rank a < rank ·)) = before.filter (rank a < rank ·) := by
    conv_lhs => rw [← List.take_append_drop k ys, htake, List.append_assoc, List.cons_append]
    rw [List.filter_append, List.filter_cons_of_neg (by simp), hnone, List.append_nil]
  have hlength : before.length + (after.length + 1) ≤ k := by
    calc before.length + (after.length + 1) = (ys.take k).length := by rw [htake]; simp
      _ ≤ k := List.length_take_le k ys
  have := List.length_filter_le (rank a < rank ·) before
  rw [hfilter]
  omega

variable (rank) in
theorem exists_ranks (xs : List α) : ∃ ys, Ranks rank xs ys := by
  let r : α → α → Prop := fun a b => rank b ≤ rank a
  have : Std.Total r := ⟨fun a b => le_total (rank b) (rank a)⟩
  have : IsTrans α r := ⟨fun _ _ _ hab hbc => le_trans hbc hab⟩
  exact ⟨xs.insertionSort r, xs.perm_insertionSort r, xs.pairwise_insertionSort r⟩

/-- An element that few others rank above is kept by some arrangement. -/
theorem exists_ranks_mem_take (ha : a ∈ xs) (hfew : (xs.filter (rank a < rank ·)).length < k) :
    ∃ ys, Ranks rank xs ys ∧ a ∈ ys.take k := by
  obtain ⟨before, after, rfl⟩ := List.append_of_mem ha
  obtain ⟨sorted, hsorted⟩ := exists_ranks rank (before ++ after)
  -- `a` comes right after those that rank above it
  let higher := sorted.filter (rank a < rank ·)
  let lower := sorted.filter fun b => !decide (rank a < rank b)
  have hperm : (higher ++ lower).Perm sorted := List.filter_append_perm _ sorted
  have hhigher : ∀ b ∈ higher, rank a < rank b := fun b hb => by
    simpa using (List.mem_filter.mp hb).2
  have hlower : ∀ b ∈ lower, rank b ≤ rank a := fun b hb => by
    simpa using (List.mem_filter.mp hb).2
  have hcount : higher.length < k := by
    calc higher.length = ((before ++ after).filter (rank a < rank ·)).length :=
          (hsorted.perm.filter _).length_eq
      _ = ((before ++ a :: after).filter (rank a < rank ·)).length := by
          simp [List.filter_append]
      _ < k := hfew
  refine ⟨higher ++ a :: lower, ⟨?_, ?_⟩, ?_⟩
  · calc (higher ++ a :: lower).Perm (a :: (higher ++ lower)) := List.perm_middle
      List.Perm _ (a :: sorted) := hperm.cons a
      List.Perm _ (a :: (before ++ after)) := hsorted.perm.cons a
      List.Perm _ (before ++ a :: after) := List.perm_middle.symm
  · rw [List.pairwise_append]
    refine ⟨hsorted.sorted.filter _, List.pairwise_cons.mpr ⟨hlower, hsorted.sorted.filter _⟩, ?_⟩
    intro b hb c hc
    obtain rfl | hc := List.mem_cons.mp hc
    · exact (hhigher b hb).le
    · exact (hlower c hc).trans (hhigher b hb).le
  · obtain ⟨n, hn⟩ : ∃ n, k - higher.length = n + 1 := ⟨k - higher.length - 1, by omega⟩
    rw [List.take_append, hn, List.take_succ_cons]
    exact List.mem_append_right _ List.mem_cons_self

end Grouproxy.Ranking
