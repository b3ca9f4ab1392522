import Mathlib.Data.Finset.Card
import Mathlib.Data.List.Sort
import Mathlib.Order.Monotone.Defs

/-! # The newest of each of the most recent buckets

A list from the newest to the oldest is walked, and of each bucket the first element is taken, until
enough buckets have been seen. Leaving out elements that are not taken changes nothing.
-/

namespace Grouproxy.Buckets

variable {α κ τ : Type}

section Walk

variable [DecidableEq κ] {bucket : α → κ} {limit : ℕ} {seen : Finset κ} {x : α} {xs : List α}
  {p : α → Bool}

/-- The first element of each bucket that has not been seen, until `limit` buckets are seen. -/
def firstOfEach (bucket : α → κ) (limit : ℕ) (seen : Finset κ) : List α → List α
  | [] => []
  | x :: xs =>
    if bucket x ∈ seen then firstOfEach bucket limit seen xs
    else if seen.card < limit then x :: firstOfEach bucket limit (insert (bucket x) seen) xs
    else []

theorem firstOfEach_full (h : limit ≤ seen.card) (xs : List α) :
    firstOfEach bucket limit seen xs = [] := by
  induction xs with
  | nil => rfl
  | cons x xs ih =>
      rw [firstOfEach, ih, if_neg (Nat.not_lt.mpr h), ite_self]

theorem exists_split_cons {y : α} {P : List α → Prop} :
    (∃ newer older, y :: xs = newer ++ x :: older ∧ P newer) ↔
      (x = y ∧ P []) ∨ ∃ newer older, xs = newer ++ x :: older ∧ P (y :: newer) := by
  constructor
  · rintro ⟨newer, older, heq, hP⟩
    cases newer with
    | nil =>
        obtain ⟨rfl, -⟩ := List.cons.inj heq
        exact .inl ⟨rfl, hP⟩
    | cons z newer =>
        obtain ⟨rfl, hrest⟩ := List.cons.inj heq
        exact .inr ⟨newer, older, hrest, hP⟩
  · rintro (⟨rfl, hP⟩ | ⟨newer, older, rfl, hP⟩)
    · exact ⟨[], xs, rfl, hP⟩
    · exact ⟨y :: newer, older, rfl, hP⟩

/-- An element is taken where it is the first of its bucket and few buckets come before it. -/
theorem mem_firstOfEach :
    x ∈ firstOfEach bucket limit seen xs ↔ ∃ newer older, xs = newer ++ x :: older ∧
      bucket x ∉ seen ∧ bucket x ∉ newer.map bucket ∧
      (seen ∪ (newer.map bucket).toFinset).card < limit := by
  induction xs generalizing seen with
  | nil => simp [firstOfEach]
  | cons y xs ih =>
      rw [firstOfEach, exists_split_cons]
      by_cases hseen : bucket y ∈ seen
      · rw [if_pos hseen, ih]
        have hfirst : ¬ (x = y ∧ bucket x ∉ seen ∧ bucket x ∉ [].map bucket ∧
            (seen ∪ ([].map bucket).toFinset).card < limit) := by
          rintro ⟨rfl, hnot, -⟩
          exact hnot hseen
        rw [or_iff_right hfirst]
        refine exists_congr fun newer => exists_congr fun older => and_congr_right fun _ =>
          and_congr_right fun hnot => ?_
        have hne : bucket x ≠ bucket y := fun heq => hnot (heq ▸ hseen)
        rw [List.map_cons, List.toFinset_cons, Finset.union_insert,
          Finset.insert_eq_self.mpr (Finset.mem_union_left _ hseen), List.mem_cons,
          or_iff_right hne]
      · rw [if_neg hseen]
        by_cases hroom : seen.card < limit
        · rw [if_pos hroom, List.mem_cons, ih]
          refine or_congr ⟨?_, And.left⟩ ?_
          · rintro rfl
            exact ⟨rfl, hseen, by simp, by simpa using hroom⟩
          · refine exists_congr fun newer => exists_congr fun older => and_congr_right fun _ => ?_
            rw [List.map_cons, List.toFinset_cons, Finset.union_insert, Finset.insert_union,
              Finset.mem_insert, List.mem_cons]
            tauto
        · have hfull : ∀ S : Finset κ, ¬ (seen ∪ S).card < limit := fun S hlt =>
            hroom (Nat.lt_of_le_of_lt (Finset.card_le_card Finset.subset_union_left) hlt)
          simp only [hroom, hfull, if_false, and_false, exists_false, or_false, List.not_mem_nil]

/-- The elements that are taken are taken again, whatever else is left out. -/
theorem firstOfEach_filter (h : ∀ x ∈ firstOfEach bucket limit seen xs, p x = true) :
    firstOfEach bucket limit seen (xs.filter p) = firstOfEach bucket limit seen xs := by
  induction xs generalizing seen with
  | nil => rfl
  | cons x xs ih =>
      rw [firstOfEach] at h ⊢
      by_cases hseen : bucket x ∈ seen
      · rw [if_pos hseen] at h ⊢
        cases hp : p x with
        | false => rw [List.filter_cons_of_neg (by simp [hp]), ih h]
        | true => rw [List.filter_cons_of_pos hp, firstOfEach, if_pos hseen, ih h]
      · rw [if_neg hseen] at h ⊢
        by_cases hroom : seen.card < limit
        · rw [if_pos hroom] at h ⊢
          have hp : p x = true := h x List.mem_cons_self
          have hrest := ih fun y hy => h y (List.mem_cons_of_mem x hy)
          rw [List.filter_cons_of_pos hp, firstOfEach, if_neg hseen, if_pos hroom, hrest]
        · rw [if_neg hroom, firstOfEach_full (Nat.not_lt.mp hroom)]

end Walk

section Sorted

variable [LinearOrder τ] [LinearOrder κ] {time : α → τ} {key : τ → κ} {limit : ℕ} {x : α}
  {xs ys : List α} {p : α → Bool}

/-- The newest element of its bucket, which is one of the `limit` most recent buckets. -/
def NewestOfRecent (key : τ → κ) (time : α → τ) (limit : ℕ) (xs : List α) (x : α) : Prop :=
  x ∈ xs ∧ (∀ y ∈ xs, key (time y) = key (time x) → time y ≤ time x) ∧
    ((xs.map fun y => key (time y)).toFinset.filter (key (time x) < ·)).card < limit

theorem newestOfRecent_perm (h : xs.Perm ys) :
    NewestOfRecent key time limit xs x ↔ NewestOfRecent key time limit ys x := by
  have hkeys : (xs.map fun y => key (time y)).toFinset = (ys.map fun y => key (time y)).toFinset :=
    List.toFinset_eq_of_perm _ _ (h.map _)
  rw [NewestOfRecent, NewestOfRecent, hkeys, h.mem_iff]
  simp only [h.mem_iff]

theorem mem_firstOfEach_sorted (hkey : Monotone key)
    (hsorted : xs.Pairwise fun x y => time y < time x) :
    x ∈ firstOfEach (fun y => key (time y)) limit ∅ xs ↔ NewestOfRecent key time limit xs x := by
  rw [mem_firstOfEach, NewestOfRecent]
  simp only [Finset.notMem_empty, not_false_eq_true, true_and, Finset.empty_union]
  constructor
  · rintro ⟨newer, older, rfl, hfirst, hcard⟩
    obtain ⟨-, hx, hnewer⟩ := List.pairwise_append.mp hsorted
    have holder := (List.pairwise_cons.mp hx).1
    refine ⟨by simp, ?_, ?_⟩
    · intro y hy hbucket
      rcases List.mem_append.mp hy with hy | hy
      · exact absurd (hbucket ▸ List.mem_map_of_mem hy) hfirst
      · rcases List.mem_cons.mp hy with rfl | hy
        · exact le_rfl
        · exact (holder y hy).le
    · refine Nat.lt_of_le_of_lt (Finset.card_le_card ?_) hcard
      intro k hk
      obtain ⟨hmem, hlt⟩ := Finset.mem_filter.mp hk
      obtain ⟨y, hy, rfl⟩ := List.mem_map.mp (List.mem_toFinset.mp hmem)
      rcases List.mem_append.mp hy with hy | hy
      · exact List.mem_toFinset.mpr (List.mem_map_of_mem hy)
      · have hle : key (time y) ≤ key (time x) := by
          rcases List.mem_cons.mp hy with rfl | hy
          · exact le_rfl
          · exact hkey (holder y hy).le
        exact absurd hlt (not_lt.mpr hle)
  · rintro ⟨hx, hnewest, hcard⟩
    obtain ⟨newer, older, rfl⟩ := List.append_of_mem hx
    obtain ⟨-, -, hnewer⟩ := List.pairwise_append.mp hsorted
    have hnewer : ∀ y ∈ newer, key (time x) < key (time y) := by
      intro y hy
      have hlt : time x < time y := hnewer y hy x List.mem_cons_self
      refine lt_of_le_of_ne (hkey hlt.le) fun heq => ?_
      exact absurd (hnewest y (List.mem_append_left _ hy) heq.symm) (not_le.mpr hlt)
    refine ⟨newer, older, rfl, ?_, ?_⟩
    · intro hmem
      obtain ⟨y, hy, heq⟩ := List.mem_map.mp hmem
      exact absurd heq (hnewer y hy).ne'
    · refine Nat.lt_of_le_of_lt (Finset.card_le_card ?_) hcard
      intro k hk
      obtain ⟨y, hy, rfl⟩ := List.mem_map.mp (List.mem_toFinset.mp hk)
      refine Finset.mem_filter.mpr ⟨List.mem_toFinset.mpr ?_, hnewer y hy⟩
      exact List.mem_map_of_mem (List.mem_append_left _ hy)

/-- From the newest to the oldest, elements of the same time in their order. -/
def newestFirst (time : α → τ) (xs : List α) : List α :=
  xs.insertionSort fun x y => time y ≤ time x

theorem newestFirst_cons (time : α → τ) (x : α) (xs : List α) :
    newestFirst time (x :: xs) =
      (newestFirst time xs).orderedInsert (fun x y => time y ≤ time x) x := rfl

theorem newestFirst_perm (time : α → τ) (xs : List α) : (newestFirst time xs).Perm xs :=
  List.perm_insertionSort _ xs

theorem newestFirst_sorted (time : α → τ) (xs : List α) :
    (newestFirst time xs).Pairwise fun x y => time y ≤ time x := by
  have htotal : Std.Total fun x y : α => time y ≤ time x := ⟨fun x y => le_total _ _⟩
  have htrans : IsTrans α fun x y => time y ≤ time x := ⟨fun x y z hxy hyz => hyz.trans hxy⟩
  exact List.pairwise_insertionSort _ xs

theorem newestFirst_strict (h : (xs.map time).Nodup) :
    (newestFirst time xs).Pairwise fun x y => time y < time x := by
  have hnodup : ((newestFirst time xs).map time).Nodup :=
    ((newestFirst_perm time xs).map time).nodup_iff.mpr h
  have hne := List.pairwise_map.mp hnodup
  exact (newestFirst_sorted time xs).imp₂ (fun x y hle hne => lt_of_le_of_ne hle hne.symm) hne

theorem orderedInsert_of_forall (h : ∀ y ∈ xs, time y ≤ time x) :
    xs.orderedInsert (fun x y => time y ≤ time x) x = x :: xs := by
  cases xs with
  | nil => rfl
  | cons y xs => rw [List.orderedInsert_cons, if_pos (h y List.mem_cons_self)]

theorem filter_orderedInsert (x : α) (hsorted : xs.Pairwise fun x y => time y ≤ time x) :
    (xs.orderedInsert (fun x y => time y ≤ time x) x).filter p =
      if p x = true then (xs.filter p).orderedInsert (fun x y => time y ≤ time x) x
      else xs.filter p := by
  induction xs with
  | nil => rw [List.orderedInsert_nil, List.filter_cons, List.filter_nil, List.orderedInsert_nil]
  | cons y xs ih =>
      obtain ⟨hy, hxs⟩ := List.pairwise_cons.mp hsorted
      by_cases hyx : time y ≤ time x
      · have hall : ∀ z ∈ (y :: xs).filter p, time z ≤ time x := by
          intro z hz
          rcases List.mem_cons.mp (List.mem_of_mem_filter hz) with rfl | hz
          · exact hyx
          · exact (hy z hz).trans hyx
        rw [orderedInsert_of_forall hall, List.orderedInsert_cons, if_pos hyx, List.filter_cons]
      · rw [List.orderedInsert_cons, if_neg hyx]
        cases hp : p y with
        | false =>
            rw [List.filter_cons_of_neg (by simp [hp]), List.filter_cons_of_neg (by simp [hp]),
              ih hxs]
        | true =>
            rw [List.filter_cons_of_pos hp, List.filter_cons_of_pos hp, ih hxs,
              List.orderedInsert_cons, if_neg hyx]
            split <;> rfl

theorem newestFirst_filter (time : α → τ) (p : α → Bool) (xs : List α) :
    newestFirst time (xs.filter p) = (newestFirst time xs).filter p := by
  induction xs with
  | nil => rfl
  | cons x xs ih =>
      rw [newestFirst_cons, filter_orderedInsert x (newestFirst_sorted time xs), ← ih]
      split
      · rename_i hp
        rw [List.filter_cons_of_pos hp, newestFirst_cons]
      · rename_i hp
        rw [List.filter_cons_of_neg hp]

end Sorted

end Grouproxy.Buckets
