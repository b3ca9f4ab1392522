import Mathlib.Data.List.Dedup
import Mathlib.Data.List.Forall2

/-! # Lists of checks, and lists without repetitions -/

namespace Grouproxy

/-- Applies a check to every element and reports the first failure. -/
def firstError {α : Type*} (check : α → Except String Unit) : List α → Except String Unit
  | [] => .ok ()
  | x :: xs =>
    match check x with
    | .error e => .error e
    | .ok () => firstError check xs

theorem firstError_eq_ok {α : Type*} {check : α → Except String Unit} {xs : List α} :
    firstError check xs = .ok () ↔ ∀ x ∈ xs, check x = .ok () := by
  induction xs with
  | nil => simp [firstError]
  | cons x xs ih =>
      cases h : check x with
      | error e => simp [firstError, h]
      | ok u => simp [firstError, h, ih]

/-- A conversion of a whole list converts its elements in order. -/
theorem forall₂_of_mapM {α β : Type} {f : α → Option β} {xs : List α} {ys : List β}
    (h : xs.mapM f = some ys) : List.Forall₂ (fun x y => f x = some y) xs ys := by
  induction xs generalizing ys with
  | nil =>
      cases h
      exact .nil
  | cons x xs ih =>
      rw [List.mapM_cons] at h
      simp only [Option.bind_eq_bind, Option.bind_eq_some_iff] at h
      obtain ⟨y, hy, rest, hrest, h⟩ := h
      cases h
      exact .cons hy (ih hrest)

/-- What every partner has, all elements have. -/
theorem forall_mem_of_forall₂ {α β : Type*} {R : α → β → Prop} {P : β → Prop} {xs : List α}
    {ys : List β} (h : List.Forall₂ R xs ys) (hP : ∀ x ∈ xs, ∀ y, R x y → P y) :
    ∀ y ∈ ys, P y := by
  induction h with
  | nil => exact fun y hy => absurd hy List.not_mem_nil
  | cons hxy _ ih =>
      rw [List.forall_mem_cons] at hP ⊢
      exact ⟨hP.1 _ hxy, ih hP.2⟩

/-- Keeps the first element of each key; `seen` are the keys already taken. -/
def distinctBy {α κ : Type*} [DecidableEq κ] (key : α → κ) : List κ → List α → List α
  | _, [] => []
  | seen, x :: xs =>
    if key x ∈ seen then distinctBy key seen xs
    else x :: distinctBy key (key x :: seen) xs

section Distinct

variable {α κ : Type*} [DecidableEq κ] {key : α → κ}

theorem mem_of_mem_distinctBy {seen : List κ} {xs : List α} {x : α}
    (h : x ∈ distinctBy key seen xs) : x ∈ xs := by
  induction xs generalizing seen with
  | nil => simp [distinctBy] at h
  | cons y xs ih =>
      rw [distinctBy] at h
      split at h
      · exact List.mem_cons_of_mem y (ih h)
      · rcases List.mem_cons.mp h with rfl | h
        · exact List.mem_cons_self
        · exact List.mem_cons_of_mem y (ih h)

/-- Every element is represented by one with its key, unless its key was taken before. -/
theorem exists_mem_distinctBy (key : α → κ) (seen : List κ) {xs : List α} {x : α} (h : x ∈ xs) :
    key x ∈ seen ∨ ∃ y ∈ distinctBy key seen xs, key y = key x := by
  induction xs generalizing seen with
  | nil => cases h
  | cons y xs ih =>
      rw [distinctBy]
      rcases List.mem_cons.mp h with rfl | hx
      · by_cases hs : key x ∈ seen
        · exact .inl hs
        · right
          rw [if_neg hs]
          exact ⟨x, List.mem_cons_self, rfl⟩
      · by_cases hs : key y ∈ seen
        · rw [if_pos hs]
          exact ih seen hx
        · rw [if_neg hs]
          rcases ih (key y :: seen) hx with hk | ⟨z, hz, hk⟩
          · rcases List.mem_cons.mp hk with hk | hk
            · exact .inr ⟨y, List.mem_cons_self, hk.symm⟩
            · exact .inl hk
          · exact .inr ⟨z, List.mem_cons_of_mem y hz, hk⟩

/-- The keys of the elements that are kept are the keys of all. -/
theorem exists_key_distinctBy {xs : List α} {k : κ} :
    (∃ x ∈ distinctBy key [] xs, key x = k) ↔ k ∈ xs.map key := by
  rw [List.mem_map]
  constructor
  · rintro ⟨x, hx, rfl⟩
    exact ⟨x, mem_of_mem_distinctBy hx, rfl⟩
  · rintro ⟨x, hx, rfl⟩
    exact (exists_mem_distinctBy key [] hx).resolve_left List.not_mem_nil

/-- A property of keys holds of all distinct elements if it holds of all elements. -/
theorem forall_distinctBy_iff {xs : List α} {P : κ → Prop} :
    (∀ x ∈ distinctBy key [] xs, P (key x)) ↔ ∀ x ∈ xs, P (key x) := by
  constructor
  · intro h x hx
    rcases exists_mem_distinctBy key [] hx with hk | ⟨y, hy, hk⟩
    · cases hk
    · exact hk ▸ h y hy
  · intro h x hx
    exact h x (mem_of_mem_distinctBy hx)

theorem map_distinctBy_nodup (seen : List κ) (xs : List α) :
    ((distinctBy key seen xs).map key).Nodup ∧ ∀ y ∈ distinctBy key seen xs, key y ∉ seen := by
  induction xs generalizing seen with
  | nil => simp [distinctBy]
  | cons x xs ih =>
      rw [distinctBy]
      by_cases hx : key x ∈ seen
      · rw [if_pos hx]
        exact ih seen
      · rw [if_neg hx]
        obtain ⟨hnodup, hnew⟩ := ih (key x :: seen)
        refine ⟨?_, ?_⟩
        · rw [List.map_cons, List.nodup_cons]
          refine ⟨?_, hnodup⟩
          intro hmem
          obtain ⟨y, hy, hkey⟩ := List.mem_map.mp hmem
          exact hnew y hy (by simp [hkey])
        · intro y hy
          rcases List.mem_cons.mp hy with rfl | hy
          · exact hx
          · exact fun hmem => hnew y hy (List.mem_cons_of_mem _ hmem)

/-- Only which keys were taken counts. -/
theorem distinctBy_congr {seen seen' : List κ} (h : ∀ k, k ∈ seen ↔ k ∈ seen') (xs : List α) :
    distinctBy key seen xs = distinctBy key seen' xs := by
  induction xs generalizing seen seen' with
  | nil => rfl
  | cons x xs ih =>
      have hcons : ∀ k, k ∈ key x :: seen ↔ k ∈ key x :: seen' := by
        intro k
        rw [List.mem_cons, List.mem_cons, h k]
      rw [distinctBy, distinctBy, ih h, ih hcons]
      by_cases hx : key x ∈ seen
      · rw [if_pos hx, if_pos ((h _).mp hx)]
      · rw [if_neg hx, if_neg fun hx' => hx ((h _).mpr hx')]

/-- The keys of the front count as taken for the back. -/
theorem distinctBy_append (seen : List κ) (xs ys : List α) :
    distinctBy key seen (xs ++ ys) =
      distinctBy key seen xs ++ distinctBy key (xs.map key ++ seen) ys := by
  induction xs generalizing seen with
  | nil => rfl
  | cons x xs ih =>
      rw [List.cons_append, distinctBy, distinctBy, ih, ih, List.map_cons]
      by_cases hx : key x ∈ seen
      · rw [if_pos hx, if_pos hx]
        congr 1
        apply distinctBy_congr
        intro k
        simp only [List.cons_append, List.mem_cons, List.mem_append]
        constructor
        · exact .inr
        · rintro (rfl | hk)
          · exact .inr hx
          · exact hk
      · rw [if_neg hx, if_neg hx, List.cons_append]
        congr 2
        apply distinctBy_congr
        intro k
        simp only [List.cons_append, List.mem_cons, List.mem_append]
        tauto

/-- The elements that are kept are the first ones of their keys. -/
theorem mem_distinctBy_iff {seen : List κ} {xs : List α} {x : α} :
    x ∈ distinctBy key seen xs ↔
      key x ∉ seen ∧ xs.find? (fun y => decide (key y = key x)) = some x := by
  induction xs generalizing seen with
  | nil => simp [distinctBy]
  | cons y xs ih =>
      rw [distinctBy, List.find?_cons]
      by_cases hsame : key y = key x
      · rw [decide_eq_true hsame]
        by_cases hy : key y ∈ seen
        · rw [if_pos hy, ih]
          simp [← hsame, hy]
        · rw [if_neg hy, List.mem_cons, ih]
          simp only [← hsame, hy, not_false_eq_true, true_and, Option.some.injEq]
          constructor
          · rintro (rfl | ⟨hnot, -⟩)
            · rfl
            · exact absurd List.mem_cons_self hnot
          · exact fun hx => .inl hx.symm
      · rw [decide_eq_false hsame]
        have hne : x ≠ y := fun hx => hsame (hx ▸ rfl)
        by_cases hy : key y ∈ seen
        · rw [if_pos hy, ih]
        · rw [if_neg hy, List.mem_cons, ih]
          simp [hne, List.mem_cons, Ne.symm hsame]

/-- What is kept of a list of groups was kept in one of them, after those before it. -/
theorem mem_distinctBy_flatMap {β : Type*} (f : β → List α) {seen : List κ} {groups : List β}
    {x : α} :
    x ∈ distinctBy key seen (groups.flatMap f) ↔
      ∃ before group after, groups = before ++ group :: after ∧
        x ∈ distinctBy key ((before.flatMap f).map key ++ seen) (f group) := by
  induction groups generalizing seen with
  | nil => simp [distinctBy]
  | cons group groups ih =>
      rw [List.flatMap_cons, distinctBy_append, List.mem_append, ih]
      constructor
      · rintro (hx | ⟨before, other, after, rfl, hx⟩)
        · exact ⟨[], group, groups, rfl, hx⟩
        · refine ⟨group :: before, other, after, rfl, ?_⟩
          rw [distinctBy_congr] at hx
          · exact hx
          · intro k
            simp only [List.flatMap_cons, List.map_append, List.mem_append]
            tauto
      · rintro ⟨before, other, after, hgroups, hx⟩
        cases before with
        | nil =>
            cases hgroups
            exact .inl hx
        | cons first before =>
            cases hgroups
            refine .inr ⟨before, other, after, rfl, ?_⟩
            rw [distinctBy_congr] at hx
            · exact hx
            · intro k
              simp only [List.flatMap_cons, List.map_append, List.mem_append]
              tauto

/-- A map that keeps the keys can be applied before or after. -/
theorem map_distinctBy {β : Type*} {key' : β → κ} {f : α → β} (hkey : ∀ x, key' (f x) = key x)
    (seen : List κ) (xs : List α) :
    (distinctBy key seen xs).map f = distinctBy key' seen (xs.map f) := by
  induction xs generalizing seen with
  | nil => rfl
  | cons x xs ih =>
      rw [List.map_cons, distinctBy, distinctBy, hkey]
      by_cases hx : key x ∈ seen
      · rw [if_pos hx, if_pos hx]
        exact ih seen
      · rw [if_neg hx, if_neg hx, List.map_cons, ih]

theorem distinctBy_eq_self {seen : List κ} {xs : List α} (hnodup : (xs.map key).Nodup)
    (hnew : ∀ x ∈ xs, key x ∉ seen) : distinctBy key seen xs = xs := by
  induction xs generalizing seen with
  | nil => rfl
  | cons x xs ih =>
      rw [List.map_cons, List.nodup_cons] at hnodup
      rw [distinctBy, if_neg (hnew x List.mem_cons_self), ih hnodup.2]
      intro y hy
      rw [List.mem_cons, not_or]
      refine ⟨?_, hnew y (List.mem_cons_of_mem x hy)⟩
      intro hsame
      exact hnodup.1 (hsame ▸ List.mem_map_of_mem hy)

/-- The front can be reduced first. -/
theorem distinctBy_append_perm {front xs : List α} (h : front.Perm (distinctBy key [] xs))
    (ys : List α) : (distinctBy key [] (front ++ ys)).Perm (distinctBy key [] (xs ++ ys)) := by
  have hnodup : (front.map key).Nodup :=
    (h.map key).nodup_iff.mpr (map_distinctBy_nodup [] xs).1
  have hkeys : ∀ k, k ∈ front.map key ++ [] ↔ k ∈ xs.map key ++ [] := by
    intro k
    rw [List.append_nil, List.append_nil, (h.map key).mem_iff, List.mem_map, List.mem_map]
    constructor
    · rintro ⟨x, hx, rfl⟩
      exact ⟨x, mem_of_mem_distinctBy hx, rfl⟩
    · rintro ⟨x, hx, rfl⟩
      rcases exists_mem_distinctBy key [] hx with hk | hfirst
      · cases hk
      · exact hfirst
  rw [distinctBy_append, distinctBy_append, distinctBy_congr hkeys,
    distinctBy_eq_self hnodup fun x _ => List.not_mem_nil]
  exact h.append_right _

/-- As many elements are kept as there are different keys. -/
theorem length_distinctBy (xs : List α) :
    (distinctBy key [] xs).length = (xs.map key).dedup.length := by
  have hmem : ∀ k, k ∈ (distinctBy key [] xs).map key ↔ k ∈ (xs.map key).dedup := by
    intro k
    rw [List.mem_dedup, List.mem_map, List.mem_map]
    constructor
    · rintro ⟨x, hx, rfl⟩
      exact ⟨x, mem_of_mem_distinctBy hx, rfl⟩
    · rintro ⟨x, hx, rfl⟩
      rcases exists_mem_distinctBy key [] hx with hk | hy
      · cases hk
      · exact hy
  have hperm := (List.perm_ext_iff_of_nodup (map_distinctBy_nodup [] xs).1
    (List.nodup_dedup _)).mpr hmem
  rw [← hperm.length_eq, List.length_map]

theorem mem_distinctBy_id {xs : List κ} {x : κ} : x ∈ distinctBy id [] xs ↔ x ∈ xs := by
  constructor
  · exact mem_of_mem_distinctBy
  · intro h
    rcases exists_mem_distinctBy id [] h with hk | ⟨y, hy, hk⟩
    · cases hk
    · rw [id_eq, id_eq] at hk
      exact hk ▸ hy

theorem nodup_distinctBy_id (xs : List κ) : (distinctBy id [] xs).Nodup := by
  have hnodup : ((distinctBy id [] xs).map id).Nodup := (map_distinctBy_nodup [] xs).1
  rwa [List.map_id] at hnodup

end Distinct

end Grouproxy
