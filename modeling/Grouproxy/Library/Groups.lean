import Mathlib.Data.List.Nodup

/-! # Grouping in a map

A loop keeps one value for each key it has met, and each element changes the value of its key only.
What a key holds afterwards is what its own elements make of the initial value.
-/

namespace Grouproxy.Groups

variable {κ α β : Type} [DecidableEq κ] {init : κ → β} {step : β → α → β} {key k : κ} {x : α}
  {m : List (κ × β)}

/-- The value of `key` after one more element, starting from `init` for a new key. -/
def update (init : κ → β) (step : β → α → β) (key : κ) (x : α) : List (κ × β) → List (κ × β)
  | [] => [(key, step (init key) x)]
  | (k, b) :: m => if k = key then (k, step b x) :: m else (k, b) :: update init step key x m

theorem keys_update :
    (update init step key x m).map Prod.fst =
      if key ∈ m.map Prod.fst then m.map Prod.fst else m.map Prod.fst ++ [key] := by
  induction m with
  | nil => simp [update]
  | cons e m ih =>
      obtain ⟨k, b⟩ := e
      by_cases h : k = key
      · simp [update, h]
      · rw [update, if_neg h, List.map_cons, ih]
        by_cases hmem : key ∈ m.map Prod.fst
        · simp [hmem]
        · simp [hmem, Ne.symm h]

theorem lookup_update :
    (update init step key x m).lookup k =
      if k = key then some (step ((m.lookup key).getD (init key)) x) else m.lookup k := by
  induction m with
  | nil => by_cases h : k = key <;> simp [update, h]
  | cons e m ih =>
      obtain ⟨k', b⟩ := e
      by_cases h : k' = key
      · subst h
        by_cases hk : k = k'
        · simp [update, hk]
        · simp [update, List.lookup_cons, hk, beq_false_of_ne hk]
      · have hlookup : List.lookup key ((k', b) :: m) = m.lookup key := by
          simp [List.lookup_cons, beq_false_of_ne (Ne.symm h)]
        rw [update, if_neg h, hlookup, List.lookup_cons, List.lookup_cons, ih]
        by_cases hk : k = k'
        · simp [hk, h]
        · simp [beq_false_of_ne hk]

theorem nodup_update (h : (m.map Prod.fst).Nodup) :
    ((update init step key x m).map Prod.fst).Nodup := by
  rw [keys_update]
  split
  next => exact h
  next hmem => exact List.concat_eq_append ▸ h.concat hmem

/-! ## The whole loop -/

section Loop

variable {keyOf : α → κ} {xs : List α}

/-- A loop that files each element under its key. -/
def group (init : κ → β) (step : β → α → β) (keyOf : α → κ) (xs : List α) (m : List (κ × β)) :
    List (κ × β) :=
  xs.foldl (fun m x => update init step (keyOf x) x m) m

theorem nodup_group (h : (m.map Prod.fst).Nodup) :
    ((group init step keyOf xs m).map Prod.fst).Nodup := by
  induction xs generalizing m with
  | nil => exact h
  | cons x xs ih => exact ih (nodup_update h)

theorem mem_keys_group :
    k ∈ (group init step keyOf xs m).map Prod.fst ↔ k ∈ m.map Prod.fst ∨ k ∈ xs.map keyOf := by
  induction xs generalizing m with
  | nil => simp [group]
  | cons x xs ih =>
      have hstep : group init step keyOf (x :: xs) m =
          group init step keyOf xs (update init step (keyOf x) x m) := rfl
      have hkeys : k ∈ (update init step (keyOf x) x m).map Prod.fst ↔
          k ∈ m.map Prod.fst ∨ k = keyOf x := by
        rw [keys_update]
        split
        next hmem => exact ⟨.inl, fun h => h.elim id fun h => h ▸ hmem⟩
        next => simp
      rw [hstep, ih, hkeys, List.map_cons, List.mem_cons, or_assoc]

/-- What a key holds is what its own elements make of the value it had. -/
theorem lookup_group (h : k ∈ (group init step keyOf xs m).map Prod.fst) :
    (group init step keyOf xs m).lookup k =
      some ((xs.filter (keyOf · = k)).foldl step ((m.lookup k).getD (init k))) := by
  induction xs generalizing m with
  | nil =>
      obtain ⟨e, he, rfl⟩ := List.mem_map.mp h
      cases hlookup : m.lookup e.1 with
      | some b => simp [group, hlookup]
      | none => simpa using List.lookup_eq_none_iff.mp hlookup e he
  | cons x xs ih =>
      have hstep : group init step keyOf (x :: xs) m =
          group init step keyOf xs (update init step (keyOf x) x m) := rfl
      rw [hstep] at h ⊢
      rw [ih h, lookup_update]
      by_cases hk : k = keyOf x
      · simp [hk]
      · simp [hk, Ne.symm hk]

end Loop

end Grouproxy.Groups
