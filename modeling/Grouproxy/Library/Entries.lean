import Mathlib.Data.List.Nodup

/-! # Lists of entries by name -/

namespace Grouproxy.Entries

variable {α β : Type} [DecidableEq α] {entries others : List (α × β)} {name : α} {value : β}

theorem mem_of_lookup (h : entries.lookup name = some value) : (name, value) ∈ entries := by
  induction entries with
  | nil => cases h
  | cons entry entries ih =>
      obtain ⟨first, other⟩ := entry
      rw [List.lookup_cons] at h
      by_cases hsame : name = first
      · subst hsame
        rw [beq_self_eq_true] at h
        cases h
        exact List.mem_cons_self
      · rw [beq_false_of_ne hsame] at h
        exact List.mem_cons_of_mem _ (ih h)

/-- An entry with a name of its own is found under it. -/
theorem lookup_of_mem (hnodup : (entries.map Prod.fst).Nodup) (h : (name, value) ∈ entries) :
    entries.lookup name = some value := by
  induction entries with
  | nil => cases h
  | cons entry entries ih =>
      obtain ⟨first, other⟩ := entry
      rw [List.map_cons, List.nodup_cons] at hnodup
      rcases List.mem_cons.mp h with hhead | htail
      · cases hhead
        exact List.lookup_cons_self
      · have hne : name ≠ first := by
          rintro rfl
          exact hnodup.1 (List.mem_map.mpr ⟨_, htail, rfl⟩)
        rw [List.lookup_cons, beq_false_of_ne hne]
        exact ih hnodup.2 htail

theorem lookup_eq_none_of_notMem (h : name ∉ entries.map Prod.fst) :
    entries.lookup name = none := by
  rw [List.lookup_eq_none_iff]
  intro entry hentry
  rw [bne_iff_ne]
  rintro rfl
  exact h (List.mem_map_of_mem hentry)

theorem notMem_of_lookup (h : entries.lookup name = none) : name ∉ entries.map Prod.fst := by
  intro hmem
  obtain ⟨entry, hentry, rfl⟩ := List.mem_map.mp hmem
  rw [List.lookup_eq_none_iff] at h
  simpa using h entry hentry

/-- Entries with distinct names are found in any order. -/
theorem lookup_eq_of_perm (hnodup : (entries.map Prod.fst).Nodup) (h : entries.Perm others) :
    entries.lookup name = others.lookup name := by
  have hothers : (others.map Prod.fst).Nodup := ((h.map Prod.fst).nodup_iff).mp hnodup
  cases hfound : entries.lookup name with
  | none =>
      have hnot := notMem_of_lookup hfound
      rw [(h.map Prod.fst).mem_iff] at hnot
      exact (lookup_eq_none_of_notMem hnot).symm
  | some value => exact (lookup_of_mem hothers (h.mem_iff.mp (mem_of_lookup hfound))).symm

end Grouproxy.Entries
