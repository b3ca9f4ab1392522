import Mathlib.Data.Nat.Find
import Grouproxy.Model.Bundles
import Grouproxy.Verification.Singbox.AutoGroup

/-! # The name of the automatic group

The loops of the backend and of the monitor advance their counters at different points, and still
go through the same names. There are more names than tags, so that both end, in the first name that
is free.
-/

namespace Grouproxy.Singbox

open Backend Loops

/-- The first free name: `auto`, or else that with the least suffix. -/
structure IsFirstFree (tags : List String) (name : String) : Prop where
  free : name ∉ tags
  plain : "auto" ∉ tags → name = "auto"
  numbered : "auto" ∈ tags → ∃ k, 1 ≤ k ∧ name = "auto-" ++ toString k ∧
    ∀ j, 1 ≤ j → j < k → "auto-" ++ toString j ∈ tags

section Loop

variable {tags : List String}

/-- After some rounds the loop has come to the candidate of that number. -/
theorem iterate_autoTag (n : Nat) :
    (fun s : String × Nat => ("auto-" ++ toString s.2, s.2 + 1))^[n] ("auto", 1) =
      (autoCandidate n, n + 1) := by
  induction n with
  | zero => rfl
  | succ n ih =>
      rw [Function.iterate_succ_apply', ih]
      rfl

/-- The loop ends in the first candidate that is free. -/
theorem ends_autoTag {n : Nat} (hbefore : ∀ i < n, autoCandidate i ∈ tags)
    (hfree : autoCandidate n ∉ tags) :
    Ends (fun fuel => run (fun s : String × Nat => decide (s.1 ∈ tags))
      (fun s => ("auto-" ++ toString s.2, s.2 + 1)) fuel ("auto", 1)) (autoCandidate n, n + 1) := by
  rw [← iterate_autoTag]
  apply ends_iterate
  · intro i hi
    rw [iterate_autoTag]
    exact decide_eq_true (hbefore i hi)
  · rw [iterate_autoTag]
    exact decide_eq_false hfree

theorem ends_subscriptionAutoTagLoop {n : Nat} (hbefore : ∀ i < n, autoCandidate i ∈ tags)
    (hfree : autoCandidate n ∉ tags) :
    Ends (subscriptionAutoTagLoop tags) (autoCandidate n) :=
  (ends_autoTag hbefore hfree).map Prod.fst

theorem ends_subscriptionSelectionTagsLoop {n : Nat} (hne : tags ≠ [])
    (hbefore : ∀ i < n, autoCandidate i ∈ tags) (hfree : autoCandidate n ∉ tags) :
    Ends (subscriptionSelectionTagsLoop tags.toFinset)
      (tags.toFinset ∪ {autoCandidate n}) := by
  have hsome : tags.toFinset ≠ ∅ := by
    rw [Ne, List.toFinset_eq_empty_iff]
    exact hne
  have hloop : subscriptionSelectionTagsLoop tags.toFinset = fun fuel =>
      (run (fun s : String × Nat => decide (s.1 ∈ tags))
        (fun s => ("auto-" ++ toString s.2, s.2 + 1)) fuel ("auto", 1)).map
          fun s => tags.toFinset ∪ {s.1} := by
    funext fuel
    simp only [subscriptionSelectionTagsLoop, if_neg hsome, List.mem_toFinset]
  rw [hloop]
  exact (ends_autoTag hbefore hfree).map fun s => tags.toFinset ∪ {s.1}

theorem isFirstFree_autoCandidate {n : Nat} (hbefore : ∀ i < n, autoCandidate i ∈ tags)
    (hfree : autoCandidate n ∉ tags) : IsFirstFree tags (autoCandidate n) := by
  refine ⟨hfree, ?_, ?_⟩
  · intro hplain
    cases n with
    | zero => rfl
    | succ n => exact absurd (hbefore 0 (Nat.succ_pos n)) hplain
  · intro hused
    cases n with
    | zero => exact absurd hused hfree
    | succ n =>
        refine ⟨n + 1, Nat.succ_pos n, rfl, ?_⟩
        intro j hj hlt
        obtain ⟨i, rfl⟩ := Nat.exists_eq_add_of_le' hj
        exact hbefore (i + 1) hlt

/-- The tags leave a candidate free, and there is a first one. -/
theorem exists_first_candidate (tags : List String) :
    ∃ n, (∀ i < n, autoCandidate i ∈ tags) ∧ autoCandidate n ∉ tags := by
  have hexists : ∃ n, autoCandidate n ∉ tags := by
    obtain ⟨tag, hmem, hfree⟩ := exists_free_candidate tags
    obtain ⟨n, -, rfl⟩ := List.mem_map.mp hmem
    exact ⟨n, hfree⟩
  refine ⟨Nat.find hexists, ?_, Nat.find_spec hexists⟩
  intro i hi
  exact not_not.mp (Nat.find_min hexists hi)

end Loop

/-- The model's choice of a name is what the loop of the monitor ends in. -/
theorem ends_subscriptionAutoTag (tags : List String) :
    Ends (subscriptionAutoTagLoop tags) (subscriptionAutoTag tags) := by
  obtain ⟨n, hbefore, hfree⟩ := exists_first_candidate tags
  have hle : n < tags.length + 1 := by
    obtain ⟨tag, hmem, hnot⟩ := exists_free_candidate tags
    obtain ⟨m, hm, rfl⟩ := List.mem_map.mp hmem
    by_contra hlt
    have hrange := List.mem_range.mp hm
    exact hnot (hbefore m (by omega))
  have hfind : ((List.range (tags.length + 1)).map autoCandidate).find? (fun tag => tag ∉ tags) =
      some (autoCandidate n) := by
    have hindex : (List.range (tags.length + 1)).find?
        ((fun tag => decide (tag ∉ tags)) ∘ autoCandidate) = some n := by
      rw [List.find?_range_eq_some]
      refine ⟨decide_eq_true hfree, List.mem_range.mpr hle, ?_⟩
      intro i hi
      simpa using hbefore i hi
    rw [List.find?_map, hindex, Option.map_some]
  rw [subscriptionAutoTag, hfind, Option.getD_some]
  exact ends_subscriptionAutoTagLoop hbefore hfree

/-- Both loops end for every set of tags that is not empty, however the monitor lists it, and
choose the same name, which is the first free one. -/
theorem autoNames_agree {tags : List String} (h : tags ≠ []) :
    ∃ name, Ends (subscriptionSelectionTagsLoop tags.toFinset) (tags.toFinset ∪ {name}) ∧
      Ends (subscriptionAutoTagLoop tags) name ∧ IsFirstFree tags name := by
  obtain ⟨n, hbefore, hfree⟩ := exists_first_candidate tags
  exact ⟨autoCandidate n, ends_subscriptionSelectionTagsLoop h hbefore hfree,
    ends_subscriptionAutoTagLoop hbefore hfree, isFirstFree_autoCandidate hbefore hfree⟩

theorem autoNames_agree_auto : ∃ name,
    Ends (subscriptionSelectionTagsLoop ["auto", "auto-1"].toFinset)
      (["auto", "auto-1"].toFinset ∪ {name}) ∧
    Ends (subscriptionAutoTagLoop ["auto", "auto-1"]) name ∧
    IsFirstFree ["auto", "auto-1"] name :=
  autoNames_agree (by decide)

end Grouproxy.Singbox
