import Mathlib.Data.List.Forall2

/-! # First match

An ordered list of rules decides by its first rule that matches. A rule with alternatives may
be written as a run of simpler ones.
-/

namespace Grouproxy.FirstMatch

/-- The action of the first rule that matches. -/
def firstMatch {ρ α : Type*} (hit : ρ → Bool) (action : ρ → α) (rules : List ρ) : Option α :=
  (rules.find? hit).map action

section Rules

variable {ρ α : Type*} {hit : ρ → Bool} {action : ρ → α}

@[simp] theorem firstMatch_nil : firstMatch hit action [] = none := rfl

theorem firstMatch_cons (rule : ρ) (rules : List ρ) :
    firstMatch hit action (rule :: rules) =
      if hit rule then some (action rule) else firstMatch hit action rules := by
  rw [firstMatch, List.find?_cons]
  cases hit rule with
  | true => rfl
  | false => rfl

/-- Rules in front decide first. -/
theorem firstMatch_append (front back : List ρ) :
    firstMatch hit action (front ++ back) =
      (firstMatch hit action front).or (firstMatch hit action back) := by
  induction front with
  | nil => rfl
  | cons rule front ih =>
      rw [List.cons_append, firstMatch_cons, firstMatch_cons, ih]
      split
      · rfl
      · rfl

end Rules

/-- A replacement that keeps what is looked for changes only the match itself. -/
theorem find?_map_keep {α : Type*} {hit : α → Bool} {f : α → α} (h : ∀ x, hit (f x) = hit x)
    (xs : List α) : (xs.map f).find? hit = (xs.find? hit).map f := by
  have hsame : hit ∘ f = hit := funext h
  rw [List.find?_map, hsame]

/-! ## Rules with alternatives -/

section Expansion

variable {ρ σ α : Type*} {hit : ρ → Bool} {action : ρ → α} {hitSource : σ → Bool}
  {actionSource : σ → α}

/-- The run of rules matches what the source rule matches, with its action. -/
structure IsExpansion (hit : ρ → Bool) (action : ρ → α) (hitSource : σ → Bool)
    (actionSource : σ → α) (source : σ) (run : List ρ) : Prop where
  hits : run.any hit = hitSource source
  action : ∀ rule ∈ run, action rule = actionSource source

theorem IsExpansion.firstMatch {source : σ} {run : List ρ}
    (h : IsExpansion hit action hitSource actionSource source run) :
    firstMatch hit action run = if hitSource source then some (actionSource source) else none := by
  rw [← h.hits, FirstMatch.firstMatch]
  cases hfind : run.find? hit with
  | none =>
      rw [List.find?_eq_none] at hfind
      rw [if_neg]
      · rfl
      · rw [List.any_eq_true]
        rintro ⟨rule, hmem, hrule⟩
        exact hfind rule hmem hrule
  | some rule =>
      have hmem := List.mem_of_find?_eq_some hfind
      rw [if_pos (List.any_eq_true.mpr ⟨rule, hmem, List.find?_some hfind⟩), Option.map_some,
        h.action rule hmem]

/-- Expanding every rule in place preserves the decision. -/
theorem firstMatch_flatten {sources : List σ} {runs : List (List ρ)}
    (h : List.Forall₂ (IsExpansion hit action hitSource actionSource) sources runs) :
    firstMatch hit action runs.flatten = firstMatch hitSource actionSource sources := by
  induction h with
  | nil => rfl
  | cons hrun hrest ih =>
      rw [List.flatten_cons, firstMatch_append, hrun.firstMatch, ih, firstMatch_cons]
      split
      · rfl
      · rfl

end Expansion

end Grouproxy.FirstMatch
