import Grouproxy.Library.TreePaths
import Grouproxy.Model.Audit

/-! # Redaction

A redacted value tells nothing of what stands under a sensitive key, at any depth, and keeps
everything else where it was.
-/

namespace Grouproxy.Audit

open Value Value.Tree

/-- A key whose lower-case form is sensitive. -/
def IsSensitive (key : String) : Prop := Inspection.lower key ∈ sensitiveKeys

instance (key : String) : Decidable (IsSensitive key) :=
  inferInstanceAs (Decidable (Inspection.lower key ∈ sensitiveKeys))

/-- What the value under a key becomes. -/
def redactUnder (key : String) (item : Tree) : Tree :=
  if IsSensitive key then .str "[REDACTED]" else redact item

theorem redactList_eq_map (items : List Tree) : redactList items = items.map redact := by
  induction items with
  | nil => rfl
  | cons item items ih => rw [redactList, ih, List.map_cons]

theorem redactFields_eq_map (fields : List (String × Tree)) :
    redactFields fields = fields.map fun f => (f.1, redactUnder f.1 f.2) := by
  induction fields with
  | nil => rfl
  | cons f fields ih =>
      obtain ⟨key, item⟩ := f
      rw [redactFields, ih, List.map_cons]
      rfl

theorem redact_list (items : List Tree) : redact (.list items) = .list (items.map redact) := by
  rw [redact, redactList_eq_map]

theorem redact_dict (fields : List (String × Tree)) :
    redact (.dict fields) = .dict (fields.map fun f => (f.1, redactUnder f.1 f.2)) := by
  rw [redact, redactFields_eq_map]

/-! ## Secrets are hidden -/

mutual
theorem redact_eq_of_sameBut {value other : Tree} (h : SameBut IsSensitive value other) :
    redact value = redact other := by
  cases h with
  | null => rfl
  | bool b => rfl
  | int n => rfl
  | float x => rfl
  | str s => rfl
  | list h => rw [redact, redact, redactList_eq_of_sameBut h]
  | dict h => rw [redact, redact, redactFields_eq_of_sameBut h]

theorem redactList_eq_of_sameBut {items others : List Tree}
    (h : SameItemsBut IsSensitive items others) : redactList items = redactList others := by
  cases h with
  | nil => rfl
  | cons h hs =>
      rw [redactList, redactList, redact_eq_of_sameBut h, redactList_eq_of_sameBut hs]

theorem redactFields_eq_of_sameBut {fields others : List (String × Tree)}
    (h : SameFieldsBut IsSensitive fields others) : redactFields fields = redactFields others := by
  cases h with
  | nil => rfl
  | hide value other h hs =>
      have hkey : Inspection.lower _ ∈ sensitiveKeys := h
      rw [redactFields, redactFields, redactFields_eq_of_sameBut hs, if_pos hkey, if_pos hkey]
  | keep key h hs =>
      rw [redactFields, redactFields, redact_eq_of_sameBut h, redactFields_eq_of_sameBut hs]
end

theorem redact_redact (value : Tree) : redact (redact value) = redact value := by
  induction value with
  | null => rfl
  | bool b => rfl
  | int n => rfl
  | float x => rfl
  | str s => rfl
  | list items ih =>
      rw [redact_list, redact_list, List.map_map]
      exact congrArg Tree.list (List.map_congr_left ih)
  | dict fields ih =>
      rw [redact_dict, redact_dict, List.map_map]
      apply congrArg Tree.dict
      apply List.map_congr_left
      intro f hf
      have hunder : redactUnder f.1 (redactUnder f.1 f.2) = redactUnder f.1 f.2 := by
        by_cases hkey : IsSensitive f.1
        · rw [redactUnder, if_pos hkey, redactUnder, if_pos hkey]
        · rw [redactUnder, if_neg hkey, redactUnder, if_neg hkey, ih f hf]
      exact Prod.ext rfl hunder

/-! ## Everything else is kept -/

theorem get?_map_redactUnder (fields : List (String × Tree)) (key : String) :
    get? (fields.map fun f => (f.1, redactUnder f.1 f.2)) key =
      (get? fields key).map (redactUnder key) := by
  induction fields with
  | nil => rfl
  | cons f fields ih =>
      obtain ⟨k, item⟩ := f
      rw [List.map_cons, get?_cons, get?_cons]
      split
      · rename_i hsame
        rw [hsame, Option.map_some]
      · exact ih

/-- What a path through no sensitive key leads to is redacted where it stands. -/
theorem at?_redact {path : List Step} (h : Avoids IsSensitive path) (value : Tree) :
    at? path (redact value) = (at? path value).map redact := by
  induction path generalizing value with
  | nil => rfl
  | cons step path ih =>
      have hrest : Avoids IsSensitive path := fun key hkey => h key (List.mem_cons_of_mem _ hkey)
      cases step with
      | key key =>
          have hopen : ¬ IsSensitive key := h key List.mem_cons_self
          cases value with
          | dict fields =>
              rw [redact_dict, at?, at?, get?_map_redactUnder]
              cases get? fields key with
              | none => rfl
              | some item =>
                  rw [Option.map_some, Option.bind_some, Option.bind_some, redactUnder,
                    if_neg hopen]
                  exact ih hrest item
          | list items =>
              rw [redact_list]
              rfl
          | null => rfl
          | bool b => rfl
          | int n => rfl
          | float x => rfl
          | str s => rfl
      | index i =>
          cases value with
          | list items =>
              rw [redact_list, at?, at?, List.getElem?_map]
              cases items[i]? with
              | none => rfl
              | some item =>
                  rw [Option.map_some, Option.bind_some, Option.bind_some]
                  exact ih hrest item
          | dict fields =>
              rw [redact_dict]
              rfl
          | null => rfl
          | bool b => rfl
          | int n => rfl
          | float x => rfl
          | str s => rfl

theorem mem_keysIn_list {items : List Tree} {item : Tree} (h : item ∈ items) {key : String}
    (hkey : key ∈ keysIn item) : key ∈ keysIn (.list items) := by
  rw [keysIn]
  induction items with
  | nil => cases h
  | cons first items ih =>
      rw [keysInList, List.mem_append]
      rcases List.mem_cons.mp h with rfl | h
      · exact .inl hkey
      · exact .inr (ih h)

theorem mem_keysIn_dict {fields : List (String × Tree)} {f : String × Tree} (h : f ∈ fields)
    {key : String} (hkey : key = f.1 ∨ key ∈ keysIn f.2) : key ∈ keysIn (.dict fields) := by
  rw [keysIn]
  induction fields with
  | nil => cases h
  | cons first fields ih =>
      obtain ⟨k, item⟩ := first
      rw [keysInFields, List.mem_append, List.mem_cons]
      rcases List.mem_cons.mp h with rfl | h
      · exact .inl hkey
      · exact .inr (ih h)

/-- A value with no sensitive key in it is left alone. -/
theorem redact_eq_self {value : Tree} (h : ∀ key ∈ keysIn value, ¬ IsSensitive key) :
    redact value = value := by
  induction value with
  | null => rfl
  | bool b => rfl
  | int n => rfl
  | float x => rfl
  | str s => rfl
  | list items ih =>
      have hitems : ∀ item ∈ items, redact item = id item := by
        intro item hitem
        exact ih item hitem fun key hkey => h key (mem_keysIn_list hitem hkey)
      rw [redact_list, List.map_congr_left hitems, List.map_id]
  | dict fields ih =>
      have hfields : ∀ f ∈ fields, (f.1, redactUnder f.1 f.2) = id f := by
        intro f hf
        have hopen : ¬ IsSensitive f.1 := h f.1 (mem_keysIn_dict hf (.inl rfl))
        have hvalue := ih f hf fun key hkey => h key (mem_keysIn_dict hf (.inr hkey))
        rw [redactUnder, if_neg hopen, hvalue]
        rfl
      rw [redact_dict, List.map_congr_left hfields, List.map_id]

/-- Redaction hides what stands under a sensitive key, changes nothing the second time, and keeps
every value that stands under none. -/
theorem redact_hides :
    (∀ value other, SameBut IsSensitive value other → redact value = redact other) ∧
    (∀ value, redact (redact value) = redact value) ∧
    (∀ path value, Avoids IsSensitive path →
      at? path (redact value) = (at? path value).map redact) ∧
    ∀ value, (∀ key ∈ keysIn value, ¬ IsSensitive key) → redact value = value :=
  ⟨fun _ _ => redact_eq_of_sameBut, redact_redact, fun _ value h => at?_redact h value,
    fun _ => redact_eq_self⟩

end Grouproxy.Audit
