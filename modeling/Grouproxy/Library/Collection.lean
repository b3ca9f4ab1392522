import Mathlib.Data.List.Find
import Mathlib.Data.List.Nodup

/-! # Collections of documents

A collection holds its documents in the order of insertion, each under an identifier of its own.
Saving a document writes all of its fields: it takes the place of the stored document with its
identifier, or it is added.
-/

namespace Grouproxy.Collections

variable {κ α : Type}

/-- Leaving out elements without an image changes no image. -/
theorem filterMap_sublist {l l' : List κ} {g : κ → Option α} (h : l'.Sublist l) (hl : l.Nodup)
    (hg : ∀ k ∈ l, k ∉ l' → g k = none) : l.filterMap g = l'.filterMap g := by
  induction h with
  | slnil => rfl
  | @cons l' l k hsub ih =>
      obtain ⟨hk, hl⟩ := List.nodup_cons.mp hl
      have hnone : g k = none := hg k List.mem_cons_self fun hmem => hk (hsub.subset hmem)
      rw [List.filterMap_cons_none hnone, ih hl]
      exact fun j hj => hg j (List.mem_cons_of_mem _ hj)
  | @cons_cons l' l k hsub ih =>
      obtain ⟨hk, hl⟩ := List.nodup_cons.mp hl
      have hrest := ih hl fun j hj hnot => hg j (List.mem_cons_of_mem _ hj) fun hmem => by
        rcases List.mem_cons.mp hmem with rfl | hmem
        · exact hk hj
        · exact hnot hmem
      rw [List.filterMap_cons, List.filterMap_cons, hrest]

/-- The identifier a document is stored under. -/
class Document (κ : outParam Type) (α : Type) where
  key : α → κ

open Document

structure Collection (α : Type) [Document κ α] where
  docs : List α
  nodup : (docs.map key).Nodup

namespace Collection

variable [Document κ α]

instance : Membership α (Collection α) where
  mem c x := x ∈ c.docs

theorem mem_iff {c : Collection α} {x : α} : x ∈ c ↔ x ∈ c.docs := Iff.rfl

/-- The first document that qualifies. -/
def find? (c : Collection α) (p : α → Bool) : Option α := c.docs.find? p

def filter (c : Collection α) (p : α → Bool) : List α := c.docs.filter p

def any (c : Collection α) (p : α → Bool) : Bool := c.docs.any p

theorem eq_of_key_eq {c : Collection α} {x y : α} (hx : x ∈ c) (hy : y ∈ c)
    (h : key x = key y) : x = y :=
  List.inj_on_of_nodup_map c.nodup hx hy h

theorem mem_of_find? {c : Collection α} {p : α → Bool} {x : α} (h : c.find? p = some x) :
    x ∈ c ∧ p x = true :=
  ⟨List.mem_of_find?_eq_some h, List.find?_some h⟩

theorem mem_filter {c : Collection α} {p : α → Bool} {x : α} :
    x ∈ c.filter p ↔ x ∈ c ∧ p x = true :=
  List.mem_filter

variable [DecidableEq κ]

/-- The document with an identifier. -/
def get? (c : Collection α) (k : κ) : Option α := c.docs.find? fun x => decide (key x = k)

/-- What stands in the place of a stored document when `x` is saved. -/
def replaced (x y : α) : α := if key y = key x then x else y

theorem key_replaced (x y : α) : key (replaced x y) = key y := by
  rw [replaced]
  split
  · rename_i h
    exact h.symm
  · rfl

theorem map_key_replaced (x : α) (docs : List α) :
    (docs.map (replaced x)).map key = docs.map key := by
  rw [List.map_map]
  exact List.map_congr_left fun y _ => key_replaced x y

def save (c : Collection α) (x : α) : Collection α :=
  if h : key x ∈ c.docs.map key then
    ⟨c.docs.map (replaced x), by rw [map_key_replaced]; exact c.nodup⟩
  else
    ⟨c.docs ++ [x], by
      rw [List.map_append, List.map_singleton]
      exact c.nodup.append (List.nodup_singleton _) (by simpa using h)⟩

/-- What is left when the document with an identifier is deleted. -/
def delete (c : Collection α) (k : κ) : Collection α where
  docs := c.docs.filter fun x => decide (key x ≠ k)
  nodup := c.nodup.sublist (List.filter_sublist.map key)

/-! ## Membership and lookup -/

theorem get?_eq_some {c : Collection α} {k : κ} {x : α} :
    c.get? k = some x ↔ x ∈ c ∧ key x = k := by
  constructor
  · intro h
    exact ⟨List.mem_of_find?_eq_some h, by simpa using List.find?_some h⟩
  · rintro ⟨hx, rfl⟩
    cases hfound : c.get? (key x) with
    | none =>
        have hnone := List.find?_eq_none.mp hfound x hx
        simp at hnone
    | some y =>
        have hy : y ∈ c := List.mem_of_find?_eq_some hfound
        have hkey : key y = key x := by simpa using List.find?_some hfound
        rw [eq_of_key_eq hy hx hkey]

theorem get?_of_mem {c : Collection α} {x : α} (h : x ∈ c) : c.get? (key x) = some x :=
  get?_eq_some.mpr ⟨h, rfl⟩

/-! ## After a document is saved -/

theorem mem_save {c : Collection α} {x y : α} :
    y ∈ c.save x ↔ y = x ∨ (y ∈ c ∧ key y ≠ key x) := by
  rw [save]
  split
  · rename_i h
    obtain ⟨z, hz, hkey⟩ := List.mem_map.mp h
    simp only [mem_iff, List.mem_map]
    constructor
    · rintro ⟨w, hw, rfl⟩
      by_cases hwx : key w = key x
      · exact .inl (by rw [replaced, if_pos hwx])
      · rw [replaced, if_neg hwx]
        exact .inr ⟨hw, hwx⟩
    · rintro (rfl | ⟨hy, hyx⟩)
      · exact ⟨z, hz, by rw [replaced, if_pos hkey]⟩
      · exact ⟨y, hy, by rw [replaced, if_neg hyx]⟩
  · rename_i h
    simp only [mem_iff, List.mem_append, List.mem_singleton]
    constructor
    · rintro (hy | rfl)
      · exact .inr ⟨hy, fun hyx => h (hyx ▸ List.mem_map_of_mem hy)⟩
      · exact .inl rfl
    · rintro (rfl | ⟨hy, -⟩)
      · exact .inr rfl
      · exact .inl hy

theorem mem_save_self (c : Collection α) (x : α) : x ∈ c.save x := mem_save.mpr (.inl rfl)

@[simp] theorem get?_save_self (c : Collection α) (x : α) : (c.save x).get? (key x) = some x :=
  get?_of_mem (mem_save_self c x)

theorem get?_save_of_ne (c : Collection α) {x : α} {k : κ} (h : k ≠ key x) :
    (c.save x).get? k = c.get? k := by
  ext y
  simp only [get?_eq_some, mem_save]
  constructor
  · rintro ⟨rfl | ⟨hy, -⟩, hk⟩
    · exact absurd hk.symm h
    · exact ⟨hy, hk⟩
  · rintro ⟨hy, rfl⟩
    exact ⟨.inr ⟨hy, h⟩, rfl⟩

/-! ## After a document is deleted -/

theorem mem_delete {c : Collection α} {k : κ} {x : α} : x ∈ c.delete k ↔ x ∈ c ∧ key x ≠ k := by
  rw [mem_iff, delete, List.mem_filter, decide_eq_true_eq, mem_iff]

@[simp] theorem get?_delete_self (c : Collection α) (k : κ) : (c.delete k).get? k = none := by
  rw [get?, List.find?_eq_none]
  intro x hx
  simpa using (mem_delete.mp hx).2

theorem get?_delete_of_ne (c : Collection α) {k k' : κ} (h : k' ≠ k) :
    (c.delete k).get? k' = c.get? k' := by
  ext x
  rw [get?_eq_some, get?_eq_some, mem_delete]
  constructor
  · rintro ⟨⟨hx, -⟩, hk⟩
    exact ⟨hx, hk⟩
  · rintro ⟨hx, rfl⟩
    exact ⟨⟨hx, h⟩, rfl⟩

/-! ## A part of a collection -/

/-- A collection with some of the identifiers of another, in their order. -/
theorem docs_eq_filterMap {c d : Collection α}
    (h : (d.docs.map key).Sublist (c.docs.map key)) :
    d.docs = c.docs.filterMap fun x => d.get? (key x) := by
  have hnone : ∀ k ∈ c.docs.map key, k ∉ d.docs.map key → d.get? k = none := by
    intro k _ hk
    rw [get?, List.find?_eq_none]
    intro x hx heq
    exact hk (of_decide_eq_true heq ▸ List.mem_map_of_mem hx)
  have hself : ∀ x ∈ d.docs, d.get? (key x) = some x := fun x hx => get?_of_mem hx
  calc d.docs = d.docs.filterMap fun x => d.get? (key x) := by
        rw [List.filterMap_congr hself, List.filterMap_some]
    _ = (d.docs.map key).filterMap d.get? := by rw [List.filterMap_map]; rfl
    _ = (c.docs.map key).filterMap d.get? := (filterMap_sublist h c.nodup hnone).symm
    _ = c.docs.filterMap fun x => d.get? (key x) := by rw [List.filterMap_map]; rfl

/-- A test that does not tell the saved document from the stored one finds the same place. -/
theorem find?_save {c : Collection α} {p : α → Bool} {x y : α} (hy : y ∈ c)
    (hkey : key y = key x) (hp : p x = p y) :
    (c.save x).find? p = (c.find? p).map (replaced x) := by
  have hmem : key x ∈ c.docs.map key := hkey ▸ List.mem_map_of_mem hy
  rw [find?, save, dif_pos hmem, List.find?_map, find?]
  congr 1
  apply List.find?_congr
  intro z hz
  rw [Function.comp_apply, replaced]
  split
  · rename_i hzx
    rw [hp, eq_of_key_eq hz hy (hzx.trans hkey.symm)]
  · rfl

end Collection

end Grouproxy.Collections
