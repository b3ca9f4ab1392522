import Mathlib.Data.List.Chain

/-! # Hash chains

Events that store their own digest and that of the event before them. Such a chain can be extended
at its end and cut at its start; a changed event and a gap break it.
-/

namespace Grouproxy.Chains

variable {α η : Type} {previous stored digest : α → η} {events : List α}

/-- Every event follows the one before it and stores its own digest. The first event may follow an
event that is no longer there. -/
structure Intact (previous stored digest : α → η) (events : List α) : Prop where
  linked : events.IsChain fun a b => previous b = stored a
  hashed : ∀ a ∈ events, digest a = stored a

theorem intact_nil : Intact previous stored digest [] where
  linked := List.isChain_nil
  hashed := by simp

theorem intact_cons_iff {a : α} : Intact previous stored digest (a :: events) ↔
    digest a = stored a ∧ (∀ b ∈ events.head?, previous b = stored a) ∧
      Intact previous stored digest events := by
  constructor
  · intro h
    have hlinked := List.isChain_cons.mp h.linked
    exact ⟨h.hashed a List.mem_cons_self, hlinked.1, hlinked.2,
      fun b hb => h.hashed b (List.mem_cons_of_mem _ hb)⟩
  · rintro ⟨hdigest, hnext, h⟩
    exact ⟨List.isChain_cons.mpr ⟨hnext, h.linked⟩, List.forall_mem_cons.mpr ⟨hdigest, h.hashed⟩⟩

/-- An event that follows the last one extends the chain. -/
theorem Intact.append (h : Intact previous stored digest events) {event : α}
    (hlast : ∀ a ∈ events.getLast?, previous event = stored a)
    (hdigest : digest event = stored event) :
    Intact previous stored digest (events ++ [event]) where
  linked := by
    rw [List.isChain_append]
    refine ⟨h.linked, List.isChain_singleton _, ?_⟩
    intro a ha b hb
    cases hb
    exact hlast a ha
  hashed := by
    intro a ha
    rcases List.mem_append.mp ha with hmem | hmem
    · exact h.hashed a hmem
    · rw [List.mem_singleton.mp hmem]
      exact hdigest

theorem Intact.drop (h : Intact previous stored digest events) (count : Nat) :
    Intact previous stored digest (events.drop count) where
  linked := h.linked.drop count
  hashed := fun a ha => h.hashed a (List.mem_of_mem_drop ha)

/-- An event that keeps the digest of another one breaks every chain. -/
theorem not_intact_of_mem {event : α} (hmem : event ∈ events)
    (hchanged : digest event ≠ stored event) : ¬ Intact previous stored digest events :=
  fun h => hchanged (h.hashed event hmem)

/-- A gap breaks the chain, if the digests are distinct. -/
theorem Intact.not_intact_of_gap {front back : List α} {a removed b : α}
    (h : Intact previous stored digest (front ++ a :: removed :: b :: back))
    (hne : stored removed ≠ stored a) :
    ¬ Intact previous stored digest (front ++ a :: b :: back) := by
  intro hgap
  have hrest := (List.isChain_append.mp h.linked).2.1
  rw [List.isChain_cons_cons, List.isChain_cons_cons] at hrest
  have hlink := (List.isChain_append.mp hgap.linked).2.1
  rw [List.isChain_cons_cons] at hlink
  exact hne (hrest.2.1.symm.trans hlink.1)

end Grouproxy.Chains
