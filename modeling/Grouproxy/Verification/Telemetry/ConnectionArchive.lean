import Mathlib.Algebra.Order.Group.Unbundled.Int
import Grouproxy.Model.ConnectionArchive

/-! # What the archive keeps

A snapshot is kept while it is in the collection or in the archive file of its day. Two of the
worker's steps take snapshots away: the file of a day replaces its predecessor, and the deletion
takes everything that the collection has of the day. The exact conditions under which they lose
nothing are followed through every run.
-/

namespace Grouproxy.ConnectionArchive

open Transitions

/-! ## Days -/

theorem dayLength_pos : 0 < dayLength := by decide

/-- The queries of a day select the snapshots of the day. -/
theorem inDay_iff {day : Int} {document : ConnectionSnapshot} :
    inDay day document = true ↔ utcDay document.sampledAt = day := by
  rw [utcDay, Int.ediv_eq_iff_of_pos dayLength_pos]
  change (decide (day * dayLength ≤ document.sampledAt) &&
    decide (document.sampledAt < day * dayLength + dayLength)) = true ↔ _
  rw [Bool.and_eq_true, decide_eq_true_iff, decide_eq_true_iff]

/-! ## Kept snapshots -/

def World.Keeps (w : World) (document : ConnectionSnapshot) : Prop :=
  document ∈ w.collection ∨
    ∃ file, w.files (utcDay document.sampledAt) = some file ∧ document ∈ file

/-- Every snapshot that was inserted is in the collection or in the file of its day. -/
def World.Kept (w : World) : Prop := ∀ document ∈ w.inserted, w.Keeps document

/-- When a step loses nothing: all that the replaced file holds is still in the collection, and all
that is deleted was returned by the cursor of the export. -/
def Safe (w : World) : Event → Prop
  | .replace =>
    match w.phase with
    | .exported _ targetDay _ _ =>
      ∀ file, w.files targetDay = some file → ∀ document ∈ file, document ∈ w.collection
    | _ => True
  | .delete =>
    match w.phase with
    | .replaced _ targetDay _ output =>
      ∀ document ∈ w.collection, utcDay document.sampledAt = targetDay → document ∈ output
    | _ => True
  | _ => True

/-! ## What holds in every state -/

/-- What the worker holds in hand. -/
def Phase.Sound (phase : Phase) (w : World) : Prop :=
  match phase with
  | .exporting _ targetDay _ opened =>
    ∀ document ∈ opened, document ∈ w.collection ∧ utcDay document.sampledAt = targetDay
  | .exported _ targetDay _ output =>
    ∀ document ∈ output, document ∈ w.collection ∧ utcDay document.sampledAt = targetDay
  | .replaced _ targetDay _ output => w.files targetDay = some output
  | _ => True

structure Sound (w : World) : Prop where
  collection : ∀ document ∈ w.collection, document ∈ w.inserted
  files : ∀ day file, w.files day = some file →
    ∀ document ∈ file, document ∈ w.inserted ∧ utcDay document.sampledAt = day
  phase : w.phase.Sound w

theorem sound_initial (clock : Int) : Sound (.initial clock) where
  collection := by simp [World.initial]
  files := by simp [World.initial]
  phase := trivial

/-- A larger collection supports the same phase. -/
theorem Phase.Sound.mono {phase : Phase} {w w' : World} (h : phase.Sound w)
    (hcollection : ∀ document ∈ w.collection, document ∈ w'.collection) (hfiles : w'.files = w.files) :
    phase.Sound w' := by
  cases phase with
  | idle => trivial
  | listing cutoffDay => trivial
  | archiving cutoffDay targetDays => trivial
  | exporting cutoffDay targetDay targetDays opened =>
      intro document hdocument
      exact ⟨hcollection document (h document hdocument).1, (h document hdocument).2⟩
  | exported cutoffDay targetDay targetDays output =>
      intro document hdocument
      exact ⟨hcollection document (h document hdocument).1, (h document hdocument).2⟩
  | replaced cutoffDay targetDay targetDays output =>
      rw [Phase.Sound, hfiles]
      exact h

theorem mem_deleteDay {w : World} {targetDay : Int} {document : ConnectionSnapshot} :
    document ∈ w.deleteDay targetDay ↔
      document ∈ w.collection ∧ utcDay document.sampledAt ≠ targetDay := by
  simp [World.deleteDay, ← inDay_iff]

/-- What the steps of the worker and the insertions do, with what the worker knows. -/
inductive Moves (w : World) : Event → World → Prop
  | insert (documents : List ConnectionSnapshot) : Moves w (.insert documents)
      { w with collection := w.collection ++ documents, inserted := w.inserted ++ documents }
  | note (e : Event) (clock : Int) (lastArchivedDay : Option Int) (phase : Phase)
      (supported : phase.Sound w) (harmless : Safe w e) : Moves w e
      { w with clock := clock, lastArchivedDay := lastArchivedDay, phase := phase }
  | replace (cutoffDay targetDay : Int) (targetDays : List Int) (output : List ConnectionSnapshot)
      (here : w.phase = .exported cutoffDay targetDay targetDays output) : Moves w .replace
      { w with
        files := Function.update w.files targetDay (some output)
        phase := .replaced cutoffDay targetDay targetDays output }
  | delete (cutoffDay targetDay : Int) (targetDays : List Int) (output : List ConnectionSnapshot)
      (here : w.phase = .replaced cutoffDay targetDay targetDays output) : Moves w .delete
      { w with collection := w.deleteDay targetDay, phase := .archiving cutoffDay targetDays }

theorem moves_of_step {w w' : World} {e : Event} (h : step w e = some w') : Moves w e w' := by
  cases e with
  | insert documents =>
      cases h
      exact .insert documents
  | runOnce now =>
      rw [step] at h
      split at h
      · split at h
        · rename_i hidle _
          cases h
          exact .note _ now w.lastArchivedDay w.phase (by rw [hidle.1]; trivial) trivial
        · cases h
          exact .note _ now w.lastArchivedDay _ trivial trivial
      · cases h
  | list =>
      rw [step] at h
      split at h
      · cases h
        exact .note _ w.clock w.lastArchivedDay _ trivial trivial
      · cases h
  | openCursor =>
      rw [step] at h
      split at h
      · cases h
        refine .note _ w.clock w.lastArchivedDay _ ?_ trivial
        intro document hdocument
        obtain ⟨hmem, hday⟩ := List.mem_filter.mp hdocument
        exact ⟨hmem, inDay_iff.mp hday⟩
      · cases h
  | readCursor output =>
      rw [step] at h
      split at h
      · split at h
        · rename_i hreturns
          cases h
          refine .note _ w.clock w.lastArchivedDay _ ?_ trivial
          intro document hdocument
          obtain ⟨hmem, hday⟩ := hreturns.2.1 document hdocument
          exact ⟨hmem, inDay_iff.mp hday⟩
        · cases h
      · cases h
  | replace =>
      rw [step] at h
      split at h
      · rename_i cutoffDay targetDay targetDays output here
        cases h
        exact .replace cutoffDay targetDay targetDays output here
      · cases h
  | delete =>
      rw [step] at h
      split at h
      · rename_i cutoffDay targetDay targetDays output here
        cases h
        exact .delete cutoffDay targetDay targetDays output here
      · cases h
  | finish =>
      rw [step] at h
      split at h
      · cases h
        exact .note _ w.clock _ _ trivial trivial
      · cases h
  | fail =>
      rw [step] at h
      split at h
      · cases h
      · cases h
        exact .note _ w.clock w.lastArchivedDay _ trivial trivial
  | restart =>
      cases h
      exact .note _ w.clock none _ trivial trivial

theorem Sound.step {w w' : World} {e : Event} (hstep : step w e = some w') (h : Sound w) :
    Sound w' := by
  cases moves_of_step hstep with
  | insert documents =>
      constructor
      · intro document hdocument
        rcases List.mem_append.mp hdocument with hmem | hmem
        · exact List.mem_append_left _ (h.collection document hmem)
        · exact List.mem_append_right _ hmem
      · intro day file hfile document hdocument
        obtain ⟨hmem, hday⟩ := h.files day file hfile document hdocument
        exact ⟨List.mem_append_left _ hmem, hday⟩
      · exact h.phase.mono (fun _ hmem => List.mem_append_left _ hmem) rfl
  | note e clock lastArchivedDay phase supported harmless =>
      exact ⟨h.collection, h.files, supported.mono (fun _ hmem => hmem) rfl⟩
  | replace cutoffDay targetDay targetDays output here =>
      have hout := h.phase
      rw [here] at hout
      refine ⟨h.collection, ?_, Function.update_self _ _ _⟩
      intro day file hfile document hdocument
      dsimp only at hfile
      by_cases hday : day = targetDay
      · subst hday
        rw [Function.update_self, Option.some.injEq] at hfile
        subst hfile
        obtain ⟨hmem, hsame⟩ := hout document hdocument
        exact ⟨h.collection document hmem, hsame⟩
      · rw [Function.update_of_ne hday] at hfile
        exact h.files day file hfile document hdocument
  | delete cutoffDay targetDay targetDays output here =>
      refine ⟨?_, h.files, trivial⟩
      intro document hdocument
      exact h.collection document (mem_deleteDay.mp hdocument).1

/-! ## One step -/

theorem kept_replace_iff {w : World} (h : Sound w) (hkept : w.Kept) {cutoffDay targetDay : Int}
    {targetDays : List Int} {output : List ConnectionSnapshot}
    (here : w.phase = .exported cutoffDay targetDay targetDays output) :
    World.Kept { w with
      files := Function.update w.files targetDay (some output)
      phase := .replaced cutoffDay targetDay targetDays output } ↔ Safe w .replace := by
  have hout := h.phase
  rw [here] at hout
  rw [Safe, here]
  constructor
  · intro hkept' file hfile document hdocument
    obtain ⟨hmem, hday⟩ := h.files targetDay file hfile document hdocument
    rcases hkept' document hmem with hthere | ⟨file', hfile', hthere⟩
    · exact hthere
    · simp only [hday, Function.update_self, Option.some.injEq] at hfile'
      subst hfile'
      exact (hout document hthere).1
  · intro hsafe document hdocument
    rcases hkept document hdocument with hthere | ⟨file, hfile, hthere⟩
    · exact .inl hthere
    · by_cases hday : utcDay document.sampledAt = targetDay
      · rw [hday] at hfile
        exact .inl (hsafe file hfile document hthere)
      · refine .inr ⟨file, ?_, hthere⟩
        dsimp only
        rw [Function.update_of_ne hday]
        exact hfile

theorem kept_delete_iff {w : World} (h : Sound w) (hkept : w.Kept) {cutoffDay targetDay : Int}
    {targetDays : List Int} {output : List ConnectionSnapshot}
    (here : w.phase = .replaced cutoffDay targetDay targetDays output) :
    World.Kept { w with
      collection := w.deleteDay targetDay, phase := .archiving cutoffDay targetDays } ↔
      Safe w .delete := by
  have hout := h.phase
  rw [here, Phase.Sound] at hout
  rw [Safe, here]
  constructor
  · intro hkept' document hdocument hday
    rcases hkept' document (h.collection document hdocument) with hthere | ⟨file, hfile, hthere⟩
    · exact absurd hday (mem_deleteDay.mp hthere).2
    · rw [hday] at hfile
      rw [hout, Option.some.injEq] at hfile
      subst hfile
      exact hthere
  · intro hsafe document hdocument
    rcases hkept document hdocument with hthere | hfile
    · by_cases hday : utcDay document.sampledAt = targetDay
      · refine .inr ⟨output, ?_, hsafe document hthere hday⟩
        rw [hday]
        exact hout
      · exact .inl (mem_deleteDay.mpr ⟨hthere, hday⟩)
    · exact .inr hfile

/-- A step from a state that keeps everything keeps everything exactly if it is safe. -/
theorem kept_step_iff {w w' : World} {e : Event} (hstep : step w e = some w') (h : Sound w)
    (hkept : w.Kept) : w'.Kept ↔ Safe w e := by
  cases moves_of_step hstep with
  | insert documents =>
      refine iff_of_true ?_ trivial
      intro document hdocument
      rcases List.mem_append.mp hdocument with hmem | hmem
      · rcases hkept document hmem with hthere | hfile
        · exact .inl (List.mem_append_left _ hthere)
        · exact .inr hfile
      · exact .inl (List.mem_append_right _ hmem)
  | note e clock lastArchivedDay phase supported harmless => exact iff_of_true hkept harmless
  | replace cutoffDay targetDay targetDays output here => exact kept_replace_iff h hkept here
  | delete cutoffDay targetDay targetDays output here => exact kept_delete_iff h hkept here

/-! ## Every run -/

/-- Every state of a run keeps all snapshots exactly if every step of the run is safe. -/
theorem history_kept_iff {clock : Int} {events : List Event} {w : World}
    (hrun : run step (.initial clock) events = some w) :
    Always step World.Kept (.initial clock) events ↔ Meets step Safe (.initial clock) events :=
  always_iff_meets (fun _ _ _ hstep h => h.step hstep)
    (fun _ _ _ hstep h hkept => kept_step_iff hstep h hkept) hrun (sound_initial clock)
    (by simp [World.Kept, World.initial])

/-- A snapshot of the first day. -/
def earlySnapshot : ConnectionSnapshot :=
  ⟨"snapshot-1", "north-a", "site-north", "batch-1", 3600000, 4, 100, 200, 10, 20, true⟩

/-- The worker archives the first day, a week later. -/
def firstArchive : List Event :=
  [.insert [earlySnapshot], .runOnce (7 * dayLength), .list, .openCursor,
    .readCursor [earlySnapshot], .replace, .delete, .finish]

theorem history_kept_iff_firstArchive :
    ∃ w, run step (.initial 0) firstArchive = some w ∧
      (Always step World.Kept (.initial 0) firstArchive ↔
        Meets step Safe (.initial 0) firstArchive) :=
  ⟨_, rfl, history_kept_iff rfl⟩

/-- The process is restarted on the same day, and archives the day again. -/
def secondArchive : List Event :=
  firstArchive ++ [.restart, .runOnce (7 * dayLength), .list, .openCursor, .readCursor [], .replace,
    .delete, .finish]

/-- The second archive is empty, and takes the place of the first. -/
theorem history_lost_on_restart :
    ∃ w, run step (.initial 0) secondArchive = some w ∧ earlySnapshot ∈ w.inserted ∧
      ¬ w.Keeps earlySnapshot := by
  refine ⟨_, rfl, List.mem_singleton_self _, ?_⟩
  rintro (hthere | ⟨file, hfile, hthere⟩)
  · cases hthere
  · cases hfile
    cases hthere

end Grouproxy.ConnectionArchive
