import Mathlib.Data.Fintype.Basic
import Grouproxy.Verification.Tasks.Steps
import Grouproxy.Verification.Tasks.Survival

/-! # Claimed tasks

Workers that claim tasks from the same queue, requests that cancel them, and workers that die. A
task that a worker holds is not stored as queued, and only a queued task is claimed.
-/

namespace Grouproxy.Tasks

open Programs Collections

/-! ## Taken tasks -/

/-- The task is stored, and not as queued. -/
def Taken (s : TaskStore) (id : String) : Prop :=
  ∃ task, s.tasks.get? id = some task ∧ task.status ≠ .queued

/-- Of the copies of workers it is known that they are not queued. -/
def claimRules : TaskRules where
  Inv _ := True
  Good task := task.status ≠ .queued
  Read _ := True
  Maintains := True

abbrev ClaimStep : TaskNote → TaskLabel → TaskStore → TaskStore → Prop := TaskStep claimRules

section Step

variable {g : TaskNote} {l : TaskLabel} {s s' : TaskStore} {task : Task} {id : String}

theorem Taken.congr (htasks : s'.tasks = s.tasks) (h : Taken s id) : Taken s' id := by
  obtain ⟨task, hfound, hstatus⟩ := h
  exact ⟨task, by rw [htasks]; exact hfound, hstatus⟩

/-- A saved task is taken unless it is queued; the others are as before. -/
theorem Taken.save (h : Taken s id) (htasks : s'.tasks = s.tasks.save task)
    (hstatus : task.id = id → task.status ≠ .queued) : Taken s' id := by
  obtain ⟨stored, hfound, hstored⟩ := h
  by_cases hid : id = task.id
  · refine ⟨task, ?_, hstatus hid.symm⟩
    rw [htasks, hid]
    exact Collection.get?_save_self s.tasks task
  · refine ⟨stored, ?_, hstored⟩
    rw [htasks, Collection.get?_save_of_ne s.tasks hid]
    exact hfound

theorem Taken.saved (h : Taken s id) (hsaved : Saved task s s')
    (hstatus : task.id = id → task.status ≠ .queued) : Taken s' id := by
  rw [Saved] at hsaved
  split at hsaved
  · exact h.congr hsaved
  · exact h.save hsaved hstatus

theorem cancel_not_queued (now : Nat) (task : Task) : (task.cancel now).status ≠ .queued := by
  rw [Task.cancel]
  split
  · intro h
    cases h
  · intro h
    cases h
  · assumption

theorem claimed_status {due : Task → Bool} (hdue : ∀ task, due task = true → task.status = .queued)
    (hfirst : firstTask? (s.tasks.filter due) = some task) :
    task ∈ s.tasks ∧ task.status = .queued :=
  have ⟨hmem, hqualifies⟩ := Collection.mem_filter.mp (mem_of_firstTask? hfirst)
  ⟨hmem, hdue task hqualifies⟩

/-- A taken task stays taken, unless the operation releases it or reclaims it. -/
theorem ClaimStep.taken (h : ClaimStep g l s s') (htaken : Taken s id) :
    Taken s' id ∨ (g.held = some id ∧ (taskNext g l s).held = none) ∨
      ∃ task, l = .save .reclaim task ∧ task.id = id := by
  cases h with
  | quiet hnext htasks => exact .inl (htaken.congr htasks)
  | @claim due claimed _ _ hdue hclaimed htasks =>
      cases hfirst : firstTask? (s.tasks.filter due) with
      | none =>
          rw [hfirst] at htasks
          exact .inl (htaken.congr htasks)
      | some task =>
          rw [hfirst] at htasks
          refine .inl (htaken.save htasks fun _ => ?_)
          rw [(hclaimed task).2.2]
          exact fun h => nomatch h
  | heartbeat hgood htasks => exact .inl (htaken.saved htasks fun _ => hgood)
  | @release writer copy task _ _ hwriter hgood hended htasks =>
      by_cases hid : task.id = id
      · rw [Saved] at htasks
        split at htasks
        · exact .inl (htaken.congr htasks)
        · rename_i hrefused
          refine .inr (.inl ⟨congrArg some (hended.id.symm.trans hid), ?_⟩)
          rcases hwriter with rfl | rfl
          · simp [taskNext, TaskNote.held, hrefused]
          · simp [taskNext, TaskNote.held, hrefused]
      · exact .inl (htaken.saved htasks fun hsame => absurd hsame hid)
  | cancel hread htasks => exact .inl (htaken.saved htasks fun _ => cancel_not_queued _ _)
  | @reclaim _ task _ _ _ htasks =>
      by_cases hid : task.id = id
      · exact .inr (.inr ⟨task, rfl, hid⟩)
      · exact .inl (htaken.saved htasks fun hsame => absurd hsame hid)
  | insert _ hnew htasks =>
      refine .inl (htaken.save htasks fun hid => ?_)
      obtain ⟨stored, hfound, -⟩ := htaken
      obtain ⟨hmem, hsame⟩ := Collection.get?_eq_some.mp hfound
      exact absurd (hsame.trans hid.symm) (hnew stored hmem)

/-- An operation takes hold of a queued task only. -/
theorem ClaimStep.held (h : ClaimStep g l s s') (hheld : (taskNext g l s).held = some id) :
    g.held = some id ∨ (¬ Taken s id ∧ Taken s' id) := by
  cases h with
  | quiet hnext htasks => exact .inl (hnext ▸ hheld)
  | @claim due claimed _ _ hdue hclaimed htasks =>
      cases hfirst : firstTask? (s.tasks.filter due) with
      | none =>
          rw [taskNext, hfirst] at hheld
          cases hheld
      | some task =>
          rw [taskNext, hfirst] at hheld
          rw [hfirst] at htasks
          have hsame : task.id = id := Option.some.inj hheld
          subst hsame
          obtain ⟨hmem, hqueued⟩ := claimed_status hdue hfirst
          refine .inr ⟨?_, claimed task, ?_, ?_⟩
          · rintro ⟨stored, hfound, hopen⟩
            have hsame : stored = task :=
              Option.some.inj (hfound.symm.trans (Collection.get?_of_mem hmem))
            exact hopen (hsame ▸ hqueued)
          · rw [htasks, ← (hclaimed task).1]
            exact Collection.get?_save_self s.tasks (claimed task)
          · rw [(hclaimed task).2.2]
            intro h
            cases h
  | heartbeat | reclaim | insert => exact .inl hheld
  | cancel => cases hheld
  | release hwriter hgood hended htasks =>
      rcases hwriter with rfl | rfl
      · rw [taskNext, TaskNote.held] at hheld
        split at hheld
        · exact .inl hheld
        · cases hheld
      · rw [taskNext, TaskNote.held] at hheld
        split at hheld
        · exact .inl hheld
        · cases hheld

end Step

/-! ## Any number of workers and cancellations -/

variable {ι : Type} [DecidableEq ι]

abbrev TaskPool (ι : Type) := Pool ι TaskLabel TaskStore TaskError Unit TaskNote

/-- A worker with the inputs of its iterations, which dies after a number of operations at the
latest, or a request that cancels a task. -/
inductive TaskParty where
  | worker (inputs : List RefreshInput) (operations : Nat)
  | cancel (taskId : String) (now : Nat)

def TaskParty.program : TaskParty → TaskHandler Unit
  | .worker inputs operations =>
    (runSubscriptionWorker .other (fun _ => false) (inputs.map refreshSteps)).upTo lostConnection
      operations
  | .cancel taskId now => do
    let _ ← cancelTask taskId now

def TaskParty.note : TaskParty → TaskNote
  | .worker _ _ => .worker none
  | .cancel _ _ => .canceller none

theorem TaskParty.note_held (party : TaskParty) : party.note.held = none := by
  cases party with
  | worker => rfl
  | cancel => rfl

/-- All parties of an index type, before any of them has moved. -/
def startParties (parties : ι → TaskParty) (s : TaskStore) : TaskPool ι :=
  { thread := fun i => (parties i).program
    note := fun i => (parties i).note
    store := s }

/-- The worker is running and has claimed the task, and has neither completed nor failed it
since. -/
def Holds (p : TaskPool ι) (i : ι) (id : String) : Prop :=
  (p.thread i).Running ∧ (p.note i).held = some id

instance (p : TaskPool ι) (i : ι) (id : String) : Decidable (Holds p i id) :=
  inferInstanceAs (Decidable (_ ∧ _))

def TaskLabel.reclaimed? : TaskLabel → Option String
  | .save .reclaim task => some task.id
  | _ => none

/-- No task is reclaimed that a worker holds. -/
def ReclaimsAbandoned (p : TaskPool ι) (i : ι) : Prop :=
  ∀ id ∈ (p.thread i).label?.bind TaskLabel.reclaimed?, ∀ j, ¬ Holds p j id

instance [Fintype ι] (p : TaskPool ι) (i : ι) : Decidable (ReclaimsAbandoned p i) :=
  inferInstanceAs (Decidable (∀ id ∈ (p.thread i).label?.bind TaskLabel.reclaimed?, ∀ _, _))

/-- What a worker holds is taken, and no two workers hold one task. -/
structure Exclusive (p : TaskPool ι) : Prop where
  taken : ∀ i id, Holds p i id → Taken p.store id
  alone : ∀ i j id, Holds p i id → Holds p j id → i = j

/-- What a party relies on: the task that it holds is stored, and not as queued. -/
abbrev RelyTaken (g : TaskNote) (s : TaskStore) : Prop :=
  claimRules.Inv s ∧ HeldGood claimRules.Good g s

theorem TaskParty.program_keeps (party : TaskParty) :
    party.program.Follows taskNext RelyTaken ClaimStep (fun _ _ => True) party.note := by
  cases party with
  | worker inputs operations =>
      exact (runSubscriptionWorker_keeps (fun _ _ _ h => h) trivial inputs).upTo
        (fun _ => trivial) (fun _ _ h => h) operations
  | cancel taskId now =>
      exact Prog.Follows.bind (cancelTask_keeps taskId now fun _ _ _ _ => trivial) (fun _ _ _ => .done trivial) fun _ _ _ => trivial

theorem exclusive_step {p : TaskPool ι} {i : ι} {l : TaskLabel} {w : TaskStore → TaskStore}
    {n : TaskStore → TaskHandler Unit} {k : TaskHandler Unit} (hthread : p.thread i = .op l w n k)
    (hallowed : ClaimStep (p.note i) l p.store (w p.store)) (hcond : ReclaimsAbandoned p i)
    (hp : Exclusive p) : Exclusive (p.step taskNext i) := by
  have hrunning : (p.thread i).Running := by
    rw [hthread]
    trivial
  have hstore : (p.step taskNext i).store = w p.store := Pool.step_store hthread
  have hself : (p.step taskNext i).note i = taskNext (p.note i) l p.store :=
    Pool.step_note_self hthread
  have hother : ∀ j id, j ≠ i → Holds (p.step taskNext i) j id → Holds p j id := by
    intro j id hj hholds
    rw [Holds, Pool.step_thread_of_ne p hj, Pool.step_note_of_ne p hj] at hholds
    exact hholds
  -- A worker that goes on holding a task does so through the operation.
  have hkept : ∀ j id, Holds p j id → (j = i → (taskNext (p.note i) l p.store).held ≠ none) →
      Taken (w p.store) id := by
    intro j id hholds hnext
    rcases ClaimStep.taken hallowed (hp.taken j id hholds) with htaken | ⟨hheld, hnone⟩ | ⟨task, rfl, rfl⟩
    · exact htaken
    · exact absurd hnone (hnext (hp.alone j i id hholds ⟨hrunning, hheld⟩))
    · exact absurd hholds (hcond task.id (by rw [hthread]; rfl) j)
  constructor
  · intro j id hholds
    rw [hstore]
    by_cases hj : j = i
    · subst hj
      have hnote : (taskNext (p.note j) l p.store).held = some id := hself ▸ hholds.2
      rcases ClaimStep.held hallowed hnote with hheld | ⟨-, htaken⟩
      · exact hkept j id ⟨hrunning, hheld⟩ fun _ hnone => by rw [hnone] at hnote; cases hnote
      · exact htaken
    · exact hkept j id (hother j id hj hholds) fun hsame => absurd hsame hj
  · -- Only a task that no worker holds is claimed.
    have hclaimed : ∀ j id, j ≠ i → Holds (p.step taskNext i) i id →
        ¬ Holds (p.step taskNext i) j id := by
      intro j id hj hi hholds
      have hbefore := hother j id hj hholds
      rcases ClaimStep.held hallowed (hself ▸ hi.2) with hheld | ⟨hfree, -⟩
      · exact hj (hp.alone j i id hbefore ⟨hrunning, hheld⟩)
      · exact hfree (hp.taken j id hbefore)
    intro j j' id hj hj'
    by_cases hji : j = i
    · by_cases hji' : j' = i
      · rw [hji, hji']
      · exact absurd hj' (hclaimed j' id hji' (hji ▸ hj))
    · by_cases hji' : j' = i
      · exact absurd hj (hclaimed j id hji (hji' ▸ hj'))
      · exact hp.alone j j' id (hother j id hji hj) (hother j' id hji' hj')

/-- Any number of workers and cancellations, interleaved at every operation, where reclaims leave
the tasks alone that a worker holds: no two workers hold one task. -/
theorem claims_exclusive (parties : ι → TaskParty) (s : TaskStore) (schedule : List ι)
    (hmeets : (startParties parties s).Meets taskNext ReclaimsAbandoned schedule) :
    ∀ i j id, Holds ((startParties parties s).run taskNext schedule) i id →
      Holds ((startParties parties s).run taskNext schedule) j id → i = j := by
  have hstart : Exclusive (startParties parties s) :=
    ⟨fun i id h => absurd ((parties i).note_held.symm.trans h.2) (by simp),
      fun i _ id h => absurd ((parties i).note_held.symm.trans h.2) (by simp)⟩
  have hrun := Pool.invariant_run taskNext RelyTaken ClaimStep (fun _ _ => True) Exclusive
    (fun p i hp hrunning => ⟨trivial, fun id hid => hp.taken i id ⟨hrunning, hid⟩⟩)
    (fun _ _ _ _ _ _ _ hthread hallowed hcond hp => exclusive_step hthread hallowed hcond hp)
    (fun i => (parties i).program_keeps) hmeets hstart
  exact hrun.1.alone

/-- Two workers and a cancellation of the task that is in the queue. -/
def sampleParties : Fin 3 → TaskParty
  | 0 => .worker [sampleInput (.ok ⟨"v", "h", true, true⟩)] 20
  | 1 => .worker [sampleInput (.ok ⟨"v", "h", true, true⟩)] 20
  | 2 => .cancel "t" 3

/-- The worker that moved first holds the task, and the other does not. -/
theorem claims_exclusive_sample :
    Holds ((startParties sampleParties queuedStore).run taskNext
        [0, 1, 0, 1, 0, 1, 2, 0, 1, 2, 0, 0]) 0 "1" ∧
      ∀ j, Holds ((startParties sampleParties queuedStore).run taskNext
        [0, 1, 0, 1, 0, 1, 2, 0, 1, 2, 0, 0]) j "1" → 0 = j := by
  have hholds : Holds ((startParties sampleParties queuedStore).run taskNext
      [0, 1, 0, 1, 0, 1, 2, 0, 1, 2, 0, 0]) 0 "1" := by decide +kernel
  exact ⟨hholds, fun j hj =>
    claims_exclusive sampleParties queuedStore _ (by decide +kernel) 0 j "1" hholds hj⟩

end Grouproxy.Tasks
