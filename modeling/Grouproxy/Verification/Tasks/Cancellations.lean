import Grouproxy.Verification.Tasks.Steps
import Grouproxy.Verification.Tasks.Survival

/-! # Cancelled tasks

One worker and one request that cancels a task, interleaved at every operation. Both save copies
of the task that they have read before. A cancellation is kept as long as no save of the worker
takes the request back, and the cancellation saves its copy only while the task is in progress
exactly if it was when the copy was read.
-/

namespace Grouproxy.Tasks

open Programs Collections

/-! ## The parties -/

/-- One task is claimed and executed, if there is one. -/
def workTask (input : RefreshInput) : TaskHandler Unit := do
  match ← (refreshSteps input).claimDueTask with
  | none => return ()
  | some task => do
    (refreshSteps input).execute task
    return ()

def workTasks : List RefreshInput → TaskHandler Unit
  | [] => return ()
  | input :: rest => do
    workTask input
    workTasks rest

inductive CancelParty where
  | worker
  | canceller
  deriving DecidableEq

abbrev CancelPool := Pool CancelParty TaskLabel TaskStore TaskError (Option TaskStatus) TaskNote

/-- Neither has moved. -/
def startCancellation (inputs : List RefreshInput) (taskId : String) (now : Nat) (s : TaskStore) :
    CancelPool where
  thread
    | .worker => do
      workTasks inputs
      return none
    | .canceller => do
      let status ← cancelTask taskId now
      return some status
  note
    | .worker => .worker none
    | .canceller => .canceller none
  store := s

/-- A worker leaves a stored request to cancel in place. A cancellation finds the task in progress
exactly if it has read it so. -/
def TaskLabel.KeepsCancel (s : TaskStore) : TaskLabel → Prop
  | .save (.cancel found) task =>
    ∀ stored ∈ s.tasks.get? task.id, stored.status.inProgress = found.inProgress
  | .save _ task =>
    ∀ stored ∈ s.tasks.get? task.id, stored.cancelRequested = true → task.cancelRequested = true
  | _ => True

instance (s : TaskStore) : (l : TaskLabel) → Decidable (l.KeepsCancel s)
  | .save (.cancel found) task =>
    inferInstanceAs (Decidable
      (∀ stored ∈ s.tasks.get? task.id, stored.status.inProgress = found.inProgress))
  | .save .heartbeat task | .save .complete task | .save .fail task | .save .reclaim task
  | .save .acknowledge task =>
    inferInstanceAs (Decidable (∀ stored ∈ s.tasks.get? task.id,
      stored.cancelRequested = true → task.cancelRequested = true))
  | .other | .find _ | .claim _ | .fetch _ | .insert _ | .refresh _ => isTrue trivial

def CancelPool.KeepsCancel (p : CancelPool) (i : CancelParty) : Prop :=
  ∀ l ∈ (p.thread i).label?, l.KeepsCancel p.store

instance (p : CancelPool) (i : CancelParty) : Decidable (p.KeepsCancel i) :=
  inferInstanceAs (Decidable (∀ l ∈ (p.thread i).label?, l.KeepsCancel p.store))

/-- The answer of the cancellation, once it has returned. -/
def CancelPool.answer? (p : CancelPool) : Option TaskStatus :=
  match p.thread .canceller with
  | .done (.ok status) => status
  | _ => none

/-- What the answer promises. The worker is executing the task as long as it holds it, and what is
stored then is what the task ends with. -/
def CancelPool.Kept (p : CancelPool) (id : String) : Prop :=
  (p.answer? = some .cancelled → (p.note .worker).held ≠ some id) ∧
    (p.answer? = some .cancelRequested → (p.note .worker).held = some id ∨
      ∃ task ∈ p.store.tasks.get? id, task.status = .cancelled)

instance (p : CancelPool) (id : String) : Decidable (p.Kept id) :=
  inferInstanceAs (Decidable (_ ∧ (_ → _ ∨ ∃ task ∈ p.store.tasks.get? id, task.status = .cancelled)))

/-! ## What both know -/

section Known

variable {taskId id : String} {held held' : Option String} {answered answered' : Option TaskStatus}
  {s s' : TaskStore} {task copy : Task} {l : TaskLabel}

/-- Only one document has the identifier of the task, and its status agrees with its flag. -/
structure Known (taskId id : String) (task : Task) : Prop where
  unique : task.taskId = taskId → task.id = id
  flagged : task.id = id → task.status = .cancelRequested → task.cancelRequested = true

/-- What holds of the stored task, by what the worker holds and the cancellation has saved. -/
structure Answered (id : String) (held : Option String) (answered : Option TaskStatus)
    (task : Task) : Prop where
  busy : task.status.inProgress = true → held = some id
  cancelled : answered = some .cancelled → task.status = .cancelled
  requested : answered = some .cancelRequested → task.status = .cancelled ∨
    (task.status.inProgress = true ∧ task.cancelRequested = true)

structure CancelInv (taskId id : String) (held : Option String) (answered : Option TaskStatus)
    (s : TaskStore) : Prop where
  known : ∀ task ∈ s.tasks, Known taskId id task
  inHand : ∀ id', held = some id' →
    ∃ task, s.tasks.get? id' = some task ∧ task.status.inProgress = true
  target : ∃ task, s.tasks.get? id = some task ∧ Answered id held answered task

def cancelRules (taskId id : String) : TaskRules where
  Inv s := ∀ task ∈ s.tasks, Known taskId id task
  Good task := Known taskId id task ∧ task.status.inProgress = true
  Read task := Known taskId id task ∧ task.id = id
  Maintains := False

theorem Known.of_idle (hid : task.id = copy.id) (htaskId : task.taskId = copy.taskId)
    (hstatus : task.status ≠ .cancelRequested) (h : Known taskId id copy) :
    Known taskId id task :=
  ⟨fun hsame => hid.trans (h.unique (htaskId.symm.trans hsame)), fun _ hreq => absurd hreq hstatus⟩

theorem CancelInv.congr (h : CancelInv taskId id held answered s) (htasks : s'.tasks = s.tasks) :
    CancelInv taskId id held answered s' := by
  obtain ⟨hknown, hheld, htarget⟩ := h
  rw [← htasks] at hknown hheld htarget
  exact ⟨hknown, hheld, htarget⟩

/-- A copy is saved. -/
theorem CancelInv.save (h : CancelInv taskId id held answered s)
    (htasks : s'.tasks = s.tasks.save task) (hknown : Known taskId id task)
    (hheld : ∀ id', held' = some id' → id' ≠ task.id → held = some id')
    (hself : held' = some task.id → task.status.inProgress = true)
    (htarget : task.id = id → Answered id held' answered' task)
    (hother : task.id ≠ id → ∀ stored, Answered id held answered stored →
      Answered id held' answered' stored) :
    CancelInv taskId id held' answered' s' := by
  constructor
  · intro other hmem
    rw [htasks] at hmem
    rcases Collection.mem_save.mp hmem with rfl | ⟨hold, -⟩
    · exact hknown
    · exact h.known other hold
  · intro id' hid'
    rw [htasks]
    by_cases hsame : id' = task.id
    · subst hsame
      exact ⟨task, Collection.get?_save_self s.tasks task, hself hid'⟩
    · obtain ⟨stored, hfound, hstatus⟩ := h.inHand id' (hheld id' hid' hsame)
      refine ⟨stored, ?_, hstatus⟩
      rw [Collection.get?_save_of_ne s.tasks hsame]
      exact hfound
  · rw [htasks]
    by_cases hsame : task.id = id
    · subst hsame
      exact ⟨task, Collection.get?_save_self s.tasks task, htarget rfl⟩
    · obtain ⟨stored, hfound, hanswered⟩ := h.target
      refine ⟨stored, ?_, hother hsame stored hanswered⟩
      rw [Collection.get?_save_of_ne s.tasks fun heq => hsame heq.symm]
      exact hfound

/-- The stored task that the worker holds: it is in progress, so the cancellation has at most
asked for it to end. -/
theorem CancelInv.stored (h : CancelInv taskId id (some id) answered s) :
    ∃ task, s.tasks.get? id = some task ∧ answered ≠ some .cancelled ∧
      (answered = some .cancelRequested → task.cancelRequested = true) := by
  obtain ⟨task, hfound, hanswered⟩ := h.target
  obtain ⟨same, hsame, hstatus⟩ := h.inHand id rfl
  cases hfound.symm.trans hsame
  refine ⟨task, hfound, fun hcancelled => ?_, fun hrequested => ?_⟩
  · rw [hanswered.cancelled hcancelled] at hstatus
    cases hstatus
  · rcases hanswered.requested hrequested with hcancelled | ⟨-, hflag⟩
    · rw [hcancelled] at hstatus
      cases hstatus
    · exact hflag

/-! ## Steps of the worker -/

theorem CancelInv.heartbeat (h : CancelInv taskId id (some task.id) answered s)
    (hgood : (cancelRules taskId id).Good task) (htasks : Saved task s s')
    (hkeeps : TaskLabel.KeepsCancel s (.save .heartbeat task)) :
    CancelInv taskId id (some task.id) answered s' := by
  rw [Saved] at htasks
  split at htasks
  · exact h.congr htasks
  · refine h.save htasks hgood.1 (fun _ hid _ => hid) (fun _ => hgood.2) (fun hid => ?_)
      fun _ _ hanswered => hanswered
    subst hid
    obtain ⟨stored, hfound, hopen, hflag⟩ := h.stored
    exact ⟨fun _ => rfl, fun hcancelled => absurd hcancelled hopen,
      fun hrequested => .inr ⟨hgood.2, hkeeps stored hfound (hflag hrequested)⟩⟩

theorem CancelInv.release {writer : TaskWriter} (hwriter : writer = .complete ∨ writer = .fail)
    (h : CancelInv taskId id (some copy.id) answered s)
    (hgood : (cancelRules taskId id).Good copy) (hended : Ended copy task)
    (htasks : Saved task s s') (hkeeps : TaskLabel.KeepsCancel s (.save writer task)) :
    CancelInv taskId id (if s.refuses task then some copy.id else none) answered s' := by
  rw [Saved] at htasks
  split at htasks
  · rename_i hrefused
    rw [if_pos hrefused]
    exact h.congr htasks
  · rename_i hrefused
    rw [if_neg hrefused]
    have hidle : task.status ≠ .cancelRequested := fun hreq => by
      have hstatus := hended.idle
      rw [hreq] at hstatus
      cases hstatus
    refine h.save htasks (.of_idle hended.id hended.taskId hidle hgood.1) (fun _ h => by cases h)
      (fun h => by cases h) (fun hid => ?_) fun hid stored hanswered => ?_
    · have hcopy : copy.id = id := hended.id.symm.trans hid
      rw [hcopy] at h
      obtain ⟨stored, hfound, hopen, hflag⟩ := h.stored
      rw [← hid] at hfound
      refine ⟨fun hbusy => absurd (hended.idle.symm.trans hbusy) (by simp),
        fun hcancelled => absurd hcancelled hopen, fun hrequested => .inl (hended.cancelled ?_)⟩
      rcases hwriter with rfl | rfl
      · exact hkeeps stored hfound (hflag hrequested)
      · exact hkeeps stored hfound (hflag hrequested)
    · refine ⟨fun hbusy => ?_, hanswered.cancelled, hanswered.requested⟩
      exact absurd (hended.id.trans (Option.some.inj (hanswered.busy hbusy))) hid

/-- A queued task is claimed, which no cancellation has saved as cancelled or to be cancelled. -/
theorem CancelInv.claim {due : Task → Bool} {claimed : Task → Task}
    (h : CancelInv taskId id none answered s)
    (hdue : ∀ task, due task = true → task.status = .queued)
    (hclaimed : ∀ task, (claimed task).id = task.id ∧ (claimed task).taskId = task.taskId ∧
      (claimed task).status = .running)
    (htasks : s'.tasks = match firstTask? (s.tasks.filter due) with
      | none => s.tasks
      | some task => s.tasks.save (claimed task)) :
    CancelInv taskId id ((firstTask? (s.tasks.filter due)).map Task.id) answered s' := by
  cases hfirst : firstTask? (s.tasks.filter due) with
  | none =>
      rw [hfirst] at htasks
      exact h.congr htasks
  | some task =>
      rw [hfirst] at htasks
      obtain ⟨hmem, hqualifies⟩ := Collection.mem_filter.mp (mem_of_firstTask? hfirst)
      have hqueued : task.status = .queued := hdue task hqualifies
      obtain ⟨hid, htaskId, hstatus⟩ := hclaimed task
      have hbusy : (claimed task).status.inProgress = true := by
        rw [hstatus]
        rfl
      rw [Option.map_some, ← hid]
      refine h.save htasks (.of_idle hid htaskId (by simp [hstatus]) (h.known task hmem))
        (fun _ heq hne => absurd (Option.some.inj heq).symm hne) (fun _ => hbusy) (fun hsame => ?_)
        fun _ stored hanswered => ?_
      · obtain ⟨stored, hfound, hanswered⟩ := h.target
        have hstored : stored.status = .queued := by
          rw [← hsame, hid] at hfound
          cases hfound.symm.trans (Collection.get?_of_mem hmem)
          exact hqueued
        refine ⟨fun _ => congrArg some hsame, fun hcancelled => ?_, fun hrequested => ?_⟩
        · exact absurd (hstored.symm.trans (hanswered.cancelled hcancelled)) (by simp)
        · rcases hanswered.requested hrequested with hcancelled | ⟨hprogress, -⟩
          · exact absurd (hstored.symm.trans hcancelled) (by simp)
          · rw [hstored] at hprogress
            cases hprogress
      · exact ⟨fun hbusy => (nomatch hanswered.busy hbusy), hanswered.cancelled,
          hanswered.requested⟩

theorem CancelInv.worker (h : CancelInv taskId id held answered s)
    (hstep : TaskStep (cancelRules taskId id) (.worker held) l s s') (hkeeps : l.KeepsCancel s) :
    CancelInv taskId id (taskNext (.worker held) l s).held answered s' := by
  cases hstep with
  | quiet hnext htasks =>
      rw [hnext]
      exact h.congr htasks
  | claim hdue hclaimed htasks => exact h.claim hdue hclaimed htasks
  | heartbeat hgood htasks => exact h.heartbeat hgood htasks hkeeps
  | release hwriter hgood hended htasks =>
      have hreleased := h.release hwriter hgood hended htasks hkeeps
      rcases hwriter with rfl | rfl
      · exact hreleased
      · exact hreleased
  | reclaim hmaintains => exact hmaintains.elim
  | insert hmaintains => exact hmaintains.elim

/-! ## Steps of the cancellation -/

theorem cancel_inProgress (now : Nat) (task : Task) :
    (task.cancel now).status.inProgress = task.status.inProgress := by
  rw [Task.cancel]
  cases hstatus : task.status with
  | queued | running => rfl
  | cancelRequested | succeeded | failed | cancelled | deadLetter => exact congrArg _ hstatus

theorem cancel_frame (now : Nat) (task : Task) :
    (task.cancel now).id = task.id ∧ (task.cancel now).taskId = task.taskId := by
  rw [Task.cancel]
  split
  · exact ⟨rfl, rfl⟩
  · exact ⟨rfl, rfl⟩
  · exact ⟨rfl, rfl⟩

theorem cancel_flagged (now : Nat) (htask : Known taskId task.id task)
    (hstatus : (task.cancel now).status = .cancelRequested) :
    (task.cancel now).cancelRequested = true := by
  revert hstatus
  rw [Task.cancel]
  split
  · intro h
    cases h
  · exact fun _ => rfl
  · exact htask.flagged rfl

theorem CancelInv.canceller (h : CancelInv taskId id held answered s)
    (hstep : TaskStep (cancelRules taskId id) (.canceller answered) l s s')
    (hkeeps : l.KeepsCancel s) :
    CancelInv taskId id held (taskNext (.canceller answered) l s).answered s' := by
  cases hstep with
  | quiet hnext htasks =>
      rw [hnext]
      exact h.congr htasks
  | @cancel _ read now _ _ hread htasks =>
      obtain ⟨hknown, rfl⟩ := hread
      obtain ⟨hid, htaskId⟩ := cancel_frame now read
      rw [Saved] at htasks
      rw [taskNext, TaskNote.answered]
      split at htasks
      · rename_i hrefused
        rw [if_pos hrefused]
        exact h.congr htasks
      · rename_i hrefused
        rw [if_neg hrefused]
        -- The stored task is in progress exactly if the copy was when it was read.
        obtain ⟨stored, hfound, hanswered⟩ := h.target
        have hsame : stored.status.inProgress = (read.cancel now).status.inProgress := by
          rw [cancel_inProgress]
          refine hkeeps stored ?_
          rw [hid]
          exact hfound
        refine h.save htasks
          ⟨fun heq => hid.trans (hknown.unique (htaskId.symm.trans heq)),
            fun _ => cancel_flagged now hknown⟩
          (fun _ hheld _ => hheld) (fun hheld => ?_) (fun _ => ⟨fun hbusy => ?_, fun hcancelled => ?_,
            fun hrequested => ?_⟩) fun hne => absurd hid hne
        · obtain ⟨other, hother, hstatus⟩ := h.inHand _ hheld
          rw [hid] at hother
          cases hfound.symm.trans hother
          exact hsame.symm.trans hstatus
        · exact hanswered.busy (hsame.trans hbusy)
        · exact Option.some.inj hcancelled
        · have hstatus := Option.some.inj hrequested
          refine .inr ⟨?_, cancel_flagged now hknown hstatus⟩
          rw [hstatus]
          rfl

end Known

/-! ## Runs -/

section Run

variable {taskId id : String} {p : CancelPool} {i : CancelParty}

/-- The invariant of the pool. -/
def CancelPool.Inv (taskId id : String) (p : CancelPool) : Prop :=
  ∃ held answered, p.note .worker = .worker held ∧ p.note .canceller = .canceller answered ∧
    CancelInv taskId id held answered p.store

abbrev CancelRely (taskId id : String) (g : TaskNote) (s : TaskStore) : Prop :=
  (cancelRules taskId id).Inv s ∧ HeldGood (cancelRules taskId id).Good g s

/-- A cancellation that has returned has saved the status that it returns. -/
def Reports (g : TaskNote) (r : Except TaskError (Option TaskStatus)) : Prop :=
  ∀ status, r = .ok (some status) → g = .canceller (some status)

theorem workTasks_keeps (inputs : List RefreshInput) :
    KeepsTask (cancelRules taskId id) (.worker none) (workTasks inputs) fun _ _ => True := by
  have hgood : ∀ (task : Task) (heartbeatAt leaseExpiresAt : Option Nat),
      (cancelRules taskId id).Good task → (cancelRules taskId id).Good
        { task with heartbeatAt := heartbeatAt, leaseExpiresAt := leaseExpiresAt } :=
    fun _ _ _ h => ⟨⟨h.1.unique, h.1.flagged⟩, h.2⟩
  induction inputs with
  | nil => exact .done trivial
  | cons input rest ih =>
      refine Prog.Follows.bind (claimAndExecute_keeps input hgood) (fun g _ hg => ?_)
        fun _ _ _ => trivial
      rw [hg rfl]
      exact ih

theorem startCancellation_follows (inputs : List RefreshInput) (now : Nat) (s : TaskStore) :
    (startCancellation inputs taskId now s).Follow taskNext (CancelRely taskId id)
      (TaskStep (cancelRules taskId id)) Reports := by
  intro i
  cases i with
  | worker =>
      exact Prog.Follows.bind (workTasks_keeps inputs) (fun _ _ _ => .done fun _ h => nomatch h)
        fun _ _ _ _ h => nomatch h
  | canceller =>
      refine Prog.Follows.bind (cancelTask_keeps taskId now fun s task hs htask => ?_)
        (fun g status hg => .done fun other h => ?_) fun _ _ _ _ h => nomatch h
      · obtain ⟨hmem, hsame⟩ := mem_of_task? htask
        exact ⟨hs task hmem, (hs task hmem).unique hsame⟩
      · cases h
        exact hg status rfl

theorem CancelPool.Inv.rely (h : p.Inv taskId id) : CancelRely taskId id (p.note i) p.store := by
  obtain ⟨held, answered, hworker, hcanceller, hinv⟩ := h
  refine ⟨hinv.known, fun id' hid' => ?_⟩
  cases i with
  | worker =>
      rw [hworker] at hid'
      obtain ⟨task, hfound, hstatus⟩ := hinv.inHand id' hid'
      exact ⟨task, hfound, hinv.known task (Collection.get?_eq_some.mp hfound).1, hstatus⟩
  | canceller =>
      rw [hcanceller] at hid'
      cases hid'

/-- The roles of the parties do not change. -/
theorem taskNext_worker (held : Option String) (l : TaskLabel) (s : TaskStore) :
    taskNext (.worker held) l s = .worker (taskNext (.worker held) l s).held := by
  cases l with
  | save writer task => cases writer <;> rfl
  | other | find | claim | fetch | insert | refresh => rfl

theorem taskNext_canceller (answered : Option TaskStatus) (l : TaskLabel) (s : TaskStore) :
    taskNext (.canceller answered) l s =
      .canceller (taskNext (.canceller answered) l s).answered := by
  cases l with
  | save writer task => cases writer <;> rfl
  | other | find | claim | fetch | insert | refresh => rfl

theorem CancelPool.Inv.step {l : TaskLabel} {w : TaskStore → TaskStore}
    {n : TaskStore → TaskHandler (Option TaskStatus)} {k : TaskHandler (Option TaskStatus)}
    (hthread : p.thread i = .op l w n k)
    (hallowed : TaskStep (cancelRules taskId id) (p.note i) l p.store (w p.store))
    (hkeeps : p.KeepsCancel i) (h : p.Inv taskId id) :
    CancelPool.Inv taskId id (p.step taskNext i) := by
  obtain ⟨held, answered, hworker, hcanceller, hinv⟩ := h
  have hlabel : l.KeepsCancel p.store := hkeeps l (by rw [hthread]; rfl)
  cases i with
  | worker =>
      rw [hworker] at hallowed
      refine ⟨(taskNext (.worker held) l p.store).held, answered, ?_, ?_, ?_⟩
      · rw [Pool.step_note_self hthread, hworker]
        exact taskNext_worker held l p.store
      · rw [Pool.step_note_of_ne p (by decide)]
        exact hcanceller
      · rw [Pool.step_store hthread]
        exact hinv.worker hallowed hlabel
  | canceller =>
      rw [hcanceller] at hallowed
      refine ⟨held, (taskNext (.canceller answered) l p.store).answered, ?_, ?_, ?_⟩
      · rw [Pool.step_note_of_ne p (by decide)]
        exact hworker
      · rw [Pool.step_note_self hthread, hcanceller]
        exact taskNext_canceller answered l p.store
      · rw [Pool.step_store hthread]
        exact hinv.canceller hallowed hlabel

/-- What the invariant says of a cancellation that has returned. -/
theorem CancelPool.Inv.kept (h : p.Inv taskId id)
    (hreports : (p.thread .canceller).Follows taskNext (CancelRely taskId id)
      (TaskStep (cancelRules taskId id)) Reports (p.note .canceller)) : p.Kept id := by
  obtain ⟨held, answered, hworker, hcanceller, hinv⟩ := h
  obtain ⟨task, hfound, hanswered⟩ := hinv.target
  have hsaved : ∀ status, p.answer? = some status → answered = some status := by
    intro status hanswer
    rw [CancelPool.answer?] at hanswer
    split at hanswer
    · rename_i hdone
      rw [hdone, hcanceller] at hreports
      exact TaskNote.canceller.inj (hreports status (congrArg _ hanswer))
    · cases hanswer
  rw [CancelPool.Kept, hworker]
  constructor
  · intro hanswer hheld
    obtain ⟨same, hsame, hbusy⟩ := hinv.inHand id hheld
    cases hfound.symm.trans hsame
    rw [hanswered.cancelled (hsaved _ hanswer)] at hbusy
    cases hbusy
  · intro hanswer
    rcases hanswered.requested (hsaved _ hanswer) with hcancelled | ⟨hprogress, -⟩
    · exact .inr ⟨task, hfound, hcancelled⟩
    · exact .inl (hanswered.busy hprogress)

end Run

/-- Every interleaving of a worker with the cancellation of a task that is not in progress at
first, in which no save takes the cancellation back: a task that was answered to be cancelled is
not executed, and one that was answered to be cancelled on request ends as cancelled. -/
theorem cancellation_kept (inputs : List RefreshInput) (taskId : String) (now : Nat)
    (s : TaskStore) (task : Task) (htask : s.task? taskId = some task)
    (hunique : ∀ other ∈ s.tasks, other.taskId = taskId → other.id = task.id)
    (hidle : task.status.inProgress = false) (schedule : List CancelParty)
    (hkeeps : (startCancellation inputs taskId now s).Meets taskNext CancelPool.KeepsCancel
      schedule) :
    CancelPool.Kept ((startCancellation inputs taskId now s).run taskNext schedule) task.id := by
  obtain ⟨hmem, -⟩ := mem_of_task? htask
  have hfound : s.tasks.get? task.id = some task := Collection.get?_of_mem hmem
  have hstart : (startCancellation inputs taskId now s).Inv taskId task.id := by
    refine ⟨none, none, rfl, rfl, fun other hother => ⟨hunique other hother, fun hid hstatus => ?_⟩,
      fun _ h => (nomatch h), task, hfound,
      fun hbusy => absurd (hidle.symm.trans hbusy) (by simp), fun h => (nomatch h),
      fun h => (nomatch h)⟩
    rw [Collection.eq_of_key_eq hother hmem hid] at hstatus
    rw [hstatus] at hidle
    cases hidle
  have hrun := Pool.invariant_run taskNext (CancelRely taskId task.id)
    (TaskStep (cancelRules taskId task.id)) Reports (CancelPool.Inv taskId task.id)
    (fun p i hp _ => hp.rely) (fun _ _ _ _ _ _ _ hthread hallowed hcond hp =>
      hp.step hthread hallowed hcond)
    (startCancellation_follows inputs now s) hkeeps hstart
  exact hrun.1.kept (hrun.2 .canceller)

/-! ## Cancellations before and after the copy is read -/

def cancelInputs : List RefreshInput := [sampleInput (.ok ⟨"v", "h", true, true⟩)]

/-- The task is cancelled between its claim and the read of the worker's copy. -/
theorem cancellation_kept_before_fetch :
    CancelPool.Kept ((startCancellation cancelInputs "t" 3 queuedStore).run taskNext
      [.worker, .canceller, .canceller, .canceller, .worker, .worker, .worker, .worker, .worker,
        .worker]) "1" :=
  cancellation_kept cancelInputs "t" 3 queuedStore (sampleTask) rfl (by decide) rfl _
    (by decide +kernel)

/-- The task is cancelled after the worker has read its copy: it is saved as succeeded. -/
theorem cancellation_lost_after_fetch :
    ¬ CancelPool.Kept ((startCancellation cancelInputs "t" 3 queuedStore).run taskNext
      [.worker, .worker, .canceller, .canceller, .canceller, .worker, .worker, .worker, .worker,
        .worker]) "1" := by
  decide +kernel

end Grouproxy.Tasks
