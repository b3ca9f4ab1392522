import Mathlib.Data.Fintype.Basic
import Grouproxy.Verification.Tasks.Steps
import Grouproxy.Verification.Tasks.Survival

/-! # Retries

Workers that claim a task and complete or fail it, and reclaims of expired leases, interleaved at
every operation. While every party saves its copy over the version that it has read or written last,
the retry count of the stored task counts the claims, and the task is a dead letter in the end.
-/

namespace Grouproxy.Tasks

open Programs Collections

/-! ## Parties -/

/-- How a worker ends: it may also die. -/
inductive Ending where
  | complete (now : Nat) (result : TaskResult) (message : String)
  | fail (now : Nat) (error : String) (retryable : Bool)
  | die

/-- A worker claims a task, renews its lease any number of times, and ends. -/
structure Execution where
  lease : Lease
  /-- When the lease is renewed, and for how many seconds. -/
  heartbeats : List (Nat × Nat)
  ending : Ending

def renewLease : List (Nat × Nat) → Task → TaskHandler Task
  | [], task => return task
  | (now, leaseSeconds) :: rest, task => do
    let task ← heartbeatTask now leaseSeconds task
    renewLease rest task

def Ending.program (task : Task) : Ending → TaskHandler Unit
  | .complete now result message => do
    let _ ← completeTask now task result message
  | .fail now error retryable => do
    let _ ← failTask .fail now task error retryable
  | .die => return ()

def Execution.program (taskType : String) (execution : Execution) : TaskHandler Unit := do
  match ← claimDueTask taskType execution.lease with
  | none => return ()
  | some task => do
    let task ← renewLease execution.heartbeats task
    execution.ending.program task

inductive RetryParty where
  | worker (execution : Execution)
  | reclaim (now failedAt : Nat)

def RetryParty.program (taskType : String) : RetryParty → TaskHandler Unit
  | .worker execution => execution.program taskType
  | .reclaim now failedAt => reclaimExpiredTasks taskType now failedAt

/-! ## Copies -/

/-- The copy of a task that a party has in memory. -/
inductive RetryNote where
  | worker (lease : Lease) (copy : Option Task)
  | reclaimer (copy : Option Task)

def RetryNote.copy : RetryNote → Option Task
  | .worker _ copy => copy
  | .reclaimer copy => copy

def RetryParty.note : RetryParty → RetryNote
  | .worker execution => .worker execution.lease none
  | .reclaim _ _ => .reclaimer none

def Task.claimedBy (lease : Lease) (task : Task) : Task :=
  { task.leased lease with stage := "running", progressMessage := "Worker claimed task" }

variable (id : String)

def retryNext : RetryNote → TaskLabel → TaskStore → RetryNote
  | .worker lease _, .claim due, s =>
    .worker lease (((firstTask? (s.tasks.filter due)).filter fun task => task.id = id).map
      (Task.claimedBy lease))
  | .worker lease copy, .fetch found, s =>
    .worker lease (if found = id then s.tasks.get? id else copy)
  | .worker lease copy, .save .heartbeat task, _ =>
    .worker lease (if task.id = id then some task else copy)
  | .reclaimer _, .other, s => .reclaimer (s.tasks.get? id)
  | g, _, _ => g

/-- What a party makes of its copy. -/
inductive MadeFrom : RetryNote → TaskWriter → Task → Task → Prop where
  | heartbeat {lease : Lease} {held : Option Task} {copy : Task} {now leaseSeconds : Nat} :
      MadeFrom (.worker lease held) .heartbeat copy
        { copy with heartbeatAt := some now, leaseExpiresAt := some (now + leaseSeconds) }
  | complete {lease : Lease} {held : Option Task} {copy : Task} {now : Nat} {result : TaskResult}
      {message : String} :
      MadeFrom (.worker lease held) .complete copy (copy.completed now result message)
  | fail {lease : Lease} {held : Option Task} {copy : Task} {now : Nat} {error : String}
      {retryable : Bool} :
      MadeFrom (.worker lease held) .fail copy (copy.afterFailure now error retryable)
  | reclaim {held : Option Task} {copy : Task} {now : Nat}
      (hexpired : copy.status = .running ∨ copy.status = .cancelRequested) :
      MadeFrom (.reclaimer held) .reclaim copy (copy.afterFailure now "task_lease_expired" true)
  | cancelled {held : Option Task} {copy : Task} {now : Nat} (hflag : copy.cancelRequested = true) :
      MadeFrom (.reclaimer held) .reclaim copy (copy.cancelledAfterExpiry now)

theorem afterFailure_id (now : Nat) (error : String) (retryable : Bool) (task : Task) :
    (task.afterFailure now error retryable).id = task.id :=
  (Ended.afterFailure now error retryable task).id

theorem MadeFrom.id_eq {g : RetryNote} {writer : TaskWriter} {copy task : Task}
    (h : MadeFrom g writer copy task) : task.id = copy.id := by
  cases h with
  | heartbeat | complete | cancelled => rfl
  | fail | reclaim => exact afterFailure_id _ _ _ _

inductive RetryStep : RetryNote → TaskLabel → TaskStore → TaskStore → Prop where
  | quiet {g : RetryNote} {l : TaskLabel} {s s' : TaskStore}
      (hlabel : l = .other ∨ ∃ found, l = .fetch found) (htasks : s'.tasks = s.tasks) :
      RetryStep g l s s'
  | claim {lease : Lease} {held : Option Task} {due : Task → Bool} {s s' : TaskStore}
      (hdue : ∀ task, due task = true → task.status = .queued)
      (htasks : s'.tasks = match firstTask? (s.tasks.filter due) with
        | none => s.tasks
        | some task => s.tasks.save (task.claimedBy lease)) :
      RetryStep (.worker lease held) (.claim due) s s'
  | save {g : RetryNote} {writer : TaskWriter} {copy task : Task} {s s' : TaskStore}
      (hcopy : copy.id = id → g.copy = some copy) (hmade : MadeFrom g writer copy task)
      (htasks : Saved task s s') : RetryStep g (.save writer task) s s'

/-! ## The steps of a party -/

section Parties

variable {id} {α : Type} {g : RetryNote} {lease : Lease} {held : Option Task} {copy task : Task}

/-- Whatever others do between its operations, the party takes these steps. -/
abbrev Retries (id : String) (p : TaskHandler α) (Q : RetryNote → Except TaskError α → Prop)
    (g : RetryNote) : Prop :=
  p.Follows (retryNext id) (fun _ _ => True) (RetryStep id) Q g

/-- A worker has the task in memory that its program goes on with. -/
def Has (id : String) (g : RetryNote) (task : Task) : Prop :=
  (∃ lease held, g = .worker lease held) ∧ (task.id = id → g.copy = some task)

theorem saved_of_saveTask {s : TaskStore} (task : Task) :
    Saved task s (if s.refuses task then ((.error .duplicateKey : Except TaskError Unit), s)
      else (.ok (), { s with tasks := s.tasks.save task })).2 := by
  rw [Saved]
  split
  · rfl
  · rfl

theorem claimDueTask_retries (taskType : String) :
    Retries id (claimDueTask taskType lease)
      (fun g r => ∀ task, r = .ok (some task) → Has id g task) (.worker lease held) := by
  intro s _
  dsimp only
  cases hfirst : firstTask? (s.tasks.filter _) with
  | none =>
      refine ⟨.claim (fun task hdue => ?_) (by rw [hfirst]), .done fun task h => nomatch h⟩
      exact (Task.isDue_iff.mp (Bool.and_eq_true_iff.mp hdue).2).1
  | some claimed =>
      refine ⟨.claim (fun task hdue => ?_) (by rw [hfirst]; rfl), fun t _ => ⟨?_, ?_⟩⟩
      · exact (Task.isDue_iff.mp (Bool.and_eq_true_iff.mp hdue).2).1
      · exact .quiet (.inr ⟨_, rfl⟩) rfl
      · refine Prog.Follows.done fun task h => ?_
        have hfetched : t.tasks.get? claimed.id = some task := Except.ok.inj h
        have hid : task.id = claimed.id := (Collection.get?_eq_some.mp hfetched).2
        refine ⟨⟨_, _, rfl⟩, fun hsame => ?_⟩
        rw [hid] at hsame
        rw [hsame] at hfetched
        simp [retryNext, RetryNote.copy, hsame, hfetched]

theorem renewLease_retries (heartbeats : List (Nat × Nat)) (h : Has id g task) :
    Retries id (renewLease heartbeats task) (fun g r => ∀ task, r = .ok task → Has id g task) g := by
  induction heartbeats generalizing task g with
  | nil =>
      refine Prog.Follows.done fun other hother => ?_
      cases hother
      exact h
  | cons heartbeat rest ih =>
      obtain ⟨⟨lease, held, rfl⟩, hcopy⟩ := h
      rw [renewLease, heartbeatTask, Prog.bind_assoc]
      refine Prog.Follows.bind
        (Q := fun g _ => Has id g { task with
          heartbeatAt := some heartbeat.1
          leaseExpiresAt := some (heartbeat.1 + heartbeat.2) })
        (.atomic (fun s _ => .save hcopy .heartbeat (saved_of_saveTask _))
          fun s _ => ⟨⟨_, _, rfl⟩, fun hid => ?_⟩)
        (fun g _ hg => ih hg) fun g e _ task ht => by cases ht
      exact if_pos hid

theorem saveTask_retries {writer : TaskWriter} {made : Task}
    (hcopy : copy.id = id → g.copy = some copy) (hmade : MadeFrom g writer copy made) :
    Retries id (saveTask writer made) (fun _ _ => True) g :=
  .atomic (fun _ _ => .save hcopy hmade (saved_of_saveTask _)) fun _ _ => trivial

theorem ending_retries (ending : Ending) (h : Has id g task) :
    Retries id (ending.program task) (fun _ _ => True) g := by
  obtain ⟨⟨lease, held, rfl⟩, hcopy⟩ := h
  cases ending with
  | complete now result message =>
      exact .bind (Q := fun _ _ => True) (.bind (saveTask_retries hcopy .complete)
        (fun _ _ _ => .done trivial) fun _ _ _ => trivial) (fun _ _ _ => .done trivial)
        fun _ _ _ => trivial
  | fail now error retryable =>
      exact .bind (Q := fun _ _ => True) (.bind (saveTask_retries hcopy .fail)
        (fun _ _ _ => .done trivial) fun _ _ _ => trivial) (fun _ _ _ => .done trivial)
        fun _ _ _ => trivial
  | die => exact .done trivial

theorem execution_retries (taskType : String) (execution : Execution) :
    Retries id (execution.program taskType) (fun _ _ => True)
      (.worker execution.lease held) := by
  refine Prog.Follows.bind (claimDueTask_retries taskType) (fun g claimed hclaimed => ?_)
    fun _ _ _ => trivial
  cases claimed with
  | none => exact .done trivial
  | some task =>
      exact .bind (renewLease_retries _ (hclaimed task rfl))
        (fun g copy hcopy => ending_retries _ (hcopy copy rfl)) fun _ _ _ => trivial

/-- The copies of a reclaimer are those that it has read, each of another task. -/
theorem recoverTasks_retries (now failedAt : Nat) {expired : List Task}
    (hnodup : (expired.map Task.id).Nodup)
    (hexpired : ∀ task ∈ expired,
      (task.status = .running ∨ task.status = .cancelRequested) ∧
        (task.id = id → held = some task)) :
    Retries id (recoverTasks now failedAt expired) (fun _ _ => True) (.reclaimer held) := by
  induction expired with
  | nil => exact .done trivial
  | cons task rest ih =>
      obtain ⟨⟨hstatus, hcopy⟩, hrest⟩ := List.forall_mem_cons.mp hexpired
      have hnext : Retries id (recoverTasks now failedAt rest) (fun _ _ => True)
          (.reclaimer held) := ih (List.nodup_cons.mp hnodup).2 hrest
      rw [recoverTasks]
      split
      · rename_i hflag
        refine Prog.Follows.bind (Q := fun g _ => g = .reclaimer held)
          (.atomic (fun _ _ => .save hcopy (.cancelled hflag) (saved_of_saveTask _))
            fun _ _ => rfl) (fun g _ hg => ?_) fun _ _ _ => trivial
        rw [hg]
        exact hnext
      · refine Prog.Follows.bind (Q := fun g _ => g = .reclaimer held)
          (.bind (Q := fun g _ => g = .reclaimer held)
            (.atomic (fun _ _ => .save hcopy (.reclaim hstatus) (saved_of_saveTask _))
              fun _ _ => rfl) (fun _ _ hg => .done hg) fun _ _ hg => hg)
          (fun g _ hg => ?_) fun _ _ _ => trivial
        rw [hg]
        exact hnext

theorem reclaimExpiredTasks_retries (taskType : String) (now failedAt : Nat) :
    Retries id (reclaimExpiredTasks taskType now failedAt) (fun _ _ => True)
      (.reclaimer held) := by
  refine Prog.Follows.read_bind (fun s _ => .quiet (.inl rfl) rfl) fun s _ => ?_
  refine recoverTasks_retries now failedAt ?_ fun task htask => ?_
  · exact s.tasks.nodup.sublist (List.filter_sublist.map _)
  · obtain ⟨hmem, hexpired⟩ := Collection.mem_filter.mp htask
    refine ⟨?_, fun hid => ?_⟩
    · simp only [Task.isExpired, Bool.and_eq_true, Bool.or_eq_true, beq_iff_eq] at hexpired
      exact hexpired.1.2
    · rw [← hid]
      exact Collection.get?_of_mem hmem

theorem party_retries (taskType : String) (party : RetryParty) :
    Retries id (party.program taskType) (fun _ _ => True) party.note := by
  cases party with
  | worker execution => exact execution_retries taskType execution
  | reclaim now failedAt => exact reclaimExpiredTasks_retries taskType now failedAt

end Parties

/-! ## Claims and failures of a run -/

section Runs

variable {ι : Type} [DecidableEq ι]

abbrev RetryPool (ι : Type) := Pool ι TaskLabel TaskStore TaskError Unit RetryNote

def startRetries (taskType : String) (parties : ι → RetryParty) (s : TaskStore) : RetryPool ι where
  thread i := (parties i).program taskType
  note i := (parties i).note
  store := s

/-- How often the task was claimed, and how many of its executions failed. -/
structure RunCounts where
  claims : Nat
  failures : Nat
  deriving DecidableEq

/-- A failed execution is recorded by its worker or by a reclaim. -/
def countSave (counts : RunCounts) : TaskWriter → RunCounts
  | .fail | .reclaim => { counts with failures := counts.failures + 1 }
  | _ => counts

def countLabel (s : TaskStore) (counts : RunCounts) : TaskLabel → RunCounts
  | .claim due =>
    if (firstTask? (s.tasks.filter due)).any fun task => task.id == id then
      { counts with claims := counts.claims + 1 }
    else counts
  | .save writer task =>
    if task.id = id ∧ s.refuses task = false then countSave counts writer else counts
  | _ => counts

def countStep (p : RetryPool ι) (i : ι) (counts : RunCounts) : RunCounts :=
  match (p.thread i).label? with
  | some l => countLabel id p.store counts l
  | none => counts

/-- The claims and the failed executions of a run. -/
def countRun (p : RetryPool ι) (schedule : List ι) : RunCounts :=
  p.tally (retryNext id) (countStep id) ⟨0, 0⟩ schedule

/-- A party that reads back or saves its copy of the task finds the task as it has it in memory. -/
def CopyCurrent (p : RetryPool ι) (i : ι) : Prop :=
  match (p.thread i).label? with
  | some (.fetch found) => found = id → p.store.tasks.get? id = (p.note i).copy
  | some (.save _ task) => task.id = id → p.store.tasks.get? id = (p.note i).copy
  | _ => True

/-- The stored task in terms of the claims and failures so far. -/
def Counted (maxRetries : Nat) (counts : RunCounts) (task : Task) : Prop :=
  match task.status with
  | .queued => counts.claims = task.retryCount ∧ counts.failures = task.retryCount ∧
      task.retryCount < maxRetries
  | .running => counts.claims = task.retryCount + 1 ∧ counts.failures = task.retryCount ∧
      task.retryCount < maxRetries
  | .succeeded => counts.claims ≤ maxRetries ∧ counts.failures < maxRetries
  | .deadLetter => counts.claims ≤ maxRetries
  | .cancelRequested | .cancelled | .failed => False

def StoredCounted (maxRetries : Nat) (counts : RunCounts) (s : TaskStore) : Prop :=
  ∃ task, s.tasks.get? id = some task ∧ task.maxRetries = maxRetries ∧
    task.cancelRequested = false ∧ Counted maxRetries counts task

structure RetryInv (maxRetries : Nat) (counts : RunCounts) (p : RetryPool ι) : Prop where
  stored : StoredCounted id maxRetries counts p.store
  held : ∀ i lease copy, p.note i = .worker lease (some copy) → copy.status = .running

section Step

variable {id} {maxRetries : Nat} {counts : RunCounts} {task : Task} {g : RetryNote} {l : TaskLabel}
  {s s' : TaskStore}

theorem Counted.claimedBy (h : Counted maxRetries counts task) (hstatus : task.status = .queued)
    (lease : Lease) :
    Counted maxRetries { counts with claims := counts.claims + 1 } (task.claimedBy lease) := by
  rw [Counted, hstatus] at h
  exact ⟨congrArg (· + 1) h.1, h.2⟩

theorem Counted.completed (h : Counted maxRetries counts task) (hstatus : task.status = .running)
    (hflag : task.cancelRequested = false) (now : Nat) (result : TaskResult) (message : String) :
    Counted maxRetries counts (task.completed now result message) := by
  have hended : (task.completed now result message).status = .succeeded := by
    simp [Task.completed, hflag]
  rw [Counted, hstatus] at h
  rw [Counted, hended]
  exact ⟨by omega, by omega⟩

/-- A failed execution raises the retry count, up to the limit. -/
theorem Counted.afterFailure (h : Counted maxRetries counts task) (hstatus : task.status = .running)
    (hflag : task.cancelRequested = false) (hmax : task.maxRetries = maxRetries) (now : Nat)
    (error : String) (retryable : Bool) :
    Counted maxRetries { counts with failures := counts.failures + 1 }
      (task.afterFailure now error retryable) := by
  rw [Counted, hstatus] at h
  rw [Task.afterFailure, if_neg (by simp [hflag])]
  split
  · show counts.claims ≤ maxRetries
    omega
  · rename_i hretry
    have hless : task.retryCount + 1 < maxRetries := by
      rw [← hmax]
      exact not_le.mp fun hle => hretry (.inr hle)
    show counts.claims = task.retryCount + 1 ∧ counts.failures + 1 = task.retryCount + 1 ∧
      task.retryCount + 1 < maxRetries
    omega

theorem afterFailure_limits (now : Nat) (error : String) (retryable : Bool) (task : Task) :
    (task.afterFailure now error retryable).maxRetries = task.maxRetries ∧
      (task.afterFailure now error retryable).cancelRequested = task.cancelRequested := by
  simp only [Task.afterFailure]
  split
  · exact ⟨rfl, rfl⟩
  split
  · exact ⟨rfl, rfl⟩
  · exact ⟨rfl, rfl⟩

/-- Saving what a party has made of the current version. -/
theorem Counted.made {writer : TaskWriter} {copy made : Task} (hmade : MadeFrom g writer copy made)
    (hstatus : copy.status = .running) (hflag : copy.cancelRequested = false)
    (hmax : copy.maxRetries = maxRetries) (h : Counted maxRetries counts copy) :
    made.maxRetries = maxRetries ∧ made.cancelRequested = false ∧
      Counted maxRetries (countSave counts writer) made := by
  cases hmade with
  | heartbeat => exact ⟨hmax, hflag, h⟩
  | complete => exact ⟨hmax, hflag, h.completed hstatus hflag _ _ _⟩
  | fail =>
      obtain ⟨hmax', hflag'⟩ := afterFailure_limits _ _ _ copy
      exact ⟨hmax'.trans hmax, hflag'.trans hflag, h.afterFailure hstatus hflag hmax _ _ _⟩
  | reclaim hexpired =>
      obtain ⟨hmax', hflag'⟩ := afterFailure_limits _ _ _ copy
      exact ⟨hmax'.trans hmax, hflag'.trans hflag, h.afterFailure hstatus hflag hmax _ _ _⟩
  | cancelled hset => exact absurd (hset.symm.trans hflag) (by decide)

theorem StoredCounted.congr (h : StoredCounted id maxRetries counts s)
    (htasks : s'.tasks.get? id = s.tasks.get? id) : StoredCounted id maxRetries counts s' := by
  rw [StoredCounted, htasks]
  exact h

/-- A step keeps the stored task counted, if a party saves over the version that it has. -/
theorem StoredCounted.step (h : StoredCounted id maxRetries counts s) (hstep : RetryStep id g l s s')
    (hcurrent : ∀ writer task, l = .save writer task → task.id = id → s.tasks.get? id = g.copy)
    (hrunning : ∀ lease copy, g = .worker lease (some copy) → copy.status = .running) :
    StoredCounted id maxRetries (countLabel id s counts l) s' := by
  cases hstep with
  | quiet hlabel htasks =>
      have hcount : countLabel id s counts l = counts := by
        rcases hlabel with rfl | ⟨found, rfl⟩
        · rfl
        · rfl
      rw [hcount]
      exact h.congr (by rw [htasks])
  | @claim lease held due _ _ hdue htasks =>
      rw [countLabel]
      cases hfirst : firstTask? (s.tasks.filter due) with
      | none =>
          rw [hfirst] at htasks
          exact h.congr (by rw [htasks])
      | some claimed =>
          rw [hfirst] at htasks
          by_cases hid : claimed.id = id
          · obtain ⟨task, htask, hmax, hflag, hcounted⟩ := h
            obtain ⟨hmem, hqualifies⟩ := Collection.mem_filter.mp (mem_of_firstTask? hfirst)
            have hsame : claimed = task := by
              rw [← hid] at htask
              exact Option.some.inj ((Collection.get?_of_mem hmem).symm.trans htask)
            subst hsame
            simp only [Option.any_some, hid, beq_self_eq_true, if_true]
            refine ⟨claimed.claimedBy lease, ?_, hmax, hflag,
              hcounted.claimedBy (hdue claimed hqualifies) lease⟩
            rw [htasks, ← hid]
            exact Collection.get?_save_self s.tasks (claimed.claimedBy lease)
          · simp only [Option.any_some, beq_iff_eq, hid, if_false]
            refine h.congr ?_
            rw [htasks]
            exact Collection.get?_save_of_ne s.tasks (Ne.symm hid)
  | @save _ writer copy made _ _ hcopy hmade htasks =>
      rw [Saved] at htasks
      by_cases hid : made.id = id
      · by_cases hrefused : s.refuses made = true
        · rw [countLabel, if_neg (by simp [hrefused])]
          exact h.congr (by rw [htasks, if_pos hrefused])
        · obtain ⟨task, htask, hmax, hflag, hcounted⟩ := h
          have hcopyid : copy.id = id := hmade.id_eq.symm.trans hid
          have hsame : task = copy := by
            have hstored := hcurrent writer made rfl hid
            rw [htask, hcopy hcopyid] at hstored
            exact Option.some.inj hstored
          subst hsame
          have hstatus : task.status = .running := by
            cases hmade with
            | heartbeat | complete | fail => exact hrunning _ _ (by
                rw [← hcopy hcopyid]
                rfl)
            | reclaim hexpired =>
                refine hexpired.resolve_right fun hcancel => ?_
                rw [Counted, hcancel] at hcounted
                exact hcounted
            | cancelled hset => exact absurd (hset.symm.trans hflag) (by decide)
          obtain ⟨hmax', hflag', hcounted'⟩ := Counted.made hmade hstatus hflag hmax hcounted
          rw [countLabel, if_pos ⟨hid, Bool.eq_false_iff.mpr hrefused⟩]
          refine ⟨made, ?_, hmax', hflag', hcounted'⟩
          rw [htasks, if_neg hrefused, ← hid]
          exact Collection.get?_save_self s.tasks made
      · rw [countLabel, if_neg (by simp [hid])]
        refine h.congr ?_
        rw [htasks]
        split
        · rfl
        · exact Collection.get?_save_of_ne s.tasks (Ne.symm hid)

/-- The copies of workers are running. -/
theorem RetryStep.running (hstep : RetryStep id g l s s')
    (hcurrent : ∀ found, l = .fetch found → found = id → s.tasks.get? id = g.copy)
    (hrunning : ∀ lease copy, g = .worker lease (some copy) → copy.status = .running)
    {lease : Lease} {copy : Task} (hnext : retryNext id g l s = .worker lease (some copy)) :
    copy.status = .running := by
  cases hstep with
  | quiet hlabel htasks =>
      cases g with
      | worker lease' held =>
          rcases hlabel with rfl | ⟨found, rfl⟩
          · exact hrunning lease copy hnext
          · rw [retryNext] at hnext
            split at hnext
            · rename_i hfound
              rw [hcurrent found rfl hfound] at hnext
              exact hrunning lease copy hnext
            · exact hrunning lease copy hnext
      | reclaimer held =>
          rcases hlabel with rfl | ⟨found, rfl⟩
          · cases hnext
          · cases hnext
  | claim hdue htasks =>
      rw [retryNext] at hnext
      injection hnext with hlease hcopy
      obtain ⟨claimed, -, rfl⟩ := Option.map_eq_some_iff.mp hcopy
      rfl
  | @save _ writer held _ _ _ hcopy hmade htasks =>
      cases hmade with
      | @heartbeat lease' _ _ now leaseSeconds =>
          rw [retryNext] at hnext
          split at hnext
          · rename_i hid
            injection hnext with hlease hsaved
            rw [← Option.some.inj hsaved]
            exact hrunning lease' held (congrArg _ (hcopy hid))
          · exact hrunning lease copy hnext
      | complete | fail => exact hrunning lease copy hnext
      | reclaim | cancelled => cases hnext

end Step

theorem retryInv_step {maxRetries : Nat} {counts : RunCounts} {p : RetryPool ι} {i : ι}
    {l : TaskLabel} {w : TaskStore → TaskStore} {n : TaskStore → TaskHandler Unit}
    {k : TaskHandler Unit} (hthread : p.thread i = .op l w n k)
    (hallowed : RetryStep id (p.note i) l p.store (w p.store)) (hcond : CopyCurrent id p i)
    (h : RetryInv id maxRetries counts p) :
    RetryInv id maxRetries (countStep id p i counts) (p.step (retryNext id) i) := by
  have hlabel : (p.thread i).label? = some l := by rw [hthread, Prog.label?]
  rw [CopyCurrent, hlabel] at hcond
  constructor
  · rw [countStep, hlabel, Pool.step_store hthread]
    refine h.stored.step hallowed (fun writer task hl hid => ?_) (h.held i)
    subst hl
    exact hcond hid
  · intro j lease copy hnote
    by_cases hji : j = i
    · subst hji
      rw [Pool.step_note_self hthread] at hnote
      refine RetryStep.running hallowed (fun found hl hid => ?_) (h.held j) hnote
      subst hl
      exact hcond hid
    · rw [Pool.step_note_of_ne p hji] at hnote
      exact h.held j lease copy hnote

/-- Any number of workers and reclaims, interleaved at every operation, on a task that is queued
for the first time: it is claimed as often as it may be retried at most, and is a dead letter once
that many executions have failed, if every party finds the task as it has it in memory. -/
theorem retries_bounded (taskType : String) (parties : ι → RetryParty) (s : TaskStore) (task : Task)
    (schedule : List ι) (hstored : s.tasks.get? id = some task) (hqueued : task.status = .queued)
    (hfirst : task.retryCount = 0) (hflag : task.cancelRequested = false)
    (hmax : 0 < task.maxRetries)
    (hmeets : (startRetries taskType parties s).Meets (retryNext id) (CopyCurrent id) schedule) :
    (countRun id (startRetries taskType parties s) schedule).claims ≤ task.maxRetries ∧
      (task.maxRetries ≤ (countRun id (startRetries taskType parties s) schedule).failures →
        ∃ ended, ((startRetries taskType parties s).run (retryNext id) schedule).store.tasks.get? id
          = some ended ∧ ended.status = .deadLetter) := by
  have hstart : RetryInv id task.maxRetries ⟨0, 0⟩ (startRetries taskType parties s) := by
    refine ⟨⟨task, hstored, rfl, hflag, ?_⟩, fun i lease copy hnote => ?_⟩
    · rw [Counted, hqueued, hfirst]
      exact ⟨rfl, rfl, hmax⟩
    · have hnone : (parties i).note.copy = none := by
        cases parties i with
        | worker => rfl
        | reclaim => rfl
      exact nomatch hnone.symm.trans (congrArg RetryNote.copy hnote)
  have hrun := Pool.invariant_tally (retryNext id) (fun _ _ => True) (RetryStep id)
    (fun _ _ => True) (countStep id) (RetryInv id task.maxRetries)
    (fun p i counts hdone => by
      cases hthread : p.thread i with
      | done r => rw [countStep, hthread, Prog.label?]
      | op l w n k => simp [hthread, Prog.Running] at hdone)
    (fun _ _ _ _ _ => trivial)
    (fun _ _ _ _ _ _ _ hthread hallowed hcond h => retryInv_step id hthread hallowed hcond h)
    (fun i => party_retries taskType (parties i)) hmeets hstart
  obtain ⟨ended, hended, -, -, hcounted⟩ := hrun.stored
  rw [← countRun] at hcounted
  cases hstatus : ended.status with
  | queued | running | succeeded =>
      rw [Counted, hstatus] at hcounted
      exact ⟨by omega, fun hfailed => by omega⟩
  | deadLetter =>
      rw [Counted, hstatus] at hcounted
      exact ⟨hcounted, fun _ => ⟨ended, hended, hstatus⟩⟩
  | cancelRequested | cancelled | failed =>
      rw [Counted, hstatus] at hcounted
      exact hcounted.elim

end Runs

/-! ### Workers with old copies -/

deriving instance DecidableEq for Task

instance {ι : Type} (id : String) (p : RetryPool ι) (i : ι) : Decidable (CopyCurrent id p i) := by
  rw [CopyCurrent]
  split <;> infer_instance

/-- A worker that claims the task at a time, and fails it later. -/
def failingWorker (claimedAt failedAt : Nat) : RetryParty :=
  .worker ⟨⟨"worker", 60, claimedAt⟩, [], .fail failedAt "error" true⟩

/-- Four workers that fail, and a reclaim that finds the lease of the first one expired. -/
def failingParties : Fin 5 → RetryParty
  | 0 => failingWorker 100 2001
  | 1 => failingWorker 2000 3001
  | 2 => failingWorker 3000 3100
  | 3 => failingWorker 4000 4100
  | 4 => .reclaim 1000 1000

/-- Three of the workers one after another: the third failure is the last one. -/
theorem retries_bounded_failingParties :
    (countRun "1" (startRetries refreshTaskType failingParties queuedStore)
        [0, 0, 0, 2, 2, 2, 3, 3, 3]).claims ≤ 3 ∧
      (3 ≤ (countRun "1" (startRetries refreshTaskType failingParties queuedStore)
          [0, 0, 0, 2, 2, 2, 3, 3, 3]).failures →
        ∃ ended, ((startRetries refreshTaskType failingParties queuedStore).run (retryNext "1")
          [0, 0, 0, 2, 2, 2, 3, 3, 3]).store.tasks.get? "1" = some ended ∧
            ended.status = .deadLetter) :=
  retries_bounded "1" refreshTaskType failingParties queuedStore sampleTask
    [0, 0, 0, 2, 2, 2, 3, 3, 3] rfl rfl rfl rfl (by decide) (by decide +kernel)

/-- A worker whose lease has expired puts the task back into the queue with its old retry count, so
that the task is claimed a fourth time. -/
theorem not_retries_bounded :
    ¬ ∀ (taskType : String) (parties : Fin 5 → RetryParty) (s : TaskStore) (task : Task)
      (schedule : List (Fin 5)), s.tasks.get? "1" = some task → task.status = .queued →
      task.retryCount = 0 → task.cancelRequested = false → 0 < task.maxRetries →
      (countRun "1" (startRetries taskType parties s) schedule).claims ≤ task.maxRetries ∧
        (task.maxRetries ≤ (countRun "1" (startRetries taskType parties s) schedule).failures →
          ∃ ended, ((startRetries taskType parties s).run (retryNext "1")
            schedule).store.tasks.get? "1" = some ended ∧ ended.status = .deadLetter) := by
  intro h
  have hclaims := (h refreshTaskType failingParties queuedStore sampleTask
    [0, 0, 4, 4, 1, 1, 0, 2, 2, 1, 3, 3] rfl rfl rfl rfl (by decide)).1
  exact absurd hclaims (by decide +kernel)

end Grouproxy.Tasks
