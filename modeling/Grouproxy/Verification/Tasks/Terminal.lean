import Grouproxy.Model.Tasks
import Grouproxy.Verification.Backend.Acknowledgements

/-! # Terminal states of tasks

Operations that run one after the other, each to its end. A task that is succeeded, failed,
cancelled or in the dead letters stays so, and the others are the active ones, as long as no
operation finishes a finished task in another way and no release finishes an active task.
-/

namespace Grouproxy.Tasks

open Programs Collections Backend

/-! ## How tasks advance -/

/-- The active tasks are those that are not finished. -/
def Task.Exact (task : Task) : Prop := task.active = !task.status.isTerminal

/-- A finished task stays finished, and changes its status only where `acknowledged` allows it. -/
structure Advance (acknowledged : String → Prop) (task task' : Task) : Prop where
  id : task'.id = task.id
  taskId : task'.taskId = task.taskId
  terminal : task.status.isTerminal = true → task'.status.isTerminal = true ∧
    (task'.status = task.status ∨ acknowledged task.taskId)

structure Advances (acknowledged : String → Prop) (c c' : Collection Task) : Prop where
  kept : ∀ task ∈ c, ∃ task' ∈ c', Advance acknowledged task task'
  exact : (∀ task ∈ c, task.Exact) → ∀ task ∈ c', task.Exact

section Advance

variable {acknowledged : String → Prop} {task task' task'' : Task} {c c' c'' : Collection Task}

theorem Advance.refl (task : Task) : Advance acknowledged task task :=
  ⟨rfl, rfl, fun h => ⟨h, .inl rfl⟩⟩

theorem Advance.trans (h : Advance acknowledged task task')
    (h' : Advance acknowledged task' task'') : Advance acknowledged task task'' := by
  refine ⟨h'.id.trans h.id, h'.taskId.trans h.taskId, fun hterminal => ?_⟩
  obtain ⟨hterminal', hstatus⟩ := h.terminal hterminal
  obtain ⟨hterminal'', hstatus'⟩ := h'.terminal hterminal'
  refine ⟨hterminal'', ?_⟩
  rcases hstatus with hsame | hack
  · rcases hstatus' with hsame' | hack'
    · exact .inl (hsame'.trans hsame)
    · exact .inr (h.taskId ▸ hack')
  · exact .inr hack

theorem Advance.of_open (hid : task'.id = task.id) (htaskId : task'.taskId = task.taskId)
    (hopen : task.status.isTerminal = false) : Advance acknowledged task task' :=
  ⟨hid, htaskId, fun h => by rw [hopen] at h; cases h⟩

theorem Advances.refl (c : Collection Task) : Advances acknowledged c c :=
  ⟨fun task hmem => ⟨task, hmem, .refl task⟩, id⟩

theorem Advances.trans (h : Advances acknowledged c c') (h' : Advances acknowledged c' c'') :
    Advances acknowledged c c'' := by
  refine ⟨fun task hmem => ?_, fun hexact => h'.exact (h.exact hexact)⟩
  obtain ⟨task', hmem', hadvance⟩ := h.kept task hmem
  obtain ⟨task'', hmem'', hadvance'⟩ := h'.kept task' hmem'
  exact ⟨task'', hmem'', hadvance.trans hadvance'⟩

/-- A task of the collection is saved. -/
theorem Advances.save (hmem : task ∈ c) (hadvance : Advance acknowledged task task')
    (hexact : task.Exact → task'.Exact) : Advances acknowledged c (c.save task') := by
  constructor
  · intro other hother
    by_cases hid : other.id = task'.id
    · have hsame : other = task :=
        Collection.eq_of_key_eq hother hmem (hid.trans hadvance.id)
      rw [hsame]
      exact ⟨task', Collection.mem_save_self c task', hadvance⟩
    · exact ⟨other, Collection.mem_save.mpr (.inr ⟨hother, hid⟩), .refl other⟩
  · intro hall other hother
    rcases Collection.mem_save.mp hother with rfl | ⟨hold, -⟩
    · exact hexact (hall task hmem)
    · exact hall other hold

/-- A new task is saved. -/
theorem Advances.insert (hnew : ∀ other ∈ c, other.id ≠ task.id) (hexact : task.Exact) :
    Advances acknowledged c (c.save task) := by
  constructor
  · intro other hother
    exact ⟨other, Collection.mem_save.mpr (.inr ⟨hother, hnew other hother⟩), .refl other⟩
  · intro hall other hother
    rcases Collection.mem_save.mp hother with rfl | ⟨hold, -⟩
    · exact hexact
    · exact hall other hold

end Advance

/-! ## One operation, run to its end -/

section Run

variable {acknowledged : String → Prop} {α β : Type} {s : TaskStore} {task : Task}

/-- What a part of an operation does to the tasks when it runs alone. -/
def AdvancesRun (acknowledged : String → Prop) (p : TaskHandler α) (s : TaskStore) : Prop :=
  Advances acknowledged s.tasks (p.run s).2.tasks

theorem AdvancesRun.done {r : Except TaskError α} :
    AdvancesRun acknowledged (.done r) s := Advances.refl s.tasks

theorem AdvancesRun.bind {p : TaskHandler α} {f : α → TaskHandler β}
    (h : AdvancesRun acknowledged p s)
    (hf : ∀ a, AdvancesRun acknowledged (f a) (p.run s).2) : AdvancesRun acknowledged (p >>= f) s := by
  rcases hrun : p.run s with ⟨r, t⟩
  rw [AdvancesRun, hrun] at h
  cases r with
  | ok a =>
      rw [AdvancesRun, Prog.run_bind_ok hrun]
      have hrest := hf a
      rw [hrun] at hrest
      exact h.trans hrest
  | error e =>
      rw [AdvancesRun, Prog.run_bind_error hrun]
      exact h

theorem AdvancesRun.tryCatch {p : TaskHandler α} {f : TaskError → TaskHandler α}
    (h : AdvancesRun acknowledged p s)
    (hf : ∀ e, AdvancesRun acknowledged (f e) (p.run s).2) :
    AdvancesRun acknowledged (p.tryCatch f) s := by
  rcases hrun : p.run s with ⟨r, t⟩
  rw [AdvancesRun, hrun] at h
  cases r with
  | ok a =>
      rw [AdvancesRun, Prog.run_tryCatch_ok hrun]
      exact h
  | error e =>
      rw [AdvancesRun, Prog.run_tryCatch_error hrun]
      have hrest := hf e
      rw [hrun] at hrest
      exact h.trans hrest

theorem AdvancesRun.find {label : TaskLabel} {query : TaskStore → α} {f : α → TaskHandler β}
    (h : AdvancesRun acknowledged (f (query s)) s) :
    AdvancesRun acknowledged (find label query >>= f) s := h

/-- A fresh copy of a task is saved, or the indexes refuse it. -/
theorem saveTask_advances {writer : TaskWriter} {task' : Task} (hmem : task ∈ s.tasks)
    (hadvance : Advance acknowledged task task') (hexact : task.Exact → task'.Exact) :
    AdvancesRun acknowledged (saveTask writer task') s := by
  rw [AdvancesRun, saveTask, Prog.run_atomic]
  split
  · exact .refl s.tasks
  · exact .save hmem hadvance hexact

theorem insertTask_advances (hexact : task.Exact) :
    AdvancesRun acknowledged (insertTask task) s := by
  rw [AdvancesRun, insertTask, Prog.run_atomic]
  split
  · exact .refl s.tasks
  · rename_i hfree
    refine .insert (fun other hother hid => hfree ?_) hexact
    exact List.any_eq_true.mpr ⟨other, hother, by simp [hid]⟩

/-! ### The task service -/

theorem createTask_advances (draws : TaskDraws) (request : TaskRequest) :
    AdvancesRun acknowledged (createTask draws request) s := by
  refine .find ?_
  split
  · exact .done
  · refine .tryCatch (.bind (insertTask_advances rfl) fun _ => .done) fun e => ?_
    cases e with
    | duplicateKey =>
        refine .find ?_
        split
        · exact .done
        · exact .done
    | http | subscription | backup | timeout | nameError | other => exact .done

theorem mem_of_firstTask? {tasks : List Task} (h : firstTask? tasks = some task) :
    task ∈ tasks := by
  have hmem : ∀ found, firstTask? tasks = some found → found ∈ tasks := by
    rw [firstTask?]
    refine List.foldlRecOn (motive := fun first => ∀ found, first = some found → found ∈ tasks)
      tasks _ ?_ ?_
    · intro found hnone
      cases hnone
    · intro first hfirst head hhead found hstep
      cases first with
      | none =>
          cases hstep
          exact hhead
      | some other =>
          dsimp only at hstep
          split at hstep
          · cases hstep
            exact hhead
          · exact hfirst found hstep
  exact hmem task h

/-- Only open tasks are due, and a claim leaves them open. -/
theorem claimTask_advances {due : Task → Bool} {claimed : Task → Task}
    (hdue : ∀ task, due task = true → task.status.isTerminal = false ∧
      (claimed task).id = task.id ∧ (claimed task).taskId = task.taskId ∧
      (task.Exact → (claimed task).Exact)) :
    AdvancesRun acknowledged (claimTask due claimed) s := by
  refine .bind ?_ fun id? => ?_
  · rw [AdvancesRun, Prog.run_atomic]
    split
    · exact .refl s.tasks
    · rename_i task hnext
      obtain ⟨hmem, hqualifies⟩ := Collection.mem_filter.mp (mem_of_firstTask? hnext)
      obtain ⟨hopen, hid, htaskId, hexact⟩ := hdue task hqualifies
      exact .save hmem (.of_open hid htaskId hopen) hexact
  · cases id? with
    | none => exact .done
    | some id => exact Advances.refl _

theorem Task.isDue_iff {now : Nat} : task.isDue now = true ↔
    task.status = .queued ∧ task.active = true ∧ task.nextRunAt ≤ now := by
  simp [Task.isDue, and_assoc]

theorem leased_of_due {now : Nat} (h : task.isDue now = true) :
    task.status.isTerminal = false ∧ ∀ lease, (task.leased lease).Exact := by
  obtain ⟨hstatus, hactive, -⟩ := Task.isDue_iff.mp h
  refine ⟨by rw [hstatus]; rfl, fun lease => ?_⟩
  rw [Task.Exact, Task.leased, hactive]
  rfl

theorem claimDueTask_advances (taskType : String) (lease : Lease) :
    AdvancesRun acknowledged (claimDueTask taskType lease) s := by
  refine claimTask_advances fun task hdue => ?_
  have hdue := leased_of_due (Bool.and_eq_true_iff.mp hdue).2
  exact ⟨hdue.1, rfl, rfl, fun _ => hdue.2 lease⟩

theorem claimProbeTaskForNode_advances (nodeId : String) (lease : Lease) :
    AdvancesRun acknowledged (claimProbeTaskForNode nodeId lease) s := by
  refine claimTask_advances fun task hdue => ?_
  have hdue := leased_of_due (Bool.and_eq_true_iff.mp hdue).2
  exact ⟨hdue.1, rfl, rfl, fun _ => hdue.2 lease⟩

theorem heartbeatTask_advances (now leaseSeconds : Nat) (hmem : task ∈ s.tasks) :
    AdvancesRun acknowledged (heartbeatTask now leaseSeconds task) s :=
  .bind (saveTask_advances hmem ⟨rfl, rfl, fun h => ⟨h, .inl rfl⟩⟩ id) fun _ => .done

theorem completed_exact (now : Nat) (result : TaskResult) (message : String) (task : Task) :
    (task.completed now result message).Exact := by
  rw [Task.Exact, Task.completed]
  cases task.cancelRequested with
  | true => rfl
  | false => rfl

/-- What `complete_task` makes of a task. -/
def Task.completedStatus (task : Task) : TaskStatus :=
  if task.cancelRequested then .cancelled else .succeeded

theorem completeTask_advances (now : Nat) (result : TaskResult) (message : String)
    (hmem : task ∈ s.tasks)
    (hsame : task.status.isTerminal = true → task.status = task.completedStatus) :
    AdvancesRun acknowledged (completeTask now task result message) s := by
  refine .bind (saveTask_advances hmem ⟨rfl, rfl, fun h => ?_⟩
    fun _ => completed_exact now result message task) fun _ => .done
  have hstatus : (task.completed now result message).status = task.status := (hsame h).symm
  rw [hstatus]
  exact ⟨h, .inl rfl⟩

/-- What `fail_task` makes of a task. -/
def Task.failedStatus (retryable : Bool) (task : Task) : TaskStatus :=
  if task.cancelRequested then .cancelled
  else if retryable = false ∨ task.maxRetries ≤ task.retryCount + 1 then .deadLetter
  else .queued

theorem afterFailure_frame (now : Nat) (error : String) (retryable : Bool) (task : Task) :
    (task.afterFailure now error retryable).id = task.id ∧
      (task.afterFailure now error retryable).taskId = task.taskId ∧
      (task.afterFailure now error retryable).status = task.failedStatus retryable ∧
      (task.afterFailure now error retryable).Exact := by
  simp only [Task.afterFailure, Task.failedStatus, Task.Exact]
  split
  · exact ⟨rfl, rfl, rfl, rfl⟩
  split
  · exact ⟨rfl, rfl, rfl, rfl⟩
  · exact ⟨rfl, rfl, rfl, rfl⟩

theorem failTask_advances (writer : TaskWriter) (now : Nat) (error : String) (retryable : Bool)
    (hmem : task ∈ s.tasks)
    (hsame : task.status.isTerminal = true → task.status = task.failedStatus retryable) :
    AdvancesRun acknowledged (failTask writer now task error retryable) s := by
  obtain ⟨hid, htaskId, hstatus, hexact⟩ := afterFailure_frame now error retryable task
  refine .bind (saveTask_advances hmem ⟨hid, htaskId, fun h => ?_⟩ fun _ => hexact) fun _ => .done
  rw [hstatus, ← hsame h]
  exact ⟨h, .inl rfl⟩

/-- A save leaves the other tasks alone. -/
theorem mem_of_saveTask {writer : TaskWriter} {other : Task} (hother : other ∈ s.tasks)
    (hid : other.id ≠ task.id) : other ∈ ((saveTask writer task).run s).2.tasks := by
  rw [saveTask, Prog.run_atomic]
  split
  · exact hother
  · exact Collection.mem_save.mpr (.inr ⟨hother, hid⟩)

theorem mem_of_failTask {writer : TaskWriter} {now : Nat} {error : String} {retryable : Bool}
    {other : Task} (hother : other ∈ s.tasks) (hid : other.id ≠ task.id) :
    other ∈ ((failTask writer now task error retryable).run s).2.tasks := by
  have hcopy : other.id ≠ (task.afterFailure now error retryable).id := by
    rw [(afterFailure_frame now error retryable task).1]
    exact hid
  have hsaved : other ∈ ((saveTask writer (task.afterFailure now error retryable)).run s).2.tasks :=
    mem_of_saveTask hother hcopy
  rcases hrun : (saveTask writer (task.afterFailure now error retryable)).run s with ⟨r, t⟩
  rw [hrun] at hsaved
  cases r with
  | ok a =>
      rw [failTask, Prog.run_bind_ok hrun]
      exact hsaved
  | error e =>
      rw [failTask, Prog.run_bind_error hrun]
      exact hsaved

/-- The expired tasks are open, and each of them is saved once. -/
theorem recoverTasks_advances (now failedAt : Nat) (expired : List Task)
    (hnodup : (expired.map Task.id).Nodup) (hstored : ∀ task ∈ expired, task ∈ s.tasks)
    (hopen : ∀ task ∈ expired, task.status.isTerminal = false) :
    AdvancesRun acknowledged (recoverTasks now failedAt expired) s := by
  induction expired generalizing s with
  | nil => exact .done
  | cons task rest ih =>
      obtain ⟨hfirst, hrest⟩ := List.nodup_cons.mp hnodup
      have hmem := hstored task List.mem_cons_self
      have htask := hopen task List.mem_cons_self
      have hne : ∀ other ∈ rest, other.id ≠ task.id := fun other hother hid =>
        hfirst (List.mem_map.mpr ⟨other, hother, hid⟩)
      have hother := fun other (h : other ∈ rest) => hstored other (List.mem_cons_of_mem _ h)
      have hopen' := fun other (h : other ∈ rest) => hopen other (List.mem_cons_of_mem _ h)
      rw [recoverTasks]
      split
      · refine .bind (saveTask_advances hmem (.of_open rfl rfl htask) fun _ => rfl) fun _ => ?_
        exact ih hrest (fun other h => mem_of_saveTask (hother other h) (hne other h)) hopen'
      · refine .bind (failTask_advances .reclaim failedAt "task_lease_expired" true hmem
          fun h => by rw [htask] at h; cases h) fun _ => ?_
        exact ih hrest (fun other h => mem_of_failTask (hother other h) (hne other h)) hopen'

theorem reclaimExpiredTasks_advances (taskType : String) (now failedAt : Nat) :
    AdvancesRun acknowledged (reclaimExpiredTasks taskType now failedAt) s := by
  have hmem : ∀ task ∈ s.tasks.filter (Task.isExpired taskType now),
      task ∈ s.tasks ∧ task.isExpired taskType now = true := fun task h => Collection.mem_filter.mp h
  refine .find (recoverTasks_advances now failedAt _ ?_ (fun task h => (hmem task h).1) ?_)
  · exact s.tasks.nodup.sublist (List.filter_sublist.map _)
  · intro task htask
    have hexpired := (hmem task htask).2
    simp only [Task.isExpired, Bool.and_eq_true, Bool.or_eq_true, beq_iff_eq] at hexpired
    rcases hexpired.1.2 with hstatus | hstatus
    · rw [hstatus]
      rfl
    · rw [hstatus]
      rfl

/-! ### The endpoints -/

def TaskStore.task? (s : TaskStore) (taskId : String) : Option Task :=
  s.tasks.find? fun task => task.taskId == taskId

theorem mem_of_task? {taskId : String} (h : s.task? taskId = some task) :
    task ∈ s.tasks ∧ task.taskId = taskId := by
  obtain ⟨hmem, hid⟩ := Collection.mem_of_find? h
  exact ⟨hmem, by simpa using hid⟩

/-- A part that starts with a fresh copy of a task. -/
theorem findTask_advances {taskId : String} {f : Option Task → TaskHandler β}
    (hnone : AdvancesRun acknowledged (f none) s)
    (hsome : ∀ task, s.task? taskId = some task → AdvancesRun acknowledged (f (some task)) s) :
    AdvancesRun acknowledged (findTask taskId >>= f) s := by
  refine .find ?_
  cases htask : s.task? taskId with
  | none =>
      rw [TaskStore.task?] at htask
      rw [htask]
      exact hnone
  | some task =>
      have hfound := hsome task htask
      rw [TaskStore.task?] at htask
      rw [htask]
      exact hfound

theorem cancel_advance (now : Nat) (task : Task) : Advance acknowledged task (task.cancel now) ∧
    (task.Exact → (task.cancel now).Exact) := by
  rw [Task.cancel]
  split
  · rename_i hstatus
    exact ⟨.of_open rfl rfl (by rw [hstatus]; rfl), fun _ => rfl⟩
  · rename_i hstatus
    refine ⟨.of_open rfl rfl (by rw [hstatus]; rfl), fun h => ?_⟩
    rw [Task.Exact, hstatus] at h
    exact h
  · exact ⟨.refl task, id⟩

theorem cancelTask_advances (taskId : String) (now : Nat) :
    AdvancesRun acknowledged (cancelTask taskId now) s := by
  refine findTask_advances .done fun task htask => ?_
  obtain ⟨hadvance, hexact⟩ : Advance acknowledged task (task.cancel now) ∧ _ :=
    cancel_advance now task
  exact .bind (saveTask_advances (mem_of_task? htask).1 hadvance hexact) fun _ => Advances.refl _

theorem finishProbeTask_advances (agentId taskId : String) (resultCount now : Nat)
    (hsame : ∀ task, taskId ≠ "" → s.task? taskId = some task → task.targetId = agentId →
      task.taskType = "node.probe" → task.status.isTerminal = true →
      task.status = task.completedStatus) :
    AdvancesRun acknowledged (finishProbeTask agentId taskId resultCount now) s := by
  rw [finishProbeTask]
  split
  · exact .done
  · rename_i hid
    refine findTask_advances .done fun task htask => ?_
    dsimp only
    split
    · rename_i hprobe
      exact .bind (completeTask_advances now _ _ (mem_of_task? htask).1
        (hsame task hid htask hprobe.1 hprobe.2)) fun _ => .done
    · exact .done

/-! ### Acknowledgements -/

/-- The release that an acknowledgement is accepted for. -/
def TaskStore.acceptedRelease? (s : TaskStore) (agentId : String) (payload : AgentAck) :
    Option ConfigRelease :=
  if payload.nodeId ≠ agentId ∨
      (highestSequence? (s.acks.filter fun ack => ack.nodeId == agentId)).any
        (fun ack => payload.sequence = ack.sequence) then none
  else
    (s.releases.find? fun r => r.releaseId == payload.releaseId).bind fun release =>
      (s.desired.find? fun d => d.releaseId == payload.releaseId && d.nodeId == agentId).bind
        fun desired =>
          if agentId ∈ release.nodeIds ∧ payload.desiredVersion = desired.desiredVersion ∧
            payload.bundleHash = desired.bundleHash then some release else none

/-- The acknowledgement is accepted, and the last that its release waits for. -/
def TaskStore.Settles (s : TaskStore) (agentId : String) (payload : AgentAck)
    (release : ConfigRelease) : Prop :=
  s.acceptedRelease? agentId payload = some release ∧ ∀ nodeId ∈ release.nodeIds,
    nodeId = agentId ∨ ∃ ack ∈ s.acks, ack.releaseId = release.releaseId ∧ ack.nodeId = nodeId

theorem AdvancesRun.write {label : TaskLabel} {w : TaskStore → TaskStore} {f : Unit → TaskHandler β}
    (hw : (w s).tasks = s.tasks) (h : AdvancesRun acknowledged (f ()) (w s)) :
    AdvancesRun acknowledged (Prog.write lostConnection label w >>= f) s := by
  rw [AdvancesRun, hw] at h
  exact h

theorem settled_terminal (release : ConfigRelease) (acks : List AgentAck) (finishedAt : Nat)
    (task : Task) : (task.settled release acks finishedAt).status.isTerminal = true := by
  rw [Task.settled]
  split
  · rfl
  · rfl

/-- A release that is finished finishes its task, which is to be inactive already. -/
theorem settleRelease_advances (finishedAt : Nat) (release : ConfigRelease)
    (hack : acknowledged release.taskId)
    (hinactive : Answered release.nodeIds
        (s.acks.filter fun ack => ack.releaseId == release.releaseId) →
      release.taskId ≠ "" → ∀ task, s.task? release.taskId = some task → task.active = false) :
    AdvancesRun acknowledged (settleRelease finishedAt release) s := by
  refine .find ?_
  dsimp only
  split
  · rename_i hanswered
    have hanswered := answered_iff.mp hanswered
    have htaskId : ∀ acks, (finishedRelease release acks).taskId = release.taskId := by
      intro acks
      rw [finishedRelease]
      split
      · rfl
      · rfl
    refine .write rfl ?_
    split
    · exact .done
    · rename_i hid
      rw [htaskId] at hid ⊢
      refine findTask_advances .done fun task htask => ?_
      obtain ⟨hmem, hsame⟩ := mem_of_task? htask
      have hstatus := settled_terminal (finishedRelease release
        (latestAckPerNode (s.acks.filter fun ack => ack.releaseId == release.releaseId)))
        (latestAckPerNode (s.acks.filter fun ack => ack.releaseId == release.releaseId))
        finishedAt task
      refine saveTask_advances hmem ⟨rfl, rfl, fun _ => ⟨hstatus, .inr (hsame ▸ hack)⟩⟩ fun _ => ?_
      rw [Task.Exact, hstatus]
      exact hinactive hanswered hid task htask
  · exact .done

theorem agentAck_advances (receivedAt finishedAt : Nat) (agentId : String) (payload : AgentAck)
    (hack : ∀ release ∈ s.releases, release.releaseId = payload.releaseId →
      acknowledged release.taskId)
    (hinactive : ∀ release, s.Settles agentId payload release → release.taskId ≠ "" →
      ∀ task, s.task? release.taskId = some task → task.active = false) :
    AdvancesRun acknowledged (agentAck receivedAt finishedAt agentId payload) s := by
  have hreject : ∀ {condition : Prop} [Decidable condition] {e : TaskError}
      {f : Unit → TaskHandler Bool}, (¬ condition → AdvancesRun acknowledged (f ()) s) →
      AdvancesRun acknowledged (Prog.reject condition e >>= f) s := by
    intro condition _ e f hf
    rw [AdvancesRun, Prog.run_reject_bind]
    split
    · exact Advances.refl _
    · rename_i h
      exact hf h
  refine hreject fun hnode => .find ?_
  dsimp only
  split
  · exact .done
  · rename_i hnew
    refine .find ?_
    cases hrelease : s.releases.find? fun r => r.releaseId == payload.releaseId with
    | none => exact .done
    | some release =>
        refine hreject fun hassigned => .find ?_
        cases hdesired : s.desired.find? fun d =>
            d.releaseId == payload.releaseId && d.nodeId == agentId with
        | none => exact .done
        | some desired =>
            refine hreject fun hmatch => .write rfl (.bind ?_ fun _ => .done)
            have hmem := List.mem_of_find?_eq_some hrelease
            have hid : release.releaseId = payload.releaseId := by
              simpa using List.find?_some hrelease
            refine settleRelease_advances finishedAt release (hack release hmem hid)
              fun hanswered => hinactive release ⟨?_, ?_⟩
            · rw [TaskStore.acceptedRelease?, if_neg (not_or.mpr ⟨hnode, hnew⟩), hrelease,
                Option.bind_some, hdesired, Option.bind_some, if_pos]
              obtain ⟨hversion, hhash⟩ := not_or.mp hmatch
              exact ⟨not_not.mp hassigned, not_not.mp hversion, not_not.mp hhash⟩
            · intro nodeId hnodeId
              obtain ⟨ack, hmem, hsame⟩ := hanswered nodeId hnodeId
              obtain ⟨hmem, hackId⟩ := List.mem_filter.mp hmem
              rcases List.mem_append.mp hmem with hold | hlast
              · exact .inr ⟨ack, hold, by simpa using hackId, hsame⟩
              · rw [List.mem_singleton.mp hlast] at hsame
                exact .inl (hsame.symm.trans (not_not.mp hnode))

end Run

/-! ## Sequences of operations -/

/-- An operation; those on a task start with a fresh copy of it. -/
inductive TaskOperation where
  | create (draws : TaskDraws) (request : TaskRequest)
  | claim (taskType : String) (lease : Lease)
  | claimProbe (nodeId : String) (lease : Lease)
  | heartbeat (taskId : String) (now leaseSeconds : Nat)
  | cancel (taskId : String) (now : Nat)
  | complete (taskId : String) (now : Nat) (result : TaskResult) (message : String)
  | fail (taskId : String) (now : Nat) (error : String) (retryable : Bool)
  | reclaim (taskType : String) (now failedAt : Nat)
  | probeResults (agentId taskId : String) (resultCount now : Nat)
  | acknowledge (receivedAt finishedAt : Nat) (agentId : String) (payload : AgentAck)

/-- A part of the task service, on a fresh copy of a task. -/
def onTask (taskId : String) (f : Task → TaskHandler Task) : TaskHandler Unit := do
  match ← findTask taskId with
  | none => return ()
  | some task => do
    let _ ← f task

def TaskOperation.program : TaskOperation → TaskHandler Unit
  | .create draws request => do
    let _ ← createTask draws request
  | .claim taskType lease => do
    let _ ← claimDueTask taskType lease
  | .claimProbe nodeId lease => do
    let _ ← claimProbeTaskForNode nodeId lease
  | .heartbeat taskId now leaseSeconds => onTask taskId (heartbeatTask now leaseSeconds)
  | .cancel taskId now => do
    let _ ← cancelTask taskId now
  | .complete taskId now result message =>
    onTask taskId fun task => completeTask now task result message
  | .fail taskId now error retryable =>
    onTask taskId fun task => failTask .fail now task error retryable
  | .reclaim taskType now failedAt => reclaimExpiredTasks taskType now failedAt
  | .probeResults agentId taskId resultCount now => finishProbeTask agentId taskId resultCount now
  | .acknowledge receivedAt finishedAt agentId payload => do
    let _ ← agentAck receivedAt finishedAt agentId payload

/-- The store after an operation, whether it returns or raises. -/
def TaskOperation.after (op : TaskOperation) (s : TaskStore) : TaskStore := (op.program.run s).2

/-- The operation acknowledges the release of a task. -/
def TaskOperation.Acknowledges (s : TaskStore) (taskId : String) : TaskOperation → Prop
  | .acknowledge _ _ _ payload =>
    ∃ release ∈ s.releases, release.releaseId = payload.releaseId ∧ release.taskId = taskId
  | _ => False

/-- A finished task is finished again only as it is, and a release that an acknowledgement
finishes has no active task. -/
def TaskOperation.Suits (s : TaskStore) : TaskOperation → Prop
  | .complete taskId _ _ _ => ∀ task, s.task? taskId = some task →
    task.status.isTerminal = true → task.status = task.completedStatus
  | .fail taskId _ _ retryable => ∀ task, s.task? taskId = some task →
    task.status.isTerminal = true → task.status = task.failedStatus retryable
  | .probeResults agentId taskId _ _ => ∀ task, taskId ≠ "" → s.task? taskId = some task →
    task.targetId = agentId → task.taskType = "node.probe" → task.status.isTerminal = true →
    task.status = task.completedStatus
  | .acknowledge _ _ agentId payload => ∀ release, s.Settles agentId payload release →
    release.taskId ≠ "" → ∀ task, s.task? release.taskId = some task → task.active = false
  | _ => True

theorem onTask_advances {acknowledged : String → Prop} {s : TaskStore} {taskId : String}
    {f : Task → TaskHandler Task}
    (h : ∀ task, s.task? taskId = some task → AdvancesRun acknowledged (f task) s) :
    AdvancesRun acknowledged (onTask taskId f) s :=
  findTask_advances .done fun task htask => .bind (h task htask) fun _ => .done

/-- What one operation does to the tasks. -/
theorem TaskOperation.advances {op : TaskOperation} {s : TaskStore} (h : op.Suits s) :
    Advances (fun taskId => op.Acknowledges s taskId) s.tasks (op.after s).tasks := by
  cases op with
  | create draws request => exact AdvancesRun.bind (createTask_advances _ _) fun _ => .done
  | claim taskType lease => exact AdvancesRun.bind (claimDueTask_advances _ _) fun _ => .done
  | claimProbe nodeId lease =>
      exact AdvancesRun.bind (claimProbeTaskForNode_advances _ _) fun _ => .done
  | heartbeat taskId now leaseSeconds =>
      exact onTask_advances fun task htask => heartbeatTask_advances _ _ (mem_of_task? htask).1
  | cancel taskId now => exact AdvancesRun.bind (cancelTask_advances _ _) fun _ => .done
  | complete taskId now result message =>
      exact onTask_advances fun task htask =>
        completeTask_advances _ _ _ (mem_of_task? htask).1 (h task htask)
  | fail taskId now error retryable =>
      exact onTask_advances fun task htask =>
        failTask_advances _ _ _ _ (mem_of_task? htask).1 (h task htask)
  | reclaim taskType now failedAt => exact reclaimExpiredTasks_advances _ _ _
  | probeResults agentId taskId resultCount now => exact finishProbeTask_advances _ _ _ _ h
  | acknowledge receivedAt finishedAt agentId payload =>
      exact AdvancesRun.bind
        (agentAck_advances _ _ _ _ (fun release hmem hid => ⟨release, hmem, hid, rfl⟩) h)
        fun _ => .done

/-! ## Runs -/

def ActiveExact (s : TaskStore) : Prop := ∀ task ∈ s.tasks, task.Exact

/-- After the operation a finished task is finished, and has the same status unless the operation
acknowledges its release. -/
def TerminalKept (op : TaskOperation) (s s' : TaskStore) : Prop :=
  ∀ task ∈ s.tasks, task.status.isTerminal = true →
    ∃ task' ∈ s'.tasks, task'.id = task.id ∧ task'.status.isTerminal = true ∧
      (task'.status = task.status ∨ op.Acknowledges s task.taskId)

/-- In every state of a run the active tasks are those that are not finished, and every operation
keeps the finished ones. -/
def Absorbing : TaskStore → List TaskOperation → Prop
  | s, [] => ActiveExact s
  | s, op :: ops => ActiveExact s ∧ TerminalKept op s (op.after s) ∧ Absorbing (op.after s) ops

/-- Every operation of a run suits the state that it finds. -/
def AllSuit : TaskStore → List TaskOperation → Prop
  | _, [] => True
  | s, op :: ops => op.Suits s ∧ AllSuit (op.after s) ops

/-- Any sequence of operations, each of which suits the state that it finds: finished tasks stay
finished, and the active tasks are the others. -/
theorem terminal_absorbing (ops : List TaskOperation) (s : TaskStore) (hs : ActiveExact s)
    (hsuit : AllSuit s ops) : Absorbing s ops := by
  induction ops generalizing s with
  | nil => exact hs
  | cons op ops ih =>
      have hadvances := TaskOperation.advances hsuit.1
      refine ⟨hs, fun task hmem hterminal => ?_, ih _ (hadvances.exact hs) hsuit.2⟩
      obtain ⟨task', hmem', hadvance⟩ := hadvances.kept task hmem
      exact ⟨task', hmem', hadvance.id, hadvance.terminal hterminal⟩

/-! ## A release that finishes an active task -/

/-- A release of one node, with the task `t`, which is yet to be created. -/
def publishedStore : TaskStore where
  tasks := ⟨[], by decide⟩
  sources := []
  releases := [⟨"r", "s", ["a"], [], none, "t", .applying, "", ""⟩]
  desired := [⟨"r", "a", "s", 1, 1, "h", [], none⟩]
  acks := []

def publishTask : TaskOperation :=
  .create ⟨"1", "t", 1⟩ ⟨"config.publish", "site", "s", ⟨"", false⟩, "k", "admin", ""⟩

def publishAck : TaskOperation :=
  .acknowledge 2 2 "a" ⟨"a", "r", 1, 1, "h", "h", true, true, false, false, "", "", 1, 0⟩

/-- A probe, from its creation to its results. -/
def probeRun : List TaskOperation :=
  [.create ⟨"2", "p", 1⟩ ⟨"node.probe", "node", "a", ⟨"", false⟩, "q", "admin", ""⟩,
    .claimProbe "a" ⟨"monitor", 60, 2⟩, .probeResults "a" "p" 1 3]

theorem terminal_absorbing_probe : Absorbing publishedStore probeRun := by
  refine terminal_absorbing probeRun publishedStore (fun _ h => nomatch h)
    ⟨trivial, trivial, fun task _ htask _ _ hterminal => ?_, trivial⟩
  cases htask
  cases hterminal

/-- The acknowledgement leaves the task succeeded and active. -/
theorem acknowledged_task_active : ¬ Absorbing publishedStore [publishTask, publishAck] := by
  intro h
  have hexact : ∀ task ∈ (publishAck.after (publishTask.after publishedStore)).tasks,
      task.Exact := h.2.2.2.2
  have hstored : ∃ task ∈ (publishAck.after (publishTask.after publishedStore)).tasks.docs,
      task.active ≠ !task.status.isTerminal := by
    decide +kernel
  obtain ⟨task, hmem, hne⟩ := hstored
  exact hne (hexact task hmem)

end Grouproxy.Tasks
