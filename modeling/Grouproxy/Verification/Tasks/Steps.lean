import Grouproxy.Model.Workers
import Grouproxy.Verification.Tasks.Terminal

/-! # The operations of workers and cancellations

What each operation does to the stored tasks when others move in between. A worker knows of its
copy of a task what it knew of the stored task when it read it.
-/

namespace Grouproxy.Tasks

open Programs Collections

/-! ## Steps -/

/-- What a party keeps of what it did: the task that a worker has claimed and neither completed
nor failed since, and the status that a cancellation has saved. -/
inductive TaskNote where
  | worker (held : Option String)
  | canceller (answered : Option TaskStatus)
  deriving DecidableEq

def TaskNote.held : TaskNote → Option String
  | .worker held => held
  | .canceller _ => none

def TaskNote.answered : TaskNote → Option TaskStatus
  | .worker _ => none
  | .canceller answered => answered

def taskNext : TaskNote → TaskLabel → TaskStore → TaskNote
  | .worker _, .claim due, s => .worker ((firstTask? (s.tasks.filter due)).map Task.id)
  | .worker held, .save .complete task, s => .worker (if s.refuses task then held else none)
  | .worker held, .save .fail task, s => .worker (if s.refuses task then held else none)
  | .canceller answered, .save (.cancel _) task, s =>
    .canceller (if s.refuses task then answered else some task.status)
  | g, _, _ => g

/-- A copy is saved, or refused. -/
def Saved (task : Task) (s s' : TaskStore) : Prop :=
  s'.tasks = if s.refuses task then s.tasks else s.tasks.save task

def TaskStatus.inProgress : TaskStatus → Bool
  | .running | .cancelRequested => true
  | .queued | .succeeded | .failed | .cancelled | .deadLetter => false

/-- What a worker makes of its copy in the end. -/
structure Ended (copy task : Task) : Prop where
  id : task.id = copy.id
  taskId : task.taskId = copy.taskId
  idle : task.status.inProgress = false
  cancelled : task.cancelRequested = true → task.status = .cancelled

/-- What is known of the store, of the copies of workers and of those that cancellations have read,
and whether workers also recover and create tasks. -/
structure TaskRules where
  Inv : TaskStore → Prop
  Good : Task → Prop
  Read : Task → Prop
  Maintains : Prop

inductive TaskStep (rules : TaskRules) :
    TaskNote → TaskLabel → TaskStore → TaskStore → Prop where
  | quiet {g : TaskNote} {l : TaskLabel} {s s' : TaskStore} (hnext : taskNext g l s = g)
      (htasks : s'.tasks = s.tasks) : TaskStep rules g l s s'
  | claim {due : Task → Bool} {claimed : Task → Task} {s s' : TaskStore}
      (hdue : ∀ task, due task = true → task.status = .queued)
      (hclaimed : ∀ task, (claimed task).id = task.id ∧ (claimed task).taskId = task.taskId ∧
        (claimed task).status = .running)
      (htasks : s'.tasks = match firstTask? (s.tasks.filter due) with
        | none => s.tasks
        | some task => s.tasks.save (claimed task)) :
      TaskStep rules (.worker none) (.claim due) s s'
  | heartbeat {task : Task} {s s' : TaskStore} (hgood : rules.Good task) (htasks : Saved task s s') :
      TaskStep rules (.worker (some task.id)) (.save .heartbeat task) s s'
  | release {writer : TaskWriter} {copy task : Task} {s s' : TaskStore}
      (hwriter : writer = .complete ∨ writer = .fail) (hgood : rules.Good copy)
      (hended : Ended copy task) (htasks : Saved task s s') :
      TaskStep rules (.worker (some copy.id)) (.save writer task) s s'
  | cancel {answered : Option TaskStatus} {read : Task} {now : Nat} {s s' : TaskStore}
      (hread : rules.Read read) (htasks : Saved (read.cancel now) s s') :
      TaskStep rules (.canceller answered) (.save (.cancel read.status) (read.cancel now)) s s'
  | reclaim {held : Option String} {task : Task} {s s' : TaskStore} (hmaintains : rules.Maintains)
      (htasks : Saved task s s') : TaskStep rules (.worker held) (.save .reclaim task) s s'
  | insert {held : Option String} {task : Task} {s s' : TaskStore} (hmaintains : rules.Maintains)
      (hnew : ∀ other ∈ s.tasks, other.id ≠ task.id) (htasks : s'.tasks = s.tasks.save task) :
      TaskStep rules (.worker held) (.insert task) s s'

/-- The stored task that a worker holds is good. -/
def HeldGood (Good : Task → Prop) (g : TaskNote) (s : TaskStore) : Prop :=
  ∀ id, g.held = some id → ∃ task, s.tasks.get? id = some task ∧ Good task

theorem Ended.completed (now : Nat) (result : TaskResult) (message : String) (copy : Task) :
    Ended copy (copy.completed now result message) := by
  refine ⟨rfl, rfl, ?_, fun h => if_pos h⟩
  rw [Task.completed]
  split
  · rfl
  · rfl

/-- The worker sets the flag of its own copy. -/
theorem Ended.disabled (now : Nat) (result : TaskResult) (message : String) (copy : Task) :
    Ended copy ({ copy with cancelRequested := true }.completed now result message) :=
  ⟨rfl, rfl, rfl, fun _ => rfl⟩

theorem Ended.afterFailure (now : Nat) (error : String) (retryable : Bool) (copy : Task) :
    Ended copy (copy.afterFailure now error retryable) := by
  rw [Task.afterFailure]
  split
  · exact ⟨rfl, rfl, rfl, fun _ => rfl⟩
  · rename_i hflag
    split
    · exact ⟨rfl, rfl, rfl, fun h => absurd h hflag⟩
    · exact ⟨rfl, rfl, rfl, fun h => absurd h hflag⟩

/-! ## The parts of a worker -/

section Parts

variable {rules : TaskRules} {α β : Type} {g g' g'' : TaskNote}
  {held : Option String} {task : Task} {R : TaskNote → Except TaskError β → Prop}

/-- The handler takes the operations of workers and cancellations, from a note on, in stores of
which `Inv` holds. -/
abbrev KeepsTask (rules : TaskRules) (g : TaskNote)
    (p : TaskHandler α) (Q : TaskNote → Except TaskError α → Prop) : Prop :=
  p.Follows taskNext (fun g s => rules.Inv s ∧ HeldGood rules.Good g s) (TaskStep rules) Q g

/-- The part ends with a note, or raises what is no `SubscriptionError`. -/
def EndsWith (g' g : TaskNote) : Except TaskError α → Prop
  | .ok _ => g = g'
  | .error e => ∀ code retryable, e ≠ .subscription code retryable

theorem KeepsTask.bind {p : TaskHandler α} {f : α → TaskHandler β}
    (h : KeepsTask rules g p (EndsWith g'))
    (hf : ∀ a, KeepsTask rules g' (f a) (EndsWith g'')) :
    KeepsTask rules g (p >>= f) (EndsWith g'') := by
  refine Prog.Follows.bind h (fun last a hlast => ?_) fun _ _ he => he
  rw [show last = g' from hlast]
  exact hf a

theorem find_keeps {label : TaskLabel} {query : TaskStore → α} {f : α → TaskHandler β}
    (hnext : ∀ s, taskNext g label s = g)
    (hf : ∀ s, rules.Inv s → KeepsTask rules g (f (query s)) R) :
    KeepsTask rules g (find label query >>= f) R :=
  .read_bind (fun s _ => .quiet (hnext s) rfl) fun s hs => by
    rw [hnext s]
    exact hf s hs.1

theorem appendAudit_keeps : KeepsTask rules (.worker held) appendAudit
    (EndsWith (.worker held)) :=
  .atomic (fun _ _ => .quiet rfl rfl) fun _ _ => rfl

/-- A save, after which the note is `g'` unless the indexes refuse it. -/
theorem saveTask_keeps {writer : TaskWriter}
    (hnext : ∀ s, s.refuses task = false → taskNext g (.save writer task) s = g')
    (hstep : ∀ s s', Saved task s s' → TaskStep rules g (.save writer task) s s') :
    KeepsTask rules g (saveTask writer task) (EndsWith g') := by
  refine .atomic (fun s _ => hstep s _ ?_) fun s _ => ?_
  · rw [Saved]
    split
    · rfl
    · rfl
  · split
    · exact fun _ _ h => nomatch h
    · rename_i hrefused
      exact hnext s (Bool.eq_false_iff.mpr hrefused)

theorem releaseTask_keeps {writer : TaskWriter} {copy : Task}
    (hwriter : writer = .complete ∨ writer = .fail) (hgood : rules.Good copy) (hended : Ended copy task) :
    KeepsTask rules (.worker (some copy.id)) (saveTask writer task)
      (EndsWith (.worker none)) := by
  refine saveTask_keeps (fun s hfree => ?_) fun s s' => .release hwriter hgood hended
  rcases hwriter with rfl | rfl
  · simp [taskNext, hfree]
  · simp [taskNext, hfree]

theorem completeTask_keeps (now : Nat) (result : TaskResult) (message : String)
    (hgood : rules.Good task) :
    KeepsTask rules (.worker (some task.id)) (completeTask now task result message)
      (EndsWith (.worker none)) :=
  KeepsTask.bind (releaseTask_keeps (.inl rfl) hgood (.completed now result message task))
    fun _ => .done rfl

theorem failTask_keeps (now : Nat) (error : String) (retryable : Bool) (hgood : rules.Good task) :
    KeepsTask rules (.worker (some task.id)) (failTask .fail now task error retryable)
      (EndsWith (.worker none)) :=
  KeepsTask.bind (releaseTask_keeps (.inr rfl) hgood (.afterFailure now error retryable task))
    fun _ => .done rfl

/-- The worker goes on with the copy that it has saved. -/
theorem heartbeatTask_keeps (now leaseSeconds : Nat) {f : Task → TaskHandler β}
    (hgood : rules.Good { task with
      heartbeatAt := some now, leaseExpiresAt := some (now + leaseSeconds) })
    (hf : ∀ copy, copy.id = task.id → rules.Good copy →
      KeepsTask rules (.worker (some task.id)) (f copy) (EndsWith g')) :
    KeepsTask rules (.worker (some task.id)) (heartbeatTask now leaseSeconds task >>= f)
      (EndsWith g') := by
  rw [heartbeatTask, Prog.bind_assoc]
  exact KeepsTask.bind (saveTask_keeps (fun _ _ => rfl) fun s s' => .heartbeat hgood) fun _ =>
    hf _ rfl hgood

/-! ### Maintenance -/

/-- A part that leaves in hand what a worker holds, also where it raises. -/
abbrev KeepsHeld (rules : TaskRules) (held : Option String)
    (p : TaskHandler α) : Prop :=
  KeepsTask rules (.worker held) p fun g _ => g = .worker held

theorem KeepsHeld.bind {p : TaskHandler α} {f : α → TaskHandler β}
    (h : KeepsHeld rules held p) (hf : ∀ a, KeepsHeld rules held (f a)) :
    KeepsHeld rules held (p >>= f) := by
  refine Prog.Follows.bind h (fun last a hlast => ?_) fun _ _ hlast => hlast
  rw [hlast]
  exact hf a

theorem KeepsHeld.tryCatch {p : TaskHandler α} {f : TaskError → TaskHandler α}
    (h : KeepsHeld rules held p) (hf : ∀ e, KeepsHeld rules held (f e)) :
    KeepsHeld rules held (p.tryCatch f) := by
  refine Prog.Follows.tryCatch h (fun _ _ hlast => hlast) fun last e hlast => ?_
  rw [hlast]
  exact hf e

section Maintenance

variable (hmaintains : rules.Maintains)

include hmaintains

theorem recoverTasks_keeps (now failedAt : Nat) (expired : List Task) :
    KeepsTask rules (.worker held) (recoverTasks now failedAt expired)
      (EndsWith (.worker held)) := by
  have hsave : ∀ task : Task, KeepsTask rules (.worker held) (saveTask .reclaim task)
      (EndsWith (.worker held)) :=
    fun task => saveTask_keeps (fun _ _ => rfl) fun s s' => .reclaim hmaintains
  induction expired with
  | nil => exact .done rfl
  | cons task rest ih =>
      rw [recoverTasks]
      split
      · exact (hsave _).bind fun _ => ih
      · exact KeepsTask.bind (KeepsTask.bind (hsave _) fun _ => .done rfl) fun _ => ih

theorem reclaimExpiredTasks_keeps (taskType : String) (now failedAt : Nat) :
    KeepsTask rules (.worker held) (reclaimExpiredTasks taskType now failedAt)
      (EndsWith (.worker held)) :=
  find_keeps (fun _ => rfl) fun _ _ => recoverTasks_keeps hmaintains now failedAt _

theorem insertTask_keeps (task : Task) : KeepsHeld rules held (insertTask task) := by
  refine .atomic (fun s _ => ?_) fun s _ => rfl
  split
  · exact .quiet rfl rfl
  · rename_i hfree
    refine .insert hmaintains (fun other hother hid => hfree ?_) rfl
    exact List.any_eq_true.mpr ⟨other, hother, by simp [hid]⟩

theorem createTask_keeps (draws : TaskDraws) (request : TaskRequest) :
    KeepsHeld rules held (createTask draws request) := by
  refine find_keeps (fun _ => rfl) fun s _ => ?_
  split
  · exact .done rfl
  · refine KeepsHeld.tryCatch (.bind (insertTask_keeps hmaintains _) fun _ => .done rfl) fun e => ?_
    cases e with
    | duplicateKey =>
        refine find_keeps (fun _ => rfl) fun s _ => ?_
        split
        · exact .done rfl
        · exact .done rfl
    | http | subscription | backup | timeout | nameError | other => exact .done rfl

theorem enqueueRefreshTask_keeps (draws : TaskDraws) (uuid : String) (source : SubscriptionSource)
    (createdBy : String) (idempotencyKey : Option String) (requestId : String) :
    KeepsHeld rules held
      (enqueueRefreshTask draws uuid source createdBy idempotencyKey requestId) := by
  refine find_keeps (fun _ => rfl) fun s _ => ?_
  split
  · exact .done rfl
  · refine KeepsHeld.tryCatch (.bind (createTask_keeps hmaintains _ _) fun _ => .done rfl) fun e => ?_
    cases e with
    | duplicateKey =>
        refine find_keeps (fun _ => rfl) fun s _ => ?_
        split
        · exact .done rfl
        · exact .done rfl
    | http | subscription | backup | timeout | nameError | other => exact .done rfl

theorem scheduleSources_keeps (now : Nat) (draws : SubscriptionSource → TaskDraws)
    (sources : List SubscriptionSource) :
    KeepsHeld rules held (scheduleSources now draws sources) := by
  induction sources with
  | nil => exact .done rfl
  | cons source rest ih =>
      rw [scheduleSources]
      split
      · exact .bind (enqueueRefreshTask_keeps hmaintains _ _ _ _ _ _) fun _ => ih
      · exact ih

theorem scheduleDueSources_keeps (now : Nat) (draws : SubscriptionSource → TaskDraws) :
    KeepsHeld rules held (scheduleDueSources now draws) :=
  find_keeps (fun _ => rfl) fun _ _ => scheduleSources_keeps hmaintains now draws _

end Maintenance

/-! ### Claim and execution -/

/-- What a claim ends with: a good copy of the task in hand, or nothing. -/
def Claims (Good : Task → Prop) (g : TaskNote) (r : Except TaskError (Option Task)) : Prop :=
  ∀ found, r = .ok found →
    g = .worker (found.map Task.id) ∧ ∀ task, found = some task → Good task

theorem claimTask_keeps {due : Task → Bool} {claimed : Task → Task}
    (hdue : ∀ task, due task = true → task.status = .queued)
    (hclaimed : ∀ task, (claimed task).id = task.id ∧ (claimed task).taskId = task.taskId ∧
      (claimed task).status = .running) :
    KeepsTask rules (.worker none) (claimTask due claimed) (Claims rules.Good) := by
  intro s _
  have hnext : taskNext (.worker none) (.claim due) s =
      .worker ((firstTask? (s.tasks.filter due)).map Task.id) := rfl
  dsimp only
  rw [hnext]
  cases hfirst : firstTask? (s.tasks.filter due) with
  | none =>
      refine ⟨.claim hdue hclaimed (by rw [hfirst]), .done fun found h => ?_⟩
      cases h
      exact ⟨rfl, fun _ h => nomatch h⟩
  | some task =>
      refine ⟨.claim hdue hclaimed (by rw [hfirst]),
        fun t ht => ⟨.quiet rfl rfl, fun found h => ?_⟩⟩
      -- What holds of the stored task holds of the copy that is read now.
      obtain ⟨stored, hfound, hgood⟩ := ht.2 task.id rfl
      have hsame : found = some stored := by
        rw [← hfound]
        exact (Except.ok.inj h).symm
      have hid : stored.id = task.id := (Collection.get?_eq_some.mp hfound).2
      rw [hsame]
      refine ⟨congrArg (fun id => TaskNote.worker (some id)) hid.symm, fun other hother => ?_⟩
      cases hother
      exact hgood

theorem claimDueTask_keeps (taskType : String) (lease : Lease) :
    KeepsTask rules (.worker none) (claimDueTask taskType lease) (Claims rules.Good) :=
  claimTask_keeps (fun _ hdue => (Task.isDue_iff.mp (Bool.and_eq_true_iff.mp hdue).2).1)
    fun _ => ⟨rfl, rfl, rfl⟩

section Worker

variable (input : RefreshInput)

/-- The body of the `try` ends with nothing in hand. Where it raises a `SubscriptionError`, the
task is still in hand. -/
def Refreshed (id : String) (g : TaskNote) : Except TaskError Unit → Prop
  | .ok _ => g = .worker none
  | .error e => (∀ code retryable, e ≠ .subscription code retryable) ∨ g = .worker (some id)

theorem refresh_keeps (source : SubscriptionSource) (htask : rules.Good task) :
    KeepsTask rules (.worker (some task.id)) ((refreshSteps input).refresh task source)
      (Refreshed task.id) := by
  refine Prog.Follows.bind (Q := fun g _ => g = .worker (some task.id))
    (.atomic (fun _ _ => .quiet rfl rfl) fun _ _ => rfl) (fun g result hg => ?_)
    fun g e hg => .inr hg
  rw [hg]
  refine (KeepsTask.bind (completeTask_keeps _ _ _ htask) fun _ => appendAudit_keeps).mono
    fun g r hend => ?_
  cases r with
  | ok a => exact hend
  | error e => exact .inl hend

theorem refreshFailed_keeps {e : TaskError} (htask : rules.Good task)
    (h : Refreshed task.id g (.error e)) :
    KeepsTask rules g ((refreshSteps input).refreshFailed task e)
      (EndsWith (.worker none)) := by
  cases e with
  | subscription code retryable =>
      have hg : g = .worker (some task.id) :=
        h.resolve_left fun hother => hother code retryable rfl
      rw [hg]
      exact KeepsTask.bind (failTask_keeps _ _ _ htask) fun _ => appendAudit_keeps
  | http | duplicateKey | backup | timeout | nameError | other =>
      exact .done fun _ _ h => nomatch h

variable (hgood : ∀ (task : Task) (heartbeatAt leaseExpiresAt : Option Nat), rules.Good task →
  rules.Good { task with heartbeatAt := heartbeatAt, leaseExpiresAt := leaseExpiresAt })

include hgood

theorem execute_keeps (htask : rules.Good task) :
    KeepsTask rules (.worker (some task.id)) ((refreshSteps input).execute task)
      (EndsWith (.worker none)) := by
  refine find_keeps (fun _ => rfl) fun s _ => ?_
  split
  · exact KeepsTask.bind (failTask_keeps _ _ _ htask) fun _ => .done rfl
  · rename_i source _
    split
    · exact KeepsTask.bind (KeepsTask.bind (releaseTask_keeps (.inl rfl) htask
        (.disabled _ _ _ task)) fun _ => .done rfl) fun _ => .done rfl
    · refine heartbeatTask_keeps _ _ (hgood task _ _ htask) fun copy hid hcopy => ?_
      rw [← hid]
      exact Prog.Follows.tryCatch (refresh_keeps input source hcopy) (fun _ _ hend => hend)
        fun g e hend => refreshFailed_keeps input hcopy hend

/-- A task is claimed and executed, if there is one. -/
theorem claimAndExecute_keeps {worked idle : α} :
    KeepsTask rules (.worker none)
      (do
        match ← (refreshSteps input).claimDueTask with
        | none => return idle
        | some task => do
          (refreshSteps input).execute task
          return worked)
      fun g r => r.isOk = true → g = .worker none := by
  have hraise : ∀ {g : TaskNote} {e : TaskError},
      (Except.error e : Except TaskError α).isOk = true → g = .worker none := fun h => nomatch h
  refine Prog.Follows.bind (claimDueTask_keeps _ _) (fun g found hclaims => ?_)
    fun _ _ _ => hraise
  obtain ⟨hg, hcopy⟩ := hclaims found rfl
  rw [hg]
  cases found with
  | none => exact .done fun _ => rfl
  | some task =>
      exact Prog.Follows.bind (execute_keeps input hgood (hcopy task rfl))
        (fun g _ hend => .done fun _ => hend) fun _ _ _ => hraise

theorem pass_keeps (hmaintains : rules.Maintains) :
    KeepsTask rules (.worker none) (refreshSteps input).pass
      fun g r => r.isOk = true → g = .worker none := by
  have hraise : ∀ {g : TaskNote} {e : TaskError},
      (Except.error e : Except TaskError Bool).isOk = true → g = .worker none := fun h => nomatch h
  refine Prog.Follows.bind (reclaimExpiredTasks_keeps hmaintains _ _ _) (fun g _ hg => ?_)
    fun _ _ _ => hraise
  rw [show g = .worker none from hg]
  refine Prog.Follows.bind (scheduleDueSources_keeps hmaintains _ _) (fun g _ hg => ?_)
    fun _ _ _ => hraise
  rw [hg]
  exact claimAndExecute_keeps input hgood

/-- An iteration after which the loop goes on leaves nothing in hand. -/
theorem iteration_keeps (hmaintains : rules.Maintains) :
    KeepsTask rules (.worker none) (refreshSteps input).iteration
      fun g r => r.isOk = true → g = .worker none := by
  refine Prog.Follows.bind (Q := fun g r => r.isOk = true → g = .worker none)
    (Prog.Follows.tryCatch (pass_keeps input hgood hmaintains) (fun _ _ h => h)
      fun _ _ _ => .done fun h => nomatch h)
    (fun g worked hg => ?_) fun _ _ h => fun hok => nomatch hok
  rw [hg rfl]
  split
  · exact .done fun _ => rfl
  · exact .done fun _ => rfl

omit input in
theorem runSubscriptionWorker_keeps (hmaintains : rules.Maintains) (inputs : List RefreshInput) :
    KeepsTask rules (.worker none)
      (runSubscriptionWorker .other (fun _ => false) (inputs.map refreshSteps))
      fun _ _ => True := by
  induction inputs with
  | nil => exact .done trivial
  | cons input rest ih =>
      refine .read_bind (fun _ _ => .quiet rfl rfl) fun _ _ => ?_
      refine Prog.Follows.bind (iteration_keeps input hgood hmaintains) (fun g _ hg => ?_) fun _ _ _ => trivial
      rw [hg rfl]
      exact ih

end Worker

/-! ### Cancellation -/

/-- A cancellation that returns has saved the status that it returns. -/
theorem cancelTask_keeps (taskId : String) (now : Nat)
    (hread : ∀ s task, rules.Inv s → s.task? taskId = some task → rules.Read task) :
    KeepsTask rules (.canceller none) (cancelTask taskId now)
      fun g r => ∀ status, r = .ok status → g = .canceller (some status) := by
  refine find_keeps (fun _ => rfl) fun s hs => ?_
  split
  · exact .done fun _ h => nomatch h
  · rename_i task htask
    have hcopy : rules.Read task := hread s task hs htask
    refine Prog.Follows.bind (Q := EndsWith (.canceller (some (task.cancel now).status)))
      (saveTask_keeps (fun s hfree => ?_) fun s s' => .cancel hcopy) (fun g _ hg => ?_)
      fun _ _ _ _ h => nomatch h
    · simp [taskNext, hfree]
    · rw [show g = _ from hg]
      exact .write_bind (fun _ _ => .quiet rfl rfl) fun _ _ => .done fun status h => by
        cases h
        rfl

end Parts

end Grouproxy.Tasks
