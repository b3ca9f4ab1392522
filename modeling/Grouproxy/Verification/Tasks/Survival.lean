import Grouproxy.Library.Outcomes
import Grouproxy.Model.Workers

/-! # Workers that survive errors

A worker goes on after an iteration exactly if no exception reaches a handler that logs, since
`logging` is not imported, and the wait raises nothing but its timeout.
-/

namespace Grouproxy.Tasks

open Programs

variable {Λ Λ' σ σ' : Type}

/-! ## The loop -/

/-- The loop gets to an iteration, in a state. -/
inductive Reached {α : Type} (stopped : σ → Bool) (body : α → Prog Λ σ TaskError Unit) :
    List α → σ → α → σ → Prop where
  | here {first : α} {rest : List α} {s : σ} (hgo : stopped s = false) :
      Reached stopped body (first :: rest) s first s
  | later {first last : α} {rest : List α} {s s' t : σ} (hgo : stopped s = false)
      (hrun : (body first).run s = (.ok (), s')) (h : Reached stopped body rest s' last t) :
      Reached stopped body (first :: rest) s last t

/-- The loop runs to its end if every iteration does that it gets to. -/
theorem whileNotStopped_returns_iff {α : Type} (label : Λ) (stopped : σ → Bool)
    (body : α → Prog Λ σ TaskError Unit) (steps : List α) (s : σ) :
    (whileNotStopped label stopped (steps.map body)).Returns s (fun _ _ => True) ↔
      ∀ last t, Reached stopped body steps s last t → (body last).Returns t fun _ _ => True := by
  induction steps generalizing s with
  | nil =>
      constructor
      · intro _ last t h
        cases h
      · intro _
        exact ⟨(), s, rfl, trivial⟩
  | cons first rest ih =>
      have hloop : (whileNotStopped label stopped ((first :: rest).map body)).Returns s
          (fun _ _ => True) ↔ stopped s = true ∨ (body first).Returns s fun _ s' =>
            (whileNotStopped label stopped (rest.map body)).Returns s' fun _ _ => True := by
        rw [List.map_cons, whileNotStopped, Prog.Returns, Prog.run_read_bind, ← Prog.Returns]
        cases stopped s with
        | true => simp
        | false => simp
      rw [hloop]
      constructor
      · intro h last t hreached
        cases hreached with
        | here hgo =>
            refine (h.resolve_left fun hstop => ?_).mono fun _ _ _ => trivial
            rw [hgo] at hstop
            cases hstop
        | later hgo hrun hrest =>
            obtain ⟨a, s', hrun', hnext⟩ := h.resolve_left (by rw [hgo]; exact Bool.false_ne_true)
            rw [hrun] at hrun'
            cases hrun'
            exact (ih _).mp hnext last t hrest
      · intro h
        cases hstop : stopped s with
        | true => exact .inl rfl
        | false =>
            obtain ⟨a, s', hrun, -⟩ := h first s (.here hstop)
            exact .inr ⟨a, s', hrun, (ih s').mpr fun last t hreached =>
              h last t (.later hstop hrun hreached)⟩

/-- The wait is over, or it has timed out. -/
def QuietWait (wait : Prog Λ σ TaskError Unit) (s : σ) : Prop :=
  (wait.Returns s fun _ _ => True) ∨ wait.Raises s fun e _ => e = .timeout

theorem waiting_returns_iff (wait : Prog Λ σ TaskError Unit) (s : σ) :
    (waiting wait).Returns s (fun _ _ => True) ↔ QuietWait wait s := by
  rw [waiting, Prog.returns_tryCatch, QuietWait]
  refine or_congr Iff.rfl (Prog.raises_congr fun e s' => ?_)
  cases e <;> simp

theorem raises_logError {p : Prog Λ σ TaskError Bool} {s : σ} {Q : Bool → σ → Prop} :
    (p.tryCatch fun _ => do
      logError
      return false).Returns s Q ↔ p.Returns s Q := by
  rw [Prog.returns_tryCatch]
  constructor
  · rintro (h | ⟨e, s', -, h⟩)
    · exact h
    · simp [logError] at h
  · exact .inl

/-! ## Subscriptions -/

namespace RefreshSteps

variable (steps : RefreshSteps Λ σ)

/-- The refresh and what is recorded of it raise nothing but a `SubscriptionError`, and its handler
raises nothing. -/
def QuietExecution (task : Task) (s : σ) : Prop :=
  (steps.getSource task.targetId).Returns s fun source s =>
    match source with
    | none =>
      (steps.failTask task "subscription_source_not_found" false).Returns s fun _ _ => True
    | some source =>
      if source.enabled = false then
        (steps.completeTask { task with cancelRequested := true } (.disabled source.id)
          "Source disabled").Returns s fun _ _ => True
      else (steps.heartbeatTask task).Returns s fun task s =>
        ((steps.refresh task source).Returns s fun _ _ => True) ∨
          (steps.refresh task source).Raises s fun e s => ∃ code retryable,
            e = .subscription code retryable ∧ (steps.failTask task code retryable).Returns s
              fun _ s => steps.appendAudit.Returns s fun _ _ => True

def QuietIteration (s : σ) : Prop :=
  steps.reclaimExpiredTasks.Returns s fun _ s => steps.scheduleDueSources.Returns s fun _ s =>
    steps.claimDueTask.Returns s fun task s =>
      match task with
      | none => QuietWait steps.wait s
      | some task => steps.QuietExecution task s

theorem refreshFailed_returns_iff (task : Task) (e : TaskError) (s : σ) :
    (steps.refreshFailed task e).Returns s (fun _ _ => True) ↔ ∃ code retryable,
      e = .subscription code retryable ∧ (steps.failTask task code retryable).Returns s
        fun _ s => steps.appendAudit.Returns s fun _ _ => True := by
  cases e with
  | subscription code retryable =>
      simp only [refreshFailed, Prog.returns_bind]
      constructor
      · intro h
        exact ⟨code, retryable, rfl, h⟩
      · rintro ⟨_, _, hsame, h⟩
        cases hsame
        exact h
  | http | duplicateKey | backup | timeout | nameError | other => simp [refreshFailed, logError]

theorem execute_returns_iff (task : Task) (s : σ) :
    (steps.execute task).Returns s (fun _ _ => True) ↔ steps.QuietExecution task s := by
  rw [execute, Prog.returns_bind, QuietExecution]
  refine Prog.returns_congr fun source s => ?_
  cases source with
  | none => simp
  | some source =>
      dsimp only
      split
      · simp
      · rw [Prog.returns_bind]
        refine Prog.returns_congr fun task s => ?_
        rw [Prog.returns_tryCatch]
        exact or_congr Iff.rfl (Prog.raises_congr fun e s => steps.refreshFailed_returns_iff task e s)

theorem iteration_returns_iff (s : σ) :
    steps.iteration.Returns s (fun _ _ => True) ↔ steps.QuietIteration s := by
  rw [iteration, Prog.returns_bind, raises_logError, pass, QuietIteration]
  simp only [Prog.returns_bind]
  refine Prog.returns_congr fun _ s => Prog.returns_congr fun _ s =>
    Prog.returns_congr fun task s => ?_
  cases task with
  | none => simp [waiting_returns_iff]
  | some task => simp [← execute_returns_iff]

/-- The steps up to the claim of a task. -/
def claim : Prog Λ σ TaskError (Option Task) := do
  steps.reclaimExpiredTasks
  steps.scheduleDueSources
  steps.claimDueTask

/-- Where the refresh raises an exception that is no `SubscriptionError` and the task store works,
the execution ends with `fail_task` and its audit event. -/
def Recorded (task : Task) (s : σ) : Prop :=
  ∀ source t task' t' e u updated v,
    (steps.getSource task.targetId).run s = (.ok (some source), t) → source.enabled = true →
    (steps.heartbeatTask task).run t = (.ok task', t') →
    (steps.refreshSubscriptionSource source).run t' = (.error e, u) →
    (∀ code retryable, e ≠ .subscription code retryable) →
    (steps.failTask task' "subscription_refresh_unexpected_error" true).run u = (.ok updated, v) →
    (steps.execute task).run s = steps.appendAudit.run v

/-- A quiet execution has no such exception. -/
theorem recorded_of_quiet {task : Task} {s : σ} (h : steps.QuietExecution task s) :
    steps.Recorded task s := by
  intro source t task' t' e u updated v hsource henabled hheartbeat hrefresh hother _
  obtain ⟨_, _, hrun, h⟩ := h
  rw [hsource] at hrun
  cases hrun
  dsimp only at h
  rw [henabled, if_neg (by decide)] at h
  obtain ⟨_, _, hrun, h⟩ := h
  rw [hheartbeat] at hrun
  cases hrun
  have hraise : (steps.refresh task' source).run t' = (.error e, u) :=
    Prog.run_bind_error hrefresh _
  rcases h with ⟨_, _, hrun, -⟩ | ⟨_, _, hrun, code, retryable, rfl, -⟩
  · rw [hraise] at hrun
    cases hrun
  · rw [hraise] at hrun
    cases hrun
    exact absurd rfl (hother code retryable)

end RefreshSteps

/-! ## Backups -/

namespace BackupSteps

variable (steps : BackupSteps Λ σ)

/-- What is recorded of an exception raises nothing; the alert may. -/
def QuietFailure (task : Task) (record : BackupRecord) (error : String) (retryable : Bool)
    (s : σ) : Prop :=
  (steps.saveRecord record "failed" error).Returns s fun _ s =>
    (steps.failTask task error retryable).Returns s fun _ s =>
      steps.appendAudit.Returns s fun _ _ => True

def QuietExecution (task : Task) (s : σ) : Prop :=
  (steps.findRecord task.payload.backupId).Returns s fun record s =>
    match record with
    | none => (steps.failTask task "backup_record_not_found" false).Returns s fun _ _ => True
    | some record => (steps.saveRecord record "running" "").Returns s fun _ s =>
      (steps.heartbeatTask task).Returns s fun _ s =>
        ((steps.perform task record).Returns s fun _ _ => True) ∨
          (steps.perform task record).Raises s fun e s =>
            match e with
            | .backup code => steps.QuietFailure task record code false s
            | _ => steps.QuietFailure task record "backup_operation_failed" true s

def QuietClaims : List String → σ → Prop
  | [], s => QuietWait steps.wait s
  | taskType :: rest, s => (steps.reclaimExpiredTasks taskType).Returns s fun _ s =>
    (steps.claimDueTask taskType).Returns s fun task s =>
      match task with
      | none => QuietClaims rest s
      | some task => steps.QuietExecution task s

def QuietIteration (s : σ) : Prop :=
  if steps.maintenanceDue = false then steps.QuietClaims backupTaskTypes s
  else steps.maintain.Returns s fun _ s => steps.QuietClaims backupTaskTypes s

theorem ignoringExceptions_returns_iff (p : Prog Λ σ TaskError Unit) (s : σ) :
    (ignoringExceptions p).Returns s fun _ _ => True := by
  rw [ignoringExceptions, Prog.returns_tryCatch]
  rcases hrun : p.run s with ⟨r, s'⟩
  cases r with
  | ok a => exact .inl ⟨a, s', hrun, trivial⟩
  | error e => exact .inr ⟨e, s', hrun, (), s', rfl, trivial⟩

theorem performFailed_returns_iff (task : Task) (record : BackupRecord) (error : String)
    (retryable : Bool) (s : σ) :
    (steps.performFailed task record error retryable).Returns s (fun _ _ => True) ↔
      steps.QuietFailure task record error retryable s := by
  rw [performFailed, QuietFailure]
  simp only [Prog.returns_bind]
  exact Prog.returns_congr fun _ s => Prog.returns_congr fun _ s => Prog.returns_congr fun _ s =>
    iff_true_intro (ignoringExceptions_returns_iff _ s)

theorem execute_returns_iff (task : Task) (s : σ) :
    (steps.execute task).Returns s (fun _ _ => True) ↔ steps.QuietExecution task s := by
  rw [execute, Prog.returns_bind, QuietExecution]
  refine Prog.returns_congr fun record s => ?_
  cases record with
  | none => exact Iff.rfl
  | some record =>
      simp only [Prog.returns_bind, Prog.returns_tryCatch]
      refine Prog.returns_congr fun _ s => Prog.returns_congr fun _ s =>
        or_congr Iff.rfl (Prog.raises_congr fun e s => ?_)
      cases e with
      | backup code => exact steps.performFailed_returns_iff task record code false s
      | http | duplicateKey | subscription | timeout | nameError | other =>
          exact steps.performFailed_returns_iff task record "backup_operation_failed" true s

theorem claimFirst_returns_iff (taskTypes : List String) (s : σ) :
    ((steps.claimFirst taskTypes).Returns s fun didWork s =>
      (if didWork = true then return () else waiting steps.wait).Returns s fun _ _ => True) ↔
      steps.QuietClaims taskTypes s := by
  induction taskTypes generalizing s with
  | nil => simp [claimFirst, QuietClaims, waiting_returns_iff]
  | cons taskType rest ih =>
      rw [claimFirst, QuietClaims]
      simp only [Prog.returns_bind]
      refine Prog.returns_congr fun _ s => Prog.returns_congr fun task s => ?_
      cases task with
      | none => exact ih s
      | some task => simp [← execute_returns_iff]

theorem runMaintenanceIfDue_returns_iff (s : σ) (Q : Unit → σ → Prop) :
    steps.runMaintenanceIfDue.Returns s Q ↔
      if steps.maintenanceDue = false then Q () s else steps.maintain.Returns s Q := by
  rw [runMaintenanceIfDue]
  split
  · simp
  · rw [Prog.returns_tryCatch]
    constructor
    · rintro (h | ⟨e, s', -, h⟩)
      · exact h
      · simp [logError] at h
    · exact .inl

theorem iteration_returns_iff (s : σ) :
    steps.iteration.Returns s (fun _ _ => True) ↔ steps.QuietIteration s := by
  rw [iteration, Prog.returns_bind, raises_logError, pass, Prog.returns_bind,
    runMaintenanceIfDue_returns_iff, QuietIteration]
  split
  · exact steps.claimFirst_returns_iff backupTaskTypes s
  · exact Prog.returns_congr fun _ s => steps.claimFirst_returns_iff backupTaskTypes s

end BackupSteps

/-! ## Both workers -/

section Workers

variable (label : Λ) (stopped : σ → Bool) (refreshes : List (RefreshSteps Λ σ)) (s : σ)
  (label' : Λ') (stopped' : σ' → Bool) (backups : List (BackupSteps Λ' σ')) (s' : σ')

/-- Both loops run to their ends, and an unexpected exception of a refresh is recorded. -/
structure WorkersSurvive : Prop where
  subscriptions : (runSubscriptionWorker label stopped refreshes).Returns s fun _ _ => True
  backups : (runBackupWorker label' stopped' backups).Returns s' fun _ _ => True
  recorded : ∀ steps t, Reached stopped RefreshSteps.iteration refreshes s steps t →
    ∀ task t', steps.claim.run t = (.ok (some task), t') → steps.Recorded task t'

/-- No exception reaches a handler that logs, and the waits raise nothing but their timeouts. -/
structure Quiet : Prop where
  subscriptions : ∀ steps t, Reached stopped RefreshSteps.iteration refreshes s steps t →
    steps.QuietIteration t
  backups : ∀ steps t, Reached stopped' BackupSteps.iteration backups s' steps t →
    steps.QuietIteration t

/-- Any sequence of iterations of both workers, whatever their steps do and raise. -/
theorem workersSurvive_iff :
    WorkersSurvive label stopped refreshes s label' stopped' backups s' ↔
      Quiet stopped refreshes s stopped' backups s' := by
  constructor
  · intro h
    refine ⟨fun steps t hreached => ?_, fun steps t hreached => ?_⟩
    · have hall := (whileNotStopped_returns_iff label stopped RefreshSteps.iteration refreshes s).mp
        h.subscriptions
      exact (steps.iteration_returns_iff t).mp (hall steps t hreached)
    · have hall := (whileNotStopped_returns_iff label' stopped' BackupSteps.iteration backups s').mp
        h.backups
      exact (steps.iteration_returns_iff t).mp (hall steps t hreached)
  · intro h
    refine ⟨?_, ?_, fun steps t hreached task t' hclaim => ?_⟩
    · exact (whileNotStopped_returns_iff label stopped RefreshSteps.iteration refreshes s).mpr
        fun steps t hreached => (steps.iteration_returns_iff t).mpr (h.subscriptions steps t hreached)
    · exact (whileNotStopped_returns_iff label' stopped' BackupSteps.iteration backups s').mpr
        fun steps t hreached => (steps.iteration_returns_iff t).mpr (h.backups steps t hreached)
    · have hquiet : steps.claim.Returns t fun task t =>
          match task with
          | none => QuietWait steps.wait t
          | some task => steps.QuietExecution task t := by
        rw [RefreshSteps.claim]
        simp only [Prog.returns_bind]
        exact h.subscriptions steps t hreached
      obtain ⟨_, _, hrun, hexecution⟩ := hquiet
      rw [hclaim] at hrun
      cases hrun
      exact steps.recorded_of_quiet hexecution

end Workers

/-! ## A refresh that fails unexpectedly -/

def sampleTask : Task :=
  (TaskRequest.mk refreshTaskType "subscription_source" "s" ⟨"", false⟩ "k" "admin" "").task
    ⟨"1", "t", 1⟩

/-- An enabled source with a task in the queue. -/
def queuedStore : TaskStore where
  tasks := ⟨[sampleTask], by decide⟩
  sources := [⟨"s", "https://example.test", true, 100, some 1, 1⟩]
  releases := []
  desired := []
  acks := []

def sampleInput (refresh : Except TaskError RefreshResult) : RefreshInput where
  workerId := "w"
  leaseSeconds := 60
  reclaimedAt := 2
  reclaimFailedAt := 2
  scheduledAt := 2
  draws _ := ⟨"2", "u", 2⟩
  claimedAt := 2
  heartbeatAt := 3
  endedAt := 4
  refresh _ := refresh

/-- The refresh raises a `KeyError`: the worker ends with a `NameError`. -/
theorem unexpected_error_ends_worker :
    ¬ WorkersSurvive .other (fun _ => false)
      [refreshSteps (sampleInput (.error (.other "KeyError")))] queuedStore
      TaskLabel.other (fun _ : TaskStore => false) [] queuedStore := by
  intro h
  obtain ⟨a, s', hrun, -⟩ := h.subscriptions
  have herror : ((runSubscriptionWorker .other (fun _ => false)
      [refreshSteps (sampleInput (.error (.other "KeyError")))]).run queuedStore).1 =
      .error (.nameError "logging") := by
    decide +kernel
  rw [hrun] at herror
  cases herror

end Grouproxy.Tasks
