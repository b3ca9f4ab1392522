import Grouproxy.Model.Tasks

/-! # The background workers

The loops of the workers over the steps that they await. A step is any computation on the
worker's world, so that it may raise any exception.
-/

namespace Grouproxy.Tasks

open Programs

variable {Λ σ : Type}

/-- `logging.error(…)`. Neither module of a worker imports `logging`. -/
def logError : Prog Λ σ TaskError Unit := throw (.nameError "logging")

/-- `asyncio.wait_for` for the stop event; a timeout is what ends it unless the worker is to
stop. -/
def waiting (wait : Prog Λ σ TaskError Unit) : Prog Λ σ TaskError Unit :=
  wait.tryCatch fun
    | .timeout => return ()
    | e => throw e

/-- `while not self.stop_event.is_set()`, for a number of iterations. -/
def whileNotStopped (label : Λ) (stopped : σ → Bool) :
    List (Prog Λ σ TaskError Unit) → Prog Λ σ TaskError Unit
  | [] => return ()
  | iteration :: rest => do
    if ← Prog.read lostConnection label stopped then return ()
    else do
      iteration
      whileNotStopped label stopped rest

/-! ## Subscriptions -/

structure RefreshResult where
  versionId : String
  contentHash : String
  changed : Bool
  parseOk : Bool

/-- The steps that one iteration of `SubscriptionWorker.run` awaits. -/
structure RefreshSteps (Λ σ : Type) where
  reclaimExpiredTasks : Prog Λ σ TaskError Unit
  scheduleDueSources : Prog Λ σ TaskError Unit
  claimDueTask : Prog Λ σ TaskError (Option Task)
  getSource : String → Prog Λ σ TaskError (Option SubscriptionSource)
  heartbeatTask : Task → Prog Λ σ TaskError Task
  refreshSubscriptionSource : SubscriptionSource → Prog Λ σ TaskError RefreshResult
  completeTask : Task → TaskResult → String → Prog Λ σ TaskError Task
  failTask : Task → String → Bool → Prog Λ σ TaskError Task
  appendAudit : Prog Λ σ TaskError Unit
  wait : Prog Λ σ TaskError Unit

namespace RefreshSteps

variable (steps : RefreshSteps Λ σ)

/-- The body of the `try` in `execute`. -/
def refresh (task : Task) (source : SubscriptionSource) : Prog Λ σ TaskError Unit := do
  let result ← steps.refreshSubscriptionSource source
  let _ ← steps.completeTask task
    (.refreshed source.id result.versionId result.contentHash result.changed result.parseOk)
    "Subscription refresh completed"
  steps.appendAudit

/-- The handlers of the `try` in `execute`. Only the refresh raises a `SubscriptionError`. -/
def refreshFailed (task : Task) : TaskError → Prog Λ σ TaskError Unit
  | .subscription code retryable => do
    let _ ← steps.failTask task code retryable
    steps.appendAudit
  | _ => do
    logError
    let _ ← steps.failTask task "subscription_refresh_unexpected_error" true
    steps.appendAudit

def execute (task : Task) : Prog Λ σ TaskError Unit := do
  match ← steps.getSource task.targetId with
  | none => do
    let _ ← steps.failTask task "subscription_source_not_found" false
  | some source =>
    if source.enabled = false then do
      let _ ← steps.completeTask { task with cancelRequested := true } (.disabled source.id)
        "Source disabled"
    else do
      let task ← steps.heartbeatTask task
      (steps.refresh task source).tryCatch (steps.refreshFailed task)

/-- The body of the `try` in `run`. The answer is whether there was a task. -/
def pass : Prog Λ σ TaskError Bool := do
  steps.reclaimExpiredTasks
  steps.scheduleDueSources
  match ← steps.claimDueTask with
  | none => return false
  | some task => do
    steps.execute task
    return true

def iteration : Prog Λ σ TaskError Unit := do
  let worked ← steps.pass.tryCatch fun _ => do
    logError
    return false
  if worked then return () else waiting steps.wait

end RefreshSteps

/-- `SubscriptionWorker.run` -/
def runSubscriptionWorker (label : Λ) (stopped : σ → Bool) (steps : List (RefreshSteps Λ σ)) :
    Prog Λ σ TaskError Unit :=
  whileNotStopped label stopped (steps.map RefreshSteps.iteration)

/-! ### On the database -/

/-- The clock readings of an iteration, what its new tasks draw, and what a refresh comes to. -/
structure RefreshInput where
  workerId : String
  leaseSeconds : Nat
  reclaimedAt : Nat
  reclaimFailedAt : Nat
  scheduledAt : Nat
  draws : SubscriptionSource → TaskDraws
  claimedAt : Nat
  heartbeatAt : Nat
  endedAt : Nat
  refresh : SubscriptionSource → Except TaskError RefreshResult

def refreshSteps (input : RefreshInput) : RefreshSteps TaskLabel TaskStore where
  reclaimExpiredTasks :=
    Tasks.reclaimExpiredTasks refreshTaskType input.reclaimedAt input.reclaimFailedAt
  scheduleDueSources := Tasks.scheduleDueSources input.scheduledAt input.draws
  claimDueTask :=
    Tasks.claimDueTask refreshTaskType ⟨input.workerId, input.leaseSeconds, input.claimedAt⟩
  getSource sourceId := find .other fun s => s.sources.find? fun source => source.id == sourceId
  heartbeatTask task := Tasks.heartbeatTask input.heartbeatAt input.leaseSeconds task
  refreshSubscriptionSource source :=
    Prog.atomic lostConnection (.refresh source.id) fun s => (input.refresh source, s)
  completeTask task result message := Tasks.completeTask input.endedAt task result message
  failTask task error retryable := Tasks.failTask .fail input.endedAt task error retryable
  appendAudit := Tasks.appendAudit
  wait := throw .timeout

/-! ## Backups -/

structure BackupRecord where
  backupId : String
  scope : String

/-- The steps that one iteration of `BackupWorker.run` awaits. They change the task in place; a save
of the record names the status and the error that it writes, the other fields of the record are
left out. -/
structure BackupSteps (Λ σ : Type) where
  maintenanceDue : Bool
  scheduleAutomaticBackup : Prog Λ σ TaskError Unit
  scheduleAutomaticRehearsal : Prog Λ σ TaskError Unit
  applyRetention : Prog Λ σ TaskError Unit
  setSchedulerAlert : Bool → Prog Λ σ TaskError Unit
  reclaimExpiredTasks : String → Prog Λ σ TaskError Unit
  claimDueTask : String → Prog Λ σ TaskError (Option Task)
  findRecord : String → Prog Λ σ TaskError (Option BackupRecord)
  saveRecord : BackupRecord → String → String → Prog Λ σ TaskError Unit
  heartbeatTask : Task → Prog Λ σ TaskError Unit
  createBackupArtifact : BackupRecord → Prog Λ σ TaskError Unit
  verifyBackup : BackupRecord → Prog Λ σ TaskError Unit
  restoreBackup : BackupRecord → Bool → Prog Λ σ TaskError Unit
  completeTask : Task → TaskResult → String → Prog Λ σ TaskError Unit
  failTask : Task → String → Bool → Prog Λ σ TaskError Unit
  appendAudit : Prog Λ σ TaskError Unit
  setBackupAlert : BackupRecord → Bool → String → Prog Λ σ TaskError Unit
  resolveOpenAlerts : Prog Λ σ TaskError Unit
  wait : Prog Λ σ TaskError Unit

def backupTaskTypes : List String := ["backup.create", "backup.restore"]

/-- `except Exception: return` -/
def ignoringExceptions (p : Prog Λ σ TaskError Unit) : Prog Λ σ TaskError Unit :=
  p.tryCatch fun _ => return ()

namespace BackupSteps

variable (steps : BackupSteps Λ σ)

/-- The body of the `try` in `_run_maintenance_if_due`. -/
def maintain : Prog Λ σ TaskError Unit := do
  steps.scheduleAutomaticBackup
  steps.scheduleAutomaticRehearsal
  steps.applyRetention
  steps.setSchedulerAlert false

def runMaintenanceIfDue : Prog Λ σ TaskError Unit :=
  if steps.maintenanceDue = false then return ()
  else steps.maintain.tryCatch fun _ => do
    logError
    steps.setSchedulerAlert true

/-- The body of the `try` in `execute`. -/
def perform (task : Task) (record : BackupRecord) : Prog Λ σ TaskError Unit := do
  if task.taskType = "backup.create" then do
    steps.createBackupArtifact record
    steps.verifyBackup record
    steps.saveRecord record "verified" ""
    steps.completeTask task (.backup record.backupId) "Backup created and verified"
    steps.appendAudit
    ignoringExceptions (steps.setBackupAlert record false "")
    ignoringExceptions steps.resolveOpenAlerts
  else do
    steps.restoreBackup record task.payload.confirm
    steps.saveRecord record (if task.payload.confirm then "restored" else "rehearsed") ""
    steps.completeTask task (.backup record.backupId)
      (if task.payload.confirm then "Backup restored" else "Backup restore rehearsal completed")
    steps.appendAudit
    ignoringExceptions (steps.setBackupAlert record false "")
    ignoringExceptions steps.resolveOpenAlerts

/-- The handlers of the `try` in `execute`, by what they record of the exception. -/
def performFailed (task : Task) (record : BackupRecord) (error : String) (retryable : Bool) :
    Prog Λ σ TaskError Unit := do
  steps.saveRecord record "failed" error
  steps.failTask task error retryable
  steps.appendAudit
  ignoringExceptions (steps.setBackupAlert record true error)

def execute (task : Task) : Prog Λ σ TaskError Unit := do
  match ← steps.findRecord task.payload.backupId with
  | none => steps.failTask task "backup_record_not_found" false
  | some record => do
    steps.saveRecord record "running" ""
    steps.heartbeatTask task
    (steps.perform task record).tryCatch fun
      | .backup code => steps.performFailed task record code false
      | _ => steps.performFailed task record "backup_operation_failed" true

/-- The loop over the types of tasks. The answer is whether there was a task. -/
def claimFirst : List String → Prog Λ σ TaskError Bool
  | [] => return false
  | taskType :: rest => do
    steps.reclaimExpiredTasks taskType
    match ← steps.claimDueTask taskType with
    | none => claimFirst rest
    | some task => do
      steps.execute task
      return true

/-- The body of the `try` in `run`. -/
def pass : Prog Λ σ TaskError Bool := do
  steps.runMaintenanceIfDue
  steps.claimFirst backupTaskTypes

def iteration : Prog Λ σ TaskError Unit := do
  let didWork ← steps.pass.tryCatch fun _ => do
    logError
    return false
  if didWork then return () else waiting steps.wait

end BackupSteps

/-- `BackupWorker.run` -/
def runBackupWorker (label : Λ) (stopped : σ → Bool) (steps : List (BackupSteps Λ σ)) :
    Prog Λ σ TaskError Unit :=
  whileNotStopped label stopped (steps.map BackupSteps.iteration)

end Grouproxy.Tasks
