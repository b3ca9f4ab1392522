import Grouproxy.Library.Collection
import Grouproxy.Library.Handlers
import Grouproxy.Model.AgentApi

/-! # Background tasks

The task service, the endpoints that cancel and finish tasks, and the queue of subscription
refreshes. Clock readings and random identifiers are arguments; a task that is saved is written
with all of its fields.
-/

namespace Grouproxy.Tasks

open Programs Collections Backend

/-! ## Documents -/

inductive TaskStatus where
  | queued
  | running
  | cancelRequested
  | succeeded
  | failed
  | cancelled
  | deadLetter
  deriving DecidableEq

def TaskStatus.isTerminal : TaskStatus → Bool
  | .succeeded | .failed | .cancelled | .deadLetter => true
  | .queued | .running | .cancelRequested => false

/-- The fields of a payload that a worker reads. -/
structure TaskPayload where
  backupId : String
  confirm : Bool
  deriving DecidableEq

/-- What a task ends with. -/
inductive TaskResult where
  | empty
  | disabled (sourceId : String)
  | refreshed (sourceId versionId contentHash : String) (changed parseOk : Bool)
  | probes (resultCount : Nat)
  | release (releaseId : String) (nodes : List String) (errors : List (String × String × String))
  | backup (backupId : String)
  deriving DecidableEq

structure Task where
  id : String
  taskId : String
  taskType : String
  targetType : String
  targetId : String
  payload : TaskPayload
  idempotencyKey : String
  status : TaskStatus
  active : Bool
  progress : Nat
  stage : String
  progressMessage : String
  retryCount : Nat
  maxRetries : Nat
  nextRunAt : Nat
  lockedBy : String
  lockedAt : Option Nat
  heartbeatAt : Option Nat
  leaseExpiresAt : Option Nat
  cancelRequested : Bool
  error : String
  result : TaskResult
  requestId : String
  createdBy : String
  createdAt : Nat
  startedAt : Option Nat
  finishedAt : Option Nat

structure SubscriptionSource where
  id : String
  url : String
  enabled : Bool
  fetchIntervalSec : Nat
  lastRefreshAttemptAt : Option Nat
  createdAt : Nat
  deriving DecidableEq

instance : Document String Task := ⟨Task.id⟩

structure TaskStore where
  tasks : Collection Task
  sources : List SubscriptionSource
  releases : List ConfigRelease
  desired : List DesiredRelease
  acks : List AgentAck

/-! ## Operations -/

inductive TaskError where
  | http (status : Nat) (detail : String)
  | duplicateKey
  | subscription (code : String) (retryable : Bool)
  | backup (code : String)
  | timeout
  | nameError (name : String)
  | other (name : String)
  deriving DecidableEq

/-- Who saves a task; a cancellation names the status that it has read. -/
inductive TaskWriter where
  | heartbeat
  | complete
  | fail
  | cancel (found : TaskStatus)
  | reclaim
  | acknowledge
  deriving DecidableEq

/-- The names of the operations that the results single out; a save names the copy it writes. -/
inductive TaskLabel where
  | other
  | find (taskId : String)
  | claim (due : Task → Bool)
  | fetch (id : String)
  | save (writer : TaskWriter) (task : Task)
  | insert (task : Task)
  | refresh (sourceId : String)

abbrev TaskHandler (α : Type) := Prog TaskLabel TaskStore TaskError α

def lostConnection : TaskError := .other "AutoReconnect"

def find {α : Type} (label : TaskLabel) (query : TaskStore → α) : TaskHandler α :=
  Prog.read lostConnection label query

/-- The types that have at most one active task for a target. -/
def exclusiveTypes : List String := ["subscription.refresh", "node.probe", "backup.restore"]

/-- The unique indexes of the collection refuse one task beside the other. -/
def Task.clashes (task other : Task) : Bool :=
  task.taskId == other.taskId || task.idempotencyKey == other.idempotencyKey ||
    (decide (task.taskType ∈ exclusiveTypes) && task.taskType == other.taskType &&
      task.targetId == other.targetId && task.active && other.active)

def TaskStore.refuses (s : TaskStore) (task : Task) : Bool :=
  s.tasks.any fun other => other.id != task.id && task.clashes other

def saveTask (writer : TaskWriter) (task : Task) : TaskHandler Unit :=
  Prog.atomic lostConnection (.save writer task) fun s =>
    if s.refuses task then (.error .duplicateKey, s)
    else (.ok (), { s with tasks := s.tasks.save task })

def insertTask (task : Task) : TaskHandler Unit :=
  Prog.atomic lostConnection (.insert task) fun s =>
    if s.tasks.any fun other => other.id == task.id || task.clashes other then
      (.error .duplicateKey, s)
    else (.ok (), { s with tasks := s.tasks.save task })

def appendAudit : TaskHandler Unit := Prog.write lostConnection .other id

/-! ## The task service -/

structure TaskRequest where
  taskType : String
  targetType : String
  targetId : String
  payload : TaskPayload
  idempotencyKey : String
  createdBy : String
  requestId : String

/-- What a new task draws, and when. -/
structure TaskDraws where
  id : String
  taskId : String
  now : Nat

def TaskRequest.task (request : TaskRequest) (draws : TaskDraws) : Task where
  id := draws.id
  taskId := draws.taskId
  taskType := request.taskType
  targetType := request.targetType
  targetId := request.targetId
  payload := request.payload
  idempotencyKey := request.idempotencyKey
  status := .queued
  active := true
  progress := 0
  stage := "queued"
  progressMessage := ""
  retryCount := 0
  maxRetries := 3
  nextRunAt := draws.now
  lockedBy := ""
  lockedAt := none
  heartbeatAt := none
  leaseExpiresAt := none
  cancelRequested := false
  error := ""
  result := .empty
  requestId := request.requestId
  createdBy := request.createdBy
  createdAt := draws.now
  startedAt := none
  finishedAt := none

def findByIdempotencyKey (key : String) : TaskHandler (Option Task) :=
  find .other fun s => s.tasks.find? fun task => task.idempotencyKey == key

/-- The task with the idempotency key, and whether it is new. -/
def createTask (draws : TaskDraws) (request : TaskRequest) : TaskHandler (Task × Bool) := do
  match ← findByIdempotencyKey request.idempotencyKey with
  | some existing => return (existing, false)
  | none =>
    let task := request.task draws
    Prog.tryCatch (do insertTask task; return (task, true)) fun
      | .duplicateKey => do
        match ← findByIdempotencyKey request.idempotencyKey with
        | some existing => return (existing, false)
        | none => throw .duplicateKey
      | e => throw e

/-- `sort=[("next_run_at", 1), ("created_at", 1)]` -/
def Task.before (task other : Task) : Bool :=
  task.nextRunAt < other.nextRunAt ||
    (task.nextRunAt == other.nextRunAt && task.createdAt < other.createdAt)

/-- The first task in the order. -/
def firstTask? (tasks : List Task) : Option Task :=
  tasks.foldl (fun first task => match first with
    | none => some task
    | some other => if task.before other then some task else some other) none

structure Lease where
  workerId : String
  leaseSeconds : Nat
  now : Nat

def Task.leased (task : Task) (lease : Lease) : Task :=
  { task with
    status := .running
    lockedBy := lease.workerId
    lockedAt := some lease.now
    heartbeatAt := some lease.now
    leaseExpiresAt := some (lease.now + lease.leaseSeconds)
    startedAt := some lease.now }

/-- `find_one_and_update`, and `Task.get` of the document it answers with. -/
def claimTask (due : Task → Bool) (claimed : Task → Task) : TaskHandler (Option Task) := do
  let id? ← Prog.atomic lostConnection (.claim due) fun s =>
    match firstTask? (s.tasks.filter due) with
    | none => (.ok none, s)
    | some task => (.ok (some task.id), { s with tasks := s.tasks.save (claimed task) })
  match id? with
  | none => return none
  | some id => find (.fetch id) fun s => s.tasks.get? id

def Task.isDue (now : Nat) (task : Task) : Bool :=
  task.status == .queued && task.active && decide (task.nextRunAt ≤ now)

def claimDueTask (taskType : String) (lease : Lease) : TaskHandler (Option Task) :=
  claimTask (fun task => task.taskType == taskType && task.isDue lease.now) fun task =>
    { task.leased lease with stage := "running", progressMessage := "Worker claimed task" }

def claimProbeTaskForNode (nodeId : String) (lease : Lease) : TaskHandler (Option Task) :=
  claimTask
    (fun task => task.taskType == "node.probe" && task.targetId == nodeId && task.isDue lease.now)
    fun task =>
      { task.leased lease with
        stage := "probing"
        progress := 20
        progressMessage := "Monitor accepted probe request" }

def heartbeatTask (now leaseSeconds : Nat) (task : Task) : TaskHandler Task := do
  let task := { task with heartbeatAt := some now, leaseExpiresAt := some (now + leaseSeconds) }
  saveTask .heartbeat task
  return task

def Task.completed (now : Nat) (result : TaskResult) (message : String) (task : Task) : Task :=
  { task with
    status := if task.cancelRequested then .cancelled else .succeeded
    active := false
    progress := 100
    stage := if task.cancelRequested then "cancelled" else "succeeded"
    progressMessage := if task.cancelRequested then "Cancellation acknowledged" else message
    result := result
    finishedAt := some now
    lockedBy := ""
    leaseExpiresAt := none }

def completeTask (now : Nat) (task : Task) (result : TaskResult) (message : String) :
    TaskHandler Task := do
  let task := task.completed now result message
  saveTask .complete task
  return task

/-- `backoff_base_seconds` has its default. -/
def Task.afterFailure (now : Nat) (error : String) (retryable : Bool) (task : Task) : Task :=
  let nextRetry := task.retryCount + 1
  let released :=
    { task with
      error := safeError error
      lockedBy := ""
      lockedAt := none
      heartbeatAt := some now
      leaseExpiresAt := none }
  if task.cancelRequested then
    { released with
      status := .cancelled
      active := false
      stage := "cancelled"
      progressMessage := "Cancellation acknowledged"
      finishedAt := some now }
  else if retryable = false ∨ task.maxRetries ≤ nextRetry then
    { released with
      retryCount := nextRetry
      status := .deadLetter
      active := false
      stage := "dead_letter"
      progressMessage := if retryable then "Retry limit reached" else "Non-recoverable error"
      finishedAt := some now }
  else
    { released with
      retryCount := nextRetry
      status := .queued
      active := true
      stage := "retry_scheduled"
      progressMessage := "Retry scheduled"
      nextRunAt := now + 5 * 2 ^ (nextRetry - 1) }

def failTask (writer : TaskWriter) (now : Nat) (task : Task) (error : String)
    (retryable : Bool) : TaskHandler Task := do
  let task := task.afterFailure now error retryable
  saveTask writer task
  return task

def Task.isExpired (taskType : String) (now : Nat) (task : Task) : Bool :=
  task.taskType == taskType && (task.status == .running || task.status == .cancelRequested) &&
    task.leaseExpiresAt.any fun leaseExpiresAt => leaseExpiresAt < now

def Task.cancelledAfterExpiry (now : Nat) (task : Task) : Task :=
  { task with
    status := .cancelled
    active := false
    stage := "cancelled"
    progressMessage := "Cancellation acknowledged after lease expiry"
    finishedAt := some now
    lockedBy := ""
    leaseExpiresAt := none }

/-- The loop of `reclaim_expired_tasks`, which reads the clock once more for every failure. -/
def recoverTasks (now failedAt : Nat) : List Task → TaskHandler Unit
  | [] => return ()
  | task :: rest => do
    if task.cancelRequested then saveTask .reclaim (task.cancelledAfterExpiry now)
    else do
      let _ ← failTask .reclaim failedAt task "task_lease_expired" true
    recoverTasks now failedAt rest

def reclaimExpiredTasks (taskType : String) (now failedAt : Nat) : TaskHandler Unit := do
  let expired ← find .other fun s => s.tasks.filter (Task.isExpired taskType now)
  recoverTasks now failedAt expired

/-! ## Endpoints -/

def findTask (taskId : String) : TaskHandler (Option Task) :=
  find (.find taskId) fun s => s.tasks.find? fun task => task.taskId == taskId

/-- The copy that a cancellation saves. -/
def Task.cancel (now : Nat) (task : Task) : Task :=
  match task.status with
  | .queued =>
    { task with
      status := .cancelled
      active := false
      stage := "cancelled"
      progressMessage := "Cancellation acknowledged"
      lockedBy := ""
      leaseExpiresAt := none
      finishedAt := some now }
  | .running => { task with cancelRequested := true, status := .cancelRequested }
  | _ => task

/-- The answer is the status of the task. -/
def cancelTask (taskId : String) (now : Nat) : TaskHandler TaskStatus := do
  match ← findTask taskId with
  | none => throw (.http 404 "task_not_found")
  | some task =>
    let cancelled := task.cancel now
    saveTask (.cancel task.status) cancelled
    appendAudit
    return cancelled.status

/-- The end of `agent_probes`, after the results are recorded. -/
def finishProbeTask (agentId taskId : String) (resultCount now : Nat) : TaskHandler Unit := do
  if taskId = "" then return ()
  else
    match ← findTask taskId with
    | none => return ()
    | some task =>
      if task.targetId = agentId ∧ task.taskType = "node.probe" then do
        let _ ← completeTask now task (.probes resultCount) "Probe results received"
      else return ()

/-- The copy that an acknowledgement of the last node saves. -/
def Task.settled (release : ConfigRelease) (acks : List AgentAck) (finishedAt : Nat)
    (task : Task) : Task :=
  { task with
    status := if release.status = .succeeded then .succeeded else .failed
    stage := if release.status = .succeeded then "succeeded" else "failed"
    progress := 100
    result := .release release.releaseId (acks.map AgentAck.nodeId)
      ((acks.filter fun ack => decide (ack.nodeId ∈ release.nodeIds) && !ack.succeeded).map
        fun ack => (ack.nodeId, ack.errorCode, ack.errorMessage))
    finishedAt := some finishedAt }

def saveRelease (release : ConfigRelease) : TaskHandler Unit :=
  Prog.write lostConnection .other fun s => { s with
    releases := s.releases.map fun other =>
      if other.releaseId = release.releaseId then release else other }

/-- The end of `agent_ack`: once every node has answered, the release is finished, and with it
its task. -/
def settleRelease (finishedAt : Nat) (release : ConfigRelease) : TaskHandler Unit := do
  let acks ← find .other fun s =>
    latestAckPerNode (s.acks.filter fun ack => ack.releaseId == release.releaseId)
  if release.nodeIds.all fun nodeId => acks.any fun ack => ack.nodeId == nodeId then do
    let release := finishedRelease release acks
    saveRelease release
    if release.taskId = "" then return ()
    else
      match ← findTask release.taskId with
      | none => return ()
      | some task => saveTask .acknowledge (task.settled release acks finishedAt)
  else return ()

/-- The updates of the node are left out. The answer is whether the acknowledgement was
accepted. -/
def agentAck (receivedAt finishedAt : Nat) (agentId : String) (payload : AgentAck) :
    TaskHandler Bool := do
  Prog.reject (payload.nodeId ≠ agentId) (.http 409 "node_id_mismatch")
  let previous ← find .other fun s =>
    highestSequence? (s.acks.filter fun ack => ack.nodeId == agentId)
  if previous.any fun ack => payload.sequence = ack.sequence then return false
  else
    match ← find .other fun s => s.releases.find? fun r => r.releaseId == payload.releaseId with
    | none => throw (.http 409 "release_not_assigned_to_node")
    | some release =>
      Prog.reject (agentId ∉ release.nodeIds) (.http 409 "release_not_assigned_to_node")
      match ← find .other fun s => s.desired.find? fun d =>
          d.releaseId == payload.releaseId && d.nodeId == agentId with
      | none => throw (.http 409 "desired_release_not_found")
      | some desired =>
        Prog.reject (payload.desiredVersion ≠ desired.desiredVersion ∨
          payload.bundleHash ≠ desired.bundleHash) (.http 409 "ack_bundle_mismatch")
        let ack := { payload with
          errorMessage := safeError payload.errorMessage
          receivedAt := receivedAt }
        Prog.write lostConnection .other fun s => { s with acks := s.acks ++ [ack] }
        settleRelease finishedAt release
        return true

/-! ## The queue of refreshes -/

def refreshTaskType : String := "subscription.refresh"

def findActiveRefresh (sourceId : String) : TaskHandler (Option Task) :=
  find .other fun s => s.tasks.find? fun task =>
    task.taskType == refreshTaskType && task.targetId == sourceId &&
      (task.status == .queued || task.status == .running || task.status == .cancelRequested)

/-- The active task of the source, and whether it was there before. `uuid` is drawn where there is
no idempotency key. -/
def enqueueRefreshTask (draws : TaskDraws) (uuid : String) (source : SubscriptionSource)
    (createdBy : String) (idempotencyKey : Option String) (requestId : String) :
    TaskHandler (Task × Bool) := do
  match ← findActiveRefresh source.id with
  | some active => return (active, true)
  | none =>
    let key := "subscription.refresh:" ++ source.id ++ ":" ++
      match idempotencyKey with
      | some key => if key = "" then uuid else key
      | none => uuid
    Prog.tryCatch
      (do
        let (task, created) ← createTask draws
          ⟨refreshTaskType, "subscription_source", source.id, ⟨"", false⟩, key, createdBy, requestId⟩
        return (task, !created))
      fun
      | .duplicateKey => do
        match ← findActiveRefresh source.id with
        | some active => return (active, true)
        | none => throw .duplicateKey
      | e => throw e

def SubscriptionSource.isDue (now : Nat) (source : SubscriptionSource) : Bool :=
  source.fetchIntervalSec ≤ now - source.lastRefreshAttemptAt.getD source.createdAt

/-- The loop of `schedule_due_sources`; every source has its own draws. -/
def scheduleSources (now : Nat) (draws : SubscriptionSource → TaskDraws) :
    List SubscriptionSource → TaskHandler Unit
  | [] => return ()
  | source :: rest => do
    if source.isDue now then do
      let _ ← enqueueRefreshTask (draws source) "" source "scheduler"
        (some ("subscription.refresh:" ++ source.id ++ ":" ++
          toString (now / source.fetchIntervalSec))) ""
    scheduleSources now draws rest

def scheduleDueSources (now : Nat) (draws : SubscriptionSource → TaskDraws) : TaskHandler Unit := do
  let sources ← find .other fun s =>
    s.sources.filter fun source => source.enabled && source.url != ""
  scheduleSources now draws sources

end Grouproxy.Tasks
