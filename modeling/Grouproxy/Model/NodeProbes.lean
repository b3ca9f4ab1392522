import Grouproxy.Model.Tasks

/-! # Probes that operators request

The endpoint that requests a probe of a node, and the tasks that a heartbeat of the node hands out.
The target and the tags of a task are left out of its payload.
-/

namespace Grouproxy.Tasks

open Programs Collections Backend

/-- The operations of a request are those of `create_task`, the search for the active probe of a
node, and others. -/
inductive ProbeLabel where
  | findActive (agentId : String)
  | create (label : TaskLabel)
  | task (label : TaskLabel)

abbrev ProbeHandler (α : Type) := Prog ProbeLabel TaskStore TaskError α

def probeTaskType : String := "node.probe"

def Task.isActiveProbe (agentId : String) (task : Task) : Bool :=
  task.taskType == probeTaskType && task.targetId == agentId && task.active

def TaskStore.activeProbe? (s : TaskStore) (agentId : String) : Option Task :=
  s.tasks.find? (Task.isActiveProbe agentId)

/-! ## Requests -/

structure ProbeTaskRequest where
  targetUrl : Option String
  outboundTags : List String

/-- A request, what it finds besides the tasks, and what it draws. -/
structure ProbeCall where
  /-- The agent identifier of the node that `_find_node_reference` finds. -/
  agentId : Option String
  payload : ProbeTaskRequest
  defaultProbeUrl : String
  probeMaxOutbounds : Nat
  /-- `_safe_probe_target`, which resolves the host name. -/
  safeProbeTarget : String → Except TaskError String
  idempotencyKeyHeader : Option String
  actor : String
  requestId : String
  draws : TaskDraws

def safeLogText (limit : Nat) (value : String) : String := joinedWords limit value

def ProbeCall.tags (call : ProbeCall) : List String :=
  (call.payload.outboundTags.map (safeLogText 128)).filter (· ≠ "")

/-- `header or derived` -/
def ProbeCall.key (call : ProbeCall) (agentId targetUrl : String) : String :=
  let derived := "node.probe:" ++ agentId ++ ":" ++ targetUrl ++ ":" ++
    ",".intercalate (call.tags.insertionSort (· ≤ ·))
  match call.idempotencyKeyHeader with
  | some key => if key = "" then derived else key
  | none => derived

/-- `payload.target_url or system_settings.default_probe_url` -/
def ProbeCall.requestedUrl (call : ProbeCall) : String :=
  match call.payload.targetUrl with
  | some targetUrl => if targetUrl = "" then call.defaultProbeUrl else targetUrl
  | none => call.defaultProbeUrl

/-- The checks before the first look at the tasks, with the node and the target of the probe. -/
def ProbeCall.checked (call : ProbeCall) : Except TaskError (String × String) :=
  match call.agentId with
  | none => .error (.http 404 "node_not_found")
  | some agentId =>
    match call.safeProbeTarget call.requestedUrl with
    | .error e => .error e
    | .ok targetUrl =>
      if call.probeMaxOutbounds < call.tags.length then
        .error (.http 422 "probe_outbound_limit_exceeded")
      else .ok (agentId, targetUrl)

def findActiveProbe (agentId : String) : ProbeHandler (Option Task) :=
  Prog.read lostConnection (.findActive agentId) fun s => s.activeProbe? agentId

def ProbeCall.taskRequest (call : ProbeCall) (agentId targetUrl : String) : TaskRequest where
  taskType := probeTaskType
  targetType := "node"
  targetId := agentId
  payload := ⟨"", false⟩
  idempotencyKey := call.key agentId targetUrl
  createdBy := call.actor
  requestId := call.requestId

/-- The task of a request whose node had no active probe. -/
def createdProbe (call : ProbeCall) (agentId targetUrl : String) : ProbeHandler Task :=
  Prog.tryCatch
    (do
      let (task, _) ← (createTask call.draws (call.taskRequest agentId targetUrl)).relabel .create
      return task)
    fun
    | .duplicateKey => do
      match ← findActiveProbe agentId with
      | some task => return task
      | none => throw .duplicateKey
    | e => throw e

def createNodeProbe (call : ProbeCall) : ProbeHandler Task :=
  match call.checked with
  | .error e => throw e
  | .ok (agentId, targetUrl) => do
    match ← findActiveProbe agentId with
    | some task => do
      appendAudit.relabel .task
      return task
    | none => do
      let task ← createdProbe call agentId targetUrl
      appendAudit.relabel .task
      return task

/-! ## Heartbeats -/

/-- The part of a heartbeat that deals with probes: whether automatic probes are on and have a
target, the time slot, and when the operations run. -/
structure ProbePoll where
  agentId : String
  automatic : Bool
  slot : Nat
  draws : TaskDraws
  reclaimedAt : Nat
  reclaimFailedAt : Nat
  lease : Lease
  /-- Why `_safe_probe_target` refuses the target of a task, if it does. -/
  refused : Task → Option String
  failedAt : Nat

def scheduleAutomaticProbe (poll : ProbePoll) : TaskHandler Unit := do
  match ← find .other fun s => s.activeProbe? poll.agentId with
  | some _ => return ()
  | none =>
    Prog.tryCatch
      (do
        let _ ← createTask poll.draws
          { taskType := probeTaskType
            targetType := "node"
            targetId := poll.agentId
            payload := ⟨"", false⟩
            idempotencyKey := "node.probe:auto:" ++ poll.agentId ++ ":" ++ toString poll.slot
            createdBy := "scheduler"
            requestId := "probe-scheduler:" ++ toString poll.slot })
      fun
      | .duplicateKey => return ()
      | e => throw e

def claimProbeRequests (poll : ProbePoll) : TaskHandler (Option Task) := do
  reclaimExpiredTasks probeTaskType poll.reclaimedAt poll.reclaimFailedAt
  if poll.automatic then scheduleAutomaticProbe poll
  match ← claimProbeTaskForNode poll.agentId poll.lease with
  | none => return none
  | some task =>
    match poll.refused task with
    | some detail => do
      let _ ← failTask .fail poll.failedAt task detail false
      return none
    | none => return some task

end Grouproxy.Tasks
