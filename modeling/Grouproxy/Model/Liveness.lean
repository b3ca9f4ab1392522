import Grouproxy.Model.AgentApi
import Grouproxy.Model.LiveState
import Grouproxy.Model.NodeProbes

/-! # Heartbeats and the liveness sweep

The background sweep that marks silent nodes offline, and the endpoints of the agents that write the
same documents. The clock counts milliseconds, as the database stores times.
-/

namespace Grouproxy.Liveness

open Programs Collections Backend Text

/-! ## Documents -/

structure Traffic where
  activeConnections : Int
  bytesUp : Int
  bytesDown : Int
  rxBps : Int
  txBps : Int
  deriving DecidableEq

structure Node where
  id : String
  siteId : String
  name : String
  agentId : String
  agentTokenHash : String
  advertiseIp : String
  monitorVersion : String
  singboxVersion : String
  lastSeenAt : Option Nat
  desiredVersion : Int
  appliedVersion : Int
  appliedHash : String
  livenessStatus : String
  configStatus : String
  serviceStatus : String
  subscriptionStatus : String
  probeStatus : String
  traffic : Traffic
  lastError : String
  lastErrorAt : Option Nat
  lastSuccessfulReloadAt : Option Nat
  createdAt : Nat
  deriving DecidableEq

instance : Document String Node := ⟨Node.id⟩

/-- A heartbeat, less the fields that only its stored payload keeps. -/
structure AgentHeartbeat where
  nodeId : String
  monitorVersion : String
  singboxVersion : String
  appliedVersion : Int
  appliedHash : String
  livenessStatus : String
  configStatus : String
  serviceStatus : String
  subscriptionStatus : String
  traffic : Traffic
  lastError : String
  sequence : Int

structure HeartbeatLatest where
  nodeId : String
  payload : AgentHeartbeat
  receivedAt : Nat

/-- The index on the node is unique. -/
instance : Document String HeartbeatLatest := ⟨HeartbeatLatest.nodeId⟩

structure HeartbeatSample where
  nodeId : String
  payload : AgentHeartbeat
  receivedAt : Nat
  expiresAt : Nat

structure Alert where
  fingerprint : String
  category : String
  severity : String
  siteId : String
  nodeId : String
  title : String
  detail : String
  status : String
  firstSeenAt : Nat
  lastSeenAt : Nat
  resolvedAt : Option Nat

/-- The index on the fingerprint is unique. -/
instance : Document String Alert := ⟨Alert.fingerprint⟩

/-- The documents of the nodes and their heartbeats, with what the handlers use besides them. -/
structure LiveStore where
  nodes : Collection Node
  heartbeats : Collection HeartbeatLatest
  samples : List HeartbeatSample
  /-- The samples of connections, with the agents that sent them. -/
  snapshots : List (String × ConnectionSnapshotIn)
  alerts : Collection Alert
  backend : Backend.Store
  tasks : Tasks.TaskStore
  clock : Nat

/-! ## Operations -/

inductive LiveError where
  | failure (failure : Failure)
  | task (error : Tasks.TaskError)

/-- The operations that the results single out: the sweep reads the clock and saves a copy that it
has read, and an agent's handler saves a copy, which a heartbeat has refreshed at some time. -/
inductive LiveLabel where
  | other
  | cutoff
  | sweep (node : Node)
  | agent (node : Node) (received : Option Nat)
  deriving DecidableEq

abbrev LiveHandler (α : Type) := Prog LiveLabel LiveStore LiveError α

def lostStore : LiveError := .failure .operation

def find {α : Type} (query : LiveStore → α) : LiveHandler α := Prog.read lostStore .other query

def update (write : LiveStore → LiveStore) : LiveHandler Unit := Prog.write lostStore .other write

def utcnow : LiveHandler Nat := find LiveStore.clock

def reject (condition : Prop) [Decidable condition] (failure : Failure) : LiveHandler Unit :=
  Prog.reject condition (.failure failure)

def LiveStore.saveNode (s : LiveStore) (node : Node) : LiveStore :=
  { s with nodes := s.nodes.save node }

/-- An agent's handler saves its copy of the node. -/
def saveAgent (node : Node) (received : Option Nat) : LiveHandler Unit :=
  Prog.write lostStore (.agent node received) fun s => s.saveNode node

/-- An insertion into a collection with a unique index. -/
def insert (taken : LiveStore → Bool) (write : LiveStore → LiveStore) : LiveHandler Unit :=
  Prog.atomic lostStore .other fun s =>
    if taken s then (.error (.failure .duplicateKey), s) else (.ok (), write s)

def inBackend {α : Type} (p : Backend.Handler α) : LiveHandler α :=
  p.within LiveStore.backend (fun backend s => { s with backend := backend }) (fun _ => .other)
    .failure

def inTasks {α : Type} (p : Tasks.TaskHandler α) : LiveHandler α :=
  p.within LiveStore.tasks (fun tasks s => { s with tasks := tasks }) (fun _ => .other) .task

/-! ## Alerts -/

structure AlertRequest where
  fingerprint : String
  category : String
  title : String
  detail : String
  siteId : String
  nodeId : String
  severity : String
  active : Bool

def AlertRequest.opened (request : AlertRequest) (current : Nat) : Alert where
  fingerprint := request.fingerprint
  category := request.category
  severity := request.severity
  siteId := request.siteId
  nodeId := request.nodeId
  title := request.title
  detail := clip 512 request.detail
  status := "open"
  firstSeenAt := current
  lastSeenAt := current
  resolvedAt := none

def saveAlert (alert : Alert) : LiveHandler Unit :=
  update fun s => { s with alerts := s.alerts.save alert }

/-- Opens, refreshes or resolves the alert with a fingerprint. -/
def setAlert (request : AlertRequest) : LiveHandler (Option Alert) := do
  let current ← utcnow
  match ← find fun s => s.alerts.get? request.fingerprint with
  | none =>
    if request.active then
      let alert := request.opened current
      insert (fun s => (s.alerts.get? request.fingerprint).isSome)
        fun s => { s with alerts := s.alerts.save alert }
      return some alert
    else return none
  | some existing =>
    if request.active then
      let alert := { request.opened current with firstSeenAt := existing.firstSeenAt }
      saveAlert alert
      return some alert
    else if existing.status ≠ "resolved" then
      let alert := { existing with
        status := "resolved", resolvedAt := some current, lastSeenAt := current }
      saveAlert alert
      return some alert
    else return some existing

/-- The health of a node as one alert for each dimension. -/
def Node.alerts (node : Node) : List AlertRequest :=
  let dimension := fun category active severity title detail =>
    { fingerprint := "node:" ++ node.agentId ++ ":" ++ category
      category := category
      title := title
      detail := detail
      siteId := node.siteId
      nodeId := node.agentId
      severity := severity
      active := active }
  [dimension "liveness" (node.lastSeenAt.isSome && node.livenessStatus != "online") "critical"
      "Node heartbeat is unavailable" node.livenessStatus,
    dimension "configuration"
      (["drift", "failed", "rollback_failed"].contains node.configStatus)
      (if node.configStatus = "rollback_failed" then "critical" else "warning")
      "Node configuration needs attention" node.configStatus,
    dimension "service" (["unhealthy", "shutdown"].contains node.serviceStatus)
      (if node.serviceStatus = "unhealthy" then "critical" else "warning")
      "Node proxy service is unavailable" node.serviceStatus,
    dimension "subscription"
      (["refresh_failed", "apply_failed"].contains node.subscriptionStatus) "warning"
      "Node subscription cannot be applied" node.subscriptionStatus]

def setAlerts : List AlertRequest → LiveHandler Unit
  | [] => return ()
  | request :: rest => do
    let _ ← setAlert request
    setAlerts rest

def syncNodeAlerts (node : Node) : LiveHandler Unit := setAlerts node.alerts

/-! ## The sweep -/

/-- Forty-five seconds. -/
def livenessTimeout : Nat := 45000

def Node.markedOffline (node : Node) : Node := { node with livenessStatus := "offline" }

/-- The last heartbeat that the copy names is before the cutoff, and the copy is not marked yet. -/
def Node.missed (cutoff : Nat) (node : Node) : Bool :=
  node.lastSeenAt.any (fun seen => decide (seen < cutoff)) && node.livenessStatus != "offline"

/-- The sweep saves the whole copy that it has read. -/
def markOffline (node : Node) : LiveHandler Unit :=
  Prog.write lostStore (.sweep node) fun s => s.saveNode node.markedOffline

def sweepNodes (cutoff : Nat) : List Node → LiveHandler Unit
  | [] => return ()
  | node :: rest =>
    if node.missed cutoff then do
      markOffline node
      syncNodeAlerts node.markedOffline
      sweepNodes cutoff rest
    else do
      syncNodeAlerts node
      sweepNodes cutoff rest

def refreshLiveness : LiveHandler Unit := do
  let current ← Prog.read lostStore .cutoff LiveStore.clock
  let nodes ← find fun s => s.nodes.docs
  sweepNodes (current - livenessTimeout) nodes

/-! ## The endpoints of the agents -/

/-- The node whose token has the digest that the request comes with. -/
def requireAgent : Option String → LiveHandler Node
  | none => throw (.failure (.http 401 (.str "agent_token_required")))
  | some tokenHash => do
    match ← find fun s => s.nodes.find? fun node => node.agentTokenHash == tokenHash with
    | none => throw (.failure (.http 401 (.str "invalid_agent_token")))
    | some node => return node

/-- `received if error else previous` -/
def errorTime (error : String) (received : Nat) (previous : Option Nat) : Option Nat :=
  if error = "" then previous else some received

def AgentHeartbeat.refreshed (payload : AgentHeartbeat) (received : Nat) (desiredVersion : Int)
    (node : Node) : Node :=
  let lastError := safeError payload.lastError
  { node with
    monitorVersion := payload.monitorVersion
    singboxVersion := payload.singboxVersion
    lastSeenAt := some received
    desiredVersion := desiredVersion
    appliedVersion := payload.appliedVersion
    appliedHash := payload.appliedHash
    livenessStatus := if payload.livenessStatus = "" then "online" else payload.livenessStatus
    configStatus := payload.configStatus
    serviceStatus := payload.serviceStatus
    subscriptionStatus := payload.subscriptionStatus
    traffic := payload.traffic
    lastError := lastError
    lastErrorAt := errorTime lastError received node.lastErrorAt }

/-- The document of the node's latest heartbeat is inserted or saved. -/
def recordHeartbeat (previous : Option HeartbeatLatest) (latest : HeartbeatLatest) :
    LiveHandler Unit :=
  match previous with
  | none =>
    insert (fun s => (s.heartbeats.get? latest.nodeId).isSome)
      fun s => { s with heartbeats := s.heartbeats.save latest }
  | some _ => update fun s => { s with heartbeats := s.heartbeats.save latest }

/-- Seven days. -/
def sampleLifetime : Nat := 7 * 24 * 3600 * 1000

structure AgentHeartbeatResponse where
  accepted : Bool
  duplicate : Bool
  desiredStale : Bool
  probeRequest : Option Tasks.Task

def agentHeartbeat (tokenHash : Option String) (poll : Tasks.ProbePoll) (payload : AgentHeartbeat) :
    LiveHandler AgentHeartbeatResponse := do
  let node ← requireAgent tokenHash
  reject (payload.nodeId ≠ node.agentId) (.conflict "node_id_mismatch")
  let previous ← find fun s => s.heartbeats.get? node.agentId
  if previous.any fun latest => payload.sequence = latest.payload.sequence then
    return ⟨false, true, false, none⟩
  else
    let received ← utcnow
    let desired ← find fun s => s.backend.latestRelease node.siteId node.agentId
    recordHeartbeat previous ⟨node.agentId, payload, received⟩
    update fun s => { s with
      samples := s.samples ++ [⟨node.agentId, payload, received, received + sampleLifetime⟩] }
    let refreshed :=
      payload.refreshed received ((desired.map DesiredRelease.desiredVersion).getD 0) node
    saveAgent refreshed (some received)
    syncNodeAlerts refreshed
    let probe ← inTasks (Tasks.claimProbeRequests { poll with agentId := node.agentId })
    let stale := desired.any fun release =>
      release.desiredVersion > payload.appliedVersion || release.bundleHash != payload.appliedHash
    return ⟨true, false, stale, probe⟩

def Traffic.ofCounters (counters : Counters) : Traffic :=
  ⟨counters.activeConnections, counters.bytesUp, counters.bytesDown, counters.rxBps, counters.txBps⟩

/-- The answer is whether the batch was accepted; `max` returns the first of the newest samples. -/
def agentConnections (tokenHash : Option String) (payload : AgentConnectionBatch) :
    LiveHandler Bool := do
  let node ← requireAgent tokenHash
  reject (payload.nodeId ≠ node.agentId) (.conflict "node_id_mismatch")
  if ← inBackend (acceptTelemetryBatch node.agentId "connection_snapshot" payload.batch) then
    match payload.snapshots.argmax ConnectionSnapshotIn.sampledAt with
    | none => return true
    | some latest => do
      update fun s => { s with
        snapshots := s.snapshots ++ payload.snapshots.map fun sample => (node.agentId, sample) }
      saveAgent { node with traffic := .ofCounters latest.counters } none
      return true
  else return false

def acknowledged (payload : AgentAck) (desiredVersion : Int) (failedAt reloadedAt : Nat)
    (node : Node) : Node :=
  let lastError := safeError payload.errorMessage
  { node with
    appliedVersion := payload.appliedVersion
    appliedHash := payload.appliedHash
    desiredVersion := desiredVersion
    configStatus :=
      if payload.succeeded then "in_sync"
      else if payload.rollbackAttempted && !payload.rollbackOk then "rollback_failed"
      else "failed"
    serviceStatus :=
      if payload.healthOk || (payload.rollbackAttempted && payload.rollbackOk) then "healthy"
      else "unhealthy"
    lastError := lastError
    lastErrorAt := errorTime lastError failedAt node.lastErrorAt
    lastSuccessfulReloadAt :=
      if payload.succeeded then some reloadedAt else node.lastSuccessfulReloadAt }

/-- The answer is whether the acknowledgement was accepted. -/
def agentAck (tokenHash : Option String) (payload : AgentAck) : LiveHandler Bool := do
  let node ← requireAgent tokenHash
  reject (payload.nodeId ≠ node.agentId) (.conflict "node_id_mismatch")
  let previous ← find fun s =>
    highestSequence? (s.backend.acks.filter fun ack => ack.nodeId == node.agentId)
  if previous.any fun ack => payload.sequence = ack.sequence then return false
  else
    match ← find fun s => s.backend.releases.find? fun r => r.releaseId == payload.releaseId with
    | none => throw (.failure (.conflict "release_not_assigned_to_node"))
    | some release =>
      reject (node.agentId ∉ release.nodeIds) (.conflict "release_not_assigned_to_node")
      match ← find fun s => s.backend.desired.find? fun d =>
          d.releaseId == payload.releaseId && d.nodeId == node.agentId with
      | none => throw (.failure (.conflict "desired_release_not_found"))
      | some desired =>
        reject (payload.desiredVersion ≠ desired.desiredVersion ∨
          payload.bundleHash ≠ desired.bundleHash) (.conflict "ack_bundle_mismatch")
        let receivedAt ← utcnow
        let ack := { payload with
          errorMessage := safeError payload.errorMessage
          receivedAt := receivedAt }
        update fun s => { s with backend := { s.backend with acks := s.backend.acks ++ [ack] } }
        let current ← find fun s => s.backend.latestRelease node.siteId node.agentId
        let failedAt ← utcnow
        let reloadedAt ← utcnow
        let refreshed := acknowledged payload
          ((current.map DesiredRelease.desiredVersion).getD 0) failedAt reloadedAt node
        saveAgent refreshed none
        syncNodeAlerts refreshed
        inBackend (settleRelease release)
        return true

end Grouproxy.Liveness
