import Grouproxy.Library.Collection

/-! # Probe results and the circuits of outbounds

A probe result is added to the history and advances the circuit of its node and outbound. Results
are processed one after another, so that no circuit is inserted between the search for it and its
own insertion. Times are microseconds, of which the database keeps the milliseconds.
-/

namespace Grouproxy.Probes

open Collections

def failureThreshold : Nat := 3

def recoverySuccessThreshold : Nat := 2

def cooldown : Int := 60 * 1000000

def historyRetention : Int := 14 * 24 * 60 * 60 * 1000000

/-- What the database keeps of a time. -/
def storedTime (time : Int) : Int := time / 1000 * 1000

inductive CircuitState where
  | closed
  | opened
  | halfOpen
  deriving DecidableEq

structure Node where
  agentId : String
  siteId : String
  /-- The state of the node's circuits together. -/
  probeStatus : CircuitState

structure ProbeHistory where
  nodeId : String
  siteId : String
  batchId : String
  outboundTag : String
  targetUrl : String
  success : Bool
  latencyMs : Int
  errorClass : String
  sampledAt : Int
  expiresAt : Int

structure ProbeCircuit where
  nodeId : String
  siteId : String
  outboundTag : String
  state : CircuitState
  consecutiveFailures : Nat
  consecutiveSuccesses : Nat
  openedAt : Option Int
  halfOpenAt : Option Int
  lastSuccessAt : Option Int
  lastFailureAt : Option Int
  lastLatencyMs : Int
  lastErrorClass : String
  reason : String
  updatedAt : Int

/-- The unique index of the circuits. -/
instance : Document (String × String) ProbeCircuit where
  key circuit := (circuit.nodeId, circuit.outboundTag)

/-- A call of `set_alert`. -/
structure AlertCall where
  fingerprint : String
  category : String
  title : String
  detail : String
  siteId : String
  nodeId : String
  severity : String
  active : Bool

structure ProbeStore where
  history : List ProbeHistory
  circuits : Collection ProbeCircuit
  alerts : List AlertCall

/-- A result, with the reading of the clock when it is processed. -/
structure ProbeResult where
  current : Int
  batchId : String
  outboundTag : String
  targetUrl : String
  success : Bool
  latencyMs : Int
  errorClass : String
  sampledAt : Int

def historyEntry (node : Node) (result : ProbeResult) : ProbeHistory where
  nodeId := node.agentId
  siteId := node.siteId
  batchId := result.batchId
  outboundTag := result.outboundTag
  targetUrl := result.targetUrl
  success := result.success
  latencyMs := result.latencyMs
  errorClass := result.errorClass
  sampledAt := result.sampledAt
  expiresAt := result.sampledAt + historyRetention

def newCircuit (node : Node) (outboundTag : String) (current : Int) : ProbeCircuit where
  nodeId := node.agentId
  siteId := node.siteId
  outboundTag := outboundTag
  state := .closed
  consecutiveFailures := 0
  consecutiveSuccesses := 0
  openedAt := none
  halfOpenAt := none
  lastSuccessAt := none
  lastFailureAt := none
  lastLatencyMs := 0
  lastErrorClass := ""
  reason := ""
  updatedAt := current

/-! ## One result -/

/-- `circuit.opened_at is not None and current - circuit.opened_at >= COOLDOWN` -/
def cooledDown (current : Int) (openedAt : Option Int) : Bool :=
  match openedAt with
  | none => false
  | some openedAt => decide (cooldown ≤ current - openedAt)

/-- An open circuit is half open once the cooldown has elapsed. -/
def coolDown (current : Int) (circuit : ProbeCircuit) : ProbeCircuit :=
  if circuit.state = .opened ∧ cooledDown current circuit.openedAt = true then
    { circuit with
      state := .halfOpen
      halfOpenAt := some current
      consecutiveSuccesses := 0
      reason := "cooldown_elapsed" }
  else circuit

def recordSuccess (result : ProbeResult) (circuit : ProbeCircuit) : ProbeCircuit :=
  let circuit := { circuit with
    lastSuccessAt := some result.current
    lastLatencyMs := result.latencyMs
    lastErrorClass := ""
    consecutiveFailures := 0
    consecutiveSuccesses := circuit.consecutiveSuccesses + 1 }
  if circuit.state = .halfOpen ∧ recoverySuccessThreshold ≤ circuit.consecutiveSuccesses then
    { circuit with
      state := .closed
      openedAt := none
      halfOpenAt := none
      reason := "recovery_success_threshold" }
  else circuit

def recordFailure (result : ProbeResult) (circuit : ProbeCircuit) : ProbeCircuit :=
  let circuit := { circuit with
    lastFailureAt := some result.current
    lastLatencyMs := result.latencyMs
    lastErrorClass := if result.errorClass = "" then "probe_failed" else result.errorClass
    consecutiveSuccesses := 0
    consecutiveFailures := circuit.consecutiveFailures + 1 }
  if circuit.state = .halfOpen ∨
      circuit.state = .closed ∧ failureThreshold ≤ circuit.consecutiveFailures then
    { circuit with
      state := .opened
      openedAt := some result.current
      halfOpenAt := none
      reason :=
        if circuit.consecutiveFailures < failureThreshold then "half_open_probe_failed"
        else "failure_threshold" }
  else circuit

def advance (result : ProbeResult) (circuit : ProbeCircuit) : ProbeCircuit :=
  let circuit := coolDown result.current circuit
  { if result.success then recordSuccess result circuit else recordFailure result circuit with
    updatedAt := result.current }

/-- The circuit as it is read again. -/
def ProbeCircuit.stored (circuit : ProbeCircuit) : ProbeCircuit :=
  { circuit with
    openedAt := circuit.openedAt.map storedTime
    halfOpenAt := circuit.halfOpenAt.map storedTime
    lastSuccessAt := circuit.lastSuccessAt.map storedTime
    lastFailureAt := circuit.lastFailureAt.map storedTime
    updatedAt := storedTime circuit.updatedAt }

def circuitAlert (node : Node) (outboundTag : String) (circuit : ProbeCircuit) : AlertCall where
  fingerprint := "probe:" ++ node.agentId ++ ":" ++ outboundTag
  category := "probe"
  title := "Outbound circuit is open"
  detail := outboundTag ++ ": " ++
    if circuit.reason = "" then circuit.lastErrorClass else circuit.reason
  siteId := node.siteId
  nodeId := node.agentId
  severity := "warning"
  active := circuit.state = .opened

def probeStatus (circuits : Collection ProbeCircuit) (node : Node) (circuit : ProbeCircuit) :
    CircuitState :=
  if circuits.any fun c => decide (c.nodeId = node.agentId) && decide (c.state = .opened) then
    .opened
  else if circuit.state = .closed then .closed
  else .halfOpen

/-- The circuit, the node and the store after a result is processed. -/
def recordProbeResult (store : ProbeStore) (node : Node) (result : ProbeResult) :
    ProbeCircuit × Node × ProbeStore :=
  let found := store.circuits.get? (node.agentId, result.outboundTag)
  let circuit :=
    advance result (found.getD (newCircuit node result.outboundTag result.current))
  let circuits := store.circuits.save circuit.stored
  (circuit, { node with probeStatus := probeStatus circuits node circuit },
    { history := store.history ++ [historyEntry node result]
      circuits := circuits
      alerts := store.alerts ++ [circuitAlert node result.outboundTag circuit] })

/-- The store after results of a node are processed one after another. -/
def recordAll (store : ProbeStore) (node : Node) : List ProbeResult → ProbeStore
  | [] => store
  | result :: results =>
    let recorded := recordProbeResult store node result
    recordAll recorded.2.2 recorded.2.1 results

end Grouproxy.Probes
