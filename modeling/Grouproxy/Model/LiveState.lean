import Grouproxy.Model.ProxySelection

/-! # The live state of a node

What `/agent/v1/proxy-config` and `/agent/v1/connections` leave behind: the proxy snapshot of a node
and the traffic counters in its document. Batches are handled one after another.
-/

namespace Grouproxy.Backend

open Programs

/-- The live counters of a node. -/
structure Counters where
  activeConnections : Nat
  bytesUp : Nat
  bytesDown : Nat
  rxBps : Nat
  txBps : Nat
  deriving DecidableEq

/-- A sample, less its top lists, which go to the history alone. -/
structure ConnectionSnapshotIn where
  sampledAt : Nat
  counters : Counters
  deriving DecidableEq

structure AgentConnectionBatch where
  nodeId : String
  batchId : String
  sequence : Int
  snapshots : List ConnectionSnapshotIn

def AgentConnectionBatch.batch (payload : AgentConnectionBatch) : Batch :=
  ⟨payload.batchId, payload.sequence, payload.snapshots.length⟩

/-- The store and the counters of every node, by the identity of its agent, with a record of what
was accepted: the batches of proxy groups, and the samples with the node that sent them. -/
structure LiveState where
  store : Store
  counters : String → Counters
  configs : List AgentProxyConfigBatch
  samples : List (String × ConnectionSnapshotIn)

/-- Nothing was accepted yet. -/
def LiveState.start (store : Store) (counters : String → Counters) : LiveState :=
  ⟨store, counters, [], []⟩

/-- Up to the insertion of the samples. -/
def acceptConnections (node : Node) (payload : AgentConnectionBatch) : Handler Bool := do
  reject (payload.nodeId ≠ node.agentId) (.conflict "node_id_mismatch")
  acceptTelemetryBatch node.agentId "connection_snapshot" payload.batch

/-- The counters after a batch: `max` returns the first of the newest samples. -/
def refreshedCounters (node : Node) (payload : AgentConnectionBatch)
    (counters : String → Counters) : String → Counters :=
  match payload.snapshots.argmax ConnectionSnapshotIn.sampledAt with
  | none => counters
  | some latest => Function.update counters node.agentId latest.counters

def agentConnections (node : Node) (payload : AgentConnectionBatch) (live : LiveState) :
    LiveState :=
  match (acceptConnections node payload).run live.store with
  | (.ok true, store) =>
    { live with
      store := store
      counters := refreshedCounters node payload live.counters
      samples := live.samples ++ payload.snapshots.map fun sample => (node.agentId, sample) }
  | (_, store) => { live with store := store }

def receiveProxyConfig (node : Node) (payload : AgentProxyConfigBatch) (live : LiveState) :
    LiveState :=
  match (agentProxyConfig node payload).run live.store with
  | (.ok true, store) => { live with store := store, configs := live.configs ++ [payload] }
  | (_, store) => { live with store := store }

/-- A batch arrives from the node that the request authenticates. -/
inductive Arrival where
  | proxyConfig (node : Node) (payload : AgentProxyConfigBatch)
  | connections (node : Node) (payload : AgentConnectionBatch)

def arrive (live : LiveState) : Arrival → LiveState
  | .proxyConfig node payload => receiveProxyConfig node payload live
  | .connections node payload => agentConnections node payload live

end Grouproxy.Backend
