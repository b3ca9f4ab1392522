import Mathlib.Data.List.MinMax
import Grouproxy.Library.Programs
import Grouproxy.Model.Cidr

/-! # The backend's database

Collections hold their documents in the order of insertion. A document keeps the fields that
some handler reads back; its other fields, and the audit log, are left out.
-/

namespace Grouproxy.Backend

open Encoding Crypto Cidr Programs

/-! ## Documents -/

structure Site where
  id : String
  name : String
  shutdown : Bool
  configRevision : Nat
  routingPolicy : Option Json
  routingRevision : Nat

/-- An agent identity is never empty: the request that registers a node refuses it. -/
structure Node where
  id : String
  siteId : String
  agentId : String
  monitorVersion : String
  agentId_ne : agentId ≠ "" := by decide

structure SubscriptionVersion where
  id : String
  sourceId : String
  version : Nat
  contentHash : String
  sizeBytes : Nat
  format : String
  content : ByteArray
  parseOk : Bool
  nodeCount : Nat
  published : Bool

/-- The subscription version selected for a site. -/
structure SiteSubscription where
  siteId : String
  subscriptionVersionId : String
  previousSubscriptionVersionId : Option String
  sourceId : String
  deriving DecidableEq

structure DesiredRelease where
  releaseId : String
  nodeId : String
  siteId : String
  desiredVersion : Nat
  sourceRevision : Nat
  bundleHash : String
  bundle : Dict
  previousReleaseId : Option String

inductive DraftStatus where
  | draft
  | released
  | expired
  deriving DecidableEq

structure ConfigDraft where
  id : String
  siteId : String
  nodeIds : List String
  sourceRevision : Nat
  diff : Dict
  status : DraftStatus
  expiresAt : Nat

inductive ReleaseStatus where
  | queued
  | applying
  | healthCheck
  | rollingBack
  | succeeded
  | failed
  deriving DecidableEq

/-- `_ACTIVE_CONFIG_RELEASE_STATUSES` -/
def ReleaseStatus.isActive : ReleaseStatus → Bool
  | .queued | .applying | .healthCheck | .rollingBack => true
  | .succeeded | .failed => false

structure ConfigRelease where
  releaseId : String
  siteId : String
  nodeIds : List String
  changeCategories : List String
  previousReleaseId : Option String
  taskId : String
  status : ReleaseStatus
  error : String
  rollbackReason : String
  deriving DecidableEq

structure Task where
  taskId : String
  idempotencyKey : String
  status : ReleaseStatus
  deriving DecidableEq

structure AgentAck where
  nodeId : String
  releaseId : String
  desiredVersion : Int
  appliedVersion : Int
  bundleHash : String
  appliedHash : String
  ok : Bool
  healthOk : Bool
  rollbackAttempted : Bool
  rollbackOk : Bool
  errorCode : String
  errorMessage : String
  sequence : Int
  receivedAt : Nat
  deriving DecidableEq

/-- A group of the proxy projection; the health of its endpoints is left out. -/
structure ProxyGroupSnapshot where
  name : String
  now : String
  all : List String
  deriving DecidableEq

structure ProxyConfigSnapshot where
  nodeId : String
  sampledAt : Nat
  groups : List ProxyGroupSnapshot

structure TelemetryBatch where
  nodeId : String
  kind : String
  batchId : String
  sequence : Int
  itemCount : Nat
  deriving DecidableEq

structure TelemetryCursor where
  nodeId : String
  kind : String
  lastSequence : Int
  lastBatchId : String
  deriving DecidableEq

structure Store where
  sites : List Site
  nodes : List Node
  versions : List SubscriptionVersion
  bindings : List SiteSubscription
  desired : List DesiredRelease
  drafts : List ConfigDraft
  releases : List ConfigRelease
  tasks : List Task
  acks : List AgentAck
  snapshots : List ProxyConfigSnapshot
  batches : List TelemetryBatch
  cursors : List TelemetryCursor
  blacklist : List SourceBlacklist
  accessControlSets : List AccessControlSet
  networkGroups : List NetworkGroup

def Store.empty : Store := ⟨[], [], [], [], [], [], [], [], [], [], [], [], [], [], []⟩

/-! ## Operations -/

/-- The exceptions of a handler. `python` is one that nothing catches by its class, and
`operation` a failure of the database itself. -/
inductive Failure where
  | http (status : Nat) (detail : Json)
  | duplicateKey
  | valueError (message : String)
  | python (name : String)
  | operation

def Failure.conflict (code : String) : Failure := .http 409 (.str code)

/-- The operations inside `create_desired_release` for one node. -/
inductive NodeOp where
  | previous
  | blacklist
  | accessControlSets
  | networkGroups
  | binding
  | version
  | tagsBinding
  | tagsVersion
  | insert
  deriving DecidableEq

inductive DesiredOp where
  | previous
  | setRevision
  | node (agentId : String) (op : NodeOp)
  deriving DecidableEq

inductive TaskOp where
  | find
  | insert
  | findAgain
  deriving DecidableEq

/-- The names of the operations that the results single out; the rest is `other`. -/
inductive Label where
  | other
  | findTask (key : String)
  | findRelease (taskId : String)
  | activeRelease (agentIds : List String)
  | desired (siteId : String) (op : DesiredOp)
  | task (key : String) (op : TaskOp)
  | insertRelease (release : ConfigRelease)
  deriving DecidableEq

abbrev Handler (α : Type) := Prog Label Store Failure α

def find {α : Type} (label : Label) (query : Store → α) : Handler α :=
  Prog.atomic .operation label fun s => (.ok (query s), s)

def update (label : Label) (write : Store → Store) : Handler Unit :=
  Prog.atomic .operation label fun s => (.ok (), write s)

/-- `if condition: raise failure` -/
def reject (condition : Prop) [Decidable condition] (failure : Failure) : Handler Unit :=
  if condition then throw failure else return ()

/-- An insertion that a unique index refuses when the store holds `taken`. -/
def insert (label : Label) (taken : Store → Bool) (write : Store → Store) : Handler Unit :=
  Prog.atomic .operation label fun s =>
    if taken s then (.error .duplicateKey, s) else (.ok (), write s)

end Grouproxy.Backend
