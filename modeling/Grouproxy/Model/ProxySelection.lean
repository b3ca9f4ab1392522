import Grouproxy.Model.AgentApi
import Grouproxy.Model.Telemetry

/-! # Selecting an outbound

What a monitor reports of its proxy groups, the projection the backend keeps of it, and the
request that selects one of the reported outbounds for a node.
-/

namespace Grouproxy.Backend

open Text Ipaddress Encoding Crypto Cidr Programs Grouproxy.Bundle

/-! ## The monitor's report -/

/-- A group as the Clash API of the node lists it under a key. -/
structure ClashGroup where
  key : String
  name : String
  now : String
  all : List String

/-- A group of a `proxy-config` batch; `nodes` are the names of its endpoints. -/
structure ReportedGroup where
  name : String
  now : String
  all : List String
  nodes : List String

def monitorLabel (value : String) : String := String.ofList (Singbox.safeProxyLabel value)

/-- Distinct names that are not empty, at most 500. -/
def distinctNames (names : List String) : List String :=
  (distinctBy id [] (names.filter fun name => name ≠ "")).take 500

def safeProxyNames (values : List String) : List String := distinctNames (values.map monitorLabel)

def ClashGroup.label (group : ClashGroup) : String :=
  if monitorLabel group.name = "" then monitorLabel group.key else monitorLabel group.name

def proxyGroupProjection (group : ClashGroup) : ReportedGroup :=
  { name := group.label, now := monitorLabel group.now, all := safeProxyNames group.all
    nodes := (safeProxyNames group.all).map monitorLabel }

/-- The groups in the order of their keys, and last the selector of the subscription if none of
them has its name. Groups without members are left out. -/
def readProxyGroups (groups : List ClashGroup) : List ReportedGroup :=
  (groups.filter fun group => safeProxyNames group.all ≠ []).map proxyGroupProjection

/-! ## The backend's projection -/

/-- `_safe_proxy_label` with its default limit. -/
def safeProxyLabel (value : String) : String := joinedWords 255 value

def sanitizeProxyGroup (group : ReportedGroup) : Option ProxyGroupSnapshot :=
  if safeProxyLabel group.name = "" then none
  else some
    { name := safeProxyLabel group.name
      now := safeProxyLabel group.now
      all := distinctNames (distinctNames (group.all.map safeProxyLabel) ++
        group.nodes.map safeProxyLabel) }

structure AgentProxyConfigBatch where
  nodeId : String
  batch : Batch
  sampledAt : Nat
  apiAvailable : Bool
  groups : List ReportedGroup

/-- The snapshot after a batch. The groups are kept while the local API is unavailable. -/
def refreshedSnapshot (node : Node) (payload : AgentProxyConfigBatch)
    (snapshot : Option ProxyConfigSnapshot) : ProxyConfigSnapshot :=
  { nodeId := node.agentId, sampledAt := payload.sampledAt
    groups :=
      if payload.apiAvailable then payload.groups.filterMap sanitizeProxyGroup
      else (snapshot.map ProxyConfigSnapshot.groups).getD [] }

/-- There is one snapshot for each node. The answer is whether the batch was accepted. -/
def agentProxyConfig (node : Node) (payload : AgentProxyConfigBatch) : Handler Bool := do
  reject (payload.nodeId ≠ node.agentId) (.conflict "node_id_mismatch")
  if ← acceptTelemetryBatch node.agentId "proxy_config" payload.batch then
    let snapshot ← find .other fun s => s.snapshots.find? fun other => other.nodeId == node.agentId
    let refreshed := refreshedSnapshot node payload snapshot
    if snapshot.isNone then
      insert .other (fun s => s.snapshots.any fun other => other.nodeId == node.agentId)
        fun s => { s with snapshots := s.snapshots ++ [refreshed] }
    else
      update .other fun s => { s with
        snapshots := s.snapshots.map fun other =>
          if other.nodeId = node.agentId then refreshed else other }
    return true
  else return false

def latestProxyConfig (nodeId : String) : Handler (Option ProxyConfigSnapshot) :=
  find .other fun s =>
    (s.snapshots.filter fun snapshot => snapshot.nodeId == nodeId).argmax
      ProxyConfigSnapshot.sampledAt

/-! ## The request -/

structure ProxySelectionRequest where
  group : String
  outbound : String
  expectedCurrentVersion : Option Int
  note : String

/-- `" ".join(value.split())` -/
def collapsedWords (value : String) : String :=
  String.ofList ([' '].intercalate
    ((value.toList.splitOnP Ipaddress.isSpace).filter fun word => word ≠ []))

/-- `str.casefold`, as far as the comparison with `subscription` can tell: besides the capital
letters only the long s folds to one of its letters. -/
def casefold (value : String) : String :=
  String.ofList (value.toList.map fun c => if c = Char.ofNat 0x17f then 's' else c.toLower)

def proxySelectionGroup (value : String) : Handler String :=
  if casefold (safeProxyLabel value) ≠ "subscription" then
    throw (.conflict "proxy_group_not_selectable")
  else return "subscription"

/-- The key of a request without an `Idempotency-Key` header. -/
def defaultSelectionKey (agentId group outbound : String) (expectedCurrentVersion : Option Int) :
    String :=
  "proxy-selection:" ++ agentId ++ ":" ++ group ++ ":" ++ outbound ++ ":" ++
    match expectedCurrentVersion with
    | none => "latest"
    | some version => toString version

/-- The `diff` of the draft; `current` is the outbound in use. -/
def selectionDiff (agentId group outbound current note : String) : Dict :=
  [("proxy_selection", .obj [("node_id", .str agentId), ("group", .str group),
      ("outbound", .str outbound), ("from", if current = "" then .null else .str current)]),
    ("note", .str note)]

def selectionDraft (draws : Draws) (site : Site) (node : Node)
    (group outbound current note : String) : ConfigDraft :=
  { newDraft draws site [node] (selectionDiff node.agentId group outbound current note) with
    siteId := node.siteId }

/-- A draft whose release was made by another request is not needed. -/
def recordSelection (reused : Bool) (draft : ConfigDraft) : Handler Unit :=
  if reused then expireDraft draft else appendAudit

/-- From the draft on; it expires if the release fails or is not its own. -/
def publishSelection (settings : Settings) (draws : Draws) (draft : ConfigDraft) (site : Site)
    (node : Node) (expectedCurrentVersion : Option Int) (key : String) : Handler ConfigRelease := do
  insertDraft draft
  let created ← Prog.tryCatch
    (createReleaseFromDraft settings draws draft site [node.id] expectedCurrentVersion key)
    fun e => do
      expireDraft draft
      throw e
  recordSelection created.2 draft
  return created.1

/-- From the snapshot on. -/
def releaseSelection (settings : Settings) (draws : Draws) (node : Node)
    (payload : ProxySelectionRequest) (groupName outboundName key : String) :
    Handler ConfigRelease := do
  match ← latestProxyConfig node.agentId with
  | none => throw (.conflict "proxy_snapshot_not_found")
  | some snapshot =>
    match snapshot.groups.find? fun group => group.name == groupName with
    | none => throw (.conflict "proxy_group_not_found")
    | some selected =>
      reject (outboundName ∉ selected.all) (.conflict "proxy_outbound_not_found")
      match ← find .other fun s => s.site? node.siteId with
      | none => throw (.conflict "site_not_found")
      | some site =>
        let _ ← find .other fun s => effectiveBlacklist node.agentId s.blacklist
        publishSelection settings draws
          (selectionDraft draws site node groupName outboundName selected.now payload.note) site node
          payload.expectedCurrentVersion key

def selectNodeProxy (settings : Settings) (draws : Draws) (nodeId : String)
    (payload : ProxySelectionRequest) (idempotencyKeyHeader : Option String) :
    Handler ConfigRelease := do
  match ← findNodeReference nodeId with
  | none => throw (.http 404 (.str "node_not_found"))
  | some node =>
    let groupName ← proxySelectionGroup payload.group
    let outboundName := collapsedWords payload.outbound
    let key := firstText [idempotencyKeyHeader.map strip]
      (defaultSelectionKey node.agentId groupName outboundName payload.expectedCurrentVersion)
    match ← find .other fun s => s.taskByKey? key with
    | some task =>
      match ← find .other fun s => s.releaseByTask? task.taskId with
      | some release => return release
      | none => throw (.conflict "release_idempotency_incomplete")
    | none => releaseSelection settings draws node payload groupName outboundName key

end Grouproxy.Backend
