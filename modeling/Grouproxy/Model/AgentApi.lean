import Grouproxy.Model.Releases

/-! # The API of the agents

What a node is served when it asks for its desired bundle, and what its acknowledgement does to
the release.
-/

namespace Grouproxy.Backend

open Text Ipaddress Encoding Crypto Cidr Programs Grouproxy.Bundle

/-! ## Serving the desired bundle -/

def retiredPolicyFields : List String :=
  ["allow_cidrs", "deny_destinations", "deny_sources", "acl_note", "acl_sources",
    "effective_cidrs", "source_blacklist"]

mutual
def stripRetiredPolicyFields : Json → Json
  | .obj fields => .obj (stripRetiredFields fields)
  | .arr items => .arr (stripRetiredItems items)
  | value => value
def stripRetiredItems : List Json → List Json
  | [] => []
  | item :: rest => stripRetiredPolicyFields item :: stripRetiredItems rest
def stripRetiredFields : List (String × Json) → List (String × Json)
  | [] => []
  | (key, value) :: rest =>
    if key ∈ retiredPolicyFields then stripRetiredFields rest
    else (key, stripRetiredPolicyFields value) :: stripRetiredFields rest
end

mutual
/-- Stripping changes the value. -/
def hasRetired : Json → Bool
  | .obj fields => hasRetiredField fields
  | .arr items => hasRetiredItem items
  | _ => false
def hasRetiredItem : List Json → Bool
  | [] => false
  | item :: rest => hasRetired item || hasRetiredItem rest
def hasRetiredField : List (String × Json) → Bool
  | [] => false
  | (key, value) :: rest =>
    key ∈ retiredPolicyFields || hasRetired value || hasRetiredField rest
end

/-- The tags of the version a bundle carries, inline or by its hash. -/
def bundleSubscriptionTags (libs : Libraries) (bundle : Dict) : Handler (List String) :=
  match dictGet bundle "subscription" with
  | .obj subscription =>
    let format := strOf libs (dictGetD subscription "format" (.str ""))
    match dictGet subscription "content" with
    | .str content => return subscriptionOutboundTags libs content.toUTF8 format
    | _ => do
      let contentHash := strOf libs (dictGetD subscription "hash" (.str ""))
      if contentHash = "" then return []
      else
        match ← find .other fun s => s.versions.find? fun v => v.contentHash == contentHash with
        | none => return []
        | some version => return subscriptionOutboundTags libs version.content format
  | _ => return []

/-- `d.pop(key, None)` -/
def dictPop (d : Dict) (key : String) : Dict := d.filter fun f => f.1 ≠ key

/-- Signs a repaired bundle and saves it in its document. -/
def saveRepaired (settings : Settings) (desired : DesiredRelease) (repaired : Dict) :
    Handler DesiredRelease := do
  let signed := signBundle settings.hashes repaired settings.bundleHmacSecret
  let desired := { desired with
    bundle := signed
    bundleHash := textOf (dictGet signed "bundle_hash") }
  update .other fun s => { s with
    desired := s.desired.map fun other =>
      if other.releaseId = desired.releaseId ∧ other.nodeId = desired.nodeId then desired
      else other }
  return desired

/-- `repair_stale_proxy_selection`, with the document as it is afterwards. -/
def repairStaleProxySelection (settings : Settings) (desired : DesiredRelease) :
    Handler DesiredRelease := do
  let repaired := stripRetiredFields desired.bundle
  let changed := hasRetiredField desired.bundle
  match dictGet repaired "proxy_selection" with
  | .obj selection =>
    let group := strip (strOf settings.libs (dictGetD selection "group" (.str "")))
    let outbound := strip (strOf settings.libs (dictGetD selection "outbound" (.str "")))
    let outboundTags ← bundleSubscriptionTags settings.libs repaired
    if group = "subscription" ∧ outbound ≠ "" ∧
        outbound ∈ subscriptionSelectionTags outboundTags then
      if outbound ∉ outboundTags ∧ textOf (dictGet repaired "min_monitor_version") = "0.6.0" then
        saveRepaired settings desired (Dict.set repaired "min_monitor_version" (.str "0.7.0"))
      else if changed then saveRepaired settings desired repaired
      else return desired
    else saveRepaired settings desired (dictPop repaired "proxy_selection")
  | _ => if changed then saveRepaired settings desired repaired else return desired

structure DesiredResponse where
  desiredStale : Bool
  releaseId : Option String
  bundle : Option Dict

def agentDesired (settings : Settings) (node : Node) (appliedVersion : Int)
    (appliedHash : String) : Handler DesiredResponse := do
  match ← find .other fun s => s.latestRelease node.siteId node.agentId with
  | none => return ⟨false, none, none⟩
  | some desired =>
    let desired ← repairStaleProxySelection settings desired
    let stale := appliedVersion < desired.desiredVersion || desired.bundleHash != appliedHash
    return ⟨stale, some desired.releaseId, if stale then some desired.bundle else none⟩

/-! ## Acknowledgements -/

/-- `" ".join(value.split())[:limit]` -/
def joinedWords (limit : Nat) (value : String) : String :=
  clip limit (String.ofList ([' '].intercalate
    ((value.toList.splitOnP Ipaddress.isSpace).filter fun word => word ≠ [])))

def safeError (value : String) : String := joinedWords 512 value

/-- `find_one` with the greatest sequence. -/
def highestSequence? (acks : List AgentAck) : Option AgentAck :=
  acks.foldl (fun highest item => match highest with
    | none => some item
    | some previous => if previous.sequence < item.sequence then some item else some previous) none

/-- `(item.received_at, item.sequence) > (previous.received_at, previous.sequence)` -/
def AgentAck.newer (item previous : AgentAck) : Bool :=
  previous.receivedAt < item.receivedAt ||
    (item.receivedAt == previous.receivedAt && previous.sequence < item.sequence)

/-- The newest acknowledgement of a node. -/
def latestAck? (acks : List AgentAck) (nodeId : String) : Option AgentAck :=
  (acks.filter fun ack => ack.nodeId == nodeId).foldl
    (fun latest item => match latest with
      | none => some item
      | some previous => if item.newer previous then some item else some previous) none

/-- The newest acknowledgement of every node, ordered by node. -/
def latestAckPerNode (acks : List AgentAck) : List AgentAck :=
  ((distinctBy id [] (acks.map AgentAck.nodeId)).insertionSort fun a b => codePointLe a b = true).filterMap
    (latestAck? acks)

def AgentAck.succeeded (ack : AgentAck) : Bool := ack.ok && ack.healthOk

/-- The end of a release whose nodes have all answered. -/
def finishedRelease (release : ConfigRelease) (acks : List AgentAck) : ConfigRelease :=
  let own := acks.filter fun ack => ack.nodeId ∈ release.nodeIds
  if own.all AgentAck.succeeded then
    { release with status := .succeeded, error := "", rollbackReason := "" }
  else
    let failed := own.find? fun ack => !ack.succeeded
    { release with
      status := .failed
      error := safeError (firstText [failed.map AgentAck.errorCode, failed.map AgentAck.errorMessage]
        "one_or_more_nodes_failed")
      rollbackReason :=
        ((own.find? AgentAck.rollbackAttempted).map AgentAck.errorMessage).getD "" }

def saveRelease (release : ConfigRelease) : Handler Unit :=
  update .other fun s => { s with
    releases := s.releases.map fun other =>
      if other.releaseId = release.releaseId then release else other }

def saveTaskStatus (task : Task) (status : ReleaseStatus) : Handler Unit :=
  update .other fun s => { s with
    tasks := s.tasks.map fun other =>
      if other.taskId = task.taskId then { task with status := status } else other }

/-- Finishes the release and its task once every node of the release has answered. -/
def settleRelease (release : ConfigRelease) : Handler Unit := do
  let acks ← find .other fun s =>
    latestAckPerNode (s.acks.filter fun ack => ack.releaseId == release.releaseId)
  if release.nodeIds.all fun nodeId => acks.any fun ack => ack.nodeId == nodeId then
    let release := finishedRelease release acks
    saveRelease release
    match ← find .other fun s => s.tasks.find? fun task => task.taskId == release.taskId with
    | none => return ()
    | some task => saveTaskStatus task release.status
  else return ()

/-- The answer is whether the acknowledgement was accepted. -/
def agentAck (receivedAt : Nat) (node : Node) (payload : AgentAck) : Handler Bool := do
  reject (payload.nodeId ≠ node.agentId) (.conflict "node_id_mismatch")
  let previous ← find .other fun s =>
    highestSequence? (s.acks.filter fun ack => ack.nodeId == node.agentId)
  if previous.any fun ack => payload.sequence = ack.sequence then return false
  else
    match ← find .other fun s => s.releases.find? fun r => r.releaseId == payload.releaseId with
    | none => throw (.conflict "release_not_assigned_to_node")
    | some release =>
      reject (node.agentId ∉ release.nodeIds) (.conflict "release_not_assigned_to_node")
      match ← find .other fun s => s.desired.find? fun d =>
          d.releaseId == payload.releaseId && d.nodeId == node.agentId with
      | none => throw (.conflict "desired_release_not_found")
      | some desired =>
        reject (payload.desiredVersion ≠ desired.desiredVersion ∨
          payload.bundleHash ≠ desired.bundleHash) (.conflict "ack_bundle_mismatch")
        let ack := { payload with
          errorMessage := safeError payload.errorMessage
          receivedAt := receivedAt }
        update .other fun s => { s with acks := s.acks ++ [ack] }
        let _ ← find .other fun s => s.latestRelease node.siteId node.agentId
        update .other fun s => { s with
          nodes := s.nodes.map fun other => if other.id = node.id then node else other }
        settleRelease release
        return true

end Grouproxy.Backend
