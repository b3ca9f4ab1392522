import Grouproxy.Model.BlacklistHandlers

/-! # Access-control requests

A set names its nodes and its network groups; it is stored as the request gives them, and an enabled
one is released to the sites of the nodes that the request's references resolve to.
-/

namespace Grouproxy.Backend

open Text Ipaddress Encoding Crypto Cidr Programs

/-! ## Requests -/

/-- A validated request: its selections are stripped, different and not none, and its reason is not
blank. -/
structure AccessControlCreate where
  nodeIds : List String
  networkGroupIds : List String
  mode : Mode
  direction : String
  reason : String
  enabled : Bool
  nodeIds_ne : nodeIds ≠ []
  nodup : nodeIds.Nodup
  stripped : ∀ nodeId ∈ nodeIds, strip nodeId = nodeId ∧ nodeId ≠ ""
  groups_ne : networkGroupIds ≠ []
  reason_stripped : strip reason = reason ∧ reason ≠ ""

/-- The body of a request, before it is validated. -/
structure AccessControlBody where
  nodeIds : List String
  networkGroupIds : List String
  mode : String
  direction : String
  reason : String
  enabled : Bool

def Mode.ofText? (text : String) : Option Mode :=
  if text = "deny" then some .deny else if text = "allow" then some .allow else none

/-- The checks of the fields and `normalize_selections`. A body that fails one is answered 422. -/
def AccessControlBody.validate (body : AccessControlBody) : Option AccessControlCreate :=
  if body.nodeIds = [] ∨ 64 < body.nodeIds.length then none
  else if body.networkGroupIds = [] ∨ 64 < body.networkGroupIds.length then none
  else if body.direction ∉ ["source", "destination"] then none
  else if body.reason = "" ∨ 512 < body.reason.length then none
  else
    match Mode.ofText? body.mode with
    | none => none
    | some mode =>
      if h : distinctStripped body.nodeIds = [] ∨ distinctStripped body.networkGroupIds = [] ∨
          strip body.reason = "" then none
      else some {
        nodeIds := distinctStripped body.nodeIds
        networkGroupIds := distinctStripped body.networkGroupIds
        mode := mode, direction := body.direction, reason := strip body.reason
        enabled := body.enabled
        nodeIds_ne := fun hnil => h (.inl hnil)
        nodup := nodup_distinctStripped _
        stripped := fun _ hmem => stripped_of_mem_distinctStripped hmem
        groups_ne := fun hnil => h (.inr (.inl hnil))
        reason_stripped := ⟨strip_strip _, fun hnil => h (.inr (.inr hnil))⟩ }

/-! ## Checks -/

def Store.networkGroup? (s : Store) (groupId : String) : Option NetworkGroup :=
  s.networkGroups.find? fun group => group.id == groupId

def requireGroups : List String → Handler Unit
  | [] => return ()
  | groupId :: rest => do
    let group ← find .other fun s => s.networkGroup? groupId
    reject (group.isNone) (.http 404 (.str "network_group_not_found"))
    requireGroups rest

/-- Another set already gives one of the groups to one of the nodes. -/
def Store.accessControlSetConflict (s : Store) (nodeIds networkGroupIds : List String) (mode : Mode)
    (direction : String) (excludeId : Option String) : Bool :=
  (s.accessControlSets.filter fun item => item.networkGroupIds.any (networkGroupIds.contains ·) &&
    item.mode == mode && item.direction == direction &&
      item.nodeIds.any (nodeIds.contains ·)).any fun item => some item.id ≠ excludeId

/-- What both requests check before they write. The answer is the stripped nodes and reason. -/
def checkAccessControl (payload : AccessControlCreate) (excludeId : Option String) :
    Handler (List String × String) := do
  requireGroups payload.networkGroupIds
  let nodeIds := distinctStripped payload.nodeIds
  reject (nodeIds = []) (.http 422 (.str "access_control_node_required"))
  let reason := strip payload.reason
  reject (reason = "") (.http 422 (.str "access_control_reason_required"))
  let conflict ← find .other fun s => s.accessControlSetConflict nodeIds payload.networkGroupIds
    payload.mode payload.direction excludeId
  reject (conflict = true) (.conflict "access_control_rule_exists")
  return (nodeIds, reason)

/-! ## Releases -/

/-- The rule that stands for a set in the drafts. -/
def fakeRule (targetId : String) (nodeIds : List String) : SourceBlacklist :=
  { id := targetId, nodeId := nodeIds.headD "", direction := "source", kind := "domain"
    pattern := "access-control:" ++ targetId, enabled := true }

def releaseAccessControlNodes (settings : Settings) (draws : String → Draws) (operation : String)
    (targetId : String) (nodeIds : List String) : Handler (List ConfigRelease) := do
  let plans ← sourceBlacklistReleasePlans nodeIds
  distributeSourceBlacklistChange settings draws operation (fakeRule targetId nodeIds) plans

/-- The plans made before the write; only whether they can be made counts. -/
def checkPlans (affects : Bool) (nodeIds : List String) : Handler Unit :=
  if affects then do
    let _ ← sourceBlacklistReleasePlans nodeIds
  else return ()

def releaseIfAffected (settings : Settings) (draws : String → Draws) (operation targetId : String)
    (affects : Bool) (nodeIds : List String) : Handler Unit :=
  if affects then do
    let _ ← releaseAccessControlNodes settings draws operation targetId nodeIds
  else return ()

/-! ## Handlers -/

/-- The document of a set. -/
def AccessControlCreate.rule (payload : AccessControlCreate) (id : String) (nodeIds : List String)
    (reason : String) : AccessControlSet :=
  { id := id, nodeIds := nodeIds, networkGroupIds := payload.networkGroupIds, mode := payload.mode
    direction := payload.direction, reason := reason, enabled := payload.enabled }

def insertSet (rule : AccessControlSet) : Handler Unit :=
  insert .other (fun s => s.accessControlSets.any fun other => other.id == rule.id)
    fun s => { s with accessControlSets := s.accessControlSets ++ [rule] }

/-- `rule.save()` -/
def saveSet (rule : AccessControlSet) : Handler Unit :=
  update .other fun s => { s with
    accessControlSets := s.accessControlSets.map fun other =>
      if other.id = rule.id then rule else other }

/-- `newId` is the identifier that the document of the set is given. -/
def createAccessControl (settings : Settings) (draws : String → Draws) (newId : String)
    (payload : AccessControlCreate) : Handler Unit := do
  let (nodeIds, reason) ← checkAccessControl payload none
  checkPlans payload.enabled nodeIds
  insertSet (payload.rule newId nodeIds reason)
  releaseIfAffected settings draws "created" newId payload.enabled nodeIds
  appendAudit

/-- The nodes that a set had are released too. -/
def updateAccessControl (settings : Settings) (draws : String → Draws) (ruleId : String)
    (payload : AccessControlCreate) : Handler Unit := do
  match ← find .other fun s => s.accessControlSets.find? fun set => set.id == ruleId with
  | none => throw (.http 404 (.str "access_control_rule_not_found"))
  | some rule =>
    let (nodeIds, reason) ← checkAccessControl payload (some ruleId)
    let affected := distinctBy id [] (rule.nodeIds ++ nodeIds)
    checkPlans (rule.enabled || payload.enabled) affected
    saveSet (payload.rule ruleId nodeIds reason)
    releaseIfAffected settings draws "updated" ruleId (rule.enabled || payload.enabled) affected
    appendAudit

end Grouproxy.Backend
