import Grouproxy.Model.Releases

/-! # Blacklist requests

A rule is stored for every node of the request, or deleted, and an enabled one is released to the
sites of its nodes. For a disabled one the nodes are only looked up for the answer.
-/

namespace Grouproxy.Backend

open Text Ipaddress Encoding Crypto Cidr Programs

/-- A validated request: its nodes are stripped, different and not none, and its pattern is
canonical. -/
structure SourceBlacklistCreate where
  nodeIds : List String
  direction : String
  kind : String
  pattern : String
  enabled : Bool
  nodeIds_ne : nodeIds ≠ []
  nodup : nodeIds.Nodup
  stripped : ∀ nodeId ∈ nodeIds, strip nodeId = nodeId ∧ nodeId ≠ ""

/-- The stripped values that are not blank, each once. -/
def distinctStripped (values : List String) : List String :=
  distinctBy id [] ((values.map strip).filter fun value => value ≠ "")

theorem nodup_distinctStripped (values : List String) : (distinctStripped values).Nodup :=
  nodup_distinctBy_id _

theorem stripped_of_mem_distinctStripped {values : List String} {value : String}
    (h : value ∈ distinctStripped values) : strip value = value ∧ value ≠ "" := by
  rw [distinctStripped, mem_distinctBy_id] at h
  obtain ⟨hmem, hne⟩ := List.mem_filter.mp h
  obtain ⟨raw, -, rfl⟩ := List.mem_map.mp hmem
  exact ⟨strip_strip raw, by simpa using hne⟩

/-- The body of a request, before it is validated. -/
structure SourceBlacklistBody where
  nodeIds : List String
  direction : String
  kind : String
  pattern : String
  enabled : Bool

/-- The checks of the fields and `validate_and_normalize_pattern`. A body that fails one is answered
422. -/
def SourceBlacklistBody.validate (body : SourceBlacklistBody) : Option SourceBlacklistCreate :=
  if body.nodeIds = [] ∨ 64 < body.nodeIds.length then none
  else if body.direction ∉ ["source", "destination"] then none
  else if body.kind ∉ ["ip", "cidr", "domain", "network"] then none
  else if body.pattern = "" ∨ 512 < body.pattern.length then none
  else
    match canonicalizeKind body.kind with
    | .error _ => none
    | .ok kind =>
      match normalizeSourceBlacklistPattern kind body.pattern with
      | .error _ => none
      | .ok pattern =>
        if h : distinctStripped body.nodeIds = [] then none
        else some {
          nodeIds := distinctStripped body.nodeIds, direction := body.direction, kind := kind
          pattern := pattern, enabled := body.enabled, nodeIds_ne := h
          nodup := nodup_distinctStripped _
          stripped := fun _ hmem => stripped_of_mem_distinctStripped hmem }

/-- The row of one node. -/
def SourceBlacklistCreate.row (payload : SourceBlacklistCreate) (id nodeId : String) :
    SourceBlacklist :=
  ⟨id, nodeId, payload.direction, payload.kind, payload.pattern, payload.enabled⟩

/-- The fields of the unique index. -/
def sameRule (row other : SourceBlacklist) : Bool :=
  row.nodeId == other.nodeId && row.direction == other.direction && row.kind == other.kind &&
    row.pattern == other.pattern

def Store.hasRule (s : Store) (row : SourceBlacklist) : Bool :=
  s.blacklist.any fun other => sameRule other row

/-- The loop that looks for a row of one of the nodes. -/
def refuseExisting (payload : SourceBlacklistCreate) : List String → Handler Unit
  | [] => return ()
  | nodeId :: rest => do
    let existing ← find .other fun s => s.hasRule (payload.row "" nodeId)
    reject (existing = true) (.conflict "source_blacklist_entry_exists")
    refuseExisting payload rest

def insertRow (row : SourceBlacklist) : Handler Unit :=
  insert .other (fun s => s.hasRule row) fun s => { s with blacklist := s.blacklist ++ [row] }

def insertRows : List SourceBlacklist → Handler Unit
  | [] => return ()
  | row :: rest => do
    insertRow row
    insertRows rest

/-- `_source_blacklist_no_effect_distribution` -/
def sourceBlacklistNoEffectDistribution (nodeIds : List String) :
    Handler (List (String × List Node)) := do
  let nodes ← blacklistNodes nodeIds
  return groupBySite nodes

/-- The plans of an enabled rule; a disabled one has none. -/
def plansIfEnabled (enabled : Bool) (nodeIds : List String) :
    Handler (List SourceBlacklistReleasePlan) :=
  if enabled then sourceBlacklistReleasePlans nodeIds else return []

/-- The answer to a change that is stored. -/
def distributeIfEnabled (settings : Settings) (draws : String → Draws) (operation : String)
    (rule : SourceBlacklist) (nodeIds : List String) (plans : List SourceBlacklistReleasePlan) :
    Handler Unit :=
  if rule.enabled then do
    let _ ← distributeSourceBlacklistChange settings draws operation rule plans
  else do
    let _ ← sourceBlacklistNoEffectDistribution nodeIds

/-- `newId` draws the identifiers of the rows. -/
def addSourceBlacklist (settings : Settings) (draws : String → Draws) (newId : String → String)
    (payload : SourceBlacklistCreate) : Handler Unit := do
  refuseExisting payload payload.nodeIds
  let plans ← plansIfEnabled payload.enabled payload.nodeIds
  let rows := payload.nodeIds.map fun nodeId => payload.row (newId nodeId) nodeId
  insertRows rows
  distributeIfEnabled settings draws "created" (rows.head (by simpa [rows] using payload.nodeIds_ne))
    payload.nodeIds plans
  appendAudit

def deleteSourceBlacklist (settings : Settings) (draws : String → Draws) (entryId : String) :
    Handler Unit := do
  match ← find .other fun s => s.blacklist.find? fun row => row.id == entryId with
  | none => throw (.http 404 (.str "source_blacklist_entry_not_found"))
  | some item =>
    let plans ← plansIfEnabled item.enabled [item.nodeId]
    update .other fun s => { s with blacklist := s.blacklist.filter fun row => row.id ≠ item.id }
    distributeIfEnabled settings draws "deleted" item [item.nodeId] plans
    appendAudit

end Grouproxy.Backend
