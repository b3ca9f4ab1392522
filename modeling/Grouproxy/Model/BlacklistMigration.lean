import Grouproxy.Model.Migration

/-! # Migration of blacklist rows

Before the handlers start, rows of retired scopes are rewritten to rows of single nodes, and rows
that cannot be read are dropped. A row is what the database holds, without a schema; its `_id`
selects it and is left out.
-/

namespace Grouproxy.Backend

open Text Ipaddress Cidr

/-! ## Rows -/

/-- A value of a row. Of other types only the truth is looked at. -/
inductive RawValue where
  | null
  | bool (b : Bool)
  | str (s : String)
  | date (t : Nat)
  | other (truthy : Bool)
  deriving DecidableEq

def RawValue.isTruthy : RawValue → Bool
  | .null => false
  | .bool b => b
  | .str s => s ≠ ""
  | .date _ => true
  | .other truthy => truthy

abbrev RawRow := List (String × RawValue)

namespace RawRow

def get? (row : RawRow) (key : String) : Option RawValue := row.lookup key

/-- `document.get(key)` -/
def get (row : RawRow) (key : String) : RawValue := (row.get? key).getD .null

/-- `$set` of a field, in its place. -/
def set : RawRow → String → RawValue → RawRow
  | [], key, value => [(key, value)]
  | (k, v) :: row, key, value => if k = key then (k, value) :: row else (k, v) :: set row key value

/-- `$unset` of a field. -/
def unset (row : RawRow) (key : String) : RawRow := row.filter fun f => f.1 ≠ key

end RawRow

/-! ## Canonical fields -/

structure BlacklistKey where
  nodeId : String
  direction : String
  kind : String
  pattern : String
  deriving DecidableEq

structure CanonicalRow where
  key : BlacklistKey
  comment : String
  enabled : Bool
  createdBy : String
  createdAt : Nat
  deriving DecidableEq

/-- `value or "source"`, unless that is no text. -/
def directionOrSource (value : RawValue) : Option String :=
  if value.isTruthy then
    match value with
    | .str direction => some direction
    | _ => none
  else some "source"

def nodeIdText? : RawValue → Option String
  | .str nodeId => if strip nodeId = "" then none else some (strip nodeId)
  | _ => none

def rowRuleKey? (row : RawRow) : Option RuleKey :=
  match directionOrSource (row.get "direction"), row.get "kind", row.get "pattern" with
  | some direction, .str kind, .str pattern => ruleKey? "" direction kind pattern
  | _, _, _ => none

def enabledFlag? (row : RawRow) : Option Bool :=
  match row.get? "enabled" with
  | none => some true
  | some (.bool b) => some b
  | some _ => none

def commentText (row : RawRow) : String :=
  match row.get "comment" with
  | .str comment => clip 512 (strip comment)
  | _ => ""

def createdByText (row : RawRow) : String :=
  match row.get "created_by" with
  | .str createdBy => if clip 128 (strip createdBy) = "" then "system" else clip 128 (strip createdBy)
  | _ => "system"

/-- `now` is the time of the run. -/
def createdAtTime (now : Nat) (row : RawRow) : Nat :=
  match row.get "created_at" with
  | .date t => t
  | _ => now

def canonicalBlacklistFields (now : Nat) (row : RawRow) : Option CanonicalRow :=
  match rowRuleKey? row, nodeIdText? (row.get "node_id"), enabledFlag? row with
  | some rule, some nodeId, some enabled =>
    some ⟨⟨nodeId, rule.direction, rule.kind, rule.pattern⟩, commentText row, enabled,
      createdByText row, createdAtTime now row⟩
  | _, _, _ => none

/-! ## Retired scopes -/

/-- The identifiers of the sites, and of every node its agent and its site. -/
structure Inventory where
  siteIds : List String
  nodes : List (RawValue × RawValue)

def Inventory.allNodeIds (inventory : Inventory) : List String :=
  inventory.nodes.filterMap fun node => nodeIdText? node.1

def Inventory.nodesOfSite (inventory : Inventory) (siteId : String) : List String :=
  (inventory.nodes.filter fun node => node.2 = .str siteId).filterMap fun node => nodeIdText? node.1

def legacyTargetNodeIds (inventory : Inventory) (row : RawRow) : List String :=
  if (row.get "node_id").isTruthy then []
  else if row.get "scope" = .str "global" then
    if row.get "site_id" = .null then inventory.allNodeIds else []
  else if row.get "scope" = .str "site" then
    match row.get "site_id" with
    | .str siteId => if siteId ∈ inventory.siteIds then inventory.nodesOfSite siteId else []
    | _ => []
  else []

/-! ## Writes -/

/-- The fields of a canonical row. -/
def CanonicalRow.fields (row : CanonicalRow) : RawRow :=
  [("node_id", .str row.key.nodeId), ("direction", .str row.key.direction),
    ("kind", .str row.key.kind), ("pattern", .str row.key.pattern), ("comment", .str row.comment),
    ("enabled", .bool row.enabled), ("created_by", .str row.createdBy),
    ("created_at", .date row.createdAt)]

/-- `update_one` with the canonical fields and without the retired ones. -/
def RawRow.rewrite (row : RawRow) (normalized : CanonicalRow) : RawRow :=
  ((normalized.fields.foldl (fun row f => row.set f.1 f.2) row).unset "scope").unset "site_id"

/-! ## The loop -/

/-- `prototype` of a row for one of its nodes. -/
def prototypeFor (row : RawRow) (nodeId : String) : RawRow :=
  let prototype := ((row.unset "scope").unset "site_id").set "node_id" (.str nodeId)
  prototype.set "direction" (if (prototype.get "direction").isTruthy then prototype.get "direction"
    else .str "source")

/-- The loop over the targets of a row: the canonical rows that are new, and what is seen after. -/
def narrowRow (now : Nat) (row : RawRow) :
    List BlacklistKey → List String → List CanonicalRow × List BlacklistKey
  | seen, [] => ([], seen)
  | seen, nodeId :: targets =>
    match canonicalBlacklistFields now (prototypeFor row nodeId) with
    | none => narrowRow now row seen targets
    | some normalized =>
      if normalized.key ∈ seen then narrowRow now row seen targets
      else
        let rest := narrowRow now row (normalized.key :: seen) targets
        (normalized :: rest.1, rest.2)

/-- The variables of the loop over the rows, with the rows it leaves behind. -/
structure MigrationLoop where
  seen : List BlacklistKey
  rows : List RawRow
  pendingInserts : List CanonicalRow
  normalizedCount : Nat
  removedCount : Nat

def MigrationLoop.start : MigrationLoop := ⟨[], [], [], 0, 0⟩

/-- A row is deleted. -/
def MigrationLoop.remove (loop : MigrationLoop) (seen : List BlacklistKey) : MigrationLoop :=
  { loop with seen := seen, removedCount := loop.removedCount + 1 }

def migrateRow (inventory : Inventory) (now : Nat) (loop : MigrationLoop) (row : RawRow) :
    MigrationLoop :=
  if (row.get "node_id").isTruthy then
    match canonicalBlacklistFields now row with
    | none => loop.remove loop.seen
    | some normalized =>
      if normalized.key ∈ loop.seen then loop.remove loop.seen
      else
        let rewritten := row.rewrite normalized
        { loop with
          seen := normalized.key :: loop.seen
          rows := loop.rows ++ [rewritten]
          normalizedCount := loop.normalizedCount + (if rewritten = row then 0 else 1) }
  else
    match narrowRow now row loop.seen (legacyTargetNodeIds inventory row) with
    | ([], seen) => loop.remove seen
    | (first :: rest, seen) =>
      { loop with
        seen := seen
        rows := loop.rows ++ [row.rewrite first]
        pendingInserts := loop.pendingInserts ++ rest
        normalizedCount := loop.normalizedCount + 1 }

def migrateRows (inventory : Inventory) (now : Nat) (rows : List RawRow) : MigrationLoop :=
  rows.foldl (migrateRow inventory now) .start

/-- `_migrate_source_blacklist_state`: the rows after the loop and the inserted ones. -/
def migrateSourceBlacklistState (inventory : Inventory) (now : Nat) (rows : List RawRow) :
    List RawRow :=
  let loop := migrateRows inventory now rows
  loop.rows ++ loop.pendingInserts.map CanonicalRow.fields

/-- The collection when the run is interrupted after its writes for the first `count` rows. The
inserts come after all of them. -/
def interruptedAt (inventory : Inventory) (now : Nat) (rows : List RawRow) (count : Nat) :
    List RawRow :=
  (migrateRows inventory now (rows.take count)).rows ++ rows.drop count

end Grouproxy.Backend
