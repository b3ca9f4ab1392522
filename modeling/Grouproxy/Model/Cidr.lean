import Grouproxy.Library.Ipaddress
import Grouproxy.Model.Crypto

/-! # The backend's access policy

Normalization of stored patterns and the two policy lists of a bundle. A `ValueError` is
its text; the loops that build the lists skip a row that raises one.
-/

namespace Grouproxy.Cidr

open Text Netip Ipaddress Encoding

/-! ## Normalization -/

def canonicalizeKind (kind : String) : Except String String :=
  if kind = "network" then .ok "cidr"
  else if kind = "ip" ∨ kind = "cidr" ∨ kind = "domain" then .ok kind
  else .error "invalid_source_blacklist_kind"

def canonicalizeDirection (direction : String) : Except String String :=
  if direction = "source" ∨ direction = "destination" then .ok direction
  else .error "invalid_blacklist_direction"

def normalizeCidr (value : String) : Except String String :=
  match ipNetwork value with
  | some p => .ok (String.ofList (networkText p))
  | none => .error (value ++ " does not appear to be an IPv4 or IPv6 network")

def normalizeSourceIp (value : String) : Except String String :=
  match ipAddress value with
  | some a => .ok (String.ofList (addressText a))
  | none => .error (value ++ " does not appear to be an IPv4 or IPv6 address")

def isLowerAlnum (c : Char) : Bool := ('a' ≤ c && c ≤ 'z') || ('0' ≤ c && c ≤ '9')

/-- `[a-z0-9](?:[a-z0-9-]{0,61}[a-z0-9])?` -/
def isHostnameLabel : List Char → Bool
  | [] => false
  | c :: rest =>
    isLowerAlnum c && (rest.isEmpty ||
      (rest.length ≤ 62 && rest.dropLast.all (fun c => isLowerAlnum c || c == '-') &&
        rest.getLast?.any isLowerAlnum))

/-- `(?:0x[0-9a-f]+|0[0-7]+|[0-9]+)` -/
def isNumericAddressLabel (label : List Char) : Bool :=
  (label.take 2 == ['0', 'x'] && !(label.drop 2).isEmpty &&
      (label.drop 2).all fun c => ('0' ≤ c && c ≤ '9') || ('a' ≤ c && c ≤ 'f')) ||
    (label.head? == some '0' && !(label.drop 1).isEmpty &&
      (label.drop 1).all fun c => '0' ≤ c && c ≤ '7') ||
    (!label.isEmpty && label.all fun c => '0' ≤ c && c ≤ '9')

/-- The checks of a lower-case name without its final dot. -/
def checkHostname (pattern : List Char) : Except String String :=
  if pattern = [] ∨ 253 < pattern.length then .error "invalid_source_blacklist_domain"
  else if (ipAddress (String.ofList pattern)).isSome then .error "invalid_source_blacklist_domain"
  else if ¬ (pattern.splitOn '.').all isHostnameLabel then .error "invalid_source_blacklist_domain"
  else if (pattern.splitOn '.').all isNumericAddressLabel then
    .error "invalid_source_blacklist_domain"
  else .ok (String.ofList pattern)

def normalizeSourceDomain (value : String) : Except String String :=
  if value = "" ∨ value ≠ strip value then .error "invalid_source_blacklist_domain"
  else if ¬ value.toList.all (fun c => c.toNat < 128) then .error "invalid_source_blacklist_domain"
  else
    let lower := value.toList.map Char.toLower
    checkHostname (if lower.getLast? = some '.' then lower.dropLast else lower)

def normalizeSourceBlacklistPattern (kind value : String) : Except String String :=
  if strip value = "" then .error "empty_source_blacklist_pattern"
  else
    match canonicalizeKind kind with
    | .error e => .error e
    | .ok canonicalKind =>
      if canonicalKind = "ip" then normalizeSourceIp (strip value)
      else if canonicalKind = "cidr" then normalizeCidr (strip value)
      else normalizeSourceDomain value

/-! ## Stored documents -/

/-- A row of the blacklist of a node. -/
structure SourceBlacklist where
  id : String
  nodeId : String
  direction : String
  kind : String
  pattern : String
  enabled : Bool
  deriving DecidableEq, Repr

structure NetworkGroupEntry where
  kind : String
  pattern : String
  deriving DecidableEq, Repr

structure NetworkGroup where
  id : String
  entries : List NetworkGroupEntry
  deriving DecidableEq, Repr

inductive Mode where
  | deny
  | allow
  deriving DecidableEq, Repr

def Mode.text : Mode → String
  | .deny => "deny"
  | .allow => "allow"

structure AccessControlSet where
  id : String
  nodeIds : List String
  networkGroupIds : List String
  mode : Mode
  direction : String
  reason : String
  enabled : Bool
  deriving DecidableEq, Repr

/-! ## Lists of a bundle -/

/-- Tuples of texts are compared from the left. -/
def tupleLe : List String → List String → Bool
  | a :: as, b :: bs =>
    if a = b then tupleLe as bs else codePointLe a b
  | [], _ => true
  | _ :: _, [] => false

/-- What the lists of a bundle hold, apart from identifiers and reasons. -/
structure RuleKey where
  action : String
  direction : String
  kind : String
  pattern : String
  deriving DecidableEq, Repr

def RuleKey.tuple (key : RuleKey) : List String :=
  [key.action, key.direction, key.kind, key.pattern]

/-- An entry of a list: its rule and the texts that only the console shows. -/
structure PolicyEntry where
  id : String
  key : RuleKey
  reason : String
  deriving DecidableEq, Repr

/-- The canonical rule of a stored pattern, if nothing raises. -/
def ruleKey? (action direction kind pattern : String) : Option RuleKey :=
  match canonicalizeDirection direction, canonicalizeKind kind with
  | .ok direction, .ok kind =>
    match normalizeSourceBlacklistPattern kind pattern with
    | .ok pattern => some ⟨action, direction, kind, pattern⟩
    | .error _ => none
  | _, _ => none

def sortEntries (entries : List PolicyEntry) : List PolicyEntry :=
  entries.insertionSort fun a b => tupleLe a.key.tuple b.key.tuple = true

/-- Blacklist rows have no action of their own; the lists are ordered and deduplicated by
the rest of the key. -/
def blacklistItem? (row : SourceBlacklist) : Option PolicyEntry :=
  (ruleKey? "" row.direction row.kind row.pattern).map fun key => ⟨row.id, key, ""⟩

def nodeRows (nodeId : String) (rows : List SourceBlacklist) : List SourceBlacklist :=
  rows.filter fun row => row.enabled && row.nodeId == nodeId

def effectiveBlacklist (nodeId : String) (rows : List SourceBlacklist) : List PolicyEntry :=
  sortEntries (distinctBy PolicyEntry.key [] ((nodeRows nodeId rows).filterMap blacklistItem?))

def nodeSets (nodeId : String) (sets : List AccessControlSet) : List AccessControlSet :=
  sets.filter fun set => set.enabled && set.nodeIds.contains nodeId

/-- The group stored under an identifier; of two, the later one. -/
def findGroup? (groups : List NetworkGroup) (groupId : String) : Option NetworkGroup :=
  groups.reverse.find? fun group => group.id == groupId

def setEntries (groups : List NetworkGroup) (set : AccessControlSet) : List NetworkGroupEntry :=
  (set.networkGroupIds.filterMap (findGroup? groups)).flatMap NetworkGroup.entries

def accessItem? (set : AccessControlSet) (entry : NetworkGroupEntry) : Option PolicyEntry :=
  (ruleKey? set.mode.text set.direction entry.kind entry.pattern).map fun key =>
    ⟨set.id, key, set.reason⟩

def effectiveAccessControl (nodeId : String) (sets : List AccessControlSet)
    (groups : List NetworkGroup) : List PolicyEntry :=
  sortEntries (distinctBy PolicyEntry.key []
    ((nodeSets nodeId sets).flatMap fun set => (setEntries groups set).filterMap (accessItem? set)))

def blacklistJson (entry : PolicyEntry) : Json :=
  .obj [("id", .str entry.id), ("direction", .str entry.key.direction),
    ("kind", .str entry.key.kind), ("pattern", .str entry.key.pattern)]

def accessControlJson (entry : PolicyEntry) : Json :=
  .obj [("id", .str entry.id), ("action", .str entry.key.action),
    ("direction", .str entry.key.direction), ("kind", .str entry.key.kind),
    ("pattern", .str entry.key.pattern), ("reason", .str entry.reason)]

/-- The policy part of the bundle of a node. -/
def policyFields (nodeId : String) (rows : List SourceBlacklist) (sets : List AccessControlSet)
    (groups : List NetworkGroup) : Crypto.Dict :=
  [("blacklist", .arr ((effectiveBlacklist nodeId rows).map blacklistJson)),
    ("access_control", .arr ((effectiveAccessControl nodeId sets groups).map accessControlJson))]

end Grouproxy.Cidr
