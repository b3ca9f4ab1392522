import Grouproxy.Library.Checks
import Grouproxy.Model.Cidr

/-! # Migration of access-control rules

At every start the retired rules of single nodes are folded into sets: all rules of one policy
become one set, and the rules are deleted.
-/

namespace Grouproxy.Cidr

open Text Ipaddress

/-- A retired rule. Who created it and when is copied to the set and decides nothing. -/
structure AccessControlRule where
  nodeId : String
  networkGroupId : String
  mode : Mode
  direction : String
  reason : String
  enabled : Bool
  deriving DecidableEq

/-- What the rules of one set have in common. -/
structure SharedPolicy where
  networkGroupId : String
  mode : Mode
  direction : String
  reason : String
  enabled : Bool
  deriving DecidableEq

def AccessControlRule.policy (rule : AccessControlRule) : SharedPolicy :=
  ⟨rule.networkGroupId, rule.mode, rule.direction, rule.reason, rule.enabled⟩

/-! ## The models -/

def isDirection (direction : String) : Bool := direction = "source" || direction = "destination"

def isReason (reason : String) : Bool := 1 ≤ reason.toList.length && reason.toList.length ≤ 512

/-- What the fields of `AccessControlRule` admit. -/
def AccessControlRule.isValid (rule : AccessControlRule) : Bool :=
  isDirection rule.direction && isReason rule.reason

/-- What the fields of `AccessControlSet` admit. -/
def AccessControlSet.isValid (set : AccessControlSet) : Bool :=
  (1 ≤ set.nodeIds.length && set.nodeIds.length ≤ 64) &&
    (1 ≤ set.networkGroupIds.length && set.networkGroupIds.length ≤ 64) &&
    isDirection set.direction && isReason set.reason

/-! ## The migration -/

/-- The keys of `grouped`, in the order in which a dictionary keeps them. -/
def sharedPolicies (legacy : List AccessControlRule) : List SharedPolicy :=
  distinctBy id [] (legacy.map AccessControlRule.policy)

/-- The nodes of the rules of one policy. -/
def policyNodeIds (legacy : List AccessControlRule) (policy : SharedPolicy) : List String :=
  distinctBy id [] (((legacy.filter fun rule => rule.policy = policy).map fun rule =>
    strip rule.nodeId).filter fun nodeId => nodeId ≠ "")

/-- A set that is found in the place of a new one. Whether it is enabled is not looked at. -/
def isAlready (policy : SharedPolicy) (nodeIds : List String) (set : AccessControlSet) : Bool :=
  set.networkGroupIds.contains policy.networkGroupId && set.mode = policy.mode &&
    set.direction = policy.direction && set.reason = policy.reason &&
    nodeIds.all set.nodeIds.contains &&
    (set.nodeIds.all nodeIds.contains && nodeIds.all set.nodeIds.contains) &&
    set.networkGroupIds = [policy.networkGroupId]

/-- The set of a policy. -/
def policySet (id : String) (policy : SharedPolicy) (nodeIds : List String) : AccessControlSet where
  id := id
  nodeIds := nodeIds
  networkGroupIds := [policy.networkGroupId]
  mode := policy.mode
  direction := policy.direction
  reason := policy.reason
  enabled := policy.enabled

section

variable (newId : Nat → String)

/-- The body of the loop over `grouped`. A set the model does not admit raises. -/
def foldPolicy (legacy : List AccessControlRule) (sets : List AccessControlSet)
    (policy : SharedPolicy) : Option (List AccessControlSet) :=
  let nodeIds := policyNodeIds legacy policy
  if nodeIds = [] ∨ strip policy.reason = "" then some sets
  else if sets.any (isAlready policy nodeIds) then some sets
  else
    let set := policySet (newId sets.length) policy nodeIds
    if set.isValid then some (sets ++ [set]) else none

def foldPolicies (legacy : List AccessControlRule) (sets : List AccessControlSet)
    (policies : List SharedPolicy) : Option (List AccessControlSet) :=
  policies.foldlM (foldPolicy newId legacy) sets

/-- The two collections. -/
structure AccessState where
  legacy : List AccessControlRule
  sets : List AccessControlSet

/-- `migrate_access_control_sets`, run to its end. -/
def migrateAccessControlSets (s : AccessState) : Option AccessState :=
  (foldPolicies newId s.legacy s.sets (sharedPolicies s.legacy)).map fun sets => ⟨[], sets⟩

/-- What a run leaves behind that stops after some of its writes: the sets of the first policies,
or all sets and without the first rules. -/
inductive Attempt (s : AccessState) : AccessState → Prop
  | inserting {policies rest : List SharedPolicy} {sets : List AccessControlSet}
    (hsplit : sharedPolicies s.legacy = policies ++ rest)
    (hsets : foldPolicies newId s.legacy s.sets policies = some sets) :
    Attempt s ⟨s.legacy, sets⟩
  | deleting {sets : List AccessControlSet} (count : Nat)
    (hsets : foldPolicies newId s.legacy s.sets (sharedPolicies s.legacy) = some sets) :
    Attempt s ⟨s.legacy.drop count, sets⟩

end

end Grouproxy.Cidr
