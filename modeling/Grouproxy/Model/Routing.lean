import Grouproxy.Model.Policy

/-! # Destination routing policy

`routing_policy` of a bundle is decoded into a typed policy and becomes the route rules
behind the access rules.
-/

namespace Grouproxy.Routing

open Text Netip Value Encoding Grouproxy.Bundle

structure DestinationRule where
  kind : String
  pattern : String
  action : String
  deriving DecidableEq, Repr

structure DestinationPolicy where
  mode : String
  privateDirect : Bool
  cnDirect : Bool
  final : String
  rules : List DestinationRule
  deriving DecidableEq, Repr

/-! ## Decoding -/

/-- Case folding of field names: ASCII letters, the long s and the Kelvin sign. -/
def foldRune (c : Char) : Char :=
  if c.toNat = 0x17f then 'S' else if c.toNat = 0x212a then 'K' else c.toUpper

def foldName (s : String) : List Char := s.toList.map foldRune

/-- The struct field that a key selects: the exact name, or else one equal up to case. -/
def fieldName? (names : List String) (key : String) : Option String :=
  if key ∈ names then some key else names.find? fun name => foldName name == foldName key

/-- `null` leaves a text or a flag unchanged. -/
def decodeString (old : String) : Any → Option String
  | .nil => some old
  | .str s => some s
  | _ => none

def decodeBool (old : Bool) : Any → Option Bool
  | .nil => some old
  | .bool b => some b
  | _ => none

/-- The encoder writes the keys of an object in order. -/
def sortedFields (fields : Fields) : Fields :=
  fields.insertionSort fun a b => byteLe a.1 b.1 = true

def decodeRuleField (rule : DestinationRule) (f : String × Any) : Option DestinationRule :=
  match fieldName? ["kind", "pattern", "action"] f.1 with
  | some "kind" => (decodeString rule.kind f.2).map fun s => { rule with kind := s }
  | some "pattern" => (decodeString rule.pattern f.2).map fun s => { rule with pattern := s }
  | some "action" => (decodeString rule.action f.2).map fun s => { rule with action := s }
  | _ => none

def decodeRule (old : DestinationRule) : Any → Option DestinationRule
  | .nil => some old
  | .map fields => (sortedFields fields).foldlM decodeRuleField old
  | _ => none

/-- The slice of a struct that is being decoded: what its array holds and how much of it
counts. Elements are decoded over what an earlier spelling of the key left there. -/
structure RuleSlice where
  memory : List DestinationRule
  count : Nat

def decodeRules (old : List DestinationRule) : List Any → Option (List DestinationRule)
  | [] => some []
  | raw :: rest =>
    match decodeRule (old.headD ⟨"", "", ""⟩) raw, decodeRules old.tail rest with
    | some rule, some rules => some (rule :: rules)
    | _, _ => none

def decodeSlice (old : RuleSlice) : Any → Option RuleSlice
  | .nil => some ⟨[], 0⟩
  | .arr entries => (decodeRules old.memory entries).map fun rules =>
      ⟨rules ++ old.memory.drop entries.length, entries.length⟩
  | _ => none

structure PolicyDecoder where
  policy : DestinationPolicy
  slice : RuleSlice

def defaultPolicy : DestinationPolicy := ⟨"rule", true, true, "proxy", []⟩

def decodePolicyField (d : PolicyDecoder) (f : String × Any) : Option PolicyDecoder :=
  match fieldName? ["mode", "private_direct", "cn_direct", "final", "rules"] f.1 with
  | some "mode" => (decodeString d.policy.mode f.2).map fun s =>
      { d with policy := { d.policy with mode := s } }
  | some "private_direct" => (decodeBool d.policy.privateDirect f.2).map fun b =>
      { d with policy := { d.policy with privateDirect := b } }
  | some "cn_direct" => (decodeBool d.policy.cnDirect f.2).map fun b =>
      { d with policy := { d.policy with cnDirect := b } }
  | some "final" => (decodeString d.policy.final f.2).map fun s =>
      { d with policy := { d.policy with final := s } }
  | some "rules" => (decodeSlice d.slice f.2).map fun slice => { d with slice := slice }
  | _ => none

def decodePolicy : Any → Option DestinationPolicy
  | .map fields =>
    ((sortedFields fields).foldlM decodePolicyField ⟨defaultPolicy, ⟨[], 0⟩⟩).map fun d =>
      { d.policy with rules := d.slice.memory.take d.slice.count }
  | _ => none

/-! ## Checks -/

def isRoutingDomain (pattern : String) : Except String Unit :=
  if 253 < pattern.utf8ByteSize ∨ pattern ≠ toLower pattern then .error "invalid_routing_domain"
  else if (parseAddr pattern).isSome then .error "invalid_routing_domain"
  else if (pattern.toList.splitOn '.').all isCanonicalHostnameLabel then .ok ()
  else .error "invalid_routing_domain"

def validateRoutingRule (rule : DestinationRule) : Except String Unit :=
  if rule.action ≠ "direct" ∧ rule.action ≠ "proxy" ∧ rule.action ≠ "reject" then
    .error "invalid_routing_action"
  else if rule.kind = "ip_cidr" then
    if (parsePrefix rule.pattern).isSome then .ok () else .error "invalid_routing_cidr"
  else if rule.kind = "domain" ∨ rule.kind = "domain_suffix" then isRoutingDomain rule.pattern
  else .error "invalid_routing_kind"

def validatePolicy (policy : DestinationPolicy) : Except String DestinationPolicy :=
  if policy.mode ≠ "rule" ∨ (policy.final ≠ "proxy" ∧ policy.final ≠ "direct") ∨
      200 < policy.rules.length then .error "invalid_routing_policy"
  else
    match firstError validateRoutingRule policy.rules with
    | .error e => .error e
    | .ok () => .ok policy

def parseDestinationPolicy (value : Fields) : Except String DestinationPolicy :=
  match value.get? "routing_policy" with
  | none => .ok defaultPolicy
  | some raw =>
    match decodePolicy (jsonTree raw) with
    | none => .error "invalid_routing_policy"
    | some policy => validatePolicy policy

/-- A configured policy may use the proxy only if there are outbounds. -/
def validateDestinationOutbounds (value : Fields) (outbounds : List Any) : Except String Unit :=
  match parseDestinationPolicy value with
  | .error e => .error e
  | .ok policy =>
    if value.has "routing_policy" = false ∨ outbounds ≠ [] then .ok ()
    else if policy.final = "proxy" then .error "routing_proxy_unavailable"
    else if policy.rules.any (fun rule => rule.action == "proxy") then
      .error "routing_proxy_unavailable"
    else .ok ()

/-! ## Route rules -/

def geoIPCNTag : String := "geoip-cn"

def geoSiteCNTag : String := "geosite-cn"

def cnDirectRule : Any :=
  .map [("rule_set", .strs [geoIPCNTag, geoSiteCNTag]), ("outbound", .str "direct")]

def destinationRule (proxyOutbound : String) (rule : DestinationRule) : Any :=
  .map ((rule.kind, .strs [rule.pattern]) ::
    (if rule.action = "reject" then [("action", .str "reject")]
    else if rule.action = "proxy" then [("outbound", .str proxyOutbound)]
    else [("outbound", .str "direct")]))

def destinationRouteRules (policy : DestinationPolicy) (proxyOutbound : String) : List Any :=
  policy.rules.map (destinationRule proxyOutbound) ++
    (if policy.privateDirect then
      [.map [("ip_is_private", .bool true), ("outbound", .str "direct")]] else []) ++
    (if policy.cnDirect then [cnDirectRule] else [])

end Grouproxy.Routing
