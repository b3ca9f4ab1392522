import Grouproxy.Model.Bundle

/-! # Access policy: rules, nft chain and sing-box reject rules

A bundle's policy becomes a list of rules; source domains are resolved to addresses, the
source addresses go to nftables and every rule goes to the sing-box route.
-/

namespace Grouproxy.Policy

open Text Netip Value Grouproxy.Bundle

/-- One policy rule. `Scope` and `SiteID` of the source are never written. -/
structure SourceBlacklistRule where
  action : String
  direction : String
  kind : String
  pattern : String
  deriving DecidableEq, Repr

def ruleDirection (rule : SourceBlacklistRule) : String :=
  if rule.direction = "destination" then "destination" else "source"

def ruleKey (rule : SourceBlacklistRule) : String :=
  rule.action ++ "\x00" ++ ruleDirection rule ++ "\x00" ++ rule.kind ++ "\x00" ++ rule.pattern

def dedupeSourceBlacklistRules (values : List SourceBlacklistRule) : List SourceBlacklistRule :=
  distinctBy ruleKey [] values

/-! ## Rules of a bundle -/

def isCanonicalSourceBlacklist (value : Fields) : Bool :=
  match validateSourceBlacklist value with
  | .ok () => true
  | .error _ => false

/-- A `blacklist` entry; an entry without an action denies. -/
def blacklistRule? (raw : Any) : Option SourceBlacklistRule :=
  match raw.asMap? with
  | none => none
  | some entry =>
    match (entry.get "direction").asString?, (entry.get "kind").asString?,
        (entry.get "pattern").asString? with
    | some direction, some kind, some pattern =>
      let text := stringValue (entry.get "action")
      let action := if text = "" then "deny" else text
      if action ≠ "deny" ∧ action ≠ "allow" then none
      else some ⟨action, direction, canonicalKind kind, pattern⟩
    | _, _, _ => none

/-- An `access_control` entry; its kind is kept as it is written. -/
def accessControlRule? (raw : Any) : Option SourceBlacklistRule :=
  match raw.asMap? with
  | none => none
  | some entry =>
    let action := stringValue (entry.get "action")
    let direction := stringValue (entry.get "direction")
    let kind := stringValue (entry.get "kind")
    let pattern := stringValue (entry.get "pattern")
    if action ≠ "deny" ∧ action ≠ "allow" then none
    else if direction = "" ∨ kind = "" ∨ pattern = "" then none
    else some ⟨action, direction, kind, pattern⟩

def sourceBlacklistRules (value : Fields) : List SourceBlacklistRule :=
  if isCanonicalSourceBlacklist value then
    dedupeSourceBlacklistRules
      ((((value.get "blacklist").asArr?).getD []).filterMap blacklistRule? ++
        (((value.get "access_control").asArr?).getD []).filterMap accessControlRule?)
  else []

/-! ## Resolution of source domains -/

/-- A `net.IP`: sixteen bytes, an IPv4 address in IPv4-mapped form. -/
abbrev IP := Fin (2 ^ 128)

def IP.addr (ip : IP) : Addr := (Addr.v6 ip "").unmap

/-- The resolver: an error, or addresses among which some may be missing. -/
abbrev Lookup := String → Except String (List (Option IP))

def maxSourceDomainRules : Nat := 256

def maxSourceDomainAddresses : Nat := 64

def isSourceDomain (rule : SourceBlacklistRule) : Bool :=
  rule.kind == "domain" && ruleDirection rule == "source"

/-- The distinct texts of the resolved addresses. -/
def resolvedPatterns (addresses : List (Option IP)) : List String :=
  distinctBy id [] (addresses.filterMap (·.map fun ip => ip.addr.toString))

def resolvedRules (rule : SourceBlacklistRule) (addresses : List (Option IP)) :
    List SourceBlacklistRule :=
  (resolvedPatterns addresses).map fun pattern => ⟨rule.action, ruleDirection rule, "ip", pattern⟩

def resolveDomain (lookup : Lookup) (rule : SourceBlacklistRule) :
    Except String (List SourceBlacklistRule) :=
  match lookup rule.pattern with
  | .error e => .error ("source_domain_resolution_failed: " ++ rule.pattern ++ ": " ++ e)
  | .ok addresses =>
    if addresses = [] then
      .error ("source_domain_resolution_failed: " ++ rule.pattern ++ ": no_addresses")
    else if maxSourceDomainAddresses < (resolvedPatterns addresses).length then
      .error ("source_domain_resolution_too_many_addresses: " ++ rule.pattern)
    else if resolvedPatterns addresses = [] then
      .error ("source_domain_resolution_failed: " ++ rule.pattern ++ ": no_valid_addresses")
    else .ok (resolvedRules rule addresses)

/-- The loop over the rules; `domainCount` source domains were resolved before. -/
def resolveLoop (lookup : Lookup) : Nat → List SourceBlacklistRule →
    Except String (List SourceBlacklistRule)
  | _, [] => .ok []
  | domainCount, rule :: rules =>
    if ¬ isSourceDomain rule then
      match resolveLoop lookup domainCount rules with
      | .error e => .error e
      | .ok result => .ok (rule :: result)
    else if maxSourceDomainRules < domainCount + 1 then
      .error "source_domain_rule_limit_exceeded"
    else
      match resolveDomain lookup rule with
      | .error e => .error e
      | .ok resolved =>
        match resolveLoop lookup (domainCount + 1) rules with
        | .error e => .error e
        | .ok result => .ok (resolved ++ result)

def resolveSourceBlacklistRules (lookup : Lookup) (rules : List SourceBlacklistRule) :
    Except String (List SourceBlacklistRule) :=
  match resolveLoop lookup 0 rules with
  | .error e => .error e
  | .ok result => .ok (dedupeSourceBlacklistRules result)

/-! ## Materialized rules -/

def validateMaterializedRule (rule : SourceBlacklistRule) : Except String Unit :=
  let kind := canonicalKind rule.kind
  let addressOK := (kind ≠ "ip" ∨ (parseIP rule.pattern).isSome) ∧
    (kind ≠ "cidr" ∨ (parseCIDR rule.pattern).isSome)
  if ruleDirection rule = "source" ∧ (kind = "ip" ∨ kind = "cidr") then
    if addressOK then .ok () else .error "invalid_last_good_source_rules"
  else if ruleDirection rule = "destination" ∧ (kind = "ip" ∨ kind = "cidr" ∨ kind = "domain") then
    if addressOK ∧ (kind ≠ "domain" ∨ trimSpace rule.pattern ≠ "") then .ok ()
    else .error "invalid_last_good_source_rules"
  else .error "invalid_last_good_source_rules"

def validateMaterializedSourceRules (rules : List SourceBlacklistRule) : Except String Unit :=
  firstError validateMaterializedRule rules

/-! ## The nft chain -/

/-- The firewall package's view of a rule. -/
structure SourceRule where
  action : String
  kind : String
  pattern : String
  deriving DecidableEq, Repr

def nftCanMatchSource (rule : SourceBlacklistRule) : Bool :=
  ruleDirection rule == "source" &&
    (canonicalKind rule.kind == "ip" || canonicalKind rule.kind == "cidr")

/-- Drops wait for sing-box when some allow rule cannot be seen by nftables. -/
def deferDrops (rules : List SourceBlacklistRule) : Bool :=
  rules.any fun rule => rule.action == "allow" && !nftCanMatchSource rule

def nftSourceRules (rules : List SourceBlacklistRule) : List SourceRule :=
  (rules.filter fun rule =>
    nftCanMatchSource rule && !(deferDrops rules && rule.action != "allow")).map fun rule =>
      ⟨rule.action, rule.kind, rule.pattern⟩

/-- The nft family and the address text of a rule, if it has one. -/
def normalizeSourceRule (rule : SourceRule) : Option (String × String) :=
  let pattern := trimSpace rule.pattern
  let kind := toLower (trimSpace rule.kind)
  if pattern = "" then none
  else if kind = "ip" then
    match parseIP pattern with
    | none => none
    | some address =>
      match address.unmap with
      | .v4 n => some ("ip", (Addr.v4 n).toString)
      | .v6 _ _ => some ("ip6", address.unmap.toString)
  else if kind = "network" ∨ kind = "cidr" then
    match parseCIDR pattern with
    | none => none
    | some (address, network) =>
      match address.unmap with
      | .v4 _ => some ("ip", networkText network)
      | .v6 _ _ => some ("ip6", networkText network)
  else none

inductive Verdict where
  | accept
  | drop
  deriving DecidableEq, Repr

def Verdict.text : Verdict → String
  | .accept => "accept"
  | .drop => "drop"

/-- A line of the chain: a source match or a match on the port alone. -/
inductive NftLine where
  | saddr (family pattern : String) (port : Int) (verdict : Verdict)
  | dport (port : Int) (verdict : Verdict)
  deriving DecidableEq, Repr

def portText (port : Int) : String := String.ofList (intText port)

def NftLine.text : NftLine → String
  | .saddr family pattern port verdict =>
    "    " ++ family ++ " saddr " ++ pattern ++ " tcp dport " ++ portText port ++ " " ++ verdict.text
  | .dport port verdict => "    tcp dport " ++ portText port ++ " " ++ verdict.text

def isAllow (rule : SourceRule) : Bool := toLower (trimSpace rule.action) == "allow"

def sourceLine (port : Int) (verdict : Verdict) (rule : SourceRule) : Option NftLine :=
  (normalizeSourceRule rule).map fun n => .saddr n.1 n.2 port verdict

/-- The rules of the chain: allow lines, then drops, then the verdict of the listener. -/
def chainLines (port : Int) (rules : List SourceRule) (shutdown : Bool) : List NftLine :=
  (rules.filter isAllow).filterMap (sourceLine port .accept) ++
    (rules.filter fun rule => !isAllow rule).filterMap (sourceLine port .drop) ++
    [.dport port (if shutdown then .drop else .accept)]

/-- The script handed to `nft`. The base chain accepts what no rule matches. -/
def renderSourceRules (port : Int) (rules : List SourceRule) (shutdown : Bool) : String :=
  "\n".intercalate
    (["table inet grouproxy \x7b", "  chain grouproxy_input \x7b",
      "    type filter hook input priority -100; policy accept;"] ++
      (chainLines port rules shutdown).map NftLine.text ++ ["  \x7d", "\x7d"]) ++ "\n"

/-! ## The sing-box route -/

def normalizeSourceCIDR (text : String) : String :=
  let pattern := trimSpace text
  match parseIP pattern with
  | some address => address.unmap.toString
  | none =>
    match parseCIDR pattern with
    | some (_, network) => networkText network
    | none => pattern

def accessMatchFields (entry : SourceBlacklistRule) : Option Fields :=
  let kind := canonicalKind entry.kind
  if ruleDirection entry = "source" ∧ (kind = "ip" ∨ kind = "cidr") then
    some [("source_ip_cidr", .strs [normalizeSourceCIDR entry.pattern])]
  else if ruleDirection entry = "destination" ∧ (kind = "ip" ∨ kind = "cidr") then
    some [("ip_cidr", .strs [normalizeSourceCIDR entry.pattern])]
  else if ruleDirection entry = "destination" ∧ kind = "domain" then
    some [("domain_suffix", .strs [entry.pattern])]
  else none

def allowMatchers (rules : List SourceBlacklistRule) : List Fields :=
  (rules.filter fun rule => rule.action == "allow").filterMap accessMatchFields

def denyMatchers (rules : List SourceBlacklistRule) : List Fields :=
  (rules.filter fun rule => rule.action != "allow").filterMap accessMatchFields

/-- A deny matcher with every allow matcher as an inverted exception. -/
def rejectRule (allows : List Fields) (deny : Fields) : Any :=
  if allows = [] then .map (deny.put "action" (.str "reject"))
  else .map [("type", .str "logical"), ("mode", .str "and"),
    ("rules", .arr (.map deny :: allows.map fun allow => .map (allow.put "invert" (.bool true)))),
    ("action", .str "reject")]

def sourceBlacklistRouteRules (rules : List SourceBlacklistRule) : List Any :=
  (denyMatchers rules).map (rejectRule (allowMatchers rules))

end Grouproxy.Policy
