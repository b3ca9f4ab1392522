import Grouproxy.Model.Policy

/-! # What the two engines do with a request, and what the policy means

The nft chain is walked line by line and the first match wins. The sing-box route rules are
read from the generated document itself. Both engines see an IPv4 peer as an IPv4 address.
-/

namespace Grouproxy.Policy

open Text Netip Value Grouproxy.Bundle

inductive Destination where
  | address (ip : IP)
  | host (name : String)
  deriving DecidableEq, Repr

structure Request where
  source : IP
  destination : Destination
  deriving DecidableEq, Repr

/-! ## nftables -/

def familyText : Addr → String
  | .v4 _ => "ip"
  | .v6 _ _ => "ip6"

/-- The verdict of a line on a TCP packet from `source` to `port`, if it matches. -/
def NftLine.verdict? (source : Addr) (port : Int) : NftLine → Option Verdict
  | .saddr family pattern listener verdict =>
    if family = familyText source ∧ matchesText pattern source ∧ listener = port then some verdict
    else none
  | .dport listener verdict => if listener = port then some verdict else none

/-- The first matching line decides; the policy of the chain is to accept. -/
def chainVerdict (lines : List NftLine) (source : IP) (port : Int) : Verdict :=
  (lines.findSome? (NftLine.verdict? source.addr port)).getD .accept

/-! ## sing-box -/

/-- A domain suffix matches a name and its subdomains, whatever their letter case. -/
def domainSuffixMatches (suffix host : String) : Bool :=
  toLower host == suffix || ('.' :: suffix.toList).isSuffixOf (toLower host).toList

def sourceMatches (req : Request) (text : String) : Bool := matchesText text req.source.addr

def ipMatches (req : Request) (text : String) : Bool :=
  match req.destination with
  | .address ip => matchesText text ip.addr
  | .host _ => false

def domainMatches (req : Request) (suffix : String) : Bool :=
  match req.destination with
  | .address _ => false
  | .host name => domainSuffixMatches suffix name

/-- The texts of a list field of a rule. -/
def fieldTexts (rule : Fields) (key : String) : List String := stringSlice (rule.get key)

/-- A rule without `type`: its source items and its destination items must match, each
kind of item being vacuous if the rule has none. -/
def matchesDefault (req : Request) (rule : Fields) : Bool :=
  let sources := (fieldTexts rule "source_ip_cidr").map (sourceMatches req)
  let destinations := (fieldTexts rule "domain_suffix").map (domainMatches req) ++
    (fieldTexts rule "ip_cidr").map (ipMatches req)
  let matched := (sources.isEmpty || sources.any id) && (destinations.isEmpty || destinations.any id)
  matched != boolValue (rule.get "invert")

def subrules (rule : Fields) : List Fields :=
  (((rule.get "rules").asArr?).getD []).filterMap Any.asMap?

/-- A logical rule combines default rules by its mode. -/
def matchesRule (req : Request) (rule : Fields) : Bool :=
  if (rule.get "type").asString? = some "logical" then
    let matched :=
      if (rule.get "mode").asString? = some "or" then (subrules rule).any (matchesDefault req)
      else (subrules rule).all (matchesDefault req)
    matched != boolValue (rule.get "invert")
  else matchesDefault req rule

/-- Whether the first matching rule of a route rejects the request. -/
def routeRejects (rules : List Any) (req : Request) : Bool :=
  match (rules.filterMap Any.asMap?).find? (matchesRule req) with
  | some rule => (rule.get "action").asString? == some "reject"
  | none => false

/-- A request is blocked if the firewall drops it or the proxy rejects it. -/
def blocked (port : Int) (resolved : List SourceBlacklistRule) (req : Request) : Bool :=
  chainVerdict (chainLines port (nftSourceRules resolved) false) req.source port == .drop ||
    routeRejects (sourceBlacklistRouteRules resolved) req

/-! ## The meaning of a policy -/

/-- The addresses an `ip` or `cidr` pattern denotes. An IPv4-mapped pattern denotes the
IPv4 addresses it maps. -/
def Denotes (kind pattern : String) (a : Addr) : Prop :=
  (kind = "ip" ∧ ∃ b, parseAddr pattern = some b ∧ b.unmap = a) ∨
    (kind = "cidr" ∧ ∃ p, parsePrefix pattern = some p ∧ p.unmap.contains a = true)

/-- A name lies in a domain if it is the domain or one of its subdomains. -/
def InDomain (domain name : String) : Prop :=
  toLower name = domain ∨ ∃ sub, toLower name = sub ++ "." ++ domain

/-- When a rule of the policy matches a request under the answers of the resolver. -/
inductive Matches (lookup : Lookup) (rule : SourceBlacklistRule) (req : Request) : Prop where
  | source (hd : ruleDirection rule = "source")
      (h : Denotes (canonicalKind rule.kind) rule.pattern req.source.addr)
  | sourceDomain {addresses : List (Option IP)} {ip : IP} (hd : ruleDirection rule = "source")
      (hk : rule.kind = "domain") (hl : lookup rule.pattern = .ok addresses)
      (hm : some ip ∈ addresses) (h : ip.addr = req.source.addr)
  | destination {ip : IP} (hd : ruleDirection rule = "destination")
      (hr : req.destination = .address ip)
      (h : Denotes (canonicalKind rule.kind) rule.pattern ip.addr)
  | destinationDomain {name : String} (hd : ruleDirection rule = "destination")
      (hk : rule.kind = "domain") (hr : req.destination = .host name)
      (h : InDomain rule.pattern name)

/-- Everything is allowed that no deny rule matches, and an allow rule exempts from every
deny rule. -/
def Denied (lookup : Lookup) (rules : List SourceBlacklistRule) (req : Request) : Prop :=
  (∃ rule ∈ rules, rule.action = "deny" ∧ Matches lookup rule req) ∧
    ¬ ∃ rule ∈ rules, rule.action = "allow" ∧ Matches lookup rule req

/-- A rule as an accepted bundle yields it. -/
structure ValidRule (rule : SourceBlacklistRule) : Prop where
  action : rule.action = "allow" ∨ rule.action = "deny"
  direction : rule.direction = "source" ∨ rule.direction = "destination"
  pattern : validatePattern (canonicalKind rule.kind) rule.pattern = .ok ()

/-- No address pattern of the rule has an IPv6 zone. -/
def Unscoped (rule : SourceBlacklistRule) : Prop :=
  rule.kind = "ip" → '%' ∉ rule.pattern.toList

end Grouproxy.Policy
