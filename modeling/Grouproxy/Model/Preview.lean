import Grouproxy.Model.Releases

/-! # The access preview

The backend answers for one node whether a source address or a destination host is let through. It
matches the blacklist of the node itself, and leaves source domains to the monitor.
-/

namespace Grouproxy.Cidr

open Text Netip Ipaddress Encoding
open Backend (Libraries lower)

/-! ## Matching -/

/-- `value or default` -/
def textOr (value default : String) : String := if value = "" then default else value

def addressKinds : List String := ["ip", "cidr", "network"]

/-- `address in ip_network(pattern, strict=False)`. A pattern that is no network is passed over. -/
def inPattern (address : Addr) (pattern : String) : Bool :=
  (ipNetwork pattern).any (inNetwork address)

def sourceRuleMatches (address : Addr) (rule : PolicyEntry) : Bool :=
  textOr rule.key.direction "source" == "source" && addressKinds.contains rule.key.kind &&
    inPattern address rule.key.pattern

def matchSourceBlacklist (sourceIp : String) (rules : List PolicyEntry) :
    Except String (Option String) :=
  match ipAddress sourceIp with
  | none => .error (sourceIp ++ " does not appear to be an IPv4 or IPv6 address")
  | some address =>
    .ok ((rules.find? (sourceRuleMatches address)).map fun rule => rule.key.pattern)

/-- `value.rstrip(".")` -/
def rstripDots (cs : List Char) : List Char := (cs.reverse.dropWhile (· == '.')).reverse

/-- `dest_host.strip().lower().rstrip(".")` -/
def hostText (libs : Libraries) (destHost : String) : String :=
  String.ofList (rstripDots (lower libs (strip destHost)).toList)

/-- `host == pattern or host.endswith("." + pattern)` -/
def inDomain (host pattern : String) : Bool :=
  host == pattern || ('.' :: pattern.toList).isSuffixOf host.toList

def destinationRuleMatches (host : String) (rule : PolicyEntry) : Bool :=
  textOr rule.key.direction "source" == "destination" && rule.key.pattern != "" &&
    ((addressKinds.contains rule.key.kind &&
        (ipAddress host).any fun address => inPattern address rule.key.pattern) ||
      (rule.key.kind == "domain" && inDomain host rule.key.pattern))

def matchDestinationBlacklist (libs : Libraries) (destHost : String) (rules : List PolicyEntry) :
    Option String :=
  let host := hostText libs destHost
  if host = "" then none
  else (rules.find? (destinationRuleMatches host)).map fun rule => rule.key.pattern

/-! ## The preview of one blacklist -/

inductive PreviewOutcome where
  | allowed
  | blocked
  | indeterminate
  deriving DecidableEq, Repr

structure Preview where
  allowed : Option Bool
  matchedPattern : Option String
  reason : String
  outcome : PreviewOutcome
  unresolvedDomainPatterns : List String
  deriving DecidableEq, Repr

/-- The entries of a list have no `enabled` of their own. -/
def isUnresolvedRule (libs : Libraries) (rule : PolicyEntry) : Bool :=
  textOr rule.key.direction "source" == "source" && lower libs rule.key.kind == "domain" &&
    rule.key.pattern != ""

def unresolvedDomainPatterns (libs : Libraries) (rules : List PolicyEntry) : List String :=
  (distinctBy id [] ((rules.filter (isUnresolvedRule libs)).map fun rule => rule.key.pattern))
    |>.insertionSort fun a b => codePointLe a b = true

/-- The decision on what was matched: a shut-down site comes first, then the two matches, then the
patterns that only the monitor resolves. -/
def decidePreview (siteShutdown : Bool) (sourceMatch destMatch : Option String)
    (unresolved : List String) : Preview :=
  if siteShutdown then ⟨some false, sourceMatch <|> destMatch, "shutdown", .blocked, unresolved⟩
  else if sourceMatch.isSome then
    ⟨some false, sourceMatch, "source_blacklisted", .blocked, unresolved⟩
  else if destMatch.isSome then ⟨some false, destMatch, "dest_blacklisted", .blocked, unresolved⟩
  else if unresolved ≠ [] then
    ⟨none, none, "domain_resolution_required", .indeterminate, unresolved⟩
  else ⟨some true, none, "allowed", .allowed, unresolved⟩

def previewSourceBlacklist (libs : Libraries) (sourceIp : String) (rules : List PolicyEntry)
    (siteShutdown : Bool) (destHost : String) : Except String Preview := do
  let source := strip sourceIp
  let sourceMatch ← if source = "" then .ok none else matchSourceBlacklist source rules
  let destMatch := if destHost = "" then none else matchDestinationBlacklist libs destHost rules
  let unresolved := if source = "" then [] else unresolvedDomainPatterns libs rules
  return decidePreview siteShutdown sourceMatch destMatch unresolved

end Grouproxy.Cidr

namespace Grouproxy.Backend

open Text Netip Ipaddress Encoding Crypto Cidr Programs

/-! ## The endpoint -/

structure SourceBlacklistPreviewRequest where
  nodeId : String
  sourceIp : String
  destHost : String
  nodeId_size : 1 ≤ nodeId.length ∧ nodeId.length ≤ 128 := by decide
  sourceIp_size : sourceIp.length ≤ 128 := by decide
  destHost_size : destHost.length ≤ 255 := by decide

structure SourceBlacklistPreviewResponse where
  allowed : Option Bool
  matchedPattern : Option String
  reason : String
  blacklist : List PolicyEntry
  sourceBlacklist : List PolicyEntry
  outcome : PreviewOutcome
  unresolvedDomainPatterns : List String

/-- `mark_domain_only_preview_indeterminate`, which every response goes through. -/
def SourceBlacklistPreviewResponse.markDomainOnlyPreviewIndeterminate (libs : Libraries)
    (response : SourceBlacklistPreviewResponse) : SourceBlacklistPreviewResponse :=
  let rules := if response.blacklist = [] then response.sourceBlacklist else response.blacklist
  let unresolved := Cidr.unresolvedDomainPatterns libs rules
  let response := { response with
    blacklist := rules, sourceBlacklist := rules, unresolvedDomainPatterns := unresolved }
  if response.allowed = some true ∧ unresolved ≠ [] then
    { response with
      allowed := none, reason := "domain_resolution_required", outcome := .indeterminate }
  else
    match response.allowed with
    | some true => { response with outcome := .allowed }
    | some false => { response with outcome := .blocked }
    | none => { response with outcome := .indeterminate }

def previewResponse (libs : Libraries) (rules : List PolicyEntry) (preview : Preview) :
    SourceBlacklistPreviewResponse :=
  SourceBlacklistPreviewResponse.markDomainOnlyPreviewIndeterminate libs {
    allowed := preview.allowed, matchedPattern := preview.matchedPattern, reason := preview.reason
    blacklist := rules, sourceBlacklist := rules, outcome := preview.outcome
    unresolvedDomainPatterns := preview.unresolvedDomainPatterns }

/-- An empty source is no source. -/
def checkSourceIp (sourceIp : String) : Except Failure String :=
  if sourceIp = "" then .ok ""
  else
    match normalizeSourceIp sourceIp with
    | .error _ => .error (.http 422 (.str "invalid_source_ip"))
    | .ok normalized => .ok normalized

def previewSourceBlacklist (libs : Libraries) (payload : SourceBlacklistPreviewRequest) :
    Handler SourceBlacklistPreviewResponse := do
  let destHost := strip payload.destHost
  reject (strip payload.sourceIp = "" ∧ destHost = "") (.http 422 (.str "preview_target_required"))
  let sourceIp ← Prog.done (checkSourceIp (strip payload.sourceIp))
  match ← findNodeReference payload.nodeId with
  | none => throw (.http 404 (.str "node_not_found"))
  | some node =>
    let site ← find .other fun s => s.site? node.siteId
    let rules ← find .other fun s => effectiveBlacklist node.agentId s.blacklist
    let preview ← Prog.done ((Cidr.previewSourceBlacklist libs sourceIp rules
      (site.any Site.shutdown) destHost).mapError Failure.valueError)
    return previewResponse libs rules preview

end Grouproxy.Backend
