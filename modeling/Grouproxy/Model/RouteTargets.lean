import Grouproxy.Library.FirstMatch
import Grouproxy.Model.Enforcement
import Grouproxy.Model.Singbox

/-! # Where a configuration sends a request

The proxy reads the whole route: the rules in order, then the final outbound.
-/

namespace Grouproxy.Routing

open Text Netip Value Policy FirstMatch

/-- What the proxy knows of destinations apart from the configuration: which addresses are
private, and what the stored rule sets hold. -/
structure Geography where
  isPrivate : Addr → Bool
  inRuleSet : String → Destination → Bool

/-- What becomes of a request. -/
inductive Target where
  | reject
  | outbound (tag : String)
  deriving DecidableEq, Repr

/-! ## Matching -/

def nameMatches (req : Request) (text : String) : Bool :=
  match req.destination with
  | .address _ => false
  | .host name => toLower name == text

def privateMatches (geo : Geography) (req : Request) : Bool :=
  match req.destination with
  | .address ip => geo.isPrivate ip.addr
  | .host _ => false

/-- A rule without `type`, with every item that the monitor writes into one. The items of one
side are alternatives. -/
def hitsDefault (geo : Geography) (req : Request) (rule : Fields) : Bool :=
  let sources := (fieldTexts rule "source_ip_cidr").map (sourceMatches req)
  let destinations := (fieldTexts rule "domain").map (nameMatches req) ++
    ((fieldTexts rule "domain_suffix").map (domainMatches req) ++
      (fieldTexts rule "ip_cidr").map (ipMatches req)) ++
    (if boolValue (rule.get "ip_is_private") then [privateMatches geo req] else []) ++
    (fieldTexts rule "rule_set").map fun tag => geo.inRuleSet tag req.destination
  let matched := (sources.isEmpty || sources.any id) && (destinations.isEmpty || destinations.any id)
  matched != boolValue (rule.get "invert")

def hitsRule (geo : Geography) (req : Request) (rule : Fields) : Bool :=
  if (rule.get "type").asString? = some "logical" then
    let matched :=
      if (rule.get "mode").asString? = some "or" then (subrules rule).any (hitsDefault geo req)
      else (subrules rule).all (hitsDefault geo req)
    matched != boolValue (rule.get "invert")
  else hitsDefault geo req rule

/-! ## Targets -/

def ruleTarget (rule : Fields) : Target :=
  if (rule.get "action").asString? = some "reject" then .reject
  else .outbound (stringValue (rule.get "outbound"))

/-- The decision of a list of rules, if one of them matches. -/
def rulesTarget (geo : Geography) (req : Request) (rules : List Any) : Option Target :=
  firstMatch (hitsRule geo req) ruleTarget (rules.filterMap Any.asMap?)

/-- The decision of a configuration. -/
def routeTarget (geo : Geography) (config : Fields) (req : Request) : Target :=
  let route := Singbox.submap config "route"
  (rulesTarget geo req (((route.get "rules").asArr?).getD [])).getD
    (.outbound (stringValue (route.get "final")))

end Grouproxy.Routing
