import Grouproxy.Library.Loops
import Grouproxy.Model.Routing
import Grouproxy.Model.Subscription

/-! # The sing-box configuration

`renderSingbox` writes a configuration from a bundle, and a chain of passes brings a stored
configuration up to date with the last good bundle. The passes of the source assign through
references into the document; here each returns the changed document.
-/

namespace Grouproxy.Singbox

open Text Value Policy Routing

/-- File names are joined to a clean directory path. -/
def joinPath (dir name : String) : String := dir ++ "/" ++ name

def ruleSetPath (stateDir file : String) : String := joinPath (joinPath stateDir "rule-sets") file

def localRuleSet (tag path : String) : Any :=
  .map [("type", .str "local"), ("tag", .str tag), ("format", .str "binary"), ("path", .str path)]

def localRuleSets (stateDir : String) : List Any :=
  [localRuleSet geoIPCNTag (ruleSetPath stateDir "geoip-cn.srs"),
    localRuleSet geoSiteCNTag (ruleSetPath stateDir "geosite-cn.srs")]

/-! ## References into a list of maps -/

/-- The last map of a list with a property. -/
def findLast? (p : Fields → Bool) (xs : List Any) : Option Fields :=
  (xs.filterMap Any.asMap?).reverse.find? p

def isMapWith (p : Fields → Bool) (x : Any) : Bool := x.asMap?.any p

/-- Assigns to the last map of a list with a property. -/
def updateLast (p : Fields → Bool) (f : Fields → Fields) : List Any → List Any
  | [] => []
  | x :: xs =>
    if xs.any (isMapWith p) then x :: updateLast p f xs
    else if isMapWith p x then .map (f (x.asMap?.getD [])) :: xs
    else x :: xs

def putAll (m : Fields) (fields : Fields) : Fields :=
  fields.foldl (fun m f => m.put f.1 f.2) m

/-! ## The automatic group -/

def autoCandidate : Nat → String
  | 0 => "auto"
  | suffix + 1 => "auto-" ++ toString (suffix + 1)

/-- The first free name; it is found among one name more than there are tags. -/
def subscriptionAutoTag (tags : List String) : String :=
  (((List.range (tags.length + 1)).map autoCandidate).find? fun tag => tag ∉ tags).getD "auto"

/-- The loop of `subscriptionAutoTag` over the tag and the suffix. A slice has fewer elements than
the suffix has values. -/
def subscriptionAutoTagLoop (tags : List String) (fuel : Nat) : Option String :=
  (Loops.runFor (fun s : String × Nat => s.1 ∈ tags) (fun s => ("auto-" ++ toString s.2, s.2))
    (fun s => (s.1, s.2 + 1)) fuel ("auto", 1)).map Prod.fst

def subscriptionAutoGroup (tag : String) (tags : List String) : Fields :=
  [("type", .str "urltest"), ("tag", .str tag), ("outbounds", .strs tags),
    ("url", .str "https://www.gstatic.com/generate_204"), ("interval", .str "1m"),
    ("tolerance", .int 50), ("idle_timeout", .str "30m"),
    ("interrupt_exist_connections", .bool false)]

/-- The default of the selector: the wanted outbound if it exists, else the automatic group. -/
def selectedSubscriptionOutbound (value : Fields) (tags : List String) : String :=
  if tags = [] then ""
  else
    match (value.get "proxy_selection").asMap? with
    | none => subscriptionAutoTag tags
    | some raw =>
      if trimSpace (stringValue (raw.get "group")) ≠ "subscription" then subscriptionAutoTag tags
      else
        let wanted := trimSpace (stringValue (raw.get "outbound"))
        if wanted = subscriptionAutoTag tags then wanted
        else if wanted ∈ tags then wanted
        else subscriptionAutoTag tags

def subscriptionOutboundTags (outbounds : List Any) : List String :=
  distinctBy id [] (((outbounds.filterMap Any.asMap?).map fun entry =>
    trimSpace (stringValue (entry.get "tag"))).filter (· ≠ ""))

/-- A stale selection is a preference that no longer applies, not an error. -/
def validateProxySelection (value : Fields) (tags : List String) : Except String Unit :=
  match value.get "proxy_selection" with
  | .nil => .ok ()
  | raw =>
    match raw.asMap? with
    | none => .error "invalid_proxy_selection"
    | some selection =>
      if trimSpace (stringValue (selection.get "group")) ≠ "subscription" then
        .error "proxy_group_not_selectable"
      else
        let wanted := trimSpace (stringValue (selection.get "outbound"))
        if wanted = "" ∨ (tags ≠ [] ∧ wanted = subscriptionAutoTag tags) then .ok ()
        else if wanted ∈ tags then .ok ()
        else .ok ()

def fieldsOf (cs : List Char) : List (List Char) :=
  (cs.splitOnP isSpace).filter fun word => word ≠ []

def safeProxyLabel (value : String) : List Char :=
  ([' '].intercalate (fieldsOf value.toList)).take 255

def safeProxyType (value : String) : List Char := (safeProxyLabel value).take 64

def unprobedTypes : List String :=
  ["", "direct", "reject", "block", "selector", "urltest", "fallback", "loadbalance", "relay", "dns"]

def isDelayProbeable (entry : Fields) : Bool :=
  toLower (String.ofList ((safeProxyType (stringValue (entry.get "type"))).filter (· ≠ '-'))) ∉
    unprobedTypes

def hasTag (tag : String) (entry : Fields) : Bool := stringValue (entry.get "tag") == tag

def isSelector (entry : Fields) : Bool :=
  (entry.get "tag").asString? == some "subscription" &&
    (entry.get "type").asString? == some "selector"

/-- The tags of the selector that name an endpoint. -/
def probeableTags (outbounds : List Any) (selector : Fields) : List String :=
  (stringSlice (selector.get "outbounds")).filter fun tag =>
    (findLast? (hasTag tag) outbounds).any isDelayProbeable

/-- The automatic group is rewritten where it stands, or added at the end. -/
def placeAutoGroup (tag : String) (tags : List String) (outbounds : List Any) : List Any :=
  let group := subscriptionAutoGroup tag tags
  match findLast? (hasTag tag) outbounds with
  | some existing =>
    if (existing.get "type").asString? = some "urltest" then
      updateLast (hasTag tag) (fun entry => putAll entry group) outbounds
    else outbounds ++ [.map group]
  | none => outbounds ++ [.map group]

def selectorUpdate (value : Fields) (tags : List String) (selector : Fields) : Fields :=
  (selector.put "outbounds" (.strs (subscriptionAutoTag tags :: tags))).put "default"
    (.str (selectedSubscriptionOutbound value tags))

def ensureSubscriptionAutoGroup (config value : Fields) : Fields :=
  match (config.get "outbounds").asArr? with
  | none => config
  | some outbounds =>
    match findLast? isSelector outbounds with
    | none => config
    | some selector =>
      let tags := probeableTags outbounds selector
      if tags = [] then config
      else config.put "outbounds" (.arr (updateLast isSelector (selectorUpdate value tags)
        (placeAutoGroup (subscriptionAutoTag tags) tags outbounds)))

/-! ## Route passes -/

def isCNRuleSet (tag : String) (definition : Fields) : Bool :=
  stringValue (definition.get "type") == "local" &&
    stringValue (definition.get "format") == "binary" && stringValue (definition.get "tag") == tag

def hasCNRuleSetDefinitions (value : Any) : Bool :=
  match value.asArr? with
  | none => false
  | some definitions =>
    definitions.any (isMapWith (isCNRuleSet geoIPCNTag)) &&
      definitions.any (isMapWith (isCNRuleSet geoSiteCNTag))

def isCNDirectRule (rule : Fields) : Bool :=
  stringValue (rule.get "outbound") == "direct" &&
    stringSlice (rule.get "rule_set") == [geoIPCNTag, geoSiteCNTag]

def hasCNDirectRule (rules : List Any) : Bool := rules.any (isMapWith isCNDirectRule)

def ensureRoutingRules (config : Fields) (stateDir : String) : Fields :=
  match (config.get "route").asMap? with
  | none => config
  | some route =>
    match (route.get "rules").asArr? with
    | none => config
    | some rules =>
      let route := if hasCNRuleSetDefinitions (route.get "rule_set") then route
        else route.put "rule_set" (.arr (localRuleSets stateDir))
      let route := if hasCNDirectRule rules then route
        else route.put "rules" (.arr (rules ++ [cnDirectRule]))
      config.put "route" (.map route)

/-- A rule of an earlier access policy. -/
def isGeneratedRule (rule : Fields) : Bool :=
  rule.has "source_ip_cidr" || rule.has "source_domain" ||
    (stringValue (rule.get "outbound") == "block" && (rule.has "domain" || rule.has "ip_cidr")) ||
    stringValue (rule.get "action") == "reject"

def isBlockOutbound (outbound : Fields) : Bool :=
  stringValue (outbound.get "type") == "block" && stringValue (outbound.get "tag") == "block"

def removeRetiredDestinationBlockOutbound (config : Fields) : Fields :=
  match (config.get "outbounds").asArr? with
  | none => config
  | some outbounds =>
    if outbounds.any (isMapWith isBlockOutbound) then
      config.put "outbounds" (.arr (outbounds.filter fun raw => !isMapWith isBlockOutbound raw))
    else config

/-- Whether the generated rules differ from the stored ones as far as they print. -/
def rulesChanged (generated rules : List Any) : Bool :=
  generated.length != rules.length ||
    (generated.zip rules).any fun pair => sprint pair.1 != sprint pair.2

def ensureSourceBlacklistRules (config : Fields) (sourceRules : List SourceBlacklistRule) : Fields :=
  match (config.get "route").asMap? with
  | none => removeRetiredDestinationBlockOutbound config
  | some route =>
    match (route.get "rules").asArr? with
    | none => removeRetiredDestinationBlockOutbound config
    | some rules =>
      let filtered := rules.filter fun raw => !isMapWith isGeneratedRule raw
      let generated := sourceBlacklistRouteRules sourceRules ++ filtered
      if rules.any (isMapWith isGeneratedRule) || rulesChanged generated rules then
        removeRetiredDestinationBlockOutbound
          (config.put "route" (.map (route.put "rules" (.arr generated))))
      else removeRetiredDestinationBlockOutbound config

def listenOn (listenAddress : String) (shutdown : Bool) : String :=
  if shutdown then "127.0.0.1" else if listenAddress = "" then "0.0.0.0" else listenAddress

def ingressInbound (port : Int) (shutdown : Bool) (listenAddress : String) (inbound : Fields) :
    Fields :=
  ((((inbound.put "listen" (.str (listenOn listenAddress shutdown))).put "listen_port"
    (.int port)).delete "users").delete "proxy_protocol").delete "proxy_protocol_accept_no_header"

def applySingboxIngress (config : Fields) (port : Int) (shutdown : Bool) (listenAddress : String) :
    Fields :=
  match (config.get "inbounds").asArr? with
  | some (.map inbound :: rest) =>
    config.put "inbounds" (.arr (.map (ingressInbound port shutdown listenAddress inbound) :: rest))
  | _ => config

/-- The outbound that `proxy` stands for. -/
def proxyOutbound (outbounds : List Any) : String :=
  if outbounds.any (isMapWith fun entry => (entry.get "tag").asString? == some "subscription") then
    "subscription" else "direct"

/-- A nested map; a missing one is created. -/
def submap (m : Fields) (key : String) : Fields := ((m.get key).asMap?).getD []

def routeUpdate (policy : DestinationPolicy) (sourceRules : List SourceBlacklistRule)
    (proxy : String) (route : Fields) : Fields :=
  (route.put "rules"
    (.arr (sourceBlacklistRouteRules sourceRules ++ destinationRouteRules policy proxy))).put "final"
      (.str (if policy.final = "proxy" then proxy else "direct"))

def experimentalUpdate (experimental : Fields) : Fields :=
  experimental.put "clash_api" (.map ((submap experimental "clash_api").put "default_mode"
    (.str "rule")))

def applyDestinationPolicy (config value : Fields) (sourceRules : List SourceBlacklistRule) :
    Except String Fields :=
  match parseDestinationPolicy value with
  | .error e => .error e
  | .ok policy =>
    let proxy := proxyOutbound (((config.get "outbounds").asArr?).getD [])
    let config := config.put "route"
      (.map (routeUpdate policy sourceRules proxy (submap config "route")))
    .ok (config.put "experimental" (.map (experimentalUpdate (submap config "experimental"))))

/-! ## Rendering -/

/-- The outbounds of a subscription that have a tag. -/
def taggedOutbounds (outbounds : List Any) : List Fields :=
  (outbounds.filterMap Any.asMap?).filter fun entry => stringValue (entry.get "tag") ≠ ""

def entryTags (entries : List Fields) : List String :=
  entries.map fun entry => stringValue (entry.get "tag")

def subscriptionSelector (value : Fields) (tags : List String) : Fields :=
  [("type", .str "selector"), ("tag", .str "subscription"),
    ("outbounds", .strs (subscriptionAutoTag tags :: tags)),
    ("default", .str (selectedSubscriptionOutbound value tags))]

def directOutbound : Any := .map [("type", .str "direct"), ("tag", .str "direct")]

def renderOutbounds (value : Fields) (entries : List Fields) : List Any :=
  directOutbound :: entries.map Any.map ++
    (if entries = [] then []
    else [.map (subscriptionAutoGroup (subscriptionAutoTag (entryTags entries)) (entryTags entries)),
      .map (subscriptionSelector value (entryTags entries))])

/-- The settings of the monitor that reach a configuration. -/
structure Settings where
  stateDir : String
  clashAPIListen : String
  listenAddress : String

def httpInbound (port : Int) : Fields :=
  [("type", .str "http"), ("tag", .str "grouproxy-http"), ("listen_port", .int port),
    ("set_system_proxy", .bool false)]

def renderSingbox (settings : Settings) (value : Fields) (port : Int) (outbounds : List Any)
    (sourceRules : List SourceBlacklistRule) : Fields :=
  let inbound := ingressInbound port (boolValue (value.get "shutdown")) settings.listenAddress
    (httpInbound port)
  let entries := taggedOutbounds outbounds
  let result : Fields := [
    ("log", .map [("level", .str "info"),
      ("output", .str (joinPath settings.stateDir "sing-box.log"))]),
    ("inbounds", .arr [.map inbound]),
    ("outbounds", .arr (renderOutbounds value entries)),
    ("route", .map [("rule_set", .arr (localRuleSets settings.stateDir)),
      ("rules", .arr (sourceBlacklistRouteRules sourceRules ++ [cnDirectRule])),
      ("final", .str (if entries = [] then "direct" else "subscription"))]),
    ("experimental", .map [("clash_api",
      .map [("external_controller", .str settings.clashAPIListen)])])]
  match applyDestinationPolicy result value sourceRules with
  | .ok config => config
  | .error _ => result

/-- The passes over a stored configuration. -/
def refreshConfig (settings : Settings) (lastGood : Fields) (port : Int)
    (sourceRules : List SourceBlacklistRule) (config : Fields) : Except String Fields :=
  let config := ensureSubscriptionAutoGroup config lastGood
  let config := ensureRoutingRules config settings.stateDir
  let config := ensureSourceBlacklistRules config sourceRules
  let config := applySingboxIngress config port (boolValue (lastGood.get "shutdown"))
    settings.listenAddress
  applyDestinationPolicy config lastGood sourceRules

end Grouproxy.Singbox
