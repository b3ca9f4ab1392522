import Mathlib.Data.Finset.Basic
import Grouproxy.Model.RoutingPolicy
import Grouproxy.Model.Singbox

/-! # Desired releases

`build_signed_bundle` and `create_desired_release`, with the queries they make, and the repair
of a stored bundle when it is served.
-/

namespace Grouproxy.Backend

open Text Ipaddress Encoding Crypto Cidr Programs Grouproxy.Bundle

structure Settings where
  libs : Libraries
  hashes : Hashes
  bundleHmacSecret : String
  subscriptionInlineMaxBytes : Nat
  backendPublicUrl : String

/-- What one release draws from its surroundings: fresh identifiers, the clock when the draft is
made and when it is checked, and per node the two times written into the bundle. -/
structure Draws where
  releaseId : String
  taskId : String
  draftId : String
  token : String
  draftedAt : Nat
  checkedAt : Nat
  issuedAt : String → String
  expiresAt : String → String

/-! ## Python values -/

/-- A counter in a bundle; it stays below `2 ^ 53`. -/
def number (n : Nat) : Json :=
  .int ⟨(n % 2 ^ 53 : Nat), by
    rw [Int.natAbs_natCast]
    exact Nat.mod_lt n (by decide)⟩

/-- `str(value)` -/
def strOf (libs : Libraries) : Json → String
  | .null => "None"
  | .bool b => if b then "True" else "False"
  | .int n => String.ofList (intText n.val)
  | .str s => s
  | value => libs.reprOf value

/-- `bool(value)` -/
def isTruthy : Json → Bool
  | .null => false
  | .bool b => b
  | .int n => n.val ≠ 0
  | .str s => s ≠ ""
  | .arr items => !items.isEmpty
  | .obj fields => !fields.isEmpty

/-- `d.get(key, default)` -/
def dictGetD (d : Dict) (key : String) (default : Json) : Json :=
  ((d.find? fun f => f.1 == key).map Prod.snd).getD default

/-- `text[:limit]` -/
def clip (limit : Nat) (s : String) : String := String.ofList (s.toList.take limit)

/-- `url.rstrip("/")` -/
def rstripSlash (s : String) : String :=
  String.ofList ((s.toList.reverse.dropWhile (· == '/')).reverse)

/-! ## Subscription tags -/

def controlOutboundTypes : List String := ["block", "direct", "dns", "selector", "urltest"]

def reservedOutboundTags : List String := ["block", "direct", "subscription"]

/-- The tag an item of a subscription is given: its stripped text, or nothing. -/
def itemTag (libs : Libraries) (item : Dict) (key : String) : String :=
  match dictGet item key with
  | .null => ""
  | value => strip (strOf libs value)

/-- The items of a list that become outbounds, with their tags. An empty tag is replaced by one
that counts the tags so far. -/
def collectTags (libs : Libraries) (format : String) : List String → List Json → List String
  | tags, [] => tags
  | tags, .obj item :: rest =>
    let kind := match dictGet item "type" with
      | .null => ""
      | value => if isTruthy value then lower libs (strip (strOf libs value)) else ""
    let tag := itemTag libs item
      (if format = "sing-box" then "tag" else if format = "sip008" then "remarks" else "name")
    if format = "sing-box" ∧ (kind ∈ controlOutboundTypes ∨ tag ∈ reservedOutboundTags) then
      collectTags libs format tags rest
    else
      let tag := if tag = "" then "subscription-" ++ toString (tags.length + 1) else tag
      collectTags libs format (if tag ∈ tags then tags else tags ++ [tag]) rest
  | tags, _ :: rest => collectTags libs format tags rest

/-- `content.decode("utf-8-sig")` -/
def decodeUtf8Sig (content : ByteArray) : Option String :=
  (String.fromUTF8? content).map fun text =>
    if text.toList.head? = some (Char.ofNat 0xfeff) then String.ofList text.toList.tail else text

/-- The list of a subscription that holds its outbounds. An item of another type, or a text that
cannot be read, gives none. -/
def subscriptionItems (libs : Libraries) (text format : String) : List Json :=
  let listOf := fun value : Json => match value with
    | .arr items => items
    | _ => []
  if format = "sing-box" then
    match libs.jsonLoads text with
    | some (.arr items) => items
    | some (.obj fields) => listOf (dictGet fields "outbounds")
    | _ => []
  else if format = "sip008" then
    match libs.jsonLoads text with
    | some (.obj fields) => listOf (dictGet fields "servers")
    | _ => []
  else if format = "clash" then
    match libs.yamlLoad text with
    | some (.obj fields) => listOf (dictGet fields "proxies")
    | _ => []
  else []

def subscriptionOutboundTags (libs : Libraries) (content : ByteArray) (format : String) :
    List String :=
  match decodeUtf8Sig content with
  | none => []
  | some text => collectTags libs format [] (subscriptionItems libs text format)

/-- The tags and the name of the automatic group, which is the first free one. -/
def subscriptionSelectionTags (tags : List String) : List String :=
  if tags = [] then [] else tags ++ [Singbox.subscriptionAutoTag tags]

/-- `subscription_selection_tags` with its loop over the tag and the suffix. -/
def subscriptionSelectionTagsLoop (tags : Finset String) (fuel : Nat) : Option (Finset String) :=
  if tags = ∅ then some ∅
  else
    (Loops.run (fun s : String × Nat => s.1 ∈ tags)
      (fun s => ("auto-" ++ toString s.2, s.2 + 1)) fuel ("auto", 1)).map fun s => tags ∪ {s.1}

/-! ## Queries -/

/-- `find_one` with the greatest version. An empty node is no restriction, as for `None`. -/
def Store.latestRelease (s : Store) (siteId nodeId : String) : Option DesiredRelease :=
  (s.desired.filter fun d => d.siteId == siteId && (nodeId == "" || d.nodeId == nodeId)).argmax
    DesiredRelease.desiredVersion

def Store.binding? (s : Store) (siteId : String) : Option SiteSubscription :=
  s.bindings.find? fun b => b.siteId == siteId

def Store.version? (s : Store) (versionId : String) : Option SubscriptionVersion :=
  s.versions.find? fun v => v.id == versionId

/-- The immutable version of a bundle, inline or as a reference. -/
def subscriptionPayload (settings : Settings) (version : SubscriptionVersion) (content : String) :
    Dict :=
  [("version", number version.version), ("version_id", .str version.id),
    ("hash", .str version.contentHash), ("format", .str version.format),
    ("size_bytes", number version.sizeBytes),
    if version.sizeBytes ≤ settings.subscriptionInlineMaxBytes then ("content", .str content)
    else ("blob_url", .str
      (rstripSlash settings.backendPublicUrl ++ "/agent/v1/blobs/" ++ version.contentHash))]

def selectedSubscriptionBundle (settings : Settings) (name : NodeOp → Label) (siteId : String) :
    Handler (Option Dict) := do
  match ← find (name .binding) fun s => s.binding? siteId with
  | none => return none
  | some selected =>
    match ← find (name .version) fun s => s.version? selected.subscriptionVersionId with
    | none => throw (.valueError "selected_subscription_version_invalid")
    | some version =>
      reject (¬ version.parseOk) (.valueError "selected_subscription_version_invalid")
      match String.fromUTF8? version.content with
      | none => throw (.valueError "selected_subscription_content_invalid")
      | some content => return some (subscriptionPayload settings version content)

def selectedSubscriptionTags (libs : Libraries) (name : NodeOp → Label) (siteId : String) :
    Handler (List String) := do
  match ← find (name .tagsBinding) fun s => s.binding? siteId with
  | none => return []
  | some selected =>
    match ← find (name .tagsVersion) fun s => s.version? selected.subscriptionVersionId with
    | none => return []
    | some version =>
      return if version.parseOk then subscriptionOutboundTags libs version.content version.format
        else []

/-! ## Bundles -/

/-- The part of a bundle that every release carries. -/
def baseBundle (site : Site) (node : Node) (desiredVersion : Nat) (draws : Draws)
    (blacklist accessControl : List PolicyEntry) (subscription : Option Dict) : Dict :=
  [("schema_version", number 1), ("release_id", .str draws.releaseId),
    ("desired_version", number desiredVersion), ("min_monitor_version", .str "0.6.0"),
    ("site_id", .str site.id), ("node_id", .str node.agentId), ("shutdown", .bool site.shutdown),
    ("listen", .obj [("http_port", number 3128)]),
    ("blacklist", .arr (blacklist.map blacklistJson)),
    ("access_control", .arr (accessControl.map accessControlJson)),
    ("subscription", match subscription with
      | none => .null
      | some payload => .obj payload),
    ("issued_at", .str (draws.issuedAt node.agentId)),
    ("expires_at", .str (draws.expiresAt node.agentId))]

/-- Adds the selection unless it names no outbound of the subscription. -/
def addProxySelection (libs : Libraries) (outboundTags : List String) (proxySelection : Json)
    (bundle : Dict) : Dict :=
  match proxySelection with
  | .obj selection =>
    if selection = [] then bundle
    else
      let group := clip 255 (strOf libs (dictGetD selection "group" (.str "subscription")))
      let outbound := clip 255 (strOf libs (dictGetD selection "outbound" (.str "")))
      if group ≠ "subscription" ∨ outbound ∈ subscriptionSelectionTags outboundTags then
        let bundle := bundle.set "proxy_selection"
          (.obj [("group", .str group), ("outbound", .str outbound)])
        if group = "subscription" ∧ outbound ∉ outboundTags then
          bundle.set "min_monitor_version" (.str "0.7.0")
        else bundle
      else bundle
  | _ => bundle

/-- Validates the policy and adds its dump. -/
def addRoutingPolicy (libs : Libraries) (hasSubscription : Bool) (policy : Json) (bundle : Dict) :
    Except Failure Dict :=
  if isNone policy then .ok bundle
  else
    match RoutingPolicy.modelValidate libs policy with
    | none => .error (.valueError (libs.validationReport policy))
    | some validated =>
      if ¬ hasSubscription ∧ validated.usesProxy then
        .error (.valueError "routing_proxy_unavailable")
      else .ok ((bundle.set "routing_policy" validated.modelDump).set "min_monitor_version"
        (.str "0.8.0"))

/-- Without a subscription the tags are not asked for. -/
def tagsWith (subscription : Option Dict) (tags : Handler (List String)) : Handler (List String) :=
  if subscription.isSome then tags else return []

def buildSignedBundle (settings : Settings) (name : NodeOp → Label) (site : Site) (node : Node)
    (desiredVersion : Nat) (draws : Draws) (proxySelection routingPolicy : Json) :
    Handler Dict := do
  let blacklist ← find (name .blacklist) fun s => effectiveBlacklist node.agentId s.blacklist
  let sets ← find (name .accessControlSets) Store.accessControlSets
  let accessControl ← find (name .networkGroups) fun s =>
    effectiveAccessControl node.agentId sets s.networkGroups
  let subscription ← selectedSubscriptionBundle settings name site.id
  let outboundTags ← tagsWith subscription (selectedSubscriptionTags settings.libs name site.id)
  let bundle ← Prog.done (addRoutingPolicy settings.libs subscription.isSome routingPolicy
    (addProxySelection settings.libs outboundTags proxySelection
      (baseBundle site node desiredVersion draws blacklist accessControl subscription)))
  return signBundle settings.hashes bundle settings.bundleHmacSecret

/-! ## Releases of desired bundles -/

/-- `site.set`: updates the revision of the stored site and reads the document back. -/
def Site.setRevision (site : Site) (revision : Nat) : Handler Site :=
  Prog.atomic .operation (.desired site.id .setRevision) fun s =>
    let sites := s.sites.map fun other =>
      if other.id = site.id then { other with configRevision := revision } else other
    (.ok ((sites.find? fun other => other.id == site.id).getD
      { site with configRevision := revision }), { s with sites := sites })

/-- The selection of a draft as far as it concerns a node. A selection that is no dictionary, or
whose node is no plain value, raises. -/
def selectionFor (proxySelection : Json) (node : Node) : Except Failure Json :=
  if ¬ isTruthy proxySelection then .ok .null
  else
    match proxySelection with
    | .obj selection =>
      match dictGet selection "node_id" with
      | .null => .ok proxySelection
      | .str nodeId => .ok (if nodeId = node.agentId then proxySelection else .null)
      | .bool _ | .int _ => .ok .null
      | .arr _ | .obj _ => .error (.python "TypeError")
    | _ => .error (.python "AttributeError")

/-- `routing_policy if routing_policy is not None else inherited_policy.bundle.get(...)` -/
def policyFor (routingPolicy : Json) (inherited : Option DesiredRelease) : Json :=
  if isNone routingPolicy then
    match inherited with
    | none => .null
    | some release => dictGet release.bundle "routing_policy"
  else routingPolicy

def textOf : Json → String
  | .str s => s
  | _ => ""

def newDesiredRelease (site : Site) (node : Node) (desiredVersion : Nat) (draws : Draws)
    (previousReleaseId : Option String) (bundle : Dict) : DesiredRelease :=
  { releaseId := draws.releaseId, nodeId := node.agentId, siteId := site.id
    desiredVersion := desiredVersion, sourceRevision := site.configRevision
    bundleHash := textOf (dictGet bundle "bundle_hash"), bundle := bundle
    previousReleaseId := previousReleaseId }

/-- The loop of `create_desired_release` over its nodes. -/
def createForNodes (settings : Settings) (draws : Draws) (site : Site) (desiredVersion : Nat)
    (previous : Option DesiredRelease) (proxySelection routingPolicy : Json) :
    List Node → Handler (List DesiredRelease)
  | [] => return []
  | node :: rest => do
    let name := fun op => Label.desired site.id (.node node.agentId op)
    let nodePrevious ← find (name .previous) fun s => s.latestRelease site.id node.agentId
    let selection ← Prog.done (selectionFor proxySelection node)
    let bundle ← buildSignedBundle settings name site node desiredVersion draws selection
      (policyFor routingPolicy (nodePrevious <|> previous))
    let item := newDesiredRelease site node desiredVersion draws
      (previous.map DesiredRelease.releaseId) bundle
    update (name .insert) fun s => { s with desired := s.desired ++ [item] }
    let items ← createForNodes settings draws site desiredVersion previous proxySelection
      routingPolicy rest
    return item :: items

/-- `max(site.config_revision, previous.desired_version if previous else 0) + 1` -/
def nextVersion (site : Site) (previous : Option DesiredRelease) : Nat :=
  max site.configRevision ((previous.map DesiredRelease.desiredVersion).getD 0) + 1

def createDesiredRelease (settings : Settings) (draws : Draws) (site : Site) (nodes : List Node)
    (proxySelection routingPolicy : Json) : Handler (String × List DesiredRelease) := do
  let previous ← find (.desired site.id .previous) fun s => s.latestRelease site.id ""
  let desiredVersion := nextVersion site previous
  let refreshed ← site.setRevision desiredVersion
  let releases ← createForNodes settings draws { refreshed with id := site.id } desiredVersion
    previous proxySelection routingPolicy nodes
  return (draws.releaseId, releases)

end Grouproxy.Backend
