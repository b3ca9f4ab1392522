import Grouproxy.Model.Bundles

/-! # Releases

The handlers that turn a draft into desired bundles, a task and a release: the shared
`_create_release_from_draft` and the entry points that call it.
-/

namespace Grouproxy.Backend

open Text Ipaddress Encoding Crypto Cidr Programs Grouproxy.Bundle

/-! ## Queries -/

def Store.site? (s : Store) (siteId : String) : Option Site :=
  s.sites.find? fun site => site.id == siteId

def Store.siteNodes (s : Store) (siteId : String) : List Node :=
  s.nodes.filter fun node => node.siteId == siteId

def Store.draft? (s : Store) (draftId : String) : Option ConfigDraft :=
  s.drafts.find? fun draft => draft.id == draftId

def Store.taskByKey? (s : Store) (key : String) : Option Task :=
  s.tasks.find? fun task => task.idempotencyKey == key

def Store.releaseByTask? (s : Store) (taskId : String) : Option ConfigRelease :=
  s.releases.find? fun release => release.taskId == taskId

/-- A release under way for one of the agents. -/
def ConfigRelease.blocks (release : ConfigRelease) (agentIds : List String) : Bool :=
  release.status.isActive && release.nodeIds.any fun nodeId => nodeId ∈ agentIds

def Store.activeRelease? (s : Store) (agentIds : List String) : Option ConfigRelease :=
  s.releases.find? fun release => release.blocks agentIds

def agentIds (nodes : List Node) : List String := nodes.map Node.agentId

/-- `_active_config_release_for_nodes`; no nodes, no query. -/
def activeConfigReleaseForNodes (label : Label) (nodes : List Node) :
    Handler (Option ConfigRelease) :=
  if agentIds nodes = [] then return none
  else find label fun s => s.activeRelease? (agentIds nodes)

/-! ## Documents -/

def saveDraft (draft : ConfigDraft) : Handler Unit :=
  update .other fun s =>
    { s with drafts := s.drafts.map fun other => if other.id = draft.id then draft else other }

def insertDraft (draft : ConfigDraft) : Handler Unit :=
  update .other fun s => { s with drafts := s.drafts ++ [draft] }

def expireDraft (draft : ConfigDraft) : Handler Unit := saveDraft { draft with status := .expired }

/-- The audit log is no part of the store. -/
def appendAudit : Handler Unit := update .other id

/-- A draft lives for a day. -/
def draftLifetime : Nat := 24 * 60 * 60

def newDraft (draws : Draws) (site : Site) (nodes : List Node) (diff : Dict) : ConfigDraft :=
  { id := draws.draftId, siteId := site.id, nodeIds := nodes.map Node.id
    sourceRevision := site.configRevision, diff := diff, status := .draft
    expiresAt := draws.draftedAt + draftLifetime }

def categoryFields : List (String × List String) :=
  [("access_rules", ["blacklist", "access_control", "source_blacklist"]),
    ("routing_rules", ["routing_policy"]), ("outbound_service", ["proxy_selection"]),
    ("subscription", ["subscription"])]

def releaseChangeCategories (diff : Dict) : List String :=
  (categoryFields.filter fun category => diff.any fun f => f.1 ∈ category.2).map Prod.fst

def createTask (draws : Draws) (key : String) : Handler (Task × Bool) := do
  match ← find (.task key .find) fun s => s.taskByKey? key with
  | some existing => return (existing, false)
  | none =>
    let task : Task := ⟨draws.taskId, key, .queued⟩
    Prog.tryCatch
      (do
        insert (.task key .insert)
          (fun s => s.tasks.any fun other =>
            other.idempotencyKey == key || other.taskId == task.taskId)
          fun s => { s with tasks := s.tasks ++ [task] }
        return (task, true))
      fun
      | .duplicateKey => do
        match ← find (.task key .findAgain) fun s => s.taskByKey? key with
        | some existing => return (existing, false)
        | none => throw .duplicateKey
      | e => throw e

/-! ## `_create_release_from_draft` -/

/-- The release of an earlier call with the same key, if it got that far. -/
def existingRelease (key : String) : Handler (Option ConfigRelease) := do
  match ← find (.findTask key) fun s => s.taskByKey? key with
  | none => return none
  | some task => find (.findRelease task.taskId) fun s => s.releaseByTask? task.taskId

/-- `requested_node_ids or draft.node_ids or [_model_id(node) for node in nodes]` -/
def selectedDocumentIds (requestedNodeIds : List String) (draft : ConfigDraft)
    (nodes : List Node) : List String :=
  if requestedNodeIds ≠ [] then requestedNodeIds
  else if draft.nodeIds ≠ [] then draft.nodeIds
  else nodes.map Node.id

def selectedNodes (documentIds : List String) (nodes : List Node) : List Node :=
  nodes.filter fun node => node.id ∈ documentIds

def newRelease (draws : Draws) (draft : ConfigDraft) (nodes : List Node)
    (previousReleaseId : Option String) (taskId : String) : ConfigRelease :=
  { releaseId := draws.releaseId, siteId := draft.siteId, nodeIds := agentIds nodes
    changeCategories := releaseChangeCategories draft.diff
    previousReleaseId := previousReleaseId, taskId := taskId, status := .applying, error := ""
    rollbackReason := "" }

/-- A `ValueError` of the bundle becomes a conflict. -/
def conflictOfValueError : Failure → Failure
  | .valueError message => .conflict message
  | e => e

/-- From the desired bundles on: the task, the release and the end of the draft. -/
def publishDraft (settings : Settings) (draws : Draws) (draft : ConfigDraft) (site : Site)
    (selected : List Node) (key : String) : Handler (ConfigRelease × Bool) := do
  let created ← Prog.tryCatch
    (createDesiredRelease settings draws site selected (dictGet draft.diff "proxy_selection")
      (dictGet draft.diff "routing_policy"))
    fun e => throw (conflictOfValueError e)
  let task ← createTask draws key
  let release := newRelease draws draft selected
    (created.2.head?.bind DesiredRelease.previousReleaseId) task.1.taskId
  insert (.insertRelease release)
    (fun s => s.releases.any fun other => other.releaseId == release.releaseId)
    fun s => { s with releases := s.releases ++ [release] }
  saveDraft { draft with status := .released }
  appendAudit
  return (release, false)

def createReleaseFromDraft (settings : Settings) (draws : Draws) (draft : ConfigDraft)
    (site : Site) (requestedNodeIds : List String) (expectedCurrentVersion : Option Int)
    (key : String) : Handler (ConfigRelease × Bool) := do
  match ← existingRelease key with
  | some release => return (release, true)
  | none =>
    reject (draft.expiresAt ≤ draws.checkedAt ∨ draft.status = .expired ∨
      draft.status = .released) (.conflict "draft_expired_or_used")
    reject (site.id ≠ draft.siteId) (.conflict "site_mismatch")
    let nodes ← find .other fun s => s.siteNodes draft.siteId
    let documentIds := selectedDocumentIds requestedNodeIds draft nodes
    let selected := selectedNodes documentIds nodes
    reject (selected.length ≠ documentIds.length ∨ selected = [])
      (.conflict "invalid_release_nodes")
    let active ← activeConfigReleaseForNodes (.activeRelease (agentIds selected)) selected
    reject (active.isSome) (.conflict "release_in_progress")
    let current ← find .other fun s => s.latestRelease draft.siteId ""
    let currentVersion := (current.map DesiredRelease.desiredVersion).getD 0
    reject (expectedCurrentVersion.any fun expected => expected ≠ (currentVersion : Int))
      (.http 409 (.obj [("code", .str "version_conflict"),
        ("current_version", number currentVersion)]))
    publishDraft settings draws draft site selected key

/-! ## Operator releases -/

/-- `a or b or c` on optional texts. -/
def firstText (texts : List (Option String)) (default : String) : String :=
  ((texts.filterMap id).find? fun text => text ≠ "").getD default

structure ReleaseCreate where
  draftId : String
  siteId : Option String
  nodeIds : List String
  expectedCurrentVersion : Option Int
  idempotencyKey : Option String

def createRelease (settings : Settings) (draws : Draws) (payload : ReleaseCreate)
    (idempotencyKeyHeader : Option String) : Handler ConfigRelease := do
  match ← find .other fun s => s.draft? payload.draftId with
  | none => throw (.http 404 (.str "draft_not_found"))
  | some draft =>
    let nodeIds := if payload.nodeIds ≠ [] then payload.nodeIds else draft.nodeIds
    let selectedKey := ",".intercalate (nodeIds.insertionSort fun a b => codePointLe a b = true)
    let key := firstText [payload.idempotencyKey, idempotencyKeyHeader]
      ("config.publish:" ++ draft.id ++ ":" ++ selectedKey ++ ":" ++ toString draft.sourceRevision)
    match ← find .other fun s => s.site? (firstText [payload.siteId] draft.siteId) with
    | none => throw (.conflict "site_mismatch")
    | some site =>
      let created ← createReleaseFromDraft settings draws draft site payload.nodeIds
        payload.expectedCurrentVersion key
      return created.1

/-- `int(text)` of ASCII digits, with white space around them, a sign, and underscores between
them. -/
def parseInt (text : String) : Option Int :=
  let digits := fun cs : List Char =>
    let parts := cs.splitOn '_'
    if parts.all fun part => !part.isEmpty && part.all Char.isDigit then
      some (Nat.ofDigitChars 10 parts.flatten 0 : Int)
    else none
  match (strip text).toList with
  | '-' :: cs => (digits cs).map fun n => -n
  | '+' :: cs => digits cs
  | cs => digits cs

/-- `version >= (0, 8, 0)` -/
def supportsRouting (monitorVersion : String) : Bool :=
  match (monitorVersion.splitOn ".").map parseInt with
  | [some major, some minor, some patch] =>
    0 < major || (major == 0 && (8 < minor || (minor == 8 && 0 ≤ patch)))
  | _ => false

def publishSiteRouting (settings : Settings) (draws : Draws) (siteId : String)
    (expectedRevision : Nat) : Handler ConfigRelease := do
  match ← find .other fun s => s.site? siteId with
  | none => throw (.http 404 (.str "site_not_found"))
  | some site =>
    match site.routingPolicy with
    | none => throw (.conflict "routing_revision_conflict")
    | some policy =>
      reject (site.routingRevision ≠ expectedRevision) (.conflict "routing_revision_conflict")
      let nodes ← find .other fun s => s.siteNodes siteId
      reject (nodes = []) (.conflict "invalid_release_nodes")
      reject (¬ nodes.all fun node => supportsRouting node.monitorVersion)
        (.conflict "routing_monitor_upgrade_required")
      let active ← activeConfigReleaseForNodes .other nodes
      reject (active.isSome) (.conflict "release_in_progress")
      let draft := newDraft draws site nodes
        [("routing_policy", policy), ("routing_revision", number site.routingRevision)]
      insertDraft draft
      let created ← createReleaseFromDraft settings draws draft site draft.nodeIds none
        ("routing:" ++ siteId ++ ":" ++ toString site.routingRevision ++ ":" ++ draws.token)
      return created.1

/-! ## Blacklist changes -/

/-- `_find_node_reference` -/
def findNodeReference (nodeId : String) : Handler (Option Node) := do
  match ← find .other fun s => s.nodes.find? fun node => node.id == nodeId with
  | some node => return some node
  | none => find .other fun s => s.nodes.find? fun node => node.agentId == nodeId

/-- The loop of `_blacklist_nodes`. -/
def collectBlacklistNodes : List String → List String → Handler (List Node)
  | _, [] => return []
  | seen, raw :: rest => do
    let nodeId := strip raw
    if nodeId = "" ∨ nodeId ∈ seen then collectBlacklistNodes seen rest
    else
      match ← findNodeReference nodeId with
      | none => throw (.http 404 (.str "node_not_found"))
      | some node =>
        let nodes ← collectBlacklistNodes (node.agentId :: seen) rest
        return node :: nodes

def blacklistNodes (nodeIds : List String) : Handler (List Node) := do
  let nodes ← collectBlacklistNodes [] nodeIds
  reject (nodes = []) (.http 422 (.str "blacklist_node_required"))
  return nodes

structure SourceBlacklistReleasePlan where
  site : Site
  nodes : List Node

/-- The nodes of each site, in the order of the first node. -/
def groupBySite (nodes : List Node) : List (String × List Node) :=
  (distinctBy id [] (nodes.map Node.siteId)).map fun siteId =>
    (siteId, nodes.filter fun node => node.siteId == siteId)

def planSites : List (String × List Node) → Handler (List SourceBlacklistReleasePlan)
  | [] => return []
  | (siteId, nodes) :: rest => do
    match ← find .other fun s => s.site? siteId with
    | none => throw (.http 404 (.str "site_not_found"))
    | some site =>
      match ← activeConfigReleaseForNodes .other nodes with
      | some active =>
        throw (.http 409 (.obj [("code", .str "source_blacklist_release_in_progress"),
          ("site_id", .str siteId), ("release_id", .str active.releaseId)]))
      | none =>
        let plans ← planSites rest
        return ⟨site, nodes⟩ :: plans

def sourceBlacklistReleasePlans (nodeIds : List String) :
    Handler (List SourceBlacklistReleasePlan) := do
  let nodes ← blacklistNodes nodeIds
  planSites (groupBySite nodes)

/-- `_blacklist_validation_for_nodes`; what it returns only decorates a draft. -/
def blacklistValidationForNodes : List Node → Handler Unit
  | [] => return ()
  | node :: rest => do
    let _ ← find .other fun s => effectiveBlacklist node.agentId s.blacklist
    blacklistValidationForNodes rest

/-- The change of one rule as the drafts record it. -/
def ruleChange (operation : String) (rule : SourceBlacklist) : Json :=
  .obj [("operation", .str operation), ("rule_id", .str rule.id), ("node_id", .str rule.nodeId),
    ("direction", .str rule.direction), ("kind", .str rule.kind), ("pattern", .str rule.pattern),
    ("enabled", .bool rule.enabled)]

/-- A draft that was not needed is kept out of the queue. -/
def retireIfReused (reused : Bool) (draft : ConfigDraft) : Handler Unit :=
  if reused then expireDraft draft else return ()

/-- One site of `_distribute_source_blacklist_change`. A site without nodes only advances its
revision. -/
def distributeToSite (settings : Settings) (draws : Draws) (operation : String)
    (rule : SourceBlacklist) (plan : SourceBlacklistReleasePlan) :
    Handler (Option ConfigRelease) := do
  let site := plan.site
  if plan.nodes = [] then
    update .other fun s => { s with
      sites := s.sites.map fun other =>
        if other.id = site.id then { site with configRevision := site.configRevision + 1 }
        else other }
    return none
  else
    blacklistValidationForNodes plan.nodes
    let draft := newDraft draws site plan.nodes [("blacklist", ruleChange operation rule)]
    insertDraft draft
    let created ← Prog.tryCatch
      (createReleaseFromDraft settings draws draft site draft.nodeIds none
        ("source-blacklist:" ++ operation ++ ":" ++ rule.id ++ ":" ++ site.id ++ ":" ++
          draws.token))
      fun e => do
        expireDraft draft
        throw e
    retireIfReused created.2 draft
    return some created.1

def distributeSourceBlacklistChange (settings : Settings) (draws : String → Draws)
    (operation : String) (rule : SourceBlacklist) :
    List SourceBlacklistReleasePlan → Handler (List ConfigRelease)
  | [] => return []
  | plan :: rest => do
    let release ← distributeToSite settings (draws plan.site.id) operation rule plan
    let releases ← distributeSourceBlacklistChange settings draws operation rule rest
    return release.toList ++ releases

/-- A change of an enabled rule: the plans, the write, and the distribution. -/
def changeSourceBlacklist (settings : Settings) (draws : String → Draws) (operation : String)
    (rule : SourceBlacklist) (nodeIds : List String)
    (write : List SourceBlacklist → List SourceBlacklist) : Handler (List ConfigRelease) := do
  let plans ← sourceBlacklistReleasePlans nodeIds
  update .other fun s => { s with blacklist := write s.blacklist }
  distributeSourceBlacklistChange settings draws operation rule plans

/-! ## Subscription versions -/

/-- `binding.save()` -/
def saveBinding (binding : SiteSubscription) : Handler Unit :=
  update .other fun s =>
    if s.bindings.any fun other => other.siteId == binding.siteId then
      { s with bindings := s.bindings.map fun other =>
          if other.siteId = binding.siteId then binding else other }
    else { s with bindings := s.bindings ++ [binding] }

def insertBinding (binding : SiteSubscription) : Handler Unit :=
  insert .other (fun s => s.bindings.any fun other => other.siteId == binding.siteId)
    fun s => { s with bindings := s.bindings ++ [binding] }

def deleteBinding (binding : SiteSubscription) : Handler Unit :=
  update .other fun s =>
    { s with bindings := s.bindings.filter fun other => other.siteId ≠ binding.siteId }

/-- The key of the task of one site. A blank key is no key and is replaced by a token. -/
def subscriptionTaskKey (settings : Settings) (draws : Draws) (operation : String)
    (version : SubscriptionVersion) (siteId : String) (idempotencyKey : String) : String :=
  let suffix :=
    if strip idempotencyKey = "" then draws.token
    else hexdigest (settings.hashes.sha256 (strip idempotencyKey).toUTF8)
  "subscription." ++ operation ++ ":" ++ version.id ++ ":" ++ siteId ++ ":" ++ suffix

/-- What the first loop of `_publish_subscription_version` finds out about a site. -/
inductive SitePlan where
  | existing (release : ConfigRelease)
  | publish (site : Site) (nodes : List Node) (taskKey : String)

/-- Without a key of the request there is no earlier task to look for. -/
def earlierTask (idempotencyKey taskKey : String) : Handler (Option Task) :=
  if strip idempotencyKey = "" then return none
  else find .other fun s => s.taskByKey? taskKey

/-- The checks of one site: an earlier release with the same key, or no release under way. -/
def planPublication (settings : Settings) (draws : Draws) (operation : String)
    (version : SubscriptionVersion) (idempotencyKey : String) (site : Site) :
    Handler SitePlan := do
  let taskKey := subscriptionTaskKey settings draws operation version site.id idempotencyKey
  match ← earlierTask idempotencyKey taskKey with
  | some task =>
    match ← find .other fun s => s.releaseByTask? task.taskId with
    | none => throw (.conflict "subscription_publish_idempotency_incomplete")
    | some release => return .existing release
  | none =>
    let nodes ← find .other fun s => s.siteNodes site.id
    let active ← activeConfigReleaseForNodes .other nodes
    reject (active.isSome) (.conflict "release_in_progress")
    return .publish site nodes taskKey

def planPublications (settings : Settings) (draws : String → Draws) (operation : String)
    (version : SubscriptionVersion) (idempotencyKey : String) :
    List Site → Handler (List SitePlan)
  | [] => return []
  | site :: rest => do
    let plan ← planPublication settings (draws site.id) operation version idempotencyKey site
    let plans ← planPublications settings draws operation version idempotencyKey rest
    return plan :: plans

/-- Selects the version for the site. The answer is whether anything changed. -/
def bindVersion (version : SubscriptionVersion) (siteId : String) :
    Option SiteSubscription → Handler Bool
  | none => do
    insertBinding ⟨siteId, version.id, none, version.sourceId⟩
    return true
  | some binding => do
    if binding.subscriptionVersionId ≠ version.id ∨ binding.sourceId ≠ version.sourceId then
      saveBinding { binding with
        subscriptionVersionId := version.id
        previousSubscriptionVersionId :=
          if binding.subscriptionVersionId ≠ version.id then some binding.subscriptionVersionId
          else binding.previousSubscriptionVersionId
        sourceId := version.sourceId }
      return true
    else return false

/-- Undoes `bindVersion` after a failure: the binding it made is deleted, one it changed gets its
versions back, and its source unless that was empty. -/
def restoreBinding (version : SubscriptionVersion) (siteId : String) (changed : Bool) :
    Option SiteSubscription → Handler Unit
  | none => deleteBinding ⟨siteId, version.id, none, version.sourceId⟩
  | some binding =>
    if changed then
      saveBinding { binding with
        sourceId := if binding.sourceId = "" then version.sourceId else binding.sourceId }
    else return ()

/-- What one site of the second loop leaves to the end of the handler. -/
structure SiteOutcome where
  release : Option ConfigRelease
  created : Bool
  changed : Bool

def optionalText : Option String → Json
  | none => .null
  | some s => .str s

def subscriptionDiff (version : SubscriptionVersion) (previousVersionId : Option String)
    (note : String) : Dict :=
  [("subscription", .obj [("from_version_id", optionalText previousVersionId),
      ("to_version_id", .str version.id), ("content_hash", .str version.contentHash),
      ("format", .str version.format), ("node_count", number version.nodeCount)]),
    ("note", .str note)]

def publishToSite (settings : Settings) (draws : Draws) (version : SubscriptionVersion)
    (note : String) (site : Site) (nodes : List Node) (taskKey : String) :
    Handler SiteOutcome := do
  let binding ← find .other fun s => s.binding? site.id
  let changed ← bindVersion version site.id binding
  if nodes = [] then return ⟨none, false, changed⟩
  else
    blacklistValidationForNodes nodes
    let draft := newDraft draws site nodes
      (subscriptionDiff version (binding.map SiteSubscription.subscriptionVersionId) note)
    insertDraft draft
    let created ← Prog.tryCatch
      (createReleaseFromDraft settings draws draft site draft.nodeIds none taskKey)
      fun e => do
        restoreBinding version site.id changed binding
        throw e
    return ⟨some created.1, true, changed⟩

def publishPlan (settings : Settings) (draws : String → Draws) (version : SubscriptionVersion)
    (note : String) : SitePlan → Handler SiteOutcome
  | .existing release => return ⟨some release, false, false⟩
  | .publish site nodes taskKey =>
    publishToSite settings (draws site.id) version note site nodes taskKey

def publishPlans (settings : Settings) (draws : String → Draws) (version : SubscriptionVersion)
    (note : String) : List SitePlan → Handler (List SiteOutcome)
  | [] => return []
  | plan :: rest => do
    let outcome ← publishPlan settings draws version note plan
    let outcomes ← publishPlans settings draws version note rest
    return outcome :: outcomes

/-- The end of `_publish_subscription_version`, if anything was created or changed. -/
def markPublished (version : SubscriptionVersion) (anything : Bool) : Handler Unit :=
  if anything then do
    update .other fun s => { s with
      versions := s.versions.map fun other =>
        if other.id = version.id then { version with published := true } else other }
    appendAudit
  else return ()

def publishSubscriptionVersion (settings : Settings) (draws : String → Draws)
    (version : SubscriptionVersion) (sites : List Site) (note idempotencyKey operation : String) :
    Handler (List ConfigRelease) := do
  reject (¬ version.parseOk) (.conflict "subscription_version_not_publishable")
  let plans ← planPublications settings draws operation version idempotencyKey sites
  let outcomes ← publishPlans settings draws version note plans
  markPublished version (outcomes.any fun outcome => outcome.created || outcome.changed)
  return outcomes.filterMap SiteOutcome.release

/-- The version is the one the site had before. -/
def rollbackSiteSubscription (settings : Settings) (draws : String → Draws) (siteId : String)
    (idempotencyKey : String) : Handler (List ConfigRelease) := do
  let site? ← find .other fun s => s.site? siteId
  let binding? ← find .other fun s => s.binding? siteId
  match site?, binding?.bind SiteSubscription.previousSubscriptionVersionId with
  | some site, some previousVersionId =>
    reject (previousVersionId = "") (.conflict "subscription_rollback_not_available")
    match ← find .other fun s => s.version? previousVersionId with
    | none => throw (.conflict "subscription_rollback_not_available")
    | some version =>
      reject (¬ version.parseOk) (.conflict "subscription_rollback_not_available")
      publishSubscriptionVersion settings draws version [site] "Subscription rollback"
        idempotencyKey "rollback"
  | _, _ => throw (.conflict "subscription_rollback_not_available")

end Grouproxy.Backend
