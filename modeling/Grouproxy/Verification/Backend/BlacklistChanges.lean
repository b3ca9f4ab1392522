import Mathlib.Data.List.Pairwise
import Grouproxy.Model.BlacklistHandlers
import Grouproxy.Verification.Backend.AllOrNothing
import Grouproxy.Verification.Backend.Deliveries

/-! # Blacklist requests that fail

A request reads what it needs for the releases before it writes its rules, but some reasons to fail
are only found after: a node named twice, a bundle that cannot be built, and for disabled rules a
node that does not exist. The rules stay written then.
-/

namespace Grouproxy.Backend

open Text Ipaddress Encoding Crypto Cidr Programs Grouproxy.Bundle

variable {settings : Settings} {draws : Draws} {operation key : String}

/-! ## What is read before the write -/

/-- The nodes of a request, each as often as it is found. -/
def collectedNodes (s : Store) : List String → List String → Except Failure (List Node)
  | _, [] => .ok []
  | seen, raw :: rest =>
    if strip raw = "" ∨ strip raw ∈ seen then collectedNodes s seen rest
    else
      match s.nodeReference? (strip raw) with
      | none => .error (.http 404 (.str "node_not_found"))
      | some node => (collectedNodes s (node.agentId :: seen) rest).map (node :: ·)

def requestNodes (s : Store) (nodeIds : List String) : Except Failure (List Node) :=
  match collectedNodes s [] nodeIds with
  | .error e => .error e
  | .ok nodes =>
    if nodes = [] then .error (.http 422 (.str "blacklist_node_required")) else .ok nodes

def sitePlansOf (s : Store) :
    List (String × List Node) → Except Failure (List SourceBlacklistReleasePlan)
  | [] => .ok []
  | (siteId, nodes) :: rest =>
    match s.site? siteId with
    | none => .error (.http 404 (.str "site_not_found"))
    | some site =>
      match s.activeRelease? (agentIds nodes) with
      | some active =>
        .error (.http 409 (.obj [("code", .str "source_blacklist_release_in_progress"),
          ("site_id", .str siteId), ("release_id", .str active.releaseId)]))
      | none => (sitePlansOf s rest).map (⟨site, nodes⟩ :: ·)

/-- The plans of a request for enabled rules. -/
def requestPlans (s : Store) (nodeIds : List String) :
    Except Failure (List SourceBlacklistReleasePlan) :=
  match requestNodes s nodeIds with
  | .error e => .error e
  | .ok nodes => sitePlansOf s (groupBySite nodes)

theorem collectBlacklistNodes_run (seen nodeIds : List String) (s : Store) :
    (collectBlacklistNodes seen nodeIds).run s = (collectedNodes s seen nodeIds, s) := by
  induction nodeIds generalizing seen with
  | nil => rfl
  | cons raw rest ih =>
      rw [collectBlacklistNodes, collectedNodes]
      split
      · exact ih seen
      · rw [Prog.run_bind_ok (findNodeReference_run (strip raw) s)]
        cases s.nodeReference? (strip raw) with
        | none => rfl
        | some node =>
            dsimp only
            cases hrest : collectedNodes s (node.agentId :: seen) rest with
            | error e =>
                rw [Prog.run_bind_error ((ih _).trans (by rw [hrest]))]
                rfl
            | ok nodes =>
                rw [Prog.run_bind_ok ((ih _).trans (by rw [hrest]))]
                rfl

theorem blacklistNodes_run (nodeIds : List String) (s : Store) :
    (blacklistNodes nodeIds).run s = (requestNodes s nodeIds, s) := by
  rw [blacklistNodes, requestNodes]
  have hcollect := collectBlacklistNodes_run [] nodeIds s
  cases hnodes : collectedNodes s [] nodeIds with
  | error e =>
      rw [hnodes] at hcollect
      exact Prog.run_bind_error hcollect _
  | ok nodes =>
      rw [hnodes] at hcollect
      rw [Prog.run_bind_ok hcollect, Prog.run, reject_bind_runWith]
      dsimp only
      by_cases hnil : nodes = []
      · rw [if_pos hnil, if_pos hnil]
      · rw [if_neg hnil, if_neg hnil]
        rfl

theorem activeConfigReleaseForNodes_run (label : Label) (nodes : List Node) (s : Store) :
    (activeConfigReleaseForNodes label nodes).run s = (.ok (s.activeRelease? (agentIds nodes)), s) := by
  rw [activeConfigReleaseForNodes]
  split
  · rename_i hnil
    rw [hnil, Store.activeRelease?_nil]
    rfl
  · rfl

theorem planSites_run (groups : List (String × List Node)) (s : Store) :
    (planSites groups).run s = (sitePlansOf s groups, s) := by
  induction groups with
  | nil => rfl
  | cons group rest ih =>
      obtain ⟨siteId, nodes⟩ := group
      rw [planSites, find_bind_run, sitePlansOf]
      cases s.site? siteId with
      | none => rfl
      | some site =>
          dsimp only
          rw [Prog.run_bind_ok (activeConfigReleaseForNodes_run _ nodes s)]
          cases s.activeRelease? (agentIds nodes) with
          | some active => rfl
          | none =>
              dsimp only
              cases hrest : sitePlansOf s rest with
              | error e =>
                  rw [Prog.run_bind_error (ih.trans (by rw [hrest]))]
                  rfl
              | ok plans =>
                  rw [Prog.run_bind_ok (ih.trans (by rw [hrest]))]
                  rfl

theorem sourceBlacklistReleasePlans_run (nodeIds : List String) (s : Store) :
    (sourceBlacklistReleasePlans nodeIds).run s = (requestPlans s nodeIds, s) := by
  rw [sourceBlacklistReleasePlans, requestPlans]
  have hnodes := blacklistNodes_run nodeIds s
  cases h : requestNodes s nodeIds with
  | error e =>
      rw [h] at hnodes
      exact Prog.run_bind_error hnodes _
  | ok nodes =>
      rw [h] at hnodes
      rw [Prog.run_bind_ok hnodes]
      exact planSites_run _ s

/-! ## What can be released -/

/-- Every node of a plan is named once, and its bundle can be built. -/
structure PlanReleases (settings : Settings) (s : Store) (siteId : String) (nodes : List Node) :
    Prop where
  nodup : (nodes.map Node.id).Nodup
  builds : ∀ node ∈ nodes, bundleBuilds settings s siteId .null .null node = true

theorem subscriptionOf_error {s : Store} {siteId : String} {e : Failure}
    (h : subscriptionOf settings s siteId = .error e) : ∃ message, e = .valueError message := by
  rw [subscriptionOf] at h
  split at h
  · cases h
  split at h
  · cases h
    exact ⟨_, rfl⟩
  split at h
  · cases h
    exact ⟨_, rfl⟩
  split at h
  · cases h
    exact ⟨_, rfl⟩
  · cases h

theorem addRoutingPolicy_error {libs : Libraries} {hasSubscription : Bool} {policy : Json}
    {bundle : Dict} {e : Failure} (h : addRoutingPolicy libs hasSubscription policy bundle = .error e) :
    ∃ message, e = .valueError message := by
  rw [addRoutingPolicy] at h
  split at h
  · cases h
  split at h
  · cases h
    exact ⟨_, rfl⟩
  split at h
  · cases h
    exact ⟨_, rfl⟩
  · cases h

section Items

variable {site : Site} {desiredVersion : Nat} {node : Node} {nodes : List Node} {s : Store}

/-- A bundle can be built, or a `ValueError` is raised. -/
theorem bundleOf_cases (settings : Settings) (s : Store) (site : Site) (node : Node)
    (desiredVersion : Nat) (draws : Draws) :
    (bundleBuilds settings s site.id .null .null node = true ∧
        ∃ bundle, bundleOf settings s site node desiredVersion draws .null (policyFor .null
          (s.latestRelease site.id node.agentId <|> s.latestRelease site.id "")) = .ok bundle) ∨
      (bundleBuilds settings s site.id .null .null node = false ∧
        ∃ message, bundleOf settings s site node desiredVersion draws .null (policyFor .null
          (s.latestRelease site.id node.agentId <|> s.latestRelease site.id "")) =
            .error (.valueError message)) := by
  generalize hpolicy : policyFor .null
    (s.latestRelease site.id node.agentId <|> s.latestRelease site.id "") = policy
  have hselection : isOk (selectionFor .null node) = true := rfl
  rw [bundleBuilds, hselection, Bool.true_and, hpolicy, bundleOf, unsignedBundle]
  cases hsubscription : subscriptionOf settings s site.id with
  | error e =>
      obtain ⟨message, rfl⟩ := subscriptionOf_error hsubscription
      exact .inr ⟨rfl, message, rfl⟩
  | ok subscription =>
      dsimp only
      generalize addProxySelection settings.libs (tagsOf settings.libs s site.id) .null
        (baseBundle site node desiredVersion draws (effectiveBlacklist node.agentId s.blacklist)
          (effectiveAccessControl node.agentId s.accessControlSets s.networkGroups)
          subscription) = base
      rw [addRoutingPolicy_isOk settings.libs subscription.isSome policy [] base]
      cases hbundle : addRoutingPolicy settings.libs subscription.isSome policy base with
      | error e =>
          obtain ⟨message, rfl⟩ := addRoutingPolicy_error hbundle
          exact .inr ⟨rfl, message, rfl⟩
      | ok bundle => exact .inl ⟨rfl, _, rfl⟩

/-- The bundles of a release can be built, or a `ValueError` is raised. -/
theorem nodeItems_cases (settings : Settings) (s : Store) (site : Site) (desiredVersion : Nat)
    (draws : Draws) (nodes : List Node) :
    ((∀ node ∈ nodes, bundleBuilds settings s site.id .null .null node = true) ∧
        ∃ items, (nodeItems settings (fun _ => false) draws site desiredVersion
          (s.latestRelease site.id "") .null .null s nodes).1 = .ok items) ∨
      ((∃ node ∈ nodes, bundleBuilds settings s site.id .null .null node = false) ∧
        ∃ message, (nodeItems settings (fun _ => false) draws site desiredVersion
          (s.latestRelease site.id "") .null .null s nodes).1 = .error (.valueError message)) := by
  induction nodes with
  | nil => exact .inl ⟨fun node hnode => absurd hnode List.not_mem_nil, [], rfl⟩
  | cons node rest ih =>
      rw [nodeItems, nodeItem, nodeBundle_runWith fun _ _ => rfl]
      have hselection : selectionFor .null node = .ok .null := rfl
      rw [hselection]
      dsimp only
      rcases bundleOf_cases settings s site node desiredVersion draws with
        ⟨hbuilds, bundle, hbundle⟩ | ⟨hbuilds, message, hbundle⟩
      · rw [hbundle]
        rcases ih with ⟨hall, items, hitems⟩ | ⟨⟨other, hother, hnot⟩, message, hitems⟩
        · left
          refine ⟨List.forall_mem_cons.mpr ⟨hbuilds, hall⟩, ?_⟩
          simp only [Bool.false_eq_true, if_false, hitems]
          exact ⟨_, rfl⟩
        · right
          refine ⟨⟨other, List.mem_cons_of_mem node hother, hnot⟩, message, ?_⟩
          simp only [Bool.false_eq_true, if_false, hitems]
          rfl
      · right
        rw [hbundle]
        exact ⟨⟨node, List.mem_cons_self, hbuilds⟩, message, rfl⟩

end Items

/-! ## The draft of a site -/

/-- What a site is released in: its nodes are stored, none of them has a release under way, and the
identifiers drawn are fresh. -/
structure SiteReady (t : Store) (draws : Draws) (key : String) (site : Site) (nodes : List Node) :
    Prop where
  nodes_ne : nodes ≠ []
  members : ∀ node ∈ nodes, node ∈ t.siteNodes site.id
  ids : (t.nodes.map Node.id).Nodup
  agents : t.DistinctAgents
  active : t.activeRelease? (agentIds nodes) = none
  fresh : FreshRelease t draws key
  inTime : ¬Expired draws

section Draft

variable {t : Store} {site : Site} {nodes : List Node} (diff : Dict)

theorem selectedDocumentIds_nodes (hnodes : nodes ≠ []) (others : List Node) :
    selectedDocumentIds (newDraft draws site nodes diff).nodeIds (newDraft draws site nodes diff)
      others = nodes.map Node.id := by
  have hids : (newDraft draws site nodes diff).nodeIds ≠ [] := by
    intro hnil
    exact hnodes (List.map_eq_nil_iff.mp hnil)
  rw [selectedDocumentIds, if_pos hids]
  rfl

theorem mem_draftNodes (h : SiteReady t draws key site nodes) {node : Node} :
    node ∈ draftNodes (newDraft draws site nodes diff) (newDraft draws site nodes diff).nodeIds t ↔
      node ∈ nodes := by
  rw [draftNodes, selectedDocumentIds_nodes diff h.nodes_ne, selectedNodes, List.mem_filter, decide_eq_true_eq]
  constructor
  · rintro ⟨hnode, hid⟩
    obtain ⟨other, hother, hsame⟩ := List.mem_map.mp hid
    have hstored := (List.mem_filter.mp (h.members other hother)).1
    have heq := List.inj_on_of_nodup_map h.ids hstored (List.mem_filter.mp hnode).1 hsame
    exact heq ▸ hother
  · intro hnode
    exact ⟨h.members node hnode, List.mem_map_of_mem hnode⟩

theorem nodup_draftNodes (h : SiteReady t draws key site nodes) :
    (draftNodes (newDraft draws site nodes diff) (newDraft draws site nodes diff).nodeIds t).Nodup := by
  have hsub : (draftNodes (newDraft draws site nodes diff) (newDraft draws site nodes diff).nodeIds
      t).Sublist t.nodes := List.filter_sublist.trans List.filter_sublist
  exact hsub.nodup h.ids.of_map

/-- The draft selects as many nodes as it names exactly if it names none twice. -/
theorem length_draftNodes_iff (h : SiteReady t draws key site nodes) :
    (draftNodes (newDraft draws site nodes diff) (newDraft draws site nodes diff).nodeIds t).length =
      nodes.length ↔ nodes.Nodup := by
  constructor
  · intro hlength
    have hperm := List.Subperm.perm_of_length_le (List.subperm_of_subset (nodup_draftNodes diff h)
      fun node hnode => (mem_draftNodes diff h).mp hnode) hlength.ge
    exact hperm.nodup_iff.mp (nodup_draftNodes diff h)
  · intro hnodup
    apply List.Perm.length_eq
    apply (List.perm_ext_iff_of_nodup (nodup_draftNodes diff h) hnodup).mpr
    exact fun node => mem_draftNodes diff h

/-- Nodes are the same if their documents are. -/
theorem nodup_iff_ids (h : SiteReady t draws key site nodes) :
    (nodes.map Node.id).Nodup ↔ nodes.Nodup := by
  constructor
  · exact List.Nodup.of_map _
  · intro hnodup
    apply List.Nodup.map_on _ hnodup
    intro node hnode other hother hsame
    exact List.inj_on_of_nodup_map h.ids (List.mem_filter.mp (h.members node hnode)).1
      (List.mem_filter.mp (h.members other hother)).1 hsame

/-- Which release is under way for some agents does not depend on their order. -/
theorem activeRelease?_congr (t : Store) {agents agents' : List String}
    (h : ∀ agentId, agentId ∈ agents ↔ agentId ∈ agents') :
    t.activeRelease? agents = t.activeRelease? agents' := by
  have hblocks : (fun release : ConfigRelease => release.blocks agents) =
      fun release => release.blocks agents' := by
    funext release
    simp only [ConfigRelease.blocks, h]
  rw [Store.activeRelease?, hblocks, Store.activeRelease?]

/-- The draft of a site is refused exactly if it names a node twice. -/
theorem draftRefusal_nodes (h : SiteReady t draws key site nodes) :
    draftRefusal draws (newDraft draws site nodes diff) site
        (newDraft draws site nodes diff).nodeIds none t =
      if (nodes.map Node.id).Nodup then none else some (.conflict "invalid_release_nodes") := by
  have hdraft : ¬ ((newDraft draws site nodes diff).expiresAt ≤ draws.checkedAt ∨
      (newDraft draws site nodes diff).status = .expired ∨
      (newDraft draws site nodes diff).status = .released) := by
    rintro (hlate | hstatus | hstatus)
    · exact h.inTime hlate
    · cases hstatus
    · cases hstatus
  have hne : draftNodes (newDraft draws site nodes diff) (newDraft draws site nodes diff).nodeIds t ≠
      [] := by
    obtain ⟨node, hnode⟩ := List.exists_mem_of_ne_nil nodes h.nodes_ne
    exact List.ne_nil_of_mem ((mem_draftNodes diff h).mpr hnode)
  have hactive : t.activeRelease? (agentIds (draftNodes (newDraft draws site nodes diff)
      (newDraft draws site nodes diff).nodeIds t)) = none := by
    rw [← h.active]
    apply activeRelease?_congr
    intro agentId
    simp only [agentIds, List.mem_map, mem_draftNodes diff h]
  rw [draftRefusal, if_neg hdraft, if_neg (by simp [newDraft]), selectedDocumentIds_nodes diff h.nodes_ne,
    List.length_map]
  by_cases hnodup : (nodes.map Node.id).Nodup
  · have hlength := (length_draftNodes_iff diff h).mpr ((nodup_iff_ids h).mp hnodup)
    rw [if_neg (not_or.mpr ⟨not_not.mpr hlength, hne⟩), if_neg (by simp [hactive]),
      if_neg (by simp), if_pos hnodup]
  · have hlength : _ ≠ nodes.length := fun hlength =>
      hnodup ((nodup_iff_ids h).mpr ((length_draftNodes_iff diff h).mp hlength))
    rw [if_pos (.inl hlength), if_neg hnodup]

end Draft

/-! ## One site -/

section Site

variable {t : Store} {site : Site} {nodes : List Node} {rule : SourceBlacklist}

/-- The draft of a change at a site. -/
def ruleDraft (draws : Draws) (operation : String) (rule : SourceBlacklist) (site : Site)
    (nodes : List Node) : ConfigDraft :=
  newDraft draws site nodes [("blacklist", ruleChange operation rule)]

/-- The key of the release of a change at a site. -/
def ruleKey (draws : Draws) (operation : String) (rule : SourceBlacklist) (site : Site) : String :=
  "source-blacklist:" ++ operation ++ ":" ++ rule.id ++ ":" ++ site.id ++ ":" ++ draws.token

/-- The nodes of the draft, in the order in which they are stored. -/
def ruleTargets (draws : Draws) (operation : String) (rule : SourceBlacklist) (site : Site)
    (nodes : List Node) (t : Store) : List Node :=
  draftNodes (ruleDraft draws operation rule site nodes)
    (ruleDraft draws operation rule site nodes).nodeIds t

/-- The release of a change at a site: it is refused, it fails at a bundle, or it goes through. -/
theorem createReleaseFromDraft_rule (settings : Settings) (operation : String)
    (rule : SourceBlacklist) (h : SiteReady t draws key site nodes) :
    (createReleaseFromDraft settings draws (ruleDraft draws operation rule site nodes) site
      (ruleDraft draws operation rule site nodes).nodeIds none key).runWith (fun _ => false) t =
    if (nodes.map Node.id).Nodup then
      match releaseItems settings (fun _ => false) draws site .null .null t
          (ruleTargets draws operation rule site nodes t) with
      | (.error e, added) => (.error (conflictOfValueError e),
          (t.reviseSite site.id (releaseVersion t site)).addDesired added)
      | (.ok items, added) =>
        (finishDraft draws (ruleDraft draws operation rule site nodes)
          (ruleTargets draws operation rule site nodes t) key items).runWith (fun _ => false)
            ((t.reviseSite site.id (releaseVersion t site)).addDesired added)
    else (.error (.conflict "invalid_release_nodes"), t) := by
  have hagents : (agentIds (ruleTargets draws operation rule site nodes t)).Nodup :=
    h.agents.sublist (List.Sublist.map _ (List.filter_sublist.trans List.filter_sublist))
  rw [createReleaseFromDraft_runWith failsInside_none, Store.earlierRelease_eq_none h.fresh.key,
    ruleDraft, draftRefusal_nodes _ h]
  by_cases hnodup : (nodes.map Node.id).Nodup
  · rw [if_pos hnodup, if_pos hnodup]
    dsimp only
    rw [← ruleDraft, ← ruleTargets, publishDraft_eq, Prog.runWith_bind, Prog.runWith_tryCatch,
      createDesiredRelease_runWith hagents rfl rfl]
    have hselection : dictGet (ruleDraft draws operation rule site nodes).diff "proxy_selection" =
        .null := rfl
    have hpolicy : dictGet (ruleDraft draws operation rule site nodes).diff "routing_policy" =
        .null := rfl
    rw [hselection, hpolicy]
    cases releaseItems settings (fun _ => false) draws site .null .null t
        (ruleTargets draws operation rule site nodes t) with
    | mk result added =>
        cases result with
        | error e => rfl
        | ok items => rfl
  · rw [if_neg hnodup, if_neg hnodup]

/-- The bundles for the nodes of the draft can be built exactly if those of the plan can. -/
theorem releaseItems_cases (settings : Settings) (operation : String) (rule : SourceBlacklist)
    (h : SiteReady t draws key site nodes) :
    ((∀ node ∈ nodes, bundleBuilds settings t site.id .null .null node = true) ∧
        ∃ items, (releaseItems settings (fun _ => false) draws site .null .null t
          (ruleTargets draws operation rule site nodes t)).1 = .ok items) ∨
      (¬(∀ node ∈ nodes, bundleBuilds settings t site.id .null .null node = true) ∧
        ∃ message, (releaseItems settings (fun _ => false) draws site .null .null t
          (ruleTargets draws operation rule site nodes t)).1 = .error (.valueError message)) := by
  rcases nodeItems_cases settings t (revisedSite t site (releaseVersion t site))
    (releaseVersion t site) draws (ruleTargets draws operation rule site nodes t) with
    ⟨hall, hitems⟩ | ⟨⟨node, hnode, hnot⟩, hitems⟩
  · exact .inl ⟨fun node hnode => hall node ((mem_draftNodes _ h).mpr hnode), hitems⟩
  · right
    refine ⟨?_, hitems⟩
    intro hall
    rw [revisedSite] at hnot
    exact absurd (hall node ((mem_draftNodes _ h).mp hnode)) (by simp [hnot])

/-- The release of the draft of a change. -/
def ruleRelease (settings : Settings) (draws : Draws) (operation : String) (rule : SourceBlacklist)
    (site : Site) (nodes : List Node) : Handler (ConfigRelease × Bool) :=
  let draft := ruleDraft draws operation rule site nodes
  createReleaseFromDraft settings draws draft site draft.nodeIds none
    (ruleKey draws operation rule site)

theorem distributeToSite_eq (hnodes : nodes ≠ []) :
    distributeToSite settings draws operation rule ⟨site, nodes⟩ =
      blacklistValidationForNodes nodes >>= fun _ =>
        insertDraft (ruleDraft draws operation rule site nodes) >>= fun _ =>
          Prog.tryCatch (ruleRelease settings draws operation rule site nodes) (fun e =>
            expireDraft (ruleDraft draws operation rule site nodes) >>= fun _ => throw e) >>=
              fun created => retireIfReused created.2 (ruleDraft draws operation rule site nodes) >>=
                fun _ => pure (some created.1) := by
  rw [distributeToSite, if_neg hnodes]
  rfl

theorem distributeToSite_ok {release : ConfigRelease} {u : Store} (hnodes : nodes ≠ [])
    (h : (ruleRelease settings draws operation rule site nodes).run
      (t.withDraft (ruleDraft draws operation rule site nodes)) = (.ok (release, false), u)) :
    (distributeToSite settings draws operation rule ⟨site, nodes⟩).run t = (.ok (some release), u) := by
  rw [distributeToSite_eq hnodes,
    Prog.run_bind_ok (blacklistValidationForNodes_runWith failsInside_none nodes t)]
  have hdraft : (insertDraft (ruleDraft draws operation rule site nodes)).run t =
      (.ok (), t.withDraft (ruleDraft draws operation rule site nodes)) := rfl
  rw [Prog.run_bind_ok hdraft, Prog.run_bind_ok (Prog.run_tryCatch_ok h _)]
  rfl

theorem distributeToSite_error {e : Failure} {u : Store} (hnodes : nodes ≠ [])
    (h : (ruleRelease settings draws operation rule site nodes).run
      (t.withDraft (ruleDraft draws operation rule site nodes)) = (.error e, u)) :
    ∃ u', (distributeToSite settings draws operation rule ⟨site, nodes⟩).run t = (.error e, u') ∧
      u'.blacklist = u.blacklist := by
  rw [distributeToSite_eq hnodes,
    Prog.run_bind_ok (blacklistValidationForNodes_runWith failsInside_none nodes t)]
  have hdraft : (insertDraft (ruleDraft draws operation rule site nodes)).run t =
      (.ok (), t.withDraft (ruleDraft draws operation rule site nodes)) := rfl
  have hcaught : (Prog.tryCatch (ruleRelease settings draws operation rule site nodes) (fun e =>
      expireDraft (ruleDraft draws operation rule site nodes) >>= fun _ => throw e)).run
        (t.withDraft (ruleDraft draws operation rule site nodes)) =
      (.error e, u.saveDraft { ruleDraft draws operation rule site nodes with status := .expired }) := by
    rw [Prog.run_tryCatch_error h]
    rfl
  rw [Prog.run_bind_ok hdraft, Prog.run_bind_error hcaught]
  exact ⟨_, rfl, rfl⟩

theorem SiteReady.withDraft (h : SiteReady t draws key site nodes) (draft : ConfigDraft) :
    SiteReady (t.withDraft draft) draws key site nodes :=
  ⟨h.nodes_ne, h.members, h.ids, h.agents, h.active, ⟨h.fresh.key, h.fresh.task, h.fresh.release⟩,
    h.inTime⟩

theorem distributeToSite_succeeds
    (h : SiteReady t draws (ruleKey draws operation rule site) site nodes)
    (hreleases : PlanReleases settings t site.id nodes) :
    ∃ release t' added, (distributeToSite settings draws operation rule ⟨site, nodes⟩).run t =
        (.ok (some release), t') ∧
      SiteStep draws site.id (ruleKey draws operation rule site)
        (ruleTargets draws operation rule site nodes t) added (some release) t t' ∧
      Delivers t nodes added := by
  have hdraft := h.withDraft (ruleDraft draws operation rule site nodes)
  have hrun : (ruleRelease settings draws operation rule site nodes).run _ = _ :=
    createReleaseFromDraft_rule settings operation rule hdraft
  have hbuilds : ∀ node ∈ nodes, bundleBuilds settings
      (t.withDraft (ruleDraft draws operation rule site nodes)) site.id .null .null node = true :=
    hreleases.builds
  rw [if_pos hreleases.nodup] at hrun
  have hadded : ∀ d ∈ (releaseItems settings (fun _ => false) draws site .null .null
      (t.withDraft (ruleDraft draws operation rule site nodes))
      (ruleTargets draws operation rule site nodes
        (t.withDraft (ruleDraft draws operation rule site nodes)))).2,
      d.siteId = site.id ∧ d.releaseId = draws.releaseId ∧
        d.nodeId ∈ agentIds (ruleTargets draws operation rule site nodes t) :=
    fun d hd => mem_releaseItems hd
  rcases releaseItems_cases settings operation rule hdraft with ⟨-, items, hitems⟩ | ⟨hnot, -⟩
  · have hdelivers := (releaseItems_delivers hitems).mem_iff fun node => mem_draftNodes _ hdraft
    generalize releaseItems settings (fun _ => false) draws site .null .null _ _ = out
      at hrun hitems hadded hdelivers
    obtain ⟨result, added⟩ := out
    cases hitems
    have hfresh : FreshRelease (((t.withDraft (ruleDraft draws operation rule site nodes)).reviseSite
        site.id (releaseVersion (t.withDraft (ruleDraft draws operation rule site nodes))
          site)).addDesired added) draws (ruleKey draws operation rule site) :=
      ⟨hdraft.fresh.key, hdraft.fresh.task, hdraft.fresh.release⟩
    dsimp only at hrun
    rw [finishDraft_runWith failsInside_none hfresh] at hrun
    simp only [Bool.or_false, Bool.false_eq_true, if_false] at hrun
    refine ⟨_, _, added, distributeToSite_ok h.nodes_ne hrun, ?_, hdelivers.congr ⟨rfl, rfl, rfl⟩⟩
    exact {
      nodes := rfl
      versions := rfl
      blacklist := rfl
      accessControlSets := rfl
      networkGroups := rfl
      binding := fun _ _ => rfl
      site := fun other hne => site?_reviseSite_of_ne t _ hne
      desired := rfl
      added := hadded
      tasks := .inr rfl
      releases := rfl
      release := fun r hr => by
        cases hr
        exact ⟨rfl, rfl, rfl⟩ }
  · exact absurd hbuilds hnot

theorem distributeToSite_fails
    (h : SiteReady t draws (ruleKey draws operation rule site) site nodes)
    (hreleases : ¬PlanReleases settings t site.id nodes) :
    ∃ code t', (distributeToSite settings draws operation rule ⟨site, nodes⟩).run t =
        (.error (.conflict code), t') ∧ t'.blacklist = t.blacklist := by
  have hdraft := h.withDraft (ruleDraft draws operation rule site nodes)
  have hrun : (ruleRelease settings draws operation rule site nodes).run _ = _ :=
    createReleaseFromDraft_rule settings operation rule hdraft
  by_cases hnodup : (nodes.map Node.id).Nodup
  · rw [if_pos hnodup] at hrun
    rcases releaseItems_cases settings operation rule hdraft with ⟨hbuilds, -⟩ | ⟨-, message, hitems⟩
    · exact absurd ⟨hnodup, hbuilds⟩ hreleases
    · generalize releaseItems settings (fun _ => false) draws site .null .null _ _ = out
        at hrun hitems
      obtain ⟨result, added⟩ := out
      cases hitems
      obtain ⟨t', hfails, hsame⟩ := distributeToSite_error h.nodes_ne hrun
      exact ⟨message, t', hfails, hsame⟩
  · rw [if_neg hnodup] at hrun
    obtain ⟨t', hfails, hsame⟩ := distributeToSite_error h.nodes_ne hrun
    exact ⟨"invalid_release_nodes", t', hfails, hsame⟩

end Site

/-! ## All sites -/

section Sites

variable {draws : String → Draws} {rule : SourceBlacklist} {s t t' : Store}
variable {plans : List SourceBlacklistReleasePlan}

/-- The site of a plan is ready for it. -/
def PlanReady (draws : String → Draws) (operation : String) (rule : SourceBlacklist) (t : Store)
    (plan : SourceBlacklistReleasePlan) : Prop :=
  SiteReady t (draws plan.site.id) (ruleKey (draws plan.site.id) operation rule plan.site) plan.site
    plan.nodes

theorem ruleKey_ne {a b : Site} (h : Apart draws a b) :
    ruleKey (draws b.id) operation rule b ≠ ruleKey (draws a.id) operation rule a :=
  (h.token _ _).symm

/-- The release of another site leaves it ready. -/
theorem PlanReady.step {a b : SourceBlacklistReleasePlan} {targets : List Node}
    {added : List DesiredRelease} {release : Option ConfigRelease}
    (h : PlanReady draws operation rule t a) (happart : Apart draws b.site a.site)
    (htargets : ∀ node ∈ targets, node ∈ t.siteNodes b.site.id)
    (hstep : SiteStep (draws b.site.id) b.site.id (ruleKey (draws b.site.id) operation rule b.site)
      targets added release t t') : PlanReady draws operation rule t' a where
  nodes_ne := h.nodes_ne
  members := by
    intro node hnode
    rw [Store.siteNodes, hstep.nodes]
    exact h.members node hnode
  ids := by
    rw [hstep.nodes]
    exact h.ids
  agents := by
    rw [Store.DistinctAgents, hstep.nodes]
    exact h.agents
  active := by
    apply hstep.activeRelease? _ h.active
    intro agentId hother hown
    obtain ⟨node, hnode, rfl⟩ := List.mem_map.mp hother
    obtain ⟨own, howned, hsame⟩ := List.mem_map.mp hown
    exact happart.id (siteId_of_agentIds h.agents (List.mem_map_of_mem (htargets node hnode))
      (hsame ▸ List.mem_map_of_mem (h.members own howned)))
  fresh := h.fresh.step hstep (ruleKey_ne happart).symm happart.taskId happart.releaseId
  inTime := h.inTime

theorem bundleBuilds_congr {siteId : String} (hbinding : t.binding? siteId = s.binding? siteId)
    (hversions : t.versions = s.versions)
    (hlatest : ∀ nodeId, t.latestRelease siteId nodeId = s.latestRelease siteId nodeId)
    (node : Node) :
    bundleBuilds settings t siteId .null .null node =
      bundleBuilds settings s siteId .null .null node := by
  have hsubscription : subscriptionOf settings t siteId = subscriptionOf settings s siteId := by
    rw [subscriptionOf, hbinding, subscriptionOf]
    simp only [Store.version?, hversions]
  rw [bundleBuilds, hsubscription, hlatest, hlatest, bundleBuilds]

theorem planReleases_congr {siteId : String} (hbinding : t.binding? siteId = s.binding? siteId)
    (hversions : t.versions = s.versions)
    (hlatest : ∀ nodeId, t.latestRelease siteId nodeId = s.latestRelease siteId nodeId)
    (nodes : List Node) :
    PlanReleases settings t siteId nodes ↔ PlanReleases settings s siteId nodes := by
  constructor
  · rintro ⟨hnodup, hbuilds⟩
    refine ⟨hnodup, fun node hnode => ?_⟩
    rw [← bundleBuilds_congr hbinding hversions hlatest]
    exact hbuilds node hnode
  · rintro ⟨hnodup, hbuilds⟩
    refine ⟨hnodup, fun node hnode => ?_⟩
    rw [bundleBuilds_congr hbinding hversions hlatest]
    exact hbuilds node hnode

/-- The distribution goes through, or it fails at the first site that cannot be released. -/
theorem distributeSourceBlacklistChange_cases (settings : Settings)
    (hready : ∀ plan ∈ plans, PlanReady draws operation rule t plan)
    (hapart : plans.Pairwise fun a b => Apart draws a.site b.site) :
    ((∀ plan ∈ plans, PlanReleases settings t plan.site.id plan.nodes) ∧ ∃ releases t',
        (distributeSourceBlacklistChange settings draws operation rule plans).run t =
          (.ok releases, t')) ∨
      (¬(∀ plan ∈ plans, PlanReleases settings t plan.site.id plan.nodes) ∧ ∃ code t',
        (distributeSourceBlacklistChange settings draws operation rule plans).run t =
          (.error (.conflict code), t') ∧ t'.blacklist = t.blacklist) := by
  induction plans generalizing t with
  | nil => exact .inl ⟨fun plan hplan => absurd hplan List.not_mem_nil, [], t, rfl⟩
  | cons plan rest ih =>
      rw [List.forall_mem_cons] at hready
      rw [List.pairwise_cons] at hapart
      rw [distributeSourceBlacklistChange, List.forall_mem_cons]
      by_cases hreleases : PlanReleases settings t plan.site.id plan.nodes
      · obtain ⟨release, t', added, hrun, hstep, -⟩ := distributeToSite_succeeds hready.1 hreleases
        have htargets : ∀ node ∈ ruleTargets (draws plan.site.id) operation rule plan.site plan.nodes
            t, node ∈ t.siteNodes plan.site.id :=
          fun node hnode => hready.1.members node ((mem_draftNodes _ hready.1).mp hnode)
        have hsame : ∀ other ∈ rest, (PlanReleases settings t' other.site.id other.nodes ↔
            PlanReleases settings t other.site.id other.nodes) := by
          intro other hother
          have hsite := hstep.sameSite (hapart.1 other hother).id.symm
          exact planReleases_congr hsite.sources.binding hsite.sources.versions
            hsite.latestRelease other.nodes
        have hrest := ih (fun other hother =>
          PlanReady.step (hready.2 other hother) (hapart.1 other hother) htargets hstep) hapart.2
        rw [Prog.run_bind_ok hrun]
        rcases hrest with ⟨hall, releases, t'', hdone⟩ | ⟨hnot, code, t'', hfails, hblacklist⟩
        · left
          refine ⟨⟨hreleases, fun other hother => (hsame other hother).mp (hall other hother)⟩, ?_⟩
          rw [Prog.run_bind_ok hdone]
          exact ⟨_, _, rfl⟩
        · right
          refine ⟨fun hall => hnot fun other hother => (hsame other hother).mpr (hall.2 other hother),
            code, t'', Prog.run_bind_error hfails _, hblacklist.trans hstep.blacklist⟩
      · obtain ⟨code, t', hfails, hblacklist⟩ := distributeToSite_fails hready.1 hreleases
        exact .inr ⟨fun hall => hreleases hall.1, code, t', Prog.run_bind_error hfails _, hblacklist⟩

end Sites

/-! ## Requests -/

section Requests

variable {draws : String → Draws} {rule : SourceBlacklist} {s : Store} {nodeIds : List String}
variable {plans : List SourceBlacklistReleasePlan}

/-- Every site of the nodes of a request can be released. -/
def RequestReleases (settings : Settings) (s : Store) (nodeIds : List String) : Prop :=
  ∀ nodes, requestNodes s nodeIds = .ok nodes →
    ∀ group ∈ groupBySite nodes, PlanReleases settings s group.1 group.2

/-- The documents are different, and so is what is drawn for the sites. No draft waits for a day. -/
structure Undisturbed (draws : String → Draws) (s : Store) : Prop where
  ids : (s.nodes.map Node.id).Nodup
  agents : s.DistinctAgents
  fresh : FreshPublication draws s s.sites
  inTime : ∀ site ∈ s.sites, ¬Expired (draws site.id)

theorem mem_of_collectedNodes {seen : List String} {nodes : List Node} {node : Node}
    (h : collectedNodes s seen nodeIds = .ok nodes) (hnode : node ∈ nodes) : node ∈ s.nodes := by
  induction nodeIds generalizing seen nodes with
  | nil =>
      cases h
      cases hnode
  | cons raw rest ih =>
      rw [collectedNodes] at h
      split at h
      · exact ih h hnode
      · split at h
        · cases h
        · rename_i found hfound
          cases hrest : collectedNodes s (found.agentId :: seen) rest with
          | error e =>
              rw [hrest] at h
              cases h
          | ok others =>
              rw [hrest] at h
              cases h
              rcases List.mem_cons.mp hnode with rfl | hnode
              · exact mem_of_nodeReference? hfound
              · exact ih hrest hnode

theorem mem_of_requestNodes {nodes : List Node} {node : Node}
    (h : requestNodes s nodeIds = .ok nodes) (hnode : node ∈ nodes) : node ∈ s.nodes := by
  rw [requestNodes] at h
  split at h
  · cases h
  · rename_i collected hcollected
    split at h
    · cases h
    · cases h
      exact mem_of_collectedNodes hcollected hnode

theorem collectedNodes_error {seen : List String} {e : Failure}
    (h : collectedNodes s seen nodeIds = .error e) : e = .http 404 (.str "node_not_found") := by
  induction nodeIds generalizing seen with
  | nil => cases h
  | cons raw rest ih =>
      rw [collectedNodes] at h
      split at h
      · exact ih h
      · split at h
        · cases h
          rfl
        · rename_i found hfound
          cases hrest : collectedNodes s (found.agentId :: seen) rest with
          | error e =>
              rw [hrest] at h
              cases h
              exact ih hrest
          | ok others =>
              rw [hrest] at h
              cases h

theorem requestNodes_error {e : Failure} (h : requestNodes s nodeIds = .error e) :
    ∃ status detail, e = .http status detail := by
  rw [requestNodes] at h
  split at h
  · rename_i e' he
    cases h
    exact ⟨_, _, collectedNodes_error he⟩
  · split at h
    · cases h
      exact ⟨_, _, rfl⟩
    · cases h

/-- A plan is for the site of its group, where no release is under way for its nodes. -/
def PlansGroup (s : Store) (group : String × List Node) (plan : SourceBlacklistReleasePlan) : Prop :=
  s.site? group.1 = some plan.site ∧ plan.nodes = group.2 ∧
    s.activeRelease? (agentIds group.2) = none

theorem sitePlansOf_spec {groups : List (String × List Node)} (h : sitePlansOf s groups = .ok plans) :
    List.Forall₂ (PlansGroup s) groups plans := by
  induction groups generalizing plans with
  | nil =>
      cases h
      exact .nil
  | cons group rest ih =>
      obtain ⟨siteId, nodes⟩ := group
      rw [sitePlansOf] at h
      split at h
      · cases h
      · rename_i site hsite
        split at h
        · cases h
        · rename_i hactive
          cases hrest : sitePlansOf s rest with
          | error e =>
              rw [hrest] at h
              cases h
          | ok others =>
              rw [hrest] at h
              cases h
              exact .cons ⟨hsite, rfl, hactive⟩ (ih hrest)

theorem site?_id {siteId : String} {site : Site} (h : s.site? siteId = some site) :
    site.id = siteId ∧ site ∈ s.sites :=
  ⟨by simpa using List.find?_some h, List.mem_of_find?_eq_some h⟩

theorem mem_groupBySite {nodes : List Node} {group : String × List Node}
    (h : group ∈ groupBySite nodes) :
    group.2 ≠ [] ∧ ∀ node ∈ group.2, node ∈ nodes ∧ node.siteId = group.1 := by
  obtain ⟨siteId, hsite, rfl⟩ := List.mem_map.mp h
  obtain ⟨node, hnode, hid⟩ := List.mem_map.mp (mem_distinctBy_id.mp hsite)
  constructor
  · exact List.ne_nil_of_mem (List.mem_filter.mpr ⟨hnode, beq_iff_eq.mpr hid⟩)
  · intro other hother
    obtain ⟨hmem, hsame⟩ := List.mem_filter.mp hother
    exact ⟨hmem, beq_iff_eq.mp hsame⟩

theorem nodup_groupBySite (nodes : List Node) : ((groupBySite nodes).map Prod.fst).Nodup := by
  have hid : (Prod.fst ∘ fun siteId : String =>
    (siteId, nodes.filter fun node => node.siteId == siteId)) = id := rfl
  rw [groupBySite, List.map_map, hid, List.map_id]
  exact nodup_distinctBy_id _

theorem freshRelease_of_site (h : FreshPublication draws s s.sites) {site : Site}
    (hsite : site ∈ s.sites) :
    FreshRelease s (draws site.id) (ruleKey (draws site.id) operation rule site) where
  key := by
    rw [Store.taskByKey?, List.find?_eq_none]
    intro task htask hkey
    exact (h.fresh site hsite).token task htask _ (beq_iff_eq.mp hkey)
  task := (h.fresh site hsite).task
  release := fun release hrelease => ((h.fresh site hsite).release release hrelease).1

theorem PlansGroup.siteId {group : String × List Node} {plan : SourceBlacklistReleasePlan}
    (h : PlansGroup s group plan) : plan.site.id = group.1 := (site?_id h.1).1

/-- Plans that are in time are ready also after the rules are written. -/
theorem planReady_of_group (hids : (s.nodes.map Node.id).Nodup) (hagents : s.DistinctAgents)
    (hfresh : FreshPublication draws s s.sites) (rows : List SourceBlacklist)
    {nodes : List Node} (hnodes : ∀ node ∈ nodes, node ∈ s.nodes) {group : String × List Node}
    (hgroup : group ∈ groupBySite nodes) {plan : SourceBlacklistReleasePlan}
    (hplan : PlansGroup s group plan) (hintime : ¬Expired (draws plan.site.id)) :
    PlanReady draws operation rule { s with blacklist := rows } plan := by
  obtain ⟨hsite, hsame, hactive⟩ := hplan
  obtain ⟨hid, hstored⟩ := site?_id hsite
  obtain ⟨hne, hmembers⟩ := mem_groupBySite hgroup
  have hfresh : FreshRelease s (draws plan.site.id)
      (ruleKey (draws plan.site.id) operation rule plan.site) := freshRelease_of_site hfresh hstored
  refine ⟨by rwa [hsame], ?_, hids, hagents, by rwa [hsame],
    ⟨hfresh.key, hfresh.task, hfresh.release⟩, hintime⟩
  intro node hnode
  rw [hsame] at hnode
  obtain ⟨hmem, hnodeSite⟩ := hmembers node hnode
  exact List.mem_filter.mpr ⟨hnodes node hmem, beq_iff_eq.mpr (hnodeSite.trans hid.symm)⟩

theorem Apart.symm {a b : Site} (h : Apart draws a b) : Apart draws b a :=
  ⟨h.id.symm, h.taskId.symm, h.releaseId.symm, fun start start' => (h.token start' start).symm⟩

theorem pairwise_apart (h : FreshPublication draws s s.sites) {groups : List (String × List Node)}
    (hkeys : (groups.map Prod.fst).Nodup) (hplans : List.Forall₂ (PlansGroup s) groups plans) :
    plans.Pairwise fun a b => Apart draws a.site b.site := by
  have hids : plans.map (fun plan => plan.site.id) = groups.map Prod.fst := by
    clear hkeys
    induction hplans with
    | nil => rfl
    | cons hplan _ ih => rw [List.map_cons, List.map_cons, hplan.siteId, ih]
  have hstored : ∀ plan ∈ plans, plan.site ∈ s.sites :=
    forall_mem_of_forall₂ hplans fun group _ plan hplan => (site?_id hplan.1).2
  rw [← hids, List.nodup_iff_pairwise_ne, List.pairwise_map] at hkeys
  refine hkeys.imp_of_mem fun {a b} ha hb hne => ?_
  have : Std.Symm (Apart draws) := ⟨fun _ _ hapart => hapart.symm⟩
  apply h.apart.forall (hstored a ha) (hstored b hb)
  intro hsame
  exact hne (congrArg Site.id hsame)

/-- The store with other rules. -/
def Store.withRules (s : Store) (rows : List SourceBlacklist) : Store := { s with blacklist := rows }

theorem planReleases_withRules (rows : List SourceBlacklist) (siteId : String) (nodes : List Node) :
    PlanReleases settings (s.withRules rows) siteId nodes ↔ PlanReleases settings s siteId nodes := by
  have hbinding : (s.withRules rows).binding? siteId = s.binding? siteId := rfl
  have hversions : (s.withRules rows).versions = s.versions := rfl
  exact planReleases_congr hbinding hversions (fun _ => rfl) nodes

theorem forall_plans_iff {groups : List (String × List Node)}
    (hplans : List.Forall₂ (PlansGroup s) groups plans) (rows : List SourceBlacklist) :
    (∀ plan ∈ plans, PlanReleases settings (s.withRules rows) plan.site.id plan.nodes) ↔
      ∀ group ∈ groups, PlanReleases settings s group.1 group.2 := by
  induction hplans with
  | nil =>
      exact iff_of_true (fun plan hplan => absurd hplan List.not_mem_nil)
        fun group hgroup => absurd hgroup List.not_mem_nil
  | cons hplan _ ih =>
      rw [List.forall_mem_cons, List.forall_mem_cons, ih, planReleases_withRules, hplan.siteId,
        hplan.2.1]

/-- The change of an enabled rule can be released, and the nodes of a disabled one exist. -/
def ChangeReleases (settings : Settings) (s : Store) (enabled : Bool) (nodeIds : List String) :
    Prop :=
  if enabled then RequestReleases settings s nodeIds else isOk (requestNodes s nodeIds) = true

/-- The plans that are made before the rules are written. -/
def changePlans (s : Store) (enabled : Bool) (nodeIds : List String) :
    Except Failure (List SourceBlacklistReleasePlan) :=
  if enabled then requestPlans s nodeIds else .ok []

theorem plansIfEnabled_run (enabled : Bool) (nodeIds : List String) (s : Store) :
    (plansIfEnabled enabled nodeIds).run s = (changePlans s enabled nodeIds, s) := by
  cases enabled with
  | true => exact sourceBlacklistReleasePlans_run nodeIds s
  | false => rfl

theorem nodeReference?_congr {t : Store} (h : t.nodes = s.nodes) (nodeId : String) :
    t.nodeReference? nodeId = s.nodeReference? nodeId := by
  rw [Store.nodeReference?, h, Store.nodeReference?]

/-- Which nodes a request finds depends on the nodes only. -/
theorem requestNodes_congr {t : Store} (h : t.nodes = s.nodes) (nodeIds : List String) :
    requestNodes t nodeIds = requestNodes s nodeIds := by
  have hcollected : ∀ seen, collectedNodes t seen nodeIds = collectedNodes s seen nodeIds := by
    induction nodeIds with
    | nil => exact fun _ => rfl
    | cons raw rest ih =>
        intro seen
        rw [collectedNodes, collectedNodes, nodeReference?_congr h, ih]
        simp only [ih]
  rw [requestNodes, hcollected, requestNodes]

/-- What follows the write fails exactly if the change cannot be released, and keeps the rules. -/
theorem distributeIfEnabled_cases (settings : Settings) (operation : String)
    (h : Undisturbed draws s) (rows : List SourceBlacklist)
    (hplans : changePlans s rule.enabled nodeIds = .ok plans) :
    (ChangeReleases settings s rule.enabled nodeIds ∧ ∃ t',
        (distributeIfEnabled settings draws operation rule nodeIds plans).run (s.withRules rows) =
          (.ok (), t')) ∨
      (¬ChangeReleases settings s rule.enabled nodeIds ∧ ∃ status detail t',
        (distributeIfEnabled settings draws operation rule nodeIds plans).run (s.withRules rows) =
          (.error (.http status detail), t') ∧ t'.blacklist = rows) := by
  rw [changePlans] at hplans
  rw [ChangeReleases, distributeIfEnabled]
  cases henabled : rule.enabled with
  | true =>
      rw [henabled, if_pos rfl, requestPlans] at hplans
      rw [if_pos rfl, if_pos rfl]
      cases hnodes : requestNodes s nodeIds with
      | error e =>
          rw [hnodes] at hplans
          cases hplans
      | ok nodes =>
          rw [hnodes] at hplans
          have hgroups := sitePlansOf_spec hplans
          have hreleases : RequestReleases settings s nodeIds ↔
              ∀ plan ∈ plans, PlanReleases settings (s.withRules rows) plan.site.id plan.nodes := by
            rw [forall_plans_iff hgroups, RequestReleases, hnodes]
            constructor
            · intro hall
              exact hall nodes rfl
            · rintro hall _ ⟨⟩
              exact hall
          have hready : ∀ plan ∈ plans,
              PlanReady draws operation rule (s.withRules rows) plan :=
            forall_mem_of_forall₂ hgroups fun group hgroup plan hplan =>
              planReady_of_group h.ids h.agents h.fresh rows
                (fun node hnode => mem_of_requestNodes hnodes hnode) hgroup hplan
                (h.inTime _ (site?_id hplan.1).2)
          rw [hreleases]
          rcases distributeSourceBlacklistChange_cases settings hready
            (pairwise_apart h.fresh (nodup_groupBySite nodes) hgroups) with ⟨hall, releases, t', hrun⟩ | ⟨hnot, code, t', hrun, hsame⟩
          · exact .inl ⟨hall, t', by rw [Prog.run_bind_ok hrun]; rfl⟩
          · exact .inr ⟨hnot, 409, .str code, t', Prog.run_bind_error hrun _, hsame⟩
  | false =>
      rw [if_neg (by decide), if_neg (by decide), sourceBlacklistNoEffectDistribution]
      have hnodes := blacklistNodes_run nodeIds (s.withRules rows)
      have hsame : requestNodes (s.withRules rows) nodeIds = requestNodes s nodeIds := by
        apply requestNodes_congr
        rfl
      rw [hsame] at hnodes
      cases hresult : requestNodes s nodeIds with
      | error e =>
          rw [hresult] at hnodes
          obtain ⟨status, detail, rfl⟩ := requestNodes_error hresult
          right
          refine ⟨by simp [isOk], status, detail, s.withRules rows, ?_, rfl⟩
          exact Prog.run_bind_error (Prog.run_bind_error hnodes _) _
      | ok nodes =>
          rw [hresult] at hnodes
          left
          refine ⟨rfl, s.withRules rows, ?_⟩
          have hgrouped : (blacklistNodes nodeIds >>= fun nodes => pure (groupBySite nodes)).run
              (s.withRules rows) = (.ok (groupBySite nodes), s.withRules rows) := by
            rw [Prog.run_bind_ok hnodes]
            rfl
          rw [Prog.run_bind_ok hgrouped]
          rfl

/-! ## Failures that change nothing -/

/-- A request that raises an HTTP error leaves the rules and what every node is served. -/
def FailsCleanly (settings : Settings) (handler : Handler Unit) (s : Store) : Prop :=
  ∀ status detail s', handler.run s = (.error (.http status detail), s') →
    s'.blacklist = s.blacklist ∧ ∀ node appliedVersion appliedHash,
      ((agentDesired settings node appliedVersion appliedHash).run s').1 =
        ((agentDesired settings node appliedVersion appliedHash).run s).1

theorem failsCleanly_of_same {handler : Handler Unit} {result : Except Failure Unit}
    (h : handler.run s = (result, s)) : FailsCleanly settings handler s := by
  intro status detail s' hrun
  rw [h] at hrun
  cases hrun
  exact ⟨rfl, fun _ _ _ => rfl⟩

theorem failsCleanly_of_ok {handler : Handler Unit} {s' : Store}
    (h : handler.run s = (.ok (), s')) : FailsCleanly settings handler s := by
  intro status detail s'' hrun
  rw [h] at hrun
  cases hrun

theorem not_failsCleanly {handler : Handler Unit} {status : Nat} {detail : Json} {s' : Store}
    (h : handler.run s = (.error (.http status detail), s')) (hne : s'.blacklist ≠ s.blacklist) :
    ¬FailsCleanly settings handler s :=
  fun hclean => hne (hclean status detail s' h).1

/-- Some row of the request is there. -/
def Conflicts (s : Store) (payload : SourceBlacklistCreate) : Prop :=
  ∃ nodeId ∈ payload.nodeIds, s.hasRule (payload.row "" nodeId) = true

theorem refuseExisting_run (payload : SourceBlacklistCreate) (nodeIds : List String) (s : Store) :
    (refuseExisting payload nodeIds).run s =
      (if ∃ nodeId ∈ nodeIds, s.hasRule (payload.row "" nodeId) = true then
        .error (.conflict "source_blacklist_entry_exists") else .ok (), s) := by
  induction nodeIds with
  | nil =>
      rw [if_neg (by simp)]
      rfl
  | cons nodeId rest ih =>
      rw [refuseExisting, find_bind_run, Prog.run, reject_bind_runWith, ← Prog.run, ih]
      by_cases hfound : s.hasRule (payload.row "" nodeId) = true
      · rw [if_pos hfound, if_pos ⟨nodeId, List.mem_cons_self, hfound⟩]
      · simp only [List.exists_mem_cons_iff, hfound, Bool.false_eq_true, false_or, if_false]

/-- New rows of different nodes are inserted one after the other. -/
theorem insertRows_run {rows : List SourceBlacklist} {s : Store}
    (hnew : ∀ row ∈ rows, s.hasRule row = false) (hnodup : (rows.map SourceBlacklist.nodeId).Nodup) :
    (insertRows rows).run s = (.ok (), s.withRules (s.blacklist ++ rows)) := by
  induction rows generalizing s with
  | nil =>
      rw [List.append_nil]
      rfl
  | cons row rest ih =>
      rw [List.forall_mem_cons] at hnew
      rw [List.map_cons, List.nodup_cons] at hnodup
      have hinsert : (insertRow row).run s = (.ok (), s.withRules (s.blacklist ++ [row])) := by
        rw [insertRow, insert, Prog.run_atomic, hnew.1]
        rfl
      rw [insertRows, Prog.run_bind_ok hinsert, ih _ hnodup.2]
      · rw [Store.withRules, Store.withRules, Store.withRules, List.append_assoc,
          List.singleton_append]
      · intro other hother
        rw [Store.hasRule, Store.withRules, List.any_append, Bool.or_eq_false_iff]
        refine ⟨hnew.2 other hother, ?_⟩
        have hnode : row.nodeId ≠ other.nodeId :=
          fun hsame => hnodup.1 (hsame ▸ List.mem_map_of_mem hother)
        simp [sameRule, hnode]

/-- The rules are written and the change answered, if the plans are made. -/
theorem change_failsCleanly_iff (operation : String) (h : Undisturbed draws s) {rows : List SourceBlacklist}
    (hne : rows ≠ s.blacklist) {handler : Handler Unit}
    (hrefused : ∀ e, changePlans s rule.enabled nodeIds = .error e → handler.run s = (.error e, s))
    (hplanned : ∀ plans, changePlans s rule.enabled nodeIds = .ok plans → handler.run s =
      (distributeIfEnabled settings draws operation rule nodeIds plans >>= fun _ =>
        appendAudit).run (s.withRules rows)) :
    FailsCleanly settings handler s ↔ isOk (changePlans s rule.enabled nodeIds) = false ∨
      ChangeReleases settings s rule.enabled nodeIds := by
  cases hplans : changePlans s rule.enabled nodeIds with
  | error e => exact iff_of_true (failsCleanly_of_same (hrefused e hplans)) (.inl rfl)
  | ok plans =>
      have hrun := hplanned plans hplans
      rcases distributeIfEnabled_cases settings operation h rows hplans with
        ⟨hreleases, t', hdone⟩ | ⟨hnot, status, detail, t', hfails, hrules⟩
      · rw [Prog.run_bind_ok hdone] at hrun
        exact iff_of_true (failsCleanly_of_ok hrun) (.inr hreleases)
      · rw [Prog.run_bind_error hfails] at hrun
        apply iff_of_false
        · exact not_failsCleanly hrun (hrules ▸ hne)
        · rintro (hrefused | hreleases)
          · cases hrefused
          · exact hnot hreleases

/-- The rows of a request. -/
def SourceBlacklistCreate.rows (payload : SourceBlacklistCreate) (newId : String → String) :
    List SourceBlacklist :=
  payload.nodeIds.map fun nodeId => payload.row (newId nodeId) nodeId

theorem SourceBlacklistCreate.rows_ne (payload : SourceBlacklistCreate) (newId : String → String) :
    payload.rows newId ≠ [] :=
  fun hnil => payload.nodeIds_ne (List.map_eq_nil_iff.mp hnil)

theorem SourceBlacklistCreate.head_enabled (payload : SourceBlacklistCreate)
    (newId : String → String) :
    ((payload.rows newId).head (payload.rows_ne newId)).enabled = payload.enabled := by
  simp only [SourceBlacklistCreate.rows, List.head_map]
  rfl

theorem insertRows_rows (newId : String → String) {payload : SourceBlacklistCreate}
    (hnone : ¬Conflicts s payload) :
    (insertRows (payload.rows newId)).run s =
      (.ok (), s.withRules (s.blacklist ++ payload.rows newId)) := by
  apply insertRows_run
  · intro row hrow
    obtain ⟨nodeId, hnode, rfl⟩ := List.mem_map.mp hrow
    have hsame : s.hasRule (payload.row (newId nodeId) nodeId) = s.hasRule (payload.row "" nodeId) :=
      rfl
    rw [hsame]
    by_contra hfound
    exact hnone ⟨nodeId, hnode, by simpa using hfound⟩
  · rw [SourceBlacklistCreate.rows, List.map_map]
    have hnodeIds : (SourceBlacklist.nodeId ∘ fun nodeId =>
      payload.row (newId nodeId) nodeId) = id := rfl
    rw [hnodeIds, List.map_id]
    exact payload.nodup

theorem addSourceBlacklist_conflict (newId : String → String) {payload : SourceBlacklistCreate}
    (hconflict : Conflicts s payload) :
    (addSourceBlacklist settings draws newId payload).run s =
      (.error (.conflict "source_blacklist_entry_exists"), s) := by
  have hexisting := refuseExisting_run payload payload.nodeIds s
  have hfound : ∃ nodeId ∈ payload.nodeIds, s.hasRule (payload.row "" nodeId) = true := hconflict
  rw [if_pos hfound] at hexisting
  exact Prog.run_bind_error hexisting _

/-- The plans are made, then the rows are written. -/
theorem addSourceBlacklist_run (newId : String → String) {payload : SourceBlacklistCreate}
    (hnone : ¬Conflicts s payload) :
    (addSourceBlacklist settings draws newId payload).run s =
      match changePlans s payload.enabled payload.nodeIds with
      | .error e => (.error e, s)
      | .ok plans =>
        (distributeIfEnabled settings draws "created"
          ((payload.rows newId).head (payload.rows_ne newId)) payload.nodeIds plans >>=
            fun _ => appendAudit).run (s.withRules (s.blacklist ++ payload.rows newId)) := by
  have hexisting := refuseExisting_run payload payload.nodeIds s
  have hfound : ¬∃ nodeId ∈ payload.nodeIds, s.hasRule (payload.row "" nodeId) = true := hnone
  rw [if_neg hfound] at hexisting
  have hplans := plansIfEnabled_run payload.enabled payload.nodeIds s
  rw [addSourceBlacklist, Prog.run_bind_ok hexisting]
  cases hresult : changePlans s payload.enabled payload.nodeIds with
  | error e =>
      rw [hresult] at hplans
      exact Prog.run_bind_error hplans _
  | ok plans =>
      rw [hresult] at hplans
      rw [Prog.run_bind_ok hplans]
      exact Prog.run_bind_ok (insertRows_rows newId hnone) _

theorem addSourceBlacklist_failsCleanly_iff (h : Undisturbed draws s) (newId : String → String)
    (payload : SourceBlacklistCreate) :
    FailsCleanly settings (addSourceBlacklist settings draws newId payload) s ↔
      Conflicts s payload ∨ isOk (changePlans s payload.enabled payload.nodeIds) = false ∨
        ChangeReleases settings s payload.enabled payload.nodeIds := by
  by_cases hconflict : Conflicts s payload
  · exact iff_of_true (failsCleanly_of_same (addSourceBlacklist_conflict newId hconflict))
      (.inl hconflict)
  · have hrun : (addSourceBlacklist settings draws newId payload).run s = _ :=
      addSourceBlacklist_run newId hconflict
    have hne : s.blacklist ++ payload.rows newId ≠ s.blacklist := by
      simpa using payload.rows_ne newId
    rw [or_iff_right hconflict]
    rw [← payload.head_enabled newId] at hrun ⊢
    refine change_failsCleanly_iff "created" h hne ?_ ?_
    · intro e he
      rw [hrun, he]
    · intro plans hok
      rw [hrun, hok]

theorem deleteSourceBlacklist_failsCleanly_iff (h : Undisturbed draws s) (entryId : String) :
    FailsCleanly settings (deleteSourceBlacklist settings draws entryId) s ↔
      ∀ item, (s.blacklist.find? fun row => row.id == entryId) = some item →
        isOk (changePlans s item.enabled [item.nodeId]) = false ∨
          ChangeReleases settings s item.enabled [item.nodeId] := by
  cases hitem : s.blacklist.find? fun row => row.id == entryId with
  | none =>
      have hrun : (deleteSourceBlacklist settings draws entryId).run s =
          (.error (.http 404 (.str "source_blacklist_entry_not_found")), s) := by
        rw [deleteSourceBlacklist, find_bind_run, hitem]
        rfl
      exact iff_of_true (failsCleanly_of_same hrun) fun item hsome => by cases hsome
  | some item =>
      have hne : (s.blacklist.filter fun row => row.id ≠ item.id) ≠ s.blacklist := by
        intro hsame
        have hkept := List.filter_eq_self.mp hsame item (List.mem_of_find?_eq_some hitem)
        simp at hkept
      have hplans := plansIfEnabled_run item.enabled [item.nodeId] s
      have hclean : FailsCleanly settings (deleteSourceBlacklist settings draws entryId) s ↔
          isOk (changePlans s item.enabled [item.nodeId]) = false ∨
            ChangeReleases settings s item.enabled [item.nodeId] := by
        apply change_failsCleanly_iff "deleted" h hne
        · intro e he
          rw [he] at hplans
          rw [deleteSourceBlacklist, find_bind_run, hitem]
          exact Prog.run_bind_error hplans _
        · intro plans hok
          rw [hok] at hplans
          rw [deleteSourceBlacklist, find_bind_run, hitem]
          dsimp only
          rw [Prog.run_bind_ok hplans]
          rfl
      rw [hclean]
      constructor
      · rintro hor _ ⟨⟩
        exact hor
      · intro hall
        exact hall item rfl

end Requests

/-- A request that fails changes nothing exactly when it is refused before its rules are written, or
cannot fail after: an enabled change can be released to all its sites, and the nodes of a disabled
one exist. -/
theorem blacklistRequests_failCleanly_iff (settings : Settings) {draws : String → Draws} {s : Store}
    (h : Undisturbed draws s) :
    (∀ newId payload, FailsCleanly settings (addSourceBlacklist settings draws newId payload) s ↔
      Conflicts s payload ∨ isOk (changePlans s payload.enabled payload.nodeIds) = false ∨
        ChangeReleases settings s payload.enabled payload.nodeIds) ∧
    ∀ entryId, FailsCleanly settings (deleteSourceBlacklist settings draws entryId) s ↔
      ∀ item, (s.blacklist.find? fun row => row.id == entryId) = some item →
        isOk (changePlans s item.enabled [item.nodeId]) = false ∨
          ChangeReleases settings s item.enabled [item.nodeId] :=
  ⟨addSourceBlacklist_failsCleanly_iff h, deleteSourceBlacklist_failsCleanly_iff h⟩

/-- A request for one node. -/
def nodeRequest (nodeId : String) (enabled : Bool)
    (hstripped : strip nodeId = nodeId ∧ nodeId ≠ "") : SourceBlacklistCreate where
  nodeIds := [nodeId]
  direction := "source"
  kind := "domain"
  pattern := "example.com"
  enabled := enabled
  nodeIds_ne := by simp
  nodup := List.nodup_singleton _
  stripped := by simpa using hstripped

def knownRequest : SourceBlacklistCreate := nodeRequest "north-a" true (by decide)

def unknownRequest : SourceBlacklistCreate := nodeRequest "north-b" false (by decide)

theorem sampleStore_undisturbed : Undisturbed (fun _ => sampleDraws "a") sampleStore := by
  refine ⟨by decide, ?_, ⟨fun site _ => ⟨?_, ?_, ?_⟩, ?_, List.pairwise_singleton _ _⟩, ?_⟩
  · rw [Store.DistinctAgents]
    decide
  · intro task htask
    cases htask
  · intro release hrelease
    cases hrelease
  · intro task htask
    cases htask
  · intro site _ d hd
    cases hd
  · intro site _
    decide

def southSite : Site := { sampleSite with id := "site-south", name := "South" }

def southNode : Node :=
  { id := "node-2", siteId := "site-south", agentId := "south-a", monitorVersion := "0.8.0" }

/-- Two sites with a node each; a rule of the south is enabled and one of the north is not. -/
def sitesStore : Store :=
  { sampleStore with
    sites := [sampleSite, southSite], nodes := [sampleNode, southNode]
    blacklist := [⟨"rule-1", "south-a", "destination", "domain", "example.org", true⟩,
      ⟨"rule-2", "north-a", "source", "ip", "192.0.2.1", false⟩] }

/-- A request for a node of each site. -/
def sitesRequest (direction pattern : String) : SourceBlacklistCreate where
  nodeIds := ["north-a", "south-a"]
  direction := direction
  kind := "domain"
  pattern := pattern
  enabled := true
  nodeIds_ne := by simp
  nodup := by decide
  stripped := by decide

theorem apart_sites : Apart sampleDraws sampleSite southSite where
  id := by decide
  taskId := by decide
  releaseId := by decide
  token := by
    intro start start' h
    have hlist := congrArg String.toList h
    rw [String.toList_append, String.toList_append] at hlist
    exact absurd (List.append_inj_right' hlist (by decide)) (by decide)

theorem sitesStore_undisturbed : Undisturbed sampleDraws sitesStore := by
  refine ⟨by decide, ?_, ⟨fun site _ => ⟨?_, ?_, ?_⟩, ?_, ?_⟩, ?_⟩
  · rw [Store.DistinctAgents]
    decide
  · intro task htask
    cases htask
  · intro release hrelease
    cases hrelease
  · intro task htask
    cases htask
  · intro site _ d hd
    cases hd
  · exact List.pairwise_pair.mpr apart_sites
  · intro site _
    exact of_decide_eq_false rfl

theorem changeReleases_pair : ChangeReleases sampleSettings sitesStore true ["north-a", "south-a"] := by
  intro nodes hnodes group hgroup
  have hfound : requestNodes sitesStore ["north-a", "south-a"] = .ok [sampleNode, southNode] := rfl
  rw [hfound] at hnodes
  cases hnodes
  have hgroups : groupBySite [sampleNode, southNode] =
      [("site-north", [sampleNode]), ("site-south", [southNode])] := rfl
  rw [hgroups, List.mem_pair] at hgroup
  rcases hgroup with rfl | rfl
  · exact ⟨List.nodup_singleton _, by decide⟩
  · exact ⟨List.nodup_singleton _, by decide⟩

theorem changeReleases_south : ChangeReleases sampleSettings sitesStore true ["south-a"] := by
  intro nodes hnodes group hgroup
  have hfound : requestNodes sitesStore ["south-a"] = .ok [southNode] := rfl
  rw [hfound] at hnodes
  cases hnodes
  have hgroups : groupBySite [southNode] = [("site-south", [southNode])] := rfl
  rw [hgroups, List.mem_singleton] at hgroup
  subst hgroup
  exact ⟨List.nodup_singleton _, by decide⟩

/-- One request is released to both sites, another one is refused because of the rule of the south,
and every rule can be deleted. -/
theorem blacklistRequests_failCleanly_iff_sites :
    FailsCleanly sampleSettings (addSourceBlacklist sampleSettings sampleDraws
      (fun nodeId => "new-rule-" ++ nodeId) (sitesRequest "source" "example.com")) sitesStore ∧
    FailsCleanly sampleSettings (addSourceBlacklist sampleSettings sampleDraws
      (fun nodeId => "new-rule-" ++ nodeId) (sitesRequest "destination" "example.org")) sitesStore ∧
    ∀ entryId, FailsCleanly sampleSettings (deleteSourceBlacklist sampleSettings sampleDraws entryId)
      sitesStore := by
  have hclean := blacklistRequests_failCleanly_iff sampleSettings sitesStore_undisturbed
  have hconflicts : Conflicts sitesStore (sitesRequest "destination" "example.org") :=
    ⟨"south-a", by decide, by decide⟩
  refine ⟨(hclean.1 _ _).mpr (.inr (.inr changeReleases_pair)),
    (hclean.1 _ _).mpr (.inl hconflicts), fun entryId => ?_⟩
  refine (hclean.2 entryId).mpr fun item hitem => .inr ?_
  have hmem := List.mem_of_find?_eq_some hitem
  rcases List.mem_pair.mp hmem with rfl | rfl
  · exact changeReleases_south
  · change isOk (requestNodes sitesStore ["north-a"]) = true
    decide
/-- A disabled rule for a node that does not exist is answered 404, and is stored. -/
theorem unknownRequest_leaves_rule : ¬FailsCleanly sampleSettings (addSourceBlacklist sampleSettings
    (fun _ => sampleDraws "a") (fun nodeId => "rule-" ++ nodeId) unknownRequest) sampleStore := by
  have hrun : (addSourceBlacklist sampleSettings (fun _ => sampleDraws "a")
      (fun nodeId => "rule-" ++ nodeId) unknownRequest).run sampleStore =
      (.error (.http 404 (.str "node_not_found")),
        sampleStore.withRules [unknownRequest.row ("rule-" ++ "north-b") "north-b"]) := rfl
  exact not_failsCleanly hrun (by simp [Store.withRules, sampleStore, Store.empty])

end Grouproxy.Backend
