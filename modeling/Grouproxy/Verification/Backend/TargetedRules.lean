import Grouproxy.Model.AccessControl
import Grouproxy.Verification.Backend.BlacklistChanges
import Grouproxy.Verification.Backend.BlacklistRows

/-! # Rules and the nodes they name

A request names nodes by document or by agent. The references are resolved to plan the releases and
stored as they are given, and a policy is looked up by agent: a rule reaches a node whose agent is
named.
-/

namespace Grouproxy.Backend

open Text Ipaddress Encoding Crypto Cidr Programs

variable {settings : Settings} {draws : String → Draws} {operation : String}

/-! ## Rules in a policy -/

/-- Some entry has each of the rules. A pattern that is not canonical is none. -/
def Holds (entries : List PolicyEntry) (rules : List (Option RuleKey)) : Prop :=
  ∀ rule ∈ rules, ∃ entry ∈ entries, rule = some entry.key

theorem exists_some_key_iff {entries : List PolicyEntry} {keys : List RuleKey}
    (h : ∀ key, (∃ entry ∈ entries, entry.key = key) ↔ key ∈ keys) (rule : Option RuleKey) :
    (∃ entry ∈ entries, rule = some entry.key) ↔ rule ∈ keys.map some := by
  rw [List.mem_map]
  constructor
  · rintro ⟨entry, hentry, rfl⟩
    exact ⟨entry.key, (h _).mp ⟨entry, hentry, rfl⟩, rfl⟩
  · rintro ⟨key, hkey, rfl⟩
    obtain ⟨entry, hentry, rfl⟩ := (h key).mpr hkey
    exact ⟨entry, hentry, rfl⟩

theorem holds_effectiveBlacklist {agentId : String} {rows : List SourceBlacklist}
    {rules : List (Option RuleKey)} :
    Holds (effectiveBlacklist agentId rows) rules ↔
      ∀ rule ∈ rules, rule ∈ (rowKeys agentId rows).map some :=
  forall₂_congr fun rule _ => exists_some_key_iff (fun _ => exists_key_effectiveBlacklist) rule

theorem holds_effectiveAccessControl {agentId : String} {sets : List AccessControlSet}
    {groups : List NetworkGroup} {rules : List (Option RuleKey)} :
    Holds (effectiveAccessControl agentId sets groups) rules ↔
      ∀ rule ∈ rules, rule ∈ (setKeys agentId sets groups).map some :=
  forall₂_congr fun rule _ => exists_some_key_iff (fun _ => exists_key_effectiveAccessControl) rule

/-- The rule of a validated request. -/
def SourceBlacklistCreate.key (payload : SourceBlacklistCreate) : RuleKey :=
  ⟨"", payload.direction, payload.kind, payload.pattern⟩

/-- Validated patterns are canonical. -/
theorem ruleKey?_validate {body : SourceBlacklistBody} {payload : SourceBlacklistCreate}
    (h : body.validate = some payload) :
    ruleKey? "" payload.direction payload.kind payload.pattern = some payload.key := by
  rw [SourceBlacklistBody.validate] at h
  split at h
  · cases h
  split at h
  · cases h
  rename_i hdirection
  split at h
  · cases h
  split at h
  · cases h
  split at h
  · cases h
  rename_i kind hkind
  split at h
  · cases h
  rename_i pattern hpattern
  split at h
  · cases h
  cases h
  have hself := canonicalizeKind_idempotent hkind
  have hsame : canonicalizeDirection body.direction = .ok body.direction := by
    rw [canonicalizeDirection, if_pos (by simpa [or_iff_not_imp_left] using hdirection)]
  rw [ruleKey?, hsame, hself]
  dsimp only
  rw [normalizeSourceBlacklistPattern_idempotent hself hpattern]
  rfl

/-! ## Rules that reach a node -/

/-- The bundles for an agent that were made between two stores. -/
def madeFor (s s' : Store) (agentId : String) : List DesiredRelease :=
  (s'.desired.drop s.desired.length).filter fun d => d.nodeId == agentId

/-- The policy of an agent has the rules after a request, a bundle was made for it, and every bundle
made for it has the rules. -/
structure Reaches (list : PolicyList) (s s' : Store) (agentId : String)
    (rules : List (Option RuleKey)) : Prop where
  policy : Holds (list.effective s' agentId) rules
  made : madeFor s s' agentId ≠ []
  carried : ∀ d ∈ madeFor s s' agentId, ∃ entries,
    dictGet d.bundle list.field = .arr (entries.map list.json) ∧ Holds entries rules

/-- The nodes that a request looks up: a reference is passed over if it is the agent identity of a
node found before it. -/
def Finds (s : Store) (nodeIds : List String) (node : Node) : Prop :=
  ∃ nodes, requestNodes s nodeIds = .ok nodes ∧ node ∈ nodes

section Reaches

variable {list : PolicyList} {s s' : Store} {nodes : List Node} {added : List DesiredRelease}

theorem mem_madeFor (h : s'.desired = s.desired ++ added) {agentId : String} {d : DesiredRelease} :
    d ∈ madeFor s s' agentId ↔ d ∈ added ∧ d.nodeId = agentId := by
  rw [madeFor, h, List.drop_left, List.mem_filter, beq_iff_eq]

/-- The bundles that were made have what the policies have. -/
theorem reaches_iff (h : s'.desired = s.desired ++ added) (hdelivers : Delivers s' nodes added)
    {agentId : String} {rules : List (Option RuleKey)} :
    Reaches list s s' agentId rules ↔
      agentId ∈ agentIds nodes ∧ Holds (list.effective s' agentId) rules := by
  constructor
  · intro hreaches
    refine ⟨?_, hreaches.policy⟩
    obtain ⟨d, hd⟩ := List.exists_mem_of_ne_nil _ hreaches.made
    obtain ⟨hadded, rfl⟩ := (mem_madeFor h).mp hd
    exact hdelivers.only d hadded
  · rintro ⟨hagent, hholds⟩
    refine ⟨hholds, ?_, ?_⟩
    · obtain ⟨node, hnode, rfl⟩ := List.mem_map.mp hagent
      obtain ⟨d, hd, hid⟩ := hdelivers.every node hnode
      exact List.ne_nil_of_mem ((mem_madeFor h).mpr ⟨hd, hid⟩)
    · intro d hd
      obtain ⟨hadded, rfl⟩ := (mem_madeFor h).mp hd
      refine ⟨list.effective s' d.nodeId, ?_, hholds⟩
      rw [dictGet_eq, hdelivers.lists d hadded list]
      rfl

theorem reaches_congr {t : Store} (h : t.desired = s.desired) (agentId : String)
    (rules : List (Option RuleKey)) :
    Reaches list t s' agentId rules ↔ Reaches list s s' agentId rules := by
  have hmade : madeFor t s' agentId = madeFor s s' agentId := by rw [madeFor, h, madeFor]
  constructor
  · rintro ⟨hpolicy, hne, hcarried⟩
    exact ⟨hpolicy, hmade ▸ hne, hmade ▸ hcarried⟩
  · rintro ⟨hpolicy, hne, hcarried⟩
    exact ⟨hpolicy, hmade.symm ▸ hne, hmade.symm ▸ hcarried⟩

/-- Agents are those of one node. -/
theorem agentId_mem_iff (hagents : s.DistinctAgents) (hstored : ∀ node ∈ nodes, node ∈ s.nodes)
    {node : Node} (hnode : node ∈ s.nodes) : node.agentId ∈ agentIds nodes ↔ node ∈ nodes := by
  constructor
  · intro h
    obtain ⟨other, hother, hsame⟩ := List.mem_map.mp h
    exact List.inj_on_of_nodup_map hagents (hstored other hother) hnode hsame ▸ hother
  · exact List.mem_map_of_mem

end Reaches

/-! ## The releases of a request -/

section Distribution

variable {rule : SourceBlacklist} {t t' : Store} {plan : SourceBlacklistReleasePlan}
variable {plans : List SourceBlacklistReleasePlan}

/-- A draft that is checked too late is refused. -/
theorem distributeToSite_expired {draws : Draws} {site : Site} {nodes : List Node}
    (hnodes : nodes ≠ []) (hfresh : FreshRelease t draws (ruleKey draws operation rule site))
    (hexpired : Expired draws) :
    ∃ e u, (distributeToSite settings draws operation rule ⟨site, nodes⟩).run t = (.error e, u) := by
  have hrefused : (ruleRelease settings draws operation rule site nodes).run
      (t.withDraft (ruleDraft draws operation rule site nodes)) =
      (.error (.conflict "draft_expired_or_used"),
        t.withDraft (ruleDraft draws operation rule site nodes)) := by
    have hfree : (t.withDraft (ruleDraft draws operation rule site nodes)).earlierRelease
        (ruleKey draws operation rule site) = none := Store.earlierRelease_eq_none hfresh.key
    rw [ruleRelease, Prog.run, createReleaseFromDraft_runWith failsInside_none, hfree, draftRefusal,
      if_pos (.inl hexpired)]
  obtain ⟨u, hrun, -⟩ := distributeToSite_error hnodes hrefused
  exact ⟨_, u, hrun⟩

/-- A plan whose identifiers are fresh, and which is ready unless its draft is checked too late. -/
structure PlanStarts (draws : String → Draws) (operation : String) (rule : SourceBlacklist)
    (t : Store) (plan : SourceBlacklistReleasePlan) : Prop where
  nodes_ne : plan.nodes ≠ []
  fresh : FreshRelease t (draws plan.site.id) (ruleKey (draws plan.site.id) operation rule plan.site)
  ready : ¬Expired (draws plan.site.id) → PlanReady draws operation rule t plan

/-- A site that is released: its nodes have their bundles. -/
theorem distributeToSite_delivers (h : PlanStarts draws operation rule t plan)
    {result : Option ConfigRelease}
    (hrun : (distributeToSite settings (draws plan.site.id) operation rule plan).run t =
      (.ok result, t')) :
    ∃ targets added release, (∀ node ∈ targets, node ∈ t.siteNodes plan.site.id) ∧
      SiteStep (draws plan.site.id) plan.site.id
        (ruleKey (draws plan.site.id) operation rule plan.site) targets added release t t' ∧
      Delivers t plan.nodes added := by
  by_cases hexpired : Expired (draws plan.site.id)
  · obtain ⟨e, u, herror⟩ := distributeToSite_expired h.nodes_ne h.fresh hexpired
    rw [herror] at hrun
    cases hrun
  · have hready := h.ready hexpired
    by_cases hreleases : PlanReleases settings t plan.site.id plan.nodes
    · obtain ⟨release, u, added, hdone, hstep, hdelivers⟩ :=
        distributeToSite_succeeds hready hreleases
      rw [hdone] at hrun
      cases hrun
      refine ⟨_, added, _, ?_, hstep, hdelivers⟩
      intro node hnode
      exact hready.members node ((mem_draftNodes _ hready).mp hnode)
    · obtain ⟨code, u, herror, -⟩ := distributeToSite_fails hready hreleases
      rw [herror] at hrun
      cases hrun

theorem PlanStarts.step {a b : SourceBlacklistReleasePlan} {targets : List Node}
    {added : List DesiredRelease} {release : Option ConfigRelease}
    (h : PlanStarts draws operation rule t a) (happart : Apart draws b.site a.site)
    (htargets : ∀ node ∈ targets, node ∈ t.siteNodes b.site.id)
    (hstep : SiteStep (draws b.site.id) b.site.id (ruleKey (draws b.site.id) operation rule b.site)
      targets added release t t') : PlanStarts draws operation rule t' a where
  nodes_ne := h.nodes_ne
  fresh := h.fresh.step hstep (ruleKey_ne happart).symm happart.taskId happart.releaseId
  ready := fun hintime => (h.ready hintime).step happart htargets hstep

theorem SiteStep.samePolicies {draws : Draws} {siteId key : String} {targets : List Node}
    {added : List DesiredRelease} {release : Option ConfigRelease}
    (h : SiteStep draws siteId key targets added release t t') : SamePolicies t t' :=
  ⟨h.blacklist, h.accessControlSets, h.networkGroups⟩

/-- A distribution that goes through has made the bundles of all its nodes. -/
theorem distributeSourceBlacklistChange_delivers
    (hstarts : ∀ plan ∈ plans, PlanStarts draws operation rule t plan)
    (hapart : plans.Pairwise fun a b => Apart draws a.site b.site) {releases : List ConfigRelease}
    (hrun : (distributeSourceBlacklistChange settings draws operation rule plans).run t =
      (.ok releases, t')) :
    ∃ added, t'.desired = t.desired ++ added ∧ SamePolicies t t' ∧
      Delivers t' (plans.flatMap SourceBlacklistReleasePlan.nodes) added := by
  induction plans generalizing t releases with
  | nil =>
      cases hrun
      exact ⟨[], (List.append_nil _).symm, .refl _, .nil _⟩
  | cons plan rest ih =>
      rw [List.forall_mem_cons] at hstarts
      rw [List.pairwise_cons] at hapart
      rw [distributeSourceBlacklistChange] at hrun
      obtain ⟨release, u, hsite, hrun⟩ := Prog.runWith_bind_eq_ok.mp hrun
      obtain ⟨others, v, hrest, hrun⟩ := Prog.runWith_bind_eq_ok.mp hrun
      cases hrun
      obtain ⟨targets, added, _, htargets, hstep, hdelivers⟩ :=
        distributeToSite_delivers hstarts.1 hsite
      have hstarts' : ∀ other ∈ rest, PlanStarts draws operation rule u other :=
        fun other hother => (hstarts.2 other hother).step (hapart.1 other hother) htargets hstep
      obtain ⟨more, hmore, hsame, hothers⟩ := ih hstarts' hapart.2 hrest
      refine ⟨added ++ more, ?_, hstep.samePolicies.trans hsame, ?_⟩
      · rw [hmore, hstep.desired, List.append_assoc]
      · rw [List.flatMap_cons]
        exact (hdelivers.congr (hstep.samePolicies.trans hsame)).append hothers

/-! ## Requests -/

/-- Documents and agents are different, and so is what is drawn for the sites. -/
structure Identified (draws : String → Draws) (s : Store) : Prop where
  ids : (s.nodes.map Node.id).Nodup
  agents : s.DistinctAgents
  fresh : FreshPublication draws s s.sites

variable {s : Store} {nodeIds : List String}

theorem planStarts_of_groups (h : Identified draws s) (rows : List SourceBlacklist)
    {nodes : List Node} (hnodes : requestNodes s nodeIds = .ok nodes)
    (hgroups : List.Forall₂ (PlansGroup s) (groupBySite nodes) plans) :
    ∀ plan ∈ plans, PlanStarts draws operation rule (s.withRules rows) plan := by
  refine forall_mem_of_forall₂ hgroups fun group hgroup plan hplan => ?_
  have hstored : ∀ node ∈ nodes, node ∈ s.nodes := fun node hnode => mem_of_requestNodes hnodes hnode
  have hfresh : FreshRelease s (draws plan.site.id)
      (ruleKey (draws plan.site.id) operation rule plan.site) :=
    freshRelease_of_site h.fresh (site?_id hplan.1).2
  refine ⟨?_, ⟨hfresh.key, hfresh.task, hfresh.release⟩, ?_⟩
  · rw [hplan.2.1]
    exact (mem_groupBySite hgroup).1
  · exact planReady_of_group h.ids h.agents h.fresh rows hstored hgroup hplan

/-- The plans are for the nodes of the request. -/
theorem mem_nodes_of_groups {nodes : List Node}
    (hgroups : List.Forall₂ (PlansGroup s) (groupBySite nodes) plans) (node : Node) :
    node ∈ plans.flatMap SourceBlacklistReleasePlan.nodes ↔ node ∈ nodes := by
  have hflat : plans.flatMap SourceBlacklistReleasePlan.nodes =
      (groupBySite nodes).flatMap Prod.snd := by
    generalize groupBySite nodes = groups at hgroups
    induction hgroups with
    | nil => rfl
    | cons hplan _ ih => rw [List.flatMap_cons, List.flatMap_cons, hplan.2.1, ih]
  rw [hflat, List.mem_flatMap]
  constructor
  · rintro ⟨group, hgroup, hnode⟩
    exact ((mem_groupBySite hgroup).2 node hnode).1
  · intro hnode
    refine ⟨(node.siteId, nodes.filter fun other => other.siteId == node.siteId), ?_, ?_⟩
    · apply List.mem_map_of_mem
      exact mem_distinctBy_id.mpr (List.mem_map_of_mem hnode)
    · exact List.mem_filter.mpr ⟨hnode, beq_self_eq_true _⟩

/-- A request that is released has made the bundles of the nodes that it finds. -/
theorem request_delivers (h : Identified draws s) (rows : List SourceBlacklist)
    (hplans : requestPlans s nodeIds = .ok plans) {releases : List ConfigRelease}
    (hrun : (distributeSourceBlacklistChange settings draws operation rule plans).run
      (s.withRules rows) = (.ok releases, t')) :
    ∃ nodes added, requestNodes s nodeIds = .ok nodes ∧ t'.desired = s.desired ++ added ∧
      SamePolicies (s.withRules rows) t' ∧ Delivers t' nodes added := by
  rw [requestPlans] at hplans
  split at hplans
  · cases hplans
  rename_i nodes hnodes
  have hgroups := sitePlansOf_spec hplans
  obtain ⟨added, hdesired, hsame, hdelivers⟩ := distributeSourceBlacklistChange_delivers
    (planStarts_of_groups h rows hnodes hgroups)
    (pairwise_apart h.fresh (nodup_groupBySite nodes) hgroups) hrun
  exact ⟨nodes, added, hnodes, hdesired, hsame, hdelivers.mem_iff (mem_nodes_of_groups hgroups)⟩

/-- The rules reach the nodes that are found, and whose agents have them in their policy. -/
theorem request_reaches_iff (h : Identified draws s) (rows : List SourceBlacklist)
    (hplans : requestPlans s nodeIds = .ok plans) {releases : List ConfigRelease}
    (hrun : (distributeSourceBlacklistChange settings draws operation rule plans).run
      (s.withRules rows) = (.ok releases, t')) (list : PolicyList) {node : Node}
    (hnode : node ∈ s.nodes) (rules : List (Option RuleKey)) :
    Reaches list s t' node.agentId rules ↔
      Finds s nodeIds node ∧ Holds (list.effective (s.withRules rows) node.agentId) rules := by
  obtain ⟨nodes, added, hnodes, hdesired, hsame, hdelivers⟩ := request_delivers h rows hplans hrun
  rw [reaches_iff hdesired hdelivers, hsame.effective, Finds, hnodes,
    agentId_mem_iff h.agents (fun node hnode => mem_of_requestNodes hnodes hnode) hnode]
  simp

/-! ## Blacklist requests -/

theorem rowKeys_append (agentId : String) (rows more : List SourceBlacklist) :
    rowKeys agentId (rows ++ more) = rowKeys agentId rows ++ rowKeys agentId more := by
  rw [rowKeys, nodeRows, List.filter_append, List.filterMap_append]
  rfl

/-- The rows of a request are rules of the agents that it names. -/
theorem mem_rowKeys_rows (newId : String → String) {payload : SourceBlacklistCreate}
    (henabled : payload.enabled = true)
    (hkey : ruleKey? "" payload.direction payload.kind payload.pattern = some payload.key)
    (agentId : String) :
    payload.key ∈ rowKeys agentId (payload.rows newId) ↔ agentId ∈ payload.nodeIds := by
  rw [rowKeys, List.mem_filterMap]
  constructor
  · rintro ⟨row, hrow, -⟩
    obtain ⟨hmem, hagent⟩ := List.mem_filter.mp hrow
    obtain ⟨nodeId, hnode, rfl⟩ := List.mem_map.mp hmem
    have hsame : nodeId = agentId := by simpa [SourceBlacklistCreate.row, henabled] using hagent
    exact hsame ▸ hnode
  · intro hagent
    refine ⟨payload.row (newId agentId) agentId, ?_, hkey⟩
    refine List.mem_filter.mpr ⟨List.mem_map.mpr ⟨agentId, hagent, rfl⟩, ?_⟩
    simp [SourceBlacklistCreate.row, henabled]

theorem holds_added_rows (newId : String → String) {payload : SourceBlacklistCreate}
    (henabled : payload.enabled = true)
    (hkey : ruleKey? "" payload.direction payload.kind payload.pattern = some payload.key)
    (agentId : String) (rows : List SourceBlacklist) :
    Holds (effectiveBlacklist agentId (rows ++ payload.rows newId)) [some payload.key] ↔
      agentId ∈ payload.nodeIds ∨ Holds (effectiveBlacklist agentId rows) [some payload.key] := by
  rw [holds_effectiveBlacklist, holds_effectiveBlacklist, rowKeys_append]
  simp [mem_rowKeys_rows newId henabled hkey, or_comm]

theorem bind_appendAudit_ok {p : Handler Unit}
    (h : (p >>= fun _ => appendAudit).run t = (.ok (), t')) : p.run t = (.ok (), t') := by
  obtain ⟨_, u, hp, haudit⟩ := Prog.runWith_bind_eq_ok.mp h
  cases haudit
  exact hp

theorem distributeIfEnabled_ok (henabled : rule.enabled = true)
    (h : (distributeIfEnabled settings draws operation rule nodeIds plans).run t = (.ok (), t')) :
    ∃ releases, (distributeSourceBlacklistChange settings draws operation rule plans).run t =
      (.ok releases, t') := by
  rw [distributeIfEnabled, if_pos henabled] at h
  obtain ⟨releases, u, hrun, hpure⟩ := Prog.runWith_bind_eq_ok.mp h
  cases hpure
  exact ⟨releases, hrun⟩

theorem addSourceBlacklist_reaches_iff (h : Identified draws s) (newId : String → String)
    {payload : SourceBlacklistCreate} (henabled : payload.enabled = true)
    (hkey : ruleKey? "" payload.direction payload.kind payload.pattern = some payload.key)
    (hrun : (addSourceBlacklist settings draws newId payload).run s = (.ok (), t')) {node : Node}
    (hnode : node ∈ s.nodes) :
    Reaches .blacklist s t' node.agentId [some payload.key] ↔ Finds s payload.nodeIds node ∧
      (node.agentId ∈ payload.nodeIds ∨
        Holds (effectiveBlacklist node.agentId s.blacklist) [some payload.key]) := by
  by_cases hconflict : Conflicts s payload
  · rw [addSourceBlacklist_conflict newId hconflict] at hrun
    cases hrun
  rw [addSourceBlacklist_run newId hconflict, changePlans, if_pos henabled] at hrun
  split at hrun
  · cases hrun
  rename_i plans hplans
  obtain ⟨releases, hreleases⟩ := distributeIfEnabled_ok ((payload.head_enabled newId).trans henabled)
    (bind_appendAudit_ok hrun)
  rw [request_reaches_iff h _ hplans hreleases .blacklist hnode,
    ← holds_added_rows newId henabled hkey]
  rfl

/-! ## Access-control requests -/

/-- The rules of a set: one for each entry of its groups. -/
def setRules (groups : List NetworkGroup) (set : AccessControlSet) : List (Option RuleKey) :=
  (setEntries groups set).map fun entry =>
    ruleKey? set.mode.text set.direction entry.kind entry.pattern

theorem mem_setKeys {agentId : String} {sets : List AccessControlSet} {groups : List NetworkGroup}
    {key : RuleKey} :
    key ∈ setKeys agentId sets groups ↔ ∃ set ∈ sets, set.enabled = true ∧ agentId ∈ set.nodeIds ∧
      some key ∈ setRules groups set := by
  simp only [setKeys, nodeSets, setRules, List.mem_flatMap, List.mem_filter, List.mem_filterMap,
    List.mem_map, Bool.and_eq_true, List.contains_iff_mem, and_assoc]

/-- A policy has the rules of an enabled set if its agent is named, or if the other sets give them. -/
theorem holds_setRules {agentId : String} {sets others : List AccessControlSet}
    {groups : List NetworkGroup} (set : AccessControlSet) (henabled : set.enabled = true)
    (hsets : ∀ other, other ∈ sets ↔ other ∈ others ∨ other = set) :
    Holds (effectiveAccessControl agentId sets groups) (setRules groups set) ↔
      (agentId ∈ set.nodeIds ∧ ∀ rule ∈ setRules groups set, rule.isSome = true) ∨
        Holds (effectiveAccessControl agentId others groups) (setRules groups set) := by
  have hkeys : ∀ key, key ∈ setKeys agentId sets groups ↔ key ∈ setKeys agentId others groups ∨
      (agentId ∈ set.nodeIds ∧ some key ∈ setRules groups set) := by
    intro key
    simp only [mem_setKeys, hsets, or_and_right, exists_or, exists_eq_left, henabled, true_and]
  rw [holds_effectiveAccessControl, holds_effectiveAccessControl]
  simp only [List.mem_map, hkeys]
  constructor
  · intro h
    by_cases hagent : agentId ∈ set.nodeIds
    · refine .inl ⟨hagent, fun rule hrule => ?_⟩
      obtain ⟨key, -, rfl⟩ := h rule hrule
      rfl
    · refine .inr fun rule hrule => ?_
      obtain ⟨key, hkey | hkey, rfl⟩ := h rule hrule
      · exact ⟨key, hkey, rfl⟩
      · exact absurd hkey.1 hagent
  · rintro (⟨hagent, hsome⟩ | h)
    · intro rule hrule
      obtain ⟨key, rfl⟩ := Option.isSome_iff_exists.mp (hsome rule hrule)
      exact ⟨key, .inr ⟨hagent, hrule⟩, rfl⟩
    · intro rule hrule
      obtain ⟨key, hkey, rfl⟩ := h rule hrule
      exact ⟨key, .inl hkey, rfl⟩

theorem distinctStripped_eq_self {values : List String} (hnodup : values.Nodup)
    (hstripped : ∀ value ∈ values, strip value = value ∧ value ≠ "") :
    distinctStripped values = values := by
  have hmap : values.map strip = values := by
    rw [List.map_congr_left fun value hvalue => (hstripped value hvalue).1]
    exact List.map_id' values
  have hfilter : values.filter (fun value => value ≠ "") = values := by
    rw [List.filter_eq_self]
    intro value hvalue
    simpa using (hstripped value hvalue).2
  rw [distinctStripped, hmap, hfilter]
  exact distinctBy_eq_self (by simpa using hnodup) (by simp)

theorem requireGroups_ok {groupIds : List String}
    (h : (requireGroups groupIds).run s = (.ok (), t)) : t = s := by
  induction groupIds with
  | nil =>
      cases h
      rfl
  | cons groupId rest ih =>
      rw [requireGroups, find_bind_run, Prog.run, reject_bind_runWith] at h
      split at h
      · cases h
      · exact ih h

/-- The checks only read, and a validated request is stripped already. -/
theorem checkAccessControl_ok {payload : AccessControlCreate} {excludeId : Option String}
    {result : List String × String}
    (h : (checkAccessControl payload excludeId).run s = (.ok result, t)) :
    result = (payload.nodeIds, payload.reason) ∧ t = s := by
  rw [checkAccessControl] at h
  obtain ⟨_, u, hgroups, hrest⟩ := Prog.runWith_bind_eq_ok.mp h
  obtain rfl := requireGroups_ok hgroups
  dsimp only at hrest
  rw [distinctStripped_eq_self payload.nodup payload.stripped, payload.reason_stripped.1,
    reject_bind_runWith, if_neg payload.nodeIds_ne, reject_bind_runWith,
    if_neg payload.reason_stripped.2, find_bind_runWith rfl, reject_bind_runWith] at hrest
  split at hrest
  · cases hrest
  · cases hrest
    exact ⟨rfl, rfl⟩

theorem checkPlans_ok {affects : Bool} (h : (checkPlans affects nodeIds).run s = (.ok (), t)) :
    t = s := by
  rw [checkPlans] at h
  split at h
  · obtain ⟨plans, u, hplans, hpure⟩ := Prog.runWith_bind_eq_ok.mp h
    cases hpure
    have hrun := sourceBlacklistReleasePlans_run nodeIds s
    rw [Prog.run, hplans] at hrun
    exact (Prod.mk.inj hrun).2
  · cases h
    rfl

/-- The store with other sets. -/
def Store.withSets (s : Store) (sets : List AccessControlSet) : Store :=
  { s with accessControlSets := sets }

theorem Identified.withSets (h : Identified draws s) (sets : List AccessControlSet) :
    Identified draws (s.withSets sets) where
  ids := h.ids
  agents := h.agents
  fresh := {
    fresh := fun site hsite =>
      ⟨(h.fresh.fresh site hsite).task, (h.fresh.fresh site hsite).release,
        (h.fresh.fresh site hsite).token⟩
    unsent := h.fresh.unsent
    apart := h.fresh.apart }

/-- The rules of a set reach the nodes that are found, and whose agents have them in their policy. -/
theorem releaseIfAffected_reaches_iff (h : Identified draws s) (sets : List AccessControlSet)
    {targetId : String} {affects : Bool} (haffects : affects = true)
    (hrun : (releaseIfAffected settings draws operation targetId affects nodeIds).run
      (s.withSets sets) = (.ok (), t')) {node : Node} (hnode : node ∈ s.nodes)
    (rules : List (Option RuleKey)) :
    Reaches .accessControl s t' node.agentId rules ↔ Finds s nodeIds node ∧
      Holds (effectiveAccessControl node.agentId sets s.networkGroups) rules := by
  rw [releaseIfAffected, if_pos haffects] at hrun
  obtain ⟨releases, u, hrelease, hpure⟩ := Prog.runWith_bind_eq_ok.mp hrun
  cases hpure
  rw [releaseAccessControlNodes] at hrelease
  obtain ⟨plans, u, hplans, hdistribute⟩ := Prog.runWith_bind_eq_ok.mp hrelease
  have hmade := sourceBlacklistReleasePlans_run nodeIds (s.withSets sets)
  rw [Prog.run, hplans] at hmade
  obtain ⟨hok, rfl⟩ := Prod.mk.inj hmade
  have hfinds : Finds (s.withSets sets) nodeIds node ↔ Finds s nodeIds node := by
    have hsame : requestNodes (s.withSets sets) nodeIds = requestNodes s nodeIds := by
      apply requestNodes_congr
      rfl
    rw [Finds, hsame, Finds]
  have hdesired : (s.withSets sets).desired = s.desired := rfl
  rw [← reaches_congr hdesired, ← hfinds]
  exact request_reaches_iff (h.withSets sets) s.blacklist hok.symm hdistribute .accessControl hnode
    rules

/-- The set that a request describes. -/
def AccessControlCreate.set (payload : AccessControlCreate) (id : String) : AccessControlSet :=
  payload.rule id payload.nodeIds payload.reason

theorem createAccessControl_reaches_iff (h : Identified draws s) (newId : String)
    {payload : AccessControlCreate} (henabled : payload.enabled = true)
    (hrun : (createAccessControl settings draws newId payload).run s = (.ok (), t')) {node : Node}
    (hnode : node ∈ s.nodes) :
    Reaches .accessControl s t' node.agentId (setRules s.networkGroups (payload.set newId)) ↔
      Finds s payload.nodeIds node ∧
        ((node.agentId ∈ payload.nodeIds ∧
            ∀ rule ∈ setRules s.networkGroups (payload.set newId), rule.isSome = true) ∨
          Holds (effectiveAccessControl node.agentId s.accessControlSets s.networkGroups)
            (setRules s.networkGroups (payload.set newId))) := by
  rw [createAccessControl] at hrun
  obtain ⟨result, u, hcheck, hchecked⟩ := Prog.runWith_bind_eq_ok.mp hrun
  obtain ⟨rfl, rfl⟩ := checkAccessControl_ok hcheck
  obtain ⟨_, u, hplans, hplanned⟩ := Prog.runWith_bind_eq_ok.mp hchecked
  obtain rfl := checkPlans_ok hplans
  obtain ⟨_, u', hinsert, hwritten⟩ := Prog.runWith_bind_eq_ok.mp hplanned
  rw [insertSet, insert, Prog.runWith_atomic, if_neg (by simp)] at hinsert
  split at hinsert
  · cases hinsert
  cases hinsert
  have hsets : ∀ other, other ∈ u.accessControlSets ++ [payload.set newId] ↔
      other ∈ u.accessControlSets ∨ other = payload.set newId := by simp
  rw [releaseIfAffected_reaches_iff h (u.accessControlSets ++ [payload.set newId]) henabled
    (bind_appendAudit_ok hwritten) hnode, holds_setRules (payload.set newId) henabled hsets]
  rfl

/-- The sets other than the one that is updated. -/
def otherSets (s : Store) (ruleId : String) : List AccessControlSet :=
  s.accessControlSets.filter fun set => set.id ≠ ruleId

theorem mem_saved_sets {ruleId : String} {rule : AccessControlSet}
    (hrule : s.accessControlSets.find? (fun set => set.id == ruleId) = some rule)
    {set : AccessControlSet} (hid : set.id = ruleId) (other : AccessControlSet) :
    other ∈ s.accessControlSets.map (fun other => if other.id = set.id then set else other) ↔
      other ∈ otherSets s ruleId ∨ other = set := by
  have hfound : rule.id = ruleId := by simpa using List.find?_some hrule
  rw [otherSets, List.mem_filter, List.mem_map]
  constructor
  · rintro ⟨old, hold, rfl⟩
    split
    · exact .inr rfl
    · rename_i hne
      exact .inl ⟨hold, by simpa [hid] using hne⟩
  · rintro (⟨hother, hne⟩ | rfl)
    · exact ⟨other, hother, if_neg (by simpa [hid] using hne)⟩
    · exact ⟨rule, List.mem_of_find?_eq_some hrule,
        if_pos (hfound.trans hid.symm)⟩

/-- The references that an update looks up: those that the set had, then those of the request. -/
def affectedNodes (rule : AccessControlSet) (payload : AccessControlCreate) : List String :=
  distinctBy id [] (rule.nodeIds ++ payload.nodeIds)

theorem updateAccessControl_reaches_iff (h : Identified draws s) {ruleId : String}
    {rule : AccessControlSet}
    (hrule : s.accessControlSets.find? (fun set => set.id == ruleId) = some rule)
    {payload : AccessControlCreate} (henabled : payload.enabled = true)
    (hrun : (updateAccessControl settings draws ruleId payload).run s = (.ok (), t')) {node : Node}
    (hnode : node ∈ s.nodes) :
    Reaches .accessControl s t' node.agentId (setRules s.networkGroups (payload.set ruleId)) ↔
      Finds s (affectedNodes rule payload) node ∧
        ((node.agentId ∈ payload.nodeIds ∧
            ∀ rule ∈ setRules s.networkGroups (payload.set ruleId), rule.isSome = true) ∨
          Holds (effectiveAccessControl node.agentId (otherSets s ruleId) s.networkGroups)
            (setRules s.networkGroups (payload.set ruleId))) := by
  rw [updateAccessControl, find_bind_run, hrule] at hrun
  dsimp only at hrun
  obtain ⟨result, u, hcheck, hchecked⟩ := Prog.runWith_bind_eq_ok.mp hrun
  obtain ⟨rfl, rfl⟩ := checkAccessControl_ok hcheck
  obtain ⟨_, u, hplans, hplanned⟩ := Prog.runWith_bind_eq_ok.mp hchecked
  obtain rfl := checkPlans_ok hplans
  obtain ⟨_, u', hsave, hwritten⟩ := Prog.runWith_bind_eq_ok.mp hplanned
  cases hsave
  have haffects : (rule.enabled || payload.enabled) = true := by rw [henabled, Bool.or_true]
  exact (releaseIfAffected_reaches_iff h _ haffects (bind_appendAudit_ok hwritten) hnode _).trans
    (and_congr_right' (holds_setRules (payload.set ruleId) henabled (mem_saved_sets hrule rfl)))

end Distribution

/-- A rule reaches a node that its request names exactly when the request looks the node up, and
names its agent or gives rules that the agent's policy has anyway. -/
theorem targetedRules_reach_iff (settings : Settings) {draws : String → Draws} {s : Store}
    (h : Identified draws s) :
    (∀ newId (body : SourceBlacklistBody) payload s', body.validate = some payload →
      payload.enabled = true →
      (addSourceBlacklist settings draws newId payload).run s = (.ok (), s') →
      ∀ nodeId ∈ payload.nodeIds, ∀ node, s.nodeReference? nodeId = some node →
        (Reaches .blacklist s s' node.agentId [some payload.key] ↔ Finds s payload.nodeIds node ∧
          (node.agentId ∈ payload.nodeIds ∨
            Holds (effectiveBlacklist node.agentId s.blacklist) [some payload.key]))) ∧
    (∀ newId (body : AccessControlBody) payload s', body.validate = some payload →
      payload.enabled = true →
      (createAccessControl settings draws newId payload).run s = (.ok (), s') →
      ∀ nodeId ∈ payload.nodeIds, ∀ node, s.nodeReference? nodeId = some node →
        (Reaches .accessControl s s' node.agentId (setRules s.networkGroups (payload.set newId)) ↔
          Finds s payload.nodeIds node ∧
            ((node.agentId ∈ payload.nodeIds ∧
                ∀ rule ∈ setRules s.networkGroups (payload.set newId), rule.isSome = true) ∨
              Holds (effectiveAccessControl node.agentId s.accessControlSets s.networkGroups)
                (setRules s.networkGroups (payload.set newId))))) ∧
    ∀ ruleId (body : AccessControlBody) payload s', body.validate = some payload →
      payload.enabled = true →
      (updateAccessControl settings draws ruleId payload).run s = (.ok (), s') →
      ∀ rule, s.accessControlSets.find? (fun set => set.id == ruleId) = some rule →
      ∀ nodeId ∈ payload.nodeIds, ∀ node, s.nodeReference? nodeId = some node →
        (Reaches .accessControl s s' node.agentId (setRules s.networkGroups (payload.set ruleId)) ↔
          Finds s (affectedNodes rule payload) node ∧
            ((node.agentId ∈ payload.nodeIds ∧
                ∀ rule ∈ setRules s.networkGroups (payload.set ruleId), rule.isSome = true) ∨
              Holds (effectiveAccessControl node.agentId (otherSets s ruleId) s.networkGroups)
                (setRules s.networkGroups (payload.set ruleId)))) := by
  refine ⟨?_, ?_, ?_⟩
  · intro newId body payload s' hbody henabled hrun nodeId _ node hreference
    exact addSourceBlacklist_reaches_iff h newId henabled (ruleKey?_validate hbody) hrun
      (mem_of_nodeReference? hreference)
  · intro newId body payload s' _ henabled hrun nodeId _ node hreference
    exact createAccessControl_reaches_iff h newId henabled hrun (mem_of_nodeReference? hreference)
  · intro ruleId body payload s' _ henabled hrun rule hrule nodeId _ node hreference
    exact updateAccessControl_reaches_iff h hrule henabled hrun (mem_of_nodeReference? hreference)

/-- The installation with a group, and a set that gives it to the node. -/
def groupedStore : Store :=
  { sampleStore with
    networkGroups := [⟨"group-1", [⟨"domain", "example.com"⟩]⟩]
    accessControlSets := [⟨"set-1", ["north-a"], ["group-1"], .deny, "source", "guests", true⟩] }

theorem groupedStore_identified : Identified (fun _ => sampleDraws "a") groupedStore where
  ids := sampleStore_undisturbed.ids
  agents := sampleStore_undisturbed.agents
  fresh := {
    fresh := fun site hsite =>
      ⟨(sampleStore_undisturbed.fresh.fresh site hsite).task,
        (sampleStore_undisturbed.fresh.fresh site hsite).release,
        (sampleStore_undisturbed.fresh.fresh site hsite).token⟩
    unsent := sampleStore_undisturbed.fresh.unsent
    apart := sampleStore_undisturbed.fresh.apart }

/-- A request of the blacklist for one reference. -/
def domainBody (nodeId : String) : SourceBlacklistBody :=
  ⟨[nodeId], "source", "domain", "example.com", true⟩

def guestsBody : AccessControlBody := ⟨["north-a"], ["group-1"], "allow", "source", "guests", true⟩

def guestsRequest : AccessControlCreate where
  nodeIds := ["north-a"]
  networkGroupIds := ["group-1"]
  mode := .allow
  direction := "source"
  reason := "guests"
  enabled := true
  nodeIds_ne := by decide
  nodup := List.nodup_singleton _
  stripped := by decide
  groups_ne := by decide
  reason_stripped := by decide

theorem run_of_ok {handler : Handler Unit} {s : Store} (h : (handler.run s).1 = .ok ()) :
    handler.run s = (.ok (), (handler.run s).2) :=
  Prod.ext h rfl

theorem targetedRules_reach_iff_sample :
    Reaches .blacklist groupedStore ((addSourceBlacklist sampleSettings (fun _ => sampleDraws "a")
        (fun nodeId => "rule-" ++ nodeId) knownRequest).run groupedStore).2 "north-a"
      [some knownRequest.key] ∧
    Reaches .accessControl groupedStore ((createAccessControl sampleSettings
        (fun _ => sampleDraws "a") "set-2" guestsRequest).run groupedStore).2 "north-a"
      (setRules groupedStore.networkGroups (guestsRequest.set "set-2")) ∧
    Reaches .accessControl groupedStore ((updateAccessControl sampleSettings
        (fun _ => sampleDraws "a") "set-1" guestsRequest).run groupedStore).2 "north-a"
      (setRules groupedStore.networkGroups (guestsRequest.set "set-1")) := by
  obtain ⟨hadd, hcreate, hupdate⟩ :=
    targetedRules_reach_iff sampleSettings groupedStore_identified
  have hfinds : Finds groupedStore ["north-a"] sampleNode := ⟨[sampleNode], rfl, List.mem_cons_self⟩
  have hfinds' : Finds groupedStore (affectedNodes
      ⟨"set-1", ["north-a"], ["group-1"], .deny, "source", "guests", true⟩ guestsRequest) sampleNode :=
    ⟨[sampleNode], rfl, List.mem_cons_self⟩
  have hadded : ((addSourceBlacklist sampleSettings (fun _ => sampleDraws "a")
      (fun nodeId => "rule-" ++ nodeId) knownRequest).run groupedStore).1 = .ok () := rfl
  have hcreated : ((createAccessControl sampleSettings (fun _ => sampleDraws "a") "set-2"
      guestsRequest).run groupedStore).1 = .ok () := rfl
  have hupdated : ((updateAccessControl sampleSettings (fun _ => sampleDraws "a") "set-1"
      guestsRequest).run groupedStore).1 = .ok () := rfl
  have hnamed : "north-a" ∈ ["north-a"] := List.mem_cons_self
  refine ⟨?_, ?_, ?_⟩
  · exact (hadd _ (domainBody "north-a") knownRequest _ rfl rfl (run_of_ok hadded) "north-a" hnamed
      sampleNode rfl).mpr ⟨hfinds, .inl hnamed⟩
  · exact (hcreate _ guestsBody guestsRequest _ rfl rfl (run_of_ok hcreated) "north-a" hnamed
      sampleNode rfl).mpr ⟨hfinds, .inl ⟨hnamed, by decide⟩⟩
  · exact (hupdate _ guestsBody guestsRequest _ rfl rfl (run_of_ok hupdated) _ rfl "north-a" hnamed
      sampleNode rfl).mpr ⟨hfinds', .inl ⟨hnamed, by decide⟩⟩

/-- The request that names the node by its document. -/
def documentRequest : SourceBlacklistCreate := nodeRequest "node-1" true (by decide)

/-- The store after it. -/
def documentStore : Store :=
  ((addSourceBlacklist sampleSettings (fun _ => sampleDraws "a") (fun nodeId => "rule-" ++ nodeId)
    documentRequest).run groupedStore).2

/-- A rule for a node that is named by its document is stored under the document: the request goes
through and makes a bundle, and neither the policy nor the bundle has the rule. -/
theorem document_reference_misses : (domainBody "node-1").validate = some documentRequest ∧
    documentRequest.enabled = true ∧ "node-1" ∈ documentRequest.nodeIds ∧
    (addSourceBlacklist sampleSettings (fun _ => sampleDraws "a") (fun nodeId => "rule-" ++ nodeId)
      documentRequest).run groupedStore = (.ok (), documentStore) ∧
    groupedStore.nodeReference? "node-1" = some sampleNode ∧
    (madeFor groupedStore documentStore sampleNode.agentId).length = 1 ∧
    ¬Reaches .blacklist groupedStore documentStore sampleNode.agentId [some documentRequest.key] := by
  have hrows : documentStore.blacklist =
      [documentRequest.row ("rule-" ++ "node-1") "node-1"] := rfl
  refine ⟨rfl, rfl, List.mem_cons_self, run_of_ok rfl, rfl, rfl, ?_⟩
  intro hreaches
  obtain ⟨entry, hentry, -⟩ := hreaches.policy _ List.mem_cons_self
  rw [PolicyList.effective, hrows] at hentry
  cases hentry

end Grouproxy.Backend
