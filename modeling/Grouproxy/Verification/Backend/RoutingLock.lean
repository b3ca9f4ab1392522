import Grouproxy.Model.Sites
import Grouproxy.Verification.Backend.BlacklistChanges

/-! # The routing revision of a site

Routing updates, renames, shutdowns, blacklist changes and releases, interleaved at every
operation. The revision is a lock as long as no rename and no shutdown saves a copy of the site
that was read before a routing update.
-/

namespace Grouproxy.Backend

open Text Ipaddress Encoding Crypto Cidr Programs

/-! ## The routing of a site -/

/-- The policy of a site and its revision. -/
def Store.routing (s : Store) (siteId : String) : Option (Option Json × Nat) :=
  (s.site? siteId).map fun site => (site.routingPolicy, site.routingRevision)

section Routing

variable {s s' : Store} {siteId : String} {label : Label}

/-- An operation that leaves the routing of every site alone. -/
def KeepsRouting (_ : Label) (s s' : Store) : Prop := ∀ siteId, s'.routing siteId = s.routing siteId

/-- A change of the sites that keeps their identifiers. -/
theorem site?_map {f : Site → Site} (hid : ∀ site, (f site).id = site.id) (s : Store)
    (siteId : String) :
    ({ s with sites := s.sites.map f }).site? siteId = (s.site? siteId).map f := by
  have hids : ((fun site : Site => site.id == siteId) ∘ f) = fun site => site.id == siteId := by
    funext site
    rw [Function.comp_apply, hid]
  rw [Store.site?, Store.site?, List.find?_map, hids]

theorem KeepsRouting.of_sites (h : s'.sites = s.sites) : KeepsRouting label s s' := by
  intro siteId
  rw [Store.routing, Store.routing, Store.site?, Store.site?, h]

theorem keepsRouting_setRevision (siteId : String) (revision : Nat) :
    KeepsRouting label s { s with sites := s.sites.map fun other =>
      if other.id = siteId then { other with configRevision := revision } else other } := by
  intro other
  rw [Store.routing, Store.routing, site?_map, Option.map_map]
  · congr 1
    funext site
    rw [Function.comp_apply]
    split
    · rfl
    · rfl
  · intro site
    split
    · rfl
    · rfl

end Routing

/-! ## Releases and blacklist changes -/

section Backend

variable {settings : Settings} {draws : Draws} {draft : ConfigDraft} {site : Site}

theorem find_keepsRouting {α : Type} {label : Label} {query : Store → α} :
    (find label query).Uses KeepsRouting :=
  find_uses fun _ => .of_sites rfl

/-- A write to another collection. -/
theorem update_keepsRouting {label : Label} {write : Store → Store}
    (h : ∀ s, (write s).sites = s.sites) : (update label write).Uses KeepsRouting :=
  update_uses fun s => .of_sites (h s)

theorem insert_keepsRouting {label : Label} {taken : Store → Bool} {write : Store → Store}
    (h : ∀ s, (write s).sites = s.sites) : (insert label taken write).Uses KeepsRouting :=
  insert_uses (fun _ _ => .of_sites rfl) fun s _ => .of_sites (h s)

theorem createDesiredRelease_keepsRouting {nodes : List Node} {proxySelection routingPolicy : Json} :
    (createDesiredRelease settings draws site nodes proxySelection routingPolicy).Uses
      KeepsRouting :=
  createDesiredRelease_uses (fun _ _ => .of_sites rfl) (fun _ _ _ => .of_sites rfl)
    fun _ _ revision => keepsRouting_setRevision site.id revision

theorem createTask_keepsRouting {key : String} : (createTask draws key).Uses KeepsRouting := by
  refine createTask_uses.mono fun label s s' h => ?_
  obtain ⟨-, rfl | ⟨task, -, -, rfl⟩⟩ := h
  · exact .of_sites rfl
  · exact .of_sites rfl

theorem publishDraft_keepsRouting {selected : List Node} {key : String} :
    (publishDraft settings draws draft site selected key).Uses KeepsRouting := by
  refine .bind (.tryCatch createDesiredRelease_keepsRouting fun _ => .throw _) fun created => ?_
  refine .bind createTask_keepsRouting fun task => ?_
  refine .bind (insert_keepsRouting fun _ => rfl) fun _ => ?_
  refine .bind (update_keepsRouting fun _ => rfl) fun _ => ?_
  exact .bind (update_keepsRouting fun _ => rfl) fun _ => .pure _

theorem activeConfigReleaseForNodes_keepsRouting {label : Label} {nodes : List Node} :
    (activeConfigReleaseForNodes label nodes).Uses KeepsRouting := by
  rw [activeConfigReleaseForNodes]
  split
  · exact .pure _
  · exact find_keepsRouting

theorem createReleaseFromDraft_keepsRouting {nodeIds : List String} {expected : Option Int}
    {key : String} :
    (createReleaseFromDraft settings draws draft site nodeIds expected key).Uses KeepsRouting := by
  refine .bind (.bind find_keepsRouting fun task => ?_) fun existing => ?_
  · cases task with
    | none => exact .pure _
    | some task => exact find_keepsRouting
  · cases existing with
    | some release => exact .pure _
    | none =>
        refine .bind reject_uses fun _ => .bind reject_uses fun _ => ?_
        refine .bind find_keepsRouting fun nodes => .bind reject_uses fun _ => ?_
        refine .bind activeConfigReleaseForNodes_keepsRouting fun active => ?_
        refine .bind reject_uses fun _ => .bind find_keepsRouting fun current => ?_
        exact .bind reject_uses fun _ => publishDraft_keepsRouting

theorem blacklistValidationForNodes_keepsRouting (nodes : List Node) :
    (blacklistValidationForNodes nodes).Uses KeepsRouting := by
  induction nodes with
  | nil => exact .pure _
  | cons node rest ih => exact .bind find_keepsRouting fun _ => ih

theorem distributeToSite_keepsRouting {operation : String} {rule : SourceBlacklist}
    {plan : SourceBlacklistReleasePlan} (hnodes : plan.nodes ≠ []) :
    (distributeToSite settings draws operation rule plan).Uses KeepsRouting := by
  rw [distributeToSite, if_neg hnodes]
  refine .bind (blacklistValidationForNodes_keepsRouting _) fun _ => ?_
  refine .bind (update_keepsRouting fun _ => rfl) fun _ => ?_
  refine .bind (.tryCatch createReleaseFromDraft_keepsRouting fun e => ?_) fun created => ?_
  · exact .bind (update_keepsRouting fun _ => rfl) fun _ => .throw _
  · refine .bind ?_ fun _ => .pure _
    rw [retireIfReused]
    split
    · exact update_keepsRouting fun _ => rfl
    · exact .pure _

theorem distribute_keepsRouting {draws : String → Draws} {operation : String}
    {rule : SourceBlacklist} {plans : List SourceBlacklistReleasePlan}
    (hnodes : ∀ plan ∈ plans, plan.nodes ≠ []) :
    (distributeSourceBlacklistChange settings draws operation rule plans).Uses KeepsRouting := by
  induction plans with
  | nil => exact .pure _
  | cons plan rest ih =>
      refine .bind (distributeToSite_keepsRouting (hnodes plan List.mem_cons_self)) fun _ => ?_
      exact .bind (ih fun other hother => hnodes other (List.mem_cons_of_mem plan hother)) fun _ =>
        .pure _

theorem blacklistNodes_keepsRouting (nodeIds : List String) :
    (blacklistNodes nodeIds).Uses KeepsRouting := by
  have hcollect : ∀ seen, (collectBlacklistNodes seen nodeIds).Uses KeepsRouting := by
    induction nodeIds with
    | nil => exact fun _ => .pure _
    | cons raw rest ih =>
        intro seen
        rw [collectBlacklistNodes]
        split
        · exact ih seen
        · refine .bind (.bind find_keepsRouting fun found => ?_) fun found => ?_
          · cases found with
            | some node => exact .pure _
            | none => exact find_keepsRouting
          · cases found with
            | none => exact .throw _
            | some node => exact .bind (ih _) fun _ => .pure _
  exact .bind (hcollect []) fun _ => .bind reject_uses fun _ => .pure _

theorem planSites_keepsRouting (groups : List (String × List Node)) :
    (planSites groups).Uses KeepsRouting := by
  induction groups with
  | nil => exact .pure _
  | cons group rest ih =>
      refine .bind find_keepsRouting fun found => ?_
      cases found with
      | none => exact .throw _
      | some site =>
          refine .bind activeConfigReleaseForNodes_keepsRouting fun active => ?_
          cases active with
          | some active => exact .throw _
          | none => exact .bind ih fun _ => .pure _

/-- Every plan is for a site with nodes, so no change only advances a revision. -/
theorem planSites_yields {groups : List (String × List Node)}
    (hgroups : ∀ group ∈ groups, group.2 ≠ []) :
    (planSites groups).Yields fun plans => ∀ plan ∈ plans, plan.nodes ≠ [] := by
  induction groups with
  | nil => exact fun _ h => nomatch h
  | cons group rest ih =>
      refine .bind (Prog.yields_true _) fun found _ => ?_
      cases found with
      | none => trivial
      | some site =>
          refine .bind (Prog.yields_true _) fun active _ => ?_
          cases active with
          | some active => trivial
          | none =>
              refine .bind (ih fun other hother => hgroups other (List.mem_cons_of_mem group hother))
                fun plans hplans => ?_
              intro plan hplan
              rcases List.mem_cons.mp hplan with rfl | hplan
              · exact hgroups group List.mem_cons_self
              · exact hplans plan hplan

theorem plansIfEnabled_keepsRouting {enabled : Bool} {nodeIds : List String} :
    (plansIfEnabled enabled nodeIds).Uses KeepsRouting ∧
      (plansIfEnabled enabled nodeIds).Yields fun plans => ∀ plan ∈ plans, plan.nodes ≠ [] := by
  rw [plansIfEnabled]
  split
  · exact ⟨.bind (blacklistNodes_keepsRouting _) fun _ => planSites_keepsRouting _,
      .bind (Prog.yields_true _) fun nodes _ =>
        planSites_yields fun group hgroup => (mem_groupBySite hgroup).1⟩
  · exact ⟨.pure _, fun _ h => nomatch h⟩

theorem distributeIfEnabled_keepsRouting {draws : String → Draws} {operation : String}
    {rule : SourceBlacklist} {nodeIds : List String} {plans : List SourceBlacklistReleasePlan}
    (hnodes : ∀ plan ∈ plans, plan.nodes ≠ []) :
    (distributeIfEnabled settings draws operation rule nodeIds plans).Uses KeepsRouting := by
  rw [distributeIfEnabled]
  split
  · exact .bind (distribute_keepsRouting hnodes) fun _ => .pure _
  · exact .bind (.bind (blacklistNodes_keepsRouting _) fun _ => .pure _) fun _ => .pure _

theorem addSourceBlacklist_keepsRouting {draws : String → Draws} {newId : String → String}
    {payload : SourceBlacklistCreate} :
    (addSourceBlacklist settings draws newId payload).Uses KeepsRouting := by
  have hrefuse : ∀ nodeIds, (refuseExisting payload nodeIds).Uses KeepsRouting := by
    intro nodeIds
    induction nodeIds with
    | nil => exact .pure _
    | cons nodeId rest ih => exact .bind find_keepsRouting fun _ => .bind reject_uses fun _ => ih
  have hinsert : ∀ rows, (insertRows rows).Uses KeepsRouting := by
    intro rows
    induction rows with
    | nil => exact .pure _
    | cons row rest ih => exact .bind (insert_keepsRouting fun _ => rfl) fun _ => ih
  refine .bind (hrefuse _) fun _ => ?_
  refine .bind_yields plansIfEnabled_keepsRouting.1 plansIfEnabled_keepsRouting.2
    fun plans hplans => ?_
  refine .bind (hinsert _) fun _ => .bind (distributeIfEnabled_keepsRouting hplans) fun _ => ?_
  exact update_keepsRouting fun _ => rfl

theorem deleteSourceBlacklist_keepsRouting {draws : String → Draws} {entryId : String} :
    (deleteSourceBlacklist settings draws entryId).Uses KeepsRouting := by
  refine .bind find_keepsRouting fun found => ?_
  cases found with
  | none => exact .throw _
  | some item =>
      refine .bind_yields plansIfEnabled_keepsRouting.1 plansIfEnabled_keepsRouting.2
        fun plans hplans => ?_
      refine .bind (update_keepsRouting fun _ => rfl) fun _ => ?_
      exact .bind (distributeIfEnabled_keepsRouting hplans) fun _ => update_keepsRouting fun _ => rfl

end Backend

/-! ## Requests -/

/-- The requests that write documents of sites, and a release with its arguments. -/
inductive SiteRequest where
  | updateRouting (siteId : String) (payload : RoutingUpdate)
  | updateName (siteId name : String)
  | setShutdown (siteId : String) (shutdown : Bool)
  | addBlacklist (draws : String → Draws) (newId : String → String)
      (payload : SourceBlacklistCreate)
  | deleteBlacklist (draws : String → Draws) (entryId : String)
  | release (draws : Draws) (site : Site) (nodes : List Node) (proxySelection routingPolicy : Json)

def SiteRequest.program (settings : Settings) : SiteRequest → SiteHandler Unit
  | .updateRouting siteId payload => updateSiteRouting siteId payload
  | .updateName siteId name => updateSiteName siteId name
  | .setShutdown siteId shutdown => Backend.setShutdown siteId shutdown
  | .addBlacklist draws newId payload =>
    (addSourceBlacklist settings draws newId payload).relabel .backend
  | .deleteBlacklist draws entryId =>
    (deleteSourceBlacklist settings draws entryId).relabel .backend
  | .release draws site nodes proxySelection routingPolicy => do
    let _ ← (createDesiredRelease settings draws site nodes proxySelection routingPolicy).relabel
      .backend
    return ()

/-- What a request keeps of what it did: its copy of the site, and whether its update matched. -/
structure SiteNote where
  request : SiteRequest
  copy : Option Site
  updated : Bool

def siteNext (g : SiteNote) : SiteLabel → Store → SiteNote
  | .find siteId, s => { g with copy := s.site? siteId }
  | .updateRouting siteId expectedRevision _, s =>
    { g with updated := g.updated || s.atRevision siteId expectedRevision }
  | _, _ => g

inductive RoutingStep (g : SiteNote) : SiteLabel → Store → Store → Prop where
  | audit {s : Store} : RoutingStep g .other s s
  | backend {label : Label} {s s' : Store} (hrouting : KeepsRouting label s s') :
      RoutingStep g (.backend label) s s'
  | find {siteId : String} {s : Store} : RoutingStep g (.find siteId) s s
  | save {copy site : Site} {s : Store} (hcopy : g.copy = some copy) (hid : site.id = copy.id)
      (hpolicy : site.routingPolicy = copy.routingPolicy)
      (hrevision : site.routingRevision = copy.routingRevision) :
      RoutingStep g (.save site) s (s.saveSite site)
  | update {siteId : String} {payload : RoutingUpdate} {s s' : Store}
      (hrequest : g.request = .updateRouting siteId payload)
      (hstore : s' = if s.atRevision siteId payload.expectedRevision then
        s.setRouting siteId payload.policy.modelDump else s) :
      RoutingStep g (.updateRouting siteId payload.expectedRevision payload.policy.modelDump) s s'

/-- A routing update that returns has matched. -/
def Matched (g : SiteNote) (r : Except Failure Unit) : Prop :=
  ∀ siteId payload, g.request = .updateRouting siteId payload → r = .ok () → g.updated = true

abbrev KeepsLock {α : Type} (g : SiteNote) (p : SiteHandler α)
    (Q : SiteNote → Except Failure α → Prop) : Prop :=
  p.Follows siteNext (fun _ _ => True) RoutingStep Q g

section Requests

variable {settings : Settings} {g : SiteNote} {siteId : String}

/-- A request of another kind matches nothing. -/
theorem Matched.of_other {r : Except Failure Unit}
    (h : ∀ siteId payload, g.request ≠ .updateRouting siteId payload) : Matched g r :=
  fun siteId payload hrequest => absurd hrequest (h siteId payload)

theorem relabel_keepsLock {α : Type} {p : Handler α} (h : p.Uses KeepsRouting) :
    KeepsLock g (p.relabel .backend) fun g' _ => g' = g := by
  have hrelabel : (p.relabel SiteLabel.backend).Uses fun l s s' =>
      ∃ label, l = .backend label ∧ KeepsRouting label s s' :=
    h.relabel fun label s s' hkeeps => ⟨label, rfl, hkeeps⟩
  refine hrelabel.follows fun l s s' hstep => ?_
  obtain ⟨label, rfl, hrouting⟩ := hstep
  exact ⟨.backend hrouting, rfl⟩

theorem appendSiteAudit_keepsLock {Q : SiteNote → Except Failure Unit → Prop} (h : Q g (.ok ())) :
    KeepsLock g appendSiteAudit Q :=
  .atomic (fun _ _ => .audit) fun _ _ => h

/-- The copy is saved with other fields changed. -/
theorem saveSite_keepsLock (copy site : Site) (hcopy : g.copy = some copy)
    (hid : site.id = copy.id) (hpolicy : site.routingPolicy = copy.routingPolicy)
    (hrevision : site.routingRevision = copy.routingRevision)
    {Q : SiteNote → Except Failure Unit → Prop} (h : Q g (.ok ())) :
    KeepsLock g (do saveSite site; appendSiteAudit) Q :=
  .write_bind (fun _ _ => .save hcopy hid hpolicy hrevision) fun _ _ => appendSiteAudit_keepsLock h

theorem updateSiteName_keepsLock {name : String}
    (h : ∀ siteId payload, g.request ≠ .updateRouting siteId payload) :
    KeepsLock g (updateSiteName siteId name) Matched := by
  refine .read_bind (fun _ _ => .find) fun s _ => ?_
  rw [siteNext]
  cases s.site? siteId with
  | none => exact .done (.of_other h)
  | some site =>
      dsimp only
      generalize joinWords name = words
      refine .reject_bind (fun _ => .of_other h) fun _ => ?_
      refine .reject_bind (fun _ => .of_other h) fun _ => ?_
      split
      · exact saveSite_keepsLock site { site with name := words } rfl rfl rfl rfl (.of_other h)
      · exact .done (.of_other h)

theorem setShutdown_keepsLock {shutdown : Bool}
    (h : ∀ siteId payload, g.request ≠ .updateRouting siteId payload) :
    KeepsLock g (setShutdown siteId shutdown) Matched := by
  refine .read_bind (fun _ _ => .find) fun s _ => ?_
  rw [siteNext]
  cases s.site? siteId with
  | none => exact .done (.of_other h)
  | some site =>
      exact saveSite_keepsLock site
        { site with shutdown := shutdown, configRevision := site.configRevision + 1 }
        rfl rfl rfl rfl (.of_other h)

theorem updateSiteRouting_keepsLock {payload : RoutingUpdate}
    (hrequest : g.request = .updateRouting siteId payload) (hupdated : g.updated = false) :
    KeepsLock g (updateSiteRouting siteId payload) Matched := by
  refine .read_bind (fun _ _ => .find) fun s _ => ?_
  rw [siteNext]
  cases s.site? siteId with
  | none => exact .done fun _ _ _ h => nomatch h
  | some site =>
      refine Prog.Follows.bind
        (Q := fun g' r => ∀ matched, r = .ok matched → g'.updated = matched)
        (.atomic (fun t _ => ?_) fun t _ => ?_) (fun g' matched hmatched => ?_)
        fun _ _ _ _ _ _ h => nomatch h
      · refine .update hrequest ?_
        split <;> rfl
      · intro matched h
        rw [siteNext, hupdated, Bool.false_or]
        split at h
        · rename_i hat
          exact hat.trans (Except.ok.inj h)
        · rename_i hat
          exact (Bool.eq_false_iff.mpr hat).trans (Except.ok.inj h)
      · refine .reject_bind (fun _ _ _ _ h => nomatch h) fun hne => ?_
        refine appendSiteAudit_keepsLock fun _ _ _ _ => ?_
        rw [hmatched matched rfl]
        simpa using hne

theorem SiteRequest.program_keepsLock (request : SiteRequest) :
    KeepsLock ⟨request, none, false⟩ (request.program settings) Matched := by
  cases request with
  | updateRouting siteId payload => exact updateSiteRouting_keepsLock rfl rfl
  | updateName siteId name => exact updateSiteName_keepsLock fun _ _ h => nomatch h
  | setShutdown siteId shutdown => exact setShutdown_keepsLock fun _ _ h => nomatch h
  | addBlacklist draws newId payload =>
      refine (relabel_keepsLock addSourceBlacklist_keepsRouting).mono fun g' r hg => ?_
      rw [hg]
      exact .of_other fun _ _ h => nomatch h
  | deleteBlacklist draws entryId =>
      refine (relabel_keepsLock deleteSourceBlacklist_keepsRouting).mono fun g' r hg => ?_
      rw [hg]
      exact .of_other fun _ _ h => nomatch h
  | release draws site nodes proxySelection routingPolicy =>
      refine Prog.Follows.bind (relabel_keepsLock createDesiredRelease_keepsRouting)
        (fun g' _ hg => ?_) fun g' _ hg => ?_
      · rw [hg]
        exact .done (.of_other fun _ _ h => nomatch h)
      · rw [hg]
        exact .of_other fun _ _ h => nomatch h

end Requests

/-! ## One operation -/

/-- The copy that is saved has the revision that is stored: no routing update came in between. -/
def SiteLabel.Current (s : Store) : SiteLabel → Prop
  | .save site => ∀ stored ∈ s.site? site.id, stored.routingRevision = site.routingRevision
  | _ => True

instance (s : Store) : (l : SiteLabel) → Decidable (l.Current s)
  | .save site => inferInstanceAs (Decidable
      (∀ stored ∈ s.site? site.id, stored.routingRevision = site.routingRevision))
  | .other | .backend _ | .find _ | .updateRouting _ _ _ => isTrue trivial

/-- The operation accepts a policy for a site. -/
def SiteLabel.Accepts (s : Store) (siteId : String) (policy : Json) (l : SiteLabel) : Prop :=
  ∃ site, s.site? siteId = some site ∧ l = .updateRouting siteId site.routingRevision policy

/-- The copy is not ahead of the stored site, and has its policy if it has its revision. -/
def Site.Behind (copy : Site) (s : Store) : Prop :=
  ∀ site, s.site? copy.id = some site → copy.routingRevision ≤ site.routingRevision ∧
    (copy.routingRevision = site.routingRevision → copy.routingPolicy = site.routingPolicy)

section Step

variable {g : SiteNote} {l : SiteLabel} {s s' : Store} {siteId : String} {policy : Json}

theorem routing_eq_some {revision : Nat} {policy? : Option Json} :
    s.routing siteId = some (policy?, revision) ↔ ∃ site, s.site? siteId = some site ∧
      site.routingPolicy = policy? ∧ site.routingRevision = revision := by
  rw [Store.routing, Option.map_eq_some_iff]
  constructor
  · rintro ⟨site, hsite, heq⟩
    cases heq
    exact ⟨site, hsite, rfl, rfl⟩
  · rintro ⟨site, hsite, rfl, rfl⟩
    exact ⟨site, hsite, rfl⟩

theorem site?_setRouting (s : Store) (siteId : String) (policy : Json) (other : String) :
    (s.setRouting siteId policy).site? other = (s.site? other).map fun site =>
      if site.id = siteId then { site with
        routingPolicy := some policy, routingRevision := site.routingRevision + 1 } else site := by
  refine site?_map (fun site => ?_) s other
  split
  · rfl
  · rfl

theorem site?_saveSite (s : Store) (site : Site) (other : String) :
    (s.saveSite site).site? other =
      (s.site? other).map fun stored => if stored.id = site.id then site else stored := by
  refine site?_map (fun stored => ?_) s other
  split
  · rename_i hid
    exact hid.symm
  · rfl

/-- The routing of the other sites stays as it is. -/
theorem routing_setRouting (s : Store) (siteId : String) (policy : Json) (other : String) :
    (s.setRouting siteId policy).routing other =
      if other = siteId then (s.routing other).map fun routing => (some policy, routing.2 + 1)
      else s.routing other := by
  rw [Store.routing, site?_setRouting, Store.routing]
  cases hsite : s.site? other with
  | none => simp
  | some site =>
      rw [← (site?_id hsite).1]
      by_cases hid : site.id = siteId
      · simp [hid]
      · simp [hid]

/-- A save of a current copy leaves the routing of every site alone. -/
theorem routing_saveSite {copy site : Site} (hid : site.id = copy.id)
    (hpolicy : site.routingPolicy = copy.routingPolicy)
    (hrevision : site.routingRevision = copy.routingRevision) (hbehind : copy.Behind s)
    (hcurrent : SiteLabel.Current s (.save site)) (other : String) :
    (s.saveSite site).routing other = s.routing other := by
  rw [Store.routing, site?_saveSite, Store.routing, Option.map_map]
  cases hstored : s.site? other with
  | none => rfl
  | some stored =>
      rw [Option.map_some, Option.map_some, Function.comp_apply]
      split
      · rename_i hsame
        rw [← (site?_id hstored).1, hsame] at hstored
        have hstoredRevision := hcurrent stored hstored
        rw [hid] at hstored
        have hstoredPolicy := (hbehind stored hstored).2 (hrevision.symm.trans hstoredRevision.symm)
        rw [hpolicy, hstoredPolicy, hstoredRevision]
      · rfl

/-- What an operation does to the routing of a site: nothing, unless it accepts a policy. -/
theorem RoutingStep.routing (h : RoutingStep g l s s') (hcurrent : l.Current s)
    (hbehind : ∀ copy, g.copy = some copy → copy.Behind s) (siteId : String) :
    s'.routing siteId = s.routing siteId ∨ ∃ policy revision old, l.Accepts s siteId policy ∧
      s.routing siteId = some (old, revision) ∧
      s'.routing siteId = some (some policy, revision + 1) := by
  cases h with
  | audit | find => exact .inl rfl
  | backend hrouting => exact .inl (hrouting siteId)
  | save hcopy hid hpolicy hrevision =>
      exact .inl (routing_saveSite hid hpolicy hrevision (hbehind _ hcopy) hcurrent siteId)
  | @update updated payload _ _ hrequest hstore =>
      split at hstore
      · rename_i hat
        rw [hstore, routing_setRouting]
        split
        · rename_i hsame
          subst hsame
          rw [Store.atRevision, Option.any_eq_true] at hat
          obtain ⟨site, hsite, hmatched⟩ := hat
          refine .inr ⟨payload.policy.modelDump, site.routingRevision, site.routingPolicy,
            ⟨site, hsite, ?_⟩, routing_eq_some.mpr ⟨site, hsite, rfl, rfl⟩, ?_⟩
          · rw [beq_iff_eq.mp hmatched]
          · rw [routing_eq_some.mpr ⟨site, hsite, rfl, rfl⟩]
            rfl
        · exact .inl rfl
      · rw [hstore]
        exact .inl rfl

/-- A policy that is accepted is stored, at the next revision. -/
theorem RoutingStep.accepted (h : RoutingStep g l s s') (haccepts : l.Accepts s siteId policy) :
    ∃ site, s.site? siteId = some site ∧
      s'.routing siteId = some (some policy, site.routingRevision + 1) := by
  obtain ⟨site, hsite, hlabel⟩ := haccepts
  cases h with
  | audit | backend | find | save => cases hlabel
  | @update updated payload _ _ hrequest hstore =>
      obtain ⟨rfl, hrevision, rfl⟩ := SiteLabel.updateRouting.inj hlabel
      have hat : s.atRevision updated payload.expectedRevision = true := by
        rw [Store.atRevision, hsite]
        exact beq_iff_eq.mpr hrevision.symm
      refine ⟨site, hsite, ?_⟩
      rw [hstore, if_pos hat, routing_setRouting, if_pos rfl,
        routing_eq_some.mpr ⟨site, hsite, rfl, rfl⟩]
      rfl

/-- The revision of a site stays, with its policy, or it grows. -/
structure Advanced (s s' : Store) (siteId : String) (site site' : Site) : Prop where
  before : s.site? siteId = some site
  after : s'.site? siteId = some site'
  grown : site.routingRevision < site'.routingRevision ∨
    (site'.routingRevision = site.routingRevision ∧ site'.routingPolicy = site.routingPolicy)

theorem RoutingStep.advanced (h : RoutingStep g l s s') (hcurrent : l.Current s)
    (hbehind : ∀ copy, g.copy = some copy → copy.Behind s) (siteId : String) :
    (s.site? siteId = none ∧ s'.site? siteId = none) ∨
      ∃ site site', Advanced s s' siteId site site' := by
  rcases h.routing hcurrent hbehind siteId with hsame | ⟨policy, revision, old, -, hold, hnew⟩
  · cases hsite : s.site? siteId with
    | none =>
        rw [Store.routing, Store.routing, hsite] at hsame
        exact .inl ⟨rfl, Option.map_eq_none_iff.mp hsame⟩
    | some site =>
        rw [routing_eq_some.mpr ⟨site, hsite, rfl, rfl⟩] at hsame
        obtain ⟨site', hsite', hpolicy, hrevision⟩ := routing_eq_some.mp hsame
        exact .inr ⟨site, site', hsite, hsite', .inr ⟨hrevision, hpolicy⟩⟩
  · obtain ⟨site, hsite, -, hrevision⟩ := routing_eq_some.mp hold
    obtain ⟨site', hsite', -, hrevision'⟩ := routing_eq_some.mp hnew
    exact .inr ⟨site, site', hsite, hsite', .inl (by omega)⟩

/-- What a request has read stays behind, also what it reads now. -/
theorem RoutingStep.behind (h : RoutingStep g l s s') (hcurrent : l.Current s)
    (hbehind : ∀ copy, g.copy = some copy → copy.Behind s) {copy : Site}
    (hcopy : copy.Behind s) : copy.Behind s' := by
  intro site' hsite'
  rcases h.advanced hcurrent hbehind copy.id with ⟨-, hnone⟩ | ⟨site, other, hadvanced⟩
  · rw [hnone] at hsite'
    cases hsite'
  · cases hadvanced.after.symm.trans hsite'
    obtain ⟨hle, hequal⟩ := hcopy site hadvanced.before
    rcases hadvanced.grown with hlt | ⟨hrevision, hpolicy⟩
    · exact ⟨by omega, fun heq => by omega⟩
    · rw [hrevision, hpolicy]
      exact ⟨hle, hequal⟩

theorem RoutingStep.copy_behind (h : RoutingStep g l s s') (hcurrent : l.Current s)
    (hbehind : ∀ copy, g.copy = some copy → copy.Behind s) {copy : Site}
    (hcopy : (siteNext g l s).copy = some copy) : copy.Behind s' := by
  have hold : g.copy = some copy → copy.Behind s' :=
    fun hcopy => h.behind hcurrent hbehind (hbehind copy hcopy)
  cases h with
  | audit | backend | save | update => exact hold hcopy
  | @find siteId _ =>
      have hread : s.site? siteId = some copy := hcopy
      intro site hsite
      rw [(site?_id hread).1, hread] at hsite
      cases hsite
      exact ⟨le_refl _, fun _ => rfl⟩

/-- A request that has matched before has, or it matches now the revision that it expects. -/
theorem RoutingStep.matched (h : RoutingStep g l s s') (hupdated : (siteNext g l s).updated = true) :
    g.updated = true ∨ ∃ siteId payload site, g.request = .updateRouting siteId payload ∧
      s.site? siteId = some site ∧ site.routingRevision = payload.expectedRevision ∧
      l.Accepts s siteId payload.policy.modelDump := by
  cases h with
  | audit | backend | find | save => exact .inl hupdated
  | @update siteId payload _ _ hrequest hstore =>
      rw [siteNext, Bool.or_eq_true] at hupdated
      rcases hupdated with hold | hat
      · exact .inl hold
      · rw [Store.atRevision, Option.any_eq_true] at hat
        obtain ⟨site, hsite, hrevision⟩ := hat
        refine .inr ⟨siteId, payload, site, hrequest, hsite, beq_iff_eq.mp hrevision, site, hsite, ?_⟩
        rw [beq_iff_eq.mp hrevision]

end Step

/-! ## Runs -/

variable {ι : Type} [DecidableEq ι]

abbrev SitePool (ι : Type) := Pool ι SiteLabel Store Failure Unit SiteNote

/-- All requests of an index type, before any of them has moved. -/
def startSiteRequests (settings : Settings) (requests : ι → SiteRequest) (s : Store) : SitePool ι where
  thread i := (requests i).program settings
  note i := ⟨requests i, none, false⟩
  store := s

/-- The request saves no copy of a site that a routing update has left behind. -/
def SitePool.Current (p : SitePool ι) (i : ι) : Prop :=
  ∀ l ∈ (p.thread i).label?, l.Current p.store

instance (p : SitePool ι) (i : ι) : Decidable (SitePool.Current p i) :=
  inferInstanceAs (Decidable (∀ l ∈ (p.thread i).label?, l.Current p.store))

/-- The next operation of the request accepts a policy for a site. -/
def SitePool.Accepts (p : SitePool ι) (i : ι) (siteId : String) (policy : Json) : Prop :=
  ∃ l ∈ (p.thread i).label?, l.Accepts p.store siteId policy

/-- What a run of a pool of requests promises. -/
structure RoutingLocked (requests : ι → SiteRequest) (p : SitePool ι) (schedule : List ι) :
    Prop where
  monotone : ∀ first rest siteId site, schedule = first ++ rest →
    (p.run siteNext first).store.site? siteId = some site →
    ∃ site', (p.run siteNext schedule).store.site? siteId = some site' ∧
      site.routingRevision ≤ site'.routingRevision
  once : ∀ i j siteId payload payload', requests i = .updateRouting siteId payload →
    requests j = .updateRouting siteId payload' →
    payload.expectedRevision = payload'.expectedRevision →
    (p.run siteNext schedule).thread i = .done (.ok ()) →
    (p.run siteNext schedule).thread j = .done (.ok ()) → i = j
  accepted : ∀ first i rest siteId policy, schedule = first ++ i :: rest →
    SitePool.Accepts (p.run siteNext first) i siteId policy →
    (p.run siteNext (first ++ [i])).Meets siteNext
      (fun p j => ∀ policy', ¬ SitePool.Accepts p j siteId policy') rest →
    ∃ site, (p.run siteNext schedule).store.site? siteId = some site ∧
      site.routingPolicy = some policy

structure LockInv (requests : ι → SiteRequest) (p : SitePool ι) : Prop where
  request : ∀ i, (p.note i).request = requests i
  behind : ∀ i copy, (p.note i).copy = some copy → copy.Behind p.store
  updated : ∀ i siteId payload, requests i = .updateRouting siteId payload →
    (p.note i).updated = true → ∀ site, p.store.site? siteId = some site →
      payload.expectedRevision < site.routingRevision
  once : ∀ i j siteId payload payload', requests i = .updateRouting siteId payload →
    requests j = .updateRouting siteId payload' →
    payload.expectedRevision = payload'.expectedRevision →
    (p.note i).updated = true → (p.note j).updated = true → i = j

theorem siteNext_request (g : SiteNote) (l : SiteLabel) (s : Store) :
    (siteNext g l s).request = g.request := by
  cases l <;> rfl

section Run

variable {requests : ι → SiteRequest} {p : SitePool ι} {i : ι} {l : SiteLabel}
  {w : Store → Store} {n : Store → SiteHandler Unit} {k : SiteHandler Unit}

/-- A request that has matched was there before, or it moves now and no other request has matched
the same revision. -/
theorem LockInv.matched (h : LockInv requests p) (hthread : p.thread i = .op l w n k)
    (hallowed : RoutingStep (p.note i) l p.store (w p.store)) {j : ι}
    (hupdated : ((p.step siteNext i).note j).updated = true) :
    (p.note j).updated = true ∨ (j = i ∧ ∃ siteId payload site,
      requests i = .updateRouting siteId payload ∧ p.store.site? siteId = some site ∧
      site.routingRevision = payload.expectedRevision ∧
      l.Accepts p.store siteId payload.policy.modelDump) := by
  by_cases hj : j = i
  · subst hj
    rw [Pool.step_note_self hthread] at hupdated
    rcases hallowed.matched hupdated with hold | ⟨siteId, payload, site, hrequest, hrest⟩
    · exact .inl hold
    · rw [h.request] at hrequest
      exact .inr ⟨rfl, siteId, payload, site, hrequest, hrest⟩
  · rw [Pool.step_note_of_ne p hj] at hupdated
    exact .inl hupdated

theorem LockInv.step (h : LockInv requests p) (hthread : p.thread i = .op l w n k)
    (hallowed : RoutingStep (p.note i) l p.store (w p.store)) (hcurrent : SitePool.Current p i) :
    LockInv requests (p.step siteNext i) := by
  have hlabel : l.Current p.store := hcurrent l (by rw [hthread]; rfl)
  have hstore : (p.step siteNext i).store = w p.store := Pool.step_store hthread
  constructor
  · intro j
    by_cases hj : j = i
    · subst hj
      rw [Pool.step_note_self hthread, siteNext_request]
      exact h.request j
    · rw [Pool.step_note_of_ne p hj]
      exact h.request j
  · intro j copy hcopy
    rw [hstore]
    by_cases hj : j = i
    · subst hj
      rw [Pool.step_note_self hthread] at hcopy
      exact hallowed.copy_behind hlabel (h.behind j) hcopy
    · rw [Pool.step_note_of_ne p hj] at hcopy
      exact hallowed.behind hlabel (h.behind i) (h.behind j copy hcopy)
  · intro j siteId payload hrequest hupdated site' hsite'
    rw [hstore] at hsite'
    rcases h.matched hthread hallowed hupdated with hold | ⟨rfl, _, _, site, hmatched, hsite, hrevision, haccepts⟩
    · rcases hallowed.advanced hlabel (h.behind i) siteId with ⟨-, hnone⟩ | ⟨site, other, hadvanced⟩
      · rw [hnone] at hsite'
        cases hsite'
      · cases hadvanced.after.symm.trans hsite'
        have hlt := h.updated j siteId payload hrequest hold site hadvanced.before
        rcases hadvanced.grown with hgrown | ⟨hsame, -⟩
        · omega
        · omega
    · cases hrequest.symm.trans hmatched
      obtain ⟨same, hsame, hrouting⟩ := hallowed.accepted haccepts
      cases hsite.symm.trans hsame
      obtain ⟨stored, hstored, -, hbumped⟩ := routing_eq_some.mp hrouting
      cases hstored.symm.trans hsite'
      omega
  · intro j j' siteId payload payload' hj hj' hexpected hupdated hupdated'
    rcases h.matched hthread hallowed hupdated with hold | ⟨rfl, _, _, site, hmatched, hsite, hrevision, -⟩
    · rcases h.matched hthread hallowed hupdated' with hold' | ⟨rfl, _, _, site, hmatched, hsite, hrevision, -⟩
      · exact h.once j j' siteId payload payload' hj hj' hexpected hold hold'
      · cases hj'.symm.trans hmatched
        have hlt := h.updated j siteId payload hj hold site hsite
        omega
    · rcases h.matched hthread hallowed hupdated' with hold' | ⟨rfl, -⟩
      · cases hj.symm.trans hmatched
        have hlt := h.updated j' siteId payload' hj' hold' site hsite
        omega
      · rfl

/-- What no operation of a run changes of the store, with the invariant at hand. -/
theorem LockInv.run {K : Store → Prop} {cond : SitePool ι → ι → Prop}
    (hkeep : ∀ (p : SitePool ι) i l s', LockInv requests p → (p.thread i).label? = some l →
      RoutingStep (p.note i) l p.store s' → l.Current p.store → cond p i → K p.store → K s')
    {schedule : List ι}
    (hfollow : p.Follow siteNext (fun _ _ => True) RoutingStep Matched)
    (hmeets : p.Meets siteNext (fun p i => SitePool.Current p i ∧ cond p i) schedule)
    (h : LockInv requests p) (hK : K p.store) :
    (LockInv requests (p.run siteNext schedule) ∧ K (p.run siteNext schedule).store) ∧
      (p.run siteNext schedule).Follow siteNext (fun _ _ => True) RoutingStep Matched := by
  refine Pool.invariant_run siteNext (fun _ _ => True) RoutingStep Matched
    (fun p => LockInv requests p ∧ K p.store) (fun _ _ _ _ => trivial)
    (fun p i l w n k _ hthread hallowed hcond hp => ⟨hp.1.step hthread hallowed hcond.1, ?_⟩)
    hfollow hmeets ⟨h, hK⟩
  have hlabel : (p.thread i).label? = some l := by rw [hthread]; rfl
  rw [Pool.step_store hthread]
  exact hkeep p i l _ hp.1 hlabel hallowed (hcond.1 l hlabel) hcond.2 hp.2

end Run

/-- Every interleaving of requests in which no stale copy of a site is saved: the revision of a
site does not decrease, of the updates that expect one revision at most one succeeds, and an
accepted policy stays until the next one is accepted. -/
theorem routing_locked (settings : Settings) (requests : ι → SiteRequest) (s : Store)
    (schedule : List ι)
    (hcurrent : (startSiteRequests settings requests s).Meets siteNext SitePool.Current schedule) :
    RoutingLocked requests (startSiteRequests settings requests s) schedule := by
  have hstart : LockInv requests (startSiteRequests settings requests s) :=
    ⟨fun _ => rfl, fun _ _ h => (nomatch h), fun _ _ _ _ h => (nomatch h),
      fun _ _ _ _ _ _ _ _ h => (nomatch h)⟩
  have hfollow : (startSiteRequests settings requests s).Follow siteNext (fun _ _ => True) RoutingStep
      Matched := fun i => (requests i).program_keepsLock
  have hplain : ∀ {p : SitePool ι} {schedule : List ι}, p.Meets siteNext SitePool.Current schedule →
      p.Meets siteNext (fun p i => SitePool.Current p i ∧ True) schedule := fun h =>
    h.and (Pool.meets_true _ _)
  constructor
  · intro first rest siteId site hschedule hsite
    subst hschedule
    obtain ⟨hfirst, hrest⟩ := Pool.meets_append.mp hcurrent
    obtain ⟨⟨hinv, -⟩, hfollow'⟩ := LockInv.run (K := fun _ => True)
      (fun _ _ _ _ _ _ _ _ _ _ => trivial) hfollow (hplain hfirst) hstart trivial
    rw [Pool.run_append]
    refine (LockInv.run (K := fun t => ∃ site', t.site? siteId = some site' ∧
      site.routingRevision ≤ site'.routingRevision) (fun p i l s' hp hlabel hallowed hl _ hK => ?_)
      hfollow' (hplain hrest) hinv ⟨site, hsite, le_refl _⟩).1.2
    obtain ⟨old, hold, hle⟩ := hK
    rcases hallowed.advanced hl (hp.behind i) siteId with ⟨hnone, -⟩ | ⟨same, new, hadvanced⟩
    · rw [hnone] at hold
      cases hold
    · cases hold.symm.trans hadvanced.before
      refine ⟨new, hadvanced.after, ?_⟩
      rcases hadvanced.grown with hlt | ⟨hsame, -⟩
      · omega
      · omega
  · intro i j siteId payload payload' hi hj hexpected hdone hdone'
    obtain ⟨⟨hinv, -⟩, hfollow'⟩ := LockInv.run (K := fun _ => True)
      (fun _ _ _ _ _ _ _ _ _ _ => trivial) hfollow (hplain hcurrent) hstart trivial
    have hmatched : ∀ i' payload', requests i' = .updateRouting siteId payload' →
        ((startSiteRequests settings requests s).run siteNext schedule).thread i' = .done (.ok ()) →
        (((startSiteRequests settings requests s).run siteNext schedule).note i').updated = true := by
      intro i' payload' hi' hend
      have hends := hfollow' i'
      rw [hend] at hends
      exact hends siteId payload' ((hinv.request i').trans hi') rfl
    exact hinv.once i j siteId payload payload' hi hj hexpected (hmatched i payload hi hdone)
      (hmatched j payload' hj hdone')
  · intro first i rest siteId policy hschedule haccepts hnone
    subst hschedule
    obtain ⟨hfirst, hrest⟩ := Pool.meets_append.mp hcurrent
    obtain ⟨⟨hinv, -⟩, hfollow'⟩ := LockInv.run (K := fun _ => True)
      (fun _ _ _ _ _ _ _ _ _ _ => trivial) hfollow (hplain hfirst) hstart trivial
    rw [Pool.run_append] at hnone ⊢
    generalize hpool : (startSiteRequests settings requests s).run siteNext first = p at *
    obtain ⟨l, hlabel, haccepts⟩ := haccepts
    cases hthread : p.thread i with
    | done r =>
        rw [hthread] at hlabel
        cases hlabel
    | op label w n k =>
        rw [hthread] at hlabel
        cases hlabel
        have hmove := hfollow' i
        rw [hthread] at hmove
        have hallowed := (hmove p.store trivial).1
        obtain ⟨old, -, hrouting⟩ := hallowed.accepted haccepts
        -- The policy is stored now; what comes after accepts no other.
        have hkept := (LockInv.run
          (K := fun t => ∃ revision, t.routing siteId = some (some policy, revision))
          (fun p j l s' hp hlabel hallowed hl hnone hK => by
            rcases hallowed.routing hl (hp.behind j) siteId with hsame | ⟨other, _, _, hother, -⟩
            · rw [hsame]
              exact hK
            · exact absurd ⟨l, hlabel, hother⟩ (hnone other))
          (hfollow'.step trivial) (hrest.2.and hnone) (hinv.step hthread hallowed hrest.1)
          (by rw [Pool.step_store hthread]; exact ⟨_, hrouting⟩)).1.2
        obtain ⟨revision, hrevision⟩ := hkept
        obtain ⟨site, hsite, hpolicy, -⟩ := routing_eq_some.mp hrevision
        exact ⟨site, hsite, hpolicy⟩

/-! ## A shutdown that saves a stale copy -/

/-- A routing update, and a shutdown of the same site. -/
def routingAndShutdown : Bool → SiteRequest
  | true => .updateRouting "site-north" ⟨0, ⟨false, false, .direct, []⟩⟩
  | false => .setShutdown "site-north" true

theorem routing_locked_serial :
    RoutingLocked routingAndShutdown (startSiteRequests sampleSettings routingAndShutdown sampleStore)
      [true, true, true, false, false, false] :=
  routing_locked sampleSettings routingAndShutdown sampleStore _ (by decide)

/-- The shutdown reads the site before the update and saves it after: the update is undone. -/
theorem stale_shutdown_undoes_routing :
    ¬ RoutingLocked routingAndShutdown (startSiteRequests sampleSettings routingAndShutdown sampleStore)
      [false, true, true, true, false, false] := by
  intro h
  have hbefore : (((startSiteRequests sampleSettings routingAndShutdown sampleStore).run siteNext
      [false, true, true, true]).store.site? "site-north").map Site.routingRevision = some 1 := by
    decide
  have hafter : (((startSiteRequests sampleSettings routingAndShutdown sampleStore).run siteNext
      [false, true, true, true, false, false]).store.site? "site-north").map
        Site.routingRevision = some 0 := by
    decide
  obtain ⟨site, hsite, hrevision⟩ := Option.map_eq_some_iff.mp hbefore
  obtain ⟨site', hsite', hle⟩ :=
    h.monotone [false, true, true, true] [false, false] "site-north" site rfl hsite
  rw [hsite', Option.map_some, Option.some.injEq] at hafter
  omega

end Grouproxy.Backend
