import Grouproxy.Verification.Backend.SiteSteps
import Grouproxy.Verification.Backend.Serving
import Grouproxy.Verification.Backend.DraftCalls
import Grouproxy.Verification.Backend.Versions

/-! # Publications that fail

A publication goes through the sites in order and stops at the first that cannot be published.
The sites before it are complete and those after it untouched; the site itself gets its binding
back, but the bundles it was given already are served.
-/

namespace Grouproxy.Backend

open Text Ipaddress Encoding Crypto Cidr Programs

variable {settings : Settings} {fails : Label → Bool} {draws : Draws}
  {version : SubscriptionVersion} {note key taskKey : String}

/-! ## The plans -/

section Plans

variable (settings : Settings) (draws : String → Draws) (operation : String)
  (version : SubscriptionVersion) (key : String)

/-- The key of the task of a site. -/
def siteKey (site : Site) : String :=
  subscriptionTaskKey settings (draws site.id) operation version site.id key

def sitePlans (s : Store) : List Site → Except Failure (List SitePlan)
  | [] => .ok []
  | site :: rest =>
    match sitePlan settings (draws site.id) operation version key site s with
    | .error e => .error e
    | .ok plan => (sitePlans s rest).map (plan :: ·)

end Plans

section Plans

variable {draws : String → Draws} {operation : String}

theorem planPublications_runWith (hfails : FailsInside fails) (sites : List Site) (s : Store) :
    (planPublications settings draws operation version key sites).runWith fails s =
      (sitePlans settings draws operation version key s sites, s) := by
  induction sites with
  | nil => rfl
  | cons site rest ih =>
      rw [planPublications, Prog.runWith_bind, planPublication_runWith hfails, sitePlans]
      cases sitePlan settings (draws site.id) operation version key site s with
      | error e => rfl
      | ok plan =>
          dsimp only
          rw [Prog.runWith_bind, ih]
          cases sitePlans settings draws operation version key s rest with
          | error e => rfl
          | ok plans => rfl

/-- Every site has a plan, or one is refused. -/
theorem sitePlans_isOk (s : Store) (sites : List Site) :
    isOk (sitePlans settings draws operation version key s sites) =
      sites.all fun site => isOk (sitePlan settings (draws site.id) operation version key site s) := by
  induction sites with
  | nil => rfl
  | cons site rest ih =>
      rw [sitePlans, List.all_cons, ← ih]
      cases sitePlan settings (draws site.id) operation version key site s with
      | error e => rfl
      | ok plan =>
          cases sitePlans settings draws operation version key s rest with
          | error e => rfl
          | ok plans => rfl

/-- A site whose task exists keeps its release; another gets one if none is under way. -/
theorem sitePlan_ok {site : Site} {s : Store} {plan : SitePlan}
    (h : sitePlan settings (draws site.id) operation version key site s = .ok plan) :
    ((s.earlierTask key (siteKey settings draws operation version key site)).isSome ∧
        ∃ release, plan = .existing release) ∨
      (s.earlierTask key (siteKey settings draws operation version key site) = none ∧
        s.activeRelease? (agentIds (s.siteNodes site.id)) = none ∧
        plan = .publish site (s.siteNodes site.id)
          (siteKey settings draws operation version key site)) := by
  rw [sitePlan, ← siteKey] at h
  cases htask : s.earlierTask key (siteKey settings draws operation version key site) with
  | some task =>
      rw [htask] at h
      dsimp only at h
      split at h
      · cases h
      · cases h
        exact .inl ⟨rfl, _, rfl⟩
  | none =>
      rw [htask] at h
      dsimp only at h
      split at h
      · cases h
      · rename_i hactive
        cases h
        exact .inr ⟨rfl, by simpa using hactive, rfl⟩

end Plans

/-! ## Identifiers of a publication -/

/-- Two sites that share neither their name nor anything drawn for them. -/
structure Apart (draws : String → Draws) (a b : Site) : Prop where
  id : a.id ≠ b.id
  taskId : (draws a.id).taskId ≠ (draws b.id).taskId
  releaseId : (draws a.id).releaseId ≠ (draws b.id).releaseId
  token : ∀ start start', start ++ (draws a.id).token ≠ start' ++ (draws b.id).token

/-- The sites are different documents, and what is drawn for them is fresh. -/
structure FreshPublication (draws : String → Draws) (s : Store) (sites : List Site) : Prop where
  fresh : ∀ site ∈ sites, FreshDraws s (draws site.id)
  unsent : ∀ site ∈ sites, ∀ d ∈ s.desired, d.releaseId ≠ (draws site.id).releaseId
  apart : sites.Pairwise (Apart draws)

section Fresh

variable {draws : String → Draws} {operation : String}

theorem siteKey_ne {a b : Site} (hid : a.id ≠ b.id)
    (htoken : ∀ start start', start ++ (draws a.id).token ≠ start' ++ (draws b.id).token) :
    siteKey settings draws operation version key a ≠ siteKey settings draws operation version key b := by
  intro heq
  rw [siteKey, siteKey] at heq
  by_cases hblank : strip key = ""
  · rw [subscriptionTaskKey_of_blank hblank, subscriptionTaskKey_of_blank hblank] at heq
    exact htoken _ _ heq
  · rw [subscriptionTaskKey_of_key hblank, subscriptionTaskKey_of_key hblank] at heq
    simp only [String.append_left_inj, String.append_right_inj] at heq
    exact hid heq

/-- A site that a publication gives a release is unclaimed. -/
theorem unclaimed_of_plan {site : Site} {s : Store} (hfresh : FreshDraws s (draws site.id))
    (htask : s.earlierTask key (siteKey settings draws operation version key site) = none)
    (hactive : s.activeRelease? (agentIds (s.siteNodes site.id)) = none) :
    Unclaimed (draws site.id) site.id (siteKey settings draws operation version key site) s := by
  refine ⟨hactive, ?_, hfresh.task, fun release hrelease => (hfresh.release release hrelease).1⟩
  by_cases hblank : strip key = ""
  · rw [siteKey, subscriptionTaskKey_of_blank hblank, Store.taskByKey?, List.find?_eq_none]
    intro task htask hkey
    exact hfresh.token task htask _ (beq_iff_eq.mp hkey)
  · rwa [Store.earlierTask, if_neg hblank] at htask

/-- An agent belongs to one site. -/
theorem siteId_of_agentIds {s : Store} (hagents : s.DistinctAgents) {siteId other agentId : String}
    (h : agentId ∈ agentIds (s.siteNodes siteId)) (h' : agentId ∈ agentIds (s.siteNodes other)) :
    siteId = other := by
  obtain ⟨node, hnode, hid⟩ := List.mem_map.mp h
  obtain ⟨node', hnode', hid'⟩ := List.mem_map.mp h'
  have hmem := List.mem_filter.mp hnode
  have hmem' := List.mem_filter.mp hnode'
  have hsame : node = node' :=
    List.inj_on_of_nodup_map hagents hmem.1 hmem'.1 (hid.trans hid'.symm)
  rw [← beq_iff_eq.mp hmem.2, ← beq_iff_eq.mp hmem'.2, hsame]

/-- The publication to another site takes none of the identifiers. -/
theorem FreshRelease.step {a b : Draws} {other taskKey otherKey : String} {targets : List Node}
    {added : List DesiredRelease} {release : Option ConfigRelease} {s s' : Store}
    (h : FreshRelease s a taskKey) (hstep : SiteStep b other otherKey targets added release s s')
    (hkey : otherKey ≠ taskKey) (htask : b.taskId ≠ a.taskId) (hrelease : b.releaseId ≠ a.releaseId) :
    FreshRelease s' a taskKey := by
  refine ⟨?_, ?_, ?_⟩
  · have hfree := h.key
    rcases hstep.tasks with hsame | hadded
    · rwa [Store.taskByKey?, hsame]
    · rw [Store.taskByKey?] at hfree ⊢
      rw [hadded, List.find?_append, hfree, Option.none_or, List.find?_eq_none]
      intro task hmem
      rw [List.mem_singleton.mp hmem]
      simpa using hkey
  · intro task hmem
    rcases hstep.tasks with hsame | hadded
    · exact h.task task (hsame ▸ hmem)
    · rw [hadded] at hmem
      rcases List.mem_append.mp hmem with hold | hnew
      · exact h.task task hold
      · rw [List.mem_singleton.mp hnew]
        exact htask
  · intro r hmem
    rw [hstep.releases] at hmem
    rcases List.mem_append.mp hmem with hold | hnew
    · exact h.release r hold
    · rw [(hstep.release r (by simpa using hnew)).2.1]
      exact hrelease

/-- Its release is not under way for other agents. -/
theorem SiteStep.activeRelease? {b : Draws} {other otherKey : String} {targets : List Node}
    {added : List DesiredRelease} {release : Option ConfigRelease} {s s' : Store}
    (hstep : SiteStep b other otherKey targets added release s s') {agents : List String}
    (hdisjoint : ∀ agentId ∈ agentIds targets, agentId ∉ agents)
    (h : s.activeRelease? agents = none) : s'.activeRelease? agents = none := by
  rw [Store.activeRelease?] at h
  rw [Store.activeRelease?, hstep.releases, List.find?_append, h, Option.none_or, List.find?_eq_none]
  intro r hr hblocks
  have hagent := hstep.release r (by simpa using hr)
  rw [ConfigRelease.blocks, Bool.and_eq_true, List.any_eq_true] at hblocks
  obtain ⟨agentId, hother, hown⟩ := hblocks.2
  rw [hagent.2.2] at hother
  exact hdisjoint agentId hother (by simpa using hown)

/-- The publication to another site leaves it unclaimed. -/
theorem Unclaimed.step {a b : Draws} {siteId other taskKey otherKey : String}
    {added : List DesiredRelease} {release : Option ConfigRelease} {s s' : Store}
    (h : Unclaimed a siteId taskKey s)
    (hstep : SiteStep b other otherKey (s.siteNodes other) added release s s')
    (hagents : s.DistinctAgents) (hne : siteId ≠ other) (hkey : otherKey ≠ taskKey)
    (htask : b.taskId ≠ a.taskId) (hrelease : b.releaseId ≠ a.releaseId) :
    Unclaimed a siteId taskKey s' where
  active := by
    rw [Store.siteNodes, hstep.nodes, ← Store.siteNodes]
    apply hstep.activeRelease? _ h.active
    intro agentId hother hown
    exact hne (siteId_of_agentIds hagents hown hother)
  fresh := h.fresh.step hstep hkey htask hrelease

end Fresh

/-! ## The loop over the sites -/

/-- The publication to a site is complete: its binding has the version, and if it has nodes its
release is there, with a desired bundle for each of them. -/
structure Completed (draws : Draws) (version : SubscriptionVersion) (siteId : String)
    (targets : List Node) (s : Store) : Prop where
  binding : ∃ binding, s.binding? siteId = some binding ∧ binding.subscriptionVersionId = version.id
  release : targets ≠ [] → ∃ release ∈ s.releases, release.siteId = siteId ∧
    release.releaseId = draws.releaseId ∧ release.nodeIds = agentIds targets
  desired : ∀ node ∈ targets, ∃ d ∈ s.desired, d.siteId = siteId ∧
    d.releaseId = draws.releaseId ∧ d.nodeId = node.agentId

theorem SiteStep.completed {siteId : String} {targets : List Node} {added : List DesiredRelease}
    {release : Option ConfigRelease} {s s' : Store}
    (h : SiteStep draws siteId taskKey targets added release s s')
    (hbinding : s'.binding? siteId = some (selectedBinding version siteId (s.binding? siteId)))
    (hall : targets ≠ [] → release.isSome ∧ added.map DesiredRelease.nodeId = agentIds targets) :
    Completed draws version siteId targets s' where
  binding := by
    refine ⟨_, hbinding, ?_⟩
    cases s.binding? siteId with
    | none => rfl
    | some binding => rfl
  release := by
    intro hne
    obtain ⟨r, hr⟩ := Option.isSome_iff_exists.mp (hall hne).1
    refine ⟨r, ?_, h.release r hr⟩
    rw [h.releases, hr]
    exact List.mem_append_right _ (List.mem_singleton.mpr rfl)
  desired := by
    intro node hnode
    have hmem : node.agentId ∈ added.map DesiredRelease.nodeId := by
      rw [(hall (List.ne_nil_of_mem hnode)).2]
      exact List.mem_map_of_mem hnode
    obtain ⟨d, hd, hid⟩ := List.mem_map.mp hmem
    refine ⟨d, ?_, (h.added d hd).1, (h.added d hd).2.1, hid⟩
    rw [h.desired]
    exact List.mem_append_right _ hd

/-- What happens to the sites outside a list: nothing, and what is complete stays so. -/
structure Kept (siteIds : List String) (s s' : Store) : Prop where
  same : ∀ siteId, siteId ∉ siteIds → SameSite siteId s s'
  desired : s.desired ⊆ s'.desired
  releases : s.releases ⊆ s'.releases

theorem Kept.refl (siteIds : List String) (s : Store) : Kept siteIds s s :=
  ⟨fun siteId _ => .refl siteId s, fun _ h => h, fun _ h => h⟩

theorem Kept.cons {siteId : String} {siteIds : List String} {s s' s'' : Store}
    (h : Kept [siteId] s s') (h' : Kept siteIds s' s'') : Kept (siteId :: siteIds) s s'' where
  same := by
    intro other hother
    rw [List.mem_cons, not_or] at hother
    exact (h.same other (by simpa using hother.1)).trans (h'.same other hother.2)
  desired := List.Subset.trans h.desired h'.desired
  releases := List.Subset.trans h.releases h'.releases

theorem SiteStep.kept {siteId : String} {targets : List Node} {added : List DesiredRelease}
    {release : Option ConfigRelease} {s s' : Store}
    (h : SiteStep draws siteId taskKey targets added release s s') : Kept [siteId] s s' where
  same := fun other hother => h.sameSite (by simpa using hother)
  desired := by
    rw [h.desired]
    exact List.subset_append_left _ _
  releases := by
    rw [h.releases]
    exact List.subset_append_left _ _

theorem Completed.kept {siteId : String} {siteIds : List String} {targets : List Node}
    {s s' : Store} (h : Completed draws version siteId targets s) (hkept : Kept siteIds s s')
    (hne : siteId ∉ siteIds) : Completed draws version siteId targets s' where
  binding := by
    rw [(hkept.same siteId hne).sources.binding]
    exact h.binding
  release := by
    intro htargets
    obtain ⟨release, hrelease, hfields⟩ := h.release htargets
    exact ⟨release, hkept.releases hrelease, hfields⟩
  desired := by
    intro node hnode
    obtain ⟨d, hd, hfields⟩ := h.desired node hnode
    exact ⟨d, hkept.desired hd, hfields⟩

section Loop

variable (settings : Settings) (fails : Label → Bool) (draws : String → Draws)
  (version : SubscriptionVersion) (note operation key : String)

/-- The site keeps an earlier release, or its publication goes through. -/
def sitePublishes (s : Store) (site : Site) : Bool :=
  (s.earlierTask key (siteKey settings draws operation version key site)).isSome ||
    siteSucceeds settings fails (draws site.id) version note site
      (siteKey settings draws operation version key site) s

/-- The site that a publication fails at. -/
def failingSite (s : Store) (sites : List Site) : Option Site :=
  sites.find? fun site => !sitePublishes settings fails draws version note operation key s site

/-- What a failure leaves of its site: the bundles that were added, and the restored binding. -/
structure Halted (site : Site) (s s' : Store) : Prop where
  step : ∃ t, SameSite site.id s t ∧
    Unclaimed (draws site.id) site.id (siteKey settings draws operation version key site) t ∧
    SiteStep (draws site.id) site.id (siteKey settings draws operation version key site)
      (s.siteNodes site.id)
      (addedBundles settings fails (draws site.id) site
        (s.prepared (draws site.id) version note site (s.siteNodes site.id))) none t s'
  binding : s'.binding? site.id = (s.binding? site.id).map (restoredBinding version)

end Loop

section Loop

variable {draws : String → Draws} {operation : String}

/-- What the loop needs of the sites that it has not reached. -/
structure Awaiting (settings : Settings) (draws : String → Draws) (operation : String)
    (version : SubscriptionVersion) (key : String) (site : Site) (s s' : Store) : Prop where
  same : SameSite site.id s s'
  unclaimed : s.earlierTask key (siteKey settings draws operation version key site) = none →
    Unclaimed (draws site.id) site.id (siteKey settings draws operation version key site) s'

theorem Awaiting.step {site other : Site} {added : List DesiredRelease}
    {release : Option ConfigRelease} {s t t' : Store}
    (h : Awaiting settings draws operation version key site s t)
    (hstep : SiteStep (draws other.id) other.id (siteKey settings draws operation version key other)
      (t.siteNodes other.id) added release t t')
    (hagents : t.DistinctAgents) (hapart : Apart draws other site) :
    Awaiting settings draws operation version key site s t' where
  same := h.same.trans (hstep.sameSite hapart.id.symm)
  unclaimed := fun htask => (h.unclaimed htask).step hstep hagents hapart.id.symm
    (siteKey_ne hapart.id hapart.token) hapart.taskId hapart.releaseId

theorem nodup_siteNodes {s : Store} (hagents : s.DistinctAgents) (siteId : String) :
    (agentIds (s.siteNodes siteId)).Nodup :=
  hagents.sublist (List.Sublist.map Node.agentId List.filter_sublist)

/-- A site that publishes is complete afterwards, or it had its release before. -/
theorem publishPlan_succeeds (note : String) (hfails : FailsInside fails) {site : Site} {plan : SitePlan}
    {s₀ s : Store} (hagents : s.DistinctAgents)
    (hplan : sitePlan settings (draws site.id) operation version key site s₀ = .ok plan)
    (hawaiting : Awaiting settings draws operation version key site s₀ s)
    (h : sitePublishes settings fails draws version note operation key s₀ site = true) :
    ∃ outcome t added release,
      (publishPlan settings draws version note plan).runWith fails s = (.ok outcome, t) ∧
      SiteStep (draws site.id) site.id (siteKey settings draws operation version key site)
        (s.siteNodes site.id) added release s t ∧
      (Completed (draws site.id) version site.id (s₀.siteNodes site.id) t ∨ t = s) := by
  rcases sitePlan_ok hplan with ⟨-, release, rfl⟩ | ⟨htask, -, rfl⟩
  · exact ⟨_, s, [], none, rfl, refl_step s, .inr rfl⟩
  · have hsucceeds : siteSucceeds settings fails (draws site.id) version note site
        (siteKey settings draws operation version key site) s = true := by
      rw [hawaiting.same.siteSucceeds]
      simpa [sitePublishes, htask] using h
    obtain ⟨outcome, t, added, release, hrun, hstep, hbinding, hall⟩ :=
      publishToSite_succeeds hfails (nodup_siteNodes hagents site.id) (hawaiting.unclaimed htask)
        hsucceeds
    rw [publishPlan, ← hawaiting.same.siteNodes]
    exact ⟨outcome, t, added, release, hrun, hstep, .inl (hstep.completed hbinding hall)⟩

/-- A site that fails has its bundles and its binding as they were left. -/
theorem publishPlan_fails (note : String) (hfails : FailsInside fails) {site : Site} {plan : SitePlan}
    {s₀ s : Store} (hagents : s.DistinctAgents)
    (hplan : sitePlan settings (draws site.id) operation version key site s₀ = .ok plan)
    (hawaiting : Awaiting settings draws operation version key site s₀ s)
    (h : sitePublishes settings fails draws version note operation key s₀ site = false) :
    ∃ e t added, (publishPlan settings draws version note plan).runWith fails s = (.error e, t) ∧
      SiteStep (draws site.id) site.id (siteKey settings draws operation version key site)
        (s.siteNodes site.id) added none s t ∧
      Halted settings fails draws version note operation key site s₀ t := by
  rw [sitePublishes, Bool.or_eq_false_iff] at h
  rcases sitePlan_ok hplan with ⟨htask, -⟩ | ⟨htask, -, rfl⟩
  · rw [h.1] at htask
    cases htask
  · have hunclaimed := hawaiting.unclaimed htask
    obtain ⟨e, t, hrun, hstep, hbinding⟩ := publishToSite_fails hfails
      (nodup_siteNodes hagents site.id) hunclaimed (hawaiting.same.siteSucceeds.trans h.2)
    rw [publishPlan, ← hawaiting.same.siteNodes]
    refine ⟨e, t, _, hrun, hstep, ⟨s, hawaiting.same, hunclaimed, ?_⟩, ?_⟩
    · rwa [hawaiting.same.siteNodes, ← hawaiting.same.siteNodes, hawaiting.same.addedBundles,
        hawaiting.same.siteNodes] at hstep
    · rw [hbinding, hawaiting.same.sources.binding]

/-- The loop completes the sites up to the one it fails at. -/
theorem publishPlans_runWith (note : String) (hfails : FailsInside fails) {s₀ : Store}
    (hagents : s₀.DistinctAgents)
    {sites : List Site} {plans : List SitePlan} {s : Store} (hnodes : s.nodes = s₀.nodes)
    (hapart : sites.Pairwise (Apart draws))
    (hplans : sitePlans settings draws operation version key s₀ sites = .ok plans)
    (hawaiting : ∀ site ∈ sites, Awaiting settings draws operation version key site s₀ s) :
    ∃ r s', (publishPlans settings draws version note plans).runWith fails s = (r, s') ∧
      Kept (sites.map Site.id) s s' ∧
      (∀ site ∈ sites,
        failingSite settings fails draws version note operation key s₀ sites ≠ some site →
        Completed (draws site.id) version site.id (s₀.siteNodes site.id) s' ∨
          SameSite site.id s₀ s') ∧
      match failingSite settings fails draws version note operation key s₀ sites with
      | none => isOk r = true
      | some failing => isOk r = false ∧
          Halted settings fails draws version note operation key failing s₀ s' := by
  induction sites generalizing plans s with
  | nil =>
      cases hplans
      exact ⟨.ok [], s, rfl, .refl _ s, fun site hsite => absurd hsite (List.not_mem_nil), rfl⟩
  | cons site rest ih =>
      have hcons := List.pairwise_cons.mp hapart
      have hsite := hawaiting site List.mem_cons_self
      rw [sitePlans] at hplans
      cases hplan : sitePlan settings (draws site.id) operation version key site s₀ with
      | error e =>
          rw [hplan] at hplans
          cases hplans
      | ok plan =>
          rw [hplan] at hplans
          cases hothers : sitePlans settings draws operation version key s₀ rest with
          | error e =>
              rw [hothers] at hplans
              cases hplans
          | ok others =>
              rw [hothers] at hplans
              cases hplans
              have hagents' : s.DistinctAgents := by rwa [Store.DistinctAgents, hnodes]
              rw [failingSite, List.find?_cons, publishPlans]
              cases hpublishes : sitePublishes settings fails draws version note operation key s₀
                  site with
              | true =>
                  obtain ⟨outcome, t, added, release, hrun, hstep, hdone⟩ :=
                    publishPlan_succeeds note hfails hagents' hplan hsite hpublishes
                  obtain ⟨r, s', hrun', hkept, hsites, hend⟩ :=
                    ih (hstep.nodes.trans hnodes) hcons.2 hothers fun other hother =>
                      (hawaiting other (List.mem_cons_of_mem _ hother)).step hstep hagents'
                        (hcons.1 other hother)
                  have hwhole : (publishPlan settings draws version note plan >>= fun outcome =>
                      publishPlans settings draws version note others >>= fun outcomes =>
                        pure (outcome :: outcomes)).runWith fails s =
                      (r.map fun outcomes => outcome :: outcomes, s') := by
                    rw [Prog.runWith_bind, hrun]
                    dsimp only
                    rw [Prog.runWith_bind, hrun']
                    cases r with
                    | error e => rfl
                    | ok outcomes => rfl
                  refine ⟨_, s', hwhole, hstep.kept.cons hkept, ?_, ?_⟩
                  · intro other hother hne
                    rcases List.mem_cons.mp hother with rfl | hrest
                    · have hout : other.id ∉ rest.map Site.id := by
                        intro hmem
                        obtain ⟨twin, htwin, hid⟩ := List.mem_map.mp hmem
                        exact (hcons.1 twin htwin).id hid.symm
                      rcases hdone with hdone | rfl
                      · exact .inl (hdone.kept hkept hout)
                      · exact .inr (hsite.same.trans (hkept.same other.id hout))
                    · exact hsites other hrest hne
                  · have hisOk : isOk (r.map fun outcomes => outcome :: outcomes) = isOk r := by
                      cases r with
                      | error e => rfl
                      | ok outcomes => rfl
                    rw [hisOk]
                    exact hend
              | false =>
                  obtain ⟨e, t, added, hrun, hstep, hhalted⟩ :=
                    publishPlan_fails note hfails hagents' hplan hsite hpublishes
                  have hwhole : (publishPlan settings draws version note plan >>= fun outcome =>
                      publishPlans settings draws version note others >>= fun outcomes =>
                        pure (outcome :: outcomes)).runWith fails s = (.error e, t) := by
                    rw [Prog.runWith_bind, hrun]
                  refine ⟨.error e, t, hwhole, hstep.kept.cons (.refl _ t), ?_, rfl, hhalted⟩
                  intro other hother hne
                  rcases List.mem_cons.mp hother with rfl | hrest
                  · exact absurd rfl hne
                  · have hother' := hawaiting other (List.mem_cons_of_mem _ hrest)
                    exact .inr (hother'.same.trans (hstep.sameSite (hcons.1 other hrest).id.symm))

end Loop

/-! ## All or nothing -/

/-- The binding of a site and what its nodes are served are what they were. -/
structure Unchanged (settings : Settings) (site : Site) (s s' : Store) : Prop where
  binding : s'.binding? site.id = s.binding? site.id
  served : ∀ node ∈ s.siteNodes site.id, ∀ appliedVersion appliedHash,
    ((agentDesired settings node appliedVersion appliedHash).run s').1 =
      ((agentDesired settings node appliedVersion appliedHash).run s).1

/-- Every site is published completely or not at all. -/
def AllOrNothing (settings : Settings) (draws : String → Draws) (version : SubscriptionVersion)
    (sites : List Site) (s s' : Store) : Prop :=
  ∀ site ∈ sites, Completed (draws site.id) version site.id (s.siteNodes site.id) s' ∨
    Unchanged settings site s s'

theorem siteId_of_siteNodes {s : Store} {siteId : String} {node : Node}
    (h : node ∈ s.siteNodes siteId) : node.siteId = siteId :=
  beq_iff_eq.mp (List.mem_filter.mp h).2

theorem SameSite.unchanged {site : Site} {s s' : Store} (h : SameSite site.id s s') :
    Unchanged settings site s s' where
  binding := h.sources.binding
  served := by
    intro node hnode _ _
    refine agentDesired_congr h.sources.versions ?_
    rw [siteId_of_siteNodes hnode]
    exact h.latestRelease node.agentId

/-- The first bundle of a site is not inserted. -/
def stopsEarly (settings : Settings) (fails : Label → Bool) (draws : Draws) (site : Site)
    (s : Store) : Bool :=
  decide (Expired draws) || failsAtStart fails site.id ||
    match s.siteNodes site.id with
    | [] => true
    | node :: _ =>
      !isOk (nodeItem settings fails draws (revisedSite s site (releaseVersion s site))
        (releaseVersion s site) (s.latestRelease site.id "") .null .null s node)

theorem addedBundles_eq_nil {draws : Draws} {site : Site} (s : Store) :
    addedBundles settings fails draws site s = [] ↔
      stopsEarly settings fails draws site s = true := by
  rw [addedBundles, stopsEarly, Bool.or_eq_true, Bool.or_eq_true, decide_eq_true_iff]
  split
  · rename_i hstart
    exact iff_of_true rfl (.inl hstart)
  · rename_i hstart
    rw [or_iff_right hstart, siteItems, releaseItems]
    cases s.siteNodes site.id with
    | nil => exact iff_of_true rfl rfl
    | cons node rest =>
        rw [nodeItems]
        dsimp only
        cases nodeItem settings fails draws (revisedSite s site (releaseVersion s site))
            (releaseVersion s site) (s.latestRelease site.id "") .null .null s node with
        | error e => exact iff_of_true rfl rfl
        | ok item => exact iff_of_false (by simp) (by simp [isOk])

/-- The source of the binding survives its restoration. -/
def keepsSource (version : SubscriptionVersion) : Option SiteSubscription → Bool
  | none => true
  | some binding => binding.sourceId != "" || version.sourceId == ""

theorem map_restoredBinding (binding : Option SiteSubscription) :
    binding.map (restoredBinding version) = binding ↔ keepsSource version binding = true := by
  cases binding with
  | none => exact iff_of_true rfl rfl
  | some binding =>
      rcases binding with ⟨siteId, versionId, previousId, sourceId⟩
      by_cases hsource : sourceId = ""
      · simp [restoredBinding, keepsSource, hsource]
      · simp [restoredBinding, keepsSource, hsource]

/-! ## The site that a publication fails at -/

theorem addedBundles_version {draws : Draws} {site : Site} {s : Store} {d : DesiredRelease}
    (h : d ∈ addedBundles settings fails draws site s) : d.desiredVersion = releaseVersion s site := by
  rw [addedBundles] at h
  split at h
  · cases h
  · obtain ⟨node, -, hitem⟩ := nodeItem_of_mem h
    obtain ⟨bundle, -, rfl⟩ := nodeItem_ok hitem
    rfl

section Halted

variable {draws : String → Draws} {operation : String} {site : Site} {s s' : Store}

/-- The site has no release of the publication. -/
theorem Halted.not_completed (h : Halted settings fails draws version note operation key site s s')
    (hnodes : s.siteNodes site.id ≠ []) :
    ¬ Completed (draws site.id) version site.id (s.siteNodes site.id) s' := by
  intro hcompleted
  obtain ⟨t, -, hunclaimed, hstep⟩ := h.step
  obtain ⟨release, hrelease, -, hid, -⟩ := hcompleted.release hnodes
  rw [hstep.releases, Option.toList_none, List.append_nil] at hrelease
  exact hunclaimed.fresh.release release hrelease hid

/-- A bundle that was added is above those that were there, so that it is served. -/
theorem Halted.latestRelease (h : Halted settings fails draws version note operation key site s s')
    {d : DesiredRelease} (hd : d ∈ addedBundles settings fails (draws site.id) site
      (s.prepared (draws site.id) version note site (s.siteNodes site.id))) :
    ∃ latest, s'.latestRelease site.id d.nodeId = some latest ∧
      latest.releaseId = (draws site.id).releaseId := by
  obtain ⟨t, hsame, -, hstep⟩ := h.step
  have hfields := hstep.added d hd
  have hmem : d ∈ s'.desired.filter
      fun other => other.siteId == site.id && (d.nodeId == "" || other.nodeId == d.nodeId) := by
    rw [List.mem_filter, hstep.desired]
    exact ⟨List.mem_append_right _ hd, by simp [hfields.1]⟩
  cases hlatest : s'.latestRelease site.id d.nodeId with
  | none =>
      rw [Store.latestRelease, List.argmax_eq_none] at hlatest
      rw [hlatest] at hmem
      cases hmem
  | some latest =>
      refine ⟨latest, rfl, ?_⟩
      have hle : d.desiredVersion ≤ latest.desiredVersion := List.le_of_mem_argmax hmem hlatest
      have hlatestMem := List.mem_filter.mp (List.argmax_mem hlatest)
      rw [hstep.desired] at hlatestMem
      rcases List.mem_append.mp hlatestMem.1 with hold | hnew
      · -- The older bundles of the site have smaller versions.
        have hsite : latest.siteId = site.id := by
          have hboth := hlatestMem.2
          rw [Bool.and_eq_true] at hboth
          exact beq_iff_eq.mp hboth.1
        have hbefore : latest ∈ s.desired.filter fun other => other.siteId == site.id := by
          rw [← hsame.desired, List.mem_filter]
          exact ⟨hold, by simp [hsite]⟩
        have hprepared : latest ∈ (s.prepared (draws site.id) version note site
            (s.siteNodes site.id)).desired := by
          rw [Store.prepared]
          dsimp only
          rw [Store.select_desired]
          exact (List.mem_filter.mp hbefore).1
        have hlt := lt_nextVersion hprepared hsite
        rw [addedBundles_version hd, releaseVersion] at hle
        omega
      · exact (hstep.added latest hnew).2.1

/-- The site is unchanged exactly if no bundle was added and the binding is as it was. -/
theorem Halted.unchanged_iff
    (h : Halted settings fails draws version note operation key site s s')
    (hunsent : ∀ d ∈ s.desired, d.releaseId ≠ (draws site.id).releaseId) :
    Unchanged settings site s s' ↔
      stopsEarly settings fails (draws site.id) site
          (s.prepared (draws site.id) version note site (s.siteNodes site.id)) = true ∧
        keepsSource version (s.binding? site.id) = true := by
  rw [← addedBundles_eq_nil, ← map_restoredBinding, ← h.binding]
  constructor
  · intro hunchanged
    refine ⟨?_, hunchanged.binding⟩
    rw [List.eq_nil_iff_forall_not_mem]
    intro d hd
    obtain ⟨latest, hlatest, hid⟩ := h.latestRelease hd
    obtain ⟨t, -, -, hstep⟩ := h.step
    obtain ⟨node, hnode, hagent⟩ := List.mem_map.mp (hstep.added d hd).2.2
    have hserved := hunchanged.served node hnode 0 ""
    obtain ⟨before, t₁, hbefore, hbeforeId⟩ :=
      agentDesired_releaseId settings node 0 "" s
    obtain ⟨after, t₂, hafter, hafterId⟩ :=
      agentDesired_releaseId settings node 0 "" s'
    rw [hbefore, hafter] at hserved
    cases hserved
    rw [siteId_of_siteNodes hnode, hagent, hlatest] at hafterId
    rw [hafterId] at hbeforeId
    obtain ⟨old, hold, holdId⟩ := Option.map_eq_some_iff.mp hbeforeId.symm
    exact hunsent old (mem_of_latestRelease hold) (holdId.trans hid)
  · rintro ⟨hnone, hbinding⟩
    refine ⟨hbinding, fun node hnode _ _ => ?_⟩
    obtain ⟨t, hsame, -, hstep⟩ := h.step
    rw [hnone] at hstep
    refine agentDesired_congr (hstep.versions.trans hsame.sources.versions) ?_
    have hdesired : s'.latestRelease site.id node.agentId = t.latestRelease site.id node.agentId := by
      rw [Store.latestRelease, hstep.desired, List.append_nil, ← Store.latestRelease]
    rw [siteId_of_siteNodes hnode, hdesired, hsame.latestRelease]

end Halted

/-! ## Whole publications -/

section Publication

variable {draws : String → Draws} {operation : String} {sites : List Site} {s s' : Store}
  {e : Failure}

/-- The publication is refused before anything is written. -/
def Refused (settings : Settings) (draws : String → Draws) (operation : String)
    (version : SubscriptionVersion) (key : String) (sites : List Site) (s : Store) : Prop :=
  version.parseOk = false ∨
    ∃ site ∈ sites, isOk (sitePlan settings (draws site.id) operation version key site s) = false

theorem publishSubscriptionVersion_refused (note : String) (hfails : FailsInside fails)
    (h : Refused settings draws operation version key sites s) :
    ((publishSubscriptionVersion settings draws version sites note key operation).runWith fails
      s).2 = s := by
  rw [publishSubscriptionVersion, reject_bind_runWith]
  split
  · rfl
  · rename_i hparse
    obtain ⟨site, hsite, hrefused⟩ := h.resolve_left (by simpa using hparse)
    rw [Prog.runWith_bind, planPublications_runWith hfails]
    have hplans : isOk (sitePlans settings draws operation version key s sites) = false := by
      rw [sitePlans_isOk, List.all_eq_false]
      exact ⟨site, hsite, by simp [hrefused]⟩
    cases hall : sitePlans settings draws operation version key s sites with
    | error e => rfl
    | ok plans =>
        rw [hall] at hplans
        cases hplans

/-- A publication that fails although no site is refused fails at one of its sites. -/
theorem publishSubscriptionVersion_failed (hfails : FailsInside fails)
    (hagents : s.DistinctAgents) (hfresh : FreshPublication draws s sites)
    (hplanned : ¬ Refused settings draws operation version key sites s)
    (h : (publishSubscriptionVersion settings draws version sites note key operation).runWith fails
      s = (.error e, s')) :
    ∃ failing, failingSite settings fails draws version note operation key s sites = some failing ∧
      Halted settings fails draws version note operation key failing s s' ∧
      ∀ site ∈ sites, site ≠ failing →
        Completed (draws site.id) version site.id (s.siteNodes site.id) s' ∨
          SameSite site.id s s' := by
  rw [Refused, not_or, Bool.not_eq_false] at hplanned
  have hall : isOk (sitePlans settings draws operation version key s sites) = true := by
    rw [sitePlans_isOk, List.all_eq_true]
    intro site hsite
    by_contra hrefused
    exact hplanned.2 ⟨site, hsite, by simpa using hrefused⟩
  rw [publishSubscriptionVersion, reject_bind_runWith, if_neg (by simp [hplanned.1]),
    Prog.runWith_bind, planPublications_runWith hfails] at h
  cases hplans : sitePlans settings draws operation version key s sites with
  | error e =>
      rw [hplans] at hall
      cases hall
  | ok plans =>
      have hawaiting : ∀ site ∈ sites, Awaiting settings draws operation version key site s s := by
        intro site hsite
        refine ⟨.refl site.id s, fun htask => ?_⟩
        have hok : isOk (sitePlan settings (draws site.id) operation version key site s) = true := by
          by_contra hrefused
          exact hplanned.2 ⟨site, hsite, by simpa using hrefused⟩
        cases hplan : sitePlan settings (draws site.id) operation version key site s with
        | error e =>
            rw [hplan] at hok
            cases hok
        | ok plan =>
            rcases sitePlan_ok hplan with ⟨hsome, -⟩ | ⟨-, hactive, -⟩
            · rw [htask] at hsome
              cases hsome
            · exact unclaimed_of_plan (hfresh.fresh site hsite) htask hactive
      obtain ⟨r, t, hrun, -, hsites, hend⟩ :=
        publishPlans_runWith note hfails hagents rfl hfresh.apart hplans hawaiting
      rw [hplans] at h
      dsimp only at h
      rw [Prog.runWith_bind, hrun] at h
      cases hfailing : failingSite settings fails draws version note operation key s sites with
      | none =>
          rw [hfailing] at hend
          cases r with
          | error e => cases hend
          | ok outcomes =>
              dsimp only at h
              rw [Prog.runWith_bind, markPublished_runWith hfails] at h
              cases h
      | some failing =>
          rw [hfailing] at hend hsites
          cases r with
          | ok outcomes => cases hend.1
          | error e' =>
              cases h
              exact ⟨failing, rfl, hend.2, fun site hsite hne => hsites site hsite fun hsame =>
                hne (Option.some.inj hsame).symm⟩

/-- A publication that raises is all or nothing for every site exactly if it is refused before
anything is written, or the site it fails at gets none of its bundles and keeps its source. -/
theorem allOrNothing_iff (hfails : FailsInside fails) (hagents : s.DistinctAgents)
    (hfresh : FreshPublication draws s sites)
    (h : (publishSubscriptionVersion settings draws version sites note key operation).runWith fails
      s = (.error e, s')) :
    AllOrNothing settings draws version sites s s' ↔
      Refused settings draws operation version key sites s ∨
      ∃ site, failingSite settings fails draws version note operation key s sites = some site ∧
        stopsEarly settings fails (draws site.id) site
          (s.prepared (draws site.id) version note site (s.siteNodes site.id)) = true ∧
        keepsSource version (s.binding? site.id) = true := by
  by_cases hrefused : Refused settings draws operation version key sites s
  · have hsame := publishSubscriptionVersion_refused note hfails hrefused
    rw [h] at hsame
    subst hsame
    exact iff_of_true (fun site _ => .inr (SameSite.refl site.id _).unchanged) (.inl hrefused)
  · obtain ⟨failing, hfailing, hhalted, hothers⟩ :=
      publishSubscriptionVersion_failed hfails hagents hfresh hrefused h
    have hmem : failing ∈ sites := List.mem_of_find?_eq_some hfailing
    have hnodes : s.siteNodes failing.id ≠ [] := by
      have hfails : sitePublishes settings fails draws version note operation key s failing = false := by
        simpa using List.find?_some hfailing
      rw [sitePublishes, siteSucceeds, Bool.or_eq_false_iff, Bool.or_eq_false_iff,
        List.isEmpty_eq_false_iff] at hfails
      exact hfails.2.1
    have hunchanged := hhalted.unchanged_iff (hfresh.unsent failing hmem)
    rw [or_iff_right hrefused]
    constructor
    · intro hall
      refine ⟨failing, hfailing, hunchanged.mp ?_⟩
      exact (hall failing hmem).resolve_left (hhalted.not_completed hnodes)
    · rintro ⟨site, hsite, hstops⟩ other hother
      cases hfailing.symm.trans hsite
      by_cases hne : other = failing
      · subst hne
        exact .inr (hunchanged.mpr hstops)
      · exact (hothers other hother hne).imp id SameSite.unchanged

end Publication

/-- The site has a second node. -/
def pairStore : Store :=
  { sampleStore with
    nodes := [sampleNode,
      { id := "node-2", siteId := "site-north", agentId := "north-b", monitorVersion := "0.8.0"
        agentId_ne := northB_ne }]
    versions := [sampleVersion "version-1"] }

/-- The bundle of the second node cannot be inserted. -/
def secondInsert (label : Label) : Bool := label = .desired "site-north" (.node "north-b" .insert)

def publishPair : Except Failure (List ConfigRelease) × Store :=
  (publishSubscriptionVersion subscribedSettings (fun _ => sampleDraws "a")
    (sampleVersion "version-1") [sampleSite] "" "key" "publish").runWith secondInsert pairStore

theorem publishPair_error : ∃ e s', publishPair = (.error e, s') := by
  have hfailed : isOk publishPair.1 = false := by decide
  rcases hrun : publishPair with ⟨r, s'⟩
  rw [hrun] at hfailed
  cases r with
  | error e => exact ⟨e, s', rfl⟩
  | ok releases => cases hfailed

theorem allOrNothing_iff_pair :
    FailsInside secondInsert ∧ pairStore.DistinctAgents ∧
    FreshPublication (fun _ => sampleDraws "a") pairStore [sampleSite] ∧
    ∃ e s', publishPair = (.error e, s') ∧
      (AllOrNothing subscribedSettings (fun _ => sampleDraws "a") (sampleVersion "version-1")
          [sampleSite] pairStore s' ↔
        Refused subscribedSettings (fun _ => sampleDraws "a") "publish" (sampleVersion "version-1")
            "key" [sampleSite] pairStore ∨
          ∃ site, failingSite subscribedSettings secondInsert (fun _ => sampleDraws "a")
              (sampleVersion "version-1") "" "publish" "key" pairStore [sampleSite] = some site ∧
            stopsEarly subscribedSettings secondInsert (sampleDraws "a") site
              (pairStore.prepared (sampleDraws "a") (sampleVersion "version-1") "" site
                (pairStore.siteNodes site.id)) = true ∧
            keepsSource (sampleVersion "version-1") (pairStore.binding? site.id) = true) := by
  have hfails : FailsInside secondInsert := by
    intro label hinner
    cases label with
    | desired siteId op => cases hinner
    | task key op => cases hinner
    | insertRelease release => cases hinner
    | other => rfl
    | findTask key => rfl
    | findRelease taskId => rfl
    | activeRelease agents => rfl
  have hagents : pairStore.DistinctAgents := by
    rw [Store.DistinctAgents]
    decide
  have hfresh : FreshPublication (fun _ => sampleDraws "a") pairStore [sampleSite] := by
    refine ⟨fun site _ => ⟨?_, ?_, ?_⟩, ?_, List.pairwise_singleton _ _⟩
    · intro task htask
      cases htask
    · intro release hrelease
      cases hrelease
    · intro task htask
      cases htask
    · intro site _ d hd
      cases hd
  obtain ⟨e, s', hrun⟩ := publishPair_error
  exact ⟨hfails, hagents, hfresh, e, s', hrun, allOrNothing_iff hfails hagents hfresh hrun⟩

/-- The first node is served a release that does not exist. -/
theorem publishPair_not_allOrNothing : ∃ e s', publishPair = (.error e, s') ∧
    ¬ AllOrNothing subscribedSettings (fun _ => sampleDraws "a") (sampleVersion "version-1")
      [sampleSite] pairStore s' := by
  obtain ⟨e, s', hrun⟩ := publishPair_error
  refine ⟨e, s', hrun, fun hall => ?_⟩
  have hstore : s' = publishPair.2 := by rw [hrun]
  subst hstore
  rcases hall sampleSite (List.mem_singleton.mpr rfl) with hcompleted | hunchanged
  · obtain ⟨release, hrelease, -⟩ := hcompleted.release (by decide)
    have hnone : publishPair.2.releases = [] := by decide
    rw [hnone] at hrelease
    cases hrelease
  · have hserved := hunchanged.served sampleNode (by
      rw [Store.siteNodes]
      exact List.mem_filter.mpr ⟨List.mem_cons_self, rfl⟩) 0 ""
    have hids := congrArg (fun r => r.toOption.bind DesiredResponse.releaseId) hserved
    revert hids
    decide

end Grouproxy.Backend
