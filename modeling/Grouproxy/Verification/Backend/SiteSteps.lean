import Grouproxy.Verification.Backend.Publications

/-! # The publication to one site

Whether the release of a site goes through, what it adds, and what it leaves alone: another site
finds the store as it was.
-/

namespace Grouproxy.Backend

open Text Ipaddress Encoding Crypto Cidr Programs

variable {settings : Settings} {fails : Label → Bool} {draws : Draws} {site : Site}
  {version : SubscriptionVersion} {note taskKey : String}

/-! ## The release of one site -/

/-- The draft is checked a day after it was made. -/
def Expired (draws : Draws) : Prop := draws.draftedAt + draftLifetime ≤ draws.checkedAt

instance : Decidable (Expired draws) := inferInstanceAs (Decidable (_ ≤ _))

/-- An operation fails before the first bundle. -/
def failsAtStart (fails : Label → Bool) (siteId : String) : Bool :=
  fails (.desired siteId .previous) || fails (.desired siteId .setRevision)

section Site

variable (settings : Settings) (fails : Label → Bool) (draws : Draws)
  (version : SubscriptionVersion) (note : String) (site : Site)

/-- The bundles of a site, from the store in which its release is created. -/
def siteItems (s : Store) : Except Failure (List DesiredRelease) × List DesiredRelease :=
  releaseItems settings fails draws site .null .null s (s.siteNodes site.id)

/-- The store with the bundles. -/
def Store.bundled (s : Store) : Store :=
  (s.reviseSite site.id (releaseVersion s site)).addDesired (siteItems settings fails draws site s).2

end Site

theorem selectedDocumentIds_site {diff : Dict} (s : Store) :
    selectedDocumentIds (newDraft draws site (s.siteNodes site.id) diff).nodeIds
      (newDraft draws site (s.siteNodes site.id) diff) (s.siteNodes site.id) =
      (s.siteNodes site.id).map Node.id := by
  rw [selectedDocumentIds]
  split
  · rfl
  · rfl

/-- The draft of a site names all its nodes. -/
theorem draftNodes_site {diff : Dict} (s : Store) :
    draftNodes (newDraft draws site (s.siteNodes site.id) diff)
      (newDraft draws site (s.siteNodes site.id) diff).nodeIds s = s.siteNodes site.id := by
  change selectedNodes (selectedDocumentIds _ _ (s.siteNodes site.id)) (s.siteNodes site.id) = _
  rw [selectedDocumentIds_site, selectedNodes, List.filter_eq_self]
  intro node hnode
  simpa using ⟨node, hnode, rfl⟩

/-- It is refused only when it is checked too late. -/
theorem draftRefusal_site {diff : Dict} {s : Store} (hnodes : s.siteNodes site.id ≠ [])
    (hactive : s.activeRelease? (agentIds (s.siteNodes site.id)) = none) :
    draftRefusal draws (newDraft draws site (s.siteNodes site.id) diff) site
        (newDraft draws site (s.siteNodes site.id) diff).nodeIds none s =
      if Expired draws then some (.conflict "draft_expired_or_used") else none := by
  have hids : selectedDocumentIds (newDraft draws site (s.siteNodes site.id) diff).nodeIds
      (newDraft draws site (s.siteNodes site.id) diff)
      (s.siteNodes (newDraft draws site (s.siteNodes site.id) diff).siteId) =
      (s.siteNodes site.id).map Node.id := selectedDocumentIds_site s
  rw [draftRefusal, draftNodes_site, hids]
  by_cases hexpired : Expired draws
  · rw [if_pos (.inl hexpired), if_pos hexpired]
  · have hdraft : ¬ ((newDraft draws site (s.siteNodes site.id) diff).expiresAt ≤ draws.checkedAt ∨
        (newDraft draws site (s.siteNodes site.id) diff).status = .expired ∨
        (newDraft draws site (s.siteNodes site.id) diff).status = .released) := by
      rintro (hlate | hstatus | hstatus)
      · exact hexpired hlate
      · cases hstatus
      · cases hstatus
    rw [if_neg hdraft, if_neg hexpired, if_neg (by simp [newDraft]), if_neg (by simp [hnodes]),
      if_neg (by simp [hactive]), if_neg (by simp)]

/-- The release of a site: it is refused, it fails before the first bundle, or it adds its
bundles and goes on if there is one for every node. -/
theorem siteRelease_runWith (hfails : FailsInside fails) {s : Store}
    {binding : Option SiteSubscription} (hnodes : s.siteNodes site.id ≠ [])
    (hactive : s.activeRelease? (agentIds (s.siteNodes site.id)) = none)
    (hnodup : (agentIds (s.siteNodes site.id)).Nodup) (hfree : s.taskByKey? taskKey = none) :
    (siteRelease settings draws version note site (s.siteNodes site.id) taskKey binding).runWith
      fails s =
    if Expired draws then (.error (.conflict "draft_expired_or_used"), s)
    else if failsAtStart fails site.id then (.error .operation, s)
    else match (siteItems settings fails draws site s).1 with
      | .error e => (.error (conflictOfValueError e), s.bundled settings fails draws site)
      | .ok items =>
        (finishDraft draws (subscriptionDraft draws version note site (s.siteNodes site.id) binding)
          (s.siteNodes site.id) taskKey items).runWith fails (s.bundled settings fails draws site) := by
  rw [siteRelease, createReleaseFromDraft_runWith hfails, Store.earlierRelease_eq_none hfree,
    subscriptionDraft, draftRefusal_site hnodes hactive]
  by_cases hexpired : Expired draws
  · rw [if_pos hexpired, if_pos hexpired]
  · rw [if_neg hexpired, if_neg hexpired]
    dsimp only
    rw [draftNodes_site, publishDraft_eq, Prog.runWith_bind, Prog.runWith_tryCatch]
    have hstart : failsAtStart fails site.id = (fails (.desired site.id .previous) ||
        fails (.desired site.id .setRevision)) := rfl
    cases hprevious : fails (.desired site.id .previous) with
    | true =>
        rw [createDesiredRelease_stopped (.inl hprevious), hstart, hprevious]
        rfl
    | false =>
        cases hset : fails (.desired site.id .setRevision) with
        | true =>
            rw [createDesiredRelease_stopped (.inr hset), hstart, hset, Bool.or_true]
            rfl
        | false =>
            -- The draft has neither a selection nor a policy.
            have hitems : ∀ from?, releaseItems settings fails draws site
                (dictGet (newDraft draws site (s.siteNodes site.id)
                  (subscriptionDiff version from? note)).diff "proxy_selection")
                (dictGet (newDraft draws site (s.siteNodes site.id)
                  (subscriptionDiff version from? note)).diff "routing_policy")
                s (s.siteNodes site.id) = siteItems settings fails draws site s := fun _ => rfl
            rw [createDesiredRelease_runWith hnodup hprevious hset, hstart, hprevious, hset,
              if_neg (by decide), hitems]
            cases (siteItems settings fails draws site s).1 with
            | error e => rfl
            | ok items => rfl

/-! ## What the publication to a site does -/

theorem site?_reviseSite (s : Store) (siteId other : String) (revision : Nat) :
    (s.reviseSite siteId revision).site? other = (s.site? other).map fun found =>
      if found.id = siteId then { found with configRevision := revision } else found := by
  have hids : ((fun found : Site => found.id == other) ∘ fun found : Site =>
      if found.id = siteId then { found with configRevision := revision } else found) =
      fun found => found.id == other := by
    funext found
    rw [Function.comp_apply]
    split
    · rfl
    · rfl
  rw [Store.site?, Store.reviseSite]
  dsimp only
  rw [List.find?_map, hids]
  rfl

theorem site?_reviseSite_of_ne (s : Store) {siteId other : String} (revision : Nat)
    (hne : other ≠ siteId) : (s.reviseSite siteId revision).site? other = s.site? other := by
  rw [site?_reviseSite]
  cases hsite : s.site? other with
  | none => rfl
  | some found =>
      have hid : found.id = other := by simpa using List.find?_some hsite
      rw [Option.map_some, if_neg (hid ▸ hne)]

/-- What a publication to one site may write: its binding, the revision of its document, and
the documents of one release. -/
structure SiteStep (draws : Draws) (siteId taskKey : String) (targets : List Node)
    (added : List DesiredRelease) (release : Option ConfigRelease) (s s' : Store) : Prop where
  nodes : s'.nodes = s.nodes
  versions : s'.versions = s.versions
  blacklist : s'.blacklist = s.blacklist
  accessControlSets : s'.accessControlSets = s.accessControlSets
  networkGroups : s'.networkGroups = s.networkGroups
  binding : ∀ other, other ≠ siteId → s'.binding? other = s.binding? other
  site : ∀ other, other ≠ siteId → s'.site? other = s.site? other
  desired : s'.desired = s.desired ++ added
  added : ∀ d ∈ added, d.siteId = siteId ∧ d.releaseId = draws.releaseId ∧
    d.nodeId ∈ agentIds targets
  tasks : s'.tasks = s.tasks ∨ s'.tasks = s.tasks ++ [⟨draws.taskId, taskKey, .queued⟩]
  releases : s'.releases = s.releases ++ release.toList
  release : ∀ r, release = some r →
    r.siteId = siteId ∧ r.releaseId = draws.releaseId ∧ r.nodeIds = agentIds targets

/-- Selecting the version and inserting the draft are no more than that. -/
theorem SiteStep.of_prepared {s s' : Store} {nodes targets : List Node}
    {added : List DesiredRelease} {release : Option ConfigRelease}
    (h : SiteStep draws site.id taskKey targets added release
      (s.prepared draws version note site nodes) s') :
    SiteStep draws site.id taskKey targets added release s s' where
  nodes := h.nodes.trans (s.select_nodes site.id)
  versions := h.versions.trans (s.select_versions site.id)
  blacklist := h.blacklist.trans (s.select_blacklist site.id)
  accessControlSets := h.accessControlSets.trans (s.select_accessControlSets site.id)
  networkGroups := h.networkGroups.trans (s.select_networkGroups site.id)
  binding := by
    intro other hne
    rw [h.binding other hne]
    change (s.select version site.id).binding? other = _
    rw [Store.binding?_select, if_neg hne]
  site := by
    intro other hne
    rw [h.site other hne, Store.site?, Store.prepared]
    dsimp only
    rw [Store.select_sites, Store.site?]
  desired := h.desired.trans (congrArg (· ++ added) (s.select_desired site.id))
  added := h.added
  tasks := by
    have htasks : (s.prepared draws version note site nodes).tasks = s.tasks :=
      s.select_tasks site.id
    rw [← htasks]
    exact h.tasks
  releases := h.releases.trans (congrArg (· ++ release.toList) (s.select_releases site.id))
  release := h.release

/-- Neither is restoring the binding. -/
theorem SiteStep.restore {s s' : Store} {siteId : String} {targets : List Node}
    {added : List DesiredRelease} {release : Option ConfigRelease}
    {binding : Option SiteSubscription}
    (h : SiteStep draws siteId taskKey targets added release s s')
    (hother : ∀ other, other ≠ siteId →
      (s'.restore version siteId binding).binding? other = s'.binding? other) :
    SiteStep draws siteId taskKey targets added release s (s'.restore version siteId binding) := by
  rw [Store.restore_same] at hother ⊢
  exact { h with binding := fun other hne => (hother other hne).trans (h.binding other hne) }

/-- Only the binding is written for a site without nodes. -/
theorem select_step (s : Store) :
    SiteStep draws site.id taskKey [] [] none s (s.select version site.id) where
  nodes := s.select_nodes site.id
  versions := s.select_versions site.id
  blacklist := s.select_blacklist site.id
  accessControlSets := s.select_accessControlSets site.id
  networkGroups := s.select_networkGroups site.id
  binding := fun other hne => by rw [Store.binding?_select, if_neg hne]
  site := fun other _ => by rw [Store.site?, Store.select_sites, Store.site?]
  desired := by rw [Store.select_desired, List.append_nil]
  added := fun d hd => by cases hd
  tasks := .inl (s.select_tasks site.id)
  releases := by rw [Store.select_releases, Option.toList_none, List.append_nil]
  release := fun r hr => by cases hr

theorem refl_step {siteId : String} {targets : List Node} (s : Store) :
    SiteStep draws siteId taskKey targets [] none s s where
  nodes := rfl
  versions := rfl
  blacklist := rfl
  accessControlSets := rfl
  networkGroups := rfl
  binding := fun _ _ => rfl
  site := fun _ _ => rfl
  desired := (List.append_nil _).symm
  added := fun d hd => by cases hd
  tasks := .inl rfl
  releases := (List.append_nil _).symm
  release := fun r hr => by cases hr

theorem bundled_step (taskKey : String) (s : Store) :
    SiteStep draws site.id taskKey (s.siteNodes site.id) (siteItems settings fails draws site s).2
      none s (s.bundled settings fails draws site) where
  nodes := rfl
  versions := rfl
  blacklist := rfl
  accessControlSets := rfl
  networkGroups := rfl
  binding := fun _ _ => rfl
  site := fun other hne => site?_reviseSite_of_ne s _ hne
  desired := rfl
  added := fun d hd => mem_releaseItems hd
  tasks := .inl rfl
  releases := (List.append_nil _).symm
  release := fun r hr => by cases hr

/-! ## Whether a release goes through -/

section Site

variable (settings : Settings) (fails : Label → Bool) (draws : Draws)
  (version : SubscriptionVersion) (note : String) (site : Site) (taskKey : String)
  (binding : Option SiteSubscription)

/-- The bundles that the release of a site adds. -/
def addedBundles (s : Store) : List DesiredRelease :=
  if Expired draws ∨ failsAtStart fails site.id then []
  else (siteItems settings fails draws site s).2

/-- Nothing of the release of a site fails: the draft is in time, every bundle is built and
inserted, and so are the task and the release. -/
def releaseSucceeds (s : Store) : Bool :=
  !decide (Expired draws) && !failsAtStart fails site.id &&
    match (siteItems settings fails draws site s).1 with
    | .error _ => false
    | .ok items => !(fails (.task taskKey .find) || fails (.task taskKey .insert)) &&
        !fails (.insertRelease (draftRelease draws
          (subscriptionDraft draws version note site (s.siteNodes site.id) binding)
          (s.siteNodes site.id) items))

end Site

/-- A release that goes through has bundles for all nodes, a task and itself. -/
theorem siteRelease_succeeds (hfails : FailsInside fails) {s : Store}
    {binding : Option SiteSubscription} (hnodes : s.siteNodes site.id ≠ [])
    (hactive : s.activeRelease? (agentIds (s.siteNodes site.id)) = none)
    (hnodup : (agentIds (s.siteNodes site.id)).Nodup) (hfresh : FreshRelease s draws taskKey)
    (h : releaseSucceeds settings fails draws version note site taskKey binding s = true) :
    ∃ release s', (siteRelease settings draws version note site (s.siteNodes site.id) taskKey
        binding).runWith fails s = (.ok (release, false), s') ∧
      SiteStep draws site.id taskKey (s.siteNodes site.id)
        (addedBundles settings fails draws site s) (some release) s s' ∧
      s'.bindings = s.bindings ∧
      (addedBundles settings fails draws site s).map DesiredRelease.nodeId =
        agentIds (s.siteNodes site.id) := by
  rw [releaseSucceeds] at h
  simp only [Bool.and_eq_true, Bool.not_eq_true', decide_eq_false_iff_not] at h
  obtain ⟨⟨hexpired, hstart⟩, hrest⟩ := h
  have hadded : addedBundles settings fails draws site s =
      (siteItems settings fails draws site s).2 := by
    rw [addedBundles, if_neg (by simp [hexpired, hstart])]
  rw [siteRelease_runWith hfails hnodes hactive hnodup hfresh.key, if_neg hexpired, hstart,
    if_neg (by decide), hadded]
  cases hitems : (siteItems settings fails draws site s).1 with
  | error e =>
      rw [hitems] at hrest
      cases hrest
  | ok items =>
      rw [hitems] at hrest
      simp only [Bool.and_eq_true, Bool.not_eq_true'] at hrest
      have hfresh' : FreshRelease (s.bundled settings fails draws site) draws taskKey :=
        ⟨hfresh.key, hfresh.task, hfresh.release⟩
      dsimp only
      rw [finishDraft_runWith hfails hfresh', hrest.1, hrest.2, if_neg (by decide),
        if_neg (by decide)]
      refine ⟨_, _, rfl, ?_, rfl, ?_⟩
      · exact { bundled_step taskKey s with
          tasks := .inr rfl
          releases := rfl
          release := fun r hr => by
            cases hr
            exact ⟨rfl, rfl, rfl⟩ }
      · rw [siteItems, releaseItems, (nodeItems_all hitems).1]
        exact (nodeItems_all hitems).2

/-- One that does not has the bundles only. -/
theorem siteRelease_fails (hfails : FailsInside fails) {s : Store}
    {binding : Option SiteSubscription} (hnodes : s.siteNodes site.id ≠ [])
    (hactive : s.activeRelease? (agentIds (s.siteNodes site.id)) = none)
    (hnodup : (agentIds (s.siteNodes site.id)).Nodup) (hfresh : FreshRelease s draws taskKey)
    (h : releaseSucceeds settings fails draws version note site taskKey binding s = false) :
    ∃ e s', (siteRelease settings draws version note site (s.siteNodes site.id) taskKey
        binding).runWith fails s = (.error e, s') ∧
      SiteStep draws site.id taskKey (s.siteNodes site.id)
        (addedBundles settings fails draws site s) none s s' ∧ s'.bindings = s.bindings := by
  rw [siteRelease_runWith hfails hnodes hactive hnodup hfresh.key]
  by_cases hexpired : Expired draws
  · rw [if_pos hexpired, addedBundles, if_pos (.inl hexpired)]
    exact ⟨_, s, rfl, refl_step s, rfl⟩
  · rw [if_neg hexpired]
    cases hstart : failsAtStart fails site.id with
    | true =>
        rw [if_pos rfl, addedBundles, if_pos (.inr hstart)]
        exact ⟨_, s, rfl, refl_step s, rfl⟩
    | false =>
        have hadded : addedBundles settings fails draws site s =
            (siteItems settings fails draws site s).2 := by
          rw [addedBundles, if_neg (by simp [hexpired, hstart])]
        rw [if_neg (by decide), hadded]
        cases hitems : (siteItems settings fails draws site s).1 with
        | error e => exact ⟨_, _, rfl, bundled_step taskKey s, rfl⟩
        | ok items =>
            have hfresh' : FreshRelease (s.bundled settings fails draws site) draws taskKey :=
              ⟨hfresh.key, hfresh.task, hfresh.release⟩
            dsimp only
            rw [finishDraft_runWith hfails hfresh']
            split
            · exact ⟨_, _, rfl, bundled_step taskKey s, rfl⟩
            · rename_i htask
              split
              · exact ⟨_, _, rfl, { bundled_step taskKey s with tasks := .inr rfl }, rfl⟩
              · rename_i hinsert
                rw [releaseSucceeds, hstart, hitems] at h
                simp [hexpired, htask, hinsert] at h

/-! ## Whether a publication to a site goes through -/

/-- The site has no nodes, or its release goes through in the store prepared for it. -/
def siteSucceeds (settings : Settings) (fails : Label → Bool) (draws : Draws)
    (version : SubscriptionVersion) (note : String) (site : Site) (taskKey : String) (s : Store) :
    Bool :=
  (s.siteNodes site.id).isEmpty ||
    releaseSucceeds settings fails draws version note site taskKey (s.binding? site.id)
      (s.prepared draws version note site (s.siteNodes site.id))

section Prepared

variable (s : Store) (nodes : List Node)

@[simp] theorem siteNodes_prepared (siteId : String) :
    (s.prepared draws version note site nodes).siteNodes siteId = s.siteNodes siteId := by
  rw [Store.siteNodes, Store.prepared]
  dsimp only
  rw [Store.select_nodes, Store.siteNodes]

@[simp] theorem activeRelease?_prepared (agents : List String) :
    (s.prepared draws version note site nodes).activeRelease? agents = s.activeRelease? agents := by
  rw [Store.activeRelease?, Store.prepared]
  dsimp only
  rw [Store.select_releases, Store.activeRelease?]

theorem freshRelease_prepared {s : Store} (h : FreshRelease s draws taskKey) :
    FreshRelease (s.prepared draws version note site nodes) draws taskKey := by
  refine ⟨?_, ?_, ?_⟩
  · rw [Store.taskByKey?, Store.prepared]
    dsimp only
    rw [Store.select_tasks]
    exact h.key
  · intro task htask
    exact h.task task ((s.select_tasks site.id) ▸ htask)
  · intro release hrelease
    exact h.release release ((s.select_releases site.id) ▸ hrelease)

end Prepared

/-- What the publication to a site is run in: no release under way for its nodes, and fresh
identifiers. -/
structure Unclaimed (draws : Draws) (siteId taskKey : String) (s : Store) : Prop where
  active : s.activeRelease? (agentIds (s.siteNodes siteId)) = none
  fresh : FreshRelease s draws taskKey

theorem publishToSite_succeeds (hfails : FailsInside fails) {s : Store}
    (hnodup : (agentIds (s.siteNodes site.id)).Nodup) (hunclaimed : Unclaimed draws site.id taskKey s)
    (h : siteSucceeds settings fails draws version note site taskKey s = true) :
    ∃ outcome s' added release, (publishToSite settings draws version note site
        (s.siteNodes site.id) taskKey).runWith fails s = (.ok outcome, s') ∧
      SiteStep draws site.id taskKey (s.siteNodes site.id) added release s s' ∧
      s'.binding? site.id = some (selectedBinding version site.id (s.binding? site.id)) ∧
      (s.siteNodes site.id ≠ [] → release.isSome ∧
        added.map DesiredRelease.nodeId = agentIds (s.siteNodes site.id)) := by
  by_cases hnodes : s.siteNodes site.id = []
  · rw [hnodes, publishToSite_nil hfails]
    refine ⟨_, _, [], none, rfl, select_step s, ?_, fun hne => absurd rfl hne⟩
    rw [Store.binding?_select, if_pos rfl]
  · have hsucceeds : releaseSucceeds settings fails draws version note site taskKey
        (s.binding? site.id) (s.prepared draws version note site (s.siteNodes site.id)) = true := by
      rw [siteSucceeds, Bool.or_eq_true, List.isEmpty_iff] at h
      exact h.resolve_left hnodes
    obtain ⟨release, s', hrun, hstep, hbindings, hadded⟩ :=
      siteRelease_succeeds hfails (by simpa using hnodes) (by simpa using hunclaimed.active)
        (by simpa using hnodup) (freshRelease_prepared _ hunclaimed.fresh) hsucceeds
    rw [siteNodes_prepared] at hrun hstep hadded
    rw [publishToSite_runWith hfails hnodes, hrun]
    refine ⟨_, s', _, some release, rfl, hstep.of_prepared, ?_, fun _ => ⟨rfl, hadded⟩⟩
    rw [Store.binding?, hbindings]
    change (s.select version site.id).binding? site.id = _
    rw [Store.binding?_select, if_pos rfl]

theorem publishToSite_fails (hfails : FailsInside fails) {s : Store}
    (hnodup : (agentIds (s.siteNodes site.id)).Nodup) (hunclaimed : Unclaimed draws site.id taskKey s)
    (h : siteSucceeds settings fails draws version note site taskKey s = false) :
    ∃ e s', (publishToSite settings draws version note site (s.siteNodes site.id) taskKey).runWith
        fails s = (.error e, s') ∧
      SiteStep draws site.id taskKey (s.siteNodes site.id)
        (addedBundles settings fails draws site
          (s.prepared draws version note site (s.siteNodes site.id))) none s s' ∧
      s'.binding? site.id = (s.binding? site.id).map (restoredBinding version) := by
  rw [siteSucceeds, Bool.or_eq_false_iff, List.isEmpty_eq_false_iff] at h
  obtain ⟨e, t, hrun, hstep, hbindings⟩ :=
    siteRelease_fails hfails (by simpa using h.1) (by simpa using hunclaimed.active)
      (by simpa using hnodup) (freshRelease_prepared _ hunclaimed.fresh) h.2
  rw [siteNodes_prepared] at hrun hstep
  have hselected : ∀ other, t.binding? other = (s.select version site.id).binding? other := by
    intro other
    rw [Store.binding?, hbindings]
    rfl
  rw [publishToSite_runWith hfails h.1, hrun]
  refine ⟨e, _, rfl, ?_, ?_⟩
  · refine hstep.of_prepared.restore fun other hne => ?_
    rw [Store.binding?_restore hselected, if_neg hne, hselected, Store.binding?_select, if_neg hne]
  · rw [Store.binding?_restore hselected, if_pos rfl]

/-! ## Sites that are left alone -/

/-- Between two stores nothing happened that concerns a site. -/
structure SameSite (siteId : String) (s s' : Store) : Prop where
  sources : SameSourcesAt siteId s s'
  nodes : s'.nodes = s.nodes
  site : s'.site? siteId = s.site? siteId
  desired : s'.desired.filter (fun d => d.siteId == siteId) =
    s.desired.filter fun d => d.siteId == siteId

theorem SameSite.refl (siteId : String) (s : Store) : SameSite siteId s s :=
  ⟨⟨rfl, rfl, rfl, rfl, rfl⟩, rfl, rfl, rfl⟩

theorem SameSite.trans {siteId : String} {s s' s'' : Store} (h : SameSite siteId s s')
    (h' : SameSite siteId s' s'') : SameSite siteId s s'' where
  sources := {
    binding := h'.sources.binding.trans h.sources.binding
    versions := h'.sources.versions.trans h.sources.versions
    blacklist := h'.sources.blacklist.trans h.sources.blacklist
    accessControlSets := h'.sources.accessControlSets.trans h.sources.accessControlSets
    networkGroups := h'.sources.networkGroups.trans h.sources.networkGroups }
  nodes := h'.nodes.trans h.nodes
  site := h'.site.trans h.site
  desired := h'.desired.trans h.desired

theorem SameSite.siteNodes {siteId : String} {s s' : Store} (h : SameSite siteId s s') :
    s'.siteNodes siteId = s.siteNodes siteId := by
  rw [Store.siteNodes, Store.siteNodes, h.nodes]

theorem SameSite.latestRelease {siteId : String} {s s' : Store} (h : SameSite siteId s s')
    (nodeId : String) : s'.latestRelease siteId nodeId = s.latestRelease siteId nodeId := by
  have hfilter : ∀ l : List DesiredRelease,
      l.filter (fun d => d.siteId == siteId && (nodeId == "" || d.nodeId == nodeId)) =
        (l.filter fun d => d.siteId == siteId).filter fun d => nodeId == "" || d.nodeId == nodeId := by
    intro l
    rw [List.filter_filter]
    congr 1
    funext d
    exact Bool.and_comm _ _
  rw [Store.latestRelease, Store.latestRelease, hfilter, hfilter, h.desired]

theorem SiteStep.sameSite {siteId other : String} {targets : List Node}
    {added : List DesiredRelease} {release : Option ConfigRelease} {s s' : Store}
    (h : SiteStep draws other taskKey targets added release s s') (hne : siteId ≠ other) :
    SameSite siteId s s' where
  sources := ⟨h.binding siteId hne, h.versions, h.blacklist, h.accessControlSets, h.networkGroups⟩
  nodes := h.nodes
  site := h.site siteId hne
  desired := by
    have hnone : added.filter (fun d => d.siteId == siteId) = [] := by
      rw [List.filter_eq_nil_iff]
      intro d hd
      simpa [(h.added d hd).1] using hne.symm
    rw [h.desired, List.filter_append, hnone, List.append_nil]

theorem SameSite.prepared {s s' : Store} (h : SameSite site.id s s') (nodes : List Node) :
    SameSite site.id (s.prepared draws version note site nodes)
      (s'.prepared draws version note site nodes) where
  sources := {
    binding := by
      change (s'.select version site.id).binding? site.id = (s.select version site.id).binding? site.id
      rw [Store.binding?_select, Store.binding?_select, if_pos rfl, if_pos rfl, h.sources.binding]
    versions := by simpa [Store.prepared] using h.sources.versions
    blacklist := by simpa [Store.prepared] using h.sources.blacklist
    accessControlSets := by simpa [Store.prepared] using h.sources.accessControlSets
    networkGroups := by simpa [Store.prepared] using h.sources.networkGroups }
  nodes := by simpa [Store.prepared] using h.nodes
  site := by simpa [Store.prepared, Store.site?] using h.site
  desired := by simpa [Store.prepared] using h.desired

/-- The bundles of a site are the same. -/
theorem SameSite.siteItems {s s' : Store} (h : SameSite site.id s s') :
    siteItems settings fails draws site s' = siteItems settings fails draws site s := by
  have hversion : releaseVersion s' site = releaseVersion s site := by
    rw [releaseVersion, releaseVersion, h.latestRelease]
  have hrevised : ∀ revision, revisedSite s' site revision = revisedSite s site revision := by
    intro revision
    have hsite := site?_reviseSite s' site.id site.id revision
    rw [h.site, ← site?_reviseSite] at hsite
    rw [revisedSite, revisedSite, ← Store.site?, ← Store.site?, hsite]
  rw [Backend.siteItems, Backend.siteItems, releaseItems, releaseItems, h.siteNodes, hversion,
    hrevised, h.latestRelease]
  exact nodeItems_congr h.sources fun node _ => h.latestRelease node.agentId

theorem SameSite.siteSucceeds {s s' : Store} (h : SameSite site.id s s') :
    siteSucceeds settings fails draws version note site taskKey s' =
      siteSucceeds settings fails draws version note site taskKey s := by
  rw [Backend.siteSucceeds, Backend.siteSucceeds, h.siteNodes, h.sources.binding, releaseSucceeds,
    releaseSucceeds, (h.prepared _).siteItems, (h.prepared _).siteNodes]

theorem SameSite.addedBundles {s s' : Store} (h : SameSite site.id s s') :
    addedBundles settings fails draws site
        (s'.prepared draws version note site (s'.siteNodes site.id)) =
      addedBundles settings fails draws site
        (s.prepared draws version note site (s.siteNodes site.id)) := by
  rw [h.siteNodes, Backend.addedBundles, Backend.addedBundles, (h.prepared _).siteItems]

end Grouproxy.Backend
