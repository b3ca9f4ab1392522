import Grouproxy.Verification.Backend.ReleaseRuns

/-! # Publications that run alone

What the steps of `_publish_subscription_version` do to the store: the plan of a site, the
selection of the version, its release, and the restoration after a failure.
-/

namespace Grouproxy.Backend

open Text Ipaddress Encoding Crypto Cidr Programs Grouproxy.Bundle

variable {settings : Settings} {fails : Label → Bool} {draws : Draws} {site : Site}
  {version : SubscriptionVersion} {operation note key : String}

/-! ## Keys -/

/-- The identifiers drawn for a call are in no document, and no key ends with its token. -/
structure FreshDraws (s : Store) (draws : Draws) : Prop where
  task : ∀ task ∈ s.tasks, task.taskId ≠ draws.taskId
  release : ∀ release ∈ s.releases,
    release.releaseId ≠ draws.releaseId ∧ release.taskId ≠ draws.taskId
  token : ∀ task ∈ s.tasks, ∀ start, task.idempotencyKey ≠ start ++ draws.token


/-- Without a key of the request the key of the task ends with a token. -/
theorem subscriptionTaskKey_of_blank {siteId : String} (h : strip key = "") :
    subscriptionTaskKey settings draws operation version siteId key =
      "subscription." ++ operation ++ ":" ++ version.id ++ ":" ++ siteId ++ ":" ++ draws.token := by
  unfold subscriptionTaskKey
  rw [if_pos h]

/-- With one, nothing is drawn. -/
theorem subscriptionTaskKey_of_key {siteId : String} (h : strip key ≠ "") :
    subscriptionTaskKey settings draws operation version siteId key =
      "subscription." ++ operation ++ ":" ++ version.id ++ ":" ++ siteId ++ ":" ++
        hexdigest (settings.hashes.sha256 (strip key).toUTF8) := by
  unfold subscriptionTaskKey
  rw [if_neg h]

/-! ## Plans -/

/-- The task that a request with a key finds. -/
def Store.earlierTask (s : Store) (idempotencyKey taskKey : String) : Option Task :=
  if strip idempotencyKey = "" then none else s.taskByKey? taskKey

theorem earlierTask_runWith (hfails : FailsInside fails) {taskKey : String} (s : Store) :
    (earlierTask key taskKey).runWith fails s = (.ok (s.earlierTask key taskKey), s) := by
  rw [earlierTask, Store.earlierTask]
  split
  · rfl
  · rw [find, Prog.runWith_atomic, if_neg (by simp [hfails .other rfl])]

theorem Store.activeRelease?_nil (s : Store) : s.activeRelease? [] = none := by
  rw [Store.activeRelease?, List.find?_eq_none]
  intro release _
  simp [ConfigRelease.blocks]

theorem activeConfigReleaseForNodes_runWith (hfails : FailsInside fails) {nodes : List Node}
    (s : Store) :
    (activeConfigReleaseForNodes .other nodes).runWith fails s =
      (.ok (s.activeRelease? (agentIds nodes)), s) := by
  rw [activeConfigReleaseForNodes]
  split
  · rename_i hnil
    rw [hnil, Store.activeRelease?_nil]
    rfl
  · rw [find, Prog.runWith_atomic, if_neg (by simp [hfails .other rfl])]

/-- What the checks of a site find in a store. -/
def sitePlan (settings : Settings) (draws : Draws) (operation : String)
    (version : SubscriptionVersion) (idempotencyKey : String) (site : Site) (s : Store) :
    Except Failure SitePlan :=
  let taskKey := subscriptionTaskKey settings draws operation version site.id idempotencyKey
  match s.earlierTask idempotencyKey taskKey with
  | some task =>
    match s.releaseByTask? task.taskId with
    | none => .error (.conflict "subscription_publish_idempotency_incomplete")
    | some release => .ok (.existing release)
  | none =>
    if (s.activeRelease? (agentIds (s.siteNodes site.id))).isSome then
      .error (.conflict "release_in_progress")
    else .ok (.publish site (s.siteNodes site.id) taskKey)

theorem planPublication_runWith (hfails : FailsInside fails) (s : Store) :
    (planPublication settings draws operation version key site).runWith fails s =
      (sitePlan settings draws operation version key site s, s) := by
  rw [planPublication, sitePlan, Prog.runWith_bind, earlierTask_runWith hfails]
  dsimp only
  cases s.earlierTask key (subscriptionTaskKey settings draws operation version site.id key) with
  | some task =>
      dsimp only
      rw [find_bind_runWith (hfails .other rfl)]
      cases s.releaseByTask? task.taskId with
      | none => rfl
      | some release => rfl
  | none =>
      dsimp only
      rw [find_bind_runWith (hfails .other rfl), Prog.runWith_bind,
        activeConfigReleaseForNodes_runWith hfails]
      dsimp only
      rw [reject_bind_runWith]
      split
      · rfl
      · rfl

/-! ## The selected version -/

/-- The binding of a site after the version was selected. -/
def selectedBinding (version : SubscriptionVersion) (siteId : String) :
    Option SiteSubscription → SiteSubscription
  | none => ⟨siteId, version.id, none, version.sourceId⟩
  | some binding => { binding with
      subscriptionVersionId := version.id
      previousSubscriptionVersionId :=
        if binding.subscriptionVersionId ≠ version.id then some binding.subscriptionVersionId
        else binding.previousSubscriptionVersionId
      sourceId := version.sourceId }

/-- `binding.save()` on a store. -/
def Store.putBinding (s : Store) (binding : SiteSubscription) : Store :=
  if s.bindings.any fun other => other.siteId == binding.siteId then
    { s with bindings := s.bindings.map fun other =>
        if other.siteId = binding.siteId then binding else other }
  else { s with bindings := s.bindings ++ [binding] }

theorem Store.putBinding_same (s : Store) (binding : SiteSubscription) :
    s.putBinding binding = { s with bindings := (s.putBinding binding).bindings } := by
  rw [Store.putBinding]
  split
  · rfl
  · rfl

theorem find?_map_replace (bindings : List SiteSubscription) (binding : SiteSubscription)
    (siteId : String) :
    (bindings.map fun other => if other.siteId = binding.siteId then binding else other).find?
        (fun other => other.siteId == siteId) =
      if siteId = binding.siteId ∧ bindings.any (fun other => other.siteId == siteId) then
        some binding
      else bindings.find? fun other => other.siteId == siteId := by
  induction bindings with
  | nil => simp
  | cons first rest ih =>
      rw [List.map_cons, List.find?_cons, ih, List.find?_cons, List.any_cons]
      by_cases hfirst : first.siteId = binding.siteId
      · by_cases hsite : siteId = binding.siteId
        · subst hsite
          simp [hfirst]
        · have hother : (binding.siteId == siteId) = false := beq_false_of_ne (Ne.symm hsite)
          simp [hfirst, hsite, hother]
      · by_cases hsite : first.siteId = siteId
        · subst hsite
          simp [hfirst]
        · have hother : (first.siteId == siteId) = false := beq_false_of_ne hsite
          simp [hfirst, hother]

theorem Store.binding?_putBinding (s : Store) (binding : SiteSubscription) (siteId : String) :
    (s.putBinding binding).binding? siteId =
      if siteId = binding.siteId then some binding else s.binding? siteId := by
  rw [Store.putBinding]
  split
  · rename_i htaken
    rw [Store.binding?, find?_map_replace]
    by_cases hsite : siteId = binding.siteId
    · subst hsite
      simp [htaken]
    · simp [hsite, Store.binding?]
  · rename_i hfree
    simp only [Store.binding?]
    rw [List.find?_append]
    by_cases hsite : siteId = binding.siteId
    · subst hsite
      have hnone : s.bindings.find? (fun other => other.siteId == binding.siteId) = none := by
        rw [List.find?_eq_none]
        intro other hother hsame
        exact hfree (List.any_eq_true.mpr ⟨other, hother, hsame⟩)
      simp [hnone]
    · simp [hsite, Ne.symm hsite]

theorem siteId_of_binding? {s : Store} {siteId : String} {binding : SiteSubscription}
    (h : s.binding? siteId = some binding) : binding.siteId = siteId := by
  simpa using List.find?_some h

/-- Whether selecting the version writes the binding. -/
def bindingChanges (version : SubscriptionVersion) : Option SiteSubscription → Bool
  | none => true
  | some binding =>
    binding.subscriptionVersionId != version.id || binding.sourceId != version.sourceId

/-- The store after the version was selected for a site. -/
def Store.select (s : Store) (version : SubscriptionVersion) (siteId : String) : Store :=
  if bindingChanges version (s.binding? siteId) then
    s.putBinding (selectedBinding version siteId (s.binding? siteId))
  else s

theorem selectedBinding_of_unchanged {siteId : String} {binding : SiteSubscription}
    (h : bindingChanges version (some binding) = false) :
    selectedBinding version siteId (some binding) = binding := by
  simp only [bindingChanges, Bool.or_eq_false_iff, bne_eq_false_iff_eq] at h
  rw [selectedBinding, ← h.1, ← h.2, if_neg (by simp)]

theorem selectedBinding_siteId {s : Store} {siteId : String} :
    (selectedBinding version siteId (s.binding? siteId)).siteId = siteId := by
  cases h : s.binding? siteId with
  | none => rfl
  | some binding =>
      change binding.siteId = siteId
      exact siteId_of_binding? h

theorem Store.binding?_select (s : Store) (siteId other : String) :
    (s.select version siteId).binding? other =
      if other = siteId then some (selectedBinding version siteId (s.binding? siteId))
      else s.binding? other := by
  rw [Store.select]
  split
  · rw [Store.binding?_putBinding, selectedBinding_siteId]
  · rename_i hsame
    split
    · rename_i hother
      subst hother
      cases hbinding : s.binding? other with
      | none =>
          rw [hbinding] at hsame
          exact absurd rfl hsame
      | some binding =>
          rw [hbinding] at hsame
          rw [selectedBinding_of_unchanged (by simpa using hsame)]
    · rfl

theorem Store.select_same (s : Store) (siteId : String) :
    s.select version siteId = { s with bindings := (s.select version siteId).bindings } := by
  rw [Store.select]
  split
  · exact Store.putBinding_same _ _
  · rfl

section Select

variable (s : Store) (siteId : String)

@[simp] theorem Store.select_sites : (s.select version siteId).sites = s.sites := by
  rw [Store.select_same]

@[simp] theorem Store.select_nodes : (s.select version siteId).nodes = s.nodes := by
  rw [Store.select_same]

@[simp] theorem Store.select_versions : (s.select version siteId).versions = s.versions := by
  rw [Store.select_same]

@[simp] theorem Store.select_desired : (s.select version siteId).desired = s.desired := by
  rw [Store.select_same]

@[simp] theorem Store.select_drafts : (s.select version siteId).drafts = s.drafts := by
  rw [Store.select_same]

@[simp] theorem Store.select_releases : (s.select version siteId).releases = s.releases := by
  rw [Store.select_same]

@[simp] theorem Store.select_blacklist : (s.select version siteId).blacklist = s.blacklist := by
  rw [Store.select_same]

@[simp] theorem Store.select_accessControlSets :
    (s.select version siteId).accessControlSets = s.accessControlSets := by
  rw [Store.select_same]

@[simp] theorem Store.select_networkGroups :
    (s.select version siteId).networkGroups = s.networkGroups := by
  rw [Store.select_same]

@[simp] theorem Store.select_tasks : (s.select version siteId).tasks = s.tasks := by
  rw [Store.select_same]

end Select

theorem bindVersion_runWith (hfails : FailsInside fails) {siteId : String} (s : Store) :
    (bindVersion version siteId (s.binding? siteId)).runWith fails s =
      (.ok (bindingChanges version (s.binding? siteId)), s.select version siteId) := by
  have hother : fails .other = false := hfails .other rfl
  rw [Store.select]
  cases hbinding : s.binding? siteId with
  | none =>
      have hfree : (s.bindings.any fun other => other.siteId == siteId) = false := by
        rw [List.any_eq_false]
        exact List.find?_eq_none.mp hbinding
      rw [bindVersion, Prog.runWith_bind, insertBinding, insert, Prog.runWith_atomic,
        if_neg (by simp [hother])]
      simp only [hfree, bindingChanges, if_true, Store.putBinding, selectedBinding,
        Bool.false_eq_true, if_false]
      rfl
  | some binding =>
      rw [bindVersion]
      by_cases hchanges : binding.subscriptionVersionId ≠ version.id ∨
          binding.sourceId ≠ version.sourceId
      · have hbool : bindingChanges version (some binding) = true := by
          simpa [bindingChanges] using hchanges
        rw [if_pos hchanges, hbool, Prog.runWith_bind, saveBinding, update, Prog.runWith_atomic,
          if_neg (by simp [hother])]
        rfl
      · have hbool : bindingChanges version (some binding) = false := by
          simpa [bindingChanges] using hchanges
        rw [if_neg hchanges, hbool]
        rfl

/-! ## The restored binding -/

/-- The binding that a failure leaves, if there was one: an empty source is not restored. -/
def restoredBinding (version : SubscriptionVersion) (binding : SiteSubscription) :
    SiteSubscription :=
  { binding with sourceId := if binding.sourceId = "" then version.sourceId else binding.sourceId }

/-- The store after a failure. -/
def Store.restore (s : Store) (version : SubscriptionVersion) (siteId : String) :
    Option SiteSubscription → Store
  | none => { s with bindings := s.bindings.filter fun other => other.siteId ≠ siteId }
  | some binding =>
    if bindingChanges version (some binding) then s.putBinding (restoredBinding version binding)
    else s

theorem restoreBinding_runWith (hfails : FailsInside fails) {siteId : String}
    (binding : Option SiteSubscription) (s : Store) :
    (restoreBinding version siteId (bindingChanges version binding) binding).runWith fails s =
      (.ok (), s.restore version siteId binding) := by
  have hother : fails .other = false := hfails .other rfl
  cases binding with
  | none =>
      rw [restoreBinding, deleteBinding, update, Prog.runWith_atomic, if_neg (by simp [hother])]
      rfl
  | some binding =>
      rw [restoreBinding, Store.restore]
      split
      · rw [saveBinding, update, Prog.runWith_atomic, if_neg (by simp [hother])]
        rfl
      · rfl

theorem Store.restore_same (s : Store) (siteId : String) (binding : Option SiteSubscription) :
    s.restore version siteId binding =
      { s with bindings := (s.restore version siteId binding).bindings } := by
  cases binding with
  | none => rfl
  | some binding =>
      rw [Store.restore]
      split
      · exact Store.putBinding_same _ _
      · rfl

/-- After a failure the site has its binding back, and the others have theirs. -/
theorem Store.binding?_restore {s t : Store} {siteId : String}
    (hselected : ∀ other, t.binding? other = (s.select version siteId).binding? other)
    (other : String) :
    (t.restore version siteId (s.binding? siteId)).binding? other =
      if other = siteId then (s.binding? siteId).map (restoredBinding version)
      else s.binding? other := by
  have hbefore := hselected other
  rw [Store.binding?_select] at hbefore
  cases hbinding : s.binding? siteId with
  | none =>
      rw [Store.restore]
      simp only [Store.binding?]
      rw [List.find?_filter]
      by_cases hother : other = siteId
      · subst hother
        rw [if_pos rfl, List.find?_eq_none.mpr]
        · rfl
        · intro first _
          simp
      · rw [if_neg hother] at hbefore ⊢
        rw [← Store.binding?, ← hbefore, Store.binding?]
        congr 1
        funext first
        by_cases hfirst : first.siteId = other
        · simp [hfirst, hother]
        · simp [hfirst]
  | some binding =>
      have hsite : (restoredBinding version binding).siteId = siteId := by
        change binding.siteId = siteId
        exact siteId_of_binding? hbinding
      rw [Store.restore]
      split
      · rw [Store.binding?_putBinding, hsite]
        split
        · rfl
        · rename_i hother
          rwa [if_neg hother] at hbefore
      · rename_i hunchanged
        have hsame : bindingChanges version (some binding) = false := by simpa using hunchanged
        rw [hbefore]
        split
        · rw [hbinding, selectedBinding_of_unchanged hsame]
          simp only [bindingChanges, Bool.or_eq_false_iff, bne_eq_false_iff_eq] at hsame
          rw [Option.map_some, restoredBinding, ← hsame.2, ite_self]
        · rfl

/-! ## One site -/

theorem blacklistValidationForNodes_runWith (hfails : FailsInside fails) (nodes : List Node)
    (s : Store) : (blacklistValidationForNodes nodes).runWith fails s = (.ok (), s) := by
  induction nodes with
  | nil => rfl
  | cons node rest ih =>
      rw [blacklistValidationForNodes, find_bind_runWith (hfails .other rfl)]
      exact ih

/-- The draft of a site. -/
def subscriptionDraft (draws : Draws) (version : SubscriptionVersion) (note : String) (site : Site)
    (nodes : List Node) (binding : Option SiteSubscription) : ConfigDraft :=
  newDraft draws site nodes
    (subscriptionDiff version (binding.map SiteSubscription.subscriptionVersionId) note)

/-- The store in which the release of a site is created. -/
def Store.prepared (s : Store) (draws : Draws) (version : SubscriptionVersion) (note : String)
    (site : Site) (nodes : List Node) : Store :=
  { s.select version site.id with
    drafts := s.drafts ++ [subscriptionDraft draws version note site nodes (s.binding? site.id)] }

/-- The release of a site, in the store that was prepared for it. -/
def siteRelease (settings : Settings) (draws : Draws) (version : SubscriptionVersion)
    (note : String) (site : Site) (nodes : List Node) (taskKey : String)
    (binding : Option SiteSubscription) : Handler (ConfigRelease × Bool) :=
  let draft := subscriptionDraft draws version note site nodes binding
  createReleaseFromDraft settings draws draft site draft.nodeIds none taskKey

/-- A site without nodes gets the version only. -/
theorem publishToSite_nil (hfails : FailsInside fails) {taskKey : String} (s : Store) :
    (publishToSite settings draws version note site [] taskKey).runWith fails s =
      (.ok ⟨none, false, bindingChanges version (s.binding? site.id)⟩,
        s.select version site.id) := by
  rw [publishToSite, find_bind_runWith (hfails .other rfl), Prog.runWith_bind,
    bindVersion_runWith hfails]
  rfl

/-- A site with nodes gets a release, or its binding back. -/
theorem publishToSite_runWith (hfails : FailsInside fails) {nodes : List Node} {taskKey : String}
    (hnodes : nodes ≠ []) (s : Store) :
    (publishToSite settings draws version note site nodes taskKey).runWith fails s =
    match (siteRelease settings draws version note site nodes taskKey (s.binding? site.id)).runWith
        fails (s.prepared draws version note site nodes) with
    | (.ok created, t) =>
      (.ok ⟨some created.1, true, bindingChanges version (s.binding? site.id)⟩, t)
    | (.error e, t) => (.error e, t.restore version site.id (s.binding? site.id)) := by
  have hother : fails .other = false := hfails .other rfl
  rw [publishToSite, find_bind_runWith (hfails .other rfl), Prog.runWith_bind,
    bindVersion_runWith hfails]
  dsimp only
  rw [if_neg hnodes, Prog.runWith_bind, blacklistValidationForNodes_runWith hfails]
  dsimp only
  rw [Prog.runWith_bind, insertDraft, update, Prog.runWith_atomic, if_neg (by simp [hother])]
  dsimp only
  rw [Store.select_drafts, Prog.runWith_bind, Prog.runWith_tryCatch, siteRelease, Store.prepared,
    subscriptionDraft]
  generalize (createReleaseFromDraft settings draws _ site _ none taskKey).runWith fails _ = out
  rcases out with ⟨r, t⟩
  cases r with
  | ok created => rfl
  | error e =>
      dsimp only
      rw [Prog.runWith_bind, restoreBinding_runWith hfails]
      rfl

/-- The documents of the release of a free key. -/
structure AddsRelease (draws : Draws) (taskKey : String) (release : ConfigRelease)
    (s s' : Store) : Prop where
  fresh : FreshRelease s draws taskKey
  releaseId : release.releaseId = draws.releaseId
  taskId : release.taskId = draws.taskId
  tasks : s'.tasks = s.tasks ++ [⟨draws.taskId, taskKey, .queued⟩]
  releases : s'.releases = s.releases ++ [release]

/-- What a publication to a site leaves that returned. -/
structure Published (draws : Draws) (version : SubscriptionVersion) (siteId : String)
    (targets : List Node) (taskKey : String) (release : Option ConfigRelease) (s s' : Store) :
    Prop where
  binding : ∀ other, s'.binding? other = (s.select version siteId).binding? other
  versions : s'.versions = s.versions
  nodes : s'.nodes = s.nodes
  sites : s'.sites.map Site.id = s.sites.map Site.id
  outcome : (targets = [] ∧ release = none ∧ s'.tasks = s.tasks ∧ s'.releases = s.releases) ∨
    (targets ≠ [] ∧ ∃ created, release = some created ∧ AddsRelease draws taskKey created s s')

theorem publishToSite_ok (hfails : FailsInside fails) {nodes : List Node} {taskKey : String}
    {outcome : SiteOutcome} {s s' : Store} (hfree : s.taskByKey? taskKey = none)
    (h : (publishToSite settings draws version note site nodes taskKey).runWith fails s =
      (.ok outcome, s')) :
    Published draws version site.id nodes taskKey outcome.release s s' := by
  by_cases hnodes : nodes = []
  · subst hnodes
    rw [publishToSite_nil hfails] at h
    cases h
    exact {
      binding := fun _ => rfl
      versions := s.select_versions site.id
      nodes := s.select_nodes site.id
      sites := by rw [Store.select_sites]
      outcome := .inl ⟨rfl, rfl, s.select_tasks site.id, s.select_releases site.id⟩ }
  · rw [publishToSite_runWith hfails hnodes] at h
    split at h
    · rename_i created t hrelease
      cases h
      have htasks : (s.prepared draws version note site nodes).tasks = s.tasks :=
        s.select_tasks site.id
      have hreleases : (s.prepared draws version note site nodes).releases = s.releases :=
        s.select_releases site.id
      have hcreated := createReleaseFromDraft_created hfails
        (by rw [Store.taskByKey?, htasks, ← Store.taskByKey?, hfree]) hrelease
      exact {
        binding := fun other => by
          rw [Store.binding?, hcreated.bindings]
          rfl
        versions := hcreated.versions.trans (s.select_versions site.id)
        nodes := hcreated.nodes.trans (s.select_nodes site.id)
        sites := hcreated.sites.trans (congrArg _ (s.select_sites site.id))
        outcome := .inr ⟨hnodes, created.1, rfl, {
          fresh := ⟨hfree, htasks ▸ hcreated.fresh.task, hreleases ▸ hcreated.fresh.release⟩
          releaseId := hcreated.releaseId
          taskId := hcreated.taskId
          tasks := by rw [hcreated.tasks, htasks]
          releases := by rw [hcreated.releases, hreleases] }⟩ }
    · cases h

/-! ## The mark on the version -/

/-- The version is marked as published. -/
def Store.markPublished (s : Store) (version : SubscriptionVersion) (anything : Bool) : Store :=
  if anything then
    { s with versions := s.versions.map fun other =>
        if other.id = version.id then { version with published := true } else other }
  else s

theorem markPublished_runWith (hfails : FailsInside fails) {anything : Bool} (s : Store) :
    (markPublished version anything).runWith fails s = (.ok (), s.markPublished version anything) := by
  have hother : fails .other = false := hfails .other rfl
  rw [markPublished, Store.markPublished]
  split
  · rw [Prog.runWith_bind, update, Prog.runWith_atomic, if_neg (by simp [hother])]
    dsimp only
    rw [appendAudit, update, Prog.runWith_atomic, if_neg (by simp [hother])]
    rfl
  · rfl

end Grouproxy.Backend
