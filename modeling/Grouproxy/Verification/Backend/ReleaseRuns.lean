import Grouproxy.Verification.Backend.Bundles

/-! # Releases that run alone

What `_create_release_from_draft` does to the store it finds, also when operations of its own
fail: the ones of the desired bundles, of the task and of the release.
-/

namespace Grouproxy.Backend

open Encoding Crypto Cidr Programs

variable {settings : Settings} {fails : Label → Bool} {draws : Draws} {draft : ConfigDraft}
  {site : Site} {key : String}

/-- The operations inside `create_desired_release`, `create_task` and the insertion of the
release. -/
def Label.isInner : Label → Bool
  | .desired _ _ | .task _ _ | .insertRelease _ => true
  | _ => false

/-- Only inner operations fail. -/
def FailsInside (fails : Label → Bool) : Prop := ∀ label, label.isInner = false → fails label = false

theorem failsInside_none : FailsInside fun _ => false := fun _ _ => rfl

theorem reject_bind_runWith {α : Type} (condition : Prop) [Decidable condition] (failure : Failure)
    (p : Handler α) (s : Store) :
    (reject condition failure >>= fun _ => p).runWith fails s =
      if condition then (.error failure, s) else p.runWith fails s := by
  rw [reject]
  split
  · rfl
  · rfl

/-! ## Nodes by reference -/

def Store.nodeReference? (s : Store) (nodeId : String) : Option Node :=
  match s.nodes.find? fun node => node.id == nodeId with
  | some node => some node
  | none => s.nodes.find? fun node => node.agentId == nodeId

theorem findNodeReference_run (nodeId : String) (s : Store) :
    (findNodeReference nodeId).run s = (.ok (s.nodeReference? nodeId), s) := by
  rw [findNodeReference, find_bind_run, Store.nodeReference?]
  cases s.nodes.find? fun node => node.id == nodeId with
  | none => rfl
  | some node => rfl

theorem mem_of_nodeReference? {s : Store} {nodeId : String} {node : Node}
    (h : s.nodeReference? nodeId = some node) : node ∈ s.nodes := by
  rw [Store.nodeReference?] at h
  split at h
  · rename_i found hfound
    cases h
    exact List.mem_of_find?_eq_some hfound
  · exact List.mem_of_find?_eq_some h

/-! ## The task and the release -/

def Store.addTask (s : Store) (task : Task) : Store := { s with tasks := s.tasks ++ [task] }

def Store.addRelease (s : Store) (release : ConfigRelease) : Store :=
  { s with releases := s.releases ++ [release] }

/-- The store with a new draft. -/
def Store.withDraft (t : Store) (draft : ConfigDraft) : Store :=
  { t with drafts := t.drafts ++ [draft] }

def Store.saveDraft (s : Store) (draft : ConfigDraft) : Store :=
  { s with drafts := s.drafts.map fun other => if other.id = draft.id then draft else other }

/-- The identifiers that a release draws are in no document, and neither is its key. -/
structure FreshRelease (s : Store) (draws : Draws) (key : String) : Prop where
  key : s.taskByKey? key = none
  task : ∀ task ∈ s.tasks, task.taskId ≠ draws.taskId
  release : ∀ release ∈ s.releases, release.releaseId ≠ draws.releaseId

theorem createTask_runWith {s : Store} (h : FreshRelease s draws key) :
    (createTask draws key).runWith fails s =
      if fails (.task key .find) || fails (.task key .insert) then (.error .operation, s)
      else (.ok (⟨draws.taskId, key, .queued⟩, true), s.addTask ⟨draws.taskId, key, .queued⟩) := by
  have hfree : (s.tasks.any fun other =>
      other.idempotencyKey == key || other.taskId == draws.taskId) = false := by
    rw [List.any_eq_false]
    intro task htask
    have hkey := List.find?_eq_none.mp h.key task htask
    simp only [Bool.or_eq_true, beq_iff_eq, not_or]
    exact ⟨by simpa using hkey, h.task task htask⟩
  rw [createTask, find_bind_runWith_or, h.key]
  cases fails (.task key .find) with
  | true => rfl
  | false =>
      simp only [Bool.false_or, Bool.false_eq_true, if_false]
      rw [Prog.runWith_tryCatch, Prog.runWith_bind, insert, Prog.runWith_atomic]
      cases fails (.task key .insert) with
      | true => rfl
      | false =>
          simp only [Bool.false_eq_true, if_false, hfree]
          rfl

/-- A task that was created while its key was free. -/
theorem createTask_ok {s s' : Store} {task : Task × Bool} (hfree : s.taskByKey? key = none)
    (h : (createTask draws key).runWith fails s = (.ok task, s')) :
    (∀ other ∈ s.tasks, other.taskId ≠ draws.taskId) ∧ task = (⟨draws.taskId, key, .queued⟩, true) ∧
      s' = s.addTask ⟨draws.taskId, key, .queued⟩ := by
  rw [createTask, find_bind_runWith_or, hfree] at h
  split at h
  · cases h
  · rw [Prog.runWith_tryCatch, Prog.runWith_bind, insert, Prog.runWith_atomic] at h
    cases hinsert : fails (.task key .insert) with
    | true =>
        rw [hinsert] at h
        cases h
    | false =>
        rw [hinsert] at h
        cases htaken : s.tasks.any fun other =>
            other.idempotencyKey == key || other.taskId == draws.taskId with
        | true =>
            simp only [Bool.false_eq_true, if_false, htaken, if_true] at h
            rw [find_bind_runWith_or, hfree] at h
            split at h
            · cases h
            · cases h
        | false =>
            simp only [Bool.false_eq_true, if_false, htaken] at h
            cases h
            refine ⟨fun other hother => ?_, rfl, rfl⟩
            have hboth := List.any_eq_false.mp htaken other hother
            simp only [Bool.or_eq_true, beq_iff_eq, not_or] at hboth
            exact hboth.2

/-- What follows the desired bundles. -/
def finishDraft (draws : Draws) (draft : ConfigDraft) (selected : List Node) (key : String)
    (created : List DesiredRelease) : Handler (ConfigRelease × Bool) := do
  let task ← createTask draws key
  let release := newRelease draws draft selected
    (created.head?.bind DesiredRelease.previousReleaseId) task.1.taskId
  insert (.insertRelease release)
    (fun s => s.releases.any fun other => other.releaseId == release.releaseId)
    fun s => { s with releases := s.releases ++ [release] }
  saveDraft { draft with status := .released }
  appendAudit
  return (release, false)

/-- The release of a draft. -/
def draftRelease (draws : Draws) (draft : ConfigDraft) (selected : List Node)
    (created : List DesiredRelease) : ConfigRelease :=
  newRelease draws draft selected (created.head?.bind DesiredRelease.previousReleaseId) draws.taskId

theorem finishDraft_runWith (hfails : FailsInside fails) {selected : List Node}
    {created : List DesiredRelease} {s : Store} (h : FreshRelease s draws key) :
    (finishDraft draws draft selected key created).runWith fails s =
      if fails (.task key .find) || fails (.task key .insert) then (.error .operation, s)
      else if fails (.insertRelease (draftRelease draws draft selected created)) then
        (.error .operation, s.addTask ⟨draws.taskId, key, .queued⟩)
      else (.ok (draftRelease draws draft selected created, false),
        ((s.addTask ⟨draws.taskId, key, .queued⟩).addRelease
          (draftRelease draws draft selected created)).saveDraft
            { draft with status := .released }) := by
  have hother : fails .other = false := hfails .other rfl
  have hfree : (s.releases.any fun other => other.releaseId == draws.releaseId) = false := by
    rw [List.any_eq_false]
    intro release hrelease
    simpa using h.release release hrelease
  rw [finishDraft, Prog.runWith_bind, createTask_runWith h]
  cases fails (.task key .find) || fails (.task key .insert) with
  | true => rfl
  | false =>
      simp only [Bool.false_eq_true, if_false]
      rw [Prog.runWith_bind, insert, Prog.runWith_atomic, ← draftRelease]
      cases fails (.insertRelease (draftRelease draws draft selected created)) with
      | true => rfl
      | false =>
          have htaken : ((s.addTask ⟨draws.taskId, key, .queued⟩).releases.any fun other =>
              other.releaseId == (draftRelease draws draft selected created).releaseId) = false :=
            hfree
          simp only [Bool.false_eq_true, if_false, htaken]
          rw [Prog.runWith_bind, Backend.saveDraft, update, Prog.runWith_atomic, if_neg (by simp [hother])]
          dsimp only
          rw [Prog.runWith_bind, appendAudit, update, Prog.runWith_atomic, if_neg (by simp [hother])]
          rfl

/-- A draft that was finished while its key was free drew fresh identifiers. -/
theorem finishDraft_fresh {selected : List Node} {created : List DesiredRelease} {s s' : Store}
    {release : ConfigRelease × Bool} (hfree : s.taskByKey? key = none)
    (h : (finishDraft draws draft selected key created).runWith fails s = (.ok release, s')) :
    FreshRelease s draws key := by
  obtain ⟨task, t, htask, hrest⟩ := Prog.runWith_bind_eq_ok.mp h
  obtain ⟨hids, rfl, rfl⟩ := createTask_ok hfree htask
  obtain ⟨_, _, hinsert, -⟩ := Prog.runWith_bind_eq_ok.mp hrest
  refine ⟨hfree, hids, fun other hother heq => ?_⟩
  rw [insert, Prog.runWith_atomic] at hinsert
  split at hinsert
  · cases hinsert
  · split at hinsert
    · cases hinsert
    · rename_i htaken
      exact htaken (List.any_eq_true.mpr ⟨other, hother, beq_iff_eq.mpr heq⟩)

theorem publishDraft_eq {selected : List Node} :
    publishDraft settings draws draft site selected key =
      Prog.tryCatch
          (createDesiredRelease settings draws site selected (dictGet draft.diff "proxy_selection")
            (dictGet draft.diff "routing_policy"))
          (fun e => throw (conflictOfValueError e)) >>= fun created =>
        finishDraft draws draft selected key created.2 := rfl

/-! ## A draft -/

/-- The release that an earlier call with the same key left. -/
def Store.earlierRelease (s : Store) (key : String) : Option ConfigRelease :=
  (s.taskByKey? key).bind fun task => s.releaseByTask? task.taskId

/-- The nodes of the site that a draft names. -/
def draftNodes (draft : ConfigDraft) (requestedNodeIds : List String) (s : Store) : List Node :=
  let nodes := s.siteNodes draft.siteId
  selectedNodes (selectedDocumentIds requestedNodeIds draft nodes) nodes

/-- Why a draft is refused before anything is written. -/
def draftRefusal (draws : Draws) (draft : ConfigDraft) (site : Site)
    (requestedNodeIds : List String) (expectedCurrentVersion : Option Int) (s : Store) :
    Option Failure :=
  let documentIds := selectedDocumentIds requestedNodeIds draft (s.siteNodes draft.siteId)
  let selected := draftNodes draft requestedNodeIds s
  let currentVersion :=
    ((s.latestRelease draft.siteId "").map DesiredRelease.desiredVersion).getD 0
  if draft.expiresAt ≤ draws.checkedAt ∨ draft.status = .expired ∨ draft.status = .released then
    some (.conflict "draft_expired_or_used")
  else if site.id ≠ draft.siteId then some (.conflict "site_mismatch")
  else if selected.length ≠ documentIds.length ∨ selected = [] then
    some (.conflict "invalid_release_nodes")
  else if (s.activeRelease? (agentIds selected)).isSome then some (.conflict "release_in_progress")
  else if expectedCurrentVersion.any fun expected => expected ≠ (currentVersion : Int) then
    some (.http 409 (.obj [("code", .str "version_conflict"),
      ("current_version", number currentVersion)]))
  else none

theorem existingRelease_runWith (hfails : FailsInside fails) (s : Store) :
    (existingRelease key).runWith fails s = (.ok (s.earlierRelease key), s) := by
  rw [existingRelease, find_bind_runWith (hfails _ rfl), Store.earlierRelease]
  cases s.taskByKey? key with
  | none => rfl
  | some task =>
      dsimp only [Option.bind_some]
      rw [find, Prog.runWith_atomic, if_neg (by simp [hfails (.findRelease task.taskId) rfl])]

/-- A call finds the release of its key, is refused, or goes on to the bundles. -/
theorem createReleaseFromDraft_runWith (hfails : FailsInside fails)
    {requestedNodeIds : List String} {expectedCurrentVersion : Option Int} (s : Store) :
    (createReleaseFromDraft settings draws draft site requestedNodeIds expectedCurrentVersion
      key).runWith fails s =
    match s.earlierRelease key,
      draftRefusal draws draft site requestedNodeIds expectedCurrentVersion s with
    | some release, _ => (.ok (release, true), s)
    | none, some failure => (.error failure, s)
    | none, none => (publishDraft settings draws draft site (draftNodes draft requestedNodeIds s)
        key).runWith fails s := by
  rw [createReleaseFromDraft, Prog.runWith_bind, existingRelease_runWith hfails]
  cases s.earlierRelease key with
  | some release => rfl
  | none =>
      dsimp only
      rw [reject_bind_runWith, draftRefusal]
      split
      · rfl
      · rw [reject_bind_runWith]
        split
        · rfl
        · rw [find_bind_runWith (hfails _ rfl), reject_bind_runWith, ← draftNodes]
          split
          · rfl
          · rename_i hselected
            have hnodes : agentIds (draftNodes draft requestedNodeIds s) ≠ [] := by
              intro hnil
              exact hselected (.inr (List.map_eq_nil_iff.mp hnil))
            rw [activeConfigReleaseForNodes, if_neg hnodes, find_bind_runWith (hfails _ rfl),
              reject_bind_runWith]
            split
            · rfl
            · rw [find_bind_runWith (hfails _ rfl), reject_bind_runWith]
              split
              · rfl
              · rfl

/-! ## Calls that create a release -/

/-- What the bundles of a release leave alone. -/
structure Rebundled (s s' : Store) : Prop where
  same : s' = { s with sites := s'.sites, desired := s'.desired }
  sites : s'.sites.map Site.id = s.sites.map Site.id

theorem Rebundled.trans {s s' s'' : Store} (h : Rebundled s s') (h' : Rebundled s' s'') :
    Rebundled s s'' := by
  refine ⟨?_, h'.sites.trans h.sites⟩
  rw [h'.same, h.same]

theorem createDesiredRelease_rebundled {nodes : List Node} {proxySelection routingPolicy : Json}
    {s s' : Store} {result : Except Failure (String × List DesiredRelease)}
    (h : (createDesiredRelease settings draws site nodes proxySelection routingPolicy).runWith
      fails s = (result, s')) : Rebundled s s' := by
  have huses : (createDesiredRelease settings draws site nodes proxySelection routingPolicy).Uses
      fun _ s s' => Rebundled s s' := by
    refine createDesiredRelease_uses (fun _ _ => ⟨rfl, rfl⟩) (fun _ _ _ => ⟨rfl, rfl⟩)
      fun _ s revision => ⟨rfl, ?_⟩
    rw [List.map_map]
    refine List.map_congr_left fun other _ => ?_
    rw [Function.comp_apply]
    split
    · rfl
    · rfl
  have hrun := huses.runWith (R := Rebundled) (fun _ => ⟨rfl, rfl⟩) (fun _ _ _ h h' => h.trans h')
    (fun _ _ _ h => h) fails s
  rwa [h] at hrun

/-- What a call leaves that created the release of a free key. -/
structure Created (draws : Draws) (key : String) (release : ConfigRelease) (s s' : Store) : Prop where
  fresh : FreshRelease s draws key
  releaseId : release.releaseId = draws.releaseId
  taskId : release.taskId = draws.taskId
  tasks : s'.tasks = s.tasks ++ [⟨draws.taskId, key, .queued⟩]
  releases : s'.releases = s.releases ++ [release]
  nodes : s'.nodes = s.nodes
  versions : s'.versions = s.versions
  bindings : s'.bindings = s.bindings
  sites : s'.sites.map Site.id = s.sites.map Site.id

theorem Store.earlierRelease_eq_none {s : Store} (h : s.taskByKey? key = none) :
    s.earlierRelease key = none := by
  rw [Store.earlierRelease, h]
  rfl

/-- A call for a free key that returns has made the bundles, and then its task and release. -/
theorem createReleaseFromDraft_ok (hfails : FailsInside fails)
    {requestedNodeIds : List String} {expectedCurrentVersion : Option Int} {s s' : Store}
    {release : ConfigRelease × Bool} (hfree : s.taskByKey? key = none)
    (h : (createReleaseFromDraft settings draws draft site requestedNodeIds expectedCurrentVersion
      key).runWith fails s = (.ok release, s')) :
    draftRefusal draws draft site requestedNodeIds expectedCurrentVersion s = none ∧
      ∃ created t, (createDesiredRelease settings draws site (draftNodes draft requestedNodeIds s)
          (dictGet draft.diff "proxy_selection") (dictGet draft.diff "routing_policy")).runWith fails
            s = (.ok created, t) ∧
        FreshRelease t draws key ∧
        release = (draftRelease draws draft (draftNodes draft requestedNodeIds s) created.2, false) ∧
        s' = ((t.addTask ⟨draws.taskId, key, .queued⟩).addRelease release.1).saveDraft
          { draft with status := .released } := by
  rw [createReleaseFromDraft_runWith hfails, Store.earlierRelease_eq_none hfree] at h
  split at h
  · contradiction
  · cases h
  · rename_i hrefusal
    refine ⟨hrefusal, ?_⟩
    rw [publishDraft_eq] at h
    obtain ⟨created, t, hcreated, hfinish⟩ := Prog.runWith_bind_eq_ok.mp h
    have hcreated := Prog.runWith_rethrow_eq_ok.mp hcreated
    have htasks : t.tasks = s.tasks := by rw [(createDesiredRelease_rebundled hcreated).same]
    have hfresh := finishDraft_fresh (by rw [Store.taskByKey?, htasks]; exact hfree) hfinish
    rw [finishDraft_runWith hfails hfresh] at hfinish
    split at hfinish
    · cases hfinish
    · split at hfinish
      · cases hfinish
      · cases hfinish
        exact ⟨created, t, hcreated, hfresh, rfl, rfl⟩

theorem createReleaseFromDraft_created (hfails : FailsInside fails)
    {requestedNodeIds : List String} {expectedCurrentVersion : Option Int} {s s' : Store}
    {release : ConfigRelease × Bool} (hfree : s.taskByKey? key = none)
    (h : (createReleaseFromDraft settings draws draft site requestedNodeIds expectedCurrentVersion
      key).runWith fails s = (.ok release, s')) :
    Created draws key release.1 s s' := by
  obtain ⟨-, created, t, hcreated, hfresh, hrelease, rfl⟩ := createReleaseFromDraft_ok hfails hfree h
  have hbundles := createDesiredRelease_rebundled hcreated
  have htasks : t.tasks = s.tasks := by rw [hbundles.same]
  have hreleases : t.releases = s.releases := by rw [hbundles.same]
  exact {
    fresh := ⟨hfree, htasks ▸ hfresh.task, hreleases ▸ hfresh.release⟩
    releaseId := by rw [hrelease]; rfl
    taskId := by rw [hrelease]; rfl
    tasks := congrArg (· ++ _) htasks
    releases := congrArg (· ++ _) hreleases
    nodes := by rw [hbundles.same]; rfl
    versions := by rw [hbundles.same]; rfl
    bindings := by rw [hbundles.same]; rfl
    sites := hbundles.sites }

/-- A call for a free key that returns has added the bundles of its nodes. -/
theorem createReleaseFromDraft_bundles {requestedNodeIds : List String}
    {expectedCurrentVersion : Option Int} {s s' : Store} {release : ConfigRelease × Bool}
    (hfree : s.taskByKey? key = none)
    (hnodup : (agentIds (draftNodes draft requestedNodeIds s)).Nodup)
    (h : (createReleaseFromDraft settings draws draft site requestedNodeIds expectedCurrentVersion
      key).run s = (.ok release, s')) :
    ∃ items, releaseItems settings (fun _ => false) draws site
        (dictGet draft.diff "proxy_selection") (dictGet draft.diff "routing_policy") s
          (draftNodes draft requestedNodeIds s) = (.ok items, items) ∧
      s'.desired = s.desired ++ items := by
  obtain ⟨-, created, t, hcreated, -, -, rfl⟩ := createReleaseFromDraft_ok failsInside_none hfree h
  rw [createDesiredRelease_runWith hnodup rfl rfl] at hcreated
  cases hitems : (releaseItems settings (fun _ => false) draws site
      (dictGet draft.diff "proxy_selection") (dictGet draft.diff "routing_policy") s
        (draftNodes draft requestedNodeIds s)).1 with
  | error e =>
      rw [hitems] at hcreated
      cases hcreated
  | ok items =>
      have hadded := (nodeItems_all hitems).1
      refine ⟨items, Prod.ext hitems hadded, ?_⟩
      cases (Prod.mk.inj hcreated).2
      exact congrArg (s.desired ++ ·) hadded

end Grouproxy.Backend
