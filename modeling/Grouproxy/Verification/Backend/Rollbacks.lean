import Grouproxy.Verification.Backend.Publications
import Grouproxy.Model.AgentApi

/-! # Rollbacks of a subscription

A rollback selects the version that the site had before, and with it the task key. A call that
is repeated finds the binding as the first call left it.
-/

namespace Grouproxy.Backend

open Text Ipaddress Encoding Crypto Cidr Programs

variable {settings : Settings} {draws : String → Draws} {siteId key : String}

/-! ## The target -/

/-- The site and the version that a rollback publishes. -/
def rollbackTarget (s : Store) (siteId : String) : Option (Site × SubscriptionVersion) :=
  match s.site? siteId, (s.binding? siteId).bind SiteSubscription.previousSubscriptionVersionId with
  | some site, some previousVersionId =>
    match s.version? previousVersionId with
    | none => none
    | some version =>
      if previousVersionId ≠ "" ∧ version.parseOk then some (site, version) else none
  | _, _ => none

theorem rollbackTarget_eq_some {s : Store} {site : Site} {version : SubscriptionVersion} :
    rollbackTarget s siteId = some (site, version) ↔
      ∃ binding, s.site? siteId = some site ∧ s.binding? siteId = some binding ∧ version.id ≠ "" ∧
        binding.previousSubscriptionVersionId = some version.id ∧
        s.version? version.id = some version ∧ version.parseOk = true := by
  constructor
  · intro h
    rw [rollbackTarget] at h
    split at h
    · rename_i found previousVersionId hsite hprevious
      obtain ⟨binding, hbinding, hprevious⟩ := Option.bind_eq_some_iff.mp hprevious
      split at h
      · cases h
      · rename_i version' hversion
        split at h
        · rename_i hboth
          cases h
          have hid : version.id = previousVersionId := by simpa using List.find?_some hversion
          subst hid
          exact ⟨binding, hsite, hbinding, hboth.1, hprevious, hversion, hboth.2⟩
        · cases h
    · cases h
  · rintro ⟨binding, hsite, hbinding, hne, hprevious, hversion, hparse⟩
    simp only [rollbackTarget, hsite, hbinding, Option.bind_some, hprevious, hversion]
    rw [if_pos ⟨hne, hparse⟩]

theorem rollbackSiteSubscription_run (s : Store) :
    (rollbackSiteSubscription settings draws siteId key).run s =
    match rollbackTarget s siteId with
    | none => (.error (.conflict "subscription_rollback_not_available"), s)
    | some (site, version) =>
      (publishSubscriptionVersion settings draws version [site] "Subscription rollback" key
        "rollback").run s := by
  rw [rollbackSiteSubscription, Prog.run, find_bind_runWith rfl, find_bind_runWith rfl,
    rollbackTarget]
  cases s.site? siteId with
  | none => rfl
  | some site =>
      cases (s.binding? siteId).bind SiteSubscription.previousSubscriptionVersionId with
      | none => rfl
      | some previousVersionId =>
          dsimp only
          rw [reject_bind_runWith]
          by_cases hempty : previousVersionId = ""
          · rw [if_pos hempty]
            cases s.version? previousVersionId with
            | none => rfl
            | some version => simp [hempty]
          · rw [if_neg hempty, find_bind_runWith rfl]
            cases s.version? previousVersionId with
            | none => rfl
            | some version =>
                dsimp only
                rw [reject_bind_runWith]
                cases hparse : version.parseOk with
                | false => simp
                | true =>
                    rw [if_neg (by simp), if_pos ⟨hempty, rfl⟩]
                    rfl

/-- A publication to one site: its plan, its outcome, and the mark on the version. -/
theorem publishSubscriptionVersion_one {version : SubscriptionVersion} {site : Site}
    {note operation : String} (hparse : version.parseOk = true) :
    publishSubscriptionVersion settings draws version [site] note key operation =
      planPublication settings (draws site.id) operation version key site >>= fun plan =>
        publishPlan settings draws version note plan >>= fun outcome =>
          markPublished version (outcome.created || outcome.changed) >>= fun _ =>
            pure outcome.release.toList := by
  rw [publishSubscriptionVersion, reject, if_neg (by simp [hparse]), planPublications]
  simp only [planPublications, Prog.pure_eq, Prog.done_ok_bind, Prog.bind_assoc, publishPlans,
    List.any_cons, List.any_nil, Bool.or_false]
  rfl

/-! ## A call that finds its task -/

/-- The key of the task of a rollback. -/
def rollbackKey (settings : Settings) (draws : Draws) (version : SubscriptionVersion)
    (siteId key : String) : String :=
  subscriptionTaskKey settings draws "rollback" version siteId key

theorem site_id_of_site? {s : Store} {site : Site} (h : s.site? siteId = some site) :
    site.id = siteId := by
  simpa using List.find?_some h

/-- A call returns the release of its task and writes nothing. -/
theorem rollback_run_existing {s : Store} {site : Site} {version : SubscriptionVersion} {task : Task}
    {release : ConfigRelease} (htarget : rollbackTarget s siteId = some (site, version))
    (htask : s.earlierTask key (rollbackKey settings (draws siteId) version siteId key) = some task)
    (hrelease : s.releaseByTask? task.taskId = some release) :
    (rollbackSiteSubscription settings draws siteId key).run s = (.ok [release], s) := by
  obtain ⟨binding, hsite, -, -, -, -, hparse⟩ := rollbackTarget_eq_some.mp htarget
  have hid := site_id_of_site? hsite
  have hplan : sitePlan settings (draws site.id) "rollback" version key site s =
      .ok (.existing release) := by
    rw [rollbackKey] at htask
    rw [sitePlan, hid, htask]
    dsimp only
    rw [hrelease]
  rw [rollbackSiteSubscription_run, htarget]
  dsimp only
  rw [publishSubscriptionVersion_one hparse, Prog.run,
    Prog.runWith_bind, planPublication_runWith failsInside_none, hplan]
  rfl

/-! ## A call that finds no task -/

theorem Store.markPublished_same (s : Store) (version : SubscriptionVersion) (anything : Bool) :
    s.markPublished version anything =
      { s with versions := (s.markPublished version anything).versions } := by
  rw [Store.markPublished]
  split
  · rfl
  · rfl

/-- The mark is all that changes of a version. -/
theorem Store.version?_markPublished {s : Store} {version : SubscriptionVersion} {anything : Bool}
    (h : s.version? version.id = some version) :
    ∃ marked, (s.markPublished version anything).version? version.id = some marked ∧
      marked.id = version.id ∧ marked.sourceId = version.sourceId ∧
      marked.parseOk = version.parseOk := by
  rw [Store.markPublished]
  split
  · refine ⟨{ version with published := true }, ?_, rfl, rfl, rfl⟩
    have hids : ((fun other : SubscriptionVersion => other.id == version.id) ∘ fun other =>
        if other.id = version.id then { version with published := true } else other) =
        fun other => other.id == version.id := by
      funext other
      rw [Function.comp_apply]
      split
      · rename_i hsame
        simp [hsame]
      · rfl
    rw [Store.version?] at h ⊢
    dsimp only
    rw [List.find?_map, hids, h, Option.map_some, if_pos rfl]
  · exact ⟨version, h, rfl, rfl, rfl⟩

/-- What a call leaves that found no task of its key. -/
structure RolledBack (draws : Draws) (siteId : String) (version : SubscriptionVersion)
    (taskKey : String) (releases : List ConfigRelease) (s s' : Store) : Prop where
  binding : s'.binding? siteId = some (selectedBinding version siteId (s.binding? siteId))
  marked : ∃ marked, s'.version? version.id = some marked ∧ marked.id = version.id ∧
    marked.sourceId = version.sourceId ∧ marked.parseOk = version.parseOk
  sites : s'.sites.map Site.id = s.sites.map Site.id
  nodes : s'.nodes = s.nodes
  outcome : (s.siteNodes siteId = [] ∧ releases = [] ∧ s'.tasks = s.tasks ∧
      s'.releases = s.releases) ∨
    (s.siteNodes siteId ≠ [] ∧ ∃ release, releases = [release] ∧
      AddsRelease draws taskKey release s s')

theorem rollback_ok {s s' : Store} {site : Site} {version : SubscriptionVersion}
    {releases : List ConfigRelease} (htarget : rollbackTarget s siteId = some (site, version))
    (hfree : s.taskByKey? (rollbackKey settings (draws siteId) version siteId key) = none)
    (h : (rollbackSiteSubscription settings draws siteId key).run s = (.ok releases, s')) :
    RolledBack (draws siteId) siteId version
      (rollbackKey settings (draws siteId) version siteId key) releases s s' := by
  obtain ⟨binding, hsite, -, -, -, hversion, hparse⟩ := rollbackTarget_eq_some.mp htarget
  have hid := site_id_of_site? hsite
  subst hid
  have hearlier : s.earlierTask key
      (subscriptionTaskKey settings (draws site.id) "rollback" version site.id key) = none := by
    rw [rollbackKey] at hfree
    rw [Store.earlierTask, hfree, ite_self]
  rw [rollbackSiteSubscription_run, htarget] at h
  dsimp only at h
  rw [publishSubscriptionVersion_one hparse] at h
  obtain ⟨plan, t, hplan, hrest⟩ := Prog.runWith_bind_eq_ok.mp h
  rw [planPublication_runWith failsInside_none, sitePlan, hearlier] at hplan
  dsimp only at hplan
  split at hplan
  · cases hplan
  · cases hplan
    obtain ⟨outcome, t, hpublish, hmark⟩ := Prog.runWith_bind_eq_ok.mp hrest
    obtain ⟨_, t', hmarked, hdone⟩ := Prog.runWith_bind_eq_ok.mp hmark
    rw [markPublished_runWith failsInside_none] at hmarked
    cases hmarked
    cases hdone
    have hpublished := publishToSite_ok failsInside_none hfree hpublish
    have hsame := t.markPublished_same version (outcome.created || outcome.changed)
    refine ⟨?_, ?_, ?_, ?_, ?_⟩
    · rw [hsame]
      change t.binding? site.id = _
      rw [hpublished.binding, Store.binding?_select, if_pos rfl]
    · refine Store.version?_markPublished ?_
      rw [Store.version?, hpublished.versions]
      exact hversion
    · rw [hsame]
      exact hpublished.sites
    · rw [hsame]
      exact hpublished.nodes
    · rw [hsame]
      rcases hpublished.outcome with ⟨hnil, hnone, htasks, hreleases⟩ | ⟨hcons, release, hsome, hadds⟩
      · exact .inl ⟨hnil, by rw [hnone]; rfl, htasks, hreleases⟩
      · refine .inr ⟨hcons, release, by rw [hsome]; rfl, ?_⟩
        exact ⟨hadds.fresh, hadds.releaseId, hadds.taskId, hadds.tasks, hadds.releases⟩

/-- A call that returned had a target, and a release for the task it found. -/
theorem rollback_ok_target {s s' : Store} {releases : List ConfigRelease}
    (h : (rollbackSiteSubscription settings draws siteId key).run s = (.ok releases, s')) :
    ∃ site version, rollbackTarget s siteId = some (site, version) ∧
      ∀ task, s.earlierTask key (rollbackKey settings (draws siteId) version siteId key) = some task →
        ∃ release, s.releaseByTask? task.taskId = some release := by
  rw [rollbackSiteSubscription_run] at h
  cases htarget : rollbackTarget s siteId with
  | none =>
      rw [htarget] at h
      cases h
  | some target =>
      obtain ⟨site, version⟩ := target
      rw [htarget] at h
      dsimp only at h
      obtain ⟨binding, hsite, -, -, -, -, hparse⟩ := rollbackTarget_eq_some.mp htarget
      have hid := site_id_of_site? hsite
      subst hid
      refine ⟨site, version, rfl, fun task htask => ?_⟩
      rw [rollbackKey] at htask
      rw [publishSubscriptionVersion_one hparse] at h
      obtain ⟨plan, t, hplan, -⟩ := Prog.runWith_bind_eq_ok.mp h
      rw [planPublication_runWith failsInside_none, sitePlan, htask] at hplan
      dsimp only at hplan
      cases hrelease : s.releaseByTask? task.taskId with
      | none =>
          rw [hrelease] at hplan
          cases hplan
      | some release => exact ⟨release, rfl⟩

/-! ## Fresh identifiers -/

theorem exists_longer (texts : List String) :
    ∃ text : String, ∀ other ∈ texts, other.length < text.length := by
  induction texts with
  | nil => exact ⟨"", by simp⟩
  | cons first rest ih =>
      obtain ⟨text, htext⟩ := ih
      refine ⟨text ++ first ++ "x", fun other hother => ?_⟩
      rw [String.length_append, String.length_append]
      have hlast : "x".length = 1 := rfl
      rcases List.mem_cons.mp hother with rfl | hrest
      · omega
      · have := htext other hrest
        omega

/-- There are always fresh identifiers. -/
theorem exists_freshDraws (s : Store) (siteId : String) :
    ∃ draws : String → Draws, FreshDraws s (draws siteId) := by
  obtain ⟨text, htext⟩ := exists_longer (s.tasks.map Task.taskId ++
    s.tasks.map Task.idempotencyKey ++ s.releases.map ConfigRelease.releaseId ++
    s.releases.map ConfigRelease.taskId)
  have hne : ∀ other, other.length < text.length → other ≠ text := by
    rintro other hlt rfl
    exact Nat.lt_irrefl _ hlt
  refine ⟨fun _ => ⟨text, text, text, text, 0, 0, fun _ => "", fun _ => ""⟩, ?_, ?_, ?_⟩
  · intro task htask
    exact hne _ (htext _ (by grind))
  · intro release hrelease
    exact ⟨hne _ (htext _ (by grind)), hne _ (htext _ (by grind))⟩
  · intro task htask start heq
    have hlt := htext task.idempotencyKey (by grind)
    rw [heq, String.length_append] at hlt
    dsimp only at hlt
    omega

theorem FreshDraws.taskByKey? {s : Store} {draws : Draws} (h : FreshDraws s draws)
    {version : SubscriptionVersion}
    (hnone : s.earlierTask key (rollbackKey settings draws version siteId key) = none) :
    s.taskByKey? (rollbackKey settings draws version siteId key) = none := by
  by_cases hblank : strip key = ""
  · rw [rollbackKey, subscriptionTaskKey_of_blank hblank, Store.taskByKey?, List.find?_eq_none]
    intro task htask hkey
    exact h.token task htask _ (beq_iff_eq.mp hkey)
  · rwa [Store.earlierTask, if_neg hblank] at hnone

/-- The key of a request with a key is drawn from nothing. -/
theorem earlierTask_congr (s : Store) (draws draws' : Draws) {version version' : SubscriptionVersion}
    (hid : version.id = version'.id) :
    s.earlierTask key (rollbackKey settings draws version siteId key) =
      s.earlierTask key (rollbackKey settings draws' version' siteId key) := by
  rw [Store.earlierTask, Store.earlierTask]
  split
  · rfl
  · rename_i hblank
    rw [rollbackKey, rollbackKey, subscriptionTaskKey_of_key hblank,
      subscriptionTaskKey_of_key hblank, hid]

/-! ## Repeated calls -/

/-- Between two calls the agents answer: the releases of the site and their tasks end, and what
a call reads besides stays as it is. -/
structure Settled (siteId : String) (s s' : Store) : Prop where
  sites : s'.sites = s.sites
  nodes : s'.nodes = s.nodes
  versions : s'.versions = s.versions
  bindings : s'.bindings = s.bindings
  tasks : s'.tasks.map (fun task => (task.taskId, task.idempotencyKey)) =
    s.tasks.map fun task => (task.taskId, task.idempotencyKey)
  releases : s'.releases.map (fun release => (release.releaseId, release.taskId)) =
    s.releases.map fun release => (release.releaseId, release.taskId)
  finished : ∀ release ∈ s'.releases, release.siteId = siteId → release.status.isActive = false

/-- The stores in which further calls are made, after a first one that left `s`. -/
inductive Repeats (settings : Settings) (siteId key : String) (s : Store) : Store → Prop
  | first {t : Store} (h : Settled siteId s t) : Repeats settings siteId key s t
  | again {t t' : Store} (draws : String → Draws) (hfresh : FreshDraws t (draws siteId))
      (h : Repeats settings siteId key s t)
      (hsettled : Settled siteId
        ((rollbackSiteSubscription settings draws siteId key).run t).2 t') :
      Repeats settings siteId key s t'

/-- Every further call returns the releases of the first and leaves the binding and the desired
releases of the site alone. -/
def RollbackIdempotent (settings : Settings) (siteId key : String)
    (releases : List ConfigRelease) (s : Store) : Prop :=
  ∀ t draws, Repeats settings siteId key s t → FreshDraws t (draws siteId) →
    ∃ releases' t', (rollbackSiteSubscription settings draws siteId key).run t = (.ok releases', t') ∧
      releases'.map ConfigRelease.releaseId = releases.map ConfigRelease.releaseId ∧
      t'.binding? siteId = t.binding? siteId ∧
      t'.desired.filter (fun d => d.siteId == siteId) =
        t.desired.filter fun d => d.siteId == siteId

/-! ## What a call finds in a settled store -/

theorem Settled.rollbackTarget {s t : Store} (h : Settled siteId s t) (siteId' : String) :
    rollbackTarget t siteId' = rollbackTarget s siteId' := by
  simp only [Backend.rollbackTarget, Store.site?, Store.binding?, Store.version?, h.sites,
    h.bindings, h.versions]

/-- A query that reads what two lists share finds the same. -/
theorem find?_map_congr {α β : Type} {f : α → β} {l l' : List α} (h : l'.map f = l.map f)
    (p : β → Bool) : (l'.find? fun a => p (f a)).map f = (l.find? fun a => p (f a)).map f := by
  have hfind : ∀ xs : List α, (xs.find? fun a => p (f a)).map f = (xs.map f).find? p := by
    intro xs
    rw [List.find?_map]
    rfl
  rw [hfind, hfind, h]

theorem Settled.earlierTask {s t : Store} (h : Settled siteId s t) (key taskKey : String) :
    (t.earlierTask key taskKey).map Task.taskId = (s.earlierTask key taskKey).map Task.taskId := by
  have hfind := find?_map_congr h.tasks fun pair => pair.2 == taskKey
  have hids := congrArg (Option.map Prod.fst) hfind
  rw [Option.map_map, Option.map_map] at hids
  rw [Store.earlierTask, Store.earlierTask]
  split
  · rfl
  · exact hids

theorem Settled.releaseByTask? {s t : Store} (h : Settled siteId s t) (taskId : String) :
    (t.releaseByTask? taskId).map ConfigRelease.releaseId =
      (s.releaseByTask? taskId).map ConfigRelease.releaseId := by
  have hfind := find?_map_congr h.releases fun pair => pair.2 == taskId
  have hids := congrArg (Option.map Prod.fst) hfind
  rwa [Option.map_map, Option.map_map] at hids

/-- The stores in which a call writes nothing: it finds the release of its task, or its site has
the version already and no nodes. -/
inductive Ready (settings : Settings) (siteId key : String) : List String → Store → Prop
  | found {s : Store} {site : Site} {version : SubscriptionVersion} {draws : Draws} {task : Task}
      {release : ConfigRelease} (htarget : rollbackTarget s siteId = some (site, version))
      (htask : s.earlierTask key (rollbackKey settings draws version siteId key) = some task)
      (hrelease : s.releaseByTask? task.taskId = some release) :
      Ready settings siteId key [release.releaseId] s
  | idle {s : Store} {site : Site} {version : SubscriptionVersion} {draws : Draws}
      (htarget : rollbackTarget s siteId = some (site, version))
      (htask : s.earlierTask key (rollbackKey settings draws version siteId key) = none)
      (hnodes : s.siteNodes siteId = [])
      (hbinding : bindingChanges version (s.binding? siteId) = false) :
      Ready settings siteId key [] s

theorem Ready.settled {ids : List String} {s t : Store} (h : Ready settings siteId key ids s)
    (hsettled : Settled siteId s t) : Ready settings siteId key ids t := by
  cases h with
  | found htarget htask hrelease =>
      rename_i site version draws task release
      have htask' := hsettled.earlierTask key
        (rollbackKey settings draws version siteId key)
      rw [htask] at htask'
      obtain ⟨other, hother, hid⟩ := Option.map_eq_some_iff.mp htask'
      have hrelease' := hsettled.releaseByTask? task.taskId
      rw [hrelease] at hrelease'
      obtain ⟨found, hfound, hids⟩ := Option.map_eq_some_iff.mp hrelease'
      rw [← hids]
      refine .found (hsettled.rollbackTarget siteId ▸ htarget) hother ?_
      rw [hid, hfound]
  | idle htarget htask hnodes hbinding =>
      rename_i site version draws
      have htask' := hsettled.earlierTask key
        (rollbackKey settings draws version siteId key)
      rw [htask] at htask'
      refine .idle (hsettled.rollbackTarget siteId ▸ htarget) (Option.map_eq_none_iff.mp htask') ?_ ?_
      · rwa [Store.siteNodes, hsettled.nodes]
      · rwa [Store.binding?, hsettled.bindings]

/-- A call in such a store returns what it found. -/
theorem Ready.run {ids : List String} {s : Store} (h : Ready settings siteId key ids s)
    (draws : String → Draws) :
    ∃ releases, (rollbackSiteSubscription settings draws siteId key).run s = (.ok releases, s) ∧
      releases.map ConfigRelease.releaseId = ids := by
  cases h with
  | found htarget htask hrelease =>
      rename_i site version draws' task release
      rw [earlierTask_congr s draws' (draws siteId) rfl] at htask
      exact ⟨[release], rollback_run_existing htarget htask hrelease, rfl⟩
  | idle htarget htask hnodes hbinding =>
      rename_i site version draws'
      obtain ⟨binding, hsite, -, -, -, -, hparse⟩ := rollbackTarget_eq_some.mp htarget
      have hid := site_id_of_site? hsite
      subst hid
      have hplan : sitePlan settings (draws site.id) "rollback" version key site s =
          .ok (.publish site [] (rollbackKey settings (draws site.id) version site.id key)) := by
        rw [earlierTask_congr s draws' (draws site.id) rfl, rollbackKey] at htask
        rw [sitePlan, htask]
        dsimp only
        rw [hnodes, agentIds, List.map_nil, Store.activeRelease?_nil]
        rfl
      refine ⟨[], ?_, rfl⟩
      rw [rollbackSiteSubscription_run, htarget]
      dsimp only
      rw [publishSubscriptionVersion_one hparse, Prog.run, Prog.runWith_bind,
        planPublication_runWith failsInside_none, hplan]
      dsimp only
      rw [Prog.runWith_bind, publishPlan, publishToSite_nil failsInside_none, hbinding,
        Store.select, hbinding]
      rfl

theorem Ready.repeats {ids : List String} {s t : Store} (h : Ready settings siteId key ids s)
    (hrepeats : Repeats settings siteId key s t) : Ready settings siteId key ids t := by
  induction hrepeats with
  | first hsettled => exact h.settled hsettled
  | again draws hfresh hrepeats hsettled ih =>
      -- A call in a ready store leaves it as it is.
      obtain ⟨releases, hrun, -⟩ := ih.run draws
      rw [hrun] at hsettled
      exact ih.settled hsettled

theorem Ready.idempotent {releases : List ConfigRelease} {s : Store}
    (h : Ready settings siteId key (releases.map ConfigRelease.releaseId) s) :
    RollbackIdempotent settings siteId key releases s := by
  intro t draws hrepeats hfresh
  obtain ⟨releases', hrun, hids⟩ := (h.repeats hrepeats).run draws
  exact ⟨releases', t, hrun, hids, rfl, rfl⟩

/-! ## The first call -/

/-- The task that a rollback finds. -/
def rollbackTask? (settings : Settings) (draws : Draws) (s : Store) (siteId key : String) :
    Option Task :=
  (rollbackTarget s siteId).bind fun target =>
    s.earlierTask key (rollbackKey settings draws target.2 siteId key)

theorem site?_isSome_congr {s s' : Store} (h : s'.sites.map Site.id = s.sites.map Site.id)
    {site : Site} (hsite : s.site? siteId = some site) : ∃ site', s'.site? siteId = some site' := by
  have hmem : siteId ∈ s'.sites.map Site.id := by
    rw [h, ← site_id_of_site? hsite]
    exact List.mem_map_of_mem (List.mem_of_find?_eq_some hsite)
  obtain ⟨site', hsite', hid⟩ := List.mem_map.mp hmem
  cases hfind : s'.site? siteId with
  | some found => exact ⟨found, rfl⟩
  | none =>
      have := List.find?_eq_none.mp hfind site' hsite'
      simp [hid] at this

/-- The target of a further call, when the previous version is the selected one. -/
theorem RolledBack.target {draws : Draws} {taskKey : String} {releases : List ConfigRelease}
    {s s' : Store} {site : Site} {version : SubscriptionVersion} {binding : SiteSubscription}
    (h : RolledBack draws siteId version taskKey releases s s')
    (htarget : rollbackTarget s siteId = some (site, version))
    (hbinding : s.binding? siteId = some binding)
    (hselected : binding.subscriptionVersionId = version.id) :
    ∃ site' marked, rollbackTarget s' siteId = some (site', marked) ∧ marked.id = version.id ∧
      bindingChanges marked (s'.binding? siteId) = false := by
  obtain ⟨binding', hsite, hbinding', hne, hprevious, hversion, hparse⟩ :=
    rollbackTarget_eq_some.mp htarget
  cases hbinding.symm.trans hbinding'
  obtain ⟨site', hsite'⟩ := site?_isSome_congr h.sites hsite
  obtain ⟨marked, hmarked, hid, hsource, hok⟩ := h.marked
  refine ⟨site', marked, rollbackTarget_eq_some.mpr ?_, hid, ?_⟩
  · rw [h.binding, hbinding]
    refine ⟨_, hsite', rfl, by rwa [hid], ?_, by rwa [hid], by rwa [hok]⟩
    rw [selectedBinding, if_neg (by simp [hselected]), hid]
    exact hprevious
  · rw [h.binding, hbinding, bindingChanges, selectedBinding, hid, hsource]
    simp

/-- The first call finds its task already, or it rolls back to the version that is selected, with
a key or without nodes. -/
def Repeatable (settings : Settings) (draws : Draws) (siteId key : String) (s : Store) : Prop :=
  (rollbackTask? settings draws s siteId key).isSome ∨
    ∃ binding, s.binding? siteId = some binding ∧
      binding.previousSubscriptionVersionId = some binding.subscriptionVersionId ∧
      (strip key ≠ "" ∨ s.siteNodes siteId = [])

/-- The task and the release that a call added are found again. -/
theorem AddsRelease.earlierRelease {draws : Draws} {taskKey : String} {release : ConfigRelease}
    {s s' : Store} (h : AddsRelease draws taskKey release s s') (hfresh : FreshDraws s draws)
    (hkey : strip key ≠ "") :
    ∃ task, s'.earlierTask key taskKey = some task ∧ s'.releaseByTask? task.taskId = some release := by
  refine ⟨⟨draws.taskId, taskKey, .queued⟩, ?_, ?_⟩
  · have hnone : s.tasks.find? (fun task => task.idempotencyKey == taskKey) = none := h.fresh.key
    rw [Store.earlierTask, if_neg hkey, Store.taskByKey?, h.tasks, List.find?_append, hnone]
    simp
  · have hnone : s.releases.find? (fun other => other.taskId == draws.taskId) = none := by
      rw [List.find?_eq_none]
      intro other hother
      simpa using (hfresh.release other hother).2
    rw [Store.releaseByTask?, h.releases, List.find?_append, hnone]
    simp [h.taskId]

theorem ready_of_first {s s' : Store} {releases : List ConfigRelease}
    (hfresh : FreshDraws s (draws siteId))
    (hfirst : (rollbackSiteSubscription settings draws siteId key).run s = (.ok releases, s'))
    (h : Repeatable settings (draws siteId) siteId key s) :
    Ready settings siteId key (releases.map ConfigRelease.releaseId) s' := by
  obtain ⟨site, version, htarget, hrelease⟩ := rollback_ok_target hfirst
  cases htask : s.earlierTask key (rollbackKey settings (draws siteId) version siteId key) with
  | some task =>
      obtain ⟨release, hrelease⟩ := hrelease task htask
      rw [rollback_run_existing htarget htask hrelease] at hfirst
      cases hfirst
      exact .found htarget htask hrelease
  | none =>
      have hselected : ∃ binding, s.binding? siteId = some binding ∧
          binding.previousSubscriptionVersionId = some binding.subscriptionVersionId ∧
          (strip key ≠ "" ∨ s.siteNodes siteId = []) := by
        refine h.resolve_left ?_
        rw [rollbackTask?, htarget, Option.bind_some, htask]
        simp
      obtain ⟨binding, hbinding, hprevious, hkey⟩ := hselected
      obtain ⟨binding', -, hbinding', -, hprevious', -, -⟩ := rollbackTarget_eq_some.mp htarget
      cases hbinding.symm.trans hbinding'
      have hid : binding.subscriptionVersionId = version.id :=
        Option.some.inj (hprevious.symm.trans hprevious')
      have hrolled := rollback_ok htarget (hfresh.taskByKey? htask) hfirst
      obtain ⟨site', marked, htarget', hmarked, hunchanged⟩ := hrolled.target htarget hbinding hid
      rcases hrolled.outcome with ⟨hnodes, rfl, htasks, -⟩ | ⟨hnodes, release, rfl, hadds⟩
      · have hnone : s'.earlierTask key (rollbackKey settings (draws siteId) marked siteId key) =
            none := by
          rw [earlierTask_congr s' _ (draws siteId) hmarked, Store.earlierTask, Store.taskByKey?,
            htasks]
          exact htask
        refine .idle htarget' hnone ?_ hunchanged
        rwa [Store.siteNodes, hrolled.nodes]
      · have hkey' := hkey.resolve_right hnodes
        obtain ⟨task, htask', hrelease'⟩ := hadds.earlierRelease hfresh hkey'
        rw [earlierTask_congr s' _ (draws siteId) hmarked.symm] at htask'
        exact .found htarget' htask' hrelease'

/-! ## The second call -/

/-- Every release has ended. -/
def Store.settle (s : Store) : Store :=
  { s with releases := s.releases.map fun release => { release with status := .succeeded } }

theorem settled_settle (s : Store) : Settled siteId s s.settle := by
  refine ⟨rfl, rfl, rfl, rfl, rfl, ?_, ?_⟩
  · rw [Store.settle, List.map_map]
    rfl
  · intro release hrelease _
    obtain ⟨other, -, rfl⟩ := List.mem_map.mp hrelease
    rfl

/-- Keys of different versions are different. -/
theorem rollbackKey_inj {draws draws' : Draws} {version version' : SubscriptionVersion}
    (hkey : strip key ≠ "")
    (h : rollbackKey settings draws version siteId key = rollbackKey settings draws' version' siteId key) :
    version.id = version'.id := by
  rw [rollbackKey, rollbackKey, subscriptionTaskKey_of_key hkey, subscriptionTaskKey_of_key hkey] at h
  simpa using h

/-- The release of another key is another release. -/
theorem AddsRelease.releaseId_ne {draws : Draws} {taskKey otherKey : String} {task : Task}
    {release other : ConfigRelease} {s s' : Store} (h : AddsRelease draws taskKey release s s')
    (hkeys : otherKey ≠ taskKey) (htask : s'.settle.taskByKey? otherKey = some task)
    (hother : s'.settle.releaseByTask? task.taskId = some other) :
    other.releaseId ≠ release.releaseId := by
  have htaskKey : task.idempotencyKey = otherKey := by simpa using List.find?_some htask
  have htaskId : other.taskId = task.taskId := by simpa using List.find?_some hother
  have holdTask : task ∈ s.tasks := by
    have hmem : task ∈ s'.tasks := List.mem_of_find?_eq_some htask
    rw [h.tasks] at hmem
    rcases List.mem_append.mp hmem with hold | hnew
    · exact hold
    · rw [List.mem_singleton.mp hnew] at htaskKey
      exact absurd htaskKey.symm hkeys
  obtain ⟨before, hbefore, rfl⟩ := List.mem_map.mp (List.mem_of_find?_eq_some hother)
  rw [h.releases] at hbefore
  rcases List.mem_append.mp hbefore with hold | hnew
  · rw [h.releaseId]
    exact h.fresh.release before hold
  · -- The new release belongs to the new task.
    rw [List.mem_singleton.mp hnew] at htaskId
    exact absurd (htaskId.symm.trans h.taskId) (h.fresh.task task holdTask)

/-- A rollback to another version turns the next call into a rollback of the rollback. -/
theorem not_idempotent_of_swap {drawn : Draws} {s s' : Store} {version : SubscriptionVersion}
    {binding : SiteSubscription} {releases : List ConfigRelease}
    (hrolled : RolledBack drawn siteId version
      (rollbackKey settings drawn version siteId key) releases s s')
    (hbinding : s.binding? siteId = some binding)
    (hselected : binding.subscriptionVersionId ≠ version.id) :
    ¬ RollbackIdempotent settings siteId key releases s' := by
  intro h
  obtain ⟨draws', hfresh⟩ := exists_freshDraws s'.settle siteId
  obtain ⟨releases', t, hrun, hids, hbinding', -⟩ :=
    h s'.settle draws' (.first (settled_settle s')) hfresh
  obtain ⟨site', version', htarget, hrelease⟩ := rollback_ok_target hrun
  have hswapped : s'.settle.binding? siteId = some (selectedBinding version siteId (some binding)) := by
    rw [← hbinding]
    exact hrolled.binding
  have hprevious : version'.id = binding.subscriptionVersionId := by
    obtain ⟨other, -, hother, -, hprevious, -, -⟩ := rollbackTarget_eq_some.mp htarget
    cases hswapped.symm.trans hother
    rw [selectedBinding, if_pos hselected] at hprevious
    exact (Option.some.inj hprevious).symm
  cases htask : s'.settle.earlierTask key (rollbackKey settings (draws' siteId) version' siteId key) with
  | none =>
      have hagain := rollback_ok htarget (hfresh.taskByKey? htask) hrun
      rw [hagain.binding, hswapped] at hbinding'
      have hsame : version'.id = version.id :=
        congrArg SiteSubscription.subscriptionVersionId (Option.some.inj hbinding')
      exact hselected (hprevious.symm.trans hsame)
  | some task =>
      obtain ⟨other, hother⟩ := hrelease task htask
      rw [rollback_run_existing htarget htask hother] at hrun
      cases hrun
      have hkey : strip key ≠ "" := by
        intro hblank
        rw [Store.earlierTask, if_pos hblank] at htask
        cases htask
      rw [Store.earlierTask, if_neg hkey] at htask
      rcases hrolled.outcome with ⟨-, rfl, -, -⟩ | ⟨-, release, rfl, hadds⟩
      · cases hids
      · have hkeys : rollbackKey settings (draws' siteId) version' siteId key ≠
            rollbackKey settings drawn version siteId key := by
          intro heq
          exact hselected (hprevious.symm.trans (rollbackKey_inj hkey heq))
        have hid : other.releaseId = release.releaseId := by simpa using hids
        exact hadds.releaseId_ne hkeys htask hother hid

/-- Without a key every call creates a release of its own. -/
theorem not_idempotent_of_blank {drawn : Draws} {s s' : Store} {version : SubscriptionVersion} {taskKey : String}
    {releases : List ConfigRelease}
    (hrolled : RolledBack drawn siteId version taskKey releases s s')
    (hblank : strip key = "") (hnodes : s.siteNodes siteId ≠ []) :
    ¬ RollbackIdempotent settings siteId key releases s' := by
  intro h
  obtain ⟨draws', hfresh⟩ := exists_freshDraws s'.settle siteId
  obtain ⟨releases', t, hrun, hids, -, -⟩ :=
    h s'.settle draws' (.first (settled_settle s')) hfresh
  obtain ⟨site', version', htarget, -⟩ := rollback_ok_target hrun
  have hnone : s'.settle.earlierTask key
      (rollbackKey settings (draws' siteId) version' siteId key) = none := by
    rw [Store.earlierTask, if_pos hblank]
  have hagain := rollback_ok htarget (hfresh.taskByKey? hnone) hrun
  have hnodes' : s'.settle.siteNodes siteId ≠ [] := by
    rw [Store.siteNodes, Store.settle, hrolled.nodes]
    exact hnodes
  obtain ⟨-, release, rfl, hadds⟩ := hrolled.outcome.resolve_left fun hnil => hnodes hnil.1
  obtain ⟨-, release', rfl, hadds'⟩ := hagain.outcome.resolve_left fun hnil => hnodes' hnil.1
  have hid : release'.releaseId = release.releaseId := by simpa using hids
  have hmem : { release with status := .succeeded } ∈ s'.settle.releases := by
    rw [Store.settle, hadds.releases]
    exact List.mem_map_of_mem (List.mem_append_right _ (List.mem_singleton.mpr rfl))
  exact (hfresh.release _ hmem).1 (hid.symm.trans hadds'.releaseId)

/-- Subscription rollback is idempotent under its key exactly when the first call already repeats
an earlier one, or rolls back to the version that is selected. -/
theorem rollback_idempotent_iff {s s' : Store} {releases : List ConfigRelease}
    (hfresh : FreshDraws s (draws siteId))
    (hfirst : (rollbackSiteSubscription settings draws siteId key).run s = (.ok releases, s')) :
    RollbackIdempotent settings siteId key releases s' ↔
      Repeatable settings (draws siteId) siteId key s := by
  constructor
  · intro h
    obtain ⟨site, version, htarget, -⟩ := rollback_ok_target hfirst
    cases htask : s.earlierTask key (rollbackKey settings (draws siteId) version siteId key) with
    | some task =>
        left
        rw [rollbackTask?, htarget, Option.bind_some, htask]
        rfl
    | none =>
        have hrolled := rollback_ok htarget (hfresh.taskByKey? htask) hfirst
        obtain ⟨binding, -, hbinding, -, hprevious, -, -⟩ := rollbackTarget_eq_some.mp htarget
        have hselected : binding.subscriptionVersionId = version.id := by
          by_contra hne
          exact not_idempotent_of_swap hrolled hbinding hne h
        right
        refine ⟨binding, hbinding, by rw [hprevious, hselected], ?_⟩
        by_contra hboth
        rw [not_or, not_not] at hboth
        exact not_idempotent_of_blank hrolled hboth.1 hboth.2 h
  · intro h
    exact (ready_of_first hfresh hfirst h).idempotent

/-- The second version is selected, after the first. -/
def secondStore : Store :=
  { sampleStore with
    versions := [sampleVersion "version-1", sampleVersion "version-2"]
    bindings := [⟨"site-north", "version-2", some "version-1", "source"⟩] }

def rollBack (tag : String) : Handler (List ConfigRelease) :=
  rollbackSiteSubscription sampleSettings (fun _ => sampleDraws tag) "site-north" "key"

theorem rollBack_first : ∃ releases s', (rollBack "a").run secondStore = (.ok releases, s') := by
  have hok : ((rollBack "a").run secondStore).1.toBool = true := by decide +kernel
  rcases hrun : (rollBack "a").run secondStore with ⟨r, s'⟩
  rw [hrun] at hok
  cases r with
  | error e => cases hok
  | ok releases => exact ⟨releases, s', rfl⟩

theorem freshDraws_secondStore : FreshDraws secondStore (sampleDraws "a") := by
  refine ⟨?_, ?_, ?_⟩
  · intro task htask
    cases htask
  · intro release hrelease
    cases hrelease
  · intro task htask
    cases htask

theorem rollback_idempotent_iff_second :
    FreshDraws secondStore (sampleDraws "a") ∧ ∃ releases s',
      (rollBack "a").run secondStore = (.ok releases, s') ∧
      (RollbackIdempotent sampleSettings "site-north" "key" releases s' ↔
        Repeatable sampleSettings (sampleDraws "a") "site-north" "key" secondStore) := by
  obtain ⟨releases, s', hfirst⟩ := rollBack_first
  exact ⟨freshDraws_secondStore, releases, s', hfirst,
    rollback_idempotent_iff freshDraws_secondStore hfirst⟩

/-- The first call goes back to version-1. -/
theorem rollBack_not_idempotent : ∃ releases s',
    (rollBack "a").run secondStore = (.ok releases, s') ∧
      ¬ RollbackIdempotent sampleSettings "site-north" "key" releases s' := by
  obtain ⟨releases, s', hfirst⟩ := rollBack_first
  refine ⟨releases, s', hfirst, ?_⟩
  have htarget : rollbackTarget secondStore "site-north" =
      some (sampleSite, sampleVersion "version-1") := by
    exact rollbackTarget_eq_some.mpr ⟨_, rfl, rfl, by decide, rfl, rfl, rfl⟩
  have hbinding : secondStore.binding? "site-north" =
      some ⟨"site-north", "version-2", some "version-1", "source"⟩ := rfl
  have hrolled := rollback_ok htarget rfl hfirst
  refine not_idempotent_of_swap hrolled hbinding ?_
  decide

-- The second call, after the release of the first was acknowledged, goes back to version-2.
example :
    let first := (rollBack "a").run secondStore
    let answered := (agentAck 2 sampleNode
      { nodeId := "north-a", releaseId := "release-a", desiredVersion := 1, appliedVersion := 1
        bundleHash := "", appliedHash := "", ok := true, healthOk := true
        rollbackAttempted := false, rollbackOk := false, errorCode := "", errorMessage := ""
        sequence := 1, receivedAt := 0 }).run first.2
    let second := (rollBack "b").run answered.2
    (first.2.binding? "site-north").map SiteSubscription.subscriptionVersionId = some "version-1" ∧
      answered.2.releases.map ConfigRelease.status = [.succeeded] ∧
      (second.2.binding? "site-north").map SiteSubscription.subscriptionVersionId =
        some "version-2" := by
  decide +kernel

end Grouproxy.Backend
