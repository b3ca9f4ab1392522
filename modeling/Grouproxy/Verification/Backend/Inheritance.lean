import Grouproxy.Verification.Backend.Bundles
import Grouproxy.Verification.Backend.RoutingPolicy
import Grouproxy.Verification.Backend.Versions

/-! # Routing policies over the history of a site

Every bundle carries the policy of its draft, or the one of the bundle before it. An inherited
policy is validated again and stays as it is.
-/

namespace Grouproxy.Backend

open Encoding Crypto Cidr Programs

/-! ## The policy of a bundle -/

/-- The policy that a bundle carries. -/
abbrev policyOf (bundle : Dict) : Option Json := fieldOf bundle "routing_policy"

/-- The policy is validated, and its dump is what the bundle carries. -/
theorem policyOf_addRoutingPolicy {libs : Libraries} {hasSubscription : Bool} {policy : Json}
    {bundle bundle' : Dict} (hnone : policyOf bundle = none)
    (h : addRoutingPolicy libs hasSubscription policy bundle = .ok bundle') :
    (isNone policy = true ∧ policyOf bundle' = none) ∨
      ∃ validated, isNone policy = false ∧ RoutingPolicy.modelValidate libs policy = some validated ∧
        policyOf bundle' = some validated.modelDump := by
  rw [addRoutingPolicy] at h
  split at h
  · rename_i hpolicy
    cases h
    exact .inl ⟨hpolicy, hnone⟩
  · rename_i hpolicy
    split at h
    · cases h
    · rename_i validated hvalidated
      split at h
      · cases h
      · cases h
        refine .inr ⟨validated, by simpa using hpolicy, hvalidated, ?_⟩
        rw [policyOf, fieldOf_set_ne _ _ (by decide), fieldOf_set_self]

/-- The policy of a bundle that was built. -/
theorem policyOf_bundleOf {settings : Settings} {s : Store} {site : Site} {node : Node}
    {desiredVersion : Nat} {draws : Draws} {proxySelection routingPolicy : Json} {bundle : Dict}
    (h : bundleOf settings s site node desiredVersion draws proxySelection routingPolicy =
      .ok bundle) :
    (isNone routingPolicy = true ∧ policyOf bundle = none) ∨
      ∃ validated, isNone routingPolicy = false ∧
        RoutingPolicy.modelValidate settings.libs routingPolicy = some validated ∧
        policyOf bundle = some validated.modelDump := by
  rcases bundleOf_ok h with ⟨subscription, unsigned, -, hunsigned, rfl⟩
  rw [policyOf, fieldOf_signBundle _ _ _ (by decide) (by decide)]
  refine policyOf_addRoutingPolicy ?_ hunsigned
  rw [policyOf, fieldOf_addProxySelection_ne _ _ _ _ (by decide) (by decide)]
  rfl

/-! ## Histories -/

/-- What a release leaves of a bundle for later ones. -/
def releaseKey (d : DesiredRelease) : String × String × Nat × Option Json :=
  (d.siteId, d.nodeId, d.desiredVersion, policyOf d.bundle)

/-- The stores that sequences of releases reach, from one without bundles. Between the releases
anything may happen that keeps the versions and the policies of the bundles. -/
inductive Released (settings : Settings) : Store → Prop where
  | start {s : Store} : s.desired = [] → Released settings s
  | release {s : Store} (call : DesiredCall) :
      Released settings s → Released settings ((call.program settings).run s).2
  | other {s s' : Store} : Released settings s →
      s'.desired.map releaseKey = s.desired.map releaseKey → Released settings s'

/-- The policy that a call gives the bundle of a node. -/
def expectedPolicy (libs : Libraries) (s : Store) (call : DesiredCall) (nodeId : String) :
    Option Json :=
  if isNone call.routingPolicy = false then
    (RoutingPolicy.modelValidate libs call.routingPolicy).map RoutingPolicy.modelDump
  else
    match (nodeReleases s call.site.id nodeId).getLast?, s.latestRelease call.site.id "" with
    | some previous, _ => policyOf previous.bundle
    | none, some previous => policyOf previous.bundle
    | none, none => none

/-- The invariant of a history. -/
structure Inherits (libs : Libraries) (s : Store) : Prop where
  increase : VersionsIncrease s
  normal : ∀ d ∈ s.desired, ∀ policy, policyOf d.bundle = some policy →
    ∃ validated : RoutingPolicy, validated.IsNormal libs ∧ policy = validated.modelDump

theorem argmax_eq_getLast? {α : Type} {f : α → Nat} {l : List α}
    (h : l.Pairwise fun a b => f a < f b) : l.argmax f = l.getLast? := by
  rcases List.eq_nil_or_concat' l with rfl | ⟨init, last, rfl⟩
  · rfl
  · rw [List.argmax_concat, List.getLast?_concat]
    cases hinit : init.argmax f with
    | none => rfl
    | some best =>
        have hlt := (List.pairwise_append.mp h).2.2 best (List.argmax_mem hinit) last (by simp)
        exact if_pos hlt

/-- With increasing versions the latest release of a node is the last one inserted. -/
theorem VersionsIncrease.latestRelease {s : Store} (h : VersionsIncrease s) {siteId nodeId : String}
    (hne : nodeId ≠ "") :
    s.latestRelease siteId nodeId = (nodeReleases s siteId nodeId).getLast? := by
  have hfilter : (s.desired.filter fun d => d.siteId == siteId &&
      (nodeId == "" || d.nodeId == nodeId)) = nodeReleases s siteId nodeId := by
    have hempty : (nodeId == "") = false := by simpa using hne
    rw [nodeReleases, hempty]
    simp only [Bool.false_or]
  rw [Store.latestRelease, hfilter]
  exact argmax_eq_getLast? (h siteId nodeId)

theorem Inherits.other {libs : Libraries} {s s' : Store} (h : Inherits libs s)
    (hkeys : s'.desired.map releaseKey = s.desired.map releaseKey) : Inherits libs s' := by
  refine ⟨fun siteId nodeId => ?_, fun d hd policy hpolicy => ?_⟩
  · have hreleases : ∀ r : Store, (nodeReleases r siteId nodeId).map releaseKey =
        (r.desired.map releaseKey).filter fun k => k.1 == siteId && k.2.1 == nodeId := by
      intro r
      rw [nodeReleases, List.filter_map]
      rfl
    have hold := List.Pairwise.map releaseKey (S := fun a b => a.2.2.1 < b.2.2.1) (fun _ _ h => h)
      (h.increase siteId nodeId)
    rw [hreleases, ← hkeys, ← hreleases, List.pairwise_map] at hold
    exact hold
  · have hkey : releaseKey d ∈ s.desired.map releaseKey := hkeys ▸ List.mem_map_of_mem hd
    rcases List.mem_map.mp hkey with ⟨d', hd', hsame⟩
    simp only [releaseKey, Prod.mk.injEq] at hsame
    exact h.normal d' hd' policy (hsame.2.2.2.trans hpolicy)

/-! ## One release -/

section Release

variable {settings : Settings} {call : DesiredCall} {s : Store}

/-- The result of a call that runs alone, and the bundles it adds. -/
def DesiredCall.items (settings : Settings) (call : DesiredCall) (s : Store) :
    Except Failure (List DesiredRelease) × List DesiredRelease :=
  releaseItems settings (fun _ => false) call.draws call.site call.proxySelection call.routingPolicy
    s call.nodes

theorem DesiredCall.run_eq (settings : Settings) (call : DesiredCall) (s : Store) :
    (call.program settings).run s =
      ((call.items settings s).1.map fun items => (call.draws.releaseId, items),
        (s.reviseSite call.site.id (releaseVersion s call.site)).addDesired
          (call.items settings s).2) :=
  createDesiredRelease_runWith call.nodup rfl rfl s

/-- The bundle that a node of the call inherits from. -/
def DesiredCall.inherited (call : DesiredCall) (s : Store) (nodeId : String) :
    Option DesiredRelease :=
  s.latestRelease call.site.id nodeId <|> s.latestRelease call.site.id ""

theorem mem_of_inherited {nodeId : String} {d : DesiredRelease}
    (h : call.inherited s nodeId = some d) : d ∈ s.desired := by
  rw [DesiredCall.inherited, Option.orElse_eq_some] at h
  rcases h with h | ⟨-, h⟩
  · exact mem_of_latestRelease h
  · exact mem_of_latestRelease h

/-- What the bundles of a call have in common. -/
theorem items_spec {d : DesiredRelease} (h : d ∈ (call.items settings s).2) :
    d.siteId = call.site.id ∧ d.desiredVersion = releaseVersion s call.site ∧ d.nodeId ≠ "" ∧
      ((isNone (policyFor call.routingPolicy (call.inherited s d.nodeId)) = true ∧
          policyOf d.bundle = none) ∨
        ∃ validated,
          isNone (policyFor call.routingPolicy (call.inherited s d.nodeId)) = false ∧
          RoutingPolicy.modelValidate settings.libs
            (policyFor call.routingPolicy (call.inherited s d.nodeId)) = some validated ∧
          policyOf d.bundle = some validated.modelDump) := by
  rcases nodeItem_of_mem h with ⟨node, -, hitem⟩
  rcases nodeItem_ok hitem with ⟨bundle, hbundle, rfl⟩
  refine ⟨rfl, rfl, node.agentId_ne, ?_⟩
  rw [nodeBundle_runWith fun _ _ => rfl] at hbundle
  cases hselection : selectionFor call.proxySelection node with
  | error e =>
      rw [hselection] at hbundle
      cases hbundle
  | ok selection =>
      rw [hselection] at hbundle
      exact policyOf_bundleOf hbundle

/-- The policy is the draft's or the inherited one, which validates to itself. -/
theorem policyOf_items (hlibs : LowersOnce settings.libs) (hs : Inherits settings.libs s)
    {d : DesiredRelease} (h : d ∈ (call.items settings s).2) :
    policyOf d.bundle = expectedPolicy settings.libs s call d.nodeId ∧
      ∀ policy, policyOf d.bundle = some policy →
        ∃ validated : RoutingPolicy, validated.IsNormal settings.libs ∧
          policy = validated.modelDump := by
  rcases items_spec h with ⟨-, -, hne, hpolicy⟩
  have hnormal : ∀ policy, policyOf d.bundle = some policy →
      ∃ validated : RoutingPolicy, validated.IsNormal settings.libs ∧
        policy = validated.modelDump := by
    intro policy hsome
    rcases hpolicy with ⟨-, hnone⟩ | ⟨validated, -, hvalidated, hdump⟩
    · rw [hnone] at hsome
      cases hsome
    · rw [hdump] at hsome
      cases hsome
      exact ⟨validated, modelValidate_isNormal hvalidated, rfl⟩
  refine ⟨?_, hnormal⟩
  rw [expectedPolicy]
  cases hdraft : isNone call.routingPolicy with
  | false =>
      have hown : policyFor call.routingPolicy (call.inherited s d.nodeId) = call.routingPolicy := by
        rw [policyFor.eq_def, if_neg (by simp [hdraft])]
      rw [hown] at hpolicy
      rcases hpolicy with ⟨hnone, -⟩ | ⟨validated, -, hvalidated, hdump⟩
      · rw [hdraft] at hnone
        cases hnone
      · rw [if_pos rfl, hvalidated, hdump]
        rfl
  | true =>
      have hsame : (match (nodeReleases s call.site.id d.nodeId).getLast?,
            s.latestRelease call.site.id "" with
          | some previous, _ => policyOf previous.bundle
          | none, some previous => policyOf previous.bundle
          | none, none => none) =
          (call.inherited s d.nodeId).bind fun previous => policyOf previous.bundle := by
        rw [DesiredCall.inherited, hs.increase.latestRelease hne]
        cases (nodeReleases s call.site.id d.nodeId).getLast? with
        | some previous => rfl
        | none =>
            cases s.latestRelease call.site.id "" with
            | some previous => rfl
            | none => rfl
      rw [if_neg (by decide), hsame]
      rw [policyFor.eq_def, if_pos hdraft] at hpolicy
      cases hinherited : call.inherited s d.nodeId with
      | none =>
          rw [hinherited] at hpolicy
          rcases hpolicy with ⟨-, hnone⟩ | ⟨validated, hnull, -⟩
          · exact hnone
          · cases hnull
      | some previous =>
          rw [hinherited] at hpolicy
          dsimp only [Option.bind_some] at hpolicy ⊢
          rw [dictGet_eq] at hpolicy
          cases hprevious : fieldOf previous.bundle "routing_policy" with
          | none =>
              rw [hprevious] at hpolicy
              rcases hpolicy with ⟨-, hnone⟩ | ⟨validated, hnull, -⟩
              · exact hnone.trans hprevious.symm
              · cases hnull
          | some policy =>
              rcases hs.normal previous (mem_of_inherited hinherited) policy hprevious with
                ⟨validated, hvalid, rfl⟩
              rw [hprevious, Option.getD_some] at hpolicy
              rcases hpolicy with ⟨hnull, -⟩ | ⟨again, -, hagain, hdump⟩
              · cases hnull
              · rw [hdump, modelValidate_modelDump hlibs hvalid hagain]
                exact hprevious.symm

/-- The nodes of the bundles are the first nodes of the call. -/
theorem items_nodeId : (call.items settings s).2.map DesiredRelease.nodeId <+: agentIds call.nodes :=
  nodeItems_nodeId s call.nodes

/-- A release keeps the invariant. -/
theorem Inherits.release (hlibs : LowersOnce settings.libs) (hs : Inherits settings.libs s) :
    Inherits settings.libs ((call.program settings).run s).2 := by
  rw [DesiredCall.run_eq]
  refine ⟨fun siteId nodeId => ?_, fun d hd policy hpolicy => ?_⟩
  · have happend : nodeReleases ((s.reviseSite call.site.id (releaseVersion s call.site)).addDesired
        (call.items settings s).2) siteId nodeId = nodeReleases s siteId nodeId ++
          (call.items settings s).2.filter fun d => d.siteId == siteId && d.nodeId == nodeId := by
      rw [nodeReleases, nodeReleases, Store.addDesired, List.filter_append]
      rfl
    rw [happend, List.pairwise_append]
    refine ⟨hs.increase siteId nodeId, ?_, fun a ha b hb => ?_⟩
    · -- A call has one bundle for a node.
      have hnodup : (call.items settings s).2.Pairwise fun a b => a.nodeId ≠ b.nodeId :=
        List.pairwise_map.mp (call.nodup.sublist items_nodeId.sublist)
      refine (hnodup.filter _).imp_of_mem fun {a b} ha hb hne => ?_
      rw [List.mem_filter, Bool.and_eq_true, beq_iff_eq, beq_iff_eq] at ha hb
      exact absurd (ha.2.2.trans hb.2.2.symm) hne
    · have hnew := List.mem_filter.mp hb
      have hold := List.mem_filter.mp ha
      simp only [Bool.and_eq_true, beq_iff_eq] at hnew hold
      rcases items_spec hnew.1 with ⟨hsite, hversion, -⟩
      rw [hversion]
      refine lt_nextVersion hold.1 ?_
      rw [hold.2.1, ← hnew.2.1, hsite]
  · rcases List.mem_append.mp hd with hd | hd
    · exact hs.normal d hd policy hpolicy
    · exact (policyOf_items hlibs hs hd).2 policy hpolicy

end Release

theorem Released.inherits {settings : Settings} (hlibs : LowersOnce settings.libs) {s : Store}
    (h : Released settings s) : Inherits settings.libs s := by
  induction h with
  | start hempty =>
      refine ⟨fun siteId nodeId => ?_, fun d hd => ?_⟩
      · rw [nodeReleases, hempty]
        exact List.Pairwise.nil
      · rw [hempty] at hd
        cases hd
  | release call _ ih => exact ih.release hlibs
  | other _ hkeys ih => exact ih.other hkeys

/-- After any history, a call adds bundles for the first of its nodes, all of them unless it
raises. Each carries the policy of the draft, or the one of the bundle before it, and the
policies of all bundles validate to themselves. -/
theorem routingPolicy_inherited (settings : Settings) (hlibs : LowersOnce settings.libs)
    (s : Store) (h : Released settings s) (call : DesiredCall) :
    (∃ added, ((call.program settings).run s).2.desired = s.desired ++ added ∧
      added.map DesiredRelease.nodeId <+: agentIds call.nodes ∧
      (∀ answer, ((call.program settings).run s).1 = .ok answer →
        added.map DesiredRelease.nodeId = agentIds call.nodes) ∧
      ∀ d ∈ added, d.siteId = call.site.id ∧
        policyOf d.bundle = expectedPolicy settings.libs s call d.nodeId) ∧
    ∀ d ∈ ((call.program settings).run s).2.desired, ∀ policy, policyOf d.bundle = some policy →
      ∀ validated, RoutingPolicy.modelValidate settings.libs policy = some validated →
        validated.modelDump = policy := by
  have hs := h.inherits hlibs
  refine ⟨⟨(call.items settings s).2, ?_, items_nodeId, ?_, fun d hd => ?_⟩, ?_⟩
  · rw [DesiredCall.run_eq]
    rfl
  · intro answer hanswer
    rw [DesiredCall.run_eq] at hanswer
    cases hitems : (call.items settings s).1 with
    | error e =>
        rw [hitems] at hanswer
        cases hanswer
    | ok items =>
        rcases nodeItems_all hitems with ⟨hadded, hnodes⟩
        rw [← hnodes, ← hadded]
        rfl
  · exact ⟨(items_spec hd).1, (policyOf_items hlibs hs hd).1⟩
  · intro d hd policy hpolicy validated hvalidated
    rcases (hs.release hlibs).normal d hd policy hpolicy with ⟨stored, hnormal, rfl⟩
    rw [modelValidate_modelDump hlibs hnormal hvalidated]

/-- The sample installation, with lower case for ASCII letters in any text. -/
def loweringSettings : Settings :=
  { sampleSettings with
    libs := { sampleSettings.libs with lower := fun s => String.ofList (s.toList.map Char.toLower) } }

theorem toLower_toLower (c : Char) : c.toLower.toLower = c.toLower := by
  have hascii : ∀ n < 128, (Char.ofNat n).toLower.toLower = (Char.ofNat n).toLower := by
    decide +kernel
  by_cases hc : c.toNat < 128
  · have hself := hascii c.toNat hc
    rwa [Char.ofNat_toNat] at hself
  · have hself : c.toLower = c := by
      have hlarge : ¬ (c.val ≤ 90) := by
        rw [UInt32.le_iff_toNat_le]
        intro hle
        exact hc (lt_of_le_of_lt hle (by decide))
      exact dif_neg fun hrange => hlarge hrange.2
    rw [hself, hself]

theorem loweringSettings_lowersOnce : LowersOnce loweringSettings.libs := by
  have hlower : ∀ s, lower loweringSettings.libs s = String.ofList (s.toList.map Char.toLower) := by
    intro s
    rw [lower]
    split
    · rfl
    · rfl
  intro s t h
  have hfixed : t.toList.map Char.toLower = t.toList.map id := by
    refine List.map_congr_left fun c hc => ?_
    rcases h c hc with hmem | hascii
    · rw [hlower, String.toList_ofList] at hmem
      rcases List.mem_map.mp hmem with ⟨d, -, rfl⟩
      exact toLower_toLower d
    · exact hascii.2
  rw [hlower, hfixed, List.map_id, String.ofList_toList]

/-- A release with a policy that is not written in its normal form. -/
def policyCall : DesiredCall :=
  { draws := sampleDraws "a", site := sampleSite, nodes := [sampleNode], proxySelection := .null
    routingPolicy := .obj [("final", .str "direct"), ("rules", .arr [.obj [("kind", .str "ip_cidr"),
      ("pattern", .str " 10.1.2.3/8"), ("action", .str "direct")]])]
    nodup := nodup_sampleNode }

/-- A later release without one. -/
def plainCall : DesiredCall :=
  { draws := sampleDraws "b", site := sampleSite, nodes := [sampleNode], proxySelection := .null
    routingPolicy := .null, nodup := nodup_sampleNode }

/-- The later bundle carries the normalised policy of the earlier one. -/
theorem routingPolicy_inherited_sample :
    let s := ((policyCall.program loweringSettings).run sampleStore).2
    Released loweringSettings s ∧
      (expectedPolicy loweringSettings.libs s plainCall "north-a").map dumps =
        some (dumps (RoutingPolicy.modelDump
          ⟨true, true, .direct, [⟨.ipCidr, "10.0.0.0/8", .direct⟩]⟩)) ∧
      ∃ added, ((plainCall.program loweringSettings).run s).2.desired = s.desired ++ added ∧
        ∀ d ∈ added, policyOf d.bundle = expectedPolicy loweringSettings.libs s plainCall d.nodeId := by
  have hreleased : Released loweringSettings ((policyCall.program loweringSettings).run sampleStore).2 :=
    .release policyCall (.start rfl)
  refine ⟨hreleased, by decide +kernel, ?_⟩
  rcases (routingPolicy_inherited loweringSettings loweringSettings_lowersOnce _ hreleased
    plainCall).1 with ⟨added, hadded, -, -, hpolicies⟩
  exact ⟨added, hadded, fun d hd => (hpolicies d hd).2⟩

end Grouproxy.Backend
