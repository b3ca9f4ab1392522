import Grouproxy.Model.ProxySelection
import Grouproxy.Verification.Backend.ReleaseRuns
import Grouproxy.Verification.Backend.Selections

/-! # Selections that take effect

A request names an outbound as the monitor reported it. Its release selects the tag of that name,
unless an earlier request had the same key, or the name is not the tag as it stands.
-/

namespace Grouproxy.Backend

open Text Ipaddress Encoding Crypto Cidr Programs Grouproxy.Bundle

variable {settings : Settings} {draws : Draws} {node : Node} {site : Site} {key : String}

/-! ## The bundle of one node -/

/-- A newer release of a node becomes its latest one. -/
theorem latestRelease_append {s s' : Store} {item : DesiredRelease}
    (hdesired : s'.desired = s.desired ++ [item])
    (hnewer : ∀ d ∈ s.desired, d.siteId = item.siteId → d.desiredVersion < item.desiredVersion) :
    s'.latestRelease item.siteId item.nodeId = some item := by
  have hkept : [item].filter (fun d => d.siteId == item.siteId &&
      (item.nodeId == "" || d.nodeId == item.nodeId)) = [item] := by
    simp
  rw [Store.latestRelease, hdesired, List.filter_append, hkept, List.argmax_concat]
  cases hlatest : (s.desired.filter fun d => d.siteId == item.siteId &&
      (item.nodeId == "" || d.nodeId == item.nodeId)).argmax DesiredRelease.desiredVersion with
  | none => rfl
  | some latest =>
      have hmem := List.mem_filter.mp (List.argmax_mem hlatest)
      have hsite : latest.siteId = item.siteId := by
        have hkept := hmem.2
        simp only [Bool.and_eq_true, beq_iff_eq] at hkept
        exact hkept.1
      dsimp only
      rw [if_pos (hnewer latest hmem.1 hsite)]

theorem lt_releaseVersion {s : Store} {d : DesiredRelease} (hd : d ∈ s.desired)
    (hsite : d.siteId = site.id) : d.desiredVersion < releaseVersion s site := by
  have hmem : d ∈ s.desired.filter fun d => d.siteId == site.id && ("" == "" || d.nodeId == "") := by
    rw [List.mem_filter]
    exact ⟨hd, by simp [hsite]⟩
  rw [releaseVersion, nextVersion]
  cases hlatest : s.latestRelease site.id "" with
  | none =>
      rw [Store.latestRelease, List.argmax_eq_none] at hlatest
      rw [hlatest] at hmem
      cases hmem
  | some latest =>
      have hle : d.desiredVersion ≤ latest.desiredVersion := List.le_of_mem_argmax hmem hlatest
      rw [Option.map_some, Option.getD_some]
      omega

/-- The draft of a request for one node goes to that node. -/
theorem draftNodes_single {s : Store} {draft : ConfigDraft} {expectedCurrentVersion : Option Int}
    (hnode : node ∈ s.nodes) (hsite : node.siteId = draft.siteId)
    (h : draftRefusal draws draft site [node.id] expectedCurrentVersion s = none) :
    draftNodes draft [node.id] s = [node] := by
  have hmem : node ∈ draftNodes draft [node.id] s := by
    rw [draftNodes, selectedNodes, List.mem_filter, Store.siteNodes, List.mem_filter]
    exact ⟨⟨hnode, by simp [hsite]⟩, by simp [selectedDocumentIds]⟩
  have hlength : (draftNodes draft [node.id] s).length = 1 := by
    by_contra hlength
    rw [draftRefusal] at h
    split at h
    · cases h
    · split at h
      · cases h
      · rw [if_pos (.inl (by simpa [selectedDocumentIds] using hlength))] at h
        cases h
  obtain ⟨other, hother⟩ := List.length_eq_one_iff.mp hlength
  rw [hother, List.mem_singleton] at hmem
  rw [hother, hmem]

/-- The selection of a draft is kept if it is a tag of the subscription or the automatic group. -/
theorem selectedOutbound_of_kept {libs : Libraries} {tags : List String} {bundle : Dict}
    {agentId outbound : String} {current : Json}
    (h : fieldOf bundle "proxy_selection" = keptSelection libs tags
      (.obj [("node_id", .str agentId), ("group", .str "subscription"), ("outbound", .str outbound),
        ("from", current)])) :
    selectedOutbound bundle =
      if clip 255 outbound ∈ subscriptionSelectionTags tags then some (clip 255 outbound)
      else none := by
  have hgroup : clip 255 "subscription" = "subscription" := by decide
  have hkept : keptSelection libs tags (.obj [("node_id", .str agentId),
      ("group", .str "subscription"), ("outbound", .str outbound), ("from", current)]) =
      if clip 255 "subscription" ≠ "subscription" ∨
          clip 255 outbound ∈ subscriptionSelectionTags tags then
        some (.obj [("group", .str (clip 255 "subscription")), ("outbound", .str (clip 255 outbound))])
      else none := rfl
  rw [hkept, hgroup] at h
  rw [selectedOutbound, dictGet_eq, h]
  by_cases hmem : clip 255 outbound ∈ subscriptionSelectionTags tags
  · rw [if_pos (.inr hmem), if_pos hmem]
    rfl
  · rw [if_neg (by simpa using hmem), if_neg hmem]
    rfl

/-- The release of a request for a free key: what the latest bundle of the node selects. -/
theorem createReleaseFromDraft_selection {s s' : Store} {outbound current note : String}
    {expectedCurrentVersion : Option Int} {release : ConfigRelease × Bool}
    (hfree : s.taskByKey? key = none) (hnode : node ∈ s.nodes) (hsite : site.id = node.siteId)
    (h : (createReleaseFromDraft settings draws
      (selectionDraft draws site node "subscription" outbound current note) site [node.id] expectedCurrentVersion
        key).run s = (.ok release, s')) :
    ∃ d, s'.latestRelease node.siteId node.agentId = some d ∧ selectedOutbound d.bundle =
      if clip 255 outbound ∈ subscriptionSelectionTags (tagsOf settings.libs s node.siteId) then
        some (clip 255 outbound)
      else none := by
  have hrefusal := (createReleaseFromDraft_ok failsInside_none hfree h).1
  have htargets : draftNodes (selectionDraft draws site node "subscription" outbound current note) [node.id] s =
      [node] := draftNodes_single hnode rfl hrefusal
  have hnodup : (agentIds (draftNodes (selectionDraft draws site node "subscription" outbound current note)
      [node.id] s)).Nodup := by
    rw [htargets]
    simp [agentIds]
  obtain ⟨items, hitems, hdesired⟩ := createReleaseFromDraft_bundles hfree hnodup h
  have hall : items.map DesiredRelease.nodeId = [node.agentId] := by
    have hnodes := (nodeItems_all (congrArg Prod.fst hitems)).2
    rw [hnodes, htargets]
    rfl
  obtain ⟨item, hsingle⟩ : ∃ item, items = [item] := by
    rw [← List.length_eq_one_iff, ← List.length_map DesiredRelease.nodeId, hall]
    rfl
  subst hsingle
  have hmem : item ∈ (releaseItems settings (fun _ => false) draws site
      (dictGet (selectionDraft draws site node "subscription" outbound current note).diff "proxy_selection")
      (dictGet (selectionDraft draws site node "subscription" outbound current note).diff "routing_policy") s
      (draftNodes (selectionDraft draws site node "subscription" outbound current note) [node.id] s)).2 := by
    rw [hitems]
    exact List.mem_singleton_self item
  obtain ⟨target, htarget, hitem⟩ := nodeItem_of_mem hmem
  rw [htargets, List.mem_singleton] at htarget
  subst htarget
  obtain ⟨bundle, hbundle, rfl⟩ := nodeItem_ok hitem
  have hselection : selectionFor (dictGet (selectionDraft draws site target "subscription"
      outbound current note).diff "proxy_selection") target = .ok (.obj [("node_id", .str target.agentId),
        ("group", .str "subscription"), ("outbound", .str outbound),
        ("from", if current = "" then .null else .str current)]) :=
    congrArg Except.ok (if_pos rfl)
  rw [nodeBundle_runWith fun _ _ => rfl, hselection] at hbundle
  rw [← hsite]
  refine ⟨_, latestRelease_append hdesired ?_, ?_⟩
  · intro d hd hdsite
    exact lt_releaseVersion hd hdsite
  · have hkept := selectedOutbound_of_kept (proxySelection_bundleOf hbundle)
    have hid : (revisedSite s site (releaseVersion s site)).id = site.id := rfl
    rw [hid] at hkept
    exact hkept

/-! ## A request -/

/-- The key that a request without an `Idempotency-Key` header gets. -/
def selectionKey (node : Node) (payload : ProxySelectionRequest) : String :=
  defaultSelectionKey node.agentId "subscription" (collapsedWords payload.outbound)
    payload.expectedCurrentVersion

theorem Store.id_of_site? {s : Store} {siteId : String} (h : s.site? siteId = some site) :
    site.id = siteId := by
  simpa using List.find?_some h

theorem publishSelection_ok {s s' : Store} {outbound current note : String}
    {expectedCurrentVersion : Option Int} {release : ConfigRelease}
    (hfree : s.taskByKey? key = none) (hnode : node ∈ s.nodes) (hsite : site.id = node.siteId)
    (h : (publishSelection settings draws
      (selectionDraft draws site node "subscription" outbound current note) site node
        expectedCurrentVersion key).run s = (.ok release, s')) :
    ∃ d, s'.latestRelease node.siteId node.agentId = some d ∧ selectedOutbound d.bundle =
      if clip 255 outbound ∈ subscriptionSelectionTags (tagsOf settings.libs s node.siteId) then
        some (clip 255 outbound)
      else none := by
  have hfree : (s.withDraft (selectionDraft draws site node "subscription" outbound current
      note)).taskByKey? key = none := hfree
  have hnode : node ∈ (s.withDraft (selectionDraft draws site node "subscription" outbound current
      note)).nodes := hnode
  obtain ⟨_, t, hinsert, h⟩ := Prog.runWith_bind_eq_ok.mp h
  cases (Prod.mk.inj hinsert).2
  obtain ⟨created, t', hcreated, h⟩ := Prog.runWith_bind_eq_ok.mp h
  obtain ⟨d, hlatest, hselected⟩ := createReleaseFromDraft_selection hfree hnode hsite
    (Prog.runWith_cleanup_eq_ok.mp hcreated)
  obtain ⟨_, t'', hend, h⟩ := Prog.runWith_bind_eq_ok.mp h
  cases (Prod.mk.inj h).2
  refine ⟨d, ?_, hselected⟩
  rw [recordSelection] at hend
  split at hend
  · cases (Prod.mk.inj hend).2
    exact hlatest
  · cases (Prod.mk.inj hend).2
    exact hlatest

/-- From the snapshot on: a release that is returned is the one of the request. -/
theorem releaseSelection_ok {s s' : Store} {payload : ProxySelectionRequest} {outbound : String}
    {release : ConfigRelease} (hfree : s.taskByKey? key = none) (hnode : node ∈ s.nodes)
    (h : (releaseSelection settings draws node payload "subscription" outbound key).run s =
      (.ok release, s')) :
    ∃ d, s'.latestRelease node.siteId node.agentId = some d ∧ selectedOutbound d.bundle =
      if clip 255 outbound ∈ subscriptionSelectionTags (tagsOf settings.libs s node.siteId) then
        some (clip 255 outbound)
      else none := by
  rw [releaseSelection, latestProxyConfig, find_bind_run] at h
  split at h
  · cases h
  · split at h
    · cases h
    · rename_i selected _
      rw [Prog.run, reject_bind_runWith] at h
      split at h
      · cases h
      · rw [← Prog.run, find_bind_run] at h
        cases hsite : s.site? node.siteId with
        | none =>
            rw [hsite] at h
            cases h
        | some site =>
            rw [hsite] at h
            dsimp only at h
            rw [find_bind_run] at h
            exact publishSelection_ok hfree hnode (Store.id_of_site? hsite) h

/-- A request that returns either found a task of its key and left the store alone, or made the
latest bundle of the node. -/
theorem selectNodeProxy_ok {s s' : Store} {nodeId : String} {payload : ProxySelectionRequest}
    {release : ConfigRelease}
    (h : (selectNodeProxy settings draws nodeId payload none).run s = (.ok release, s')) :
    ∃ node, s.nodeReference? nodeId = some node ∧
      ((s.taskByKey? (selectionKey node payload) ≠ none ∧ s' = s) ∨
        (s.taskByKey? (selectionKey node payload) = none ∧
          ∃ d, s'.latestRelease node.siteId node.agentId = some d ∧ selectedOutbound d.bundle =
            if clip 255 (collapsedWords payload.outbound) ∈
                subscriptionSelectionTags (tagsOf settings.libs s node.siteId) then
              some (clip 255 (collapsedWords payload.outbound))
            else none)) := by
  rw [selectNodeProxy, Prog.run_bind_ok (findNodeReference_run nodeId s)] at h
  cases hnode : s.nodeReference? nodeId with
  | none =>
      rw [hnode] at h
      cases h
  | some node =>
      rw [hnode] at h
      refine ⟨node, rfl, ?_⟩
      dsimp only at h
      obtain ⟨groupName, t, hgroup, h⟩ := Prog.runWith_bind_eq_ok.mp h
      rw [proxySelectionGroup] at hgroup
      split at hgroup
      · cases hgroup
      · cases hgroup
        have hkey : firstText [none] (defaultSelectionKey node.agentId "subscription"
            (collapsedWords payload.outbound) payload.expectedCurrentVersion) =
              selectionKey node payload := rfl
        rw [← Prog.run, find_bind_run, Option.map_none, hkey] at h
        cases htask : s.taskByKey? (selectionKey node payload) with
        | none =>
            rw [htask] at h
            exact .inr ⟨rfl, releaseSelection_ok htask (mem_of_nodeReference? hnode) h⟩
        | some task =>
            rw [htask] at h
            dsimp only at h
            rw [find_bind_run] at h
            refine .inl ⟨by simp, ?_⟩
            split at h
            · exact (Prod.mk.inj h).2.symm
            · cases h

/-! ## Histories -/

/-- The store, and per agent the groups of its last report that was accepted with the local API
available. -/
structure SelectionState where
  store : Store
  reported : String → List ClashGroup

/-- Requests for an outbound, reports of a node's groups, and any other change of the store, such
as the end of a release. -/
inductive SelectionEvent where
  | select (draws : Draws) (nodeId : String) (payload : ProxySelectionRequest)
  | report (node : Node) (groups : List ClashGroup) (batch : Batch) (sampledAt : Nat)
      (apiAvailable : Bool)
  | other (change : Store → Store)

/-- The batch that a monitor makes of its groups. -/
def reportBatch (node : Node) (groups : List ClashGroup) (batch : Batch) (sampledAt : Nat)
    (apiAvailable : Bool) : AgentProxyConfigBatch :=
  { nodeId := node.agentId, batch := batch, sampledAt := sampledAt, apiAvailable := apiAvailable
    groups := if apiAvailable then readProxyGroups groups else [] }

def SelectionState.step (settings : Settings) (st : SelectionState) :
    SelectionEvent → SelectionState
  | .select draws nodeId payload =>
    { st with store := ((selectNodeProxy settings draws nodeId payload none).run st.store).2 }
  | .report node groups batch sampledAt apiAvailable =>
    match (agentProxyConfig node (reportBatch node groups batch sampledAt apiAvailable)).run
        st.store with
    | (.ok true, s) =>
      { store := s
        reported := if apiAvailable then Function.update st.reported node.agentId groups
          else st.reported }
    | (_, s) => { st with store := s }
  | .other change => { st with store := change st.store }

/-- A property of every request of a history, in the state that it finds. -/
def AtSelections (settings : Settings)
    (P : SelectionState → Draws → String → ProxySelectionRequest → Prop) :
    SelectionState → List SelectionEvent → Prop
  | _, [] => True
  | st, event :: events =>
    (match event with
      | .select draws nodeId payload => P st draws nodeId payload
      | _ => True) ∧ AtSelections settings P (st.step settings event) events

theorem atSelections_of_forall {P : SelectionState → Draws → String → ProxySelectionRequest → Prop}
    (h : ∀ st draws nodeId payload, P st draws nodeId payload) (st : SelectionState)
    (events : List SelectionEvent) : AtSelections settings P st events := by
  induction events generalizing st with
  | nil => trivial
  | cons event events ih =>
      refine ⟨?_, ih _⟩
      cases event with
      | select draws nodeId payload => exact h st draws nodeId payload
      | report node groups batch sampledAt apiAvailable => trivial
      | other change => trivial

/-- The monitor reported the tag of an outbound under a name. -/
def ReportedAs (reported : List ClashGroup) (tag name : String) : Prop :=
  ∃ group ∈ reported, safeProxyLabel group.label = "subscription" ∧ tag ∈ group.all ∧
    safeProxyLabel (monitorLabel tag) = name

/-- The latest bundle of the node selects the tag that its monitor reported under the name. -/
def Selects (reported : String → List ClashGroup) (node : Node) (name : String) (s : Store) : Prop :=
  ∃ tag d, ReportedAs (reported node.agentId) tag name ∧
    s.latestRelease node.siteId node.agentId = some d ∧ selectedOutbound d.bundle = some tag

/-- What a request is for: the node it names gets the outbound it names. -/
def Effective (st : SelectionState) (nodeId : String) (payload : ProxySelectionRequest)
    (s' : Store) : Prop :=
  ∃ node, st.store.nodeReference? nodeId = some node ∧
    Selects st.reported node (collapsedWords payload.outbound) s'

/-- A request that returns is effective. -/
def TakesEffect (settings : Settings) (st : SelectionState) (draws : Draws) (nodeId : String)
    (payload : ProxySelectionRequest) : Prop :=
  ∀ release s', (selectNodeProxy settings draws nodeId payload none).run st.store =
    (.ok release, s') → Effective st nodeId payload s'

/-- If the key of the request is free, the name it gives is itself a reported tag of the
subscription; if the key is taken, the node still has the outbound of that name. -/
def NamesTag (settings : Settings) (st : SelectionState) (nodeId : String)
    (payload : ProxySelectionRequest) : Prop :=
  ∃ node, st.store.nodeReference? nodeId = some node ∧
    if st.store.taskByKey? (selectionKey node payload) = none then
      ReportedAs (st.reported node.agentId) (collapsedWords payload.outbound)
          (collapsedWords payload.outbound) ∧
        collapsedWords payload.outbound ∈
          subscriptionSelectionTags (tagsOf settings.libs st.store node.siteId)
    else Selects st.reported node (collapsedWords payload.outbound) st.store

theorem clip_clip (limit : Nat) (s : String) : clip limit (clip limit s) = clip limit s := by
  simp [clip, List.take_take]

/-- Names of a report are short enough for a bundle. -/
theorem ReportedAs.clip {reported : List ClashGroup} {tag name : String}
    (h : ReportedAs reported tag name) : clip 255 name = name := by
  obtain ⟨group, -, -, -, rfl⟩ := h
  exact clip_clip 255 _

/-- A request with a free key is effective if its name is a reported tag of the subscription. -/
theorem selects_iff {reported : String → List ClashGroup} {name : String} {tags : List String}
    {s' : Store} {d : DesiredRelease}
    (hlatest : s'.latestRelease node.siteId node.agentId = some d)
    (hselected : selectedOutbound d.bundle =
      if clip 255 name ∈ subscriptionSelectionTags tags then some (clip 255 name) else none) :
    Selects reported node name s' ↔
      ReportedAs (reported node.agentId) name name ∧ name ∈ subscriptionSelectionTags tags := by
  constructor
  · rintro ⟨tag, d', hreported, hd', htag⟩
    cases hlatest.symm.trans hd'
    rw [hreported.clip] at hselected
    rw [hselected] at htag
    split at htag
    · rename_i hmem
      cases htag
      exact ⟨hreported, hmem⟩
    · cases htag
  · rintro ⟨hreported, hmem⟩
    rw [hreported.clip, if_pos hmem] at hselected
    exact ⟨name, d, hreported, hlatest, hselected⟩

theorem effective_iff {st : SelectionState} {nodeId : String} {payload : ProxySelectionRequest}
    {release : ConfigRelease} {s' : Store}
    (h : (selectNodeProxy settings draws nodeId payload none).run st.store = (.ok release, s')) :
    Effective st nodeId payload s' ↔ NamesTag settings st nodeId payload := by
  obtain ⟨node, hnode, hcases⟩ := selectNodeProxy_ok h
  rw [Effective, NamesTag, hnode]
  simp only [Option.some.injEq, exists_eq_left']
  rcases hcases with ⟨htask, rfl⟩ | ⟨htask, d, hlatest, hselected⟩
  · rw [if_neg htask]
  · rw [if_pos htask]
    exact selects_iff hlatest hselected

/-- Along any history, a request that returns is effective exactly if the name it gives is a
reported tag of the subscription as it stands, or, with a key that was used before, if the node
still has the outbound. -/
theorem selections_effective_iff (settings : Settings) (st : SelectionState)
    (events : List SelectionEvent) :
    AtSelections settings (fun st draws nodeId payload => ∀ release s',
      (selectNodeProxy settings draws nodeId payload none).run st.store = (.ok release, s') →
        (Effective st nodeId payload s' ↔ NamesTag settings st nodeId payload)) st events :=
  atSelections_of_forall (fun _ _ _ _ _ _ h => effective_iff h) st events

/-! ## An outbound that is selected again -/

def reportEdges : SelectionEvent :=
  .report sampleNode [⟨"subscription", "subscription", "edge-a", ["edge-a", "edge-b"]⟩]
    ⟨"batch-0001", 1, 1⟩ 5 true

def selectOutbound (tag outbound : String) : SelectionEvent :=
  .select (sampleDraws tag) "north-a" ⟨"subscription", outbound, none, ""⟩

/-- The node applies a release. -/
def applyRelease (tag : String) (version : Int) : SelectionEvent :=
  .other fun s => ((agentAck 9 sampleNode
    ⟨"north-a", "release-" ++ tag, version, version, "", "", true, true, false, false, "", "",
      version, 9⟩).run s).2

/-- Both releases are applied before the first outbound is selected again. -/
def selectAgain : List SelectionEvent :=
  [reportEdges, selectOutbound "a" "edge-a", applyRelease "a" 1, selectOutbound "b" "edge-b",
    applyRelease "b" 2, selectOutbound "c" "edge-a"]

def selectionStart : SelectionState := ⟨subscribedStore, fun _ => []⟩

/-- The state that the last request finds. -/
def beforeAgain : SelectionState :=
  (selectAgain.take 5).foldl (SelectionState.step subscribedSettings) selectionStart

/-- The last request answers with the first release and leaves the second outbound in use. -/
theorem selectedAgain_ineffective :
    ¬ AtSelections subscribedSettings (TakesEffect subscribedSettings) selectionStart selectAgain := by
  rintro ⟨-, -, -, -, -, heffect, -⟩
  have heffect : TakesEffect subscribedSettings beforeAgain (sampleDraws "c") "north-a"
      ⟨"subscription", "edge-a", none, ""⟩ := heffect
  have hreturns : ((selectNodeProxy subscribedSettings (sampleDraws "c") "north-a"
      ⟨"subscription", "edge-a", none, ""⟩ none).run beforeAgain.store).1.isOk = true := by
    decide +kernel
  have hselected : (((selectNodeProxy subscribedSettings (sampleDraws "c") "north-a"
      ⟨"subscription", "edge-a", none, ""⟩ none).run beforeAgain.store).2.latestRelease
        "site-north" "north-a").bind (fun d => selectedOutbound d.bundle) = some "edge-b" := by
    decide +kernel
  have hnode : (beforeAgain.store.nodeReference? "north-a").map (fun node =>
      (node.siteId, node.agentId)) = some ("site-north", "north-a") := by
    decide +kernel
  cases hrun : (selectNodeProxy subscribedSettings (sampleDraws "c") "north-a"
      ⟨"subscription", "edge-a", none, ""⟩ none).run beforeAgain.store with
  | mk result s' =>
      rw [hrun] at hreturns hselected
      cases result with
      | error e => cases hreturns
      | ok release =>
          obtain ⟨node, hfound, tag, d, ⟨_, -, -, -, hlabel⟩, hlatest, htag⟩ := heffect release s' hrun
          rw [hfound, Option.map_some, Option.some.injEq, Prod.mk.injEq] at hnode
          rw [hnode.1, hnode.2] at hlatest
          rw [hlatest, Option.bind_some, htag, Option.some.injEq] at hselected
          subst hselected
          revert hlabel
          decide

end Grouproxy.Backend
