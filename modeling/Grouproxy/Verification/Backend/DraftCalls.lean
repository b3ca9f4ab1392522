import Grouproxy.Verification.Backend.Bundles

/-! # Calls with an idempotency key

What a call of `_create_release_from_draft` does, seen from the calls it is interleaved with: it
looks for the release of its key, and creates one if it finds none. While no other call adds
documents, it ends with its release, or raises with nothing added.
-/

namespace Grouproxy.Backend

open Encoding Crypto Programs

/-! ## Bundles that can be built -/

def isOk {ε α : Type} : Except ε α → Bool
  | .ok _ => true
  | .error _ => false

/-- Whether the bundle of a node can be built: its selection is well formed, the subscription of
the site is valid, and so is the policy of the draft or the one the node inherits. -/
def bundleBuilds (settings : Settings) (s : Store) (siteId : String)
    (proxySelection routingPolicy : Json) (node : Node) : Bool :=
  isOk (selectionFor proxySelection node) &&
    match subscriptionOf settings s siteId with
    | .error _ => false
    | .ok subscription => isOk (addRoutingPolicy settings.libs subscription.isSome
        (policyFor routingPolicy (s.latestRelease siteId node.agentId <|> s.latestRelease siteId ""))
        [])

theorem addRoutingPolicy_isOk (libs : Libraries) (hasSubscription : Bool) (policy : Json)
    (bundle bundle' : Dict) :
    isOk (addRoutingPolicy libs hasSubscription policy bundle) =
      isOk (addRoutingPolicy libs hasSubscription policy bundle') := by
  rw [addRoutingPolicy, addRoutingPolicy]
  split
  · rfl
  · split
    · rfl
    · split
      · rfl
      · rfl

/-! ## Calls -/

structure DraftCall where
  draws : Draws
  draft : ConfigDraft
  site : Site
  requestedNodeIds : List String
  expectedCurrentVersion : Option Int

def DraftCall.program (settings : Settings) (key : String) (call : DraftCall) :
    Handler (ConfigRelease × Bool) :=
  createReleaseFromDraft settings call.draws call.draft call.site call.requestedNodeIds
    call.expectedCurrentVersion key

/-- The nodes of a call. -/
def DraftCall.nodes (call : DraftCall) (s : Store) : List Node :=
  let nodes := s.siteNodes call.draft.siteId
  selectedNodes (selectedDocumentIds call.requestedNodeIds call.draft nodes) nodes

/-- The task a call creates. -/
def DraftCall.task (call : DraftCall) (key : String) : Task := ⟨call.draws.taskId, key, .queued⟩

/-! ## The note of a call -/

/-- How far a call got: it has not looked for a task yet, it found one and looks for its release,
it found no release and is creating one, with the agents whose bundles it inserted and whether
its task is there, or it has a release. -/
inductive Phase where
  | idle
  | looking (taskId : String)
  | creating (inserted : List String) (tasked : Bool)
  | found (release : ConfigRelease)
  deriving DecidableEq

structure DraftNote where
  call : DraftCall
  phase : Phase

def phaseNext : Phase → Label → Store → Phase
  | .idle, .findTask key, s =>
    match s.taskByKey? key with
    | none => .creating [] false
    | some task => .looking task.taskId
  | .looking _, .findRelease taskId, s =>
    match s.releaseByTask? taskId with
    | none => .creating [] false
    | some release => .found release
  | .creating inserted tasked, .desired _ (.node agentId .insert), _ =>
    .creating (inserted ++ [agentId]) tasked
  | .creating inserted _, .task _ .insert, _ => .creating inserted true
  | .creating _ _, .insertRelease release, _ => .found release
  | phase, _, _ => phase

def draftNext (note : DraftNote) (label : Label) (s : Store) : DraftNote :=
  { note with phase := phaseNext note.phase label s }

/-- The collections that no call writes. -/
structure SameSurroundings (s s' : Store) : Prop where
  nodes : s'.nodes = s.nodes
  bindings : s'.bindings = s.bindings
  versions : s'.versions = s.versions

/-- The collections the calls write, unchanged. -/
structure SameWork (s s' : Store) : Prop where
  desired : s'.desired = s.desired
  tasks : s'.tasks = s.tasks
  releases : s'.releases = s.releases

/-- What a call relies on while it is creating a release: nothing was added to the store it
started from but its own documents. -/
def draftRely (s₀ : Store) (key : String) (note : DraftNote) (s : Store) : Prop :=
  match note.phase with
  | .creating inserted tasked => SameSurroundings s₀ s ∧ s.releases = s₀.releases ∧
      s.tasks = s₀.tasks ++ (if tasked then [note.call.task key] else []) ∧
      ∃ added, s.desired = s₀.desired ++ added ∧ added.map DesiredRelease.nodeId = inserted
  | _ => True

def draftAllowed (key : String) (note : DraftNote) (label : Label) (s s' : Store) : Prop :=
  SameSurroundings s s' ∧
    match note.phase, label with
    | .idle, .findTask key' => key' = key ∧ SameWork s s'
    | .idle, _ => False
    | .looking taskId, .findRelease taskId' => taskId' = taskId ∧ SameWork s s'
    | .looking _, _ => False
    | .creating _ _, .desired _ (.node agentId .insert) =>
      s'.releases = s.releases ∧ s'.tasks = s.tasks ∧ ∃ d : DesiredRelease,
        d.nodeId = agentId ∧ d.releaseId = note.call.draws.releaseId ∧
        s'.desired = s.desired ++ [d]
    | .creating _ tasked, .task _ .insert => tasked = false ∧ s'.releases = s.releases ∧
        s'.desired = s.desired ∧ s'.tasks = s.tasks ++ [note.call.task key]
    | .creating _ tasked, .insertRelease release => tasked = true ∧
        release.taskId = note.call.draws.taskId ∧
        release.releaseId = note.call.draws.releaseId ∧ s'.desired = s.desired ∧
        s'.tasks = s.tasks ∧ s'.releases = s.releases ++ [release]
    | _, _ => SameWork s s'

/-- A call that returns has the release it returns; one that raises has added nothing. -/
def draftResult (note : DraftNote) : Except Failure (ConfigRelease × Bool) → Prop
  | .ok answer => note.phase = .found answer.1
  | .error _ => note.phase = .creating [] false

theorem SameSurroundings.refl (s : Store) : SameSurroundings s s := ⟨rfl, rfl, rfl⟩

theorem SameWork.refl (s : Store) : SameWork s s := ⟨rfl, rfl, rfl⟩

/-! ## The calls keep the protocol -/

section Calls

variable {settings : Settings} {key : String} {s₀ : Store} {call : DraftCall}
  {inserted : List String} {tasked : Bool}

/-- A part of a call, from its note to what holds of note and result. -/
abbrev DraftPart {α : Type} (s₀ : Store) (key : String) (p : Handler α)
    (note : DraftNote) (Q : DraftNote → Except Failure α → Prop) : Prop :=
  p.Follows draftNext (draftRely s₀ key) (draftAllowed key) Q note

/-- The operations that move a call that is creating a release. -/
def Label.isMove : Label → Bool
  | .desired _ (.node _ .insert) => true
  | .task _ .insert => true
  | .insertRelease _ => true
  | _ => false

/-- An operation that adds no document the calls are about. -/
def Idles (label : Label) (s s' : Store) : Prop :=
  label.isMove = false ∧ SameSurroundings s s' ∧ SameWork s s'

theorem Idles.allowed (key : String) (call : DraftCall) (inserted : List String) (tasked : Bool)
    {label : Label} {s s' : Store} (h : Idles label s s') :
    draftAllowed key ⟨call, .creating inserted tasked⟩ label s s' ∧
      draftNext ⟨call, .creating inserted tasked⟩ label s = ⟨call, .creating inserted tasked⟩ := by
  rcases h with ⟨hmove, hsame, hwork⟩
  cases label with
  | insertRelease release => cases hmove
  | task taskKey op =>
      cases op with
      | insert => cases hmove
      | find => exact ⟨⟨hsame, hwork⟩, rfl⟩
      | findAgain => exact ⟨⟨hsame, hwork⟩, rfl⟩
  | desired siteId op =>
      cases op with
      | previous => exact ⟨⟨hsame, hwork⟩, rfl⟩
      | setRevision => exact ⟨⟨hsame, hwork⟩, rfl⟩
      | node agentId op =>
          cases op with
          | insert => cases hmove
          | _ => exact ⟨⟨hsame, hwork⟩, rfl⟩
  | _ => exact ⟨⟨hsame, hwork⟩, rfl⟩

/-- What a call that is creating a release reads, and goes on with. -/
theorem read_bind_part {α β : Type} {label : Label} {query : Store → α} {f : α → Handler β}
    {Q : DraftNote → Except Failure β → Prop} (h : label.isMove = false)
    (hf : ∀ s, draftRely s₀ key ⟨call, .creating inserted tasked⟩ s →
      DraftPart s₀ key (f (query s)) ⟨call, .creating inserted tasked⟩ Q) :
    DraftPart s₀ key (find label query >>= f) ⟨call, .creating inserted tasked⟩ Q := by
  intro s hs
  have hidle := Idles.allowed key call inserted tasked ⟨h, .refl s, .refl s⟩
  refine ⟨hidle.1, ?_⟩
  rw [hidle.2]
  exact hf s hs

/-- A query that answers as the store at the start does. -/
theorem find_bind_part {α β : Type} {label : Label} {query : Store → α} {f : α → Handler β}
    {Q : DraftNote → Except Failure β → Prop} (h : label.isMove = false) (answer : α)
    (hanswer : ∀ s, draftRely s₀ key ⟨call, .creating inserted tasked⟩ s → query s = answer)
    (hf : DraftPart s₀ key (f answer) ⟨call, .creating inserted tasked⟩ Q) :
    DraftPart s₀ key (find label query >>= f) ⟨call, .creating inserted tasked⟩ Q := by
  refine read_bind_part h fun s hs => ?_
  rw [hanswer s hs]
  exact hf

/-- Reading the subscription of the site gives what it gave at the start. -/
theorem selectedSubscriptionBundle_part {name : NodeOp → Label} {siteId : String}
    (hname : ∀ op, op ≠ .insert → (name op).isMove = false) :
    DraftPart s₀ key (selectedSubscriptionBundle settings name siteId)
      ⟨call, .creating inserted tasked⟩ fun note r => note = ⟨call, .creating inserted tasked⟩ ∧
        r = subscriptionOf settings s₀ siteId := by
  refine find_bind_part (hname _ (by decide)) (s₀.binding? siteId) (fun s hs => ?_) ?_
  · rw [Store.binding?, hs.1.bindings, Store.binding?]
  · cases hbinding : s₀.binding? siteId with
    | none => exact ⟨rfl, by rw [subscriptionOf, hbinding]⟩
    | some selected =>
        refine find_bind_part (hname _ (by decide))
          (s₀.version? selected.subscriptionVersionId) (fun s hs => ?_) ?_
        · rw [Store.version?, hs.1.versions, Store.version?]
        · cases hversion : s₀.version? selected.subscriptionVersionId with
          | none => exact ⟨rfl, by simp only [subscriptionOf, hbinding, hversion]⟩
          | some version =>
              dsimp only
              rw [reject]
              split
              · rename_i hparse
                exact ⟨rfl, by simp only [subscriptionOf, hbinding, hversion, if_pos hparse]⟩
              · rename_i hparse
                cases hcontent : String.fromUTF8? version.content with
                | none =>
                    refine ⟨rfl, ?_⟩
                    simp only [subscriptionOf, hbinding, hversion, if_neg hparse, hcontent]
                | some content =>
                    refine ⟨rfl, ?_⟩
                    simp only [subscriptionOf, hbinding, hversion, if_neg hparse, hcontent]

/-- Reading the tags cannot fail. -/
theorem selectedSubscriptionTags_part {libs : Libraries} {name : NodeOp → Label} {siteId : String}
    (hname : ∀ op, op ≠ .insert → (name op).isMove = false) :
    DraftPart s₀ key (selectedSubscriptionTags libs name siteId)
      ⟨call, .creating inserted tasked⟩ fun note r => note = ⟨call, .creating inserted tasked⟩ ∧
        ∃ tags, r = .ok tags := by
  refine find_bind_part (hname _ (by decide)) (s₀.binding? siteId) (fun s hs => ?_) ?_
  · rw [Store.binding?, hs.1.bindings, Store.binding?]
  · cases s₀.binding? siteId with
    | none => exact ⟨rfl, _, rfl⟩
    | some selected =>
        refine find_bind_part (hname _ (by decide))
          (s₀.version? selected.subscriptionVersionId) (fun s hs => ?_) ?_
        · rw [Store.version?, hs.1.versions, Store.version?]
        · cases s₀.version? selected.subscriptionVersionId with
          | none => exact ⟨rfl, _, rfl⟩
          | some version => exact ⟨rfl, _, rfl⟩

theorem tagsWith_part {libs : Libraries} {name : NodeOp → Label} {siteId : String}
    {subscription : Option Dict} (hname : ∀ op, op ≠ .insert → (name op).isMove = false) :
    DraftPart s₀ key (tagsWith subscription (selectedSubscriptionTags libs name siteId))
      ⟨call, .creating inserted tasked⟩ fun note r => note = ⟨call, .creating inserted tasked⟩ ∧
        ∃ tags, r = .ok tags := by
  rw [tagsWith]
  split
  · exact selectedSubscriptionTags_part hname
  · exact ⟨rfl, _, rfl⟩

/-- The bundle is built if the subscription and the policy allow it. -/
theorem buildSignedBundle_part {name : NodeOp → Label} {site : Site} {node : Node}
    {desiredVersion : Nat} {draws : Draws} {proxySelection routingPolicy : Json}
    (hname : ∀ op, op ≠ .insert → (name op).isMove = false) :
    DraftPart s₀ key (buildSignedBundle settings name site node desiredVersion draws
      proxySelection routingPolicy) ⟨call, .creating inserted tasked⟩ fun note r =>
        note = ⟨call, .creating inserted tasked⟩ ∧ isOk r =
          match subscriptionOf settings s₀ site.id with
          | .error _ => false
          | .ok subscription =>
            isOk (addRoutingPolicy settings.libs subscription.isSome routingPolicy []) := by
  refine read_bind_part (hname _ (by decide)) fun _ _ => ?_
  refine read_bind_part (hname _ (by decide)) fun _ _ => ?_
  refine read_bind_part (hname _ (by decide)) fun _ _ => ?_
  refine (selectedSubscriptionBundle_part hname).bind (fun note subscription hnote => ?_) ?_
  · rw [hnote.1, ← hnote.2]
    refine (tagsWith_part hname).bind (fun note' tags hnote' => ?_) fun note' e hnote' => ?_
    · rw [hnote'.1]
      have hok := addRoutingPolicy_isOk settings.libs subscription.isSome routingPolicy
      dsimp only
      rw [hok [] _]
      cases addRoutingPolicy settings.libs subscription.isSome routingPolicy _ with
      | error e => exact ⟨rfl, rfl⟩
      | ok bundle => exact ⟨rfl, rfl⟩
    · rcases hnote'.2 with ⟨tags, htags⟩
      cases htags
  · intro note e hnote
    rw [← hnote.2]
    exact ⟨hnote.1, rfl⟩

/-- The releases that a node of the draft inherits from are the ones of the start, as long as its
own bundle is not inserted. -/
theorem latestRelease_of_rely {s : Store} {siteId agentId : String}
    (h : draftRely s₀ key ⟨call, .creating inserted tasked⟩ s) (hne : agentId ≠ "")
    (hnot : agentId ∉ inserted) : s.latestRelease siteId agentId = s₀.latestRelease siteId agentId := by
  rcases h.2.2.2 with ⟨added, hdesired, hadded⟩
  rw [Store.latestRelease, Store.latestRelease, hdesired, List.filter_append]
  have hnone : added.filter (fun d => d.siteId == siteId && (agentId == "" || d.nodeId == agentId)) =
      [] := by
    rw [List.filter_eq_nil_iff]
    intro d hd hkept
    simp only [Bool.and_eq_true, Bool.or_eq_true, beq_iff_eq] at hkept
    rcases hkept.2 with hempty | hnode
    · exact hne hempty
    · exact hnot (hadded ▸ hnode ▸ List.mem_map_of_mem hd)
  rw [hnone, List.append_nil]

section Nodes

variable {site : Site} {desiredVersion : Nat} {proxySelection routingPolicy : Json}

/-- The loop of a call over its nodes, from the store it started with. -/
abbrev nodesProgram (settings : Settings) (s₀ : Store) (call : DraftCall) (site : Site)
    (desiredVersion : Nat) (proxySelection routingPolicy : Json) (nodes : List Node) :
    Handler (List DesiredRelease) :=
  createForNodes settings call.draws site desiredVersion (s₀.latestRelease site.id "")
    proxySelection routingPolicy nodes

theorem node_isMove {siteId agentId : String} {op : NodeOp} (h : op ≠ .insert) :
    (Label.desired siteId (.node agentId op)).isMove = false := by
  cases op with
  | insert => exact absurd rfl h
  | _ => rfl

/-- One turn of the loop: it fails with nothing added, or adds the bundle of the node. -/
theorem nodesProgram_cons_part {node : Node} {rest : List Node}
    {Q : DraftNote → Except Failure (List DesiredRelease) → Prop} (hnot : node.agentId ∉ inserted)
    (hfail : bundleBuilds settings s₀ site.id proxySelection routingPolicy node = false →
      ∀ e, Q ⟨call, .creating inserted tasked⟩ (.error e))
    (hrest : bundleBuilds settings s₀ site.id proxySelection routingPolicy node = true →
      DraftPart s₀ key
        (nodesProgram settings s₀ call site desiredVersion proxySelection routingPolicy rest)
        ⟨call, .creating (inserted ++ [node.agentId]) tasked⟩ fun note r =>
          ∀ r', isOk r' = isOk r → Q note r') :
    DraftPart s₀ key
      (nodesProgram settings s₀ call site desiredVersion proxySelection routingPolicy
        (node :: rest)) ⟨call, .creating inserted tasked⟩ Q := by
  have hname : ∀ op, op ≠ .insert →
      (Label.desired site.id (.node node.agentId op)).isMove = false := fun op => node_isMove
  refine find_bind_part (hname _ (by decide)) (s₀.latestRelease site.id node.agentId)
    (fun s hs => latestRelease_of_rely hs node.agentId_ne hnot) ?_
  rw [bundleBuilds] at hfail hrest
  cases hselection : selectionFor proxySelection node with
  | error e =>
      apply hfail
      rw [hselection]
      rfl
  | ok selection =>
      rw [hselection] at hfail hrest
      refine (buildSignedBundle_part hname).bind (fun note bundle hnote => ?_)
        fun note e hnote => ?_
      · rw [hnote.1]
        have hbuilt := hrest hnote.2.symm
        refine Prog.Follows.bind (Prog.Follows.atomic (Q := fun note' r =>
          note' = ⟨call, .creating (inserted ++ [node.agentId]) tasked⟩ ∧ r = .ok ())
          (fun s _ => ?_) fun s _ => ⟨rfl, rfl⟩) (fun note' _ hnote' => ?_) fun note' e hnote' => ?_
        · exact ⟨⟨rfl, rfl, rfl⟩, rfl, rfl, _, rfl, rfl, rfl⟩
        · rw [hnote'.1]
          exact hbuilt.bind (fun _ _ hitems => hitems _ rfl) fun _ _ hitems => hitems _ rfl
        · cases hnote'.2
      · rw [hnote.1]
        exact hfail hnote.2.symm e

/-- Once a bundle is in the store, the rest of the loop has to succeed. -/
theorem nodesProgram_part {nodes : List Node}
    (hbuilds : ∀ node ∈ nodes,
      bundleBuilds settings s₀ site.id proxySelection routingPolicy node = true)
    (hnodup : (inserted ++ agentIds nodes).Nodup) :
    DraftPart s₀ key
      (nodesProgram settings s₀ call site desiredVersion proxySelection routingPolicy nodes)
      ⟨call, .creating inserted tasked⟩ fun note r =>
        note = ⟨call, .creating (inserted ++ agentIds nodes) tasked⟩ ∧ isOk r = true := by
  induction nodes generalizing inserted with
  | nil => exact ⟨by simp [agentIds], rfl⟩
  | cons node rest ih =>
      have hcons : inserted ++ agentIds (node :: rest) =
          (inserted ++ [node.agentId]) ++ agentIds rest := by
        simp [agentIds]
      rw [hcons] at hnodup ⊢
      have hbuilt := hbuilds node List.mem_cons_self
      refine nodesProgram_cons_part ?_ (fun hfailed => ?_) fun _ => ?_
      · intro hmem
        have hdisjoint := (List.nodup_append.mp (List.nodup_append.mp hnodup).1).2.2
        exact hdisjoint _ hmem _ (List.mem_singleton_self _) rfl
      · rw [hbuilt] at hfailed
        cases hfailed
      · refine (ih (fun other hother => hbuilds other (List.mem_cons_of_mem _ hother))
          hnodup).mono fun note r hnote r' hr' => ?_
        exact ⟨hnote.1, hr'.trans hnote.2⟩

/-- A call that can build the first bundle can build the others. -/
def BuildsAll (settings : Settings) (s : Store) (siteId : String)
    (proxySelection routingPolicy : Json) (nodes : List Node) : Prop :=
  ∀ first rest, nodes = first :: rest →
    bundleBuilds settings s siteId proxySelection routingPolicy first = true →
    ∀ node ∈ rest, bundleBuilds settings s siteId proxySelection routingPolicy node = true

/-- What a call has inserted when its loop ends: the bundles of all its nodes, or none. -/
def desiredNote (call : DraftCall) (nodes : List Node) (succeeded : Bool) : DraftNote :=
  ⟨call, .creating (if succeeded then agentIds nodes else []) false⟩

theorem nodesProgram_all {nodes : List Node} (hnodup : (agentIds nodes).Nodup)
    (hbuilds : BuildsAll settings s₀ site.id proxySelection routingPolicy nodes) :
    DraftPart s₀ key
      (nodesProgram settings s₀ call site desiredVersion proxySelection routingPolicy nodes)
      ⟨call, .creating [] false⟩ fun note r => note = desiredNote call nodes (isOk r) := by
  cases nodes with
  | nil => rfl
  | cons first rest =>
      refine nodesProgram_cons_part (by simp) (fun _ e => rfl) fun hfirst => ?_
      refine Prog.Follows.mono (nodesProgram_part (hbuilds first rest rfl hfirst) ?_) ?_
      · exact hnodup
      · intro note r hnote r' hr'
        rw [hnote.1, hr', hnote.2]
        rfl

theorem createDesiredRelease_part {nodes : List Node} (hnodup : (agentIds nodes).Nodup)
    (hbuilds : BuildsAll settings s₀ site.id proxySelection routingPolicy nodes) :
    DraftPart s₀ key
      (createDesiredRelease settings call.draws site nodes proxySelection routingPolicy)
      ⟨call, .creating [] false⟩ fun note r => note = desiredNote call nodes (isOk r) := by
  refine find_bind_part rfl (s₀.latestRelease site.id "") (fun s hs => ?_) ?_
  · rcases hs.2.2.2 with ⟨added, hdesired, hadded⟩
    rw [List.map_eq_nil_iff.mp hadded, List.append_nil] at hdesired
    rw [Store.latestRelease, hdesired, Store.latestRelease]
  · refine Prog.Follows.bind (Prog.Follows.atomic (Q := fun note r =>
      note = ⟨call, .creating [] false⟩ ∧ isOk r = true)
      (fun s _ => ⟨⟨rfl, rfl, rfl⟩, rfl, rfl, rfl⟩) fun s _ => ⟨rfl, rfl⟩)
      (fun note refreshed hnote => ?_) fun note e hnote => ?_
    · rw [hnote.1]
      exact Prog.Follows.bind (nodesProgram_all hnodup hbuilds) (fun _ _ h => h) fun _ _ h => h
    · cases hnote.2

end Nodes

/-- The identifiers that a call draws are in no document yet. -/
structure DraftCall.Fresh (call : DraftCall) (s : Store) : Prop where
  task : ∀ task ∈ s.tasks, task.taskId ≠ call.draws.taskId
  releaseTask : ∀ release ∈ s.releases, release.taskId ≠ call.draws.taskId
  release : ∀ release ∈ s.releases, release.releaseId ≠ call.draws.releaseId

/-- The call creates its task. -/
theorem createTask_part (hfresh : call.Fresh s₀) (hkey : s₀.taskByKey? key = none) :
    DraftPart s₀ key (createTask call.draws key) ⟨call, .creating inserted false⟩ fun note r =>
      note = ⟨call, .creating inserted true⟩ ∧ r = .ok (call.task key, true) := by
  have htasks : ∀ s, draftRely s₀ key ⟨call, .creating inserted false⟩ s → s.tasks = s₀.tasks := by
    intro s hs
    simpa using hs.2.2.1
  refine find_bind_part rfl none (fun s hs => ?_) ?_
  · rw [Store.taskByKey?, htasks s hs]
    exact hkey
  · refine Prog.Follows.tryCatch (Q := fun note r =>
      note = ⟨call, .creating inserted true⟩ ∧ r = .ok (call.task key, true)) ?_
      (fun note a hnote => hnote) fun note e hnote => by cases hnote.2
    intro s hs
    have hfree : (s.tasks.any fun other =>
        other.idempotencyKey == key || other.taskId == call.draws.taskId) = false := by
      rw [htasks s hs, List.any_eq_false]
      intro task htask
      have hother := List.find?_eq_none.mp hkey task htask
      simp only [Bool.or_eq_true, beq_iff_eq, not_or]
      exact ⟨by simpa using hother, hfresh.task task htask⟩
    simp only [hfree]
    exact ⟨⟨⟨rfl, rfl, rfl⟩, rfl, rfl, rfl, rfl⟩, rfl, rfl⟩

/-- From the desired bundles on: the call ends with its release, or raises with nothing added. -/
theorem publishDraft_part {nodes : List Node} (hfresh : call.Fresh s₀)
    (hkey : s₀.taskByKey? key = none) (hnodup : (agentIds nodes).Nodup)
    (hbuilds : BuildsAll settings s₀ call.site.id (dictGet call.draft.diff "proxy_selection")
      (dictGet call.draft.diff "routing_policy") nodes) :
    DraftPart s₀ key (publishDraft settings call.draws call.draft call.site nodes key)
      ⟨call, .creating [] false⟩ draftResult := by
  refine Prog.Follows.bind (Q := fun note r => note = desiredNote call nodes (isOk r)) ?_
    (fun note created hnote => ?_) fun note e hnote => ?_
  · refine (createDesiredRelease_part hnodup hbuilds).tryCatch (fun _ _ h => h) fun _ _ h => h
  · rw [hnote]
    refine (createTask_part hfresh hkey).bind (fun note task hnote => ?_) fun note e hnote => ?_
    · rw [hnote.1]
      cases hnote.2
      intro s hs
      have hfree : (s.releases.any fun other => other.releaseId == call.draws.releaseId) =
          false := by
        rw [hs.2.1, List.any_eq_false]
        intro release hrelease
        simpa using hfresh.release release hrelease
      simp only [newRelease, hfree]
      refine ⟨⟨⟨rfl, rfl, rfl⟩, rfl, rfl, rfl, rfl, rfl, rfl⟩, ?_⟩
      exact fun s _ => ⟨⟨⟨rfl, rfl, rfl⟩, rfl, rfl, rfl⟩,
        fun s _ => ⟨⟨⟨rfl, rfl, rfl⟩, rfl, rfl, rfl⟩, rfl⟩⟩
    · cases hnote.2
  · rw [hnote]
    rfl

theorem reject_bind_part {α : Type} {condition : Prop} [Decidable condition] {failure : Failure}
    {p : Handler α} {note : DraftNote} {Q : DraftNote → Except Failure α → Prop}
    (hrejected : Q note (.error failure)) (hp : ¬ condition → DraftPart s₀ key p note Q) :
    DraftPart s₀ key (reject condition failure >>= fun _ => p) note Q := by
  rw [reject]
  split
  · exact hrejected
  · rename_i hcondition
    exact hp hcondition

/-- After its check a call has a release, or is about to create one. -/
def checkedNote (call : DraftCall) : Option ConfigRelease → DraftNote
  | none => ⟨call, .creating [] false⟩
  | some release => ⟨call, .found release⟩

theorem existingRelease_part :
    DraftPart s₀ key (existingRelease key) ⟨call, .idle⟩ fun note r =>
      ∃ existing, r = .ok existing ∧ note = checkedNote call existing := by
  intro s _
  refine ⟨⟨.refl s, rfl, .refl s⟩, ?_⟩
  cases htask : s.taskByKey? key with
  | none =>
      simp only [draftNext, phaseNext, Prog.bind, htask]
      exact ⟨none, rfl, rfl⟩
  | some task =>
      simp only [draftNext, phaseNext, Prog.bind, htask]
      intro s' _
      refine ⟨⟨.refl s', rfl, .refl s'⟩, s'.releaseByTask? task.taskId, rfl, ?_⟩
      cases hrelease : s'.releaseByTask? task.taskId with
      | none => simp only [draftNext, phaseNext, hrelease, checkedNote]
      | some release => simp only [draftNext, phaseNext, hrelease, checkedNote]

/-- The nodes of the store have their own identities. -/
def Store.DistinctAgents (s : Store) : Prop := (agentIds s.nodes).Nodup

theorem DraftCall.nodup_nodes (h : s₀.DistinctAgents) : (agentIds (call.nodes s₀)).Nodup := by
  refine h.sublist (List.Sublist.map Node.agentId ?_)
  exact List.filter_sublist.trans List.filter_sublist

/-- What a call needs of the store it starts from: identifiers of its own, and a draft whose
bundles can all be built once the first one can. -/
structure DraftCall.Ready (settings : Settings) (call : DraftCall) (s : Store) : Prop where
  fresh : call.Fresh s
  builds : BuildsAll settings s call.draft.siteId (dictGet call.draft.diff "proxy_selection")
    (dictGet call.draft.diff "routing_policy") (call.nodes s)

theorem DraftCall.program_part (hready : call.Ready settings s₀) (hagents : s₀.DistinctAgents)
    (hkey : s₀.taskByKey? key = none) :
    DraftPart s₀ key (call.program settings key) ⟨call, .idle⟩ draftResult := by
  refine existingRelease_part.bind (fun note existing hnote => ?_) fun note e hnote => ?_
  · rcases hnote with ⟨existing', hexisting, hnote⟩
    cases hexisting
    rw [hnote]
    cases existing with
    | some release => rfl
    | none =>
        refine reject_bind_part rfl fun _ => ?_
        refine reject_bind_part rfl fun hsite => ?_
        refine find_bind_part rfl (s₀.siteNodes call.draft.siteId) (fun s hs => ?_) ?_
        · rw [Store.siteNodes, hs.1.nodes, Store.siteNodes]
        · refine reject_bind_part rfl fun _ => ?_
          refine Prog.Follows.bind (Q := fun note r =>
            note = ⟨call, .creating [] false⟩ ∧ isOk r = true) ?_ (fun note active hnote => ?_) ?_
          · rw [activeConfigReleaseForNodes]
            split
            · exact ⟨rfl, rfl⟩
            · exact fun s _ => ⟨⟨.refl s, .refl s⟩, rfl, rfl⟩
          · rw [hnote.1]
            refine reject_bind_part rfl fun _ => ?_
            refine read_bind_part rfl fun s _ => ?_
            refine reject_bind_part rfl fun _ => ?_
            refine publishDraft_part hready.fresh hkey (DraftCall.nodup_nodes hagents) ?_
            rw [not_not.mp hsite]
            exact hready.builds
          · intro note e hnote
            cases hnote.2
  · rcases hnote with ⟨existing', hexisting, -⟩
    cases hexisting

end Calls

end Grouproxy.Backend
