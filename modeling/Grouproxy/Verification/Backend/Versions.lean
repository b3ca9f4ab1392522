import Mathlib.Data.Fintype.Basic
import Grouproxy.Verification.Backend.Frames

/-! # Versions of the desired bundles

A call of `create_desired_release` computes its version from what it reads first and inserts
bundles with it later. Calls that share a node and do not overlap in between give every node
strictly increasing versions.
-/

namespace Grouproxy.Backend

open Encoding Crypto Programs

/-! ## Calls -/

/-- A call of `create_desired_release`. Its nodes are documents of one collection with a unique
identity. -/
structure DesiredCall where
  draws : Draws
  site : Site
  nodes : List Node
  proxySelection : Json
  routingPolicy : Json
  nodup : (agentIds nodes).Nodup

def DesiredCall.program (settings : Settings) (call : DesiredCall) :
    Handler (String × List DesiredRelease) :=
  createDesiredRelease settings call.draws call.site call.nodes call.proxySelection
    call.routingPolicy

/-- What a call knows of itself: its copy of the site, the version once it is computed, and the
agents whose bundle it has not inserted yet. -/
structure CallNote where
  site : Site
  version : Option Nat
  agents : List String

def callNext (note : CallNote) : Label → Store → CallNote
  | .desired _ .previous, s =>
    { note with version := some (nextVersion note.site (s.latestRelease note.site.id "")) }
  | .desired _ (.node agentId .insert), _ =>
    { note with agents := note.agents.filter fun other => other ≠ agentId }
  | _, _ => note

def callAllowed (note : CallNote) (label : Label) (s s' : Store) : Prop :=
  match label with
  | .desired _ (.node agentId .insert) => ∃ d : DesiredRelease, d.siteId = note.site.id ∧
      d.nodeId = agentId ∧ agentId ∈ note.agents ∧ note.version = some d.desiredVersion ∧
      s'.desired = s.desired ++ [d]
  | _ => s'.desired = s.desired

/-- An operation of a call other than its first and its insertions. -/
def KeepsDesired (label : Label) (s s' : Store) : Prop :=
  (∀ siteId, label ≠ .desired siteId .previous) ∧
    (∀ siteId agentId, label ≠ .desired siteId (.node agentId .insert)) ∧ s'.desired = s.desired

theorem KeepsDesired.allowed {label : Label} {s s' : Store} (h : KeepsDesired label s s')
    (note : CallNote) : callAllowed note label s s' ∧ callNext note label s = note := by
  rcases h with ⟨hprevious, hinsert, hsame⟩
  cases label with
  | desired siteId op =>
      cases op with
      | previous => exact absurd rfl (hprevious siteId)
      | setRevision => exact ⟨hsame, rfl⟩
      | node agentId op =>
          cases op with
          | insert => exact absurd rfl (hinsert siteId agentId)
          | previous => exact ⟨hsame, rfl⟩
          | blacklist => exact ⟨hsame, rfl⟩
          | accessControlSets => exact ⟨hsame, rfl⟩
          | networkGroups => exact ⟨hsame, rfl⟩
          | binding => exact ⟨hsame, rfl⟩
          | version => exact ⟨hsame, rfl⟩
          | tagsBinding => exact ⟨hsame, rfl⟩
          | tagsVersion => exact ⟨hsame, rfl⟩
  | other => exact ⟨hsame, rfl⟩
  | findTask key => exact ⟨hsame, rfl⟩
  | findRelease taskId => exact ⟨hsame, rfl⟩
  | activeRelease agentIds => exact ⟨hsame, rfl⟩
  | task key op => exact ⟨hsame, rfl⟩
  | insertRelease release => exact ⟨hsame, rfl⟩

section Calls

variable {settings : Settings} {draws : Draws} {proxySelection routingPolicy : Json}

abbrev KeepsVersions {α : Type} (note : CallNote) (p : Handler α) : Prop :=
  p.Follows callNext (fun _ _ => True) callAllowed (fun _ _ => True) note

theorem KeepsVersions.quiet_bind {α β : Type} {note : CallNote} {p : Handler α}
    {f : α → Handler β} (h : p.Uses KeepsDesired) (hf : ∀ a, KeepsVersions note (f a)) :
    KeepsVersions note (p >>= f) := by
  refine (h.follows fun _ _ _ hkeeps => hkeeps.allowed note).bind (fun g a hg => ?_)
    fun _ _ _ => trivial
  subst hg
  exact hf a

theorem node_keepsDesired {siteId agentId : String} {op : NodeOp} (h : op ≠ .insert) (s : Store) :
    KeepsDesired (.desired siteId (.node agentId op)) s s := by
  refine ⟨by simp, fun _ _ heq => ?_, rfl⟩
  cases heq
  exact h rfl

/-- The loop inserts bundles of the agents it has left, with the version of the call. -/
theorem createForNodes_keeps {site : Site} {desiredVersion : Nat} {previous : Option DesiredRelease}
    {nodes : List Node} {note : CallNote} (hsite : site.id = note.site.id)
    (hversion : note.version = some desiredVersion) (hnodup : (agentIds nodes).Nodup)
    (hagents : ∀ n ∈ agentIds nodes, n ∈ note.agents) :
    KeepsVersions note (createForNodes settings draws site desiredVersion previous proxySelection
      routingPolicy nodes) := by
  induction nodes generalizing note with
  | nil => trivial
  | cons node rest ih =>
      have hcons := List.nodup_cons.mp hnodup
      refine .quiet_bind (find_uses fun s => node_keepsDesired (by decide) s) fun nodePrevious => ?_
      refine .quiet_bind done_uses fun selection => ?_
      refine .quiet_bind (buildSignedBundle_uses fun op s hop => node_keepsDesired hop s)
        fun bundle => ?_
      refine Prog.Follows.bind (Prog.Follows.atomic (Q := fun g _ => g =
        { note with agents := note.agents.filter fun other => other ≠ node.agentId })
        (fun s _ => ?_) fun s _ => rfl) (fun g _ hg => ?_) fun _ _ _ => trivial
      · exact ⟨_, hsite, rfl, hagents _ List.mem_cons_self, hversion, rfl⟩
      · subst hg
        refine Prog.Follows.bind (ih hsite hversion hcons.2 fun n hn => ?_) (fun _ _ _ => trivial)
          fun _ _ _ => trivial
        refine List.mem_filter.mpr ⟨hagents n (List.mem_cons_of_mem _ hn), ?_⟩
        have hne : n ≠ node.agentId := fun heq => hcons.1 (heq ▸ hn)
        simpa using hne

theorem DesiredCall.program_keeps (call : DesiredCall) :
    KeepsVersions ⟨call.site, none, agentIds call.nodes⟩ (call.program settings) := by
  refine Prog.Follows.bind (Prog.Follows.atomic (Q := fun g r => ∀ previous, r = .ok previous →
    g = ⟨call.site, some (nextVersion call.site previous), agentIds call.nodes⟩)
    (fun s _ => rfl) fun s _ previous hprevious => ?_) (fun g previous hg => ?_) fun _ _ _ => trivial
  · cases hprevious
    rfl
  · rw [hg previous rfl]
    refine KeepsVersions.quiet_bind (.atomic fun s => ⟨by simp, by simp, rfl⟩) fun refreshed => ?_
    exact Prog.Follows.bind (createForNodes_keeps rfl rfl call.nodup fun n hn => hn)
      (fun _ _ _ => trivial) fun _ _ _ => trivial

end Calls

/-! ## Runs -/

/-- The bundles of a node, in the order of insertion. -/
def nodeReleases (s : Store) (siteId nodeId : String) : List DesiredRelease :=
  s.desired.filter fun d => d.siteId == siteId && d.nodeId == nodeId

/-- Every node has bundles with strictly increasing versions. -/
def VersionsIncrease (s : Store) : Prop :=
  ∀ siteId nodeId, (nodeReleases s siteId nodeId).Pairwise fun a b =>
    a.desiredVersion < b.desiredVersion

variable {ι : Type} [DecidableEq ι]

abbrev CallPool (ι : Type) := Pool ι Label Store Failure (String × List DesiredRelease) CallNote

def startCalls (settings : Settings) (calls : ι → DesiredCall) (s : Store) : CallPool ι :=
  { thread := fun i => (calls i).program settings
    note := fun i => ⟨(calls i).site, none, agentIds (calls i).nodes⟩, store := s }

/-- The operation computes the version of a call. -/
def isFirstRead : Label → Bool
  | .desired _ .previous => true
  | _ => false

/-- A call that has computed its version and still has to insert the bundle of an agent. -/
def Owes (p : CallPool ι) (i : ι) (siteId agentId : String) : Prop :=
  (p.thread i).Running ∧ (p.note i).site.id = siteId ∧ (p.note i).version.isSome ∧
    agentId ∈ (p.note i).agents

/-- A call computes its version only while no other call of the site owes a bundle to one of its
agents with a version computed before. -/
def ReadsAlone (p : CallPool ι) (i : ι) : Prop :=
  (p.thread i).label?.any isFirstRead → ∀ j, j ≠ i → ∀ agentId ∈ (p.note i).agents,
    ¬ Owes p j (p.note i).site.id agentId

instance (p : CallPool ι) (i : ι) (siteId agentId : String) : Decidable (Owes p i siteId agentId) :=
  inferInstanceAs (Decidable (_ ∧ _ ∧ _ ∧ _))

instance [Fintype ι] (p : CallPool ι) (i : ι) : Decidable (ReadsAlone p i) :=
  inferInstanceAs (Decidable (_ → ∀ j, j ≠ i → ∀ agentId ∈ (p.note i).agents, ¬ _))

/-- A computed version is above every version of the site. -/
theorem lt_nextVersion {s : Store} {site : Site} {d : DesiredRelease} (hd : d ∈ s.desired)
    (hsite : d.siteId = site.id) :
    d.desiredVersion < nextVersion site (s.latestRelease site.id "") := by
  have hmem : d ∈ s.desired.filter fun d => d.siteId == site.id && ("" == "" || d.nodeId == "") := by
    rw [List.mem_filter]
    simp [hd, hsite]
  cases hlatest : s.latestRelease site.id "" with
  | none =>
      rw [Store.latestRelease, List.argmax_eq_none] at hlatest
      rw [hlatest] at hmem
      cases hmem
  | some latest =>
      have hle : d.desiredVersion ≤ latest.desiredVersion := List.le_of_mem_argmax hmem hlatest
      simp only [nextVersion, Option.map_some, Option.getD_some]
      omega

/-- The invariant of a run: every bundle still owed will be above the ones that are there, and is
owed by one call only. -/
structure Numbered (p : CallPool ι) : Prop where
  increase : VersionsIncrease p.store
  above : ∀ i siteId agentId v, Owes p i siteId agentId → (p.note i).version = some v →
    ∀ d ∈ nodeReleases p.store siteId agentId, d.desiredVersion < v
  alone : ∀ i j siteId agentId, i ≠ j → Owes p i siteId agentId → ¬ Owes p j siteId agentId

theorem nodeReleases_append {s s' : Store} {d : DesiredRelease} (h : s'.desired = s.desired ++ [d])
    (siteId nodeId : String) :
    nodeReleases s' siteId nodeId = nodeReleases s siteId nodeId ++
      if d.siteId = siteId ∧ d.nodeId = nodeId then [d] else [] := by
  rw [nodeReleases, h, List.filter_append, ← nodeReleases]
  congr 1
  split
  · rename_i hd
    simp [hd]
  · rename_i hd
    simpa using hd

section Step

variable {p : CallPool ι} {i : ι} {next : Handler (String × List DesiredRelease)}
  {w : Store → Store}

/-- The pool after a step of one call. -/
abbrev afterStep (p : CallPool ι) (i : ι) (next : Handler (String × List DesiredRelease))
    (note : CallNote) (w : Store → Store) : CallPool ι :=
  { thread := Function.update p.thread i next, note := Function.update p.note i note
    store := w p.store }

theorem owes_of_ne {note : CallNote} {j : ι} (hj : j ≠ i) {siteId agentId : String}
    (h : Owes (afterStep p i next note w) j siteId agentId) : Owes p j siteId agentId := by
  simpa [Owes, Function.update_of_ne hj] using h

/-- An operation that inserts nothing and does not compute the version. -/
theorem Numbered.keep (hp : Numbered p) (hrunning : (p.thread i).Running)
    (hw : (w p.store).desired = p.store.desired) :
    Numbered (afterStep p i next (p.note i) w) := by
  have howes : ∀ j siteId agentId, Owes (afterStep p i next (p.note i) w) j siteId agentId →
      Owes p j siteId agentId := by
    intro j siteId agentId h
    by_cases hj : j = i
    · subst hj
      exact ⟨hrunning, by simpa [Owes] using h.2⟩
    · exact owes_of_ne hj h
  have hreleases : ∀ siteId nodeId,
      nodeReleases (w p.store) siteId nodeId = nodeReleases p.store siteId nodeId := by
    intro siteId nodeId
    rw [nodeReleases, hw, nodeReleases]
  refine ⟨?_, ?_, ?_⟩
  · intro siteId nodeId
    rw [hreleases]
    exact hp.increase siteId nodeId
  · intro j siteId agentId v h hv d hd
    rw [hreleases] at hd
    refine hp.above j siteId agentId v (howes j siteId agentId h) ?_ d hd
    simpa using hv
  · intro j k siteId agentId hjk hj hk
    exact hp.alone j k siteId agentId hjk (howes j siteId agentId hj) (howes k siteId agentId hk)

/-- The call computes its version. -/
theorem Numbered.read (hp : Numbered p)
    (halone : ∀ j, j ≠ i → ∀ agentId ∈ (p.note i).agents, ¬ Owes p j (p.note i).site.id agentId)
    (hw : (w p.store).desired = p.store.desired) :
    Numbered (afterStep p i next { p.note i with
      version := some (nextVersion (p.note i).site
        (p.store.latestRelease (p.note i).site.id "")) } w) := by
  have hreleases : ∀ siteId nodeId,
      nodeReleases (w p.store) siteId nodeId = nodeReleases p.store siteId nodeId := by
    intro siteId nodeId
    rw [nodeReleases, hw, nodeReleases]
  refine ⟨?_, ?_, ?_⟩
  · intro siteId nodeId
    rw [hreleases]
    exact hp.increase siteId nodeId
  · intro j siteId agentId v h hv d hd
    rw [hreleases] at hd
    by_cases hj : j = i
    · subst hj
      simp only [Function.update_self, Option.some.injEq] at hv
      have hmem := List.mem_filter.mp hd
      have hsite : siteId = (p.note j).site.id := by simpa using h.2.1.symm
      rw [← hv]
      refine lt_nextVersion hmem.1 ?_
      simp only [Bool.and_eq_true, beq_iff_eq] at hmem
      rw [hmem.2.1, hsite]
    · refine hp.above j siteId agentId v (owes_of_ne hj h) ?_ d hd
      simpa [Function.update_of_ne hj] using hv
  · intro j k siteId agentId hjk hj hk
    by_cases hji : j = i
    · subst hji
      have hki : k ≠ j := Ne.symm hjk
      have hsite : (p.note j).site.id = siteId := by simpa using hj.2.1
      refine halone k hki agentId (by simpa using hj.2.2.2) ?_
      rw [hsite]
      exact owes_of_ne hki hk
    · by_cases hki : k = i
      · subst hki
        have hsite : (p.note k).site.id = siteId := by simpa using hk.2.1
        refine halone j hji agentId (by simpa using hk.2.2.2) ?_
        rw [hsite]
        exact owes_of_ne hji hj
      · exact hp.alone j k siteId agentId hjk (owes_of_ne hji hj) (owes_of_ne hki hk)

/-- The call inserts the bundle of an agent it owes one to. -/
theorem Numbered.insert (hp : Numbered p) (hrunning : (p.thread i).Running) {d : DesiredRelease}
    (hsite : d.siteId = (p.note i).site.id) (hagent : d.nodeId ∈ (p.note i).agents)
    (hversion : (p.note i).version = some d.desiredVersion)
    (hw : (w p.store).desired = p.store.desired ++ [d]) :
    Numbered (afterStep p i next { p.note i with
      agents := (p.note i).agents.filter fun other => other ≠ d.nodeId } w) := by
  have howed : Owes p i d.siteId d.nodeId := ⟨hrunning, hsite.symm, by simp [hversion], hagent⟩
  -- What is still owed was owed before, and to another agent.
  have howes : ∀ j siteId agentId,
      Owes (afterStep p i next { p.note i with
        agents := (p.note i).agents.filter fun other => other ≠ d.nodeId } w) j siteId agentId →
      Owes p j siteId agentId ∧ ¬ (d.siteId = siteId ∧ d.nodeId = agentId) := by
    intro j siteId agentId h
    by_cases hj : j = i
    · subst hj
      have hnote : (p.note j).site.id = siteId ∧ (p.note j).version.isSome ∧
          agentId ∈ (p.note j).agents ∧ agentId ≠ d.nodeId := by
        simpa [Owes] using h.2
      exact ⟨⟨hrunning, hnote.1, hnote.2.1, hnote.2.2.1⟩,
        fun hsame => hnote.2.2.2 hsame.2.symm⟩
    · have hold := owes_of_ne hj h
      refine ⟨hold, fun hsame => ?_⟩
      rw [← hsame.1, ← hsame.2] at hold
      exact hp.alone j i _ _ hj hold howed
  refine ⟨?_, ?_, ?_⟩
  · intro siteId nodeId
    rw [nodeReleases_append hw]
    split
    · rename_i hsame
      rw [List.pairwise_append]
      refine ⟨hp.increase siteId nodeId, List.pairwise_singleton _ d, fun a ha b hb => ?_⟩
      rw [List.mem_singleton.mp hb]
      rw [← hsame.1, ← hsame.2] at ha
      exact hp.above i _ _ _ howed hversion a ha
    · rw [List.append_nil]
      exact hp.increase siteId nodeId
  · intro j siteId agentId v h hv a ha
    have hold := howes j siteId agentId h
    rw [nodeReleases_append hw, if_neg hold.2, List.append_nil] at ha
    refine hp.above j siteId agentId v hold.1 ?_ a ha
    by_cases hj : j = i
    · subst hj
      simpa using hv
    · simpa [Function.update_of_ne hj] using hv
  · intro j k siteId agentId hjk hj hk
    exact hp.alone j k siteId agentId hjk (howes j siteId agentId hj).1 (howes k siteId agentId hk).1

theorem numbered_step {l : Label} {n : Store → Handler (String × List DesiredRelease)}
    {k : Handler (String × List DesiredRelease)} (hthread : p.thread i = .op l w n k)
    (hallowed : callAllowed (p.note i) l p.store (w p.store)) (hcond : ReadsAlone p i)
    (hp : Numbered p) : Numbered (p.step callNext i) := by
  have hrunning : (p.thread i).Running := by
    rw [hthread]
    trivial
  have hstep : p.step callNext i =
      afterStep p i (n p.store) (callNext (p.note i) l p.store) w := by
    rw [Pool.step, hthread]
  rw [hstep]
  cases l with
  | desired siteId op =>
      cases op with
      | previous => exact hp.read (hcond (by rw [hthread]; rfl)) hallowed
      | setRevision => exact hp.keep hrunning hallowed
      | node agentId op =>
          cases op with
          | insert =>
              rcases hallowed with ⟨d, hsite, hnode, hagent, hversion, hw⟩
              subst hnode
              exact hp.insert hrunning hsite hagent hversion hw
          | _ => exact hp.keep hrunning hallowed
  | _ => exact hp.keep hrunning hallowed

end Step

/-- Any number of calls, interleaved at every operation: as long as versions are computed alone,
the bundles of every node have strictly increasing versions. -/
theorem versionsIncrease_run (settings : Settings) (calls : ι → DesiredCall) (s : Store)
    (hstart : VersionsIncrease s) (schedule : List ι)
    (hmeets : (startCalls settings calls s).Meets callNext ReadsAlone schedule) :
    VersionsIncrease ((startCalls settings calls s).run callNext schedule).store := by
  have hrun := Pool.invariant_run callNext (fun _ _ => True) callAllowed (fun _ _ => True)
    Numbered (fun _ _ _ _ => trivial)
    (fun p i l w n k _ hthread hallowed hcond hp => numbered_step hthread hallowed hcond hp)
    (fun i => (calls i).program_keeps) hmeets
    ⟨hstart, by simp [startCalls, Owes], by simp [startCalls, Owes]⟩
  exact hrun.1.increase

/-- Two releases of the same node. -/
def twoCalls : Bool → DesiredCall
  | false => ⟨sampleDraws "a", sampleSite, [sampleNode], .null, .null, nodup_sampleNode⟩
  | true => ⟨sampleDraws "b", sampleSite, [sampleNode], .null, .null, nodup_sampleNode⟩

/-- One call after the other gives two versions. -/
theorem versionsIncrease_run_serial :
    ((startCalls sampleSettings twoCalls sampleStore).run callNext
        (List.replicate 20 false ++ List.replicate 20 true)).store.desired.map
      DesiredRelease.desiredVersion = [1, 2] ∧
    VersionsIncrease ((startCalls sampleSettings twoCalls sampleStore).run callNext
      (List.replicate 20 false ++ List.replicate 20 true)).store := by
  refine ⟨by decide, versionsIncrease_run _ _ _ ?_ _ (by decide)⟩
  intro siteId nodeId
  exact List.Pairwise.nil

/-- The second call computes its version before the first has inserted its bundle: both
bundles of the node have version 1. -/
theorem twoCalls_same_version :
    ¬ VersionsIncrease ((startCalls sampleSettings twoCalls sampleStore).run callNext
      ([false] ++ List.replicate 20 true ++ List.replicate 20 false)).store := by
  intro h
  have hversions : (nodeReleases ((startCalls sampleSettings twoCalls sampleStore).run callNext
      ([false] ++ List.replicate 20 true ++ List.replicate 20 false)).store "site-north"
        "north-a").map DesiredRelease.desiredVersion = [1, 1] := by
    decide
  have hpair := List.Pairwise.map DesiredRelease.desiredVersion (S := (· < ·)) (fun _ _ h => h)
    (h "site-north" "north-a")
  rw [hversions] at hpair
  exact absurd hpair (by decide)

end Grouproxy.Backend
