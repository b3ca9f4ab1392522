import Mathlib.Data.Fintype.Basic
import Grouproxy.Verification.Backend.Frames

/-! # At most one active release per node

Every entry point checks for an active release before it creates one, and inserts its own much
later. The check protects a node as long as no second request passes it in between.
-/

namespace Grouproxy.Backend

open Encoding Crypto Cidr Programs

/-! ## Requests -/

/-- The requests that create releases, and the acknowledgements that finish them. -/
inductive Request where
  | fromDraft (draws : Draws) (draft : ConfigDraft) (site : Site) (requestedNodeIds : List String)
      (expectedCurrentVersion : Option Int) (key : String)
  | release (draws : Draws) (payload : ReleaseCreate) (idempotencyKeyHeader : Option String)
  | routing (draws : Draws) (siteId : String) (expectedRevision : Nat)
  | blacklist (draws : String → Draws) (operation : String) (rule : SourceBlacklist)
      (nodeIds : List String) (write : List SourceBlacklist → List SourceBlacklist)
  | subscription (draws : String → Draws) (version : SubscriptionVersion) (sites : List Site)
      (note idempotencyKey operation : String)
  | rollback (draws : String → Draws) (siteId idempotencyKey : String)
  | ack (receivedAt : Nat) (node : Node) (payload : AgentAck)

def Request.program (settings : Settings) : Request → Handler Unit
  | .fromDraft draws draft site requested expected key => do
    let _ ← createReleaseFromDraft settings draws draft site requested expected key
  | .release draws payload header => do
    let _ ← createRelease settings draws payload header
  | .routing draws siteId expectedRevision => do
    let _ ← publishSiteRouting settings draws siteId expectedRevision
  | .blacklist draws operation rule nodeIds write => do
    let _ ← changeSourceBlacklist settings draws operation rule nodeIds write
  | .subscription draws version sites note key operation => do
    let _ ← publishSubscriptionVersion settings draws version sites note key operation
  | .rollback draws siteId key => do
    let _ ← rollbackSiteSubscription settings draws siteId key
  | .ack receivedAt node payload => do
    let _ ← agentAck receivedAt node payload

/-! ## The note of a request -/

/-- The agents for which a request passed its check without having inserted a release since. -/
def pendingNext (pending : List String) : Label → Store → List String
  | .activeRelease agentIds, s => if (s.activeRelease? agentIds).isNone then agentIds else []
  | .insertRelease _, _ => []
  | _, _ => pending

/-- Releases only leave their active statuses. -/
def Settles (s s' : Store) : Prop :=
  ∃ f : ConfigRelease → ConfigRelease, s'.releases = s.releases.map f ∧
    ∀ r, (f r).status.isActive = true → r.status.isActive = true ∧ (f r).nodeIds = r.nodeIds

def releaseAllowed (pending : List String) (label : Label) (s s' : Store) : Prop :=
  match label with
  | .insertRelease _ => s'.releases = s.releases ∨
      ∃ release : ConfigRelease, (∀ n ∈ release.nodeIds, n ∈ pending) ∧
        s'.releases = s.releases ++ [release]
  | _ => Settles s s'

/-- An operation that neither checks for releases nor inserts one. -/
def Quiet (label : Label) (s s' : Store) : Prop :=
  (∀ agentIds, label ≠ .activeRelease agentIds) ∧ (∀ release, label ≠ .insertRelease release) ∧
    Settles s s'

theorem settles_of_eq {s s' : Store} (h : s'.releases = s.releases) : Settles s s' :=
  ⟨id, by simpa using h, fun _ hr => ⟨hr, rfl⟩⟩

theorem quiet_other {s s' : Store} (h : s'.releases = s.releases) : Quiet .other s s' :=
  ⟨by simp, by simp, settles_of_eq h⟩

theorem Quiet.allowed {label : Label} {s s' : Store} (h : Quiet label s s') (g : List String) :
    releaseAllowed g label s s' ∧ pendingNext g label s = g := by
  cases label with
  | activeRelease agentIds => exact absurd rfl (h.1 agentIds)
  | insertRelease release => exact absurd rfl (h.2.1 release)
  | other => exact ⟨h.2.2, rfl⟩
  | findRelease taskId => exact ⟨h.2.2, rfl⟩
  | findTask key => exact ⟨h.2.2, rfl⟩
  | desired siteId op => exact ⟨h.2.2, rfl⟩
  | task key op => exact ⟨h.2.2, rfl⟩

theorem DesiredStep.quiet {siteId : String} {label : Label} {s s' : Store}
    (h : DesiredStep siteId label s s') : Quiet label s s' := by
  rcases h with ⟨⟨op, hlabel⟩, hs⟩
  subst hlabel
  refine ⟨by simp, by simp, settles_of_eq ?_⟩
  rw [hs]

theorem TaskStep.quiet {key : String} {label : Label} {s s' : Store}
    (h : TaskStep key label s s') : Quiet label s s' := by
  rcases h with ⟨⟨op, hlabel⟩, hs⟩
  subst hlabel
  refine ⟨by simp, by simp, settles_of_eq ?_⟩
  rcases hs with hs | ⟨task, -, -, hs⟩
  · rw [hs]
  · rw [hs]

/-- The requests keep the protocol: whatever their note is. -/
abbrev KeepsProtocol {α : Type} (g : List String) (p : Handler α) : Prop :=
  p.Follows pendingNext (fun _ _ => True) releaseAllowed (fun _ _ => True) g

theorem keeps_of_uses {α : Type} {g : List String} {p : Handler α} (h : p.Uses Quiet) :
    p.Follows pendingNext (fun _ _ => True) releaseAllowed (fun g' _ => g' = g) g :=
  h.follows fun _ _ _ hquiet => hquiet.allowed g

theorem KeepsProtocol.quiet_bind {α β : Type} {g : List String} {p : Handler α}
    {f : α → Handler β} (h : p.Uses Quiet) (hf : ∀ a, KeepsProtocol g (f a)) :
    KeepsProtocol g (p >>= f) := by
  refine (keeps_of_uses h).bind (fun g' a hg => ?_) fun _ _ _ => trivial
  subst hg
  exact hf a

theorem KeepsProtocol.bind {α β : Type} {g : List String} {p : Handler α}
    {f : α → Handler β} (h : KeepsProtocol g p) (hf : ∀ g a, KeepsProtocol g (f a)) :
    KeepsProtocol g (p >>= f) :=
  Prog.Follows.bind h (fun g' a _ => hf g' a) fun _ _ _ => trivial

theorem KeepsProtocol.tryCatch {α : Type} {g : List String} {p : Handler α}
    {f : Failure → Handler α} (h : KeepsProtocol g p) (hf : ∀ g e, KeepsProtocol g (f e)) :
    KeepsProtocol g (p.tryCatch f) :=
  Prog.Follows.tryCatch h (fun _ _ _ => trivial) fun g' e _ => hf g' e

/-! ## The handlers keep the protocol -/

section Handlers

variable {settings : Settings} {draws : Draws} {g : List String}

theorem find_quiet {α : Type} {query : Store → α} : (find .other query).Uses Quiet :=
  find_uses fun _ => quiet_other rfl

theorem update_quiet {write : Store → Store} (h : ∀ s, (write s).releases = s.releases) :
    (update .other write).Uses Quiet :=
  update_uses fun s => quiet_other (h s)

theorem activeConfigReleaseForNodes_quiet {nodes : List Node} :
    (activeConfigReleaseForNodes .other nodes).Uses Quiet := by
  rw [activeConfigReleaseForNodes]
  split
  · exact .pure _
  · exact find_quiet

theorem existingRelease_quiet {key : String} : (existingRelease key).Uses Quiet := by
  refine .bind (find_uses fun s => ⟨by simp, by simp, settles_of_eq rfl⟩) fun task => ?_
  cases task with
  | none => exact .pure _
  | some task => exact find_uses fun s => ⟨by simp, by simp, settles_of_eq rfl⟩

theorem saveDraft_quiet {draft : ConfigDraft} : (saveDraft draft).Uses Quiet :=
  update_quiet fun _ => rfl

theorem insertDraft_quiet {draft : ConfigDraft} : (insertDraft draft).Uses Quiet :=
  update_quiet fun _ => rfl

theorem appendAudit_quiet : appendAudit.Uses Quiet := update_quiet fun _ => rfl

/-- The inserted release covers agents that the request passed the check for. -/
theorem publishDraft_keeps {draft : ConfigDraft} {site : Site} {selected : List Node}
    {key : String} (hg : ∀ n ∈ agentIds selected, n ∈ g) :
    KeepsProtocol g (publishDraft settings draws draft site selected key) := by
  refine .quiet_bind ?_ fun created => ?_
  · exact .tryCatch (createDesiredRelease_desiredStep.mono fun _ _ _ h => h.quiet) fun e => .throw _
  refine .quiet_bind (createTask_uses.mono fun _ _ _ h => h.quiet) fun task => ?_
  refine .bind ?_ fun g' _ => .quiet_bind saveDraft_quiet fun _ =>
    .quiet_bind appendAudit_quiet fun _ => trivial
  refine Prog.Follows.atomic (fun s _ => ?_) fun _ _ => trivial
  dsimp only
  split
  · exact .inl rfl
  · exact .inr ⟨_, hg, rfl⟩

theorem createReleaseFromDraft_keeps {draft : ConfigDraft} {site : Site}
    {requestedNodeIds : List String} {expectedCurrentVersion : Option Int} {key : String} :
    KeepsProtocol g (createReleaseFromDraft settings draws draft site requestedNodeIds
      expectedCurrentVersion key) := by
  refine .quiet_bind existingRelease_quiet fun existing => ?_
  cases existing with
  | some release => trivial
  | none =>
      refine .quiet_bind reject_uses fun _ => .quiet_bind reject_uses fun _ => ?_
      refine .quiet_bind find_quiet fun nodes => .quiet_bind reject_uses fun _ => ?_
      generalize selectedNodes (selectedDocumentIds requestedNodeIds draft nodes) nodes = selected
      -- After the check the note covers the selected nodes, unless the check found a release.
      have hcheck : (activeConfigReleaseForNodes (.activeRelease (agentIds selected)) selected).Follows
          pendingNext (fun _ _ => True) releaseAllowed
          (fun g' r => ∀ active, r = .ok active → active.isSome ∨ ∀ n ∈ agentIds selected, n ∈ g')
          g := by
        rw [activeConfigReleaseForNodes]
        split
        · rename_i hnone
          intro active _
          rw [hnone]
          exact .inr (by simp)
        · refine Prog.Follows.atomic (fun s _ => settles_of_eq rfl) fun s _ active hactive => ?_
          cases hactive
          cases hfound : s.activeRelease? (agentIds selected) with
          | some release => exact .inl (by simp [hfound])
          | none =>
              refine .inr fun n hn => ?_
              rw [pendingNext, hfound]
              exact hn
      refine hcheck.bind (fun g' active hactive => ?_) fun _ _ _ => trivial
      change KeepsProtocol g' _
      rw [reject]
      split
      · trivial
      · rename_i hnone
        have hg' : ∀ n ∈ agentIds selected, n ∈ g' := by
          rcases hactive active rfl with h | h
          · exact absurd h hnone
          · exact h
        exact .quiet_bind (.pure ()) fun _ => .quiet_bind find_quiet fun current =>
          .quiet_bind reject_uses fun _ => publishDraft_keeps hg'

theorem createRelease_keeps {payload : ReleaseCreate} {header : Option String} :
    KeepsProtocol g (createRelease settings draws payload header) := by
  refine .quiet_bind find_quiet fun draft => ?_
  cases draft with
  | none => trivial
  | some draft =>
      refine .quiet_bind find_quiet fun site => ?_
      cases site with
      | none => trivial
      | some site => exact .bind createReleaseFromDraft_keeps fun _ _ => trivial

theorem publishSiteRouting_keeps {siteId : String} {expectedRevision : Nat} :
    KeepsProtocol g (publishSiteRouting settings draws siteId expectedRevision) := by
  refine .quiet_bind find_quiet fun site => ?_
  cases site with
  | none => trivial
  | some site =>
      dsimp only
      cases site.routingPolicy with
      | none => trivial
      | some policy =>
          refine .quiet_bind reject_uses fun _ => .quiet_bind find_quiet fun nodes => ?_
          refine .quiet_bind reject_uses fun _ => .quiet_bind reject_uses fun _ => ?_
          refine .quiet_bind activeConfigReleaseForNodes_quiet fun active => ?_
          refine .quiet_bind reject_uses fun _ => .quiet_bind insertDraft_quiet fun _ => ?_
          exact .bind createReleaseFromDraft_keeps fun _ _ => trivial

theorem findNodeReference_quiet {nodeId : String} : (findNodeReference nodeId).Uses Quiet := by
  refine .bind find_quiet fun node => ?_
  cases node with
  | none => exact find_quiet
  | some node => exact .pure _

theorem collectBlacklistNodes_quiet {seen nodeIds : List String} :
    (collectBlacklistNodes seen nodeIds).Uses Quiet := by
  induction nodeIds generalizing seen with
  | nil => exact .pure _
  | cons raw rest ih =>
      rw [collectBlacklistNodes]
      split
      · exact ih
      · refine .bind findNodeReference_quiet fun node => ?_
        cases node with
        | none => exact .throw _
        | some node => exact .bind ih fun _ => .pure _

theorem planSites_quiet {groups : List (String × List Node)} : (planSites groups).Uses Quiet := by
  induction groups with
  | nil => exact .pure _
  | cons group rest ih =>
      refine .bind find_quiet fun site => ?_
      cases site with
      | none => exact .throw _
      | some site =>
          refine .bind activeConfigReleaseForNodes_quiet fun active => ?_
          cases active with
          | some active => exact .throw _
          | none => exact .bind ih fun _ => .pure _

theorem blacklistValidationForNodes_quiet {nodes : List Node} :
    (blacklistValidationForNodes nodes).Uses Quiet := by
  induction nodes with
  | nil => exact .pure _
  | cons node rest ih => exact .bind find_quiet fun _ => ih

theorem distributeToSite_keeps {operation : String} {rule : SourceBlacklist}
    {plan : SourceBlacklistReleasePlan} :
    KeepsProtocol g (distributeToSite settings draws operation rule plan) := by
  rw [distributeToSite]
  dsimp only
  split
  · exact .quiet_bind (update_quiet fun _ => rfl) fun _ => trivial
  · refine .quiet_bind blacklistValidationForNodes_quiet fun _ => ?_
    refine .quiet_bind insertDraft_quiet fun _ => ?_
    refine .bind (.tryCatch createReleaseFromDraft_keeps fun _ e => ?_) fun g' created => ?_
    · exact .quiet_bind saveDraft_quiet fun _ => trivial
    · refine .quiet_bind ?_ fun _ => trivial
      rw [retireIfReused]
      split
      · exact saveDraft_quiet
      · exact .pure _

theorem distributeSourceBlacklistChange_keeps {draws : String → Draws} {operation : String}
    {rule : SourceBlacklist} {plans : List SourceBlacklistReleasePlan} :
    KeepsProtocol g (distributeSourceBlacklistChange settings draws operation rule plans) := by
  induction plans generalizing g with
  | nil => trivial
  | cons plan rest ih =>
      exact .bind distributeToSite_keeps fun _ _ => .bind ih fun _ _ => trivial

theorem changeSourceBlacklist_keeps {draws : String → Draws} {operation : String}
    {rule : SourceBlacklist} {nodeIds : List String}
    {write : List SourceBlacklist → List SourceBlacklist} :
    KeepsProtocol g (changeSourceBlacklist settings draws operation rule nodeIds write) := by
  refine .quiet_bind ?_ fun plans => ?_
  · refine .bind ?_ fun nodes => planSites_quiet
    exact .bind collectBlacklistNodes_quiet fun _ => .bind reject_uses fun _ => .pure _
  · refine .quiet_bind (update_quiet fun _ => rfl) fun _ => ?_
    exact distributeSourceBlacklistChange_keeps

theorem earlierTask_quiet {idempotencyKey taskKey : String} :
    (earlierTask idempotencyKey taskKey).Uses Quiet := by
  rw [earlierTask]
  split
  · exact .pure _
  · exact find_quiet

theorem planPublication_quiet {operation : String} {version : SubscriptionVersion}
    {idempotencyKey : String} {site : Site} :
    (planPublication settings draws operation version idempotencyKey site).Uses Quiet := by
  rw [planPublication]
  have hearlier := @earlierTask_quiet idempotencyKey
    (subscriptionTaskKey settings draws operation version site.id idempotencyKey)
  generalize earlierTask _ _ = earlier at hearlier ⊢
  refine .bind hearlier fun task => ?_
  cases task with
  | some task =>
      refine .bind find_quiet fun release => ?_
      cases release with
      | none => exact .throw _
      | some release => exact .pure _
  | none =>
      refine .bind find_quiet fun nodes => ?_
      refine .bind activeConfigReleaseForNodes_quiet fun active => ?_
      exact .bind reject_uses fun _ => .pure _

theorem planPublications_quiet {draws : String → Draws} {operation : String}
    {version : SubscriptionVersion} {idempotencyKey : String} {sites : List Site} :
    (planPublications settings draws operation version idempotencyKey sites).Uses Quiet := by
  induction sites with
  | nil => exact .pure _
  | cons site rest ih =>
      rw [planPublications]
      -- The program of the site stays folded.
      have hplan := @planPublication_quiet settings (draws site.id) operation version
        idempotencyKey site
      generalize planPublication settings _ operation version idempotencyKey site = plan
        at hplan ⊢
      exact .bind hplan fun _ => .bind ih fun _ => .pure _

theorem saveBinding_quiet {binding : SiteSubscription} : (saveBinding binding).Uses Quiet := by
  refine update_quiet fun s => ?_
  split
  · rfl
  · rfl

theorem bindVersion_quiet {version : SubscriptionVersion} {siteId : String}
    {binding : Option SiteSubscription} : (bindVersion version siteId binding).Uses Quiet := by
  cases binding with
  | none =>
      refine .bind (insert_uses ?_ ?_) fun _ => .pure _
      · exact fun _ _ => quiet_other rfl
      · exact fun _ _ => quiet_other rfl
  | some binding =>
      rw [bindVersion]
      split
      · exact .bind saveBinding_quiet fun _ => .pure _
      · exact .pure _

theorem restoreBinding_quiet {version : SubscriptionVersion} {siteId : String} {changed : Bool}
    {binding : Option SiteSubscription} :
    (restoreBinding version siteId changed binding).Uses Quiet := by
  cases binding with
  | none => exact update_quiet fun _ => rfl
  | some binding =>
      rw [restoreBinding]
      split
      · exact saveBinding_quiet
      · exact .pure _

theorem publishPlan_keeps {draws : String → Draws} {version : SubscriptionVersion} {note : String}
    {plan : SitePlan} : KeepsProtocol g (publishPlan settings draws version note plan) := by
  cases plan with
  | existing release => trivial
  | publish site nodes taskKey =>
      refine .quiet_bind find_quiet fun binding => .quiet_bind bindVersion_quiet fun changed => ?_
      split
      · trivial
      · refine .quiet_bind blacklistValidationForNodes_quiet fun _ => ?_
        refine .quiet_bind insertDraft_quiet fun _ => ?_
        refine .bind (.tryCatch createReleaseFromDraft_keeps fun _ e => ?_) fun _ _ => trivial
        exact .quiet_bind restoreBinding_quiet fun _ => trivial

theorem publishPlans_keeps {draws : String → Draws} {version : SubscriptionVersion} {note : String}
    {plans : List SitePlan} : KeepsProtocol g (publishPlans settings draws version note plans) := by
  induction plans generalizing g with
  | nil => trivial
  | cons plan rest ih => exact .bind publishPlan_keeps fun _ _ => .bind ih fun _ _ => trivial

theorem markPublished_quiet {version : SubscriptionVersion} {anything : Bool} :
    (markPublished version anything).Uses Quiet := by
  rw [markPublished]
  split
  · exact .bind (update_quiet fun _ => rfl) fun _ => appendAudit_quiet
  · exact .pure _

theorem publishSubscriptionVersion_keeps {draws : String → Draws} {version : SubscriptionVersion}
    {sites : List Site} {note idempotencyKey operation : String} :
    KeepsProtocol g (publishSubscriptionVersion settings draws version sites note idempotencyKey
      operation) := by
  refine .quiet_bind reject_uses fun _ => .quiet_bind planPublications_quiet fun plans => ?_
  refine .bind publishPlans_keeps fun _ outcomes => ?_
  exact .quiet_bind markPublished_quiet fun _ => trivial

theorem rollbackSiteSubscription_keeps {draws : String → Draws} {siteId idempotencyKey : String} :
    KeepsProtocol g (rollbackSiteSubscription settings draws siteId idempotencyKey) := by
  refine .quiet_bind find_quiet fun site => .quiet_bind find_quiet fun binding => ?_
  split
  · refine .quiet_bind reject_uses fun _ => .quiet_bind find_quiet fun version => ?_
    cases version with
    | none => trivial
    | some version =>
        exact .quiet_bind reject_uses fun _ => publishSubscriptionVersion_keeps
  · trivial

theorem finishedRelease_status (release : ConfigRelease) (acks : List AgentAck) :
    (finishedRelease release acks).status.isActive = false := by
  rw [finishedRelease]
  split
  · rfl
  · rfl

theorem saveRelease_quiet {release : ConfigRelease} (h : release.status.isActive = false) :
    (saveRelease release).Uses Quiet := by
  refine update_uses fun s => ⟨by simp, by simp, _, rfl, fun r hr => ?_⟩
  split at hr
  · rw [h] at hr
    cases hr
  · rename_i hother
    exact ⟨hr, by rw [if_neg hother]⟩

theorem agentAck_quiet {receivedAt : Nat} {node : Node} {payload : AgentAck} :
    (agentAck receivedAt node payload).Uses Quiet := by
  refine .bind reject_uses fun _ => .bind find_quiet fun previous => ?_
  split
  · exact .pure _
  · refine .bind find_quiet fun release => ?_
    cases release with
    | none => exact .throw _
    | some release =>
        refine .bind reject_uses fun _ => .bind find_quiet fun desired => ?_
        cases desired with
        | none => exact .throw _
        | some desired =>
            refine .bind reject_uses fun _ => .bind (update_quiet fun _ => rfl) fun _ => ?_
            refine .bind find_quiet fun _ => .bind (update_quiet fun _ => rfl) fun _ => ?_
            refine .bind ?_ fun _ => .pure _
            refine .bind find_quiet fun acks => ?_
            split
            · refine .bind (saveRelease_quiet (finishedRelease_status _ _)) fun _ => ?_
              refine .bind find_quiet fun task => ?_
              cases task with
              | none => exact .pure _
              | some task => exact update_quiet fun _ => rfl
            · exact .pure _

/-- Every request keeps the protocol. -/
theorem Request.program_keeps (request : Request) : KeepsProtocol g (request.program settings) := by
  cases request with
  | fromDraft => exact .bind createReleaseFromDraft_keeps fun _ _ => trivial
  | release => exact .bind createRelease_keeps fun _ _ => trivial
  | routing => exact .bind publishSiteRouting_keeps fun _ _ => trivial
  | blacklist => exact .bind changeSourceBlacklist_keeps fun _ _ => trivial
  | subscription => exact .bind publishSubscriptionVersion_keeps fun _ _ => trivial
  | rollback => exact .bind rollbackSiteSubscription_keeps fun _ _ => trivial
  | ack => exact .quiet_bind agentAck_quiet fun _ => trivial

end Handlers

/-! ## Runs -/

/-- How many active releases cover an agent. -/
def activeCount (n : String) (s : Store) : Nat :=
  s.releases.countP fun r => r.status.isActive && decide (n ∈ r.nodeIds)

def AtMostOneActive (s : Store) : Prop := ∀ n, activeCount n s ≤ 1

theorem Settles.activeCount_le {s s' : Store} (h : Settles s s') (n : String) :
    activeCount n s' ≤ activeCount n s := by
  rcases h with ⟨f, hmap, hf⟩
  rw [activeCount, hmap, List.countP_map]
  refine List.countP_mono_left fun r _ hr => ?_
  simp only [Function.comp_apply, Bool.and_eq_true, decide_eq_true_eq] at hr
  have hactive := hf r hr.1
  simp only [Bool.and_eq_true, decide_eq_true_eq]
  exact ⟨hactive.1, hactive.2 ▸ hr.2⟩

theorem activeCount_append (n : String) {s s' : Store} {release : ConfigRelease}
    (h : s'.releases = s.releases ++ [release]) :
    activeCount n s' = activeCount n s +
      if release.status.isActive = true ∧ n ∈ release.nodeIds then 1 else 0 := by
  rw [activeCount, h, List.countP_append, List.countP_singleton]
  simp [activeCount]

/-- The check finds no release: none of the agents is covered. -/
theorem activeCount_of_activeRelease? {s : Store} {agentIds : List String}
    (h : s.activeRelease? agentIds = none) {n : String} (hn : n ∈ agentIds) :
    activeCount n s = 0 := by
  rw [activeCount, List.countP_eq_zero]
  intro r hr hactive
  simp only [Bool.and_eq_true, decide_eq_true_eq] at hactive
  have hblocks := List.find?_eq_none.mp h r hr
  apply hblocks
  simp only [ConfigRelease.blocks, Bool.and_eq_true, List.any_eq_true, decide_eq_true_eq]
  exact ⟨hactive.1, n, hactive.2, hn⟩

variable {ι : Type} [DecidableEq ι]

abbrev RequestPool (ι : Type) := Pool ι Label Store Failure Unit (List String)

/-- All requests of an index type, before any of them has moved. -/
def startRequests (settings : Settings) (requests : ι → Request) (s : Store) : RequestPool ι :=
  { thread := fun i => (requests i).program settings, note := fun _ => [], store := s }

/-- The agents that an operation checks for an active release. -/
def checkedAgents? : Label → Option (List String)
  | .activeRelease agentIds => some agentIds
  | _ => none

/-- A request passes its check only while no other request that is still running has passed its
own for a shared agent without having inserted a release since. -/
def ChecksAlone (p : RequestPool ι) (i : ι) : Prop :=
  ∀ agentIds ∈ (p.thread i).label?.bind checkedAgents?, p.store.activeRelease? agentIds = none →
    ∀ j, j ≠ i → (p.thread j).Running → ∀ n ∈ p.note j, n ∉ agentIds

instance [Fintype ι] (p : RequestPool ι) (i : ι) : Decidable (ChecksAlone p i) :=
  inferInstanceAs (Decidable (∀ agentIds ∈ (p.thread i).label?.bind checkedAgents?, _ → _))

/-- What a request passed its check for is covered by no release and by no other request. -/
structure Guarded (p : RequestPool ι) : Prop where
  atMostOne : AtMostOneActive p.store
  uncovered : ∀ i, (p.thread i).Running → ∀ n ∈ p.note i, activeCount n p.store = 0
  disjoint : ∀ i j, i ≠ j → (p.thread i).Running → (p.thread j).Running →
    ∀ n ∈ p.note i, n ∉ p.note j

/-- A step that changes the note of one thread, seen from all of them. -/
theorem Guarded.step_of {p p' : RequestPool ι} {i : ι} (hp : Guarded p)
    (hthread : ∀ j, j ≠ i → p'.thread j = p.thread j)
    (hnote : ∀ j, j ≠ i → p'.note j = p.note j)
    (hone : AtMostOneActive p'.store)
    (hothers : ∀ j, j ≠ i → (p.thread j).Running → ∀ n ∈ p.note j,
      activeCount n p'.store = 0 ∧ n ∉ p'.note i)
    (hself : ∀ n ∈ p'.note i, activeCount n p'.store = 0) : Guarded p' := by
  refine ⟨hone, ?_, ?_⟩
  · intro j hrunning n hn
    by_cases hj : j = i
    · subst hj
      exact hself n hn
    · rw [hthread j hj] at hrunning
      rw [hnote j hj] at hn
      exact (hothers j hj hrunning n hn).1
  · intro j k hjk hj hk n hn hn'
    by_cases hji : j = i
    · have hki : k ≠ i := fun h => hjk (hji.trans h.symm)
      rw [hthread k hki] at hk
      rw [hnote k hki] at hn'
      rw [hji] at hn
      exact (hothers k hki hk n hn').2 hn
    · rw [hthread j hji] at hj
      rw [hnote j hji] at hn
      by_cases hki : k = i
      · rw [hki] at hn'
        exact (hothers j hji hj n hn).2 hn'
      · rw [hthread k hki] at hk
        rw [hnote k hki] at hn'
        exact hp.disjoint j k hjk hj hk n hn hn'

/-- The note and the store after an operation that inserts no release. -/
theorem Guarded.settle {p : RequestPool ι} {i : ι} {w : Store → Store} {next : Handler Unit}
    {pending : List String} (hp : Guarded p) (hsettles : Settles p.store (w p.store))
    (hothers : ∀ j, j ≠ i → (p.thread j).Running → ∀ m ∈ p.note j, m ∉ pending)
    (hself : ∀ m ∈ pending, activeCount m p.store = 0) :
    Guarded { thread := Function.update p.thread i next
              note := Function.update p.note i pending
              store := w p.store } := by
  have hzero : ∀ m, activeCount m p.store = 0 → activeCount m (w p.store) = 0 := by
    intro m hm
    exact Nat.le_zero.mp (hm ▸ hsettles.activeCount_le m)
  refine hp.step_of (fun j hj => Function.update_of_ne hj _ _)
    (fun j hj => Function.update_of_ne hj _ _) ?_ ?_ ?_
  · intro m
    exact (hsettles.activeCount_le m).trans (hp.atMostOne m)
  · intro j hj hrunning m hm
    refine ⟨hzero m (hp.uncovered j hrunning m hm), ?_⟩
    simpa using hothers j hj hrunning m hm
  · intro m hm
    simp only [Function.update_self] at hm
    exact hzero m (hself m hm)

/-- Inserting a release for agents the request passed its check for. -/
theorem Guarded.insertRelease {p : RequestPool ι} {i : ι} {w : Store → Store}
    {next : Handler Unit} {release : ConfigRelease} (hp : Guarded p)
    (hrunning : (p.thread i).Running) (hnodes : ∀ m ∈ release.nodeIds, m ∈ p.note i)
    (hw : (w p.store).releases = p.store.releases ++ [release]) :
    Guarded { thread := Function.update p.thread i next
              note := Function.update p.note i []
              store := w p.store } := by
  refine hp.step_of (fun j hj => Function.update_of_ne hj _ _)
    (fun j hj => Function.update_of_ne hj _ _) ?_ ?_ ?_
  · intro m
    rw [activeCount_append m hw]
    split
    · rename_i hcovered
      rw [hp.uncovered i hrunning m (hnodes m hcovered.2)]
    · exact hp.atMostOne m
  · intro j hj hj' m hm
    refine ⟨?_, by simp⟩
    rw [activeCount_append m hw, hp.uncovered j hj' m hm, if_neg]
    exact fun hcovered => hp.disjoint j i hj hj' hrunning m hm (hnodes m hcovered.2)
  · simp

theorem guarded_step {p : RequestPool ι} {i : ι} {l : Label} {w : Store → Store}
    {n : Store → Handler Unit} {k : Handler Unit} (hthread : p.thread i = .op l w n k)
    (hallowed : releaseAllowed (p.note i) l p.store (w p.store)) (hcond : ChecksAlone p i)
    (hp : Guarded p) : Guarded (p.step pendingNext i) := by
  have hrunning : (p.thread i).Running := by
    rw [hthread]
    trivial
  -- Operations that leave the note alone.
  have hkeep : Settles p.store (w p.store) → pendingNext (p.note i) l p.store = p.note i →
      Guarded (p.step pendingNext i) := by
    intro hsettles hnote
    rw [Pool.step, hthread]
    dsimp only
    rw [hnote]
    refine hp.settle hsettles (fun j hj hj' m hm => ?_) (hp.uncovered i hrunning)
    exact hp.disjoint j i hj hj' hrunning m hm
  cases l with
  | other => exact hkeep hallowed rfl
  | findTask key => exact hkeep hallowed rfl
  | findRelease taskId => exact hkeep hallowed rfl
  | desired siteId op => exact hkeep hallowed rfl
  | task key op => exact hkeep hallowed rfl
  | activeRelease agentIds =>
      have halone := hcond agentIds (by rw [hthread]; rfl)
      rw [Pool.step, hthread]
      cases hfound : p.store.activeRelease? agentIds with
      | some release =>
          simp only [pendingNext, hfound]
          exact hp.settle hallowed (by simp) (by simp)
      | none =>
          simp only [pendingNext, hfound]
          exact hp.settle hallowed (halone hfound) fun m hm =>
            activeCount_of_activeRelease? hfound hm
  | insertRelease _ =>
      rw [Pool.step, hthread]
      rcases hallowed with hsame | ⟨release, hnodes, hw⟩
      · exact hp.settle (settles_of_eq hsame) (by simp [pendingNext]) (by simp [pendingNext])
      · exact hp.insertRelease hrunning hnodes hw

/-- Any number of requests, interleaved at every operation: as long as the checks are passed
alone, every node has at most one active release. -/
theorem atMostOneActive_run (settings : Settings) (requests : ι → Request) (s : Store)
    (hstart : AtMostOneActive s) (schedule : List ι)
    (hmeets : (startRequests settings requests s).Meets pendingNext ChecksAlone schedule) :
    AtMostOneActive ((startRequests settings requests s).run pendingNext schedule).store := by
  have hrun := Pool.invariant_run pendingNext (fun _ _ => True) releaseAllowed (fun _ _ => True)
    Guarded (fun _ _ _ _ => trivial)
    (fun p i l w n k _ hthread hallowed hcond hp => guarded_step hthread hallowed hcond hp)
    (fun i => (requests i).program_keeps) hmeets
    ⟨hstart, by simp [startRequests], by simp [startRequests]⟩
  exact hrun.1.atMostOne

/-- Two releases of the same node. -/
def twoReleases : Bool → Request
  | false => .fromDraft (sampleDraws "a") (sampleDraft "a") sampleSite [] none "key-a"
  | true => .fromDraft (sampleDraws "b") (sampleDraft "b") sampleSite [] none "key-b"

/-- One request after the other. -/
theorem atMostOneActive_run_serial :
    AtMostOneActive ((startRequests sampleSettings twoReleases sampleStore).run pendingNext
      (List.replicate 30 false ++ List.replicate 30 true)).store := by
  refine atMostOneActive_run _ _ _ ?_ _ ?_
  · intro n
    exact Nat.zero_le 1
  · decide +kernel

/-- The first request stops right after its check, the second runs to its end, and the first
goes on: both releases are active. -/
theorem twoReleases_active :
    ¬ AtMostOneActive ((startRequests sampleSettings twoReleases sampleStore).run pendingNext
      (List.replicate 3 false ++ List.replicate 30 true ++ List.replicate 30 false)).store := by
  intro h
  have htwo : activeCount "north-a" ((startRequests sampleSettings twoReleases sampleStore).run
      pendingNext (List.replicate 3 false ++ List.replicate 30 true ++
        List.replicate 30 false)).store = 2 := by
    decide +kernel
  have hle := h "north-a"
  rw [htwo] at hle
  exact absurd hle (by decide)

end Grouproxy.Backend
