import Mathlib.Data.Fintype.Basic
import Mathlib.Data.List.MinMax
import Mathlib.Data.Prod.Lex
import Grouproxy.Library.FirstMatch
import Grouproxy.Verification.Backend.Frames

/-! # The verdict of a release

Each acknowledgement loads the release, stores itself, reads all acknowledgements and saves its
own copy of the release. The verdict that is saved last has to be the one that read the most.
-/

namespace Grouproxy.Backend

open Text Programs FirstMatch

/-! ## What the acknowledgements say -/

/-- A computable order, written out since the one found for `Int` is not. -/
instance stampPreorder : Preorder (Nat ×ₗ Int) :=
  (Prod.Lex.instLinearOrder Nat Int).toPreorder

/-- The order of acknowledgements: when they were received, then their sequence. -/
def AgentAck.stamp (ack : AgentAck) : Nat ×ₗ Int := toLex (ack.receivedAt, ack.sequence)

/-- The newest acknowledgement of a node; of two with the same stamp, the one stored first. -/
def newestAck? (acks : List AgentAck) (nodeId : String) : Option AgentAck :=
  (acks.filter fun ack => ack.nodeId == nodeId).argmax AgentAck.stamp

/-- Every node has an acknowledgement. -/
def Answered (nodeIds : List String) (acks : List AgentAck) : Prop :=
  ∀ nodeId ∈ nodeIds, ∃ ack ∈ acks, ack.nodeId = nodeId

/-- A release succeeds when the newest acknowledgement of each of its nodes does. -/
def verdict (nodeIds : List String) (acks : List AgentAck) : ReleaseStatus :=
  if ∀ nodeId ∈ nodeIds, ∃ ack ∈ newestAck? acks nodeId, ack.ok = true ∧ ack.healthOk = true then
    .succeeded
  else .failed

theorem AgentAck.newer_iff (item previous : AgentAck) :
    item.newer previous = true ↔ previous.stamp < item.stamp := by
  simp only [newer, stamp, Prod.Lex.toLex_lt_toLex, Bool.or_eq_true, Bool.and_eq_true,
    decide_eq_true_eq, beq_iff_eq]
  constructor
  · rintro (h | ⟨h, hsequence⟩)
    · exact .inl h
    · exact .inr ⟨h.symm, hsequence⟩
  · rintro (h | ⟨h, hsequence⟩)
    · exact .inl h
    · exact .inr ⟨h.symm, hsequence⟩

theorem latestAck?_eq (acks : List AgentAck) (nodeId : String) :
    latestAck? acks nodeId = newestAck? acks nodeId := by
  rw [latestAck?, newestAck?, List.argmax]
  congr 1
  funext latest item
  cases latest with
  | none => rfl
  | some previous =>
      change (if item.newer previous = true then some item else some previous) =
        if previous.stamp < item.stamp then some item else some previous
      simp only [AgentAck.newer_iff]

theorem mem_of_newestAck? {acks : List AgentAck} {nodeId : String} {ack : AgentAck}
    (h : newestAck? acks nodeId = some ack) : ack ∈ acks ∧ ack.nodeId = nodeId := by
  have hmem := List.mem_filter.mp (List.argmax_mem h)
  exact ⟨hmem.1, beq_iff_eq.mp hmem.2⟩

theorem newestAck?_isSome {acks : List AgentAck} {ack : AgentAck} (h : ack ∈ acks) :
    ∃ newest, newestAck? acks ack.nodeId = some newest := by
  cases hnewest : newestAck? acks ack.nodeId with
  | some newest => exact ⟨newest, rfl⟩
  | none =>
      have hnil := List.argmax_eq_none.mp hnewest
      have hmem : ack ∈ acks.filter fun other => other.nodeId == ack.nodeId :=
        List.mem_filter.mpr ⟨h, beq_self_eq_true _⟩
      rw [hnil] at hmem
      cases hmem

theorem mem_latestAckPerNode {acks : List AgentAck} {ack : AgentAck} :
    ack ∈ latestAckPerNode acks ↔ newestAck? acks ack.nodeId = some ack := by
  rw [latestAckPerNode, List.mem_filterMap]
  constructor
  · rintro ⟨nodeId, -, h⟩
    rw [latestAck?_eq] at h
    rw [(mem_of_newestAck? h).2]
    exact h
  · intro h
    refine ⟨ack.nodeId, ?_, by rw [latestAck?_eq, h]⟩
    rw [List.mem_insertionSort]
    have hnode := List.mem_map_of_mem (f := AgentAck.nodeId) (mem_of_newestAck? h).1
    obtain ⟨nodeId, hmem, hsame⟩ := (exists_mem_distinctBy id [] hnode).resolve_left (by simp)
    have hsame : nodeId = ack.nodeId := hsame
    exact hsame ▸ hmem

/-- The check that every node has answered. -/
theorem answered_iff {nodeIds : List String} {acks : List AgentAck} :
    (nodeIds.all fun nodeId => (latestAckPerNode acks).any fun ack => ack.nodeId == nodeId) = true ↔
      Answered nodeIds acks := by
  simp only [List.all_eq_true, List.any_eq_true, beq_iff_eq, Answered]
  constructor
  · intro h nodeId hnode
    obtain ⟨ack, hack, hsame⟩ := h nodeId hnode
    exact ⟨ack, (mem_of_newestAck? (mem_latestAckPerNode.mp hack)).1, hsame⟩
  · intro h nodeId hnode
    obtain ⟨ack, hack, hsame⟩ := h nodeId hnode
    obtain ⟨newest, hnewest⟩ := newestAck?_isSome hack
    have hnodeId : newest.nodeId = ack.nodeId := (mem_of_newestAck? hnewest).2
    refine ⟨newest, mem_latestAckPerNode.mpr ?_, hnodeId.trans hsame⟩
    rw [hnodeId, hnewest]

theorem finishedRelease_frame (release : ConfigRelease) (acks : List AgentAck) :
    (finishedRelease release acks).releaseId = release.releaseId ∧
      (finishedRelease release acks).nodeIds = release.nodeIds := by
  rw [finishedRelease]
  split
  · exact ⟨rfl, rfl⟩
  · exact ⟨rfl, rfl⟩

/-- The newest acknowledgements of the release's own nodes decide how it ends. -/
theorem finishedRelease_verdict {release : ConfigRelease} {acks : List AgentAck}
    (hanswered : Answered release.nodeIds acks) :
    (finishedRelease release (latestAckPerNode acks)).status = verdict release.nodeIds acks := by
  have hall : (((latestAckPerNode acks).filter fun ack => decide (ack.nodeId ∈ release.nodeIds)).all
      AgentAck.succeeded) = true ↔ ∀ nodeId ∈ release.nodeIds,
        ∃ ack ∈ newestAck? acks nodeId, ack.ok = true ∧ ack.healthOk = true := by
    simp only [List.all_eq_true, List.mem_filter, mem_latestAckPerNode, AgentAck.succeeded,
      Bool.and_eq_true, decide_eq_true_eq]
    constructor
    · intro h nodeId hnode
      obtain ⟨ack, hack, rfl⟩ := hanswered nodeId hnode
      obtain ⟨newest, hnewest⟩ := newestAck?_isSome hack
      have hnodeId : newest.nodeId = ack.nodeId := (mem_of_newestAck? hnewest).2
      refine ⟨newest, hnewest, h newest ⟨?_, ?_⟩⟩
      · rw [hnodeId, hnewest]
      · rw [hnodeId]
        exact hnode
    · rintro h ack ⟨hack, hnode⟩
      obtain ⟨newest, hnewest, hsucceeded⟩ := h ack.nodeId hnode
      have hsame : newest = ack := Option.some.inj (hnewest.symm.trans hack)
      exact hsame ▸ hsucceeded
  rw [finishedRelease, verdict]
  by_cases h : ∀ nodeId ∈ release.nodeIds,
      ∃ ack ∈ newestAck? acks nodeId, ack.ok = true ∧ ack.healthOk = true
  · rw [if_pos (hall.mpr h), if_pos h]
  · rw [if_neg (fun hsucceeded => h (hall.mp hsucceeded)), if_neg h]

/-! ## One acknowledgement -/

def Store.release? (s : Store) (releaseId : String) : Option ConfigRelease :=
  s.releases.find? fun release => release.releaseId == releaseId

def Store.acksOf (s : Store) (releaseId : String) : List AgentAck :=
  s.acks.filter fun ack => ack.releaseId == releaseId

/-- What an acknowledgement did so far: how many operations it took, and the acknowledgements of
the release it read. -/
structure AckNote where
  taken : Nat
  read : List AgentAck

/-- The next operation stores the acknowledgement, after the three lookups. -/
def AckNote.Storing (g : AckNote) : Prop := g.taken = 3

/-- It has stored the acknowledgement and not read the others yet. -/
def AckNote.Stored (g : AckNote) : Prop := 4 ≤ g.taken ∧ g.taken ≤ 6

/-- The next operation saves the release. -/
def AckNote.Saving (g : AckNote) : Prop := g.taken = 7

def AckNote.Saved (g : AckNote) : Prop := 8 ≤ g.taken

instance (g : AckNote) : Decidable g.Saving := inferInstanceAs (Decidable (_ = _))

instance (g : AckNote) : Decidable g.Saved := inferInstanceAs (Decidable (_ ≤ _))

def ackNext (releaseId : String) (g : AckNote) (_ : Label) (s : Store) : AckNote :=
  { taken := g.taken + 1, read := if g.taken = 6 then s.acksOf releaseId else g.read }

section Acknowledgement

variable (releaseId : String) (nodeIds : List String)

/-- The release is there, with its nodes. -/
def Covers (s : Store) : Prop :=
  ∃ release, s.release? releaseId = some release ∧ release.nodeIds = nodeIds

/-- What the next operation of an acknowledgement does to the store. -/
inductive AckStep (g : AckNote) (s s' : Store) : Prop where
  | quiet (hstoring : ¬ g.Storing) (hsaving : ¬ g.Saving) (hacks : s'.acks = s.acks)
      (hreleases : s'.releases = s.releases)
  | store (hstoring : g.Storing) (ack : AgentAck) (hacks : s'.acks = s.acks ++ [ack])
      (hreleases : s'.releases = s.releases)
  | save (hsaving : g.Saving) (release : ConfigRelease) (hid : release.releaseId = releaseId)
      (hnodes : release.nodeIds = nodeIds) (hanswered : Answered nodeIds g.read)
      (hstatus : release.status = verdict nodeIds g.read) (hacks : s'.acks = s.acks)
      (hreleases : s'.releases = s.releases.map fun other =>
        if other.releaseId = release.releaseId then release else other)

/-- How an acknowledgement ends: refused, with nodes that have not answered, or after the release
is saved. -/
def AckEnd (g : AckNote) : Prop :=
  g.taken ≤ 3 ∨ (g.Saving ∧ ¬ Answered nodeIds g.read) ∨ g.Saved

/-- The handler takes the operations of an acknowledgement from a note on. -/
abbrev KeepsAccount {α : Type} (g : AckNote) (p : Handler α) : Prop :=
  p.Follows (ackNext releaseId) (fun _ => Covers releaseId nodeIds)
    (fun g _ => AckStep releaseId nodeIds g) (fun g _ => AckEnd nodeIds g) g

variable {releaseId nodeIds}

theorem KeepsAccount.done {α : Type} {g : AckNote} {r : Except Failure α}
    (h : AckEnd nodeIds g) : KeepsAccount releaseId nodeIds g (.done r : Handler α) := h

theorem KeepsAccount.find_bind {α β : Type} {g : AckNote} {query : Store → α}
    {f : α → Handler β} (hstoring : ¬ g.Storing) (hsaving : ¬ g.Saving)
    (hf : ∀ s, Covers releaseId nodeIds s →
      KeepsAccount releaseId nodeIds (ackNext releaseId g .other s) (f (query s))) :
    KeepsAccount releaseId nodeIds g (find .other query >>= f) :=
  fun s hs => ⟨.quiet hstoring hsaving rfl rfl, hf s hs⟩

theorem KeepsAccount.update_bind {β : Type} {g : AckNote} {write : Store → Store}
    {f : Unit → Handler β}
    (hwrite : ∀ s, Covers releaseId nodeIds s → AckStep releaseId nodeIds g s (write s))
    (hf : ∀ s, Covers releaseId nodeIds s →
      KeepsAccount releaseId nodeIds (ackNext releaseId g .other s) (f ())) :
    KeepsAccount releaseId nodeIds g (update .other write >>= f) :=
  fun s hs => ⟨hwrite s hs, hf s hs⟩

/-- After the release is saved only its task is touched. -/
theorem saveTaskStatus_keeps {g : AckNote} (hg : g.Saved) (task : Task) (status : ReleaseStatus) :
    KeepsAccount releaseId nodeIds g (saveTaskStatus task status) := by
  intro s _
  have hsaved : 8 ≤ g.taken := hg
  refine ⟨.quiet ?_ ?_ rfl rfl, .inr (.inr ?_)⟩
  · simp only [AckNote.Storing]
    omega
  · simp only [AckNote.Saving]
    omega
  · simp only [AckNote.Saved, ackNext]
    omega

/-- The verdict is that of the acknowledgements that were read. -/
theorem settleRelease_keeps {g : AckNote} (hg : g.taken = 6) {release : ConfigRelease}
    (hid : release.releaseId = releaseId) (hnodes : release.nodeIds = nodeIds) :
    KeepsAccount releaseId nodeIds g (settleRelease release) := by
  refine KeepsAccount.find_bind (by simp [AckNote.Storing, hg]) (by simp [AckNote.Saving, hg]) ?_
  intro s _
  subst hid hnodes
  -- The note has read what the handler has read.
  have hread : (ackNext release.releaseId g .other s).read = s.acksOf release.releaseId := by
    simp [ackNext, hg]
  have htaken : (ackNext release.releaseId g .other s).taken = 7 := by simp [ackNext, hg]
  change KeepsAccount _ _ _ (if (release.nodeIds.all fun nodeId =>
    (latestAckPerNode (s.acksOf release.releaseId)).any fun ack => ack.nodeId == nodeId) = true
    then _ else _)
  split
  · rename_i hall
    have hanswered : Answered release.nodeIds (s.acksOf release.releaseId) := answered_iff.mp hall
    have hframe := finishedRelease_frame release (latestAckPerNode (s.acksOf release.releaseId))
    refine KeepsAccount.update_bind (fun t _ => ?_) fun t _ => ?_
    · refine .save htaken _ hframe.1 hframe.2 ?_ ?_ rfl rfl
      · rw [hread]
        exact hanswered
      · rw [hread, finishedRelease_verdict hanswered]
    · have hsaved : (ackNext release.releaseId
          (ackNext release.releaseId g .other s) .other t).taken = 8 := by simp [ackNext, hg]
      refine KeepsAccount.find_bind (by simp [AckNote.Storing, hsaved])
        (by simp [AckNote.Saving, hsaved]) ?_
      intro u _
      split
      · refine .done (.inr (.inr ?_))
        simp [AckNote.Saved, ackNext, hg]
      · refine saveTaskStatus_keeps ?_ _ _
        simp [AckNote.Saved, ackNext, hg]
  · rename_i hall
    refine .done (.inr (.inl ⟨htaken, ?_⟩))
    rw [hread]
    exact fun hanswered => hall (answered_iff.mpr hanswered)

theorem agentAck_keeps (receivedAt : Nat) (node : Node) {payload : AgentAck}
    (hpayload : payload.releaseId = releaseId) :
    KeepsAccount releaseId nodeIds ⟨0, []⟩ (agentAck receivedAt node payload) := by
  unfold agentAck reject
  split
  · exact .done (.inl (by simp))
  refine KeepsAccount.find_bind (by simp [AckNote.Storing]) (by simp [AckNote.Saving]) ?_
  intro s _
  split
  · exact .done (.inl (by simp [ackNext]))
  refine KeepsAccount.find_bind (by simp [AckNote.Storing, ackNext])
    (by simp [AckNote.Saving, ackNext]) ?_
  rintro s ⟨release, hrelease, hnodes⟩
  have hfound : (s.releases.find? fun r => r.releaseId == payload.releaseId) = some release := by
    rw [hpayload]
    exact hrelease
  have hid : release.releaseId = releaseId := by
    simpa using List.find?_some hrelease
  rw [hfound]
  dsimp only
  split
  · exact .done (.inl (by simp [ackNext]))
  refine KeepsAccount.find_bind (by simp [AckNote.Storing, ackNext])
    (by simp [AckNote.Saving, ackNext]) ?_
  intro s _
  split
  · exact .done (.inl (by simp [ackNext]))
  split
  · exact .done (.inl (by simp [ackNext]))
  refine KeepsAccount.update_bind (fun t _ => .store (by simp [AckNote.Storing, ackNext]) _ rfl rfl)
    fun t _ => ?_
  refine KeepsAccount.find_bind (by simp [AckNote.Storing, ackNext])
    (by simp [AckNote.Saving, ackNext]) ?_
  intro s _
  refine KeepsAccount.update_bind (fun t _ => .quiet (by simp [AckNote.Storing, ackNext])
    (by simp [AckNote.Saving, ackNext]) rfl rfl) fun t _ => ?_
  exact (settleRelease_keeps (by simp [ackNext]) hid hnodes).bind (fun _ _ hend => hend)
    fun _ _ hend => hend

end Acknowledgement

/-! ## All acknowledgements of a release -/

/-- The release is there, with its nodes, and once all of them have answered it has the verdict
of the stored acknowledgements. -/
def Aggregated (releaseId : String) (nodeIds : List String) (s : Store) : Prop :=
  ∃ release, s.release? releaseId = some release ∧ release.nodeIds = nodeIds ∧
    (Answered nodeIds (s.acksOf releaseId) →
      release.status = verdict nodeIds (s.acksOf releaseId))

/-- A release that no node has answered yet. -/
theorem aggregated_of_unanswered {s : Store} (release : ConfigRelease)
    (hrelease : s.release? release.releaseId = some release) (hnodes : release.nodeIds ≠ [])
    (hacks : s.acksOf release.releaseId = []) :
    Aggregated release.releaseId release.nodeIds s := by
  refine ⟨release, hrelease, rfl, fun hanswered => ?_⟩
  obtain ⟨nodeId, hnode⟩ := List.exists_mem_of_ne_nil _ hnodes
  obtain ⟨ack, hack, -⟩ := hanswered nodeId hnode
  rw [hacks] at hack
  cases hack

theorem Answered.mono {nodeIds : List String} {acks acks' : List AgentAck}
    (h : Answered nodeIds acks) (hsub : acks ⊆ acks') : Answered nodeIds acks' := by
  intro nodeId hnode
  obtain ⟨ack, hack, hsame⟩ := h nodeId hnode
  exact ⟨ack, hsub hack, hsame⟩

theorem release?_saved {s s' : Store} {releaseId : String} {found release : ConfigRelease}
    (hfound : s.release? releaseId = some found) (hid : release.releaseId = releaseId)
    (hreleases : s'.releases = s.releases.map fun other =>
      if other.releaseId = release.releaseId then release else other) :
    s'.release? releaseId = some release := by
  have hkeep : ∀ other : ConfigRelease, ((if other.releaseId = release.releaseId then release
      else other).releaseId == releaseId) = (other.releaseId == releaseId) := by
    intro other
    split
    · rename_i hsame
      rw [hsame]
    · rfl
  have hfoundId : found.releaseId = releaseId := by simpa using List.find?_some hfound
  rw [Store.release?] at hfound
  rw [Store.release?, hreleases, find?_map_keep hkeep, hfound, Option.map_some,
    if_pos (hfoundId.trans hid.symm)]

/-- Acknowledgements are only added, and the release keeps its nodes. -/
theorem AckStep.frame {releaseId : String} {nodeIds : List String} {g : AckNote} {s s' : Store}
    (h : AckStep releaseId nodeIds g s s') (hs : Covers releaseId nodeIds s) :
    s.acksOf releaseId <+: s'.acksOf releaseId ∧ Covers releaseId nodeIds s' := by
  rcases hs with ⟨found, hfound, hcovers⟩
  cases h with
  | quiet _ _ hacks hreleases =>
      refine ⟨by rw [Store.acksOf, Store.acksOf, hacks], found, ?_, hcovers⟩
      rw [Store.release?, hreleases]
      exact hfound
  | store _ ack hacks hreleases =>
      refine ⟨?_, found, ?_, hcovers⟩
      · rw [Store.acksOf, Store.acksOf, hacks, List.filter_append]
        exact List.prefix_append _ _
      · rw [Store.release?, hreleases]
        exact hfound
  | save _ release hid hnodes _ _ hacks hreleases =>
      refine ⟨by rw [Store.acksOf, Store.acksOf, hacks], release, ?_, hnodes⟩
      exact release?_saved hfound hid hreleases

variable {ι : Type} [DecidableEq ι]

abbrev AckPool (ι : Type) := Pool ι Label Store Failure Bool AckNote

structure AckRequest where
  receivedAt : Nat
  node : Node
  payload : AgentAck

/-- All acknowledgements of an index type, before any of them has moved. -/
def startAcks (requests : ι → AckRequest) (s : Store) : AckPool ι :=
  { thread := fun i => agentAck (requests i).receivedAt (requests i).node (requests i).payload
    note := fun _ => ⟨0, []⟩
    store := s }

/-- No acknowledgement saves the release after one that had read more acknowledgements. -/
def SavesInOrder (p : AckPool ι) (i : ι) : Prop :=
  (p.thread i).Running → (p.note i).Saving →
    ∀ j, (p.note j).Saved → (p.note j).read.length ≤ (p.note i).read.length

instance [Fintype ι] (p : AckPool ι) (i : ι) : Decidable (SavesInOrder p i) :=
  inferInstanceAs (Decidable (_ → _ → ∀ _, _ → _))

/-- This acknowledgement is still going to save the verdict of all that are stored. -/
def AwaitsVerdict (releaseId : String) (p : AckPool ι) (j : ι) : Prop :=
  (p.thread j).Running ∧ ((p.note j).Stored ∨
    (p.note j).Saving ∧ (p.note j).read = p.store.acksOf releaseId)

/-- Either somebody is still going to save the verdict of all stored acknowledgements, or the
release has it; then whoever is about to save an older one comes after the one who saved it. -/
def VerdictComes (releaseId : String) (nodeIds : List String) (p : AckPool ι) : Prop :=
  (∃ j, AwaitsVerdict releaseId p j) ∨
    (Aggregated releaseId nodeIds p.store ∧ ∀ i, (p.thread i).Running → (p.note i).Saving →
      ∃ j, (p.note j).Saved ∧ (p.note j).read = p.store.acksOf releaseId)

structure Tracked (releaseId : String) (nodeIds : List String) (p : AckPool ι) : Prop where
  covers : Covers releaseId nodeIds p.store
  reads : ∀ j, 7 ≤ (p.note j).taken → (p.note j).read <+: p.store.acksOf releaseId
  comes : VerdictComes releaseId nodeIds p

section Step

variable {releaseId : String} {nodeIds : List String} {p : AckPool ι} {i : ι} {l : Label}
  {w : Store → Store} {n : Store → Handler Bool} {k : Handler Bool}

theorem Aggregated.of_same {s s' : Store} (h : Aggregated releaseId nodeIds s)
    (hacks : s'.acks = s.acks) (hreleases : s'.releases = s.releases) :
    Aggregated releaseId nodeIds s' := by
  rw [Aggregated, Store.release?, Store.acksOf, hacks, hreleases]
  exact h

omit [DecidableEq ι] in
/-- Nobody is about to save before all nodes have answered. -/
theorem not_saving_of_unanswered {p : AckPool ι} (hp : Covers releaseId nodeIds p.store)
    (hreads : ∀ j, 7 ≤ (p.note j).taken → (p.note j).read <+: p.store.acksOf releaseId)
    (hfollow : p.Follow (ackNext releaseId) (fun _ => Covers releaseId nodeIds)
      (fun g _ => AckStep releaseId nodeIds g) (fun g _ => AckEnd nodeIds g))
    (hunanswered : ¬ Answered nodeIds (p.store.acksOf releaseId)) {j : ι}
    (hrunning : (p.thread j).Running) : ¬ (p.note j).Saving := by
  intro hsaving
  have hj := hfollow j
  cases hthread : p.thread j with
  | done r =>
      rw [hthread] at hrunning
      exact hrunning
  | op l w n k =>
      rw [hthread] at hj
      cases (hj p.store hp).1 with
      | quiet _ hnot => exact hnot hsaving
      | store hstoring =>
          simp only [AckNote.Saving, AckNote.Storing] at hsaving hstoring
          omega
      | save _ release _ _ hanswered =>
          have hearlier := hreads j (le_of_eq hsaving.symm)
          exact hunanswered (hanswered.mono hearlier.subset)

omit [DecidableEq ι] in
/-- An acknowledgement that has not come to an end of its account is running. -/
theorem running_of_not_end {p : AckPool ι}
    (hfollow : p.Follow (ackNext releaseId) (fun _ => Covers releaseId nodeIds)
      (fun g _ => AckStep releaseId nodeIds g) (fun g _ => AckEnd nodeIds g))
    (hend : ¬ AckEnd nodeIds (p.note i)) : (p.thread i).Running := by
  have hi := hfollow i
  cases hthread : p.thread i with
  | op l w n k => trivial
  | done r =>
      rw [hthread] at hi
      exact hend hi

theorem AwaitsVerdict.step_of_ne {j : ι} (h : AwaitsVerdict releaseId p j) (hj : j ≠ i)
    (hacks : (p.step (ackNext releaseId) i).store.acksOf releaseId = p.store.acksOf releaseId) :
    AwaitsVerdict releaseId (p.step (ackNext releaseId) i) j := by
  rw [AwaitsVerdict, Pool.step_thread_of_ne p hj, Pool.step_note_of_ne p hj, hacks]
  exact h

/-- An operation outside the account: before the acknowledgement is stored, or after the release
is saved. -/
theorem verdictComes_of_outside (hp : Tracked releaseId nodeIds p)
    (hthread : p.thread i = .op l w n k) (hacks : (w p.store).acks = p.store.acks)
    (hreleases : (w p.store).releases = p.store.releases)
    (houtside : (p.note i).taken ≤ 2 ∨ (p.note i).Saved) :
    VerdictComes releaseId nodeIds (p.step (ackNext releaseId) i) := by
  have hstore : (p.step (ackNext releaseId) i).store.acksOf releaseId =
      p.store.acksOf releaseId := by
    rw [Pool.step_store hthread, Store.acksOf, hacks, Store.acksOf]
  have hnote : (p.step (ackNext releaseId) i).note i = ackNext releaseId (p.note i) l p.store :=
    Pool.step_note_self hthread
  rcases hp.comes with ⟨j, hj⟩ | ⟨haggregated, hsaving⟩
  · refine .inl ⟨j, hj.step_of_ne ?_ hstore⟩
    rintro rfl
    rcases hj.2 with hstored | ⟨hsaving, -⟩
    · simp only [AckNote.Stored, AckNote.Saved] at hstored houtside
      omega
    · simp only [AckNote.Saving, AckNote.Saved] at hsaving houtside
      omega
  · refine .inr ⟨?_, fun j hrunning hj => ?_⟩
    · rw [Pool.step_store hthread]
      exact haggregated.of_same hacks hreleases
    · have hne : j ≠ i := by
        rintro rfl
        rw [hnote] at hj
        simp only [AckNote.Saving, AckNote.Saved, ackNext] at hj houtside
        omega
      rw [Pool.step_thread_of_ne p hne] at hrunning
      rw [Pool.step_note_of_ne p hne] at hj
      obtain ⟨k, hk, hread⟩ := hsaving j hrunning hj
      refine ⟨k, ?_⟩
      rw [hstore]
      by_cases hki : k = i
      · subst hki
        rw [hnote]
        simp only [AckNote.Saved, ackNext] at hk ⊢
        refine ⟨by omega, ?_⟩
        rw [if_neg (by omega)]
        exact hread
      · rw [Pool.step_note_of_ne p hki]
        exact ⟨hk, hread⟩

/-- Saving the verdict of everything that is stored settles the release; an older verdict is
saved only while somebody else is going to save the newest. -/
theorem verdictComes_of_save (hp : Tracked releaseId nodeIds p)
    (hthread : p.thread i = .op l w n k) (hsaving : (p.note i).Saving) {release : ConfigRelease}
    (hstatus : release.status = verdict nodeIds (p.note i).read)
    (hnodes : release.nodeIds = nodeIds)
    (hfound : (w p.store).release? releaseId = some release)
    (hacks : (w p.store).acks = p.store.acks) (hcond : SavesInOrder p i) :
    VerdictComes releaseId nodeIds (p.step (ackNext releaseId) i) := by
  have hrunning : (p.thread i).Running := by
    rw [hthread]
    trivial
  have hstore : (p.step (ackNext releaseId) i).store.acksOf releaseId =
      p.store.acksOf releaseId := by
    rw [Pool.step_store hthread, Store.acksOf, hacks, Store.acksOf]
  have hnote : (p.step (ackNext releaseId) i).note i = ackNext releaseId (p.note i) l p.store :=
    Pool.step_note_self hthread
  have hearlier := hp.reads i (le_of_eq hsaving.symm)
  have hseven : (p.note i).taken = 7 := hsaving
  by_cases hall : (p.note i).read = p.store.acksOf releaseId
  · refine .inr ⟨⟨release, ?_, hnodes, fun _ => ?_⟩, fun j _ _ => ⟨i, ?_⟩⟩
    · rw [Pool.step_store hthread]
      exact hfound
    · rw [hstore, ← hall]
      exact hstatus
    · rw [hstore, hnote]
      simp [AckNote.Saved, ackNext, hseven, hall]
  · -- The verdict is older than what is stored.
    have hshort : (p.note i).read.length < (p.store.acksOf releaseId).length := by
      refine lt_of_le_of_ne hearlier.length_le fun hlength => ?_
      exact hall (hearlier.eq_of_length hlength)
    rcases hp.comes with ⟨j, hj⟩ | ⟨-, hsaved⟩
    · refine .inl ⟨j, hj.step_of_ne ?_ hstore⟩
      rintro rfl
      rcases hj.2 with hstored | ⟨-, hread⟩
      · simp only [AckNote.Stored] at hstored
        omega
      · exact hall hread
    · obtain ⟨j, hj, hread⟩ := hsaved i hrunning hsaving
      have hle := hcond hrunning hsaving j hj
      rw [hread] at hle
      omega

/-- What an acknowledgement has read is stored, and stays stored. -/
theorem reads_step (hp : Tracked releaseId nodeIds p) (hthread : p.thread i = .op l w n k)
    (hallowed : AckStep releaseId nodeIds (p.note i) p.store (w p.store)) (j : ι)
    (hj : 7 ≤ ((p.step (ackNext releaseId) i).note j).taken) :
    ((p.step (ackNext releaseId) i).note j).read <+:
      (p.step (ackNext releaseId) i).store.acksOf releaseId := by
  have hframe := (hallowed.frame hp.covers).1
  rw [Pool.step_store hthread]
  by_cases hji : j = i
  · subst hji
    rw [Pool.step_note_self hthread] at hj ⊢
    simp only [ackNext] at hj ⊢
    split
    · exact hframe
    · exact (hp.reads j (by omega)).trans hframe
  · rw [Pool.step_note_of_ne p hji] at hj ⊢
    exact (hp.reads j hj).trans hframe

theorem tracked_step (hthread : p.thread i = .op l w n k)
    (hfollow : (p.step (ackNext releaseId) i).Follow (ackNext releaseId)
      (fun _ => Covers releaseId nodeIds) (fun g _ => AckStep releaseId nodeIds g)
      (fun g _ => AckEnd nodeIds g))
    (hallowed : AckStep releaseId nodeIds (p.note i) p.store (w p.store))
    (hcond : SavesInOrder p i) (hp : Tracked releaseId nodeIds p) :
    Tracked releaseId nodeIds (p.step (ackNext releaseId) i) := by
  have hcovers : Covers releaseId nodeIds (p.step (ackNext releaseId) i).store := by
    rw [Pool.step_store hthread]
    exact (hallowed.frame hp.covers).2
  have hreads := reads_step hp hthread hallowed
  have hnote : (p.step (ackNext releaseId) i).note i = ackNext releaseId (p.note i) l p.store :=
    Pool.step_note_self hthread
  -- After storing its acknowledgement a handler is running until it has read all of them.
  have hstored : ((p.step (ackNext releaseId) i).note i).Stored →
      AwaitsVerdict releaseId (p.step (ackNext releaseId) i) i := by
    intro hstored
    refine ⟨running_of_not_end hfollow ?_, .inl hstored⟩
    simp only [AckEnd, AckNote.Saving, AckNote.Saved, AckNote.Stored] at hstored ⊢
    omega
  refine ⟨hcovers, hreads, ?_⟩
  cases hallowed with
  | store hstoring ack hacks hreleases =>
      refine .inl ⟨i, hstored ?_⟩
      simp only [AckNote.Storing] at hstoring
      simp [hnote, AckNote.Stored, ackNext, hstoring]
  | save hsaving release hid hnodes hanswered hstatus hacks hreleases =>
      obtain ⟨found, hfound, -⟩ := hp.covers
      exact verdictComes_of_save hp hthread hsaving hstatus hnodes
        (release?_saved hfound hid hreleases) hacks hcond
  | quiet hstoring hsaving hacks hreleases =>
      simp only [AckNote.Storing, AckNote.Saving] at hstoring hsaving
      by_cases houtside : (p.note i).taken ≤ 2 ∨ (p.note i).Saved
      · exact verdictComes_of_outside hp hthread hacks hreleases houtside
      · simp only [AckNote.Saved] at houtside
        by_cases hsix : (p.note i).taken = 6
        · -- It reads the acknowledgements: either it goes on to save, or some node is missing.
          have hread : ((p.step (ackNext releaseId) i).note i).read =
              (p.step (ackNext releaseId) i).store.acksOf releaseId := by
            rw [hnote, Pool.step_store hthread, Store.acksOf, hacks]
            simp [ackNext, hsix, Store.acksOf]
          have hseven : ((p.step (ackNext releaseId) i).note i).Saving := by
            simp [hnote, AckNote.Saving, ackNext, hsix]
          by_cases hanswered : Answered nodeIds
              ((p.step (ackNext releaseId) i).store.acksOf releaseId)
          · refine .inl ⟨i, running_of_not_end hfollow ?_, .inr ⟨hseven, hread⟩⟩
            rw [AckEnd, hread]
            simp only [AckNote.Saving, AckNote.Saved] at hseven ⊢
            rintro (h | ⟨-, h⟩ | h)
            · omega
            · exact h hanswered
            · omega
          · obtain ⟨release, hfound, hnodes⟩ := hcovers
            refine .inr ⟨⟨release, hfound, hnodes, fun h => absurd h hanswered⟩, ?_⟩
            intro j hrunning hj
            exact absurd hj (not_saving_of_unanswered ⟨release, hfound, hnodes⟩ hreads hfollow
              hanswered hrunning)
        · refine .inl ⟨i, hstored ?_⟩
          simp only [hnote, AckNote.Stored, ackNext]
          omega

end Step

/-- Any number of acknowledgements of a release, interleaved at every operation: as long as they
save the release in the order in which they read, the release has the verdict of the newest
acknowledgement of every node once they all have ended. -/
theorem agentAcks_aggregate (requests : ι → AckRequest) {releaseId : String}
    (hrequests : ∀ i, (requests i).payload.releaseId = releaseId) {nodeIds : List String}
    {s : Store} (hstart : Aggregated releaseId nodeIds s) (schedule : List ι)
    (hmeets : (startAcks requests s).Meets (ackNext releaseId) SavesInOrder schedule)
    (hdone : ∀ i, ¬ (((startAcks requests s).run (ackNext releaseId) schedule).thread i).Running) :
    Aggregated releaseId nodeIds ((startAcks requests s).run (ackNext releaseId) schedule).store := by
  have hcovers : Covers releaseId nodeIds s := by
    rcases hstart with ⟨release, hfound, hnodes, -⟩
    exact ⟨release, hfound, hnodes⟩
  have hrun := Pool.invariant_run (ackNext releaseId) (fun _ => Covers releaseId nodeIds)
    (fun g _ => AckStep releaseId nodeIds g) (fun g _ => AckEnd nodeIds g)
    (Tracked releaseId nodeIds) (fun p _ hp _ => hp.covers)
    (fun p i l w n k hfollow hthread hallowed hcond hp =>
      tracked_step hthread hfollow hallowed hcond hp)
    (fun i => agentAck_keeps _ _ (hrequests i)) hmeets
    ⟨hcovers, by simp [startAcks], .inr ⟨hstart, by simp [startAcks, AckNote.Saving]⟩⟩
  rcases hrun.1.comes with ⟨j, hrunning, -⟩ | ⟨haggregated, -⟩
  · exact absurd hrunning (hdone j)
  · exact haggregated

def twoNodeRelease : ConfigRelease :=
  { releaseId := "release-1", siteId := "north", nodeIds := ["north-a", "north-b"]
    changeCategories := [], previousReleaseId := none, taskId := "task-1", status := .applying
    error := "", rollbackReason := "" }

/-- A release of two nodes that nobody has answered. -/
def twoNodeStore : Store :=
  { Store.empty with
    releases := [twoNodeRelease]
    desired := [⟨"release-1", "north-a", "north", 3, 1, "hash-a", [], none⟩,
      ⟨"release-1", "north-b", "north", 3, 1, "hash-b", [], none⟩] }

def sampleAck (nodeId bundleHash : String) (ok : Bool) (sequence : Int) (receivedAt : Nat) :
    AgentAck :=
  ⟨nodeId, "release-1", 3, 3, bundleHash, bundleHash, ok, ok, false, false, "", "", sequence,
    receivedAt⟩

/-- The first node fails and succeeds when it tries again; the second succeeds. -/
def retriedAcks : Fin 3 → AckRequest
  | 0 => ⟨10, ⟨"1", "north", "north-a", "0.7.0", sampleNode.agentId_ne⟩, sampleAck "north-a" "hash-a" false 1 10⟩
  | 1 => ⟨11, ⟨"2", "north", "north-b", "0.7.0", northB_ne⟩, sampleAck "north-b" "hash-b" true 1 11⟩
  | 2 => ⟨12, ⟨"1", "north", "north-a", "0.7.0", sampleNode.agentId_ne⟩, sampleAck "north-a" "hash-a" true 2 12⟩

/-- Each acknowledgement ends before the next one starts. -/
def oneAfterTheOther : List (Fin 3) :=
  List.replicate 7 0 ++ List.replicate 10 1 ++ List.replicate 10 2

/-- The second node reads the acknowledgements and stops right before it saves; meanwhile the
first node tries again. -/
def overtaken : List (Fin 3) :=
  List.replicate 7 0 ++ List.replicate 7 1 ++ List.replicate 10 2 ++ List.replicate 3 1

theorem agentAcks_aggregate_serial :
    Aggregated "release-1" ["north-a", "north-b"]
      ((startAcks retriedAcks twoNodeStore).run (ackNext "release-1") oneAfterTheOther).store := by
  refine agentAcks_aggregate retriedAcks (by decide) ?_ _ (by decide) (by decide)
  exact aggregated_of_unanswered twoNodeRelease rfl (by decide) rfl

/-- All acknowledgements have ended and the newest of both nodes succeeded, but the release has
failed. -/
theorem overtaken_release_fails :
    (∀ i, ¬ (((startAcks retriedAcks twoNodeStore).run (ackNext "release-1") overtaken).thread
      i).Running) ∧
    ¬ Aggregated "release-1" ["north-a", "north-b"]
      ((startAcks retriedAcks twoNodeStore).run (ackNext "release-1") overtaken).store := by
  refine ⟨by decide, ?_⟩
  rintro ⟨release, hfound, -, hverdict⟩
  have hanswered : Answered ["north-a", "north-b"] (((startAcks retriedAcks twoNodeStore).run
      (ackNext "release-1") overtaken).store.acksOf "release-1") := by
    rw [← answered_iff]
    decide
  have hsucceeded : verdict ["north-a", "north-b"] (((startAcks retriedAcks twoNodeStore).run
      (ackNext "release-1") overtaken).store.acksOf "release-1") = .succeeded := by
    decide
  have hfailed : (((startAcks retriedAcks twoNodeStore).run (ackNext "release-1")
      overtaken).store.release? "release-1").map ConfigRelease.status = some .failed := by
    decide
  rw [hfound, Option.map_some, hverdict hanswered, hsucceeded] at hfailed
  cases hfailed

end Grouproxy.Backend
