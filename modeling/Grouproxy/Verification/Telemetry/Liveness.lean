import Mathlib.Data.Fintype.Basic
import Grouproxy.Model.Liveness

/-! # The liveness sweep takes no heartbeat back

Sweeps and the handlers of agents, interleaved at every operation, while time passes. A sweep marks
a node offline by what its own copy says. The stored node says the same, and names the latest
heartbeat of the node, as long as no handler saves an old copy over a newer document.
-/

namespace Grouproxy.Liveness

open Programs Collections Backend Document

/-! ## What the operations do -/

/-- The operations of the agents' handlers, and of time. -/
inductive AgentStep : LiveLabel → LiveStore → LiveStore → Prop where
  | quiet {s s' : LiveStore} (hnodes : s'.nodes = s.nodes) (hclock : s.clock ≤ s'.clock) :
      AgentStep .other s s'
  | save {node : Node} {received : Option Nat} {s : LiveStore}
      (hreceived : ∀ time ∈ received, node.lastSeenAt = some time) :
      AgentStep (.agent node received) s (s.saveNode node)

/-- A sweep notes the clock at which it has computed its cutoff. -/
def liveNext : Nat → LiveLabel → LiveStore → Nat
  | _, .cutoff, s => s.clock
  | g, _, _ => g

inductive LiveStep : Nat → LiveLabel → LiveStore → LiveStore → Prop where
  | agent {g : Nat} {l : LiveLabel} {s s' : LiveStore} (h : AgentStep l s s') : LiveStep g l s s'
  | cutoff {g : Nat} {s : LiveStore} : LiveStep g .cutoff s s
  | sweep {g seen : Nat} {node : Node} {s : LiveStore} (hseen : node.lastSeenAt = some seen)
      (hold : seen + livenessTimeout < g) :
      LiveStep g (.sweep node) s (s.saveNode node.markedOffline)

theorem LiveStep.clock_le {g : Nat} {l : LiveLabel} {s s' : LiveStore} (h : LiveStep g l s s') :
    s.clock ≤ s'.clock := by
  cases h with
  | agent h =>
      cases h with
      | quiet _ hclock => exact hclock
      | save => exact Nat.le_refl _
  | cutoff => exact Nat.le_refl _
  | sweep => exact Nat.le_refl _

section Handlers

variable {α β : Type}

/-- Every operation is one of an agent's handler. -/
abbrev OfAgents (p : LiveHandler α) : Prop := p.Uses AgentStep

theorem find_ofAgents {query : LiveStore → α} {f : α → LiveHandler β}
    (hf : ∀ a, OfAgents (f a)) : OfAgents (find query >>= f) :=
  .read_bind (fun _ => .quiet rfl (Nat.le_refl _)) fun _ => hf _

theorem update_ofAgents {write : LiveStore → LiveStore} {f : Unit → LiveHandler β}
    (hnodes : ∀ s, (write s).nodes = s.nodes) (hclock : ∀ s, s.clock ≤ (write s).clock)
    (hf : OfAgents (f ())) : OfAgents (update write >>= f) :=
  .write_bind (fun s => .quiet (hnodes s) (hclock s)) hf

theorem insert_ofAgents {taken : LiveStore → Bool} {write : LiveStore → LiveStore}
    (hnodes : ∀ s, (write s).nodes = s.nodes) (hclock : ∀ s, s.clock ≤ (write s).clock) :
    OfAgents (insert taken write) := by
  refine .atomic fun s => ?_
  split
  · exact .quiet rfl (Nat.le_refl _)
  · exact .quiet (hnodes s) (hclock s)

theorem saveAgent_ofAgents {node : Node} {received : Option Nat} {f : Unit → LiveHandler β}
    (hreceived : ∀ time ∈ received, node.lastSeenAt = some time) (hf : OfAgents (f ())) :
    OfAgents (saveAgent node received >>= f) :=
  .write_bind (fun _ => .save hreceived) hf

theorem reject_ofAgents {condition : Prop} [Decidable condition] {failure : Failure}
    {f : Unit → LiveHandler β} (hf : OfAgents (f ())) :
    OfAgents (reject condition failure >>= f) :=
  .reject_bind hf

theorem inBackend_ofAgents (p : Backend.Handler α) : OfAgents (inBackend p) :=
  Prog.uses_within (fun _ _ _ => .quiet rfl (Nat.le_refl _)) p

theorem inTasks_ofAgents (p : Tasks.TaskHandler α) : OfAgents (inTasks p) :=
  Prog.uses_within (fun _ _ _ => .quiet rfl (Nat.le_refl _)) p

theorem requireAgent_ofAgents (tokenHash : Option String) : OfAgents (requireAgent tokenHash) := by
  cases tokenHash with
  | none => exact .done
  | some tokenHash =>
      refine find_ofAgents fun node => ?_
      cases node with
      | none => exact .done
      | some node => exact .done

theorem saveAlert_ofAgents {alert : Alert} {f : Unit → LiveHandler β} (hf : OfAgents (f ())) :
    OfAgents (saveAlert alert >>= f) :=
  update_ofAgents (fun _ => rfl) (fun _ => Nat.le_refl _) hf

theorem setAlert_ofAgents (request : AlertRequest) : OfAgents (setAlert request) := by
  refine find_ofAgents fun current => find_ofAgents fun existing => ?_
  cases existing with
  | none =>
      dsimp only
      split
      · exact .bind (insert_ofAgents (fun _ => rfl) fun _ => Nat.le_refl _) fun _ => .done
      · exact .done
  | some existing =>
      dsimp only
      split
      · exact saveAlert_ofAgents .done
      · split
        · exact saveAlert_ofAgents .done
        · exact .done

theorem setAlerts_ofAgents (requests : List AlertRequest) : OfAgents (setAlerts requests) := by
  induction requests with
  | nil => exact .done
  | cons request rest ih => exact .bind (setAlert_ofAgents request) fun _ => ih

theorem syncNodeAlerts_ofAgents (node : Node) : OfAgents (syncNodeAlerts node) :=
  setAlerts_ofAgents _

theorem recordHeartbeat_ofAgents (previous : Option HeartbeatLatest) (latest : HeartbeatLatest) :
    OfAgents (recordHeartbeat previous latest) := by
  cases previous with
  | none => exact insert_ofAgents (fun _ => rfl) fun _ => Nat.le_refl _
  | some previous => exact .atomic fun _ => .quiet rfl (Nat.le_refl _)

/-- A heartbeat saves the time at which it was received. -/
theorem agentHeartbeat_ofAgents (tokenHash : Option String) (poll : Tasks.ProbePoll)
    (payload : AgentHeartbeat) : OfAgents (agentHeartbeat tokenHash poll payload) := by
  refine .bind (requireAgent_ofAgents tokenHash) fun node => reject_ofAgents ?_
  refine find_ofAgents fun previous => ?_
  split
  · exact .done
  · refine find_ofAgents fun received => find_ofAgents fun desired => ?_
    refine .bind (recordHeartbeat_ofAgents _ _) fun _ => ?_
    refine update_ofAgents (fun _ => rfl) (fun _ => Nat.le_refl _) ?_
    refine saveAgent_ofAgents (fun time htime => ?_) ?_
    · rw [← Option.mem_some.mp htime]
      rfl
    · refine .bind (syncNodeAlerts_ofAgents _) fun _ => ?_
      exact .bind (inTasks_ofAgents _) fun _ => .done

theorem agentConnections_ofAgents (tokenHash : Option String) (payload : AgentConnectionBatch) :
    OfAgents (agentConnections tokenHash payload) := by
  refine .bind (requireAgent_ofAgents tokenHash) fun node => reject_ofAgents ?_
  refine .bind (inBackend_ofAgents _) fun accepted => ?_
  split
  · split
    · exact .done
    · refine update_ofAgents (fun _ => rfl) (fun _ => Nat.le_refl _) ?_
      exact saveAgent_ofAgents (fun time htime => nomatch htime) .done
  · exact .done

theorem agentAck_ofAgents (tokenHash : Option String) (payload : AgentAck) :
    OfAgents (agentAck tokenHash payload) := by
  refine .bind (requireAgent_ofAgents tokenHash) fun node => reject_ofAgents ?_
  refine find_ofAgents fun previous => ?_
  split
  · exact .done
  · refine find_ofAgents fun release => ?_
    cases release with
    | none => exact .done
    | some release =>
        refine reject_ofAgents (find_ofAgents fun desired => ?_)
        cases desired with
        | none => exact .done
        | some desired =>
            refine reject_ofAgents (find_ofAgents fun receivedAt => ?_)
            refine update_ofAgents (fun _ => rfl) (fun _ => Nat.le_refl _) ?_
            refine find_ofAgents fun current => find_ofAgents fun failedAt => ?_
            refine find_ofAgents fun reloadedAt => ?_
            refine saveAgent_ofAgents (fun time htime => nomatch htime) ?_
            refine .bind (syncNodeAlerts_ofAgents _) fun _ => ?_
            exact .bind (inBackend_ofAgents _) fun _ => .done

end Handlers

/-! ## Any number of sweeps and agents -/

inductive LiveParty where
  | sweep
  | heartbeat (tokenHash : Option String) (poll : Tasks.ProbePoll) (payload : AgentHeartbeat)
  | connections (tokenHash : Option String) (payload : AgentConnectionBatch)
  | ack (tokenHash : Option String) (payload : AgentAck)
  | time (passes : List Nat)

def passTime : List Nat → LiveHandler Unit
  | [] => return ()
  | milliseconds :: rest => do
    update fun s => { s with clock := s.clock + milliseconds }
    passTime rest

def LiveParty.program : LiveParty → LiveHandler Unit
  | .sweep => refreshLiveness
  | .heartbeat tokenHash poll payload => do
    let _ ← agentHeartbeat tokenHash poll payload
    return ()
  | .connections tokenHash payload => do
    let _ ← agentConnections tokenHash payload
    return ()
  | .ack tokenHash payload => do
    let _ ← agentAck tokenHash payload
    return ()
  | .time passes => passTime passes

section Parties

variable {α : Type}

/-- Whatever others do between its operations, while the clock does not go back. -/
abbrev TakesLiveSteps (g : Nat) (p : LiveHandler α) : Prop :=
  p.Follows liveNext (fun g s => g ≤ s.clock) LiveStep (fun g' _ => g' = g) g

theorem OfAgents.takesLiveSteps {p : LiveHandler α} (h : OfAgents p) (g : Nat) :
    TakesLiveSteps g p :=
  h.follows fun l s s' hstep => ⟨.agent hstep, by cases hstep <;> rfl⟩

theorem passTime_ofAgents (passes : List Nat) : OfAgents (passTime passes) := by
  induction passes with
  | nil => exact .done
  | cons milliseconds rest ih =>
      exact update_ofAgents (fun _ => rfl) (fun _ => Nat.le_add_right _ _) ih

/-- The sweep marks the copies whose last heartbeat is older than the timeout at its cutoff. -/
theorem sweepNodes_takesLiveSteps (g : Nat) (nodes : List Node) :
    TakesLiveSteps g (sweepNodes (g - livenessTimeout) nodes) := by
  induction nodes with
  | nil => exact .done rfl
  | cons node rest ih =>
      have hrest : ∀ node, TakesLiveSteps g (do
          syncNodeAlerts node
          sweepNodes (g - livenessTimeout) rest) := by
        intro node
        refine .bind ((syncNodeAlerts_ofAgents node).takesLiveSteps g) (fun g' _ hg => ?_)
          fun g' e hg => hg
        rw [hg]
        exact ih
      rw [sweepNodes]
      split
      · rename_i hmissed
        obtain ⟨hseen, -⟩ := Bool.and_eq_true_iff.mp hmissed
        obtain ⟨seen, hseen, hbefore⟩ := (Option.any_eq_true _ _).mp hseen
        have hold : seen + livenessTimeout < g := by
          have hbefore := of_decide_eq_true hbefore
          omega
        exact .write_bind (fun s _ => .sweep hseen hold) fun s _ => hrest node.markedOffline
      · exact hrest node

theorem LiveParty.program_follows (party : LiveParty) :
    party.program.Follows liveNext (fun g s => g ≤ s.clock) LiveStep (fun _ _ => True) 0 := by
  have hagents : ∀ {p : LiveHandler Unit}, OfAgents p →
      p.Follows liveNext (fun g s => g ≤ s.clock) LiveStep (fun _ _ => True) 0 :=
    fun hp => (hp.takesLiveSteps 0).mono fun _ _ _ => trivial
  cases party with
  | sweep =>
      refine .read_bind (fun s _ => .cutoff) fun s _ => ?_
      refine .read_bind (fun s _ => .agent (.quiet rfl (Nat.le_refl _))) fun s' _ => ?_
      exact (sweepNodes_takesLiveSteps s.clock s'.nodes.docs).mono fun _ _ _ => trivial
  | heartbeat tokenHash poll payload =>
      exact hagents (.bind (agentHeartbeat_ofAgents tokenHash poll payload) fun _ => .done)
  | connections tokenHash payload =>
      exact hagents (.bind (agentConnections_ofAgents tokenHash payload) fun _ => .done)
  | ack tokenHash payload =>
      exact hagents (.bind (agentAck_ofAgents tokenHash payload) fun _ => .done)
  | time passes => exact hagents (passTime_ofAgents passes)

end Parties

/-! ## The latest heartbeats -/

variable {ι : Type} [DecidableEq ι]

abbrev LivePool (ι : Type) := Pool ι LiveLabel LiveStore LiveError Unit Nat

def startLive (parties : ι → LiveParty) (s : LiveStore) : LivePool ι where
  thread i := (parties i).program
  note _ := 0
  store := s

/-- When the heartbeats were received that have refreshed a node, the latest for every node. -/
abbrev Heartbeats := String → Option Nat

def Heartbeats.process (latest : Heartbeats) (id : String) (received : Nat) : Heartbeats :=
  Function.update latest id (some (max received ((latest id).getD received)))

def heartbeatStep (p : LivePool ι) (i : ι) (latest : Heartbeats) : Heartbeats :=
  match (p.thread i).label? with
  | some (.agent node (some received)) => latest.process node.id received
  | _ => latest

/-- The heartbeats before the run are those that the documents name. -/
def LiveStore.heartbeatsSeen (s : LiveStore) : Heartbeats :=
  fun id => (s.nodes.get? id).bind Node.lastSeenAt

/-- The latest heartbeats after a run. -/
def heartbeatsOf (parties : ι → LiveParty) (s : LiveStore) (schedule : List ι) : Heartbeats :=
  (startLive parties s).tally liveNext heartbeatStep s.heartbeatsSeen schedule

/-- A document is as it was, but for its liveness status. -/
def OnlyLiveness (before after : Option Node) : Prop :=
  ∃ status, after = before.map fun node => { node with livenessStatus := status }

/-- A save of the node with an identifier leaves it offline only if its latest heartbeat is old, and
changes no other field of any node. -/
structure KeepsHeartbeats (latest : Heartbeats) (before after : LiveStore) (id : String) : Prop where
  offline : ∀ stored, after.nodes.get? id = some stored → stored.livenessStatus = "offline" →
    ∀ received ∈ latest id, received + livenessTimeout ≤ before.clock
  fields : ∀ other, OnlyLiveness (before.nodes.get? other) (after.nodes.get? other)

/-- The node that a sweep saves is stored as the sweep has read it, up to its liveness status, and
an agent's handler saves no copy that has seen less than the stored node. -/
def SavesCurrent (p : LivePool ι) (i : ι) : Prop :=
  match (p.thread i).label? with
  | some (.sweep node) => ∃ stored ∈ p.store.nodes.get? node.id,
      stored = { node with livenessStatus := stored.livenessStatus }
  | some (.agent node _) => ∀ stored ∈ p.store.nodes.get? node.id, ∀ seen ∈ stored.lastSeenAt,
      ∃ own ∈ node.lastSeenAt, seen ≤ own
  | _ => True

instance (p : LivePool ι) (i : ι) : Decidable (SavesCurrent p i) := by
  rw [SavesCurrent]
  split <;> infer_instance

section Step

variable {s : LiveStore} {latest : Heartbeats} {node stored : Node} {id : String}
  {received time : Nat}

theorem Heartbeats.process_self (latest : Heartbeats) (id : String) (received : Nat) :
    latest.process id received id = some (max received ((latest id).getD received)) :=
  Function.update_self _ _ _

theorem Heartbeats.process_of_ne {other : String} (h : other ≠ id) :
    latest.process id received other = latest other :=
  Function.update_of_ne h _ _

/-- The stored node names a heartbeat that is not older. -/
def SeenSince (s : LiveStore) (id : String) (time : Nat) : Prop :=
  ∃ stored, s.nodes.get? id = some stored ∧ ∃ seen, stored.lastSeenAt = some seen ∧ time ≤ seen

/-- The stored nodes name the latest heartbeats. -/
def AllSeen (latest : Heartbeats) (s : LiveStore) : Prop :=
  ∀ id time, latest id = some time → SeenSince s id time

theorem SeenSince.congr {s' : LiveStore} (h : SeenSince s id time) (hnodes : s'.nodes = s.nodes) :
    SeenSince s' id time := by
  rw [SeenSince, hnodes]
  exact h

/-- A document that has seen as much may be saved in the place of the stored one. -/
theorem SeenSince.saveNode (h : SeenSince s id time)
    (hnode : node.id = id → ∀ stored, s.nodes.get? id = some stored → ∀ seen,
      stored.lastSeenAt = some seen → ∃ own, node.lastSeenAt = some own ∧ seen ≤ own) :
    SeenSince (s.saveNode node) id time := by
  obtain ⟨stored, hstored, seen, hseen, htime⟩ := h
  by_cases hid : id = node.id
  · subst hid
    obtain ⟨own, hown, hle⟩ := hnode rfl stored hstored seen hseen
    exact ⟨node, Collection.get?_save_self s.nodes node, own, hown, htime.trans hle⟩
  · exact ⟨stored, by rw [← hstored]; exact Collection.get?_save_of_ne s.nodes hid, seen, hseen,
      htime⟩

/-- A heartbeat that is saved is seen, and so are the earlier ones. -/
theorem AllSeen.process (h : AllSeen latest (s.saveNode node))
    (hreceived : node.lastSeenAt = some received) :
    AllSeen (latest.process node.id received) (s.saveNode node) := by
  intro id time htime
  by_cases hid : id = node.id
  · subst hid
    rw [Heartbeats.process_self] at htime
    have hsaved : (s.saveNode node).nodes.get? node.id = some node :=
      Collection.get?_save_self s.nodes node
    refine ⟨node, hsaved, received, hreceived, ?_⟩
    have hmax : max received ((latest node.id).getD received) = time := Option.some.inj htime
    cases hlatest : latest node.id with
    | none =>
        rw [hlatest, Option.getD_none] at hmax
        omega
    | some earlier =>
        obtain ⟨stored, hstored, seen, hseen, hle⟩ := h node.id earlier hlatest
        cases hsaved.symm.trans hstored
        cases hreceived.symm.trans hseen
        rw [hlatest, Option.getD_some] at hmax
        omega
  · rw [Heartbeats.process_of_ne hid] at htime
    exact h id time htime

variable {p : LivePool ι} {i : ι} {l : LiveLabel} {w : LiveStore → LiveStore}
  {n : LiveStore → LiveHandler Unit} {k : LiveHandler Unit}

/-- One operation keeps the latest heartbeats in the documents. -/
theorem allSeen_step (hthread : p.thread i = .op l w n k)
    (hallowed : LiveStep (p.note i) l p.store (w p.store)) (hcond : SavesCurrent p i)
    (h : AllSeen latest p.store) :
    AllSeen (heartbeatStep p i latest) (p.step liveNext i).store := by
  have hlabel : (p.thread i).label? = some l := by rw [hthread, Prog.label?]
  rw [Pool.step_store hthread, heartbeatStep, hlabel]
  rw [SavesCurrent, hlabel] at hcond
  generalize hs' : w p.store = s' at hallowed ⊢
  cases hallowed with
  | agent hagent =>
      cases hagent with
      | quiet hnodes => exact fun id time htime => (h id time htime).congr hnodes
      | @save node received _ hreceived =>
          have hkept : AllSeen latest (p.store.saveNode node) := by
            intro id time htime
            refine (h id time htime).saveNode fun hid stored hstored seen hseen => ?_
            subst hid
            exact hcond stored hstored seen hseen
          cases received with
          | none => exact hkept
          | some received => exact hkept.process (hreceived received rfl)
  | cutoff => exact h
  | sweep hseen hold =>
      intro id time htime
      refine (h id time htime).saveNode fun hid stored hstored seen hseen => ?_
      obtain ⟨current, hcurrent, hsame⟩ := hcond
      subst hid
      cases hstored.symm.trans hcurrent
      rw [hsame] at hseen
      exact ⟨seen, hseen, Nat.le_refl _⟩

/-- The clock has passed what the handlers have noted of it. -/
def ClockPassed (p : LivePool ι) : Prop := ∀ j, p.note j ≤ p.store.clock

theorem clockPassed_step (hthread : p.thread i = .op l w n k)
    (hallowed : LiveStep (p.note i) l p.store (w p.store)) (h : ClockPassed p) :
    ClockPassed (p.step liveNext i) := by
  intro j
  have hclock := hallowed.clock_le
  rw [Pool.step_store hthread]
  by_cases hj : j = i
  · subst hj
    rw [Pool.step_note_self hthread]
    cases l with
    | cutoff => exact hclock
    | other | sweep | agent => exact (h j).trans hclock
  · rw [Pool.step_note_of_ne p hj]
    exact (h j).trans hclock

/-- The save of a sweep, in a store whose documents name the latest heartbeats. -/
theorem keepsHeartbeats_of_sweep {g seen : Nat} (hseen : node.lastSeenAt = some seen)
    (hold : seen + livenessTimeout < g) (hclock : g ≤ s.clock) (h : AllSeen latest s)
    (hstored : s.nodes.get? node.id = some stored)
    (hsame : stored = { node with livenessStatus := stored.livenessStatus }) :
    KeepsHeartbeats latest s (s.saveNode node.markedOffline) node.id where
  offline := by
    intro _ _ _ received hreceived
    obtain ⟨current, hcurrent, time, htime, hle⟩ := h node.id received hreceived
    cases hstored.symm.trans hcurrent
    rw [hsame] at htime
    cases hseen.symm.trans htime
    omega
  fields := by
    intro other
    by_cases hid : other = node.id
    · subst hid
      refine ⟨"offline", ?_⟩
      rw [hstored, hsame]
      exact Collection.get?_save_self s.nodes node.markedOffline
    · have hother : (s.saveNode node.markedOffline).nodes.get? other = s.nodes.get? other :=
        Collection.get?_save_of_ne s.nodes hid
      rw [hother]
      cases hget : s.nodes.get? other with
      | none => exact ⟨"", rfl⟩
      | some found => exact ⟨found.livenessStatus, rfl⟩

end Step

/-- Any number of sweeps and agents, interleaved at every operation: no save of a sweep marks a node
offline that has sent a heartbeat since its cutoff, or changes another field, if no save of the run
takes the place of a newer document. -/
theorem sweep_keepsHeartbeats (parties : ι → LiveParty) (s : LiveStore) (schedule : List ι) (i : ι)
    (node : Node)
    (hmeets : (startLive parties s).Meets liveNext SavesCurrent (schedule ++ [i]))
    (hsave : (((startLive parties s).run liveNext schedule).thread i).label? =
      some (.sweep node)) :
    KeepsHeartbeats (heartbeatsOf parties s schedule)
      ((startLive parties s).run liveNext schedule).store
      ((startLive parties s).run liveNext (schedule ++ [i])).store node.id := by
  obtain ⟨hbefore, hlast, -⟩ := Pool.meets_append.mp hmeets
  have hfollow : (startLive parties s).Follow liveNext (fun g s => g ≤ s.clock) LiveStep
      fun _ _ => True := fun j => (parties j).program_follows
  have hpassed : ClockPassed (startLive parties s) := fun _ => Nat.zero_le _
  have hstart : AllSeen s.heartbeatsSeen s := by
    intro id time htime
    obtain ⟨stored, hstored, hseen⟩ := Option.bind_eq_some_iff.mp htime
    exact ⟨stored, hstored, time, hseen, Nat.le_refl _⟩
  obtain ⟨hclock, hfollow'⟩ := Pool.invariant_run liveNext (fun g s => g ≤ s.clock) LiveStep
    (fun _ _ => True) ClockPassed (fun p i h _ => h i)
    (fun p i l w n k _ hthread hallowed _ h => clockPassed_step hthread hallowed h) hfollow hbefore
    hpassed
  obtain ⟨-, hseen⟩ := Pool.invariant_tally liveNext (fun g s => g ≤ s.clock) LiveStep
    (fun _ _ => True) heartbeatStep (fun latest p => ClockPassed p ∧ AllSeen latest p.store)
    (fun p i latest hdone => by
      cases hthread : p.thread i with
      | done r => rw [heartbeatStep, hthread, Prog.label?]
      | op l w n k => simp [hthread, Prog.Running] at hdone)
    (fun latest p i h _ => h.1 i)
    (fun latest p i l w n k hthread hallowed hcond h =>
      ⟨clockPassed_step hthread hallowed h.1, allSeen_step hthread hallowed hcond h.2⟩)
    hfollow hbefore ⟨hpassed, hstart⟩
  rw [Pool.run_append]
  generalize (startLive parties s).run liveNext schedule = p at *
  have hstep : p.run liveNext [i] = p.step liveNext i := rfl
  rw [hstep]
  rw [SavesCurrent, hsave] at hlast
  obtain ⟨stored, hstored, hsame⟩ := hlast
  cases hthread : p.thread i with
  | done r =>
      rw [hthread] at hsave
      cases hsave
  | op l w n k =>
      have hi := hfollow' i
      rw [hthread] at hi hsave
      have hlabel : l = .sweep node := Option.some.inj hsave
      have hallowed := (hi p.store (hclock i)).1
      subst hlabel
      rw [Pool.step_store hthread]
      generalize w p.store = s' at hallowed ⊢
      cases hallowed with
      | agent hagent => cases hagent
      | sweep hnode hold =>
          exact keepsHeartbeats_of_sweep hnode hold (hclock i) hseen hstored hsame

/-! ### A heartbeat between the two operations of a sweep -/

def sampleNode (lastSeenAt : Nat) : Node where
  id := "1"
  siteId := "site"
  name := "node"
  agentId := "node"
  agentTokenHash := "digest"
  advertiseIp := ""
  monitorVersion := "1"
  singboxVersion := "1"
  lastSeenAt := some lastSeenAt
  desiredVersion := 0
  appliedVersion := 0
  appliedHash := ""
  livenessStatus := "online"
  configStatus := "in_sync"
  serviceStatus := "healthy"
  subscriptionStatus := "not_configured"
  probeStatus := "unknown"
  traffic := ⟨0, 0, 0, 0, 0⟩
  lastError := ""
  lastErrorAt := none
  lastSuccessfulReloadAt := none
  createdAt := 0

def sampleHeartbeat : AgentHeartbeat where
  nodeId := "node"
  monitorVersion := "1"
  singboxVersion := "1"
  appliedVersion := 0
  appliedHash := ""
  livenessStatus := "online"
  configStatus := "in_sync"
  serviceStatus := "healthy"
  subscriptionStatus := "not_configured"
  traffic := ⟨0, 0, 0, 0, 0⟩
  lastError := ""
  sequence := 7

def samplePoll : Tasks.ProbePoll where
  agentId := "node"
  automatic := false
  slot := 0
  draws := ⟨"", "", 0⟩
  reclaimedAt := 0
  reclaimFailedAt := 0
  lease := ⟨"monitor:node", 60, 0⟩
  refused _ := none
  failedAt := 0

/-- One node, whose last heartbeat was received at a time. -/
def sampleStore (lastSeenAt clock : Nat) : LiveStore where
  nodes := ⟨[sampleNode lastSeenAt], List.nodup_singleton _⟩
  heartbeats := ⟨[], List.nodup_nil⟩
  samples := []
  snapshots := []
  alerts := ⟨[], List.nodup_nil⟩
  backend := Store.empty
  tasks := ⟨⟨[], List.nodup_nil⟩, [], [], [], []⟩
  clock := clock

/-- A sweep, a heartbeat, and a minute. -/
def sweptParties : Fin 3 → LiveParty
  | 0 => .sweep
  | 1 => .heartbeat (some "digest") samplePoll sampleHeartbeat
  | 2 => .time [60000]

/-- A minute after its heartbeat a node is marked offline. -/
theorem sweep_keepsHeartbeats_silentNode :
    KeepsHeartbeats
      (heartbeatsOf sweptParties (sampleStore 90000 100000) (List.replicate 24 1 ++ [2, 0, 0]))
      ((startLive sweptParties (sampleStore 90000 100000)).run liveNext
        (List.replicate 24 1 ++ [2, 0, 0])).store
      ((startLive sweptParties (sampleStore 90000 100000)).run liveNext
        (List.replicate 24 1 ++ [2, 0, 0] ++ [0])).store "1" :=
  sweep_keepsHeartbeats sweptParties (sampleStore 90000 100000) _ 0 (sampleNode 100000)
    (by decide +kernel) (by decide +kernel)

/-- The sweep marks a node offline whose heartbeat has been processed after the sweep has read it. -/
theorem not_sweep_keepsHeartbeats :
    ¬ ∀ (parties : Fin 3 → LiveParty) (s : LiveStore) (schedule : List (Fin 3)) (i : Fin 3)
      (node : Node), (((startLive parties s).run liveNext schedule).thread i).label? =
        some (.sweep node) →
      KeepsHeartbeats (heartbeatsOf parties s schedule)
        ((startLive parties s).run liveNext schedule).store
        ((startLive parties s).run liveNext (schedule ++ [i])).store node.id := by
  intro h
  have hkeeps := h sweptParties (sampleStore 90000 150000) ([0, 0] ++ List.replicate 24 1) 0
    (sampleNode 90000) (by decide +kernel)
  obtain ⟨stored, hstored, hoffline⟩ : ∃ stored,
      ((startLive sweptParties (sampleStore 90000 150000)).run liveNext
        ([0, 0] ++ List.replicate 24 1 ++ [0])).store.nodes.get? "1" = some stored ∧
      stored.livenessStatus = "offline" :=
    ⟨(sampleNode 90000).markedOffline, by decide +kernel, rfl⟩
  have hlate : 150000 + livenessTimeout ≤ ((startLive sweptParties (sampleStore 90000 150000)).run
      liveNext ([0, 0] ++ List.replicate 24 1)).store.clock :=
    hkeeps.offline stored hstored hoffline 150000 (by decide +kernel)
  exact absurd hlate (by decide +kernel)

end Grouproxy.Liveness
