import Grouproxy.Library.Transitions
import Grouproxy.Model.LiveState
import Grouproxy.Verification.Backend.Frames

/-! # Is the live state the freshest?

A batch is accepted by its identifier and sequence alone, and an accepted batch overwrites the live
state whatever its time. So the live state stays the freshest exactly as long as what is accepted
never goes back in time.
-/

namespace Grouproxy.Backend

open Programs

variable {nodeId kind : String}

/-! ## Which batches are accepted -/

/-- No marker has the identifier of the batch, and the cursor, if there is one, stands elsewhere. -/
def Unseen (nodeId kind : String) (b : Batch) (s : Store) : Prop :=
  (∀ marker ∈ s.batches, marker.isOf nodeId kind = true → marker.batchId ≠ b.batchId) ∧
    ((∀ cursor ∈ s.cursors, cursor.isOf nodeId kind = false) ∨
      ∃ cursor ∈ s.cursors, cursor.isOf nodeId kind = true ∧ cursor.lastSequence ≠ b.sequence)

instance (nodeId kind : String) (b : Batch) (s : Store) : Decidable (Unseen nodeId kind b s) :=
  inferInstanceAs (Decidable (_ ∧ _))

theorem updateOne_eq_self {α : Type} {selects : α → Bool} {set : α → α} {as : List α}
    (h : as.any selects = false) : updateOne selects set as = as := by
  induction as with
  | nil => rfl
  | cons a as ih =>
      rw [List.any_cons, Bool.or_eq_false_iff] at h
      rw [updateOne, h.1, if_neg Bool.false_ne_true, ih h.2]

/-- A conditional update of the cursor that applies to nothing leaves the store alone. -/
theorem updateCursor_none (qualifies : Int → Bool) {b : Batch} {s : Store}
    (h : (s.cursors.any fun c => c.isOf nodeId kind && qualifies c.lastSequence) = false) :
    (updateCursor nodeId kind qualifies b).run s = (.ok false, s) := by
  rw [updateCursor, Prog.run_atomic, h, updateOne_eq_self h]

theorem updateCursor_some (qualifies : Int → Bool) (b : Batch) {s : Store}
    (h : (s.cursors.any fun c => c.isOf nodeId kind && qualifies c.lastSequence) = true) :
    ∃ cursors, (updateCursor nodeId kind qualifies b).run s =
      (.ok true, { s with cursors := cursors }) := by
  rw [updateCursor, Prog.run_atomic, h]
  exact ⟨_, rfl⟩

/-- The cursor refuses the sequence that it stands at. -/
theorem reserveSequence_answer (b : Batch) (s : Store) :
    ∃ answer cursors, (reserveSequence nodeId kind b).run s =
        (.ok answer, { s with cursors := cursors }) ∧
      (answer.isSome = true ↔ (∀ cursor ∈ s.cursors, cursor.isOf nodeId kind = false) ∨
        ∃ cursor ∈ s.cursors, cursor.isOf nodeId kind = true ∧
          cursor.lastSequence ≠ b.sequence) := by
  rw [reserveSequence]
  cases hbelow : s.cursors.any fun c =>
      c.isOf nodeId kind && decide (c.lastSequence < b.sequence) with
  | true =>
      obtain ⟨cursors, hrun⟩ := updateCursor_some (fun last => last < b.sequence) b hbelow
      rw [Prog.run_bind_ok (show (advanceCursor nodeId kind b).run s = _ from hrun)]
      refine ⟨some false, cursors, rfl, iff_of_true rfl (.inr ?_)⟩
      obtain ⟨cursor, hmem, hcursor⟩ := List.any_eq_true.mp hbelow
      rw [Bool.and_eq_true, decide_eq_true_iff] at hcursor
      exact ⟨cursor, hmem, hcursor.1, hcursor.2.ne⟩
  | false =>
      have hadvance : (advanceCursor nodeId kind b).run s = (.ok false, s) :=
        updateCursor_none (fun last => last < b.sequence) hbelow
      rw [Prog.run_bind_ok hadvance]
      cases habove : s.cursors.any fun c =>
          c.isOf nodeId kind && decide (b.sequence < c.lastSequence) with
      | true =>
          obtain ⟨cursors, hrun⟩ := updateCursor_some (fun last => b.sequence < last) b habove
          simp only [Bool.false_eq_true, if_false]
          rw [Prog.run_bind_ok hrun]
          refine ⟨some true, cursors, rfl, iff_of_true rfl (.inr ?_)⟩
          obtain ⟨cursor, hmem, hcursor⟩ := List.any_eq_true.mp habove
          rw [Bool.and_eq_true, decide_eq_true_iff] at hcursor
          exact ⟨cursor, hmem, hcursor.1, hcursor.2.ne'⟩
      | false =>
          simp only [Bool.false_eq_true, if_false]
          rw [Prog.run_bind_ok (updateCursor_none (fun last => b.sequence < last) habove)]
          simp only [Bool.false_eq_true, if_false]
          cases hany : s.cursors.any (·.isOf nodeId kind) with
          | false =>
              -- The first batch of the node and kind.
              have hinsert : (TelemetryCursor.insert ⟨nodeId, kind, b.sequence, b.batchId⟩).run s =
                  (.ok (), { s with
                    cursors := s.cursors ++ [⟨nodeId, kind, b.sequence, b.batchId⟩] }) := by
                rw [TelemetryCursor.insert, Backend.insert, Prog.run_atomic]
                simp only [hany, Bool.false_eq_true, if_false]
              refine ⟨some false, s.cursors ++ [⟨nodeId, kind, b.sequence, b.batchId⟩], ?_,
                iff_of_true rfl (.inl ?_)⟩
              · refine Prog.run_tryCatch_ok ?_ _
                rw [Prog.run_bind_ok hinsert]
                rfl
              · intro cursor hmem
                simpa using List.any_eq_false.mp hany cursor hmem
          | true =>
              -- Every cursor stands at the sequence of the batch.
              have hinsert : (TelemetryCursor.insert ⟨nodeId, kind, b.sequence, b.batchId⟩).run s =
                  (.error .duplicateKey, s) := by
                rw [TelemetryCursor.insert, Backend.insert, Prog.run_atomic]
                simp only [hany, if_true]
              refine ⟨none, s.cursors, ?_, iff_of_false Bool.false_ne_true ?_⟩
              · rw [Prog.run_tryCatch_error (Prog.run_bind_error hinsert _),
                  Prog.run_bind_ok hadvance]
                rfl
              · rintro (hnone | ⟨cursor, hmem, hof, hne⟩)
                · obtain ⟨cursor, hmem, hof⟩ := List.any_eq_true.mp hany
                  rw [hnone cursor hmem] at hof
                  exact Bool.false_ne_true hof
                · have hlow := List.any_eq_false.mp hbelow cursor hmem
                  have hhigh := List.any_eq_false.mp habove cursor hmem
                  simp only [hof, Bool.true_and, decide_eq_true_iff] at hlow hhigh
                  omega

/-- A batch with a new identifier is always recorded: a marker with its sequence is stale. -/
theorem recordBatch_unseen {b : Batch} {s : Store}
    (h : ∀ marker ∈ s.batches, marker.isOf nodeId kind = true → marker.batchId ≠ b.batchId) :
    ∃ batches, (recordBatch nodeId kind b).run s = (.ok true, { s with batches := batches }) := by
  have hinsert : ∀ t : Store, (newTelemetryBatch nodeId kind b).insert.run t =
      if (t.batches.any fun other => other.isOf nodeId kind &&
          (other.batchId == b.batchId || other.sequence == b.sequence)) = true then
        (.error .duplicateKey, t)
      else (.ok (), { t with batches := t.batches ++ [newTelemetryBatch nodeId kind b] }) :=
    fun _ => rfl
  have hfirst := hinsert s
  cases htaken : s.batches.any fun other => other.isOf nodeId kind &&
      (other.batchId == b.batchId || other.sequence == b.sequence) with
  | false =>
      rw [htaken, if_neg Bool.false_ne_true] at hfirst
      refine ⟨s.batches ++ [newTelemetryBatch nodeId kind b], Prog.run_tryCatch_ok ?_ _⟩
      rw [Prog.run_bind_ok hfirst]
      rfl
  | true =>
      rw [htaken, if_pos rfl] at hfirst
      -- The collision is one of sequences.
      obtain ⟨marker, hmem, hmarker⟩ := List.any_eq_true.mp htaken
      simp only [Bool.and_eq_true, Bool.or_eq_true, beq_iff_eq] at hmarker
      have hsequence := hmarker.2.resolve_left (h marker hmem hmarker.1)
      obtain ⟨other, hother⟩ : ∃ other, (s.batches.find? fun other =>
          other.isOf nodeId kind && other.sequence == b.sequence) = some other := by
        refine Option.isSome_iff_exists.mp (List.find?_isSome.mpr ⟨marker, hmem, ?_⟩)
        simp [hmarker.1, hsequence]
      have hof := List.find?_some hother
      have hne : other.batchId ≠ b.batchId :=
        h other (List.mem_of_find?_eq_some hother) (Bool.and_eq_true_iff.mp hof).1
      have hfind : (find .other fun s : Store => s.batches.find? fun other =>
          other.isOf nodeId kind && other.sequence == b.sequence).run s =
            (.ok (some other), s) := by
        rw [find, Prog.run_atomic, hother]
      have hpurge : (purgeTelemetryBatches nodeId kind).run s =
          (.ok (), { s with batches := s.batches.filter fun x => !x.isOf nodeId kind }) := rfl
      have hsecond := hinsert { s with batches := s.batches.filter fun x => !x.isOf nodeId kind }
      rw [if_neg] at hsecond
      · refine ⟨(s.batches.filter fun x => !x.isOf nodeId kind) ++
            [newTelemetryBatch nodeId kind b],
          (Prog.run_tryCatch_error (Prog.run_bind_error hfirst _) _).trans ?_⟩
        rw [Prog.run_bind_ok hfind]
        simp only [hne, if_false]
        rw [Prog.run_bind_ok hpurge]
        refine Prog.run_tryCatch_ok ?_ _
        rw [Prog.run_bind_ok hsecond]
        rfl
      · rw [Bool.not_eq_true, List.any_eq_false]
        intro other hkept
        have hfree := (List.mem_filter.mp hkept).2
        simp only [Bool.not_eq_true'] at hfree
        simp [hfree]

/-- Acceptance asks for the identifier and the sequence, and writes markers and cursors alone. -/
theorem acceptTelemetryBatch_unseen (b : Batch) (s : Store) :
    ∃ batches cursors, (acceptTelemetryBatch nodeId kind b).run s =
      (.ok (decide (Unseen nodeId kind b s)),
        { s with batches := batches, cursors := cursors }) := by
  have hfind : (find .other fun s : Store => s.batches.find? fun other =>
      other.isOf nodeId kind && other.batchId == b.batchId).run s = (.ok _, s) := rfl
  rw [acceptTelemetryBatch, Prog.run_bind_ok hfind]
  by_cases hnew : ∀ marker ∈ s.batches, marker.isOf nodeId kind = true → marker.batchId ≠ b.batchId
  · have hnone : (s.batches.find? fun other =>
        other.isOf nodeId kind && other.batchId == b.batchId) = none := by
      rw [List.find?_eq_none]
      intro marker hmem hmarker
      rw [Bool.and_eq_true, beq_iff_eq] at hmarker
      exact hnew marker hmem hmarker.1 hmarker.2
    obtain ⟨answer, cursors, hreserve, hanswer⟩ := @reserveSequence_answer nodeId kind b s
    simp only [hnone, Option.isSome_none, Bool.false_eq_true, if_false]
    rw [Prog.run_bind_ok hreserve]
    cases answer with
    | none =>
        have hno : ¬ Unseen nodeId kind b s :=
          fun hunseen => Bool.false_ne_true (hanswer.mpr hunseen.2)
        refine ⟨s.batches, cursors, ?_⟩
        simp [hno]
    | some restarted =>
        have hyes : Unseen nodeId kind b s := ⟨hnew, hanswer.mp rfl⟩
        rw [decide_eq_true hyes]
        cases restarted with
        | false =>
            obtain ⟨batches, hrecord⟩ :=
              recordBatch_unseen (s := { s with cursors := cursors }) hnew
            exact ⟨batches, cursors, hrecord⟩
        | true =>
            let purged := s.batches.filter fun x => !x.isOf nodeId kind
            have hpurge : (purgeTelemetryBatches nodeId kind).run { s with cursors := cursors } =
                (.ok (), { s with cursors := cursors, batches := purged }) := rfl
            obtain ⟨batches, hrecord⟩ := recordBatch_unseen (b := b)
              (s := { s with cursors := cursors, batches := purged })
              fun marker hmem => hnew marker (List.mem_of_mem_filter hmem)
            refine ⟨batches, cursors, ?_⟩
            simp only [if_true]
            rw [Prog.run_bind_ok hpurge]
            exact hrecord
  · have hno : ¬ Unseen nodeId kind b s := fun hunseen => hnew hunseen.1
    have hsome : (s.batches.find? fun other =>
        other.isOf nodeId kind && other.batchId == b.batchId).isSome = true := by
      push Not at hnew
      obtain ⟨marker, hmem, hof, hid⟩ := hnew
      rw [List.find?_isSome]
      exact ⟨marker, hmem, by simp [hof, hid]⟩
    refine ⟨s.batches, s.cursors, ?_⟩
    simp [hsome, hno]

/-! ## What a batch writes -/

/-- The snapshots after an accepted batch of the node. -/
def writtenSnapshots (node : Node) (payload : AgentProxyConfigBatch)
    (snapshots : List ProxyConfigSnapshot) : List ProxyConfigSnapshot :=
  let snapshot := snapshots.find? fun other => other.nodeId == node.agentId
  let refreshed := refreshedSnapshot node payload snapshot
  if snapshot.isNone then snapshots ++ [refreshed]
  else snapshots.map fun other => if other.nodeId = node.agentId then refreshed else other

theorem mem_writtenSnapshots_self {node : Node} {payload : AgentProxyConfigBatch}
    {snapshots : List ProxyConfigSnapshot} {snapshot : ProxyConfigSnapshot}
    (hnode : snapshot.nodeId = node.agentId) :
    snapshot ∈ writtenSnapshots node payload snapshots ↔
      snapshot = refreshedSnapshot node payload
        (snapshots.find? fun other => other.nodeId == node.agentId) := by
  rw [writtenSnapshots]
  cases hfind : snapshots.find? fun other => other.nodeId == node.agentId with
  | none =>
      have hother : snapshot ∉ snapshots := by
        intro hmem
        simpa [hnode] using List.find?_eq_none.mp hfind snapshot hmem
      simp [hother]
  | some old =>
      have hold := List.find?_some hfind
      simp only [Option.isNone_some, Bool.false_eq_true, if_false, List.mem_map]
      constructor
      · rintro ⟨other, -, rfl⟩
        by_cases hother : other.nodeId = node.agentId
        · exact if_pos hother
        · rw [if_neg hother] at hnode
          exact absurd hnode hother
      · rintro rfl
        exact ⟨old, List.mem_of_find?_eq_some hfind, if_pos (beq_iff_eq.mp hold)⟩

theorem mem_writtenSnapshots_other {node : Node} {payload : AgentProxyConfigBatch}
    {snapshots : List ProxyConfigSnapshot} {snapshot : ProxyConfigSnapshot}
    (hnode : snapshot.nodeId ≠ node.agentId) :
    snapshot ∈ writtenSnapshots node payload snapshots ↔ snapshot ∈ snapshots := by
  have hself : ∀ old, (refreshedSnapshot node payload old).nodeId = node.agentId := fun _ => rfl
  rw [writtenSnapshots]
  cases snapshots.find? fun other => other.nodeId == node.agentId with
  | none =>
      have hne : snapshot ≠ refreshedSnapshot node payload none := by
        rintro rfl
        exact hnode (hself none)
      simp [hne]
  | some old =>
      simp only [Option.isNone_some, Bool.false_eq_true, if_false, List.mem_map]
      constructor
      · rintro ⟨other, hmem, rfl⟩
        by_cases hother : other.nodeId = node.agentId
        · rw [if_pos hother] at hnode
          exact absurd (hself _) hnode
        · rwa [if_neg hother]
      · intro hmem
        exact ⟨snapshot, hmem, if_neg hnode⟩

/-- An accepted batch, and one that is not. -/
theorem agentProxyConfig_run (node : Node) (payload : AgentProxyConfigBatch) (s : Store)
    (hnode : payload.nodeId = node.agentId) :
    ∃ t, (agentProxyConfig node payload).run s =
        (.ok (decide (Unseen node.agentId "proxy_config" payload.batch s)), t) ∧
      t.snapshots = if Unseen node.agentId "proxy_config" payload.batch s then
        writtenSnapshots node payload s.snapshots else s.snapshots := by
  obtain ⟨batches, cursors, hrun⟩ := @acceptTelemetryBatch_unseen node.agentId "proxy_config"
    payload.batch s
  have hreject : (reject (payload.nodeId ≠ node.agentId) (.conflict "node_id_mismatch")).run s =
      (.ok (), s) := by
    rw [reject, if_neg (not_not_intro hnode)]
    rfl
  rw [agentProxyConfig, Prog.run_bind_ok hreject, Prog.run_bind_ok hrun]
  by_cases hunseen : Unseen node.agentId "proxy_config" payload.batch s
  · simp only [hunseen, decide_true, if_true]
    have hfind : (find .other fun s : Store =>
        s.snapshots.find? fun other => other.nodeId == node.agentId).run
          { s with batches := batches, cursors := cursors } =
        (.ok (s.snapshots.find? fun other => other.nodeId == node.agentId),
          { s with batches := batches, cursors := cursors }) := rfl
    rw [Prog.run_bind_ok hfind, writtenSnapshots]
    cases hold : s.snapshots.find? fun other => other.nodeId == node.agentId with
    | none =>
        have hfree : (s.snapshots.any fun other => other.nodeId == node.agentId) = false := by
          rw [List.any_eq_false]
          exact List.find?_eq_none.mp hold
        simp only [Option.isNone_none, if_true]
        have hinsert : (Backend.insert .other
            (fun s => s.snapshots.any fun other => other.nodeId == node.agentId)
            fun s => { s with
              snapshots := s.snapshots ++ [refreshedSnapshot node payload none] }).run
              { s with batches := batches, cursors := cursors } =
            (.ok (), { s with
              batches := batches, cursors := cursors
              snapshots := s.snapshots ++ [refreshedSnapshot node payload none] }) := by
          rw [Backend.insert, Prog.run_atomic]
          simp only [hfree, Bool.false_eq_true, if_false]
        rw [Prog.run_bind_ok hinsert]
        exact ⟨_, rfl, rfl⟩
    | some old =>
        simp only [Option.isNone_some, Bool.false_eq_true, if_false]
        exact ⟨_, rfl, rfl⟩
  · simp only [hunseen, decide_false, Bool.false_eq_true, if_false]
    exact ⟨_, rfl, rfl⟩

theorem acceptConnections_run (node : Node) (payload : AgentConnectionBatch) (s : Store)
    (hnode : payload.nodeId = node.agentId) :
    ∃ t, (acceptConnections node payload).run s =
        (.ok (decide (Unseen node.agentId "connection_snapshot" payload.batch s)), t) ∧
      t.snapshots = s.snapshots := by
  obtain ⟨batches, cursors, hrun⟩ := @acceptTelemetryBatch_unseen node.agentId
    "connection_snapshot" payload.batch s
  have hreject : (reject (payload.nodeId ≠ node.agentId) (.conflict "node_id_mismatch")).run s =
      (.ok (), s) := by
    rw [reject, if_neg (not_not_intro hnode)]
    rfl
  rw [acceptConnections, Prog.run_bind_ok hreject]
  exact ⟨_, hrun, rfl⟩

/-- Whether the batch is accepted in the state. -/
def Accepted (live : LiveState) : Arrival → Prop
  | .proxyConfig node payload =>
    payload.nodeId = node.agentId ∧ Unseen node.agentId "proxy_config" payload.batch live.store
  | .connections node payload =>
    payload.nodeId = node.agentId ∧
      Unseen node.agentId "connection_snapshot" payload.batch live.store

instance (live : LiveState) : (arrival : Arrival) → Decidable (Accepted live arrival)
  | .proxyConfig _ _ => inferInstanceAs (Decidable (_ ∧ _))
  | .connections _ _ => inferInstanceAs (Decidable (_ ∧ _))

/-- An arrival that is not accepted changes neither the live state nor the record. -/
structure SameLive (before after : LiveState) : Prop where
  snapshots : after.store.snapshots = before.store.snapshots
  counters : after.counters = before.counters
  configs : after.configs = before.configs
  samples : after.samples = before.samples

theorem arrive_refused {live : LiveState} {arrival : Arrival} (h : ¬ Accepted live arrival) :
    SameLive live (arrive live arrival) := by
  cases arrival with
  | proxyConfig node payload =>
      rw [arrive, receiveProxyConfig]
      by_cases hnode : payload.nodeId = node.agentId
      · have hseen : ¬ Unseen node.agentId "proxy_config" payload.batch live.store :=
          fun hunseen => h ⟨hnode, hunseen⟩
        obtain ⟨t, hrun, hsnapshots⟩ := agentProxyConfig_run node payload live.store hnode
        rw [hrun, decide_eq_false hseen]
        rw [if_neg hseen] at hsnapshots
        exact ⟨hsnapshots, rfl, rfl, rfl⟩
      · have hrun : (agentProxyConfig node payload).run live.store =
            (.error (.conflict "node_id_mismatch"), live.store) := by
          refine Prog.run_bind_error ?_ _
          rw [reject, if_pos hnode]
          rfl
        rw [hrun]
        exact ⟨rfl, rfl, rfl, rfl⟩
  | connections node payload =>
      rw [arrive, agentConnections]
      by_cases hnode : payload.nodeId = node.agentId
      · have hseen : ¬ Unseen node.agentId "connection_snapshot" payload.batch live.store :=
          fun hunseen => h ⟨hnode, hunseen⟩
        obtain ⟨t, hrun, hsnapshots⟩ := acceptConnections_run node payload live.store hnode
        rw [hrun, decide_eq_false hseen]
        exact ⟨hsnapshots, rfl, rfl, rfl⟩
      · have hrun : (acceptConnections node payload).run live.store =
            (.error (.conflict "node_id_mismatch"), live.store) := by
          refine Prog.run_bind_error ?_ _
          rw [reject, if_pos hnode]
          rfl
        rw [hrun]
        exact ⟨rfl, rfl, rfl, rfl⟩

theorem arrive_proxyConfig {live : LiveState} {node : Node} {payload : AgentProxyConfigBatch}
    (h : Accepted live (.proxyConfig node payload)) :
    let after := arrive live (.proxyConfig node payload)
    after.store.snapshots = writtenSnapshots node payload live.store.snapshots ∧
      after.counters = live.counters ∧ after.configs = live.configs ++ [payload] ∧
      after.samples = live.samples := by
  obtain ⟨t, hrun, hsnapshots⟩ := agentProxyConfig_run node payload live.store h.1
  rw [if_pos h.2] at hsnapshots
  rw [arrive, receiveProxyConfig, hrun, decide_eq_true h.2]
  exact ⟨hsnapshots, rfl, rfl, rfl⟩

theorem arrive_connections {live : LiveState} {node : Node} {payload : AgentConnectionBatch}
    (h : Accepted live (.connections node payload)) :
    let after := arrive live (.connections node payload)
    after.store.snapshots = live.store.snapshots ∧
      after.counters = refreshedCounters node payload live.counters ∧
      after.configs = live.configs ∧
      after.samples = live.samples ++
        payload.snapshots.map fun sample => (node.agentId, sample) := by
  obtain ⟨t, hrun, hsnapshots⟩ := acceptConnections_run node payload live.store h.1
  rw [arrive, agentConnections, hrun, decide_eq_true h.2]
  exact ⟨hsnapshots, rfl, rfl, rfl⟩

/-! ## Freshness -/

/-- An element with the greatest time. -/
def Newest {α : Type} (time : α → Nat) (accepted : List α) (a : α) : Prop :=
  a ∈ accepted ∧ ∀ other ∈ accepted, time other ≤ time a

/-- The last element is a newest one if and only if nothing before it is newer. -/
theorem newest_concat {α : Type} {time : α → Nat} {accepted : List α} {a : α} :
    Newest time (accepted ++ [a]) a ↔ ∀ other ∈ accepted, time other ≤ time a := by
  constructor
  · intro h other hother
    exact h.2 other (List.mem_append_left _ hother)
  · intro h
    refine ⟨List.mem_append_right _ (List.mem_singleton_self a), fun other hother => ?_⟩
    rcases List.mem_append.mp hother with hother | hother
    · exact h other hother
    · rw [List.mem_singleton.mp hother]

/-- Among what arrives together, `latest` is a newest: it is one of all of them unless something
from before is newer. -/
theorem newest_append {α : Type} {time : α → Nat} {accepted arrived : List α} {latest a : α}
    (hlatest : Newest time arrived latest) :
    Newest time (accepted ++ arrived) a ↔
      (Newest time arrived a ∧ ∀ other ∈ accepted, time other ≤ time latest) ∨
        (Newest time accepted a ∧ time latest ≤ time a) := by
  constructor
  · rintro ⟨hmem, hall⟩
    have hbefore : ∀ other ∈ accepted, time other ≤ time a :=
      fun other hother => hall other (List.mem_append_left _ hother)
    have harrived : ∀ other ∈ arrived, time other ≤ time a :=
      fun other hother => hall other (List.mem_append_right _ hother)
    rcases List.mem_append.mp hmem with hold | hnew
    · exact .inr ⟨⟨hold, hbefore⟩, harrived latest hlatest.1⟩
    · refine .inl ⟨⟨hnew, harrived⟩, fun other hother => ?_⟩
      exact (hbefore other hother).trans (hlatest.2 a hnew)
  · rintro (⟨ha, hbefore⟩ | ⟨ha, hle⟩)
    · refine ⟨List.mem_append_right _ ha.1, fun other hother => ?_⟩
      rcases List.mem_append.mp hother with hother | hother
      · exact (hbefore other hother).trans (ha.2 latest hlatest.1)
      · exact ha.2 other hother
    · refine ⟨List.mem_append_left _ ha.1, fun other hother => ?_⟩
      rcases List.mem_append.mp hother with hother | hother
      · exact ha.2 other hother
      · exact (hlatest.2 other hother).trans hle

/-- The accepted batches of a node. -/
def LiveState.configsOf (live : LiveState) (agentId : String) : List AgentProxyConfigBatch :=
  live.configs.filter fun payload => payload.nodeId == agentId

/-- Those among them that the local API answered. -/
def LiveState.availableOf (live : LiveState) (agentId : String) : List AgentProxyConfigBatch :=
  (live.configsOf agentId).filter AgentProxyConfigBatch.apiAvailable

/-- The accepted samples of a node. -/
def LiveState.samplesOf (live : LiveState) (agentId : String) : List ConnectionSnapshotIn :=
  (live.samples.filter fun sample => sample.1 == agentId).map Prod.snd

/-- The groups that the backend keeps of a batch. -/
def AgentProxyConfigBatch.kept (payload : AgentProxyConfigBatch) : List ProxyGroupSnapshot :=
  payload.groups.filterMap sanitizeProxyGroup

/-- The snapshot carries the time of a newest accepted batch, and the groups of a newest one that
the local API answered. -/
structure FreshSnapshot (live : LiveState) (agentId : String) (snapshot : ProxyConfigSnapshot) :
    Prop where
  sampledAt : ∃ payload, Newest AgentProxyConfigBatch.sampledAt (live.configsOf agentId) payload ∧
    snapshot.sampledAt = payload.sampledAt
  groups : live.availableOf agentId ≠ [] →
    ∃ payload, Newest AgentProxyConfigBatch.sampledAt (live.availableOf agentId) payload ∧
      snapshot.groups = payload.kept

/-- The stored snapshot of the node is the freshest, once a batch was accepted. -/
structure FreshConfig (agentId : String) (live : LiveState) : Prop where
  stored : live.configsOf agentId ≠ [] →
    ∃ snapshot ∈ live.store.snapshots, snapshot.nodeId = agentId
  snapshot : ∀ snapshot ∈ live.store.snapshots, snapshot.nodeId = agentId →
    FreshSnapshot live agentId snapshot

/-- The live counters of the node are those of a newest accepted sample, once there is one. -/
def FreshCounters (agentId : String) (live : LiveState) : Prop :=
  live.samplesOf agentId ≠ [] →
    ∃ sample, Newest ConnectionSnapshotIn.sampledAt (live.samplesOf agentId) sample ∧
      live.counters agentId = sample.counters

/-- The stored live state of the node is the freshest of what was accepted. -/
structure Fresh (agentId : String) (live : LiveState) : Prop where
  config : FreshConfig agentId live
  counters : FreshCounters agentId live

/-- What an accepted arrival has to be for the live state of the node to stay fresh. -/
def InTime (agentId : String) (live : LiveState) : Arrival → Prop
  | .proxyConfig _ payload =>
    payload.nodeId = agentId →
      ∀ earlier ∈ live.configsOf agentId, earlier.sampledAt ≤ payload.sampledAt
  | .connections _ payload =>
    payload.nodeId = agentId →
      ∀ latest ∈ payload.snapshots.argmax ConnectionSnapshotIn.sampledAt,
        (∀ earlier ∈ live.samplesOf agentId, earlier.sampledAt ≤ latest.sampledAt) ∨
          ∃ earlier, Newest ConnectionSnapshotIn.sampledAt (live.samplesOf agentId) earlier ∧
            earlier.counters = latest.counters

/-- A batch that is accepted is in time. -/
def KeepsFresh (agentId : String) (live : LiveState) (arrival : Arrival) : Prop :=
  Accepted live arrival → InTime agentId live arrival

/-- The stored snapshots of the node and its accepted batches are the same. -/
structure SameConfig (agentId : String) (before after : LiveState) : Prop where
  snapshots : ∀ snapshot : ProxyConfigSnapshot, snapshot.nodeId = agentId →
    (snapshot ∈ after.store.snapshots ↔ snapshot ∈ before.store.snapshots)
  configs : after.configsOf agentId = before.configsOf agentId

structure SameCounters (agentId : String) (before after : LiveState) : Prop where
  counters : after.counters agentId = before.counters agentId
  samples : after.samplesOf agentId = before.samplesOf agentId

section Frames

variable {agentId : String} {before after : LiveState}

theorem SameConfig.symm (h : SameConfig agentId before after) : SameConfig agentId after before :=
  ⟨fun snapshot hnode => (h.snapshots snapshot hnode).symm, h.configs.symm⟩

theorem SameConfig.fresh (h : SameConfig agentId before after)
    (hfresh : FreshConfig agentId before) : FreshConfig agentId after := by
  have havailable : after.availableOf agentId = before.availableOf agentId := by
    rw [LiveState.availableOf, h.configs, LiveState.availableOf]
  constructor
  · intro hne
    rw [h.configs] at hne
    obtain ⟨snapshot, hmem, hnode⟩ := hfresh.stored hne
    exact ⟨snapshot, (h.snapshots snapshot hnode).mpr hmem, hnode⟩
  · intro snapshot hmem hnode
    have hold := hfresh.snapshot snapshot ((h.snapshots snapshot hnode).mp hmem) hnode
    constructor
    · rw [h.configs]
      exact hold.sampledAt
    · rw [havailable]
      exact hold.groups

theorem SameConfig.fresh_iff (h : SameConfig agentId before after) :
    FreshConfig agentId after ↔ FreshConfig agentId before := ⟨h.symm.fresh, h.fresh⟩

theorem SameCounters.fresh_iff (h : SameCounters agentId before after) :
    FreshCounters agentId after ↔ FreshCounters agentId before := by
  rw [FreshCounters, FreshCounters, h.counters, h.samples]

end Frames

/-! ## One arrival -/

theorem arrive_refused_same {agentId : String} {live : LiveState} {arrival : Arrival}
    (h : ¬ Accepted live arrival) :
    SameConfig agentId live (arrive live arrival) ∧
      SameCounters agentId live (arrive live arrival) := by
  have hsame := arrive_refused h
  refine ⟨⟨fun snapshot _ => by rw [hsame.snapshots], ?_⟩, ⟨by rw [hsame.counters], ?_⟩⟩
  · rw [LiveState.configsOf, hsame.configs, LiveState.configsOf]
  · rw [LiveState.samplesOf, hsame.samples, LiveState.samplesOf]

section ProxyConfig

variable {agentId : String} {live : LiveState} {node : Node} {payload : AgentProxyConfigBatch}

theorem arrive_proxyConfig_counters (h : Accepted live (.proxyConfig node payload)) :
    SameCounters agentId live (arrive live (.proxyConfig node payload)) := by
  obtain ⟨-, hcounters, -, hsamples⟩ := arrive_proxyConfig h
  refine ⟨by rw [hcounters], ?_⟩
  rw [LiveState.samplesOf, hsamples, LiveState.samplesOf]

/-- A batch of another node. -/
theorem arrive_proxyConfig_other (h : Accepted live (.proxyConfig node payload))
    (hother : payload.nodeId ≠ agentId) :
    SameConfig agentId live (arrive live (.proxyConfig node payload)) := by
  obtain ⟨hsnapshots, -, hconfigs, -⟩ := arrive_proxyConfig h
  constructor
  · intro snapshot hnode
    rw [hsnapshots, mem_writtenSnapshots_other]
    rw [hnode, ← h.1]
    exact hother.symm
  · rw [LiveState.configsOf, hconfigs, List.filter_append, LiveState.configsOf]
    simp [hother]

/-- The snapshot is fresh after a batch exactly if nothing accepted before is newer. -/
theorem freshConfig_proxyConfig (h : Accepted live (.proxyConfig node payload))
    (hfresh : FreshConfig payload.nodeId live) :
    FreshConfig payload.nodeId (arrive live (.proxyConfig node payload)) ↔
      ∀ earlier ∈ live.configsOf payload.nodeId, earlier.sampledAt ≤ payload.sampledAt := by
  obtain ⟨hsnapshots, -, hconfigs, -⟩ := arrive_proxyConfig h
  let old := live.store.snapshots.find? fun other => other.nodeId == node.agentId
  have hmem : ∀ snapshot : ProxyConfigSnapshot, snapshot.nodeId = payload.nodeId →
      (snapshot ∈ (arrive live (.proxyConfig node payload)).store.snapshots ↔
        snapshot = refreshedSnapshot node payload old) := by
    intro snapshot hnode
    rw [hsnapshots]
    exact mem_writtenSnapshots_self (hnode.trans h.1)
  have hof : (arrive live (.proxyConfig node payload)).configsOf payload.nodeId =
      live.configsOf payload.nodeId ++ [payload] := by
    rw [LiveState.configsOf, hconfigs, List.filter_append, LiveState.configsOf]
    simp
  have hnode : (refreshedSnapshot node payload old).nodeId = payload.nodeId := h.1.symm
  constructor
  · intro hafter
    have hsnapshot := hafter.snapshot _ ((hmem _ hnode).mpr rfl) hnode
    obtain ⟨newest, hnewest, htime⟩ := hsnapshot.sampledAt
    rw [hof] at hnewest
    intro earlier hearlier
    calc earlier.sampledAt ≤ newest.sampledAt := hnewest.2 earlier (List.mem_append_left _ hearlier)
      _ = payload.sampledAt := htime.symm
  · intro hall
    constructor
    · intro _
      exact ⟨refreshedSnapshot node payload old, (hmem _ hnode).mpr rfl, hnode⟩
    · intro snapshot hstored hself
      rw [(hmem snapshot hself).mp hstored]
      constructor
      · rw [hof]
        exact ⟨payload, newest_concat.mpr hall, rfl⟩
      · intro hne
        have havailable : (arrive live (.proxyConfig node payload)).availableOf payload.nodeId =
            live.availableOf payload.nodeId ++
              [payload].filter AgentProxyConfigBatch.apiAvailable := by
          rw [LiveState.availableOf, hof, List.filter_append, LiveState.availableOf]
        rw [havailable] at hne ⊢
        cases hapi : payload.apiAvailable with
        | true =>
            refine ⟨payload, ?_, by simp [refreshedSnapshot, hapi, AgentProxyConfigBatch.kept]⟩
            rw [List.filter_cons_of_pos hapi, List.filter_nil]
            refine newest_concat.mpr fun earlier hearlier => ?_
            exact hall earlier (List.mem_of_mem_filter hearlier)
        | false =>
            -- The groups of the snapshot before are kept.
            have hfilter : [payload].filter AgentProxyConfigBatch.apiAvailable = [] := by
              simp [hapi]
            rw [hfilter, List.append_nil] at hne ⊢
            have hconfigs : live.configsOf payload.nodeId ≠ [] := by
              intro hnil
              rw [LiveState.availableOf, hnil] at hne
              exact hne rfl
            obtain ⟨stored, hstored, hself⟩ := hfresh.stored hconfigs
            obtain ⟨kept, hkept⟩ : ∃ kept, old = some kept := by
              refine Option.isSome_iff_exists.mp (List.find?_isSome.mpr ⟨stored, hstored, ?_⟩)
              rw [beq_iff_eq, hself, h.1]
            have hkeptNode := List.find?_some hkept
            rw [beq_iff_eq, ← h.1] at hkeptNode
            obtain ⟨newest, hnewest, hgroups⟩ :=
              (hfresh.snapshot kept (List.mem_of_find?_eq_some hkept) hkeptNode).groups hne
            refine ⟨newest, hnewest, ?_⟩
            simp [refreshedSnapshot, hapi, hkept, hgroups]

end ProxyConfig

section Connections

variable {agentId : String} {live : LiveState} {node : Node} {payload : AgentConnectionBatch}

theorem arrive_connections_config (h : Accepted live (.connections node payload)) :
    SameConfig agentId live (arrive live (.connections node payload)) := by
  obtain ⟨hsnapshots, -, hconfigs, -⟩ := arrive_connections h
  refine ⟨fun snapshot _ => by rw [hsnapshots], ?_⟩
  rw [LiveState.configsOf, hconfigs, LiveState.configsOf]

theorem samplesOf_connections (h : Accepted live (.connections node payload)) :
    (arrive live (.connections node payload)).samplesOf agentId =
      live.samplesOf agentId ++ if payload.nodeId = agentId then payload.snapshots else [] := by
  obtain ⟨-, -, -, hsamples⟩ := arrive_connections h
  rw [LiveState.samplesOf, hsamples, List.filter_append, List.map_append, LiveState.samplesOf, h.1]
  split
  · rename_i hself
    simp [List.filter_map, Function.comp_def, hself]
  · rename_i hother
    simp [List.filter_map, Function.comp_def, hother]

theorem arrive_connections_other (h : Accepted live (.connections node payload))
    (hother : payload.nodeId ≠ agentId) :
    SameCounters agentId live (arrive live (.connections node payload)) := by
  obtain ⟨-, hcounters, -, -⟩ := arrive_connections h
  constructor
  · rw [hcounters, refreshedCounters]
    have hne : agentId ≠ node.agentId := h.1 ▸ Ne.symm hother
    cases payload.snapshots.argmax ConnectionSnapshotIn.sampledAt with
    | none => rfl
    | some latest => exact Function.update_of_ne hne latest.counters live.counters
  · rw [samplesOf_connections h, if_neg hother, List.append_nil]

theorem newest_argmax {snapshots : List ConnectionSnapshotIn} {latest : ConnectionSnapshotIn}
    (h : latest ∈ snapshots.argmax ConnectionSnapshotIn.sampledAt) :
    Newest ConnectionSnapshotIn.sampledAt snapshots latest :=
  ⟨List.argmax_mem h, fun _ hother => List.le_of_mem_argmax hother h⟩

/-- The counters are fresh after a batch exactly if its newest sample is in time. -/
theorem freshCounters_connections (h : Accepted live (.connections node payload))
    (hfresh : FreshCounters payload.nodeId live) :
    FreshCounters payload.nodeId (arrive live (.connections node payload)) ↔
      InTime payload.nodeId live (.connections node payload) := by
  obtain ⟨-, hcounters, -, -⟩ := arrive_connections h
  have hsamples := @samplesOf_connections payload.nodeId _ _ _ h
  rw [if_pos rfl] at hsamples
  rw [FreshCounters, hsamples, hcounters, refreshedCounters, InTime]
  cases hlatest : payload.snapshots.argmax ConnectionSnapshotIn.sampledAt with
  | none =>
      rw [List.argmax_eq_none.mp hlatest, List.append_nil]
      refine iff_of_true hfresh fun _ latest hmem => ?_
      cases hmem
  | some latest =>
      have hnewest := newest_argmax hlatest
      have hne : live.samplesOf payload.nodeId ++ payload.snapshots ≠ [] := by
        intro hnil
        exact List.ne_nil_of_mem hnewest.1 (List.append_eq_nil_iff.mp hnil).2
      have hself : Function.update live.counters node.agentId latest.counters payload.nodeId =
          latest.counters := by
        rw [h.1, Function.update_self]
      simp only [hself, newest_append hnewest]
      constructor
      · intro hafter _ other hother
        rw [Option.mem_some_iff] at hother
        subst hother
        obtain ⟨sample, (⟨-, hall⟩ | ⟨hold, -⟩), heq⟩ := hafter hne
        · exact .inl hall
        · exact .inr ⟨sample, hold, heq.symm⟩
      · intro hin _
        rcases hin trivial latest rfl with hall | ⟨earlier, hold, heq⟩
        · exact ⟨latest, .inl ⟨hnewest, hall⟩, rfl⟩
        · -- Either sample may be the newer one.
          rcases le_total latest.sampledAt earlier.sampledAt with hle | hle
          · exact ⟨earlier, .inr ⟨hold, hle⟩, heq.symm⟩
          · refine ⟨latest, .inl ⟨hnewest, fun other hother => ?_⟩, rfl⟩
            exact (hold.2 other hother).trans hle

end Connections

/-- An arrival keeps the live state of a node fresh exactly if it is in time or not accepted. -/
theorem fresh_arrive {agentId : String} {live : LiveState} (arrival : Arrival)
    (hfresh : Fresh agentId live) :
    Fresh agentId (arrive live arrival) ↔ KeepsFresh agentId live arrival := by
  by_cases haccepted : Accepted live arrival
  · have hkeeps : KeepsFresh agentId live arrival ↔ InTime agentId live arrival :=
      ⟨fun h => h haccepted, fun h _ => h⟩
    rw [hkeeps]
    cases arrival with
    | proxyConfig node payload =>
        have hcounters := (arrive_proxyConfig_counters haccepted).fresh_iff.mpr hfresh.counters
        by_cases hself : payload.nodeId = agentId
        · subst hself
          have hin := freshConfig_proxyConfig haccepted hfresh.config
          constructor
          · exact fun hafter _ => hin.mp hafter.config
          · exact fun hall => ⟨hin.mpr (hall rfl), hcounters⟩
        · have hconfig := (arrive_proxyConfig_other haccepted hself).fresh_iff.mpr hfresh.config
          exact iff_of_true ⟨hconfig, hcounters⟩ fun h => absurd h hself
    | connections node payload =>
        have hconfig := (arrive_connections_config haccepted).fresh_iff.mpr hfresh.config
        by_cases hself : payload.nodeId = agentId
        · subst hself
          rw [← freshCounters_connections haccepted hfresh.counters]
          exact ⟨Fresh.counters, fun hcounters => ⟨hconfig, hcounters⟩⟩
        · have hcounters := (arrive_connections_other haccepted hself).fresh_iff.mpr hfresh.counters
          exact iff_of_true ⟨hconfig, hcounters⟩ fun h => absurd h hself
  · obtain ⟨hconfig, hcounters⟩ := @arrive_refused_same agentId _ _ haccepted
    refine iff_of_true ⟨hconfig.fresh_iff.mpr hfresh.config, ?_⟩ fun h => absurd h haccepted
    exact hcounters.fresh_iff.mpr hfresh.counters

/-! ## Every order of arrivals -/

/-- An arrival can always happen. -/
def arrivalStep (live : LiveState) (arrival : Arrival) : Option LiveState :=
  some (arrive live arrival)

theorem run_arrivals (live : LiveState) (arrivals : List Arrival) :
    Transitions.run arrivalStep live arrivals = some (arrivals.foldl arrive live) := by
  induction arrivals generalizing live with
  | nil => rfl
  | cons arrival arrivals ih => exact ih (arrive live arrival)

theorem fresh_start {agentId : String} {store : Store} (counters : String → Counters)
    (h : ∀ snapshot ∈ store.snapshots, snapshot.nodeId ≠ agentId) :
    Fresh agentId (.start store counters) := by
  refine ⟨⟨fun hne => absurd rfl hne, fun snapshot hmem hnode => ?_⟩, fun hne => absurd rfl hne⟩
  exact absurd hnode (h snapshot hmem)

/-- From a backend without a snapshot of the node, whatever arrives and in whatever order: the live
state of the node is the freshest of what was accepted at every point of the run if and only if
every batch is in time when it is accepted. -/
theorem liveState_fresh_iff (agentId : String) (store : Store) (counters : String → Counters)
    (h : ∀ snapshot ∈ store.snapshots, snapshot.nodeId ≠ agentId) (arrivals : List Arrival) :
    Transitions.Always arrivalStep (Fresh agentId) (.start store counters) arrivals ↔
      Transitions.Meets arrivalStep (KeepsFresh agentId) (.start store counters) arrivals := by
  have hkept : ∀ before arrival after, arrivalStep before arrival = some after → True → True :=
    fun _ _ _ _ _ => trivial
  have hgood : ∀ before arrival after, arrivalStep before arrival = some after → True →
      Fresh agentId before → (Fresh agentId after ↔ KeepsFresh agentId before arrival) := by
    intro before arrival after hstep _ hfresh
    cases hstep
    exact fresh_arrive arrival hfresh
  exact Transitions.always_iff_meets hkept hgood (run_arrivals _ arrivals) trivial
    (fresh_start counters h)

/-! ## A batch that waited in the spool -/

def idleCounters : Counters := ⟨0, 0, 0, 0, 0⟩

def busyCounters : Counters := ⟨12, 4096, 65536, 2048, 1024⟩

/-- The proxy groups at 10, which the first attempt to send failed to deliver. -/
def spooledConfig : AgentProxyConfigBatch :=
  { nodeId := "north-a", batch := ⟨"north-a-p-1", 1, 1⟩, sampledAt := 10, apiAvailable := true
    groups := [⟨"subscription", "edge-a", ["edge-a", "edge-b"], []⟩] }

def liveConfig : AgentProxyConfigBatch :=
  { spooledConfig with
    batch := ⟨"north-a-p-2", 2, 1⟩, sampledAt := 20
    groups := [⟨"subscription", "edge-b", ["edge-b"], []⟩] }

def spooledConnections : AgentConnectionBatch :=
  ⟨"north-a", "north-a-c-1", 1, [⟨10, idleCounters⟩]⟩

def liveConnections : AgentConnectionBatch := ⟨"north-a", "north-a-c-2", 2, [⟨20, busyCounters⟩]⟩

/-- Nothing arrived at the sample installation yet. -/
def idleState : LiveState := .start sampleStore fun _ => idleCounters

theorem notMem_idleState : ∀ snapshot ∈ sampleStore.snapshots, snapshot.nodeId ≠ "north-a" := by
  simp [sampleStore, Store.empty]

/-- In the order in which they were sampled. -/
theorem liveState_fresh_ordered :
    (∀ snapshot ∈ sampleStore.snapshots, snapshot.nodeId ≠ "north-a") ∧
      Transitions.Always arrivalStep (Fresh "north-a") idleState
        [.proxyConfig sampleNode spooledConfig, .proxyConfig sampleNode liveConfig] := by
  refine ⟨notMem_idleState,
    (liveState_fresh_iff "north-a" sampleStore _ notMem_idleState _).mpr ?_⟩
  change Transitions.Meets arrivalStep (KeepsFresh "north-a") idleState _
  have haccepted : Accepted idleState (.proxyConfig sampleNode spooledConfig) := by decide +kernel
  obtain ⟨-, -, hconfigs, -⟩ := arrive_proxyConfig haccepted
  refine (Transitions.meets_cons rfl).mpr ⟨fun _ _ earlier hearlier => ?_,
    (Transitions.meets_cons rfl).mpr ⟨fun _ _ earlier hearlier => ?_, ?_⟩⟩
  · cases hearlier
  · have hmem := List.mem_of_mem_filter hearlier
    rw [hconfigs] at hmem
    rw [List.mem_singleton.mp hmem]
    decide
  · intro prior arrival hprior
    simp at hprior

/-- The batches at 20 are accepted first. When the spool is replayed, the snapshot goes back to the
groups at 10, and the counters to the sample at 10. -/
theorem liveState_goes_back :
    ¬ Transitions.Always arrivalStep (Fresh "north-a") idleState
        [.proxyConfig sampleNode liveConfig, .proxyConfig sampleNode spooledConfig] ∧
      ¬ Transitions.Always arrivalStep (Fresh "north-a") idleState
        [.connections sampleNode liveConnections, .connections sampleNode spooledConnections] := by
  constructor
  · intro hall
    have hfirst := hall [.proxyConfig sampleNode liveConfig] (by simp) _ rfl
    have hsecond := hall _ List.prefix_rfl _ rfl
    have hkeeps := (fresh_arrive (.proxyConfig sampleNode spooledConfig) hfirst).mp hsecond
    have haccepted : Accepted idleState (.proxyConfig sampleNode liveConfig) := by decide +kernel
    obtain ⟨-, -, hconfigs, -⟩ := arrive_proxyConfig haccepted
    have hle : liveConfig.sampledAt ≤ spooledConfig.sampledAt := by
      refine hkeeps (by decide +kernel) rfl liveConfig (List.mem_filter.mpr ⟨?_, rfl⟩)
      rw [hconfigs]
      exact List.mem_singleton_self liveConfig
    exact absurd hle (by decide)
  · intro hall
    have hfirst := hall [.connections sampleNode liveConnections] (by simp) _ rfl
    have hsecond := hall _ List.prefix_rfl _ rfl
    have hkeeps := (fresh_arrive (.connections sampleNode spooledConnections) hfirst).mp hsecond
    have haccepted : Accepted idleState (.connections sampleNode liveConnections) := by
      decide +kernel
    have hsamples :
        (arrive idleState (.connections sampleNode liveConnections)).samplesOf "north-a" =
          [⟨20, busyCounters⟩] := samplesOf_connections haccepted
    rcases hkeeps (by decide +kernel) rfl ⟨10, idleCounters⟩ rfl with hle | ⟨earlier, hnewest, heq⟩
    · have hnot := hle ⟨20, busyCounters⟩ (by rw [hsamples]; exact List.mem_singleton_self _)
      exact absurd hnot (by decide)
    · rw [hsamples] at hnewest
      rw [List.mem_singleton.mp hnewest.1] at heq
      exact absurd heq (by decide)

end Grouproxy.Backend
