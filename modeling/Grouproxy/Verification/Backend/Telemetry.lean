import Mathlib.Data.List.Induction
import Grouproxy.Model.Telemetry

/-! # Exactly-once telemetry

The markers of a node and kind are the batches accepted since the sequence last went back. A
batch is refused only while it is among them or while its sequence is the newest one, so a
resent batch is counted once only as long as nothing older arrived behind it.
-/

namespace Grouproxy.Backend

open Programs

variable {nodeId kind : String}

/-! ## The batches the backend remembers -/

/-- The batches accepted since the sequence last went back. -/
def currentRun (accepted : List Batch) : List Batch :=
  accepted.foldl (fun run b =>
    if ∀ last ∈ run.getLast?, last.sequence < b.sequence then run ++ [b] else [b]) []

/-- A batch is accepted if no marker has its identifier and the newest batch another sequence. -/
def Accepts (accepted : List Batch) (b : Batch) : Prop :=
  b ∉ currentRun accepted ∧ ∀ last ∈ accepted.getLast?, last.sequence ≠ b.sequence

instance (accepted : List Batch) (b : Batch) : Decidable (Accepts accepted b) :=
  inferInstanceAs (Decidable (_ ∧ _))

/-- The accepted batches, in order, after further deliveries. -/
def acceptedAfter : List Batch → List Batch → List Batch
  | accepted, [] => accepted
  | accepted, b :: rest =>
    acceptedAfter (if Accepts accepted b then accepted ++ [b] else accepted) rest

theorem currentRun_concat (accepted : List Batch) (b : Batch) :
    currentRun (accepted ++ [b]) =
      if ∀ last ∈ (currentRun accepted).getLast?, last.sequence < b.sequence then
        currentRun accepted ++ [b]
      else [b] := by
  rw [currentRun, List.foldl_append]
  rfl

theorem getLast?_currentRun (accepted : List Batch) :
    (currentRun accepted).getLast? = accepted.getLast? := by
  induction accepted using List.reverseRecOn with
  | nil => rfl
  | append_singleton accepted b _ =>
      rw [currentRun_concat]
      split
      · simp
      · simp

theorem mem_of_mem_currentRun {accepted : List Batch} {b : Batch}
    (h : b ∈ currentRun accepted) : b ∈ accepted := by
  induction accepted using List.reverseRecOn with
  | nil => exact h
  | append_singleton accepted c ih =>
      rw [currentRun_concat] at h
      split at h
      · rcases List.mem_append.mp h with h | h
        · exact List.mem_append_left _ (ih h)
        · exact List.mem_append_right _ h
      · exact List.mem_append_right _ h

/-- The sequences go up. -/
def Ascending (batches : List Batch) : Prop :=
  batches.Pairwise fun x y => x.sequence < y.sequence

instance (batches : List Batch) : Decidable (Ascending batches) :=
  inferInstanceAs (Decidable (List.Pairwise _ _))

theorem Ascending.le_last {batches : List Batch} {b last : Batch} (h : Ascending batches)
    (hb : b ∈ batches) (hlast : last ∈ batches.getLast?) : b.sequence ≤ last.sequence := by
  have hne := List.ne_nil_of_mem hb
  rw [List.getLast?_eq_some_getLast hne, Option.mem_def, Option.some.injEq] at hlast
  rw [Ascending, ← List.dropLast_append_getLast hne, List.pairwise_append, hlast] at h
  rw [← List.dropLast_append_getLast hne, List.mem_append, hlast] at hb
  rcases hb with hb | hb
  · exact (h.2.2 b hb last (List.mem_singleton_self last)).le
  · rw [List.mem_singleton.mp hb]

theorem ascending_concat {batches : List Batch} {b : Batch} :
    Ascending (batches ++ [b]) ↔
      Ascending batches ∧ ∀ last ∈ batches.getLast?, last.sequence < b.sequence := by
  rw [Ascending, List.pairwise_append]
  constructor
  · intro h
    refine ⟨h.1, fun last hlast => ?_⟩
    exact h.2.2 last (List.mem_of_mem_getLast? hlast) b (List.mem_singleton_self b)
  · intro h
    refine ⟨h.1, List.pairwise_singleton _ b, fun x hx y hy => ?_⟩
    rw [List.mem_singleton.mp hy]
    have hlast := List.getLast?_eq_some_getLast (List.ne_nil_of_mem hx)
    exact (Ascending.le_last h.1 hx hlast).trans_lt (h.2 _ hlast)

theorem currentRun_ascending (accepted : List Batch) : Ascending (currentRun accepted) := by
  induction accepted using List.reverseRecOn with
  | nil => exact List.Pairwise.nil
  | append_singleton accepted b ih =>
      rw [currentRun_concat]
      split
      · rename_i hlt
        exact ascending_concat.mpr ⟨ih, hlt⟩
      · exact List.pairwise_singleton _ b

/-! ## Orderly deliveries -/

/-- From the batch on, the sequences went up. -/
def AscendingFrom (b : Batch) (arrived : List Batch) : Prop :=
  Ascending (arrived.dropWhile (· ≠ b))

instance (b : Batch) (arrived : List Batch) : Decidable (AscendingFrom b arrived) :=
  inferInstanceAs (Decidable (Ascending _))

/-- A new batch does not repeat the sequence of the new batch before it, and a batch that comes
again either finds the sequences of the new batches ascending since its first arrival, or has
the sequence of the newest of them. `arrived` lists the first arrivals so far. -/
def Orderly : List Batch → List Batch → Prop
  | _, [] => True
  | arrived, b :: rest =>
    if b ∈ arrived then
      (AscendingFrom b arrived ∨ ∃ last ∈ arrived.getLast?, last.sequence = b.sequence) ∧
        Orderly arrived rest
    else
      (∀ last ∈ arrived.getLast?, last.sequence ≠ b.sequence) ∧ Orderly (arrived ++ [b]) rest

theorem dropWhile_concat {b : Batch} {xs : List Batch} (h : b ∈ xs) (c : Batch) :
    (xs ++ [c]).dropWhile (· ≠ b) = xs.dropWhile (· ≠ b) ++ [c] := by
  have hne : xs.dropWhile (· ≠ b) ≠ [] := by
    rw [ne_eq, List.dropWhile_eq_nil_iff]
    intro hall
    simpa using hall b h
  rw [List.dropWhile_append, if_neg (by simpa using hne)]

theorem getLast?_dropWhile {b : Batch} {xs : List Batch} (h : b ∈ xs) :
    (xs.dropWhile (· ≠ b)).getLast? = xs.getLast? := by
  induction xs using List.reverseRecOn with
  | nil => cases h
  | append_singleton xs c _ =>
      by_cases hb : b ∈ xs
      · rw [dropWhile_concat hb, List.getLast?_concat, List.getLast?_concat]
      · have hall : xs.dropWhile (· ≠ b) = [] := by
          rw [List.dropWhile_eq_nil_iff]
          intro x hx
          have hxb : x ≠ b := fun hxb => hb (hxb ▸ hx)
          simpa using hxb
        have hc : b = c := by
          rcases List.mem_append.mp h with h | h
          · exact absurd h hb
          · exact List.mem_singleton.mp h
        rw [List.dropWhile_append, hall]
        simp [hc]

theorem ascendingFrom_concat {b : Batch} {arrived : List Batch} (hb : b ∈ arrived) (c : Batch) :
    AscendingFrom b (arrived ++ [c]) ↔
      AscendingFrom b arrived ∧ ∀ last ∈ arrived.getLast?, last.sequence < c.sequence := by
  rw [AscendingFrom, dropWhile_concat hb, ascending_concat, getLast?_dropWhile hb, AscendingFrom]

theorem ascendingFrom_last {b : Batch} {arrived : List Batch} (hb : b ∉ arrived) :
    AscendingFrom b (arrived ++ [b]) := by
  have hall : arrived.dropWhile (· ≠ b) = [] := by
    rw [List.dropWhile_eq_nil_iff]
    intro x hx
    have hxb : x ≠ b := fun hxb => hb (hxb ▸ hx)
    simpa using hxb
  rw [AscendingFrom, List.dropWhile_append, hall]
  simp [Ascending]

/-- The markers are the batches from which on the sequences went up. -/
theorem mem_currentRun_iff {accepted : List Batch} (hnodup : accepted.Nodup) {b : Batch}
    (hb : b ∈ accepted) : b ∈ currentRun accepted ↔ AscendingFrom b accepted := by
  induction accepted using List.reverseRecOn with
  | nil => cases hb
  | append_singleton accepted c ih =>
      have hsplit := List.nodup_append.mp hnodup
      rw [currentRun_concat, getLast?_currentRun]
      by_cases hmem : b ∈ accepted
      · have hbc : b ≠ c := hsplit.2.2 b hmem c (List.mem_singleton_self c)
        rw [ascendingFrom_concat hmem, ← ih hsplit.1 hmem]
        split
        · rename_i hlt
          rw [and_iff_left hlt, List.mem_append, List.mem_singleton, or_iff_left hbc]
        · rename_i hlt
          rw [List.mem_singleton]
          exact iff_of_false hbc fun h => hlt h.2
      · have hbc : b = c := by
          rcases List.mem_append.mp hb with h | h
          · exact absurd h hmem
          · exact List.mem_singleton.mp h
        subst hbc
        refine iff_of_true ?_ (ascendingFrom_last hmem)
        split
        · simp
        · simp

/-- A batch that already arrived is refused, in a log without repetitions. -/
theorem not_accepts_iff {accepted : List Batch} (hnodup : accepted.Nodup) {b : Batch}
    (hb : b ∈ accepted) :
    ¬ Accepts accepted b ↔
      AscendingFrom b accepted ∨ ∃ last ∈ accepted.getLast?, last.sequence = b.sequence := by
  rw [Accepts, ← mem_currentRun_iff hnodup hb]
  by_cases h : b ∈ currentRun accepted
  · simp [h]
  · simp [h]

/-- A batch that arrives for the first time. -/
theorem accepts_iff_of_notMem {accepted : List Batch} {b : Batch} (hb : b ∉ accepted) :
    Accepts accepted b ↔ ∀ last ∈ accepted.getLast?, last.sequence ≠ b.sequence := by
  have hrun : b ∉ currentRun accepted := fun h => hb (mem_of_mem_currentRun h)
  simp [Accepts, hrun]

/-! ## Counting acceptances -/

/-- Every batch that arrived was accepted once, now and after each further delivery. -/
def OnceThroughout (accepted rest : List Batch) : Prop :=
  ∀ n, ∀ b ∈ accepted ++ rest.take n, (acceptedAfter accepted (rest.take n)).count b = 1

theorem onceThroughout_cons {accepted : List Batch} (hnodup : accepted.Nodup) (b : Batch)
    (rest : List Batch) :
    OnceThroughout accepted (b :: rest) ↔
      ∀ n, ∀ c ∈ accepted ++ b :: rest.take n, (acceptedAfter
        (if Accepts accepted b then accepted ++ [b] else accepted) (rest.take n)).count c = 1 := by
  constructor
  · intro h n
    exact h (n + 1)
  · intro h n
    cases n with
    | zero =>
        intro c hc
        rw [List.take_zero, List.append_nil] at hc
        rw [List.take_zero, acceptedAfter]
        exact List.count_eq_one_of_mem hnodup hc
    | succ n => exact h n

/-- With a log of first arrivals, exactly-once is orderliness of what follows. -/
theorem onceThroughout_iff {accepted : List Batch} (hnodup : accepted.Nodup) (rest : List Batch) :
    OnceThroughout accepted rest ↔ Orderly accepted rest := by
  induction rest generalizing accepted with
  | nil =>
      refine iff_of_true (fun n b hb => ?_) trivial
      rw [List.take_nil, List.append_nil] at hb
      rw [List.take_nil]
      exact List.count_eq_one_of_mem hnodup hb
  | cons b rest ih =>
      rw [onceThroughout_cons hnodup, Orderly]
      by_cases hb : b ∈ accepted
      · rw [if_pos hb, ← not_accepts_iff hnodup hb, ← ih hnodup]
        by_cases hyes : Accepts accepted b
        · -- The second acceptance shows at once.
          refine iff_of_false (fun h => ?_) fun h => h.1 hyes
          have hone := h 0 b (by simp)
          rw [if_pos hyes, List.take_zero, acceptedAfter, List.count_append,
            List.count_eq_one_of_mem hnodup hb] at hone
          simp at hone
        · rw [if_neg hyes, and_iff_right hyes]
          have hmem : ∀ n c, c ∈ accepted ++ b :: rest.take n ↔ c ∈ accepted ++ rest.take n := by
            intro n c
            simp only [List.mem_append, List.mem_cons]
            constructor
            · rintro (h | h | h)
              · exact .inl h
              · exact .inl (h ▸ hb)
              · exact .inr h
            · rintro (h | h)
              · exact .inl h
              · exact .inr (.inr h)
          simp only [hmem, OnceThroughout]
      · rw [if_neg hb, ← accepts_iff_of_notMem hb]
        by_cases hyes : Accepts accepted b
        · have hconcat : (accepted ++ [b]).Nodup := by
            rw [List.nodup_append]
            refine ⟨hnodup, List.nodup_singleton b, fun x hx y hy => ?_⟩
            rw [List.mem_singleton.mp hy]
            exact fun hxb => hb (hxb ▸ hx)
          rw [if_pos hyes, and_iff_right hyes, ← ih hconcat]
          simp only [OnceThroughout, List.append_assoc, List.singleton_append]
        · -- The loss shows at once.
          refine iff_of_false (fun h => ?_) fun h => hyes h.1
          have hone := h 0 b (by simp)
          rw [if_neg hyes, List.take_zero, acceptedAfter, List.count_eq_zero_of_not_mem hb] at hone
          cases hone

/-! ## The store keeps the markers -/

def cursorOf (nodeId kind : String) (b : Batch) : TelemetryCursor :=
  ⟨nodeId, kind, b.sequence, b.batchId⟩

/-- What the store holds for a node and kind, after the accepted batches. -/
structure Records (nodeId kind : String) (accepted : List Batch) (s : Store) : Prop where
  batches : s.batches.filter (·.isOf nodeId kind) =
    (currentRun accepted).map (newTelemetryBatch nodeId kind)
  cursors : s.cursors.filter (·.isOf nodeId kind) =
    accepted.getLast?.toList.map (cursorOf nodeId kind)

@[simp] theorem newTelemetryBatch_isOf (b : Batch) :
    (newTelemetryBatch nodeId kind b).isOf nodeId kind = true := by
  simp [TelemetryBatch.isOf, newTelemetryBatch]

@[simp] theorem cursorOf_isOf (b : Batch) : (cursorOf nodeId kind b).isOf nodeId kind = true := by
  simp [TelemetryCursor.isOf, cursorOf]

theorem filter_updateOne {α : Type} (belongs qualifies : α → Bool) (set : α → α)
    (hset : ∀ a, belongs (set a) = belongs a) (as : List α) :
    (updateOne (fun a => belongs a && qualifies a) set as).filter belongs =
      updateOne qualifies set (as.filter belongs) := by
  induction as with
  | nil => rfl
  | cons a as ih =>
      rw [updateOne]
      cases hb : belongs a with
      | false => simpa [hb] using ih
      | true =>
          cases hq : qualifies a with
          | false => simpa [hb, hq, updateOne] using ih
          | true => simp [hb, hq, hset, updateOne]

/-- A conditional cursor update, seen through the documents of the node and kind. -/
theorem updateCursor_run {last : Option Batch} {s : Store}
    (h : s.cursors.filter (·.isOf nodeId kind) = last.toList.map (cursorOf nodeId kind))
    (qualifies : Int → Bool) (b : Batch) :
    ∃ cursors, (updateCursor nodeId kind qualifies b).run s =
        (.ok (last.any fun c => qualifies c.sequence), { s with cursors := cursors }) ∧
      cursors.filter (·.isOf nodeId kind) =
        if last.any fun c => qualifies c.sequence then [cursorOf nodeId kind b]
        else last.toList.map (cursorOf nodeId kind) := by
  let set := fun c : TelemetryCursor =>
    { c with lastSequence := b.sequence, lastBatchId := b.batchId }
  refine ⟨updateOne (fun c => c.isOf nodeId kind && qualifies c.lastSequence) set s.cursors, ?_, ?_⟩
  · have hany : (s.cursors.any fun c => c.isOf nodeId kind && qualifies c.lastSequence) =
        last.any fun c => qualifies c.sequence := by
      rw [← List.any_filter, h]
      cases last with
      | none => rfl
      | some last => simp [cursorOf]
    rw [← hany]
    rfl
  · rw [filter_updateOne (·.isOf nodeId kind) (fun c => qualifies c.lastSequence) set
      (fun _ => rfl), h]
    cases last with
    | none => rfl
    | some last => simp [updateOne, cursorOf, set]

/-- The outcome of the cursor part, from the batch the cursor stands at. -/
def reserved (last : Option Batch) (b : Batch) : Option Bool :=
  match last with
  | none => some false
  | some last =>
    if last.sequence < b.sequence then some false
    else if b.sequence < last.sequence then some true
    else none

theorem TelemetryCursor.insert_run {last : Option Batch} {s : Store}
    (h : s.cursors.filter (·.isOf nodeId kind) = last.toList.map (cursorOf nodeId kind))
    (b : Batch) :
    (TelemetryCursor.insert ⟨nodeId, kind, b.sequence, b.batchId⟩).run s =
      if last.isSome then (.error .duplicateKey, s)
      else (.ok (), { s with cursors := s.cursors ++ [cursorOf nodeId kind b] }) := by
  have hany : (s.cursors.any (·.isOf nodeId kind)) = last.isSome := by
    have hfilter := List.any_filter (p := fun c => c.isOf nodeId kind) (q := fun _ => true)
      (l := s.cursors)
    simp only [Bool.and_true] at hfilter
    rw [← hfilter, h]
    cases last with
    | none => rfl
    | some last => rfl
  rw [TelemetryCursor.insert, Backend.insert, Prog.run_atomic]
  simp only [hany]
  rfl

theorem reserveSequence_run {last : Option Batch} {s : Store}
    (h : s.cursors.filter (·.isOf nodeId kind) = last.toList.map (cursorOf nodeId kind))
    (b : Batch) :
    ∃ cursors, (reserveSequence nodeId kind b).run s =
        (.ok (reserved last b), { s with cursors := cursors }) ∧
      cursors.filter (·.isOf nodeId kind) =
        if (reserved last b).isSome then [cursorOf nodeId kind b]
        else last.toList.map (cursorOf nodeId kind) := by
  obtain ⟨c₁, hrun₁, hc₁⟩ := updateCursor_run h (fun last => last < b.sequence) b
  rw [reserveSequence, Prog.run_bind_ok (show (advanceCursor nodeId kind b).run s = _ from hrun₁)]
  cases last with
  | none =>
      simp only [Option.any_none, Bool.false_eq_true, if_false] at hc₁ ⊢
      obtain ⟨c₂, hrun₂, hc₂⟩ := updateCursor_run (s := { s with cursors := c₁ }) hc₁
        (fun last => b.sequence < last) b
      rw [Prog.run_bind_ok hrun₂]
      simp only [Option.any_none, Bool.false_eq_true, if_false] at hc₂ ⊢
      have hinsert := TelemetryCursor.insert_run (s := { s with cursors := c₂ }) hc₂ b
      simp only [Option.isSome_none, Bool.false_eq_true, if_false] at hinsert
      refine ⟨c₂ ++ [cursorOf nodeId kind b], ?_, ?_⟩
      · refine Prog.run_tryCatch_ok ?_ _
        rw [Prog.run_bind_ok hinsert]
        rfl
      · rw [List.filter_append, hc₂]
        simp [reserved]
  | some last =>
      by_cases hlt : last.sequence < b.sequence
      · refine ⟨c₁, ?_, ?_⟩
        · simp [reserved, hlt]
        · simpa [reserved, hlt] using hc₁
      · simp only [Option.any_some, hlt, decide_false, Bool.false_eq_true, if_false] at hc₁ ⊢
        obtain ⟨c₂, hrun₂, hc₂⟩ := updateCursor_run (s := { s with cursors := c₁ }) hc₁
          (fun last => b.sequence < last) b
        rw [Prog.run_bind_ok hrun₂]
        by_cases hgt : b.sequence < last.sequence
        · refine ⟨c₂, ?_, ?_⟩
          · simp [reserved, hlt, hgt]
          · simpa [reserved, hlt, hgt] using hc₂
        · simp only [Option.any_some, hgt, decide_false, Bool.false_eq_true, if_false] at hc₂ ⊢
          have hinsert := TelemetryCursor.insert_run (s := { s with cursors := c₂ }) hc₂ b
          simp only [Option.isSome_some, if_true] at hinsert
          obtain ⟨c₃, hrun₃, hc₃⟩ := updateCursor_run (s := { s with cursors := c₂ }) hc₂
            (fun last => last < b.sequence) b
          simp only [Option.any_some, hlt, decide_false, Bool.false_eq_true, if_false] at hrun₃ hc₃
          refine ⟨c₃, ?_, ?_⟩
          · rw [Prog.run_tryCatch_error (Prog.run_bind_error hinsert _),
              Prog.run_bind_ok (show (advanceCursor nodeId kind b).run _ = _ from hrun₃)]
            simp [reserved, hlt, hgt]
          · simpa [reserved, hlt, hgt] using hc₃

theorem recordBatch_run {markers : List Batch} {s : Store} {b : Batch}
    (h : s.batches.filter (·.isOf nodeId kind) = markers.map (newTelemetryBatch nodeId kind))
    (hfree : ∀ m ∈ markers, m.batchId ≠ b.batchId ∧ m.sequence ≠ b.sequence) :
    (recordBatch nodeId kind b).run s =
      (.ok true, { s with batches := s.batches ++ [newTelemetryBatch nodeId kind b] }) := by
  have hany : (s.batches.any fun other => other.isOf nodeId kind &&
      (other.batchId == b.batchId || other.sequence == b.sequence)) = false := by
    rw [← List.any_filter, h, List.any_map, List.any_eq_false]
    intro m hm
    simpa [newTelemetryBatch] using hfree m hm
  have hinsert : (newTelemetryBatch nodeId kind b).insert.run s =
      (.ok (), { s with batches := s.batches ++ [newTelemetryBatch nodeId kind b] }) := by
    rw [TelemetryBatch.insert, Backend.insert, Prog.run_atomic]
    simp only [newTelemetryBatch, hany, Bool.false_eq_true, if_false]
  refine Prog.run_tryCatch_ok ?_ _
  rw [Prog.run_bind_ok hinsert]
  rfl

/-- Recording a batch behind the markers it does not collide with. -/
theorem recordBatch_records {accepted markers : List Batch} {s : Store} {b : Batch}
    (hbatches : s.batches.filter (·.isOf nodeId kind) =
      markers.map (newTelemetryBatch nodeId kind))
    (hcursors : s.cursors.filter (·.isOf nodeId kind) = [cursorOf nodeId kind b])
    (hfree : ∀ m ∈ markers, m.batchId ≠ b.batchId ∧ m.sequence ≠ b.sequence)
    (hrun : currentRun (accepted ++ [b]) = markers ++ [b]) :
    ∃ s', (recordBatch nodeId kind b).run s = (.ok true, s') ∧
      Records nodeId kind (accepted ++ [b]) s' := by
  refine ⟨_, recordBatch_run hbatches hfree, ?_, ?_⟩
  · rw [List.filter_append, hbatches, hrun]
    simp
  · simpa using hcursors

/-- The marker of a batch is found by its identifier. -/
theorem find?_marker {accepted : List Batch} {s : Store} {b : Batch}
    (h : Records nodeId kind accepted s) (hid : ∀ x ∈ accepted, x.batchId = b.batchId → x = b) :
    (s.batches.find? fun other => other.isOf nodeId kind && other.batchId == b.batchId).isSome =
      decide (b ∈ currentRun accepted) := by
  have hfilter : (s.batches.filter (·.isOf nodeId kind)).find? (·.batchId == b.batchId) =
      s.batches.find? fun other => other.isOf nodeId kind && other.batchId == b.batchId := by
    rw [List.find?_filter]
    simp only [Bool.decide_and, Bool.decide_eq_true]
  rw [← hfilter, h.batches, Bool.eq_iff_iff, List.find?_isSome, decide_eq_true_iff]
  constructor
  · rintro ⟨x, hx, hxb⟩
    rcases List.mem_map.mp hx with ⟨y, hy, rfl⟩
    rw [← hid y (mem_of_mem_currentRun hy) (by simpa [newTelemetryBatch] using hxb)]
    exact hy
  · intro hb
    exact ⟨_, List.mem_map_of_mem hb, by simp [newTelemetryBatch]⟩

theorem reserved_cases (last : Option Batch) (b : Batch) :
    (reserved last b = some false ∧ ∀ l ∈ last, l.sequence < b.sequence) ∨
    (reserved last b = some true ∧ ∃ l ∈ last, b.sequence < l.sequence) ∨
    (reserved last b = none ∧ ∃ l ∈ last, l.sequence = b.sequence) := by
  cases last with
  | none => exact .inl ⟨rfl, by simp⟩
  | some l =>
      rcases lt_trichotomy l.sequence b.sequence with h | h | h
      · exact .inl ⟨by simp [reserved, h], by simpa using h⟩
      · exact .inr (.inr ⟨by simp [reserved, h], by simpa using h⟩)
      · exact .inr (.inl ⟨by simp [reserved, h, h.le], by simpa using h⟩)

/-- The handler accepts what the log of accepted batches says, and keeps the log. -/
theorem acceptTelemetryBatch_run {accepted : List Batch} {s : Store} {b : Batch}
    (h : Records nodeId kind accepted s) (hid : ∀ x ∈ accepted, x.batchId = b.batchId → x = b) :
    ∃ s', (acceptTelemetryBatch nodeId kind b).run s = (.ok (decide (Accepts accepted b)), s') ∧
      Records nodeId kind (if Accepts accepted b then accepted ++ [b] else accepted) s' := by
  have hfind : (find .other fun s : Store => s.batches.find? fun other =>
      other.isOf nodeId kind && other.batchId == b.batchId).run s = (.ok _, s) := rfl
  rw [acceptTelemetryBatch, Prog.run_bind_ok hfind, find?_marker h hid]
  by_cases hmarker : b ∈ currentRun accepted
  · have hno : ¬ Accepts accepted b := fun hyes => hyes.1 hmarker
    refine ⟨s, ?_, ?_⟩
    · simp [hmarker, hno]
    · rwa [if_neg hno]
  · obtain ⟨cursors, hrun, hcursors⟩ := reserveSequence_run h.cursors b
    have hids : ∀ m ∈ currentRun accepted, m.batchId ≠ b.batchId := by
      intro m hm hmb
      exact hmarker (hid m (mem_of_mem_currentRun hm) hmb ▸ hm)
    simp only [hmarker, decide_false, Bool.false_eq_true, if_false]
    rw [Prog.run_bind_ok hrun]
    rcases reserved_cases accepted.getLast? b with ⟨hres, hlast⟩ | ⟨hres, hlast⟩ | ⟨hres, hlast⟩
    · -- The sequence goes on.
      have hyes : Accepts accepted b := ⟨hmarker, fun l hl => (hlast l hl).ne⟩
      have hfree : ∀ m ∈ currentRun accepted,
          m.batchId ≠ b.batchId ∧ m.sequence ≠ b.sequence := by
        intro m hm
        refine ⟨hids m hm, ne_of_lt ?_⟩
        have hne := List.ne_nil_of_mem (mem_of_mem_currentRun hm)
        have hl := List.getLast?_eq_some_getLast hne
        exact ((currentRun_ascending accepted).le_last hm
          (by rw [getLast?_currentRun]; exact hl)).trans_lt (hlast _ hl)
      have hconcat : currentRun (accepted ++ [b]) = currentRun accepted ++ [b] := by
        rw [currentRun_concat, getLast?_currentRun, if_pos hlast]
      rw [hres] at hcursors ⊢
      simpa [hyes] using recordBatch_records (s := { s with cursors := cursors }) h.batches
        (by simpa using hcursors) hfree hconcat
    · -- The sequence went back: the markers are purged first.
      rcases hlast with ⟨l, hl, hgt⟩
      have hyes : Accepts accepted b := by
        refine ⟨hmarker, fun l' hl' => ?_⟩
        rw [Option.mem_unique hl' hl]
        exact hgt.ne'
      have hconcat : currentRun (accepted ++ [b]) = [] ++ [b] := by
        rw [currentRun_concat, getLast?_currentRun, if_neg]
        · rfl
        · intro hall
          exact absurd (hall l hl) hgt.le.not_gt
      rw [hres] at hcursors ⊢
      have hpurge : (purgeTelemetryBatches nodeId kind).run { s with cursors := cursors } =
          (.ok (), { s with cursors := cursors
                            batches := s.batches.filter fun x => !x.isOf nodeId kind }) := rfl
      simp only [if_true]
      rw [Prog.run_bind_ok hpurge, decide_eq_true hyes, if_pos hyes]
      refine recordBatch_records ?_ (by simpa using hcursors) (by simp) hconcat
      rw [List.filter_filter]
      simp
    · -- Another batch has the newest sequence.
      rcases hlast with ⟨l, hl, heq⟩
      have hno : ¬ Accepts accepted b := fun hyes => hyes.2 l hl heq
      rw [hres] at hcursors ⊢
      refine ⟨{ s with cursors := cursors }, ?_, ?_⟩
      · simp [hno]
      · rw [if_neg hno]
        exact ⟨h.batches, by simpa using hcursors⟩

/-! ## Runs of deliveries -/

/-- The handler returned `True`. -/
def isAccepted : Except Failure Bool → Bool
  | .ok answer => answer
  | .error _ => false

/-- How often the batch of an identifier was accepted. -/
def acceptances (batchId : String) (log : List (Batch × Except Failure Bool)) : Nat :=
  log.countP fun entry => entry.1.batchId == batchId && isAccepted entry.2

/-- No batch is accepted twice and every delivered batch is accepted. -/
def ExactlyOnce (log : List (Batch × Except Failure Bool)) : Prop :=
  (∀ batchId, acceptances batchId log ≤ 1) ∧
    ∀ entry ∈ log, 1 ≤ acceptances entry.1.batchId log

theorem deliver_map_fst (nodeId kind : String) (s : Store) (rest : List Batch) :
    (deliver nodeId kind s rest).map Prod.fst = rest := by
  induction rest generalizing s with
  | nil => rfl
  | cons b rest ih => rw [deliver, List.map_cons, ih]

/-- The accepted deliveries of a run, by the log. -/
theorem deliver_accepted {accepted : List Batch} {s : Store} {rest : List Batch}
    (h : Records nodeId kind accepted s)
    (hid : ∀ x ∈ accepted ++ rest, ∀ y ∈ rest, x.batchId = y.batchId → x = y) :
    acceptedAfter accepted rest = accepted ++
      ((deliver nodeId kind s rest).filter fun entry => isAccepted entry.2).map Prod.fst := by
  induction rest generalizing accepted s with
  | nil => simp [acceptedAfter, deliver]
  | cons b rest ih =>
      obtain ⟨s', hrun, hrecords⟩ := acceptTelemetryBatch_run h fun x hx =>
        hid x (List.mem_append_left _ hx) b List.mem_cons_self
      rw [acceptedAfter, deliver, hrun, ih hrecords]
      · by_cases hyes : Accepts accepted b
        · simp [hyes, isAccepted]
        · simp [hyes, isAccepted]
      · intro x hx y hy
        refine hid x ?_ y (List.mem_cons_of_mem b hy)
        split at hx
        · simpa using hx
        · rcases List.mem_append.mp hx with hx | hx
          · exact List.mem_append_left _ hx
          · exact List.mem_append_right _ (List.mem_cons_of_mem b hx)

theorem acceptances_deliver {s : Store} {rest : List Batch} (h : Records nodeId kind [] s)
    (hid : ∀ x ∈ rest, ∀ y ∈ rest, x.batchId = y.batchId → x = y) {b : Batch} (hb : b ∈ rest) :
    acceptances b.batchId (deliver nodeId kind s rest) = (acceptedAfter [] rest).count b := by
  rw [deliver_accepted h hid, List.nil_append, List.count, List.countP_map, List.countP_filter,
    acceptances]
  refine List.countP_congr fun entry hentry => ?_
  have hmem : entry.1 ∈ rest := by
    rw [← deliver_map_fst nodeId kind s rest]
    exact List.mem_map_of_mem hentry
  have hiff : entry.1.batchId = b.batchId ↔ entry.1 = b :=
    ⟨hid entry.1 hmem b hb, fun heq => by rw [heq]⟩
  simp [hiff]

theorem exactlyOnce_iff_count {s : Store} {rest : List Batch} (h : Records nodeId kind [] s)
    (hid : ∀ x ∈ rest, ∀ y ∈ rest, x.batchId = y.batchId → x = y) :
    ExactlyOnce (deliver nodeId kind s rest) ↔
      ∀ b ∈ rest, (acceptedAfter [] rest).count b = 1 := by
  have hmem : ∀ entry ∈ deliver nodeId kind s rest, entry.1 ∈ rest := by
    intro entry hentry
    rw [← deliver_map_fst nodeId kind s rest]
    exact List.mem_map_of_mem hentry
  constructor
  · intro h1 b hb
    rw [← acceptances_deliver h hid hb]
    have hdelivered : b ∈ (deliver nodeId kind s rest).map Prod.fst := by rwa [deliver_map_fst]
    rcases List.mem_map.mp hdelivered with ⟨entry, hentry, heq⟩
    rw [← heq]
    exact le_antisymm (h1.1 _) (h1.2 entry hentry)
  · intro h1
    constructor
    · intro batchId
      by_cases hdelivered : ∃ b ∈ rest, b.batchId = batchId
      · rcases hdelivered with ⟨b, hb, rfl⟩
        rw [acceptances_deliver h hid hb, h1 b hb]
      · -- An identifier that was never delivered was never accepted.
        have hzero : acceptances batchId (deliver nodeId kind s rest) = 0 := by
          refine List.countP_eq_zero.mpr fun entry hentry => ?_
          have hne : entry.1.batchId ≠ batchId :=
            fun heq => hdelivered ⟨entry.1, hmem entry hentry, heq⟩
          simp [hne]
        rw [hzero]
        exact Nat.zero_le 1
    · intro entry hentry
      rw [acceptances_deliver h hid (hmem entry hentry), h1 entry.1 (hmem entry hentry)]

theorem batch_eq_of_batchId_eq {sent : List Batch} (h : (sent.map Batch.batchId).Nodup)
    {x y : Batch} (hx : x ∈ sent) (hy : y ∈ sent) (hid : x.batchId = y.batchId) : x = y :=
  List.inj_on_of_nodup_map h hx hy hid

/-- Batches of a monitor, delivered in any order and any number of times to a backend that knows
nothing of the node and kind yet, are ingested exactly once at every point of the run if and
only if the deliveries are orderly. -/
theorem deliver_exactlyOnce_iff (nodeId kind : String) (events : List MonitorEvent)
    (hids : ((sentBatches 0 events).map Batch.batchId).Nodup) (s : Store)
    (hbatches : ∀ b ∈ s.batches, b.isOf nodeId kind = false)
    (hcursors : ∀ c ∈ s.cursors, c.isOf nodeId kind = false)
    (deliveries : List Batch) (hsent : ∀ b ∈ deliveries, b ∈ sentBatches 0 events) :
    (∀ n, ExactlyOnce (deliver nodeId kind s (deliveries.take n))) ↔ Orderly [] deliveries := by
  have hrecords : Records nodeId kind [] s := by
    constructor
    · rw [List.filter_eq_nil_iff.mpr]
      · rfl
      · intro b hb
        simp [hbatches b hb]
    · rw [List.filter_eq_nil_iff.mpr]
      · rfl
      · intro c hc
        simp [hcursors c hc]
  have htake : ∀ n, ExactlyOnce (deliver nodeId kind s (deliveries.take n)) ↔
      ∀ b ∈ deliveries.take n, (acceptedAfter [] (deliveries.take n)).count b = 1 := by
    intro n
    apply exactlyOnce_iff_count hrecords
    intro x hx y hy
    exact batch_eq_of_batchId_eq hids (hsent x (List.mem_of_mem_take hx))
      (hsent y (List.mem_of_mem_take hy))
  rw [← onceThroughout_iff List.nodup_nil]
  simp only [htake, OnceThroughout, List.nil_append]

def sampleEvents : List MonitorEvent := [.batch "north-logs-1" 4, .batch "north-logs-2" 7]

def firstBatch : Batch := ⟨"north-logs-1", 1, 4⟩

def secondBatch : Batch := ⟨"north-logs-2", 2, 7⟩

/-- A batch resent before anything older arrives. -/
theorem deliver_exactlyOnce_resent :
    Orderly [] [firstBatch, secondBatch, firstBatch] ∧
      ∀ n, ExactlyOnce (deliver "north" "logs" Store.empty
        ([firstBatch, secondBatch, firstBatch].take n)) := by
  have horderly : Orderly [] [firstBatch, secondBatch, firstBatch] := by
    simp [Orderly, firstBatch, secondBatch, AscendingFrom, Ascending]
  refine ⟨horderly, ?_⟩
  refine (deliver_exactlyOnce_iff "north" "logs" sampleEvents (by decide) Store.empty
    (by simp [Store.empty]) (by simp [Store.empty]) _ ?_).mpr horderly
  simp [sampleEvents, sentBatches, firstBatch, secondBatch]

/-- The first batch waits in the spool while the second is accepted. When it is replayed, the
markers are purged, and the second batch, resent after a lost response, is accepted again. -/
theorem deliver_accepts_twice :
    (∀ b ∈ [secondBatch, firstBatch, secondBatch], b ∈ sentBatches 0 sampleEvents) ∧
      ((sentBatches 0 sampleEvents).map Batch.batchId).Nodup ∧
      ¬ ExactlyOnce (deliver "north" "logs" Store.empty
        [secondBatch, firstBatch, secondBatch]) := by
  refine ⟨by simp [sampleEvents, sentBatches, firstBatch, secondBatch], by decide, fun h => ?_⟩
  have htwice : acceptances "north-logs-2" (deliver "north" "logs" Store.empty
      [secondBatch, firstBatch, secondBatch]) = 2 := by
    decide
  have hle := h.1 "north-logs-2"
  rw [htwice] at hle
  exact absurd hle (by decide)

end Grouproxy.Backend
