import Mathlib.Data.List.Induction
import Grouproxy.Model.Probes

/-! # The circuit breaker of an outbound

What one result does to a circuit, and from it what a circuit shows about the results since it was
missing.
-/

namespace Grouproxy.Probes

open Collections

variable {store : ProbeStore} {node : Node} {tag : String} {result : ProbeResult}
  {results earlier : List ProbeResult} {circuit : ProbeCircuit}

/-! ## What a result does to a circuit -/

@[simp] theorem storedTime_storedTime (time : Int) :
    storedTime (storedTime time) = storedTime time := by
  simp only [storedTime]
  omega

@[simp] theorem stored_state : circuit.stored.state = circuit.state := rfl

@[simp] theorem stored_consecutiveFailures :
    circuit.stored.consecutiveFailures = circuit.consecutiveFailures := rfl

@[simp] theorem stored_consecutiveSuccesses :
    circuit.stored.consecutiveSuccesses = circuit.consecutiveSuccesses := rfl

@[simp] theorem stored_openedAt : circuit.stored.openedAt = circuit.openedAt.map storedTime := rfl

@[simp] theorem coolDown_consecutiveFailures (current : Int) :
    (coolDown current circuit).consecutiveFailures = circuit.consecutiveFailures := by
  rw [coolDown]
  split <;> rfl

theorem cooledDown_iff {current : Int} {openedAt : Option Int} :
    cooledDown current openedAt = true ↔ ∃ t, openedAt = some t ∧ cooldown ≤ current - t := by
  cases openedAt <;> simp [cooledDown]

theorem advance_consecutiveFailures : (advance result circuit).consecutiveFailures =
    if result.success then 0 else circuit.consecutiveFailures + 1 := by
  simp only [advance, recordSuccess, recordFailure]
  split <;> split <;> simp

/-- Every step of a circuit: what it does in each state on a success and on a failure. -/
inductive CircuitStep (result : ProbeResult) (before after : ProbeCircuit) : Prop where
  | closedSuccess (hstate : before.state = .closed) (hsuccess : result.success = true)
      (hafter : after.state = .closed) (hopened : after.openedAt = before.openedAt)
  | closedFailure (hstate : before.state = .closed) (hsuccess : result.success = false)
      (hfew : before.consecutiveFailures + 1 < failureThreshold) (hafter : after.state = .closed)
      (hopened : after.openedAt = before.openedAt)
  | trip (hstate : before.state ≠ .opened ∨ cooledDown result.current before.openedAt = true)
      (hsuccess : result.success = false) (hafter : after.state = .opened)
      (hopened : after.openedAt = some result.current)
  | stayOpen (hstate : before.state = .opened) (hafter : after.state = .opened)
      (hopened : after.openedAt = before.openedAt)
  | enterHalfOpen (hstate : before.state = .opened)
      (hcooled : cooledDown result.current before.openedAt = true)
      (hsuccess : result.success = true) (hafter : after.state = .halfOpen)
      (hsuccesses : after.consecutiveSuccesses = 1)
  | stayHalfOpen (hstate : before.state = .halfOpen) (hsuccess : result.success = true)
      (hfew : before.consecutiveSuccesses + 1 < recoverySuccessThreshold)
      (hafter : after.state = .halfOpen)
  | recover (hstate : before.state = .halfOpen) (hsuccess : result.success = true)
      (hafter : after.state = .closed) (hopened : after.openedAt = none)

theorem advance_step (result : ProbeResult) (circuit : ProbeCircuit) :
    CircuitStep result circuit (advance result circuit) := by
  cases hstate : circuit.state with
  | closed =>
      cases hsuccess : result.success with
      | true =>
          exact .closedSuccess hstate hsuccess
            (by simp [advance, hsuccess, coolDown, hstate, recordSuccess])
            (by simp [advance, hsuccess, coolDown, hstate, recordSuccess])
      | false =>
          by_cases hfew : circuit.consecutiveFailures + 1 < failureThreshold
          · exact .closedFailure hstate hsuccess hfew
              (by simp [advance, hsuccess, coolDown, hstate, recordFailure, not_le.mpr hfew])
              (by simp [advance, hsuccess, coolDown, hstate, recordFailure, not_le.mpr hfew])
          · exact .trip (.inl (by simp [hstate])) hsuccess
              (by simp [advance, hsuccess, coolDown, hstate, recordFailure, not_lt.mp hfew])
              (by simp [advance, hsuccess, coolDown, hstate, recordFailure, not_lt.mp hfew])
  | opened =>
      cases hcooled : cooledDown result.current circuit.openedAt with
      | false =>
          apply CircuitStep.stayOpen hstate
          · cases hsuccess : result.success <;>
              simp [advance, hsuccess, coolDown, hstate, hcooled, recordSuccess, recordFailure]
          · cases hsuccess : result.success <;>
              simp [advance, hsuccess, coolDown, hstate, hcooled, recordSuccess, recordFailure]
      | true =>
          cases hsuccess : result.success with
          | true =>
              exact .enterHalfOpen hstate hcooled hsuccess
                (by simp [advance, hsuccess, coolDown, hstate, hcooled, recordSuccess,
                  recoverySuccessThreshold])
                (by simp [advance, hsuccess, coolDown, hstate, hcooled, recordSuccess,
                  recoverySuccessThreshold])
          | false =>
              exact .trip (.inr hcooled) hsuccess
                (by simp [advance, hsuccess, coolDown, hstate, hcooled, recordFailure])
                (by simp [advance, hsuccess, coolDown, hstate, hcooled, recordFailure])
  | halfOpen =>
      cases hsuccess : result.success with
      | true =>
          by_cases hfew : circuit.consecutiveSuccesses + 1 < recoverySuccessThreshold
          · exact .stayHalfOpen hstate hsuccess hfew
              (by simp [advance, hsuccess, coolDown, hstate, recordSuccess, not_le.mpr hfew])
          · exact .recover hstate hsuccess
              (by simp [advance, hsuccess, coolDown, hstate, recordSuccess, not_lt.mp hfew])
              (by simp [advance, hsuccess, coolDown, hstate, recordSuccess, not_lt.mp hfew])
      | false =>
          exact .trip (.inl (by simp [hstate])) hsuccess
            (by simp [advance, hsuccess, coolDown, hstate, recordFailure])
            (by simp [advance, hsuccess, coolDown, hstate, recordFailure])

/-! ## The circuit after results -/

/-- The circuit that is stored for an outbound after results of its node. -/
def circuitAfter (store : ProbeStore) (node : Node) (tag : String) (results : List ProbeResult) :
    Option ProbeCircuit :=
  (recordAll store node results).circuits.get? (node.agentId, tag)

theorem key_advance : Document.key (advance result circuit) = Document.key circuit := by
  simp only [advance, coolDown, recordSuccess, recordFailure]
  split_ifs <;> rfl

theorem key_stored : Document.key circuit.stored = Document.key circuit := rfl

theorem recordAll_append (store : ProbeStore) (node : Node) (results : List ProbeResult)
    (result : ProbeResult) : ∃ status, recordAll store node (results ++ [result]) =
      (recordProbeResult (recordAll store node results) { node with probeStatus := status }
        result).2.2 := by
  induction results generalizing store node with
  | nil => exact ⟨node.probeStatus, rfl⟩
  | cons r results ih =>
      obtain ⟨status, heq⟩ := ih (recordProbeResult store node r).2.2
        (recordProbeResult store node r).2.1
      exact ⟨status, heq⟩

theorem circuitAfter_append (htag : result.outboundTag = tag) :
    circuitAfter store node tag (results ++ [result]) =
      some (advance result ((circuitAfter store node tag results).getD
        (newCircuit node tag result.current))).stored := by
  obtain ⟨status, heq⟩ := recordAll_append store node results result
  subst htag
  have hkey : ∀ found, circuitAfter store node result.outboundTag results = found →
      Document.key (advance result (found.getD
        (newCircuit node result.outboundTag result.current))).stored =
        (node.agentId, result.outboundTag) := by
    intro found hfound
    rw [key_stored, key_advance]
    cases found with
    | none => rfl
    | some circuit => exact (Collection.get?_eq_some.mp hfound).2
  have hself := Collection.get?_save_self (recordAll store node results).circuits
    (advance result ((circuitAfter store node result.outboundTag results).getD
      (newCircuit node result.outboundTag result.current))).stored
  rw [hkey _ rfl] at hself
  rw [← hself, circuitAfter, heq]
  rfl

/-- The number of failures since the last success. -/
def trailingFailures (results : List ProbeResult) : Nat :=
  (results.reverse.takeWhile fun r => !r.success).length

theorem trailingFailures_append : trailingFailures (results ++ [result]) =
    if result.success then 0 else trailingFailures results + 1 := by
  cases h : result.success <;> simp [trailingFailures, h]

/-- The last result has taken an open circuit to half open after the cooldown. -/
def EnteredHalfOpen (store : ProbeStore) (node : Node) (tag : String)
    (results : List ProbeResult) : Prop :=
  ∃ prior first before, results = prior ++ [first] ∧ first.success = true ∧
    circuitAfter store node tag prior = some before ∧ before.state = .opened ∧
    cooledDown first.current before.openedAt = true

/-- What a circuit shows about the results since it was missing. -/
structure Reflects (store : ProbeStore) (node : Node) (tag : String) (results : List ProbeResult)
    (circuit : ProbeCircuit) : Prop where
  failures : circuit.consecutiveFailures = trailingFailures results
  closed : circuit.state = .closed →
    trailingFailures results < failureThreshold ∧ circuit.openedAt = none
  opened : circuit.state = .opened → ∃ r ∈ results, r.success = false ∧
    circuit.openedAt = some (storedTime r.current)
  halfOpen : circuit.state = .halfOpen →
    circuit.consecutiveSuccesses = 1 ∧ EnteredHalfOpen store node tag results

theorem reflects_newCircuit {current : Int} :
    Reflects store node tag [] (newCircuit node tag current) where
  failures := rfl
  closed := fun _ => ⟨by decide, rfl⟩
  opened := fun h => by cases h
  halfOpen := fun h => by cases h

theorem Reflects.advance {before : ProbeCircuit} (h : Reflects store node tag results before)
    (hbefore : before.state = .opened → circuitAfter store node tag results = some before) :
    Reflects store node tag (results ++ [result]) (advance result before).stored := by
  have hfailures : (Probes.advance result before).stored.consecutiveFailures =
      trailingFailures (results ++ [result]) := by
    rw [stored_consecutiveFailures, advance_consecutiveFailures, trailingFailures_append,
      h.failures]
  have htrailing : result.success = true → trailingFailures (results ++ [result]) = 0 := by
    intro hsuccess
    rw [trailingFailures_append, if_pos hsuccess]
  refine ⟨hfailures, ?_, ?_, ?_⟩
  · intro hclosed
    rw [stored_state] at hclosed
    rw [stored_openedAt]
    cases advance_step result before with
    | closedSuccess hstate hsuccess hafter hopened =>
        rw [htrailing hsuccess, hopened, (h.closed hstate).2]
        exact ⟨by decide, rfl⟩
    | closedFailure hstate hsuccess hfew hafter hopened =>
        rw [trailingFailures_append, hsuccess, hopened, (h.closed hstate).2, ← h.failures]
        exact ⟨hfew, rfl⟩
    | trip hstate hsuccess hafter hopened => rw [hafter] at hclosed; cases hclosed
    | stayOpen hstate hafter hopened => rw [hafter] at hclosed; cases hclosed
    | enterHalfOpen hstate hcooled hsuccess hafter _ => rw [hafter] at hclosed; cases hclosed
    | stayHalfOpen hstate hsuccess hfew hafter => rw [hafter] at hclosed; cases hclosed
    | recover hstate hsuccess hafter hopened =>
        rw [htrailing hsuccess, hopened]
        exact ⟨by decide, rfl⟩
  · intro hopen
    rw [stored_state] at hopen
    rw [stored_openedAt]
    cases advance_step result before with
    | trip hstate hsuccess hafter hopened =>
        exact ⟨result, by simp, hsuccess, by rw [hopened]; rfl⟩
    | stayOpen hstate hafter hopened =>
        obtain ⟨r, hr, hsuccess, ht⟩ := h.opened hstate
        exact ⟨r, List.mem_append_left _ hr, hsuccess, by simp [hopened, ht]⟩
    | closedSuccess hstate hsuccess hafter hopened => rw [hafter] at hopen; cases hopen
    | closedFailure hstate hsuccess hfew hafter hopened => rw [hafter] at hopen; cases hopen
    | enterHalfOpen hstate hcooled hsuccess hafter _ => rw [hafter] at hopen; cases hopen
    | stayHalfOpen hstate hsuccess hfew hafter => rw [hafter] at hopen; cases hopen
    | recover hstate hsuccess hafter hopened => rw [hafter] at hopen; cases hopen
  · intro hhalf
    rw [stored_state] at hhalf
    rw [stored_consecutiveSuccesses]
    cases advance_step result before with
    | enterHalfOpen hstate hcooled hsuccess hafter hsuccesses =>
        exact ⟨hsuccesses, results, result, before, rfl, hsuccess, hbefore hstate, hstate, hcooled⟩
    | stayHalfOpen hstate hsuccess hfew hafter =>
        -- The second success closes the circuit.
        rw [(h.halfOpen hstate).1] at hfew
        exact absurd hfew (by decide)
    | closedSuccess hstate hsuccess hafter hopened => rw [hafter] at hhalf; cases hhalf
    | closedFailure hstate hsuccess hfew hafter hopened => rw [hafter] at hhalf; cases hhalf
    | trip hstate hsuccess hafter hopened => rw [hafter] at hhalf; cases hhalf
    | stayOpen hstate hafter hopened => rw [hafter] at hhalf; cases hhalf
    | recover hstate hsuccess hafter hopened => rw [hafter] at hhalf; cases hhalf

/-- From a missing circuit, the circuit reflects all results since. -/
theorem reflects_getD (hmissing : circuitAfter store node tag [] = none)
    (htag : ∀ r ∈ results, r.outboundTag = tag) (current : Int) :
    Reflects store node tag results ((circuitAfter store node tag results).getD
      (newCircuit node tag current)) := by
  induction results using List.reverseRecOn generalizing current with
  | nil =>
      rw [hmissing]
      exact reflects_newCircuit
  | append_singleton results result ih =>
      have hbefore := ih (fun r hr => htag r (List.mem_append_left _ hr)) result.current
      rw [circuitAfter_append (htag result (by simp)), Option.getD_some]
      apply hbefore.advance
      intro hopen
      cases hfound : circuitAfter store node tag results with
      | none =>
          rw [hfound] at hopen
          cases hopen
      | some before => rfl

theorem reflects_circuitAfter (hmissing : circuitAfter store node tag [] = none)
    (htag : ∀ r ∈ results, r.outboundTag = tag)
    (h : circuitAfter store node tag results = some circuit) :
    Reflects store node tag results circuit := by
  have hall := reflects_getD hmissing htag 0
  rwa [h] at hall

/-- The circuit of an outbound follows its state machine: what it counts and stores in each state,
when it leaves the open state, and how it closes again. -/
theorem circuit_follows (hmissing : circuitAfter store node tag [] = none)
    (htag : ∀ r ∈ results, r.outboundTag = tag)
    (h : circuitAfter store node tag results = some circuit) :
    circuit.consecutiveFailures = trailingFailures results ∧
    (circuit.state = .closed → trailingFailures results < 3 ∧ circuit.openedAt = none) ∧
    (circuit.state = .opened → ∃ r ∈ results, r.success = false ∧
      circuit.openedAt = some (storedTime r.current)) ∧
    (circuit.state = .halfOpen → ∃ prior since before, results = prior ++ since ∧
      circuitAfter store node tag prior = some before ∧ before.state = .opened ∧
      (∀ r ∈ since, r.success = true) ∧ since.length < 2) ∧
    (∀ prior r before, results = prior ++ [r] → circuitAfter store node tag prior = some before →
      before.state = .opened → circuit.state ≠ .opened →
      ∃ t, before.openedAt = some t ∧ 60 * 1000000 ≤ r.current - t) ∧
    ∀ prior r before, results = prior ++ [r] → circuitAfter store node tag prior = some before →
      before.state ≠ .closed → circuit.state = .closed →
      ∃ earlier first opened t, prior = earlier ++ [first] ∧
        first.success = true ∧ r.success = true ∧
        circuitAfter store node tag earlier = some opened ∧ opened.state = .opened ∧
        opened.openedAt = some t ∧ 60 * 1000000 ≤ first.current - t := by
  have hreflects := reflects_circuitAfter hmissing htag h
  refine ⟨hreflects.failures, hreflects.closed, hreflects.opened, ?_, ?_, ?_⟩
  · intro hhalf
    obtain ⟨-, prior, first, before, rfl, hsuccess, hbefore, hopen, -⟩ := hreflects.halfOpen hhalf
    exact ⟨prior, [first], before, rfl, hbefore, hopen, by simpa using hsuccess, by simp⟩
  · rintro prior r before rfl hbefore hopen hleft
    rw [circuitAfter_append (htag r (by simp)), hbefore, Option.getD_some,
      Option.some.injEq] at h
    subst h
    rw [stored_state] at hleft
    cases advance_step r before with
    | enterHalfOpen hstate hcooled hsuccess hafter _ => exact cooledDown_iff.mp hcooled
    | closedSuccess hstate hsuccess hafter hopened => rw [hstate] at hopen; cases hopen
    | closedFailure hstate hsuccess hfew hafter hopened => rw [hstate] at hopen; cases hopen
    | trip hstate hsuccess hafter hopened => exact absurd hafter hleft
    | stayOpen hstate hafter hopened => exact absurd hafter hleft
    | stayHalfOpen hstate hsuccess hfew hafter => rw [hstate] at hopen; cases hopen
    | recover hstate hsuccess hafter hopened => rw [hstate] at hopen; cases hopen
  · rintro prior r before rfl hbefore hnot hclosed
    have hprior := reflects_circuitAfter hmissing
      (fun x hx => htag x (List.mem_append_left _ hx)) hbefore
    rw [circuitAfter_append (htag r (by simp)), hbefore, Option.getD_some,
      Option.some.injEq] at h
    subst h
    rw [stored_state] at hclosed
    cases advance_step r before with
    | recover hstate hsuccess hafter hopened =>
        obtain ⟨-, earlier, first, opened, rfl, hfirst, hopened, hopen, hcooled⟩ :=
          hprior.halfOpen hstate
        obtain ⟨t, ht, hcooldown⟩ := cooledDown_iff.mp hcooled
        exact ⟨earlier, first, opened, t, rfl, hfirst, hsuccess, hopened, hopen, ht, hcooldown⟩
    | closedSuccess hstate hsuccess hafter hopened => exact absurd hstate hnot
    | closedFailure hstate hsuccess hfew hafter hopened => exact absurd hstate hnot
    | trip hstate hsuccess hafter hopened => rw [hafter] at hclosed; cases hclosed
    | stayOpen hstate hafter hopened => rw [hafter] at hclosed; cases hclosed
    | enterHalfOpen hstate hcooled hsuccess hafter _ => rw [hafter] at hclosed; cases hclosed
    | stayHalfOpen hstate hsuccess hfew hafter => rw [hafter] at hclosed; cases hclosed

def emptyStore : ProbeStore := ⟨[], ⟨[], List.nodup_nil⟩, []⟩

def sampleNode : Node := ⟨"node-1", "site-1", .closed⟩

def sampleResult (seconds : Int) (success : Bool) : ProbeResult :=
  ⟨seconds * 1000000, "b", "proxy", "https://example.org", success, 20, "", seconds * 1000000⟩

/-- Three failures open the circuit, and two successes a minute later close it. -/
def sampleResults : List ProbeResult :=
  [sampleResult 0 false, sampleResult 1 false, sampleResult 2 false, sampleResult 62 true,
    sampleResult 63 true]

theorem circuit_follows_sample :
    (circuitAfter emptyStore sampleNode "proxy" sampleResults).map ProbeCircuit.state =
        some .closed ∧
      ∀ circuit, circuitAfter emptyStore sampleNode "proxy" sampleResults = some circuit →
        circuit.consecutiveFailures = trailingFailures sampleResults :=
  ⟨by decide, fun _ h => (circuit_follows rfl (by decide) h).1⟩

end Grouproxy.Probes
