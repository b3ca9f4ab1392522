import Grouproxy.Verification.Agent.Frames

/-! # Versions over whole runs

The versions and hashes of the state change only when a bundle that passed every check becomes
the last good bundle, and then together. Everything else, rollbacks included, leaves them.
-/

namespace Grouproxy.Agent

open Text Value Grouproxy.Bundle Policy Singbox Subscription Steps
open Grouproxy.Runtime

/-! ## Steps that keep the last good bundle -/

/-- The part of the state that says what was applied. -/
def State.track (s : State) : Option Fields × Int × String × Int × String :=
  (s.lastGoodBundle, s.lastGoodVersion, s.lastGoodHash, s.appliedVersion, s.appliedHash)

theorem State.Canonical.of_track {s s' : State} (h : s.Canonical) (htrack : s'.track = s.track) :
    s'.Canonical := by
  intro lastGood hlast
  apply h
  rw [← hlast]
  exact (congrArg Prod.fst htrack).symm

@[simp] theorem ackFailure_track {cfg : Config} {w : World} (save : Outcome) (value : Fields)
    (code message : String) (singboxOK nftOK healthOK attempted : Bool) :
    (ackFailure cfg save value code message singboxOK nftOK healthOK attempted w).1.state.track =
      w.state.track := rfl

@[simp] theorem finishRollback_track {cfg : Config} {w : World} (save : Outcome) (value : Fields)
    (reason : String) (processOK nftOK rollbackOK : Bool) :
    (finishRollback cfg save value reason processOK nftOK rollbackOK w).1.state.track =
      w.state.track := rfl

theorem rollback_track {cfg : Config} {libs : Libraries} {w : World} (calls : RollbackCalls)
    (value : Fields) (reason : String) (processOK : Bool) (h : w.state.Canonical) :
    (rollback cfg libs calls value reason processOK w).1.state.track = w.state.track := by
  obtain ⟨nftOK, rollbackOK, hrollback⟩ := rollback_eq cfg libs calls value reason processOK w
  rw [hrollback, finishRollback_track, afterRestart_state calls h]

theorem checkOrAck_track {cfg : Config} (save : Outcome) (value : Fields) (code : String)
    (call : Outcome) (w : World) :
    (checkOrAck cfg save value code call w).1.state.track = w.state.track := by
  cases call with
  | error e => rfl
  | ok u => rfl

theorem swapFirewall_track {cfg : Config} {w : World} (calls : Calls) (value : Fields)
    (script : String) (h : w.state.Canonical) :
    (swapFirewall cfg calls value script w).1.state.track = w.state.track := by
  cases hmode : cfg.applyMode with
  | false => simp [swapFirewall, hmode]
  | true =>
      cases happly : calls.applyFirewall with
      | ok u => simp [swapFirewall, hmode, applyScript, happly]
      | error e =>
          have hrestore := @restoreLastGoodFirewall_state cfg { w with firewall := none }
            calls.restore h
          simp only [swapFirewall, hmode, applyScript, happly, if_true, ackFailure_track,
            noteRestore_state, hrestore]

theorem swapProcess_track {cfg : Config} {w : World} (calls : Calls) (value : Fields) (c : Candidate)
    (h : w.state.Canonical) :
    (swapProcess cfg calls value c w).1.state.track = w.state.track := by
  have hstart := @startConfig_state w calls.apply c.port c.path
  cases happly : startConfig calls.apply c.port c.path w with
  | mk w' result =>
      rw [happly] at hstart
      simp only at hstart
      cases result with
      | ok u => simp [swapProcess, happly, hstart]
      | error e =>
          have hrestore := @restoreLastGoodFirewall_state cfg w' calls.restore (hstart ▸ h)
          simp only [swapProcess, happly, ackFailure_track, noteRestore_state, hrestore, hstart]

theorem healthWindow_track {cfg : Config} {libs : Libraries} {w : World} (calls : Calls)
    (value : Fields) (h : w.state.Canonical) :
    (healthWindow cfg libs calls value w).1.state.track = w.state.track := by
  rw [healthWindow]
  split
  · rfl
  · exact rollback_track _ _ _ _ h

/-- Trying a candidate keeps what was applied, on every exit. -/
theorem tryCandidate_track {cfg : Config} {libs : Libraries} {w : World} (calls : Calls)
    (value : Fields) (c : Candidate) (h : w.state.Canonical) :
    (tryCandidate cfg libs calls value c w).1.state.track = w.state.track := by
  refine runAll_invariant (P := fun w' : World => w'.state.track = w.state.track) ?_ rfl
  intro step hstep w' hw'
  have hcanonical := h.of_track hw'
  simp only [List.mem_cons, List.not_mem_nil, or_false] at hstep
  rcases hstep with rfl | rfl | rfl | rfl | rfl | rfl | rfl | rfl
  · rw [writeFiles_state, hw']
  · rw [writeFiles_state, hw']
  · rw [checkOrAck_track, hw']
  · rw [checkOrAck_track, hw']
  · rw [writeFiles_state, hw']
  · rw [swapFirewall_track _ _ _ hcanonical, hw']
  · rw [swapProcess_track _ _ _ hcanonical, hw']
  · rw [healthWindow_track _ _ hcanonical, hw']

theorem persist_state (calls : Calls) (value : Fields) (c : Candidate) (w : World) :
    (persist calls value c w).1.state = w.state := by
  have hcheck : (checkSnapshot value c w).1 = w := by
    simp only [checkSnapshot]
    split
    · rfl
    · split
      · rfl
      · rfl
  rw [persist]
  rcases andThen_cases (checkSnapshot value c) (runAll ((persistFiles value c).mapIdx
    fun index update => writeFiles (calls.persist index) update)) w with
      ⟨w', e, hw, hrun⟩ | ⟨w', hw, hrun⟩
  · rw [hw] at hcheck
    rw [hrun]
    exact congrArg World.state hcheck
  · rw [hw] at hcheck
    rw [hrun, ← hcheck]
    refine runAll_invariant (P := fun v : World => v.state = w'.state) ?_ rfl
    intro step hstep v hv
    obtain ⟨i, hi, rfl⟩ := List.mem_mapIdx.mp hstep
    rw [writeFiles_state, hv]

/-! ## Accepted bundles -/

theorem length_versionParts {value : String} {parts : List Int} (h : versionParts value = some parts) :
    parts.length = 3 := by
  simp only [versionParts] at h
  generalize List.splitOn '.' _ = words at h
  split at h
  · exact absurd h (by simp)
  · rename_i hlength
    rw [← not_not.mp hlength]
    clear hlength
    induction words generalizing parts with
    | nil =>
        cases h
        rfl
    | cons word words ih =>
        rw [List.foldr_cons] at h
        split at h
        · rename_i n ns _ hns
          split at h
          · cases h
          · cases h
            rw [List.length_cons, ih hns, List.length_cons]
        · cases h

/-- Versions in the order of their parts. -/
def VersionLE (required current : List Int) : Prop :=
  required = current ∨ List.Lex (· < ·) required current

theorem versionLE_of_versionAtLeast {current required : List Int}
    (hlength : current.length = required.length) (h : versionAtLeast current required = true) :
    VersionLE required current := by
  induction current generalizing required with
  | nil =>
      cases required with
      | nil => exact .inl rfl
      | cons r rs => simp at hlength
  | cons c cs ih =>
      cases required with
      | nil => simp at hlength
      | cons r rs =>
          simp only [versionAtLeast, Bool.or_eq_true, decide_eq_true_eq, Bool.and_eq_true,
            beq_iff_eq] at h
          rcases h with hlt | ⟨heq, hrest⟩
          · exact .inr (.rel hlt)
          · subst heq
            rcases ih (by simpa using hlength) hrest with heq | hlt
            · exact .inl (by rw [heq])
            · exact .inr (.cons hlt)

/-- A bundle for this node, signed, not expired and not for a later monitor. -/
structure Accepted (cfg : Config) (libs : Libraries) (clock : Clock) (value : Fields) : Prop where
  verified : ∃ hash, verify libs.hashes value cfg.hmacSecret = .ok hash
  node : stringValue (value.get "node_id") = cfg.nodeID
  unexpired : ∃ expires, clock.parseRFC3339 (stringValue (value.get "expires_at")) = some expires ∧
    clock.now < expires
  minimum : ∃ required current,
    versionParts (stringValue (value.get "min_monitor_version")) = some required ∧
      versionParts monitorVersion = some current ∧ VersionLE required current

theorem accepted_of_planned {cfg : Config} {libs : Libraries} {calls : PlanCalls}
    {appliedVersion version : Int} {value : Fields} {c : Candidate}
    (h : Planned cfg libs calls appliedVersion version value c) :
    Accepted cfg libs calls.clock value := by
  have hvalidated := validated_of_validate h.validated
  refine ⟨⟨c.hash, hvalidated.verified⟩, h.node, hvalidated.unexpired, ?_⟩
  have hminimum := h.minimum
  simp only [validateMinimumMonitorVersion] at hminimum
  split at hminimum
  · cases hminimum
  · split at hminimum
    · cases hminimum
    · rename_i required hrequired
      split at hminimum
      · cases hminimum
      · rename_i current hcurrent
        split at hminimum
        · rename_i hatLeast
          refine ⟨required, current, hrequired, hcurrent, versionLE_of_versionAtLeast ?_ hatLeast⟩
          rw [length_versionParts hcurrent, length_versionParts hrequired]
        · cases hminimum

/-! ## One bundle -/

/-- A bundle either leaves what was applied or, having passed every check at a version that is
not older, becomes the last good bundle. -/
theorem applyBundle_track {cfg : Config} {libs : Libraries} {w : World} (calls : Calls)
    (value : Fields) (h : w.state.Canonical) :
    (applyBundle cfg libs calls value w).1.state.track = w.state.track ∨
      ∃ version c, (value.get "desired_version").asInt? = some version ∧
        w.state.appliedVersion ≤ version ∧
        Planned cfg libs calls.plan w.state.appliedVersion version value c ∧
        (applyBundle cfg libs calls value w).1.state.track =
          (some value, version, c.hash, version, c.hash) := by
  simp only [applyBundle]
  split
  · exact .inl rfl
  · rename_i version hversion
    split
    · exact .inl rfl
    · rename_i hnewer
      split
      · exact .inl rfl
      · split
        · exact .inl rfl
        · rename_i c hplan
          have hplanned := planned_of_planCandidate hplan
          have htry := @tryCandidate_track cfg libs w calls value c h
          rw [applyCandidate]
          rcases andThen_cases (tryCandidate cfg libs calls value c)
            (andThen (persist calls value c) (commit cfg calls value c)) w with
              ⟨w', e, hw, hrun⟩ | ⟨w', hw, hrun⟩
          · rw [hw] at htry
            rw [hrun]
            exact .inl htry
          · rw [hw] at htry
            have hpersist := persist_state calls value c w'
            rw [hrun]
            rcases andThen_cases (persist calls value c) (commit cfg calls value c) w' with
              ⟨w'', e, hw, hrun⟩ | ⟨w'', hw, hrun⟩
            · rw [hw] at hpersist
              rw [hrun]
              exact .inl ((congrArg State.track hpersist).trans htry)
            · refine .inr ⟨version, c, hversion, not_lt.mp hnewer, hplanned, ?_⟩
              rw [hrun]
              simp only [commit, ← hplanned.version]
              split
              · rfl
              · rfl

/-! ## Runs -/

/-- What was applied is the last good bundle. -/
structure State.Consistent (s : State) : Prop where
  version : s.appliedVersion = s.lastGoodVersion
  hash : s.appliedHash = s.lastGoodHash
  bundle : ∀ lastGood, s.lastGoodBundle = some lastGood →
    (lastGood.get "desired_version").asInt? = some s.appliedVersion ∧
      stringValue (lastGood.get "bundle_hash") = s.appliedHash

/-- Consistent, and with a last good bundle that restoring leaves alone. -/
def State.Invariant (s : State) : Prop := s.Consistent ∧ s.Canonical

theorem invariant_fresh : State.fresh.Invariant := by
  refine ⟨⟨rfl, rfl, ?_⟩, ?_⟩
  · intro lastGood h
    cases h
  · intro lastGood h
    cases h

theorem State.Invariant.of_track {s s' : State} (h : s.Invariant) (htrack : s'.track = s.track) :
    s'.Invariant := by
  refine ⟨?_, h.2.of_track htrack⟩
  have hbundle := h.1.bundle
  simp only [State.track, Prod.mk.injEq] at htrack
  obtain ⟨htrack, hlast, hhash, hversion, hhash'⟩ := htrack
  refine ⟨?_, ?_, ?_⟩
  · rw [hversion, hlast, h.1.version]
  · rw [hhash', hhash, h.1.hash]
  · rw [htrack, hversion, hhash']
    exact hbundle

theorem invariant_of_committed {cfg : Config} {libs : Libraries} {calls : PlanCalls}
    {appliedVersion version : Int} {value : Fields} {c : Candidate} {s : State}
    (hversion : (value.get "desired_version").asInt? = some version)
    (hplanned : Planned cfg libs calls appliedVersion version value c)
    (htrack : s.track = (some value, version, c.hash, version, c.hash)) : s.Invariant := by
  have hvalidated := validated_of_validate hplanned.validated
  simp only [State.track, Prod.mk.injEq] at htrack
  obtain ⟨hbundle, hlast, hhash, happlied, hhash'⟩ := htrack
  refine ⟨⟨?_, ?_, ?_⟩, ?_⟩
  · rw [happlied, hlast]
  · rw [hhash', hhash]
  · intro lastGood h
    rw [hbundle] at h
    cases h
    rw [happlied, hhash']
    exact ⟨hversion, hvalidated.hash.symm⟩
  · intro lastGood h
    rw [hbundle] at h
    cases h
    exact hvalidated.canonical

/-- One bundle keeps the invariant. -/
theorem invariant_applyBundle {cfg : Config} {libs : Libraries} {w : World} (calls : Calls)
    (value : Fields) (h : w.state.Invariant) :
    (applyBundle cfg libs calls value w).1.state.Invariant := by
  rcases @applyBundle_track cfg libs w calls value h.2 with
    hkept | ⟨version, c, hversion, -, hplanned, htrack⟩
  · exact h.of_track hkept
  · exact invariant_of_committed hversion hplanned htrack

/-- The agent after a sequence of bundles, each with the outcomes of its calls. -/
def run (cfg : Config) (libs : Libraries) : List (Fields × Calls) → World → World
  | [], w => w
  | (value, calls) :: steps, w => run cfg libs steps (applyBundle cfg libs calls value w).1

theorem invariant_run {cfg : Config} {libs : Libraries} {w : World} (steps : List (Fields × Calls))
    (h : w.state.Invariant) : (run cfg libs steps w).state.Invariant := by
  induction steps generalizing w with
  | nil => exact h
  | cons step steps ih => exact ih (invariant_applyBundle step.2 step.1 h)

/-- From a fresh state, in every state that any sequence of bundles reaches: what was applied is
the last good bundle, and the next bundle neither lowers the version nor becomes the last good
one unless it was accepted. -/
theorem run_consistent (cfg : Config) (libs : Libraries) (steps : List (Fields × Calls)) (w : World)
    (hfresh : w.state = State.fresh) :
    (run cfg libs steps w).state.Consistent ∧ ∀ value calls,
      (run cfg libs steps w).state.appliedVersion ≤
          (applyBundle cfg libs calls value (run cfg libs steps w)).1.state.appliedVersion ∧
        ((applyBundle cfg libs calls value (run cfg libs steps w)).1.state.lastGoodBundle ≠
            (run cfg libs steps w).state.lastGoodBundle →
          (applyBundle cfg libs calls value (run cfg libs steps w)).1.state.lastGoodBundle =
              some value ∧
            Accepted cfg libs calls.plan.clock value) := by
  have hinvariant : (run cfg libs steps w).state.Invariant := by
    apply invariant_run
    rw [hfresh]
    exact invariant_fresh
  refine ⟨hinvariant.1, ?_⟩
  intro value calls
  rcases @applyBundle_track cfg libs (run cfg libs steps w) calls value hinvariant.2 with
    hkept | ⟨version, c, -, hnewer, hplanned, htrack⟩
  · simp only [State.track, Prod.mk.injEq] at hkept
    refine ⟨?_, ?_⟩
    · rw [hkept.2.2.2.1]
    · intro hchanged
      exact absurd hkept.1 hchanged
  · simp only [State.track, Prod.mk.injEq] at htrack
    refine ⟨?_, ?_⟩
    · rw [htrack.2.2.2.1]
      exact hnewer
    · intro _
      exact ⟨htrack.1, accepted_of_planned hplanned⟩

/-! ## A run -/

/-- A bundle without a subscription that shuts the node down. -/
def sampleBundle : Fields :=
  [("schema_version", .float (Float64.ofInt 1)), ("release_id", .str "release-2"),
    ("site_id", .str "site-1"), ("node_id", .str "node-1"),
    ("desired_version", .float (Float64.ofInt 2)), ("expires_at", .str "2030-01-01T00:00:00Z"),
    ("listen", .map [("http_port", .float (Float64.ofInt 3128))]), ("blacklist", .arr []),
    ("min_monitor_version", .str "0.8.0"), ("shutdown", .bool true),
    ("bundle_hash", .str "095dc8073c12b77d4bf64445b297c7f9fac96a20d9312f8d5be497af8336ee75"),
    ("mac", .str "02006dd8351041a1760b3de7bf7f3825d7f877197174ca10eb84ec5694e8acc6")]

/-- The digests of this bundle. -/
def sampleLibraries : Libraries where
  hashes :=
    { sha256 := fun _ =>
        [9, 93, 200, 7, 60, 18, 183, 125, 75, 246, 68, 69, 178, 151, 199, 249, 250, 201, 106, 32,
         217, 49, 47, 141, 91, 228, 151, 175, 131, 54, 238, 117]
      hmacSha256 := fun _ _ =>
        [2, 0, 109, 216, 53, 16, 65, 161, 118, 11, 61, 231, 191, 127, 56, 37, 215, 248, 119, 25,
         113, 116, 202, 16, 235, 132, 236, 86, 148, 232, 172, 198] }
  readers := ⟨fun _ => none, fun _ => none⟩

def sampleConfig : Config :=
  { nodeID := "node-1", hmacSecret := "0123456789abcdef0123456789abcdef"
    settings := ⟨"/var/lib/grouproxy", "127.0.0.1:9090", ""⟩, listenPort := 3128
    listenPortOverride := 0, firewallPortOverride := 0, applyMode := true
    healthWindowSeconds := 30, healthSampleSeconds := 2, healthSampleSeconds_pos := by decide
    override_eq := rfl, override_dryRun := by decide }

/-- The port is open at the first look and still a second later. -/
def upCalls : ApplyCalls :=
  ⟨.ok (), .ok (), [⟨true, true, 0, true⟩, ⟨true, true, 1000, true⟩], .ok ()⟩

def allOK : FirewallCalls := ⟨.ok (), .ok (), .ok ()⟩

def sampleRestore : RestoreCalls := ⟨fun _ => .error "no such host", allOK, .ok (), .ok (), allOK⟩

/-- Every call succeeds, apart from name lookups. -/
def sampleCalls : Calls :=
  { plan := ⟨⟨1700000000, fun text => if text = "2030-01-01T00:00:00Z" then some 1893456000 else none⟩,
      fun _ => .error "no such host", fun _ => .error "agent blob http 404", .ok ()⟩
    makeVersionsDir := .ok (), writeCandidate := .ok (), checkCandidate := .ok ()
    checkFirewall := .ok (), writeCandidateNft := .ok (), applyFirewall := .ok (), apply := upCalls
    health := fun _ => ⟨true, true, true⟩, restore := sampleRestore
    rollback := ⟨sampleRestore, ⟨.ok (), fun _ => .error "no such host",
      fun _ => .error "agent blob http 404", .ok ()⟩, .ok (), upCalls, ⟨true, true, true⟩, .ok ()⟩
    persist := fun _ => .ok (), saveFailure := .ok (), saveState := .ok (), ack := .ok () }

/-- A monitor that has just been installed. -/
def sampleStart : World :=
  { state := State.fresh, files := ⟨fun _ => none, none, .missing, none, none, none, none⟩
    manager := ⟨true, 3128, none, none, 0⟩, firewall := none, sequence := 0, acks := []
    failedRestores := 0 }

/-- The bundle becomes the last good one and is ignored when it is sent again. -/
theorem run_consistent_sample :
    (run sampleConfig sampleLibraries [(sampleBundle, sampleCalls), (sampleBundle, sampleCalls)]
        sampleStart).state.appliedVersion = 2 ∧
      (run sampleConfig sampleLibraries [(sampleBundle, sampleCalls), (sampleBundle, sampleCalls)]
        sampleStart).state.Consistent :=
  ⟨by decide +kernel, (run_consistent sampleConfig sampleLibraries [(sampleBundle, sampleCalls),
    (sampleBundle, sampleCalls)] sampleStart rfl).1⟩

end Grouproxy.Agent
