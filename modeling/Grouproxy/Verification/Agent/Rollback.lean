import Grouproxy.Verification.Agent.Runs

/-! # What runs after a rollback

Rolling back stops the candidate, but the manager still has its path as the one to fall back
to: if the last good configuration can be prepared and then does not come up, the candidate is
started again.
-/

namespace Grouproxy.Agent

open Value Policy Singbox Subscription Steps
open Grouproxy.Runtime

/-- The manager runs a process that was started with a configuration file. -/
def Runs (m : Manager) (path : ConfigPath) : Prop := ∃ p, m.process = some p ∧ p.path = path

/-- There is a last good bundle with a port, its rules can be read from what is stored, and its
configuration can be made and written. -/
def Prepares (cfg : Config) (libs : Libraries) (calls : RollbackCalls) (w : World) : Prop :=
  ∃ lastGood port bundle rules config,
    w.state.lastGoodBundle = some lastGood ∧ httpPort? lastGood = some port ∧
    calls.config.ensureRoutingData = .ok () ∧
    lastGoodSourceBlacklistRules w.files.snapshot calls.config.lookup (upToDate lastGood) =
      (bundle, .ok rules) ∧
    lastGoodConfig cfg libs calls.config.blob bundle (cfg.processPort port) rules
      (w.files.configs .lastGood) = .ok config ∧
    calls.config.write = .ok ()

/-- Preparing the configuration succeeds if each of its parts does. -/
theorem ensureLastGoodConfig_eq_ok_iff {cfg : Config} {libs : Libraries} {calls : ConfigCalls}
    {lastGood : Fields} {port : Int} {w : World} :
    (ensureLastGoodConfig cfg libs calls lastGood port w).2 = .ok () ↔
      ∃ bundle rules config, calls.ensureRoutingData = .ok () ∧
        lastGoodSourceBlacklistRules w.files.snapshot calls.lookup lastGood = (bundle, .ok rules) ∧
        lastGoodConfig cfg libs calls.blob bundle port rules (w.files.configs .lastGood) =
          .ok config ∧
        calls.write = .ok () := by
  cases hdata : calls.ensureRoutingData with
  | error e => simp [ensureLastGoodConfig, hdata]
  | ok u =>
      cases hread : lastGoodSourceBlacklistRules w.files.snapshot calls.lookup lastGood with
      | mk bundle read =>
          cases read with
          | error e => simp [ensureLastGoodConfig, hdata, hread]
          | ok rules =>
              have hconfigs : (w.setLastGood true bundle).files.configs = w.files.configs := rfl
              cases hconfig : lastGoodConfig cfg libs calls.blob bundle port rules
                  (w.files.configs .lastGood) with
              | error e => simp [ensureLastGoodConfig, hdata, hread, hconfigs, hconfig]
              | ok config =>
                  cases hwrite : calls.write with
                  | error e =>
                      simp [ensureLastGoodConfig, hdata, hread, hconfigs, hconfig,
                        writeLastGoodConfig, hwrite]
                  | ok u =>
                      simp [ensureLastGoodConfig, hdata, hread, hconfigs, hconfig,
                        writeLastGoodConfig, hwrite]

/-- Preparing after the firewall call is preparing from what is stored before it. -/
theorem prepares_iff {cfg : Config} {libs : Libraries} {calls : RollbackCalls} {w : World}
    {lastGood : Fields} {port : Int} (hlast : w.state.lastGoodBundle = some lastGood)
    (hport : httpPort? lastGood = some port) :
    Prepares cfg libs calls w ↔ (ensureLastGoodConfig cfg libs calls.config (upToDate lastGood)
      (cfg.processPort port) (afterFirewall cfg calls w)).2 = .ok () := by
  obtain ⟨-, hsnapshot, hconfigs⟩ := @afterFirewall_of_lastGood cfg w calls lastGood port hlast hport
  rw [ensureLastGoodConfig_eq_ok_iff, hsnapshot, hconfigs]
  constructor
  · rintro ⟨other, p, bundle, rules, config, hother, hp, hparts⟩
    rw [hlast, Option.some.injEq] at hother
    subst hother
    rw [hport, Option.some.injEq] at hp
    subst hp
    exact ⟨bundle, rules, config, hparts⟩
  · rintro ⟨bundle, rules, config, hparts⟩
    exact ⟨lastGood, port, bundle, rules, config, hlast, hport, hparts⟩

theorem not_runs_of_none {m : Manager} (h : m.process = none) (path : ConfigPath) :
    ¬ Runs m path := by
  intro hruns
  obtain ⟨p, hp, -⟩ := hruns
  rw [h] at hp
  cases hp

/-- Starting the last good configuration on a stopped manager leaves another file running
exactly when it fails after the check and the earlier file comes up again. -/
theorem runs_startConfig_iff {calls : ApplyCalls} {port : Int} {w : World} {name : String}
    (hnone : w.manager.process = none) :
    Runs (startConfig calls port .lastGood w).1.manager (.version name) ↔
      w.manager.runProcess = true ∧ w.manager.activePath = some (.version name) ∧
        calls.check = .ok () ∧ calls.SwapFails ∧ calls.startPrevious = .ok () := by
  have hcases := Manager.apply_cases w.files.configs calls .lastGood
    { w.manager with listenPort := port }
  rcases hcases with ⟨e, hcheck, happly⟩ | ⟨hcheck, hrun, happly⟩ | ⟨hrun, hlistens, happly⟩ |
      ⟨hcheck, hrun, hfails, m', e, happly, hback⟩
  · simp only [startConfig, happly]
    refine iff_of_false (not_runs_of_none hnone _) ?_
    intro h
    rw [hcheck] at h
    exact absurd h.2.2.1 (by simp)
  · simp only [startConfig, happly]
    refine iff_of_false (not_runs_of_none hnone _) ?_
    intro h
    rw [h.1] at hrun
    cases hrun
  · simp only [startConfig, happly]
    refine iff_of_false ?_ ?_
    · intro hruns
      obtain ⟨p, hp, hpath⟩ := hruns
      cases hp
      cases hpath
    · intro h
      rcases h.2.2.2.1 with hstart | hpolls
      · exact hstart hlistens.start
      · exact hpolls hlistens.polls
  · simp only [startConfig, happly, Runs, hback.process]
    constructor
    · intro hruns
      obtain ⟨p, hp, hpath⟩ := hruns
      cases hactive : w.manager.activePath with
      | none => simp [fallback, hactive] at hp
      | some active =>
          cases hprevious : calls.startPrevious with
          | error e => simp [fallback, hactive, hprevious] at hp
          | ok u =>
              simp only [fallback, hactive, hprevious, Option.some.injEq] at hp
              rw [← hp] at hpath
              exact ⟨hrun, by rw [← hpath], hcheck, hfails, rfl⟩
    · intro h
      refine ⟨⟨.version name, w.files.configs (.version name)⟩, ?_, rfl⟩
      simp [fallback, h.2.1, h.2.2.2.2]

/-- The process after a rollback is that of the last restoring call. -/
theorem runs_rollback_iff (cfg : Config) (libs : Libraries) (calls : RollbackCalls) (value : Fields)
    (reason : String) (processOK : Bool) (w : World) (name : String) :
    Runs (rollback cfg libs calls value reason processOK w).1.manager (.version name) ↔
      w.manager.runProcess = true ∧ w.manager.activePath = some (.version name) ∧
        Prepares cfg libs calls w ∧ calls.apply.check = .ok () ∧ calls.apply.SwapFails ∧
        calls.apply.startPrevious = .ok () := by
  obtain ⟨nftOK, rollbackOK, hrollback⟩ := rollback_eq cfg libs calls value reason processOK w
  rw [hrollback, finishRollback_manager, afterRestart]
  cases hbundle : lastGoodPort? w.state with
  | none =>
      rw [lastGoodPort?_afterFirewall_of_none calls hbundle]
      refine iff_of_false (not_runs_of_none (by rw [afterFirewall_manager]; rfl) _) ?_
      intro h
      obtain ⟨lastGood, port, _, _, _, hlast, hport, -⟩ := h.2.2.1
      rw [lastGoodPort?_eq_some.mpr ⟨hlast, hport⟩] at hbundle
      cases hbundle
  | some found =>
      obtain ⟨stored, port⟩ := found
      obtain ⟨hlast, hport⟩ := lastGoodPort?_eq_some.mp hbundle
      have hprepares := @prepares_iff cfg libs calls w stored port hlast hport
      obtain ⟨hfound, -⟩ := @afterFirewall_of_lastGood cfg w calls stored port hlast hport
      rw [hfound]
      generalize upToDate stored = lastGood at hprepares
      have hmanager := @ensureLastGoodConfig_manager cfg (afterFirewall cfg calls w) libs calls.config
        lastGood (cfg.processPort port)
      rw [afterFirewall_manager] at hmanager
      rw [hprepares]
      simp only [noteRestore_manager, restartLastGood]
      cases hensure : ensureLastGoodConfig cfg libs calls.config lastGood (cfg.processPort port)
          (afterFirewall cfg calls w) with
      | mk w' result =>
          rw [hensure] at hmanager
          cases result with
          | error e =>
              rw [andThen_of_error hensure]
              refine iff_of_false (not_runs_of_none (by rw [hmanager]; rfl) _) ?_
              intro h
              cases h.2.2.1
          | ok u =>
              rw [andThen_of_ok hensure, runs_startConfig_iff
                (by rw [copyToSingboxConfig_manager, hmanager]; rfl), copyToSingboxConfig_manager,
                hmanager]
              simp [Manager.close, Manager.stop]

/-- A rejected candidate is left stopped unless its file is what the manager falls back to when
the last good configuration is prepared and checked but does not come up. -/
theorem rollback_stops_candidate_iff (cfg : Config) (libs : Libraries) (calls : RollbackCalls)
    (value : Fields) (reason : String) (processOK : Bool) (w : World) (c : Candidate) :
    ¬ Runs (rollback cfg libs calls value reason processOK w).1.manager c.path ↔
      ¬ (w.manager.runProcess = true ∧ w.manager.activePath = some c.path ∧
        Prepares cfg libs calls w ∧ calls.apply.check = .ok () ∧ calls.apply.SwapFails ∧
        calls.apply.startPrevious = .ok ()) := by
  rw [Candidate.path, runs_rollback_iff]

/-! ## A candidate that comes back -/

def sampleCandidate : Candidate :=
  { version := 3, hash := "0123456789abcdef", port := 3128, subscription := ⟨[], 0, "", "not_configured"⟩
    rules := [], config := [], script := "" }

/-- The last good bundle is known and the candidate runs. -/
def candidateRuns : World :=
  { sampleStart with
    state := { State.fresh with lastGoodBundle := some sampleBundle }
    manager := ⟨true, 3128, some sampleCandidate.path, some ⟨sampleCandidate.path, none⟩, 0⟩ }

/-- Every call succeeds, but the last good process exits before it listens. -/
def failingRestart : RollbackCalls :=
  { sampleCalls.rollback with apply := ⟨.ok (), .ok (), [⟨false, false, 0, false⟩], .ok ()⟩ }

theorem rollback_restarts_candidate :
    Runs (rollback sampleConfig sampleLibraries failingRestart [] "health_window_failed" true
      candidateRuns).1.manager sampleCandidate.path := by
  rw [Candidate.path, runs_rollback_iff]
  refine ⟨rfl, rfl, ?_, rfl, .inr (by decide), rfl⟩
  apply (@prepares_iff _ _ _ _ sampleBundle 3128 rfl rfl).mpr
  decide +kernel

end Grouproxy.Agent
