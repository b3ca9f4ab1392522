import Grouproxy.Verification.Agent.Restart
import Grouproxy.Verification.Agent.Failures

/-! # Crashes while a bundle is made the last good one

The six files of a new last good bundle are written one after another. Which bundle each part of
the restored configuration comes from is followed through the restart for every crash point.
-/

namespace Grouproxy.Agent

open Value Grouproxy.Bundle Policy Routing Singbox Subscription Steps
open Grouproxy.Runtime

/-! ## The release of a candidate -/

theorem outbounds_of_resolveSubscription {libs : Libraries} {blob : BlobCall} {value : Fields}
    {s : ResolvedSubscription} (h : resolveSubscription libs blob value = .ok s) :
    ∃ entries, s.outbounds = entries.map Any.map ∧ EndpointList entries := by
  rw [resolveSubscription] at h
  split at h
  · cases h
    exact ⟨[], rfl, by simp, by simp [entryTags]⟩
  · split at h
    · cases h
    · split at h
      · cases h
      · obtain ⟨content, -, h⟩ := bind_eq_ok h
        obtain ⟨-, -, h⟩ := bind_eq_ok h
        obtain ⟨outbounds, hparse, h⟩ := bind_eq_ok h
        cases h
        obtain ⟨entries, hmap, hlist, -⟩ := endpointList_of_parse hparse
        exact ⟨entries, hmap, hlist⟩
  · cases h

/-- An override replaces both ports, so it does not matter from which one the firewall starts. -/
theorem firewallPort_processPort (cfg : Config) (port : Int) :
    cfg.firewallPort (cfg.processPort port) = cfg.firewallPort port := by
  rw [Config.firewallPort, Config.firewallPort, Config.processPort, cfg.override_eq]
  split
  · rfl
  · rfl

/-- The release is what the candidate was rendered from. -/
structure Renders (cfg : Config) (value : Fields) (c : Candidate) (r : Release) : Prop where
  bundle : r.bundle = value
  rules : r.rules = c.rules
  outbounds : r.entries.map Any.map = c.subscription.outbounds
  config : r.config cfg = jsonTreeFields c.config
  script : r.script cfg = c.script

theorem exists_renders {cfg : Config} {libs : Libraries} {calls : PlanCalls}
    {appliedVersion version : Int} {value : Fields} {c : Candidate} {w : World}
    (h : Planned cfg libs calls appliedVersion version value c)
    (hcheck : checkSnapshot value c w = (w, .ok ())) : ∃ r, Renders cfg value c r := by
  have hvalidated := validated_of_validate h.validated
  obtain ⟨port, hport, hcandidate⟩ := h.port
  obtain ⟨entries, hentries, hlist⟩ := outbounds_of_resolveSubscription h.subscription
  rcases checkSnapshot_cases value c w with ⟨hmaterialized, hhash, -⟩ | ⟨-, e, hfails⟩
  · refine ⟨⟨value, port, entries, c.rules, hvalidated.canonical, hport, ?_, h.policy, hlist, hhash,
      hmaterialized⟩, rfl, rfl, hentries.symm, ?_, ?_⟩
    · have hsame := hvalidated.port
      rw [hport, Option.some.injEq] at hsame
      exact hsame
    · rw [Release.config, h.config, hentries, hcandidate]
    · rw [Release.script, h.script, hcandidate, firewallPort_processPort]
  · rw [hcheck] at hfails
    cases hfails

/-! ## The files of a crash -/

section CrashFiles

variable (k : Nat) (value : Fields) (c : Candidate) (s : State) (files : Files)

/-- There are six writes. -/
theorem crashFiles_of_le (h : 6 ≤ k) :
    crashFiles k value c s files = crashFiles 6 value c s files := by
  rw [crashFiles, crashFiles, List.take_of_length_le h]
  rfl

/-- The rules are written first. -/
theorem crashFiles_snapshot : (crashFiles k value c s files).snapshot =
    if k = 0 then files.snapshot else .stored (stringValue (value.get "bundle_hash")) c.rules := by
  match k with
  | 0 | 1 | 2 | 3 | 4 | 5 => rfl
  | k + 6 =>
      rw [crashFiles_of_le _ _ _ _ _ (by omega)]
      rfl

/-- The configuration is written third. -/
theorem crashFiles_configs : (crashFiles k value c s files).configs .lastGood =
    if k < 3 then files.configs .lastGood else some (jsonTreeFields c.config) := by
  match k with
  | 0 | 1 | 2 | 3 | 4 | 5 => rfl
  | k + 6 =>
      rw [crashFiles_of_le _ _ _ _ _ (by omega), if_neg (by omega)]
      rfl

/-- The state is written last. -/
theorem crashFiles_state : (crashFiles k value c s files).state =
    if k < 6 then files.state
    else some { s with lastGoodBundle := s.lastGoodBundle.map jsonTreeFields } := by
  match k with
  | 0 | 1 | 2 | 3 | 4 | 5 => rfl
  | k + 6 =>
      rw [crashFiles_of_le _ _ _ _ _ (by omega), if_neg (by omega)]
      rfl

end CrashFiles

/-- The state that ends a successful `applyBundle`. -/
def savedState (value : Fields) (c : Candidate) (w : World) : State :=
  { committed value c w.state with sequence := w.sequence + 1 }

/-- A write that fails leaves the files of a crash before it. -/
theorem persist_stopped {calls : Calls} {value : Fields} {c : Candidate} {w w' : World} {e : String}
    (hcheck : checkSnapshot value c w = (w, .ok ()))
    (h : persist calls value c w = (w', .error e)) (s : State) :
    ∃ k < 5, w'.files = crashFiles k value c s w.files := by
  rw [persist, andThen_of_ok hcheck] at h
  rcases runAll_writeFiles calls.persist (persistFiles value c) w with
    ⟨k, e', hk, -, hrun⟩ | ⟨-, hrun⟩
  · rw [hrun] at h
    cases h
    refine ⟨k, hk, ?_⟩
    rw [crashFiles, commitFiles, List.take_append_of_le_length (Nat.le_of_lt hk)]
  · rw [hrun] at h
    cases h

theorem persist_ok {calls : Calls} {value : Fields} {c : Candidate} {w w' : World}
    (h : persist calls value c w = (w', .ok ())) :
    checkSnapshot value c w = (w, .ok ()) ∧
      w' = { w with files := (persistFiles value c).foldl (fun files write => write files) w.files } := by
  rw [persist] at h
  rcases checkSnapshot_cases value c w with ⟨-, -, hcheck⟩ | ⟨-, e, hcheck⟩
  · rw [andThen_of_ok hcheck] at h
    refine ⟨hcheck, ?_⟩
    rcases runAll_writeFiles calls.persist (persistFiles value c) w with
      ⟨k, e', -, -, hrun⟩ | ⟨-, hrun⟩
    · rw [hrun] at h
      cases h
    · rw [hrun] at h
      cases h
      rfl
  · rw [andThen_of_error hcheck] at h
    cases h

/-- Without a crash all six files are written. -/
theorem commit_files {cfg : Config} {calls : Calls} {value : Fields} {c : Candidate} {w v w' : World}
    (hpersist : persist calls value c w = (v, .ok ()))
    (h : commit cfg calls value c v = (w', .ok ())) :
    w'.files = crashFiles 6 value c (savedState value c w) w.files := by
  obtain ⟨-, rfl⟩ := persist_ok hpersist
  simp only [commit] at h
  split at h
  · cases h
  · rename_i hsave
    rw [Prod.mk.injEq] at h
    rw [← h.1]
    simp only [sendAck, saveNumbered, hsave]
    rfl

/-! ## Up to the crash -/

theorem checkOrAck_ok {cfg : Config} {save : Outcome} {value : Fields} {code : String} {call : Outcome}
    {w w' : World} (h : checkOrAck cfg save value code call w = (w', .ok ())) : w' = w := by
  cases call with
  | error e => cases h
  | ok u =>
      cases h
      rfl

theorem swapFirewall_ok {cfg : Config} {calls : Calls} {value : Fields} {script : String}
    {w w' : World} (h : swapFirewall cfg calls value script w = (w', .ok ())) :
    w'.files = w.files := by
  simp only [swapFirewall, applyScript] at h
  split at h
  · cases hcall : calls.applyFirewall with
    | error e =>
        rw [hcall] at h
        cases h
    | ok u =>
        rw [hcall] at h
        cases h
        rfl
  · cases h
    rfl

theorem swapProcess_ok {cfg : Config} {calls : Calls} {value : Fields} {c : Candidate} {w w' : World}
    (h : swapProcess cfg calls value c w = (w', .ok ())) : w'.files = w.files := by
  simp only [swapProcess, startConfig] at h
  split at h
  · rename_i v hstart
    cases h
    exact (congrArg (fun result : World × Outcome => result.1.files) hstart).symm
  · cases h

theorem healthWindow_ok {cfg : Config} {libs : Libraries} {calls : Calls} {value : Fields}
    {w w' : World} (h : healthWindow cfg libs calls value w = (w', .ok ())) : w' = w := by
  simp only [healthWindow] at h
  split at h
  · cases h
    rfl
  · have herror := rollback_error cfg libs calls.rollback value "health_window_failed"
      (observedHealth cfg calls w.manager).processOK w
    rw [h] at herror
    cases herror

/-- Until the end of the health window only the files of the candidate are written. -/
theorem tryCandidate_files {cfg : Config} {libs : Libraries} {calls : Calls} {value : Fields}
    {c : Candidate} {w w' : World} (h : tryCandidate cfg libs calls value c w = (w', .ok ())) :
    w'.files = (written c w).files := by
  simp only [tryCandidate, runAll] at h
  obtain ⟨w₁, hdirectory, h⟩ := andThen_ok h
  obtain ⟨w₂, hcandidate, h⟩ := andThen_ok h
  obtain ⟨w₃, hcheck, h⟩ := andThen_ok h
  obtain ⟨w₄, hfirewallCheck, h⟩ := andThen_ok h
  obtain ⟨w₅, hnft, h⟩ := andThen_ok h
  obtain ⟨w₆, hfirewall, h⟩ := andThen_ok h
  obtain ⟨w₇, hprocess, h⟩ := andThen_ok h
  obtain ⟨w₈, hwindow, h⟩ := andThen_ok h
  cases h
  rw [healthWindow_ok hwindow, swapProcess_ok hprocess, swapFirewall_ok hfirewall,
    writeFiles_ok hnft, checkOrAck_ok hfirewallCheck, checkOrAck_ok hcheck,
    writeFiles_ok hcandidate, writeFiles_ok hdirectory]
  rfl

/-- The files of an agent are those of a release, which is the one that was applied. -/
structure Persisted (cfg : Config) (r : Release) (w : World) : Prop where
  state : ∃ s, w.files.state = some s ∧ s.lastGoodBundle = some r.bundle
  snapshot : w.files.snapshot = .stored r.hash r.rules
  stored : w.files.configs .lastGood = some (r.config cfg)
  version : (r.bundle.get "desired_version").asInt? = some w.state.appliedVersion
  hash : r.hash = w.state.appliedHash

/-- A decoded bundle that is applied without a crash is persisted. -/
theorem persisted_of_applyCandidate {cfg : Config} {libs : Libraries} {calls : Calls} {value : Fields}
    {c : Candidate} {w w' : World} (hplans : Plans cfg libs calls value w c)
    (hdecoded : jsonTreeFields value = value)
    (h : applyCandidate cfg libs calls value c w = (w', .ok ())) :
    ∃ r, Renders cfg value c r ∧ Persisted cfg r w' := by
  obtain ⟨version, hversion, -, -, hplan⟩ := hplans
  have hplanned := planned_of_planCandidate hplan
  rw [applyCandidate] at h
  obtain ⟨w₁, -, h⟩ := andThen_ok h
  obtain ⟨w₂, hpersist, hcommit⟩ := andThen_ok h
  obtain ⟨hcheck, -⟩ := persist_ok hpersist
  obtain ⟨r, hr⟩ := exists_renders hplanned hcheck
  have hfiles := commit_files hpersist hcommit
  have hstate : w'.state.appliedVersion = c.version ∧ w'.state.appliedHash = c.hash := by
    simp only [commit] at hcommit
    split at hcommit
    · cases hcommit
    · rw [Prod.mk.injEq] at hcommit
      rw [← hcommit.1]
      exact ⟨rfl, rfl⟩
  refine ⟨r, hr, ?_, ?_, ?_, ?_, ?_⟩
  · refine ⟨_, by rw [hfiles, crashFiles_state, if_neg (by omega)], ?_⟩
    simp [savedState, committed, hdecoded, hr.bundle]
  · rw [hfiles, crashFiles_snapshot, if_neg (by omega), Release.hash, hr.bundle, hr.rules]
  · rw [hfiles, crashFiles_configs, if_neg (by omega), hr.config]
  · rw [hr.bundle, hversion, hstate.1, hplanned.version]
  · rw [Release.hash, hr.bundle, hstate.2, (validated_of_validate hplanned.validated).hash]

/-! ## Mixtures -/

/-- The running process and the installed firewall are those of a candidate. -/
structure LiveCandidate (cfg : Config) (c : Candidate) (w : World) : Prop where
  process : ∃ p, w.manager.process = some p ∧ p.config = some (jsonTreeFields c.config)
  firewall : cfg.applyMode = true → w.firewall = some c.script

/-- As JSON, the outbounds of the subscriptions are the same. -/
def SameOutbounds (r : Release) (c : Candidate) : Prop :=
  (r.entries.map Any.map).map jsonTree = c.subscription.outbounds.map jsonTree

/-- The two bundles render the same with the outbounds of the new one. -/
def SameRest (cfg : Config) (r : Release) (value : Fields) (c : Candidate) : Prop :=
  jsonTreeFields (renderSingbox cfg.settings r.bundle (cfg.processPort r.port)
      c.subscription.outbounds r.rules) =
    jsonTreeFields (renderSingbox cfg.settings value c.port c.subscription.outbounds c.rules) ∧
  (cfg.applyMode = true →
    r.script cfg = bundleScript (cfg.firewallPort c.port) value c.rules)

theorem sameOutbounds_iff {cfg : Config} {value : Fields} {c : Candidate} {r stored : Release}
    (h : Renders cfg value c stored) :
    SameOutbounds r c ↔ r.configWith cfg stored = r.config cfg := by
  obtain ⟨policy, hpolicy⟩ := r.policy
  rw [SameOutbounds, ← h.outbounds, map_jsonTree_inj, Release.configWith, Release.config,
    jsonTreeFields_renderSingbox_inj cfg.settings hpolicy _ stored.endpoints r.endpoints]
  exact eq_comm

/-- A mixture is one of its parts only if the outbounds agree or nothing else differs. -/
theorem mixed_iff {cfg : Config} {value : Fields} {c : Candidate} {r stored : Release} {w : World}
    (hmixed : Mixed cfg r stored w) (h : Renders cfg value c stored)
    (hconfig : c.config = renderSingbox cfg.settings value c.port c.subscription.outbounds c.rules)
    (hscript : c.script = bundleScript (cfg.firewallPort c.port) value c.rules) :
    (Live cfg r w ∨ LiveCandidate cfg c w) ↔ (SameOutbounds r c ∨ SameRest cfg r value c) := by
  obtain ⟨p, hprocess, hp⟩ := hmixed.process
  have hlive : Live cfg r w ↔ SameOutbounds r c := by
    rw [sameOutbounds_iff h]
    constructor
    · intro hlive
      obtain ⟨q, hq, hqconfig⟩ := hlive.process
      rw [hprocess] at hq
      cases hq
      rw [hp, Option.some.injEq] at hqconfig
      exact hqconfig
    · intro hsame
      exact ⟨⟨p, hprocess, by rw [hp, hsame]⟩, hmixed.firewall⟩
  have hcandidate : LiveCandidate cfg c w ↔ SameRest cfg r value c := by
    rw [SameRest, ← hconfig, ← hscript, ← h.outbounds, ← Release.configWith]
    constructor
    · intro hlive
      obtain ⟨q, hq, hqconfig⟩ := hlive.process
      rw [hprocess] at hq
      cases hq
      rw [hp, Option.some.injEq] at hqconfig
      refine ⟨hqconfig, ?_⟩
      intro hmode
      have hfirewall := hlive.firewall hmode
      rw [hmixed.firewall hmode, Option.some.injEq] at hfirewall
      exact hfirewall
    · intro hsame
      refine ⟨⟨p, hprocess, by rw [hp, hsame.1]⟩, ?_⟩
      intro hmode
      rw [hmixed.firewall hmode, hsame.2 hmode]
  rw [hlive, hcandidate]

/-! ## Every crash point -/

/-- A new bundle passes its health window on an agent whose files are those of a release, and the
agent stops after `k` of the writes that follow. The bundle was decoded from JSON, a bundle of
another version has another hash, and the names of the old one still resolve to its rules. -/
structure Crash (cfg : Config) (libs : Libraries) (calls : Calls) (restart : RestartCalls)
    (value : Fields) (c : Candidate) (r : Release) (w w₁ : World) (k : Nat) : Prop where
  persisted : Persisted cfg r w
  plans : Plans cfg libs calls value w c
  window : tryCandidate cfg libs calls value c w = (w₁, .ok ())
  writes : k = 0 ∨ checkSnapshot value c w₁ = (w₁, .ok ())
  decoded : jsonTreeFields value = value
  hashes : r.hash = stringValue (value.get "bundle_hash") →
    (r.bundle.get "desired_version").asInt? = (value.get "desired_version").asInt?
  answers : SameAnswers restart r

/-- The files that the crash leaves. -/
def leftFiles (value : Fields) (c : Candidate) (w₁ : World) (k : Nat) : Files :=
  crashFiles k value c (savedState value c w₁) w₁.files

section Crash

variable {cfg : Config} {libs : Libraries} {calls : Calls} {restart : RestartCalls}
  {value : Fields} {c : Candidate} {r : Release} {w w₁ : World} {k : Nat}

/-- The new bundle has another hash: with one hash and one version it had been skipped. -/
theorem Crash.hash_ne (h : Crash cfg libs calls restart value c r w w₁ k) :
    r.hash ≠ stringValue (value.get "bundle_hash") := by
  obtain ⟨version, hversion, -, hnew, -⟩ := h.plans
  intro hsame
  have hversions := h.hashes hsame
  rw [h.persisted.version, hversion, Option.some.injEq] at hversions
  exact hnew ⟨hversions.symm, by rw [← hsame, h.persisted.hash]⟩

theorem Crash.exists_renders (h : Crash cfg libs calls restart value c r w w₁ k) (hk : 0 < k) :
    ∃ new, Renders cfg value c new := by
  obtain ⟨version, -, -, -, hplan⟩ := h.plans
  rcases h.writes with hzero | hcheck
  · omega
  · exact Agent.exists_renders (planned_of_planCandidate hplan) hcheck

/-- Until the last write the state names the old bundle. -/
theorem Crash.state (h : Crash cfg libs calls restart value c r w w₁ k) (hk : k < 6) :
    ∃ s, (leftFiles value c w₁ k).state = some s ∧ s.lastGoodBundle = some r.bundle := by
  rw [leftFiles, crashFiles_state, if_pos hk, tryCandidate_files h.window]
  exact h.persisted.state

theorem Crash.rules (h : Crash cfg libs calls restart value c r w w₁ k) :
    RulesFound restart r (leftFiles value c w₁ k).snapshot := by
  rw [leftFiles, crashFiles_snapshot, tryCandidate_files h.window]
  split
  · exact .inl h.persisted.snapshot
  · exact .inr ⟨⟨_, _, rfl, h.hash_ne⟩, h.answers⟩

variable {firewall : Option String} {w' : World}

/-- Before the configuration is written all parts are those of the old bundle. -/
theorem Crash.live_of_lt (h : Crash cfg libs calls restart value c r w w₁ k) (hk : k < 3)
    (hrestore : restoreLastGood cfg libs restart
      (startup cfg true restart (leftFiles value c w₁ k) firewall) = (w', .ok ())) :
    Live cfg r w' := by
  have hstored : (leftFiles value c w₁ k).configs .lastGood = some (r.config cfg) := by
    rw [leftFiles, crashFiles_configs, if_pos hk, tryCandidate_files h.window]
    simpa [written, Files.writeConfig, Candidate.path] using h.persisted.stored
  have hmixed := mixed_of_restart (h.state (by omega)) h.rules hstored hrestore
  exact ⟨hmixed.process, hmixed.firewall⟩

/-- Between the configuration and the state the old bundle gets the outbounds of the new one. -/
theorem Crash.mixed_of_between (h : Crash cfg libs calls restart value c r w w₁ k) (hk : 3 ≤ k)
    (hk' : k < 6) (hrestore : restoreLastGood cfg libs restart
      (startup cfg true restart (leftFiles value c w₁ k) firewall) = (w', .ok ())) :
    (Live cfg r w' ∨ LiveCandidate cfg c w') ↔ (SameOutbounds r c ∨ SameRest cfg r value c) := by
  obtain ⟨new, hnew⟩ := h.exists_renders (by omega)
  obtain ⟨version, -, -, -, hplan⟩ := h.plans
  have hplanned := planned_of_planCandidate hplan
  have hstored : (leftFiles value c w₁ k).configs .lastGood = some (new.config cfg) := by
    rw [leftFiles, crashFiles_configs, if_neg (by omega), hnew.config]
  have hmixed := mixed_of_restart (h.state hk') h.rules hstored hrestore
  exact mixed_iff hmixed hnew hplanned.config hplanned.script

/-- When everything is written all parts are those of the new bundle. -/
theorem Crash.live_of_le (h : Crash cfg libs calls restart value c r w w₁ k) (hk : 6 ≤ k)
    (hrestore : restoreLastGood cfg libs restart
      (startup cfg true restart (leftFiles value c w₁ k) firewall) = (w', .ok ())) :
    LiveCandidate cfg c w' := by
  obtain ⟨new, hnew⟩ := h.exists_renders (by omega)
  have hstate : ∃ s, (leftFiles value c w₁ k).state = some s ∧ s.lastGoodBundle = some new.bundle := by
    refine ⟨_, by rw [leftFiles, crashFiles_state, if_neg (by omega)], ?_⟩
    simp [savedState, committed, h.decoded, hnew.bundle]
  have hrules : RulesFound restart new (leftFiles value c w₁ k).snapshot := by
    left
    rw [leftFiles, crashFiles_snapshot, if_neg (by omega), Release.hash, hnew.bundle, hnew.rules]
  have hstored : (leftFiles value c w₁ k).configs .lastGood = some (new.config cfg) := by
    rw [leftFiles, crashFiles_configs, if_neg (by omega), hnew.config]
  have hmixed := mixed_of_restart hstate hrules hstored hrestore
  refine ⟨?_, ?_⟩
  · rw [← hnew.config]
    exact hmixed.process
  · rw [← hnew.script]
    exact hmixed.firewall

end Crash

/-- After a crash between the writes of a new last good bundle, a restart that succeeds runs the
old or the new bundle if and only if the crash was not between the write of `last-good.json` and
that of the state, or the two bundles have the same outbounds or differ in nothing else. -/
theorem crash_restores_one_bundle_iff (cfg : Config) (libs : Libraries) (calls : Calls)
    (restart : RestartCalls) (value : Fields) (c : Candidate) (r : Release) (w w₁ w' : World)
    (k : Nat) (firewall : Option String) (h : Crash cfg libs calls restart value c r w w₁ k)
    (hrestore : restoreLastGood cfg libs restart
      (startup cfg true restart (leftFiles value c w₁ k) firewall) = (w', .ok ())) :
    (Live cfg r w' ∨ LiveCandidate cfg c w') ↔
      (k < 3 ∨ 6 ≤ k ∨ SameOutbounds r c ∨ SameRest cfg r value c) := by
  by_cases hbefore : k < 3
  · exact iff_of_true (.inl (h.live_of_lt hbefore hrestore)) (.inl hbefore)
  · by_cases hall : 6 ≤ k
    · exact iff_of_true (.inr (h.live_of_le hall hrestore)) (.inr (.inl hall))
    · rw [h.mixed_of_between (by omega) (by omega) hrestore]
      simp only [hbefore, hall, false_or]

/-! ## A crash between the configuration and the state -/

/-- A release with one proxy, before `sampleBundle`, which has none and shuts the node down. -/
def subscribedRelease : Release where
  bundle := [("desired_version", .float (Float64.ofInt 1)),
    ("listen", .map [("http_port", .float (Float64.ofInt 3128))]), ("blacklist", .arr []),
    ("subscription", .map [("version", .float (Float64.ofInt 1)), ("format", .str "sing-box"),
      ("content", .str "[\x7b\"type\":\"socks\",\"tag\":\"edge\"\x7d]"),
      ("hash", .str "dea92b929bbcff88dcbca40ce838cde86e3f77a465e139b67365e143640ad480")]),
    ("bundle_hash", .str "c1")]
  port := 3128
  entries := [[("type", .str "socks"), ("tag", .str "edge")]]
  rules := []
  canonical := by decide +kernel
  httpPort := rfl
  supported := previousRelease.supported
  policy := ⟨defaultPolicy, rfl⟩
  endpoints := by
    refine ⟨?_, by decide +kernel⟩
    intro entry hentry
    rw [List.mem_singleton] at hentry
    subst hentry
    exact ⟨⟨"socks", rfl, by decide +kernel⟩, ⟨"edge", rfl⟩, by decide +kernel,
      by decide +kernel⟩
  hashed := by decide +kernel
  materialized := previousRelease.materialized

def subscribedState : State :=
  { State.fresh with
    lastGoodBundle := some subscribedRelease.bundle, lastGoodVersion := 1, lastGoodHash := "c1"
    appliedVersion := 1, appliedHash := "c1" }

/-- The release is live after a restart. -/
def subscribedWorld : World :=
  { sampleStart with
    state := subscribedState
    files := { sampleStart.files with
      configs := fun _ => some (subscribedRelease.config sampleConfig)
      snapshot := .stored "c1" []
      state := some subscribedState }
    manager := ⟨true, 3128, some .lastGood,
      some ⟨.lastGood, some (subscribedRelease.config sampleConfig)⟩, 0⟩
    firewall := some (subscribedRelease.script sampleConfig) }

theorem settled_subscribedWorld : Settled sampleConfig subscribedRelease subscribedWorld where
  live := ⟨⟨_, rfl, rfl⟩, fun _ => rfl⟩
  kept := ⟨rfl, by rw [Release.hash]; rfl, rfl⟩
  runs := rfl
  active := ⟨.lastGood, rfl, rfl⟩
  version := rfl
  hash := rfl

theorem persisted_subscribedWorld : Persisted sampleConfig subscribedRelease subscribedWorld where
  state := ⟨subscribedState, rfl, rfl⟩
  snapshot := settled_subscribedWorld.kept.snapshot
  stored := settled_subscribedWorld.kept.stored
  version := rfl
  hash := rfl

/-- Every call of the restart succeeds, apart from name lookups. -/
def sampleRestart : RestartCalls :=
  ⟨.ok (), sampleRestore, sampleCalls.rollback.config, .ok (), .ok (), upCalls⟩

theorem eq_ok_of_succeeded {result : World × Outcome} (h : succeeded result.2 = true) :
    result = (result.1, .ok ()) := by
  obtain ⟨w, outcome⟩ := result
  cases outcome with
  | error e => cases h
  | ok u => rfl

/-- The agent stops after the third write and is started again. -/
theorem crash_subscribedWorld : ∃ c w₁ w',
    Crash sampleConfig sampleLibraries sampleCalls sampleRestart sampleBundle c subscribedRelease
      subscribedWorld w₁ 3 ∧
    restoreLastGood sampleConfig sampleLibraries sampleRestart (startup sampleConfig true
      sampleRestart (leftFiles sampleBundle c w₁ 3) w₁.firewall) = (w', .ok ()) ∧
    c.subscription.outbounds = [] ∧ c.script ≠ subscribedRelease.script sampleConfig := by
  have hplan : (planCandidate sampleConfig sampleLibraries sampleCalls.plan 1 2
      sampleBundle).toOption.any (fun c => c.script != subscribedRelease.script sampleConfig &&
        c.rules.isEmpty && c.subscription.outbounds.isEmpty &&
        succeeded (restoreLastGood sampleConfig sampleLibraries sampleRestart
          (startup sampleConfig true sampleRestart (leftFiles sampleBundle c
            (launched sampleConfig c subscribedWorld) 3)
            (launched sampleConfig c subscribedWorld).firewall)).2) = true := by
    decide +kernel
  cases hc : planCandidate sampleConfig sampleLibraries sampleCalls.plan 1 2 sampleBundle with
  | error e => simp [hc, Except.toOption] at hplan
  | ok c =>
      simp only [hc, Except.toOption, Option.any_some, Bool.and_eq_true, bne_iff_ne,
        List.isEmpty_iff] at hplan
      obtain ⟨⟨⟨hscript, hrules⟩, houtbounds⟩, hsucceeded⟩ := hplan
      have hwindow : tryCandidate sampleConfig sampleLibraries sampleCalls sampleBundle c
          subscribedWorld = (launched sampleConfig c subscribedWorld, .ok ()) :=
        tryCandidate_of_listens settled_subscribedWorld ⟨rfl, rfl, rfl, rfl, rfl, fun _ => rfl⟩
          ⟨rfl, rfl, rfl⟩ (by rw [Calls.Healthy]; decide +kernel)
      refine ⟨c, launched sampleConfig c subscribedWorld, _, ?_, eq_ok_of_succeeded hsucceeded,
        houtbounds, hscript⟩
      exact {
        persisted := persisted_subscribedWorld
        plans := ⟨2, rfl, by decide, by decide, hc⟩
        window := hwindow
        writes := .inr (by rw [checkSnapshot, hrules]; rfl)
        decoded := rfl
        hashes := fun hsame => absurd hsame (by decide +kernel)
        answers := ⟨rfl, rfl⟩ }

theorem crash_restores_one_bundle_iff_sample : ∃ c w₁ w',
    Crash sampleConfig sampleLibraries sampleCalls sampleRestart sampleBundle c subscribedRelease
      subscribedWorld w₁ 3 ∧
    restoreLastGood sampleConfig sampleLibraries sampleRestart (startup sampleConfig true
      sampleRestart (leftFiles sampleBundle c w₁ 3) w₁.firewall) = (w', .ok ()) ∧
    ((Live sampleConfig subscribedRelease w' ∨ LiveCandidate sampleConfig c w') ↔
      (3 < 3 ∨ 6 ≤ 3 ∨ SameOutbounds subscribedRelease c ∨
        SameRest sampleConfig subscribedRelease sampleBundle c)) := by
  obtain ⟨c, w₁, w', hcrash, hrestore, -, -⟩ := crash_subscribedWorld
  exact ⟨c, w₁, w', hcrash, hrestore, crash_restores_one_bundle_iff sampleConfig sampleLibraries
    sampleCalls sampleRestart sampleBundle c subscribedRelease subscribedWorld w₁ w' 3 w₁.firewall
    hcrash hrestore⟩

/-- The restart succeeds and runs the rest of the old bundle without its proxy. -/
theorem crash_mixes_bundles : ∃ c w₁ w',
    Crash sampleConfig sampleLibraries sampleCalls sampleRestart sampleBundle c subscribedRelease
      subscribedWorld w₁ 3 ∧
    restoreLastGood sampleConfig sampleLibraries sampleRestart (startup sampleConfig true
      sampleRestart (leftFiles sampleBundle c w₁ 3) w₁.firewall) = (w', .ok ()) ∧
    ¬ (Live sampleConfig subscribedRelease w' ∨ LiveCandidate sampleConfig c w') := by
  obtain ⟨c, w₁, w', hcrash, hrestore, houtbounds, hscript⟩ := crash_subscribedWorld
  refine ⟨c, w₁, w', hcrash, hrestore, ?_⟩
  rw [hcrash.mixed_of_between (by decide) (by decide) hrestore]
  intro hsame
  rcases hsame with hentries | ⟨-, hrest⟩
  · rw [SameOutbounds, houtbounds] at hentries
    cases hentries
  · obtain ⟨version, -, -, -, hplan⟩ := hcrash.plans
    apply hscript
    rw [hrest rfl, (planned_of_planCandidate hplan).script]

end Grouproxy.Agent
