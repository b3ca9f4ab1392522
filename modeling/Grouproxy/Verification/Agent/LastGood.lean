import Grouproxy.Verification.Agent.Frames
import Grouproxy.Verification.Singbox.Refresh

/-! # Restoring a release

A release is an accepted bundle with what it was rendered from. While its bundle is the last
good one and its rules and configuration are stored, restoring brings back exactly what it
rendered to, without a name lookup or a subscription.
-/

namespace Grouproxy.Agent

open Value Grouproxy.Bundle Policy Routing Singbox Subscription Steps
open Grouproxy.Runtime

/-- An accepted bundle with the endpoints of its subscription and its resolved rules. -/
structure Release where
  bundle : Fields
  port : Int
  entries : List Fields
  rules : List SourceBlacklistRule
  canonical : isCanonicalSourceBlacklist bundle = true
  httpPort : httpPort? bundle = some port
  supported : port = proxyListenPort
  policy : ∃ policy, parseDestinationPolicy bundle = .ok policy
  endpoints : EndpointList entries
  hashed : stringValue (bundle.get "bundle_hash") ≠ ""
  materialized : validateMaterializedSourceRules rules = .ok ()

namespace Release

def hash (r : Release) : String := stringValue (r.bundle.get "bundle_hash")

/-- The rendered configuration, as it is read back from its file. -/
def config (cfg : Config) (r : Release) : Fields :=
  jsonTreeFields (renderSingbox cfg.settings r.bundle (cfg.processPort r.port)
    (r.entries.map Any.map) r.rules)

def script (cfg : Config) (r : Release) : String :=
  bundleScript (cfg.firewallPort r.port) r.bundle r.rules

end Release

/-- What restoring reads: the bundle in the state, the rules and the configuration on disk. -/
structure Kept (cfg : Config) (r : Release) (w : World) : Prop where
  bundle : w.state.lastGoodBundle = some r.bundle
  snapshot : w.files.snapshot = .stored r.hash r.rules
  stored : w.files.configs .lastGood = some (r.config cfg)

theorem hasRetiredSourcePolicy_of_canonical {value : Fields}
    (h : isCanonicalSourceBlacklist value = true) : hasRetiredSourcePolicy value = false := by
  cases hretired : hasRetiredSourcePolicy value with
  | false => rfl
  | true =>
      have hreject : rejectRetiredPolicyFields value = .error "retired_policy_field" := by
        rw [rejectRetiredPolicyFields]
        exact if_pos hretired
      simp [isCanonicalSourceBlacklist, validateSourceBlacklist, hreject] at h

theorem lastGoodSourceBlacklistRules_of_canonical {value : Fields}
    (h : isCanonicalSourceBlacklist value = true) (snapshot : SnapshotFile) (lookup : Lookup) :
    lastGoodSourceBlacklistRules snapshot lookup value =
      (value, snapshotRules snapshot lookup value) := by
  simp [lastGoodSourceBlacklistRules, hasRetiredSourcePolicy_of_canonical h, h]

/-- The stored rules of a release are used as they are. -/
theorem snapshotRules_stored (r : Release) (lookup : Lookup) :
    snapshotRules (.stored r.hash r.rules) lookup r.bundle = .ok r.rules := by
  simp [snapshotRules, Release.hash, r.hashed, r.materialized]

theorem httpPort?_eq_some {value : Fields} {port : Int} (h : httpPort? value = some port) :
    ∃ listen, (value.get "listen").asMap? = some listen ∧
      (listen.get "http_port").asInt? = some port := by
  rwa [httpPort?, Option.bind_eq_some_iff] at h

/-- Restoring the firewall installs the script of the release. -/
theorem restoreForBundle_of_kept {cfg : Config} {r : Release} {w : World} (h : Kept cfg r w)
    (lookup : Lookup) (calls : FirewallCalls) :
    restoreLastGoodFirewallForBundle cfg lookup calls true r.bundle w =
      installScript cfg calls (r.script cfg) w := by
  obtain ⟨listen, hlisten, hport⟩ := httpPort?_eq_some r.httpPort
  simp only [restoreLastGoodFirewallForBundle, hlisten, hport,
    lastGoodSourceBlacklistRules_of_canonical r.canonical, h.snapshot, snapshotRules_stored,
    setLastGood_self h.bundle]
  rfl

theorem restoreLastGoodFirewall_of_kept {cfg : Config} {r : Release} {w : World} (h : Kept cfg r w)
    (calls : RestoreCalls) :
    restoreLastGoodFirewall cfg calls w = installScript cfg calls.firewall (r.script cfg) w := by
  simp only [restoreLastGoodFirewall, h.bundle]
  exact restoreForBundle_of_kept h calls.lookup calls.firewall

/-- The calls that install a script succeed. -/
structure FirewallCalls.Succeed (cfg : Config) (calls : FirewallCalls) : Prop where
  check : calls.check = .ok ()
  write : calls.write = .ok ()
  apply : cfg.applyMode = true → calls.apply = .ok ()

/-- The table when a script was loaded, or is only checked. -/
def loaded (cfg : Config) (script : String) (firewall : Option String) : Option String :=
  if cfg.applyMode then some script else firewall

theorem installScript_of_succeed {cfg : Config} {calls : FirewallCalls} (h : calls.Succeed cfg)
    (script : String) (w : World) :
    installScript cfg calls script w =
      ({ w with
        files := { w.files with lastGoodNft := some script }
        firewall := loaded cfg script w.firewall }, .ok ()) := by
  cases hmode : cfg.applyMode with
  | false => simp [installScript, h.check, h.write, hmode, loaded]
  | true => simp [installScript, h.check, h.write, hmode, loaded, applyScript, h.apply hmode]

theorem succeed_of_installScript {cfg : Config} {calls : FirewallCalls} {script : String}
    {w w' : World} (h : installScript cfg calls script w = (w', .ok ())) : calls.Succeed cfg := by
  simp only [installScript] at h
  split at h
  · cases h
  · rename_i hcheck
    split at h
    · cases h
    · rename_i hwrite
      refine ⟨hcheck, hwrite, ?_⟩
      intro hmode
      simp only [hmode, if_true, applyScript] at h
      split at h
      · assumption
      · cases h

/-! ## The configuration -/

/-- Writing to a file what it holds changes nothing. -/
theorem writeConfig_self {files : Files} {path : ConfigPath} {config : Fields}
    (h : files.configs path = some (jsonTreeFields config)) : files.writeConfig path config = files := by
  have hconfigs : (fun p => if p = path then some (jsonTreeFields config) else files.configs p) =
      files.configs := by
    funext p
    split
    · rename_i hp
      rw [hp, h]
    · rfl
  rw [Files.writeConfig, hconfigs]

def ConfigCalls.outcome (calls : ConfigCalls) : Outcome :=
  match calls.ensureRoutingData with
  | .error e => .error e
  | .ok () => calls.write

/-- Preparing the configuration of a release writes the same document again. -/
theorem ensureLastGoodConfig_of_kept {cfg : Config} {r : Release} {w : World} (h : Kept cfg r w)
    (libs : Libraries) (calls : ConfigCalls) :
    ensureLastGoodConfig cfg libs calls r.bundle (cfg.processPort r.port) w =
      (w, calls.outcome) := by
  obtain ⟨policy, hpolicy⟩ := r.policy
  have hrefresh := refreshConfig_stored cfg.settings hpolicy hpolicy (cfg.processPort r.port)
    (cfg.processPort r.port) r.endpoints r.rules r.rules
  have hjson := jsonTreeFields_renderSingbox cfg.settings hpolicy (cfg.processPort r.port)
    r.endpoints r.rules
  have hself := writeConfig_self (h.stored.trans (congrArg some hjson.symm))
  cases hdata : calls.ensureRoutingData with
  | error e => simp [ensureLastGoodConfig, ConfigCalls.outcome, hdata]
  | ok u =>
      simp only [ensureLastGoodConfig, ConfigCalls.outcome, hdata,
        lastGoodSourceBlacklistRules_of_canonical r.canonical, h.snapshot, snapshotRules_stored,
        setLastGood_self h.bundle, lastGoodConfig, h.stored]
      rw [Release.config, hrefresh]
      simp only [writeLastGoodConfig]
      cases calls.write with
      | error e => rfl
      | ok u => rw [hself]

/-- A start that succeeds runs the file. -/
theorem startConfig_ok {calls : ApplyCalls} {port : Int} {path : ConfigPath} {w w' : World}
    (hruns : w.manager.runProcess = true) (h : startConfig calls port path w = (w', .ok ())) :
    w'.manager.process = some ⟨path, w.files.configs path⟩ ∧ w'.files = w.files ∧
      w'.state = w.state ∧ w'.firewall = w.firewall := by
  rcases Manager.apply_cases w.files.configs calls path { w.manager with listenPort := port } with
    ⟨e, -, happly⟩ | ⟨-, hidle, -⟩ | ⟨-, -, happly⟩ | ⟨-, -, -, m', e, happly, -⟩
  · simp only [startConfig, happly] at h
    cases h
  · simp only [hruns] at hidle
    cases hidle
  · simp only [startConfig, happly] at h
    cases h
    exact ⟨rfl, rfl, rfl, rfl⟩
  · simp only [startConfig, happly] at h
    cases h

/-- A release that is started again runs from its own file. -/
theorem restartLastGood_of_kept {cfg : Config} {libs : Libraries} {r : Release} {w w' : World}
    {calls : RollbackCalls} (h : Kept cfg r w) (hrun : w.manager.runProcess = true)
    (hrestart : restartLastGood cfg libs calls r.bundle (cfg.processPort r.port) w = (w', .ok ())) :
    w'.manager.process = some ⟨.lastGood, some (r.config cfg)⟩ ∧ w'.firewall = w.firewall := by
  rw [restartLastGood] at hrestart
  have hensure := ensureLastGoodConfig_of_kept h libs calls.config
  cases houtcome : calls.config.outcome with
  | error e =>
      rw [houtcome] at hensure
      rw [andThen_of_error hensure] at hrestart
      cases hrestart
  | ok u =>
      rw [houtcome] at hensure
      rw [andThen_of_ok hensure] at hrestart
      have hfiles : (copyToSingboxConfig calls.writeSingbox w).files.configs .lastGood =
          some (r.config cfg) ∧ (copyToSingboxConfig calls.writeSingbox w).firewall = w.firewall := by
        simp only [copyToSingboxConfig]
        split
        · exact ⟨h.stored, rfl⟩
        · exact ⟨h.stored, rfl⟩
      have hmanager := @copyToSingboxConfig_manager w calls.writeSingbox
      generalize copyToSingboxConfig calls.writeSingbox w = copied at hrestart hfiles hmanager
      obtain ⟨hprocess, -, -, hfirewall⟩ := startConfig_ok (by rw [hmanager, hrun]) hrestart
      exact ⟨by rw [hprocess, hfiles.1], hfirewall.trans hfiles.2⟩

end Grouproxy.Agent
