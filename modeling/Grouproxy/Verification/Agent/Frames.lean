import Grouproxy.Model.Restart

/-! # What the steps of the agent leave unchanged

The manager's `apply` in cases, and frame lemmas for the small steps that every other result
about the agent uses.
-/

namespace Grouproxy.Runtime

/-- The process that is left when a new one could not be brought up. -/
def fallback (configs : ConfigFiles) (call : Outcome) (previous : Option ConfigPath) :
    Option Process :=
  match previous, call with
  | some path, .ok () => some ⟨path, configs path⟩
  | _, _ => none

/-- The new process does not start or does not stay. -/
def ApplyCalls.SwapFails (calls : ApplyCalls) : Prop :=
  calls.start ≠ .ok () ∨ awaitPort none calls.polls ≠ .listening

/-- The new process starts and listens. -/
structure ApplyCalls.Listens (calls : ApplyCalls) : Prop where
  check : calls.check = .ok ()
  start : calls.start = .ok ()
  polls : awaitPort none calls.polls = .listening

/-- What is left after a failed swap. -/
structure FallenBack (configs : ConfigFiles) (calls : ApplyCalls) (m m' : Manager) : Prop where
  process : m'.process = fallback configs calls.startPrevious m.activePath
  runProcess : m'.runProcess = true
  restarts : m'.failedRestarts = m.failedRestarts +
    (if m.activePath.isSome ∧ calls.startPrevious ≠ .ok () then 1 else 0)

namespace Manager

variable {configs : ConfigFiles} {calls : ApplyCalls} {path : ConfigPath} {m : Manager}

theorem startPrevious_spec (call : Outcome) (previous : Option ConfigPath)
    (hnone : m.process = none) (hrun : m.runProcess = true) :
    (m.startPrevious configs call previous).process = fallback configs call previous ∧
      (m.startPrevious configs call previous).runProcess = true ∧
      (m.startPrevious configs call previous).failedRestarts = m.failedRestarts +
        (if previous.isSome ∧ call ≠ .ok () then 1 else 0) := by
  cases previous with
  | none => exact ⟨hnone, hrun, by simp [startPrevious]⟩
  | some path =>
      cases call with
      | error e => simp [startPrevious, start, hrun, fallback, hnone]
      | ok u => simp [startPrevious, start, hrun, fallback]

/-- The four ways in which `apply` ends. -/
theorem apply_cases (configs : ConfigFiles) (calls : ApplyCalls) (path : ConfigPath) (m : Manager) :
    (∃ e, calls.check = .error e ∧ m.apply configs calls path = (m, .error e)) ∨
      (calls.check = .ok () ∧ m.runProcess = false ∧
        m.apply configs calls path = ({ m with activePath := some path }, .ok ())) ∨
      (m.runProcess = true ∧ calls.Listens ∧ m.apply configs calls path =
        ({ m with process := some ⟨path, configs path⟩, activePath := some path }, .ok ())) ∨
      (calls.check = .ok () ∧ m.runProcess = true ∧ calls.SwapFails ∧
        ∃ m' e, m.apply configs calls path = (m', .error e) ∧ FallenBack configs calls m m') := by
  cases hcheck : calls.check with
  | error e => exact .inl ⟨e, rfl, by simp [apply, hcheck]⟩
  | ok u =>
      refine .inr ?_
      cases hrun : m.runProcess with
      | false => exact .inl ⟨rfl, rfl, by simp [apply, hcheck, hrun]⟩
      | true =>
          refine .inr ?_
          cases hstart : calls.start with
          | error e =>
              have hprevious := @startPrevious_spec configs m.stop calls.startPrevious m.activePath
                rfl hrun
              refine .inr ⟨rfl, rfl, .inl (by simp [hstart]), m.stop.startPrevious configs
                calls.startPrevious m.activePath, e, ?_, hprevious.1, hprevious.2.1, hprevious.2.2⟩
              simp [apply, hcheck, hrun, start, stop, hstart]
          | ok u =>
              have hprevious := @startPrevious_spec configs
                { m with process := none, activePath := some path } calls.startPrevious m.activePath
                rfl hrun
              have hfailed : ∀ e, m.apply configs calls path = (Manager.startPrevious configs
                  calls.startPrevious m.activePath { m with process := none, activePath := some path },
                  .error e) → ∃ m' e, m.apply configs calls path = (m', .error e) ∧
                    FallenBack configs calls m m' := fun e he =>
                ⟨_, e, he, hprevious.1, hprevious.2.1, hprevious.2.2⟩
              cases hpolls : awaitPort none calls.polls with
              | listening =>
                  refine .inl ⟨rfl, ⟨hcheck, hstart, hpolls⟩, ?_⟩
                  simp [apply, hcheck, hrun, start, stop, hstart, hpolls]
              | exited =>
                  refine .inr ⟨rfl, rfl, .inr (by simp [hpolls]), hfailed ("sing-box exited before " ++
                    "listening on " ++ String.ofList (Text.intText m.listenPort)) ?_⟩
                  simp [apply, hcheck, hrun, start, stop, hstart, hpolls]
              | silent =>
                  refine .inr ⟨rfl, rfl, .inr (by simp [hpolls]), hfailed ("sing-box did not listen on " ++
                    String.ofList (Text.intText m.listenPort)) ?_⟩
                  simp [apply, hcheck, hrun, start, stop, hstart, hpolls]

end Manager

end Grouproxy.Runtime

namespace Grouproxy.Agent

open Value Grouproxy.Bundle Policy Routing Singbox Subscription Steps
open Grouproxy.Runtime

/-! ## The manager -/

section Manager

variable {cfg : Config} {w : World}

@[simp] theorem setLastGood_manager (owned : Bool) (value : Fields) (w : World) :
    (w.setLastGood owned value).manager = w.manager := by
  cases owned with
  | false => rfl
  | true => rfl

/-- Installing a script changes at most the stored script and the table. -/
theorem installScript_fst (cfg : Config) (calls : FirewallCalls) (script : String) (w : World) :
    ∃ nft firewall, (installScript cfg calls script w).1 =
      { w with files := { w.files with lastGoodNft := nft }, firewall := firewall } := by
  simp only [installScript]
  cases calls.check with
  | error e => exact ⟨_, _, rfl⟩
  | ok u =>
      cases calls.write with
      | error e => exact ⟨_, _, rfl⟩
      | ok u =>
          cases cfg.applyMode with
          | false => exact ⟨_, _, rfl⟩
          | true =>
              cases calls.apply with
              | error e => exact ⟨_, _, rfl⟩
              | ok u => exact ⟨_, _, rfl⟩

@[simp] theorem installScript_manager (calls : FirewallCalls) (script : String) :
    (installScript cfg calls script w).1.manager = w.manager := by
  obtain ⟨nft, firewall, h⟩ := installScript_fst cfg calls script w
  rw [h]

@[simp] theorem restoreLastGoodFirewallForBundle_manager (lookup : Lookup) (calls : FirewallCalls)
    (owned : Bool) (lastGood : Fields) :
    (restoreLastGoodFirewallForBundle cfg lookup calls owned lastGood w).1.manager = w.manager := by
  simp only [restoreLastGoodFirewallForBundle]
  split
  · rfl
  · split
    · rfl
    · split
      · simp
      · simp

@[simp] theorem readPersistedBundle_manager (calls : RestoreCalls) :
    (readPersistedBundle cfg calls w).1.manager = w.manager := by
  simp only [readPersistedBundle]
  split
  · rfl
  · simp only [apply_ite World.manager, installScript_manager, ite_self]

@[simp] theorem restoreLastGoodFirewall_manager (calls : RestoreCalls) :
    (restoreLastGoodFirewall cfg calls w).1.manager = w.manager := by
  have hread := @readPersistedBundle_manager cfg w calls
  rw [restoreLastGoodFirewall]
  split
  · simp
  · split
    · rename_i hpersisted
      rw [hpersisted] at hread
      simpa using hread
    · rename_i hpersisted
      rw [hpersisted] at hread
      simpa using hread

@[simp] theorem noteRestore_manager (r : World × Outcome) : (noteRestore r).manager = r.1.manager := by
  obtain ⟨w, result⟩ := r
  cases result with
  | error e => rfl
  | ok u => rfl

@[simp] theorem ensureLastGoodConfig_manager (libs : Libraries) (calls : ConfigCalls)
    (lastGood : Fields) (port : Int) :
    (ensureLastGoodConfig cfg libs calls lastGood port w).1.manager = w.manager := by
  simp only [ensureLastGoodConfig]
  split
  · rfl
  · split
    · simp
    · split
      · simp
      · simp only [writeLastGoodConfig]
        split
        · simp
        · simp

@[simp] theorem copyToSingboxConfig_manager (call : Outcome) :
    (copyToSingboxConfig call w).manager = w.manager := by
  simp only [copyToSingboxConfig]
  split
  · rfl
  · rfl

@[simp] theorem finishRollback_manager (save : Outcome) (value : Fields) (reason : String)
    (processOK nftRollbackOK rollbackOK : Bool) :
    (finishRollback cfg save value reason processOK nftRollbackOK rollbackOK w).1.manager =
      w.manager := rfl

@[simp] theorem ackFailure_manager (save : Outcome) (value : Fields) (code message : String)
    (singboxOK nftOK healthOK attempted : Bool) :
    (ackFailure cfg save value code message singboxOK nftOK healthOK attempted w).1.manager =
      w.manager := rfl

end Manager

/-! ## The state -/

/-- The last good bundle is in the form of today, so that reading its rules leaves it alone. -/
def State.Canonical (s : State) : Prop :=
  ∀ lastGood, s.lastGoodBundle = some lastGood → isCanonicalSourceBlacklist lastGood = true

section State

variable {cfg : Config} {w : World}

theorem setLastGood_self {value : Fields} (h : w.state.lastGoodBundle = some value) :
    w.setLastGood true value = w := by
  obtain ⟨state, files, manager, firewall, sequence, acks, failed⟩ := w
  obtain ⟨bundle⟩ := state
  cases h
  rfl

theorem lastGoodSourceBlacklistRules_fst {value : Fields}
    (h : isCanonicalSourceBlacklist value = true) (snapshot : SnapshotFile) (lookup : Lookup) :
    (lastGoodSourceBlacklistRules snapshot lookup value).1 = value := by
  rw [lastGoodSourceBlacklistRules]
  split
  · rfl
  · rfl

@[simp] theorem installScript_state (calls : FirewallCalls) (script : String) :
    (installScript cfg calls script w).1.state = w.state := by
  obtain ⟨nft, firewall, h⟩ := installScript_fst cfg calls script w
  rw [h]

theorem restoreLastGoodFirewallForBundle_state (lookup : Lookup) (calls : FirewallCalls)
    {owned : Bool} {lastGood : Fields} (howned : owned = true →
      w.state.lastGoodBundle = some lastGood ∧ isCanonicalSourceBlacklist lastGood = true) :
    (restoreLastGoodFirewallForBundle cfg lookup calls owned lastGood w).1.state = w.state := by
  have hset : (w.setLastGood owned
      (lastGoodSourceBlacklistRules w.files.snapshot lookup lastGood).1) = w := by
    cases owned with
    | false => rfl
    | true =>
        obtain ⟨hlast, hcanonical⟩ := howned rfl
        rw [lastGoodSourceBlacklistRules_fst hcanonical, setLastGood_self hlast]
  simp only [restoreLastGoodFirewallForBundle, hset]
  split
  · rfl
  · split
    · rfl
    · split
      · rfl
      · simp

@[simp] theorem readPersistedBundle_state (calls : RestoreCalls) :
    (readPersistedBundle cfg calls w).1.state = w.state := by
  simp only [readPersistedBundle]
  split
  · rfl
  · simp only [apply_ite World.state, installScript_state, ite_self]

theorem restoreLastGoodFirewall_state (calls : RestoreCalls) (h : w.state.Canonical) :
    (restoreLastGoodFirewall cfg calls w).1.state = w.state := by
  have hread := @readPersistedBundle_state cfg w calls
  rw [restoreLastGoodFirewall]
  split
  · rename_i lastGood hlast
    exact restoreLastGoodFirewallForBundle_state _ _ fun _ => ⟨hlast, h lastGood hlast⟩
  · split
    · rename_i hpersisted
      rw [hpersisted] at hread
      rw [restoreLastGoodFirewallForBundle_state _ _ (by simp)]
      exact hread
    · rename_i hpersisted
      rw [hpersisted] at hread
      simpa using hread

@[simp] theorem noteRestore_state (r : World × Outcome) : (noteRestore r).state = r.1.state := by
  obtain ⟨w, result⟩ := r
  cases result with
  | error e => rfl
  | ok u => rfl

@[simp] theorem writeLastGoodConfig_state (call : Outcome) (config : Fields) :
    (writeLastGoodConfig call config w).1.state = w.state := by
  cases call with
  | error e => rfl
  | ok u => rfl

theorem ensureLastGoodConfig_state (libs : Libraries) (calls : ConfigCalls) {lastGood : Fields}
    (port : Int) (hlast : w.state.lastGoodBundle = some lastGood)
    (hcanonical : isCanonicalSourceBlacklist lastGood = true) :
    (ensureLastGoodConfig cfg libs calls lastGood port w).1.state = w.state := by
  simp only [ensureLastGoodConfig, lastGoodSourceBlacklistRules_fst hcanonical,
    setLastGood_self hlast]
  split
  · rfl
  · split
    · rfl
    · split
      · rfl
      · simp

@[simp] theorem copyToSingboxConfig_state (call : Outcome) :
    (copyToSingboxConfig call w).state = w.state := by
  simp only [copyToSingboxConfig]
  split
  · rfl
  · rfl

@[simp] theorem startConfig_state (calls : ApplyCalls) (port : Int) (path : ConfigPath) :
    (startConfig calls port path w).1.state = w.state := rfl

@[simp] theorem writeFiles_state (call : Outcome) (update : Files → Files) :
    (writeFiles call update w).1.state = w.state := by
  cases call with
  | error e => rfl
  | ok u => rfl

theorem restartLastGood_state (libs : Libraries) (calls : RollbackCalls) {lastGood : Fields}
    (port : Int) (hlast : w.state.lastGoodBundle = some lastGood)
    (hcanonical : isCanonicalSourceBlacklist lastGood = true) :
    (restartLastGood cfg libs calls lastGood port w).1.state = w.state := by
  have hensure := @ensureLastGoodConfig_state cfg w libs calls.config lastGood port hlast hcanonical
  rw [restartLastGood]
  rcases andThen_cases (ensureLastGoodConfig cfg libs calls.config lastGood port)
    (fun w => startConfig calls.apply port .lastGood (copyToSingboxConfig calls.writeSingbox w)) w
    with ⟨w', e, hw, hrun⟩ | ⟨w', hw, hrun⟩
  · rw [hrun]
    rw [hw] at hensure
    exact hensure
  · rw [hrun]
    rw [hw] at hensure
    simpa using hensure

end State

/-! ## The last good bundle brought up to date -/

/-- A bundle whose blacklist has been brought into the form of today, as reading its rules does. -/
def upToDate (value : Fields) : Fields :=
  if hasRetiredSourcePolicy value ∨ isCanonicalSourceBlacklist value then value
  else canonicalizeBundleBlacklist value

theorem lastGoodSourceBlacklistRules_eq (snapshot : SnapshotFile) (lookup : Lookup)
    (value : Fields) : (lastGoodSourceBlacklistRules snapshot lookup value).1 = upToDate value := by
  rw [lastGoodSourceBlacklistRules, upToDate]
  split
  · rename_i hretired
    rw [if_pos (.inl hretired)]
  · rename_i hretired
    split
    · rename_i hcanonical
      rw [if_pos (.inr hcanonical)]
    · rename_i hcanonical
      rw [if_neg (not_or.mpr ⟨hretired, hcanonical⟩)]

theorem get?_canonicalizeBundleBlacklist (value : Fields) {key : String}
    (hblacklist : key ≠ "blacklist") :
    (canonicalizeBundleBlacklist value).get? key =
      if key = "source_blacklist" then none else value.get? key := by
  rw [canonicalizeBundleBlacklist]
  split
  · rw [Fields.get?_delete]
  · rw [Fields.get?_delete, Fields.get?_put_ne _ hblacklist]

theorem httpPort?_upToDate (value : Fields) : httpPort? (upToDate value) = httpPort? value := by
  rw [upToDate]
  split
  · rfl
  · rw [httpPort?, Fields.get, get?_canonicalizeBundleBlacklist _ (by decide), if_neg (by decide)]
    rfl

/-! ## Rollbacks in their parts -/

/-- The agent while the last good bundle is restored: the process is stopped and the firewall
call is over. -/
def afterFirewall (cfg : Config) (calls : RollbackCalls) (w : World) : World :=
  noteRestore (restoreLastGoodFirewall cfg calls.restore { w with manager := w.manager.close })

/-- The last good bundle of a state with its port. -/
def lastGoodPort? (s : State) : Option (Fields × Int) :=
  s.lastGoodBundle.bind fun lastGood => (httpPort? lastGood).map (lastGood, ·)

theorem lastGoodPort?_eq_some {s : State} {lastGood : Fields} {port : Int} :
    lastGoodPort? s = some (lastGood, port) ↔
      s.lastGoodBundle = some lastGood ∧ httpPort? lastGood = some port := by
  simp only [lastGoodPort?, Option.bind_eq_some_iff, Option.map_eq_some_iff, Prod.mk.injEq]
  constructor
  · intro h
    obtain ⟨other, hlast, p, hport, rfl, rfl⟩ := h
    exact ⟨hlast, hport⟩
  · intro h
    exact ⟨lastGood, h.1, port, h.2, rfl, rfl⟩

/-- The agent when both restoring calls of a rollback are over. -/
def afterRestart (cfg : Config) (libs : Libraries) (calls : RollbackCalls) (w : World) : World :=
  match lastGoodPort? (afterFirewall cfg calls w).state with
  | none => afterFirewall cfg calls w
  | some (lastGood, port) => noteRestore
      (restartLastGood cfg libs calls lastGood (cfg.processPort port) (afterFirewall cfg calls w))

/-- A rollback restores and then reports. -/
theorem rollback_eq (cfg : Config) (libs : Libraries) (calls : RollbackCalls) (value : Fields)
    (reason : String) (processOK : Bool) (w : World) :
    ∃ nftOK rollbackOK, rollback cfg libs calls value reason processOK w =
      finishRollback cfg calls.save value reason processOK nftOK rollbackOK
        (afterRestart cfg libs calls w) := by
  simp only [rollback, afterRestart, lastGoodPort?]
  split
  · rename_i h
    simp only [afterFirewall, h]
    exact ⟨_, _, rfl⟩
  · rename_i h
    simp only [afterFirewall, h]
    exact ⟨_, _, rfl⟩

@[simp] theorem afterFirewall_manager (cfg : Config) (calls : RollbackCalls) (w : World) :
    (afterFirewall cfg calls w).manager = w.manager.close := by
  simp [afterFirewall]

theorem afterFirewall_state {cfg : Config} {w : World} (calls : RollbackCalls)
    (h : w.state.Canonical) : (afterFirewall cfg calls w).state = w.state := by
  rw [afterFirewall, noteRestore_state]
  exact restoreLastGoodFirewall_state calls.restore h

@[simp] theorem installScript_snapshot {cfg : Config} {w : World} (calls : FirewallCalls)
    (script : String) : (installScript cfg calls script w).1.files.snapshot = w.files.snapshot := by
  obtain ⟨nft, firewall, h⟩ := installScript_fst cfg calls script w
  rw [h]

@[simp] theorem installScript_configs {cfg : Config} {w : World} (calls : FirewallCalls)
    (script : String) : (installScript cfg calls script w).1.files.configs = w.files.configs := by
  obtain ⟨nft, firewall, h⟩ := installScript_fst cfg calls script w
  rw [h]

@[simp] theorem noteRestore_files (r : World × Outcome) : (noteRestore r).files = r.1.files := by
  obtain ⟨w, result⟩ := r
  cases result with
  | error e => rfl
  | ok u => rfl

/-- Without a last good bundle in the state there is none after the firewall call. -/
theorem lastGoodPort?_afterFirewall_of_none {cfg : Config} {w : World} (calls : RollbackCalls)
    (h : lastGoodPort? w.state = none) : lastGoodPort? (afterFirewall cfg calls w).state = none := by
  cases hlast : w.state.lastGoodBundle with
  | none =>
      have hcanonical : w.state.Canonical := fun lastGood hsome => by
        rw [hlast] at hsome
        cases hsome
      rw [afterFirewall_state calls hcanonical, h]
  | some lastGood =>
      have hport : httpPort? lastGood = none := by
        rw [lastGoodPort?, hlast] at h
        simpa using h
      have hkept : (afterFirewall cfg calls w).state = w.state := by
        rw [afterFirewall, noteRestore_state, restoreLastGoodFirewall]
        simp only [hlast, restoreLastGoodFirewallForBundle]
        split
        · rfl
        · rename_i listen hlisten
          rw [httpPort?, hlisten] at hport
          simp only [Option.bind_some] at hport
          rw [hport]
      rw [hkept, h]

/-- The firewall call leaves the last good bundle up to date, and what its configuration is made of
as it was. -/
theorem afterFirewall_of_lastGood {cfg : Config} {w : World} (calls : RollbackCalls)
    {lastGood : Fields} {port : Int} (hlast : w.state.lastGoodBundle = some lastGood)
    (hport : httpPort? lastGood = some port) :
    lastGoodPort? (afterFirewall cfg calls w).state = some (upToDate lastGood, port) ∧
      (afterFirewall cfg calls w).files.snapshot = w.files.snapshot ∧
      (afterFirewall cfg calls w).files.configs = w.files.configs := by
  have hparts : ∃ listen, (lastGood.get "listen").asMap? = some listen ∧
      (listen.get "http_port").asInt? = some port := by
    rwa [httpPort?, Option.bind_eq_some_iff] at hport
  obtain ⟨listen, hlisten, hnumber⟩ := hparts
  have hbundle := lastGoodSourceBlacklistRules_eq w.files.snapshot calls.restore.lookup lastGood
  rw [lastGoodPort?_eq_some, httpPort?_upToDate, afterFirewall, noteRestore_state,
    noteRestore_files, restoreLastGoodFirewall]
  simp only [hlast, restoreLastGoodFirewallForBundle, hlisten, hnumber, hbundle]
  cases (lastGoodSourceBlacklistRules w.files.snapshot calls.restore.lookup lastGood).2 with
  | error e => exact ⟨⟨rfl, hport⟩, rfl, rfl⟩
  | ok rules =>
      rw [installScript_state, installScript_snapshot, installScript_configs]
      exact ⟨⟨rfl, hport⟩, rfl, rfl⟩

theorem afterRestart_state {cfg : Config} {libs : Libraries} {w : World} (calls : RollbackCalls)
    (h : w.state.Canonical) : (afterRestart cfg libs calls w).state = w.state := by
  have hfirewall := @afterFirewall_state cfg w calls h
  rw [afterRestart]
  split
  · exact hfirewall
  · rename_i lastGood port hfound
    have hlast := (lastGoodPort?_eq_some.mp hfound).1
    have hcanonical := h lastGood (by rw [← hfirewall, hlast])
    rw [noteRestore_state, restartLastGood_state libs calls _ hlast hcanonical, hfirewall]

/-! ## Candidates -/

theorem coded_eq_ok {α : Type} {x : Except String α} {a : α} (h : coded x = .ok a) : x = .ok a := by
  cases x with
  | error e => cases h
  | ok b => exact congrArg Except.ok (Except.ok.inj h)

theorem withCode_eq_ok {α : Type} {code : String} {x : Except String α} {a : α}
    (h : withCode code x = .ok a) : x = .ok a := by
  cases x with
  | error e => cases h
  | ok b => exact congrArg Except.ok (Except.ok.inj h)

theorem require_eq_ok {α : Type} {value : Option α} {code message : String} {a : α}
    (h : require value code message = .ok a) : value = some a := by
  cases value with
  | none => cases h
  | some b => exact congrArg some (Except.ok.inj h)

theorem requireThat_eq_ok {condition : Bool} {code message : String}
    (h : requireThat condition code message = .ok ()) : condition = true := by
  cases condition with
  | false => cases h
  | true => rfl

/-- Everything that is known about a bundle with a candidate, and what the candidate holds. -/
structure Planned (cfg : Config) (libs : Libraries) (calls : PlanCalls) (appliedVersion version : Int)
    (value : Fields) (c : Candidate) : Prop where
  validated : validate libs.hashes calls.clock value cfg.hmacSecret appliedVersion = .ok c.hash
  node : stringValue (value.get "node_id") = cfg.nodeID
  minimum : validateMinimumMonitorVersion value monitorVersion = .ok ()
  policy : ∃ policy, parseDestinationPolicy value = .ok policy
  port : ∃ port, httpPort? value = some port ∧ c.port = cfg.processPort port
  subscription : resolveSubscription libs calls.blob value = .ok c.subscription
  selection : validateProxySelection value (subscriptionOutboundTags c.subscription.outbounds) = .ok ()
  rules : resolveBundleRules calls.lookup value = .ok c.rules
  version : c.version = version
  config : c.config = renderSingbox cfg.settings value c.port c.subscription.outbounds c.rules
  script : c.script = bundleScript (cfg.firewallPort c.port) value c.rules

theorem planned_of_planCandidate {cfg : Config} {libs : Libraries} {calls : PlanCalls}
    {appliedVersion version : Int} {value : Fields} {c : Candidate}
    (h : planCandidate cfg libs calls appliedVersion version value = .ok c) :
    Planned cfg libs calls appliedVersion version value c := by
  rw [planCandidate] at h
  obtain ⟨hash, hvalidated, h⟩ := bind_eq_ok h
  obtain ⟨_, hnode, h⟩ := bind_eq_ok h
  obtain ⟨_, hminimum, h⟩ := bind_eq_ok h
  obtain ⟨policy, hpolicy, h⟩ := bind_eq_ok h
  obtain ⟨listen, hlisten, h⟩ := bind_eq_ok h
  obtain ⟨port, hport, h⟩ := bind_eq_ok h
  obtain ⟨subscription, hsubscription, h⟩ := bind_eq_ok h
  obtain ⟨_, hselection, h⟩ := bind_eq_ok h
  obtain ⟨-, -, h⟩ := bind_eq_ok h
  obtain ⟨-, -, h⟩ := bind_eq_ok h
  obtain ⟨rules, hrules, h⟩ := bind_eq_ok h
  cases h
  exact {
    validated := coded_eq_ok hvalidated
    node := by simpa using requireThat_eq_ok hnode
    minimum := coded_eq_ok hminimum
    policy := ⟨policy, coded_eq_ok hpolicy⟩
    port := ⟨port, by simp [httpPort?, require_eq_ok hlisten, require_eq_ok hport], rfl⟩
    subscription := coded_eq_ok hsubscription
    selection := coded_eq_ok hselection
    rules := withCode_eq_ok hrules
    version := rfl
    config := rfl
    script := rfl }

/-- What `Validate` establishes about a bundle. -/
structure Validated (libs : Libraries) (clock : Clock) (secret : String) (value : Fields)
    (hash : String) : Prop where
  verified : verify libs.hashes value secret = .ok hash
  hash : hash = stringValue (value.get "bundle_hash")
  unexpired : ∃ expires, clock.parseRFC3339 (stringValue (value.get "expires_at")) = some expires ∧
    clock.now < expires
  port : httpPort? value = some proxyListenPort
  canonical : isCanonicalSourceBlacklist value = true

theorem verify_eq_ok {h : Hashes} {value : Fields} {secret hash : String}
    (hverify : verify h value secret = .ok hash) :
    hash = stringValue (value.get "bundle_hash") ∧ hash = Bundle.hash h value := by
  simp only [verify] at hverify
  split at hverify
  · cases hverify
  · rename_i hhash
    split at hverify
    · cases hverify
    · cases hverify
      exact ⟨not_not.mp hhash, rfl⟩

/-- The checks of the contract that later steps rely on: the expiry and the port. -/
theorem validateContract_ok {clock : Clock} {value : Fields} {currentVersion : Int}
    (h : validateContract clock value currentVersion = .ok ()) :
    (∃ expires, clock.parseRFC3339 (stringValue (value.get "expires_at")) = some expires ∧
      clock.now < expires) ∧ httpPort? value = some proxyListenPort := by
  rw [validateContract] at h
  split at h
  · cases h
  · split at h
    · cases h
    · split at h
      · cases h
      · split at h
        · cases h
        · split at h
          · cases h
          · split at h
            · cases h
            · split at h
              · cases h
              · split at h
                · cases h
                · rename_i hexpires
                  rw [not_not, Option.any_eq_true] at hexpires
                  obtain ⟨expires, hparse, hlt⟩ := hexpires
                  refine ⟨⟨expires, hparse, by simpa using hlt⟩, ?_⟩
                  split at h
                  · cases h
                  · rename_i listen hlisten
                    split at h
                    · cases h
                    · rename_i port hport
                      split at h
                      · cases h
                      · split at h
                        · cases h
                        · rename_i hsupported
                          rw [not_not] at hsupported
                          simp [httpPort?, hlisten, hport, hsupported]

theorem validated_of_validate {libs : Libraries} {clock : Clock} {value : Fields} {secret : String}
    {currentVersion : Int} {hash : String}
    (h : validate libs.hashes clock value secret currentVersion = .ok hash) :
    Validated libs clock secret value hash := by
  rw [validate] at h
  obtain ⟨_, hcontract, h⟩ := bind_eq_ok h
  obtain ⟨_, hblacklist, h⟩ := bind_eq_ok h
  obtain ⟨-, -, h⟩ := bind_eq_ok h
  obtain ⟨-, -, h⟩ := bind_eq_ok h
  obtain ⟨verified, hverify, h⟩ := bind_eq_ok h
  cases h
  exact {
    verified := by rw [hverify, (verify_eq_ok hverify).1]
    hash := rfl
    unexpired := (validateContract_ok hcontract).1
    port := (validateContract_ok hcontract).2
    canonical := by rw [isCanonicalSourceBlacklist, hblacklist] }

end Grouproxy.Agent
