import Grouproxy.Verification.Agent.LastGood
import Grouproxy.Verification.Agent.Runs

/-! # The exits of `applyBundle`

The steps of a candidate in cases, on an agent whose last good release is live: what each of
them needs to succeed, and what it leaves running and installed when it fails.
-/

namespace Grouproxy.Agent

open Value Grouproxy.Bundle Policy Routing Singbox Subscription Steps
open Grouproxy.Runtime

/-- The running process and the installed firewall are those of a release. -/
structure Live (cfg : Config) (r : Release) (w : World) : Prop where
  process : ∃ p, w.manager.process = some p ∧ p.config = some (r.config cfg)
  firewall : cfg.applyMode = true → w.firewall = some (r.script cfg)

/-- A release is live, it is what the state and the files say, and the file that the process was
started with still holds its configuration. -/
structure Settled (cfg : Config) (r : Release) (w : World) : Prop where
  live : Live cfg r w
  kept : Kept cfg r w
  runs : w.manager.runProcess = true
  active : ∃ path, w.manager.activePath = some path ∧ w.files.configs path = some (r.config cfg)
  version : (r.bundle.get "desired_version").asInt? = some w.state.appliedVersion
  hash : r.hash = w.state.appliedHash

/-- No restoring call failed on the way. -/
structure Restored (w w' : World) : Prop where
  restores : w'.failedRestores = w.failedRestores
  restarts : w'.manager.failedRestarts = w.manager.failedRestarts

/-- A failure is reported without touching the process or the firewall. -/
theorem ackFailure_eq (cfg : Config) (save : Outcome) (value : Fields) (code message : String)
    (singboxOK nftOK healthOK attempted : Bool) (w : World) :
    ∃ w' e, ackFailure cfg save value code message singboxOK nftOK healthOK attempted w =
        (w', .error e) ∧
      w'.manager = w.manager ∧ w'.firewall = w.firewall ∧ w'.failedRestores = w.failedRestores :=
  ⟨_, _, rfl, rfl, rfl, rfl⟩

/-! ## Restoring calls -/

theorem Kept.congr {cfg : Config} {r : Release} {w w' : World} (h : Kept cfg r w)
    (hbundle : w'.state.lastGoodBundle = w.state.lastGoodBundle)
    (hsnapshot : w'.files.snapshot = w.files.snapshot)
    (hstored : w'.files.configs .lastGood = w.files.configs .lastGood) : Kept cfg r w' :=
  ⟨hbundle.trans h.bundle, hsnapshot.trans h.snapshot, hstored.trans h.stored⟩

@[simp] theorem installScript_failedRestores (cfg : Config) (calls : FirewallCalls) (script : String)
    (w : World) : (installScript cfg calls script w).1.failedRestores = w.failedRestores := by
  obtain ⟨nft, firewall, h⟩ := installScript_fst cfg calls script w
  rw [h]

theorem Kept.installScript {cfg : Config} {r : Release} {w : World} (h : Kept cfg r w)
    (calls : FirewallCalls) (script : String) :
    Kept cfg r (installScript cfg calls script w).1 := by
  obtain ⟨nft, firewall, hinstall⟩ := installScript_fst cfg calls script w
  rw [hinstall]
  exact h.congr rfl rfl rfl

theorem Kept.noteRestore {cfg : Config} {r : Release} {result : World × Outcome}
    (h : Kept cfg r result.1) : Kept cfg r (noteRestore result) := by
  obtain ⟨w, outcome⟩ := result
  cases outcome with
  | error e => exact h.congr rfl rfl rfl
  | ok u => exact h

/-- A counted call is never forgotten. -/
theorem noteRestore_failedRestores (result : World × Outcome) :
    (noteRestore result).failedRestores = result.1.failedRestores ∧ result.2 = .ok () ∨
      (noteRestore result).failedRestores = result.1.failedRestores + 1 := by
  obtain ⟨w, outcome⟩ := result
  cases outcome with
  | error e => exact .inr rfl
  | ok u => exact .inl ⟨rfl, rfl⟩

/-- Restoring the firewall either fails and is counted, or installs the script of the release. -/
theorem noteRestore_of_kept {cfg : Config} {r : Release} {w : World} (h : Kept cfg r w)
    (calls : RestoreCalls) :
    (¬ calls.firewall.Succeed cfg ∧
      (noteRestore (restoreLastGoodFirewall cfg calls w)).failedRestores = w.failedRestores + 1) ∨
    (calls.firewall.Succeed cfg ∧ noteRestore (restoreLastGoodFirewall cfg calls w) =
      { w with
        files := { w.files with lastGoodNft := some (r.script cfg) }
        firewall := loaded cfg (r.script cfg) w.firewall }) := by
  rw [restoreLastGoodFirewall_of_kept h]
  by_cases hsucceed : calls.firewall.Succeed cfg
  · refine .inr ⟨hsucceed, ?_⟩
    rw [installScript_of_succeed hsucceed]
    rfl
  · refine .inl ⟨hsucceed, ?_⟩
    have hcount := installScript_failedRestores cfg calls.firewall (r.script cfg) w
    cases hinstall : installScript cfg calls.firewall (r.script cfg) w with
    | mk w' result =>
        cases result with
        | ok u => exact absurd (succeed_of_installScript hinstall) hsucceed
        | error e =>
            rw [hinstall] at hcount
            simp only at hcount
            simp [noteRestore, hcount]

theorem restartLastGood_failedRestores {cfg : Config} {libs : Libraries} {r : Release} {w : World}
    (h : Kept cfg r w) (calls : RollbackCalls) :
    (restartLastGood cfg libs calls r.bundle (cfg.processPort r.port) w).1.failedRestores =
      w.failedRestores := by
  have hensure := ensureLastGoodConfig_of_kept h libs calls.config
  rw [restartLastGood]
  cases houtcome : calls.config.outcome with
  | error e =>
      rw [houtcome] at hensure
      rw [andThen_of_error hensure]
  | ok u =>
      rw [houtcome] at hensure
      rw [andThen_of_ok hensure]
      simp only [startConfig, copyToSingboxConfig]
      split
      · rfl
      · rfl

/-- After a rollback in which every restoring call succeeded the release is live. -/
theorem live_rollback {cfg : Config} {libs : Libraries} {r : Release} {w : World}
    {calls : RollbackCalls} {value : Fields} {reason : String} {processOK : Bool}
    (h : Kept cfg r w) (hruns : w.manager.runProcess = true)
    (hrestores : (rollback cfg libs calls value reason processOK w).1.failedRestores =
      w.failedRestores) :
    Live cfg r (rollback cfg libs calls value reason processOK w).1 := by
  obtain ⟨nftOK, rollbackOK, hrollback⟩ := rollback_eq cfg libs calls value reason processOK w
  have hfinish : ∀ v : World, (finishRollback cfg calls.save value reason processOK nftOK rollbackOK
      v).1.failedRestores = v.failedRestores := fun v => rfl
  rw [hrollback, hfinish] at hrestores
  have hclosed : Kept cfg r { w with manager := w.manager.close } := h.congr rfl rfl rfl
  have hkept : Kept cfg r (afterFirewall cfg calls w) := by
    rw [afterFirewall, restoreLastGoodFirewall_of_kept hclosed]
    exact (hclosed.installScript _ _).noteRestore
  have hrun : (afterFirewall cfg calls w).manager.runProcess = true := by
    rw [afterFirewall_manager]
    exact hruns
  have hrestart : afterRestart cfg libs calls w = noteRestore (restartLastGood cfg libs calls
      r.bundle (cfg.processPort r.port) (afterFirewall cfg calls w)) := by
    rw [afterRestart, lastGoodPort?_eq_some.mpr ⟨hkept.bundle, r.httpPort⟩]
  have hcount := @restartLastGood_failedRestores cfg libs r _ hkept calls
  rw [hrestart] at hrestores
  rw [hrollback, hrestart]
  cases hresult : restartLastGood cfg libs calls r.bundle (cfg.processPort r.port)
      (afterFirewall cfg calls w) with
  | mk w' outcome =>
      rw [hresult] at hrestores hcount
      have hnote := noteRestore_failedRestores (w', outcome)
      -- A failed call raises the count, which then no longer equals that of the beginning.
      rcases noteRestore_of_kept hclosed calls.restore with ⟨-, hfailed⟩ | ⟨-, hfirewall⟩
      · rw [← afterFirewall] at hfailed
        simp only at hcount hnote hfailed
        omega
      · rw [← afterFirewall] at hfirewall
        cases outcome with
        | error e =>
            have hsame := congrArg World.failedRestores hfirewall
            simp only [noteRestore] at hcount hrestores hsame
            omega
        | ok u =>
            obtain ⟨hprocess, hsame⟩ := restartLastGood_of_kept hkept hrun hresult
            refine ⟨⟨_, hprocess, rfl⟩, ?_⟩
            intro hmode
            have hloaded := congrArg World.firewall hfirewall
            simp only [loaded, hmode, if_true] at hloaded
            exact hsame.trans hloaded

/-! ## The way to the health window -/

/-- Every call before the process is swapped succeeds. -/
structure Calls.Stages (cfg : Config) (calls : Calls) : Prop where
  directory : calls.makeVersionsDir = .ok ()
  candidate : calls.writeCandidate = .ok ()
  check : calls.checkCandidate = .ok ()
  firewallCheck : calls.checkFirewall = .ok ()
  nft : calls.writeCandidateNft = .ok ()
  firewall : cfg.applyMode = true → calls.applyFirewall = .ok ()

/-- The agent when the candidate is written. -/
def written (c : Candidate) (w : World) : World :=
  { w with files := { w.files.writeConfig c.path c.config with candidateNft := some c.script } }

/-- The agent when the firewall is that of the candidate. -/
def staged (cfg : Config) (c : Candidate) (w : World) : World :=
  { written c w with firewall := loaded cfg c.script w.firewall }

/-- The steps before the process is swapped. -/
def stageSteps (cfg : Config) (calls : Calls) (value : Fields) (c : Candidate) : List AgentStep :=
  [writeFiles calls.makeVersionsDir id,
    writeFiles calls.writeCandidate (Files.writeConfig c.path c.config),
    checkOrAck cfg calls.saveFailure value "singbox_check_failed" calls.checkCandidate,
    checkOrAck cfg calls.saveFailure value "nft_check_failed" calls.checkFirewall,
    writeFiles calls.writeCandidateNft fun files => { files with candidateNft := some c.script },
    swapFirewall cfg calls value c.script]

theorem tryCandidate_eq (cfg : Config) (libs : Libraries) (calls : Calls) (value : Fields)
    (c : Candidate) (w : World) :
    tryCandidate cfg libs calls value c w = andThen (runAll (stageSteps cfg calls value c))
      (andThen (swapProcess cfg calls value c) (healthWindow cfg libs calls value)) w := by
  have happend : tryCandidate cfg libs calls value c = runAll (stageSteps cfg calls value c ++
      [swapProcess cfg calls value c, healthWindow cfg libs calls value]) := rfl
  have hlast : runAll [swapProcess cfg calls value c, healthWindow cfg libs calls value] =
      andThen (swapProcess cfg calls value c) (healthWindow cfg libs calls value) := by
    funext v
    rcases andThen_cases (swapProcess cfg calls value c) (healthWindow cfg libs calls value) v with
      ⟨w', e, hw, hrun⟩ | ⟨w', hw, hrun⟩
    · rw [hrun, runAll, andThen_of_error hw]
    · rw [hrun, runAll, andThen_of_ok hw, runAll]
      rcases andThen_cases (healthWindow cfg libs calls value) (runAll []) w' with
        ⟨w'', e, hw, hrun⟩ | ⟨w'', hw, hrun⟩
      · rw [hrun, hw]
      · rw [hrun, hw, runAll]
  rw [happend, runAll_append, hlast]

theorem kept_written {cfg : Config} {r : Release} {w : World} (h : Kept cfg r w) (c : Candidate) :
    Kept cfg r (written c w) := by
  refine h.congr rfl rfl ?_
  simp [written, Files.writeConfig, Candidate.path]

/-- An exit that leaves the process alone and, unless a restoring call failed, the firewall. -/
structure Unmoved (cfg : Config) (r : Release) (w w' : World) : Prop where
  process : w'.manager.process = w.manager.process
  firewall : w'.failedRestores = w.failedRestores → cfg.applyMode = true →
    w'.firewall = some (r.script cfg)

theorem swapFirewall_cases {cfg : Config} {r : Release} {w : World} (h : Kept cfg r w)
    (calls : Calls) (value : Fields) (script : String) :
    ((cfg.applyMode = true → calls.applyFirewall = .ok ()) ∧
      swapFirewall cfg calls value script w =
        ({ w with firewall := loaded cfg script w.firewall }, .ok ())) ∨
    (¬ (cfg.applyMode = true → calls.applyFirewall = .ok ()) ∧
      ∃ w' e, swapFirewall cfg calls value script w = (w', .error e) ∧ Unmoved cfg r w w') := by
  cases hmode : cfg.applyMode with
  | false => exact .inl ⟨by simp, by simp [swapFirewall, hmode, loaded]⟩
  | true =>
      cases happly : calls.applyFirewall with
      | ok u => exact .inl ⟨by simp, by simp [swapFirewall, hmode, loaded, applyScript, happly]⟩
      | error e =>
          refine .inr ⟨by simp, ?_⟩
          have hkept : Kept cfg r { w with firewall := none } := h.congr rfl rfl rfl
          obtain ⟨w', e', hack, hmanager, hfirewall, hfailed⟩ := ackFailure_eq cfg calls.saveFailure value
            "nft_apply_failed" e true false false false
            (noteRestore (restoreLastGoodFirewall cfg calls.restore { w with firewall := none }))
          refine ⟨w', e', ?_, ?_, ?_⟩
          · simp only [swapFirewall, hmode, applyScript, happly, if_true, hack]
          · rw [hmanager, noteRestore_manager, restoreLastGoodFirewall_manager]
          · intro hcount _
            rcases noteRestore_of_kept hkept calls.restore with ⟨-, hcounted⟩ | ⟨-, hrestored⟩
            · simp only at hcounted
              omega
            · rw [hfirewall, hrestored]
              simp [loaded, hmode]

theorem andThen_writeFiles (call : Outcome) (update : Files → Files) (next : AgentStep) (w : World) :
    andThen (writeFiles call update) next w =
      match call with
      | .error e => (w, .error e)
      | .ok () => next { w with files := update w.files } := by
  cases call with
  | error e => rfl
  | ok u => rfl

theorem andThen_checkOrAck (cfg : Config) (save : Outcome) (value : Fields) (code : String)
    (call : Outcome) (next : AgentStep) (w : World) :
    andThen (checkOrAck cfg save value code call) next w =
      match call with
      | .error e => ackFailure cfg save value code e true false false false w
      | .ok () => next w := by
  cases call with
  | error e => rfl
  | ok u => rfl

/-- The stages either all succeed or leave the release live. -/
theorem stageSteps_cases {cfg : Config} {r : Release} {w : World} (hlive : Live cfg r w)
    (h : Kept cfg r w) (calls : Calls) (value : Fields) (c : Candidate) :
    (calls.Stages cfg ∧ runAll (stageSteps cfg calls value c) w = (staged cfg c w, .ok ())) ∨
    (¬ calls.Stages cfg ∧
      ∃ w' e, runAll (stageSteps cfg calls value c) w = (w', .error e) ∧ Unmoved cfg r w w') := by
  have hunmoved : ∀ {w' : World}, w'.manager = w.manager → w'.firewall = w.firewall →
      Unmoved cfg r w w' := fun hmanager hfirewall =>
    ⟨by rw [hmanager], fun _ hmode => hfirewall.trans (hlive.firewall hmode)⟩
  simp only [stageSteps, runAll, andThen_writeFiles, andThen_checkOrAck, id]
  cases hdirectory : calls.makeVersionsDir with
  | error e =>
      refine .inr ⟨?_, w, e, rfl, hunmoved rfl rfl⟩
      intro hs
      simp [hs.directory] at hdirectory
  | ok u =>
    cases hcandidate : calls.writeCandidate with
    | error e =>
        refine .inr ⟨?_, w, e, rfl, hunmoved rfl rfl⟩
        intro hs
        simp [hs.candidate] at hcandidate
    | ok u =>
      cases hcheck : calls.checkCandidate with
      | error e =>
          obtain ⟨w', e', hack, hmanager, hfirewall, -⟩ := ackFailure_eq cfg calls.saveFailure value
            "singbox_check_failed" e true false false false
            { w with files := w.files.writeConfig c.path c.config }
          refine .inr ⟨?_, w', e', hack, hunmoved hmanager hfirewall⟩
          intro hs
          simp [hs.check] at hcheck
      | ok u =>
        cases hnftCheck : calls.checkFirewall with
        | error e =>
            obtain ⟨w', e', hack, hmanager, hfirewall, -⟩ := ackFailure_eq cfg calls.saveFailure
              value "nft_check_failed" e true false false false
              { w with files := w.files.writeConfig c.path c.config }
            refine .inr ⟨?_, w', e', hack, hunmoved hmanager hfirewall⟩
            intro hs
            simp [hs.firewallCheck] at hnftCheck
        | ok u =>
          cases hnft : calls.writeCandidateNft with
          | error e =>
              refine .inr ⟨?_, _, e, rfl, hunmoved rfl rfl⟩
              intro hs
              simp [hs.nft] at hnft
          | ok u =>
            rcases swapFirewall_cases (kept_written h c) calls value c.script with
              ⟨hfirewall, hswap⟩ | ⟨hfirewall, w', e, hswap, hmoved⟩
            · refine .inl ⟨⟨hdirectory, hcandidate, hcheck, hnftCheck, hnft, hfirewall⟩, ?_⟩
              exact andThen_of_ok hswap _
            · refine .inr ⟨?_, w', e, andThen_of_error hswap _, hmoved.process, hmoved.firewall⟩
              intro hs
              exact hfirewall hs.firewall

/-! ## The process and the health window -/

/-- The agent when the candidate runs. -/
def launched (cfg : Config) (c : Candidate) (w : World) : World :=
  { staged cfg c w with
    manager := { w.manager with
      listenPort := c.port
      process := some ⟨c.path, some (jsonTreeFields c.config)⟩
      activePath := some c.path } }

theorem staged_configs (cfg : Config) (c : Candidate) (w : World) (path : ConfigPath) :
    (staged cfg c w).files.configs path =
      if path = c.path then some (jsonTreeFields c.config) else w.files.configs path := rfl

theorem kept_staged {cfg : Config} {r : Release} {w : World} (h : Kept cfg r w) (c : Candidate) :
    Kept cfg r (staged cfg c w) := (kept_written h c).congr rfl rfl rfl

/-- The process that a failed swap leaves: the old one if the check failed, else what the manager
falls back to. -/
inductive LeftBehind (calls : ApplyCalls) (configs : ConfigFiles) (m m' : Manager) : Prop where
  | unchecked {e : String} (check : calls.check = .error e) (process : m'.process = m.process)
  | fallenBack (check : calls.check = .ok ()) (fails : calls.SwapFails)
      (back : FallenBack configs calls m m')

/-- A failed swap of the process: the firewall is restored and the failure reported. -/
structure SwapFailed (cfg : Config) (r : Release) (calls : Calls) (c : Candidate) (w w' : World) :
    Prop where
  process : LeftBehind calls.apply (staged cfg c w).files.configs w.manager w'.manager
  firewall : w'.failedRestores = w.failedRestores → cfg.applyMode = true →
    w'.firewall = some (r.script cfg)
  restores : calls.restore.firewall.Succeed cfg ↔ w'.failedRestores = w.failedRestores

theorem swapProcess_failed {cfg : Config} {r : Release} {w : World} (h : Kept cfg r w)
    {calls : Calls} {value : Fields} {c : Candidate} {m : Manager} {e : String}
    (happly : ({ (staged cfg c w).manager with listenPort := c.port } : Manager).apply
      (staged cfg c w).files.configs calls.apply c.path = (m, .error e))
    (hleft : LeftBehind calls.apply (staged cfg c w).files.configs w.manager m) :
    ∃ w' e, swapProcess cfg calls value c (staged cfg c w) = (w', .error e) ∧
      SwapFailed cfg r calls c w w' := by
  have hkept : Kept cfg r { staged cfg c w with manager := m } :=
    (kept_staged h c).congr rfl rfl rfl
  have hstart : ({ staged cfg c w with manager := m } : World).failedRestores = w.failedRestores :=
    rfl
  obtain ⟨w', e', hack, hmanager, hfirewall, hcount⟩ := ackFailure_eq cfg calls.saveFailure value
    "singbox_apply_failed" e true false false true
    (noteRestore (restoreLastGoodFirewall cfg calls.restore { staged cfg c w with manager := m }))
  refine ⟨w', e', ?_, ?_, ?_, ?_⟩
  · simp only [swapProcess, startConfig, happly, hack]
  · rw [hmanager, noteRestore_manager, restoreLastGoodFirewall_manager]
    exact hleft
  · intro hsame hmode
    rcases noteRestore_of_kept hkept calls.restore with ⟨-, hcounted⟩ | ⟨-, hrestored⟩
    · omega
    · rw [hfirewall, hrestored]
      simp [loaded, hmode]
  · rcases noteRestore_of_kept hkept calls.restore with ⟨hnot, hcounted⟩ | ⟨hsucceed, hrestored⟩
    · exact iff_of_false hnot (by omega)
    · refine iff_of_true hsucceed ?_
      rw [hcount, hrestored]
      rfl

theorem swapProcess_cases {cfg : Config} {r : Release} {w : World} (h : Kept cfg r w)
    (hruns : w.manager.runProcess = true) (calls : Calls) (value : Fields) (c : Candidate) :
    (calls.apply.Listens ∧ swapProcess cfg calls value c (staged cfg c w) =
      (launched cfg c w, .ok ())) ∨
    (¬ calls.apply.Listens ∧ ∃ w' e, swapProcess cfg calls value c (staged cfg c w) =
      (w', .error e) ∧ SwapFailed cfg r calls c w w') := by
  rcases Manager.apply_cases (staged cfg c w).files.configs calls.apply c.path
    { (staged cfg c w).manager with listenPort := c.port } with
      ⟨e, hcheck, happly⟩ | ⟨-, hidle, -⟩ | ⟨-, hlistens, happly⟩ |
      ⟨hcheck, -, hfails, m', e, happly, hback⟩
  · refine .inr ⟨?_, swapProcess_failed h happly (.unchecked hcheck rfl)⟩
    intro hlistens
    rw [hlistens.check] at hcheck
    cases hcheck
  · have hrun : w.manager.runProcess = false := hidle
    rw [hruns] at hrun
    cases hrun
  · refine .inl ⟨hlistens, ?_⟩
    simp only [swapProcess, startConfig, happly, staged_configs, if_true]
    rfl
  · refine .inr ⟨?_, swapProcess_failed h happly (.fallenBack hcheck hfails
      ⟨hback.process, hback.runProcess, hback.restarts⟩)⟩
    intro hlistens
    rcases hfails with hstart | hpolls
    · exact hstart hlistens.start
    · exact hpolls hlistens.polls

/-- Every sample of the health window is good. -/
def Calls.Healthy (cfg : Config) (calls : Calls) : Prop :=
  (sampleHealth calls.health 0 cfg.healthSamples).ok = true

theorem healthWindow_launched {cfg : Config} {libs : Libraries} {w : World} {calls : Calls}
    (hruns : w.manager.runProcess = true) (value : Fields) (c : Candidate) :
    (calls.Healthy cfg ∧ healthWindow cfg libs calls value (launched cfg c w) =
      (launched cfg c w, .ok ())) ∨
    (¬ calls.Healthy cfg ∧ ∃ processOK, healthWindow cfg libs calls value (launched cfg c w) =
      rollback cfg libs calls.rollback value "health_window_failed" processOK (launched cfg c w)) := by
  have hobserved : observedHealth cfg calls (launched cfg c w).manager =
      sampleHealth calls.health 0 cfg.healthSamples := by
    have hsame : (fun i => (launched cfg c w).manager.health (calls.health i)) = calls.health := by
      funext i
      simp [Manager.health, launched, hruns]
    rw [observedHealth, hsame]
  simp only [healthWindow, hobserved]
  by_cases hhealthy : calls.Healthy cfg
  · exact .inl ⟨hhealthy, if_pos hhealthy⟩
  · exact .inr ⟨hhealthy, _, if_neg hhealthy⟩

/-! ## Writing the last good files -/

/-- Writes in sequence stop at the first failure. -/
theorem runAll_writeFiles (persist : Nat → Outcome) (updates : List (Files → Files)) (w : World) :
    (∃ k e, k < updates.length ∧ persist k = .error e ∧
      runAll (updates.mapIdx fun i update => writeFiles (persist i) update) w =
        ({ w with files := (updates.take k).foldl (fun files write => write files) w.files },
          .error e)) ∨
    ((∀ k < updates.length, persist k = .ok ()) ∧
      runAll (updates.mapIdx fun i update => writeFiles (persist i) update) w =
        ({ w with files := updates.foldl (fun files write => write files) w.files }, .ok ())) := by
  induction updates generalizing persist w with
  | nil => exact .inr ⟨by simp, rfl⟩
  | cons update updates ih =>
      rw [List.mapIdx_cons, runAll, andThen_writeFiles]
      cases hfirst : persist 0 with
      | error e => exact .inl ⟨0, e, by simp, hfirst, by simp⟩
      | ok u =>
          rcases ih (fun i => persist (i + 1)) { w with files := update w.files } with
            ⟨k, e, hk, hfails, hrun⟩ | ⟨hall, hrun⟩
          · exact .inl ⟨k + 1, e, by simpa using hk, hfails, by simp [hrun]⟩
          · refine .inr ⟨?_, by simp [hrun]⟩
            intro k hk
            cases k with
            | zero => exact hfirst
            | succ k => exact hall k (by simpa using hk)

/-- One of the persist steps fails: the rules cannot be stored, or one of the five files cannot
be written. -/
def PersistFails (calls : Calls) (value : Fields) (c : Candidate) : Prop :=
  validateMaterializedSourceRules c.rules ≠ .ok () ∨ stringValue (value.get "bundle_hash") = "" ∨
    ∃ k < 5, calls.persist k ≠ .ok ()

theorem checkSnapshot_cases (value : Fields) (c : Candidate) (w : World) :
    (validateMaterializedSourceRules c.rules = .ok () ∧ stringValue (value.get "bundle_hash") ≠ "" ∧
      checkSnapshot value c w = (w, .ok ())) ∨
    ((validateMaterializedSourceRules c.rules ≠ .ok () ∨
      stringValue (value.get "bundle_hash") = "") ∧ ∃ e, checkSnapshot value c w = (w, .error e)) := by
  cases hrules : validateMaterializedSourceRules c.rules with
  | error e => exact .inr ⟨.inl (by simp), e, by simp [checkSnapshot, hrules]⟩
  | ok u =>
      by_cases hhash : stringValue (value.get "bundle_hash") = ""
      · exact .inr ⟨.inr hhash, "missing_last_good_bundle_hash", by
          simp [checkSnapshot, hrules, hhash]⟩
      · exact .inl ⟨rfl, hhash, by simp [checkSnapshot, hrules, hhash]⟩

theorem persist_cases (calls : Calls) (value : Fields) (c : Candidate) (w : World) :
    (PersistFails calls value c ∧ ∃ files e, persist calls value c w =
      ({ w with files := files }, .error e)) ∨
    (¬ PersistFails calls value c ∧ ∃ w', persist calls value c w = (w', .ok ())) := by
  rw [persist]
  rcases checkSnapshot_cases value c w with ⟨hrules, hhash, hcheck⟩ | ⟨hfails, e, hcheck⟩
  · rw [andThen_of_ok hcheck]
    rcases runAll_writeFiles calls.persist (persistFiles value c) w with
      ⟨k, e, hk, hfails, hrun⟩ | ⟨hall, hrun⟩
    · exact .inl ⟨.inr (.inr ⟨k, hk, by simp [hfails]⟩), _, e, hrun⟩
    · refine .inr ⟨?_, _, hrun⟩
      intro hfails
      rcases hfails with h | h | ⟨k, hk, h⟩
      · exact h hrules
      · exact hhash h
      · exact h (hall k hk)
  · rw [andThen_of_error hcheck]
    refine .inl ⟨?_, w.files, e, rfl⟩
    rcases hfails with h | h
    · exact .inl h
    · exact .inr (.inl h)

/-! ## Plans -/

/-- The bundle is new and passes every check. -/
def Plans (cfg : Config) (libs : Libraries) (calls : Calls) (value : Fields) (w : World)
    (c : Candidate) : Prop :=
  ∃ version, (value.get "desired_version").asInt? = some version ∧
    ¬ version < w.state.appliedVersion ∧
    ¬ (version = w.state.appliedVersion ∧ stringValue (value.get "bundle_hash") = w.state.appliedHash) ∧
    planCandidate cfg libs calls.plan w.state.appliedVersion version value = .ok c

theorem applyBundle_of_plans {cfg : Config} {libs : Libraries} {calls : Calls} {value : Fields}
    {w : World} {c : Candidate} (h : Plans cfg libs calls value w c) :
    applyBundle cfg libs calls value w = applyCandidate cfg libs calls value c w := by
  obtain ⟨version, hversion, hnewer, hnew, hplan⟩ := h
  simp only [applyBundle, hversion, if_neg hnewer, if_neg hnew, hplan]

/-- Without a plan nothing is touched. -/
theorem applyBundle_cases (cfg : Config) (libs : Libraries) (calls : Calls) (value : Fields)
    (w : World) :
    (∃ c, Plans cfg libs calls value w c) ∨
      ((applyBundle cfg libs calls value w).1.manager = w.manager ∧
        (applyBundle cfg libs calls value w).1.firewall = w.firewall) := by
  simp only [applyBundle]
  split
  · exact .inr ⟨rfl, rfl⟩
  · rename_i version hversion
    split
    · exact .inr ⟨rfl, rfl⟩
    · rename_i hnewer
      split
      · exact .inr ⟨rfl, rfl⟩
      · rename_i hnew
        split
        · exact .inr ⟨rfl, rfl⟩
        · rename_i c hplan
          exact .inl ⟨c, version, hversion, hnewer, hnew, hplan⟩

end Grouproxy.Agent
