import Grouproxy.Verification.Agent.Exits

/-! # Failed applies

What runs and what is installed after `applyBundle` failed on an agent whose last good release
is live. Every exit before the health window leaves or restores the release; a failed write
after the window leaves the candidate.
-/

namespace Grouproxy.Agent

open Value Grouproxy.Bundle Policy Routing Singbox Subscription Steps
open Grouproxy.Runtime

/-! ## Failed applies -/

/-- The candidate becomes what the release is. -/
structure SameRendering (cfg : Config) (r : Release) (c : Candidate) : Prop where
  config : jsonTreeFields c.config = r.config cfg
  script : cfg.applyMode = true → c.script = r.script cfg

/-- A candidate survives the health window and is then not written. -/
structure LeavesCandidate (cfg : Config) (libs : Libraries) (calls : Calls) (value : Fields)
    (r : Release) (w : World) (c : Candidate) : Prop where
  plans : Plans cfg libs calls value w c
  stages : calls.Stages cfg
  listens : calls.apply.Listens
  healthy : calls.Healthy cfg
  persist : PersistFails calls value c
  differs : ¬ SameRendering cfg r c

/-- A candidate has the file of the running process, and the manager falls back to it. -/
structure OverwritesActive (cfg : Config) (libs : Libraries) (calls : Calls) (value : Fields)
    (r : Release) (w : World) (c : Candidate) : Prop where
  plans : Plans cfg libs calls value w c
  stages : calls.Stages cfg
  check : calls.apply.check = .ok ()
  fails : calls.apply.SwapFails
  previous : calls.apply.startPrevious = .ok ()
  firewall : calls.restore.firewall.Succeed cfg
  active : w.manager.activePath = some c.path
  differs : jsonTreeFields c.config ≠ r.config cfg

/-- `applyBundle` fails before the last good bundle is replaced, and what it calls to restore
succeeds. -/
structure FailsRestored (cfg : Config) (libs : Libraries) (calls : Calls) (value : Fields)
    (w : World) : Prop where
  error : ∃ e, (applyBundle cfg libs calls value w).2 = .error e
  bundle : (applyBundle cfg libs calls value w).1.state.lastGoodBundle = w.state.lastGoodBundle
  restored : Restored w (applyBundle cfg libs calls value w).1

theorem tryCandidate_of_listens {cfg : Config} {libs : Libraries} {calls : Calls} {value : Fields}
    {r : Release} {w : World} {c : Candidate} (h : Settled cfg r w) (hstages : calls.Stages cfg)
    (hlistens : calls.apply.Listens) (hhealthy : calls.Healthy cfg) :
    tryCandidate cfg libs calls value c w = (launched cfg c w, .ok ()) := by
  rw [tryCandidate_eq]
  rcases stageSteps_cases h.live h.kept calls value c with ⟨-, hstage⟩ | ⟨hnot, -⟩
  · rw [andThen_of_ok hstage]
    rcases swapProcess_cases h.kept h.runs calls value c with ⟨-, hswap⟩ | ⟨hnot, -⟩
    · rw [andThen_of_ok hswap]
      rcases @healthWindow_launched cfg libs w calls h.runs value c with ⟨-, hwindow⟩ | ⟨hnot, -⟩
      · exact hwindow
      · exact absurd hhealthy hnot
    · exact absurd hlistens hnot
  · exact absurd hstages hnot

theorem rollback_error (cfg : Config) (libs : Libraries) (calls : RollbackCalls) (value : Fields)
    (reason : String) (processOK : Bool) (w : World) :
    (rollback cfg libs calls value reason processOK w).2 = .error reason := by
  obtain ⟨nftOK, rollbackOK, hrollback⟩ := rollback_eq cfg libs calls value reason processOK w
  rw [hrollback]
  rfl

theorem tryCandidate_ok {cfg : Config} {libs : Libraries} {calls : Calls} {value : Fields}
    {r : Release} {w w' : World} {c : Candidate} (h : Settled cfg r w)
    (htry : tryCandidate cfg libs calls value c w = (w', .ok ())) :
    calls.Stages cfg ∧ calls.apply.Listens ∧ calls.Healthy cfg ∧ w' = launched cfg c w := by
  rw [tryCandidate_eq] at htry
  rcases stageSteps_cases h.live h.kept calls value c with ⟨hstages, hstage⟩ | ⟨-, v, e, hstage, -⟩
  · rw [andThen_of_ok hstage] at htry
    rcases swapProcess_cases h.kept h.runs calls value c with
      ⟨hlistens, hswap⟩ | ⟨-, v, e, hswap, -⟩
    · rw [andThen_of_ok hswap] at htry
      rcases @healthWindow_launched cfg libs w calls h.runs value c with
        ⟨hhealthy, hwindow⟩ | ⟨-, processOK, hwindow⟩
      · rw [hwindow] at htry
        cases htry
        exact ⟨hstages, hlistens, hhealthy, rfl⟩
      · have herror := rollback_error cfg libs calls.rollback value "health_window_failed" processOK
          (launched cfg c w)
        rw [← hwindow, htry] at herror
        cases herror
    · rw [andThen_of_error hswap] at htry
      cases htry
  · rw [andThen_of_error hstage] at htry
    cases htry

/-- Whatever happens before the health window is over leaves the release live, apart from a
candidate in the file of the running process. -/
theorem live_of_tryCandidate_error {cfg : Config} {libs : Libraries} {calls : Calls}
    {value : Fields} {r : Release} {w w' : World} {c : Candidate} {e : String}
    (h : Settled cfg r w) (hplans : Plans cfg libs calls value w c)
    (hoverwrites : ¬ OverwritesActive cfg libs calls value r w c)
    (htry : tryCandidate cfg libs calls value c w = (w', .error e)) (hrestored : Restored w w') :
    Live cfg r w' := by
  obtain ⟨p, hprocess, hconfig⟩ := h.live.process
  rw [tryCandidate_eq] at htry
  rcases stageSteps_cases h.live h.kept calls value c with
    ⟨hstages, hstage⟩ | ⟨-, v, e', hstage, hunmoved⟩
  · rw [andThen_of_ok hstage] at htry
    rcases swapProcess_cases h.kept h.runs calls value c with
      ⟨hlistens, hswap⟩ | ⟨-, v, e', hswap, hfailed⟩
    · rw [andThen_of_ok hswap] at htry
      rcases @healthWindow_launched cfg libs w calls h.runs value c with
        ⟨-, hwindow⟩ | ⟨-, processOK, hwindow⟩
      · rw [hwindow] at htry
        cases htry
      · rw [hwindow] at htry
        have hkept : Kept cfg r (launched cfg c w) := (kept_staged h.kept c).congr rfl rfl rfl
        have hlive := @live_rollback cfg libs r (launched cfg c w) calls.rollback value
          "health_window_failed" processOK hkept h.runs
        rw [htry] at hlive
        exact hlive hrestored.restores
    · rw [andThen_of_error hswap] at htry
      cases htry
      refine ⟨?_, hfailed.firewall hrestored.restores⟩
      cases hfailed.process with
      | unchecked hcheck hsame => exact ⟨p, hsame.trans hprocess, hconfig⟩
      | fallenBack hcheck hfails hback =>
          obtain ⟨path, hactive, hfile⟩ := h.active
          have hprevious : calls.apply.startPrevious = .ok () := by
            by_contra hnot
            have hcount := hback.restarts
            rw [if_pos ⟨by simp [hactive], hnot⟩] at hcount
            have hsame := hrestored.restarts
            omega
          refine ⟨⟨path, (staged cfg c w).files.configs path⟩, ?_, ?_⟩
          · simp [hback.process, fallback, hactive, hprevious]
          · rw [staged_configs]
            split
            · rename_i hpath
              subst hpath
              by_contra hdiffers
              exact hoverwrites ⟨hplans, hstages, hcheck, hfails, hprevious,
                hfailed.restores.mpr hrestored.restores, hactive, fun heq => hdiffers (by rw [heq])⟩
            · exact hfile
  · rw [andThen_of_error hstage] at htry
    cases htry
    exact ⟨⟨p, hunmoved.process.trans hprocess, hconfig⟩, hunmoved.firewall hrestored.restores⟩

theorem live_of_fails {cfg : Config} {libs : Libraries} {calls : Calls} {value : Fields}
    {r : Release} {w : World} (h : Settled cfg r w)
    (hleaves : ∀ c, ¬ LeavesCandidate cfg libs calls value r w c)
    (hoverwrites : ∀ c, ¬ OverwritesActive cfg libs calls value r w c)
    (hfails : FailsRestored cfg libs calls value w) :
    Live cfg r (applyBundle cfg libs calls value w).1 := by
  rcases applyBundle_cases cfg libs calls value w with ⟨c, hplans⟩ | ⟨hmanager, hfirewall⟩
  · obtain ⟨⟨e, herror⟩, hbundle, hrestored⟩ := hfails
    have happly := applyBundle_of_plans hplans
    rw [happly, applyCandidate] at herror hbundle hrestored
    rw [happly, applyCandidate]
    rcases andThen_cases (tryCandidate cfg libs calls value c)
      (andThen (persist calls value c) (commit cfg calls value c)) w with
        ⟨w', e', htry, hrun⟩ | ⟨w', htry, hrun⟩
    · rw [hrun] at hrestored ⊢
      exact live_of_tryCandidate_error h hplans (hoverwrites c) htry hrestored
    · obtain ⟨hstages, hlistens, hhealthy, rfl⟩ := tryCandidate_ok h htry
      rw [hrun] at hbundle ⊢
      rcases persist_cases calls value c (launched cfg c w) with
        ⟨hpersist, files, e', hfailed⟩ | ⟨-, w', hwritten⟩
      · rw [andThen_of_error hfailed]
        have hsame : SameRendering cfg r c := by
          by_contra hdiffers
          exact hleaves c ⟨hplans, hstages, hlistens, hhealthy, hpersist, hdiffers⟩
        refine ⟨⟨_, rfl, by rw [hsame.config]⟩, ?_⟩
        intro hmode
        simp [launched, staged, loaded, hmode, hsame.script hmode]
      · -- The bundle was replaced by itself, but then it had not been planned.
        rw [andThen_of_ok hwritten] at hbundle
        have hreplaced : (commit cfg calls value c w').1.state.lastGoodBundle = some value := by
          simp only [commit]
          split
          · rfl
          · rfl
        rw [hreplaced, h.kept.bundle] at hbundle
        cases hbundle
        obtain ⟨version, hversion, -, hnew, -⟩ := hplans
        rw [h.version] at hversion
        cases hversion
        exact absurd ⟨rfl, h.hash⟩ hnew
  · obtain ⟨p, hprocess, hconfig⟩ := h.live.process
    exact ⟨⟨p, by rw [hmanager, hprocess], hconfig⟩, fun hmode => by
      rw [hfirewall, h.live.firewall hmode]⟩

/-- A candidate that is not written after its health window keeps running. -/
theorem leavesCandidate_spec {cfg : Config} {libs : Libraries} {calls : Calls} {value : Fields}
    {r : Release} {w : World} {c : Candidate} (h : Settled cfg r w)
    (hleaves : LeavesCandidate cfg libs calls value r w c) :
    FailsRestored cfg libs calls value w ∧ ¬ Live cfg r (applyBundle cfg libs calls value w).1 := by
  have htry := @tryCandidate_of_listens cfg libs calls value r w c h hleaves.stages hleaves.listens
    hleaves.healthy
  rcases persist_cases calls value c (launched cfg c w) with
    ⟨-, files, e, hfailed⟩ | ⟨hnot, -⟩
  · have happly : applyBundle cfg libs calls value w =
        ({ launched cfg c w with files := files }, .error e) := by
      rw [applyBundle_of_plans hleaves.plans, applyCandidate, andThen_of_ok htry,
        andThen_of_error hfailed]
    refine ⟨⟨⟨e, by rw [happly]⟩, by rw [happly]; rfl, ?_⟩, ?_⟩
    · rw [happly]
      exact ⟨rfl, rfl⟩
    · rw [happly]
      intro hlive
      obtain ⟨p, hprocess, hconfig⟩ := hlive.process
      cases hprocess
      refine hleaves.differs ⟨Option.some.inj hconfig, ?_⟩
      intro hmode
      have hfirewall := hlive.firewall hmode
      simp only [launched, staged, loaded, hmode, if_true, Option.some.injEq] at hfirewall
      exact hfirewall
  · exact absurd hleaves.persist hnot

/-- A candidate in the file of the running process is what the manager falls back to. -/
theorem overwritesActive_spec {cfg : Config} {libs : Libraries} {calls : Calls} {value : Fields}
    {r : Release} {w : World} {c : Candidate} (h : Settled cfg r w)
    (hover : OverwritesActive cfg libs calls value r w c) :
    FailsRestored cfg libs calls value w ∧ ¬ Live cfg r (applyBundle cfg libs calls value w).1 := by
  have hcanonical : w.state.Canonical := by
    intro lastGood hlast
    rw [h.kept.bundle] at hlast
    cases hlast
    exact r.canonical
  have htrack := @tryCandidate_track cfg libs w calls value c hcanonical
  rcases stageSteps_cases h.live h.kept calls value c with ⟨-, hstage⟩ | ⟨hnot, -⟩
  · rcases swapProcess_cases h.kept h.runs calls value c with
      ⟨hlistens, -⟩ | ⟨-, w', e, hswap, hfailed⟩
    · rcases hover.fails with hstart | hpolls
      · exact absurd hlistens.start hstart
      · exact absurd hlistens.polls hpolls
    · have htry : tryCandidate cfg libs calls value c w = (w', .error e) := by
        rw [tryCandidate_eq, andThen_of_ok hstage, andThen_of_error hswap]
      have happly : applyBundle cfg libs calls value w = (w', .error e) := by
        rw [applyBundle_of_plans hover.plans, applyCandidate, andThen_of_error htry]
      rw [htry] at htrack
      cases hfailed.process with
      | unchecked hcheck hsame =>
          rw [hover.check] at hcheck
          cases hcheck
      | fallenBack hcheck hfails hback =>
          refine ⟨⟨⟨e, by rw [happly]⟩, ?_, ?_⟩, ?_⟩
          · rw [happly]
            exact congrArg Prod.fst htrack
          · rw [happly]
            refine ⟨hfailed.restores.mp hover.firewall, ?_⟩
            rw [hback.restarts, if_neg (by simp [hover.previous])]
            rfl
          · rw [happly]
            intro hlive
            obtain ⟨p, hprocess, hconfig⟩ := hlive.process
            rw [hback.process] at hprocess
            simp only [fallback, hover.active, hover.previous, Option.some.injEq] at hprocess
            subst hprocess
            simp only [staged_configs, if_true, Option.some.injEq] at hconfig
            exact hover.differs hconfig
  · exact absurd hover.stages hnot

/-- A failed `applyBundle` leaves the last good release live unless the candidate survives the
health window and is not written, or took the file that the manager falls back to. -/
theorem failed_apply_live_iff (cfg : Config) (libs : Libraries) (calls : Calls) (value : Fields)
    (r : Release) (w : World) (h : Settled cfg r w) :
    (FailsRestored cfg libs calls value w → Live cfg r (applyBundle cfg libs calls value w).1) ↔
      ¬ ∃ c, LeavesCandidate cfg libs calls value r w c ∨
        OverwritesActive cfg libs calls value r w c := by
  constructor
  · intro hlive hdefect
    obtain ⟨c, hleaves | hover⟩ := hdefect
    · obtain ⟨hfails, hnot⟩ := leavesCandidate_spec h hleaves
      exact hnot (hlive hfails)
    · obtain ⟨hfails, hnot⟩ := overwritesActive_spec h hover
      exact hnot (hlive hfails)
  · intro hnone hfails
    apply live_of_fails h
    · intro c hleaves
      exact hnone ⟨c, .inl hleaves⟩
    · intro c hover
      exact hnone ⟨c, .inr hover⟩
    · exact hfails

/-! ## A candidate that is not written -/

/-- The release before `sampleBundle`. -/
def previousRelease : Release where
  bundle := [("desired_version", .float (Float64.ofInt 1)),
    ("listen", .map [("http_port", .float (Float64.ofInt 3128))]), ("blacklist", .arr []),
    ("bundle_hash", .str "c1")]
  port := 3128
  entries := []
  rules := []
  canonical := by decide +kernel
  httpPort := rfl
  supported := rfl
  policy := ⟨defaultPolicy, rfl⟩
  endpoints := ⟨by simp, by simp [entryTags]⟩
  hashed := by decide +kernel
  materialized := rfl

/-- The release is live after a restart. -/
def settledWorld : World :=
  { sampleStart with
    state := { State.fresh with
      lastGoodBundle := some previousRelease.bundle, lastGoodVersion := 1, lastGoodHash := "c1"
      appliedVersion := 1, appliedHash := "c1" }
    files := { sampleStart.files with
      configs := fun _ => some (previousRelease.config sampleConfig)
      snapshot := .stored "c1" [] }
    manager := ⟨true, 3128, some .lastGood,
      some ⟨.lastGood, some (previousRelease.config sampleConfig)⟩, 0⟩
    firewall := some (previousRelease.script sampleConfig) }

theorem settled_settledWorld : Settled sampleConfig previousRelease settledWorld where
  live := ⟨⟨_, rfl, rfl⟩, fun _ => rfl⟩
  kept := ⟨rfl, by rw [Release.hash]; rfl, rfl⟩
  runs := rfl
  active := ⟨.lastGood, rfl, rfl⟩
  version := rfl
  hash := rfl

theorem failed_apply_live_iff_sample :
    Settled sampleConfig previousRelease settledWorld ∧
      ((FailsRestored sampleConfig sampleLibraries sampleCalls sampleBundle settledWorld →
          Live sampleConfig previousRelease
            (applyBundle sampleConfig sampleLibraries sampleCalls sampleBundle settledWorld).1) ↔
        ¬ ∃ c, LeavesCandidate sampleConfig sampleLibraries sampleCalls sampleBundle previousRelease
            settledWorld c ∨
          OverwritesActive sampleConfig sampleLibraries sampleCalls sampleBundle previousRelease
            settledWorld c) :=
  ⟨settled_settledWorld, failed_apply_live_iff sampleConfig sampleLibraries sampleCalls sampleBundle
    previousRelease settledWorld settled_settledWorld⟩

/-- Every call succeeds but the write of the rules. -/
def fullDisk : Calls :=
  { sampleCalls with persist := fun _ => .error "no space left on device" }

theorem unwritten_candidate_not_live :
    Settled sampleConfig previousRelease settledWorld ∧
      FailsRestored sampleConfig sampleLibraries fullDisk sampleBundle settledWorld ∧
      ¬ Live sampleConfig previousRelease
        (applyBundle sampleConfig sampleLibraries fullDisk sampleBundle settledWorld).1 := by
  have hplan : (planCandidate sampleConfig sampleLibraries fullDisk.plan 1 2
      sampleBundle).toOption.any (fun c => c.script != previousRelease.script sampleConfig) =
      true := by decide +kernel
  cases hc : planCandidate sampleConfig sampleLibraries fullDisk.plan 1 2 sampleBundle with
  | error e => simp [hc, Except.toOption] at hplan
  | ok c =>
      rw [hc] at hplan
      refine ⟨settled_settledWorld, leavesCandidate_spec settled_settledWorld (c := c) ?_⟩
      refine ⟨⟨2, rfl, by decide, by decide, hc⟩, ⟨rfl, rfl, rfl, rfl, rfl, fun _ => rfl⟩,
        ⟨rfl, rfl, rfl⟩, by rw [Calls.Healthy]; decide +kernel, .inr (.inr ⟨0, by decide, by simp [fullDisk]⟩), ?_⟩
      intro hsame
      have hne := hsame.script rfl
      simp [Except.toOption, hne] at hplan

end Grouproxy.Agent
