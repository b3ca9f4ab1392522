import Grouproxy.Verification.Backend.Bundles
import Grouproxy.Model.AgentApi

/-! # Serving the desired bundle

What a node is served depends on its latest release and on the subscription versions.
-/

namespace Grouproxy.Backend

open Text Ipaddress Encoding Crypto Cidr Programs Grouproxy.Bundle

variable {settings : Settings} {fails : Label → Bool}

section Served

variable {node : Node} {appliedVersion : Int} {appliedHash : String}

theorem bundleSubscriptionTags_blind {libs : Libraries} {bundle : Dict} :
    (bundleSubscriptionTags libs bundle).Blind fun s s' => s'.versions = s.versions := by
  rw [bundleSubscriptionTags]
  split
  · split
    · trivial
    · dsimp only
      split
      · trivial
      · refine .bind (find_blind fun s s' h => by rw [h]) fun found => ?_
        cases found with
        | none => trivial
        | some version => trivial
  · trivial

theorem saveRepaired_blind {desired : DesiredRelease} {repaired : Dict} :
    (saveRepaired settings desired repaired).Blind fun s s' => s'.versions = s.versions :=
  .bind (.atomic fun _ _ h => ⟨rfl, h⟩) fun _ => trivial

/-- The repair of a bundle reads the versions only. -/
theorem repairStaleProxySelection_blind {desired : DesiredRelease} :
    (repairStaleProxySelection settings desired).Blind fun s s' => s'.versions = s.versions := by
  rw [repairStaleProxySelection]
  dsimp only
  split
  · refine .bind bundleSubscriptionTags_blind fun tags => ?_
    split
    · split
      · exact saveRepaired_blind
      · split
        · exact saveRepaired_blind
        · trivial
    · exact saveRepaired_blind
  · split
    · exact saveRepaired_blind
    · trivial

/-- A node whose latest release is the same is served the same. -/
theorem agentDesired_congr {s s' : Store} (hversions : s'.versions = s.versions)
    (hlatest : s'.latestRelease node.siteId node.agentId =
      s.latestRelease node.siteId node.agentId) :
    ((agentDesired settings node appliedVersion appliedHash).run s').1 =
      ((agentDesired settings node appliedVersion appliedHash).run s).1 := by
  rw [agentDesired, Prog.run, Prog.run, find_bind_runWith rfl, find_bind_runWith rfl, hlatest]
  cases s.latestRelease node.siteId node.agentId with
  | none => rfl
  | some desired =>
      dsimp only
      have hblind : (repairStaleProxySelection settings desired >>= fun desired =>
          pure (⟨appliedVersion < desired.desiredVersion || desired.bundleHash != appliedHash,
            some desired.releaseId,
            if appliedVersion < desired.desiredVersion || desired.bundleHash != appliedHash then
              some desired.bundle else none⟩ : DesiredResponse) : Handler DesiredResponse).Blind
          fun s s' => s'.versions = s.versions :=
        .bind repairStaleProxySelection_blind fun _ => trivial
      exact (hblind.runWith (fun _ => false) hversions).1.symm

theorem bundleSubscriptionTags_run (libs : Libraries) (bundle : Dict) (s : Store) :
    ∃ tags, (bundleSubscriptionTags libs bundle).run s = (.ok tags, s) := by
  rw [bundleSubscriptionTags]
  split
  · split
    · exact ⟨_, rfl⟩
    · dsimp only
      split
      · exact ⟨_, rfl⟩
      · rw [Prog.run, find_bind_runWith rfl]
        cases s.versions.find? _ with
        | none => exact ⟨_, rfl⟩
        | some version => exact ⟨_, rfl⟩
  · exact ⟨_, rfl⟩

theorem saveRepaired_run {desired : DesiredRelease} {repaired : Dict} (s : Store) :
    ∃ saved s', (saveRepaired settings desired repaired).run s = (.ok saved, s') ∧
      saved.releaseId = desired.releaseId := ⟨_, _, rfl, rfl⟩

/-- A repaired bundle is one of the same release. -/
theorem repairStaleProxySelection_run (settings : Settings) (desired : DesiredRelease) (s : Store) :
    ∃ repaired s', (repairStaleProxySelection settings desired).run s = (.ok repaired, s') ∧
      repaired.releaseId = desired.releaseId := by
  rw [repairStaleProxySelection]
  dsimp only
  split
  · obtain ⟨tags, htags⟩ := bundleSubscriptionTags_run settings.libs
      (stripRetiredFields desired.bundle) s
    rw [Prog.run_bind_ok htags]
    split
    · split
      · exact saveRepaired_run s
      · split
        · exact saveRepaired_run s
        · exact ⟨desired, s, rfl, rfl⟩
    · exact saveRepaired_run s
  · split
    · exact saveRepaired_run s
    · exact ⟨desired, s, rfl, rfl⟩

/-- A node is served its latest release. -/
theorem agentDesired_releaseId (settings : Settings) (node : Node) (appliedVersion : Int)
    (appliedHash : String) (s : Store) :
    ∃ response s', (agentDesired settings node appliedVersion appliedHash).run s =
        (.ok response, s') ∧
      response.releaseId =
        (s.latestRelease node.siteId node.agentId).map DesiredRelease.releaseId := by
  rw [agentDesired, Prog.run, find_bind_runWith rfl]
  cases s.latestRelease node.siteId node.agentId with
  | none => exact ⟨_, s, rfl, rfl⟩
  | some desired =>
      obtain ⟨repaired, s', hrun, hid⟩ := repairStaleProxySelection_run settings desired s
      dsimp only
      refine ⟨_, s', Prog.run_bind_ok hrun _, ?_⟩
      rw [Option.map_some, ← hid]

end Served

end Grouproxy.Backend
