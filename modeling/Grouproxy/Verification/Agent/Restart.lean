import Grouproxy.Verification.Agent.LastGood

/-! # Restarting from the files

The state names a bundle, one file has the rules and another one the configuration. A restart
that succeeds runs the bundle of the state with the outbounds of the stored configuration.
-/

namespace Grouproxy.Agent

open Value Grouproxy.Bundle Policy Routing Singbox Subscription Steps
open Grouproxy.Runtime

/-! ## Sanitizing an accepted bundle -/

/-- Two bundles that differ at most in fields that no renderer and no check of rules reads. -/
def SameFields (value other : Fields) : Prop :=
  ∀ key ∈ ["shutdown", "proxy_selection", "routing_policy", "listen", "blacklist",
    "access_control", "bundle_hash", "subscription"], other.get? key = value.get? key

theorem SameFields.get {value other : Fields} (h : SameFields value other) {key : String}
    (hkey : key ∈ ["shutdown", "proxy_selection", "routing_policy", "listen", "blacklist",
      "access_control", "bundle_hash", "subscription"]) : other.get key = value.get key := by
  rw [Fields.get, Fields.get, h key hkey]

/-- Deleting fields of earlier versions keeps a blacklist canonical. -/
theorem canonical_of_get {value other : Fields} (h : isCanonicalSourceBlacklist value = true)
    (hretired : ∀ key ∈ retiredPolicyFields, other.get? key = none)
    (hblacklist : other.get? "blacklist" = value.get? "blacklist") :
    isCanonicalSourceBlacklist other = true := by
  have hnone : retiredPolicyFields.any other.has = false := by
    rw [List.any_eq_false]
    intro key hkey
    simp [Fields.has, hretired key hkey]
  have hpolicy : retiredPolicyFields.any value.has = false :=
    hasRetiredSourcePolicy_of_canonical h
  rw [isCanonicalSourceBlacklist, validateSourceBlacklist, rejectRetiredPolicyFields, hpolicy] at h
  rw [isCanonicalSourceBlacklist, validateSourceBlacklist, rejectRetiredPolicyFields, hnone,
    Fields.get, hblacklist]
  exact h

theorem get?_withoutRetired (value : Fields) (key : String) :
    (withoutRetired value).get? key =
      if key ∈ "proxy_auth" :: retiredPolicyFields then none else value.get? key :=
  Fields.get?_foldl_delete _ _ _

/-- Sanitizing an accepted bundle only deletes fields of earlier versions. -/
theorem sanitizeLegacyBundle_eq (r : Release) :
    sanitizeLegacyBundle r.bundle = (withoutRetired r.bundle).delete "source_blacklist" := by
  have hcanonical : isCanonicalSourceBlacklist (withoutRetired r.bundle) = true := by
    apply canonical_of_get r.canonical
    · intro key hkey
      rw [get?_withoutRetired, if_pos (List.mem_cons_of_mem _ hkey)]
    · rw [get?_withoutRetired, if_neg (by decide)]
  obtain ⟨listen, hlisten, hport⟩ := httpPort?_eq_some r.httpPort
  have hget : ((withoutRetired r.bundle).delete "source_blacklist").get "listen" =
      r.bundle.get "listen" := by
    rw [Fields.get, Fields.get, Fields.get?_delete, if_neg (by decide), get?_withoutRetired,
      if_neg (by decide)]
  rw [sanitizeLegacyBundle, canonicalizeBundleBlacklist, if_pos hcanonical, sanitizeListen, hget,
    hlisten]
  simp [hport, r.supported, proxyListenPort]

theorem sameFields_sanitized (r : Release) : SameFields r.bundle (sanitizeLegacyBundle r.bundle) := by
  intro key hkey
  rw [sanitizeLegacyBundle_eq, Fields.get?_delete, get?_withoutRetired]
  simp only [List.mem_cons, List.not_mem_nil, or_false] at hkey
  rcases hkey with rfl | rfl | rfl | rfl | rfl | rfl | rfl | rfl
  all_goals simp [retiredPolicyFields]

/-- The release after a restart. -/
def Release.sanitized (r : Release) : Release where
  bundle := sanitizeLegacyBundle r.bundle
  port := r.port
  entries := r.entries
  rules := r.rules
  canonical := by
    apply canonical_of_get r.canonical
    · intro key hkey
      rw [sanitizeLegacyBundle_eq, Fields.get?_delete, get?_withoutRetired,
        if_pos (List.mem_cons_of_mem _ hkey), ite_self]
    · exact sameFields_sanitized r _ (by decide)
  httpPort := by
    rw [httpPort?, (sameFields_sanitized r).get (by decide)]
    exact r.httpPort
  supported := r.supported
  policy := by
    rw [parseDestinationPolicy, sameFields_sanitized r _ (by decide)]
    exact r.policy
  endpoints := r.endpoints
  hashed := by
    rw [(sameFields_sanitized r).get (by decide)]
    exact r.hashed
  materialized := r.materialized

section SameFields

variable {value other : Fields} (h : SameFields value other)

include h

theorem SameFields.renderOutbounds (entries : List Fields) :
    renderOutbounds other entries = renderOutbounds value entries := by
  simp only [Singbox.renderOutbounds, subscriptionSelector, selectedSubscriptionOutbound,
    h.get (show "proxy_selection" ∈ _ by decide)]

theorem SameFields.renderSingbox (settings : Settings) {policy : DestinationPolicy}
    (hpolicy : parseDestinationPolicy value = .ok policy) (port : Int) {entries : List Fields}
    (hentries : EndpointList entries) (rules : List SourceBlacklistRule) :
    renderSingbox settings other port (entries.map Any.map) rules =
      renderSingbox settings value port (entries.map Any.map) rules := by
  have hother : parseDestinationPolicy other = .ok policy := by
    rw [← hpolicy, parseDestinationPolicy, parseDestinationPolicy, h _ (by decide)]
  rw [renderSingbox_eq settings hother port hentries, renderSingbox_eq settings hpolicy port hentries,
    h.renderOutbounds, h.get (by decide)]

theorem SameFields.bundleScript (port : Int) (rules : List SourceBlacklistRule) :
    bundleScript port other rules = bundleScript port value rules := by
  rw [Agent.bundleScript, Agent.bundleScript, h.get (by decide)]

theorem SameFields.resolveBundleRules (hvalue : isCanonicalSourceBlacklist value = true)
    (hother : isCanonicalSourceBlacklist other = true) (lookup : Lookup) :
    resolveBundleRules lookup other = resolveBundleRules lookup value := by
  rw [Agent.resolveBundleRules, Agent.resolveBundleRules, sourceBlacklistRules, if_pos hother,
    h.get (show "blacklist" ∈ _ by decide), h.get (show "access_control" ∈ _ by decide),
    sourceBlacklistRules, if_pos hvalue]

end SameFields

namespace Release

theorem sanitized_hash (r : Release) : r.sanitized.hash = r.hash := by
  rw [hash, hash]
  exact congrArg stringValue ((sameFields_sanitized r).get (by decide))

theorem sanitized_script (cfg : Config) (r : Release) : r.sanitized.script cfg = r.script cfg :=
  (sameFields_sanitized r).bundleScript _ _

/-- A release with the outbounds of another one. -/
def configWith (cfg : Config) (r stored : Release) : Fields :=
  jsonTreeFields (renderSingbox cfg.settings r.bundle (cfg.processPort r.port)
    (stored.entries.map Any.map) r.rules)

theorem sanitized_configWith (cfg : Config) (r stored : Release) :
    r.sanitized.configWith cfg stored = r.configWith cfg stored := by
  obtain ⟨policy, hpolicy⟩ := r.policy
  exact congrArg jsonTreeFields ((sameFields_sanitized r).renderSingbox cfg.settings hpolicy _
    stored.endpoints _)

theorem sanitized_rules (r : Release) (lookup : Lookup) :
    resolveBundleRules lookup r.sanitized.bundle = resolveBundleRules lookup r.bundle :=
  (sameFields_sanitized r).resolveBundleRules r.canonical r.sanitized.canonical lookup

end Release

/-! ## Restoring from files of two releases -/

/-- What a restart finds: the bundle of a release with its rules, and the configuration that was
stored for a release. -/
structure Found (cfg : Config) (calls : RestartCalls) (r stored : Release) (w : World) : Prop where
  bundle : w.state.lastGoodBundle = some r.bundle
  configRules : snapshotRules w.files.snapshot calls.config.lookup r.bundle = .ok r.rules
  firewallRules : snapshotRules w.files.snapshot calls.restore.lookup r.bundle = .ok r.rules
  stored : w.files.configs .lastGood = some (stored.config cfg)

theorem ensureLastGoodConfig_of_found {cfg : Config} {libs : Libraries} {calls : RestartCalls}
    {r stored : Release} {w w' : World} (h : Found cfg calls r stored w)
    (hensure : ensureLastGoodConfig cfg libs calls.config r.bundle (cfg.processPort r.port) w =
      (w', .ok ())) :
    w'.files.configs .lastGood = some (r.configWith cfg stored) ∧
      w'.files.snapshot = w.files.snapshot ∧ w'.manager = w.manager ∧ w'.state = w.state := by
  obtain ⟨policy, hpolicy⟩ := r.policy
  obtain ⟨storedPolicy, hstoredPolicy⟩ := stored.policy
  have hrefresh := refreshConfig_stored cfg.settings hstoredPolicy hpolicy
    (cfg.processPort stored.port) (cfg.processPort r.port) stored.endpoints stored.rules r.rules
  have hjson := jsonTreeFields_renderSingbox cfg.settings hpolicy (cfg.processPort r.port)
    stored.endpoints r.rules
  simp only [ensureLastGoodConfig, lastGoodSourceBlacklistRules_of_canonical r.canonical,
    h.configRules, setLastGood_self h.bundle, lastGoodConfig, h.stored] at hensure
  rw [Release.config, hrefresh] at hensure
  cases hdata : calls.config.ensureRoutingData with
  | error e =>
      rw [hdata] at hensure
      cases hensure
  | ok u =>
      rw [hdata] at hensure
      simp only [writeLastGoodConfig] at hensure
      cases hwrite : calls.config.write with
      | error e =>
          rw [hwrite] at hensure
          cases hensure
      | ok u =>
          rw [hwrite] at hensure
          cases hensure
          refine ⟨?_, rfl, rfl, rfl⟩
          rw [Release.configWith, ← hjson]
          simp [Files.writeConfig]

theorem writeFiles_ok {call : Outcome} {update : Files → Files} {w w' : World}
    (h : writeFiles call update w = (w', .ok ())) : w' = { w with files := update w.files } := by
  cases call with
  | error e => cases h
  | ok u =>
      cases h
      rfl

theorem wrapError_ok {text : String} {step : AgentStep} {w w' : World}
    (h : wrapError text step w = (w', .ok ())) : step w = (w', .ok ()) := by
  simp only [wrapError] at h
  split at h
  · rename_i hstep
    rw [hstep, h]
  · cases h

theorem publishConfig_ok {call : Outcome} {w w' : World} (h : publishConfig call w = (w', .ok ())) :
    w'.files.configs = w.files.configs ∧ w'.files.snapshot = w.files.snapshot ∧
      w'.manager = w.manager ∧ w'.state = w.state := by
  simp only [publishConfig] at h
  split at h
  · cases h
  · cases call with
    | error e => cases h
    | ok u =>
        cases h
        exact ⟨rfl, rfl, rfl, rfl⟩

/-- A restart that succeeds starts the release with the outbounds that were stored and installs
the firewall of the release. -/
theorem restoreLastGood_of_found {cfg : Config} {libs : Libraries} {calls : RestartCalls}
    {r stored : Release} {w w' : World} (h : Found cfg calls r stored w)
    (hruns : w.manager.runProcess = true)
    (hrestore : restoreLastGood cfg libs calls w = (w', .ok ())) :
    (∃ p, w'.manager.process = some p ∧ p.config = some (r.configWith cfg stored)) ∧
      (cfg.applyMode = true → w'.firewall = some (r.script cfg)) := by
  obtain ⟨listen, hlisten, hport⟩ := httpPort?_eq_some r.httpPort
  simp only [restoreLastGood, loadLastGood, h.bundle, hlisten, hport, restoreSteps, runAll]
    at hrestore
  obtain ⟨w₁, hensure, hrestore⟩ := andThen_ok hrestore
  obtain ⟨w₂, hpublish, hrestore⟩ := andThen_ok hrestore
  obtain ⟨w₃, hcheck, hrestore⟩ := andThen_ok hrestore
  obtain ⟨w₄, hstart, hrestore⟩ := andThen_ok hrestore
  obtain ⟨w₅, hfirewall, hdone⟩ := andThen_ok hrestore
  cases hdone
  obtain ⟨hconfig₁, hsnapshot₁, hmanager₁, hstate₁⟩ := ensureLastGoodConfig_of_found h hensure
  obtain ⟨hconfig₂, hsnapshot₂, hmanager₂, hstate₂⟩ := publishConfig_ok hpublish
  have hsame : w₃ = w₂ := writeFiles_ok hcheck
  subst hsame
  have hruns₃ : w₃.manager.runProcess = true := by rw [hmanager₂, hmanager₁, hruns]
  obtain ⟨hprocess, hfiles, hstate, -⟩ := startConfig_ok hruns₃ (wrapError_ok hstart)
  have hbundle : w₄.state.lastGoodBundle = some r.bundle := by
    rw [hstate, hstate₂, hstate₁, h.bundle]
  have hsnapshot : w₄.files.snapshot = w.files.snapshot := by
    rw [hfiles, hsnapshot₂, hsnapshot₁]
  have hinstall := wrapError_ok hfirewall
  simp only [restoreFirewallStep, hbundle, Option.getD_some, restoreLastGoodFirewallForBundle,
    hlisten, hport, lastGoodSourceBlacklistRules_of_canonical r.canonical, hsnapshot,
    h.firewallRules, setLastGood_self hbundle] at hinstall
  have hsucceed := succeed_of_installScript hinstall
  rw [installScript_of_succeed hsucceed] at hinstall
  cases hinstall
  refine ⟨⟨_, hprocess, ?_⟩, ?_⟩
  · rw [hconfig₂, hconfig₁]
  · intro hmode
    simp only [loaded, hmode, if_true]
    rfl

/-! ## From the start -/

/-- What is loaded at the start. -/
theorem startup_spec {files : Files} {s : State} {r : Release} (cfg : Config) (runSingbox : Bool)
    (calls : RestartCalls) (firewall : Option String) (hstate : files.state = some s)
    (hbundle : s.lastGoodBundle = some r.bundle) :
    (startup cfg runSingbox calls files firewall).state.lastGoodBundle = some r.sanitized.bundle ∧
      (startup cfg runSingbox calls files firewall).files.snapshot = files.snapshot ∧
      (startup cfg runSingbox calls files firewall).files.configs = files.configs ∧
      (startup cfg runSingbox calls files firewall).manager.runProcess = runSingbox := by
  simp only [startup, hstate, Option.getD_some, hbundle, Option.any_some, Option.map_some,
    hasRetiredSourcePolicy_of_canonical r.canonical, Bool.false_eq_true, if_false]
  split
  · exact ⟨rfl, rfl, rfl, trivial⟩
  · exact ⟨rfl, rfl, rfl, trivial⟩

/-- The name lookups of a restart give the rules of the release again. -/
structure SameAnswers (calls : RestartCalls) (r : Release) : Prop where
  config : resolveBundleRules calls.config.lookup r.bundle = .ok r.rules
  firewall : resolveBundleRules calls.restore.lookup r.bundle = .ok r.rules

/-- The rules of a release are in their file, or that of another bundle makes them be resolved. -/
def RulesFound (calls : RestartCalls) (r : Release) (snapshot : SnapshotFile) : Prop :=
  snapshot = .stored r.hash r.rules ∨
    (∃ hash rules, snapshot = .stored hash rules ∧ r.hash ≠ hash) ∧ SameAnswers calls r

theorem snapshotRules_of_ne {r : Release} {hash : String} {rules : List SourceBlacklistRule}
    {lookup : Lookup} (hne : r.hash ≠ hash)
    (hlookup : resolveBundleRules lookup r.bundle = .ok r.rules) :
    snapshotRules (.stored hash rules) lookup r.sanitized.bundle = .ok r.rules := by
  have hother : hash ≠ stringValue (r.sanitized.bundle.get "bundle_hash") := by
    intro hsame
    apply hne
    rw [← r.sanitized_hash, hsame]
    rfl
  simp only [snapshotRules, hother, and_false, if_false]
  rw [r.sanitized_rules, hlookup]

theorem found_startup {cfg : Config} {calls : RestartCalls} {r stored : Release} {files : Files}
    (firewall : Option String) (hstate : ∃ s, files.state = some s ∧ s.lastGoodBundle = some r.bundle)
    (hrules : RulesFound calls r files.snapshot)
    (hstored : files.configs .lastGood = some (stored.config cfg)) :
    Found cfg calls r.sanitized stored (startup cfg true calls files firewall) := by
  obtain ⟨s, hs, hbundle⟩ := hstate
  obtain ⟨hlast, hsnapshot, hconfigs, -⟩ := startup_spec cfg true calls firewall hs hbundle
  rcases hrules with hown | ⟨⟨hash, rules, hother, hne⟩, hanswers⟩
  · rw [← r.sanitized_hash] at hown
    refine ⟨hlast, ?_, ?_, by rw [hconfigs, hstored]⟩
    · rw [hsnapshot, hown]
      exact snapshotRules_stored r.sanitized _
    · rw [hsnapshot, hown]
      exact snapshotRules_stored r.sanitized _
  · refine ⟨hlast, ?_, ?_, by rw [hconfigs, hstored]⟩
    · rw [hsnapshot, hother]
      exact snapshotRules_of_ne hne hanswers.config
    · rw [hsnapshot, hother]
      exact snapshotRules_of_ne hne hanswers.firewall

/-- What runs after a restart: the bundle of a release with the outbounds of the stored one. -/
structure Mixed (cfg : Config) (r stored : Release) (w : World) : Prop where
  process : ∃ p, w.manager.process = some p ∧ p.config = some (r.configWith cfg stored)
  firewall : cfg.applyMode = true → w.firewall = some (r.script cfg)

theorem mixed_of_restart {cfg : Config} {libs : Libraries} {calls : RestartCalls} {r stored : Release}
    {files : Files} {firewall : Option String} {w' : World}
    (hstate : ∃ s, files.state = some s ∧ s.lastGoodBundle = some r.bundle)
    (hrules : RulesFound calls r files.snapshot)
    (hstored : files.configs .lastGood = some (stored.config cfg))
    (hrestore : restoreLastGood cfg libs calls (startup cfg true calls files firewall) =
      (w', .ok ())) : Mixed cfg r stored w' := by
  have hfound := found_startup firewall hstate hrules hstored
  obtain ⟨s, hs, hbundle⟩ := hstate
  obtain ⟨-, -, -, hruns⟩ := startup_spec cfg true calls firewall hs hbundle
  obtain ⟨⟨p, hprocess, hconfig⟩, hfirewall⟩ := restoreLastGood_of_found hfound hruns hrestore
  refine ⟨⟨p, hprocess, ?_⟩, ?_⟩
  · rw [hconfig, r.sanitized_configWith]
  · intro hmode
    rw [hfirewall hmode, r.sanitized_script]

end Grouproxy.Agent
