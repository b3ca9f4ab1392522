import Grouproxy.Verification.Agent.Crash
import Grouproxy.Verification.Backend.BlacklistRows
import Grouproxy.Verification.Backend.Deliveries
import Grouproxy.Verification.Backend.Selections
import Grouproxy.Verification.Policy.PlainRequests

/-! # The preview and the bundle that is applied

A preview is asked and a bundle is built from one state of the database, and the monitor applies the
bundle.
-/

namespace Grouproxy.Agent

open Value Grouproxy.Bundle Policy Steps

/-- What the firewall script and the route of a candidate do with a request. -/
def Candidate.blocks (cfg : Config) (value : Fields) (c : Candidate) (req : Request) : Bool :=
  policyBlocks (cfg.firewallPort c.port) c.rules (boolValue (value.get "shutdown")) req

theorem lists_of_validate {h : Hashes} {clock : Clock} {value : Fields} {secret hash : String}
    {currentVersion : Int} (hvalid : validate h clock value secret currentVersion = .ok hash) :
    validateSourceBlacklist value = .ok () ∧ validateAccessControl value = .ok () := by
  rw [validate] at hvalid
  obtain ⟨_, -, hvalid⟩ := bind_eq_ok hvalid
  obtain ⟨_, hblacklist, hvalid⟩ := bind_eq_ok hvalid
  obtain ⟨_, haccess, -⟩ := bind_eq_ok hvalid
  exact ⟨hblacklist, haccess⟩

/-- The policy of a bundle that was applied. -/
theorem appliedPolicy_of_applyBundle {cfg : Config} {libs : Libraries} {calls : Calls}
    {value : Fields} {w w' : World} {c : Candidate} (hplans : Plans cfg libs calls value w c)
    (happlied : applyBundle cfg libs calls value w = (w', .ok ())) :
    AppliedPolicy calls.plan.lookup value c.rules := by
  rw [applyBundle_of_plans hplans, applyCandidate] at happlied
  obtain ⟨version, -, -, -, hplan⟩ := hplans
  have hplanned := planned_of_planCandidate hplan
  obtain ⟨hblacklist, haccess⟩ := lists_of_validate hplanned.validated
  obtain ⟨w₁, -, happlied⟩ := andThen_ok happlied
  obtain ⟨w₂, hpersist, -⟩ := andThen_ok happlied
  refine ⟨hblacklist, haccess, hplanned.rules, ?_⟩
  rcases checkSnapshot_cases value c w₁ with ⟨hmaterialized, -, -⟩ | ⟨-, e, hfails⟩
  · exact hmaterialized
  · rw [(persist_ok hpersist).1] at hfails
    cases hfails

end Grouproxy.Agent

namespace Grouproxy.Backend

open Text Netip Ipaddress Value Encoding Crypto Cidr Policy Programs Agent Steps

/-! ## Questions -/

/-- A question about a source address and a destination host, and the node and the site that it is
about. -/
structure Question (s : Store) (payload : SourceBlacklistPreviewRequest) (node : Node) (site : Site)
    (source : Addr) (host : String) : Prop where
  reference : s.nodeReference? payload.nodeId = some node
  isSite : s.site? node.siteId = some site
  isSource : ipAddress (strip payload.sourceIp) = some source
  isHost : strip payload.destHost = host
  ne : host ≠ ""

section Question

variable {s : Store} {payload : SourceBlacklistPreviewRequest} {node : Node} {site : Site}
  {source : Addr} {host : String} (h : Question s payload node site source host)
include h

/-- The decision on the blacklist of the node. -/
theorem Question.preview (libs : Libraries) (rules : List PolicyEntry) :
    Cidr.previewSourceBlacklist libs (String.ofList (addressText source)) rules site.shutdown host =
      .ok (decidePreview site.shutdown
        ((rules.find? (sourceRuleMatches source)).map fun rule => rule.key.pattern)
        (matchDestinationBlacklist libs host rules) (unresolvedDomainPatterns libs rules)) := by
  have hread := ipAddress_addressText h.isSource
  have hne : String.ofList (addressText source) ≠ "" := by
    intro hempty
    rw [hempty] at hread
    cases hread
  rw [Cidr.previewSourceBlacklist, strip_addressText h.isSource, if_neg hne, if_neg hne,
    if_neg h.ne, matchSourceBlacklist, hread]
  rfl

theorem Question.run (libs : Libraries) :
    (previewSourceBlacklist libs payload).run s =
      (.ok (previewResponse libs (effectiveBlacklist node.agentId s.blacklist)
        (decidePreview site.shutdown
          (((effectiveBlacklist node.agentId s.blacklist).find? (sourceRuleMatches source)).map
            fun rule => rule.key.pattern)
          (matchDestinationBlacklist libs host (effectiveBlacklist node.agentId s.blacklist))
          (unresolvedDomainPatterns libs (effectiveBlacklist node.agentId s.blacklist)))), s) := by
  have hsource : strip payload.sourceIp ≠ "" := by
    intro hempty
    have hread := h.isSource
    rw [hempty] at hread
    cases hread
  have hcheck : checkSourceIp (strip payload.sourceIp) =
      .ok (String.ofList (addressText source)) := by
    rw [checkSourceIp, if_neg hsource, normalizeSourceIp, h.isSource]
  rw [previewSourceBlacklist, h.isHost, Prog.run, reject_bind_runWith, if_neg fun hempty => hsource hempty.1, hcheck, ← Prog.run,
    Prog.run_bind_ok (Prog.run_done _ s), Prog.run_bind_ok (findNodeReference_run _ s), h.reference]
  dsimp only
  rw [find_bind_run, find_bind_run, h.isSite, Option.any_some, h.preview libs]
  rfl

end Question

/-! ## Bundles -/

section Built

variable {settings : Settings} {name : NodeOp → Label} {s : Store} {site : Site} {node : Node}
  {desiredVersion : Nat} {draws : Draws} {proxySelection routingPolicy : Json} {bundle : Dict}
  (hbuilt : ((buildSignedBundle settings name site node desiredVersion draws proxySelection
    routingPolicy).run s).1 = .ok bundle)
include hbuilt

theorem bundleOf_of_built :
    bundleOf settings s site node desiredVersion draws proxySelection routingPolicy = .ok bundle := by
  rw [Prog.run, buildSignedBundle_runWith fun _ _ => rfl] at hbuilt
  exact hbuilt

/-- The monitor reads the verdict of the site. -/
theorem shutdown_of_built : boolValue ((decodedFields bundle).get "shutdown") = site.shutdown := by
  obtain ⟨subscription, -, hfield⟩ :=
    base_bundleOf (bundleOf_of_built hbuilt) "shutdown" (by decide)
  rw [Fields.get, get?_decodedFields, hfield]
  rfl

/-- The monitor reads the two lists of the node. -/
theorem get_list_of_built (list : PolicyList) : (decodedFields bundle).get list.field =
    .arr (((list.effective s node.agentId).map list.json).map decoded) := by
  rw [Fields.get, get?_decodedFields, lists_bundleOf (bundleOf_of_built hbuilt) list,
    Option.map_some, decoded, decodedList_eq]
  rfl

/-- The lists of a bundle that was built and applied. -/
theorem appliedLists_of_built {cfg : Config} {libs : Agent.Libraries} {calls : Calls}
    {w w' : World} {c : Candidate} (hplans : Plans cfg libs calls (decodedFields bundle) w c)
    (happlied : applyBundle cfg libs calls (decodedFields bundle) w = (w', .ok ())) :
    AppliedLists calls.plan.lookup (decodedFields bundle) (effectiveBlacklist node.agentId s.blacklist)
      (effectiveAccessControl node.agentId s.accessControlSets s.networkGroups) c.rules where
  toAppliedPolicy := appliedPolicy_of_applyBundle hplans happlied
  blacklistField := get_list_of_built hbuilt .blacklist
  accessField := get_list_of_built hbuilt .accessControl
  blacklistKeys := fun _ he => canonicalKey_of_mem_effectiveBlacklist he
  accessKeys := fun _ he => canonicalKey_of_mem_effectiveAccessControl he

end Built

/-- The preview answers, and the answer agrees with what the applied bundle does exactly if the
blacklist of the node foresees it. -/
theorem preview_agrees_iff (settings : Settings) {s : Store} {payload : SourceBlacklistPreviewRequest}
    {node : Node} {site : Site} {source : Addr} {host : String}
    (hquestion : Question s payload node site source host) {name : NodeOp → Label}
    {desiredVersion : Nat} {draws : Draws} {proxySelection routingPolicy : Json} {bundle : Dict}
    (hbuilt : ((buildSignedBundle settings name site node desiredVersion draws proxySelection
      routingPolicy).run s).1 = .ok bundle)
    {cfg : Config} {libs : Agent.Libraries} {calls : Calls} {w w' : World} {c : Candidate}
    (hplans : Plans cfg libs calls (decodedFields bundle) w c)
    (happlied : applyBundle cfg libs calls (decodedFields bundle) w = (w', .ok ())) :
    ∃ response, (previewSourceBlacklist settings.libs payload).run s = (.ok response, s) ∧
      (Agrees response.outcome (c.blocks cfg (decodedFields bundle) (requestOf source host)) ↔
        Foreseen calls.plan.lookup
          (blacklistPolicy (effectiveBlacklist node.agentId s.blacklist))
          (accessPolicy (effectiveAccessControl node.agentId s.accessControlSets s.networkGroups))
          site.shutdown source (hostText settings.libs host) (requestOf source host)) := by
  refine ⟨_, hquestion.run settings.libs, ?_⟩
  rw [Candidate.blocks, shutdown_of_built hbuilt]
  exact agrees_iff_foreseen (appliedLists_of_built hbuilt hplans happlied) settings.libs
    (cfg.firewallPort c.port) site.shutdown source host (requestOf source host)

/-! ## A denied group -/

/-- The installation with a blacklist row, and a set that denies a network to the node. -/
def guardedStore : Store :=
  { sampleStore with
    blacklist := [⟨"row-1", "north-a", "source", "ip", "192.0.2.1", true⟩]
    networkGroups := [⟨"group-1", [⟨"cidr", "10.0.0.0/8"⟩]⟩]
    accessControlSets := [⟨"set-1", ["north-a"], ["group-1"], .deny, "source", "guests", true⟩] }

/-- The digests of the bundle of this installation. -/
def guardedHashes : Bundle.Hashes where
  sha256 _ :=
    [188, 168, 233, 119, 193, 130, 53, 176, 75, 149, 13, 219, 70, 199, 244, 16, 139, 123, 172, 252, 92,
      38, 122, 15, 50, 180, 84, 104, 190, 70, 157, 120]
  hmacSha256 _ _ :=
    [151, 192, 51, 178, 146, 92, 81, 70, 58, 122, 228, 100, 131, 36, 196, 229, 76, 55, 27, 138, 20, 85,
      213, 44, 192, 163, 255, 42, 151, 99, 171, 59]

def guardedSettings : Settings :=
  { sampleSettings with
    hashes := guardedHashes, bundleHmacSecret := "0123456789abcdef0123456789abcdef" }

def guardedDraws : Draws :=
  { sampleDraws "a" with
    issuedAt := fun _ => "2025-01-01T00:00:00Z", expiresAt := fun _ => "2030-01-01T00:00:00Z" }

/-- The monitor of the node. -/
def guardedConfig : Agent.Config := { sampleConfig with nodeID := "north-a" }

def guardedLibraries : Agent.Libraries := { sampleLibraries with hashes := guardedHashes }

def guardedBundle : Dict :=
  signBundle guardedHashes (baseBundle sampleSite sampleNode 1 guardedDraws
    (effectiveBlacklist "north-a" guardedStore.blacklist)
    (effectiveAccessControl "north-a" guardedStore.accessControlSets guardedStore.networkGroups) none)
    guardedSettings.bundleHmacSecret

theorem built_guardedBundle : ((buildSignedBundle guardedSettings
    (fun op => .desired "site-north" (.node "north-a" op)) sampleSite sampleNode 1 guardedDraws .null
    .null).run guardedStore).1 = .ok guardedBundle := rfl

/-- A question about a host of the denied network. -/
def guestQuestion : SourceBlacklistPreviewRequest :=
  { nodeId := "north-a", sourceIp := "10.0.0.7", destHost := "example.com" }

theorem question_guestQuestion : Question guardedStore guestQuestion sampleNode sampleSite
    (.v4 (Fin.ofNat _ 0x0a000007)) "example.com" where
  reference := rfl
  isSite := rfl
  isSource := by decide +kernel
  isHost := by decide +kernel
  ne := by decide

/-- A new monitor applies the bundle, and the policy then blocks the host. -/
theorem applied_guardedBundle : ∃ (c : Candidate) (w' : World),
    Plans guardedConfig guardedLibraries sampleCalls (decodedFields guardedBundle) sampleStart c ∧
    applyBundle guardedConfig guardedLibraries sampleCalls (decodedFields guardedBundle) sampleStart =
      (w', .ok ()) ∧
    c.blocks guardedConfig (decodedFields guardedBundle)
      (requestOf (.v4 (Fin.ofNat _ 0x0a000007)) "example.com") = true := by
  have hplan : (planCandidate guardedConfig guardedLibraries sampleCalls.plan 0 1
      (decodedFields guardedBundle)).toOption.any (fun c => c.blocks guardedConfig
        (decodedFields guardedBundle)
        (requestOf (.v4 (Fin.ofNat _ 0x0a000007)) "example.com")) = true := by
    decide +kernel
  have happlied : succeeded (applyBundle guardedConfig guardedLibraries sampleCalls
      (decodedFields guardedBundle) sampleStart).2 = true := by
    decide +kernel
  cases hc : planCandidate guardedConfig guardedLibraries sampleCalls.plan 0 1
      (decodedFields guardedBundle) with
  | error e => simp [hc, Except.toOption] at hplan
  | ok c =>
      rw [hc] at hplan
      exact ⟨c, _, ⟨1, rfl, by decide, by decide, hc⟩, eq_ok_of_succeeded happlied, hplan⟩

theorem preview_agrees_iff_sample :
    ∃ (c : Candidate) (response : SourceBlacklistPreviewResponse),
    (previewSourceBlacklist guardedSettings.libs guestQuestion).run guardedStore =
      (.ok response, guardedStore) ∧
    (Agrees response.outcome (c.blocks guardedConfig (decodedFields guardedBundle)
        (requestOf (.v4 (Fin.ofNat _ 0x0a000007)) "example.com")) ↔
      Foreseen sampleCalls.plan.lookup
        (blacklistPolicy (effectiveBlacklist "north-a" guardedStore.blacklist))
        (accessPolicy (effectiveAccessControl "north-a" guardedStore.accessControlSets
          guardedStore.networkGroups))
        false (.v4 (Fin.ofNat _ 0x0a000007)) (hostText guardedSettings.libs "example.com")
        (requestOf (.v4 (Fin.ofNat _ 0x0a000007)) "example.com")) := by
  obtain ⟨c, w', hplans, happlied, -⟩ := applied_guardedBundle
  exact ⟨c, preview_agrees_iff guardedSettings question_guestQuestion built_guardedBundle hplans
    happlied⟩

/-- The preview allows a host of the denied network. -/
theorem preview_misses_denied_group :
    ∃ (c : Candidate) (w' : World) (response : SourceBlacklistPreviewResponse),
    Question guardedStore guestQuestion sampleNode sampleSite (.v4 (Fin.ofNat _ 0x0a000007))
      "example.com" ∧
    ((buildSignedBundle guardedSettings (fun op => .desired "site-north" (.node "north-a" op))
      sampleSite sampleNode 1 guardedDraws .null .null).run guardedStore).1 = .ok guardedBundle ∧
    Plans guardedConfig guardedLibraries sampleCalls (decodedFields guardedBundle) sampleStart c ∧
    applyBundle guardedConfig guardedLibraries sampleCalls (decodedFields guardedBundle) sampleStart =
      (w', .ok ()) ∧
    (previewSourceBlacklist guardedSettings.libs guestQuestion).run guardedStore =
      (.ok response, guardedStore) ∧
    ¬ Agrees response.outcome (c.blocks guardedConfig (decodedFields guardedBundle)
      (requestOf (.v4 (Fin.ofNat _ 0x0a000007)) "example.com")) := by
  obtain ⟨c, w', hplans, happlied, hblocks⟩ := applied_guardedBundle
  refine ⟨c, w', _, question_guestQuestion, built_guardedBundle, hplans, happlied,
    question_guestQuestion.run guardedSettings.libs, ?_⟩
  intro hagrees
  rw [hagrees.allowed (by decide +kernel)] at hblocks
  cases hblocks

end Grouproxy.Backend
