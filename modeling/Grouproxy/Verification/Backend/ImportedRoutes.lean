import Grouproxy.Verification.Backend.RouteTargets

/-! # Imported rules on a node

The rules of a sing-box document are imported, published in a bundle, decoded by the monitor and
rendered again. A request ends up where the document sends it.
-/

namespace Grouproxy.Routing

open Value Encoding Policy Steps
open Grouproxy.Backend (Libraries RoutingRule RoutingPolicy RuleAction RuleKind decision
  sourceDecision sourceRules FinalOf LowersOnce bundleOf)

/-! ## What an import makes -/

section Import

variable {libs : Libraries}

theorem isNormal_of_newRule {kind : RuleKind} {pattern : String} {action : RuleAction}
    {rule : RoutingRule} (h : Backend.newRule libs kind pattern action = some rule) :
    rule.IsNormal libs := by
  simp only [Backend.newRule, Option.bind_eq_bind, Option.bind_eq_some_iff] at h
  obtain ⟨-, -, normal, hnormal, h⟩ := h
  cases h
  exact ⟨pattern, hnormal⟩

def AllNormal (libs : Libraries) (rules : List RoutingRule) : Prop :=
  ∀ rule ∈ rules, rule.IsNormal libs

theorem convertPattern_keeps {action : RuleAction} {location : String} {kind : RuleKind}
    {state state' : Backend.Conversion} {value : Backend.Document}
    (hstate : AllNormal libs state.converted)
    (h : Backend.convertPattern libs action location kind state value = .ok state') :
    AllNormal libs state'.converted := by
  obtain ⟨pattern, rule, rfl, hrule, hconverted⟩ := Backend.convertPattern_ok h
  rw [hconverted]
  intro other hother
  rcases List.mem_append.mp hother with hold | hnew
  · exact hstate other hold
  · rw [List.mem_singleton.mp hnew]
    exact isNormal_of_newRule hrule

theorem convertField_keeps {action : RuleAction} {location : String}
    {rule : List (String × Backend.Document)} {state state' : Backend.Conversion} {kind : RuleKind}
    (hstate : AllNormal libs state.converted)
    (h : Backend.convertField libs action location rule state kind = .ok state') :
    AllNormal libs state'.converted := by
  rw [Backend.convertField] at h
  split at h
  · cases h
    exact hstate
  · exact convertPattern_keeps hstate h
  · exact foldlM_invariant (fun _ _ _ hs hstep => convertPattern_keeps hs hstep) hstate h
  · cases h

theorem convertRule_keeps {location : String} {converted converted' : List RoutingRule}
    {rule : Backend.Document} (hconverted : AllNormal libs converted)
    (h : Backend.convertRule libs location converted rule = .ok converted') :
    AllNormal libs converted' := by
  cases rule with
  | obj rule =>
      rw [Backend.convertRule] at h
      split at h
      · cases h
      split at h
      · cases h
      obtain ⟨action, -, h⟩ := bind_eq_ok h
      obtain ⟨state, hstate, h⟩ := bind_eq_ok h
      split at h
      · cases h
      cases h
      exact foldlM_invariant (P := fun state => AllNormal libs state.converted)
        (fun _ _ _ hs hstep => convertField_keeps hs hstep) hconverted hstate
  | _ => cases h

/-- What a successful import made of its parts. -/
theorem importSingboxRouting_ok {loads : String → Option Backend.Document}
    {payload : Backend.RoutingImport} {out : Backend.RoutingImportOut}
    (h : Backend.importSingboxRouting libs loads payload = .ok out) :
    ∃ document rules converted final,
      loads (Backend.trimBoms payload.content) = some document ∧
      Backend.rulesOf (Backend.routeOf document) = some (.arr rules) ∧
      Backend.convertRules libs rules = .ok converted ∧
      payload.updatedFinal (Backend.routeOf document) = .ok final ∧
      out.policy =
        { payload.policy with final := final, rules := payload.updatedRules converted } := by
  rw [Backend.importSingboxRouting] at h
  split at h
  · cases h
  split at h
  · cases h
  rename_i document hdocument
  split at h
  · cases h
  dsimp only at h
  split at h
  · rename_i rules hrules
    split at h
    · cases h
    obtain ⟨converted, hconverted, h⟩ := bind_eq_ok h
    split at h
    · cases h
    obtain ⟨final, hfinal, h⟩ := bind_eq_ok h
    cases h
    exact ⟨document, rules, converted, final, hdocument, hrules, hconverted, hfinal, rfl⟩
  · cases h

/-- The rules of an imported policy are in normal form if those it started from were. -/
theorem isNormal_of_import {payload : Backend.RoutingImport} {rules : List Backend.Document}
    {converted : List RoutingRule} (hold : payload.policy.IsNormal libs)
    (h : Backend.convertRules libs rules = .ok converted) :
    AllNormal libs (payload.updatedRules converted) := by
  have hconverted : AllNormal libs converted :=
    foldlM_invariant (P := AllNormal libs) (fun _ _ _ hs hstep => convertRule_keeps hs hstep)
      (fun _ hrule => absurd hrule List.not_mem_nil) h
  rw [Backend.RoutingImport.updatedRules]
  cases payload.mode with
  | replace => exact hconverted
  | append => exact List.forall_mem_append.mpr ⟨hold, hconverted⟩

theorem finalOf_updatedFinal {payload : Backend.RoutingImport} {document : Backend.Document}
    {final : Backend.FinalAction}
    (h : payload.updatedFinal (Backend.routeOf document) = .ok final) :
    FinalOf document payload.policy.final final := by
  rw [Backend.RoutingImport.updatedFinal] at h
  rw [FinalOf]
  split at h
  · rename_i value hvalue
    rw [hvalue]
    obtain ⟨outbound, hsome, hlookup⟩ := Backend.outboundAction_ok h
    cases hsome
    exact ⟨outbound, rfl, hlookup⟩
  · rename_i hnone
    cases h
    rw [hnone]

end Import

/-- A bundle that was built with the dump of a normal policy carries that policy. -/
theorem carriesPolicy_of_bundleOf {settings : Backend.Settings} {s : Backend.Store}
    {site : Backend.Site} {node : Backend.Node} {desiredVersion : Nat} {draws : Backend.Draws}
    {proxySelection : Json} {bundle : Crypto.Dict} {policy : RoutingPolicy}
    (hlibs : LowersOnce settings.libs) (hnormal : policy.IsNormal settings.libs)
    (h : bundleOf settings s site node desiredVersion draws proxySelection policy.modelDump =
      .ok bundle) :
    CarriesPolicy settings.libs (decodedFields bundle) policy := by
  refine ⟨hnormal, ?_⟩
  rw [Backend.get?_decodedFields]
  rcases Backend.policyOf_bundleOf h with ⟨hnone, -⟩ | ⟨validated, -, hvalidated, hdump⟩
  · cases hnone
  · rw [Backend.modelValidate_modelDump hlibs hnormal hvalidated, Backend.policyOf] at hdump
    rw [hdump]
    rfl

/-! ## From the document to the node -/

/-- What a document decides, after the rules of the policy that it is appended to. -/
def importedDecision (libs : Libraries) (payload : Backend.RoutingImport)
    (sources : List Backend.SourceRule) (destination : Backend.Destination) : Option RuleAction :=
  match payload.mode with
  | .replace => sourceDecision libs sources destination
  | .append => (decision libs payload.policy.rules destination).or
      (sourceDecision libs sources destination)

theorem decision_updatedRules {libs : Libraries} {payload : Backend.RoutingImport}
    {converted : List RoutingRule} {sources : List Backend.SourceRule}
    {destination : Backend.Destination}
    (h : decision libs converted destination = sourceDecision libs sources destination) :
    decision libs (payload.updatedRules converted) destination =
      importedDecision libs payload sources destination := by
  rw [importedDecision, ← h]
  cases hmode : payload.mode with
  | append =>
      simp only [Backend.RoutingImport.updatedRules, hmode]
      exact FirstMatch.firstMatch_append payload.policy.rules converted
  | replace => simp only [Backend.RoutingImport.updatedRules, hmode]

/-- An imported document decides on the node: every request that the access policy lets through
goes where the first rule of the document that matches sends it, and without one where the flags
of the policy and the final outbound of the document send it. -/
theorem routeTarget_imported (settings : Backend.Settings)
    (loads : String → Option Backend.Document) (payload : Backend.RoutingImport)
    (out : Backend.RoutingImportOut) (s : Backend.Store) (site : Backend.Site) (node : Backend.Node)
    (desiredVersion : Nat) (draws : Backend.Draws) (proxySelection : Json) (bundle : Crypto.Dict)
    (geo : Geography) (cfg : Agent.Config) (monitor : Agent.Libraries) (calls : Agent.PlanCalls)
    (appliedVersion version : Int) (c : Agent.Candidate) (hlibs : LowersOnce settings.libs)
    (hold : payload.policy.IsNormal settings.libs)
    (himport : Backend.importSingboxRouting settings.libs loads payload = .ok out)
    (hbundle : bundleOf settings s site node desiredVersion draws proxySelection
      out.policy.modelDump = .ok bundle)
    (hplan : Agent.planCandidate cfg monitor calls appliedVersion version (decodedFields bundle) =
      .ok c)
    (hunscoped : ∀ rule ∈ sourceBlacklistRules (decodedFields bundle), Unscoped rule) :
    ∃ document sources, loads (Backend.trimBoms payload.content) = some document ∧
      sourceRules document = some sources ∧
      FinalOf document payload.policy.final out.policy.final ∧
      ∀ req : Request, (∀ name, req.destination = .host name → IsHostName name) →
        ¬ Denied calls.lookup (sourceBlacklistRules (decodedFields bundle)) req →
        routeTarget geo c.config req =
          ((importedDecision settings.libs payload sources (policyDestination req.destination)).map
            (actionTarget "subscription")).getD
              (defaultTarget geo "subscription" out.policy req) := by
  obtain ⟨document, rules, converted, final, hdocument, hrules, hconverted, hfinal, hpolicy⟩ :=
    importSingboxRouting_ok himport
  obtain ⟨sources, hsources, hdecides⟩ := Backend.convertRules_ok hconverted
  have hnormal : out.policy.IsNormal settings.libs := by
    rw [hpolicy]
    exact isNormal_of_import hold hconverted
  have hcarries := carriesPolicy_of_bundleOf hlibs hnormal hbundle
  refine ⟨document, sources, hdocument, ?_, ?_, fun req hhost hallowed => ?_⟩
  · rw [sourceRules, hrules]
    exact hsources
  · rw [hpolicy]
    exact finalOf_updatedFinal hfinal
  · obtain ⟨hrejects, htarget⟩ := candidate_routeTarget geo req hplan hunscoped hcarries hhost
    rw [← hrejects] at hallowed
    rw [htarget, if_neg hallowed, policyTarget, ← decision_updatedRules (hdecides _)]
    congr 3
    rw [hpolicy]

/-- A configuration of the proxy that sends a domain to its selector. -/
def importText : String :=
  "\x7b\"route\":\x7b\"rules\":[\x7b\"domain_suffix\":[\".Example.org\"],\"outbound\":\"proxy\"\x7d]," ++
    "\"final\":\"direct\"\x7d\x7d"

def importDocument : Backend.Document :=
  .obj [("route", .obj [("rules", .arr [.obj [("domain_suffix", .arr [.str ".Example.org"]),
    ("outbound", .str "proxy")]]), ("final", .str "direct")])]

/-- The rules are added to those of a policy that rejects another domain. -/
def appendImport : Backend.RoutingImport :=
  { content := importText, mode := .append
    policy := ⟨false, false, .proxy, [⟨.domainSuffix, "example.com", .reject⟩]⟩
    content_length := by
      have hchars : importText.toList = _ ++ _ :=
        String.toList_append.trans (congrArg₂ _ String.toList_ofList String.toList_ofList)
      rw [hchars]
      decide }

/-- The reader of JSON. -/
def importLoads (text : String) : Option Backend.Document :=
  if text = importText then some importDocument else none

theorem trimBoms_appendImport : Backend.trimBoms appendImport.content = importText := by
  apply Backend.trimBoms_of_head
  have hchars : importText.toList = _ ++ _ :=
    String.toList_append.trans (congrArg₂ _ String.toList_ofList String.toList_ofList)
  rw [appendImport, hchars]
  decide

theorem importSingboxRouting_appendImport :
    Backend.importSingboxRouting routedSettings.libs importLoads appendImport =
      .ok ⟨routedPolicy, 1, 1⟩ := by
  have hfits : ¬ Backend.maxImportBytes < appendImport.content.utf8ByteSize := by decide
  rw [Backend.importSingboxRouting, if_neg hfits, trimBoms_appendImport, importLoads, if_pos rfl]
  decide

theorem isNormal_appendImport : appendImport.policy.IsNormal routedSettings.libs := by
  intro rule hrule
  rw [List.mem_singleton.mp hrule]
  exact ⟨"example.com", by decide⟩

theorem routeTarget_imported_sample :
    ∃ c, Agent.planCandidate routedConfig routedMonitor Agent.sampleCalls.plan 0 1
        (decodedFields routedBundle) = .ok c ∧
      routeTarget ⟨fun _ => false, fun _ _ => false⟩ c.config (hostRequest "www.Example.com") =
        .reject ∧
      routeTarget ⟨fun _ => false, fun _ _ => false⟩ c.config (hostRequest "mirror.example.org") =
        .outbound "subscription" ∧
      routeTarget ⟨fun _ => false, fun _ _ => false⟩ c.config (hostRequest "example.net") =
        .outbound "direct" := by
  obtain ⟨c, hplan, -⟩ := planCandidate_routedBundle
  obtain ⟨document, sources, hdocument, hsources, -, htarget⟩ :=
    routeTarget_imported routedSettings importLoads appendImport
      ⟨routedPolicy, 1, 1⟩ routedStore Backend.sampleSite Backend.sampleNode 1 routedDraws
      (.obj [("group", .str "subscription"), ("outbound", .str "edge-b")]) routedBundle
      ⟨fun _ => false, fun _ _ => false⟩ routedConfig routedMonitor Agent.sampleCalls.plan 0 1 c
      Backend.loweringSettings_lowersOnce isNormal_appendImport importSingboxRouting_appendImport
      bundleOf_routedBundle hplan unscoped_routedBundle
  have hread : document = importDocument := by
    rw [trimBoms_appendImport, importLoads, if_pos rfl] at hdocument
    cases hdocument
    rfl
  have hrules : sources = [⟨[(.domainSuffix, ".Example.org")], .proxy⟩] := by
    have hknown : sourceRules importDocument = some [⟨[(.domainSuffix, ".Example.org")], .proxy⟩] :=
      rfl
    rw [hread, hknown] at hsources
    cases hsources
    rfl
  subst hrules
  have hdecided := fun name hname hallowed =>
    htarget (hostRequest name) (by
      rintro other ⟨⟩
      exact isHostName_routed name hname) ((denied_routedBundle_iff name).not.mpr hallowed)
  refine ⟨c, hplan, ?_, ?_, ?_⟩
  · rw [hdecided _ (by decide) (by decide)]
    decide
  · rw [hdecided _ (by decide) (by decide)]
    decide
  · rw [hdecided _ (by decide) (by decide)]
    decide

end Grouproxy.Routing
