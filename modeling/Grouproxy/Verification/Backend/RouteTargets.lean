import Grouproxy.Model.RouteTargets
import Grouproxy.Verification.Agent.Crash
import Grouproxy.Verification.Backend.PolicyAgreement
import Grouproxy.Verification.Backend.RoutingImport
import Grouproxy.Verification.Policy.Preview
import Grouproxy.Verification.Signing

/-! # Requests leave a node as the policy says

The backend's policy is written into a bundle, decoded by the monitor and rendered as route rules
behind the access rules. The proxy reads these rules and decides every request as the policy does.
-/

namespace Grouproxy.Routing

open Text Netip Ipaddress Value Encoding Policy FirstMatch Steps
open Grouproxy.Singbox (submap proxyOutbound EndpointList renderSingbox renderSingbox_eq)
open Grouproxy.Backend (Libraries RoutingRule RoutingPolicy RuleAction FinalAction RuleKind decision
  normalName normalizePattern isAscii IsDomain bundleOf)

/-! ## Access rules -/

/-- A rule without the items that only the destination policy writes. -/
structure IsAccessRule (rule : Fields) : Prop where
  domain : rule.get "domain" = .nil
  isPrivate : rule.get "ip_is_private" = .nil
  ruleSet : rule.get "rule_set" = .nil

theorem IsAccessRule.hitsDefault {rule : Fields} (h : IsAccessRule rule) (geo : Geography)
    (req : Request) : hitsDefault geo req rule = matchesDefault req rule := by
  have hprivate : boolValue Any.nil = false := rfl
  have htexts : stringSlice Any.nil = [] := rfl
  simp [Routing.hitsDefault, matchesDefault, fieldTexts, h.domain, h.isPrivate, h.ruleSet, hprivate,
    htexts]

theorem IsAccessRule.put {rule : Fields} (h : IsAccessRule rule) {key : String} (value : Any)
    (hkey : key ∉ ["domain", "ip_is_private", "rule_set"]) : IsAccessRule (rule.put key value) := by
  have hne : ∀ other ∈ ["domain", "ip_is_private", "rule_set"],
      (rule.put key value).get other = rule.get other := by
    intro other hother
    refine Singbox.get_put_ne value ?_
    rintro rfl
    exact hkey hother
  exact ⟨(hne _ (by decide)).trans h.domain, (hne _ (by decide)).trans h.isPrivate,
    (hne _ (by decide)).trans h.ruleSet⟩

theorem isAccessRule_single {key : String} (texts : List String)
    (hkey : key ∉ ["domain", "ip_is_private", "rule_set"]) :
    IsAccessRule [(key, .strs texts)] := by
  have hne : ∀ other ∈ ["domain", "ip_is_private", "rule_set"],
      Fields.get [(key, .strs texts)] other = .nil := by
    intro other hother
    have hother' : other ≠ key := by
      rintro rfl
      exact hkey hother
    rw [Fields.get, Fields.get?_cons, if_neg hother']
    rfl
  exact ⟨hne _ (by decide), hne _ (by decide), hne _ (by decide)⟩

/-- A matcher of an access rule, which has one field and no type. -/
structure IsAccessMatcher (m : Fields) : Prop extends IsAccessRule m where
  type : (m.put "action" (.str "reject")).get "type" = .nil
  action : (m.put "action" (.str "reject")).get "action" = .str "reject"

theorem isAccessMatcher_of_accessMatchFields {entry : SourceBlacklistRule} {m : Fields}
    (h : accessMatchFields entry = some m) : IsAccessMatcher m := by
  have hsingle : ∀ key texts, key ∉ ["domain", "ip_is_private", "rule_set", "type", "action"] →
      IsAccessMatcher [(key, .strs texts)] := by
    intro key texts hkey
    refine ⟨isAccessRule_single texts fun hmem => hkey (List.mem_append_left ["type", "action"] hmem),
      ?_, Singbox.get_put_self _ _ _⟩
    have htype : "type" ≠ key := by
      rintro rfl
      exact hkey (by decide)
    rw [Singbox.get_put_ne _ (by decide), Fields.get, Fields.get?_cons, if_neg htype]
    rfl
  simp only [accessMatchFields] at h
  split at h
  · cases h
    exact hsingle _ _ (by decide)
  · split at h
    · cases h
      exact hsingle _ _ (by decide)
    · split at h
      · cases h
        exact hsingle _ _ (by decide)
      · cases h

/-- A reject rule over access matchers rejects, and the further items change nothing in it. -/
theorem rejectRule_target {allows : List Fields} {deny : Fields} (hdeny : IsAccessMatcher deny)
    (hallows : ∀ allow ∈ allows, IsAccessMatcher allow) :
    ∃ fs : Fields, rejectRule allows deny = .map fs ∧ ruleTarget fs = .reject ∧
      fs.get "rule_set" = .nil ∧ ∀ geo req, hitsRule geo req fs = matchesRule req fs := by
  have hrule : IsAccessRule (deny.put "action" (.str "reject")) :=
    hdeny.toIsAccessRule.put _ (by decide)
  rw [rejectRule]
  split
  · refine ⟨_, rfl, ?_, hrule.ruleSet, fun geo req => ?_⟩
    · rw [ruleTarget, hdeny.action]
      rfl
    · rw [hitsRule, matchesRule, hdeny.type, hrule.hitsDefault]
      rfl
  · refine ⟨_, rfl, rfl, rfl, fun geo req => ?_⟩
    have hsub : ∀ rule ∈ deny :: allows.map (·.put "invert" (.bool true)),
        hitsDefault geo req rule = matchesDefault req rule := by
      refine List.forall_mem_cons.mpr ⟨hdeny.hitsDefault geo req, ?_⟩
      intro rule hrule
      obtain ⟨allow, hallow, rfl⟩ := List.mem_map.mp hrule
      exact ((hallows allow hallow).put (.bool true) (by decide)).hitsDefault geo req
    have hand : ∀ fs : Fields, (fs.get "type").asString? = some "logical" →
        (fs.get "mode").asString? = some "and" →
        (∀ rule ∈ subrules fs, hitsDefault geo req rule = matchesDefault req rule) →
        hitsRule geo req fs = matchesRule req fs := by
      intro fs htype hmode hrules
      have hall : (subrules fs).all (hitsDefault geo req) =
          (subrules fs).all (matchesDefault req) := by
        rw [Bool.eq_iff_iff, List.all_eq_true, List.all_eq_true]
        constructor
        · exact fun h rule hrule => (hrules rule hrule) ▸ h rule hrule
        · exact fun h rule hrule => (hrules rule hrule).symm ▸ h rule hrule
      simp [hitsRule, matchesRule, htype, hmode, hall]
    apply hand _ rfl rfl
    rw [subrules_logical]
    exact hsub

theorem mem_sourceBlacklistRouteRules {rules : List SourceBlacklistRule} {raw : Any}
    (h : raw ∈ sourceBlacklistRouteRules rules) :
    ∃ fs : Fields, raw = .map fs ∧ ruleTarget fs = .reject ∧ fs.get "rule_set" = .nil ∧
      ∀ geo req, hitsRule geo req fs = matchesRule req fs := by
  have hmatcher : ∀ {kept : List SourceBlacklistRule} {m : Fields},
      m ∈ kept.filterMap accessMatchFields → IsAccessMatcher m := by
    intro kept m hm
    obtain ⟨entry, -, hentry⟩ := List.mem_filterMap.mp hm
    exact isAccessMatcher_of_accessMatchFields hentry
  obtain ⟨deny, hdeny, rfl⟩ := List.mem_map.mp h
  exact rejectRule_target (hmatcher hdeny) fun allow hallow => hmatcher hallow

/-- The rules in front of the policy reject what the route rejects, and decide nothing else. -/
theorem rulesTarget_access (geo : Geography) (req : Request) (rules : List SourceBlacklistRule) :
    rulesTarget geo req (sourceBlacklistRouteRules rules) =
      if routeRejects (sourceBlacklistRouteRules rules) req then some .reject else none := by
  have hkept : ∀ fs ∈ (sourceBlacklistRouteRules rules).filterMap Any.asMap?,
      ruleTarget fs = .reject ∧ hitsRule geo req fs = matchesRule req fs := by
    intro fs hfs
    obtain ⟨raw, hraw, hmap⟩ := List.mem_filterMap.mp hfs
    obtain ⟨fs', rfl, htarget, -, hhits⟩ := mem_sourceBlacklistRouteRules hraw
    cases hmap
    exact ⟨htarget, hhits geo req⟩
  rw [rulesTarget, routeRejects]
  generalize (sourceBlacklistRouteRules rules).filterMap Any.asMap? = kept at hkept
  induction kept with
  | nil => rfl
  | cons fs kept ih =>
      obtain ⟨htarget, hhits⟩ := hkept fs List.mem_cons_self
      have ih := ih fun other hother => hkept other (List.mem_cons_of_mem _ hother)
      rw [firstMatch_cons, List.find?_cons, hhits]
      cases hmatch : matchesRule req fs with
      | false => simpa using ih
      | true =>
          have haction : (fs.get "action").asString? = some "reject" := by
            by_contra hne
            rw [ruleTarget, if_neg hne] at htarget
            cases htarget
          simp [htarget, haction]

/-! ## Destinations -/

/-- The destination of a request as the policy sees it. -/
def policyDestination : Destination → Backend.Destination
  | .address ip => ⟨none, some ip.addr⟩
  | .host name => ⟨some name, none⟩

/-- An ASCII host name with well-formed labels, in letters of either case. -/
structure IsHostName (name : String) : Prop where
  ascii : isAscii name = true
  domain : IsDomain (toLower name)

section HostName

variable {name : String} (h : IsHostName name)
include h

theorem IsHostName.toNat_lt {c : Char} (hc : c ∈ name.toList) : c.toNat < 128 := by
  have hall := List.all_eq_true.mp h.ascii c hc
  simpa using hall

theorem IsHostName.lower (libs : Libraries) : Backend.lower libs name = toLower name := by
  have hmap : name.toList.map Char.toLower = name.toList.map lowerChar := by
    apply List.map_congr_left
    intro c hc
    have hlt := h.toNat_lt hc
    rw [lowerChar, if_neg (by omega), if_neg (by omega)]
  rw [Backend.lower, if_pos h.ascii, hmap, toLower]

theorem IsHostName.isSpace {c : Char} (hc : c ∈ name.toList) : Ipaddress.isSpace c = false := by
  have hspaces : ∀ n < 128, Ipaddress.isSpace (Char.ofNat n) = true →
      lowerChar (Char.ofNat n) = Char.ofNat n := by
    decide
  by_contra hspace
  rw [Bool.not_eq_false] at hspace
  have hself := hspaces c.toNat (h.toNat_lt hc)
  rw [Char.ofNat_toNat] at hself
  have hmem : c ∈ (toLower name).toList := by
    rw [toLower, String.toList_ofList, ← hself hspace]
    exact List.mem_map_of_mem hc
  rw [(h.domain.plain hmem).2.2] at hspace
  cases hspace

/-- The two sides compare a host name in one form. -/
theorem IsHostName.normalName (libs : Libraries) : normalName libs name = toLower name := by
  have hstrip : strip name = name :=
    strip_eq_self (fun c hc => h.isSpace (List.mem_of_mem_head? hc))
      fun c hc => h.isSpace (List.mem_of_getLast? hc)
  have hnormal : normalizePattern libs .domain name = some (toLower name) := by
    simp only [normalizePattern, hstrip, h.lower libs]
    exact h.domain.normalizeDomain libs
  rw [Backend.normalName, hnormal, Option.getD_some]

end HostName

/-! ## What the policy says -/

/-- Where an action sends a request, given the outbound that stands for the proxy. -/
def actionTarget (proxy : String) : RuleAction → Target
  | .reject => .reject
  | .proxy => .outbound proxy
  | .direct => .outbound "direct"

/-- Without a matching rule the two flags decide, then the final action. -/
def defaultTarget (geo : Geography) (proxy : String) (policy : RoutingPolicy) (req : Request) :
    Target :=
  if policy.privateDirect && privateMatches geo req then .outbound "direct"
  else if policy.cnDirect && (geo.inRuleSet geoIPCNTag req.destination ||
      geo.inRuleSet geoSiteCNTag req.destination) then .outbound "direct"
  else actionTarget proxy policy.final.toRuleAction

def policyTarget (libs : Libraries) (geo : Geography) (proxy : String) (policy : RoutingPolicy)
    (req : Request) : Target :=
  ((decision libs policy.rules (policyDestination req.destination)).map (actionTarget proxy)).getD
    (defaultTarget geo proxy policy req)

/-! ## Rendered rules -/

theorem rulesTarget_append (geo : Geography) (req : Request) (front back : List Any) :
    rulesTarget geo req (front ++ back) =
      (rulesTarget geo req front).or (rulesTarget geo req back) := by
  rw [rulesTarget, List.filterMap_append, firstMatch_append]
  rfl

/-- What a rule of the policy matches on, in the words of the configuration. -/
def patternHits (req : Request) (kind : RuleKind) (pattern : String) : Bool :=
  match kind with
  | .domain => nameMatches req pattern
  | .domainSuffix => domainMatches req pattern
  | .ipCidr => ipMatches req pattern

theorem patternHits_eq {libs : Libraries} {rule : RoutingRule} (hnormal : rule.IsNormal libs)
    (hscope : rule.hasScope = false) (req : Request)
    (hhost : ∀ name, req.destination = .host name → IsHostName name) :
    patternHits req rule.kind rule.pattern = rule.hits libs (policyDestination req.destination) := by
  obtain ⟨value, hvalue⟩ := hnormal
  rcases rule with ⟨kind, pattern, action⟩
  cases kind with
  | domain =>
      cases hdestination : req.destination with
      | address ip => simp [patternHits, nameMatches, hdestination, RoutingRule.hits,
          policyDestination]
      | host name =>
          simp [patternHits, nameMatches, hdestination, RoutingRule.hits, policyDestination,
            (hhost name hdestination).normalName libs]
  | domainSuffix =>
      cases hdestination : req.destination with
      | address ip => simp [patternHits, domainMatches, hdestination, RoutingRule.hits,
          policyDestination]
      | host name =>
          simp [patternHits, domainMatches, domainSuffixMatches, hdestination, RoutingRule.hits,
            policyDestination, (hhost name hdestination).normalName libs]
  | ipCidr =>
      simp only [normalizePattern] at hvalue
      obtain ⟨network, hnetwork, rfl⟩ := Option.map_eq_some_iff.mp hvalue
      have hzone : network.addr.zone = "" := by
        by_contra hne
        have hmem := (Backend.percent_mem_networkText network).mpr hne
        simp [RoutingRule.hasScope, hmem] at hscope
      have hread := Cidr.parsePrefix_networkText network
        (Cidr.isNetwork_of_ipNetwork hnetwork).bits
      rw [if_pos hzone] at hread
      have hsame := Cidr.ipNetwork_networkText (Cidr.isPrinted_of_ipNetwork hnetwork)
      cases hdestination : req.destination with
      | address ip =>
          simp [patternHits, ipMatches, hdestination, RoutingRule.hits, policyDestination,
            matchesText, hread, hsame]
      | host name =>
          simp [patternHits, ipMatches, hdestination, RoutingRule.hits, policyDestination]

/-- A rendered rule matches on its pattern alone, and does what its action says. -/
theorem destinationRule_spec (geo : Geography) (req : Request) (proxy : String)
    (rule : RoutingRule) :
    ∃ fs : Fields, destinationRule proxy rule.destination = .map fs ∧
      hitsRule geo req fs = patternHits req rule.kind rule.pattern ∧
      ruleTarget fs = actionTarget proxy rule.action := by
  rcases rule with ⟨kind, pattern, action⟩
  have hnil : ∀ key, Fields.get? [] key = none := fun _ => rfl
  refine ⟨_, rfl, ?_, ?_⟩
  · cases kind <;> cases action <;>
      simp [RoutingRule.destination, RuleKind.text, RuleAction.text, hitsRule, hitsDefault,
        fieldTexts, Fields.get, Fields.get?_cons, hnil, stringSlice, boolValue, Any.asBool?,
        Any.asString?, patternHits]
  · cases kind <;> cases action <;>
      simp [RoutingRule.destination, RuleKind.text, RuleAction.text, ruleTarget, Fields.get,
        Fields.get?_cons, hnil, Any.asString?, actionTarget]

/-- The rules of the policy decide as the policy's own first match does. -/
theorem rulesTarget_rules {libs : Libraries} {rules : List RoutingRule}
    (hnormal : ∀ rule ∈ rules, rule.IsNormal libs)
    (hscope : ∀ rule ∈ rules, rule.hasScope = false) (geo : Geography) (req : Request)
    (hhost : ∀ name, req.destination = .host name → IsHostName name) (proxy : String) :
    rulesTarget geo req ((rules.map RoutingRule.destination).map (destinationRule proxy)) =
      (decision libs rules (policyDestination req.destination)).map (actionTarget proxy) := by
  induction rules with
  | nil => rfl
  | cons rule rules ih =>
      obtain ⟨fs, hrule, hhits, htarget⟩ := destinationRule_spec geo req proxy rule
      have ih := ih (fun other hother => hnormal other (List.mem_cons_of_mem _ hother))
        fun other hother => hscope other (List.mem_cons_of_mem _ hother)
      have hpattern := patternHits_eq (hnormal rule List.mem_cons_self)
        (hscope rule List.mem_cons_self) req hhost
      have hsome : Any.asMap? (Any.map fs) = some fs := rfl
      rw [rulesTarget] at ih
      rw [List.map_cons, List.map_cons, hrule, rulesTarget, List.filterMap_cons_some hsome,
        firstMatch_cons, hhits, hpattern, ih, decision, decision, firstMatch_cons, htarget]
      split
      · rfl
      · rfl

theorem rulesTarget_private (geo : Geography) (req : Request) (enabled : Bool) :
    rulesTarget geo req (if enabled then
      [.map [("ip_is_private", .bool true), ("outbound", .str "direct")]] else []) =
      if enabled && privateMatches geo req then some (.outbound "direct") else none := by
  have hnil : ∀ key, Fields.get? [] key = none := fun _ => rfl
  cases enabled with
  | false => rfl
  | true =>
      simp [rulesTarget, Any.asMap?, firstMatch_cons, hitsRule, hitsDefault, fieldTexts, Fields.get,
        Fields.get?_cons, hnil, stringSlice, boolValue, Any.asBool?, Any.asString?, ruleTarget]

theorem rulesTarget_cnDirect (geo : Geography) (req : Request) (enabled : Bool) :
    rulesTarget geo req (if enabled then [cnDirectRule] else []) =
      if enabled && (geo.inRuleSet geoIPCNTag req.destination ||
        geo.inRuleSet geoSiteCNTag req.destination) then some (.outbound "direct") else none := by
  have hnil : ∀ key, Fields.get? [] key = none := fun _ => rfl
  cases enabled with
  | false => rfl
  | true =>
      simp [rulesTarget, cnDirectRule, Any.asMap?, firstMatch_cons, hitsRule, hitsDefault,
        fieldTexts, Fields.get, Fields.get?_cons, hnil, stringSlice, boolValue, Any.asBool?,
        Any.asString?, ruleTarget]

/-- The rules that the policy is rendered to decide every request as the policy does. -/
theorem routeRules_policy {libs : Libraries} {policy : RoutingPolicy}
    (hnormal : policy.IsNormal libs) (hscope : ∀ rule ∈ policy.rules, rule.hasScope = false)
    (geo : Geography) (req : Request)
    (hhost : ∀ name, req.destination = .host name → IsHostName name) (proxy : String) :
    (rulesTarget geo req (destinationRouteRules policy.destination proxy)).getD
        (actionTarget proxy policy.final.toRuleAction) =
      policyTarget libs geo proxy policy req := by
  rw [destinationRouteRules, rulesTarget_append, rulesTarget_append, RoutingPolicy.destination,
    rulesTarget_rules hnormal hscope geo req hhost, rulesTarget_private, rulesTarget_cnDirect,
    policyTarget]
  cases decision libs policy.rules (policyDestination req.destination) with
  | some action => rfl
  | none =>
      rw [Option.map_none, Option.none_or, Option.getD_none, defaultTarget]
      split
      · rfl
      · rw [Option.none_or]
        split
        · rfl
        · rfl

/-! ## Configurations -/

/-- The bundle carries the dump of a validated policy. -/
structure CarriesPolicy (libs : Libraries) (value : Fields) (policy : RoutingPolicy) : Prop where
  normal : policy.IsNormal libs
  carried : value.get? "routing_policy" = some (decoded policy.modelDump)

/-- What the monitor reads is the policy, and no network of it has a scope. -/
theorem CarriesPolicy.parsed {libs : Libraries} {value : Fields} {policy : RoutingPolicy}
    (h : CarriesPolicy libs value policy) {read : DestinationPolicy}
    (hread : parseDestinationPolicy value = .ok read) :
    read = policy.destination ∧ ∀ rule ∈ policy.rules, rule.hasScope = false := by
  rw [parseDestinationPolicy, h.carried] at hread
  dsimp only at hread
  rw [Backend.decodePolicy_modelDump] at hread
  dsimp only at hread
  rw [validatePolicy] at hread
  split at hread
  · cases hread
  · split at hread
    · cases hread
    · rename_i hrules
      cases hread
      refine ⟨rfl, fun rule hrule => ?_⟩
      apply (Backend.validateRoutingRule_destination (h.normal rule hrule)).mp
      exact firstError_eq_ok.mp hrules _ (List.mem_map_of_mem hrule)

/-- A rendered configuration rejects what its access rules reject and sends all else where the
policy says. -/
theorem routeTarget_renderSingbox (settings : Singbox.Settings) {libs : Libraries} {value : Fields}
    {policy : RoutingPolicy} (hnormal : policy.IsNormal libs)
    (hscope : ∀ rule ∈ policy.rules, rule.hasScope = false)
    (hparse : parseDestinationPolicy value = .ok policy.destination) (port : Int)
    {entries : List Fields} (hentries : EndpointList entries) (rules : List SourceBlacklistRule)
    (geo : Geography) (req : Request)
    (hhost : ∀ name, req.destination = .host name → IsHostName name) :
    routeTarget geo (renderSingbox settings value port (entries.map Any.map) rules) req =
      if routeRejects (sourceBlacklistRouteRules rules) req then .reject
      else policyTarget libs geo (if entries = [] then "direct" else "subscription") policy req := by
  generalize hproxy : (if entries = [] then "direct" else "subscription") = proxy
  have hroute : ∀ (log : Any) (inbounds outbounds : List Any) (ruleSets : Any) (items : List Any)
      (final : String) (clashAPI : Fields),
      routeTarget geo (Singbox.document log inbounds outbounds ruleSets (.arr items) (.str final)
        clashAPI) req = (rulesTarget geo req items).getD (.outbound final) :=
    fun _ _ _ _ _ _ _ => rfl
  have hfinal : Target.outbound (if policy.destination.final = "proxy" then proxy else "direct") =
      actionTarget proxy policy.final.toRuleAction := by
    cases hcase : policy.final with
    | proxy => simp [RoutingPolicy.destination, hcase, FinalAction.text, FinalAction.toRuleAction,
        actionTarget]
    | direct => simp [RoutingPolicy.destination, hcase, FinalAction.text, FinalAction.toRuleAction,
        actionTarget]
  rw [renderSingbox_eq settings hparse port hentries rules, hproxy, hroute, rulesTarget_append,
    rulesTarget_access, hfinal]
  split
  · rfl
  · rw [Option.none_or]
    exact routeRules_policy hnormal hscope geo req hhost proxy

/-! ## Accepted bundles -/

/-- A plan has outbounds for the proxy if the policy of its bundle needs them. -/
theorem validateDestinationOutbounds_of_planCandidate {cfg : Agent.Config}
    {monitor : Agent.Libraries} {calls : Agent.PlanCalls} {appliedVersion version : Int}
    {value : Fields} {c : Agent.Candidate}
    (h : Agent.planCandidate cfg monitor calls appliedVersion version value = .ok c) :
    validateDestinationOutbounds value c.subscription.outbounds = .ok () := by
  rw [Agent.planCandidate] at h
  obtain ⟨_, -, h⟩ := bind_eq_ok h
  obtain ⟨_, -, h⟩ := bind_eq_ok h
  obtain ⟨_, -, h⟩ := bind_eq_ok h
  obtain ⟨_, -, h⟩ := bind_eq_ok h
  obtain ⟨_, -, h⟩ := bind_eq_ok h
  obtain ⟨_, -, h⟩ := bind_eq_ok h
  obtain ⟨subscription, -, h⟩ := bind_eq_ok h
  obtain ⟨_, -, h⟩ := bind_eq_ok h
  obtain ⟨_, houtbounds, h⟩ := bind_eq_ok h
  obtain ⟨_, -, h⟩ := bind_eq_ok h
  obtain ⟨_, -, h⟩ := bind_eq_ok h
  cases h
  exact Agent.coded_eq_ok houtbounds

/-- A policy that never uses the proxy needs no outbound for it. -/
theorem policyTarget_of_usesProxy {policy : RoutingPolicy} (h : policy.usesProxy = false)
    (libs : Libraries) (geo : Geography) (req : Request) (proxy other : String) :
    policyTarget libs geo proxy policy req = policyTarget libs geo other policy req := by
  rw [RoutingPolicy.usesProxy, Bool.or_eq_false_iff] at h
  have hdecided : ∀ action, decision libs policy.rules (policyDestination req.destination) =
      some action → actionTarget proxy action = actionTarget other action := by
    intro action haction
    obtain ⟨rule, hrule, rfl⟩ := Option.map_eq_some_iff.mp haction
    have hne := List.any_eq_false.mp h.2 rule (List.mem_of_find?_eq_some hrule)
    cases hcase : rule.action with
    | proxy => simp [hcase] at hne
    | direct => rfl
    | reject => rfl
  have hfinal : actionTarget proxy policy.final.toRuleAction =
      actionTarget other policy.final.toRuleAction := by
    cases hcase : policy.final with
    | proxy => simp [hcase] at h
    | direct => rfl
  rw [policyTarget, policyTarget, defaultTarget, defaultTarget, hfinal]
  cases hdecision : decision libs policy.rules (policyDestination req.destination) with
  | none => rfl
  | some action => exact hdecided action hdecision

theorem usesProxy_of_validateDestinationOutbounds {libs : Libraries} {value : Fields}
    {policy : RoutingPolicy} (hcarries : CarriesPolicy libs value policy)
    (hparse : parseDestinationPolicy value = .ok policy.destination)
    (h : validateDestinationOutbounds value [] = .ok ()) : policy.usesProxy = false := by
  have hhas : value.has "routing_policy" = true := by
    rw [Fields.has, hcarries.carried]
    rfl
  have hneeds : ¬ (policy.destination.final = "proxy") ∧
      policy.destination.rules.any (fun rule => rule.action == "proxy") = false := by
    simp only [validateDestinationOutbounds, hparse, hhas, Bool.true_eq_false, ne_eq,
      not_true_eq_false, or_self, if_false] at h
    split at h
    · cases h
    · rename_i hfinal
      split at h
      · cases h
      · rename_i hrules
        exact ⟨hfinal, by simpa using hrules⟩
  rw [RoutingPolicy.usesProxy, Bool.or_eq_false_iff]
  refine ⟨?_, ?_⟩
  · cases hfinal : policy.final with
    | proxy => exact absurd (by rw [RoutingPolicy.destination, hfinal]; rfl) hneeds.1
    | direct => rfl
  · rw [List.any_eq_false]
    intro rule hrule
    have haction := List.any_eq_false.mp hneeds.2 _ (List.mem_map_of_mem hrule)
    cases hcase : rule.action with
    | proxy => simp [RoutingRule.destination, hcase, RuleAction.text] at haction
    | direct => decide
    | reject => decide

/-- The candidate of an accepted bundle that carries a policy, and what its route does. -/
theorem candidate_routeTarget {libs : Libraries} (geo : Geography) {cfg : Agent.Config}
    {monitor : Agent.Libraries} {calls : Agent.PlanCalls} {appliedVersion version : Int}
    {value : Fields} {c : Agent.Candidate} {policy : RoutingPolicy} (req : Request)
    (hplan : Agent.planCandidate cfg monitor calls appliedVersion version value = .ok c)
    (hunscoped : ∀ rule ∈ sourceBlacklistRules value, Unscoped rule)
    (hcarries : CarriesPolicy libs value policy)
    (hhost : ∀ name, req.destination = .host name → IsHostName name) :
    (routeRejects (sourceBlacklistRouteRules c.rules) req = true ↔
      Denied calls.lookup (sourceBlacklistRules value) req) ∧
    routeTarget geo c.config req =
      if routeRejects (sourceBlacklistRouteRules c.rules) req then .reject
      else policyTarget libs geo "subscription" policy req := by
  have hplanned := Agent.planned_of_planCandidate hplan
  obtain ⟨read, hread⟩ := hplanned.policy
  obtain ⟨rfl, hscope⟩ := hcarries.parsed hread
  obtain ⟨entries, hentries, hlist⟩ := Agent.outbounds_of_resolveSubscription hplanned.subscription
  have haccess : Bundle.validateAccessControl value = .ok () := by
    have hvalidated := hplanned.validated
    rw [Bundle.validate] at hvalidated
    obtain ⟨_, -, hvalidated⟩ := bind_eq_ok hvalidated
    obtain ⟨_, -, hvalidated⟩ := bind_eq_ok hvalidated
    obtain ⟨_, haccess, -⟩ := bind_eq_ok hvalidated
    exact haccess
  have hvalid : ∀ rule ∈ sourceBlacklistRules value, ValidRule rule := fun _ hrule =>
    validRule_of_mem_sourceBlacklistRules haccess hrule
  have hresolved := hplanned.rules
  have hrejects := routeRejects_sourceBlacklistRouteRules
    (fun r hr => (validRule_of_mem_resolved hvalid hresolved hr).1)
    (fun r hr => (validRule_of_mem_resolved hvalid hresolved hr).2)
    (fun r hr => unscoped_of_mem_resolved hunscoped hresolved hr) calls.lookup req
  rw [denied_resolved_iff hvalid hresolved req] at hrejects
  refine ⟨hrejects, ?_⟩
  have htarget := routeTarget_renderSingbox cfg.settings hcarries.normal hscope hread c.port hlist
    c.rules geo req hhost
  rw [← hentries, ← hplanned.config] at htarget
  rw [htarget]
  by_cases hempty : entries = []
  · have hneeds := validateDestinationOutbounds_of_planCandidate hplan
    rw [hentries, hempty] at hneeds
    have hunused := usesProxy_of_validateDestinationOutbounds hcarries hread hneeds
    rw [policyTarget_of_usesProxy hunused libs geo req _ "subscription"]
  · rw [if_neg hempty]

/-- In the configuration of every accepted bundle that carries a policy, a denied request is
rejected and every other one leaves as the policy says: what it proxies leaves through the
selector of the subscription, also when the bundle has no subscription at all. -/
theorem routeTarget_planCandidate (libs : Libraries) (geo : Geography) (cfg : Agent.Config)
    (monitor : Agent.Libraries) (calls : Agent.PlanCalls) (appliedVersion version : Int)
    (value : Fields) (c : Agent.Candidate) (policy : RoutingPolicy) (req : Request)
    (hplan : Agent.planCandidate cfg monitor calls appliedVersion version value = .ok c)
    (hunscoped : ∀ rule ∈ sourceBlacklistRules value, Unscoped rule)
    (hcarries : CarriesPolicy libs value policy)
    (hhost : ∀ name, req.destination = .host name → IsHostName name) :
    (Denied calls.lookup (sourceBlacklistRules value) req → routeTarget geo c.config req = .reject) ∧
      (¬ Denied calls.lookup (sourceBlacklistRules value) req →
        routeTarget geo c.config req = policyTarget libs geo "subscription" policy req) := by
  obtain ⟨hrejects, htarget⟩ := candidate_routeTarget geo req hplan hunscoped hcarries hhost
  rw [htarget, ← hrejects]
  exact ⟨fun hdenied => if_pos hdenied, fun hallowed => if_neg hallowed⟩

/-! ## A routed bundle -/

/-- A policy with a rejected and a proxied domain. -/
def routedPolicy : RoutingPolicy :=
  ⟨false, false, .direct,
    [⟨.domainSuffix, "example.com", .reject⟩, ⟨.domainSuffix, "example.org", .proxy⟩]⟩

/-- The site has a subscription, and a blacklist rule for its node. -/
def routedStore : Backend.Store :=
  { Backend.subscribedStore with
    versions := [{ Backend.sampleVersion "version-1" with
      contentHash := "c99d0e1b402828b8f250dd0c9dc6caee169333039f5c215d3ed337ec0c1852b1" }]
    blacklist := [⟨"row-1", "north-a", "destination", "domain", "ads.example.net", true⟩] }

/-- The digests of the subscription and of the bundle. -/
def routedHashes : Bundle.Hashes where
  sha256 bytes :=
    if bytes = Backend.sampleSubscriptionText.toUTF8 then
      [201, 157, 14, 27, 64, 40, 40, 184, 242, 80, 221, 12, 157, 198, 202, 238, 22, 147, 51, 3,
        159, 92, 33, 93, 62, 211, 55, 236, 12, 24, 82, 177]
    else
      [144, 213, 240, 47, 153, 250, 87, 82, 160, 137, 138, 57, 85, 145, 17, 49, 225, 241, 249,
        151, 217, 122, 54, 200, 78, 251, 168, 50, 26, 182, 159, 170]
  hmacSha256 key _ :=
    if key = "0123456789abcdef0123456789abcdef".toUTF8 then
      [218, 235, 28, 86, 85, 164, 208, 202, 168, 43, 201, 150, 142, 98, 229, 255, 221, 255, 37, 52,
        99, 196, 196, 154, 20, 146, 15, 77, 119, 115, 42, 61]
    else []

def routedSettings : Backend.Settings :=
  { Backend.loweringSettings with
    libs := { Backend.loweringSettings.libs with
      jsonLoads := Backend.subscribedSettings.libs.jsonLoads }
    hashes := routedHashes
    bundleHmacSecret := "0123456789abcdef0123456789abcdef" }

def routedDraws : Backend.Draws :=
  { Backend.sampleDraws "a" with
    issuedAt := fun _ => "2025-01-01T00:00:00Z", expiresAt := fun _ => "2030-01-01T00:00:00Z" }

/-- The bundle of the node before it is signed. Its selector is set to the second outbound. -/
def routedFields : Crypto.Dict :=
  [("min_monitor_version", .str "0.8.0"), ("routing_policy", routedPolicy.modelDump),
    ("proxy_selection", .obj [("group", .str "subscription"), ("outbound", .str "edge-b")]),
    ("schema_version", Backend.number 1), ("release_id", .str "release-a"),
    ("desired_version", Backend.number 1), ("site_id", .str "site-north"),
    ("node_id", .str "north-a"), ("shutdown", .bool false),
    ("listen", .obj [("http_port", Backend.number 3128)]),
    ("blacklist", .arr [.obj [("id", .str "row-1"), ("direction", .str "destination"),
      ("kind", .str "domain"), ("pattern", .str "ads.example.net")]]),
    ("access_control", .arr []),
    ("subscription", .obj [("version", Backend.number 1), ("version_id", .str "version-1"),
      ("hash", .str "c99d0e1b402828b8f250dd0c9dc6caee169333039f5c215d3ed337ec0c1852b1"),
      ("format", .str "sing-box"), ("size_bytes", Backend.number 63),
      ("content", .str Backend.sampleSubscriptionText)]),
    ("issued_at", .str "2025-01-01T00:00:00Z"), ("expires_at", .str "2030-01-01T00:00:00Z")]

def routedBundle : Crypto.Dict :=
  Crypto.signBundle routedHashes routedFields routedSettings.bundleHmacSecret

/-- The backend builds the bundle. -/
theorem bundleOf_routedBundle : bundleOf routedSettings routedStore Backend.sampleSite
    Backend.sampleNode 1 routedDraws
    (.obj [("group", .str "subscription"), ("outbound", .str "edge-b")]) routedPolicy.modelDump =
      .ok routedBundle := by
  rfl

/-- The monitor of the node. -/
def routedConfig : Agent.Config := { Agent.sampleConfig with nodeID := "north-a" }

def routedMonitor : Agent.Libraries where
  hashes := routedHashes
  readers :=
    { json := fun text => if text = Backend.sampleSubscriptionText then
        some (decoded Backend.sampleSubscription) else none
      yaml := fun _ => none }

theorem isPlainText_ofList {chars : List Char}
    (h : (chars.all fun c => !isLineSeparator c) = true) :
    isPlainText (String.ofList chars) = true := by
  rw [isPlainText, String.toList_ofList]
  exact h

theorem isPlainFields_routedFields : isPlainFields routedFields = true := by
  simp only [routedFields, routedPolicy, RoutingPolicy.modelDump, RoutingRule.modelDump,
    Backend.number, List.map_cons, List.map_nil, Json.isPlain, isPlainFields, isPlainList,
    Bool.and_eq_true]
  and_intros
  all_goals first
    | exact trivial
    | apply isPlainText_ofList
      decide

theorem isPlain_routedFields : (Json.obj (Crypto.bundleHashInput routedFields)).isPlain = true := by
  rw [Json.isPlain, isPlainFields_iff]
  intro f hf
  exact (isPlainFields_iff _).mp isPlainFields_routedFields f (List.mem_of_mem_filter hf)

theorem verify_routedBundle : Bundle.verify routedMonitor.hashes (decodedFields routedBundle)
    routedConfig.hmacSecret = .ok (Crypto.calculateBundleHash routedHashes routedFields) :=
  Crypto.verify_signBundle_of_plain routedHashes routedFields _ isPlain_routedFields

/-- The monitor plans the bundle, with the two outbounds of the subscription. -/
theorem planCandidate_routedBundle : ∃ c, Agent.planCandidate routedConfig routedMonitor
    Agent.sampleCalls.plan 0 1 (decodedFields routedBundle) = .ok c ∧
      Singbox.subscriptionOutboundTags c.subscription.outbounds = ["edge-a", "edge-b"] := by
  have hplan : (Agent.planCandidate routedConfig routedMonitor Agent.sampleCalls.plan 0 1
      (decodedFields routedBundle)).toOption.any (fun c =>
        Singbox.subscriptionOutboundTags c.subscription.outbounds == ["edge-a", "edge-b"]) = true := by
    rw [Agent.planCandidate, Bundle.validate, verify_routedBundle]
    decide
  obtain ⟨c, hc, htags⟩ := (Option.any_eq_true _ _).mp hplan
  exact ⟨c, Backend.eq_ok_of_toOption hc, beq_iff_eq.mp htags⟩

theorem sourceBlacklistRules_routedBundle : sourceBlacklistRules (decodedFields routedBundle) =
    [⟨"deny", "destination", "domain", "ads.example.net"⟩] := by
  decide

theorem unscoped_routedBundle :
    ∀ rule ∈ sourceBlacklistRules (decodedFields routedBundle), Unscoped rule := by
  rw [sourceBlacklistRules_routedBundle]
  intro rule hrule hkind
  rw [List.mem_singleton.mp hrule] at hkind
  exact absurd hkind (by decide)

/-- A request for a host. -/
def hostRequest (name : String) : Request := ⟨Fin.ofNat _ 0xffffc0000201, .host name⟩

/-- The blacklist denies the hosts of its domain. -/
theorem denied_routedBundle_iff (name : String) :
    Denied Agent.sampleCalls.plan.lookup (sourceBlacklistRules (decodedFields routedBundle))
        (hostRequest name) ↔
      domainSuffixMatches "ads.example.net" name = true := by
  rw [inDomain_iff, sourceBlacklistRules_routedBundle]
  constructor
  · rintro ⟨⟨rule, hrule, -, hmatches⟩, -⟩
    rw [List.mem_singleton.mp hrule] at hmatches
    cases hmatches with
    | source hd => exact absurd hd (by decide)
    | sourceDomain hd => exact absurd hd (by decide)
    | destination hd hr => cases hr
    | destinationDomain hd hk hr h =>
        cases hr
        exact h
  · intro h
    refine ⟨⟨_, List.mem_singleton.mpr rfl, rfl, .destinationDomain rfl rfl rfl h⟩, ?_⟩
    rintro ⟨rule, hrule, haction, -⟩
    rw [List.mem_singleton.mp hrule] at haction
    exact absurd haction (by decide)

theorem carriesPolicy_routedBundle :
    CarriesPolicy routedSettings.libs (decodedFields routedBundle) routedPolicy := by
  refine ⟨fun rule hrule => ?_, rfl⟩
  rcases List.mem_pair.mp hrule with rfl | rfl
  · exact ⟨"example.com", by decide⟩
  · exact ⟨"example.org", by decide⟩

theorem isHostName_routed : ∀ name ∈ ["ads.example.net", "www.Example.com", "mirror.example.org",
    "example.net"], IsHostName name := by
  intro name hname
  simp only [List.mem_cons, List.not_mem_nil, or_false] at hname
  rcases hname with rfl | rfl | rfl | rfl
  all_goals exact ⟨by decide, ⟨by decide +kernel, by decide +kernel, by decide +kernel⟩⟩

theorem routeTarget_planCandidate_sample :
    ∃ c, Agent.planCandidate routedConfig routedMonitor Agent.sampleCalls.plan 0 1
        (decodedFields routedBundle) = .ok c ∧
      routeTarget ⟨fun _ => false, fun _ _ => false⟩ c.config (hostRequest "ads.example.net") =
        .reject ∧
      routeTarget ⟨fun _ => false, fun _ _ => false⟩ c.config (hostRequest "www.Example.com") =
        .reject ∧
      routeTarget ⟨fun _ => false, fun _ _ => false⟩ c.config (hostRequest "mirror.example.org") =
        .outbound "subscription" ∧
      routeTarget ⟨fun _ => false, fun _ _ => false⟩ c.config (hostRequest "example.net") =
        .outbound "direct" := by
  obtain ⟨c, hplan, -⟩ := planCandidate_routedBundle
  have hdecided := fun name hname =>
    routeTarget_planCandidate routedSettings.libs ⟨fun _ => false, fun _ _ => false⟩ routedConfig
      routedMonitor Agent.sampleCalls.plan 0 1 (decodedFields routedBundle) c routedPolicy
      (hostRequest name) hplan unscoped_routedBundle carriesPolicy_routedBundle (by
        rintro other ⟨⟩
        exact isHostName_routed name hname)
  refine ⟨c, hplan, ?_, ?_, ?_, ?_⟩
  · apply (hdecided _ (by decide)).1
    exact (denied_routedBundle_iff _).mpr (by decide)
  · rw [(hdecided _ (by decide)).2 ((denied_routedBundle_iff _).not.mpr (by decide))]
    decide
  · rw [(hdecided _ (by decide)).2 ((denied_routedBundle_iff _).not.mpr (by decide))]
    decide
  · rw [(hdecided _ (by decide)).2 ((denied_routedBundle_iff _).not.mpr (by decide))]
    decide

end Grouproxy.Routing
