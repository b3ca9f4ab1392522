import Grouproxy.Model.Apply
import Grouproxy.Verification.Backend.Inheritance
import Grouproxy.Verification.Backend.Selections

/-! # The monitor reads the policy that the backend wrote

A bundle with a routing policy is decoded by the monitor. It reads the policy back as it was
validated, and accepts it unless a network has a scope.
-/

namespace Grouproxy.Backend

open Text Netip Ipaddress Value Encoding Crypto Cidr Routing Programs Grouproxy.Bundle Steps

/-! ## The policy as the monitor holds it -/

def RoutingRule.destination (rule : RoutingRule) : DestinationRule :=
  ⟨rule.kind.text, rule.pattern, rule.action.text⟩

def RoutingPolicy.destination (policy : RoutingPolicy) : DestinationPolicy :=
  ⟨"rule", policy.privateDirect, policy.cnDirect, policy.final.text,
    policy.rules.map RoutingRule.destination⟩

/-! ## Decoding -/

theorem sortedFields_rule (kind pattern action : Any) :
    sortedFields [("kind", kind), ("pattern", pattern), ("action", action)] =
      [("action", action), ("kind", kind), ("pattern", pattern)] := by
  have hkeys : byteLe "kind" "pattern" = true ∧ byteLe "kind" "action" = false ∧
      byteLe "pattern" "action" = false := by
    decide
  simp [sortedFields, List.insertionSort, List.orderedInsert, hkeys]

theorem sortedFields_policy (mode privateDirect cnDirect final rules : Any) :
    sortedFields [("mode", mode), ("private_direct", privateDirect), ("cn_direct", cnDirect),
        ("final", final), ("rules", rules)] =
      [("cn_direct", cnDirect), ("final", final), ("mode", mode),
        ("private_direct", privateDirect), ("rules", rules)] := by
  have hkeys : byteLe "final" "rules" = true ∧ byteLe "cn_direct" "final" = true ∧
      byteLe "private_direct" "cn_direct" = false ∧ byteLe "private_direct" "final" = false ∧
      byteLe "private_direct" "rules" = true ∧ byteLe "mode" "cn_direct" = false ∧
      byteLe "mode" "final" = false ∧ byteLe "mode" "private_direct" = true := by
    decide
  simp [sortedFields, List.insertionSort, List.orderedInsert, hkeys]

theorem decodeRule_modelDump (rule : RoutingRule) :
    decodeRule ⟨"", "", ""⟩ (jsonTree (decoded rule.modelDump)) = some rule.destination := by
  have hfields : fieldName? ["kind", "pattern", "action"] "action" = some "action" ∧
      fieldName? ["kind", "pattern", "action"] "kind" = some "kind" ∧
      fieldName? ["kind", "pattern", "action"] "pattern" = some "pattern" := by
    decide
  simp [RoutingRule.modelDump, decoded, decodedFields, jsonTree, jsonTreeFields, decodeRule,
    sortedFields_rule, decodeRuleField, hfields, decodeString, RoutingRule.destination]

theorem decodeRules_modelDump (rules : List RoutingRule) :
    decodeRules [] (rules.map fun rule => jsonTree (decoded rule.modelDump)) =
      some (rules.map RoutingRule.destination) := by
  induction rules with
  | nil => rfl
  | cons rule rules ih =>
      rw [List.map_cons, decodeRules, List.headD_nil, decodeRule_modelDump, List.tail_nil, ih]
      rfl

theorem decodePolicy_modelDump (policy : RoutingPolicy) :
    decodePolicy (jsonTree (decoded policy.modelDump)) = some policy.destination := by
  have hnames : let names := ["mode", "private_direct", "cn_direct", "final", "rules"]
      fieldName? names "cn_direct" = some "cn_direct" ∧ fieldName? names "final" = some "final" ∧
        fieldName? names "mode" = some "mode" ∧
        fieldName? names "private_direct" = some "private_direct" ∧
        fieldName? names "rules" = some "rules" := by
    decide
  have htree : jsonTree (decoded policy.modelDump) = .map [("mode", .str "rule"),
      ("private_direct", .bool policy.privateDirect), ("cn_direct", .bool policy.cnDirect),
      ("final", .str policy.final.text),
      ("rules", .arr (policy.rules.map fun rule => jsonTree (decoded rule.modelDump)))] := by
    simp only [RoutingPolicy.modelDump, decoded, decodedFields, decodedList_eq, jsonTree,
      jsonTreeFields, jsonTreeList_eq_map, List.map_map]
    rfl
  have hslice : decodeSlice ⟨[], 0⟩
      (.arr (policy.rules.map fun rule => jsonTree (decoded rule.modelDump))) =
        some ⟨policy.rules.map RoutingRule.destination, policy.rules.length⟩ := by
    rw [decodeSlice, decodeRules_modelDump]
    simp
  rw [htree, decodePolicy, sortedFields_policy]
  simp [decodePolicyField, hnames, decodeString, decodeBool, hslice, RoutingPolicy.destination,
    defaultPolicy, List.take_of_length_le]

/-! ## Checks -/

/-- A network with an IPv6 scope. -/
def RoutingRule.hasScope (rule : RoutingRule) : Bool :=
  rule.kind == .ipCidr && rule.pattern.toList.contains '%'

theorem percent_mem_networkText (p : Prefix) :
    '%' ∈ Ipaddress.networkText p ↔ p.addr.zone ≠ "" := by
  have hdigits : '%' ∉ Nat.toDigits 10 p.bits := by
    intro h
    have hdigit := Nat.isDigit_of_mem_toDigits (by decide) (by decide) h
    cases hdigit
  cases p with
  | mk addr bits =>
      cases addr with
      | v4 n =>
          have htext : '%' ∉ ipv4Text n := by
            intro h
            rcases mem_ipv4Text h with hdigit | hdot
            · cases hdigit
            · cases hdot
          simp [Ipaddress.networkText, addressText, htext, hdigits, Addr.zone]
      | v6 n scope =>
          have htext := percent_notMem_groupsText n
          by_cases hscope : scope = ""
          · simp [Ipaddress.networkText, addressText, htext, hdigits, Addr.zone, zoneText, hscope]
          · simp [Ipaddress.networkText, addressText, Addr.zone, zoneText, hscope]

theorem isRoutingDomain_of_isDomain {name : String} (h : IsDomain name) :
    isRoutingDomain name = .ok () := by
  have hname : String.ofList name.toList = name := String.ofList_toList
  have hsize : name.utf8ByteSize ≤ 253 := by
    rw [← hname, utf8ByteSize_of_ascii fun c hc => toNat_lt_of_hostnameLabels h.labels hc]
    exact h.length
  have hlower : toLower name = name := by
    rw [← hname]
    exact toLower_of_hostnameLabels h.labels
  have haddress : parseAddr name = none := by
    rw [← hname]
    apply parseAddr_of_hostnameLabels h.labels
    rw [hname]
    exact h.notAddress
  have hlabels : (name.toList.splitOn '.').all isCanonicalHostnameLabel = true := by
    rw [List.all_eq_true]
    exact fun label hlabel => isCanonicalHostnameLabel_of_isHostnameLabel (h.labels label hlabel)
  rw [isRoutingDomain, hlower, haddress, if_neg (by simpa using hsize)]
  simp [hlabels]

/-- The monitor takes a rule in normal form, unless its network has a scope. -/
theorem validateRoutingRule_destination {libs : Libraries} {rule : RoutingRule}
    (h : rule.IsNormal libs) :
    validateRoutingRule rule.destination = .ok () ↔ rule.hasScope = false := by
  obtain ⟨value, hvalue⟩ := h
  rcases rule with ⟨kind, pattern, action⟩
  have haction : ¬ (action.text ≠ "direct" ∧ action.text ≠ "proxy" ∧ action.text ≠ "reject") := by
    cases action with
    | direct => decide
    | proxy => decide
    | reject => decide
  rw [validateRoutingRule, RoutingRule.destination, if_neg haction]
  have hdomain : ∀ v, normalizeDomain libs v = some pattern → isRoutingDomain pattern = .ok () :=
    fun v hv => isRoutingDomain_of_isDomain (isDomain_of_normalizeDomain hv)
  cases kind with
  | domain =>
      simp only [normalizePattern] at hvalue
      simp [RuleKind.text, hdomain _ hvalue, RoutingRule.hasScope]
  | domainSuffix =>
      simp only [normalizePattern] at hvalue
      simp [RuleKind.text, hdomain _ hvalue, RoutingRule.hasScope]
  | ipCidr =>
      simp only [normalizePattern] at hvalue
      obtain ⟨network, hnetwork, rfl⟩ := Option.map_eq_some_iff.mp hvalue
      have hread := parsePrefix_networkText network (isNetwork_of_ipNetwork hnetwork).bits
      have hscope := percent_mem_networkText network
      by_cases hzone : network.addr.zone = ""
      · simp [RuleKind.text, hread, hzone, RoutingRule.hasScope, hscope]
      · simp [RuleKind.text, hread, hzone, RoutingRule.hasScope, hscope]

/-! ## Policies -/

theorem validatePolicy_destination {libs : Libraries} {policy : RoutingPolicy}
    (hnormal : policy.IsNormal libs) (hlength : policy.rules.length ≤ 200) :
    validatePolicy policy.destination = .ok policy.destination ↔
      ∀ rule ∈ policy.rules, rule.hasScope = false := by
  have hshape : ¬ (policy.destination.mode ≠ "rule" ∨
      (policy.destination.final ≠ "proxy" ∧ policy.destination.final ≠ "direct") ∨
      200 < policy.destination.rules.length) := by
    have hfinal : policy.final.text = "proxy" ∨ policy.final.text = "direct" := by
      cases policy.final with
      | proxy => exact .inl rfl
      | direct => exact .inr rfl
    simp only [RoutingPolicy.destination, List.length_map]
    rintro (hmode | ⟨hproxy, hdirect⟩ | hlong)
    · exact hmode rfl
    · exact hfinal.elim hproxy hdirect
    · omega
  have hrules : firstError validateRoutingRule policy.destination.rules = .ok () ↔
      ∀ rule ∈ policy.rules, rule.hasScope = false := by
    rw [firstError_eq_ok, RoutingPolicy.destination, List.forall_mem_map]
    constructor
    · intro h rule hrule
      exact (validateRoutingRule_destination (hnormal rule hrule)).mp (h rule hrule)
    · intro h rule hrule
      exact (validateRoutingRule_destination (hnormal rule hrule)).mpr (h rule hrule)
  rw [validatePolicy, if_neg hshape, ← hrules]
  cases firstError validateRoutingRule policy.destination.rules with
  | error e => simp
  | ok u => simp

/-! ## Bundles -/

/-- A bundle keeps the subscription it was built with, and carries a policy that uses the proxy
only together with one. -/
theorem subscription_of_bundleOf {settings : Settings} {s : Store} {site : Site} {node : Node}
    {desiredVersion : Nat} {draws : Draws} {proxySelection routingPolicy : Json} {bundle : Dict}
    {policy : RoutingPolicy}
    (hpolicy : RoutingPolicy.modelValidate settings.libs routingPolicy = some policy)
    (h : bundleOf settings s site node desiredVersion draws proxySelection routingPolicy =
      .ok bundle) :
    (∃ payload, fieldOf bundle "subscription" = some (.obj payload)) ∨
      policy.usesProxy = false := by
  obtain ⟨subscription, unsigned, -, hunsigned, rfl⟩ := bundleOf_ok h
  rw [fieldOf_signBundle _ _ _ (by decide) (by decide)]
  have hnone : isNone routingPolicy = false := by
    cases routingPolicy with
    | null => cases hpolicy
    | _ => rfl
  rw [addRoutingPolicy, if_neg (by simp [hnone]), hpolicy] at hunsigned
  dsimp only at hunsigned
  split at hunsigned
  · cases hunsigned
  · rename_i hproxy
    cases hunsigned
    cases subscription with
    | none => exact .inr (by simpa using hproxy)
    | some payload =>
        left
        refine ⟨payload, ?_⟩
        rw [fieldOf_set_ne _ _ (by decide), fieldOf_set_ne _ _ (by decide),
          fieldOf_addProxySelection_ne _ _ _ _ (by decide) (by decide)]
        rfl

/-- The monitor reads the policy back, and accepts it with the outbounds that it gets from the
subscription of the bundle, wherever the content comes from. -/
structure MonitorAccepts (monitor : Agent.Libraries) (bundle : Dict) (policy : RoutingPolicy) :
    Prop where
  reads : parseDestinationPolicy (decodedFields bundle) = .ok policy.destination
  outbounds : ∀ blob subscription,
    Agent.resolveSubscription monitor blob (decodedFields bundle) = .ok subscription →
      validateDestinationOutbounds (decodedFields bundle) subscription.outbounds = .ok ()

theorem parseDestinationPolicy_of_policyOf {bundle : Dict} {policy : RoutingPolicy}
    (h : policyOf bundle = some policy.modelDump) :
    parseDestinationPolicy (decodedFields bundle) = validatePolicy policy.destination := by
  rw [policyOf] at h
  rw [parseDestinationPolicy, get?_decodedFields, h, Option.map_some]
  dsimp only
  rw [decodePolicy_modelDump]

theorem validateOutbounds_ne_nil {entries outbounds : List Any}
    (h : Subscription.validateOutbounds entries = .ok outbounds) : outbounds ≠ [] := by
  rw [Subscription.validateOutbounds] at h
  split at h
  · cases h
  · split at h
    · cases h
    · cases h
    · rename_i hne _
      cases h
      exact hne

theorem convertEntries_ne_nil {invalid : String} {convert : Nat → Any → Except String Any}
    {entries : Any} {outbounds : List Any}
    (h : Subscription.convertEntries invalid convert entries = .ok outbounds) :
    outbounds ≠ [] := by
  rw [Subscription.convertEntries] at h
  split at h
  · cases h
  · split at h
    · cases h
    · split at h
      · cases h
      · exact validateOutbounds_ne_nil h

/-- A subscription that the monitor reads has an outbound. -/
theorem parse_ne_nil {readers : Subscription.Readers} {content format : String}
    {outbounds : List Any} (h : Subscription.parse readers content format = .ok outbounds) :
    outbounds ≠ [] := by
  rw [Subscription.parse] at h
  split at h
  · rw [Subscription.parseSingbox] at h
    split at h
    · exact validateOutbounds_ne_nil h
    · exact validateOutbounds_ne_nil h
    · cases h
  split at h
  · rw [Subscription.parseSIP008] at h
    split at h
    · cases h
    · exact convertEntries_ne_nil h
  split at h
  · rw [Subscription.parseClash] at h
    split at h
    · cases h
    · exact convertEntries_ne_nil h
  · cases h

theorem resolveSubscription_ne_nil {monitor : Agent.Libraries} {blob : Agent.BlobCall}
    {bundle payload : Dict} {subscription : Agent.ResolvedSubscription}
    (hpayload : fieldOf bundle "subscription" = some (.obj payload))
    (h : Agent.resolveSubscription monitor blob (decodedFields bundle) = .ok subscription) :
    subscription.outbounds ≠ [] := by
  have hget : (decodedFields bundle).get "subscription" = .map (decodedFields payload) := by
    rw [Fields.get, get?_decodedFields, hpayload]
    rfl
  rw [Agent.resolveSubscription, hget] at h
  dsimp only at h
  split at h
  · cases h
  · split at h
    · cases h
    · obtain ⟨content, -, h⟩ := bind_eq_ok h
      obtain ⟨_, -, h⟩ := bind_eq_ok h
      obtain ⟨outbounds, houtbounds, h⟩ := bind_eq_ok h
      cases h
      exact parse_ne_nil houtbounds

/-- A policy without a use of the proxy needs no outbounds. -/
theorem any_proxy_destination {policy : RoutingPolicy} (h : policy.usesProxy = false) :
    policy.destination.final ≠ "proxy" ∧
      policy.destination.rules.any (fun rule => rule.action == "proxy") = false := by
  rw [RoutingPolicy.usesProxy, Bool.or_eq_false_iff] at h
  refine ⟨?_, ?_⟩
  · cases hfinal : policy.final with
    | proxy => simp [hfinal] at h
    | direct => simp [RoutingPolicy.destination, hfinal, FinalAction.text]
  · rw [List.any_eq_false]
    intro rule hrule
    obtain ⟨source, hsource, rfl⟩ := List.mem_map.mp hrule
    have haction := List.any_eq_false.mp h.2 source hsource
    cases hcase : source.action with
    | proxy => simp [hcase] at haction
    | direct => simp [RoutingRule.destination, hcase, RuleAction.text]
    | reject => simp [RoutingRule.destination, hcase, RuleAction.text]

/-- The monitor reads a bundle that was built as the check of its policy says. -/
theorem parseDestinationPolicy_bundle {settings : Settings} {s : Store} {site : Site} {node : Node}
    {desiredVersion : Nat} {draws : Draws} {proxySelection routingPolicy : Json} {bundle : Dict}
    {policy : RoutingPolicy}
    (hpolicy : RoutingPolicy.modelValidate settings.libs routingPolicy = some policy)
    (h : bundleOf settings s site node desiredVersion draws proxySelection routingPolicy =
      .ok bundle) :
    parseDestinationPolicy (decodedFields bundle) = validatePolicy policy.destination := by
  apply parseDestinationPolicy_of_policyOf
  rcases policyOf_bundleOf h with ⟨hnone, -⟩ | ⟨validated, -, hvalidated, hdump⟩
  · cases routingPolicy with
    | null => cases hpolicy
    | _ => cases hnone
  · rw [hpolicy] at hvalidated
    cases hvalidated
    exact hdump

/-- The monitor accepts the policy of a bundle if and only if no network of it has a scope. -/
theorem policyAccepted_iff (settings : Settings) (monitor : Agent.Libraries)
    (name : NodeOp → Label) (s : Store) (site : Site) (node : Node) (desiredVersion : Nat)
    (draws : Draws) (proxySelection routingPolicy : Json) (policy : RoutingPolicy) (bundle : Dict)
    (hpolicy : RoutingPolicy.modelValidate settings.libs routingPolicy = some policy)
    (hbundle : (buildSignedBundle settings name site node desiredVersion draws proxySelection
      routingPolicy).run s = (.ok bundle, s)) :
    MonitorAccepts monitor bundle policy ↔ ∀ rule ∈ policy.rules, rule.hasScope = false := by
  have hbuilt : bundleOf settings s site node desiredVersion draws proxySelection routingPolicy =
      .ok bundle := by
    rw [Prog.run, buildSignedBundle_runWith fun _ _ => rfl] at hbundle
    exact (Prod.mk.inj hbundle).1
  have hparse := parseDestinationPolicy_bundle hpolicy hbuilt
  have hvalid := validatePolicy_destination (modelValidate_isNormal hpolicy)
    (length_rules_of_modelValidate hpolicy)
  constructor
  · intro h
    rw [← hvalid, ← hparse]
    exact h.reads
  · intro h
    have hreads : parseDestinationPolicy (decodedFields bundle) = .ok policy.destination := by
      rw [hparse]
      exact hvalid.mpr h
    refine ⟨hreads, fun blob subscription hresolved => ?_⟩
    rw [validateDestinationOutbounds, hreads]
    rcases subscription_of_bundleOf hpolicy hbuilt with ⟨payload, hpayload⟩ | hproxy
    · have hne := resolveSubscription_ne_nil hpayload hresolved
      simp [hne]
    · obtain ⟨hfinal, hrules⟩ := any_proxy_destination hproxy
      simp [hfinal, hrules]

/-- A policy with one network. -/
def networkPolicy (pattern : String) : Json :=
  .obj [("final", .str "direct"), ("rules", .arr [.obj [("kind", .str "ip_cidr"),
    ("pattern", .str pattern), ("action", .str "direct")]])]

def networkPolicyRead (pattern : String) : RoutingPolicy :=
  ⟨true, true, .direct, [⟨.ipCidr, pattern, .direct⟩]⟩

theorem policyAccepted_iff_sample :
    ∃ bundle, policyBundle (networkPolicy "10.1.2.3/8") = .ok bundle ∧
      MonitorAccepts ⟨sampleSettings.hashes, fun _ => none, fun _ => none⟩ bundle
        (networkPolicyRead "10.0.0.0/8") := by
  obtain ⟨bundle, hbundle⟩ := exists_policyBundle (networkPolicy "10.1.2.3/8")
    (by decide)
  exact ⟨bundle, hbundle, (policyAccepted_iff sampleSettings _ _ sampleStore sampleSite sampleNode 1
    (sampleDraws "a") .null (networkPolicy "10.1.2.3/8") (networkPolicyRead "10.0.0.0/8") bundle
    (by decide) (run_policyBundle hbundle)).mpr (by decide)⟩

/-- A network with a scope is validated, written into the bundle and refused by the monitor. -/
theorem scopedNetwork_refused :
    RoutingPolicy.modelValidate sampleSettings.libs (networkPolicy "fe80::%eth0/64") =
        some (networkPolicyRead "fe80::%eth0/64") ∧
      ∃ bundle, (buildSignedBundle sampleSettings
          (fun op => .desired "site-north" (.node "north-a" op)) sampleSite sampleNode 1
          (sampleDraws "a") .null (networkPolicy "fe80::%eth0/64")).run sampleStore =
            (.ok bundle, sampleStore) ∧
        parseDestinationPolicy (decodedFields bundle) = .error "invalid_routing_cidr" := by
  have hpolicy : RoutingPolicy.modelValidate sampleSettings.libs (networkPolicy "fe80::%eth0/64") =
      some (networkPolicyRead "fe80::%eth0/64") := by
    decide
  obtain ⟨bundle, hbundle⟩ := exists_policyBundle (networkPolicy "fe80::%eth0/64")
    (by decide)
  refine ⟨hpolicy, bundle, run_policyBundle hbundle, ?_⟩
  rw [parseDestinationPolicy_bundle hpolicy hbundle]
  decide

end Grouproxy.Backend
