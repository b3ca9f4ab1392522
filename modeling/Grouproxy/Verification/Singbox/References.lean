import Grouproxy.Verification.Agent.Crash
import Grouproxy.Verification.Backend.RouteTargets

/-! # References inside a configuration

A configuration names outbounds in its groups, its route rules and its final outbound, and rule
sets in its rules. Every name that the monitor writes is defined, and the groups are not circular.
-/

namespace Grouproxy.Singbox

open Text Value Policy Routing

/-! ## Closed configurations -/

def isGroup (entry : Fields) : Bool :=
  (entry.get "type").asString? == some "selector" || (entry.get "type").asString? == some "urltest"

/-- The outbounds that a group names: its members and its default. -/
def groupReferences (entry : Fields) : List String :=
  if isGroup entry then
    stringSlice (entry.get "outbounds") ++ ((entry.get "default").asString?).toList
  else []

/-- Outbounds with new tags, each of which names only outbounds before it. -/
inductive DefinedInOrder : List String → List Fields → Prop where
  | nil (seen : List String) : DefinedInOrder seen []
  | cons {seen : List String} {entry : Fields} {rest : List Fields}
      (fresh : stringValue (entry.get "tag") ∉ seen)
      (references : ∀ tag ∈ groupReferences entry, tag ∈ seen) :
      DefinedInOrder (seen ++ [stringValue (entry.get "tag")]) rest →
      DefinedInOrder seen (entry :: rest)

theorem DefinedInOrder.append {seen : List String} {front back : List Fields}
    (hfront : DefinedInOrder seen front) (hback : DefinedInOrder (seen ++ entryTags front) back) :
    DefinedInOrder seen (front ++ back) := by
  induction hfront with
  | nil seen => simpa [entryTags] using hback
  | cons fresh references _ ih =>
      refine .cons fresh references (ih ?_)
      simpa [entryTags] using hback

theorem DefinedInOrder.nodup {seen : List String} {entries : List Fields}
    (h : DefinedInOrder seen entries) (hseen : seen.Nodup) : (seen ++ entryTags entries).Nodup := by
  induction h with
  | nil seen => simpa [entryTags] using hseen
  | cons fresh _ _ ih =>
      have hnext := ih (List.nodup_append.mpr ⟨hseen, List.nodup_singleton _, fun a ha b hb => by
        rw [List.mem_singleton.mp hb]
        rintro rfl
        exact fresh ha⟩)
      simpa [entryTags] using hnext

def mapsOf (value : Any) : List Fields := (value.asArr?.getD []).filterMap Any.asMap?

/-- Every reference that is written into the configuration is defined in it. -/
structure Closed (config : Fields) : Prop where
  groups : DefinedInOrder [] (mapsOf (config.get "outbounds"))
  rules : ∀ rule ∈ mapsOf ((submap config "route").get "rules"), ruleTarget rule = .reject ∨
    ∃ tag ∈ entryTags (mapsOf (config.get "outbounds")), ruleTarget rule = .outbound tag
  ruleSets : ∀ rule ∈ mapsOf ((submap config "route").get "rules"),
    ∀ tag ∈ stringSlice (rule.get "rule_set"),
      tag ∈ entryTags (mapsOf ((submap config "route").get "rule_set"))
  final : stringValue ((submap config "route").get "final") ∈
    entryTags (mapsOf (config.get "outbounds"))

theorem Closed.nodup_tags {config : Fields} (h : Closed config) :
    (entryTags (mapsOf (config.get "outbounds"))).Nodup := by
  simpa using h.groups.nodup List.nodup_nil

/-! ## Outbounds -/

theorem groupReferences_endpoint {entry : Fields} (h : Endpoint entry) : groupReferences entry = [] := by
  obtain ⟨kind, hkind, hsupported⟩ := h.type
  have hgroup : isGroup entry = false := by
    rw [isGroup, hkind, Bool.or_eq_false_iff]
    have hne : ∀ group ∈ ["selector", "urltest"], kind ≠ group := by
      rintro group hmem rfl
      simp only [List.mem_cons, List.not_mem_nil, or_false] at hmem
      rcases hmem with rfl | rfl
      · exact absurd hsupported (by decide +kernel)
      · exact absurd hsupported (by decide +kernel)
    simp [Any.asString?, hne]
  rw [groupReferences, hgroup]
  rfl

theorem definedInOrder_endpoints {seen : List String} {entries : List Fields}
    (hendpoints : ∀ e ∈ entries, Endpoint e) (hnodup : (seen ++ entryTags entries).Nodup) :
    DefinedInOrder seen entries := by
  induction entries generalizing seen with
  | nil => exact .nil seen
  | cons entry entries ih =>
      have hsplit : seen ++ entryTags (entry :: entries) =
          (seen ++ [stringValue (entry.get "tag")]) ++ entryTags entries := by
        simp [entryTags]
      rw [hsplit] at hnodup
      have hentry := hendpoints entry List.mem_cons_self
      refine .cons ?_ ?_ (ih (fun e he => hendpoints e (List.mem_cons_of_mem _ he)) hnodup)
      · intro hmem
        have hprefix := (List.nodup_append.mp hnodup).1
        exact (List.nodup_append.mp hprefix).2.2 _ hmem _ (List.mem_singleton_self _) rfl
      · rw [groupReferences_endpoint hentry]
        exact fun tag htag => absurd htag List.not_mem_nil

theorem selectedSubscriptionOutbound_mem (value : Fields) {tags : List String} (hne : tags ≠ []) :
    selectedSubscriptionOutbound value tags ∈ subscriptionAutoTag tags :: tags := by
  rw [selectedSubscriptionOutbound, if_neg hne]
  split
  · exact List.mem_cons_self
  · split
    · exact List.mem_cons_self
    · dsimp only
      split
      · rename_i hauto
        rw [hauto]
        exact List.mem_cons_self
      · split
        · rename_i hmem
          exact List.mem_cons_of_mem _ hmem
        · exact List.mem_cons_self

theorem mapsOf_maps (entries : List Fields) : mapsOf (.arr (entries.map Any.map)) = entries := by
  rw [mapsOf, Any.asArr?, Option.getD_some, List.filterMap_map]
  exact List.filterMap_some

/-- The groups behind the endpoints. -/
def subscriptionGroups (value : Fields) (tags : List String) : List Fields :=
  if tags = [] then []
  else [subscriptionAutoGroup (subscriptionAutoTag tags) tags, subscriptionSelector value tags]

def directFields : Fields := [("type", .str "direct"), ("tag", .str "direct")]

theorem mapsOf_renderOutbounds (value : Fields) (entries : List Fields) :
    mapsOf (.arr (renderOutbounds value entries)) =
      [directFields] ++ entries ++ subscriptionGroups value (entryTags entries) := by
  rw [← mapsOf_maps ([directFields] ++ entries ++ subscriptionGroups value (entryTags entries))]
  congr 2
  by_cases hne : entries = []
  · simp [renderOutbounds, hne, subscriptionGroups, entryTags, directFields, directOutbound]
  · simp [renderOutbounds, hne, subscriptionGroups, entryTags, directFields, directOutbound]

theorem stringSlice_strs (texts : List String) : stringSlice (.strs texts) = texts := rfl

/-- Behind the endpoints, the automatic group names the endpoints and the selector names both. -/
theorem definedInOrder_groups (value : Fields) {tags : List String} (hne : tags ≠ [])
    (howned : "direct" ∉ tags ∧ "subscription" ∉ tags) :
    DefinedInOrder ("direct" :: tags) (subscriptionGroups value tags) := by
  obtain ⟨hfree, -⟩ := subscriptionAutoTag_spec tags
  obtain ⟨hsubscription, hdirect⟩ := subscriptionAutoTag_notOwned tags
  have hauto : groupReferences (subscriptionAutoGroup (subscriptionAutoTag tags) tags) = tags := by
    simp [groupReferences, isGroup, subscriptionAutoGroup, Fields.get, Fields.get?, List.lookup_cons,
      Any.asString?, stringSlice_strs]
  have hselector : groupReferences (subscriptionSelector value tags) =
      subscriptionAutoTag tags :: tags ++ [selectedSubscriptionOutbound value tags] := by
    simp [groupReferences, isGroup, subscriptionSelector, Fields.get, Fields.get?, List.lookup_cons,
      Any.asString?, stringSlice_strs]
  rw [subscriptionGroups, if_neg hne]
  refine .cons ?_ ?_ (.cons ?_ ?_ (.nil _))
  · change subscriptionAutoTag tags ∉ "direct" :: tags
    rw [List.mem_cons]
    rintro (hsame | hmem)
    · exact hdirect hsame
    · exact hfree hmem
  · rw [hauto]
    exact fun tag htag => List.mem_cons_of_mem _ htag
  · change "subscription" ∉ "direct" :: tags ++ [subscriptionAutoTag tags]
    rw [List.mem_append, List.mem_cons, List.mem_singleton]
    rintro ((hsame | hmem) | hsame)
    · exact absurd hsame (by decide)
    · exact howned.2 hmem
    · exact hsubscription hsame.symm
  · change ∀ tag ∈ groupReferences (subscriptionSelector value tags),
      tag ∈ "direct" :: tags ++ [subscriptionAutoTag tags]
    have hmembers : ∀ tag ∈ subscriptionAutoTag tags :: tags,
        tag ∈ "direct" :: tags ++ [subscriptionAutoTag tags] := by
      intro tag htag
      rcases List.mem_cons.mp htag with rfl | hmem
      · exact List.mem_append_right _ (List.mem_singleton_self _)
      · exact List.mem_append_left _ (List.mem_cons_of_mem _ hmem)
    rw [hselector]
    intro tag htag
    rcases List.mem_append.mp htag with hmem | hdefault
    · exact hmembers tag hmem
    · rw [List.mem_singleton.mp hdefault]
      exact hmembers _ (selectedSubscriptionOutbound_mem value hne)

theorem definedInOrder_renderOutbounds (value : Fields) {entries : List Fields}
    (h : EndpointList entries) :
    DefinedInOrder [] ([directFields] ++ entries ++ subscriptionGroups value (entryTags entries)) := by
  have howned : "direct" ∉ entryTags entries ∧ "subscription" ∉ entryTags entries := by
    constructor
    · intro hmem
      obtain ⟨entry, hentry, htag⟩ := List.mem_map.mp hmem
      exact (h.endpoints entry hentry).stringValue_tag_ne.2.1 htag
    · intro hmem
      obtain ⟨entry, hentry, htag⟩ := List.mem_map.mp hmem
      exact (h.endpoints entry hentry).stringValue_tag_ne.2.2 htag
  refine .append (.append (.cons (by simp) ?_ (.nil _)) ?_) ?_
  · have hnone : groupReferences directFields = [] := by decide
    rw [hnone]
    exact fun tag htag => absurd htag List.not_mem_nil
  · exact definedInOrder_endpoints h.endpoints (List.nodup_cons.mpr ⟨howned.1, h.nodup⟩)
  · by_cases hne : entryTags entries = []
    · rw [hne]
      exact .nil _
    · have hseen : [] ++ entryTags ([directFields] ++ entries) = "direct" :: entryTags entries := rfl
      rw [hseen]
      exact definedInOrder_groups value hne howned

/-! ## Route rules -/

/-- A route rule whose target and rule sets are defined. -/
structure RuleDefined (tags ruleSets : List String) (rule : Fields) : Prop where
  target : ruleTarget rule = .reject ∨ ∃ tag ∈ tags, ruleTarget rule = .outbound tag
  ruleSets : ∀ tag ∈ stringSlice (rule.get "rule_set"), tag ∈ ruleSets

theorem validateRoutingRule_of_parse {value : Fields} {policy : DestinationPolicy}
    (h : parseDestinationPolicy value = .ok policy) :
    ∀ rule ∈ policy.rules, validateRoutingRule rule = .ok () := by
  rw [parseDestinationPolicy] at h
  split at h
  · cases h
    exact fun rule hrule => absurd hrule List.not_mem_nil
  · split at h
    · cases h
    · rw [validatePolicy] at h
      split at h
      · cases h
      · split at h
        · cases h
        · rename_i hrules
          cases h
          exact firstError_eq_ok.mp hrules

theorem kind_of_validateRoutingRule {rule : DestinationRule} (h : validateRoutingRule rule = .ok ()) :
    rule.kind ∈ ["ip_cidr", "domain", "domain_suffix"] := by
  rw [validateRoutingRule] at h
  split at h
  · cases h
  · split at h
    · rename_i hkind
      rw [hkind]
      decide
    · split at h
      · rename_i hkind
        rcases hkind with hkind | hkind
        · rw [hkind]
          decide
        · rw [hkind]
          decide
      · cases h

theorem ruleDefined_destinationRule {tags ruleSets : List String} {proxy : String}
    (hproxy : proxy ∈ tags) (hdirect : "direct" ∈ tags) {rule : DestinationRule}
    (h : validateRoutingRule rule = .ok ()) :
    ∃ fs : Fields, destinationRule proxy rule = .map fs ∧ RuleDefined tags ruleSets fs := by
  have hkind := kind_of_validateRoutingRule h
  have hne : ∀ key ∈ ["action", "outbound", "rule_set"], key ≠ rule.kind := by
    rintro key hkey rfl
    simp only [List.mem_cons, List.not_mem_nil, or_false] at hkey
    rcases hkey with hkey | hkey | hkey
    all_goals
      rw [hkey] at hkind
      exact absurd hkind (by decide)
  have hnil : ∀ key, Fields.get? [] key = none := fun _ => rfl
  have haction := hne "action" (by decide)
  have houtbound := hne "outbound" (by decide)
  have hset := hne "rule_set" (by decide)
  refine ⟨_, rfl, ?_, ?_⟩
  · by_cases hreject : rule.action = "reject"
    · left
      simp [ruleTarget, Fields.get, Fields.get?_cons, haction, hreject, Any.asString?]
    · right
      by_cases huse : rule.action = "proxy"
      · refine ⟨proxy, hproxy, ?_⟩
        simp [ruleTarget, Fields.get, Fields.get?_cons, haction, houtbound, huse, Any.asString?,
          hnil]
      · refine ⟨"direct", hdirect, ?_⟩
        simp [ruleTarget, Fields.get, Fields.get?_cons, haction, houtbound, hreject, huse,
          Any.asString?, hnil]
  · have hget : Fields.get ((rule.kind, .strs [rule.pattern]) ::
        (if rule.action = "reject" then [("action", Any.str "reject")]
        else if rule.action = "proxy" then [("outbound", .str proxy)]
        else [("outbound", .str "direct")])) "rule_set" = .nil := by
      rw [Fields.get, Fields.get?_cons, if_neg hset]
      split
      · rfl
      · split
        · rfl
        · rfl
    rw [hget]
    exact fun tag htag => absurd htag List.not_mem_nil

/-- The rules of a configuration: access rules, rules of the policy and the two fixed ones. -/
theorem ruleDefined_routeRules {tags : List String} {proxy : String} (hproxy : proxy ∈ tags)
    (hdirect : "direct" ∈ tags) {policy : DestinationPolicy}
    (hpolicy : ∀ rule ∈ policy.rules, validateRoutingRule rule = .ok ())
    (sourceRules : List SourceBlacklistRule) {raw : Any}
    (h : raw ∈ sourceBlacklistRouteRules sourceRules ++ destinationRouteRules policy proxy) :
    ∃ fs : Fields, raw = .map fs ∧ RuleDefined tags [geoIPCNTag, geoSiteCNTag] fs := by
  rcases List.mem_append.mp h with haccess | hdestination
  · obtain ⟨fs, rfl, htarget, hsets, -⟩ := mem_sourceBlacklistRouteRules haccess
    refine ⟨fs, rfl, .inl htarget, ?_⟩
    rw [hsets]
    exact fun tag htag => absurd htag List.not_mem_nil
  · rw [destinationRouteRules, List.mem_append, List.mem_append] at hdestination
    rcases hdestination with (hrule | hprivate) | hcn
    · obtain ⟨rule, hmem, rfl⟩ := List.mem_map.mp hrule
      exact ruleDefined_destinationRule hproxy hdirect (hpolicy rule hmem)
    · split at hprivate
      · refine ⟨_, List.mem_singleton.mp hprivate, .inr ⟨"direct", hdirect, rfl⟩, ?_⟩
        exact fun tag htag => absurd htag List.not_mem_nil
      · cases hprivate
    · split at hcn
      · exact ⟨_, List.mem_singleton.mp hcn, .inr ⟨"direct", hdirect, rfl⟩, fun tag htag => htag⟩
      · cases hcn

/-! ## Configurations -/

theorem closed_renderSingbox (settings : Settings) {value : Fields} {policy : DestinationPolicy}
    (hpolicy : parseDestinationPolicy value = .ok policy) (port : Int) {entries : List Fields}
    (h : EndpointList entries) (sourceRules : List SourceBlacklistRule) :
    Closed (renderSingbox settings value port (entries.map Any.map) sourceRules) := by
  generalize hproxy : (if entries = [] then "direct" else "subscription") = proxy
  have htags : "direct" ∈ entryTags ([directFields] ++ entries ++
      subscriptionGroups value (entryTags entries)) := List.mem_cons_self
  have hproxied : proxy ∈ entryTags ([directFields] ++ entries ++
      subscriptionGroups value (entryTags entries)) := by
    by_cases hne : entries = []
    · rw [if_pos hne] at hproxy
      rw [← hproxy]
      exact htags
    · have htagged : entryTags entries ≠ [] := by simpa [entryTags] using hne
      rw [if_neg hne] at hproxy
      rw [← hproxy, subscriptionGroups, if_neg htagged, entryTags, List.map_append]
      refine List.mem_append_right _ (List.mem_cons_of_mem _ ?_)
      exact List.mem_singleton.mpr rfl
  have hmem : ∀ rules : List Any, ∀ rule ∈ mapsOf (.arr rules), Any.map rule ∈ rules := by
    intro rules rule hrule
    obtain ⟨raw, hraw, hmap⟩ := List.mem_filterMap.mp hrule
    cases raw with
    | map fs =>
        cases hmap
        exact hraw
    | _ => cases hmap
  have hdefined : ∀ rule ∈ mapsOf (.arr (sourceBlacklistRouteRules sourceRules ++
      destinationRouteRules policy proxy)), RuleDefined (entryTags ([directFields] ++ entries ++
        subscriptionGroups value (entryTags entries))) [geoIPCNTag, geoSiteCNTag] rule := by
    intro rule hrule
    obtain ⟨fs, heq, hfs⟩ := ruleDefined_routeRules hproxied htags
      (validateRoutingRule_of_parse hpolicy) sourceRules (hmem _ rule hrule)
    cases heq
    exact hfs
  rw [renderSingbox_eq settings hpolicy port h, hproxy]
  have houtbounds := mapsOf_renderOutbounds value entries
  constructor
  · rw [document_get_outbounds, houtbounds]
    exact definedInOrder_renderOutbounds value h
  · rw [document_get_outbounds, houtbounds]
    exact fun rule hrule => (hdefined rule hrule).target
  · exact fun rule hrule => (hdefined rule hrule).ruleSets
  · rw [document_get_outbounds, houtbounds]
    change stringValue (.str (if policy.final = "proxy" then proxy else "direct")) ∈ _
    rw [stringValue_str]
    split
    · exact hproxied
    · exact htags

/-- Whatever the monitor runs is closed: the configuration of an accepted bundle, and what the
stored configuration becomes when it is brought up to date for any bundle with a readable policy. -/
theorem closed_planCandidate (cfg : Agent.Config) (libs : Agent.Libraries) (calls : Agent.PlanCalls)
    (appliedVersion version : Int) (value : Fields) (c : Agent.Candidate)
    (hplan : Agent.planCandidate cfg libs calls appliedVersion version value = .ok c) :
    Closed c.config ∧ ∀ lastGood policy port sourceRules,
      parseDestinationPolicy lastGood = .ok policy →
      ∃ config, refreshConfig cfg.settings lastGood port sourceRules (jsonTreeFields c.config) =
        .ok config ∧ Closed config := by
  have hplanned := Agent.planned_of_planCandidate hplan
  obtain ⟨planned, hpolicy⟩ := hplanned.policy
  obtain ⟨entries, hentries, hlist⟩ := Agent.outbounds_of_resolveSubscription hplanned.subscription
  rw [hplanned.config, hentries]
  refine ⟨closed_renderSingbox cfg.settings hpolicy c.port hlist c.rules, ?_⟩
  intro lastGood policy port sourceRules hread
  exact ⟨_, refreshConfig_stored cfg.settings hpolicy hread c.port port hlist c.rules sourceRules,
    closed_renderSingbox cfg.settings hread port hlist.jsonTreeFields sourceRules⟩

/-- The configuration of a bundle with a subscription, and what a new start makes of it. -/
theorem closed_planCandidate_sample :
    ∃ c, Agent.planCandidate routedConfig routedMonitor Agent.sampleCalls.plan 0 1
        (Encoding.decodedFields routedBundle) = .ok c ∧
      subscriptionOutboundTags c.subscription.outbounds = ["edge-a", "edge-b"] ∧
      Closed c.config ∧
      ∃ config, refreshConfig routedConfig.settings (Encoding.decodedFields routedBundle)
        c.port [] (jsonTreeFields c.config) = .ok config ∧ Closed config := by
  obtain ⟨c, hplan, htags⟩ := planCandidate_routedBundle
  obtain ⟨hclosed, hrefreshed⟩ := closed_planCandidate routedConfig routedMonitor
    Agent.sampleCalls.plan 0 1 (Encoding.decodedFields routedBundle) c hplan
  obtain ⟨planned, hpolicy⟩ := (Agent.planned_of_planCandidate hplan).policy
  exact ⟨c, hplan, htags, hclosed, hrefreshed _ planned c.port [] hpolicy⟩

end Grouproxy.Singbox
