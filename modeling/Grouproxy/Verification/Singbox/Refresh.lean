import Grouproxy.Verification.Singbox.AutoGroup

/-! # Refreshing a stored configuration

A rendered configuration has a fixed shape, and each pass changes one part of it. Refreshing
what was rendered for one bundle with another bundle gives what is rendered for the other
bundle with the same outbounds; with the same bundle it changes nothing.
-/

namespace Grouproxy.Singbox

open Text Value Policy Routing Subscription

/-! ## Shape of a configuration -/

/-- A configuration with the parts that the passes read and write. -/
def document (log : Any) (inbounds outbounds : List Any) (ruleSets rules final : Any)
    (clashAPI : Fields) : Fields :=
  [("log", log), ("inbounds", .arr inbounds), ("outbounds", .arr outbounds),
    ("route", .map [("rule_set", ruleSets), ("rules", rules), ("final", final)]),
    ("experimental", .map [("clash_api", .map clashAPI)])]

section Document

variable (log : Any) (inbounds outbounds outs : List Any) (ruleSets rules final : Any)
  (clashAPI : Fields)

@[simp] theorem document_get_outbounds :
    (document log inbounds outbounds ruleSets rules final clashAPI).get "outbounds" =
      .arr outbounds := rfl

@[simp] theorem document_get_inbounds :
    (document log inbounds outbounds ruleSets rules final clashAPI).get "inbounds" =
      .arr inbounds := rfl

@[simp] theorem document_get_route :
    (document log inbounds outbounds ruleSets rules final clashAPI).get "route" =
      .map [("rule_set", ruleSets), ("rules", rules), ("final", final)] := rfl

@[simp] theorem document_get_experimental :
    (document log inbounds outbounds ruleSets rules final clashAPI).get "experimental" =
      .map [("clash_api", .map clashAPI)] := rfl

@[simp] theorem document_put_outbounds :
    (document log inbounds outbounds ruleSets rules final clashAPI).put "outbounds" (.arr outs) =
      document log inbounds outs ruleSets rules final clashAPI := by
  simp [document, Fields.put]

@[simp] theorem document_put_inbounds :
    (document log inbounds outbounds ruleSets rules final clashAPI).put "inbounds" (.arr outs) =
      document log outs outbounds ruleSets rules final clashAPI := by
  simp [document, Fields.put]

@[simp] theorem document_put_route (sets rules' final' : Any) :
    (document log inbounds outbounds ruleSets rules final clashAPI).put "route"
      (.map [("rule_set", sets), ("rules", rules'), ("final", final')]) =
      document log inbounds outbounds sets rules' final' clashAPI := by
  simp [document, Fields.put]

@[simp] theorem document_put_experimental (api : Fields) :
    (document log inbounds outbounds ruleSets rules final clashAPI).put "experimental"
      (.map [("clash_api", .map api)]) =
      document log inbounds outbounds ruleSets rules final api := by
  simp [document, Fields.put]

theorem jsonTreeFields_document :
    jsonTreeFields (document log inbounds outbounds ruleSets rules final clashAPI) =
      document (jsonTree log) (inbounds.map jsonTree) (outbounds.map jsonTree) (jsonTree ruleSets)
        (jsonTree rules) (jsonTree final) (jsonTreeFields clashAPI) := by
  simp [document, jsonTreeFields, jsonTree, jsonTreeList_eq_map]

end Document

/-! ## Route, inbound and policy -/

theorem ensureSubscriptionAutoGroup_document {entries : List Fields} (h : EndpointList entries)
    (stored lastGood : Fields) (log : Any) (inbounds : List Any) (ruleSets rules final : Any)
    (clashAPI : Fields) :
    ensureSubscriptionAutoGroup
      (document log inbounds (storedOutbounds stored entries) ruleSets rules final clashAPI)
      lastGood =
      document log inbounds (renderOutbounds lastGood (entries.map jsonTreeFields)) ruleSets rules
        final clashAPI := by
  by_cases hne : entries = []
  · subst hne
    rfl
  · have htags : entryTags entries ≠ [] := by
      simpa [entryTags] using hne
    simp only [ensureSubscriptionAutoGroup, document_get_outbounds, Any.asArr?,
      findLast?_isSelector stored hne, probeableTags_stored h stored hne, htags, if_false]
    rw [updated_outbounds h hne, document_put_outbounds]

theorem hasCNRuleSetDefinitions_localRuleSets (stateDir : String) :
    hasCNRuleSetDefinitions (.arr (localRuleSets stateDir)) = true := by
  simp [hasCNRuleSetDefinitions, Any.asArr?, localRuleSets, localRuleSet, isMapWith, isCNRuleSet,
    Any.asMap?, Fields.get, Fields.get?_cons]

/-- The pass changes at most the rules, which a later pass replaces. -/
theorem ensureRoutingRules_document (log : Any) (inbounds outbounds : List Any) (stateDir : String)
    (rules : List Any) (final : Any) (clashAPI : Fields) :
    ∃ rules', ensureRoutingRules (document log inbounds outbounds (.arr (localRuleSets stateDir))
      (.arr rules) final clashAPI) stateDir =
      document log inbounds outbounds (.arr (localRuleSets stateDir)) (.arr rules') final
        clashAPI := by
  by_cases hdirect : hasCNDirectRule rules = true
  · refine ⟨rules, ?_⟩
    simp [ensureRoutingRules, Any.asMap?, Fields.get, Fields.get?_cons, Any.asArr?, hdirect,
      hasCNRuleSetDefinitions_localRuleSets, document, Fields.put]
  · refine ⟨rules ++ [cnDirectRule], ?_⟩
    simp [ensureRoutingRules, Any.asMap?, Fields.get, Fields.get?_cons, Any.asArr?, hdirect,
      hasCNRuleSetDefinitions_localRuleSets, document, Fields.put]

theorem Endpoint.not_isBlockOutbound {entry : Fields} (h : Endpoint entry) :
    isBlockOutbound entry = false := by
  have hblock : stringValue (entry.get "tag") ≠ "block" := by
    intro htag
    refine h.notOwned ?_
    rw [trimmedTag, htag]
    decide +kernel
  simp [isBlockOutbound, hblock]

theorem renderOutbounds_no_block {entries : List Fields} (h : EndpointList entries)
    (value : Fields) : (renderOutbounds value entries).any (isMapWith isBlockOutbound) = false := by
  rw [List.any_eq_false]
  intro raw hraw
  rw [renderOutbounds, List.mem_append, List.mem_cons] at hraw
  rcases hraw with (hdirect | hentry) | howned
  · rw [hdirect]
    decide +kernel
  · obtain ⟨entry, hmem, rfl⟩ := List.mem_map.mp hentry
    simp [isMapWith, Any.asMap?, (h.endpoints entry hmem).not_isBlockOutbound]
  · split at howned
    · simp at howned
    · rw [List.mem_pair] at howned
      rcases howned with hgroup | hselector
      · rw [hgroup]
        simp [isMapWith, Any.asMap?, isBlockOutbound, subscriptionAutoGroup, Fields.get,
          Fields.get?_cons]
      · rw [hselector]
        simp [isMapWith, Any.asMap?, isBlockOutbound, subscriptionSelector, Fields.get,
          Fields.get?_cons]

theorem ensureSourceBlacklistRules_document (sourceRules : List SourceBlacklistRule) (log : Any)
    (inbounds : List Any) {outbounds : List Any}
    (hblock : outbounds.any (isMapWith isBlockOutbound) = false) (ruleSets : Any)
    (rules : List Any) (final : Any) (clashAPI : Fields) :
    ∃ rules', ensureSourceBlacklistRules
      (document log inbounds outbounds ruleSets (.arr rules) final clashAPI) sourceRules =
      document log inbounds outbounds ruleSets (.arr rules') final clashAPI := by
  have hretired : ∀ rules', removeRetiredDestinationBlockOutbound
      (document log inbounds outbounds ruleSets rules' final clashAPI) =
      document log inbounds outbounds ruleSets rules' final clashAPI := by
    intro rules'
    simp [removeRetiredDestinationBlockOutbound, Any.asArr?, hblock]
  have hput : ∀ rules', Fields.put [("rule_set", ruleSets), ("rules", .arr rules), ("final", final)]
      "rules" (.arr rules') = [("rule_set", ruleSets), ("rules", .arr rules'), ("final", final)] := by
    intro rules'
    simp [Fields.put]
  simp only [ensureSourceBlacklistRules, document_get_route, Any.asMap?]
  split
  · exact ⟨rules, hretired _⟩
  · rename_i stored hstored
    cases hstored
    split
    · rw [hput, document_put_route, hretired]
      exact ⟨_, rfl⟩
    · exact ⟨rules, hretired _⟩

theorem applySingboxIngress_document (port : Int) (shutdown : Bool) (listenAddress : String)
    (log : Any) (inbound : Fields) (rest outbounds : List Any) (ruleSets rules final : Any)
    (clashAPI : Fields) :
    applySingboxIngress (document log (.map inbound :: rest) outbounds ruleSets rules final clashAPI)
      port shutdown listenAddress =
      document log (.map (ingressInbound port shutdown listenAddress inbound) :: rest) outbounds
        ruleSets rules final clashAPI := by
  simp [applySingboxIngress, Any.asArr?]

/-- The stored inbound gets every field that depends on the bundle again. -/
theorem ingressInbound_stored (storedPort port : Int) (storedShutdown shutdown : Bool)
    (listenAddress : String) :
    ingressInbound port shutdown listenAddress (jsonTreeFields
      (ingressInbound storedPort storedShutdown listenAddress (httpInbound storedPort))) =
      ingressInbound port shutdown listenAddress (httpInbound port) := by
  simp [ingressInbound, httpInbound, Fields.put, Fields.delete, jsonTreeFields, jsonTree]

theorem applyDestinationPolicy_document {value : Fields} {policy : DestinationPolicy}
    (hpolicy : parseDestinationPolicy value = .ok policy) (sourceRules : List SourceBlacklistRule)
    (log : Any) (inbounds outbounds : List Any) (ruleSets rules final : Any) (clashAPI : Fields) :
    applyDestinationPolicy (document log inbounds outbounds ruleSets rules final clashAPI) value
      sourceRules =
      .ok (document log inbounds outbounds ruleSets
        (.arr (sourceBlacklistRouteRules sourceRules ++
          destinationRouteRules policy (proxyOutbound outbounds)))
        (.str (if policy.final = "proxy" then proxyOutbound outbounds else "direct"))
        (clashAPI.put "default_mode" (.str "rule"))) := by
  have hroute : ∀ proxy, routeUpdate policy sourceRules proxy
      [("rule_set", ruleSets), ("rules", rules), ("final", final)] =
      [("rule_set", ruleSets),
        ("rules", .arr (sourceBlacklistRouteRules sourceRules ++ destinationRouteRules policy proxy)),
        ("final", .str (if policy.final = "proxy" then proxy else "direct"))] := by
    intro proxy
    simp [routeUpdate, Fields.put]
  have hexperimental : experimentalUpdate [("clash_api", .map clashAPI)] =
      [("clash_api", .map (clashAPI.put "default_mode" (.str "rule")))] := by
    simp [experimentalUpdate, submap, Fields.get, Fields.get?_cons, Any.asMap?, Fields.put]
  simp [applyDestinationPolicy, hpolicy, submap, Any.asMap?, Any.asArr?, hroute, hexperimental]

theorem proxyOutbound_renderOutbounds (value : Fields) (entries : List Fields) :
    proxyOutbound (renderOutbounds value entries) =
      if entries = [] then "direct" else "subscription" := by
  by_cases hne : entries = []
  · subst hne
    simp [proxyOutbound, renderOutbounds, directOutbound, isMapWith, Any.asMap?, Fields.get,
      Fields.get?_cons, Any.asString?]
  · simp [proxyOutbound, renderOutbounds, hne, subscriptionSelector, isMapWith, Any.asMap?,
      Fields.get, Fields.get?_cons, Any.asString?]

/-! ## Refreshing a rendered configuration -/

/-- The rendered configuration in its parts. -/
theorem renderSingbox_eq (settings : Settings) {value : Fields} {policy : DestinationPolicy}
    (hpolicy : parseDestinationPolicy value = .ok policy) (port : Int) {entries : List Fields}
    (h : EndpointList entries) (sourceRules : List SourceBlacklistRule) :
    renderSingbox settings value port (entries.map Any.map) sourceRules =
      document
        (.map [("level", .str "info"), ("output", .str (joinPath settings.stateDir "sing-box.log"))])
        [.map (ingressInbound port (boolValue (value.get "shutdown")) settings.listenAddress
          (httpInbound port))]
        (renderOutbounds value entries) (.arr (localRuleSets settings.stateDir))
        (.arr (sourceBlacklistRouteRules sourceRules ++
          destinationRouteRules policy (if entries = [] then "direct" else "subscription")))
        (.str (if policy.final = "proxy" then (if entries = [] then "direct" else "subscription")
          else "direct"))
        [("external_controller", .str settings.clashAPIListen), ("default_mode", .str "rule")] := by
  rw [renderSingbox, h.taggedOutbounds, ← document, applyDestinationPolicy_document hpolicy]
  simp only [proxyOutbound_renderOutbounds]
  rfl

/-- Refreshing a stored configuration keeps its outbounds and takes all else from the bundle. -/
theorem refreshConfig_stored (settings : Settings) {stored lastGood : Fields}
    {storedPolicy policy : DestinationPolicy}
    (hstored : parseDestinationPolicy stored = .ok storedPolicy)
    (hpolicy : parseDestinationPolicy lastGood = .ok policy) (storedPort port : Int)
    {entries : List Fields} (h : EndpointList entries)
    (storedRules sourceRules : List SourceBlacklistRule) :
    refreshConfig settings lastGood port sourceRules (jsonTreeFields
      (renderSingbox settings stored storedPort (entries.map Any.map) storedRules)) =
      .ok (renderSingbox settings lastGood port ((entries.map jsonTreeFields).map Any.map)
        sourceRules) := by
  have hsets : jsonTree (.arr (localRuleSets settings.stateDir)) =
      .arr (localRuleSets settings.stateDir) := rfl
  rw [renderSingbox_eq settings hstored storedPort h, jsonTreeFields_document, hsets,
    ← storedOutbounds, refreshConfig, ensureSubscriptionAutoGroup_document h]
  simp only [jsonTree, jsonTreeList_eq_map, List.map_cons, List.map_nil]
  obtain ⟨rules, hrouting⟩ := ensureRoutingRules_document _ _ _ settings.stateDir _ _ _
  rw [hrouting]
  obtain ⟨rules, hsource⟩ := ensureSourceBlacklistRules_document sourceRules _ _
    (renderOutbounds_no_block h.jsonTreeFields lastGood) _ _ _ _
  rw [hsource, applySingboxIngress_document, ingressInbound_stored,
    applyDestinationPolicy_document hpolicy, renderSingbox_eq settings hpolicy port h.jsonTreeFields,
    proxyOutbound_renderOutbounds]
  rfl

theorem renderOutbounds_jsonTree (value : Fields) {entries : List Fields} (h : EndpointList entries) :
    (renderOutbounds value (entries.map jsonTreeFields)).map jsonTree =
      (renderOutbounds value entries).map jsonTree := by
  by_cases hne : entries = []
  · rw [hne, List.map_nil]
  · simp [renderOutbounds, hne, h.entryTags_jsonTreeFields, jsonTree, jsonTreeFields_eq_map,
      Function.comp_def]

/-- As JSON, a configuration does not tell outbounds from the same outbounds read back. -/
theorem jsonTreeFields_renderSingbox (settings : Settings) {value : Fields}
    {policy : DestinationPolicy} (hpolicy : parseDestinationPolicy value = .ok policy) (port : Int)
    {entries : List Fields} (h : EndpointList entries) (sourceRules : List SourceBlacklistRule) :
    jsonTreeFields (renderSingbox settings value port ((entries.map jsonTreeFields).map Any.map)
      sourceRules) =
      jsonTreeFields (renderSingbox settings value port (entries.map Any.map) sourceRules) := by
  rw [renderSingbox_eq settings hpolicy port h, renderSingbox_eq settings hpolicy port
    h.jsonTreeFields, jsonTreeFields_document, jsonTreeFields_document,
    renderOutbounds_jsonTree value h]
  simp only [List.map_eq_nil_iff]

/-- The subscription can be read off the outbounds. -/
theorem entries_of_renderOutbounds {value : Fields} {entries others : List Fields}
    (h : (renderOutbounds value entries).map jsonTree = (renderOutbounds value others).map jsonTree) :
    entries.map jsonTreeFields = others.map jsonTreeFields := by
  have hlength := congrArg List.length h
  simp only [renderOutbounds, List.map_cons, List.map_append, List.cons_append, List.length_cons,
    List.length_append, List.length_map] at hlength
  have hsame : entries.length = others.length := by
    by_cases hentries : entries = []
    · by_cases hothers : others = []
      · rw [hentries, hothers]
      · simp [hentries, hothers] at hlength
    · by_cases hothers : others = []
      · simp [hentries, hothers] at hlength
      · simpa [hentries, hothers] using hlength
  simp only [renderOutbounds, List.map_cons, List.map_append, List.cons_append,
    List.cons.injEq] at h
  exact map_jsonTree_inj.mp (List.append_inj h.2 (by simp [hsame])).1

/-- Two configurations of one bundle are the same document only if their subscriptions are. -/
theorem jsonTreeFields_renderSingbox_inj (settings : Settings) {value : Fields}
    {policy : DestinationPolicy} (hpolicy : parseDestinationPolicy value = .ok policy) (port : Int)
    {entries others : List Fields} (hentries : EndpointList entries) (hothers : EndpointList others)
    (sourceRules : List SourceBlacklistRule) :
    jsonTreeFields (renderSingbox settings value port (entries.map Any.map) sourceRules) =
        jsonTreeFields (renderSingbox settings value port (others.map Any.map) sourceRules) ↔
      entries.map jsonTreeFields = others.map jsonTreeFields := by
  constructor
  · intro h
    rw [renderSingbox_eq settings hpolicy port hentries,
      renderSingbox_eq settings hpolicy port hothers, jsonTreeFields_document,
      jsonTreeFields_document] at h
    have houtbounds := congrArg (fun config : Fields => config.get "outbounds") h
    simp only [document_get_outbounds, Any.arr.injEq] at houtbounds
    exact entries_of_renderOutbounds houtbounds
  · intro h
    rw [← jsonTreeFields_renderSingbox settings hpolicy port hentries, h,
      jsonTreeFields_renderSingbox settings hpolicy port hothers]

/-- Refreshing the stored configuration of a bundle with the same bundle changes nothing. -/
theorem refreshConfig_renderSingbox (settings : Settings) {value : Fields}
    {policy : DestinationPolicy} (hpolicy : parseDestinationPolicy value = .ok policy)
    {outbounds : List Any} (hparse : outbounds = [] ∨
      ∃ readers content format, parse readers content format = .ok outbounds) (port : Int)
    (sourceRules : List SourceBlacklistRule) :
    ∃ config, refreshConfig settings value port sourceRules
        (jsonTreeFields (renderSingbox settings value port outbounds sourceRules)) = .ok config ∧
      jsonTreeFields config =
        jsonTreeFields (renderSingbox settings value port outbounds sourceRules) := by
  have hentries : ∃ entries, outbounds = entries.map Any.map ∧ EndpointList entries := by
    rcases hparse with hnone | ⟨readers, content, format, hparse⟩
    · exact ⟨[], hnone, by simp, by simp [entryTags]⟩
    · obtain ⟨entries, hmap, hlist, -⟩ := endpointList_of_parse hparse
      exact ⟨entries, hmap, hlist⟩
  obtain ⟨entries, rfl, h⟩ := hentries
  exact ⟨_, refreshConfig_stored settings hpolicy hpolicy port port h sourceRules sourceRules,
    jsonTreeFields_renderSingbox settings hpolicy port h sourceRules⟩

/-- A node that has the name of the automatic group. -/
theorem refreshConfig_renderSingbox_sample :
    ∃ config, refreshConfig ⟨"/var/lib/grouproxy", "127.0.0.1:9090", ""⟩
        [("shutdown", .bool true)] 3128 []
        (jsonTreeFields (renderSingbox ⟨"/var/lib/grouproxy", "127.0.0.1:9090", ""⟩
          [("shutdown", .bool true)] 3128
          [.map [("type", .str "socks"), ("tag", .str "auto")]] [])) = .ok config ∧
      jsonTreeFields config =
        jsonTreeFields (renderSingbox ⟨"/var/lib/grouproxy", "127.0.0.1:9090", ""⟩
          [("shutdown", .bool true)] 3128
          [.map [("type", .str "socks"), ("tag", .str "auto")]] []) := by
  refine @refreshConfig_renderSingbox _ _ defaultPolicy rfl _ (.inr ?_) _ _
  refine ⟨⟨fun _ => some (.arr [.map [("type", .str "socks"), ("tag", .str "auto")]]),
    fun _ => none⟩, "[\x7b\"type\":\"socks\",\"tag\":\"auto\"\x7d]", "sing-box", ?_⟩
  rfl

end Grouproxy.Singbox
