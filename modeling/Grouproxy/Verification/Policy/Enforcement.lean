import Grouproxy.Verification.Policy.Resolution

/-! # Enforcement of the access policy

The firewall drops only what the policy denies, and the proxy rejects exactly what it
denies, so that the two engines together enforce the policy.
-/

namespace Grouproxy.Policy

open Text Netip Value Grouproxy.Bundle

/-! ## The chain -/

/-- The line of a firewall rule exists and matches the source. -/
def LineMatches (rule : SourceRule) (source : Addr) : Prop :=
  ∃ family pattern, normalizeSourceRule rule = some (family, pattern) ∧
    family = familyText source ∧ matchesText pattern source = true

theorem findSome?_sourceLine (port : Int) (verdict : Verdict) (rules : List SourceRule)
    (source : Addr) :
    (rules.filterMap (sourceLine port verdict)).findSome? (NftLine.verdict? source port) =
      some verdict ∨
      (rules.filterMap (sourceLine port verdict)).findSome? (NftLine.verdict? source port) = none ∧
        ∀ rule ∈ rules, ¬ LineMatches rule source := by
  induction rules with
  | nil => exact .inr ⟨rfl, by simp⟩
  | cons rule rules ih =>
      cases hn : normalizeSourceRule rule with
      | none =>
          have hno : ¬ LineMatches rule source := by simp [LineMatches, hn]
          simpa [sourceLine, hn, hno] using ih
      | some n =>
          by_cases hm : n.1 = familyText source ∧ matchesText n.2 source = true
          · left
            simp [sourceLine, hn, NftLine.verdict?, hm]
          · have hno : ¬ LineMatches rule source := by
              rintro ⟨family, pattern, heq, hf, hp⟩
              rw [hn] at heq
              cases heq
              exact hm ⟨hf, hp⟩
            have hv : NftLine.verdict? source port (.saddr n.1 n.2 port verdict) = none := by
              simp only [NftLine.verdict?, and_true]
              exact if_neg hm
            simpa [sourceLine, hn, hv, hno] using ih

theorem findSome?_sourceLine_eq_none {port : Int} {verdict : Verdict} {rules : List SourceRule}
    {source : Addr} :
    (rules.filterMap (sourceLine port verdict)).findSome? (NftLine.verdict? source port) = none ↔
      ∀ rule ∈ rules, ¬ LineMatches rule source := by
  constructor
  · intro h
    rcases findSome?_sourceLine port verdict rules source with hs | ⟨-, hs⟩
    · rw [h] at hs
      cases hs
    · exact hs
  · intro h
    rw [List.findSome?_eq_none_iff]
    intro line hline
    obtain ⟨rule, hrule, hl⟩ := List.mem_filterMap.mp hline
    obtain ⟨n, hn, rfl⟩ := Option.map_eq_some_iff.mp hl
    simp only [NftLine.verdict?, and_true]
    exact if_neg fun hm => h rule hrule ⟨n.1, n.2, hn, hm⟩

/-- The chain drops a packet if no allow line matches and the listener is shut down or a
drop line matches. -/
theorem chainVerdict_eq_drop_iff (port : Int) (rules : List SourceRule) (shutdown : Bool)
    (source : IP) :
    chainVerdict (chainLines port rules shutdown) source port = .drop ↔
      (∀ rule ∈ rules, isAllow rule = true → ¬ LineMatches rule source.addr) ∧
        (shutdown = true ∨
          ∃ rule ∈ rules, isAllow rule = false ∧ LineMatches rule source.addr) := by
  have hallow : (∀ rule ∈ rules.filter isAllow, ¬ LineMatches rule source.addr) ↔
      ∀ rule ∈ rules, isAllow rule = true → ¬ LineMatches rule source.addr := by
    simp [List.mem_filter]
  have hdeny : (∀ rule ∈ rules.filter (fun rule => !isAllow rule),
      ¬ LineMatches rule source.addr) ↔
      ¬ ∃ rule ∈ rules, isAllow rule = false ∧ LineMatches rule source.addr := by
    simp [List.mem_filter]
  simp only [chainVerdict, chainLines, List.findSome?_append]
  rcases findSome?_sourceLine port .accept (rules.filter isAllow) source.addr with ha | ⟨ha, hna⟩
  · -- An allow line decides.
    have hno : ¬ ∀ rule ∈ rules, isAllow rule = true → ¬ LineMatches rule source.addr := by
      intro hall
      rw [findSome?_sourceLine_eq_none.mpr (hallow.mpr hall)] at ha
      cases ha
    simp [ha, hno]
  · rw [hallow] at hna
    rcases findSome?_sourceLine port .drop (rules.filter fun rule => !isAllow rule) source.addr
      with hd | ⟨hd, hnd⟩
    · have hex : ∃ rule ∈ rules, isAllow rule = false ∧ LineMatches rule source.addr := by
        by_contra hno
        rw [findSome?_sourceLine_eq_none.mpr (hdeny.mpr hno)] at hd
        cases hd
      simp only [ha, hd, hex, or_true, and_true]
      simpa using hna
    · have hno := hdeny.mp hnd
      cases shutdown with
      | false =>
          simp [ha, hd, hno, NftLine.verdict?]
      | true =>
          simpa [ha, hd, NftLine.verdict?] using hna

theorem isAllow_of_validRule {rule : SourceBlacklistRule} (hv : ValidRule rule) :
    isAllow ⟨rule.action, rule.kind, rule.pattern⟩ = true ↔ rule.action = "allow" := by
  have hallow : toLower (trimSpace "allow") = "allow" := by decide
  have hdeny : toLower (trimSpace "deny") = "deny" := by decide
  rcases hv.action with ha | ha
  · simp [isAllow, ha, hallow]
  · simp [isAllow, ha, hdeny]

theorem canonicalKind_eq_cidr {kind : String} (h : canonicalKind kind = "cidr") :
    kind = "cidr" ∨ kind = "network" := by
  rw [canonicalKind] at h
  split at h
  · rename_i hk
    exact .inr hk
  · exact .inl h

theorem canonicalKind_eq_of_ne {kind k : String} (h : canonicalKind kind = k) (hk : k ≠ "cidr") :
    kind = k := by
  rw [canonicalKind] at h
  split at h
  · exact absurd h.symm hk
  · exact h

theorem nftCanMatchSource_iff {rule : SourceBlacklistRule} :
    nftCanMatchSource rule = true ↔ ruleDirection rule = "source" ∧
      (canonicalKind rule.kind = "ip" ∨ canonicalKind rule.kind = "cidr") := by
  simp [nftCanMatchSource]

/-- A canonical kind gives the same pattern without a zone as the kind of the rule. -/
theorem unscoped_canonicalKind {rule : SourceBlacklistRule} (hu : Unscoped rule)
    (hk : canonicalKind rule.kind = "ip") : '%' ∉ rule.pattern.toList :=
  hu (canonicalKind_eq_of_ne hk (by decide))

/-- The text of a firewall line: the family of the addresses and a text that matches what
the pattern denotes. -/
theorem normalizeSourceRule_spec {rule : SourceBlacklistRule} (hv : ValidRule rule)
    (hu : Unscoped rule) (hn : nftCanMatchSource rule = true) :
    ∃ family pattern,
      normalizeSourceRule ⟨rule.action, rule.kind, rule.pattern⟩ = some (family, pattern) ∧
        ∀ a, (family = familyText a ∧ matchesText pattern a = true) ↔
          Denotes (canonicalKind rule.kind) rule.pattern a := by
  obtain ⟨-, hk⟩ := nftCanMatchSource_iff.mp hn
  rcases address_cases hk hv.pattern (unscoped_canonicalKind hu) with
    ⟨hkind, b, hz, hp⟩ | ⟨hkind, p, hcp, hp⟩
  · refine ⟨_, _, normalizeSourceRule_ip (canonicalKind_eq_of_ne hkind (by decide)) hz hp, ?_⟩
    intro a
    rw [hkind, hp, denotes_ip, matchesText_addr (unmap_zone hz), beq_iff_eq]
    constructor
    · exact And.right
    · intro hsame
      subst hsame
      exact ⟨rfl, rfl⟩
  · refine ⟨_, _, normalizeSourceRule_cidr (canonicalKind_eq_cidr hkind) hcp hp, ?_⟩
    intro a
    rw [hkind, hp, denotes_cidr hcp, matchesText_unmap hcp]
    exact ⟨And.right, fun h => ⟨contains_family h, h⟩⟩

theorem lineMatches_iff {rule : SourceBlacklistRule} (hv : ValidRule rule) (hu : Unscoped rule)
    (hn : nftCanMatchSource rule = true) (a : Addr) :
    LineMatches ⟨rule.action, rule.kind, rule.pattern⟩ a ↔
      Denotes (canonicalKind rule.kind) rule.pattern a := by
  obtain ⟨family, pattern, heq, hm⟩ := normalizeSourceRule_spec hv hu hn
  rw [← hm a]
  constructor
  · rintro ⟨family', pattern', heq', h⟩
    rw [heq] at heq'
    cases heq'
    exact h
  · intro h
    exact ⟨family, pattern, heq, h⟩

theorem mem_nftSourceRules {rules : List SourceBlacklistRule} {r : SourceRule} :
    r ∈ nftSourceRules rules ↔ ∃ rule ∈ rules, nftCanMatchSource rule = true ∧
      (deferDrops rules = true → rule.action = "allow") ∧
        r = ⟨rule.action, rule.kind, rule.pattern⟩ := by
  simp only [nftSourceRules, List.mem_map, List.mem_filter, Bool.and_eq_true, Bool.not_eq_true']
  constructor
  · rintro ⟨rule, ⟨hrule, hn, hd⟩, rfl⟩
    refine ⟨rule, hrule, hn, fun hdefer => ?_, rfl⟩
    simpa [hdefer] using hd
  · rintro ⟨rule, hrule, hn, hd, rfl⟩
    refine ⟨rule, ⟨hrule, hn, ?_⟩, rfl⟩
    cases hdefer : deferDrops rules with
    | false => rfl
    | true => simp [hd hdefer]

/-! ## The route -/

theorem isSuffixOf_dot_iff {domain name : String} :
    ('.' :: domain.toList).isSuffixOf name.toList = true ↔ ∃ sub, name = sub ++ "." ++ domain := by
  rw [List.isSuffixOf_iff_suffix]
  constructor
  · rintro ⟨sub, hsub⟩
    refine ⟨String.ofList sub, String.toList_inj.mp ?_⟩
    simp [← hsub]
  · rintro ⟨sub, hsub⟩
    refine ⟨sub.toList, ?_⟩
    rw [hsub]
    simp

theorem inDomain_iff (domain name : String) :
    domainSuffixMatches domain name = true ↔ InDomain domain name := by
  rw [domainSuffixMatches, InDomain, Bool.or_eq_true, beq_iff_eq, isSuffixOf_dot_iff]

/-- A matcher with one field: alone, inverted and as a reject rule. -/
structure SingleMatcher (req : Request) (m : Fields) (matched : Bool) : Prop where
  default : matchesDefault req m = matched
  invert : matchesDefault req (m.put "invert" (.bool true)) = !matched
  reject : matchesRule req (m.put "action" (.str "reject")) = matched
  action : ((m.put "action" (.str "reject")).get "action").asString? = some "reject"

theorem singleMatcher_source (req : Request) (text : String) :
    SingleMatcher req [("source_ip_cidr", .strs [text])] (sourceMatches req text) := by
  constructor
  · simp [matchesDefault, fieldTexts, Fields.get, Fields.get?, List.lookup_cons, stringSlice,
      boolValue, Any.asBool?]
  · simp [matchesDefault, fieldTexts, Fields.get, Fields.get?, List.lookup_cons, stringSlice,
      boolValue, Any.asBool?, Fields.put]
  · simp [matchesRule, matchesDefault, fieldTexts, Fields.get, Fields.get?, List.lookup_cons,
      stringSlice, boolValue, Any.asBool?, Fields.put, Any.asString?]
  · rfl

theorem singleMatcher_address (req : Request) (text : String) :
    SingleMatcher req [("ip_cidr", .strs [text])] (ipMatches req text) := by
  constructor
  · simp [matchesDefault, fieldTexts, Fields.get, Fields.get?, List.lookup_cons, stringSlice,
      boolValue, Any.asBool?]
  · simp [matchesDefault, fieldTexts, Fields.get, Fields.get?, List.lookup_cons, stringSlice,
      boolValue, Any.asBool?, Fields.put]
  · simp [matchesRule, matchesDefault, fieldTexts, Fields.get, Fields.get?, List.lookup_cons,
      stringSlice, boolValue, Any.asBool?, Fields.put, Any.asString?]
  · rfl

theorem singleMatcher_domain (req : Request) (suffix : String) :
    SingleMatcher req [("domain_suffix", .strs [suffix])] (domainMatches req suffix) := by
  constructor
  · simp [matchesDefault, fieldTexts, Fields.get, Fields.get?, List.lookup_cons, stringSlice,
      boolValue, Any.asBool?]
  · simp [matchesDefault, fieldTexts, Fields.get, Fields.get?, List.lookup_cons, stringSlice,
      boolValue, Any.asBool?, Fields.put]
  · simp [matchesRule, matchesDefault, fieldTexts, Fields.get, Fields.get?, List.lookup_cons,
      stringSlice, boolValue, Any.asBool?, Fields.put, Any.asString?]
  · rfl

theorem matches_source_iff {lookup : Lookup} {rule : SourceBlacklistRule} {req : Request}
    (hd : ruleDirection rule = "source") (hs : isSourceDomain rule = false) :
    Matches lookup rule req ↔ Denotes (canonicalKind rule.kind) rule.pattern req.source.addr := by
  constructor
  · intro h
    cases h with
    | source _ h => exact h
    | sourceDomain _ hk => simp [isSourceDomain, hk, hd] at hs
    | destination hd' => exact absurd (hd.symm.trans hd') (by decide)
    | destinationDomain hd' => exact absurd (hd.symm.trans hd') (by decide)
  · exact .source hd

theorem matches_destination_iff {lookup : Lookup} {rule : SourceBlacklistRule} {req : Request}
    (hd : ruleDirection rule = "destination")
    (hk : canonicalKind rule.kind = "ip" ∨ canonicalKind rule.kind = "cidr") :
    Matches lookup rule req ↔ ∃ ip, req.destination = .address ip ∧
      Denotes (canonicalKind rule.kind) rule.pattern ip.addr := by
  constructor
  · intro h
    cases h with
    | source hd' => exact absurd (hd.symm.trans hd') (by decide)
    | sourceDomain hd' => exact absurd (hd.symm.trans hd') (by decide)
    | destination _ hr h => exact ⟨_, hr, h⟩
    | destinationDomain _ hk' => simp [hk', canonicalKind] at hk
  · rintro ⟨ip, hr, h⟩
    exact .destination hd hr h

theorem matches_domain_iff {lookup : Lookup} {rule : SourceBlacklistRule} {req : Request}
    (hd : ruleDirection rule = "destination") (hk : rule.kind = "domain") :
    Matches lookup rule req ↔ ∃ name, req.destination = .host name ∧
      InDomain rule.pattern name := by
  have hck : canonicalKind rule.kind = "domain" := by simp [hk, canonicalKind]
  constructor
  · intro h
    cases h with
    | source hd' => exact absurd (hd.symm.trans hd') (by decide)
    | sourceDomain hd' => exact absurd (hd.symm.trans hd') (by decide)
    | destination _ _ h => simp [Denotes, hck] at h
    | destinationDomain _ _ hr h => exact ⟨_, hr, h⟩
  · rintro ⟨name, hr, h⟩
    exact .destinationDomain hd hk hr h

theorem sourceMatches_iff {kind pattern : String} (hk : kind = "ip" ∨ kind = "cidr")
    (hv : validatePattern kind pattern = .ok ()) (hu : kind = "ip" → '%' ∉ pattern.toList)
    (req : Request) :
    sourceMatches req (normalizeSourceCIDR pattern) = true ↔
      Denotes kind pattern req.source.addr :=
  matchesText_normalizeSourceCIDR hk hv hu req.source.addr

theorem ipMatches_iff {kind pattern : String} (hk : kind = "ip" ∨ kind = "cidr")
    (hv : validatePattern kind pattern = .ok ()) (hu : kind = "ip" → '%' ∉ pattern.toList)
    (req : Request) :
    ipMatches req (normalizeSourceCIDR pattern) = true ↔
      ∃ ip, req.destination = .address ip ∧ Denotes kind pattern ip.addr := by
  cases hr : req.destination with
  | address ip => simp [ipMatches, hr, matchesText_normalizeSourceCIDR hk hv hu]
  | host name => simp [ipMatches, hr]

theorem domainMatches_iff (req : Request) (domain : String) :
    domainMatches req domain = true ↔
      ∃ name, req.destination = .host name ∧ InDomain domain name := by
  cases hr : req.destination with
  | address ip => simp [domainMatches, hr]
  | host name => simp [domainMatches, hr, inDomain_iff]

/-- The three kinds of a resolved rule. -/
theorem resolved_cases {rule : SourceBlacklistRule} (hv : ValidRule rule)
    (hs : isSourceDomain rule = false) :
    (ruleDirection rule = "source" ∧
      (canonicalKind rule.kind = "ip" ∨ canonicalKind rule.kind = "cidr")) ∨
    (ruleDirection rule = "destination" ∧
      (canonicalKind rule.kind = "ip" ∨ canonicalKind rule.kind = "cidr")) ∨
    (ruleDirection rule = "destination" ∧ rule.kind = "domain") := by
  have haddress : rule.kind ≠ "domain" →
      canonicalKind rule.kind = "ip" ∨ canonicalKind rule.kind = "cidr" := by
    intro hne
    rcases kind_cases hv.pattern with hk | hk | hk | hk
    · exact .inl (by rw [hk]; decide)
    · exact .inr (by rw [hk]; decide)
    · exact .inr (by rw [hk]; decide)
    · exact absurd hk hne
  by_cases hdomain : rule.kind = "domain"
  · rcases ruleDirection_cases rule with hd | hd
    · simp [isSourceDomain, hdomain, hd] at hs
    · exact .inr (.inr ⟨hd, hdomain⟩)
  · rcases ruleDirection_cases rule with hd | hd
    · exact .inl ⟨hd, haddress hdomain⟩
    · exact .inr (.inl ⟨hd, haddress hdomain⟩)

/-- Every resolved rule has a matcher, and it matches what the rule matches. -/
theorem accessMatchFields_spec (lookup : Lookup) {rule : SourceBlacklistRule} (hv : ValidRule rule)
    (hu : Unscoped rule) (hs : isSourceDomain rule = false) (req : Request) :
    ∃ m matched, accessMatchFields rule = some m ∧ SingleMatcher req m matched ∧
      (matched = true ↔ Matches lookup rule req) := by
  have hzone := unscoped_canonicalKind hu
  rcases resolved_cases hv hs with ⟨hd, hk⟩ | ⟨hd, hk⟩ | ⟨hd, hk⟩
  · refine ⟨_, _, ?_, singleMatcher_source req (normalizeSourceCIDR rule.pattern), ?_⟩
    · simp [accessMatchFields, hd, hk]
    · rw [sourceMatches_iff hk hv.pattern hzone, matches_source_iff hd hs]
  · refine ⟨_, _, ?_, singleMatcher_address req (normalizeSourceCIDR rule.pattern), ?_⟩
    · simp [accessMatchFields, hd, hk]
    · rw [ipMatches_iff hk hv.pattern hzone, matches_destination_iff hd hk]
  · refine ⟨_, _, ?_, singleMatcher_domain req rule.pattern, ?_⟩
    · simp [accessMatchFields, hd, hk, canonicalKind]
    · rw [domainMatches_iff, matches_domain_iff hd hk]

theorem routeRejects_iff {rules : List Any} {req : Request}
    (h : ∀ fs : Fields, .map fs ∈ rules → (fs.get "action").asString? = some "reject") :
    routeRejects rules req = true ↔ ∃ fs : Fields, .map fs ∈ rules ∧ matchesRule req fs = true := by
  have hmem : ∀ fs : Fields, fs ∈ rules.filterMap Any.asMap? ↔ Any.map fs ∈ rules := by
    intro fs
    rw [List.mem_filterMap]
    constructor
    · rintro ⟨v, hv, hfs⟩
      cases v with
      | map gs =>
          cases hfs
          exact hv
      | _ => cases hfs
    · intro hfs
      exact ⟨_, hfs, rfl⟩
  rw [routeRejects]
  cases hf : (rules.filterMap Any.asMap?).find? (matchesRule req) with
  | none =>
      have hno := List.find?_eq_none.mp hf
      simp only [Bool.false_eq_true, false_iff, not_exists, not_and]
      intro fs hfs
      exact hno fs ((hmem fs).mpr hfs)
  | some fs =>
      have hfs := (hmem fs).mp (List.mem_of_find?_eq_some hf)
      have hm := List.find?_some hf
      simp only [h fs hfs, beq_self_eq_true, true_iff]
      exact ⟨fs, hfs, hm⟩

theorem subrules_logical (deny : Fields) (allows : List Fields) :
    subrules [("type", .str "logical"), ("mode", .str "and"),
      ("rules", .arr (.map deny :: allows.map fun allow =>
        .map (allow.put "invert" (.bool true)))), ("action", .str "reject")] =
      deny :: allows.map (·.put "invert" (.bool true)) := by
  have hmap : List.filterMap (Any.asMap? ∘ fun allow : Fields =>
      Any.map (allow.put "invert" (.bool true))) allows =
      allows.map (·.put "invert" (.bool true)) := by
    rw [← List.filterMap_eq_map]
    rfl
  simp [subrules, Fields.get, Fields.get?, List.lookup_cons, Any.asArr?, Any.asMap?,
    List.filterMap_map, hmap]

/-- A reject rule matches if its deny matcher does and no exception applies. -/
theorem rejectRule_spec {req : Request} {deny : Fields} {matched : Bool}
    (hd : SingleMatcher req deny matched) (allows : List Fields) :
    ∃ fs : Fields, rejectRule allows deny = .map fs ∧
      (fs.get "action").asString? = some "reject" ∧
      (matchesRule req fs = true ↔ matched = true ∧
        ∀ allow ∈ allows, matchesDefault req (allow.put "invert" (.bool true)) = true) := by
  rw [rejectRule]
  split
  · rename_i hnil
    subst hnil
    refine ⟨_, rfl, hd.action, ?_⟩
    simp [hd.reject]
  · refine ⟨_, rfl, rfl, ?_⟩
    have hand : ∀ fs : Fields, (fs.get "type").asString? = some "logical" →
        (fs.get "mode").asString? = some "and" → fs.get "invert" = .nil →
        (matchesRule req fs = true ↔ ∀ sub ∈ subrules fs, matchesDefault req sub = true) := by
      intro fs ht hm hi
      simp [matchesRule, ht, hm, hi, boolValue, Any.asBool?]
    rw [hand _ rfl rfl rfl, subrules_logical]
    simp [hd.default]

section Resolved

variable {resolved : List SourceBlacklistRule} (hv : ∀ r ∈ resolved, ValidRule r)
  (hs : ∀ r ∈ resolved, isSourceDomain r = false) (hu : ∀ r ∈ resolved, Unscoped r)
include hv hs hu

theorem forall_allowMatchers_iff (lookup : Lookup) (req : Request) :
    (∀ allow ∈ allowMatchers resolved,
      matchesDefault req (allow.put "invert" (.bool true)) = true) ↔
      ¬ ∃ r ∈ resolved, r.action = "allow" ∧ Matches lookup r req := by
  simp only [allowMatchers, List.mem_filterMap, List.mem_filter, beq_iff_eq]
  constructor
  · rintro h ⟨r, hr, ha, hm⟩
    obtain ⟨m, matched, heq, hsm, hiff⟩ :=
      accessMatchFields_spec lookup (hv r hr) (hu r hr) (hs r hr) req
    have hinv := h m ⟨r, ⟨hr, ha⟩, heq⟩
    rw [hsm.invert, hiff.mpr hm] at hinv
    cases hinv
  · rintro h allow ⟨r, ⟨hr, ha⟩, heq⟩
    obtain ⟨m, matched, heq', hsm, hiff⟩ :=
      accessMatchFields_spec lookup (hv r hr) (hu r hr) (hs r hr) req
    rw [heq] at heq'
    cases heq'
    rw [hsm.invert, Bool.not_eq_true']
    by_contra hm
    exact h ⟨r, hr, ha, hiff.mp (by simpa using hm)⟩

/-- The route rejects exactly the denied requests. -/
theorem routeRejects_sourceBlacklistRouteRules (lookup : Lookup) (req : Request) :
    routeRejects (sourceBlacklistRouteRules resolved) req = true ↔ Denied lookup resolved req := by
  have hspec : ∀ deny ∈ denyMatchers resolved, ∃ r ∈ resolved, r.action = "deny" ∧
      ∃ matched, accessMatchFields r = some deny ∧ SingleMatcher req deny matched ∧
        (matched = true ↔ Matches lookup r req) := by
    intro deny hdeny
    simp only [denyMatchers, List.mem_filterMap, List.mem_filter, bne_iff_ne] at hdeny
    obtain ⟨r, ⟨hr, ha⟩, heq⟩ := hdeny
    obtain ⟨m, matched, heq', hsm, hiff⟩ :=
      accessMatchFields_spec lookup (hv r hr) (hu r hr) (hs r hr) req
    rw [heq] at heq'
    cases heq'
    exact ⟨r, hr, (hv r hr).action.resolve_left ha, matched, heq, hsm, hiff⟩
  have hreject : ∀ fs : Fields, .map fs ∈ sourceBlacklistRouteRules resolved →
      (fs.get "action").asString? = some "reject" := by
    intro fs hfs
    obtain ⟨deny, hdeny, heq⟩ := List.mem_map.mp hfs
    obtain ⟨r, -, -, matched, -, hsm, -⟩ := hspec deny hdeny
    obtain ⟨gs, hgs, haction, -⟩ := rejectRule_spec hsm (allowMatchers resolved)
    rw [hgs] at heq
    cases heq
    exact haction
  rw [routeRejects_iff hreject, Denied, ← forall_allowMatchers_iff hv hs hu lookup req]
  constructor
  · rintro ⟨fs, hfs, hm⟩
    obtain ⟨deny, hdeny, heq⟩ := List.mem_map.mp hfs
    obtain ⟨r, hr, ha, matched, -, hsm, hiff⟩ := hspec deny hdeny
    obtain ⟨gs, hgs, -, hgm⟩ := rejectRule_spec hsm (allowMatchers resolved)
    rw [hgs] at heq
    cases heq
    obtain ⟨hmatched, hallow⟩ := hgm.mp hm
    exact ⟨⟨r, hr, ha, hiff.mp hmatched⟩, hallow⟩
  · rintro ⟨⟨r, hr, ha, hm⟩, hallow⟩
    obtain ⟨m, matched, heq, hsm, hiff⟩ :=
      accessMatchFields_spec lookup (hv r hr) (hu r hr) (hs r hr) req
    obtain ⟨gs, hgs, -, hgm⟩ := rejectRule_spec hsm (allowMatchers resolved)
    have hdeny : m ∈ denyMatchers resolved := by
      simp only [denyMatchers, List.mem_filterMap, List.mem_filter, bne_iff_ne]
      exact ⟨r, ⟨hr, by rw [ha]; decide⟩, heq⟩
    exact ⟨gs, List.mem_map.mpr ⟨m, hdeny, hgs⟩, hgm.mpr ⟨hiff.mpr hm, hallow⟩⟩

/-- The firewall drops only denied requests: drops are rendered only if it sees every
allow rule. -/
theorem denied_of_chainVerdict_drop (lookup : Lookup) (port : Int) (req : Request)
    (h : chainVerdict (chainLines port (nftSourceRules resolved) false) req.source port = .drop) :
    Denied lookup resolved req := by
  obtain ⟨hallow, hfalse | ⟨line, hline, hdeny, hm⟩⟩ :=
    (chainVerdict_eq_drop_iff port (nftSourceRules resolved) false req.source).mp h
  · cases hfalse
  obtain ⟨r, hr, hn, hdefer, rfl⟩ := mem_nftSourceRules.mp hline
  have hna : r.action ≠ "allow" := by
    intro ha
    rw [(isAllow_of_validRule (hv r hr)).mpr ha] at hdeny
    cases hdeny
  obtain ⟨hd, -⟩ := nftCanMatchSource_iff.mp hn
  refine ⟨⟨r, hr, (hv r hr).action.resolve_left hna, ?_⟩, ?_⟩
  · rw [matches_source_iff hd (hs r hr), ← lineMatches_iff (hv r hr) (hu r hr) hn]
    exact hm
  · rintro ⟨s, hs', ha, hms⟩
    -- A drop line means that no allow rule is out of sight of the firewall.
    have hsn : nftCanMatchSource s = true := by
      by_contra hno
      exact hna (hdefer (List.any_eq_true.mpr ⟨s, hs', by simp [ha, hno]⟩))
    obtain ⟨hsd, -⟩ := nftCanMatchSource_iff.mp hsn
    refine hallow _ (mem_nftSourceRules.mpr ⟨s, hs', hsn, fun _ => ha, rfl⟩)
      ((isAllow_of_validRule (hv s hs')).mpr ha) ?_
    rw [lineMatches_iff (hv s hs') (hu s hs') hsn]
    exact (matches_source_iff hsd (hs s hs')).mp hms

/-- Together the two engines block exactly the denied requests. -/
theorem blocked_resolved_iff (lookup : Lookup) (port : Int) (req : Request) :
    blocked port resolved req = true ↔ Denied lookup resolved req := by
  rw [blocked, Bool.or_eq_true, beq_iff_eq,
    routeRejects_sourceBlacklistRouteRules hv hs hu lookup req]
  constructor
  · rintro (hdrop | hdenied)
    · exact denied_of_chainVerdict_drop hv hs hu lookup port req hdrop
    · exact hdenied
  · exact .inr

end Resolved

/-- The two engines enforce the policy: a request is blocked exactly if some deny rule
matches it and no allow rule does. -/
theorem blocked_iff_denied (lookup : Lookup) (rules resolved : List SourceBlacklistRule)
    (port : Int) (req : Request) (hv : ∀ rule ∈ rules, ValidRule rule)
    (hu : ∀ rule ∈ rules, Unscoped rule)
    (h : resolveSourceBlacklistRules lookup rules = .ok resolved) :
    blocked port resolved req = true ↔
      (∃ rule ∈ rules, rule.action = "deny" ∧ Matches lookup rule req) ∧
        ¬ ∃ rule ∈ rules, rule.action = "allow" ∧ Matches lookup rule req := by
  have hv' : ∀ r ∈ resolved, ValidRule r := fun r hr => (validRule_of_mem_resolved hv h hr).1
  have hs' : ∀ r ∈ resolved, isSourceDomain r = false := fun r hr =>
    (validRule_of_mem_resolved hv h hr).2
  have hu' : ∀ r ∈ resolved, Unscoped r := fun r hr => unscoped_of_mem_resolved hu h hr
  rw [← Denied, ← denied_resolved_iff hv h req]
  exact blocked_resolved_iff hv' hs' hu' lookup port req

/-- A denied network, a denied source domain and an allowed destination domain. -/
def sampleRules : List SourceBlacklistRule :=
  [⟨"deny", "source", "cidr", "10.0.0.0/8"⟩, ⟨"deny", "source", "domain", "host.example.net"⟩,
    ⟨"allow", "destination", "domain", "example.com"⟩]

def sampleLookup : Lookup
  | "host.example.net" => .ok [some (Fin.ofNat _ 0xffffc0000201), none]
  | _ => .error "no such host"

def sampleResolved : List SourceBlacklistRule :=
  [⟨"deny", "source", "cidr", "10.0.0.0/8"⟩, ⟨"deny", "source", "ip", "192.0.2.1"⟩,
    ⟨"allow", "destination", "domain", "example.com"⟩]

theorem sampleRules_valid : ∀ rule ∈ sampleRules, ValidRule rule := by
  simp only [sampleRules, List.forall_mem_cons, List.not_mem_nil, false_implies, implies_true,
    and_true]
  refine ⟨⟨.inr rfl, .inl rfl, ?_⟩, ⟨.inr rfl, .inl rfl, ?_⟩, ⟨.inl rfl, .inr rfl, ?_⟩⟩
  all_goals decide

theorem sampleRules_resolved :
    resolveSourceBlacklistRules sampleLookup sampleRules = .ok sampleResolved := by
  decide

/-- A client of the resolved domain is blocked, but not on its way to the allowed domain. -/
theorem blocked_iff_denied_sample :
    (blocked 3128 sampleResolved ⟨Fin.ofNat _ 0xffffc0000201, .host "example.org"⟩ = true ↔
      (∃ rule ∈ sampleRules, rule.action = "deny" ∧
        Matches sampleLookup rule ⟨Fin.ofNat _ 0xffffc0000201, .host "example.org"⟩) ∧
      ¬ ∃ rule ∈ sampleRules, rule.action = "allow" ∧
        Matches sampleLookup rule ⟨Fin.ofNat _ 0xffffc0000201, .host "example.org"⟩) ∧
    blocked 3128 sampleResolved ⟨Fin.ofNat _ 0xffffc0000201, .host "example.org"⟩ = true ∧
    blocked 3128 sampleResolved ⟨Fin.ofNat _ 0xffffc0000201, .host "www.Example.com"⟩ = false :=
  ⟨blocked_iff_denied sampleLookup sampleRules sampleResolved 3128 _ sampleRules_valid
    (by simp [sampleRules, Unscoped]) sampleRules_resolved, by decide, by decide⟩

end Grouproxy.Policy
