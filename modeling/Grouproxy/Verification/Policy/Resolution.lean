import Grouproxy.Verification.Policy.Patterns

/-! # Rules of a bundle and their resolution

An accepted bundle yields valid rules, and resolving source domains keeps the meaning of a
policy: each rule is replaced by rules that together match what it matches.
-/

namespace Grouproxy.Policy

open Text Netip Value Grouproxy.Bundle

/-! ## Rules of a bundle -/

theorem validateBlacklistEntry_spec {raw : Any} (h : validateBlacklistEntry raw = .ok ()) :
    ∃ entry direction kind pattern, raw.asMap? = some entry ∧
      (entry.get "direction").asString? = some direction ∧
      (entry.get "kind").asString? = some kind ∧ (entry.get "pattern").asString? = some pattern ∧
      (direction = "source" ∨ direction = "destination") ∧ pattern ≠ "" ∧
      validatePattern (canonicalKind kind) pattern = .ok () := by
  rw [validateBlacklistEntry] at h
  split at h
  · cases h
  · rename_i entry hentry
    split at h
    · cases h
    · rename_i direction hdirection
      split at h
      · cases h
      · rename_i hd
        split at h
        · rename_i kind pattern hkind hpattern
          split at h
          · cases h
          · rename_i hp
            refine ⟨entry, direction, kind, pattern, hentry, hdirection, hkind, hpattern, ?_, ?_, h⟩
            · tauto
            · tauto
        · cases h

theorem canonicalKind_canonicalKind (kind : String) :
    canonicalKind (canonicalKind kind) = canonicalKind kind := by
  by_cases h : kind = "network"
  · simp [canonicalKind, h]
  · simp [canonicalKind, h]

theorem validRule_of_blacklistRule? {raw : Any} {rule : SourceBlacklistRule}
    (hv : validateBlacklistEntry raw = .ok ()) (h : blacklistRule? raw = some rule) :
    ValidRule rule := by
  obtain ⟨entry, direction, kind, pattern, he, hd, hk, hp, hdir, -, hval⟩ :=
    validateBlacklistEntry_spec hv
  simp only [blacklistRule?, he, hd, hk, hp] at h
  generalize (if stringValue (entry.get "action") = "" then "deny"
    else stringValue (entry.get "action")) = action at h
  by_cases ha : action ≠ "deny" ∧ action ≠ "allow"
  · simp [ha] at h
  · rw [if_neg ha] at h
    cases h
    refine ⟨by tauto, hdir, ?_⟩
    rw [canonicalKind_canonicalKind]
    exact hval

theorem asString?_eq_some {v : Any} {s : String} (h : v.asString? = some s) : v = .str s := by
  cases v with
  | str t => simpa [Any.asString?] using h
  | _ => cases h

theorem validateAccessControlEntry_spec {raw : Any} (h : validateAccessControlEntry raw = .ok ()) :
    ∃ entry kind pattern, raw.asMap? = some entry ∧ entry.get "kind" = .str kind ∧
      entry.get "pattern" = .str pattern ∧
      (stringValue (entry.get "direction") = "source" ∨
        stringValue (entry.get "direction") = "destination") ∧
      validatePattern (canonicalKind kind) pattern = .ok () := by
  rw [validateAccessControlEntry] at h
  split at h
  · cases h
  · rename_i entry hentry
    simp only at h
    split at h
    · cases h
    · split at h
      · cases h
      · rename_i hdir
        have hentry' : validateBlacklistEntry (.map [("direction",
            .str (stringValue (entry.get "direction"))), ("kind", entry.get "kind"),
            ("pattern", entry.get "pattern")]) = .ok () := by
          simp only [validateBlacklistEntries, Any.asArr?, List.length_singleton] at h
          rw [if_neg (by decide)] at h
          exact firstError_eq_ok.mp h _ List.mem_cons_self
        obtain ⟨entry', direction, kind, pattern, he, hd, hk, hp, -, -, hval⟩ :=
          validateBlacklistEntry_spec hentry'
        cases he
        refine ⟨entry, kind, pattern, hentry, asString?_eq_some hk, asString?_eq_some hp, ?_, hval⟩
        tauto

theorem validRule_of_accessControlRule? {raw : Any} {rule : SourceBlacklistRule}
    (hv : validateAccessControlEntry raw = .ok ()) (h : accessControlRule? raw = some rule) :
    ValidRule rule := by
  obtain ⟨entry, kind, pattern, he, hk, hp, hdir, hval⟩ := validateAccessControlEntry_spec hv
  simp only [accessControlRule?, he, hk, hp, stringValue_str] at h
  split at h
  · cases h
  · rename_i ha
    split at h
    · cases h
    · cases h
      exact ⟨by tauto, hdir, hval⟩

theorem validateBlacklistEntries_spec {raw : Any} (h : validateBlacklistEntries raw = .ok ()) :
    ∀ entry ∈ (raw.asArr?).getD [], validateBlacklistEntry entry = .ok () := by
  rw [validateBlacklistEntries] at h
  split at h
  · cases h
  · rename_i entries hentries
    split at h
    · cases h
    · rw [hentries]
      exact firstError_eq_ok.mp h

theorem validateSourceBlacklist_spec {value : Fields} (h : validateSourceBlacklist value = .ok ()) :
    ∀ entry ∈ ((value.get "blacklist").asArr?).getD [], validateBlacklistEntry entry = .ok () := by
  rw [validateSourceBlacklist] at h
  split at h
  · cases h
  · split at h
    · cases h
    · exact validateBlacklistEntries_spec h

theorem validateAccessControl_spec {value : Fields} (h : validateAccessControl value = .ok ()) :
    ∀ entry ∈ ((value.get "access_control").asArr?).getD [],
      validateAccessControlEntry entry = .ok () := by
  rw [validateAccessControl] at h
  split at h
  · rename_i hnil
    simp [hnil, Any.asArr?]
  · split at h
    · cases h
    · rename_i entries hentries
      split at h
      · cases h
      · rw [hentries]
        exact firstError_eq_ok.mp h

/-- Every rule of a bundle with an accepted access policy is valid. -/
theorem validRule_of_mem_sourceBlacklistRules {value : Fields}
    (hc : validateAccessControl value = .ok ()) {rule : SourceBlacklistRule}
    (h : rule ∈ sourceBlacklistRules value) : ValidRule rule := by
  rw [sourceBlacklistRules] at h
  split at h
  · rename_i hcanonical
    have hb : validateSourceBlacklist value = .ok () := by
      rw [isCanonicalSourceBlacklist] at hcanonical
      split at hcanonical
      · assumption
      · cases hcanonical
    rcases List.mem_append.mp (mem_of_mem_distinctBy h) with hmem | hmem
    · obtain ⟨raw, hraw, hrule⟩ := List.mem_filterMap.mp hmem
      exact validRule_of_blacklistRule? (validateSourceBlacklist_spec hb raw hraw) hrule
    · obtain ⟨raw, hraw, hrule⟩ := List.mem_filterMap.mp hmem
      exact validRule_of_accessControlRule? (validateAccessControl_spec hc raw hraw) hrule
  · cases h

/-! ## Keys of rules -/

theorem append_separator_inj {sep : Char} {a b x y : List Char} (ha : sep ∉ a) (hb : sep ∉ b)
    (h : a ++ sep :: x = b ++ sep :: y) : a = b ∧ x = y := by
  induction a generalizing b with
  | nil =>
      cases b with
      | nil =>
          simp only [List.nil_append, List.cons.injEq, true_and] at h
          exact ⟨rfl, h⟩
      | cons d b =>
          simp only [List.nil_append, List.cons_append, List.cons.injEq] at h
          exact absurd (h.1 ▸ List.mem_cons_self) hb
  | cons c a ih =>
      cases b with
      | nil =>
          simp only [List.nil_append, List.cons_append, List.cons.injEq] at h
          exact absurd (h.1 ▸ List.mem_cons_self) ha
      | cons d b =>
          simp only [List.cons_append, List.cons.injEq] at h
          obtain ⟨rfl, h⟩ := h
          obtain ⟨hab, hxy⟩ := ih (fun hm => ha (List.mem_cons_of_mem _ hm))
            (fun hm => hb (List.mem_cons_of_mem _ hm)) h
          exact ⟨by rw [hab], hxy⟩

theorem kind_cases {kind pattern : String} (h : validatePattern (canonicalKind kind) pattern = .ok ()) :
    kind = "ip" ∨ kind = "cidr" ∨ kind = "network" ∨ kind = "domain" := by
  by_contra hno
  simp only [not_or] at hno
  simp [validatePattern, canonicalKind, hno] at h

theorem ruleDirection_cases (rule : SourceBlacklistRule) :
    ruleDirection rule = "source" ∨ ruleDirection rule = "destination" := by
  rw [ruleDirection]
  split
  · exact .inr rfl
  · exact .inl rfl

theorem nul_notMem_action {rule : SourceBlacklistRule} (h : ValidRule rule) :
    '\x00' ∉ rule.action.toList := by
  rcases h.action with ha | ha
  · rw [ha]
    decide
  · rw [ha]
    decide

theorem nul_notMem_ruleDirection (rule : SourceBlacklistRule) :
    '\x00' ∉ (ruleDirection rule).toList := by
  rcases ruleDirection_cases rule with hd | hd
  · rw [hd]
    decide
  · rw [hd]
    decide

theorem nul_notMem_kind {rule : SourceBlacklistRule} (h : ValidRule rule) :
    '\x00' ∉ rule.kind.toList := by
  rcases kind_cases h.pattern with hk | hk | hk | hk
  all_goals
    rw [hk]
    decide

/-- Valid rules with one key agree in all that enforcement reads. -/
theorem eq_of_ruleKey_eq {r s : SourceBlacklistRule} (hr : ValidRule r) (hs : ValidRule s)
    (h : ruleKey r = ruleKey s) :
    r.action = s.action ∧ ruleDirection r = ruleDirection s ∧ r.kind = s.kind ∧
      r.pattern = s.pattern := by
  have hl := congrArg String.toList h
  simp only [ruleKey, String.toList_append, List.append_assoc] at hl
  obtain ⟨ha, hl⟩ := append_separator_inj (nul_notMem_action hr) (nul_notMem_action hs) hl
  obtain ⟨hd, hl⟩ :=
    append_separator_inj (nul_notMem_ruleDirection r) (nul_notMem_ruleDirection s) hl
  obtain ⟨hk, hp⟩ := append_separator_inj (nul_notMem_kind hr) (nul_notMem_kind hs) hl
  exact ⟨String.toList_inj.mp ha, String.toList_inj.mp hd, String.toList_inj.mp hk,
    String.toList_inj.mp hp⟩

/-! ## Resolution -/

/-- One of the rules that replace a rule. -/
def Expands (lookup : Lookup) (rule r : SourceBlacklistRule) : Prop :=
  (isSourceDomain rule = false ∧ r = rule) ∨
    (isSourceDomain rule = true ∧ ∃ addresses, lookup rule.pattern = .ok addresses ∧
      r ∈ resolvedRules rule addresses)

theorem resolveDomain_ok {lookup : Lookup} {rule : SourceBlacklistRule}
    {resolved : List SourceBlacklistRule} (h : resolveDomain lookup rule = .ok resolved) :
    ∃ addresses, lookup rule.pattern = .ok addresses ∧ resolved = resolvedRules rule addresses := by
  rw [resolveDomain] at h
  split at h
  · cases h
  · rename_i addresses hl
    refine ⟨addresses, hl, ?_⟩
    repeat' split at h
    all_goals cases h
    rfl

/-- The loop collects what the rules expand to. -/
theorem mem_resolveLoop {lookup : Lookup} {rules result : List SourceBlacklistRule} {count : Nat}
    (h : resolveLoop lookup count rules = .ok result) (r : SourceBlacklistRule) :
    r ∈ result ↔ ∃ rule ∈ rules, Expands lookup rule r := by
  induction rules generalizing count result with
  | nil =>
      cases h
      simp
  | cons rule rules ih =>
      rw [List.exists_mem_cons_iff]
      cases hdomain : isSourceDomain rule with
      | false =>
          simp only [resolveLoop, hdomain, Bool.false_eq_true, not_false_eq_true, if_true] at h
          split at h
          · cases h
          · rename_i rest hrest
            cases h
            rw [List.mem_cons, ih hrest]
            simp [Expands, hdomain]
      | true =>
          simp only [resolveLoop, hdomain, not_true_eq_false, if_false] at h
          split at h
          · cases h
          · split at h
            · cases h
            · rename_i resolved hresolved
              split at h
              · cases h
              · rename_i rest hrest
                cases h
                obtain ⟨addresses, hl, rfl⟩ := resolveDomain_ok hresolved
                rw [List.mem_append, ih hrest]
                simp [Expands, hdomain, hl]

theorem addr_zone (ip : IP) : ip.addr.zone = "" := unmap_zone rfl

theorem mem_resolvedRules {rule r : SourceBlacklistRule} {addresses : List (Option IP)} :
    r ∈ resolvedRules rule addresses ↔
      ∃ ip, some ip ∈ addresses ∧ r = ⟨rule.action, ruleDirection rule, "ip", ip.addr.toString⟩ := by
  have hmem : ∀ pattern, pattern ∈ resolvedPatterns addresses ↔
      ∃ ip, some ip ∈ addresses ∧ pattern = ip.addr.toString := by
    intro pattern
    rw [resolvedPatterns, mem_distinctBy_id]
    simp [eq_comm]
  simp only [resolvedRules, List.mem_map, hmem]
  constructor
  · rintro ⟨pattern, ⟨ip, hip, rfl⟩, rfl⟩
    exact ⟨ip, hip, rfl⟩
  · rintro ⟨ip, hip, rfl⟩
    exact ⟨_, ⟨ip, hip, rfl⟩, rfl⟩

theorem isSourceDomain_iff {rule : SourceBlacklistRule} :
    isSourceDomain rule = true ↔ rule.kind = "domain" ∧ ruleDirection rule = "source" := by
  simp [isSourceDomain]

/-- What a valid rule expands to is valid and no source domain. -/
theorem validRule_of_expands {lookup : Lookup} {rule r : SourceBlacklistRule}
    (hv : ValidRule rule) (h : Expands lookup rule r) :
    ValidRule r ∧ isSourceDomain r = false := by
  rcases h with ⟨hdomain, rfl⟩ | ⟨-, addresses, -, hr⟩
  · exact ⟨hv, hdomain⟩
  · obtain ⟨ip, -, rfl⟩ := mem_resolvedRules.mp hr
    refine ⟨⟨hv.action, ruleDirection_cases rule, ?_⟩, rfl⟩
    have hc := isCanonicalSourceIP_iff.mpr ⟨ip.addr, rfl⟩
    simp [validatePattern, canonicalKind, hc]

theorem unscoped_of_expands {lookup : Lookup} {rule r : SourceBlacklistRule}
    (hu : Unscoped rule) (h : Expands lookup rule r) : Unscoped r := by
  rcases h with ⟨-, rfl⟩ | ⟨-, addresses, -, hr⟩
  · exact hu
  · obtain ⟨ip, -, rfl⟩ := mem_resolvedRules.mp hr
    intro _ hmem
    exact (percent_mem_toString_iff _).mp hmem (addr_zone ip)

theorem action_of_expands {lookup : Lookup} {rule r : SourceBlacklistRule}
    (h : Expands lookup rule r) : r.action = rule.action := by
  rcases h with ⟨-, rfl⟩ | ⟨-, addresses, -, hr⟩
  · rfl
  · obtain ⟨ip, -, rfl⟩ := mem_resolvedRules.mp hr
    rfl

theorem ruleDirection_of_expands {lookup : Lookup} {rule r : SourceBlacklistRule}
    (h : Expands lookup rule r) : ruleDirection r = ruleDirection rule := by
  rcases h with ⟨-, rfl⟩ | ⟨hdomain, addresses, -, hr⟩
  · rfl
  · obtain ⟨ip, -, rfl⟩ := mem_resolvedRules.mp hr
    rw [(isSourceDomain_iff.mp hdomain).2]
    rfl

theorem matches_resolved_iff {lookup : Lookup} {rule : SourceBlacklistRule} {ip : IP}
    {req : Request} (hd : ruleDirection rule = "source") :
    Matches lookup ⟨rule.action, ruleDirection rule, "ip", ip.addr.toString⟩ req ↔
      ip.addr = req.source.addr := by
  have hdir : ruleDirection ⟨rule.action, ruleDirection rule, "ip", ip.addr.toString⟩ = "source" := by
    rw [hd]
    rfl
  have hkind : canonicalKind "ip" = "ip" := by decide
  constructor
  · intro h
    cases h with
    | source _ h =>
        simp only [hkind, denotes_ip, IP.addr, unmap_unmap] at h
        exact h
    | sourceDomain _ hk => exact absurd hk (by decide : ("ip" : String) ≠ "domain")
    | destination hd' => exact absurd (hdir.symm.trans hd') (by decide)
    | destinationDomain hd' => exact absurd (hdir.symm.trans hd') (by decide)
  · intro h
    refine .source hdir ?_
    simp only [hkind, denotes_ip]
    rw [← h, IP.addr, unmap_unmap]

/-- A rule matches exactly if one of the rules that replace it does. -/
theorem matches_iff_expands {lookup : Lookup} {rule : SourceBlacklistRule} {req : Request} :
    Matches lookup rule req ↔ ∃ r, Expands lookup rule r ∧ Matches lookup r req := by
  cases hdomain : isSourceDomain rule with
  | false => simp [Expands, hdomain]
  | true =>
      obtain ⟨hk, hd⟩ := isSourceDomain_iff.mp hdomain
      have hck : canonicalKind rule.kind = "domain" := by simp [hk, canonicalKind]
      constructor
      · intro h
        cases h with
        | source _ h => simp [Denotes, hck] at h
        | sourceDomain _ _ hl hm h =>
            exact ⟨_, .inr ⟨hdomain, _, hl, mem_resolvedRules.mpr ⟨_, hm, rfl⟩⟩,
              (matches_resolved_iff hd).mpr h⟩
        | destination hd' => exact absurd (hd.symm.trans hd') (by decide)
        | destinationDomain hd' => exact absurd (hd.symm.trans hd') (by decide)
      · rintro ⟨r, ⟨hno, -⟩ | ⟨-, addresses, hl, hr⟩, hm⟩
        · rw [hdomain] at hno
          cases hno
        · obtain ⟨ip, hip, rfl⟩ := mem_resolvedRules.mp hr
          exact .sourceDomain hd hk hl hip ((matches_resolved_iff hd).mp hm)

theorem matches_of_ruleKey_eq {lookup : Lookup} {r s : SourceBlacklistRule} {req : Request}
    (hr : ValidRule r) (hs : ValidRule s) (hkey : ruleKey r = ruleKey s)
    (h : Matches lookup r req) : Matches lookup s req := by
  obtain ⟨-, hd, hk, hp⟩ := eq_of_ruleKey_eq hr hs hkey
  cases h with
  | source hd' h => exact .source (hd ▸ hd') (hk ▸ hp ▸ h)
  | sourceDomain hd' hk' hl hm h => exact .sourceDomain (hd ▸ hd') (hk ▸ hk') (hp ▸ hl) hm h
  | destination hd' hr' h => exact .destination (hd ▸ hd') hr' (hk ▸ hp ▸ h)
  | destinationDomain hd' hk' hr' h => exact .destinationDomain (hd ▸ hd') (hk ▸ hk') hr' (hp ▸ h)

section Resolved

variable {lookup : Lookup} {rules resolved : List SourceBlacklistRule}

theorem exists_resolveLoop (h : resolveSourceBlacklistRules lookup rules = .ok resolved) :
    ∃ result, resolveLoop lookup 0 rules = .ok result ∧
      resolved = dedupeSourceBlacklistRules result := by
  rw [resolveSourceBlacklistRules] at h
  split at h
  · cases h
  · rename_i result hresult
    cases h
    exact ⟨result, hresult, rfl⟩

theorem expands_of_mem_resolved (h : resolveSourceBlacklistRules lookup rules = .ok resolved)
    {r : SourceBlacklistRule} (hr : r ∈ resolved) : ∃ rule ∈ rules, Expands lookup rule r := by
  obtain ⟨result, hloop, rfl⟩ := exists_resolveLoop h
  exact (mem_resolveLoop hloop r).mp (mem_of_mem_distinctBy hr)

/-- Up to its key, every rule that a rule expands to is in the resolved list. -/
theorem exists_mem_resolved (h : resolveSourceBlacklistRules lookup rules = .ok resolved)
    {rule r : SourceBlacklistRule} (hrule : rule ∈ rules) (hr : Expands lookup rule r) :
    ∃ s ∈ resolved, ruleKey s = ruleKey r := by
  obtain ⟨result, hloop, rfl⟩ := exists_resolveLoop h
  rcases exists_mem_distinctBy ruleKey [] ((mem_resolveLoop hloop r).mpr ⟨rule, hrule, hr⟩) with
    hk | hs
  · cases hk
  · exact hs

theorem validRule_of_mem_resolved (hv : ∀ rule ∈ rules, ValidRule rule)
    (h : resolveSourceBlacklistRules lookup rules = .ok resolved) {r : SourceBlacklistRule}
    (hr : r ∈ resolved) : ValidRule r ∧ isSourceDomain r = false := by
  obtain ⟨rule, hrule, hexp⟩ := expands_of_mem_resolved h hr
  exact validRule_of_expands (hv rule hrule) hexp

theorem unscoped_of_mem_resolved (hu : ∀ rule ∈ rules, Unscoped rule)
    (h : resolveSourceBlacklistRules lookup rules = .ok resolved) {r : SourceBlacklistRule}
    (hr : r ∈ resolved) : Unscoped r := by
  obtain ⟨rule, hrule, hexp⟩ := expands_of_mem_resolved h hr
  exact unscoped_of_expands (hu rule hrule) hexp

/-- Among the rules of given actions and directions, resolution keeps what is matched. -/
theorem exists_matches_resolved (hv : ∀ rule ∈ rules, ValidRule rule)
    (h : resolveSourceBlacklistRules lookup rules = .ok resolved) (keep : String → String → Prop)
    (req : Request) :
    (∃ r ∈ resolved, keep r.action (ruleDirection r) ∧ Matches lookup r req) ↔
      ∃ rule ∈ rules, keep rule.action (ruleDirection rule) ∧ Matches lookup rule req := by
  constructor
  · rintro ⟨r, hr, hkeep, hm⟩
    obtain ⟨rule, hrule, hexp⟩ := expands_of_mem_resolved h hr
    rw [action_of_expands hexp, ruleDirection_of_expands hexp] at hkeep
    exact ⟨rule, hrule, hkeep, matches_iff_expands.mpr ⟨r, hexp, hm⟩⟩
  · rintro ⟨rule, hrule, hkeep, hm⟩
    obtain ⟨r, hexp, hm⟩ := matches_iff_expands.mp hm
    obtain ⟨s, hs, hkey⟩ := exists_mem_resolved h hrule hexp
    have hvr := (validRule_of_expands (hv rule hrule) hexp).1
    have hvs := (validRule_of_mem_resolved hv h hs).1
    obtain ⟨ha, hd, -, -⟩ := eq_of_ruleKey_eq hvs hvr hkey
    refine ⟨s, hs, ?_, matches_of_ruleKey_eq hvr hvs hkey.symm hm⟩
    rw [ha, hd, action_of_expands hexp, ruleDirection_of_expands hexp]
    exact hkeep

theorem exists_action_matches_resolved (hv : ∀ rule ∈ rules, ValidRule rule)
    (h : resolveSourceBlacklistRules lookup rules = .ok resolved) (action : String)
    (req : Request) :
    (∃ r ∈ resolved, r.action = action ∧ Matches lookup r req) ↔
      ∃ rule ∈ rules, rule.action = action ∧ Matches lookup rule req :=
  exists_matches_resolved hv h (fun text _ => text = action) req

/-- Resolution keeps the meaning of the policy. -/
theorem denied_resolved_iff (hv : ∀ rule ∈ rules, ValidRule rule)
    (h : resolveSourceBlacklistRules lookup rules = .ok resolved) (req : Request) :
    Denied lookup resolved req ↔ Denied lookup rules req := by
  simp only [Denied, exists_action_matches_resolved hv h]

end Resolved

end Grouproxy.Policy
