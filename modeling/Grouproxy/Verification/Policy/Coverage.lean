import Grouproxy.Verification.Policy.Enforcement

/-! # What reaches an engine

Which sources a shut-down listener still accepts, and which accepted rules get no line or
no matcher.
-/

namespace Grouproxy.Policy

open Text Netip Value Grouproxy.Bundle

/-! ## Shutdown -/

/-- The peer with a given address. -/
def Addr.toIP : Addr → IP
  | .v4 n => Fin.ofNat _ (0xffff * 2 ^ 32 + n.val)
  | .v6 n _ => n

theorem addr_toIP {a : Addr} (hz : a.zone = "") (hm : a.unmap = a) : (Addr.toIP a).addr = a := by
  cases a with
  | v4 n =>
      have hn := n.isLt
      have hlt : 0xffff * 2 ^ 32 + n.val < 2 ^ 128 := by omega
      have hhigh : (0xffff * 2 ^ 32 + n.val) / 2 ^ 32 = 0xffff := by omega
      have hlow : (0xffff * 2 ^ 32 + n.val) % 2 ^ 32 = n.val := by omega
      simp only [Addr.toIP, IP.addr, Addr.unmap, Fin.val_ofNat, Nat.mod_eq_of_lt hlt, hhigh,
        if_true]
      congr
      exact Fin.ext hlow
  | v6 n zone =>
      simp only [Addr.zone] at hz
      subst hz
      exact hm

/-- The pattern reads as addresses of one family: an address without a zone, or a network
whose address keeps its family when the host bits are cleared. -/
def isReadable (rule : SourceBlacklistRule) : Bool :=
  if canonicalKind rule.kind = "ip" then (parseIP (trimSpace rule.pattern)).isSome
  else
    match parseCIDR (trimSpace rule.pattern) with
    | some (address, network) => familyText address.unmap == familyText network.unmap.addr
    | none => false

theorem parseIP_spec {s : String} {a : Addr} (h : parseIP s = some a) : a.zone = "" ∧ s ≠ "" := by
  rw [parseIP] at h
  split at h
  · rename_i b hb
    split at h
    · rename_i hz
      cases h
      refine ⟨hz, ?_⟩
      intro hsame
      subst hsame
      cases hb
    · cases h
  · cases h

theorem mask_zone (a : Addr) (bits : Nat) : (a.mask bits).zone = "" := by
  cases a with
  | v4 n => rfl
  | v6 n zone => rfl

theorem mask_bitLen (a : Addr) (bits : Nat) : (a.mask bits).bitLen = a.bitLen := by
  cases a with
  | v4 n => rfl
  | v6 n zone => rfl

theorem parseCIDR_spec {s : String} {a : Addr} {n : Prefix} (h : parseCIDR s = some (a, n)) :
    n.addr.zone = "" ∧ n.bits ≤ n.addr.bitLen ∧ s ≠ "" := by
  rw [parseCIDR] at h
  split at h
  · cases h
  · rename_i c mask hdrop
    split at h
    · rename_i b bits hb hbits
      split at h
      · rename_i hok
        cases h
        refine ⟨mask_zone _ _, ?_, ?_⟩
        · simp only [Prefix.masked, mask_bitLen]
          exact hok.2
        · intro hsame
          subst hsame
          cases hdrop
      · cases h
    · cases h

theorem contains_self {p : Prefix} (hz : p.addr.zone = "") : p.contains p.addr = true := by
  obtain ⟨a, bits⟩ := p
  cases a with
  | v4 n => simp [Prefix.contains]
  | v6 n zone =>
      simp only [Addr.zone] at hz
      simp [Prefix.contains, hz]

theorem firewallKind_cases {rule : SourceBlacklistRule} (h : nftCanMatchSource rule = true) :
    (rule.kind = "ip" ∧ toLower (trimSpace rule.kind) = "ip") ∨
      (canonicalKind rule.kind = "cidr" ∧ toLower (trimSpace rule.kind) ≠ "ip" ∧
        (toLower (trimSpace rule.kind) = "network" ∨ toLower (trimSpace rule.kind) = "cidr")) := by
  obtain ⟨-, hk | hk⟩ := nftCanMatchSource_iff.mp h
  · left
    rw [canonicalKind_eq_of_ne hk (by decide)]
    decide
  · right
    refine ⟨hk, ?_⟩
    rcases canonicalKind_eq_cidr hk with hk | hk
    · rw [hk]
      decide
    · rw [hk]
      decide

/-- A firewall rule has a line that matches some source exactly if its pattern is readable. -/
theorem exists_lineMatches_iff {rule : SourceBlacklistRule} (h : nftCanMatchSource rule = true) :
    (∃ source : IP, LineMatches ⟨rule.action, rule.kind, rule.pattern⟩ source.addr) ↔
      isReadable rule = true := by
  rcases firewallKind_cases h with ⟨hk, hkind⟩ | ⟨hk, hne, hkind⟩
  · have hck : canonicalKind rule.kind = "ip" := by
      rw [hk]
      decide
    simp only [isReadable, hck, if_true]
    cases hp : parseIP (trimSpace rule.pattern) with
    | none => simp [LineMatches, normalizeSourceRule, hkind, hp]
    | some a =>
        obtain ⟨hz, hempty⟩ := parseIP_spec hp
        simp only [Option.isSome_some, iff_true]
        refine ⟨Addr.toIP a.unmap, familyText a.unmap, a.unmap.toString, ?_, ?_, ?_⟩
        · simp only [normalizeSourceRule, hempty, hkind, hp, if_false, if_true]
          cases a.unmap with
          | v4 n => rfl
          | v6 n zone => rfl
        · rw [addr_toIP (unmap_zone hz) (unmap_unmap a)]
        · rw [addr_toIP (unmap_zone hz) (unmap_unmap a), matchesText_addr (unmap_zone hz)]
          exact beq_self_eq_true _
  · have hck : canonicalKind rule.kind ≠ "ip" := by
      rw [hk]
      decide
    simp only [isReadable, hck, if_false]
    cases hp : parseCIDR (trimSpace rule.pattern) with
    | none => simp [LineMatches, normalizeSourceRule, hne, hp]
    | some an =>
        obtain ⟨a, n⟩ := an
        obtain ⟨hz, hb, hempty⟩ := parseCIDR_spec hp
        have hline : normalizeSourceRule ⟨rule.action, rule.kind, rule.pattern⟩ =
            some (familyText a.unmap, n.unmap.toString) := by
          simp only [normalizeSourceRule, hempty, hne, hkind, hp, networkText, if_false, if_true]
          cases a.unmap with
          | v4 n => rfl
          | v6 n zone => rfl
        have hmatch := matchesText_prefix (unmap_addr_zone hz) (unmap_bits_le hb)
        simp only [beq_iff_eq]
        constructor
        · rintro ⟨source, family, pattern, heq, hf, hm⟩
          rw [hline] at heq
          cases heq
          rw [hmatch] at hm
          rw [hf, contains_family hm]
        · intro hfamily
          have hsource : (Addr.toIP n.unmap.addr).addr = n.unmap.addr :=
            addr_toIP (unmap_addr_zone hz) (by rw [unmap_addr, unmap_unmap])
          refine ⟨Addr.toIP n.unmap.addr, _, _, hline, ?_, ?_⟩
          · rw [hsource, hfamily]
          · rw [hsource, hmatch]
            exact contains_self (unmap_addr_zone hz)

/-- A rule that opens a shut-down listener: an allow rule that the firewall renders. -/
def opensListener (rules : List SourceBlacklistRule) (rule : SourceBlacklistRule) : Bool :=
  nftCanMatchSource rule && isAllow ⟨rule.action, rule.kind, rule.pattern⟩ &&
    (!deferDrops rules || rule.action == "allow") && isReadable rule

/-- A shut-down listener accepts no packet exactly if the policy has no allow rule that
the firewall renders. -/
theorem shutdown_blocks_iff (port : Int) (rules : List SourceBlacklistRule) :
    (∀ source : IP,
      chainVerdict (chainLines port (nftSourceRules rules) true) source port ≠ .accept) ↔
      ∀ rule ∈ rules, opensListener rules rule = false := by
  have hverdict : ∀ source : IP,
      chainVerdict (chainLines port (nftSourceRules rules) true) source port ≠ .accept ↔
        ∀ rule ∈ nftSourceRules rules, isAllow rule = true → ¬ LineMatches rule source.addr := by
    intro source
    have hdrop := chainVerdict_eq_drop_iff port (nftSourceRules rules) true source
    simp only [true_or, and_true] at hdrop
    rw [← hdrop]
    cases chainVerdict (chainLines port (nftSourceRules rules) true) source port with
    | accept => simp
    | drop => simp
  simp only [hverdict]
  constructor
  · intro h rule hrule
    by_contra hopen
    simp only [opensListener, Bool.not_eq_false, Bool.and_eq_true, Bool.or_eq_true,
      Bool.not_eq_true', beq_iff_eq] at hopen
    obtain ⟨⟨⟨hn, ha⟩, hdefer⟩, hreadable⟩ := hopen
    obtain ⟨source, hm⟩ := (exists_lineMatches_iff hn).mpr hreadable
    refine h source _ (mem_nftSourceRules.mpr ⟨rule, hrule, hn, ?_, rfl⟩) ha hm
    intro hd
    rcases hdefer with hno | hallow
    · rw [hd] at hno
      cases hno
    · exact hallow
  · intro h source line hline ha hm
    obtain ⟨rule, hrule, hn, hdefer, rfl⟩ := mem_nftSourceRules.mp hline
    have hreadable := (exists_lineMatches_iff hn).mp ⟨source, hm⟩
    have hopen : opensListener rules rule = true := by
      simp only [opensListener, hn, ha, hreadable, Bool.and_true, Bool.true_and]
      cases hd : deferDrops rules with
      | false => rfl
      | true => simp [hdefer hd]
    rw [h rule hrule] at hopen
    cases hopen

/-- An allowed source still reaches the listener of a site that is shut down. -/
theorem shutdown_accepts_allowed_source :
    ¬ ∀ (port : Int) (rules : List SourceBlacklistRule) (source : IP),
      chainVerdict (chainLines port (nftSourceRules rules) true) source port ≠ .accept := by
  intro h
  exact h 3128 [⟨"allow", "source", "ip", "192.0.2.1"⟩] (Fin.ofNat _ 0xffffc0000201)
    (by decide)

/-! ## Rules without a line or a matcher -/

/-- The matcher of a rule: the domain itself, or an address text that denotes what the
pattern denotes. -/
def FaithfulMatcher (rule : SourceBlacklistRule) (m : Fields) : Prop :=
  (rule.kind = "domain" ∧ m = [("domain_suffix", .strs [rule.pattern])]) ∨
    ∃ key text, m = [(key, .strs [text])] ∧
      ((parseAddr text).isSome = true ∨ (parsePrefix text).isSome = true) ∧
      ∀ a, matchesText text a = true ↔ Denotes (canonicalKind rule.kind) rule.pattern a

/-- No rule is lost on its way to the engines. -/
structure FullyEnforced (resolved : List SourceBlacklistRule) : Prop where
  materialized : validateMaterializedSourceRules resolved = .ok ()
  lines : ∀ rule ∈ nftSourceRules resolved, (normalizeSourceRule rule).isSome = true
  matchers : ∀ rule ∈ resolved, ∃ m, accessMatchFields rule = some m ∧ FaithfulMatcher rule m

theorem validateMaterializedRule_eq_ok {rule : SourceBlacklistRule} (hv : ValidRule rule)
    (hu : Unscoped rule) (hs : isSourceDomain rule = false) :
    validateMaterializedRule rule = .ok () := by
  rcases resolved_cases hv hs with ⟨hd, hk⟩ | ⟨hd, hk⟩ | ⟨hd, hk⟩
  · rcases address_cases hk hv.pattern (unscoped_canonicalKind hu) with
      ⟨hck, a, hz, hp⟩ | ⟨hck, p, hcp, hp⟩
    · simp [validateMaterializedRule, hd, hck, hp, parseIP_toString hz]
    · simp [validateMaterializedRule, hd, hck, hp, parseCIDR_toString hcp.zone hcp.bits]
  · rcases address_cases hk hv.pattern (unscoped_canonicalKind hu) with
      ⟨hck, a, hz, hp⟩ | ⟨hck, p, hcp, hp⟩
    · simp [validateMaterializedRule, hd, hck, hp, parseIP_toString hz]
    · simp [validateMaterializedRule, hd, hck, hp, parseCIDR_toString hcp.zone hcp.bits]
  · have hck : canonicalKind rule.kind = "domain" := by simp [hk, canonicalKind]
    have hc : isCanonicalSourceDomain rule.pattern = true := by
      by_contra hno
      have hp := hv.pattern
      simp [validatePattern, hck, hno] at hp
    obtain ⟨htrim, hempty⟩ := trimSpace_domain hc
    have hne : trimSpace rule.pattern ≠ "" := by
      rw [htrim]
      exact hempty
    simp [validateMaterializedRule, hd, hck, hne]

/-- A zone is what the checks of the renderers do not read. -/
theorem unscoped_of_validateMaterializedRule {rule : SourceBlacklistRule} (hv : ValidRule rule)
    (h : validateMaterializedRule rule = .ok ()) : Unscoped rule := by
  intro hk
  have hck : canonicalKind rule.kind = "ip" := by
    rw [hk]
    decide
  have hc : isCanonicalSourceIP rule.pattern = true := by
    by_contra hno
    have hp := hv.pattern
    simp [validatePattern, hck, hno] at hp
  obtain ⟨a, ha⟩ := isCanonicalSourceIP_iff.mp hc
  rw [ha, percent_mem_toString_iff, not_not]
  by_contra hz
  have hnone : parseIP rule.pattern = none := by
    simp [parseIP, ha, parseAddr_toString, hz]
  simp [validateMaterializedRule, hck, hnone] at h

theorem faithfulMatcher_spec {rule : SourceBlacklistRule} (hv : ValidRule rule)
    (hu : Unscoped rule) (hs : isSourceDomain rule = false) :
    ∃ m, accessMatchFields rule = some m ∧ FaithfulMatcher rule m := by
  have htext : (canonicalKind rule.kind = "ip" ∨ canonicalKind rule.kind = "cidr") →
      (parseAddr (normalizeSourceCIDR rule.pattern)).isSome = true ∨
        (parsePrefix (normalizeSourceCIDR rule.pattern)).isSome = true := by
    intro hk
    rcases address_cases hk hv.pattern (unscoped_canonicalKind hu) with
      ⟨-, a, hz, hp⟩ | ⟨-, p, hcp, hp⟩
    · left
      rw [hp, normalizeSourceCIDR_ip hz, parseAddr_toString]
      rfl
    · right
      rw [hp, normalizeSourceCIDR_cidr hcp,
        parsePrefix_toString (unmap_addr_zone hcp.zone) (unmap_bits_le hcp.bits)]
      rfl
  have hdenotes := fun hk =>
    matchesText_normalizeSourceCIDR hk hv.pattern (unscoped_canonicalKind hu)
  rcases resolved_cases hv hs with ⟨hd, hk⟩ | ⟨hd, hk⟩ | ⟨hd, hk⟩
  · refine ⟨_, ?_, .inr ⟨"source_ip_cidr", _, rfl, htext hk, hdenotes hk⟩⟩
    simp [accessMatchFields, hd, hk]
  · refine ⟨_, ?_, .inr ⟨"ip_cidr", _, rfl, htext hk, hdenotes hk⟩⟩
    simp [accessMatchFields, hd, hk]
  · refine ⟨_, ?_, .inl ⟨hk, rfl⟩⟩
    simp [accessMatchFields, hd, hk, canonicalKind]

theorem isSourceDomain_of_ip {rule : SourceBlacklistRule} (hk : rule.kind = "ip") :
    isSourceDomain rule = false := by
  simp [isSourceDomain, hk]

/-- Rules whose resolution can be stored have no zone: an address of theirs is resolved to itself. -/
theorem unscoped_of_materialized {lookup : Lookup} {rules resolved : List SourceBlacklistRule}
    (hv : ∀ rule ∈ rules, ValidRule rule)
    (h : resolveSourceBlacklistRules lookup rules = .ok resolved)
    (hm : validateMaterializedSourceRules resolved = .ok ()) : ∀ rule ∈ rules, Unscoped rule := by
  intro rule hrule hk
  have hexp : Expands lookup rule rule := .inl ⟨isSourceDomain_of_ip hk, rfl⟩
  obtain ⟨s, hs, hkey⟩ := exists_mem_resolved h hrule hexp
  have hvs := (validRule_of_mem_resolved hv h hs).1
  obtain ⟨-, -, hkind, hpattern⟩ := eq_of_ruleKey_eq hvs (hv rule hrule) hkey
  have hunscoped := unscoped_of_validateMaterializedRule hvs (firstError_eq_ok.mp hm s hs)
  rw [← hpattern]
  exact hunscoped (hkind.trans hk)

/-- Every rule of an accepted bundle reaches the engines unchanged exactly if no address of
the policy has a zone. -/
theorem fullyEnforced_iff_unscoped (lookup : Lookup) (value : Fields)
    (resolved : List SourceBlacklistRule) (hc : validateAccessControl value = .ok ())
    (h : resolveSourceBlacklistRules lookup (sourceBlacklistRules value) = .ok resolved) :
    FullyEnforced resolved ↔ ∀ rule ∈ sourceBlacklistRules value, Unscoped rule := by
  have hv : ∀ rule ∈ sourceBlacklistRules value, ValidRule rule := fun rule hrule =>
    validRule_of_mem_sourceBlacklistRules hc hrule
  constructor
  · intro henforced
    exact unscoped_of_materialized hv h henforced.materialized
  · intro hu
    have hresolved : ∀ r ∈ resolved, ValidRule r ∧ Unscoped r ∧ isSourceDomain r = false :=
      fun r hr => ⟨(validRule_of_mem_resolved hv h hr).1, unscoped_of_mem_resolved hu h hr,
        (validRule_of_mem_resolved hv h hr).2⟩
    refine ⟨firstError_eq_ok.mpr ?_, ?_, ?_⟩
    · intro r hr
      obtain ⟨hvr, hur, hsr⟩ := hresolved r hr
      exact validateMaterializedRule_eq_ok hvr hur hsr
    · intro line hline
      obtain ⟨r, hr, hn, -, rfl⟩ := mem_nftSourceRules.mp hline
      obtain ⟨hvr, hur, -⟩ := hresolved r hr
      obtain ⟨family, pattern, heq, -⟩ := normalizeSourceRule_spec hvr hur hn
      rw [heq]
      rfl
    · intro r hr
      obtain ⟨hvr, hur, hsr⟩ := hresolved r hr
      exact faithfulMatcher_spec hvr hur hsr

/-- A bundle that denies one source address. -/
def denySource (pattern : String) : Fields :=
  [("blacklist", .arr [.map [("direction", .str "source"), ("kind", .str "ip"),
    ("pattern", .str pattern)]])]

theorem fullyEnforced_iff_unscoped_sample :
    FullyEnforced [⟨"deny", "source", "ip", "2001:db8::1"⟩] ↔
      ∀ rule ∈ sourceBlacklistRules (denySource "2001:db8::1"), Unscoped rule :=
  fullyEnforced_iff_unscoped (fun _ => .error "no such host") (denySource "2001:db8::1")
    [⟨"deny", "source", "ip", "2001:db8::1"⟩] (by decide) (by decide)

/-- A link-local address with a zone is accepted and then dropped by the renderers. -/
theorem zoned_address_not_enforced :
    ¬ ∀ (lookup : Lookup) (value : Fields) (resolved : List SourceBlacklistRule),
      validateSourceBlacklist value = .ok () → validateAccessControl value = .ok () →
      resolveSourceBlacklistRules lookup (sourceBlacklistRules value) = .ok resolved →
      FullyEnforced resolved := by
  intro h
  have henforced := h (fun _ => .error "no such host") (denySource "fe80::1%eth0")
    [⟨"deny", "source", "ip", "fe80::1%eth0"⟩] (by decide) (by decide)
    (by decide)
  exact absurd henforced.materialized (by decide)

end Grouproxy.Policy
