import Grouproxy.Model.Preview
import Grouproxy.Verification.Policy.Acceptance
import Grouproxy.Verification.Policy.Coverage
import Grouproxy.Verification.Policy.Networks

/-! # What the preview matches and what the engines match

The preview matches the texts of a request as they are written. A rule of an accepted bundle denotes
the same addresses for both sides, but the engines compare the addresses that arrive.
-/

namespace Grouproxy.Policy

open Text Netip Value Grouproxy.Bundle

/-! ## A policy with the verdict of its listener -/

/-- Whether the firewall drops a request or the proxy rejects it. -/
def policyBlocks (port : Int) (resolved : List SourceBlacklistRule) (shutdown : Bool)
    (req : Request) : Bool :=
  chainVerdict (chainLines port (nftSourceRules resolved) shutdown) req.source port == .drop ||
    routeRejects (sourceBlacklistRouteRules resolved) req

section Resolved

variable {resolved : List SourceBlacklistRule} (hv : ∀ r ∈ resolved, ValidRule r)
  (hs : ∀ r ∈ resolved, isSourceDomain r = false) (hu : ∀ r ∈ resolved, Unscoped r)
include hv hs hu

/-- The chain of a shut-down listener drops a packet unless an allow rule matches its source. -/
theorem chainVerdict_shutdown_iff (lookup : Lookup) (port : Int) (req : Request) :
    chainVerdict (chainLines port (nftSourceRules resolved) true) req.source port = .drop ↔
      ¬ ∃ r ∈ resolved, (r.action = "allow" ∧ ruleDirection r = "source") ∧
        Matches lookup r req := by
  rw [chainVerdict_eq_drop_iff]
  simp only [true_or, and_true]
  constructor
  · rintro hchain ⟨r, hr, ⟨ha, hd⟩, hm⟩
    have hn : nftCanMatchSource r = true := by
      rw [nftCanMatchSource_iff]
      rcases resolved_cases (hv r hr) (hs r hr) with hcase | ⟨hd', -⟩ | ⟨hd', -⟩
      · exact hcase
      · exact absurd (hd.symm.trans hd') (by decide)
      · exact absurd (hd.symm.trans hd') (by decide)
    refine hchain _ (mem_nftSourceRules.mpr ⟨r, hr, hn, fun _ => ha, rfl⟩)
      ((isAllow_of_validRule (hv r hr)).mpr ha) ?_
    rw [lineMatches_iff (hv r hr) (hu r hr) hn]
    exact (matches_source_iff hd (hs r hr)).mp hm
  · intro hnone line hline hallow hm
    obtain ⟨r, hr, hn, -, rfl⟩ := mem_nftSourceRules.mp hline
    have hd := (nftCanMatchSource_iff.mp hn).1
    apply hnone
    refine ⟨r, hr, ⟨(isAllow_of_validRule (hv r hr)).mp hallow, hd⟩, ?_⟩
    rw [matches_source_iff hd (hs r hr), ← lineMatches_iff (hv r hr) (hu r hr) hn]
    exact hm

theorem policyBlocks_resolved_iff (lookup : Lookup) (port : Int) (shutdown : Bool)
    (req : Request) :
    policyBlocks port resolved shutdown req = true ↔
      if shutdown = true then
        ¬ ∃ r ∈ resolved, (r.action = "allow" ∧ ruleDirection r = "source") ∧ Matches lookup r req
      else Denied lookup resolved req := by
  cases shutdown with
  | false =>
      rw [if_neg (by decide)]
      exact blocked_resolved_iff hv hs hu lookup port req
  | true =>
      rw [if_pos rfl, policyBlocks, Bool.or_eq_true, beq_iff_eq,
        chainVerdict_shutdown_iff hv hs hu lookup port req,
        routeRejects_sourceBlacklistRouteRules hv hs hu lookup req]
      constructor
      · rintro (hnone | ⟨-, hnone⟩)
        · exact hnone
        · rintro ⟨r, hr, ⟨ha, -⟩, hm⟩
          exact hnone ⟨r, hr, ha, hm⟩
      · exact .inl

end Resolved

/-- An applied policy: it was accepted, its source domains were resolved, and the result was
stored. -/
structure AppliedPolicy (lookup : Lookup) (value : Fields) (resolved : List SourceBlacklistRule) :
    Prop where
  blacklistOK : validateSourceBlacklist value = .ok ()
  accessOK : validateAccessControl value = .ok ()
  resolves : resolveSourceBlacklistRules lookup (sourceBlacklistRules value) = .ok resolved
  materialized : validateMaterializedSourceRules resolved = .ok ()

section Applied

variable {lookup : Lookup} {value : Fields} {resolved : List SourceBlacklistRule}
  (h : AppliedPolicy lookup value resolved)
include h

theorem AppliedPolicy.valid : ∀ rule ∈ sourceBlacklistRules value, ValidRule rule :=
  fun _ hrule => validRule_of_mem_sourceBlacklistRules h.accessOK hrule

theorem AppliedPolicy.unscoped : ∀ rule ∈ sourceBlacklistRules value, Unscoped rule :=
  unscoped_of_materialized h.valid h.resolves h.materialized

/-- What the engines do with a request, read off the rules of the bundle. -/
theorem AppliedPolicy.blocks_iff (port : Int) (shutdown : Bool) (req : Request) :
    policyBlocks port resolved shutdown req = true ↔
      if shutdown = true then
        ¬ ∃ rule ∈ sourceBlacklistRules value,
          (rule.action = "allow" ∧ ruleDirection rule = "source") ∧ Matches lookup rule req
      else Denied lookup (sourceBlacklistRules value) req := by
  have hresolved : ∀ r ∈ resolved, ValidRule r ∧ isSourceDomain r = false := fun r hr =>
    validRule_of_mem_resolved h.valid h.resolves hr
  rw [policyBlocks_resolved_iff (fun r hr => (hresolved r hr).1) (fun r hr => (hresolved r hr).2)
      (fun r hr => unscoped_of_mem_resolved h.unscoped h.resolves hr) lookup port shutdown req,
    denied_resolved_iff h.valid h.resolves req,
    exists_matches_resolved h.valid h.resolves
      (fun action direction => action = "allow" ∧ direction = "source") req]

end Applied

theorem exists_matches_dedupe {lookup : Lookup} {rules : List SourceBlacklistRule}
    (hv : ∀ rule ∈ rules, ValidRule rule) (keep : String → String → Prop) (req : Request) :
    (∃ rule ∈ dedupeSourceBlacklistRules rules, keep rule.action (ruleDirection rule) ∧
      Matches lookup rule req) ↔
      ∃ rule ∈ rules, keep rule.action (ruleDirection rule) ∧ Matches lookup rule req := by
  constructor
  · rintro ⟨rule, hrule, hkeep, hm⟩
    exact ⟨rule, mem_of_mem_distinctBy hrule, hkeep, hm⟩
  · rintro ⟨rule, hrule, hkeep, hm⟩
    rcases exists_mem_distinctBy ruleKey [] hrule with hnil | ⟨other, hother, hkey⟩
    · cases hnil
    · have hvother := hv other (mem_of_mem_distinctBy hother)
      obtain ⟨ha, hd, -, -⟩ := eq_of_ruleKey_eq hvother (hv rule hrule) hkey
      refine ⟨other, hother, ?_, matches_of_ruleKey_eq (hv rule hrule) hvother hkey.symm hm⟩
      rw [ha, hd]
      exact hkeep

end Grouproxy.Policy

namespace Grouproxy.Cidr

open Text Netip Value Encoding Grouproxy.Bundle Policy Ipaddress
open Backend (Libraries lower isAscii)

/-! ## Addresses without a scope -/

/-- The number of an address; an IPv4-mapped one stays as it is written. -/
def bare : Addr → Addr
  | .v4 n => .v4 n
  | .v6 n _ => .v6 n ""

/-- The engines see an address without its scope, and an IPv4-mapped one as IPv4. -/
theorem addr_toIP_eq (a : Addr) : (Addr.toIP a).addr = (bare a).unmap := by
  cases a with
  | v4 n => exact addr_toIP rfl rfl
  | v6 n zone => rfl

/-! ## Networks -/

theorem div_mask {w : Nat} (m : Fin (2 ^ w)) (k : Nat) :
    (Fin.ofNat (2 ^ w) (m.val / 2 ^ k * 2 ^ k)).val / 2 ^ k = m.val / 2 ^ k := by
  have hle : m.val / 2 ^ k * 2 ^ k < 2 ^ w := lt_of_le_of_lt (Nat.div_mul_le_self _ _) m.isLt
  rw [Fin.val_ofNat, Nat.mod_eq_of_lt hle, Nat.mul_div_cancel _ (Nat.two_pow_pos _)]

/-- An address has the masked number of a network exactly if it shares its leading bits. -/
theorem mask_eq_iff {a b : Addr} {bits : Nat} (hb : b.mask bits = b) :
    (bare a).mask bits = b ↔ (Prefix.mk b bits).contains (bare a) = true := by
  cases a with
  | v4 m =>
      cases b with
      | v6 n zone => simp [bare, Addr.mask, Prefix.contains]
      | v4 n =>
          simp only [bare, Prefix.contains, beq_iff_eq]
          constructor
          · intro hm
            rw [← Addr.v4.inj hm]
            exact div_mask m (32 - bits)
          · intro hm
            rw [← hb, Addr.mask, Addr.mask, hm]
  | v6 m scope =>
      cases b with
      | v4 n => simp [bare, Addr.mask, Prefix.contains]
      | v6 n zone =>
          simp only [bare, Prefix.contains, beq_self_eq_true, Bool.true_and, beq_iff_eq]
          constructor
          · intro hm
            rw [← (Addr.v6.inj hm).1]
            exact div_mask m (128 - bits)
          · intro hm
            rw [← hb, Addr.mask, Addr.mask, hm]

/-- In a network without a scope both sides find the same addresses. -/
theorem inNetwork_iff {p : Prefix} (hp : CanonicalPrefix p) (a : Addr) :
    inNetwork a p = true ↔ p.contains (bare a) = true := by
  have hmask : p.addr.mask p.bits = p.addr := congrArg Prefix.addr hp.masked
  rw [← mask_eq_iff hmask]
  obtain ⟨b, bits⟩ := p
  cases b with
  | v4 n =>
      cases a with
      | v4 m => simp [inNetwork, bare]
      | v6 m scope => simp [inNetwork, bare, Addr.mask]
  | v6 n zone =>
      have hz : zone = "" := hp.zone
      subst hz
      cases a with
      | v4 m => simp [inNetwork, bare, Addr.mask]
      | v6 m scope => simp [inNetwork, bare]

theorem mask_bitLen_self {a : Addr} (hz : a.zone = "") : a.mask a.bitLen = a := by
  cases a with
  | v4 n => simp [Addr.mask, Addr.bitLen]
  | v6 n zone =>
      have hzone : zone = "" := hz
      simp [Addr.mask, Addr.bitLen, hzone]

theorem contains_bitLen_iff {b : Addr} (hz : b.zone = "") (a : Addr) :
    (Prefix.mk b b.bitLen).contains (bare a) = true ↔ b = bare a := by
  cases b with
  | v4 n =>
      cases a with
      | v4 m => simp [bare, Prefix.contains, Addr.bitLen, Fin.ext_iff]
      | v6 m scope => simp [bare, Prefix.contains]
  | v6 n zone =>
      have hzone : zone = "" := hz
      cases a with
      | v4 m => simp [bare, Prefix.contains]
      | v6 m scope => simp [bare, Prefix.contains, Addr.bitLen, Fin.ext_iff, hzone]

/-- An address alone is read as the network of its full length. -/
theorem ipNetwork_toString {b : Addr} (hz : b.zone = "") (hb : b.is4In6 = false) :
    ipNetwork b.toString = some ⟨b, b.bitLen⟩ := by
  have hslash : '/' ∉ addressText b := by
    apply slash_notMem_addressText
    rw [hz]
    simp
  have hmask := mask_bitLen_self hz
  rw [ipNetwork, ← addressText_eq_toString hb, String.toList_ofList,
    List.splitOn_eq_singleton hslash]
  cases b with
  | v4 n =>
      have hread : ipv4Network [addressText (.v4 n)] = some ⟨.v4 n, 32⟩ := by
        simp only [ipv4Network, addressText, ipv4Address_ipv4Text, Option.map_some, networkOf]
        exact congrArg (fun a => some (Prefix.mk a 32)) hmask
      rw [hread]
      rfl
  | v6 n zone =>
      have hzone : zone = "" := hz
      subst hzone
      have hnone : ipv4Network [addressText (.v6 n "")] = none := by
        simp only [ipv4Network, ipv4Address_addressText, Option.map_none]
      have hread : ipv6Network [addressText (.v6 n "")] = some ⟨.v6 n "", 128⟩ := by
        simp only [ipv6Network, ipv6Address_addressText hslash (by simp), Option.map_some, networkOf]
        exact congrArg some (if_pos hmask)
      rw [hnone, hread]
      rfl

/-! ## Patterns -/

/-- The rule of an entry. -/
def RuleKey.rule (key : RuleKey) (action : String) : SourceBlacklistRule :=
  ⟨action, key.direction, key.kind, key.pattern⟩

/-- A rule as the lists hold it. -/
structure CanonicalKey (key : RuleKey) : Prop where
  direction : key.direction = "source" ∨ key.direction = "destination"
  kind : key.kind = "ip" ∨ key.kind = "cidr" ∨ key.kind = "domain"
  pattern : ∃ raw, normalizeSourceBlacklistPattern key.kind raw = .ok key.pattern

theorem canonicalKey_of_ruleKey? {action direction kind pattern : String} {key : RuleKey}
    (h : ruleKey? action direction kind pattern = some key) : CanonicalKey key := by
  have hdirection := (ruleKey?_spec h).2.1
  rw [ruleKey?] at h
  split at h
  · rename_i d k hd hk
    split at h
    · rename_i p hp
      cases h
      exact ⟨hdirection, (canonicalizeKind_ok hk).2, pattern, hp⟩
    · cases h
  · cases h

/-- What the backend reads of an address pattern that the monitor accepts. -/
theorem inPattern_iff {kind raw pattern : String} (hk : kind = "ip" ∨ kind = "cidr")
    (hn : normalizeSourceBlacklistPattern kind raw = .ok pattern)
    (hv : validatePattern kind pattern = .ok ()) (hu : kind = "ip" → '%' ∉ pattern.toList)
    (a : Addr) : inPattern a pattern = true ↔ Denotes kind pattern (bare a) := by
  rw [normalizeSourceBlacklistPattern] at hn
  split at hn
  · cases hn
  rcases hk with rfl | rfl
  · have hself : canonicalizeKind "ip" = .ok "ip" := by decide
    simp only [hself, if_true, normalizeSourceIp] at hn
    split at hn
    · rename_i b hb
      cases hn
      have hmapped : b.is4In6 = false := by
        by_contra hno
        simp [validatePattern, isCanonicalSourceIP_addressText, hno] at hv
      rw [addressText_eq_toString hmapped] at hu ⊢
      have hz : b.zone = "" := by
        by_contra hzone
        exact hu rfl ((percent_mem_toString_iff b).mpr hzone)
      have hp : CanonicalPrefix ⟨b, b.bitLen⟩ :=
        ⟨hz, le_rfl, congrArg (Prefix.mk · b.bitLen) (mask_bitLen_self hz)⟩
      rw [inPattern, ipNetwork_toString hz hmapped, Option.any_some, inNetwork_iff hp,
        contains_bitLen_iff hz, denotes_ip, unmap_of_not_is4In6 hmapped]
    · cases hn
  · have hself : canonicalizeKind "cidr" = .ok "cidr" := by decide
    simp only [hself, normalizeCidr] at hn
    rw [if_neg (by decide), if_pos trivial] at hn
    split at hn
    · rename_i p hp
      cases hn
      have hnetwork := isNetwork_of_ipNetwork hp
      have hcanonical : isCanonicalSourceNetwork (String.ofList (Ipaddress.networkText p)) = true := by
        by_contra hno
        simp [validatePattern, hno] at hv
      obtain ⟨hz, hmapped⟩ := (isCanonicalSourceNetwork_networkText hnetwork).mp hcanonical
      have hprefix : CanonicalPrefix p := ⟨hz, hnetwork.bits, hnetwork.mask hz⟩
      rw [inPattern, ipNetwork_networkText (isPrinted_of_ipNetwork hp), Option.any_some,
        inNetwork_iff hprefix, ← (networkText_eq_toString_iff p).mpr hmapped, denotes_cidr hprefix,
        Prefix.unmap, hmapped]
      rfl
    · cases hn

/-! ## Rules that name a request -/

/-- The name is the domain or ends with it. -/
def IsUnder (domain name : String) : Prop := name = domain ∨ ∃ sub, name = sub ++ "." ++ domain

/-- A rule matches a request as it is written: the source as an address of its own family, the host
as an address if it reads as one, and as a name. -/
inductive Names (rule : SourceBlacklistRule) (source : Addr) (host : String) : Prop where
  | source (hd : ruleDirection rule = "source")
      (h : Denotes (canonicalKind rule.kind) rule.pattern (bare source))
  | destination {address : Addr} (hd : ruleDirection rule = "destination")
      (hr : ipAddress host = some address)
      (h : Denotes (canonicalKind rule.kind) rule.pattern (bare address))
  | domain (hd : ruleDirection rule = "destination") (hk : rule.kind = "domain")
      (h : IsUnder rule.pattern host)

theorem inDomain_eq_true_iff {host pattern : String} :
    inDomain host pattern = true ↔ IsUnder pattern host := by
  rw [inDomain, IsUnder, Bool.or_eq_true, beq_iff_eq, isSuffixOf_dot_iff]

/-- An entry of the blacklist whose rule is enforced. -/
structure EnforcedEntry (e : PolicyEntry) : Prop where
  canonical : CanonicalKey e.key
  valid : ValidRule (e.key.rule "deny")
  unscoped : Unscoped (e.key.rule "deny")

section Entry

variable {e : PolicyEntry} (h : EnforcedEntry e)
include h

theorem EnforcedEntry.textOr_direction :
    textOr e.key.direction "source" = ruleDirection (e.key.rule "deny") := by
  rcases h.canonical.direction with hd | hd
  · simp [textOr, ruleDirection, RuleKey.rule, hd]
  · simp [textOr, ruleDirection, RuleKey.rule, hd]

theorem EnforcedEntry.canonicalKind : canonicalKind e.key.kind = e.key.kind := by
  rcases h.canonical.kind with hk | hk | hk
  · rw [hk]
    rfl
  · rw [hk]
    rfl
  · rw [hk]
    rfl

theorem EnforcedEntry.validPattern : validatePattern e.key.kind e.key.pattern = .ok () := by
  rw [← h.canonicalKind]
  exact h.valid.pattern

theorem EnforcedEntry.pattern_ne : e.key.pattern ≠ "" := by
  intro hempty
  have hv := h.validPattern
  rw [hempty] at hv
  rcases h.canonical.kind with hk | hk | hk
  · rw [hk] at hv
    exact absurd hv (by decide)
  · rw [hk] at hv
    exact absurd hv (by decide)
  · rw [hk] at hv
    exact absurd hv (by decide)

/-- An address rule of the preview. -/
theorem EnforcedEntry.inPattern_iff (a : Addr) :
    (addressKinds.contains e.key.kind && inPattern a e.key.pattern) = true ↔
      Denotes e.key.kind e.key.pattern (bare a) := by
  obtain ⟨raw, hraw⟩ := h.canonical.pattern
  have hv := h.validPattern
  have hread : (e.key.kind = "ip" ∨ e.key.kind = "cidr") →
      (inPattern a e.key.pattern = true ↔ Denotes e.key.kind e.key.pattern (bare a)) :=
    fun hk => Cidr.inPattern_iff hk hraw hv h.unscoped a
  rcases h.canonical.kind with hk | hk | hk
  · rw [← hread (.inl hk), hk]
    simp [addressKinds]
  · rw [← hread (.inr hk), hk]
    simp [addressKinds]
  · rw [hk]
    simp [addressKinds, Denotes]

theorem EnforcedEntry.sourceRuleMatches_iff (a : Addr) :
    sourceRuleMatches a e = true ↔ ruleDirection (e.key.rule "deny") = "source" ∧
      Denotes e.key.kind e.key.pattern (bare a) := by
  rw [← h.inPattern_iff a, sourceRuleMatches, h.textOr_direction, Bool.and_assoc, Bool.and_eq_true,
    beq_iff_eq]

theorem EnforcedEntry.destinationRuleMatches_iff (host : String) :
    destinationRuleMatches host e = true ↔ ruleDirection (e.key.rule "deny") = "destination" ∧
      ((∃ address, ipAddress host = some address ∧
          Denotes e.key.kind e.key.pattern (bare address)) ∨
        (e.key.kind = "domain" ∧ IsUnder e.key.pattern host)) := by
  have haddress : (addressKinds.contains e.key.kind &&
      (ipAddress host).any fun address => inPattern address e.key.pattern) = true ↔
      ∃ address, ipAddress host = some address ∧
        Denotes e.key.kind e.key.pattern (bare address) := by
    cases hread : ipAddress host with
    | none => simp
    | some address =>
        rw [Option.any_some, h.inPattern_iff address]
        simp
  rw [destinationRuleMatches, h.textOr_direction, Bool.and_eq_true, Bool.and_eq_true,
    Bool.or_eq_true, haddress, Bool.and_eq_true, inDomain_eq_true_iff, beq_iff_eq, beq_iff_eq,
    bne_iff_ne]
  exact ⟨fun hm => ⟨hm.1.1, hm.2⟩, fun hm => ⟨⟨hm.1, h.pattern_ne⟩, hm.2⟩⟩

/-- The two matchers of the preview, together. -/
theorem EnforcedEntry.names_iff (source : Addr) (host : String) :
    Names (e.key.rule "deny") source host ↔
      sourceRuleMatches source e = true ∨ destinationRuleMatches host e = true := by
  rw [h.sourceRuleMatches_iff, h.destinationRuleMatches_iff]
  have hkind : Bundle.canonicalKind (e.key.rule "deny").kind = e.key.kind := h.canonicalKind
  constructor
  · intro hnames
    cases hnames with
    | source hd hm => exact .inl ⟨hd, hkind ▸ hm⟩
    | destination hd hr hm => exact .inr ⟨hd, .inl ⟨_, hr, hkind ▸ hm⟩⟩
    | domain hd hk hm => exact .inr ⟨hd, .inr ⟨hk, hm⟩⟩
  · rintro (⟨hd, hm⟩ | ⟨hd, ⟨address, hr, hm⟩ | ⟨hk, hm⟩⟩)
    · exact .source hd (hkind.symm ▸ hm)
    · exact .destination hd hr (hkind.symm ▸ hm)
    · exact .domain hd hk hm

/-- An empty host is matched by no rule. -/
theorem EnforcedEntry.destinationRuleMatches_empty : destinationRuleMatches "" e = false := by
  rw [← Bool.not_eq_true, h.destinationRuleMatches_iff]
  rintro ⟨-, ⟨address, hr, -⟩ | ⟨-, hempty | ⟨sub, hempty⟩⟩⟩
  · cases hr
  · exact h.pattern_ne hempty.symm
  · have hlength := congrArg String.length hempty
    have hdot : ".".length = 1 := rfl
    simp only [String.length_append, hdot, String.length_empty] at hlength
    omega

theorem EnforcedEntry.isUnresolvedRule_eq (libs : Libraries) :
    isUnresolvedRule libs e = isSourceDomain (e.key.rule "deny") := by
  have hlower : lower libs e.key.kind = e.key.kind := by
    rcases h.canonical.kind with hk | hk | hk
    · rw [hk]
      rfl
    · rw [hk]
      rfl
    · rw [hk]
      rfl
  rw [isUnresolvedRule, h.textOr_direction, hlower, isSourceDomain, bne_iff_ne.mpr h.pattern_ne,
    Bool.and_true, Bool.and_comm]
  rfl

end Entry

/-! ## The answer of the preview -/

/-- The rules of the blacklist. -/
def blacklistPolicy (entries : List PolicyEntry) : List SourceBlacklistRule :=
  entries.map fun e => e.key.rule "deny"

/-- The rules of the access-control list. -/
def accessPolicy (entries : List PolicyEntry) : List SourceBlacklistRule :=
  entries.map fun e => e.key.rule e.key.action

theorem exists_mem_blacklistPolicy {entries : List PolicyEntry} {p : SourceBlacklistRule → Prop} :
    (∃ rule ∈ blacklistPolicy entries, p rule) ↔ ∃ e ∈ entries, p (e.key.rule "deny") := by
  simp [blacklistPolicy]

section Entries

variable {entries : List PolicyEntry} (h : ∀ e ∈ entries, EnforcedEntry e)
include h

/-- Some matcher finds an entry exactly if a rule names the request. -/
theorem exists_names_iff (source : Addr) (host : String) :
    (∃ rule ∈ blacklistPolicy entries, Names rule source host) ↔
      (entries.find? (sourceRuleMatches source)).isSome = true ∨
        (entries.find? (destinationRuleMatches host)).isSome = true := by
  rw [List.find?_isSome, List.find?_isSome, exists_mem_blacklistPolicy]
  constructor
  · rintro ⟨e, he, hnames⟩
    rcases ((h e he).names_iff source host).mp hnames with hm | hm
    · exact .inl ⟨e, he, hm⟩
    · exact .inr ⟨e, he, hm⟩
  · rintro (⟨e, he, hm⟩ | ⟨e, he, hm⟩)
    · exact ⟨e, he, ((h e he).names_iff source host).mpr (.inl hm)⟩
    · exact ⟨e, he, ((h e he).names_iff source host).mpr (.inr hm)⟩

theorem matchDestinationBlacklist_isSome (libs : Libraries) (destHost : String) :
    (matchDestinationBlacklist libs destHost entries).isSome =
      (entries.find? (destinationRuleMatches (hostText libs destHost))).isSome := by
  rw [matchDestinationBlacklist]
  split
  · rename_i hempty
    symm
    rw [hempty, Option.isSome_none, Option.isSome_eq_false_iff, Option.isNone_iff_eq_none,
      List.find?_eq_none]
    intro e he
    rw [(h e he).destinationRuleMatches_empty]
    decide
  · rw [Option.isSome_map]

theorem unresolvedDomainPatterns_ne_nil_iff (libs : Libraries) :
    unresolvedDomainPatterns libs entries ≠ [] ↔
      ∃ rule ∈ blacklistPolicy entries, isSourceDomain rule = true := by
  have hmem : ∀ pattern, pattern ∈ unresolvedDomainPatterns libs entries ↔
      ∃ e ∈ entries, isUnresolvedRule libs e = true ∧ e.key.pattern = pattern := by
    intro pattern
    simp only [unresolvedDomainPatterns, List.mem_insertionSort, mem_distinctBy_id, List.mem_map,
      List.mem_filter, and_assoc]
  rw [exists_mem_blacklistPolicy]
  constructor
  · intro hne
    obtain ⟨pattern, hpattern⟩ := List.exists_mem_of_ne_nil _ hne
    obtain ⟨e, he, hm, -⟩ := (hmem pattern).mp hpattern
    exact ⟨e, he, (h e he).isUnresolvedRule_eq libs ▸ hm⟩
  · rintro ⟨e, he, hm⟩
    have hrule : isUnresolvedRule libs e = true := by
      rw [(h e he).isUnresolvedRule_eq libs]
      exact hm
    exact List.ne_nil_of_mem ((hmem e.key.pattern).mpr ⟨e, he, hrule, rfl⟩)

end Entries

/-! ## The rules of a bundle -/

theorem blacklistRule?_decoded {e : PolicyEntry} (h : CanonicalKey e.key) :
    blacklistRule? (decoded (blacklistJson e)) = some (e.key.rule "deny") := by
  have hkind : canonicalKind e.key.kind = e.key.kind := by
    rcases h.kind with hk | hk | hk
    all_goals
      rw [hk]
      rfl
  have hget : blacklistRule? (decoded (blacklistJson e)) =
      some ⟨"deny", e.key.direction, canonicalKind e.key.kind, e.key.pattern⟩ := rfl
  rw [hget, hkind]
  rfl

theorem accessControlRule?_decoded {e : PolicyEntry} (h : CanonicalKey e.key)
    (ha : e.key.action = "allow" ∨ e.key.action = "deny") (hp : e.key.pattern ≠ "") :
    accessControlRule? (decoded (accessControlJson e)) = some (e.key.rule e.key.action) := by
  have haction : ¬ (e.key.action ≠ "deny" ∧ e.key.action ≠ "allow") := by tauto
  have hempty : ¬ (e.key.direction = "" ∨ e.key.kind = "" ∨ e.key.pattern = "") := by
    rintro (hd | hk | hpattern)
    · rcases h.direction with hd' | hd'
      all_goals exact absurd (hd'.symm.trans hd) (by decide)
    · rcases h.kind with hk' | hk' | hk'
      all_goals exact absurd (hk'.symm.trans hk) (by decide)
    · exact hp hpattern
  have hget : accessControlRule? (decoded (accessControlJson e)) =
      if e.key.action ≠ "deny" ∧ e.key.action ≠ "allow" then none
      else if e.key.direction = "" ∨ e.key.kind = "" ∨ e.key.pattern = "" then none
      else some ⟨e.key.action, e.key.direction, e.key.kind, e.key.pattern⟩ := rfl
  rw [hget, if_neg haction, if_neg hempty]
  rfl

theorem canonicalKey_of_mem_effectiveBlacklist {nodeId : String} {rows : List SourceBlacklist}
    {e : PolicyEntry} (h : e ∈ effectiveBlacklist nodeId rows) : CanonicalKey e.key := by
  obtain ⟨row, -, hrow⟩ := List.mem_filterMap.mp (mem_of_mem_distinctBy (mem_sortEntries.mp h))
  obtain ⟨key, hk, rfl⟩ := Option.map_eq_some_iff.mp hrow
  exact canonicalKey_of_ruleKey? hk

theorem canonicalKey_of_mem_effectiveAccessControl {nodeId : String}
    {sets : List AccessControlSet} {groups : List NetworkGroup} {e : PolicyEntry}
    (h : e ∈ effectiveAccessControl nodeId sets groups) :
    CanonicalKey e.key ∧ (e.key.action = "allow" ∨ e.key.action = "deny") := by
  obtain ⟨set, -, hset⟩ := List.mem_flatMap.mp (mem_of_mem_distinctBy (mem_sortEntries.mp h))
  obtain ⟨entry, -, hitem⟩ := List.mem_filterMap.mp hset
  obtain ⟨key, hk, rfl⟩ := Option.map_eq_some_iff.mp hitem
  refine ⟨canonicalKey_of_ruleKey? hk, ?_⟩
  rw [(ruleKey?_spec hk).1]
  exact mode_text set.mode

/-- An applied bundle with the policy of a node. -/
structure AppliedLists (lookup : Lookup) (value : Fields) (blacklist access : List PolicyEntry)
    (resolved : List SourceBlacklistRule) : Prop extends AppliedPolicy lookup value resolved where
  blacklistField : value.get "blacklist" = .arr ((blacklist.map blacklistJson).map decoded)
  accessField : value.get "access_control" = .arr ((access.map accessControlJson).map decoded)
  blacklistKeys : ∀ e ∈ blacklist, CanonicalKey e.key
  accessKeys : ∀ e ∈ access, CanonicalKey e.key ∧ (e.key.action = "allow" ∨ e.key.action = "deny")

section Applied

variable {lookup : Lookup} {value : Fields} {blacklist access : List PolicyEntry}
  {resolved : List SourceBlacklistRule} (h : AppliedLists lookup value blacklist access resolved)
include h

theorem AppliedLists.accepted_access {e : PolicyEntry} (he : e ∈ access) :
    AcceptedPattern (canonicalKind e.key.kind) e.key.pattern := by
  obtain ⟨hkey, ha⟩ := h.accessKeys e he
  rw [← validateAccessControlEntry_accessControlJson ha hkey.direction]
  apply ((validateAccessControl_arr h.accessField).mp h.accessOK).2
  exact List.mem_map_of_mem (List.mem_map_of_mem he)

theorem AppliedLists.accepted_blacklist {e : PolicyEntry} (he : e ∈ blacklist) :
    AcceptedPattern (canonicalKind e.key.kind) e.key.pattern := by
  rw [← validateBlacklistEntry_blacklistJson (h.blacklistKeys e he).direction]
  apply validateSourceBlacklist_spec h.blacklistOK
  rw [h.blacklistField]
  exact List.mem_map_of_mem (List.mem_map_of_mem he)

theorem AppliedLists.rules_eq : sourceBlacklistRules value =
    dedupeSourceBlacklistRules (blacklistPolicy blacklist ++ accessPolicy access) := by
  have hcanonical : isCanonicalSourceBlacklist value = true := by
    simp only [isCanonicalSourceBlacklist, h.blacklistOK]
  have hblacklist : ((blacklist.map blacklistJson).map decoded).filterMap blacklistRule? =
      blacklistPolicy blacklist := by
    rw [List.map_map, List.filterMap_map, blacklistPolicy, ← List.filterMap_eq_map]
    apply List.filterMap_congr
    intro e he
    exact blacklistRule?_decoded (h.blacklistKeys e he)
  have haccess : ((access.map accessControlJson).map decoded).filterMap accessControlRule? =
      accessPolicy access := by
    rw [List.map_map, List.filterMap_map, accessPolicy, ← List.filterMap_eq_map]
    apply List.filterMap_congr
    intro e he
    obtain ⟨hkey, ha⟩ := h.accessKeys e he
    exact accessControlRule?_decoded hkey ha (h.accepted_access he).nonempty
  rw [sourceBlacklistRules, if_pos hcanonical, h.blacklistField, h.accessField]
  simp only [Any.asArr?, Option.getD_some, hblacklist, haccess]

theorem AppliedLists.validRules :
    ∀ rule ∈ blacklistPolicy blacklist ++ accessPolicy access, ValidRule rule := by
  intro rule hrule
  rcases List.mem_append.mp hrule with hrule | hrule
  · obtain ⟨e, he, rfl⟩ := List.mem_map.mp hrule
    exact ⟨.inr rfl, (h.blacklistKeys e he).direction, (h.accepted_blacklist he).valid⟩
  · obtain ⟨e, he, rfl⟩ := List.mem_map.mp hrule
    obtain ⟨hkey, ha⟩ := h.accessKeys e he
    exact ⟨ha, hkey.direction, (h.accepted_access he).valid⟩

/-- The entries of the blacklist are enforced. -/
theorem AppliedLists.enforced : ∀ e ∈ blacklist, EnforcedEntry e := by
  intro e he
  have hmem : e.key.rule "deny" ∈ blacklistPolicy blacklist ++ accessPolicy access :=
    List.mem_append_left _ (List.mem_map_of_mem he)
  refine ⟨h.blacklistKeys e he, h.validRules _ hmem, ?_⟩
  rcases exists_mem_distinctBy ruleKey [] hmem with hnil | ⟨other, hother, hkey⟩
  · cases hnil
  · have hmemother : other ∈ sourceBlacklistRules value := by
      rw [h.rules_eq]
      exact hother
    obtain ⟨-, -, hk, hp⟩ := eq_of_ruleKey_eq (h.valid other hmemother) (h.validRules _ hmem) hkey
    rw [Unscoped, ← hk, ← hp]
    exact h.unscoped other hmemother

/-- What the engines do with a request, read off the two lists. -/
theorem AppliedLists.blocks_iff (port : Int) (shutdown : Bool) (req : Request) :
    policyBlocks port resolved shutdown req = true ↔
      if shutdown = true then
        ¬ ∃ rule ∈ blacklistPolicy blacklist ++ accessPolicy access,
          (rule.action = "allow" ∧ ruleDirection rule = "source") ∧ Matches lookup rule req
      else Denied lookup (blacklistPolicy blacklist ++ accessPolicy access) req := by
  rw [h.toAppliedPolicy.blocks_iff, h.rules_eq, Denied, Denied,
    exists_matches_dedupe h.validRules
      (fun action direction => action = "allow" ∧ direction = "source") req,
    exists_matches_dedupe h.validRules (fun action _ => action = "deny") req,
    exists_matches_dedupe h.validRules (fun action _ => action = "allow") req]

end Applied

/-! ## Agreement -/

/-- An answer keeps what it promises about a request. -/
structure Agrees (outcome : PreviewOutcome) (blocks : Bool) : Prop where
  allowed : outcome = .allowed → blocks = false
  blocked : outcome = .blocked → blocks = true

/-- Some rule of an action matches a request. -/
def Applies (lookup : Lookup) (rules : List SourceBlacklistRule) (action : String)
    (req : Request) : Prop :=
  ∃ rule ∈ rules, rule.action = action ∧ Matches lookup rule req

/-- The blacklist names a request. -/
def Named (blacklist : List SourceBlacklistRule) (source : Addr) (host : String) : Prop :=
  ∃ rule ∈ blacklist, Names rule source host

/-- When the blacklist alone, with the request as it is written, decides what both lists decide for
the request as it arrives. -/
structure Foreseen (lookup : Lookup) (blacklist access : List SourceBlacklistRule) (shutdown : Bool)
    (source : Addr) (host : String) (req : Request) : Prop where
  /-- No allow rule opens a listener that is shut down. -/
  closed : shutdown = true → ¬ ∃ rule ∈ access,
    (rule.action = "allow" ∧ ruleDirection rule = "source") ∧ Matches lookup rule req
  /-- No allow rule exempts a request that the blacklist names. -/
  exempt : shutdown = false → Named blacklist source host → ¬ Applies lookup access "allow" req
  /-- A request that the blacklist names is denied as it arrives. -/
  received : shutdown = false → Named blacklist source host →
    Applies lookup (blacklist ++ access) "deny" req
  /-- A request that the blacklist does not name is denied by no rule, unless one allows it. Source
  domains leave the question open. -/
  unnamed : shutdown = false → ¬ Named blacklist source host →
    (¬ ∃ rule ∈ blacklist, isSourceDomain rule = true) →
      Applies lookup access "allow" req ∨ ¬ Applies lookup (blacklist ++ access) "deny" req

theorem outcome_previewResponse (libs : Libraries) (entries : List PolicyEntry) (shutdown : Bool)
    (sourceMatch destMatch : Option String) :
    (Backend.previewResponse libs entries (decidePreview shutdown sourceMatch destMatch
      (unresolvedDomainPatterns libs entries))).outcome =
      if shutdown || sourceMatch.isSome || destMatch.isSome then .blocked
      else if unresolvedDomainPatterns libs entries ≠ [] then .indeterminate
      else .allowed := by
  have hrules : (if entries = [] then entries else entries) = entries := ite_self _
  simp only [Backend.previewResponse,
    Backend.SourceBlacklistPreviewResponse.markDomainOnlyPreviewIndeterminate, hrules]
  cases shutdown with
  | true => simp [decidePreview]
  | false =>
      cases sourceMatch with
      | some pattern => simp [decidePreview]
      | none =>
          cases destMatch with
          | some pattern => simp [decidePreview]
          | none =>
              by_cases hnil : unresolvedDomainPatterns libs entries = []
              · simp [decidePreview, hnil]
              · simp [decidePreview, hnil]

theorem outcome_eq_blocked_iff (libs : Libraries) (entries : List PolicyEntry) (shutdown : Bool)
    (sourceMatch destMatch : Option String) :
    (Backend.previewResponse libs entries (decidePreview shutdown sourceMatch destMatch
      (unresolvedDomainPatterns libs entries))).outcome = .blocked ↔
      shutdown = true ∨ sourceMatch.isSome = true ∨ destMatch.isSome = true := by
  rw [outcome_previewResponse, ← or_assoc, ← Bool.or_eq_true, ← Bool.or_eq_true]
  split
  · simp_all
  · split
    · simp_all
    · simp_all

theorem outcome_eq_allowed_iff (libs : Libraries) (entries : List PolicyEntry) (shutdown : Bool)
    (sourceMatch destMatch : Option String) :
    (Backend.previewResponse libs entries (decidePreview shutdown sourceMatch destMatch
      (unresolvedDomainPatterns libs entries))).outcome = .allowed ↔
      (shutdown = false ∧ ¬ (sourceMatch.isSome = true ∨ destMatch.isSome = true)) ∧
        ¬ unresolvedDomainPatterns libs entries ≠ [] := by
  rw [outcome_previewResponse, ← Bool.or_eq_true, ← Bool.not_eq_true, ← not_or,
    ← Bool.or_eq_true, Bool.or_assoc]
  split
  · simp_all
  · split
    · simp_all
    · simp_all

/-- Only access-control rules allow. -/
theorem exists_allow_append {blacklist access : List PolicyEntry}
    {p : SourceBlacklistRule → Prop} :
    (∃ rule ∈ blacklistPolicy blacklist ++ accessPolicy access, rule.action = "allow" ∧ p rule) ↔
      ∃ rule ∈ accessPolicy access, rule.action = "allow" ∧ p rule := by
  constructor
  · rintro ⟨rule, hrule, ha, hp⟩
    rcases List.mem_append.mp hrule with hrule | hrule
    · obtain ⟨e, -, rfl⟩ := List.mem_map.mp hrule
      have hdeny : (e.key.rule "deny").action = "deny" := rfl
      exact absurd (hdeny.symm.trans ha) (by decide)
    · exact ⟨rule, hrule, ha, hp⟩
  · rintro ⟨rule, hrule, h⟩
    exact ⟨rule, List.mem_append_right _ hrule, h⟩

section Agreement

variable {lookup : Lookup} {value : Fields} {blacklist access : List PolicyEntry}
  {resolved : List SourceBlacklistRule} (h : AppliedLists lookup value blacklist access resolved)
include h

theorem AppliedLists.blocks_closed_iff (port : Int) (req : Request) :
    policyBlocks port resolved true req = true ↔ ¬ ∃ rule ∈ accessPolicy access,
      (rule.action = "allow" ∧ ruleDirection rule = "source") ∧ Matches lookup rule req := by
  rw [h.blocks_iff, if_pos rfl]
  simp only [and_assoc, exists_allow_append]

theorem AppliedLists.blocks_open_iff (port : Int) (req : Request) :
    policyBlocks port resolved false req = true ↔
      Applies lookup (blacklistPolicy blacklist ++ accessPolicy access) "deny" req ∧
        ¬ Applies lookup (accessPolicy access) "allow" req := by
  rw [h.blocks_iff, if_neg (by decide), Denied, exists_allow_append]
  rfl

/-- The answer agrees with an applied bundle exactly if the blacklist foresees what it does. -/
theorem agrees_iff_foreseen (libs : Libraries) (port : Int) (shutdown : Bool) (source : Addr)
    (destHost : String) (req : Request) :
    Agrees (Backend.previewResponse libs blacklist (decidePreview shutdown
        ((blacklist.find? (sourceRuleMatches source)).map fun rule => rule.key.pattern)
        (matchDestinationBlacklist libs destHost blacklist)
        (unresolvedDomainPatterns libs blacklist))).outcome
      (policyBlocks port resolved shutdown req) ↔
      Foreseen lookup (blacklistPolicy blacklist) (accessPolicy access) shutdown source
        (hostText libs destHost) req := by
  have hblocked := outcome_eq_blocked_iff libs blacklist shutdown
    ((blacklist.find? (sourceRuleMatches source)).map fun rule => rule.key.pattern)
    (matchDestinationBlacklist libs destHost blacklist)
  have hallowed := outcome_eq_allowed_iff libs blacklist shutdown
    ((blacklist.find? (sourceRuleMatches source)).map fun rule => rule.key.pattern)
    (matchDestinationBlacklist libs destHost blacklist)
  rw [Option.isSome_map, matchDestinationBlacklist_isSome h.enforced,
    ← exists_names_iff h.enforced, ← Named] at hblocked hallowed
  rw [unresolvedDomainPatterns_ne_nil_iff h.enforced] at hallowed
  generalize (Backend.previewResponse libs blacklist _).outcome = outcome at hblocked hallowed ⊢
  cases shutdown with
  | true =>
      have hclosed := h.blocks_closed_iff port req
      constructor
      · intro hagrees
        refine ⟨fun _ => hclosed.mp (hagrees.blocked (hblocked.mpr (.inl rfl))), ?_, ?_, ?_⟩
        all_goals
          intro hfalse
          cases hfalse
      · intro hforeseen
        refine ⟨?_, fun _ => hclosed.mpr (hforeseen.closed rfl)⟩
        intro houtcome
        cases (hallowed.mp houtcome).1.1
  | false =>
      have hopen := h.blocks_open_iff port req
      have hnamed : outcome = .blocked ↔
          Named (blacklistPolicy blacklist) source (hostText libs destHost) := by
        rw [hblocked]
        simp
      constructor
      · intro hagrees
        refine ⟨?_, ?_, ?_, ?_⟩
        · intro htrue
          cases htrue
        · intro _ hname
          exact (hopen.mp (hagrees.blocked (hnamed.mpr hname))).2
        · intro _ hname
          exact (hopen.mp (hagrees.blocked (hnamed.mpr hname))).1
        · intro _ hname hdomain
          have hpasses := hagrees.allowed (hallowed.mpr ⟨⟨rfl, hname⟩, hdomain⟩)
          by_cases hallow : Applies lookup (accessPolicy access) "allow" req
          · exact .inl hallow
          · right
            intro hdeny
            rw [hopen.mpr ⟨hdeny, hallow⟩] at hpasses
            cases hpasses
      · intro hforeseen
        refine ⟨?_, ?_⟩
        · intro houtcome
          obtain ⟨⟨-, hname⟩, hdomain⟩ := hallowed.mp houtcome
          rw [← Bool.not_eq_true, hopen]
          rintro ⟨hdeny, hallow⟩
          rcases hforeseen.unnamed rfl hname hdomain with hexempt | hnone
          · exact hallow hexempt
          · exact hnone hdeny
        · intro houtcome
          have hname := hnamed.mp houtcome
          exact hopen.mpr ⟨hforeseen.received rfl hname, hforeseen.exempt rfl hname⟩

end Agreement

end Grouproxy.Cidr
