import Grouproxy.Verification.Policy.Preview

/-! # Requests that both sides read alike

A request is written as two texts. If no address in it is IPv4-mapped and its host has no final dot,
the blacklist names it exactly if the engines match it.
-/

namespace Grouproxy.Cidr

open Text Netip Value Encoding Grouproxy.Bundle Policy Ipaddress
open Backend (Libraries)

/-! ## Requests -/

/-- The monitor reads a host as an address if it can. -/
def destinationOf (host : String) : Destination :=
  match parseAddr host with
  | some a => .address (Addr.toIP a)
  | none => .host host

/-- The request as it arrives. -/
def requestOf (source : Addr) (host : String) : Request := ⟨Addr.toIP source, destinationOf host⟩

/-- A host that the preview compares as the monitor does: a name without a final dot, or the text of
an address that is not IPv4-mapped. -/
inductive PlainHost (libs : Libraries) (host : String) : Prop where
  | name (hname : parseAddr host = none) (hread : ipAddress (hostText libs host) = none)
      (hlower : hostText libs host = toLower host)
  | address {a : Addr} (hz : a.zone = "") (hmapped : a.is4In6 = false) (htext : host = a.toString)
      (hlower : hostText libs host = host)

structure PlainRequest (libs : Libraries) (source : Addr) (host : String) : Prop where
  source : source.is4In6 = false
  host : PlainHost libs host

/-! ## Addresses -/

theorem unmap_bare {a : Addr} (h : a.is4In6 = false) : (bare a).unmap = bare a := by
  apply unmap_of_not_is4In6
  cases a with
  | v4 n => rfl
  | v6 n zone => exact h

theorem isNumericAddressLabel_toDigits (n : Nat) :
    Bundle.isNumericAddressLabel (Nat.toDigits 10 n) = true := by
  have hdigit : ∀ c ∈ Nat.toDigits 10 n, c.isDigit = true := fun c hc =>
    Nat.isDigit_of_mem_toDigits (by decide) (by decide) hc
  have hx : ¬ ((Nat.toDigits 10 n).take 2 = ['0', 'x'] ∧ 2 < (Nat.toDigits 10 n).length) := by
    rintro ⟨htake, -⟩
    have hmem : 'x' ∈ (Nat.toDigits 10 n).take 2 := by
      rw [htake]
      decide
    have hdigit := hdigit 'x' (List.mem_of_mem_take hmem)
    exact absurd hdigit (by decide)
  rw [Bundle.isNumericAddressLabel, if_neg hx, Bool.and_eq_true]
  constructor
  · rw [List.all_eq_true]
    intro c hc
    have hc := hdigit c hc
    simp only [Char.isDigit, Bool.and_eq_true, decide_eq_true_eq, ge_iff_le] at hc ⊢
    exact hc
  · simp

/-- A domain of the policy is no address, and some label of it is no number. -/
theorem isCanonicalSourceDomain_spec {domain : String} (h : isCanonicalSourceDomain domain = true) :
    parseAddr domain = none ∧
      ∃ label ∈ domain.toList.splitOn '.', Bundle.isNumericAddressLabel label = false := by
  rw [isCanonicalSourceDomain] at h
  split at h
  · cases h
  · split at h
    · cases h
    · rename_i haddress
      rw [Bool.and_eq_true, Bool.not_eq_true', List.all_eq_false] at h
      obtain ⟨-, label, hlabel, hnumeric⟩ := h
      exact ⟨by simpa using haddress, label, hlabel, by simpa using hnumeric⟩

/-- No address lies under a domain of the policy. -/
theorem not_isUnder_address {a : Addr} (hz : a.zone = "") (hmapped : a.is4In6 = false)
    {domain : String} (h : isCanonicalSourceDomain domain = true) :
    ¬ IsUnder domain a.toString := by
  obtain ⟨hnone, label, hlabel, hnumeric⟩ := isCanonicalSourceDomain_spec h
  rintro (hsame | ⟨sub, hsub⟩)
  · rw [← hsame, parseAddr_toString] at hnone
    cases hnone
  · have htext : addressText a = sub.toList ++ '.' :: domain.toList := by
      have hlist := congrArg String.toList hsub
      rw [← addressText_eq_toString hmapped, String.toList_ofList] at hlist
      simpa using hlist
    cases a with
    | v4 n =>
        have hsuffix : domain.toList.splitOn '.' <:+ (ipv4Text n).splitOn '.' :=
          splitOn_isSuffix_iff.mpr (.inr ⟨sub.toList, htext.symm⟩)
        rw [splitOn_ipv4Text] at hsuffix
        obtain ⟨octet, -, rfl⟩ := List.mem_map.mp (hsuffix.subset hlabel)
        rw [isNumericAddressLabel_toDigits] at hnumeric
        cases hnumeric
    | v6 n zone =>
        have hzone : zone = "" := hz
        subst hzone
        simp only [addressText, zoneText, if_true, List.append_nil] at htext
        apply dot_notMem_groupsText n
        rw [htext]
        simp

/-! ## Rules -/

theorem Names.not_sourceDomain {rule : SourceBlacklistRule} {source : Addr} {host : String}
    (h : Names rule source host) : isSourceDomain rule = false := by
  rw [← Bool.not_eq_true]
  intro hs
  obtain ⟨hk, hd⟩ := isSourceDomain_iff.mp hs
  cases h with
  | source _ hm => simp [Denotes, canonicalKind, hk] at hm
  | destination hd' => exact absurd (hd.symm.trans hd') (by decide)
  | domain hd' => exact absurd (hd.symm.trans hd') (by decide)

section Entry

variable {libs : Libraries} {source : Addr} {host : String} (hplain : PlainRequest libs source host)
  {e : PolicyEntry} (h : EnforcedEntry e)
include hplain h

/-- A rule whose source is no domain names a plain request exactly if the engines match it. -/
theorem names_iff_matches (lookup : Lookup) (hs : isSourceDomain (e.key.rule "deny") = false) :
    Names (e.key.rule "deny") source (hostText libs host) ↔
      Matches lookup (e.key.rule "deny") (requestOf source host) := by
  rcases ruleDirection_cases (e.key.rule "deny") with hd | hd
  · have haddr : (requestOf source host).source.addr = bare source := by
      rw [requestOf, addr_toIP_eq, unmap_bare hplain.source]
    rw [matches_source_iff hd hs, haddr]
    constructor
    · intro hnames
      cases hnames with
      | source _ hm => exact hm
      | destination hd' => exact absurd (hd.symm.trans hd') (by decide)
      | domain hd' => exact absurd (hd.symm.trans hd') (by decide)
    · exact .source hd
  · cases hplain.host with
    | name hname hread hlower =>
        have hdestination : (requestOf source host).destination = .host host := by
          simp only [requestOf, destinationOf, hname]
        constructor
        · intro hnames
          cases hnames with
          | source hd' => exact absurd (hd.symm.trans hd') (by decide)
          | destination _ hr =>
              rw [hread] at hr
              cases hr
          | domain _ hk hm =>
              rw [hlower] at hm
              exact .destinationDomain hd hk hdestination hm
        · intro hmatches
          cases hmatches with
          | source hd' => exact absurd (hd.symm.trans hd') (by decide)
          | sourceDomain hd' => exact absurd (hd.symm.trans hd') (by decide)
          | destination _ hr =>
              rw [hdestination] at hr
              cases hr
          | destinationDomain _ hk hr hm =>
              rw [hdestination] at hr
              cases hr
              exact .domain hd hk (hlower.symm ▸ hm)
    | @address a hz hmapped htext hlower =>
        have hdestination : (requestOf source host).destination = .address (Addr.toIP a) := by
          simp only [requestOf, destinationOf, htext, parseAddr_toString]
        have haddr : (Addr.toIP a).addr = bare a := by
          rw [addr_toIP_eq, unmap_bare hmapped]
        have hread : ipAddress (hostText libs host) = some a := by
          rw [hlower, htext, ← addressText_eq_toString hmapped]
          apply ipAddress_of_scope
          rw [hz]
          simp
        constructor
        · intro hnames
          cases hnames with
          | source hd' => exact absurd (hd.symm.trans hd') (by decide)
          | destination _ hr hm =>
              rw [hread] at hr
              cases hr
              exact .destination hd hdestination (haddr.symm ▸ hm)
          | domain _ hk hm =>
              have hvalid := h.validPattern
              have hkind : e.key.kind = "domain" := hk
              rw [hkind] at hvalid
              have hcanonical : isCanonicalSourceDomain e.key.pattern = true := by
                by_contra hno
                simp [validatePattern, hno] at hvalid
              rw [hlower, htext] at hm
              exact absurd hm (not_isUnder_address hz hmapped hcanonical)
        · intro hmatches
          cases hmatches with
          | source hd' => exact absurd (hd.symm.trans hd') (by decide)
          | sourceDomain hd' => exact absurd (hd.symm.trans hd') (by decide)
          | destination _ hr hm =>
              rw [hdestination] at hr
              cases hr
              exact .destination hd hread (haddr ▸ hm)
          | destinationDomain _ hk hr hm =>
              rw [hdestination] at hr
              cases hr

end Entry

/-! ## Agreement -/

/-- For a plain request three conditions are left: no allow rule opens the listener of a site that is
shut down, none exempts what the blacklist names, and no other deny rule of the access control
matches what it does not name. -/
theorem foreseen_iff_of_plain {libs : Libraries} {source : Addr} {host : String}
    (hplain : PlainRequest libs source host) {blacklist access : List PolicyEntry}
    (h : ∀ e ∈ blacklist, EnforcedEntry e) (lookup : Lookup) (shutdown : Bool) :
    Foreseen lookup (blacklistPolicy blacklist) (accessPolicy access) shutdown source
      (hostText libs host) (requestOf source host) ↔
      (shutdown = true → ¬ ∃ rule ∈ accessPolicy access,
        (rule.action = "allow" ∧ ruleDirection rule = "source") ∧
          Matches lookup rule (requestOf source host)) ∧
      (shutdown = false → Named (blacklistPolicy blacklist) source (hostText libs host) →
        ¬ Applies lookup (accessPolicy access) "allow" (requestOf source host)) ∧
      (shutdown = false → ¬ Named (blacklistPolicy blacklist) source (hostText libs host) →
        (¬ ∃ rule ∈ blacklistPolicy blacklist, isSourceDomain rule = true) →
          Applies lookup (accessPolicy access) "allow" (requestOf source host) ∨
            ¬ Applies lookup (accessPolicy access) "deny" (requestOf source host)) := by
  constructor
  · intro hforeseen
    refine ⟨hforeseen.closed, hforeseen.exempt, ?_⟩
    intro hopen hname hdomain
    apply (hforeseen.unnamed hopen hname hdomain).imp_right
    rintro hnone ⟨rule, hrule, hm⟩
    exact hnone ⟨rule, List.mem_append_right _ hrule, hm⟩
  · rintro ⟨hclosed, hexempt, hunnamed⟩
    refine ⟨hclosed, hexempt, ?_, ?_⟩
    · rintro - ⟨rule, hrule, hname⟩
      obtain ⟨e, he, rfl⟩ := List.mem_map.mp hrule
      refine ⟨_, List.mem_append_left _ hrule, rfl, ?_⟩
      exact (names_iff_matches hplain (h e he) lookup hname.not_sourceDomain).mp hname
    · intro hopen hname hdomain
      apply (hunnamed hopen hname hdomain).imp_right
      rintro hnone ⟨rule, hrule, ha, hm⟩
      rcases List.mem_append.mp hrule with hrule | hrule
      · apply hname
        obtain ⟨e, he, rfl⟩ := List.mem_map.mp hrule
        have hs : isSourceDomain (e.key.rule "deny") = false := by
          rw [← Bool.not_eq_true]
          exact fun hs => hdomain ⟨_, hrule, hs⟩
        exact ⟨_, hrule, (names_iff_matches hplain (h e he) lookup hs).mpr hm⟩
      · exact hnone ⟨rule, hrule, ha, hm⟩

end Grouproxy.Cidr
