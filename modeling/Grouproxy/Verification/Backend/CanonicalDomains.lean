import Grouproxy.Verification.Backend.BlacklistRows

/-! # Canonical domains

The backend's expressions for a label and the monitor's loops over its bytes take the same names. A
name is what the normalization of some text gives exactly if the monitor takes it as canonical.
-/

namespace Grouproxy.Cidr

open Text Netip Ipaddress Backend
open Grouproxy.Bundle (isCanonicalHostnameLabel isCanonicalSourceDomain)

/-! ## Labels -/

theorem isLowerAlnum_of_canonical {label : List Char} (h : isCanonicalHostnameLabel label = true)
    {c : Char} (hc : c ∈ label) : isLowerAlnum c = true ∨ c = '-' := by
  simp only [isCanonicalHostnameLabel, Bool.and_eq_true, List.all_eq_true] at h
  have hchar := h.1.1.2 c hc
  rw [Bool.or_eq_true, beq_iff_eq] at hchar
  exact hchar

/-- The monitor takes only what the regular expression of a label matches. -/
theorem isHostnameLabel_of_canonical {label : List Char}
    (h : isCanonicalHostnameLabel label = true) : isHostnameLabel label = true := by
  have hmem := fun c (hc : c ∈ label) => isLowerAlnum_of_canonical h hc
  simp only [isCanonicalHostnameLabel, Bool.and_eq_true, decide_eq_true_eq, bne_iff_ne] at h
  obtain ⟨⟨⟨⟨hpos, hlength⟩, -⟩, hhead⟩, hlast⟩ := h
  cases label with
  | nil => cases hpos
  | cons c rest =>
      have hfirst : isLowerAlnum c = true := by
        apply (hmem c List.mem_cons_self).resolve_right
        rintro rfl
        exact hhead rfl
      rw [isHostnameLabel, hfirst, Bool.true_and, Bool.or_eq_true]
      rcases List.eq_nil_or_concat' rest with rfl | ⟨middle, last, rfl⟩
      · exact .inl rfl
      · right
        have hend : isLowerAlnum last = true := by
          apply (hmem last (by simp)).resolve_right
          rintro rfl
          exact hlast (by rw [← List.cons_append, List.getLast?_concat])
        have hmiddle : middle.all (fun d => isLowerAlnum d || d == '-') = true := by
          rw [List.all_eq_true]
          intro d hd
          rw [Bool.or_eq_true, beq_iff_eq]
          exact hmem d (by simp [hd])
        have hshort : (middle ++ [last]).length ≤ 62 := by
          rw [List.length_cons] at hlength
          omega
        rw [List.dropLast_concat, hmiddle, List.getLast?_concat, decide_eq_true hshort]
        exact hend

theorem isNumericAddressLabel_of_digits {label : List Char} (hne : label ≠ [])
    (h : ∀ c ∈ label, ('0' ≤ c && c ≤ '9') = true) : Bundle.isNumericAddressLabel label = true := by
  have hx : ¬ (label.take 2 = ['0', 'x'] ∧ 2 < label.length) := by
    rintro ⟨htake, -⟩
    have hmem : 'x' ∈ label := List.mem_of_mem_take (by rw [htake]; simp)
    exact absurd (h 'x' hmem) (by decide)
  rw [Bundle.isNumericAddressLabel, if_neg hx, List.all_eq_true.mpr h]
  simpa using hne

/-- A number in octal is one in decimal, so that both know the same numeric labels. -/
theorem isNumericAddressLabel_monitor {label : List Char} (h : isNumericAddressLabel label = true) :
    Bundle.isNumericAddressLabel label = true := by
  rw [isNumericAddressLabel, Bool.or_eq_true, Bool.or_eq_true] at h
  rcases h with (h | h) | h
  · simp only [Bool.and_eq_true, beq_iff_eq, Bool.not_eq_true', List.isEmpty_eq_false_iff] at h
    obtain ⟨⟨htake, hrest⟩, hall⟩ := h
    have hlength : 2 < label.length := by
      have hpos := List.length_pos_of_ne_nil hrest
      rw [List.length_drop] at hpos
      omega
    rw [Bundle.isNumericAddressLabel, if_pos ⟨htake, hlength⟩]
    exact hall
  · simp only [Bool.and_eq_true, beq_iff_eq, Bool.not_eq_true', List.isEmpty_eq_false_iff] at h
    obtain ⟨⟨hhead, hrest⟩, hall⟩ := h
    cases label with
    | nil => cases hhead
    | cons c rest =>
        cases hhead
        apply isNumericAddressLabel_of_digits (by simp)
        rw [List.forall_mem_cons]
        refine ⟨by decide, fun d hd => ?_⟩
        have hoctal := List.all_eq_true.mp hall d hd
        rw [Bool.and_eq_true, decide_eq_true_eq, decide_eq_true_eq] at hoctal ⊢
        exact ⟨hoctal.1, Char.le_trans hoctal.2 (by decide)⟩
  · rw [Bool.and_eq_true, Bool.not_eq_true', List.isEmpty_eq_false_iff, List.all_eq_true] at h
    exact isNumericAddressLabel_of_digits h.1 h.2

/-! ## Names -/

section Names

variable {pattern : String} (h : isCanonicalSourceDomain pattern = true)
include h

theorem labels_of_canonical :
    ∀ label ∈ pattern.toList.splitOn '.', isCanonicalHostnameLabel label = true := by
  rw [isCanonicalSourceDomain] at h
  split at h
  · cases h
  · split at h
    · cases h
    · rw [Bool.and_eq_true, List.all_eq_true] at h
      exact h.1

theorem mem_of_canonical {c : Char} (hc : c ∈ pattern.toList) :
    isLowerAlnum c = true ∨ c = '-' ∨ c = '.' := by
  rcases eq_or_mem_of_splitOn '.' hc with hdot | ⟨label, hlabel, hmem⟩
  · exact .inr (.inr hdot)
  · rcases isLowerAlnum_of_canonical (labels_of_canonical h label hlabel) hmem with hc | hc
    · exact .inl hc
    · exact .inr (.inl hc)

theorem notMem_of_canonical {c : Char} (hc : isLowerAlnum c = false) (hhyphen : c ≠ '-')
    (hdot : c ≠ '.') : c ∉ pattern.toList := by
  intro hmem
  rcases mem_of_canonical h hmem with hmem | hmem | hmem
  · rw [hc] at hmem
    cases hmem
  · exact hhyphen hmem
  · exact hdot hmem

/-- Some label of a canonical name is no number. -/
theorem notNumeric_of_canonical :
    (pattern.toList.splitOn '.').all Bundle.isNumericAddressLabel = false := by
  rw [isCanonicalSourceDomain] at h
  split at h
  · cases h
  · split at h
    · cases h
    · rw [Bool.and_eq_true, Bool.not_eq_true'] at h
      exact h.2

/-- The labels of an IPv4 address are numbers. -/
theorem ipv4Int?_of_canonical : ipv4Int? pattern.toList = none := by
  by_contra hsome
  obtain ⟨n, hn⟩ := Option.ne_none_iff_exists'.mp hsome
  have hall : (pattern.toList.splitOn '.').all Bundle.isNumericAddressLabel = true := by
    rw [List.all_eq_true]
    intro label hlabel
    have hcanonical := labels_of_canonical h label hlabel
    have hne : label ≠ [] := by
      rintro rfl
      cases hcanonical
    apply isNumericAddressLabel_of_digits hne
    intro c hc
    rcases mem_of_ipv4Int? hn (mem_of_mem_splitOn hlabel hc) with hdigit | rfl
    · simpa [Char.isDigit, Char.le_def] using hdigit
    · rcases isLowerAlnum_of_canonical hcanonical hc with hc | hc
      · exact absurd hc (by decide)
      · exact absurd hc (by decide)
  rw [notNumeric_of_canonical h] at hall
  cases hall

/-- An IPv6 address has colons. -/
theorem ipv6Address_of_canonical : ipv6Address pattern.toList = none := by
  have hslash := notMem_of_canonical h (by decide : isLowerAlnum '/' = false) (by decide) (by decide)
  have hpercent :=
    notMem_of_canonical h (by decide : isLowerAlnum '%' = false) (by decide) (by decide)
  have hcolon := notMem_of_canonical h (by decide : isLowerAlnum ':' = false) (by decide) (by decide)
  have hscope : splitScopeId pattern.toList = some (pattern.toList, "") := by
    have hdrop : pattern.toList.dropWhile (· ≠ '%') = [] := by
      rw [List.dropWhile_eq_nil_iff]
      intro c hc
      exact decide_eq_true (ne_of_mem_of_not_mem hc hpercent)
    rw [splitScopeId, hdrop]
  have hgroups : ipv6Int? pattern.toList = none := by
    rw [ipv6Int?, List.splitOn_eq_singleton hcolon, if_pos (by simp)]
  rw [ipv6Address, if_neg hslash, hscope]
  dsimp only
  rw [hgroups, Option.map_none]

/-- A canonical name is no address for the backend either. -/
theorem ipAddress_of_canonical : ipAddress pattern = none := by
  have hv4 : ipv4Address pattern.toList = none := by
    rw [ipv4Address, ipv4Int?_of_canonical h]
    split <;> rfl
  rw [ipAddress, hv4, ipv6Address_of_canonical h]
  rfl

theorem isHostname_of_canonical : IsHostname pattern.toList := by
  have hlabels : ∀ label ∈ pattern.toList.splitOn '.', isHostnameLabel label = true :=
    fun label hlabel => isHostnameLabel_of_canonical (labels_of_canonical h label hlabel)
  have hsize := utf8ByteSize_of_ascii fun c (hc : c ∈ pattern.toList) =>
    toNat_lt_of_hostnameLabels hlabels hc
  rw [String.ofList_toList] at hsize
  have hshape : pattern ≠ "" ∧ ¬ 253 < pattern.utf8ByteSize := by
    rw [isCanonicalSourceDomain] at h
    split at h
    · cases h
    · rename_i hshape
      rw [not_or, not_or] at hshape
      exact ⟨hshape.1, hshape.2.1⟩
  refine ⟨?_, by omega, ?_, hlabels, ?_⟩
  · rw [Ne, String.toList_eq_nil_iff]
    exact hshape.1
  · rw [String.ofList_toList]
    exact ipAddress_of_canonical h
  · by_contra hall
    rw [Bool.not_eq_false, List.all_eq_true] at hall
    have hnumeric := notNumeric_of_canonical h
    rw [List.all_eq_true.mpr fun label hlabel => isNumericAddressLabel_monitor (hall label hlabel)]
      at hnumeric
    cases hnumeric

end Names

/-! ## Patterns -/

/-- A pattern is accepted under a kind that is known. -/
theorem canonicalizeKind_of_normalize {kind value pattern : String}
    (h : normalizeSourceBlacklistPattern kind value = .ok pattern) :
    ∃ k, canonicalizeKind kind = .ok k := by
  rw [normalizeSourceBlacklistPattern] at h
  split at h
  · cases h
  · cases hk : canonicalizeKind kind with
    | error e =>
        rw [hk] at h
        cases h
    | ok k => exact ⟨k, rfl⟩

/-- The two names of a kind are normalized alike. -/
theorem normalize_eq_of_canonicalizeKind {kind k : String} (h : canonicalizeKind kind = .ok k)
    (value : String) :
    normalizeSourceBlacklistPattern kind value = normalizeSourceBlacklistPattern k value := by
  rw [normalizeSourceBlacklistPattern, normalizeSourceBlacklistPattern, h,
    canonicalizeKind_idempotent h]

theorem normalize_domain (value : String) : normalizeSourceBlacklistPattern "domain" value =
    if strip value = "" then .error "empty_source_blacklist_pattern"
    else normalizeSourceDomain value := rfl

/-- The normalization leaves its results alone for every kind, and the names it gives are those the
monitor takes as canonical. -/
theorem patterns_canonical :
    (∀ kind value pattern, normalizeSourceBlacklistPattern kind value = .ok pattern →
      normalizeSourceBlacklistPattern kind pattern = .ok pattern) ∧
    ∀ domain, (∃ value, normalizeSourceBlacklistPattern "domain" value = .ok domain) ↔
      isCanonicalSourceDomain domain = true := by
  constructor
  · intro kind value pattern h
    obtain ⟨k, hk⟩ := canonicalizeKind_of_normalize h
    have hself := canonicalizeKind_idempotent hk
    rw [normalize_eq_of_canonicalizeKind hk] at h ⊢
    exact normalizeSourceBlacklistPattern_idempotent hself h
  · intro domain
    constructor
    · rintro ⟨value, h⟩
      rw [normalize_domain] at h
      split at h
      · cases h
      · obtain ⟨name, hname, rfl⟩ := isHostname_of_normalizeSourceDomain h
        exact hname.isCanonical
    · intro h
      have hname := normalizeSourceDomain_of_isHostname (isHostname_of_canonical h)
      rw [String.ofList_toList] at hname
      refine ⟨domain, ?_⟩
      rw [normalize_domain, hname.2.1, if_neg hname.2.2]
      exact hname.1

end Grouproxy.Cidr
