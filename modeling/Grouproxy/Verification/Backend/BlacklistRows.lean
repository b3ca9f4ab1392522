import Grouproxy.Model.BlacklistMigration
import Grouproxy.Verification.Backend.RoutingPolicy
import Grouproxy.Verification.Policy.Acceptance

/-! # Blacklist rows

A canonical pattern is left alone by the normalization, and a row that was rewritten reads as the
canonical row it was rewritten to.
-/

namespace Grouproxy.Backend

open Text Netip Ipaddress Cidr

/-! ## Patterns -/

/-- An address that was read is printed so that it reads as itself. -/
theorem ipAddress_addressText {s : String} {a : Addr} (h : ipAddress s = some a) :
    ipAddress (String.ofList (addressText a)) = some a := by
  apply ipAddress_of_scope
  rw [ipAddress, Option.orElse_eq_some] at h
  rcases h with h | ⟨-, h⟩
  · rw [zone_of_ipv4Address h]
    simp
  · exact (zone_of_ipv6Address h).1

theorem strip_addressText {s : String} {a : Addr} (h : ipAddress (strip s) = some a) :
    strip (String.ofList (addressText a)) = String.ofList (addressText a) := by
  have hplain : ∀ c, c ∈ addressText a → c ∈ a.zone.toList ∨ IsPlainChar c := by
    intro c hc
    have hnetwork : c ∈ Ipaddress.networkText ⟨a, 0⟩ := List.mem_append_left _ hc
    exact mem_networkText hnetwork
  apply strip_eq_self
  · intro c hc
    rw [String.toList_ofList] at hc
    obtain ⟨d, ds, hparts, hd⟩ := networkText_parts ⟨a, 0⟩
    have hne : addressText a ≠ [] := List.ne_nil_of_mem (List.mem_of_mem_head? hc)
    have hhead : (addressText a).head? = some d := by
      have hfull := congrArg List.head? hparts
      rw [Ipaddress.networkText, List.head?_append_of_ne_nil _ hne] at hfull
      exact hfull
    rw [hhead] at hc
    cases hc
    exact (hd c List.mem_cons_self).2.2
  · intro c hc
    rw [String.toList_ofList] at hc
    by_cases hzone : a.zone = ""
    · rcases hplain c (List.mem_of_getLast? hc) with hmem | hc
      · simp [hzone] at hmem
      · exact hc.2.2
    · cases a with
      | v4 n => exact absurd rfl hzone
      | v6 n scope =>
          simp only [Addr.zone] at hzone
          have hne : scope.toList ≠ [] := fun hnil => hzone (String.toList_eq_nil_iff.mp hnil)
          have hscope := getLast?_scope h hzone
          simp only [addressText, zoneText, hzone, if_false] at hc
          rw [List.getLast?_append_of_ne_nil _ (by simp), List.getLast?_cons_of_ne_nil hne] at hc
          simp only [Addr.zone] at hscope
          rw [← hscope, strip, String.toList_ofList] at hc
          exact getLast?_trimBy c hc

theorem isDomain_of_isHostname {pattern : List Char} (h : IsHostname pattern) :
    IsDomain (String.ofList pattern) := by
  refine ⟨?_, ?_, h.notAddress⟩
  · rw [String.toList_ofList]
    exact h.labels
  · rw [String.toList_ofList]
    exact h.length

theorem checkHostname_of_isHostname {pattern : List Char} (h : IsHostname pattern) :
    checkHostname pattern = .ok (String.ofList pattern) := by
  have hlength := h.length
  have hlabels : (pattern.splitOn '.').all isHostnameLabel = true := by
    rw [List.all_eq_true]
    exact h.labels
  rw [checkHostname, if_neg (by rw [not_or]; exact ⟨h.ne_nil, by omega⟩), h.notAddress]
  simp [hlabels, h.notNumeric]

/-- A host name in lower case is left alone. -/
theorem normalizeSourceDomain_of_isHostname {name : List Char} (h : IsHostname name) :
    normalizeSourceDomain (String.ofList name) = .ok (String.ofList name) ∧
      strip (String.ofList name) = String.ofList name ∧ String.ofList name ≠ "" := by
  have hdomain := isDomain_of_isHostname h
  have hplain : ∀ c ∈ name, IsPlainChar c := by
    intro c hc
    apply hdomain.plain
    rw [String.toList_ofList]
    exact hc
  have hstrip : strip (String.ofList name) = String.ofList name := by
    apply strip_eq_self
    · intro c hc
      rw [String.toList_ofList] at hc
      exact (hplain c (List.mem_of_mem_head? hc)).2.2
    · intro c hc
      rw [String.toList_ofList] at hc
      exact (hplain c (List.mem_of_getLast? hc)).2.2
  have hne : String.ofList name ≠ "" := fun hempty => h.ne_nil (String.ofList_eq_empty_iff.mp hempty)
  have hlower : name.map Char.toLower = name.map id :=
    List.map_congr_left fun c hc => (hplain c hc).2.1
  have hascii : name.all (fun c => c.toNat < 128) = true := by
    rw [List.all_eq_true]
    intro c hc
    simpa using (hplain c hc).1
  refine ⟨?_, hstrip, hne⟩
  rw [normalizeSourceDomain, if_neg (by rw [not_or, not_not]; exact ⟨hne, hstrip.symm⟩),
    String.toList_ofList, if_neg (by rw [not_not]; exact hascii), hlower, List.map_id]
  dsimp only
  rw [if_neg h.getLast?]
  exact checkHostname_of_isHostname h

theorem isHostname_of_normalizeSourceDomain {value pattern : String}
    (h : normalizeSourceDomain value = .ok pattern) :
    ∃ name, IsHostname name ∧ pattern = String.ofList name := by
  rw [normalizeSourceDomain] at h
  split at h
  · cases h
  split at h
  · cases h
  exact ⟨_, isHostname_of_checkHostname h⟩

theorem normalizeSourceDomain_idempotent {value pattern : String}
    (h : normalizeSourceDomain value = .ok pattern) :
    normalizeSourceDomain pattern = .ok pattern ∧ strip pattern = pattern ∧ pattern ≠ "" := by
  obtain ⟨name, hname, rfl⟩ := isHostname_of_normalizeSourceDomain h
  exact normalizeSourceDomain_of_isHostname hname

theorem normalizeCidr_idempotent {value pattern : String} (h : normalizeCidr value = .ok pattern) :
    normalizeCidr pattern = .ok pattern ∧ strip pattern = pattern ∧ pattern ≠ "" := by
  rw [normalizeCidr] at h
  split at h
  · rename_i network hnetwork
    cases h
    refine ⟨?_, strip_networkText network, ?_⟩
    · rw [normalizeCidr, ipNetwork_networkText (isPrinted_of_ipNetwork hnetwork)]
    · obtain ⟨c, cs, hparts, -⟩ := networkText_parts network
      rw [hparts]
      exact fun hempty => by simpa using String.ofList_eq_empty_iff.mp hempty
  · cases h

theorem normalizeSourceIp_idempotent {value pattern : String}
    (h : normalizeSourceIp (strip value) = .ok pattern) :
    normalizeSourceIp pattern = .ok pattern ∧ strip pattern = pattern ∧ pattern ≠ "" := by
  rw [normalizeSourceIp] at h
  split at h
  · rename_i a ha
    cases h
    refine ⟨?_, strip_addressText ha, ?_⟩
    · rw [normalizeSourceIp, ipAddress_addressText ha]
    · intro hempty
      have hread := ipAddress_addressText ha
      rw [hempty] at hread
      cases hread
  · cases h

/-- A normalized pattern is left alone. -/
theorem normalizeSourceBlacklistPattern_idempotent {kind value pattern : String}
    (hkind : canonicalizeKind kind = .ok kind)
    (h : normalizeSourceBlacklistPattern kind value = .ok pattern) :
    normalizeSourceBlacklistPattern kind pattern = .ok pattern := by
  rw [normalizeSourceBlacklistPattern] at h
  split at h
  · cases h
  rw [hkind] at h
  dsimp only at h
  rw [normalizeSourceBlacklistPattern, hkind]
  dsimp only
  split at h
  · rename_i hip
    obtain ⟨hself, hstrip, hne⟩ := normalizeSourceIp_idempotent h
    rw [hstrip, if_neg hne, if_pos hip]
    exact hself
  · rename_i hip
    split at h
    · rename_i hcidr
      obtain ⟨hself, hstrip, hne⟩ := normalizeCidr_idempotent h
      rw [hstrip, if_neg hne, if_neg hip, if_pos hcidr]
      exact hself
    · rename_i hcidr
      obtain ⟨hself, hstrip, hne⟩ := normalizeSourceDomain_idempotent h
      rw [hstrip, if_neg hne, if_neg hip, if_neg hcidr]
      exact hself

theorem canonicalizeKind_idempotent {kind k : String} (h : canonicalizeKind kind = .ok k) :
    canonicalizeKind k = .ok k := by
  rcases (canonicalizeKind_ok h).2 with rfl | rfl | rfl
  · rfl
  · rfl
  · rfl

theorem canonicalizeDirection_idempotent {direction d : String}
    (h : canonicalizeDirection direction = .ok d) : canonicalizeDirection d = .ok d := by
  rw [canonicalizeDirection] at h
  split at h
  · rename_i hdirection
    cases h
    rw [canonicalizeDirection, if_pos hdirection]
  · cases h

theorem ruleKey?_idempotent {action direction kind pattern : String} {key : RuleKey}
    (h : ruleKey? action direction kind pattern = some key) :
    ruleKey? action key.direction key.kind key.pattern = some key := by
  rw [ruleKey?] at h
  split at h
  · rename_i d k hd hk
    split at h
    · rename_i p hp
      cases h
      have hself := canonicalizeKind_idempotent hk
      rw [ruleKey?, canonicalizeDirection_idempotent hd, hself]
      dsimp only
      rw [normalizeSourceBlacklistPattern_idempotent hself hp]
    · cases h
  · cases h

/-! ## Fields of a row -/

namespace RawRow

theorem get?_cons (k : String) (v : RawValue) (row : RawRow) (key : String) :
    get? ((k, v) :: row) key = if key = k then some v else get? row key := by
  by_cases h : key = k
  · simp [get?, h]
  · have hb : (key == k) = false := by simpa using h
    simp [get?, List.lookup_cons, h, hb]

theorem get?_set_self (row : RawRow) (key : String) (value : RawValue) :
    (row.set key value).get? key = some value := by
  induction row with
  | nil => simp [set, get?_cons]
  | cons f row ih =>
      obtain ⟨k, v⟩ := f
      by_cases h : k = key
      · simp [set, h, get?_cons]
      · rw [set, if_neg h, get?_cons, if_neg (Ne.symm h), ih]

theorem get?_set_ne (row : RawRow) {key other : String} (value : RawValue) (h : other ≠ key) :
    (row.set key value).get? other = row.get? other := by
  induction row with
  | nil => simp [set, h, get?]
  | cons f row ih =>
      obtain ⟨k, v⟩ := f
      by_cases hk : k = key
      · subst hk
        rw [set, if_pos rfl, get?_cons, get?_cons, if_neg h, if_neg h]
      · rw [set, if_neg hk, get?_cons, get?_cons, ih]

/-- Writing what is there changes nothing. -/
theorem set_eq_self {row : RawRow} {key : String} {value : RawValue}
    (h : row.get? key = some value) : row.set key value = row := by
  induction row with
  | nil => cases h
  | cons f row ih =>
      obtain ⟨k, v⟩ := f
      rw [get?_cons] at h
      by_cases hk : k = key
      · rw [if_pos hk.symm] at h
        cases h
        rw [set, if_pos hk]
      · rw [if_neg (Ne.symm hk)] at h
        rw [set, if_neg hk, ih h]

theorem get?_unset_self (row : RawRow) (key : String) : (row.unset key).get? key = none := by
  induction row with
  | nil => rfl
  | cons f row ih =>
      obtain ⟨k, v⟩ := f
      rw [unset] at ih ⊢
      by_cases hk : k = key
      · rw [List.filter_cons_of_neg (by simpa using hk)]
        exact ih
      · rw [List.filter_cons_of_pos (by simpa using hk), get?_cons, if_neg (Ne.symm hk)]
        exact ih

theorem get?_unset_ne (row : RawRow) {key other : String} (h : other ≠ key) :
    (row.unset key).get? other = row.get? other := by
  induction row with
  | nil => rfl
  | cons f row ih =>
      obtain ⟨k, v⟩ := f
      rw [unset] at ih ⊢
      by_cases hk : k = key
      · rw [List.filter_cons_of_neg (by simpa using hk), ih, get?_cons, if_neg (hk ▸ h)]
      · rw [List.filter_cons_of_pos (by simpa using hk), get?_cons, get?_cons, ih]

/-- Removing what is not there changes nothing. -/
theorem unset_eq_self {row : RawRow} {key : String} (h : row.get? key = none) :
    row.unset key = row := by
  induction row with
  | nil => rfl
  | cons f row ih =>
      obtain ⟨k, v⟩ := f
      rw [get?_cons] at h
      by_cases hk : key = k
      · rw [if_pos hk] at h
        cases h
      · rw [if_neg hk] at h
        have hrest := ih h
        rw [unset] at hrest ⊢
        rw [List.filter_cons_of_pos (by simpa using Ne.symm hk), hrest]

end RawRow

/-! ## Rewritten rows -/

/-- The row has the fields of the canonical row, and no retired ones. -/
structure Reads (row : RawRow) (canonical : CanonicalRow) : Prop where
  fields : ∀ f ∈ canonical.fields, row.get? f.1 = some f.2
  scope : row.get? "scope" = none
  siteId : row.get? "site_id" = none

theorem get?_foldl_set_of_notMem (fields row : RawRow) {key : String}
    (h : key ∉ fields.map Prod.fst) :
    RawRow.get? (fields.foldl (fun row f => RawRow.set row f.1 f.2) row) key = row.get? key := by
  induction fields generalizing row with
  | nil => rfl
  | cons g fields ih =>
      rw [List.map_cons, List.mem_cons, not_or] at h
      rw [List.foldl_cons, ih _ h.2, RawRow.get?_set_ne _ _ h.1]

theorem get?_foldl_set {fields row : RawRow} (hkeys : (fields.map Prod.fst).Nodup)
    {f : String × RawValue} (h : f ∈ fields) :
    RawRow.get? (fields.foldl (fun row f => RawRow.set row f.1 f.2) row) f.1 = some f.2 := by
  induction fields generalizing row with
  | nil => cases h
  | cons g fields ih =>
      rw [List.map_cons, List.nodup_cons] at hkeys
      rw [List.foldl_cons]
      rcases List.mem_cons.mp h with rfl | h
      · rw [get?_foldl_set_of_notMem _ _ hkeys.1, RawRow.get?_set_self]
      · exact ih hkeys.2 h

theorem foldl_set_eq_self {fields row : RawRow} (h : ∀ f ∈ fields, row.get? f.1 = some f.2) :
    fields.foldl (fun row f => RawRow.set row f.1 f.2) row = row := by
  induction fields with
  | nil => rfl
  | cons g fields ih =>
      rw [List.foldl_cons, RawRow.set_eq_self (h g List.mem_cons_self)]
      exact ih fun f hf => h f (List.mem_cons_of_mem g hf)

theorem fields_keys (canonical : CanonicalRow) : canonical.fields.map Prod.fst =
    ["node_id", "direction", "kind", "pattern", "comment", "enabled", "created_by",
      "created_at"] := rfl

theorem reads_rewrite (row : RawRow) (canonical : CanonicalRow) :
    Reads (row.rewrite canonical) canonical where
  fields f hf := by
    have hkey : f.1 ∈ ["node_id", "direction", "kind", "pattern", "comment", "enabled",
        "created_by", "created_at"] := fields_keys canonical ▸ List.mem_map_of_mem hf
    have hscope : f.1 ≠ "scope" := fun hsame => absurd (hsame ▸ hkey) (by decide)
    have hsite : f.1 ≠ "site_id" := fun hsame => absurd (hsame ▸ hkey) (by decide)
    rw [RawRow.rewrite, RawRow.get?_unset_ne _ hsite, RawRow.get?_unset_ne _ hscope]
    apply get?_foldl_set _ hf
    rw [fields_keys]
    decide
  scope := by
    rw [RawRow.rewrite, RawRow.get?_unset_ne _ (by decide), RawRow.get?_unset_self]
  siteId := by
    rw [RawRow.rewrite, RawRow.get?_unset_self]

theorem reads_fields (canonical : CanonicalRow) : Reads canonical.fields canonical where
  fields := by
    rw [CanonicalRow.fields]
    simp only [List.forall_mem_cons]
    exact ⟨rfl, rfl, rfl, rfl, rfl, rfl, rfl, rfl, fun f hf => absurd hf List.not_mem_nil⟩
  scope := rfl
  siteId := rfl

theorem Reads.rewrite_eq_self {row : RawRow} {canonical : CanonicalRow} (h : Reads row canonical) :
    row.rewrite canonical = row := by
  rw [RawRow.rewrite, foldl_set_eq_self h.fields, RawRow.unset_eq_self h.scope,
    RawRow.unset_eq_self h.siteId]

/-! ## Canonical rows -/

/-- What `_canonical_blacklist_fields` returns. -/
structure IsCanonical (canonical : CanonicalRow) : Prop where
  rule : ruleKey? "" canonical.key.direction canonical.key.kind canonical.key.pattern =
    some ⟨"", canonical.key.direction, canonical.key.kind, canonical.key.pattern⟩
  direction : canonical.key.direction ≠ ""
  nodeId : nodeIdText? (.str canonical.key.nodeId) = some canonical.key.nodeId
  comment : canonical.comment.toList.length ≤ 512
  createdBy : canonical.createdBy.toList.length ≤ 128
  createdBy_ne : canonical.createdBy ≠ ""

theorem nodeIdText?_idempotent {value : RawValue} {nodeId : String}
    (h : nodeIdText? value = some nodeId) : nodeIdText? (.str nodeId) = some nodeId := by
  cases value with
  | str s =>
      rw [nodeIdText?] at h
      split at h
      · cases h
      · rename_i hne
        cases h
        rw [nodeIdText?, strip_strip, if_neg hne]
  | null => cases h
  | bool b => cases h
  | date t => cases h
  | other b => cases h

theorem direction_ne_of_ruleKey? {direction kind pattern : String} {rule : RuleKey}
    (h : ruleKey? "" direction kind pattern = some rule) :
    rule.action = "" ∧ rule.direction ≠ "" := by
  rw [ruleKey?] at h
  split at h
  · rename_i d k hd hk
    split at h
    · cases h
      refine ⟨rfl, ?_⟩
      rw [canonicalizeDirection] at hd
      split at hd
      · rename_i hdirection
        cases hd
        rcases hdirection with rfl | rfl
        · exact (by decide : "source" ≠ "")
        · exact (by decide : "destination" ≠ "")
      · cases hd
    · cases h
  · cases h

theorem length_clip_le (limit : Nat) (s : String) : (clip limit s).toList.length ≤ limit := by
  rw [clip, String.toList_ofList]
  exact List.length_take_le limit s.toList

theorem length_commentText_le (row : RawRow) : (commentText row).toList.length ≤ 512 := by
  rw [commentText]
  split
  · exact length_clip_le 512 _
  · exact Nat.zero_le 512

theorem createdByText_spec (row : RawRow) :
    (createdByText row).toList.length ≤ 128 ∧ createdByText row ≠ "" := by
  rw [createdByText]
  split
  · split
    · decide
    · rename_i hne
      exact ⟨length_clip_le 128 _, hne⟩
  · decide

theorem isCanonical_of_canonicalBlacklistFields {now : Nat} {row : RawRow}
    {canonical : CanonicalRow} (h : canonicalBlacklistFields now row = some canonical) :
    IsCanonical canonical := by
  rw [canonicalBlacklistFields] at h
  split at h
  · rename_i rule nodeId enabled hrule hnode henabled
    cases h
    have hkey : ∃ direction kind pattern, ruleKey? "" direction kind pattern = some rule := by
      rw [rowRuleKey?] at hrule
      split at hrule
      · exact ⟨_, _, _, hrule⟩
      · cases hrule
    obtain ⟨direction, kind, pattern, hkey⟩ := hkey
    obtain ⟨haction, hdirection⟩ := direction_ne_of_ruleKey? hkey
    refine ⟨?_, hdirection, nodeIdText?_idempotent hnode, length_commentText_le row,
      (createdByText_spec row).1, (createdByText_spec row).2⟩
    obtain ⟨action, d, k, p⟩ := rule
    cases haction
    exact ruleKey?_idempotent hkey
  · cases h

/-- What is read from a row that was written: the free texts are cut again. -/
def CanonicalRow.again (canonical : CanonicalRow) : CanonicalRow :=
  { canonical with
    comment := clip 512 (strip canonical.comment)
    createdBy := if clip 128 (strip canonical.createdBy) = "" then "system"
      else clip 128 (strip canonical.createdBy) }

theorem key_again (canonical : CanonicalRow) : canonical.again.key = canonical.key := by
  rw [CanonicalRow.again]

theorem Reads.get? {row : RawRow} {canonical : CanonicalRow} (h : Reads row canonical) :
    row.get? "node_id" = some (.str canonical.key.nodeId) ∧
      row.get? "direction" = some (.str canonical.key.direction) ∧
      row.get? "kind" = some (.str canonical.key.kind) ∧
      row.get? "pattern" = some (.str canonical.key.pattern) ∧
      row.get? "comment" = some (.str canonical.comment) ∧
      row.get? "enabled" = some (.bool canonical.enabled) ∧
      row.get? "created_by" = some (.str canonical.createdBy) ∧
      row.get? "created_at" = some (.date canonical.createdAt) := by
  have hfields := h.fields
  rw [CanonicalRow.fields] at hfields
  simp only [List.forall_mem_cons] at hfields
  obtain ⟨h1, h2, h3, h4, h5, h6, h7, h8, -⟩ := hfields
  exact ⟨h1, h2, h3, h4, h5, h6, h7, h8⟩

/-- A row determines the canonical row it reads as. -/
theorem Reads.unique {row : RawRow} {canonical other : CanonicalRow} (h : Reads row canonical)
    (hother : Reads row other) : canonical = other := by
  obtain ⟨⟨n, d, k, p⟩, comment, enabled, createdBy, createdAt⟩ := canonical
  obtain ⟨⟨n', d', k', p'⟩, comment', enabled', createdBy', createdAt'⟩ := other
  have hthis := h.get?
  rw [hother.get?.1, hother.get?.2.1, hother.get?.2.2.1, hother.get?.2.2.2.1,
    hother.get?.2.2.2.2.1, hother.get?.2.2.2.2.2.1, hother.get?.2.2.2.2.2.2.1,
    hother.get?.2.2.2.2.2.2.2] at hthis
  simp only [Option.some.injEq, RawValue.str.injEq, RawValue.bool.injEq,
    RawValue.date.injEq] at hthis
  obtain ⟨rfl, rfl, rfl, rfl, rfl, rfl, rfl, rfl⟩ := hthis
  rfl

theorem rowRuleKey?_of_reads {row : RawRow} {canonical : CanonicalRow} (h : Reads row canonical)
    (hcanonical : IsCanonical canonical) : rowRuleKey? row =
      some ⟨"", canonical.key.direction, canonical.key.kind, canonical.key.pattern⟩ := by
  obtain ⟨-, hdirection, hkind, hpattern, -⟩ := h.get?
  rw [rowRuleKey?, RawRow.get, RawRow.get, RawRow.get, hdirection, hkind, hpattern]
  have hsource : directionOrSource (.str canonical.key.direction) =
      some canonical.key.direction := by
    have htruthy : (RawValue.str canonical.key.direction).isTruthy = true :=
      decide_eq_true hcanonical.direction
    rw [directionOrSource, if_pos htruthy]
  simp only [Option.getD_some, hsource]
  exact hcanonical.rule

theorem canonicalBlacklistFields_of_reads (now : Nat) {row : RawRow} {canonical : CanonicalRow}
    (h : Reads row canonical) (hcanonical : IsCanonical canonical) :
    canonicalBlacklistFields now row = some canonical.again := by
  obtain ⟨hnode, -, -, -, hcomment, henabled, hcreatedBy, hcreatedAt⟩ := h.get?
  have henabledFlag : enabledFlag? row = some canonical.enabled := by
    rw [enabledFlag?, henabled]
  have hnodeId : nodeIdText? (row.get "node_id") = some canonical.key.nodeId := by
    rw [RawRow.get, hnode]
    exact hcanonical.nodeId
  rw [canonicalBlacklistFields, rowRuleKey?_of_reads h hcanonical, hnodeId, henabledFlag]
  dsimp only
  rw [commentText, createdByText, createdAtTime, RawRow.get, RawRow.get, RawRow.get, hcomment,
    hcreatedBy, hcreatedAt]
  rfl

theorem clip_eq_self {limit : Nat} {s : String} (h : s.toList.length ≤ limit) : clip limit s = s := by
  rw [clip, List.take_of_length_le h, String.ofList_toList]

theorem again_eq_self_iff {canonical : CanonicalRow} (h : IsCanonical canonical) :
    canonical.again = canonical ↔
      strip canonical.comment = canonical.comment ∧ strip canonical.createdBy = canonical.createdBy := by
  obtain ⟨key, comment, enabled, createdBy, createdAt⟩ := canonical
  have hcomment := (length_strip_le comment).trans h.comment
  have hcreatedBy := (length_strip_le createdBy).trans h.createdBy
  have hne : createdBy ≠ "" := h.createdBy_ne
  rw [CanonicalRow.again, clip_eq_self hcomment, clip_eq_self hcreatedBy]
  simp only [CanonicalRow.mk.injEq, true_and, and_true]
  apply and_congr_right
  intro _
  split
  · rename_i hempty
    rw [hempty]
    constructor
    · rintro rfl
      exact absurd hempty (by decide)
    · intro hblank
      exact absurd hblank.symm hne
  · rfl

end Grouproxy.Backend
