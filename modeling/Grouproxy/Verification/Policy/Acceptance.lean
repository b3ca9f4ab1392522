import Grouproxy.Verification.Policy.Portability

/-! # Acceptance of the backend's policy lists by the monitor -/

namespace Grouproxy.Cidr

open Text Netip Value Encoding Grouproxy.Bundle Policy Ipaddress

/-! ## Entries -/

theorem validateBlacklistEntry_fields {entry : Fields} {direction kind pattern : String}
    (hd : entry.get "direction" = .str direction) (hk : entry.get "kind" = .str kind)
    (hp : entry.get "pattern" = .str pattern)
    (hdir : direction = "source" ∨ direction = "destination") :
    validateBlacklistEntry (.map entry) = .ok () ↔ AcceptedPattern (canonicalKind kind) pattern := by
  have hdir' : ¬ (direction ≠ "source" ∧ direction ≠ "destination") := by tauto
  simp only [validateBlacklistEntry, Any.asMap?, hd, hk, hp, Any.asString?, if_neg hdir']
  by_cases hshape : pattern = "" ∨ pattern ≠ trimSpace pattern ∨ 512 < pattern.utf8ByteSize
  · rw [if_pos hshape]
    simp only [reduceCtorEq, false_iff]
    intro haccepted
    rcases hshape with hempty | htrim | hsize
    · exact haccepted.nonempty hempty
    · exact htrim haccepted.trimmed
    · exact absurd haccepted.size (by omega)
  · rw [if_neg hshape]
    simp only [not_or, ne_eq, not_not, not_lt] at hshape
    constructor
    · intro hvalid
      exact ⟨hshape.1, hshape.2.1, hshape.2.2, hvalid⟩
    · exact AcceptedPattern.valid

theorem validateAccessControlEntry_fields {entry : Fields} {action direction kind pattern : String}
    (ha : entry.get "action" = .str action) (hd : entry.get "direction" = .str direction)
    (hk : entry.get "kind" = .str kind) (hp : entry.get "pattern" = .str pattern)
    (hact : action = "allow" ∨ action = "deny")
    (hdir : direction = "source" ∨ direction = "destination") :
    validateAccessControlEntry (.map entry) = .ok () ↔
      AcceptedPattern (canonicalKind kind) pattern := by
  have hact' : ¬ (action ≠ "allow" ∧ action ≠ "deny") := by tauto
  have hdir' : ¬ (direction ≠ "source" ∧ direction ≠ "destination") := by tauto
  have hentry := @validateBlacklistEntry_fields [("direction", .str direction),
    ("kind", .str kind), ("pattern", .str pattern)] direction kind pattern rfl rfl rfl hdir
  rw [← hentry]
  simp only [validateAccessControlEntry, Any.asMap?, ha, hd, hk, hp, stringValue_str, if_neg hact',
    if_neg hdir', validateBlacklistEntries, Any.asArr?, List.length_singleton]
  rw [if_neg (by decide), firstError_eq_ok]
  simp

theorem ruleKey?_spec {action direction kind pattern : String} {key : RuleKey}
    (h : ruleKey? action direction kind pattern = some key) :
    key.action = action ∧ (key.direction = "source" ∨ key.direction = "destination") ∧
      key.kind = canonicalKind kind ∧ canonicalKind key.kind = key.kind ∧
      (AcceptedPattern (canonicalKind key.kind) key.pattern ↔
        isPortable (canonicalKind kind) pattern = true) := by
  rw [ruleKey?] at h
  split at h
  · rename_i d k hd hk
    split at h
    · rename_i p hp
      cases h
      obtain ⟨hkind, hcases⟩ := canonicalizeKind_ok hk
      have hself : canonicalKind k = k := by
        rw [hkind, canonicalKind_canonicalKind]
      refine ⟨rfl, ?_, hkind, hself, ?_⟩
      · rw [canonicalizeDirection] at hd
        split at hd
        · rename_i hdir
          cases hd
          exact hdir
        · cases hd
      · rw [hself, ← hkind]
        exact acceptedPattern_iff_isPortable hcases hp
    · cases h
  · cases h

/-! ## Lists -/

theorem length_sortEntries (entries : List PolicyEntry) :
    (sortEntries entries).length = entries.length :=
  (List.perm_insertionSort _ _).length_eq

theorem mem_sortEntries {entries : List PolicyEntry} {e : PolicyEntry} :
    e ∈ sortEntries entries ↔ e ∈ entries :=
  (List.perm_insertionSort _ _).mem_iff

/-- The rules of the enabled rows of a node. -/
def rowKeys (nodeId : String) (rows : List SourceBlacklist) : List RuleKey :=
  (nodeRows nodeId rows).filterMap fun row => ruleKey? "" row.direction row.kind row.pattern

/-- The rules of the enabled sets of a node, expanded through their groups. -/
def setKeys (nodeId : String) (sets : List AccessControlSet) (groups : List NetworkGroup) :
    List RuleKey :=
  (nodeSets nodeId sets).flatMap fun set => (setEntries groups set).filterMap fun entry =>
    ruleKey? set.mode.text set.direction entry.kind entry.pattern

theorem map_key_nodeRows (nodeId : String) (rows : List SourceBlacklist) :
    ((nodeRows nodeId rows).filterMap blacklistItem?).map PolicyEntry.key = rowKeys nodeId rows := by
  rw [List.map_filterMap, rowKeys]
  congr 1
  funext row
  simp [blacklistItem?, Function.comp_def]

theorem map_key_nodeSets (nodeId : String) (sets : List AccessControlSet)
    (groups : List NetworkGroup) :
    ((nodeSets nodeId sets).flatMap fun set =>
      (setEntries groups set).filterMap (accessItem? set)).map PolicyEntry.key =
      setKeys nodeId sets groups := by
  rw [List.map_flatMap, setKeys]
  congr 1
  funext set
  rw [List.map_filterMap]
  congr 1
  funext entry
  simp [accessItem?, Function.comp_def]

theorem length_effectiveBlacklist (nodeId : String) (rows : List SourceBlacklist) :
    (effectiveBlacklist nodeId rows).length = (rowKeys nodeId rows).dedup.length := by
  rw [effectiveBlacklist, length_sortEntries, length_distinctBy, map_key_nodeRows]

theorem length_effectiveAccessControl (nodeId : String) (sets : List AccessControlSet)
    (groups : List NetworkGroup) :
    (effectiveAccessControl nodeId sets groups).length =
      (setKeys nodeId sets groups).dedup.length := by
  rw [effectiveAccessControl, length_sortEntries, length_distinctBy, map_key_nodeSets]

/-- The rules of the policy lists. -/
theorem exists_key_effectiveBlacklist {nodeId : String} {rows : List SourceBlacklist}
    {key : RuleKey} :
    (∃ entry ∈ effectiveBlacklist nodeId rows, entry.key = key) ↔ key ∈ rowKeys nodeId rows := by
  simp only [effectiveBlacklist, mem_sortEntries]
  rw [exists_key_distinctBy, map_key_nodeRows]

theorem exists_key_effectiveAccessControl {nodeId : String} {sets : List AccessControlSet}
    {groups : List NetworkGroup} {key : RuleKey} :
    (∃ entry ∈ effectiveAccessControl nodeId sets groups, entry.key = key) ↔
      key ∈ setKeys nodeId sets groups := by
  simp only [effectiveAccessControl, mem_sortEntries]
  rw [exists_key_distinctBy, map_key_nodeSets]

/-- An entry as the monitor reads it from the blacklist. -/
theorem validateBlacklistEntry_blacklistJson {e : PolicyEntry}
    (hd : e.key.direction = "source" ∨ e.key.direction = "destination") :
    validateBlacklistEntry (decoded (blacklistJson e)) = .ok () ↔
      AcceptedPattern (canonicalKind e.key.kind) e.key.pattern :=
  validateBlacklistEntry_fields rfl rfl rfl hd

theorem validateAccessControlEntry_accessControlJson {e : PolicyEntry}
    (ha : e.key.action = "allow" ∨ e.key.action = "deny")
    (hd : e.key.direction = "source" ∨ e.key.direction = "destination") :
    validateAccessControlEntry (decoded (accessControlJson e)) = .ok () ↔
      AcceptedPattern (canonicalKind e.key.kind) e.key.pattern :=
  validateAccessControlEntry_fields rfl rfl rfl rfl ha hd

theorem validateSourceBlacklist_arr {value : Fields} {entries : List Any}
    (hb : value.get "blacklist" = .arr entries)
    (hr : rejectRetiredPolicyFields value = .ok ()) :
    validateSourceBlacklist value = .ok () ↔
      entries.length ≤ 10000 ∧ ∀ e ∈ entries, validateBlacklistEntry e = .ok () := by
  simp only [validateSourceBlacklist, hr, hb, validateBlacklistEntries, Any.asArr?]
  by_cases hlen : 10000 < entries.length
  · simp only [hlen, if_true, reduceCtorEq, false_iff]
    intro h
    omega
  · rw [if_neg hlen, firstError_eq_ok]
    simp only [not_lt] at hlen
    simp [hlen]

theorem validateAccessControl_arr {value : Fields} {entries : List Any}
    (ha : value.get "access_control" = .arr entries) :
    validateAccessControl value = .ok () ↔
      entries.length ≤ 20000 ∧ ∀ e ∈ entries, validateAccessControlEntry e = .ok () := by
  simp only [validateAccessControl, ha, Any.asArr?]
  by_cases hlen : 20000 < entries.length
  · simp only [hlen, if_true, reduceCtorEq, false_iff]
    intro h
    omega
  · rw [if_neg hlen, firstError_eq_ok]
    simp only [not_lt] at hlen
    simp [hlen]

/-- The stored policy of a node is portable: its patterns are, and its lists are not too
long once rows and groups are expanded and repetitions are dropped. -/
structure PortablePolicy (nodeId : String) (rows : List SourceBlacklist)
    (sets : List AccessControlSet) (groups : List NetworkGroup) : Prop where
  rowPatterns : ∀ row ∈ nodeRows nodeId rows,
    (ruleKey? "" row.direction row.kind row.pattern).isSome = true →
      isPortable (canonicalKind row.kind) row.pattern = true
  rowCount : (rowKeys nodeId rows).dedup.length ≤ 10000
  entryPatterns : ∀ set ∈ nodeSets nodeId sets, ∀ entry ∈ setEntries groups set,
    (ruleKey? set.mode.text set.direction entry.kind entry.pattern).isSome = true →
      isPortable (canonicalKind entry.kind) entry.pattern = true
  entryCount : (setKeys nodeId sets groups).dedup.length ≤ 20000

theorem forall_effectiveBlacklist (nodeId : String) (rows : List SourceBlacklist) :
    (∀ e ∈ effectiveBlacklist nodeId rows,
      validateBlacklistEntry (decoded (blacklistJson e)) = .ok ()) ↔
      ∀ row ∈ nodeRows nodeId rows,
        (ruleKey? "" row.direction row.kind row.pattern).isSome = true →
          isPortable (canonicalKind row.kind) row.pattern = true := by
  have hkey : ∀ e ∈ effectiveBlacklist nodeId rows,
      validateBlacklistEntry (decoded (blacklistJson e)) = .ok () ↔
        AcceptedPattern (canonicalKind e.key.kind) e.key.pattern := by
    intro e he
    obtain ⟨row, -, hrow⟩ := List.mem_filterMap.mp (mem_of_mem_distinctBy (mem_sortEntries.mp he))
    obtain ⟨key, hk, rfl⟩ := Option.map_eq_some_iff.mp hrow
    exact validateBlacklistEntry_blacklistJson (ruleKey?_spec hk).2.1
  have hdistinct := @forall_distinctBy_iff _ _ _ PolicyEntry.key
    ((nodeRows nodeId rows).filterMap blacklistItem?)
    (fun key => AcceptedPattern (canonicalKind key.kind) key.pattern)
  rw [forall₂_congr hkey]
  simp only [effectiveBlacklist, mem_sortEntries]
  rw [hdistinct]
  constructor
  · intro h row hrow hsome
    obtain ⟨key, hk⟩ := Option.isSome_iff_exists.mp hsome
    exact (ruleKey?_spec hk).2.2.2.2.mp
      (h ⟨row.id, key, ""⟩ (List.mem_filterMap.mpr ⟨row, hrow, by simp [blacklistItem?, hk]⟩))
  · intro h e he
    obtain ⟨row, hrow, hitem⟩ := List.mem_filterMap.mp he
    obtain ⟨key, hk, rfl⟩ := Option.map_eq_some_iff.mp hitem
    exact (ruleKey?_spec hk).2.2.2.2.mpr (h row hrow (by rw [hk]; rfl))

theorem mode_text (mode : Mode) : mode.text = "allow" ∨ mode.text = "deny" := by
  cases mode with
  | deny => exact .inr rfl
  | allow => exact .inl rfl

theorem forall_effectiveAccessControl (nodeId : String) (sets : List AccessControlSet)
    (groups : List NetworkGroup) :
    (∀ e ∈ effectiveAccessControl nodeId sets groups,
      validateAccessControlEntry (decoded (accessControlJson e)) = .ok ()) ↔
      ∀ set ∈ nodeSets nodeId sets, ∀ entry ∈ setEntries groups set,
        (ruleKey? set.mode.text set.direction entry.kind entry.pattern).isSome = true →
          isPortable (canonicalKind entry.kind) entry.pattern = true := by
  have hkey : ∀ e ∈ effectiveAccessControl nodeId sets groups,
      validateAccessControlEntry (decoded (accessControlJson e)) = .ok () ↔
        AcceptedPattern (canonicalKind e.key.kind) e.key.pattern := by
    intro e he
    obtain ⟨set, -, hset⟩ := List.mem_flatMap.mp (mem_of_mem_distinctBy (mem_sortEntries.mp he))
    obtain ⟨entry, -, hitem⟩ := List.mem_filterMap.mp hset
    obtain ⟨key, hk, rfl⟩ := Option.map_eq_some_iff.mp hitem
    refine validateAccessControlEntry_accessControlJson ?_ (ruleKey?_spec hk).2.1
    rw [(ruleKey?_spec hk).1]
    exact mode_text set.mode
  have hdistinct := @forall_distinctBy_iff _ _ _ PolicyEntry.key
    ((nodeSets nodeId sets).flatMap fun set => (setEntries groups set).filterMap (accessItem? set))
    (fun key => AcceptedPattern (canonicalKind key.kind) key.pattern)
  rw [forall₂_congr hkey]
  simp only [effectiveAccessControl, mem_sortEntries]
  rw [hdistinct]
  constructor
  · intro h set hset entry hentry hsome
    obtain ⟨key, hk⟩ := Option.isSome_iff_exists.mp hsome
    refine (ruleKey?_spec hk).2.2.2.2.mp (h ⟨set.id, key, set.reason⟩ ?_)
    exact List.mem_flatMap.mpr ⟨set, hset,
      List.mem_filterMap.mpr ⟨entry, hentry, by simp [accessItem?, hk]⟩⟩
  · intro h e he
    obtain ⟨set, hset, hmem⟩ := List.mem_flatMap.mp he
    obtain ⟨entry, hentry, hitem⟩ := List.mem_filterMap.mp hmem
    obtain ⟨key, hk, rfl⟩ := Option.map_eq_some_iff.mp hitem
    exact (ruleKey?_spec hk).2.2.2.2.mpr (h set hset entry hentry (by rw [hk]; rfl))

/-- The monitor accepts the policy lists of a node exactly if its stored policy is
portable. -/
theorem policy_accepted_iff (nodeId : String) (rows : List SourceBlacklist)
    (sets : List AccessControlSet) (groups : List NetworkGroup) :
    (validateSourceBlacklist (decodedFields (policyFields nodeId rows sets groups)) = .ok () ∧
      validateAccessControl (decodedFields (policyFields nodeId rows sets groups)) = .ok ()) ↔
      PortablePolicy nodeId rows sets groups := by
  have hblacklist : (decodedFields (policyFields nodeId rows sets groups)).get "blacklist" =
      .arr (((effectiveBlacklist nodeId rows).map blacklistJson).map decoded) := by
    rw [← decodedList_eq]
    rfl
  have haccess : (decodedFields (policyFields nodeId rows sets groups)).get "access_control" =
      .arr (((effectiveAccessControl nodeId sets groups).map accessControlJson).map decoded) := by
    rw [← decodedList_eq]
    rfl
  rw [validateSourceBlacklist_arr hblacklist rfl, validateAccessControl_arr haccess]
  simp only [List.length_map, length_effectiveBlacklist, length_effectiveAccessControl,
    List.forall_mem_map, forall_effectiveBlacklist, forall_effectiveAccessControl]
  constructor
  · rintro ⟨⟨hrowCount, hrows⟩, hentryCount, hentries⟩
    exact ⟨hrows, hrowCount, hentries, hentryCount⟩
  · intro h
    exact ⟨⟨h.rowCount, h.rowPatterns⟩, h.entryCount, h.entryPatterns⟩

/-- A policy as the request schemas let it be stored: patterns are normalized on writing,
and sizes are limited for each request. -/
structure StoredPolicy (rows : List SourceBlacklist) (sets : List AccessControlSet)
    (groups : List NetworkGroup) : Prop where
  rowPatterns : ∀ row ∈ rows, ∃ raw : String, raw.length ≤ 512 ∧
    normalizeSourceBlacklistPattern row.kind raw = .ok row.pattern
  groupEntries : ∀ group ∈ groups, group.entries ≠ [] ∧ group.entries.length ≤ 10000 ∧
    ∀ entry ∈ group.entries, ∃ raw : String, raw.length ≤ 512 ∧
      normalizeSourceBlacklistPattern entry.kind raw = .ok entry.pattern
  setSizes : ∀ set ∈ sets, set.networkGroupIds ≠ [] ∧ set.networkGroupIds.length ≤ 64 ∧
    set.nodeIds ≠ [] ∧ set.nodeIds.length ≤ 64

/-- An IPv4-mapped address passes the backend and fails the monitor. -/
theorem mapped_address_rejected :
    ¬ ∀ (nodeId : String) (rows : List SourceBlacklist) (sets : List AccessControlSet)
      (groups : List NetworkGroup), StoredPolicy rows sets groups →
      validateSourceBlacklist (decodedFields (policyFields nodeId rows sets groups)) = .ok () ∧
        validateAccessControl (decodedFields (policyFields nodeId rows sets groups)) = .ok () := by
  intro h
  have hrow := h "node-1" [⟨"1", "node-1", "source", "ip", "::ffff:102:304", true⟩] [] []
    ⟨by
      intro row hrow
      rw [List.mem_singleton] at hrow
      subst hrow
      exact ⟨"::ffff:1.2.3.4", by decide, by decide +kernel⟩, by simp, by simp⟩
  exact absurd hrow.1 (by decide +kernel)

end Grouproxy.Cidr
