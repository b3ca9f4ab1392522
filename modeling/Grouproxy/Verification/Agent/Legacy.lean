import Grouproxy.Verification.Agent.Restart
import Grouproxy.Verification.Policy.Acceptance

/-! # Sanitizing any persisted bundle

The conversion checks its entries one by one and the result as a whole, and only the whole has a
limit. So the sanitized bundle is accepted, and stays as it is, exactly if the conversion keeps at
most as many entries as a blacklist may have.
-/

namespace Grouproxy.Agent

open Value Grouproxy.Bundle Policy

/-! ## The entries of an earlier blacklist -/

/-- An entry in today's form. -/
structure LegacyEntry where
  direction : String
  kind : String
  pattern : String
  deriving DecidableEq

def LegacyEntry.fields (entry : LegacyEntry) : Fields :=
  [("direction", .str entry.direction), ("kind", .str entry.kind), ("pattern", .str entry.pattern)]

/-- The monitor accepts a blacklist of the entry alone. -/
def LegacyEntry.valid (entry : LegacyEntry) : Bool :=
  isCanonicalSourceBlacklist [("blacklist", .arr [.map entry.fields])]

/-- The texts of an entry, with the direction `source` by default and `network` as `cidr`. -/
def readLegacyEntry (raw : Any) : Option LegacyEntry :=
  raw.asMap?.map fun entry =>
    { direction :=
        if stringValue (entry.get "direction") = "" then "source"
        else stringValue (entry.get "direction")
      kind := canonicalKind (stringValue (entry.get "kind"))
      pattern := stringValue (entry.get "pattern") }

/-- The valid entries of an array, in its order and as often as they stand there. -/
def legacyEntries (raw : List Any) : List LegacyEntry :=
  (raw.filterMap readLegacyEntry).filter LegacyEntry.valid

/-- The array that is converted: `blacklist`, or else `source_blacklist`. -/
def chosenArray (value : Fields) : List Any :=
  match (value.get "blacklist").asArr?, (value.get "source_blacklist").asArr? with
  | some raw, _ => raw
  | none, some raw => raw
  | none, none => []

def LegacyEntry.key (entry : LegacyEntry) : String :=
  entry.direction ++ "\x00" ++ entry.kind ++ "\x00" ++ entry.pattern

theorem convertLegacyEntry_eq (raw : Any) :
    convertLegacyEntry raw = ((readLegacyEntry raw).filter LegacyEntry.valid).map
      LegacyEntry.fields := by
  rw [convertLegacyEntry, readLegacyEntry]
  cases raw.asMap? with
  | none => rfl
  | some fields =>
      let entry : LegacyEntry :=
        { direction := if stringValue (fields.get "direction") = "" then "source"
            else stringValue (fields.get "direction")
          kind := canonicalKind (stringValue (fields.get "kind"))
          pattern := stringValue (fields.get "pattern") }
      change (if entry.valid then some entry.fields else none) =
        ((some entry).filter LegacyEntry.valid).map LegacyEntry.fields
      cases hvalid : entry.valid with
      | true => simp [hvalid]
      | false => simp [hvalid]

theorem filterMap_convertLegacyEntry (raw : List Any) :
    raw.filterMap convertLegacyEntry = (legacyEntries raw).map LegacyEntry.fields := by
  rw [legacyEntries, List.filter_filterMap, List.map_filterMap]
  exact List.filterMap_congr fun item _ => convertLegacyEntry_eq item

/-- What a valid entry says, and its check in a longer list. -/
theorem LegacyEntry.valid_iff (entry : LegacyEntry) :
    entry.valid = true ↔ validateBlacklistEntry (.map entry.fields) = .ok () := by
  have hretired : rejectRetiredPolicyFields [("blacklist", .arr [.map entry.fields])] = .ok () := by
    simp [rejectRetiredPolicyFields, retiredPolicyFields, Fields.has, Fields.get?]
  rw [valid, isCanonicalSourceBlacklist, validateSourceBlacklist, hretired]
  simp only [Fields.get, Fields.get?_cons, if_true, Option.getD_some]
  rw [validateBlacklistEntries]
  simp only [Any.asArr?, List.length_singleton]
  rw [if_neg (by decide), firstError]
  cases validateBlacklistEntry (.map entry.fields) with
  | error e => simp
  | ok u => simp [firstError]

theorem LegacyEntry.valid_spec {entry : LegacyEntry} (h : entry.valid = true) :
    (entry.direction = "source" ∨ entry.direction = "destination") ∧
      (entry.kind = "ip" ∨ entry.kind = "cidr" ∨ entry.kind = "network" ∨ entry.kind = "domain") := by
  obtain ⟨fields, direction, kind, pattern, hfields, hd, hk, -, hdirection, -, hpattern⟩ :=
    validateBlacklistEntry_spec (entry.valid_iff.mp h)
  cases hfields
  cases hd
  cases hk
  exact ⟨hdirection, kind_cases hpattern⟩

/-- The key of a valid entry tells it from the others. -/
theorem LegacyEntry.key_inj {a b : LegacyEntry} (ha : a.valid = true) (hb : b.valid = true)
    (h : a.key = b.key) : a = b := by
  have hnul : ∀ {entry : LegacyEntry}, entry.valid = true →
      '\x00' ∉ entry.direction.toList ∧ '\x00' ∉ entry.kind.toList := by
    intro entry hvalid
    obtain ⟨hdirection, hkind⟩ := LegacyEntry.valid_spec hvalid
    constructor
    · rcases hdirection with hd | hd
      all_goals
        rw [hd]
        decide
    · rcases hkind with hk | hk | hk | hk
      all_goals
        rw [hk]
        decide
  have hl := congrArg String.toList h
  simp only [key, String.toList_append, List.append_assoc] at hl
  obtain ⟨hdirection, hl⟩ := append_separator_inj (hnul ha).1 (hnul hb).1 hl
  obtain ⟨hkind, hpattern⟩ := append_separator_inj (hnul ha).2 (hnul hb).2 hl
  obtain ⟨direction, kind, pattern⟩ := a
  obtain ⟨direction', kind', pattern'⟩ := b
  rw [LegacyEntry.mk.injEq]
  exact ⟨String.toList_inj.mp hdirection, String.toList_inj.mp hkind,
    String.toList_inj.mp hpattern⟩

/-- The entries that the conversion keeps. -/
def keptEntries (raw : List Any) : List LegacyEntry :=
  distinctBy LegacyEntry.key [] (legacyEntries raw)

theorem convertLegacyBlacklistEntries_eq (raw : List Any) :
    convertLegacyBlacklistEntries raw = (keptEntries raw).map fun entry => .map entry.fields := by
  have hkey : ∀ entry : LegacyEntry, legacyEntryKey entry.fields = entry.key := by
    intro entry
    simp [legacyEntryKey, LegacyEntry.fields, LegacyEntry.key, Fields.get, Fields.get?_cons]
  rw [convertLegacyBlacklistEntries, filterMap_convertLegacyEntry, keptEntries,
    ← map_distinctBy hkey, List.map_map]
  rfl

theorem valid_of_mem_legacyEntries {raw : List Any} {entry : LegacyEntry}
    (h : entry ∈ legacyEntries raw) : entry.valid = true := (List.mem_filter.mp h).2

/-- Exactly the valid entries are kept. -/
theorem mem_keptEntries {raw : List Any} {entry : LegacyEntry} :
    entry ∈ keptEntries raw ↔ entry ∈ legacyEntries raw := by
  constructor
  · exact mem_of_mem_distinctBy
  · intro hmem
    rcases exists_mem_distinctBy LegacyEntry.key [] hmem with hnone | hkept
    · cases hnone
    · obtain ⟨other, hother, hkey⟩ := hkept
      rw [← LegacyEntry.key_inj (valid_of_mem_legacyEntries (mem_of_mem_distinctBy hother))
        (valid_of_mem_legacyEntries hmem) hkey]
      exact hother

/-- And each of them once. -/
theorem nodup_keptEntries (raw : List Any) : (keptEntries raw).Nodup :=
  List.Nodup.of_map LegacyEntry.key (map_distinctBy_nodup [] _).1

theorem length_keptEntries (raw : List Any) :
    (keptEntries raw).length = (legacyEntries raw).dedup.length := by
  refine ((List.perm_ext_iff_of_nodup (nodup_keptEntries raw) (List.nodup_dedup _)).mpr ?_).length_eq
  intro entry
  rw [mem_keptEntries, List.mem_dedup]

/-! ## The sanitized bundle -/

section Sanitized

variable {value : Fields}

theorem get?_sanitizeListen (value : Fields) {key : String} (h : key ≠ "listen") :
    (sanitizeListen value).get? key = value.get? key := by
  rw [sanitizeListen]
  cases (value.get "listen").asMap? with
  | none => rfl
  | some listen =>
      dsimp only
      split
      · exact Fields.get?_put_ne _ h
      · rfl

/-- Retired fields and `source_blacklist` are gone, and what is not a policy stays. -/
theorem get?_sanitizeLegacyBundle (value : Fields) {key : String} (hblacklist : key ≠ "blacklist")
    (hlisten : key ≠ "listen") :
    (sanitizeLegacyBundle value).get? key =
      if key ∈ "source_blacklist" :: "proxy_auth" :: retiredPolicyFields then none
      else value.get? key := by
  rw [sanitizeLegacyBundle, get?_sanitizeListen _ hlisten, get?_canonicalizeBundleBlacklist _ hblacklist,
    get?_withoutRetired]
  by_cases hsource : key = "source_blacklist"
  · rw [if_pos hsource, hsource, if_pos List.mem_cons_self]
  · simp only [hsource, List.mem_cons, false_or, if_false]

theorem blacklist_of_canonical (h : isCanonicalSourceBlacklist (withoutRetired value) = true) :
    (sanitizeLegacyBundle value).get? "blacklist" = value.get? "blacklist" := by
  rw [sanitizeLegacyBundle, get?_sanitizeListen _ (by decide), canonicalizeBundleBlacklist, if_pos h,
    Fields.get?_delete, if_neg (by decide), get?_withoutRetired, if_neg (by decide)]

theorem chosenArray_withoutRetired (value : Fields) :
    chosenArray (withoutRetired value) = chosenArray value := by
  rw [chosenArray, Fields.get, Fields.get, get?_withoutRetired, get?_withoutRetired,
    if_neg (by decide), if_neg (by decide), chosenArray, Fields.get, Fields.get]

theorem canonicalizeBundleBlacklist_of_legacy (h : isCanonicalSourceBlacklist value = false) :
    canonicalizeBundleBlacklist value =
      (value.put "blacklist" (.arr (convertLegacyBlacklistEntries (chosenArray value)))).delete
        "source_blacklist" := by
  rw [canonicalizeBundleBlacklist, h, if_neg Bool.false_ne_true, chosenArray]
  cases (value.get "blacklist").asArr? with
  | some raw => rfl
  | none =>
      cases (value.get "source_blacklist").asArr? with
      | some raw => rfl
      | none => rfl

theorem blacklist_of_legacy (h : isCanonicalSourceBlacklist (withoutRetired value) = false) :
    (sanitizeLegacyBundle value).get? "blacklist" =
      some (.arr ((keptEntries (chosenArray value)).map fun entry => .map entry.fields)) := by
  rw [sanitizeLegacyBundle, get?_sanitizeListen _ (by decide),
    canonicalizeBundleBlacklist_of_legacy h, Fields.get?_delete, if_neg (by decide),
    Fields.get?_put_self, chosenArray_withoutRetired, convertLegacyBlacklistEntries_eq]

theorem rejectRetired_sanitized (value : Fields) :
    rejectRetiredPolicyFields (sanitizeLegacyBundle value) = .ok () := by
  have hnone : retiredPolicyFields.any (sanitizeLegacyBundle value).has = false := by
    rw [List.any_eq_false]
    intro key hkey
    rw [Fields.has, get?_sanitizeLegacyBundle, if_pos]
    · exact Bool.false_ne_true
    · exact List.mem_cons_of_mem _ (List.mem_cons_of_mem _ hkey)
    · rintro rfl
      exact absurd hkey (by decide)
    · rintro rfl
      exact absurd hkey (by decide)
  rw [rejectRetiredPolicyFields, hnone, if_neg Bool.false_ne_true]

/-- Every kept entry is valid, so only their number decides. -/
theorem accepted_of_legacy (h : isCanonicalSourceBlacklist (withoutRetired value) = false) :
    validateSourceBlacklist (sanitizeLegacyBundle value) = .ok () ↔
      (keptEntries (chosenArray value)).length ≤ 10000 := by
  have hvalid : firstError validateBlacklistEntry
      ((keptEntries (chosenArray value)).map fun entry => .map entry.fields) = .ok () := by
    rw [firstError_eq_ok]
    intro raw hraw
    obtain ⟨entry, hentry, rfl⟩ := List.mem_map.mp hraw
    exact entry.valid_iff.mp (valid_of_mem_legacyEntries (mem_keptEntries.mp hentry))
  rw [validateSourceBlacklist, rejectRetired_sanitized, Fields.get, blacklist_of_legacy h]
  simp only [Option.getD_some]
  rw [validateBlacklistEntries]
  simp only [Any.asArr?, List.length_map, hvalid]
  split
  · rename_i hlong
    exact iff_of_false (by simp) (by omega)
  · rename_i hshort
    exact iff_of_true rfl (by omega)

theorem isCanonicalSourceBlacklist_iff :
    isCanonicalSourceBlacklist value = true ↔ validateSourceBlacklist value = .ok () := by
  rw [isCanonicalSourceBlacklist]
  cases validateSourceBlacklist value with
  | ok u => simp
  | error e => simp

theorem accepted_of_canonical (h : isCanonicalSourceBlacklist (withoutRetired value) = true) :
    validateSourceBlacklist (sanitizeLegacyBundle value) = .ok () := by
  rw [isCanonicalSourceBlacklist_iff] at h
  rw [validateSourceBlacklist] at h
  rw [validateSourceBlacklist, rejectRetired_sanitized, Fields.get, blacklist_of_canonical
    (isCanonicalSourceBlacklist_iff.mpr (by rw [validateSourceBlacklist]; exact h))]
  cases hreject : rejectRetiredPolicyFields (withoutRetired value) with
  | error e =>
      rw [hreject] at h
      cases h
  | ok u =>
      rw [hreject, Fields.get, get?_withoutRetired, if_neg (by decide)] at h
      exact h

/-! ## A second call -/

theorem delete_of_not_has {key : String} (h : value.has key = false) : value.delete key = value := by
  induction value with
  | nil => rfl
  | cons f value ih =>
      obtain ⟨k, v⟩ := f
      rw [Fields.has, Fields.get?_cons] at h
      by_cases hk : key = k
      · rw [if_pos hk] at h
        cases h
      · rw [if_neg hk] at h
        rw [Fields.delete, List.filter_cons_of_pos (by simpa using Ne.symm hk)]
        exact congrArg _ (ih h)

theorem foldl_delete_of_not_has {keys : List String} (h : keys.any value.has = false) :
    keys.foldl Fields.delete value = value := by
  induction keys with
  | nil => rfl
  | cons key keys ih =>
      rw [List.any_cons, Bool.or_eq_false_iff] at h
      rw [List.foldl_cons, delete_of_not_has h.1, ih h.2]

/-- The port of a bundle is the one that is replaced. -/
def hasFirstPort (value : Fields) : Bool :=
  ((value.get "listen").asMap?.bind fun listen => (listen.get "http_port").asInt?) == some 80

theorem sanitizeListen_of_not_first (h : hasFirstPort value = false) : sanitizeListen value = value := by
  rw [hasFirstPort] at h
  rw [sanitizeListen]
  cases hlisten : (value.get "listen").asMap? with
  | none => rfl
  | some listen =>
      rw [hlisten, Option.bind_some, beq_eq_false_iff_ne] at h
      exact if_neg h

theorem hasFirstPort_sanitizeListen (value : Fields) : hasFirstPort (sanitizeListen value) = false := by
  by_cases hfirst : hasFirstPort value = false
  · rw [sanitizeListen_of_not_first hfirst, hfirst]
  · rw [Bool.not_eq_false, hasFirstPort, beq_iff_eq, Option.bind_eq_some_iff] at hfirst
    obtain ⟨listen, hlisten, hport⟩ := hfirst
    have hput : sanitizeListen value = value.put "listen"
        (.map (listen.put "http_port" (.int proxyListenPort))) := by
      rw [sanitizeListen, hlisten]
      exact if_pos hport
    rw [hput, hasFirstPort, Fields.get, Fields.get?_put_self]
    simp [Any.asMap?, Fields.get, Any.asInt?, proxyListenPort]

/-- Sanitizing changes nothing unless it says so. -/
theorem sanitizeLegacyBundle_of_not_legacy (h : isLegacyBundle value = false) :
    sanitizeLegacyBundle value = value := by
  simp only [isLegacyBundle, Bool.or_eq_false_iff, Bool.not_eq_false'] at h
  obtain ⟨⟨⟨hretired, hcanonical⟩, hsource⟩, hport⟩ := h
  have hwithout : withoutRetired value = value := foldl_delete_of_not_has hretired
  rw [hwithout] at hcanonical
  rw [sanitizeLegacyBundle, hwithout, canonicalizeBundleBlacklist, if_pos hcanonical,
    delete_of_not_has hsource]
  exact sanitizeListen_of_not_first hport

theorem not_has_sanitized {key : String} (hblacklist : key ≠ "blacklist") (hlisten : key ≠ "listen")
    (hkey : key ∈ "source_blacklist" :: "proxy_auth" :: retiredPolicyFields) :
    (sanitizeLegacyBundle value).has key = false := by
  rw [Fields.has, get?_sanitizeLegacyBundle _ hblacklist hlisten, if_pos hkey]
  rfl

/-- A sanitized bundle is taken for an earlier one exactly if it is not accepted. -/
theorem isLegacyBundle_sanitized (value : Fields) :
    isLegacyBundle (sanitizeLegacyBundle value) = false ↔
      validateSourceBlacklist (sanitizeLegacyBundle value) = .ok () := by
  have hretired : ("proxy_auth" :: retiredPolicyFields).any (sanitizeLegacyBundle value).has =
      false := by
    have hother : ∀ key ∈ "proxy_auth" :: retiredPolicyFields, key ≠ "blacklist" ∧ key ≠ "listen" := by
      decide
    rw [List.any_eq_false]
    intro key hkey
    have hnot : (sanitizeLegacyBundle value).has key = false :=
      not_has_sanitized (hother key hkey).1 (hother key hkey).2 (List.mem_cons_of_mem _ hkey)
    rw [hnot]
    exact Bool.false_ne_true
  have hsource : (sanitizeLegacyBundle value).has "source_blacklist" = false :=
    not_has_sanitized (by decide) (by decide) List.mem_cons_self
  have hwithout : withoutRetired (sanitizeLegacyBundle value) = sanitizeLegacyBundle value :=
    foldl_delete_of_not_has hretired
  have hport : hasFirstPort (sanitizeLegacyBundle value) = false := hasFirstPort_sanitizeListen _
  rw [hasFirstPort] at hport
  rw [isLegacyBundle, hretired, hwithout, hsource, hport, Bool.or_false, Bool.or_false,
    Bool.false_or, Bool.not_eq_false', isCanonicalSourceBlacklist_iff]

end Sanitized

/-- What restoring relies on after a call of `sanitizeLegacyBundle`. -/
structure IsSanitized (value : Fields) : Prop where
  accepted : validateSourceBlacklist (sanitizeLegacyBundle value) = .ok ()
  /-- A second call returns false and changes nothing. -/
  again : isLegacyBundle (sanitizeLegacyBundle value) = false
  fixpoint : sanitizeLegacyBundle (sanitizeLegacyBundle value) = sanitizeLegacyBundle value
  /-- A valid blacklist stays. Otherwise each valid entry of the chosen array is kept once. -/
  blacklist :
    if isCanonicalSourceBlacklist (withoutRetired value) then
      (sanitizeLegacyBundle value).get? "blacklist" = value.get? "blacklist"
    else
      ∃ kept : List LegacyEntry, kept.Nodup ∧
        (∀ entry, entry ∈ kept ↔ entry ∈ legacyEntries (chosenArray value)) ∧
        (sanitizeLegacyBundle value).get? "blacklist" =
          some (.arr (kept.map fun entry => .map entry.fields))

theorem isSanitized_of_accepted {value : Fields}
    (h : validateSourceBlacklist (sanitizeLegacyBundle value) = .ok ()) : IsSanitized value where
  accepted := h
  again := (isLegacyBundle_sanitized value).mpr h
  fixpoint := sanitizeLegacyBundle_of_not_legacy ((isLegacyBundle_sanitized value).mpr h)
  blacklist := by
    split
    · rename_i hcanonical
      exact blacklist_of_canonical hcanonical
    · rename_i hlegacy
      exact ⟨keptEntries (chosenArray value), nodup_keptEntries _, fun _ => mem_keptEntries,
        blacklist_of_legacy (Bool.not_eq_true _ ▸ hlegacy)⟩

/-- Any persisted bundle reaches an accepted fixpoint if and only if its blacklist was valid, or the
array that is converted has at most 10000 different valid entries. -/
theorem sanitizeLegacyBundle_iff (value : Fields) :
    IsSanitized value ↔
      isCanonicalSourceBlacklist (withoutRetired value) = true ∨
        (legacyEntries (chosenArray value)).dedup.length ≤ 10000 := by
  cases hcanonical : isCanonicalSourceBlacklist (withoutRetired value) with
  | true =>
      refine iff_of_true ?_ (.inl rfl)
      exact isSanitized_of_accepted (accepted_of_canonical hcanonical)
  | false =>
      have haccepted := accepted_of_legacy hcanonical
      rw [length_keptEntries] at haccepted
      constructor
      · exact fun h => .inr (haccepted.mp h.accepted)
      · rintro (hfalse | hlength)
        · cases hfalse
        · exact isSanitized_of_accepted (haccepted.mpr hlength)

/-! ## More valid entries than a blacklist may have -/

def addressEntry (n : Fin (2 ^ 32)) : LegacyEntry := ⟨"source", "ip", (Netip.Addr.v4 n).toString⟩

/-- The first addresses, in the array of the first releases. -/
def manyAddresses (count : Nat) : List LegacyEntry :=
  (List.range count).map fun n => addressEntry (Fin.ofNat (2 ^ 32) n)

def legacyBundle (count : Nat) : Fields :=
  [("source_blacklist", .arr ((manyAddresses count).map fun entry => .map entry.fields))]

theorem valid_addressEntry (n : Fin (2 ^ 32)) : (addressEntry n).valid = true := by
  have haccepted : Cidr.AcceptedPattern (canonicalKind "ip") (Netip.Addr.v4 n).toString := by
    refine ⟨addrText_ne_empty _, (trimSpace_addrText rfl).symm, ?_, ?_⟩
    · have htext : (Netip.Addr.v4 n).toString = String.ofList (Netip.ipv4Text n) := by
        rw [← String.toList_inj, Netip.toList_toString_of_zone rfl, String.toList_ofList]
        rfl
      have hascii : ∀ c ∈ Netip.ipv4Text n, c.toNat < 128 := by
        intro c hc
        rcases Netip.mem_ipv4Text hc with hdigit | rfl
        · exact Netip.toNat_lt_of_isHex (Netip.isHex_of_isDigit hdigit)
        · decide
      rw [htext, Text.utf8ByteSize_of_ascii hascii]
      have hlength := Cidr.length_ipv4Text n
      omega
    · exact if_pos (isCanonicalSourceIP_iff.mpr ⟨_, rfl⟩)
  rw [LegacyEntry.valid_iff]
  exact (Cidr.validateBlacklistEntry_fields rfl rfl rfl (.inl rfl)).mpr haccepted

theorem addressEntry_injective : Function.Injective addressEntry := by
  intro n m h
  have htext : (Netip.Addr.v4 n).toString = (Netip.Addr.v4 m).toString :=
    congrArg LegacyEntry.pattern h
  have hparse := Netip.parseAddr_toString (.v4 n)
  rw [htext, Netip.parseAddr_toString, Option.some.injEq] at hparse
  exact (Netip.Addr.v4.inj hparse).symm

theorem nodup_manyAddresses {count : Nat} (h : count ≤ 2 ^ 32) : (manyAddresses count).Nodup := by
  rw [manyAddresses, List.nodup_map_iff_inj_on List.nodup_range]
  intro n hn m hm heq
  have hvalue := congrArg Fin.val (addressEntry_injective heq)
  rw [List.mem_range] at hn hm
  rwa [Fin.val_ofNat, Fin.val_ofNat, Nat.mod_eq_of_lt (by omega), Nat.mod_eq_of_lt (by omega)]
    at hvalue

/-- Reading today's entries gives them back. -/
theorem legacyEntries_legacyBundle (count : Nat) :
    legacyEntries (chosenArray (legacyBundle count)) = manyAddresses count := by
  have hread : ∀ n, readLegacyEntry (.map (addressEntry n).fields) = some (addressEntry n) := by
    intro n
    rw [readLegacyEntry]
    simp [Any.asMap?, LegacyEntry.fields, addressEntry, Fields.get, Fields.get?_cons, canonicalKind]
  have harray : chosenArray (legacyBundle count) =
      (manyAddresses count).map fun entry => .map entry.fields := rfl
  rw [harray, legacyEntries, List.filterMap_map, manyAddresses, List.filterMap_map]
  have hsome : ∀ n ∈ List.range count,
      (((readLegacyEntry ∘ fun entry : LegacyEntry => .map entry.fields) ∘
        fun n => addressEntry (Fin.ofNat (2 ^ 32) n)) n) =
        some (addressEntry (Fin.ofNat (2 ^ 32) n)) := fun n _ => hread _
  rw [List.filterMap_congr hsome, List.filterMap_eq_map', List.filter_eq_self]
  intro entry hentry
  obtain ⟨n, -, rfl⟩ := List.mem_map.mp hentry
  exact valid_addressEntry _

/-- The addresses 0.0.0.0 to 0.0.39.16 in `source_blacklist`: the converted blacklist is refused. -/
theorem sanitizeLegacyBundle_tooLarge : ¬ IsSanitized (legacyBundle 10001) := by
  intro h
  have hlegacy : isCanonicalSourceBlacklist (withoutRetired (legacyBundle 10001)) = false := rfl
  have hlength := (accepted_of_legacy hlegacy).mp h.accepted
  rw [length_keptEntries, legacyEntries_legacyBundle,
    List.dedup_eq_self.mpr (nodup_manyAddresses (by decide)), manyAddresses, List.length_map,
    List.length_range] at hlength
  omega

end Grouproxy.Agent
