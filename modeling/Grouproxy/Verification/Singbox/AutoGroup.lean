import Mathlib.Data.List.Perm.Subperm
import Mathlib.Data.List.Range
import Grouproxy.Verification.Singbox.Endpoints

/-! # The automatic group of a stored configuration

The names of the endpoints are read back from the selector of a stored configuration, and the
automatic group is rewritten under the same free name where it stands.
-/

namespace Grouproxy.Singbox

open Text Value Subscription

/-! ## Lists of maps -/

theorem findLast?_append (p : Fields → Bool) (xs ys : List Any) :
    findLast? p (xs ++ ys) = (findLast? p ys).or (findLast? p xs) := by
  simp [findLast?, List.filterMap_append]

theorem findLast?_map (p : Fields → Bool) (entries : List Fields) :
    findLast? p (entries.map Any.map) = entries.reverse.find? p := by
  have hmap : (entries.map Any.map).filterMap Any.asMap? = entries := by
    rw [List.filterMap_map]
    exact List.filterMap_some
  rw [findLast?, hmap]

theorem findLast?_concat_pos {p : Fields → Bool} {xs : List Any} {m : Fields} (h : p m = true) :
    findLast? p (xs ++ [.map m]) = some m := by
  simp [findLast?, List.filterMap_append, Any.asMap?, h]

theorem findLast?_concat_neg {p : Fields → Bool} {xs : List Any} {m : Fields} (h : p m = false) :
    findLast? p (xs ++ [.map m]) = findLast? p xs := by
  simp [findLast?, List.filterMap_append, Any.asMap?, h]

theorem updateLast_concat_pos {p : Fields → Bool} {f : Fields → Fields} {xs : List Any} {m : Fields}
    (h : p m = true) : updateLast p f (xs ++ [.map m]) = xs ++ [.map (f m)] := by
  induction xs with
  | nil => simp [updateLast, isMapWith, Any.asMap?, h]
  | cons x xs ih =>
      have hany : (xs ++ [Any.map m]).any (isMapWith p) = true := by
        simp [isMapWith, Any.asMap?, h]
      rw [List.cons_append, updateLast, if_pos hany, ih, List.cons_append]

theorem updateLast_concat_neg {p : Fields → Bool} {f : Fields → Fields} {xs : List Any} {m : Fields}
    (h : p m = false) : updateLast p f (xs ++ [.map m]) = updateLast p f xs ++ [.map m] := by
  have hm : isMapWith p (.map m) = false := by simpa [isMapWith, Any.asMap?] using h
  induction xs with
  | nil => simp [updateLast, hm]
  | cons x xs ih =>
      have hany : (xs ++ [Any.map m]).any (isMapWith p) = xs.any (isMapWith p) := by
        simp [hm]
      rw [List.cons_append, updateLast, updateLast, hany, ih]
      split
      · rfl
      · split
        · rfl
        · rfl

/-! ## The name of the automatic group -/

theorem autoCandidate_injective : Function.Injective autoCandidate := by
  intro i j h
  cases i with
  | zero =>
      cases j with
      | zero => rfl
      | succ j =>
          have hl := congrArg (fun s => s.toList.length) h
          simp [autoCandidate] at hl
  | succ i =>
      cases j with
      | zero =>
          have hl := congrArg (fun s => s.toList.length) h
          simp [autoCandidate] at hl
      | succ j =>
          have hl := congrArg String.toList h
          simp only [autoCandidate, String.toList_append, List.append_cancel_left_eq,
            Nat.toString_eq_ofList_toDigits, String.toList_ofList] at hl
          have hdigits := congrArg (fun cs => Nat.ofDigitChars 10 cs 0) hl
          simpa only [Nat.ofDigitChars_ten_toDigits] using hdigits

/-- One of the candidates is free: there are more of them than tags. -/
theorem exists_free_candidate (tags : List String) :
    ∃ tag ∈ (List.range (tags.length + 1)).map autoCandidate, tag ∉ tags := by
  by_contra hnone
  push Not at hnone
  have hnodup : ((List.range (tags.length + 1)).map autoCandidate).Nodup :=
    List.nodup_range.map autoCandidate_injective
  have hlength := (hnodup.subperm hnone).length_le
  simp only [List.length_map, List.length_range] at hlength
  omega

theorem subscriptionAutoTag_spec (tags : List String) :
    subscriptionAutoTag tags ∉ tags ∧ ∃ n, subscriptionAutoTag tags = autoCandidate n := by
  rw [subscriptionAutoTag]
  cases hfind : ((List.range (tags.length + 1)).map autoCandidate).find? fun tag => tag ∉ tags with
  | none =>
      obtain ⟨tag, hmem, hfree⟩ := exists_free_candidate tags
      exact absurd (List.find?_eq_none.mp hfind tag hmem) (by simpa using hfree)
  | some tag =>
      refine ⟨by simpa using List.find?_some hfind, ?_⟩
      obtain ⟨n, -, hn⟩ := List.mem_map.mp (List.mem_of_find?_eq_some hfind)
      exact ⟨n, hn.symm⟩

theorem autoCandidate_notOwned (n : Nat) :
    autoCandidate n ≠ "subscription" ∧ autoCandidate n ≠ "direct" := by
  have hprefix : "auto".toList <+: (autoCandidate n).toList := by
    cases n with
    | zero => exact List.prefix_rfl
    | succ n =>
        rw [autoCandidate, String.toList_append]
        exact List.IsPrefix.trans (by decide +kernel) (List.prefix_append _ _)
  constructor
  · intro h
    rw [h] at hprefix
    exact absurd hprefix (by decide +kernel)
  · intro h
    rw [h] at hprefix
    exact absurd hprefix (by decide +kernel)


theorem subscriptionAutoTag_notOwned (tags : List String) :
    subscriptionAutoTag tags ≠ "subscription" ∧ subscriptionAutoTag tags ≠ "direct" := by
  obtain ⟨-, n, hn⟩ := subscriptionAutoTag_spec tags
  rw [hn]
  exact autoCandidate_notOwned n

/-! ## Endpoints read back -/

theorem get_jsonTreeFields (m : Fields) (key : String) :
    Fields.get (jsonTreeFields m) key = jsonTree (m.get key) := by
  rw [Fields.get, Fields.get, get?_jsonTreeFields]
  cases Fields.get? m key with
  | none => rfl
  | some v => rfl

theorem stringValue_tag_jsonTreeFields {entry : Fields} (h : Endpoint entry) :
    stringValue (Fields.get (jsonTreeFields entry) "tag") = stringValue (entry.get "tag") := by
  obtain ⟨tag, htag⟩ := h.tag
  rw [get_jsonTreeFields, stringValue_jsonTree_str htag, htag, stringValue_str]

theorem Endpoint.jsonTreeFields {entry : Fields} (h : Endpoint entry) :
    Endpoint (jsonTreeFields entry) := by
  have htrimmed : trimmedTag (Value.jsonTreeFields entry) = trimmedTag entry := by
    rw [trimmedTag, stringValue_tag_jsonTreeFields h, trimmedTag]
  obtain ⟨kind, hkind, hsupported⟩ := h.type
  obtain ⟨tag, htag⟩ := h.tag
  refine ⟨⟨kind, ?_, hsupported⟩, ⟨tag, ?_⟩, ?_, ?_⟩
  · rw [get_jsonTreeFields, hkind, jsonTree]
  · rw [get_jsonTreeFields, htag, jsonTree]
  · rw [htrimmed]
    exact h.notBlank
  · rw [htrimmed]
    exact h.notOwned

theorem EndpointList.entryTags_jsonTreeFields {entries : List Fields} (h : EndpointList entries) :
    entryTags (entries.map Value.jsonTreeFields) = entryTags entries := by
  rw [entryTags, entryTags, List.map_map]
  apply List.map_congr_left
  intro entry hentry
  exact stringValue_tag_jsonTreeFields (h.endpoints entry hentry)

theorem EndpointList.jsonTreeFields {entries : List Fields} (h : EndpointList entries) :
    EndpointList (entries.map Value.jsonTreeFields) := by
  refine ⟨?_, ?_⟩
  · intro e he
    obtain ⟨entry, hentry, rfl⟩ := List.mem_map.mp he
    exact (h.endpoints entry hentry).jsonTreeFields
  · rw [h.entryTags_jsonTreeFields]
    exact h.nodup

/-- The tag of an endpoint is none of the names that the monitor gives. -/
theorem Endpoint.stringValue_tag_ne {entry : Fields} (h : Endpoint entry) :
    stringValue (entry.get "tag") ≠ "" ∧ stringValue (entry.get "tag") ≠ "direct" ∧
      stringValue (entry.get "tag") ≠ "subscription" := by
  refine ⟨?_, ?_, ?_⟩
  · intro htag
    refine h.notBlank ?_
    rw [trimmedTag, htag]
    decide +kernel
  · intro htag
    refine h.notOwned ?_
    rw [trimmedTag, htag]
    decide +kernel
  · intro htag
    refine h.notOwned ?_
    rw [trimmedTag, htag]
    decide +kernel

theorem EndpointList.taggedOutbounds {entries : List Fields} (h : EndpointList entries) :
    taggedOutbounds (entries.map Any.map) = entries := by
  have hmap : (entries.map Any.map).filterMap Any.asMap? = entries := by
    rw [List.filterMap_map]
    exact List.filterMap_some
  rw [Singbox.taggedOutbounds, hmap, List.filter_eq_self]
  intro entry hentry
  simpa using (h.endpoints entry hentry).stringValue_tag_ne.1

/-! ## The automatic group -/

/-- The outbounds of a configuration that was rendered and stored. -/
def storedOutbounds (value : Fields) (entries : List Fields) : List Any :=
  (renderOutbounds value entries).map jsonTree

theorem storedOutbounds_of_ne_nil (value : Fields) {entries : List Fields} (hne : entries ≠ []) :
    storedOutbounds value entries =
      (directOutbound :: (entries.map jsonTreeFields).map Any.map ++
        [.map (jsonTreeFields (subscriptionAutoGroup (subscriptionAutoTag (entryTags entries))
          (entryTags entries)))]) ++
        [.map (jsonTreeFields (subscriptionSelector value (entryTags entries)))] := by
  simp [storedOutbounds, renderOutbounds, hne, jsonTree, jsonTreeFields, directOutbound]

theorem isSelector_selector (value : Fields) (tags : List String) :
    isSelector (jsonTreeFields (subscriptionSelector value tags)) = true := by
  simp [isSelector, subscriptionSelector, jsonTreeFields, jsonTree, Fields.get, Fields.get?_cons,
    Any.asString?]

/-- A tag of an entry is found at an entry, behind which come only other names. -/
theorem findLast?_hasTag {entries : List Fields} (h : EndpointList entries) (value : Fields)
    {tag : String} (hmem : tag ∈ entryTags entries) :
    ∃ entry, findLast? (hasTag tag) (storedOutbounds value entries) = some entry ∧
      isDelayProbeable entry = true := by
  have hne : entries ≠ [] := by
    intro hnil
    rw [hnil] at hmem
    exact absurd hmem List.not_mem_nil
  obtain ⟨entry, hentry, htag⟩ := List.mem_map.mp hmem
  have hnames := (h.endpoints entry hentry).stringValue_tag_ne
  rw [htag] at hnames
  have hselector : hasTag tag (jsonTreeFields (subscriptionSelector value (entryTags entries))) =
      false := by
    simpa [hasTag, subscriptionSelector, jsonTreeFields, jsonTree, Fields.get, Fields.get?_cons]
      using fun hh => hnames.2.2 hh.symm
  have hauto : subscriptionAutoTag (entryTags entries) ≠ tag := by
    intro hh
    exact (subscriptionAutoTag_spec (entryTags entries)).1 (hh ▸ hmem)
  have hgroup : hasTag tag (jsonTreeFields (subscriptionAutoGroup
      (subscriptionAutoTag (entryTags entries)) (entryTags entries))) = false := by
    simpa [hasTag, subscriptionAutoGroup, jsonTreeFields, jsonTree, Fields.get, Fields.get?_cons]
      using hauto
  rw [storedOutbounds_of_ne_nil value hne, findLast?_concat_neg hselector,
    findLast?_concat_neg hgroup, ← List.singleton_append, findLast?_append, findLast?_map]
  cases hfind : (entries.map jsonTreeFields).reverse.find? (hasTag tag) with
  | none =>
      have hnone := List.find?_eq_none.mp hfind (jsonTreeFields entry)
        (List.mem_reverse.mpr (List.mem_map_of_mem hentry))
      simp [hasTag, stringValue_tag_jsonTreeFields (h.endpoints entry hentry), htag] at hnone
  | some found =>
      have hmem := List.mem_reverse.mp (List.mem_of_find?_eq_some hfind)
      exact ⟨found, rfl, isDelayProbeable_of_hasSupportedType
        (h.jsonTreeFields.endpoints found hmem).type⟩

theorem isDelayProbeable_group (tag : String) (tags : List String) :
    isDelayProbeable (jsonTreeFields (subscriptionAutoGroup tag tags)) = false := by
  have htype : stringValue (Fields.get (jsonTreeFields (subscriptionAutoGroup tag tags)) "type") =
      "urltest" := by
    rw [get_jsonTreeFields]
    rfl
  rw [isDelayProbeable, htype]
  decide +kernel

theorem hasTag_group (tag : String) (tags : List String) :
    hasTag tag (jsonTreeFields (subscriptionAutoGroup tag tags)) = true := by
  simp [hasTag, subscriptionAutoGroup, jsonTreeFields, jsonTree, Fields.get, Fields.get?_cons]

theorem hasTag_selector_auto (value : Fields) (tags : List String) :
    hasTag (subscriptionAutoTag tags) (jsonTreeFields (subscriptionSelector value tags)) = false := by
  simpa [hasTag, subscriptionSelector, jsonTreeFields, jsonTree, Fields.get, Fields.get?_cons]
    using fun hh => (subscriptionAutoTag_notOwned tags).1 hh.symm

theorem findLast?_auto (value : Fields) {entries : List Fields} (hne : entries ≠ []) :
    findLast? (hasTag (subscriptionAutoTag (entryTags entries))) (storedOutbounds value entries) =
      some (jsonTreeFields (subscriptionAutoGroup (subscriptionAutoTag (entryTags entries))
        (entryTags entries))) := by
  rw [storedOutbounds_of_ne_nil value hne, findLast?_concat_neg (hasTag_selector_auto value _),
    findLast?_concat_pos (hasTag_group _ _)]

/-- The names of the selector, without the automatic group, are those of the entries. -/
theorem probeableTags_stored {entries : List Fields} (h : EndpointList entries) (value : Fields)
    (hne : entries ≠ []) :
    probeableTags (storedOutbounds value entries)
      (jsonTreeFields (subscriptionSelector value (entryTags entries))) = entryTags entries := by
  have hslice : stringSlice (Fields.get (jsonTreeFields
      (subscriptionSelector value (entryTags entries))) "outbounds") =
      subscriptionAutoTag (entryTags entries) :: entryTags entries := by
    simp [subscriptionSelector, jsonTreeFields, jsonTree, Fields.get, Fields.get?_cons, stringSlice,
      Function.comp_def]
  rw [probeableTags, hslice, List.filter_cons_of_neg, List.filter_eq_self]
  · intro tag htag
    obtain ⟨entry, hfind, hprobe⟩ := findLast?_hasTag h value htag
    rw [hfind, Option.any_some, hprobe]
  · rw [findLast?_auto value hne, Option.any_some, isDelayProbeable_group]
    decide

theorem putAll_group (tag : String) (tags : List String) :
    putAll (jsonTreeFields (subscriptionAutoGroup tag tags)) (subscriptionAutoGroup tag tags) =
      subscriptionAutoGroup tag tags := by
  simp [putAll, subscriptionAutoGroup, jsonTreeFields, Fields.put]

theorem selectorUpdate_selector (stored lastGood : Fields) (tags : List String) :
    selectorUpdate lastGood tags (jsonTreeFields (subscriptionSelector stored tags)) =
      subscriptionSelector lastGood tags := by
  simp [selectorUpdate, subscriptionSelector, jsonTreeFields, Fields.put, jsonTree]

/-- The group is rewritten in place and the selector gets the default of the last good bundle. -/
theorem updated_outbounds {entries : List Fields} (h : EndpointList entries) (hne : entries ≠ [])
    (stored lastGood : Fields) :
    updateLast isSelector (selectorUpdate lastGood (entryTags entries))
      (placeAutoGroup (subscriptionAutoTag (entryTags entries)) (entryTags entries)
        (storedOutbounds stored entries)) =
      renderOutbounds lastGood (entries.map jsonTreeFields) := by
  have htype : (Fields.get (jsonTreeFields (subscriptionAutoGroup
      (subscriptionAutoTag (entryTags entries)) (entryTags entries))) "type").asString? =
      some "urltest" := by
    rw [get_jsonTreeFields]
    rfl
  have hplace : placeAutoGroup (subscriptionAutoTag (entryTags entries)) (entryTags entries)
      (storedOutbounds stored entries) =
      (directOutbound :: (entries.map jsonTreeFields).map Any.map ++
        [.map (subscriptionAutoGroup (subscriptionAutoTag (entryTags entries))
          (entryTags entries))]) ++
        [.map (jsonTreeFields (subscriptionSelector stored (entryTags entries)))] := by
    simp only [placeAutoGroup, findLast?_auto stored hne, htype, if_true]
    rw [storedOutbounds_of_ne_nil stored hne, updateLast_concat_neg (hasTag_selector_auto stored _),
      updateLast_concat_pos (hasTag_group _ _), putAll_group]
  rw [hplace, updateLast_concat_pos (isSelector_selector stored _), selectorUpdate_selector]
  simp [renderOutbounds, hne, h.entryTags_jsonTreeFields]

theorem findLast?_isSelector (value : Fields) {entries : List Fields} (hne : entries ≠ []) :
    findLast? isSelector (storedOutbounds value entries) =
      some (jsonTreeFields (subscriptionSelector value (entryTags entries))) := by
  rw [storedOutbounds_of_ne_nil value hne, findLast?_concat_pos (isSelector_selector value _)]

end Grouproxy.Singbox
