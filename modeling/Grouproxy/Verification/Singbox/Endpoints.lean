import Grouproxy.Model.Singbox

/-! # Endpoint outbounds

What every list of outbounds returned by the subscription parser has: endpoints of a
supported type under different names, none of them a name that the monitor owns.
-/

namespace Grouproxy.Singbox

open Text Value Subscription

/-! ## Words -/

theorem toNat_of_isSpace_lower {c : Char} (h : isSpace c = true) : lowerChar c = c := by
  have hne : c.toNat ≠ 0x130 ∧ c.toNat ≠ 0x212a ∧ ¬ (65 ≤ c.toNat ∧ c.toNat ≤ 90) := by
    simp only [isSpace, Bool.or_eq_true, Bool.and_eq_true, decide_eq_true_eq, beq_iff_eq] at h
    omega
  simp only [lowerChar, hne.1, hne.2.1, if_false]
  exact dif_neg hne.2.2

theorem isSpace_of_lower {c : Char} (h : isSpace (lowerChar c) = false) : isSpace c = false := by
  by_contra hspace
  rw [Bool.not_eq_false] at hspace
  rw [toNat_of_isSpace_lower hspace, hspace] at h
  cases h

theorem fieldsOf_append_spaces {before : List Char} (h : ∀ c ∈ before, isSpace c = true)
    (cs : List Char) : fieldsOf (before ++ cs) = fieldsOf cs := by
  induction before with
  | nil => rfl
  | cons c before ih =>
      have hc := h c (by simp)
      have ih := ih fun d hd => h d (List.mem_cons_of_mem c hd)
      rw [List.cons_append, ← ih]
      simp [fieldsOf, List.splitOnP_cons_eq_if_modifyHead, hc]

/-- A text without inner blanks is one word. -/
theorem fieldsOf_eq_singleton {cs : List Char} (hne : trimBy isSpace cs ≠ [])
    (hword : ∀ c ∈ trimBy isSpace cs, isSpace c = false) :
    fieldsOf cs = [trimBy isSpace cs] := by
  obtain ⟨before, after, hcs, hbefore, hafter⟩ := exists_trimBy isSpace cs
  generalize trimBy isSpace cs = word at hne hword hcs
  subst hcs
  rw [List.append_assoc, fieldsOf_append_spaces hbefore]
  cases after with
  | nil => simp [fieldsOf, List.splitOnP_eq_singleton hword, hne]
  | cons c after =>
      have hrest := fieldsOf_append_spaces (fun d hd => hafter d (List.mem_cons_of_mem c hd)) []
      rw [List.append_nil] at hrest
      rw [fieldsOf, List.splitOnP_append_cons_of_forall_mem hword c (hafter c (by simp)),
        List.filter_cons_of_pos (by simpa using hne), ← fieldsOf, hrest]
      rfl

/-! ## Types -/

/-- The type of an outbound, as the parser checks it. -/
def HasSupportedType (entry : Fields) : Prop :=
  ∃ kind, entry.get "type" = .str kind ∧ toLower (trimSpace kind) ∈ supportedTypes

theorem supportedType_clean : ∀ kind ∈ supportedTypes, kind.toList ≠ [] ∧ kind.toList.length ≤ 64 ∧
    kind ∉ unprobedTypes ∧ kind.toList.all (fun c => isSpace c = false ∧ c ≠ '-') = true := by
  decide +kernel

/-- Endpoints of a supported type are probed. -/
theorem isDelayProbeable_of_hasSupportedType {entry : Fields} (h : HasSupportedType entry) :
    isDelayProbeable entry = true := by
  obtain ⟨kind, hkind, hsupported⟩ := h
  obtain ⟨hne, hlen, hprobed, hall⟩ := supportedType_clean _ hsupported
  have hclean := List.all_iff_forall_prop.mp hall
  have hlower : (toLower (trimSpace kind)).toList = (trimBy isSpace kind.toList).map lowerChar := by
    rw [toLower, trimSpace, String.toList_ofList, String.toList_ofList]
  rw [hlower] at hne hclean
  have hword : ∀ c ∈ trimBy isSpace kind.toList, isSpace c = false ∧ c ≠ '-' := by
    intro c hc
    obtain ⟨hspace, hhyphen⟩ := hclean (lowerChar c) (List.mem_map_of_mem hc)
    refine ⟨isSpace_of_lower hspace, ?_⟩
    intro hsame
    subst hsame
    exact hhyphen (by decide)
  have hlength : (trimBy isSpace kind.toList).length ≤ 64 := by
    rw [← List.length_map (f := lowerChar), ← hlower]
    exact hlen
  have htype : safeProxyType kind = trimBy isSpace kind.toList := by
    rw [safeProxyType, safeProxyLabel, fieldsOf_eq_singleton (by simpa using hne)
      fun c hc => (hword c hc).1, List.intercalate_singleton, List.take_take,
      List.take_of_length_le (by omega)]
  have hfilter : (trimBy isSpace kind.toList).filter (· ≠ '-') = trimBy isSpace kind.toList := by
    rw [List.filter_eq_self]
    intro c hc
    simpa using (hword c hc).2
  simp only [isDelayProbeable, hkind, stringValue_str, htype, hfilter, decide_eq_true_eq]
  exact hprobed

/-! ## Parsed outbounds -/

def trimmedTag (entry : Fields) : String := trimSpace (stringValue (entry.get "tag"))

/-- An outbound that the parser keeps: a supported type, and a text as its tag that is not
blank and not a name of the monitor. -/
structure Endpoint (entry : Fields) : Prop where
  type : HasSupportedType entry
  tag : ∃ tag, entry.get "tag" = .str tag
  notBlank : trimmedTag entry ≠ ""
  notOwned : trimmedTag entry ∉ ["direct", "block", "subscription"]

theorem get_put_ne {m : Fields} {key other : String} (value : Any) (h : other ≠ key) :
    (m.put key value).get other = m.get other := by
  rw [Fields.get, Fields.get, Fields.get?_put_ne value h]

theorem get_put_self (m : Fields) (key : String) (value : Any) :
    (m.put key value).get key = value := by
  simp [Fields.get]

theorem requiredString_ok {value : Any} {s : String} (h : requiredString value = .ok s) :
    s ≠ "" ∧ ∃ text, value = .str text ∧ s = trimSpace text := by
  rw [requiredString] at h
  split at h
  · cases h
  · rename_i t ht
    split at h
    · cases h
    · rename_i hne
      cases h
      refine ⟨hne, ?_⟩
      unfold optionalString at ht
      split at ht
      · cases ht
        exact absurd rfl hne
      · split at ht
        · cases ht
        · cases ht
          exact ⟨_, rfl, rfl⟩
      · cases ht

theorem optionalString_ok {value : Any} {s : String} (h : optionalString value = .ok s)
    (hne : s ≠ "") : ∃ text, value = .str text ∧ s = trimSpace text := by
  have hrequired : requiredString value = .ok s := by simp [requiredString, h, hne]
  exact (requiredString_ok hrequired).2

theorem trimSpace_numbered (n : Nat) :
    trimSpace ("subscription-" ++ toString n) = "subscription-" ++ toString n := by
  apply trimSpace_eq_self
  intro c hc
  rw [String.toList_append, List.mem_append] at hc
  rcases hc with hc | hc
  · have hall : ∀ c ∈ "subscription-".toList, isSpace c = false :=
      List.all_iff_forall_prop.mp (by decide +kernel)
    exact hall c hc
  · rw [Nat.toString_eq_ofList_toDigits, String.toList_ofList] at hc
    exact isSpace_of_isDigit (Nat.isDigit_of_mem_toDigits (by decide) (by decide) hc)

theorem numbered_notOwned (n : Nat) :
    "subscription-" ++ toString n ∉ ["direct", "block", "subscription"] := by
  intro h
  have hprefix : ∀ s ∈ ["direct", "block", "subscription"],
      s.toList.take 13 ≠ "subscription-".toList := by decide +kernel
  refine hprefix _ h ?_
  rw [String.toList_append]
  exact List.take_left' rfl

theorem numbered_ne_empty (n : Nat) : "subscription-" ++ toString n ≠ "" := by
  intro h
  have hl := congrArg String.toList h
  simp at hl

theorem nameOutbound_spec {count : Nat} {entry : Fields} {name : String}
    (htype : HasSupportedType entry) (hname : optionalString (entry.get "tag") = .ok name)
    (howned : ¬ (name = "direct" ∨ name = "block" ∨ name = "subscription")) :
    Endpoint (nameOutbound count entry name).2 ∧
      trimmedTag (nameOutbound count entry name).2 = (nameOutbound count entry name).1 := by
  rw [nameOutbound]
  split
  · have htag : trimmedTag (entry.put "tag" (.str ("subscription-" ++ toString (count + 1)))) =
        "subscription-" ++ toString (count + 1) := by
      rw [trimmedTag, get_put_self, stringValue_str, trimSpace_numbered]
    refine ⟨⟨?_, ⟨_, get_put_self _ _ _⟩, ?_, ?_⟩, htag⟩
    · obtain ⟨kind, hkind, hsupported⟩ := htype
      exact ⟨kind, by rw [get_put_ne _ (by decide), hkind], hsupported⟩
    · rw [htag]
      exact numbered_ne_empty _
    · rw [htag]
      exact numbered_notOwned _
  · rename_i hne
    obtain ⟨text, htext, htrim⟩ := optionalString_ok hname hne
    have htag : trimmedTag entry = name := by rw [trimmedTag, htext, stringValue_str, htrim]
    refine ⟨⟨htype, ⟨text, htext⟩, ?_, ?_⟩, htag⟩
    · rw [htag]
      exact hne
    · rw [htag]
      simpa using howned

theorem keepOutbound_spec {count : Nat} {raw : Any} {tag : String} {kept : Fields}
    (h : keepOutbound count raw = .ok (some (tag, kept))) : Endpoint kept ∧ trimmedTag kept = tag := by
  rw [keepOutbound] at h
  split at h
  · cases h
  · rename_i entry hentry
    split at h
    · cases h
    · rename_i kind hkind
      split at h
      · cases h
      · split at h
        · cases h
        · rename_i hsupported
          obtain ⟨-, text, htext, rfl⟩ := requiredString_ok hkind
          split at h
          · cases h
          · rename_i name hname
            split at h
            · cases h
            · rename_i howned
              simp only [Except.ok.injEq, Option.some.injEq] at h
              have hspec := @nameOutbound_spec count entry name
                ⟨text, htext, not_not.mp hsupported⟩ hname howned
              rw [h] at hspec
              exact hspec

/-- The loop keeps endpoints whose names differ from each other and from those before. -/
theorem keepOutbounds_spec {entries result : List Any} {count : Nat} {tags : List String}
    (h : keepOutbounds count tags entries = .ok result) :
    ∃ kept : List Fields, result = kept.map Any.map ∧ (∀ e ∈ kept, Endpoint e) ∧
      (kept.map trimmedTag).Nodup ∧ ∀ e ∈ kept, trimmedTag e ∉ tags := by
  induction entries generalizing count tags result with
  | nil =>
      cases h
      exact ⟨[], by simp⟩
  | cons raw entries ih =>
      rw [keepOutbounds] at h
      split at h
      · cases h
      · exact ih h
      · rename_i tag entry hkeep
        split at h
        · cases h
        · rename_i hfresh
          split at h
          · cases h
          · split at h
            · cases h
            · rename_i rest hrest
              cases h
              obtain ⟨kept, rfl, hendpoints, hnodup, hnew⟩ := ih hrest
              obtain ⟨hendpoint, htag⟩ := keepOutbound_spec hkeep
              refine ⟨entry :: kept, rfl, ?_, ?_, ?_⟩
              · exact List.forall_mem_cons.mpr ⟨hendpoint, hendpoints⟩
              · rw [List.map_cons, List.nodup_cons]
                refine ⟨?_, hnodup⟩
                intro hmem
                obtain ⟨e, he, heq⟩ := List.mem_map.mp hmem
                exact hnew e he (by rw [heq, htag]; exact List.mem_cons_self)
              · refine List.forall_mem_cons.mpr ⟨htag ▸ hfresh, ?_⟩
                intro e he hmem
                exact hnew e he (List.mem_cons_of_mem _ hmem)

/-- A list of outbounds as the parser returns it. -/
structure EndpointList (entries : List Fields) : Prop where
  endpoints : ∀ e ∈ entries, Endpoint e
  nodup : (entryTags entries).Nodup

theorem endpointList_of_validateOutbounds {entries result : List Any}
    (h : validateOutbounds entries = .ok result) :
    ∃ kept, result = kept.map Any.map ∧ EndpointList kept ∧ kept ≠ [] := by
  rw [validateOutbounds] at h
  split at h
  · cases h
  · split at h
    · cases h
    · cases h
    · rename_i outbounds hne hkeep
      cases h
      obtain ⟨kept, rfl, hendpoints, hnodup, -⟩ := keepOutbounds_spec hkeep
      refine ⟨kept, rfl, ⟨hendpoints, ?_⟩, ?_⟩
      · have hmap : kept.map trimmedTag = (entryTags kept).map trimSpace := by
          simp [entryTags, trimmedTag, Function.comp_def]
        rw [hmap] at hnodup
        exact hnodup.of_map
      · intro hsame
        subst hsame
        exact hne rfl

theorem endpointList_of_convertEntries {invalid : String} {convert : Nat → Any → Except String Any}
    {entries : Any} {result : List Any} (h : convertEntries invalid convert entries = .ok result) :
    ∃ kept, result = kept.map Any.map ∧ EndpointList kept ∧ kept ≠ [] := by
  rw [convertEntries] at h
  split at h
  · cases h
  · split at h
    · cases h
    · split at h
      · cases h
      · exact endpointList_of_validateOutbounds h

/-- Every list that the parser returns, in whatever format, is a list of endpoints. -/
theorem endpointList_of_parse {readers : Readers} {content format : String} {result : List Any}
    (h : parse readers content format = .ok result) :
    ∃ kept, result = kept.map Any.map ∧ EndpointList kept ∧ kept ≠ [] := by
  rw [parse] at h
  split at h
  · rw [parseSingbox] at h
    split at h
    · exact endpointList_of_validateOutbounds h
    · exact endpointList_of_validateOutbounds h
    · cases h
  · split at h
    · rw [parseSIP008] at h
      split at h
      · cases h
      · exact endpointList_of_convertEntries h
    · split at h
      · rw [parseClash] at h
        split at h
        · cases h
        · exact endpointList_of_convertEntries h
      · cases h

end Grouproxy.Singbox
