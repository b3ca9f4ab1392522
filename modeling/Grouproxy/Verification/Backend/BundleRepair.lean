import Grouproxy.Model.BundleRepair
import Grouproxy.Verification.Signing
import Grouproxy.Verification.Singbox.AutoGroup

/-! # The repair of a stored bundle is a fixpoint

Stripping, dropping the selection, raising the version and signing each leave alone what the others
establish, so a repaired bundle is stable, and a stable bundle is served as it is.
-/

namespace Grouproxy.Repair

open Text Ipaddress Value Encoding Grouproxy.Bundle
open Backend (Failure SubscriptionVersion subscriptionSelectionTags)

/-! ## Dictionaries -/

section Dictionaries

variable {d : Dict} {key other : String} {value : Tree}

theorem get?_set_self (d : Dict) (key : String) (value : Tree) :
    Value.Tree.get? (set d key value) key = some value := by
  rw [set, Value.Tree.get?_cons, if_pos rfl]

theorem get?_pop_ne (d : Dict) (h : other ≠ key) :
    Value.Tree.get? (pop d key) other = Value.Tree.get? d other :=
  Value.Tree.get?_filter (fun _ => by simpa using h) d

theorem get?_set_ne (d : Dict) (value : Tree) (h : other ≠ key) :
    Value.Tree.get? (set d key value) other = Value.Tree.get? d other := by
  rw [set, Value.Tree.get?_cons, if_neg h]
  exact get?_pop_ne d h

theorem get?_pop_self (d : Dict) (key : String) : Value.Tree.get? (pop d key) key = none := by
  refine Value.Tree.get?_eq_none fun f hf => ?_
  simpa using (List.mem_filter.mp hf).2

theorem get_eq_of_get? {d d' : Dict} (h : Value.Tree.get? d key = Value.Tree.get? d' key) :
    Value.Tree.get d key = Value.Tree.get d' key := by
  rw [Value.Tree.get, h, Value.Tree.get]

/-- Only a present key reads as a dictionary. -/
theorem get_eq_dict {fields : Dict} :
    Value.Tree.get d key = .dict fields ↔ Value.Tree.get? d key = some (.dict fields) := by
  rw [Value.Tree.get]
  cases Value.Tree.get? d key with
  | none => simp
  | some value => simp

end Dictionaries

/-! ## Retired fields -/

theorem hasRetiredField_eq_false {fields : Dict} :
    hasRetiredField fields = false ↔
      ∀ f ∈ fields, f.1 ∉ retiredPolicyFields ∧ hasRetired f.2 = false := by
  induction fields with
  | nil => simp [hasRetiredField]
  | cons f fields ih =>
      obtain ⟨key, value⟩ := f
      rw [hasRetiredField, Bool.or_eq_false_iff, Bool.or_eq_false_iff, ih, List.forall_mem_cons]
      simp

theorem hasRetiredItem_eq_false {items : List Tree} :
    hasRetiredItem items = false ↔ ∀ item ∈ items, hasRetired item = false := by
  induction items with
  | nil => simp [hasRetiredItem]
  | cons item items ih => rw [hasRetiredItem, Bool.or_eq_false_iff, ih, List.forall_mem_cons]

theorem stripRetiredItems_eq_map (items : List Tree) :
    stripRetiredItems items = items.map stripRetiredPolicyFields := by
  induction items with
  | nil => rfl
  | cons item items ih => rw [stripRetiredItems, ih, List.map_cons]

theorem stripRetiredFields_eq (fields : Dict) :
    stripRetiredFields fields = (fields.filter fun f => f.1 ∉ retiredPolicyFields).map fun f =>
      (f.1, stripRetiredPolicyFields f.2) := by
  induction fields with
  | nil => rfl
  | cons f fields ih =>
      obtain ⟨key, value⟩ := f
      rw [stripRetiredFields]
      split
      · rename_i hkey
        rw [ih, List.filter_cons_of_neg (by simpa using hkey)]
      · rename_i hkey
        rw [ih, List.filter_cons_of_pos (by simpa using hkey), List.map_cons]

/-- Nothing retired is left, at any depth. -/
theorem hasRetired_strip (tree : Tree) : hasRetired (stripRetiredPolicyFields tree) = false := by
  induction tree with
  | null => rfl
  | bool b => rfl
  | int n => rfl
  | float x => rfl
  | str s => rfl
  | list items ih =>
      rw [stripRetiredPolicyFields, hasRetired, hasRetiredItem_eq_false, stripRetiredItems_eq_map]
      intro item hitem
      obtain ⟨item, hmem, rfl⟩ := List.mem_map.mp hitem
      exact ih item hmem
  | dict fields ih =>
      rw [stripRetiredPolicyFields, hasRetired, hasRetiredField_eq_false, stripRetiredFields_eq]
      intro f hf
      obtain ⟨f, hmem, rfl⟩ := List.mem_map.mp hf
      rw [List.mem_filter, decide_eq_true_iff] at hmem
      exact ⟨hmem.2, ih f hmem.1⟩

/-- Nothing retired, nothing to strip. -/
theorem strip_of_clean {tree : Tree} (h : hasRetired tree = false) :
    stripRetiredPolicyFields tree = tree := by
  induction tree with
  | null => rfl
  | bool b => rfl
  | int n => rfl
  | float x => rfl
  | str s => rfl
  | list items ih =>
      rw [hasRetired, hasRetiredItem_eq_false] at h
      rw [stripRetiredPolicyFields, stripRetiredItems_eq_map]
      refine congrArg Tree.list ?_
      calc items.map stripRetiredPolicyFields
          = items.map id := List.map_congr_left fun item hitem => ih item hitem (h item hitem)
        _ = items := List.map_id items
  | dict fields ih =>
      rw [hasRetired, hasRetiredField_eq_false] at h
      rw [stripRetiredPolicyFields, stripRetiredFields_eq]
      refine congrArg Tree.dict ?_
      rw [List.filter_eq_self.mpr fun f hf => decide_eq_true (h f hf).1]
      calc (fields.map fun f => (f.1, stripRetiredPolicyFields f.2))
          = fields.map id := by
            refine List.map_congr_left fun f hf => ?_
            rw [ih f hf (h f hf).2, id]
        _ = fields := List.map_id fields

/-- Stripping changes a value exactly if it has a retired key. -/
theorem hasRetired_eq_true_iff (tree : Tree) :
    hasRetired tree = true ↔ stripRetiredPolicyFields tree ≠ tree := by
  constructor
  · intro h heq
    have hclean := hasRetired_strip tree
    rw [heq, h] at hclean
    cases hclean
  · intro hne
    by_contra hclean
    exact hne (strip_of_clean (Bool.not_eq_true _ ▸ hclean))

theorem stripRetiredFields_of_clean {d : Dict} (h : hasRetiredField d = false) :
    stripRetiredFields d = d := by
  have hdict : stripRetiredPolicyFields (.dict d) = .dict d := strip_of_clean h
  rwa [stripRetiredPolicyFields, Tree.dict.injEq] at hdict

theorem hasRetiredField_strip (d : Dict) : hasRetiredField (stripRetiredFields d) = false := by
  have hclean := hasRetired_strip (.dict d)
  rwa [stripRetiredPolicyFields, hasRetired] at hclean

/-- The fields that stay are stripped below. -/
theorem get?_stripRetiredFields (d : Dict) (key : String) :
    Value.Tree.get? (stripRetiredFields d) key =
      if key ∈ retiredPolicyFields then none
      else (Value.Tree.get? d key).map stripRetiredPolicyFields := by
  induction d with
  | nil => simp [stripRetiredFields, Value.Tree.get?]
  | cons f d ih =>
      obtain ⟨k, v⟩ := f
      rw [stripRetiredFields, Value.Tree.get?_cons]
      by_cases hk : k ∈ retiredPolicyFields
      · rw [if_pos hk, ih]
        by_cases hkey : key = k
        · rw [hkey, if_pos hk, if_pos hk]
        · rw [if_neg hkey]
      · rw [if_neg hk, Value.Tree.get?_cons, ih]
        by_cases hkey : key = k
        · rw [hkey, if_pos rfl, if_neg hk, if_pos rfl, Option.map_some]
        · rw [if_neg hkey, if_neg hkey]

theorem hasRetiredField_set {d : Dict} {key : String} {value : Tree}
    (hkey : key ∉ retiredPolicyFields) (hvalue : hasRetired value = false)
    (h : hasRetiredField d = false) : hasRetiredField (set d key value) = false := by
  rw [hasRetiredField_eq_false] at h ⊢
  rw [set, List.forall_mem_cons]
  exact ⟨⟨hkey, hvalue⟩, fun f hf => h f (List.mem_of_mem_filter hf)⟩

theorem hasRetiredField_pop {d : Dict} (key : String) (h : hasRetiredField d = false) :
    hasRetiredField (pop d key) = false := by
  rw [hasRetiredField_eq_false] at h ⊢
  exact fun f hf => h f (List.mem_of_mem_filter hf)

/-! ## Signing and verifying -/

section Signing

variable (h : Hashes) (libs : Libraries) (bundle : Dict) (secret : String)

theorem get?_signBundle_ne {key : String} (hkey : key ∉ ["bundle_hash", "mac"]) :
    Value.Tree.get? (signBundle h bundle secret) key = Value.Tree.get? bundle key := by
  simp only [List.mem_cons, List.not_mem_nil, or_false, not_or] at hkey
  rw [signBundle, get?_set_ne _ _ hkey.2, get?_set_ne _ _ hkey.1]

theorem get?_signBundle_hash :
    Value.Tree.get? (signBundle h bundle secret) "bundle_hash" =
      some (.str (calculateBundleHash h bundle)) := by
  rw [signBundle, get?_set_ne _ _ (by decide), get?_set_self]

theorem hasRetiredField_signBundle (hclean : hasRetiredField bundle = false) :
    hasRetiredField (signBundle h bundle secret) = false :=
  hasRetiredField_set (by decide) rfl (hasRetiredField_set (by decide) rfl hclean)

/-- What a signature leaves out does not matter to it. -/
theorem filter_set {keys : List String} {key : String} (d : Dict) (value : Tree) (hkey : key ∈ keys) :
    (set d key value).filter (fun f => f.1 ∉ keys) = d.filter fun f => f.1 ∉ keys := by
  rw [set, List.filter_cons_of_neg (by simpa using hkey), List.filter_filter]
  refine List.filter_congr fun f _ => ?_
  by_cases hf : f.1 ∈ keys
  · simp [hf]
  · have hne : f.1 ≠ key := fun heq => hf (heq ▸ hkey)
    simp [hf, hne]

theorem calculateBundleHash_signBundle :
    calculateBundleHash h (signBundle h bundle secret) = calculateBundleHash h bundle := by
  rw [calculateBundleHash, bundleHashInput, signBundle, filter_set _ _ (by decide),
    filter_set _ _ (by decide)]
  rfl

theorem calculateMac_signBundle :
    Value.Tree.get? (signBundle h bundle secret) "mac" =
      some (.str (calculateMac h (signBundle h bundle secret) secret)) := by
  rw [signBundle, get?_set_self]
  have hinput : ∀ (d : Dict) (mac : Tree), unsignedMac (set d "mac" mac) = unsignedMac d :=
    fun d mac => filter_set d mac (by decide)
  simp only [calculateMac, hinput]

theorem isAscii_hexdigest (digest : List UInt8) : Backend.isAscii (hexdigest digest) = true := by
  have hdigit : ∀ n < 16, (Nat.digitChar n).toNat < 128 := by decide
  rw [Backend.isAscii, hexdigest, String.toList_ofList, List.all_eq_true]
  intro c hc
  obtain ⟨b, -, hb⟩ := List.mem_flatMap.mp hc
  have hlt := b.toNat_lt
  simp only [List.mem_cons, List.not_mem_nil, or_false] at hb
  rw [decide_eq_true_iff]
  rcases hb with rfl | rfl
  · exact hdigit _ (by omega)
  · exact hdigit _ (by omega)

theorem compareDigest_self (digest : List UInt8) :
    compareDigest (hexdigest digest) (hexdigest digest) = .ok true := by
  rw [compareDigest, if_pos ⟨isAscii_hexdigest digest, isAscii_hexdigest digest⟩, beq_self_eq_true]

/-- A signed bundle verifies. -/
theorem verifyBundle_signBundle :
    verifyBundle h libs (signBundle h bundle secret) secret = .ok (true, "") := by
  have hhash : strOf libs (getD (signBundle h bundle secret) "bundle_hash" (.str "")) =
      calculateBundleHash h bundle := by
    rw [getD, get?_signBundle_hash]
    rfl
  have hmac : strOf libs (getD (signBundle h bundle secret) "mac" (.str "")) =
      calculateMac h (signBundle h bundle secret) secret := by
    rw [getD, calculateMac_signBundle]
    rfl
  rw [verifyBundle]
  simp only [hhash, hmac, calculateBundleHash_signBundle]
  rw [calculateBundleHash, calculateMac, compareDigest_self]
  change (do
    let macMatches ← compareDigest _ _
    if ¬ macMatches then return (false, "bundle_mac_mismatch") else return (true, "")) = _
  rw [compareDigest_self]
  rfl

end Signing

/-! ## Subscription tags -/

section Tags

variable {libs : Libraries} {versions : List SubscriptionVersion}

/-- An item without a tag is given one. -/
theorem notMem_collectTags {format : String} {tags : List String} {items : List Tree}
    (h : "" ∉ tags) : "" ∉ collectTags libs format tags items := by
  induction items generalizing tags with
  | nil => exact h
  | cons item items ih =>
      cases item with
      | dict fields =>
          rw [collectTags]
          dsimp only
          generalize (if Inspection.isTruthy (Value.Tree.get fields "type") = true then
            Inspection.lower (strip (strOf libs (Value.Tree.get fields "type"))) else "") = kind
          generalize itemTag libs fields _ = tag
          split
          · exact ih h
          · have hne : "" ≠
                if tag = "" then "subscription-" ++ toString (tags.length + 1) else tag := by
              intro heq
              by_cases htag : tag = ""
              · have hempty := congrArg String.toList heq
                simp [htag] at hempty
              · rw [if_neg htag] at heq
                exact htag heq.symm
            revert hne
            generalize (if tag = "" then _ else tag) = filled
            intro hne
            refine ih ?_
            split
            · exact h
            · rw [List.mem_append, List.mem_singleton, not_or]
              exact ⟨h, hne⟩
      | null => exact ih h
      | bool b => exact ih h
      | int n => exact ih h
      | float x => exact ih h
      | str s => exact ih h
      | list inner => exact ih h

theorem notMem_subscriptionSelectionTags {tags : List String} (h : "" ∉ tags) :
    "" ∉ subscriptionSelectionTags tags := by
  rw [subscriptionSelectionTags]
  split
  · exact List.not_mem_nil
  · rw [List.mem_append, List.mem_singleton, not_or]
    refine ⟨h, fun heq => ?_⟩
    obtain ⟨-, n, hn⟩ := Singbox.subscriptionAutoTag_spec tags
    rw [hn] at heq
    cases n with
    | zero => exact absurd heq (by decide)
    | succ n =>
        have hempty := congrArg String.toList heq
        simp [Singbox.autoCandidate] at hempty

theorem notMem_bundleSubscriptionTags {bundle : Dict} {tags : List String}
    (h : bundleSubscriptionTags libs versions bundle = .ok tags) : "" ∉ tags := by
  rw [bundleSubscriptionTags] at h
  cases hbundle : bundleSubscription libs versions bundle with
  | none =>
      rw [hbundle] at h
      cases h
      exact List.not_mem_nil
  | some named =>
      obtain ⟨content, format⟩ := named
      rw [hbundle] at h
      dsimp only at h
      rw [subscriptionOutboundTags] at h
      cases hdecode : Backend.decodeUtf8Sig content with
      | none =>
          rw [hdecode] at h
          cases h
          exact List.not_mem_nil
      | some text =>
          rw [hdecode] at h
          dsimp only at h
          cases hitems : subscriptionItems libs text format with
          | error e =>
              rw [hitems] at h
              cases h
          | ok items =>
              rw [hitems] at h
              cases h
              exact notMem_collectTags List.not_mem_nil

/-- The tags are those of the subscription field. -/
theorem bundleSubscriptionTags_congr {d d' : Dict}
    (h : Value.Tree.get? d "subscription" = Value.Tree.get? d' "subscription") :
    bundleSubscriptionTags libs versions d = bundleSubscriptionTags libs versions d' := by
  rw [bundleSubscriptionTags, bundleSubscription, get_eq_of_get? h]
  rfl

/-- No reader raises an exception that is not caught. -/
def Readable (libs : Libraries) (text format : String) : Prop :=
  (format ∈ ["sing-box", "sip008"] → ∀ name, libs.jsonLoads text ≠ .raises name) ∧
    (format = "clash" → ∀ name, libs.yamlLoad text ≠ .raises name)

theorem loadedItems_isOk {whole : Bool} {key : String} {loaded : Loaded} :
    (∃ items, loadedItems whole key loaded = .ok items) ↔ ∀ name, loaded ≠ .raises name := by
  cases loaded with
  | value tree =>
      refine iff_of_true ?_ fun name h => by cases h
      cases tree with
      | dict fields =>
          rw [loadedItems]
          cases Value.Tree.get fields key with
          | list items => exact ⟨items, rfl⟩
          | null => exact ⟨[], rfl⟩
          | bool b => exact ⟨[], rfl⟩
          | int n => exact ⟨[], rfl⟩
          | float x => exact ⟨[], rfl⟩
          | str s => exact ⟨[], rfl⟩
          | dict inner => exact ⟨[], rfl⟩
      | list items => exact ⟨_, rfl⟩
      | null => exact ⟨[], rfl⟩
      | bool b => exact ⟨[], rfl⟩
      | int n => exact ⟨[], rfl⟩
      | float x => exact ⟨[], rfl⟩
      | str s => exact ⟨[], rfl⟩
  | malformed => exact iff_of_true ⟨[], rfl⟩ fun name h => by cases h
  | raises name =>
      refine iff_of_false ?_ fun h => h name rfl
      rintro ⟨items, h⟩
      cases h

theorem subscriptionItems_isOk {text format : String} :
    (∃ items, subscriptionItems libs text format = .ok items) ↔ Readable libs text format := by
  rw [subscriptionItems, Readable]
  by_cases hsingbox : format = "sing-box"
  · simp [hsingbox, loadedItems_isOk]
  · by_cases hsip008 : format = "sip008"
    · simp [hsip008, loadedItems_isOk]
    · by_cases hclash : format = "clash"
      · simp [hclash, loadedItems_isOk]
      · simp [hsingbox, hsip008, hclash]

/-- The subscription that the bundle names can be read, or the bundle names none. -/
def SubscriptionReadable (libs : Libraries) (versions : List SubscriptionVersion) (bundle : Dict) :
    Prop :=
  ∀ named ∈ bundleSubscription libs versions bundle,
    ∀ text ∈ Backend.decodeUtf8Sig named.1, Readable libs text named.2

theorem bundleSubscriptionTags_isOk {bundle : Dict} :
    (∃ tags, bundleSubscriptionTags libs versions bundle = .ok tags) ↔
      SubscriptionReadable libs versions bundle := by
  rw [bundleSubscriptionTags, SubscriptionReadable]
  cases bundleSubscription libs versions bundle with
  | none => simp
  | some named =>
      obtain ⟨content, format⟩ := named
      simp only [Option.mem_some_iff, forall_eq', subscriptionOutboundTags]
      cases Backend.decodeUtf8Sig content with
      | none => simp
      | some text =>
          simp only [Option.mem_some_iff, forall_eq', ← subscriptionItems_isOk]
          cases subscriptionItems libs text format with
          | error e => simp [Except.map]
          | ok items => simp [Except.map]

end Tags

/-! ## What a repair promises -/

/-- The selection names the group and one of the outbounds that the tags offer. -/
def Selectable (libs : Libraries) (tags : List String) (selection : Dict) : Prop :=
  selectedGroup libs selection = "subscription" ∧
    selectedOutbound libs selection ∈ subscriptionSelectionTags tags

instance (libs : Libraries) (tags : List String) (selection : Dict) :
    Decidable (Selectable libs tags selection) := inferInstanceAs (Decidable (_ ∧ _))

/-- The fields that a repair may write. -/
def repairedFields : List String :=
  ["proxy_selection", "min_monitor_version", "bundle_hash", "mac"]

/-- The stored document after a call that returned `result`. -/
structure IsRepair (settings : Settings) (versions : List SubscriptionVersion)
    (before after : DesiredRelease) (result : Bool) : Prop where
  unchanged : result = false → after = before
  verified : result = true →
    verifyBundle settings.hashes settings.libs after.bundle settings.bundleHmacSecret =
        .ok (true, "") ∧
      Value.Tree.get? after.bundle "bundle_hash" = some (.str after.bundleHash)
  clean : hasRetired (.dict after.bundle) = false
  /-- An object-valued selection stays, less its retired keys, exactly if it is selectable. -/
  selection : ∀ selection,
    Value.Tree.get? (stripRetiredFields before.bundle) "proxy_selection" = some (.dict selection) →
      ∃ tags, bundleSubscriptionTags settings.libs versions after.bundle = .ok tags ∧
        Value.Tree.get? after.bundle "proxy_selection" =
          if Selectable settings.libs tags selection then some (.dict selection) else none
  noSelection : (∀ selection,
    Value.Tree.get? (stripRetiredFields before.bundle) "proxy_selection" ≠ some (.dict selection)) →
      Value.Tree.get? after.bundle "proxy_selection" =
        Value.Tree.get? (stripRetiredFields before.bundle) "proxy_selection"
  minVersion :
    Value.Tree.get? after.bundle "min_monitor_version" =
        (Value.Tree.get? before.bundle "min_monitor_version").map stripRetiredPolicyFields ∨
      Value.Tree.get? before.bundle "min_monitor_version" = some (.str "0.6.0") ∧
        Value.Tree.get? after.bundle "min_monitor_version" = some (.str "0.7.0")
  fields : ∀ key ∉ repairedFields, Value.Tree.get? after.bundle key =
    if key ∈ retiredPolicyFields then none
    else (Value.Tree.get? before.bundle key).map stripRetiredPolicyFields
  releaseId : after.releaseId = before.releaseId
  again : repairStaleProxySelection settings versions after = .ok (false, after)

/-- What a repair makes of a stripped bundle before it signs it. -/
structure IsTarget (libs : Libraries) (versions : List SubscriptionVersion)
    (repaired target : Dict) : Prop where
  clean : hasRetiredField target = false
  selection : ∀ selection, Value.Tree.get? repaired "proxy_selection" = some (.dict selection) →
    ∃ tags, bundleSubscriptionTags libs versions target = .ok tags ∧
      (Value.Tree.get? target "proxy_selection" =
        if Selectable libs tags selection then some (.dict selection) else none) ∧
      (Selectable libs tags selection →
        selectedOutbound libs selection ∈ tags ∨ needsVersion060 target = false)
  noSelection : (∀ selection, Value.Tree.get? repaired "proxy_selection" ≠ some (.dict selection)) →
    Value.Tree.get? target "proxy_selection" = Value.Tree.get? repaired "proxy_selection"
  minVersion :
    Value.Tree.get? target "min_monitor_version" = Value.Tree.get? repaired "min_monitor_version" ∨
      Value.Tree.get? repaired "min_monitor_version" = some (.str "0.6.0") ∧
        Value.Tree.get? target "min_monitor_version" = some (.str "0.7.0")
  fields : ∀ key, key ≠ "proxy_selection" → key ≠ "min_monitor_version" →
    Value.Tree.get? target key = Value.Tree.get? repaired key

section Repair

variable {settings : Settings} {versions : List SubscriptionVersion} {desired : DesiredRelease}
  {repaired target d d' : Dict}

theorem needsVersion060_congr
    (h : Value.Tree.get? d "min_monitor_version" = Value.Tree.get? d' "min_monitor_version") :
    needsVersion060 d = needsVersion060 d' := by
  rw [needsVersion060, get_eq_of_get? h]
  rfl

theorem needsVersion060_iff :
    needsVersion060 d = true ↔ Value.Tree.get? d "min_monitor_version" = some (.str "0.6.0") := by
  rw [needsVersion060, Value.Tree.get]
  cases Value.Tree.get? d "min_monitor_version" with
  | none => simp
  | some value =>
      cases value with
      | str version => simp
      | null => simp
      | bool b => simp
      | int n => simp
      | float x => simp
      | list items => simp
      | dict fields => simp

/-- The call on a bundle without an object-valued selection. -/
theorem repair_noSelection
    (h : ∀ selection, Value.Tree.get? (stripRetiredFields desired.bundle) "proxy_selection" ≠
      some (.dict selection)) :
    repairStaleProxySelection settings versions desired =
      if hasRetiredField desired.bundle then
        .ok (saveRepaired settings desired (stripRetiredFields desired.bundle))
      else .ok (false, desired) := by
  rw [repairStaleProxySelection]
  dsimp only
  split
  · rename_i selection hget
    exact absurd (get_eq_dict.mp hget) (h selection)
  · rfl

/-- The call on a bundle with a selection: first the tags are read. -/
theorem repair_selection {selection : Dict}
    (h : Value.Tree.get? (stripRetiredFields desired.bundle) "proxy_selection" = some (.dict selection)) :
    repairStaleProxySelection settings versions desired =
      (bundleSubscriptionTags settings.libs versions (stripRetiredFields desired.bundle)).map
        fun tags =>
          if Selectable settings.libs tags selection then
            if selectedOutbound settings.libs selection ∉ tags ∧
                needsVersion060 (stripRetiredFields desired.bundle) then
              saveRepaired settings desired
                (set (stripRetiredFields desired.bundle) "min_monitor_version" (.str "0.7.0"))
            else if hasRetiredField desired.bundle then
              saveRepaired settings desired (stripRetiredFields desired.bundle)
            else (false, desired)
          else saveRepaired settings desired
            (pop (stripRetiredFields desired.bundle) "proxy_selection") := by
  rw [repairStaleProxySelection, get_eq_dict.mpr h]
  dsimp only
  cases htags : bundleSubscriptionTags settings.libs versions
      (stripRetiredFields desired.bundle) with
  | error e => rfl
  | ok tags =>
      -- An empty outbound is no tag.
      have hempty := notMem_subscriptionSelectionTags (notMem_bundleSubscriptionTags htags)
      have hcond : (selectedGroup settings.libs selection = "subscription" ∧
          selectedOutbound settings.libs selection ≠ "" ∧
            selectedOutbound settings.libs selection ∈ subscriptionSelectionTags tags) ↔
          Selectable settings.libs tags selection :=
        ⟨fun hall => ⟨hall.1, hall.2.2⟩, fun hsel => ⟨hsel.1, fun heq => hempty (heq ▸ hsel.2), hsel.2⟩⟩
      dsimp only [bind, Except.bind]
      simp only [hcond, Except.map]
      split
      · split
        · rfl
        · split
          · rfl
          · rfl
      · rfl

/-- A target is stable, and it stays so when its signature changes. -/
theorem IsTarget.again (h : IsTarget settings.libs versions repaired target)
    (hclean : hasRetiredField desired.bundle = false)
    (hsame : ∀ key ∉ ["bundle_hash", "mac"],
      Value.Tree.get? desired.bundle key = Value.Tree.get? target key) :
    repairStaleProxySelection settings versions desired = .ok (false, desired) := by
  have hstrip := stripRetiredFields_of_clean hclean
  have hselection := hsame "proxy_selection" (by decide)
  have hsubscription := hsame "subscription" (by decide)
  have hversion := hsame "min_monitor_version" (by decide)
  by_cases hobject : ∃ selection, Value.Tree.get? repaired "proxy_selection" = some (.dict selection)
  · obtain ⟨selection, hobject⟩ := hobject
    obtain ⟨tags, htags, hkept, hraised⟩ := h.selection selection hobject
    rw [hkept] at hselection
    by_cases hsel : Selectable settings.libs tags selection
    · rw [if_pos hsel] at hselection
      rw [repair_selection (by rw [hstrip]; exact hselection), hstrip,
        bundleSubscriptionTags_congr hsubscription, htags, Except.map, if_pos hsel, if_neg, if_neg]
      · rw [hclean]
        exact Bool.false_ne_true
      · rw [needsVersion060_congr hversion]
        rintro ⟨hnot, hneeds⟩
        rcases hraised hsel with hmem | hno
        · exact hnot hmem
        · rw [hno] at hneeds
          cases hneeds
    · rw [if_neg hsel] at hselection
      rw [repair_noSelection, hclean, if_neg Bool.false_ne_true]
      rw [hstrip, hselection]
      exact fun _ heq => by cases heq
  · push Not at hobject
    have hkept := hselection.trans (h.noSelection hobject)
    rw [repair_noSelection, hclean, if_neg Bool.false_ne_true]
    rw [hstrip, hkept]
    exact hobject

/-- A document whose bundle is a target, signed or not, is a repair. -/
theorem IsTarget.isRepair {before after : DesiredRelease} {result : Bool}
    (h : IsTarget settings.libs versions (stripRetiredFields before.bundle) target)
    (hunchanged : result = false → after = before)
    (hverified : result = true →
      verifyBundle settings.hashes settings.libs after.bundle settings.bundleHmacSecret =
          .ok (true, "") ∧
        Value.Tree.get? after.bundle "bundle_hash" = some (.str after.bundleHash))
    (hclean : hasRetiredField after.bundle = false)
    (hsame : ∀ key ∉ ["bundle_hash", "mac"], Value.Tree.get? after.bundle key = Value.Tree.get? target key)
    (hid : after.releaseId = before.releaseId) :
    IsRepair settings versions before after result where
  unchanged := hunchanged
  verified := hverified
  clean := hclean
  selection selection hselection := by
    obtain ⟨tags, htags, hkept, -⟩ := h.selection selection hselection
    refine ⟨tags, ?_, ?_⟩
    · rw [bundleSubscriptionTags_congr (hsame "subscription" (by decide)), htags]
    · rw [hsame "proxy_selection" (by decide), hkept]
  noSelection hnone := by
    rw [hsame "proxy_selection" (by decide), h.noSelection hnone]
  minVersion := by
    have hstrip := get?_stripRetiredFields before.bundle "min_monitor_version"
    rw [if_neg (by decide)] at hstrip
    rw [hsame "min_monitor_version" (by decide)]
    rcases h.minVersion with heq | ⟨hold, hnew⟩
    · exact .inl (heq.trans hstrip)
    · refine .inr ⟨?_, hnew⟩
      rw [hstrip] at hold
      obtain ⟨value, hvalue, htext⟩ := Option.map_eq_some_iff.mp hold
      rw [hvalue]
      cases value with
      | str version => exact congrArg some htext
      | null => cases htext
      | bool b => cases htext
      | int n => cases htext
      | float x => cases htext
      | list items => cases htext
      | dict fields => cases htext
  fields key hkey := by
    simp only [repairedFields, List.mem_cons, List.not_mem_nil, or_false, not_or] at hkey
    rw [hsame key (by simp [hkey]), h.fields key hkey.1 hkey.2.1, get?_stripRetiredFields]
  releaseId := hid
  again := h.again hclean hsame

/-- Signing and saving a target is a repair. -/
theorem IsTarget.isRepair_save
    (h : IsTarget settings.libs versions (stripRetiredFields desired.bundle) target) :
    IsRepair settings versions desired (saveRepaired settings desired target).2 true := by
  refine h.isRepair (fun hfalse => by cases hfalse) (fun _ => ⟨?_, ?_⟩) ?_ ?_ rfl
  · exact verifyBundle_signBundle _ _ _ _
  · rw [saveRepaired, get?_signBundle_hash, Value.Tree.get, get?_signBundle_hash]
    rfl
  · exact hasRetiredField_signBundle _ _ _ h.clean
  · exact fun key hkey => get?_signBundle_ne _ _ _ hkey

/-- A target without a change is served as it is. -/
theorem IsTarget.isRepair_same
    (h : IsTarget settings.libs versions (stripRetiredFields desired.bundle)
      (stripRetiredFields desired.bundle)) (hclean : hasRetiredField desired.bundle = false) :
    IsRepair settings versions desired desired false := by
  rw [stripRetiredFields_of_clean hclean] at h
  have htarget : IsTarget settings.libs versions (stripRetiredFields desired.bundle)
      desired.bundle := by
    rwa [stripRetiredFields_of_clean hclean]
  exact htarget.isRepair (fun _ => rfl) (fun hfalse => by cases hfalse) hclean (fun _ _ => rfl) rfl

section Targets

variable {selection : Dict} {tags : List String}

theorem isTarget_noSelection (hclean : hasRetiredField repaired = false)
    (hnone : ∀ selection, Value.Tree.get? repaired "proxy_selection" ≠ some (.dict selection)) :
    IsTarget settings.libs versions repaired repaired where
  clean := hclean
  selection selection hselection := absurd hselection (hnone selection)
  noSelection _ := rfl
  minVersion := .inl rfl
  fields _ _ _ := rfl

variable (hclean : hasRetiredField repaired = false)
  (hselection : Value.Tree.get? repaired "proxy_selection" = some (.dict selection))
  (htags : bundleSubscriptionTags settings.libs versions repaired = .ok tags)
include hclean hselection htags

/-- The selection stays as it is. -/
theorem isTarget_kept (hsel : Selectable settings.libs tags selection)
    (hraised : ¬ (selectedOutbound settings.libs selection ∉ tags ∧
      needsVersion060 repaired = true)) :
    IsTarget settings.libs versions repaired repaired where
  clean := hclean
  selection other hother := by
    obtain rfl : selection = other := by simpa [hselection] using hother
    refine ⟨tags, htags, by rw [if_pos hsel, hselection], fun _ => ?_⟩
    by_contra hnot
    rw [not_or, Bool.not_eq_false] at hnot
    exact hraised hnot
  noSelection hnone := absurd hselection (hnone selection)
  minVersion := .inl rfl
  fields _ _ _ := rfl

/-- The automatic group asks for a newer monitor. -/
theorem isTarget_raised (hsel : Selectable settings.libs tags selection)
    (hneeds : needsVersion060 repaired = true) :
    IsTarget settings.libs versions repaired
      (set repaired "min_monitor_version" (.str "0.7.0")) where
  clean := hasRetiredField_set (by decide) rfl hclean
  selection other hother := by
    obtain rfl : selection = other := by simpa [hselection] using hother
    refine ⟨tags, ?_, ?_, fun _ => .inr ?_⟩
    · rw [bundleSubscriptionTags_congr (get?_set_ne _ _ (by decide)), htags]
    · rw [if_pos hsel, get?_set_ne _ _ (by decide), hselection]
    · rw [← Bool.not_eq_true, needsVersion060_iff, get?_set_self]
      simp
  noSelection hnone := absurd hselection (hnone selection)
  minVersion := .inr ⟨needsVersion060_iff.mp hneeds, get?_set_self _ _ _⟩
  fields key _ hkey := get?_set_ne _ _ hkey

/-- A selection of an outbound that is gone is dropped. -/
theorem isTarget_dropped (hsel : ¬ Selectable settings.libs tags selection) :
    IsTarget settings.libs versions repaired (pop repaired "proxy_selection") where
  clean := hasRetiredField_pop _ hclean
  selection other hother := by
    obtain rfl : selection = other := by simpa [hselection] using hother
    refine ⟨tags, ?_, ?_, fun h => absurd h hsel⟩
    · rw [bundleSubscriptionTags_congr (get?_pop_ne _ (by decide)), htags]
    · rw [if_neg hsel, get?_pop_self]
  noSelection hnone := absurd hselection (hnone selection)
  minVersion := .inl (get?_pop_ne _ (by decide))
  fields key hkey _ := get?_pop_ne _ hkey

end Targets

/-- If the tags can be read, the call returns and repairs. -/
theorem exists_isRepair {selection : Dict} {tags : List String}
    (hselection : Value.Tree.get? (stripRetiredFields desired.bundle) "proxy_selection" =
      some (.dict selection))
    (htags : bundleSubscriptionTags settings.libs versions (stripRetiredFields desired.bundle) =
      .ok tags) :
    ∃ result after, repairStaleProxySelection settings versions desired = .ok (result, after) ∧
      IsRepair settings versions desired after result := by
  have hclean := hasRetiredField_strip desired.bundle
  rw [repair_selection hselection, htags, Except.map]
  by_cases hsel : Selectable settings.libs tags selection
  · rw [if_pos hsel]
    by_cases hraised : selectedOutbound settings.libs selection ∉ tags ∧
        needsVersion060 (stripRetiredFields desired.bundle) = true
    · rw [if_pos hraised]
      exact ⟨true, _, rfl,
        (isTarget_raised hclean hselection htags hsel hraised.2).isRepair_save⟩
    · rw [if_neg hraised]
      have htarget := isTarget_kept hclean hselection htags hsel hraised
      cases hchanged : hasRetiredField desired.bundle with
      | true => exact ⟨true, _, rfl, htarget.isRepair_save⟩
      | false => exact ⟨false, desired, rfl, htarget.isRepair_same hchanged⟩
  · rw [if_neg hsel]
    exact ⟨true, _, rfl, (isTarget_dropped hclean hselection htags hsel).isRepair_save⟩

end Repair

/-- A call that returns has read the subscription, if there is a selection. -/
theorem subscriptionReadable_of_repair {settings : Settings} {versions : List SubscriptionVersion}
    {desired after : DesiredRelease} {result : Bool} {selection : Dict}
    (hrun : repairStaleProxySelection settings versions desired = .ok (result, after))
    (hselection : Value.Tree.get? (stripRetiredFields desired.bundle) "proxy_selection" =
      some (.dict selection)) :
    SubscriptionReadable settings.libs versions (stripRetiredFields desired.bundle) := by
  rw [repair_selection hselection] at hrun
  rw [← bundleSubscriptionTags_isOk]
  cases htags : bundleSubscriptionTags settings.libs versions
      (stripRetiredFields desired.bundle) with
  | ok tags => exact ⟨tags, rfl⟩
  | error e =>
      rw [htags] at hrun
      cases hrun

/-- A call whose subscription can be read returns and repairs. -/
theorem exists_isRepair_of_readable {settings : Settings} {versions : List SubscriptionVersion}
    {desired : DesiredRelease}
    (hreadable : ∀ selection, Value.Tree.get? (stripRetiredFields desired.bundle) "proxy_selection" =
      some (.dict selection) →
        SubscriptionReadable settings.libs versions (stripRetiredFields desired.bundle)) :
    ∃ result after, repairStaleProxySelection settings versions desired = .ok (result, after) ∧
      IsRepair settings versions desired after result := by
  have hclean := hasRetiredField_strip desired.bundle
  by_cases hobject : ∃ selection, Value.Tree.get? (stripRetiredFields desired.bundle)
      "proxy_selection" = some (.dict selection)
  · obtain ⟨selection, hselection⟩ := hobject
    obtain ⟨tags, htags⟩ := bundleSubscriptionTags_isOk.mpr (hreadable selection hselection)
    exact exists_isRepair hselection htags
  · push Not at hobject
    have htarget : IsTarget settings.libs versions (stripRetiredFields desired.bundle)
        (stripRetiredFields desired.bundle) := isTarget_noSelection hclean hobject
    rw [repair_noSelection hobject]
    cases hchanged : hasRetiredField desired.bundle with
    | true => exact ⟨true, _, rfl, htarget.isRepair_save⟩
    | false => exact ⟨false, desired, rfl, htarget.isRepair_same hchanged⟩

/-- The call returns a result, and a correct one, exactly if the bundle has no object-valued
selection or the subscription it names can be read. -/
theorem repairStaleProxySelection_iff (settings : Settings) (versions : List SubscriptionVersion)
    (desired : DesiredRelease) :
    (∃ result after, repairStaleProxySelection settings versions desired = .ok (result, after) ∧
        IsRepair settings versions desired after result) ↔
      ∀ selection,
        Value.Tree.get? (stripRetiredFields desired.bundle) "proxy_selection" = some (.dict selection) →
          SubscriptionReadable settings.libs versions (stripRetiredFields desired.bundle) := by
  constructor
  · rintro ⟨result, after, hrun, -⟩ selection hselection
    exact subscriptionReadable_of_repair hrun hselection
  · exact exists_isRepair_of_readable

/-! ## A subscription that cannot be read -/

/-- An integer of so many digits. -/
def longInteger (digits : Nat) : String := String.ofList (List.replicate digits '9')

/-- `json.loads` refuses integers of more than 4300 digits with a plain `ValueError`. -/
def sampleLibraries : Libraries where
  jsonLoads text :=
    if text.toList.all Char.isDigit ∧ 4300 < text.toList.length then .raises "ValueError"
    else .malformed
  yamlLoad _ := .malformed
  reprOf _ := ""

def sampleSettings : Settings := ⟨sampleLibraries, Crypto.sampleHashes, "secret"⟩

/-- A selection, and a subscription with the content. -/
def inlineRelease (content : String) : DesiredRelease :=
  { releaseId := "release-1", bundleHash := ""
    bundle :=
      [("proxy_selection", .dict [("group", .str "subscription"), ("outbound", .str "edge-a")]),
        ("subscription", .dict [("format", .str "sing-box"), ("content", .str content)])] }

/-- If the content is read, no exception that is not caught is raised. -/
theorem readable_of_inlineRelease {settings : Settings} {versions : List SubscriptionVersion}
    {content text : String} {result : Bool} {after : DesiredRelease}
    (hrun : repairStaleProxySelection settings versions (inlineRelease content) =
      .ok (result, after))
    (hdecode : Backend.decodeUtf8Sig content.toUTF8 = some text) :
    Readable settings.libs text "sing-box" := by
  have hclean : hasRetiredField (inlineRelease content).bundle = false := rfl
  have hreadable := subscriptionReadable_of_repair hrun
    (by rw [stripRetiredFields_of_clean hclean]; rfl)
  rw [stripRetiredFields_of_clean hclean] at hreadable
  exact hreadable (content.toUTF8, "sing-box") rfl text hdecode

theorem jsonLoads_longInteger {digits : Nat} (h : 4300 < digits) :
    sampleLibraries.jsonLoads (longInteger digits) = .raises "ValueError" := by
  have hdigits : ∀ c ∈ (longInteger digits).toList, c.isDigit = true := by
    intro c hc
    rw [longInteger, String.toList_ofList] at hc
    rw [List.eq_of_mem_replicate hc]
    decide
  rw [sampleLibraries]
  refine if_pos ⟨List.all_eq_true.mpr hdigits, ?_⟩
  rwa [longInteger, String.toList_ofList, List.length_replicate]

theorem decodeUtf8Sig_longInteger {digits : Nat} (h : 0 < digits) :
    Backend.decodeUtf8Sig (longInteger digits).toUTF8 = some (longInteger digits) := by
  have hdecode : String.fromUTF8? (longInteger digits).toUTF8 = some (longInteger digits) :=
    dif_pos (longInteger digits).isValidUTF8
  obtain ⟨digits, rfl⟩ := Nat.exists_eq_succ_of_ne_zero h.ne'
  rw [Backend.decodeUtf8Sig, hdecode, Option.map_some, if_neg]
  rw [longInteger, String.toList_ofList, List.replicate_succ, List.head?_cons]
  decide

/-- The call raises instead of dropping the selection. -/
theorem repair_longInteger :
    ¬ ∃ result after,
      repairStaleProxySelection sampleSettings [] (inlineRelease (longInteger 5000)) =
          .ok (result, after) ∧
        IsRepair sampleSettings [] (inlineRelease (longInteger 5000)) after result := by
  rintro ⟨result, after, hrun, -⟩
  have hread := readable_of_inlineRelease hrun
    (decodeUtf8Sig_longInteger (show 0 < 5000 by decide))
  exact hread.1 (by decide) "ValueError" (jsonLoads_longInteger (show 4300 < 5000 by decide))

end Grouproxy.Repair
