import Grouproxy.Model.Migration
import Grouproxy.Verification.Backend.Selections

/-! # Stored bundles at a start

The migration of retired policy state leaves a bundle that the current code built alone only if
it has no blacklist entry and the lowest minimum version.
-/

namespace Grouproxy.Backend

open Text Encoding Crypto Cidr Programs

/-! ## Equality of values -/

theorem sameValue_arr (xs ys : List Json) : sameValue (.arr xs) (.arr ys) = sameItems xs ys := rfl

theorem sameValue_str (s t : String) : sameValue (.str s) (.str t) = (s == t) := rfl

theorem sameValue_bool (a b : Bool) : sameValue (.bool a) (.bool b) = (a == b) := rfl

theorem sameValue_int (m n : SafeInt) : sameValue (.int m) (.int n) = (m.val == n.val) := rfl

theorem sameValue_obj (fs gs : List (String × Json)) :
    sameValue (.obj fs) (.obj gs) = (fs.length == gs.length && sameFields fs gs) := rfl

theorem sameItems_cons (x y : Json) (xs ys : List Json) :
    sameItems (x :: xs) (y :: ys) = (sameValue x y && sameItems xs ys) := rfl

theorem sameFields_cons (key : String) (value : Json) (fs gs : List (String × Json)) :
    sameFields ((key, value) :: fs) gs =
      ((match gs.find? fun g => g.1 == key with
        | some g => sameValue value g.2
        | none => false) && sameFields fs gs) := rfl

theorem sameFields_iff (fs gs : List (String × Json)) :
    sameFields fs gs = true ↔
      ∀ f ∈ fs, ∃ value, fieldOf gs f.1 = some value ∧ sameValue f.2 value = true := by
  induction fs with
  | nil => exact ⟨fun _ f hf => absurd hf List.not_mem_nil, fun _ => rfl⟩
  | cons f fs ih =>
      rcases f with ⟨key, value⟩
      rw [sameFields_cons, Bool.and_eq_true, ih, List.forall_mem_cons]
      apply and_congr_left
      intro _
      rw [fieldOf]
      cases gs.find? fun g => g.1 == key with
      | none => simp
      | some g => simp

theorem sameItems_self {xs : List Json} (h : ∀ x ∈ xs, sameValue x x = true) :
    sameItems xs xs = true := by
  induction xs with
  | nil => rfl
  | cons x xs ih =>
      rw [sameItems_cons, Bool.and_eq_true]
      exact ⟨h x List.mem_cons_self, ih fun y hy => h y (List.mem_cons_of_mem x hy)⟩

theorem fieldOf_of_mem {d : Dict} (hkeys : (d.map Prod.fst).Nodup) {f : String × Json}
    (h : f ∈ d) : fieldOf d f.1 = some f.2 := by
  induction d with
  | nil => cases h
  | cons g d ih =>
      rw [List.map_cons, List.nodup_cons] at hkeys
      rcases List.mem_cons.mp h with rfl | hrest
      · rw [fieldOf, List.find?_cons_of_pos (by simp)]
        rfl
      · have hne : g.1 ≠ f.1 := fun hsame => hkeys.1 (hsame ▸ List.mem_map_of_mem hrest)
        rw [fieldOf, List.find?_cons_of_neg (by simpa using hne)]
        exact ih hkeys.2 hrest

/-! ## Clean dictionaries -/

theorem hasRetiredField_eq_false {fs : List (String × Json)} :
    hasRetiredField fs = false ↔
      ∀ f ∈ fs, f.1 ∉ retiredPolicyFields ∧ hasRetired f.2 = false := by
  induction fs with
  | nil => simp [hasRetiredField]
  | cons f fs ih =>
      rcases f with ⟨key, value⟩
      rw [hasRetiredField, Bool.or_eq_false_iff, Bool.or_eq_false_iff, ih, List.forall_mem_cons]
      simp

theorem hasRetiredItem_eq_false {xs : List Json} :
    hasRetiredItem xs = false ↔ ∀ x ∈ xs, hasRetired x = false := by
  induction xs with
  | nil => simp [hasRetiredItem]
  | cons x xs ih => rw [hasRetiredItem, Bool.or_eq_false_iff, ih, List.forall_mem_cons]

theorem stripRetiredItems_eq_self {xs : List Json}
    (h : ∀ x ∈ xs, stripRetiredPolicyFields x = x) : stripRetiredItems xs = xs := by
  induction xs with
  | nil => rfl
  | cons x xs ih =>
      rw [stripRetiredItems, h x List.mem_cons_self, ih fun y hy => h y (List.mem_cons_of_mem x hy)]

theorem stripRetiredFields_eq_self {fs : List (String × Json)}
    (h : ∀ f ∈ fs, f.1 ∉ retiredPolicyFields ∧ stripRetiredPolicyFields f.2 = f.2) :
    stripRetiredFields fs = fs := by
  induction fs with
  | nil => rfl
  | cons f fs ih =>
      rcases f with ⟨key, value⟩
      have hfirst := h (key, value) List.mem_cons_self
      rw [stripRetiredFields, if_neg hfirst.1, hfirst.2,
        ih fun g hg => h g (List.mem_cons_of_mem _ hg)]

/-- Nothing retired, nothing to strip. -/
theorem stripRetiredPolicyFields_eq_self {value : Json} (h : hasRetired value = false) :
    stripRetiredPolicyFields value = value := by
  induction value with
  | null => rfl
  | bool b => rfl
  | int n => rfl
  | str s => rfl
  | arr xs ih =>
      rw [hasRetired, hasRetiredItem_eq_false] at h
      rw [stripRetiredPolicyFields, stripRetiredItems_eq_self fun x hx => ih x hx (h x hx)]
  | obj fs ih =>
      rw [hasRetired, hasRetiredField_eq_false] at h
      rw [stripRetiredPolicyFields, stripRetiredFields_eq_self fun f hf =>
        ⟨(h f hf).1, ih f hf (h f hf).2⟩]

/-- A value that the migration does not touch and that equals itself. -/
structure IsCleanValue (value : Json) : Prop where
  retired : hasRetired value = false
  same : sameValue value value = true

/-- A dictionary with distinct keys, none of them retired, and clean values. -/
structure IsClean (d : Dict) : Prop where
  nodup : (d.map Prod.fst).Nodup
  keys : ∀ f ∈ d, f.1 ∉ "proxy_auth" :: retiredPolicyFields
  values : ∀ f ∈ d, IsCleanValue f.2

theorem isCleanValue_arr {xs : List Json} (h : ∀ x ∈ xs, IsCleanValue x) :
    IsCleanValue (.arr xs) where
  retired := by
    rw [hasRetired, hasRetiredItem_eq_false]
    exact fun x hx => (h x hx).retired
  same := by
    rw [sameValue_arr]
    exact sameItems_self fun x hx => (h x hx).same

theorem IsClean.value {d : Dict} (h : IsClean d) : IsCleanValue (.obj d) where
  retired := by
    rw [hasRetired, hasRetiredField_eq_false]
    exact fun f hf => ⟨fun hkey => h.keys f hf (List.mem_cons_of_mem _ hkey),
      (h.values f hf).retired⟩
  same := by
    rw [sameValue_obj, Bool.and_eq_true, sameFields_iff]
    exact ⟨by simp, fun f hf => ⟨f.2, fieldOf_of_mem h.nodup hf, (h.values f hf).same⟩⟩

theorem isCleanValue_str (s : String) : IsCleanValue (.str s) :=
  ⟨rfl, by rw [sameValue_str, beq_self_eq_true]⟩

theorem isCleanValue_bool (b : Bool) : IsCleanValue (.bool b) :=
  ⟨rfl, by rw [sameValue_bool, beq_self_eq_true]⟩

theorem isCleanValue_int (n : SafeInt) : IsCleanValue (.int n) :=
  ⟨rfl, by rw [sameValue_int, beq_self_eq_true]⟩

theorem isCleanValue_null : IsCleanValue .null := ⟨rfl, rfl⟩

theorem nodup_set {d : Dict} (h : (d.map Prod.fst).Nodup) (key : String) (value : Json) :
    ((Dict.set d key value).map Prod.fst).Nodup := by
  rw [Dict.set, List.map_cons, List.nodup_cons]
  refine ⟨?_, h.sublist (List.filter_sublist.map Prod.fst)⟩
  intro hmem
  obtain ⟨f, hf, hsame⟩ := List.mem_map.mp hmem
  simp [hsame] at hf

theorem IsClean.set {d : Dict} (h : IsClean d) {key : String} {value : Json}
    (hkey : key ∉ "proxy_auth" :: retiredPolicyFields) (hvalue : IsCleanValue value) :
    IsClean (Dict.set d key value) where
  nodup := nodup_set h.nodup key value
  keys := List.forall_mem_cons.mpr ⟨hkey, fun f hf => h.keys f (List.mem_of_mem_filter hf)⟩
  values := List.forall_mem_cons.mpr ⟨hvalue, fun f hf => h.values f (List.mem_of_mem_filter hf)⟩

/-! ## Built bundles are clean -/

/-- Keys that the builder may write. -/
def areKeysFine (keys : List String) : Bool :=
  decide (keys.Nodup ∧ ∀ key ∈ keys, key ∉ "proxy_auth" :: retiredPolicyFields)

/-- A dictionary whose keys are written out is clean if its values are. -/
theorem isClean_of_keys {d : Dict} (keys : List String) (hkeys : d.map Prod.fst = keys)
    (hfine : areKeysFine keys = true) (hvalues : ∀ f ∈ d, IsCleanValue f.2) : IsClean d := by
  rw [areKeysFine, decide_eq_true_eq] at hfine
  exact ⟨hkeys ▸ hfine.1, fun f hf => hfine.2 f.1 (hkeys ▸ List.mem_map_of_mem hf), hvalues⟩

/-- A dictionary of texts. -/
theorem isCleanValue_texts (keys : List String) (texts : List (String × String))
    (hkeys : texts.map Prod.fst = keys) (hfine : areKeysFine keys = true) :
    IsCleanValue (.obj (texts.map fun text => (text.1, .str text.2))) := by
  apply IsClean.value
  apply isClean_of_keys keys
  · rw [← hkeys, List.map_map]
    rfl
  · exact hfine
  · intro f hf
    obtain ⟨text, -, rfl⟩ := List.mem_map.mp hf
    exact isCleanValue_str text.2

theorem isCleanValue_accessControlJson (e : PolicyEntry) : IsCleanValue (accessControlJson e) :=
  isCleanValue_texts ["id", "action", "direction", "kind", "pattern", "reason"]
    [("id", e.id), ("action", e.key.action), ("direction", e.key.direction), ("kind", e.key.kind),
      ("pattern", e.key.pattern), ("reason", e.reason)] rfl (by decide)

theorem isCleanValue_blacklistJson (e : PolicyEntry) : IsCleanValue (blacklistJson e) :=
  isCleanValue_texts ["id", "direction", "kind", "pattern"]
    [("id", e.id), ("direction", e.key.direction), ("kind", e.key.kind),
      ("pattern", e.key.pattern)] rfl (by decide)

theorem isCleanValue_ruleDump (rule : RoutingRule) : IsCleanValue rule.modelDump :=
  isCleanValue_texts ["kind", "pattern", "action"]
    [("kind", rule.kind.text), ("pattern", rule.pattern), ("action", rule.action.text)] rfl
    (by decide)

theorem isCleanValue_selection (group outbound : String) :
    IsCleanValue (.obj [("group", .str group), ("outbound", .str outbound)]) :=
  isCleanValue_texts ["group", "outbound"] [("group", group), ("outbound", outbound)] rfl
    (by decide)

theorem isCleanValue_modelDump (policy : RoutingPolicy) : IsCleanValue policy.modelDump := by
  refine IsClean.value (isClean_of_keys ["mode", "private_direct", "cn_direct", "final", "rules"]
    rfl (by decide) ?_)
  simp only [List.forall_mem_cons]
  refine ⟨isCleanValue_str _, isCleanValue_bool _, isCleanValue_bool _, isCleanValue_str _,
    isCleanValue_arr ?_, fun f hf => absurd hf List.not_mem_nil⟩
  intro value hvalue
  obtain ⟨rule, -, rfl⟩ := List.mem_map.mp hvalue
  exact isCleanValue_ruleDump rule

theorem isCleanValue_subscriptionPayload (settings : Settings) (version : SubscriptionVersion)
    (content : String) : IsCleanValue (.obj (subscriptionPayload settings version content)) := by
  have hvalues : ∀ last : String × Json, IsCleanValue last.2 →
      ∀ f ∈ [("version", number version.version), ("version_id", .str version.id),
        ("hash", .str version.contentHash), ("format", .str version.format),
        ("size_bytes", number version.sizeBytes), last], IsCleanValue f.2 := by
    intro last hlast
    simp only [List.forall_mem_cons]
    exact ⟨isCleanValue_int _, isCleanValue_str _, isCleanValue_str _, isCleanValue_str _,
      isCleanValue_int _, hlast, fun f hf => absurd hf List.not_mem_nil⟩
  rw [subscriptionPayload]
  split
  · exact IsClean.value (isClean_of_keys
      ["version", "version_id", "hash", "format", "size_bytes", "content"] rfl (by decide)
      (hvalues ("content", _) (isCleanValue_str _)))
  · exact IsClean.value (isClean_of_keys
      ["version", "version_id", "hash", "format", "size_bytes", "blob_url"] rfl (by decide)
      (hvalues ("blob_url", _) (isCleanValue_str _)))

theorem isCleanValue_subscriptionOf {settings : Settings} {s : Store} {siteId : String}
    {subscription : Option Dict} (h : subscriptionOf settings s siteId = .ok subscription) :
    ∀ payload ∈ subscription, IsCleanValue (.obj payload) := by
  rw [subscriptionOf] at h
  split at h
  · cases h
    exact fun payload hpayload => absurd hpayload (by simp)
  · split at h
    · cases h
    · split at h
      · cases h
      · split at h
        · cases h
        · cases h
          intro payload hpayload
          cases hpayload
          exact isCleanValue_subscriptionPayload settings _ _

theorem isClean_baseBundle (site : Site) (node : Node) (desiredVersion : Nat) (draws : Draws)
    (blacklist accessControl : List PolicyEntry) {subscription : Option Dict}
    (h : ∀ payload ∈ subscription, IsCleanValue (.obj payload)) :
    IsClean (baseBundle site node desiredVersion draws blacklist accessControl subscription) := by
  have hlisten : IsCleanValue (.obj [("http_port", number 3128)]) := by
    refine IsClean.value (isClean_of_keys ["http_port"] rfl (by decide) ?_)
    simp only [List.forall_mem_cons]
    exact ⟨isCleanValue_int _, fun f hf => absurd hf List.not_mem_nil⟩
  refine isClean_of_keys ["schema_version", "release_id", "desired_version",
    "min_monitor_version", "site_id", "node_id", "shutdown", "listen", "blacklist",
    "access_control", "subscription", "issued_at", "expires_at"] rfl (by decide) ?_
  unfold baseBundle
  simp only [List.forall_mem_cons]
  refine ⟨isCleanValue_int _, isCleanValue_str _, isCleanValue_int _, isCleanValue_str _,
    isCleanValue_str _, isCleanValue_str _, isCleanValue_bool _, hlisten,
    isCleanValue_arr ?_, isCleanValue_arr ?_, ?_, isCleanValue_str _, isCleanValue_str _,
    fun f hf => absurd hf List.not_mem_nil⟩
  · intro value hvalue
    obtain ⟨entry, -, rfl⟩ := List.mem_map.mp hvalue
    exact isCleanValue_blacklistJson entry
  · intro value hvalue
    obtain ⟨entry, -, rfl⟩ := List.mem_map.mp hvalue
    exact isCleanValue_accessControlJson entry
  · cases subscription with
    | none => exact isCleanValue_null
    | some payload => exact h payload rfl

theorem isClean_addProxySelection {libs : Libraries} {tags : List String} {proxySelection : Json}
    {bundle : Dict} (h : IsClean bundle) :
    IsClean (addProxySelection libs tags proxySelection bundle) := by
  unfold addProxySelection
  split
  · split
    · exact h
    · dsimp only
      split
      · split
        · exact (h.set (by decide) (isCleanValue_selection _ _)).set (by decide)
            (isCleanValue_str _)
        · exact h.set (by decide) (isCleanValue_selection _ _)
      · exact h
  · exact h

theorem isClean_addRoutingPolicy {libs : Libraries} {hasSubscription : Bool} {policy : Json}
    {bundle bundle' : Dict} (h : IsClean bundle)
    (hadd : addRoutingPolicy libs hasSubscription policy bundle = .ok bundle') :
    IsClean bundle' := by
  rw [addRoutingPolicy] at hadd
  split at hadd
  · cases hadd
    exact h
  · split at hadd
    · cases hadd
    · split at hadd
      · cases hadd
      · cases hadd
        exact (h.set (by decide) (isCleanValue_modelDump _)).set (by decide)
          (isCleanValue_str _)

theorem isClean_bundleOf {settings : Settings} {s : Store} {site : Site} {node : Node}
    {desiredVersion : Nat} {draws : Draws} {proxySelection routingPolicy : Json} {bundle : Dict}
    (h : bundleOf settings s site node desiredVersion draws proxySelection routingPolicy =
      .ok bundle) : IsClean bundle := by
  obtain ⟨subscription, unsigned, hsubscription, hunsigned, rfl⟩ := bundleOf_ok h
  have hunsigned := isClean_addRoutingPolicy (isClean_addProxySelection
    (isClean_baseBundle _ _ _ _ _ _ (isCleanValue_subscriptionOf hsubscription))) hunsigned
  exact (hunsigned.set (by decide) (isCleanValue_str _)).set (by decide)
    (isCleanValue_str _)

/-! ## Normalized bundles -/

theorem dictPop_eq_self {d : Dict} {key : String} (h : ∀ f ∈ d, f.1 ≠ key) : dictPop d key = d := by
  rw [dictPop, List.filter_eq_self]
  intro f hf
  simpa using h f hf

/-- Only the blacklist and the minimum version of a clean bundle are written. -/
theorem normalizedBundle_of_clean {d : Dict} (h : IsClean d) {items : List Json}
    (hlisten : listensOnProxyPort (dictGet d "listen") = true)
    (hblacklist : fieldOf d "blacklist" = some (.arr items)) :
    normalizedBundle d = Dict.set (Dict.set d "blacklist"
      (.arr (canonicalBundleBlacklist (.arr items)))) "min_monitor_version" (.str "0.6.0") := by
  have hstrip : stripRetiredFields d = d := stripRetiredFields_eq_self fun f hf =>
    ⟨fun hkey => h.keys f hf (List.mem_cons_of_mem _ hkey),
      stripRetiredPolicyFields_eq_self (h.values f hf).retired⟩
  have hauth : dictPop d "proxy_auth" = d :=
    dictPop_eq_self fun f hf hkey => h.keys f hf (hkey ▸ List.mem_cons_self)
  have hport : withProxyPort d = d := by
    rw [withProxyPort, if_pos hlisten]
  have hraw : rawBlacklist d d = .arr items := by
    rw [rawBlacklist, dictGet_eq, hblacklist]
    rfl
  have hsource : ∀ value, dictPop (Dict.set d "blacklist" value) "source_blacklist" =
      Dict.set d "blacklist" value := by
    intro value
    refine dictPop_eq_self (List.forall_mem_cons.mpr ⟨by simp, fun f hf hkey => ?_⟩)
    exact h.keys f (List.mem_of_mem_filter hf) (hkey ▸ by decide)
  rw [normalizedBundle, hstrip, hauth, hport, hraw, hsource]

theorem length_set {d : Dict} (hkeys : (d.map Prod.fst).Nodup) {key : String} {old : Json}
    (h : fieldOf d key = some old) (value : Json) : (Dict.set d key value).length = d.length := by
  induction d with
  | nil => cases h
  | cons f d ih =>
      rw [List.map_cons, List.nodup_cons] at hkeys
      by_cases hf : f.1 = key
      · have hrest : (d.filter fun g => g.1 ≠ key) = d := by
          rw [List.filter_eq_self]
          intro g hg
          have hne : g.1 ≠ key := fun hsame => hkeys.1 (hf ▸ hsame ▸ List.mem_map_of_mem hg)
          simpa using hne
        rw [Dict.set, List.filter_cons_of_neg (by simpa using hf), hrest]
        rfl
      · have hfield : fieldOf d key = some old := by
          rw [fieldOf, List.find?_cons_of_neg (by simpa using hf)] at h
          exact h
        have hlength := ih hkeys.2 hfield
        rw [Dict.set, List.length_cons] at hlength
        rw [Dict.set, List.filter_cons_of_pos (by simpa using hf), List.length_cons,
          List.length_cons, List.length_cons, hlength]

/-- Writing two fields of a clean dictionary leaves it equal if both values stay equal. -/
theorem sameValue_set_set {d : Dict} (h : IsClean d) {key key' : String} (hne : key' ≠ key)
    {old old' value value' : Json} (hold : fieldOf d key = some old)
    (hold' : fieldOf d key' = some old') :
    sameValue (.obj (Dict.set (Dict.set d key value) key' value')) (.obj d) = true ↔
      sameValue value old = true ∧ sameValue value' old' = true := by
  have hlength : (Dict.set (Dict.set d key value) key' value').length = d.length := by
    have hfirst := length_set h.nodup hold value
    have hkeys : ((Dict.set d key value).map Prod.fst).Nodup := nodup_set h.nodup key value
    rw [length_set hkeys (by rw [fieldOf_set_ne _ _ hne]; exact hold'), hfirst]
  rw [sameValue_obj, Bool.and_eq_true, hlength, sameFields_iff]
  simp only [BEq.rfl, true_and]
  constructor
  · intro hall
    obtain ⟨found', hfound', hsame'⟩ := hall (key', value') List.mem_cons_self
    obtain ⟨found, hfound, hsame⟩ := hall (key, value) (List.mem_cons_of_mem _
      (List.mem_filter.mpr ⟨List.mem_cons_self, by simpa using hne.symm⟩))
    rw [hold] at hfound
    rw [hold'] at hfound'
    cases hfound
    cases hfound'
    exact ⟨hsame, hsame'⟩
  · rintro ⟨hvalue, hvalue'⟩ f hf
    rcases List.mem_cons.mp hf with rfl | hf
    · exact ⟨old', hold', hvalue'⟩
    · rcases List.mem_cons.mp (List.mem_of_mem_filter hf) with rfl | hf
      · exact ⟨old, hold, hvalue⟩
      · have hmem := List.mem_of_mem_filter hf
        exact ⟨f.2, fieldOf_of_mem h.nodup hmem, (h.values f hmem).same⟩

/-! ## What a bundle carries -/

/-- The selection names the automatic group of the subscription. -/
def namesAutomaticGroup (libs : Libraries) (tags : List String) : Json → Bool
  | .obj selection =>
    let group := clip 255 (strOf libs (dictGetD selection "group" (.str "subscription")))
    let outbound := clip 255 (strOf libs (dictGetD selection "outbound" (.str "")))
    selection ≠ [] && group = "subscription" && outbound ∈ subscriptionSelectionTags tags &&
      outbound ∉ tags
  | _ => false

theorem fieldOf_minimum_addProxySelection (libs : Libraries) (tags : List String)
    (proxySelection : Json) {bundle : Dict} {minimum : Json}
    (h : fieldOf bundle "min_monitor_version" = some minimum) :
    fieldOf (addProxySelection libs tags proxySelection bundle) "min_monitor_version" =
      some (if namesAutomaticGroup libs tags proxySelection then .str "0.7.0" else minimum) := by
  cases proxySelection with
  | obj selection =>
      rw [addProxySelection, namesAutomaticGroup]
      by_cases hempty : selection = []
      · simp [hempty, h]
      · rw [if_neg hempty]
        dsimp only
        split
        · rename_i hkept
          split
          · rename_i hauto
            have hkept := hkept.resolve_left (by simp [hauto.1])
            rw [fieldOf_set_self]
            simp [hempty, hauto.1, hauto.2, hkept]
          · rename_i hauto
            rw [fieldOf_set_ne _ _ (by decide), h, if_neg]
            simp only [Bool.and_eq_true, decide_eq_true_eq]
            exact fun hnames => hauto ⟨hnames.1.1.2, hnames.2⟩
        · rename_i hkept
          rw [h, if_neg]
          simp only [Bool.and_eq_true, decide_eq_true_eq]
          exact fun hnames => hkept (.inr hnames.1.2)
  | null => exact h
  | bool b => exact h
  | int n => exact h
  | str s => exact h
  | arr items => exact h

theorem fieldOf_minimum_addRoutingPolicy {libs : Libraries} {hasSubscription : Bool}
    {policy : Json} {bundle bundle' : Dict}
    (h : addRoutingPolicy libs hasSubscription policy bundle = .ok bundle') :
    fieldOf bundle' "min_monitor_version" =
      if isNone policy then fieldOf bundle "min_monitor_version" else some (.str "0.8.0") := by
  rw [addRoutingPolicy] at h
  split at h
  · rename_i hnone
    cases h
    rw [if_pos hnone]
  · rename_i hnone
    split at h
    · cases h
    · split at h
      · cases h
      · cases h
        rw [if_neg hnone, fieldOf_set_self]

section Built

variable {settings : Settings} {s : Store} {site : Site} {node : Node} {desiredVersion : Nat}
  {draws : Draws} {proxySelection routingPolicy : Json} {bundle : Dict}
  (h : bundleOf settings s site node desiredVersion draws proxySelection routingPolicy = .ok bundle)
include h

theorem minimum_bundleOf : fieldOf bundle "min_monitor_version" =
    some (.str (if isNone routingPolicy then
      if namesAutomaticGroup settings.libs (tagsOf settings.libs s site.id) proxySelection then
        "0.7.0" else "0.6.0"
      else "0.8.0")) := by
  obtain ⟨subscription, unsigned, -, hunsigned, rfl⟩ := bundleOf_ok h
  rw [fieldOf_signBundle _ _ _ (by decide) (by decide), fieldOf_minimum_addRoutingPolicy hunsigned,
    fieldOf_minimum_addProxySelection settings.libs _ proxySelection rfl]
  split
  · split
    · rfl
    · rfl
  · rfl

theorem blacklist_bundleOf : fieldOf bundle "blacklist" =
    some (.arr ((effectiveBlacklist node.agentId s.blacklist).map blacklistJson)) := by
  obtain ⟨subscription, -, hfield⟩ := base_bundleOf h "blacklist" (by decide)
  exact hfield

theorem listensOnProxyPort_bundleOf : listensOnProxyPort (dictGet bundle "listen") = true := by
  obtain ⟨subscription, -, hfield⟩ := base_bundleOf h "listen" (by decide)
  rw [dictGet_eq, hfield]
  rfl

end Built

/-! ## The migration -/

/-- Entries lose their identifier, so only an empty list is left alone. -/
theorem sameItems_canonical (entries : List PolicyEntry) :
    sameItems (canonicalBundleBlacklist (.arr (entries.map blacklistJson)))
      (entries.map blacklistJson) = true ↔ entries = [] := by
  constructor
  · intro h
    cases entries with
    | nil => rfl
    | cons e entries =>
        rw [canonicalBundleBlacklist] at h
        cases hkeys : (distinctBy id [] (((e :: entries).map blacklistJson).filterMap
            bundleRuleKey?)).insertionSort fun a b => tupleLe a.tuple b.tuple = true with
        | nil =>
            rw [hkeys] at h
            cases h
        | cons key keys =>
            rw [hkeys] at h
            simp [sameItems_cons, ruleKeyJson, blacklistJson, sameValue_obj] at h
  · rintro rfl
    rfl

/-- A document that stays as it is was in the normal form, or is its own replacement. -/
theorem signed_of_migrateRelease {settings : Settings} {release : DesiredRelease}
    (h : migrateRelease settings release = release) :
    sameValue (.obj (normalizedBundle release.bundle)) (.obj release.bundle) = true ∨
      signBundle settings.hashes (normalizedBundle release.bundle) settings.bundleHmacSecret =
        release.bundle := by
  rw [migrateRelease] at h
  split at h
  · exact .inl (by assumption)
  · exact .inr (congrArg DesiredRelease.bundle h)

/-- Every document that the migration writes asks for the lowest version. -/
theorem minimum_migrateRelease {settings : Settings} {release : DesiredRelease}
    (h : migrateRelease settings release ≠ release) :
    fieldOf (migrateRelease settings release).bundle "min_monitor_version" =
      some (.str "0.6.0") := by
  rw [migrateRelease] at h ⊢
  split
  · rename_i hsame
    exact absurd (if_pos hsame) h
  · exact (fieldOf_signBundle _ _ _ (by decide) (by decide)).trans (fieldOf_set_self _ _ _)

/-- The bundle has no blacklist entry and the lowest minimum version. -/
def IsLowest (libs : Libraries) (s : Store) (site : Site) (node : Node)
    (proxySelection routingPolicy : Json) : Prop :=
  effectiveBlacklist node.agentId s.blacklist = [] ∧ isNone routingPolicy = true ∧
    namesAutomaticGroup libs (tagsOf libs s site.id) proxySelection = false

section Migrated

variable {builder : Settings} {s : Store} {site : Site} {node : Node} {desiredVersion : Nat}
  {draws : Draws} {proxySelection routingPolicy : Json} {bundle : Dict}
  (h : bundleOf builder s site node desiredVersion draws proxySelection routingPolicy = .ok bundle)
include h

theorem minimum_lowest_iff : fieldOf bundle "min_monitor_version" = some (.str "0.6.0") ↔
    isNone routingPolicy = true ∧
      namesAutomaticGroup builder.libs (tagsOf builder.libs s site.id) proxySelection = false := by
  rw [minimum_bundleOf h]
  cases isNone routingPolicy with
  | true =>
      cases namesAutomaticGroup builder.libs (tagsOf builder.libs s site.id) proxySelection with
      | true => simp
      | false => simp
  | false => simp

theorem sameValue_normalizedBundle_iff :
    sameValue (.obj (normalizedBundle bundle)) (.obj bundle) = true ↔
      IsLowest builder.libs s site node proxySelection routingPolicy := by
  have hclean := isClean_bundleOf h
  have hblacklist := blacklist_bundleOf h
  have hminimum := minimum_bundleOf h
  rw [normalizedBundle_of_clean hclean (listensOnProxyPort_bundleOf h) hblacklist,
    sameValue_set_set hclean (by decide) hblacklist hminimum, IsLowest, ← minimum_lowest_iff h,
    hminimum, sameValue_arr, sameItems_canonical, sameValue_str, beq_iff_eq, Option.some.injEq,
    Json.str.injEq, eq_comm (a := "0.6.0")]

/-- A stored document of the bundle stays as it is exactly if the bundle is lowest. -/
theorem migrateRelease_eq_self_iff (settings : Settings) {release : DesiredRelease}
    (hstored : release.bundle = bundle) :
    migrateRelease settings release = release ↔
      IsLowest builder.libs s site node proxySelection routingPolicy := by
  constructor
  · intro hsame
    rcases signed_of_migrateRelease hsame with hsame | hsigned
    · rw [hstored] at hsame
      exact (sameValue_normalizedBundle_iff h).mp hsame
    · rw [hstored] at hsigned
      -- The signed replacement carries the normal form's two fields.
      have hblacklist := blacklist_bundleOf h
      have hwritten := normalizedBundle_of_clean (isClean_bundleOf h)
        (listensOnProxyPort_bundleOf h) hblacklist
      have hminimum : fieldOf bundle "min_monitor_version" = some (.str "0.6.0") := by
        rw [← hsigned, fieldOf_signBundle _ _ _ (by decide) (by decide), hwritten,
          fieldOf_set_self]
      have hitems : fieldOf bundle "blacklist" = some (.arr (canonicalBundleBlacklist
          (.arr ((effectiveBlacklist node.agentId s.blacklist).map blacklistJson)))) := by
        rw [← hsigned, fieldOf_signBundle _ _ _ (by decide) (by decide), hwritten,
          fieldOf_set_ne _ _ (by decide), fieldOf_set_self]
      refine ⟨?_, (minimum_lowest_iff h).mp hminimum⟩
      rw [hblacklist, Option.some.injEq, Json.arr.injEq] at hitems
      rw [← sameItems_canonical, ← hitems]
      apply sameItems_self
      intro value hvalue
      obtain ⟨entry, -, rfl⟩ := List.mem_map.mp hvalue
      exact (isCleanValue_blacklistJson entry).same
  · intro hlowest
    rw [migrateRelease, hstored, if_pos ((sameValue_normalizedBundle_iff h).mpr hlowest)]

end Migrated

/-- A start leaves a stored bundle alone if and only if it has no blacklist entry and no minimum
version above the lowest. -/
theorem migration_unchanged_iff (builder settings : Settings) (name : NodeOp → Label)
    (s t : Store) (site : Site) (node : Node) (desiredVersion : Nat) (draws : Draws)
    (proxySelection routingPolicy : Json) (bundle : Dict) (i : Nat) (release : DesiredRelease)
    (hbundle : (buildSignedBundle builder name site node desiredVersion draws proxySelection
      routingPolicy).run s = (.ok bundle, s))
    (hrelease : t.desired[i]? = some release) (hstored : release.bundle = bundle) :
    (migrateRetiredPolicyState settings t).desired[i]? = some release ↔
      effectiveBlacklist node.agentId s.blacklist = [] ∧ isNone routingPolicy = true ∧
        namesAutomaticGroup builder.libs (tagsOf builder.libs s site.id) proxySelection =
          false := by
  have hbuilt : bundleOf builder s site node desiredVersion draws proxySelection routingPolicy =
      .ok bundle := by
    rw [Prog.run, buildSignedBundle_runWith fun _ _ => rfl] at hbundle
    exact (Prod.mk.inj hbundle).1
  rw [migrateRetiredPolicyState, List.getElem?_map, hrelease, Option.map_some, Option.some.injEq]
  exact migrateRelease_eq_self_iff hbuilt settings hstored

/-- An installation with a subscription and a set for the node, without a blacklist. -/
def boundStore : Store :=
  { subscribedStore with
    networkGroups := [⟨"group-1", [⟨"cidr", "10.0.0.0/8"⟩]⟩]
    accessControlSets := [⟨"set-1", ["north-a"], ["group-1"], .deny, "source", "guests", true⟩] }

def edgeSelection : Json := .obj [("group", .str "subscription"), ("outbound", .str "edge-b")]

def boundBundle : Except Failure Dict :=
  bundleOf subscribedSettings boundStore sampleSite sampleNode 1 (sampleDraws "a") edgeSelection .null

/-- The bundle carries the subscription, the selection and the rule of the set, and stays. -/
theorem migration_unchanged_iff_bound :
    ∃ bundle, boundBundle = .ok bundle ∧ selectedOutbound bundle = some "edge-b" ∧
      isTruthy (dictGet bundle "subscription") = true ∧
      isTruthy (dictGet bundle "access_control") = true ∧
      (migrateRetiredPolicyState subscribedSettings { boundStore with
        desired := [newDesiredRelease sampleSite sampleNode 1 (sampleDraws "a") none bundle]
        }).desired[0]? =
        some (newDesiredRelease sampleSite sampleNode 1 (sampleDraws "a") none bundle) := by
  have hbuilds : boundBundle.toOption.any (fun bundle => selectedOutbound bundle == some "edge-b" &&
      isTruthy (dictGet bundle "subscription") && isTruthy (dictGet bundle "access_control")) =
        true := by
    decide
  obtain ⟨bundle, hbundle, hfields⟩ := (Option.any_eq_true _ _).mp hbuilds
  rw [Bool.and_eq_true, Bool.and_eq_true, beq_iff_eq] at hfields
  have hbuilt := eq_ok_of_toOption hbundle
  have hrun : (buildSignedBundle subscribedSettings
      (fun op => .desired "site-north" (.node "north-a" op)) sampleSite sampleNode 1
      (sampleDraws "a") edgeSelection .null).run boundStore = (.ok bundle, boundStore) := by
    rw [Prog.run, buildSignedBundle_runWith fun _ _ => rfl]
    exact congrArg (·, boundStore) hbuilt
  have hlowest : namesAutomaticGroup subscribedSettings.libs
      (tagsOf subscribedSettings.libs boundStore sampleSite.id) edgeSelection = false := by
    decide
  exact ⟨bundle, hbuilt, hfields.1.1, hfields.1.2, hfields.2,
    (migration_unchanged_iff subscribedSettings subscribedSettings _ boundStore _ sampleSite
      sampleNode 1 (sampleDraws "a") edgeSelection .null bundle 0 _ hrun rfl rfl).mpr
      ⟨rfl, rfl, hlowest⟩⟩

/-- The document of a sample bundle, alone in the store. -/
def storedBundle (bundle : Dict) : Store :=
  { sampleStore with
    desired := [newDesiredRelease sampleSite sampleNode 1 (sampleDraws "a") none bundle] }

/-- A bundle with a routing policy asks for monitor 0.8.0. After a start it asks for 0.6.0. -/
theorem migration_lowers_minimum :
    ∃ bundle, (buildSignedBundle sampleSettings
        (fun op => .desired "site-north" (.node "north-a" op)) sampleSite sampleNode 1
        (sampleDraws "a") .null (.obj [("final", .str "direct")])).run sampleStore =
          (.ok bundle, sampleStore) ∧
      (storedBundle bundle).desired.map (fun d => fieldOf d.bundle "min_monitor_version") =
        [some (.str "0.8.0")] ∧
      (migrateRetiredPolicyState sampleSettings (storedBundle bundle)).desired.map
        (fun d => fieldOf d.bundle "min_monitor_version") = [some (.str "0.6.0")] := by
  obtain ⟨bundle, hbundle⟩ := exists_policyBundle (.obj [("final", .str "direct")])
    (by decide)
  have hbefore := minimum_bundleOf hbundle
  have hafter : migrateRelease sampleSettings
      (newDesiredRelease sampleSite sampleNode 1 (sampleDraws "a") none bundle) ≠
        newDesiredRelease sampleSite sampleNode 1 (sampleDraws "a") none bundle := by
    rw [Ne, migrateRelease_eq_self_iff hbundle sampleSettings rfl, IsLowest]
    exact fun hlowest => absurd hlowest.2.1 (by decide)
  refine ⟨bundle, run_policyBundle hbundle, ?_, ?_⟩
  · simpa [storedBundle, newDesiredRelease, isNone] using hbefore
  · simpa [storedBundle, migrateRetiredPolicyState] using minimum_migrateRelease hafter

end Grouproxy.Backend
