import Grouproxy.Verification.Backend.BundleRepair
import Grouproxy.Verification.Backend.Serving

/-! # The repair that a node is served

The repair is modelled twice: as a handler that saves the JSON bundle of a release, and as a
function on any stored document. On JSON bundles both sign the same text, strip the same fields and
save the same document.
-/

namespace Grouproxy.Repair

open Text Ipaddress Value Encoding Programs Grouproxy.Bundle

/-! ## Signing and stripping -/

theorem canonicalJson_ofJson (value : Json) :
    canonicalJson (.ofJson value) = Crypto.canonicalJson value := by
  rw [canonicalJson, Tree.dumps_ofJson, Crypto.canonicalJson]

section JsonBundle

variable (h : Hashes) (bundle : Crypto.Dict) (secret : String)

theorem bundleHashInput_ofJson : bundleHashInput (Tree.ofJsonFields bundle) =
    Tree.ofJsonFields (Crypto.bundleHashInput bundle) :=
  Tree.filter_ofJsonFields (fun key => key ∉ ["bundle_hash", "mac"]) bundle

theorem calculateBundleHash_ofJson : calculateBundleHash h (Tree.ofJsonFields bundle) =
    Crypto.calculateBundleHash h bundle := by
  have hcanonical := canonicalJson_ofJson (.obj (Crypto.bundleHashInput bundle))
  rw [calculateBundleHash, bundleHashInput_ofJson, Crypto.calculateBundleHash, ← hcanonical,
    Tree.ofJson]

theorem set_ofJson (key : String) (value : Json) :
    set (Tree.ofJsonFields bundle) key (.ofJson value) =
      Tree.ofJsonFields (Crypto.Dict.set bundle key value) := by
  rw [set, Crypto.Dict.set, Tree.ofJsonFields,
    ← Tree.filter_ofJsonFields (fun other => other ≠ key) bundle]

theorem calculateMac_ofJson : calculateMac h (Tree.ofJsonFields bundle) secret =
    hexdigest (h.hmacSha256 secret.toUTF8
      (Crypto.canonicalJson (.obj (Crypto.unsignedMac bundle)))) := by
  have hcanonical := canonicalJson_ofJson (.obj (Crypto.unsignedMac bundle))
  have hunsigned : unsignedMac (Tree.ofJsonFields bundle) =
      Tree.ofJsonFields (Crypto.unsignedMac bundle) :=
    Tree.filter_ofJsonFields (fun key => key ∉ ["mac"]) bundle
  rw [calculateMac, hunsigned, ← hcanonical, Tree.ofJson]

theorem signBundle_ofJson : signBundle h (Tree.ofJsonFields bundle) secret =
    Tree.ofJsonFields (Crypto.signBundle h bundle secret) := by
  rw [signBundle, calculateBundleHash_ofJson]
  have hsigned := set_ofJson bundle "bundle_hash" (.str (Crypto.calculateBundleHash h bundle))
  rw [Tree.ofJson] at hsigned
  rw [hsigned, calculateMac_ofJson]
  exact set_ofJson _ "mac" (.str _)

end JsonBundle

theorem stripRetiredPolicyFields_ofJson (value : Json) :
    stripRetiredPolicyFields (.ofJson value) = .ofJson (Backend.stripRetiredPolicyFields value) := by
  induction value with
  | null => rfl
  | bool b => rfl
  | int n => rfl
  | str s => rfl
  | arr items ih =>
      have hitems : stripRetiredItems (Tree.ofJsonList items) =
          Tree.ofJsonList (Backend.stripRetiredItems items) := by
        induction items with
        | nil => rfl
        | cons item items ihItems =>
            rw [Tree.ofJsonList, stripRetiredItems, Backend.stripRetiredItems, Tree.ofJsonList,
              ih item List.mem_cons_self,
              ihItems fun other hother => ih other (List.mem_cons_of_mem item hother)]
      rw [Tree.ofJson, stripRetiredPolicyFields, Backend.stripRetiredPolicyFields, Tree.ofJson, hitems]
  | obj fields ih =>
      have hfields : stripRetiredFields (Tree.ofJsonFields fields) =
          Tree.ofJsonFields (Backend.stripRetiredFields fields) := by
        induction fields with
        | nil => rfl
        | cons f fields ihFields =>
            obtain ⟨key, value⟩ := f
            have hvalue := ih (key, value) List.mem_cons_self
            have hrest := ihFields fun other hother => ih other (List.mem_cons_of_mem _ hother)
            have hkeys : retiredPolicyFields = Backend.retiredPolicyFields := rfl
            rw [Tree.ofJsonFields, stripRetiredFields, Backend.stripRetiredFields, hrest, hvalue,
              hkeys]
            split
            · rfl
            · rfl
      rw [Tree.ofJson, stripRetiredPolicyFields, Backend.stripRetiredPolicyFields, Tree.ofJson,
        hfields]

theorem stripRetiredFields_ofJson (fields : Crypto.Dict) :
    stripRetiredFields (Tree.ofJsonFields fields) =
      Tree.ofJsonFields (Backend.stripRetiredFields fields) := by
  have hstrip := stripRetiredPolicyFields_ofJson (.obj fields)
  rw [Tree.ofJson, stripRetiredPolicyFields, Backend.stripRetiredPolicyFields, Tree.ofJson] at hstrip
  exact Tree.dict.inj hstrip

/-! ## Reading -/

section Fields

variable (fields : List (String × Json)) (key : String)

theorem get?_ofJson : Value.Tree.get? (Tree.ofJsonFields fields) key =
    ((fields.find? fun f => f.1 == key).map Prod.snd).map Tree.ofJson := by
  induction fields with
  | nil => rfl
  | cons f fields ih =>
      obtain ⟨k, v⟩ := f
      rw [Tree.ofJsonFields, Value.Tree.get?_cons, List.find?_cons]
      by_cases hk : key = k
      · rw [if_pos hk, hk, beq_self_eq_true]
        rfl
      · have hne : (k == key) = false := by simpa using Ne.symm hk
        rw [if_neg hk, hne, ih]

theorem get_ofJson :
    Value.Tree.get (Tree.ofJsonFields fields) key = .ofJson (Backend.dictGet fields key) := by
  rw [Value.Tree.get, get?_ofJson, Backend.dictGet]
  cases (fields.find? fun f => f.1 == key).map Prod.snd with
  | none => rfl
  | some value => rfl

theorem getD_ofJson (default : Json) : getD (Tree.ofJsonFields fields) key (.ofJson default) =
    .ofJson (Backend.dictGetD fields key default) := by
  rw [getD, get?_ofJson, Backend.dictGetD]
  cases (fields.find? fun f => f.1 == key).map Prod.snd with
  | none => rfl
  | some value => rfl

theorem textOf_ofJson (value : Json) : textOf (.ofJson value) = Backend.textOf value := by
  cases value with
  | _ => rfl

end Fields

/-- The result of a reader that raises nothing else. -/
def loaded : Option Json → Loaded
  | some value => .value (.ofJson value)
  | none => .malformed

/-- Both sides use the same readers, and `str` and `lower` alike. -/
structure SameReaders (plain : Backend.Libraries) (libs : Libraries) : Prop where
  json : ∀ text, libs.jsonLoads text = loaded (plain.jsonLoads text)
  yaml : ∀ text, libs.yamlLoad text = loaded (plain.yamlLoad text)
  repr : ∀ value, libs.reprOf (.ofJson value) = plain.reprOf value
  lower : ∀ s, Inspection.lower s = Backend.lower plain s

section Tags

variable {plain : Backend.Libraries} {libs : Libraries} (h : SameReaders plain libs)
include h

theorem strOf_ofJson (value : Json) : strOf libs (.ofJson value) = Backend.strOf plain value := by
  cases value with
  | null => rfl
  | bool b => rfl
  | int n => rfl
  | str s => rfl
  | arr items => exact h.repr (.arr items)
  | obj fields => exact h.repr (.obj fields)

omit h in
theorem isTruthy_ofJson (value : Json) :
    Inspection.isTruthy (.ofJson value) = Backend.isTruthy value := by
  cases value with
  | null => rfl
  | bool b => rfl
  | int n => rfl
  | str s => rfl
  | arr items =>
      cases items with
      | nil => rfl
      | cons item items => rfl
  | obj fields =>
      cases fields with
      | nil => rfl
      | cons f fields => rfl

theorem itemTag_ofJson (item : List (String × Json)) (key : String) :
    itemTag libs (Tree.ofJsonFields item) key = Backend.itemTag plain item key := by
  rw [itemTag, get_ofJson, Backend.itemTag]
  cases Backend.dictGet item key with
  | null => rfl
  | _ => exact congrArg strip (strOf_ofJson h _)

theorem collectTags_ofJson (format : String) (tags : List String) (items : List Json) :
    collectTags libs format tags (Tree.ofJsonList items) =
      Backend.collectTags plain format tags items := by
  induction items generalizing tags with
  | nil => rfl
  | cons item items ih =>
      cases item with
      | obj fields =>
          rw [Tree.ofJsonList, Tree.ofJson, collectTags, Backend.collectTags]
          simp only [get_ofJson, isTruthy_ofJson, strOf_ofJson h, h.lower, itemTag_ofJson h, ih]
          cases Backend.dictGet fields "type" with
          | null => rfl
          | _ => rfl
      | null => exact ih tags
      | bool b => exact ih tags
      | int n => exact ih tags
      | str s => exact ih tags
      | arr items => exact ih tags

omit h in
/-- The list under a key, of a value that was read. -/
theorem loadedItems_ofJson (whole : Bool) (key : String) (read : Option Json) :
    loadedItems whole key (loaded read) = .ok (Tree.ofJsonList (match read with
      | some (.arr items) => if whole then items else []
      | some (.obj fields) => match Backend.dictGet fields key with
        | .arr items => items
        | _ => []
      | _ => [])) := by
  cases read with
  | none => rfl
  | some value =>
      cases value with
      | null => rfl
      | bool b => rfl
      | int n => rfl
      | str s => rfl
      | arr items =>
          cases whole with
          | false => rfl
          | true => rfl
      | obj fields =>
          simp only [loaded, Tree.ofJson, loadedItems, get_ofJson]
          cases Backend.dictGet fields key with
          | arr items => rfl
          | _ => rfl

theorem subscriptionItems_ofJson (text format : String) : subscriptionItems libs text format =
    .ok (Tree.ofJsonList (Backend.subscriptionItems plain text format)) := by
  simp only [subscriptionItems, Backend.subscriptionItems, h.json, h.yaml, loadedItems_ofJson]
  split
  · cases plain.jsonLoads text with
    | none => rfl
    | some value =>
        cases value with
        | _ => rfl
  · split
    · cases plain.jsonLoads text with
      | none => rfl
      | some value =>
          cases value with
          | _ => rfl
    · split
      · cases plain.yamlLoad text with
        | none => rfl
        | some value =>
            cases value with
            | _ => rfl
      · rfl

theorem subscriptionOutboundTags_ofJson (content : ByteArray) (format : String) :
    subscriptionOutboundTags libs content format =
      .ok (Backend.subscriptionOutboundTags plain content format) := by
  rw [subscriptionOutboundTags, Backend.subscriptionOutboundTags]
  cases Backend.decodeUtf8Sig content with
  | none => rfl
  | some text =>
      dsimp only
      rw [subscriptionItems_ofJson h, Except.map, collectTags_ofJson h]

/-- The handler reads the tags that the bundle names, and changes nothing. -/
theorem bundleSubscriptionTags_ofJson (bundle : Crypto.Dict) (s : Backend.Store) :
    ∃ tags, (Backend.bundleSubscriptionTags plain bundle).run s = (.ok tags, s) ∧
      bundleSubscriptionTags libs s.versions (Tree.ofJsonFields bundle) = .ok tags := by
  rw [Backend.bundleSubscriptionTags, bundleSubscriptionTags, bundleSubscription, get_ofJson]
  cases Backend.dictGet bundle "subscription" with
  | obj subscription =>
      have hformat : strOf libs (getD (Tree.ofJsonFields subscription) "format" (.str "")) =
          Backend.strOf plain (Backend.dictGetD subscription "format" (.str "")) := by
        rw [← strOf_ofJson h, ← getD_ofJson, Tree.ofJson]
      have hhash : strOf libs (getD (Tree.ofJsonFields subscription) "hash" (.str "")) =
          Backend.strOf plain (Backend.dictGetD subscription "hash" (.str "")) := by
        rw [← strOf_ofJson h, ← getD_ofJson, Tree.ofJson]
      dsimp only
      simp only [Tree.ofJson, get_ofJson, hformat, hhash]
      cases Backend.dictGet subscription "content" with
      | str content =>
          exact ⟨_, rfl, subscriptionOutboundTags_ofJson h content.toUTF8 _⟩
      | _ =>
          simp only [Tree.ofJson]
          split
          · exact ⟨[], rfl, rfl⟩
          · rw [Prog.run, Backend.find_bind_runWith rfl]
            cases s.versions.find? _ with
            | none => exact ⟨[], rfl, rfl⟩
            | some version => exact ⟨_, rfl, subscriptionOutboundTags_ofJson h version.content _⟩
  | _ => exact ⟨_, rfl, rfl⟩

end Tags

/-! ## The repair -/

/-- What the repair reads and writes of a stored document. -/
def storedOf (desired : Backend.DesiredRelease) : DesiredRelease where
  releaseId := desired.releaseId
  bundleHash := desired.bundleHash
  bundle := Tree.ofJsonFields desired.bundle

structure SameSettings (plain : Backend.Settings) (settings : Settings) : Prop
    extends SameReaders plain.libs settings.libs where
  hashes : settings.hashes = plain.hashes
  secret : settings.bundleHmacSecret = plain.bundleHmacSecret

theorem hasRetired_ofJson (value : Json) :
    hasRetired (.ofJson value) = Backend.hasRetired value := by
  induction value with
  | null => rfl
  | bool b => rfl
  | int n => rfl
  | str s => rfl
  | arr items ih =>
      rw [Tree.ofJson, hasRetired, Backend.hasRetired]
      induction items with
      | nil => rfl
      | cons item items ihItems =>
          rw [Tree.ofJsonList, hasRetiredItem, Backend.hasRetiredItem, ih item List.mem_cons_self,
            ihItems fun other hother => ih other (List.mem_cons_of_mem item hother)]
  | obj fields ih =>
      rw [Tree.ofJson, hasRetired, Backend.hasRetired]
      induction fields with
      | nil => rfl
      | cons f fields ihFields =>
          obtain ⟨key, value⟩ := f
          have hvalue := ih (key, value) List.mem_cons_self
          have hrest := ihFields fun other hother => ih other (List.mem_cons_of_mem _ hother)
          rw [Tree.ofJsonFields, hasRetiredField, Backend.hasRetiredField, hvalue, hrest]
          rfl

theorem hasRetiredField_ofJson (fields : Crypto.Dict) :
    hasRetiredField (Tree.ofJsonFields fields) = Backend.hasRetiredField fields := by
  have hfields := hasRetired_ofJson (.obj fields)
  rwa [Tree.ofJson, hasRetired, Backend.hasRetired] at hfields

theorem needsVersion060_ofJson (bundle : Crypto.Dict) :
    needsVersion060 (Tree.ofJsonFields bundle) =
      decide (Backend.textOf (Backend.dictGet bundle "min_monitor_version") = "0.6.0") := by
  rw [needsVersion060, get_ofJson]
  cases Backend.dictGet bundle "min_monitor_version" with
  | str version => exact Bool.beq_eq_decide_eq version "0.6.0"
  | _ => rfl

theorem pop_ofJson (bundle : Crypto.Dict) (key : String) :
    pop (Tree.ofJsonFields bundle) key = Tree.ofJsonFields (Backend.dictPop bundle key) :=
  Tree.filter_ofJsonFields (fun other => other ≠ key) bundle

section Settings

variable {plain : Backend.Settings} {settings : Settings} (h : SameSettings plain settings)
include h

theorem saveRepaired_ofJson (desired : Backend.DesiredRelease) (repaired : Crypto.Dict)
    (s : Backend.Store) :
    ∃ saved s', (Backend.saveRepaired plain desired repaired).run s = (.ok saved, s') ∧
      saveRepaired settings (storedOf desired) (Tree.ofJsonFields repaired) =
        (true, storedOf saved) := by
  refine ⟨_, _, rfl, ?_⟩
  simp only [saveRepaired, h.hashes, h.secret, signBundle_ofJson, get_ofJson, textOf_ofJson]
  rfl

/-- On a stored JSON bundle the handler and the function on documents do the same: they save the
same bundle with the same hash, or both leave the document as it is. -/
theorem repairStaleProxySelection_ofJson (desired : Backend.DesiredRelease) (s : Backend.Store) :
    ∃ changed after s',
      (Backend.repairStaleProxySelection plain desired).run s = (.ok after, s') ∧
      repairStaleProxySelection settings s.versions (storedOf desired) =
        .ok (changed, storedOf after) ∧
      (changed = false → after = desired ∧ s' = s) := by
  have hsaved : ∀ repaired, ∃ changed after s',
      (Backend.saveRepaired plain desired repaired).run s = (.ok after, s') ∧
      (Except.ok (saveRepaired settings (storedOf desired) (Tree.ofJsonFields repaired)) :
        Except Backend.Failure (Bool × DesiredRelease)) = .ok (changed, storedOf after) ∧
      (changed = false → after = desired ∧ s' = s) := by
    intro repaired
    obtain ⟨saved, s', hrun, heq⟩ := saveRepaired_ofJson h desired repaired s
    exact ⟨true, saved, s', hrun, congrArg Except.ok heq, Bool.noConfusion⟩
  have hbundle : (storedOf desired).bundle = Tree.ofJsonFields desired.bundle := rfl
  rw [Backend.repairStaleProxySelection, repairStaleProxySelection, hbundle,
    stripRetiredFields_ofJson, hasRetiredField_ofJson]
  generalize Backend.stripRetiredFields desired.bundle = repaired
  generalize Backend.hasRetiredField desired.bundle = retired
  dsimp only
  rw [get_ofJson]
  cases Backend.dictGet repaired "proxy_selection" with
  | obj selection =>
      have hgroup : selectedGroup settings.libs (Tree.ofJsonFields selection) =
          strip (Backend.strOf plain.libs (Backend.dictGetD selection "group" (.str ""))) := by
        rw [← strOf_ofJson h.toSameReaders, ← getD_ofJson, Tree.ofJson, selectedGroup]
      have houtbound : selectedOutbound settings.libs (Tree.ofJsonFields selection) =
          strip (Backend.strOf plain.libs (Backend.dictGetD selection "outbound" (.str ""))) := by
        rw [← strOf_ofJson h.toSameReaders, ← getD_ofJson, Tree.ofJson, selectedOutbound]
      obtain ⟨tags, hrun, htags⟩ := bundleSubscriptionTags_ofJson h.toSameReaders repaired s
      dsimp only [Tree.ofJson]
      rw [hgroup, houtbound, htags, Prog.run_bind_ok hrun]
      have hset : set (Tree.ofJsonFields repaired) "min_monitor_version" (.str "0.7.0") =
          Tree.ofJsonFields (Crypto.Dict.set repaired "min_monitor_version" (.str "0.7.0")) :=
        set_ofJson repaired "min_monitor_version" (.str "0.7.0")
      dsimp only [Bind.bind, Except.bind, Pure.pure, Except.pure]
      simp only [hset, needsVersion060_ofJson, decide_eq_true_eq, pop_ofJson]
      split
      · split
        · exact hsaved _
        · split
          · exact hsaved _
          · exact ⟨false, desired, s, rfl, rfl, fun _ => ⟨rfl, rfl⟩⟩
      · exact hsaved _
  | _ =>
      dsimp only [Tree.ofJson]
      split
      · exact hsaved repaired
      · exact ⟨false, desired, s, rfl, rfl, fun _ => ⟨rfl, rfl⟩⟩

/-- What the handler answers is a repair: it is verified, it is clean, and its selection names an
outbound of its subscription. -/
theorem exists_isRepair_ofJson (desired : Backend.DesiredRelease) (s : Backend.Store) :
    ∃ changed after s',
      (Backend.repairStaleProxySelection plain desired).run s = (.ok after, s') ∧
      IsRepair settings s.versions (storedOf desired) (storedOf after) changed := by
  obtain ⟨tags, -, htags⟩ := bundleSubscriptionTags_ofJson h.toSameReaders
    (Backend.stripRetiredFields desired.bundle) s
  rw [← stripRetiredFields_ofJson] at htags
  have hreadable : SubscriptionReadable settings.libs s.versions
      (stripRetiredFields (storedOf desired).bundle) :=
    bundleSubscriptionTags_isOk.mp ⟨tags, htags⟩
  obtain ⟨changed, after, s', hrun, heq, -⟩ := repairStaleProxySelection_ofJson h desired s
  obtain ⟨result, repaired, heq', hrepair⟩ := exists_isRepair_of_readable fun _ _ => hreadable
  rw [heq] at heq'
  cases heq'
  exact ⟨changed, after, s', hrun, hrepair⟩

end Settings

end Grouproxy.Repair
