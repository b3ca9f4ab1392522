import Grouproxy.Library.TreeText
import Grouproxy.Model.Bundles
import Grouproxy.Model.Inspection

/-! # The repair of a stored bundle

`repair_stale_proxy_selection` on any JSON object. `json.loads` and `yaml.safe_load` may also raise
what nothing here catches: an integer of more than 4300 digits and a date that does not exist are
plain `ValueError`s.
-/

namespace Grouproxy.Repair

open Text Ipaddress Value Encoding Grouproxy.Bundle
open Backend (Failure SubscriptionVersion decodeUtf8Sig reservedOutboundTags controlOutboundTypes
  subscriptionSelectionTags)

/-- A Python dictionary with text keys. -/
abbrev Dict := List (String × Tree)

/-- What a reader makes of a text; `malformed` stands for the exceptions that are caught. -/
inductive Loaded where
  | value (tree : Tree)
  | malformed
  | raises (name : String)

/-- The readers, and `str` of a number with a fraction, a list or a dictionary. -/
structure Libraries where
  jsonLoads : String → Loaded
  yamlLoad : String → Loaded
  reprOf : Tree → String

structure Settings where
  libs : Libraries
  hashes : Hashes
  bundleHmacSecret : String

structure DesiredRelease where
  releaseId : String
  bundleHash : String
  bundle : Dict

/-! ## Python values -/

/-- `str(value)` -/
def strOf (libs : Libraries) : Tree → String
  | .null => "None"
  | .bool b => if b then "True" else "False"
  | .int n => String.ofList (intText n)
  | .str s => s
  | value => libs.reprOf value

def textOf : Tree → String
  | .str s => s
  | _ => ""

/-- `d.get(key, default)` -/
def getD (d : Dict) (key : String) (default : Tree) : Tree := (Value.Tree.get? d key).getD default

/-- `d[key] = value`; the order of the items is never observed. -/
def set (d : Dict) (key : String) (value : Tree) : Dict :=
  (key, value) :: d.filter fun f => f.1 ≠ key

/-- `d.pop(key, None)` -/
def pop (d : Dict) (key : String) : Dict := d.filter fun f => f.1 ≠ key

/-! ## Signatures -/

def canonicalJson (value : Tree) : ByteArray := textBytes value.dumps

def bundleHashInput (bundle : Dict) : Dict :=
  bundle.filter fun f => f.1 ∉ ["bundle_hash", "mac"]

def calculateBundleHash (h : Hashes) (bundle : Dict) : String :=
  hexdigest (h.sha256 (canonicalJson (.dict (bundleHashInput bundle))))

def unsignedMac (signed : Dict) : Dict := signed.filter fun f => f.1 ∉ ["mac"]

def calculateMac (h : Hashes) (signed : Dict) (secret : String) : String :=
  hexdigest (h.hmacSha256 secret.toUTF8 (canonicalJson (.dict (unsignedMac signed))))

def signBundle (h : Hashes) (bundle : Dict) (secret : String) : Dict :=
  let signed := set bundle "bundle_hash" (.str (calculateBundleHash h bundle))
  set signed "mac" (.str (calculateMac h signed secret))

/-- `hmac.compare_digest` takes texts of ASCII characters only. -/
def compareDigest (a b : String) : Except Failure Bool :=
  if Backend.isAscii a ∧ Backend.isAscii b then .ok (a == b) else .error (.python "TypeError")

def verifyBundle (h : Hashes) (libs : Libraries) (bundle : Dict) (secret : String) :
    Except Failure (Bool × String) := do
  let suppliedHash := strOf libs (getD bundle "bundle_hash" (.str ""))
  let hashMatches ← compareDigest suppliedHash (calculateBundleHash h bundle)
  if ¬ hashMatches then return (false, "bundle_hash_mismatch")
  else
    let suppliedMac := strOf libs (getD bundle "mac" (.str ""))
    let macMatches ← compareDigest suppliedMac (calculateMac h bundle secret)
    if ¬ macMatches then return (false, "bundle_mac_mismatch") else return (true, "")

/-! ## Retired fields -/

def retiredPolicyFields : List String :=
  ["allow_cidrs", "deny_destinations", "deny_sources", "acl_note", "acl_sources",
    "effective_cidrs", "source_blacklist"]

mutual
def stripRetiredPolicyFields : Tree → Tree
  | .dict fields => .dict (stripRetiredFields fields)
  | .list items => .list (stripRetiredItems items)
  | value => value
def stripRetiredItems : List Tree → List Tree
  | [] => []
  | item :: rest => stripRetiredPolicyFields item :: stripRetiredItems rest
def stripRetiredFields : Dict → Dict
  | [] => []
  | (key, value) :: rest =>
    if key ∈ retiredPolicyFields then stripRetiredFields rest
    else (key, stripRetiredPolicyFields value) :: stripRetiredFields rest
end

mutual
/-- The value has a retired key at some depth, which is when stripping changes it. -/
def hasRetired : Tree → Bool
  | .dict fields => hasRetiredField fields
  | .list items => hasRetiredItem items
  | _ => false
def hasRetiredItem : List Tree → Bool
  | [] => false
  | item :: rest => hasRetired item || hasRetiredItem rest
def hasRetiredField : Dict → Bool
  | [] => false
  | (key, value) :: rest =>
    key ∈ retiredPolicyFields || hasRetired value || hasRetiredField rest
end

/-! ## Subscription tags -/

/-- The stripped text of a field, or nothing. -/
def itemTag (libs : Libraries) (item : Dict) (key : String) : String :=
  match Value.Tree.get item key with
  | .null => ""
  | value => strip (strOf libs value)

/-- The tags of the items that become outbounds. -/
def collectTags (libs : Libraries) (format : String) : List String → List Tree → List String
  | tags, [] => tags
  | tags, .dict item :: rest =>
    let type := Value.Tree.get item "type"
    let kind := if Inspection.isTruthy type then Inspection.lower (strip (strOf libs type)) else ""
    let tag := itemTag libs item
      (if format = "sing-box" then "tag" else if format = "sip008" then "remarks" else "name")
    if format = "sing-box" ∧ (kind ∈ controlOutboundTypes ∨ tag ∈ reservedOutboundTags) then
      collectTags libs format tags rest
    else
      let tag := if tag = "" then "subscription-" ++ toString (tags.length + 1) else tag
      collectTags libs format (if tag ∈ tags then tags else tags ++ [tag]) rest
  | tags, _ :: rest => collectTags libs format tags rest

/-- The items under a key of what a reader returned; `whole` says whether it may be the list. -/
def loadedItems (whole : Bool) (key : String) : Loaded → Except Failure (List Tree)
  | .value (.dict fields) =>
    match Value.Tree.get fields key with
    | .list items => .ok items
    | _ => .ok []
  | .value (.list items) => .ok (if whole then items else [])
  | .value _ => .ok []
  | .malformed => .ok []
  | .raises name => .error (.python name)

def subscriptionItems (libs : Libraries) (text format : String) : Except Failure (List Tree) :=
  if format = "sing-box" then loadedItems true "outbounds" (libs.jsonLoads text)
  else if format = "sip008" then loadedItems false "servers" (libs.jsonLoads text)
  else if format = "clash" then loadedItems false "proxies" (libs.yamlLoad text)
  else .ok []

def subscriptionOutboundTags (libs : Libraries) (content : ByteArray) (format : String) :
    Except Failure (List String) :=
  match decodeUtf8Sig content with
  | none => .ok []
  | some text => (subscriptionItems libs text format).map (collectTags libs format [])

/-- The content and the format that a bundle's subscription names, inline or by its hash. -/
def bundleSubscription (libs : Libraries) (versions : List SubscriptionVersion) (bundle : Dict) :
    Option (ByteArray × String) :=
  match Value.Tree.get bundle "subscription" with
  | .dict subscription =>
    let format := strOf libs (getD subscription "format" (.str ""))
    match Value.Tree.get subscription "content" with
    | .str content => some (content.toUTF8, format)
    | _ =>
      let contentHash := strOf libs (getD subscription "hash" (.str ""))
      if contentHash = "" then none
      else (versions.find? fun v => v.contentHash == contentHash).map fun v => (v.content, format)
  | _ => none

def bundleSubscriptionTags (libs : Libraries) (versions : List SubscriptionVersion)
    (bundle : Dict) : Except Failure (List String) :=
  match bundleSubscription libs versions bundle with
  | none => .ok []
  | some (content, format) => subscriptionOutboundTags libs content format

/-! ## The repair -/

/-- `desired.save()` of the signed bundle. -/
def saveRepaired (settings : Settings) (desired : DesiredRelease) (repaired : Dict) :
    Bool × DesiredRelease :=
  let signed := signBundle settings.hashes repaired settings.bundleHmacSecret
  (true, { desired with
    bundle := signed
    bundleHash := textOf (Value.Tree.get signed "bundle_hash") })

def selectedGroup (libs : Libraries) (selection : Dict) : String :=
  strip (strOf libs (getD selection "group" (.str "")))

def selectedOutbound (libs : Libraries) (selection : Dict) : String :=
  strip (strOf libs (getD selection "outbound" (.str "")))

/-- `bundle.get("min_monitor_version") == "0.6.0"` -/
def needsVersion060 (bundle : Dict) : Bool :=
  match Value.Tree.get bundle "min_monitor_version" with
  | .str version => version == "0.6.0"
  | _ => false

/-- The result, and the stored document after the call. `versions` is the collection. -/
def repairStaleProxySelection (settings : Settings) (versions : List SubscriptionVersion)
    (desired : DesiredRelease) : Except Failure (Bool × DesiredRelease) :=
  let repaired := stripRetiredFields desired.bundle
  let changed := hasRetiredField desired.bundle
  match Value.Tree.get repaired "proxy_selection" with
  | .dict selection => do
    let group := selectedGroup settings.libs selection
    let outbound := selectedOutbound settings.libs selection
    let outboundTags ← bundleSubscriptionTags settings.libs versions repaired
    if group = "subscription" ∧ outbound ≠ "" ∧
        outbound ∈ subscriptionSelectionTags outboundTags then
      if outbound ∉ outboundTags ∧ needsVersion060 repaired then
        return saveRepaired settings desired (set repaired "min_monitor_version" (.str "0.7.0"))
      else if changed then return saveRepaired settings desired repaired
      else return (false, desired)
    else return saveRepaired settings desired (pop repaired "proxy_selection")
  | _ => if changed then .ok (saveRepaired settings desired repaired) else .ok (false, desired)

end Grouproxy.Repair
