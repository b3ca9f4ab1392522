import Grouproxy.Model.AgentApi

/-! # Retired policy state

What every start does to the stored bundles and drafts before the handlers can serve them.
-/

namespace Grouproxy.Backend

open Text Encoding Crypto Cidr

/-! ## Equality of dictionaries -/

mutual
/-- `==` of two values. The order of the keys of a dictionary does not count, and `True` equals
`1`. -/
def sameValue : Json → Json → Bool
  | .null, .null => true
  | .bool a, .bool b => a == b
  | .bool a, .int n => n.val == (if a then 1 else 0)
  | .int n, .bool b => n.val == (if b then 1 else 0)
  | .int m, .int n => m.val == n.val
  | .str s, .str t => s == t
  | .arr xs, .arr ys => sameItems xs ys
  | .obj fs, .obj gs => fs.length == gs.length && sameFields fs gs
  | _, _ => false
def sameItems : List Json → List Json → Bool
  | [], [] => true
  | x :: xs, y :: ys => sameValue x y && sameItems xs ys
  | _, _ => false
def sameFields : List (String × Json) → List (String × Json) → Bool
  | [], _ => true
  | (key, value) :: rest, gs =>
    (match gs.find? fun g => g.1 == key with
      | some g => sameValue value g.2
      | none => false) && sameFields rest gs
end

/-! ## Bundles -/

def proxyListenPort : Nat := 3128

/-- `value or "source"`, unless that is no text. -/
def directionText? (value : Json) : Option String :=
  if isTruthy value then
    match value with
    | .str direction => some direction
    | _ => none
  else some "source"

/-- The canonical rule of an entry of a stored bundle, if nothing raises. -/
def bundleRuleKey? : Json → Option RuleKey
  | .obj item =>
    match directionText? (dictGet item "direction"), dictGet item "kind", dictGet item "pattern" with
    | some direction, .str kind, .str pattern => ruleKey? "" direction kind pattern
    | _, _, _ => none
  | _ => none

def ruleKeyJson (key : RuleKey) : Json :=
  .obj [("direction", .str key.direction), ("kind", .str key.kind), ("pattern", .str key.pattern)]

def canonicalBundleBlacklist : Json → List Json
  | .arr raw =>
    ((distinctBy id [] (raw.filterMap bundleRuleKey?)).insertionSort
      fun a b => tupleLe a.tuple b.tuple = true).map ruleKeyJson
  | _ => []

def listensOnProxyPort : Json → Bool
  | .obj listen =>
    match dictGet listen "http_port" with
    | .int port => port.val == proxyListenPort
    | _ => false
  | _ => false

/-- The list under `blacklist`, or else what is under the retired name. -/
def rawBlacklist (normalized bundle : Dict) : Json :=
  match dictGet normalized "blacklist" with
  | .arr items => .arr items
  | _ => dictGet bundle "source_blacklist"

def withProxyPort (normalized : Dict) : Dict :=
  if listensOnProxyPort (dictGet normalized "listen") then normalized
  else Dict.set normalized "listen" (.obj [("http_port", number proxyListenPort)])

def normalizedBundle (bundle : Dict) : Dict :=
  let normalized := withProxyPort (dictPop (stripRetiredFields bundle) "proxy_auth")
  let normalized := Dict.set normalized "blacklist"
    (.arr (canonicalBundleBlacklist (rawBlacklist normalized bundle)))
  Dict.set (dictPop normalized "source_blacklist") "min_monitor_version" (.str "0.6.0")

/-- A bundle that is not in the normal form is replaced and signed again. -/
def migrateRelease (settings : Settings) (release : DesiredRelease) : DesiredRelease :=
  let normalized := normalizedBundle release.bundle
  if sameValue (.obj normalized) (.obj release.bundle) then release
  else
    let signed := signBundle settings.hashes normalized settings.bundleHmacSecret
    { release with bundle := signed, bundleHash := textOf (dictGet signed "bundle_hash") }

/-! ## Drafts -/

def migrateDraft (draft : ConfigDraft) : ConfigDraft :=
  let diff := dictPop (stripRetiredFields draft.diff) "proxy_auth"
  if sameValue (.obj diff) (.obj draft.diff) then draft else { draft with diff := diff }

/-- `_migrate_retired_policy_state`, as far as it concerns documents that are read later. -/
def migrateRetiredPolicyState (settings : Settings) (s : Store) : Store :=
  { s with
    desired := s.desired.map (migrateRelease settings)
    drafts := s.drafts.map migrateDraft }

end Grouproxy.Backend
