import Grouproxy.Library.Checks
import Grouproxy.Library.Json
import Grouproxy.Library.Prefix

/-! # The monitor's bundle package

Signature and contract checks of a desired bundle. Hash functions and the clock are
parameters; an error is the text of the Go error.
-/

namespace Grouproxy.Bundle

open Text Netip Value Encoding

/-- The digests that both sides of the signature take from their standard library. -/
structure Hashes where
  sha256 : ByteArray → List UInt8
  hmacSha256 : ByteArray → ByteArray → List UInt8

/-- The current time and the reading of a time stamp, on one scale. -/
structure Clock where
  now : Int
  parseRFC3339 : String → Option Int

def proxyListenPort : Int := 3128

/-! ## Signature -/

def textBytes (cs : List Char) : ByteArray := (String.ofList cs).toUTF8

def hexdigest (digest : List UInt8) : String :=
  String.ofList (digest.flatMap fun b =>
    [Nat.digitChar (b.toNat / 16), Nat.digitChar (b.toNat % 16)])

def canonical (value : Fields) : ByteArray := textBytes (encode (.map value))

def without (value : Fields) (keys : List String) : Fields :=
  value.filter fun f => f.1 ∉ keys

def hash (h : Hashes) (value : Fields) : String :=
  hexdigest (h.sha256 (canonical (without value ["bundle_hash", "mac"])))

def verify (h : Hashes) (value : Fields) (secret : String) : Except String String :=
  let hashValue := hash h value
  if hashValue ≠ stringValue (value.get "bundle_hash") then .error "bundle_hash_mismatch"
  else
    let expected := hexdigest (h.hmacSha256 secret.toUTF8 (canonical (without value ["mac"])))
    if expected ≠ stringValue (value.get "mac") then .error "bundle_mac_mismatch"
    else .ok hashValue

/-! ## Access policy entries -/

def isCanonicalSourceIP (pattern : String) : Bool :=
  match parseAddr pattern with
  | some a => a.toString == pattern
  | none => false

def isCanonicalSourceNetwork (pattern : String) : Bool :=
  match parsePrefix pattern with
  | some p => p.masked == p && p.toString == pattern
  | none => false

def isCanonicalHostnameLabel (label : List Char) : Bool :=
  0 < label.length && label.length ≤ 63 &&
    label.all (fun c => ('a' ≤ c && c ≤ 'z') || ('0' ≤ c && c ≤ '9') || c == '-') &&
    label.head? != some '-' && label.getLast? != some '-'

def isNumericAddressLabel (label : List Char) : Bool :=
  if label.take 2 = ['0', 'x'] ∧ 2 < label.length then
    (label.drop 2).all fun c => ('0' ≤ c && c ≤ '9') || ('a' ≤ c && c ≤ 'f')
  else label.all (fun c => '0' ≤ c && c ≤ '9') && label != []

def isCanonicalSourceDomain (pattern : String) : Bool :=
  if pattern = "" ∨ 253 < pattern.utf8ByteSize ∨ pattern ≠ toLower pattern ∨
      pattern.toList.getLast? = some '.' then false
  else if (parseAddr pattern).isSome then false
  else
    let labels := pattern.toList.splitOn '.'
    labels.all isCanonicalHostnameLabel && !labels.all isNumericAddressLabel

def canonicalKind (kind : String) : String := if kind = "network" then "cidr" else kind

/-- The check of a pattern under its kind. -/
def validatePattern (kind pattern : String) : Except String Unit :=
  if kind = "ip" then
    if isCanonicalSourceIP pattern then .ok () else .error "invalid_blacklist_ip"
  else if kind = "cidr" then
    if isCanonicalSourceNetwork pattern then .ok () else .error "invalid_blacklist_cidr"
  else if kind = "domain" then
    if isCanonicalSourceDomain pattern then .ok () else .error "invalid_blacklist_domain"
  else .error "invalid_blacklist_kind"

def validateBlacklistEntry (rawEntry : Any) : Except String Unit :=
  match rawEntry.asMap? with
  | none => .error "invalid_blacklist_entry"
  | some entry =>
    match (entry.get "direction").asString? with
    | none => .error "invalid_blacklist_direction"
    | some direction =>
      if direction ≠ "source" ∧ direction ≠ "destination" then
        .error "invalid_blacklist_direction"
      else
        match (entry.get "kind").asString?, (entry.get "pattern").asString? with
        | some kind, some pattern =>
          if pattern = "" ∨ pattern ≠ trimSpace pattern ∨ 512 < pattern.utf8ByteSize then
            .error "invalid_blacklist_pattern"
          else validatePattern (canonicalKind kind) pattern
        | _, _ => .error "invalid_blacklist_pattern"

def validateBlacklistEntries (raw : Any) : Except String Unit :=
  match raw.asArr? with
  | none => .error "invalid_blacklist_entries"
  | some entries =>
    if 10000 < entries.length then .error "blacklist_too_large"
    else firstError validateBlacklistEntry entries

def retiredPolicyFields : List String := ["allow_cidrs", "deny_destinations", "deny_sources"]

def rejectRetiredPolicyFields (value : Fields) : Except String Unit :=
  if retiredPolicyFields.any value.has then .error "retired_policy_field" else .ok ()

def validateSourceBlacklist (value : Fields) : Except String Unit :=
  match rejectRetiredPolicyFields value with
  | .error e => .error e
  | .ok () =>
    match value.get "blacklist" with
    | .nil => .error "missing_blacklist"
    | raw => validateBlacklistEntries raw

def validateAccessControlEntry (rawEntry : Any) : Except String Unit :=
  match rawEntry.asMap? with
  | none => .error "invalid_access_control_entry"
  | some entry =>
    let action := stringValue (entry.get "action")
    let direction := stringValue (entry.get "direction")
    if action ≠ "allow" ∧ action ≠ "deny" then .error "invalid_access_control_action"
    else if direction ≠ "source" ∧ direction ≠ "destination" then
      .error "invalid_access_control_direction"
    else validateBlacklistEntries (.arr [.map [("direction", .str direction),
      ("kind", entry.get "kind"), ("pattern", entry.get "pattern")]])

def validateAccessControl (value : Fields) : Except String Unit :=
  match value.get "access_control" with
  | .nil => .ok ()
  | raw =>
    match raw.asArr? with
    | none => .error "invalid_access_control_entries"
    | some entries =>
      if 20000 < entries.length then .error "access_control_too_large"
      else firstError validateAccessControlEntry entries

/-! ## The bundle contract -/

def isHexText (s : String) : Bool := s.toList.all isHex && s.length % 2 == 0

def validateSubscription (value : Fields) : Except String Unit :=
  match value.get "subscription" with
  | .nil => .ok ()
  | raw =>
    match raw.asMap? with
    | none => .error "invalid_subscription"
    | some subscription =>
      let hash := stringValue (subscription.get "hash")
      let format := stringValue (subscription.get "format")
      let content := (subscription.get "content").asString?
      let blobURL := (subscription.get "blob_url").asString?
      if hash.utf8ByteSize ≠ 64 ∨ ¬ isHexText hash then .error "invalid_subscription_hash"
      else if format ≠ "clash" ∧ format ≠ "sip008" ∧ format ≠ "sing-box" then
        .error "invalid_subscription_format"
      else if ¬ ((subscription.get "version").asInt?.any fun v => decide (1 ≤ v)) then
        .error "invalid_subscription_version"
      else if content.any fun c => decide (10 * 2 ^ 20 < c.utf8ByteSize) then
        .error "subscription_content_too_large"
      else if (content.isSome ∧ blobURL.isSome) ∨ (content.isNone ∧ blobURL.isNone) ∨
          blobURL = some "" then .error "invalid_subscription_content"
      else .ok ()

/-- The contract checks of `Validate` before the signature is verified. -/
def validateContract (clock : Clock) (value : Fields) (currentVersion : Int) :
    Except String Unit :=
  if (value.get "schema_version").asInt? ≠ some 1 then .error "unsupported_schema_version"
  else if stringValue (value.get "release_id") = "" ∨ stringValue (value.get "site_id") = "" ∨
      stringValue (value.get "node_id") = "" then .error "missing_identity"
  else
    match (value.get "desired_version").asInt? with
    | none => .error "invalid_desired_version"
    | some version =>
      if version ≤ 0 then .error "invalid_desired_version"
      else if version < currentVersion then .error "bundle_replay"
      else if version = currentVersion ∧ stringValue (value.get "bundle_hash") = "" then
        .error "duplicate_version_without_hash"
      else if stringValue (value.get "expires_at") = "" then .error "missing_expiry"
      else if ¬ ((clock.parseRFC3339 (stringValue (value.get "expires_at"))).any fun whenExpires =>
          decide (clock.now < whenExpires)) then .error "bundle_expired"
      else
        match (value.get "listen").asMap? with
        | none => .error "invalid_listen"
        | some listen =>
          match (listen.get "http_port").asInt? with
          | none => .error "invalid_http_port"
          | some port =>
            if port < 1 ∨ 65535 < port then .error "invalid_http_port"
            else if port ≠ proxyListenPort then .error "unsupported_http_port"
            else .ok ()

/-- `Validate`: the contract, the access policy, the subscription and the signature. -/
def validate (h : Hashes) (clock : Clock) (value : Fields) (secret : String)
    (currentVersion : Int) : Except String String := do
  validateContract clock value currentVersion
  validateSourceBlacklist value
  validateAccessControl value
  validateSubscription value
  let _ ← verify h value secret
  return stringValue (value.get "bundle_hash")

/-! ## Monitor versions -/

def versionParts (value : String) : Option (List Int) :=
  let trimmed := (trimSpace value).toList
  let bare := if trimmed.head? = some 'v' then trimmed.drop 1 else trimmed
  let parts := bare.splitOn '.'
  if parts.length ≠ 3 then none
  else parts.foldr (fun part rest =>
    match atoi? part, rest with
    | some n, some ns => if n < 0 then none else some (n :: ns)
    | _, _ => none) (some [])

/-- The first position where the versions differ decides. -/
def versionAtLeast : List Int → List Int → Bool
  | c :: cs, r :: rs => r < c || (c == r && versionAtLeast cs rs)
  | _, _ => true

def validateMinimumMonitorVersion (value : Fields) (current : String) : Except String Unit :=
  let required := stringValue (value.get "min_monitor_version")
  if required = "" then .error "missing_min_monitor_version"
  else
    match versionParts required with
    | none => .error "invalid_min_monitor_version"
    | some requiredParts =>
      match versionParts current with
      | none => .error "invalid_monitor_version"
      | some currentParts =>
        if versionAtLeast currentParts requiredParts then .ok ()
        else .error "monitor_version_too_old"

end Grouproxy.Bundle
