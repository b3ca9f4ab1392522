import Grouproxy.Library.PyValue
import Grouproxy.Model.SingleNode

/-! # The formats of a subscription

The validators of the formats over all values that the readers return, and how a content becomes a
version. The readers, the normalization of links and the hash are parameters.
-/

namespace Grouproxy.Formats

open Python PyValue Inspection
open Backend (decodeUtf8Sig)
open SingleNode (ParsedSubscription refuse orRefuse singleNodeScheme)
open Value (Float64)

/-! ## Python values -/

/-- `str.lower`, as far as the model of a `String` has it. -/
def lower (s : Str) : Str :=
  s.flatMap fun
    | .char c => (lowerChars c).map .char
    | .surrogate n => [.surrogate n]

def isInfinite (x : Float64) : Bool := x.sprint = "+Inf" ∨ x.sprint = "-Inf"

/-- `int(value)` of bytes, where the ASCII separators are no white space. -/
def intOfBytes (b : List UInt8) : Option Int :=
  if b.any fun x => 0x80 ≤ x ∨ (0x1c ≤ x ∧ x ≤ 0x1f) then none
  else intOfDigits (String.ofList (b.map fun x => Char.ofNat x.toNat))

/-- `int(value)`, where `none` is a `TypeError` or a `ValueError`. -/
def intOf : PyValue → Except Refusal (Option Int)
  | .bool b => .ok (some (if b then 1 else 0))
  | .int n => .ok (some n)
  | .float x =>
    if isInfinite x then .error (.python "OverflowError") else .ok (Value.Tree.truncated x)
  | .str s => .ok (s.toString?.bind intOfDigits)
  | .bytes b => .ok (intOfBytes b)
  | _ => .ok none

/-! ## Fields -/

abbrev Dict : Type := List (PyValue × PyValue)

def mapping (value : PyValue) (code : String) : Except Refusal Dict :=
  match value with
  | .dict fields => .ok fields
  | _ => .error (.subscription code)

/-- `_string` with `required=True`, which is how the formats call it. -/
def string (value : PyValue) (code : String) : Except Refusal Str :=
  match value with
  | .str s =>
    if s.strip = [] ∨ maxFieldLength < s.strip.length then .error (.subscription code)
    else .ok s.strip
  | _ => .error (.subscription code)

def port (value : PyValue) (code : String) : Except Refusal Int := do
  match value with
  | .bool _ => .error (.subscription code)
  | _ =>
    match ← intOf value with
    | none => .error (.subscription code)
    | some n => if n < 1 ∨ 65535 < n then .error (.subscription code) else .ok n

mutual
def validateValue (depth : Nat) : PyValue → Except Refusal Unit
  | .str s =>
    if maxValueDepth < depth then .error (.subscription "subscription_value_too_deep")
    else if maxFieldLength < s.length then .error (.subscription "subscription_field_too_long")
    else .ok ()
  | .list items =>
    if maxValueDepth < depth then .error (.subscription "subscription_value_too_deep")
    else if maxSubscriptionNodes < items.length then
      .error (.subscription "subscription_value_too_large")
    else validateItems (depth + 1) items
  | .dict fields =>
    if maxValueDepth < depth then .error (.subscription "subscription_value_too_deep")
    else if maxSubscriptionNodes < fields.length then
      .error (.subscription "subscription_value_too_large")
    else validateFields (depth + 1) fields
  | .bytes _ | .date _ | .tuple _ | .set _ =>
    if maxValueDepth < depth then .error (.subscription "subscription_value_too_deep")
    else .error (.subscription "subscription_invalid_value")
  | _ =>
    if maxValueDepth < depth then .error (.subscription "subscription_value_too_deep") else .ok ()
def validateItems (depth : Nat) : List PyValue → Except Refusal Unit
  | [] => .ok ()
  | item :: items =>
    match validateValue depth item with
    | .error e => .error e
    | .ok () => validateItems depth items
def validateFields (depth : Nat) : List (PyValue × PyValue) → Except Refusal Unit
  | [] => .ok ()
  | (key, item) :: fields =>
    match string key "subscription_invalid_field" with
    | .error e => .error e
    | .ok _ =>
      match validateValue depth item with
      | .error e => .error e
      | .ok () => validateFields depth fields
end

def texts (names : List String) : List Str := names.map Str.ofString

/-! ## Formats -/

/-- The loop of `_validate_outbounds`: the tags of the outbounds that were counted. -/
def countOutbounds (tags : List Str) : List PyValue → Except Refusal (List Str)
  | [] => .ok tags
  | item :: items => do
    let outbound ← mapping item "subscription_outbound_invalid"
    let kind ← string (get outbound "type") "subscription_outbound_type_invalid"
    if lower kind ∈ texts controlOutboundTypes then countOutbounds tags items
    else
      refuse (lower kind ∉ texts supportedOutboundTypes) "subscription_outbound_type_unsupported"
      let name := (get? outbound "tag").getD
        (.str (Str.ofString ("subscription-" ++ toString (tags.length + 1))))
      let tag ← string name "subscription_tag_invalid"
      if tag ∈ texts reservedOutboundTags then countOutbounds tags items
      else
        refuse (tag ∈ tags) "subscription_tag_invalid"
        refuse (maxSubscriptionNodes < tags.length + 1) "subscription_outbounds_invalid"
        validateValue 0 (.dict outbound)
        countOutbounds (tags ++ [tag]) items

def validateOutbounds (items : PyValue) : Except Refusal Nat :=
  match items with
  | .list items => do
    refuse items.isEmpty "subscription_outbounds_invalid"
    let tags ← countOutbounds [] items
    refuse tags.isEmpty "subscription_outbounds_invalid"
    return tags.length
  | _ => .error (.subscription "subscription_outbounds_invalid")

/-- The list itself, or the outbounds of a document. -/
def singboxItems : PyValue → Except Refusal PyValue
  | .list items => .ok (.list items)
  | .dict document => .ok (get document "outbounds")
  | _ => .error (.subscription "subscription_json_invalid")

def parseSingbox (value : PyValue) : Except Refusal ParsedSubscription := do
  let items ← singboxItems value
  let count ← validateOutbounds items
  return ⟨"sing-box", count⟩

/-- The body of the loop over the servers. -/
def sip008Server (server : PyValue) : Except Refusal Unit := do
  let item ← mapping server "subscription_sip008_invalid"
  let _ ← string (get item "server") "subscription_sip008_invalid"
  let _ ← port (get item "server_port") "subscription_sip008_invalid"
  let _ ← string (get item "method") "subscription_sip008_invalid"
  let _ ← string (get item "password") "subscription_sip008_invalid"
  validateValue 0 (.dict item)

def sip008Servers : List PyValue → Except Refusal Unit
  | [] => .ok ()
  | server :: servers => do
    sip008Server server
    sip008Servers servers

def parseSip008 (value : PyValue) : Except Refusal ParsedSubscription := do
  let document ← mapping value "subscription_sip008_invalid"
  match get document "servers" with
  | .list servers =>
    refuse (servers.isEmpty ∨ maxSubscriptionNodes < servers.length) "subscription_sip008_invalid"
    sip008Servers servers
    return ⟨"sip008", servers.length⟩
  | _ => .error (.subscription "subscription_sip008_invalid")

/-- The texts that authenticate a Clash proxy of a kind. -/
def clashCredentials (item : Dict) (kind : Str) : Except Refusal Unit := do
  if kind ∈ texts ["ss", "shadowsocks"] then
    let _ ← string (get item "cipher") "subscription_clash_invalid"
    let _ ← string (get item "password") "subscription_clash_invalid"
    return ()
  else
    let password := get item "password"
    let _ ← string (if isTruthy password then password else get item "uuid")
      "subscription_clash_invalid"
    return ()

/-- The fields of a Clash proxy besides its name. -/
def clashFields (item : Dict) (kind : Str) : Except Refusal Unit := do
  let _ ← string (get item "server") "subscription_clash_invalid"
  let _ ← port (get item "port") "subscription_clash_invalid"
  clashCredentials item kind
  validateValue 0 (.dict item)

def clashTypes : List String := ["ss", "shadowsocks", "trojan", "vmess", "vless"]

/-- The loop of `_parse_clash` over the names so far. -/
def clashProxies (names : List Str) : List PyValue → Except Refusal Unit
  | [] => .ok ()
  | proxy :: proxies => do
    let item ← mapping proxy "subscription_clash_invalid"
    let kind ← string (get item "type") "subscription_clash_invalid"
    refuse (lower kind ∉ texts clashTypes) "subscription_clash_type_unsupported"
    let name ← string (get item "name") "subscription_clash_invalid"
    refuse (name ∈ names) "subscription_tag_invalid"
    clashFields item (lower kind)
    clashProxies (names ++ [name]) proxies

/-- `isinstance(providers, dict) and providers` of the first spelling that is not empty. -/
def hasProviders (document : Dict) : Bool :=
  let dashed := get document "proxy-providers"
  match if isTruthy dashed then dashed else get document "proxy_providers" with
  | .dict providers => !providers.isEmpty
  | _ => false

def parseClash (value : PyValue) : Except Refusal ParsedSubscription := do
  let document ← mapping value "subscription_clash_invalid"
  match get document "proxies" with
  | .list (proxy :: proxies) =>
    refuse (maxSubscriptionNodes < (proxy :: proxies).length) "subscription_clash_invalid"
    clashProxies [] (proxy :: proxies)
    return ⟨"clash", (proxy :: proxies).length⟩
  | _ =>
    refuse (hasProviders document = true) "subscription_clash_profile_unsupported"
    .error (.subscription "subscription_clash_invalid")

/-! ## Versions -/

/-- What a reader makes of a text. -/
inductive Loaded where
  | value (value : PyValue)
  | malformed
  | raises (name : String)

structure Libraries where
  jsonLoads : String → Loaded
  yamlLoad : String → Loaded
  /-- `normalize_single_node` -/
  normalizeSingleNode : String → Except Refusal ByteArray
  /-- `hashlib.sha256(content).hexdigest()` -/
  sha256 : ByteArray → String

structure SubscriptionVersion where
  sourceId : String
  version : Nat
  contentHash : String
  sizeBytes : Nat
  format : String
  content : ByteArray
  fetchedAt : Nat
  parseOk : Bool
  parseError : String
  nodeCount : Nat

section Versions

variable (libs : Libraries)

/-- A content that is no JSON, or `null`, is read as YAML. -/
def inspectYaml (text : String) : Except Refusal ParsedSubscription :=
  match libs.yamlLoad text with
  | .value value => parseClash value
  | .malformed => .error (.subscription "subscription_format_unrecognized")
  | .raises name => .error (.python name)

def inspectDocument (text : String) : Except Refusal ParsedSubscription :=
  match libs.jsonLoads text with
  | .value .null => inspectYaml libs text
  | .value (.dict document) =>
    if (get? document "servers").isSome then parseSip008 (.dict document)
    else parseSingbox (.dict document)
  | .value decoded => parseSingbox decoded
  | .malformed => inspectYaml libs text
  | .raises name => .error (.python name)

def isNodeLink (text : String) : Bool := singleNodeScheme text ∈ ["vless", "vmess"]

def inspectSubscription (content : ByteArray) : Except Refusal ParsedSubscription := do
  let text ← orRefuse (decodeUtf8Sig content) "subscription_content_not_utf8"
  refuse (Ipaddress.strip text = "") "subscription_response_empty"
  if isNodeLink text then
    let _ ← libs.normalizeSingleNode text
    return ⟨"sing-box", 1⟩
  else inspectDocument libs text

def canonicalSubscriptionContent (content : ByteArray) : Except Refusal ByteArray :=
  match decodeUtf8Sig content with
  | none => .ok content
  | some text => if isNodeLink text then libs.normalizeSingleNode text else .ok content

def nextVersion (versions : List SubscriptionVersion) (sourceId : String) : Nat :=
  (((versions.filter fun v => v.sourceId = sourceId).map fun v => v.version).foldl max 0) + 1

/-- The version of a content that has been inspected, if no exception escapes. -/
def versionOf (versions : List SubscriptionVersion) (sourceId : String) (content : ByteArray)
    (fetchedAt : Nat) : Except Refusal SubscriptionVersion :=
  let version : SubscriptionVersion :=
    { sourceId := sourceId
      version := nextVersion versions sourceId
      contentHash := libs.sha256 content
      sizeBytes := content.size
      format := "unknown"
      content := content
      fetchedAt := fetchedAt
      parseOk := false
      parseError := ""
      nodeCount := 0 }
  match inspectSubscription libs content with
  | .ok parsed =>
    .ok { version with parseOk := true, format := parsed.format, nodeCount := parsed.nodeCount }
  | .error (.subscription code) => .ok { version with parseError := code }
  | .error (.python name) => .error (.python name)

/-- The version of a content, whether it is new, and the versions that are stored then. -/
def recordSubscriptionVersion (versions : List SubscriptionVersion) (sourceId : String)
    (content : ByteArray) (fetchedAt : Nat) :
    Except Refusal (SubscriptionVersion × Bool × List SubscriptionVersion) := do
  let content ← canonicalSubscriptionContent libs content
  match versions.find? fun v => v.sourceId = sourceId ∧ v.contentHash = libs.sha256 content with
  | some existing => return (existing, false, versions)
  | none =>
    let version ← versionOf libs versions sourceId content fetchedAt
    return (version, true, versions ++ [version])

end Versions

end Grouproxy.Formats
