import Grouproxy.Library.Urllib
import Grouproxy.Model.BundleRepair
import Grouproxy.Model.SourceFetch

/-! # Single nodes

The link of one VLESS or VMess node becomes a sing-box document with one outbound, and a content is
inspected before it becomes a version. What takes links, queries and Base64 apart is a parameter,
as the readers are. A text has no lone surrogates: in the source they end the normalization with a
`UnicodeEncodeError`.
-/

namespace Grouproxy.SingleNode

open Text hiding isSpace
open Ipaddress Value Inspection
open Grouproxy.Bundle (textBytes)
open Backend (decodeUtf8Sig)
open Repair (Dict Loaded strOf)

/-- What `urlsplit` returns for a link. -/
structure NodeUrl extends SourceFetch.Url where
  fragment : String

structure Libraries extends Repair.Libraries where
  /-- `urlsplit`, unless it raises a `ValueError`. -/
  urlsplit : String → Option NodeUrl
  unquote : String → String
  /-- `parse_qs` with blank values and strict parsing, unless it raises a `ValueError`. -/
  parseQs : String → Option (List (String × List String))
  /-- `b64decode` with both alphabets, unless it raises a `ValueError`. -/
  b64decode : String → Option ByteArray

/-- A link as `urlsplit` takes it apart. -/
def nodeUrl (tables : Urllib.Tables) (parsed : Urllib.SplitResult) : NodeUrl where
  scheme := String.ofList parsed.scheme
  netloc := String.ofList parsed.netloc
  path := String.ofList parsed.path
  query := String.ofList parsed.query
  hostname := (parsed.hostname tables).map String.ofList
  username := parsed.username.map String.ofList
  password := parsed.password.map String.ofList
  port? := parsed.port?
  fragment := String.ofList parsed.fragment

/-- The same readers with those of `urllib.parse` for links and queries. -/
def Libraries.withUrllib (libs : Libraries) (tables : Urllib.Tables) : Libraries :=
  { libs with
    urlsplit := fun url => (Urllib.urlsplit tables url.toList).map (nodeUrl tables)
    unquote := fun text => String.ofList (Urllib.unquote text.toList)
    parseQs := fun query => Urllib.parseQs query.toList }

def singleNodeMaxBytes : Nat := 16384

/-- `if bad: raise SubscriptionError(code)` -/
def refuse (bad : Prop) [Decidable bad] (code : String) : Except Refusal Unit :=
  if bad then .error (.subscription code) else .ok ()

def orRefuse {α : Type} (value : Option α) (code : String) : Except Refusal α :=
  match value with
  | some a => .ok a
  | none => .error (.subscription code)

/-- `value or default` -/
def orDefault (default value : String) : String := if value = "" then default else value

/-- A field that is written if its text is not empty. -/
def optional (key value : String) : Dict := if value = "" then [] else [(key, .str value)]

/-- `_single_node_payload`; only the order of the keys in the text is sorted. -/
def singleNodePayload (outbound : Dict) : ByteArray :=
  textBytes (Tree.dumps (.dict [("outbounds", .list [.dict outbound])]))

/-- `_single_node_scheme` -/
def singleNodeScheme (value : String) : String :=
  let isSchemeChar := fun c : Char => c.isAlphanum || c == '+' || c == '.' || c == '-'
  match value.toList.dropWhile isSpace with
  | [] => ""
  | c :: cs =>
    if c.isAlpha ∧ "://".toList <+: cs.dropWhile isSchemeChar then
      lower (String.ofList (c :: cs.takeWhile isSchemeChar))
    else ""

/-! ## UUIDs -/

/-- The text without the occurrences of a pattern; `skip` counts what is left of the last one. -/
def removeAll (pattern : List Char) : (skip : Nat) → List Char → List Char
  | _, [] => []
  | skip + 1, _ :: cs => removeAll pattern skip cs
  | 0, c :: cs =>
    if pattern <+: c :: cs then removeAll pattern (pattern.length - 1) cs
    else c :: removeAll pattern 0 cs

def withoutHexPrefix : List Char → List Char
  | '0' :: 'x' :: '_' :: cs => cs
  | '0' :: 'X' :: '_' :: cs => cs
  | '0' :: 'x' :: cs => cs
  | '0' :: 'X' :: cs => cs
  | cs => cs

/-- `int(text, 16)` of a text without a minus sign. -/
def intOfHex (cs : List Char) : Option Nat :=
  let ascii := (trimBy isSpace cs).map fun c => ((digit? c).map Nat.digitChar).getD c
  let unsigned := if ascii.head? = some '+' then ascii.tail else ascii
  let parts := (withoutHexPrefix unsigned).splitOn '_'
  if parts.any List.isEmpty then none
  else (parts.flatten.mapM hexValue?).map fun digits => digits.foldl (fun n d => 16 * n + d) 0

/-- The 32 hexadecimal digits of a UUID. -/
def uuidDigits (n : Nat) : List Char :=
  (List.range 32).map fun i => Nat.digitChar (n / 16 ^ (31 - i) % 16)

/-- `str(uuid.UUID(text))`, unless it raises a `ValueError`. -/
def uuidText (text : String) : Option String :=
  let bare := removeAll "uuid:".toList 0 (removeAll "urn:".toList 0 text.toList)
  let hex := (trimBy (fun c => c == '\x7b' || c == '\x7d') bare).filter (· ≠ '-')
  if hex.length ≠ 32 then none
  else
    (intOfHex hex).map fun n =>
      let digits := uuidDigits n
      String.ofList (digits.take 8 ++ '-' :: (digits.drop 8).take 4 ++ '-' :: (digits.drop 12).take 4 ++
        '-' :: (digits.drop 16).take 4 ++ '-' :: digits.drop 20)

section Normalization

variable (libs : Libraries)

/-! ## VLESS -/

def invalidParameters : String := "single_node_invalid_parameters"

def vlessKeys : List String :=
  ["encryption", "security", "type", "sni", "fp", "pbk", "sid", "flow", "packetEncoding"]

/-- The link taken apart, and its port. -/
def vlessUrl (raw : String) : Except Refusal (NodeUrl × Nat) := do
  let parsed ← orRefuse (libs.urlsplit raw) "single_node_invalid_uri"
  let port? ← orRefuse parsed.port? "single_node_invalid_uri"
  refuse (lower parsed.scheme ≠ "vless" ∨ SourceFetch.hostOf parsed.toUrl = "")
    "single_node_invalid_uri"
  let port ← orRefuse port? "single_node_invalid_uri"
  refuse (parsed.password ≠ none) "single_node_invalid_uri"
  return (parsed, port)

/-- `parameter(name, required=required)` -/
def parameter (query : List (String × List String)) (name : String) (required : Bool) :
    Except Refusal String := do
  let values := (query.lookup name).getD []
  refuse (1 < values.length ∨ (required = true ∧ strip (values.headD "") = "")) invalidParameters
  let result := (values.head?.map fun value => strip (libs.unquote value)).getD ""
  refuse (maxFieldLength < result.length) invalidParameters
  return result

/-- The security of a link, whose encryption and transport have only one value. -/
def vlessSecurity (query : List (String × List String)) : Except Refusal String := do
  let encryption ← parameter libs query "encryption" false
  refuse (lower (orDefault "none" encryption) ≠ "none") "single_node_encryption_unsupported"
  let security ← parameter libs query "security" false
  refuse (lower (orDefault "none" security) ∉ ["none", "tls", "reality"])
    "single_node_security_unsupported"
  let transport ← parameter libs query "type" false
  refuse (lower (orDefault "tcp" transport) ≠ "tcp") "single_node_transport_unsupported"
  return lower (orDefault "none" security)

def utls (fingerprint : String) : Dict :=
  if fingerprint = "" then []
  else [("utls", .dict [("enabled", .bool true), ("fingerprint", .str fingerprint)])]

/-- `re.fullmatch(r"[A-Za-z0-9_-]{16,128}", text)` -/
def isRealityKey (text : String) : Bool :=
  16 ≤ text.length && text.length ≤ 128 &&
    text.toList.all fun c => c.isAlphanum || c == '_' || c == '-'

/-- Up to eight pairs of hexadecimal digits. -/
def isShortId (text : String) : Bool :=
  text.length % 2 == 0 && text.length ≤ 16 && text.toList.all isHex

def vlessReality (query : List (String × List String)) (security : String) :
    Except Refusal Dict := do
  if security = "reality" then
    let publicKey ← parameter libs query "pbk" true
    let shortId ← parameter libs query "sid" true
    refuse (isRealityKey publicKey = false) "single_node_invalid_reality_key"
    refuse (isShortId shortId = false) "single_node_invalid_reality_short_id"
    return [("reality", .dict [("enabled", .bool true), ("public_key", .str publicKey),
      ("short_id", .str shortId)])]
  else return []

def vlessTls (query : List (String × List String)) (security : String) : Except Refusal Dict := do
  if security = "none" then return []
  else
    let serverName ← parameter libs query "sni" (security = "reality")
    let fingerprint ← parameter libs query "fp" false
    let reality ← vlessReality libs query security
    return [("tls", .dict ([("enabled", .bool true)] ++ optional "server_name" serverName ++
      utls fingerprint ++ reality))]

def vlessTag (parsed : NodeUrl) : String :=
  orDefault "vless-node" (strip (libs.unquote parsed.fragment))

/-- `_normalize_vless_node` up to the payload. -/
def vlessOutbound (raw : String) : Except Refusal Dict := do
  let (parsed, port) ← vlessUrl libs raw
  let uuid ← orRefuse (uuidText (libs.unquote (parsed.username.getD ""))) "single_node_invalid_uuid"
  refuse (port < 1 ∨ 65535 < port) "single_node_invalid_port"
  let host := strip (SourceFetch.hostOf parsed.toUrl)
  refuse (host = "" ∨ host.toList.any isSpace) "single_node_invalid_host"
  let query ← orRefuse (libs.parseQs parsed.query) invalidParameters
  refuse (query.any fun f => f.1 ∉ vlessKeys) "single_node_parameter_unsupported"
  let security ← vlessSecurity libs query
  let tag := vlessTag libs parsed
  refuse (255 < tag.length) "single_node_name_too_long"
  let flow ← parameter libs query "flow" false
  let packetEncoding ← parameter libs query "packetEncoding" false
  let tls ← vlessTls libs query security
  return [("type", .str "vless"), ("tag", .str tag), ("server", .str host),
    ("server_port", .int port), ("uuid", .str uuid)] ++ optional "flow" flow ++
    optional "packet_encoding" packetEncoding ++ tls

/-! ## VMess -/

/-- What follows the first `://`. -/
def afterScheme? : List Char → Option (List Char)
  | [] => none
  | c :: cs => if "://".toList <+: c :: cs then some (cs.drop 2) else afterScheme? cs

/-- The payload without its Base64, or as it is if it is an object. -/
def vmessDecoded (payload : String) : Except Refusal ByteArray := do
  if (payload.toList.dropWhile isSpace).head? = some '\x7b' then return payload.toUTF8
  else
    let compact := payload.toList.filter fun c => !isSpace c
    refuse (compact = [] ∨
      singleNodeMaxBytes < (compact.filter fun c => decide (c.toNat < 128)).length)
      "single_node_too_large"
    orRefuse (libs.b64decode (String.ofList (compact ++
      List.replicate ((4 - compact.length % 4) % 4) '='))) "single_node_invalid_vmess"

/-- `_vmess_payload_document` -/
def vmessPayloadDocument (raw : String) : Except Refusal Dict := do
  let rest ← orRefuse (afterScheme? raw.toList) "single_node_invalid_uri"
  let payload := libs.unquote (strip (String.ofList rest))
  refuse (payload = "") "single_node_invalid_vmess"
  let decoded ← vmessDecoded libs payload
  refuse (singleNodeMaxBytes < decoded.size) "single_node_too_large"
  let text ← orRefuse (decodeUtf8Sig decoded) "single_node_invalid_vmess"
  match libs.jsonLoads text with
  | .value (.dict document) => return document
  | .value _ => .error (.subscription "single_node_invalid_vmess")
  | .malformed => .error (.subscription "single_node_invalid_vmess")
  | .raises name => .error (.python name)

/-- The value of the first key that is present; `null` is as good as none. -/
def firstOf (document : Dict) (keys : List String) : Tree :=
  (keys.findSome? (Value.Tree.get? document)).getD .null

/-- The text of a value: its own, or that of a number. -/
def fieldText? (value : Tree) (default : String) : Option String :=
  match value with
  | .null => some default
  | .str s => some (strip (libs.unquote s))
  | .int n => some (strip (libs.unquote (strOf libs.toLibraries (.int n))))
  | .float x => some (strip (libs.unquote (strOf libs.toLibraries (.float x))))
  | _ => none

def vmessText (document : Dict) (keys : List String) (default : String) (required : Bool) :
    Except Refusal String := do
  let result ← orRefuse (fieldText? libs (firstOf document keys) default) invalidParameters
  refuse ((required = true ∧ result = "") ∨ maxFieldLength < result.length) invalidParameters
  return result

def vmessInt (document : Dict) (keys : List String) (default : Option Int) : Except Refusal Int :=
  match firstOf document keys with
  | .null => orRefuse default invalidParameters
  | .str "" => orRefuse default invalidParameters
  | .bool _ => .error (.subscription invalidParameters)
  | value => orRefuse (intOfDigits (strOf libs.toLibraries value)) invalidParameters

def vmessBool (document : Dict) (keys : List String) : Except Refusal Bool :=
  match keys.findSome? (Value.Tree.get? document) with
  | none => .ok false
  | some (.bool b) => .ok b
  | some (.int n) =>
    if n = 0 then .ok false else if n = 1 then .ok true
    else .error (.subscription invalidParameters)
  | some (.float x) =>
    if x.toInt? = some 0 then .ok false else if x.toInt? = some 1 then .ok true
    else .error (.subscription invalidParameters)
  | some (.str s) =>
    if lower (strip s) ∈ ["true", "1", "yes", "on"] then .ok true
    else if lower (strip s) ∈ ["false", "0", "no", "off", ""] then .ok false
    else .error (.subscription invalidParameters)
  | some _ => .error (.subscription invalidParameters)

/-- The stripped texts between commas that are not empty. -/
def commaItems (text : String) : List String :=
  ((text.toList.splitOn ',').map fun part => strip (String.ofList part)).filter (· ≠ "")

/-- The items of a list of texts, of which none is blank. -/
def textItems : List Tree → Option (List String)
  | [] => some []
  | .str s :: items => if strip s = "" then none else (textItems items).map (strip s :: ·)
  | _ :: _ => none

def alpnItems : Tree → Except Refusal (List String)
  | .null => .ok []
  | .str s => .ok (commaItems s)
  | .list items => orRefuse (textItems items) invalidParameters
  | _ => .error (.subscription invalidParameters)

def vmessAlpn (document : Dict) : Except Refusal (List String) := do
  let values ← alpnItems ((Value.Tree.get? document "alpn").getD (.str ""))
  refuse (16 < values.length ∨ values.any fun item => maxFieldLength < item.length)
    invalidParameters
  return values

/-- The transport, which the camouflage of a plain connection may change. -/
def networkOf (network camouflage : String) : String :=
  let network := if network ∈ ["raw", "none"] then "tcp" else network
  if network ∈ ["tcp", "http"] ∧ camouflage ∈ ["http", "h2"] then "http" else network

def vmessNetwork (document : Dict) : Except Refusal String := do
  let network ← vmessText libs document ["net", "network"] "tcp" false
  let camouflage ← vmessText libs document ["type"] "none" false
  let network := networkOf (orDefault "tcp" (lower network)) (orDefault "none" (lower camouflage))
  refuse (network ∉ ["tcp", "ws", "websocket", "http", "h2", "grpc", "httpupgrade"])
    "single_node_transport_unsupported"
  return network

/-- The first host of a list. -/
def firstHost (text : String) : String := strip (String.ofList (text.toList.takeWhile (· ≠ ',')))

/-- `path.lstrip("/")` -/
def withoutSlashes (path : String) : String := String.ofList (path.toList.dropWhile (· = '/'))

/-- The service of a transport over gRPC, which is its path if there is one. -/
def serviceName (document : Dict) (path : String) : Except Refusal String :=
  if withoutSlashes path ≠ "" then .ok (withoutSlashes path)
  else vmessText libs document ["serviceName", "service_name"] "" false

def vmessTransport (document : Dict) (network : String) : Except Refusal Dict := do
  let transportHost ← vmessText libs document ["host", "Host"] "" false
  refuse (transportHost.toList.any fun c => c = '\r' ∨ c = '\n') invalidParameters
  let path ← vmessText libs document ["path"] "" false
  if network ∈ ["ws", "websocket"] then
    return [("transport", .dict ([("type", .str "ws"), ("path", .str (orDefault "/" path))] ++
      if transportHost = "" then []
      else [("headers", .dict [("Host", .str (firstHost transportHost))])]))]
  else if network ∈ ["http", "h2"] then
    return [("transport", .dict ([("type", .str "http"), ("path", .str (orDefault "/" path))] ++
      if transportHost = "" then [] else [("host", .list ((commaItems transportHost).map .str))]))]
  else if network = "grpc" then
    let service ← serviceName libs document path
    return [("transport", .dict ([("type", .str "grpc")] ++ optional "service_name" service))]
  else if network = "httpupgrade" then
    return [("transport", .dict ([("type", .str "httpupgrade"),
      ("path", .str (orDefault "/" path))] ++
      if transportHost = "" then [] else [("host", .str (firstHost transportHost))]))]
  else return []

def vmessTlsEnabled (document : Dict) : Except Refusal Bool :=
  match (Value.Tree.get? document "tls").getD (.str "") with
  | .bool b => .ok b
  | .int n => .ok (n ≠ 0)
  | .float x => .ok (x.toInt? ≠ some 0)
  | .str s => .ok (lower (strip s) ∉ ["", "none", "false", "0", "off"])
  | _ => .error (.subscription invalidParameters)

def vmessTls (document : Dict) : Except Refusal Dict := do
  if ← vmessTlsEnabled document then
    let serverName ← vmessText libs document ["sni", "servername", "server_name"] "" false
    let fingerprint ← vmessText libs document ["fp", "fingerprint"] "" false
    let alpn ← vmessAlpn document
    let insecure ← vmessBool document ["allowInsecure", "allow_insecure", "skip-cert-verify"]
    return [("tls", .dict ([("enabled", .bool true)] ++ optional "server_name" serverName ++
      utls fingerprint ++ (if alpn = [] then [] else [("alpn", .list (alpn.map .str))]) ++
      if insecure then [("insecure", .bool true)] else []))]
  else return []

/-- `_normalize_vmess_node` up to the payload. -/
def vmessOutbound (raw : String) : Except Refusal Dict := do
  let document ← vmessPayloadDocument libs raw
  let host ← vmessText libs document ["add", "server"] "" true
  refuse (host = "" ∨ host.toList.any isSpace) "single_node_invalid_host"
  let port ← vmessInt libs document ["port", "server_port"] none
  refuse (port < 1 ∨ 65535 < port) "single_node_invalid_port"
  let id ← vmessText libs document ["id", "uuid"] "" true
  let uuid ← orRefuse (uuidText id) "single_node_invalid_uuid"
  let name ← vmessText libs document ["ps", "name", "remark"] "vmess-node" false
  let tag := orDefault "vmess-node" name
  refuse (255 < tag.length) "single_node_name_too_long"
  let scy ← vmessText libs document ["scy", "security"] "auto" false
  let security := orDefault "auto" (lower scy)
  refuse (security ∉ ["auto", "none", "zero", "aes-128-gcm", "chacha20-poly1305"])
    "single_node_security_unsupported"
  let alterId ← vmessInt libs document ["aid", "alterId", "alter_id"] (some 0)
  refuse (alterId < 0 ∨ 65535 < alterId) invalidParameters
  let network ← vmessNetwork libs document
  let transport ← vmessTransport libs document network
  let packetEncoding ← vmessText libs document ["packetEncoding", "packet_encoding"] "" false
  let tls ← vmessTls libs document
  return [("type", .str "vmess"), ("tag", .str tag), ("server", .str host),
    ("server_port", .int port), ("uuid", .str uuid), ("security", .str security),
    ("alter_id", .int alterId)] ++ optional "packet_encoding" packetEncoding ++ transport ++ tls

/-! ## Links -/

/-- The stripped link of a value, and its scheme. -/
def nodeOutbound (raw : String) : Except Refusal Dict :=
  if singleNodeScheme raw = "vless" then vlessOutbound libs raw
  else if singleNodeScheme raw = "vmess" then vmessOutbound libs raw
  else .error (.subscription "single_node_invalid_uri")

def normalizeSingleNode (value : String) : Except Refusal ByteArray := do
  refuse (strip value = "" ∨ singleNodeMaxBytes < (strip value).utf8ByteSize)
    "single_node_too_large"
  let outbound ← nodeOutbound libs (strip value)
  return singleNodePayload outbound

end Normalization

/-! ## Inspection -/

structure ParsedSubscription where
  format : String
  nodeCount : Nat
  deriving DecidableEq

/-- The loop of `_validate_outbounds`: the tags of the outbounds that were counted. -/
def countOutbounds (tags : List String) : List Tree → Except Refusal (List String)
  | [] => .ok tags
  | item :: items => do
    let outbound ← mapping item "subscription_outbound_invalid"
    let kind ← string (Value.Tree.get outbound "type") "subscription_outbound_type_invalid"
    if lower kind ∈ controlOutboundTypes then countOutbounds tags items
    else
      refuse (lower kind ∉ supportedOutboundTypes) "subscription_outbound_type_unsupported"
      let name := (Value.Tree.get? outbound "tag").getD (.str ("subscription-" ++ toString (tags.length + 1)))
      let tag ← string name "subscription_tag_invalid"
      if tag ∈ reservedOutboundTags then countOutbounds tags items
      else
        refuse (tag ∈ tags) "subscription_tag_invalid"
        refuse (maxSubscriptionNodes < tags.length + 1) "subscription_outbounds_invalid"
        validateValue 0 (.dict outbound)
        countOutbounds (tags ++ [tag]) items

def validateOutbounds (items : Tree) : Except Refusal Nat :=
  match items with
  | .list items => do
    refuse items.isEmpty "subscription_outbounds_invalid"
    let tags ← countOutbounds [] items
    refuse tags.isEmpty "subscription_outbounds_invalid"
    return tags.length
  | _ => .error (.subscription "subscription_outbounds_invalid")

/-- The list itself, or the outbounds of a document. -/
def singboxItems : Tree → Except Refusal Tree
  | .list items => .ok (.list items)
  | .dict document => .ok (Value.Tree.get document "outbounds")
  | _ => .error (.subscription "subscription_json_invalid")

def parseSingbox (value : Tree) : Except Refusal ParsedSubscription := do
  let items ← singboxItems value
  let count ← validateOutbounds items
  return ⟨"sing-box", count⟩

/-- Checks every item of a list. -/
def checkAll (check : Tree → Except Refusal Unit) : List Tree → Except Refusal Unit
  | [] => .ok ()
  | item :: items => do
    check item
    checkAll check items

def sip008Server (server : Tree) : Except Refusal Unit := do
  let item ← mapping server "subscription_sip008_invalid"
  let _ ← string (Value.Tree.get item "server") "subscription_sip008_invalid"
  let _ ← port (Value.Tree.get item "server_port") "subscription_sip008_invalid"
  let _ ← string (Value.Tree.get item "method") "subscription_sip008_invalid"
  let _ ← string (Value.Tree.get item "password") "subscription_sip008_invalid"
  validateValue 0 (.dict item)

def parseSip008 (value : Tree) : Except Refusal ParsedSubscription := do
  let document ← mapping value "subscription_sip008_invalid"
  match Value.Tree.get document "servers" with
  | .list servers =>
    refuse (servers.isEmpty ∨ maxSubscriptionNodes < servers.length) "subscription_sip008_invalid"
    checkAll sip008Server servers
    return ⟨"sip008", servers.length⟩
  | _ => .error (.subscription "subscription_sip008_invalid")

/-- The fields of a Clash proxy besides its name. -/
def clashFields (item : Dict) (kind : String) : Except Refusal Unit := do
  let _ ← string (Value.Tree.get item "server") "subscription_clash_invalid"
  let _ ← port (Value.Tree.get item "port") "subscription_clash_invalid"
  if kind ∈ ["ss", "shadowsocks"] then
    let _ ← string (Value.Tree.get item "cipher") "subscription_clash_invalid"
    let _ ← string (Value.Tree.get item "password") "subscription_clash_invalid"
  else
    let password := Value.Tree.get item "password"
    let _ ← string (if isTruthy password then password else Value.Tree.get item "uuid")
      "subscription_clash_invalid"
  validateValue 0 (.dict item)

/-- The loop of `_parse_clash` over the names so far. -/
def clashProxies (names : List String) : List Tree → Except Refusal Unit
  | [] => .ok ()
  | proxy :: proxies => do
    let item ← mapping proxy "subscription_clash_invalid"
    let kind ← string (Value.Tree.get item "type") "subscription_clash_invalid"
    refuse (lower kind ∉ ["ss", "shadowsocks", "trojan", "vmess", "vless"])
      "subscription_clash_type_unsupported"
    let name ← string (Value.Tree.get item "name") "subscription_clash_invalid"
    refuse (name ∈ names) "subscription_tag_invalid"
    clashFields item (lower kind)
    clashProxies (names ++ [name]) proxies

/-- `isinstance(providers, dict) and providers` of the first spelling that is not empty. -/
def hasProviders (document : Dict) : Bool :=
  let dashed := Value.Tree.get document "proxy-providers"
  match if isTruthy dashed then dashed else Value.Tree.get document "proxy_providers" with
  | .dict providers => !providers.isEmpty
  | _ => false

def parseClash (value : Tree) : Except Refusal ParsedSubscription := do
  let document ← mapping value "subscription_clash_invalid"
  match Value.Tree.get document "proxies" with
  | .list (proxy :: proxies) =>
    refuse (maxSubscriptionNodes < (proxy :: proxies).length) "subscription_clash_invalid"
    clashProxies [] (proxy :: proxies)
    return ⟨"clash", (proxy :: proxies).length⟩
  | _ =>
    refuse (hasProviders document = true) "subscription_clash_profile_unsupported"
    .error (.subscription "subscription_clash_invalid")

section Inspection

variable (libs : Libraries)

/-- A content that is no JSON, or `null`, is read as YAML. -/
def inspectYaml (text : String) : Except Refusal ParsedSubscription :=
  match libs.yamlLoad text with
  | .value value => parseClash value
  | .malformed => .error (.subscription "subscription_format_unrecognized")
  | .raises name => .error (.python name)

def inspectDocument (text : String) : Except Refusal ParsedSubscription :=
  match libs.jsonLoads text with
  | .value .null => inspectYaml libs text
  | .value (.dict document) =>
    if (Value.Tree.get? document "servers").isSome then parseSip008 (.dict document)
    else parseSingbox (.dict document)
  | .value decoded => parseSingbox decoded
  | .malformed => inspectYaml libs text
  | .raises name => .error (.python name)

def inspectSubscription (content : ByteArray) : Except Refusal ParsedSubscription := do
  let text ← orRefuse (decodeUtf8Sig content) "subscription_content_not_utf8"
  refuse (strip text = "") "subscription_response_empty"
  if singleNodeScheme text ∈ ["vless", "vmess"] then
    let _ ← normalizeSingleNode libs text
    return ⟨"sing-box", 1⟩
  else inspectDocument libs text

end Inspection

end Grouproxy.SingleNode
