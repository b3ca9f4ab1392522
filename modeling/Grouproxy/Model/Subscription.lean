import Grouproxy.Model.Bundle

/-! # Subscriptions

The payload of a bundle becomes a list of endpoint outbounds. The JSON and YAML readers are
parameters: they return the dynamically typed document, or nothing if the text is malformed.
-/

namespace Grouproxy.Subscription

open Text Value

/-- The readers of the two formats. -/
structure Readers where
  json : String → Option Any
  yaml : String → Option Any

def maxNodes : Nat := 128

def maxFieldLength : Nat := 8192

def supportedTypes : List String :=
  ["anytls", "http", "hysteria2", "shadowsocks", "socks", "ssh", "trojan", "tuic", "vless",
    "vmess", "wireguard"]

def controlTypes : List String := ["block", "direct", "dns", "selector", "urltest"]

/-! ## Fields -/

def optionalString (value : Any) : Except String String :=
  match value with
  | .nil => .ok ""
  | .str s => if maxFieldLength < s.utf8ByteSize then .error "invalid_string" else .ok (trimSpace s)
  | _ => .error "invalid_string"

def requiredString (value : Any) : Except String String :=
  match optionalString value with
  | .error _ => .error "invalid_string"
  | .ok s => if s = "" then .error "invalid_string" else .ok s

def portValue (value : Any) : Option Int :=
  match value.asInt? with
  | some port => if 0 < port ∧ port ≤ 65535 then some port else none
  | none => none

/-- Any failure of a field becomes the error of the format. -/
def orElseError {α : Type} (e : String) : Except String α → Except String α
  | .ok a => .ok a
  | .error _ => .error e

def portOr (e : String) (value : Any) : Except String Int :=
  match portValue value with
  | some port => .ok port
  | none => .error e

/-- The name of a server, or its position if it has none. -/
def serverTag (index : Nat) (name : Any) : String :=
  match optionalString name with
  | .ok s => if s = "" then "subscription-" ++ toString (index + 1) else s
  | .error _ => "subscription-" ++ toString (index + 1)

/-! ## Endpoint outbounds -/

/-- The name of an outbound and the outbound under it; one without a name is numbered. -/
def nameOutbound (count : Nat) (entry : Fields) (name : String) : String × Fields :=
  if name = "" then
    ("subscription-" ++ toString (count + 1),
      entry.put "tag" (.str ("subscription-" ++ toString (count + 1))))
  else (name, entry)

/-- One outbound of a subscription: an error, nothing if the monitor owns such outbounds, or
its name and the outbound to keep. -/
def keepOutbound (count : Nat) (raw : Any) : Except String (Option (String × Fields)) :=
  match raw.asMap? with
  | none => .error "subscription_outbound_invalid"
  | some entry =>
    match requiredString (entry.get "type") with
    | .error _ => .error "subscription_outbound_type_unsupported"
    | .ok kind =>
      if toLower kind ∈ controlTypes then .ok none
      else if toLower kind ∉ supportedTypes then .error "subscription_outbound_type_unsupported"
      else
        match optionalString (entry.get "tag") with
        | .error _ => .error "subscription_tag_invalid"
        | .ok name =>
          if name = "direct" ∨ name = "block" ∨ name = "subscription" then .ok none
          else .ok (some (nameOutbound count entry name))

/-- The loop of `validateOutbounds`: `tags` are the names and `count` is the number of the
outbounds kept so far. -/
def keepOutbounds : Nat → List String → List Any → Except String (List Any)
  | _, _, [] => .ok []
  | count, tags, raw :: entries =>
    match keepOutbound count raw with
    | .error e => .error e
    | .ok none => keepOutbounds count tags entries
    | .ok (some (tag, kept)) =>
      if tag ∈ tags then .error "subscription_tag_invalid"
      else if maxNodes < count + 1 then .error "subscription_outbounds_invalid"
      else
        match keepOutbounds (count + 1) (tag :: tags) entries with
        | .error e => .error e
        | .ok rest => .ok (.map kept :: rest)

def validateOutbounds (entries : List Any) : Except String (List Any) :=
  if entries = [] then .error "subscription_outbounds_invalid"
  else
    match keepOutbounds 0 [] entries with
    | .error e => .error e
    | .ok [] => .error "subscription_outbounds_invalid"
    | .ok result => .ok result

/-! ## sing-box and SIP008 -/

def parseSingbox (readers : Readers) (content : String) : Except String (List Any) :=
  match readers.json content with
  | some (.arr entries) => validateOutbounds entries
  | some (.map value) => validateOutbounds ((Fields.get value "outbounds").asArr?.getD [])
  | _ => .error "subscription_json_invalid"

/-- A document that must be a map; `null` is an empty one. -/
def documentOf : Option Any → Option Fields
  | some (.map document) => some document
  | some .nil => some []
  | _ => none

def sip008Outbound (index : Nat) (raw : Any) : Except String Any :=
  match raw.asMap? with
  | none => .error "subscription_sip008_invalid"
  | some server => orElseError "subscription_sip008_invalid" do
    let host ← requiredString (server.get "server")
    let port ← portOr "invalid_port" (server.get "server_port")
    let method ← requiredString (server.get "method")
    let password ← requiredString (server.get "password")
    return .map [("type", .str "shadowsocks"), ("tag", .str (serverTag index (server.get "remarks"))),
      ("server", .str host), ("server_port", .int port), ("method", .str method),
      ("password", .str password)]

/-- Applies a conversion to every entry with its position and keeps the first failure. -/
def convertAll (convert : Nat → Any → Except String Any) : Nat → List Any → Except String (List Any)
  | _, [] => .ok []
  | index, raw :: rest =>
    match convert index raw with
    | .error e => .error e
    | .ok outbound =>
      match convertAll convert (index + 1) rest with
      | .error e => .error e
      | .ok outbounds => .ok (outbound :: outbounds)

/-- The entries of a list field, checked and converted. -/
def convertEntries (invalid : String) (convert : Nat → Any → Except String Any) (entries : Any) :
    Except String (List Any) :=
  match entries.asArr? with
  | none => .error invalid
  | some entries =>
    if entries = [] ∨ maxNodes < entries.length then .error invalid
    else
      match convertAll convert 0 entries with
      | .error e => .error e
      | .ok outbounds => validateOutbounds outbounds

def parseSIP008 (readers : Readers) (content : String) : Except String (List Any) :=
  match documentOf (readers.json content) with
  | none => .error "subscription_sip008_invalid"
  | some document =>
    convertEntries "subscription_sip008_invalid" sip008Outbound (document.get "servers")

/-! ## Clash -/

def stringListItems : List Any → Except String (List String)
  | [] => .ok []
  | item :: items =>
    match optionalString item, stringListItems items with
    | .ok text, .ok rest => if text = "" then .error "invalid_string_list" else .ok (text :: rest)
    | _, _ => .error "invalid_string_list"

def stringList (value : Any) : Except String (List String) :=
  match value with
  | .str s => if trimSpace s = "" then .ok [] else .ok [trimSpace s]
  | .arr items => stringListItems items
  | _ => .error "invalid_string_list"

def copyTLSField (destination source : Fields) (key : String) : Fields :=
  match source.get? key with
  | some value => destination.put key value
  | none => destination

/-- The `tls` field: whether it enables TLS, and what it sets. -/
def clashTLSField (proxy : Fields) : Except String (Bool × Fields) :=
  match proxy.get? "tls" with
  | none => .ok (false, [])
  | some (.bool enabled) => .ok (enabled, [])
  | some (.map value) =>
    let tls := ["server_name", "insecure", "alpn", "utls"].foldl
      (fun tls key => copyTLSField tls value key) []
    match Fields.get? value "enabled" with
    | none => .ok (true, tls)
    | some (.bool enabled) => .ok (enabled, tls)
    | some _ => .error "subscription_clash_tls_invalid"
  | some _ => .error "subscription_clash_tls_invalid"

/-- The first of the three spellings of the server name that is present. -/
def clashServerName (proxy : Fields) : Option Any :=
  ["sni", "servername", "server-name"].findSome? proxy.get?

def clashTLS (proxy : Fields) (kind host : String) : Except String (Option Fields) :=
  orElseError "subscription_clash_tls_invalid" do
    let (declared, tls) ← clashTLSField proxy
    let enabled := declared || kind == "trojan"
    let serverName ← match clashServerName proxy with
      | none => .ok ""
      | some raw => optionalString raw
    let tls := if serverName = "" then tls else tls.put "server_name" (.str serverName)
    let enabled := enabled || serverName != ""
    let tls := if tls.has "server_name" = false ∧ enabled ∧ host ≠ "" then
      tls.put "server_name" (.str host) else tls
    let (enabled, tls) ← match proxy.get? "skip-cert-verify" with
      | none => .ok (enabled, tls)
      | some (.bool insecure) => .ok (true, tls.put "insecure" (.bool insecure))
      | some _ => .error "subscription_clash_tls_invalid"
    let (enabled, tls) ← match proxy.get? "alpn" with
      | none => .ok (enabled, tls)
      | some raw =>
        match stringList raw with
        | .error e => .error e
        | .ok [] => .ok (enabled, tls)
        | .ok alpn => .ok (true, tls.put "alpn" (.strs alpn))
    let (enabled, tls) ← match proxy.get? "client-fingerprint" with
      | none => .ok (enabled, tls)
      | some raw =>
        match requiredString raw with
        | .error e => .error e
        | .ok fingerprint => .ok (true, tls.put "utls"
            (.map [("enabled", .bool true), ("fingerprint", .str fingerprint)]))
    return if enabled then some (tls.put "enabled" (.bool true)) else none

/-- The credentials of a Clash proxy, by its kind. -/
def clashCredentials (proxy : Fields) (kind : String) : Except String Fields := do
  if kind = "shadowsocks" then
    let method ← requiredString (proxy.get "cipher")
    let password ← requiredString (proxy.get "password")
    return [("method", .str method), ("password", .str password)]
  else if kind = "trojan" then
    let password ← requiredString (proxy.get "password")
    return [("password", .str password)]
  else
    let uuid ← match requiredString (proxy.get "uuid") with
      | .ok uuid => .ok uuid
      | .error _ => requiredString (proxy.get "password")
    return [("uuid", .str uuid)]

def clashKind (kind : String) : String :=
  if toLower kind = "ss" then "shadowsocks" else toLower kind

def clashOutbound (index : Nat) (raw : Any) : Except String Any :=
  match raw.asMap? with
  | none => .error "subscription_clash_invalid"
  | some proxy => do
    let name ← orElseError "subscription_clash_invalid" (requiredString (proxy.get "type"))
    let kind := clashKind name
    if kind ∉ ["shadowsocks", "trojan", "vmess", "vless"] then
      throw "subscription_clash_type_unsupported"
    let host ← orElseError "subscription_clash_invalid" (requiredString (proxy.get "server"))
    let port ← portOr "subscription_clash_invalid" (proxy.get "port")
    let credentials ← orElseError "subscription_clash_invalid" (clashCredentials proxy kind)
    let tls ← clashTLS proxy kind host
    let outbound : Fields := [("type", .str kind), ("tag", .str (serverTag index (proxy.get "name"))),
      ("server", .str host), ("server_port", .int port)] ++ credentials
    let outbound := match tls with
      | some tls => outbound.put "tls" (.map tls)
      | none => outbound
    return .map (["flow", "packet_encoding", "transport"].foldl
      (fun outbound key => copyTLSField outbound proxy key) outbound)

def parseClash (readers : Readers) (content : String) : Except String (List Any) :=
  match documentOf (readers.yaml content) with
  | none => .error "subscription_clash_invalid"
  | some document =>
    convertEntries "subscription_clash_invalid" clashOutbound (document.get "proxies")

/-- The endpoint outbounds of a subscription. -/
def parse (readers : Readers) (content format : String) : Except String (List Any) :=
  if format = "sing-box" then parseSingbox readers content
  else if format = "sip008" then parseSIP008 readers content
  else if format = "clash" then parseClash readers content
  else .error "subscription_format_unsupported"

end Grouproxy.Subscription
