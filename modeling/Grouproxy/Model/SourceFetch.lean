import Mathlib.Data.List.Dedup
import Mathlib.Data.List.Sort
import Grouproxy.Library.IpaddressText
import Grouproxy.Library.Json
import Grouproxy.Library.Lines
import Grouproxy.Library.Urllib
import Grouproxy.Model.Inspection

/-! # Fetching a subscription

How an upstream document is fetched: every address is looked up and checked before a request goes
to it. The resolver and the upstream answer as they like, also differently each time; the joining of
URLs and the ranges of public addresses are parameters.
-/

namespace Grouproxy.SourceFetch

open Encoding Lines
open Ipaddress (ipAddress strip)
open Inspection (lower)
open Netip (Addr zoneText)
open Text (isHex)

/-- A `SubscriptionError`, or an exception that nothing here catches. -/
inductive Failure where
  | subscription (code : String) (retryable : Bool)
  | python (name : String)
  deriving DecidableEq

/-- What `urlsplit` returns; reading the port may raise a `ValueError`. -/
structure Url where
  scheme : String
  netloc : String
  path : String
  query : String
  hostname : Option String
  username : Option String
  password : Option String
  port? : Option (Option Nat)

/-- `_check_bracketed_host`, for an address that is no IPv4 address or of a later version. -/
def checkBracketedHost (host : List Char) : Bool :=
  match host with
  | 'v' :: future =>
    match future.dropWhile isHex with
    | '.' :: rest => !(future.takeWhile isHex).isEmpty && !rest.isEmpty && !rest.contains '\n'
    | _ => false
  | _ =>
    match ipAddress (String.ofList host) with
    | some (.v6 _ _) => true
    | _ => false

/-- `_check_bracketed_netloc`, which raises a `ValueError` or not. -/
def checkBracketedNetloc (netloc : List Char) : Bool :=
  let info := (Urllib.rpartition '@' netloc).2
  match Urllib.partition '[' info with
  | (before, some bracketed) =>
    let (host, rest) := Urllib.partition ']' bracketed
    before.isEmpty && ((rest.getD []).isEmpty || (rest.getD []).head? == some ':') &&
      checkBracketedHost host
  | (_, none) => checkBracketedHost (Urllib.partition ':' info).1

structure Libraries where
  /-- `unicodedata.normalize("NFKC", text)` -/
  nfkc : List Char → List Char
  /-- `str.lower` of a text that is not ASCII. -/
  lower : List Char → List Char
  /-- `urljoin`, unless it raises a `ValueError`. -/
  urljoin : (base location : String) → Option String
  /-- `address.is_global` -/
  isGlobal : Addr → Bool

def Libraries.tables (libs : Libraries) : Urllib.Tables :=
  ⟨libs.nfkc, libs.lower, checkBracketedNetloc⟩

/-- A URL as `urlsplit` takes it apart. -/
def splitUrl (tables : Urllib.Tables) (parsed : Urllib.SplitResult) : Url where
  scheme := String.ofList parsed.scheme
  netloc := String.ofList parsed.netloc
  path := String.ofList parsed.path
  query := String.ofList parsed.query
  hostname := (parsed.hostname tables).map String.ofList
  username := parsed.username.map String.ofList
  password := parsed.password.map String.ofList
  port? := parsed.port?

/-- `urlsplit`, unless it raises a `ValueError`. -/
@[irreducible] def Libraries.urlsplit (libs : Libraries) (url : String) : Option Url :=
  (Urllib.urlsplit libs.tables url.toList).map (splitUrl libs.tables)

/-- `urlunsplit((scheme, netloc, path, query, ""))` -/
def urlunsplit (scheme netloc path query : String) : String :=
  String.ofList (Urllib.urlunsplit scheme.toList netloc.toList path.toList query.toList)

def orSlash (path : String) : String := if path = "" then "/" else path

/-- `parsed.hostname or ""` -/
def hostOf (parsed : Url) : String := parsed.hostname.getD ""

section Urls

variable (libs : Libraries)

/-- `normalize_source_url` without a scheme of its own. -/
def normalizeSourceUrl (value : String) : Except Failure String :=
  match libs.urlsplit (strip value) with
  | none => .error (.subscription "invalid_subscription_url" false)
  | some parsed =>
    match parsed.port? with
    | none => .error (.subscription "invalid_subscription_url" false)
    | some _ =>
      let actual := lower parsed.scheme
      if actual ∉ ["http", "https"] ∨ hostOf parsed = "" then
        .error (.subscription "subscription_url_scheme_not_allowed" false)
      else if parsed.username ≠ none ∨ parsed.password ≠ none then
        .error (.subscription "subscription_url_credentials_not_supported" false)
      else .ok (urlunsplit actual parsed.netloc (orSlash parsed.path) parsed.query)

def subscriptionScheme (value : String) : Except Failure String :=
  let scheme := lower (strip value)
  if scheme ∉ ["http", "https"] then
    .error (.subscription "subscription_url_scheme_not_allowed" false)
  else .ok scheme

def defaultSubscriptionPort (scheme : String) : Nat := if scheme = "https" then 443 else 80

/-- The URL as it is read again after its normalisation, with its port. -/
def validateUrlShape (value : String) : Except Failure (Url × Nat) := do
  let normalized ← normalizeSourceUrl libs value
  match libs.urlsplit normalized with
  | none => .error (.python "ValueError")
  | some parsed =>
    match parsed.port? with
    | none => .error (.python "ValueError")
    | some port =>
      let port := match port with
        | some (n + 1) => n + 1
        | _ => defaultSubscriptionPort (lower parsed.scheme)
      if port < 1 ∨ 65535 < port then .error (.subscription "invalid_subscription_url" false)
      else .ok (parsed, port)

def isPublicAddress (value : String) : Bool := ((ipAddress value).map libs.isGlobal).getD false

/-- A host in a URL: an IPv6 address is in brackets. -/
def bracketed (host : String) : String :=
  if ':' ∈ host.toList then "[" ++ host ++ "]" else host

def withPort (host scheme : String) (port : Nat) : String :=
  if port = defaultSubscriptionPort scheme then host else host ++ ":" ++ toString port

def requestUrl (parsed : Url) (address : String) (port : Nat) : Except Failure String := do
  let scheme ← subscriptionScheme parsed.scheme
  return urlunsplit scheme (withPort (bracketed address) scheme port) (orSlash parsed.path)
    parsed.query

def hostHeader (parsed : Url) (port : Nat) : Except Failure String := do
  let scheme ← subscriptionScheme parsed.scheme
  return withPort (bracketed (hostOf parsed)) scheme port

end Urls

/-! ## Lookups and requests -/

def isNumberChar (c : Char) : Bool := "0123456789abcdef:.".toList.contains c

/-- A numeric address as the resolver writes it, in lower case, with the scope that it may have. -/
structure SocketAddress where
  number : String
  scope : String
  isNumber : number.toList.all isNumberChar = true
  isScope : scope.toList.all Urllib.isUnreserved = true

/-- `record[4][0]` -/
def SocketAddress.text (address : SocketAddress) : String :=
  String.ofList (address.number.toList ++ zoneText address.scope)

/-- How `getaddrinfo` ends. -/
inductive Lookup where
  | records (records : List SocketAddress)
  | osError
  | raises (name : String)

/-- A request for a URL, which is sent to its endpoint. -/
structure Request where
  url : String
  endpoint : String
  host : String
  sniHostname : Option String

/-- What has been asked of the resolver and sent upstream. -/
inductive Effect where
  | lookup (host : String) (answer : Lookup)
  | request (request : Request)

/-- How sending a request or reading a body ends. -/
inductive Transfer where
  | done
  | timeout
  | httpError
  | raises (name : String)

structure Response where
  opening : Transfer
  statusCode : Nat
  location : String
  chunks : List Bytes
  ending : Transfer

/-- The resolver and the upstream, whose answers may depend on all that happened before. -/
structure Network where
  lookup : List Effect → (host : String) → (port : Nat) → Lookup
  respond : List Effect → Request → Response

/-- What has happened, and the hosts that have been validated. -/
structure Session where
  effects : List Effect
  validatedHosts : List (String × List String)

section Fetch

variable (libs : Libraries) (net : Network)

/-- `sorted({record[4][0] for record in records})` -/
def sortedAddresses (records : List SocketAddress) : List String :=
  (records.map SocketAddress.text).dedup.insertionSort fun a b => codePointLe a b = true

def resolvePublicAddresses (session : Session) (host : String) (port : Nat) :
    Session × Except Failure (List String) :=
  if lower host = "localhost" then
    (session, .error (.subscription "subscription_ssrf_blocked" false))
  else
    let answer := net.lookup session.effects host port
    let session := { session with effects := session.effects ++ [.lookup host answer] }
    match answer with
    | .osError => (session, .error (.subscription "subscription_dns_failed" true))
    | .raises name => (session, .error (.python name))
    | .records records =>
      let addresses := sortedAddresses records
      if addresses = [] ∨ ∃ address ∈ addresses, isPublicAddress libs address = false then
        (session, .error (.subscription "subscription_ssrf_blocked" false))
      else (session, .ok addresses)

/-- The addresses of a host, which is looked up unless it has been validated before. -/
def validatedAddresses (session : Session) (host : String) (port : Nat) :
    Session × Except Failure (List String) :=
  match session.validatedHosts.lookup host with
  | some addresses => (session, .ok addresses)
  | none =>
    match resolvePublicAddresses libs net session host port with
    | (session, .ok addresses) =>
      ({ session with validatedHosts := session.validatedHosts ++ [(host, addresses)] },
        .ok addresses)
    | (session, .error e) => (session, .error e)

/-- The loop over the chunks of a body. -/
def readBody (maxBodyBytes : Int) : Bytes → List Bytes → Except Failure Bytes
  | data, [] => .ok data
  | data, chunk :: chunks =>
    if maxBodyBytes < (data.length + chunk.length : Nat) then
      .error (.subscription "subscription_response_too_large" false)
    else readBody maxBodyBytes (data ++ chunk) chunks

/-- `SubscriptionError`s pass, errors of the client are translated. -/
def transferError : Transfer → Option Failure
  | .done => none
  | .timeout => some (.subscription "subscription_fetch_timeout" true)
  | .httpError => some (.subscription "subscription_fetch_failed" true)
  | .raises name => some (.python name)

/-- The body of an answer that is no redirect. -/
def receive (maxBodyBytes : Int) (response : Response) : Except Failure Bytes :=
  if response.statusCode ≠ 200 then
    .error (.subscription "subscription_upstream_http_error" (500 ≤ response.statusCode))
  else
    match readBody maxBodyBytes [] response.chunks with
    | .error e => .error e
    | .ok data =>
      match transferError response.ending with
      | some e => .error e
      | none =>
        if data = [] then .error (.subscription "subscription_response_empty" false) else .ok data

def isRedirect (statusCode : Nat) : Bool := decide (statusCode ∈ [301, 302, 303, 307, 308])

/-- A `SubscriptionError` of a redirect target rejects the redirect. -/
def redirectError : Failure → Failure
  | .subscription _ _ => .subscription "subscription_redirect_rejected" false
  | .python name => .python name

/-- The check of a redirect target before it is followed. -/
def validateTarget (session : Session) (nextUrl : String) : Session × Except Failure Unit :=
  match validateUrlShape libs nextUrl with
  | .error e => (session, .error (redirectError e))
  | .ok (parsed, port) =>
    match validatedAddresses libs net session (hostOf parsed) port with
    | (session, .ok _) => (session, .ok ())
    | (session, .error e) => (session, .error (redirectError e))

structure SubscriptionSource where
  url : String
  maxBodyBytes : Int
  redirectLimit : Int

/-- The request for a URL, after its host has been validated. -/
def prepareRequest (session : Session) (current : String) : Session × Except Failure Request :=
  match validateUrlShape libs current with
  | .error e => (session, .error e)
  | .ok (parsed, port) =>
    match validatedAddresses libs net session (hostOf parsed) port with
    | (session, .error e) => (session, .error e)
    | (session, .ok []) => (session, .error (.python "IndexError"))
    | (session, .ok (address :: _)) =>
      match requestUrl parsed address port, hostHeader parsed port with
      | .ok endpoint, .ok host =>
        let https := lower parsed.scheme = "https" ∧ hostOf parsed ≠ ""
        (session, .ok ⟨current, endpoint, host, if https then some (hostOf parsed) else none⟩)
      | .error e, _ => (session, .error e)
      | _, .error e => (session, .error e)

/-- The loop over the indexes of the redirects. -/
def fetchLoop (source : SubscriptionSource) :
    List Nat → String → Session → Session × Except Failure Bytes
  | [], _, session => (session, .error (.subscription "subscription_redirect_rejected" false))
  | redirectIndex :: indexes, current, session =>
    match prepareRequest libs net session current with
    | (session, .error e) => (session, .error e)
    | (session, .ok request) =>
      let response := net.respond session.effects request
      let session := { session with effects := session.effects ++ [.request request] }
      match transferError response.opening with
      | some e => (session, .error e)
      | none =>
        if isRedirect response.statusCode then
          if response.location = "" ∨ source.redirectLimit ≤ redirectIndex then
            (session, .error (.subscription "subscription_redirect_rejected" false))
          else
            match libs.urljoin current response.location with
            | none => (session, .error (.python "ValueError"))
            | some nextUrl =>
              match validateTarget libs net session nextUrl with
              | (session, .error e) => (session, .error e)
              | (session, .ok ()) => fetchLoop source indexes nextUrl session
        else (session, receive source.maxBodyBytes response)

def fetchSourceBytes (source : SubscriptionSource) : Session × Except Failure Bytes :=
  fetchLoop libs net source (List.range (source.redirectLimit + 1).toNat) source.url ⟨[], []⟩

end Fetch

end Grouproxy.SourceFetch
