import Mathlib.Algebra.Order.Ring.Rat
import Mathlib.Logic.Function.Basic
import Grouproxy.Library.Ipaddress
import Grouproxy.Library.SlidingWindow
import Grouproxy.Model.Bundle

/-! # The backend's rate limiter

The in-memory limiter, its periodic cleanup, and the middleware that maps requests to its keys.
The limiter's lock makes each call one step, at one clock reading. Timestamps are rationals: the
difference of a timestamp and a whole number of seconds is exact in floating point.
-/

namespace Grouproxy.RateLimit

open Grouproxy.Bundle Ipaddress SlidingWindow

/-! ## `RateLimiter` -/

/-- `_windows`: the timestamps kept under a key, if the key is present. -/
abbrev Windows : Type := String → Option (List ℚ)

def noWindows : Windows := fun _ => none

/-- Whether the request is allowed and how many remain, and the windows afterwards. -/
def checkRateLimit (windows : Windows) (now : ℚ) (key : String) (limit windowSeconds : ℤ) :
    (Bool × ℤ) × Windows :=
  let cutoff := now - windowSeconds
  let kept := ((windows key).getD []).filter fun ts => decide (cutoff < ts)
  let currentCount := kept.length
  if limit ≤ currentCount then ((false, 0), Function.update windows key (some kept))
  else
    ((true, limit - currentCount - 1), Function.update windows key (some (kept ++ [now])))

/-- `not timestamps or max(timestamps) < stale_cutoff` -/
def isStale (staleCutoff : ℚ) (timestamps : List ℚ) : Bool :=
  match timestamps.max? with
  | none => true
  | some latest => decide (latest < staleCutoff)

def cleanupOldWindows (windows : Windows) (now : ℚ) : Windows := fun key =>
  (windows key).filter fun timestamps => !isStale (now - 3600) timestamps

inductive Call where
  | check (now : ℚ) (key : String) (limit windowSeconds : ℤ)
  | cleanup (now : ℚ)

def Call.now : Call → ℚ
  | .check now _ _ _ => now
  | .cleanup now => now

/-- The answers to the calls of `check_rate_limit`, in their order. -/
def answersOf (windows : Windows) : List Call → List (Answer String ℚ)
  | [] => []
  | .check now key limit windowSeconds :: calls =>
    let answered := checkRateLimit windows now key limit windowSeconds
    ⟨now, key, answered.1.1, answered.1.2⟩ :: answersOf answered.2 calls
  | .cleanup now :: calls => answersOf (cleanupOldWindows windows now) calls

/-! ## `RateLimitMiddleware` -/

structure Request where
  path : String
  method : String
  /-- The host of `request.client`. -/
  clientHost : Option String
  authorization : Option String

/-- `(requests, window_seconds, key_type)` -/
structure RateConfig where
  limit : ℤ
  window : ℤ
  keyType : String
  deriving DecidableEq

/-- The answer of the middleware itself. -/
structure Response where
  content : String
  statusCode : ℕ
  mediaType : String
  headers : List (String × String)
  deriving DecidableEq

def clientIp (request : Request) : String := request.clientHost.getD "unknown"

def startsWith (path start : String) : Bool := start.toList.isPrefixOf path.toList

def removePrefix (text start : String) : String :=
  if startsWith text start then String.ofList (text.toList.drop start.length) else text

def tokenKey (hashes : Hashes) (authHeader : String) : String :=
  let token := strip (removePrefix authHeader "Bearer ")
  String.ofList ((hexdigest (hashes.sha256 token.toUTF8)).toList.take 16)

def rateConfig (hashes : Hashes) (request : Request) : Option RateConfig :=
  let authHeader := request.authorization.getD ""
  if startsWith request.path "/api/v1/auth/" then
    if request.path ∈ ["/api/v1/auth/login", "/api/v1/auth/register",
        "/api/v1/auth/gquan/login"] then
      some ⟨10, 60, "ip"⟩
    else if request.path = "/api/v1/auth/verification-codes" then some ⟨5, 60, "ip"⟩
    else some ⟨30, 60, "ip"⟩
  else if startsWith request.path "/api/v1/" ∧
      request.method ∈ ["POST", "PUT", "PATCH", "DELETE"] then
    if authHeader ≠ "" then some ⟨100, 60, "user:" ++ tokenKey hashes authHeader⟩
    else some ⟨20, 60, "ip"⟩
  else if startsWith request.path "/agent/v1/" then
    if authHeader ≠ "" then some ⟨1000, 60, "agent:" ++ tokenKey hashes authHeader⟩
    else some ⟨50, 60, "ip"⟩
  else none

def rateKey (clientIp : String) (config : RateConfig) : Option String :=
  if config.keyType = "ip" then some ("ip:" ++ clientIp)
  else if config.keyType = "none" then none
  else some config.keyType

def tooManyRequests (config : RateConfig) : Response where
  content := "\x7b\"detail\": \"rate_limit_exceeded\"\x7d"
  statusCode := 429
  mediaType := "application/json"
  headers := [("X-RateLimit-Limit", toString config.limit),
    ("X-RateLimit-Window", toString config.window), ("Retry-After", toString config.window)]

/-- The response of the middleware, or none where it calls the next handler. -/
def dispatch (hashes : Hashes) (windows : Windows) (now : ℚ) (request : Request) :
    Option Response × Windows :=
  match rateConfig hashes request with
  | none => (none, windows)
  | some config =>
    match rateKey (clientIp request) config with
    | none => (none, windows)
    | some key =>
      if key = "" then (none, windows)
      else
        let answered := checkRateLimit windows now key config.limit config.window
        if answered.1.1 then (none, answered.2) else (some (tooManyRequests config), answered.2)

/-- What happens to the limiter of the application: requests pass the middleware, and
`rate_limit_cleanup` cleans up. -/
inductive Event where
  | request (now : ℚ) (request : Request)
  | cleanup (now : ℚ)

def Event.now : Event → ℚ
  | .request now _ => now
  | .cleanup now => now

structure Exchange where
  time : ℚ
  request : Request
  response : Option Response

def serve (hashes : Hashes) (windows : Windows) : List Event → List Exchange
  | [] => []
  | .request now request :: events =>
    let dispatched := dispatch hashes windows now request
    ⟨now, request, dispatched.1⟩ :: serve hashes dispatched.2 events
  | .cleanup now :: events => serve hashes (cleanupOldWindows windows now) events

end Grouproxy.RateLimit
