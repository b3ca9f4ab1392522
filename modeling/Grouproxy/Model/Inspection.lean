import Grouproxy.Library.Ipaddress
import Grouproxy.Library.Tree
import Grouproxy.Model.Subscription

/-! # The backend's inspection of a subscription

A content is accepted with its format and the number of its nodes. The readers and the
normalization of a single-node link are parameters.
-/

namespace Grouproxy.Inspection

open Text Value Ipaddress

/-- A `SubscriptionError` with its code, or an exception that nothing here catches. -/
inductive Refusal where
  | subscription (code : String)
  | python (name : String)
  deriving DecidableEq

def maxSubscriptionNodes : Nat := 128

def maxFieldLength : Nat := 8192

def maxValueDepth : Nat := 12

def supportedOutboundTypes : List String :=
  ["anytls", "http", "hysteria2", "shadowsocks", "socks", "ssh", "trojan", "tuic", "vless",
    "vmess", "wireguard"]

def controlOutboundTypes : List String := ["block", "direct", "dns", "selector", "urltest"]

def reservedOutboundTags : List String := ["block", "direct", "subscription"]

/-! ## Python values -/

/-- `str.lower`, exact where the result is ASCII: the Kelvin sign is the only character outside
ASCII whose lower case is an ASCII letter, and that of the dotted capital I has a second one. -/
def lowerChars (c : Char) : List Char :=
  if c.toNat = 0x130 then ['i', Char.ofNat 0x307]
  else if c.toNat = 0x212a then ['k']
  else [c.toLower]

def lower (s : String) : String := String.ofList (s.toList.flatMap lowerChars)

/-- The zeros of the decimal digits of Unicode. -/
def digitZeros : List Nat :=
  [0x30, 0x660, 0x6f0, 0x7c0, 0x966, 0x9e6, 0xa66, 0xae6, 0xb66, 0xbe6, 0xc66, 0xce6, 0xd66, 0xde6,
    0xe50, 0xed0, 0xf20, 0x1040, 0x1090, 0x17e0, 0x1810, 0x1946, 0x19d0, 0x1a80, 0x1a90, 0x1b50,
    0x1bb0, 0x1c40, 0x1c50, 0xa620, 0xa8d0, 0xa900, 0xa9d0, 0xa9f0, 0xaa50, 0xabf0, 0xff10, 0x104a0,
    0x10d30, 0x11066, 0x110f0, 0x11136, 0x111d0, 0x112f0, 0x11450, 0x114d0, 0x11650, 0x116c0,
    0x11730, 0x118e0, 0x11950, 0x11c50, 0x11d50, 0x11da0, 0x11f50, 0x16a60, 0x16ac0, 0x16b50,
    0x1d7ce, 0x1d7d8, 0x1d7e2, 0x1d7ec, 0x1d7f6, 0x1e140, 0x1e2f0, 0x1e4f0, 0x1e950, 0x1fbf0]

def digit? (c : Char) : Option Nat :=
  (digitZeros.find? fun start => start ≤ c.toNat && c.toNat < start + 10).map fun start =>
    c.toNat - start

/-- Digits with single underscores between them. -/
def digits? (cs : List Char) : Option Nat :=
  let parts := cs.splitOn '_'
  if parts.any List.isEmpty then none
  else (parts.flatten.mapM digit?).map fun digits => digits.foldl (fun n d => 10 * n + d) 0

/-- `int(text)` of a text that is not too long. -/
def intOfText (text : String) : Option Int :=
  match (strip text).toList with
  | '-' :: cs => (digits? cs).map fun n => -(n : Int)
  | '+' :: cs => (digits? cs).map fun n => (n : Int)
  | cs => (digits? cs).map fun n => (n : Int)

/-- `int(text, 10)`, which takes at most 4300 digits. -/
def intOfDigits (text : String) : Option Int :=
  if 4300 < (text.toList.filter fun c => (digit? c).isSome).length then none else intOfText text

/-- `int(value)`; an infinite number raises another exception than a value of another type. -/
def intOf : Tree → Except Refusal (Option Int)
  | .int n => .ok (some n)
  | .float x => if x.sprint = "+Inf" ∨ x.sprint = "-Inf" then .error (.python "OverflowError")
    else .ok (Tree.truncated x)
  | .str s => .ok (intOfDigits s)
  | _ => .ok none

/-- `bool(value)` -/
def isTruthy : Tree → Bool
  | .null => false
  | .bool b => b
  | .int n => n ≠ 0
  | .float x => x.toInt? ≠ some 0
  | .str s => s ≠ ""
  | .list items => !items.isEmpty
  | .dict fields => !fields.isEmpty

/-! ## Fields -/

def mapping (value : Tree) (code : String) : Except Refusal (List (String × Tree)) :=
  match value with
  | .dict fields => .ok fields
  | _ => .error (.subscription code)

/-- `_string` with `required=True`, which is how the formats call it. -/
def string (value : Tree) (code : String) : Except Refusal String :=
  match value with
  | .str s => if strip s = "" ∨ maxFieldLength < (strip s).length then .error (.subscription code)
    else .ok (strip s)
  | _ => .error (.subscription code)

def port (value : Tree) (code : String) : Except Refusal Int := do
  match value with
  | .bool _ => .error (.subscription code)
  | _ =>
    match ← intOf value with
    | none => .error (.subscription code)
    | some n => if n < 1 ∨ 65535 < n then .error (.subscription code) else .ok n

mutual
def validateValue (depth : Nat) : Tree → Except Refusal Unit
  | .str s =>
    if maxValueDepth < depth then .error (.subscription "subscription_value_too_deep")
    else if maxFieldLength < s.length then .error (.subscription "subscription_field_too_long")
    else .ok ()
  | .list items =>
    if maxValueDepth < depth then .error (.subscription "subscription_value_too_deep")
    else if maxSubscriptionNodes < items.length then
      .error (.subscription "subscription_value_too_large")
    else validateItems (depth + 1) items
  | .dict fields =>
    if maxValueDepth < depth then .error (.subscription "subscription_value_too_deep")
    else if maxSubscriptionNodes < fields.length then
      .error (.subscription "subscription_value_too_large")
    else validateFields (depth + 1) fields
  | _ =>
    if maxValueDepth < depth then .error (.subscription "subscription_value_too_deep") else .ok ()
def validateItems (depth : Nat) : List Tree → Except Refusal Unit
  | [] => .ok ()
  | item :: items =>
    match validateValue depth item with
    | .error e => .error e
    | .ok () => validateItems depth items
def validateFields (depth : Nat) : List (String × Tree) → Except Refusal Unit
  | [] => .ok ()
  | (key, item) :: fields =>
    match string (.str key) "subscription_invalid_field" with
    | .error e => .error e
    | .ok _ =>
      match validateValue depth item with
      | .error e => .error e
      | .ok () => validateFields depth fields
end

end Grouproxy.Inspection
