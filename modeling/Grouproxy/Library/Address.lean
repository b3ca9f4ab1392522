import Mathlib.Algebra.GroupWithZero.Nat
import Grouproxy.Library.Text

/-! # Internet addresses and their text

`parseAddr` and `Addr.toString` follow Go's `net/netip`: one textual form is
printed for every address, while the reader also takes upper-case digits,
leading zeros in a group and any admissible position of the ellipsis.
-/

namespace Grouproxy.Netip

open Text

instance neZero_two_pow_32 : NeZero (2 ^ 32) := ⟨Nat.ne_of_gt (Nat.two_pow_pos 32)⟩

instance neZero_two_pow_128 : NeZero (2 ^ 128) := ⟨Nat.ne_of_gt (Nat.two_pow_pos 128)⟩

/-- An address of either family. An empty zone is an address without a zone. -/
inductive Addr where
  | v4 (n : Fin (2 ^ 32))
  | v6 (n : Fin (2 ^ 128)) (zone : String)
  deriving DecidableEq, Repr

def Addr.zone : Addr → String
  | .v4 _ => ""
  | .v6 _ zone => zone

def Addr.bitLen : Addr → Nat
  | .v4 _ => 32
  | .v6 _ _ => 128

def Addr.toNat : Addr → Nat
  | .v4 n => n
  | .v6 n _ => n

/-- Whether an address is an IPv4-mapped IPv6 address, that is in `::ffff:0:0/96`. -/
def Addr.is4In6 : Addr → Bool
  | .v4 _ => false
  | .v6 n _ => n.val / 2 ^ 32 == 0xffff

/-- An IPv4-mapped address becomes the IPv4 address it maps; the zone is dropped. -/
def Addr.unmap : Addr → Addr
  | .v4 n => .v4 n
  | .v6 n zone => if n.val / 2 ^ 32 = 0xffff then .v4 (Fin.ofNat _ n.val) else .v6 n zone

/-! ## Reading -/

def parseOctet (cs : List Char) : Option Nat :=
  match strictDecimal? cs with
  | some n => if n ≤ 255 then some n else none
  | none => none

/-- Four decimal octets separated by dots. -/
def parseIPv4Fields (cs : List Char) : Option Nat :=
  match cs.splitOn '.' with
  | [a, b, c, d] =>
    match parseOctet a, parseOctet b, parseOctet c, parseOctet d with
    | some a, some b, some c, some d => some (((a * 256 + b) * 256 + c) * 256 + d)
    | _, _, _, _ => none
  | _ => none

/-- The loop of `parseIPv6`: `groups` are the groups read so far, `ellipsis` is the
position of `::` among them and `fuel` more groups fit. -/
def parseGroups : Nat → List Nat → Option Nat → List Char →
    Option (List Nat × Option Nat × List Char)
  | 0, groups, ellipsis, s => some (groups, ellipsis, s)
  | fuel + 1, groups, ellipsis, s =>
    let digits := s.takeWhile isHex
    if digits = [] ∨ 4 < digits.length then none
    else
      let groups' := groups ++ [hexNumber digits]
      match s.dropWhile isHex with
      | [] => some (groups', ellipsis, [])
      | '.' :: _ =>
        -- An embedded IPv4 address replaces the last two groups.
        if (ellipsis = none ∧ groups.length ≠ 6) ∨ 8 < groups.length + 2 then none
        else (parseIPv4Fields s).map fun n =>
          (groups ++ [n / 65536, n % 65536], ellipsis, [])
      | ':' :: [] => none
      | ':' :: ':' :: tail =>
        if ellipsis.isSome then none
        else if tail = [] then some (groups', some groups'.length, [])
        else parseGroups fuel groups' (some groups'.length) tail
      | ':' :: tail => parseGroups fuel groups' ellipsis tail
      | _ => none

/-- Checks that the text is used up and replaces the ellipsis by zero groups. -/
def expandGroups : List Nat × Option Nat × List Char → Option (List Nat)
  | (groups, ellipsis, s) =>
    if s ≠ [] then none
    else if groups.length < 8 then
      ellipsis.map fun e =>
        groups.take e ++ List.replicate (8 - groups.length) 0 ++ groups.drop e
    else if ellipsis.isSome then none
    else some groups

def parseIPv6Groups (s : List Char) : Option (List Nat) :=
  match s with
  | ':' :: ':' :: tail =>
    if tail = [] then some (List.replicate 8 0)
    else (parseGroups 8 [] (some 0) tail).bind expandGroups
  | _ => (parseGroups 8 [] none s).bind expandGroups

/-- Eight groups, most significant first, as one number. -/
def ofGroups (gs : List Nat) : Nat :=
  gs.foldl (fun acc g => 65536 * acc + g) 0

def parseIPv6 (s : List Char) : Option Addr :=
  let text := s.takeWhile (· ≠ '%')
  let zone := (s.dropWhile (· ≠ '%')).drop 1
  if '%' ∈ s ∧ zone = [] then none
  else (parseIPv6Groups text).map fun gs =>
    .v6 (Fin.ofNat _ (ofGroups gs)) (String.ofList zone)

/-- The first of the characters `.`, `:` and `%` decides the family. -/
def parseAddr (s : String) : Option Addr :=
  match s.toList.find? (fun c => c == '.' || c == ':' || c == '%') with
  | some '.' => (parseIPv4Fields s.toList).map fun n => .v4 (Fin.ofNat _ n)
  | some ':' => parseIPv6 s.toList
  | _ => none

/-! ## Printing -/

def octets (n : Nat) : List Nat :=
  [n / 2 ^ 24 % 256, n / 2 ^ 16 % 256, n / 2 ^ 8 % 256, n % 256]

def groups (n : Nat) : List Nat :=
  [n / 2 ^ 112 % 65536, n / 2 ^ 96 % 65536, n / 2 ^ 80 % 65536, n / 2 ^ 64 % 65536,
    n / 2 ^ 48 % 65536, n / 2 ^ 32 % 65536, n / 2 ^ 16 % 65536, n % 65536]

def ipv4Text (n : Nat) : List Char :=
  ['.'].intercalate ((octets n).map (Nat.toDigits 10))

def joinGroups (gs : List Nat) : List Char :=
  [':'].intercalate (gs.map hexText)

def zeroRun (gs : List Nat) : Nat :=
  (gs.takeWhile (· == 0)).length

/-- Start and length of the first longest run of at least two zero groups among the
first `count` starting positions; the length is zero if there is none. -/
def longestZeroRun (gs : List Nat) : Nat → Nat × Nat
  | 0 => (0, 0)
  | count + 1 =>
    let best := longestZeroRun gs count
    let l := zeroRun (gs.drop count)
    if 2 ≤ l ∧ best.2 < l then (count, l) else best

/-- The longest run of zero groups is written as `::`. -/
def groupsText (gs : List Nat) : List Char :=
  let run := longestZeroRun gs 8
  if run.2 = 0 then joinGroups gs
  else joinGroups (gs.take run.1) ++ ':' :: ':' :: joinGroups (gs.drop (run.1 + run.2))

def zoneText (zone : String) : List Char :=
  if zone = "" then [] else '%' :: zone.toList

/-- The text of an address without its zone. -/
def Addr.bareText : Addr → List Char
  | .v4 n => ipv4Text n
  | .v6 n _ =>
    if n.val / 2 ^ 32 = 0xffff then "::ffff:".toList ++ ipv4Text n
    else groupsText (groups n)

def Addr.toString (a : Addr) : String :=
  String.ofList (a.bareText ++ zoneText a.zone)

end Grouproxy.Netip
