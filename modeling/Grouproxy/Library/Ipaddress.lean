import Grouproxy.Library.Prefix

/-! # Python's `ipaddress`

Reading and printing of addresses and networks as the module does it up to Python 3.12.
Unlike `net/netip` it prints an IPv4-mapped address in hexadecimal groups and keeps the
scope of a network address.
-/

namespace Grouproxy.Ipaddress

open Text Netip

/-! ## White space -/

/-- `str.isspace` also holds of the four ASCII separators. -/
def isSpace (c : Char) : Bool := Text.isSpace c || (0x1c ≤ c.toNat && c.toNat ≤ 0x1f)

def strip (s : String) : String := String.ofList (trimBy isSpace s.toList)

theorem strip_eq_self {s : String} (hhead : ∀ c ∈ s.toList.head?, isSpace c = false)
    (hlast : ∀ c ∈ s.toList.getLast?, isSpace c = false) : strip s = s := by
  rw [strip, trimBy_of_ends hhead hlast, String.ofList_toList]

theorem strip_strip (s : String) : strip (strip s) = strip s := by
  apply strip_eq_self
  · intro c hc
    rw [strip, String.toList_ofList] at hc
    exact head?_trimBy c hc
  · intro c hc
    rw [strip, String.toList_ofList] at hc
    exact getLast?_trimBy c hc

theorem length_strip_le (s : String) : (strip s).toList.length ≤ s.toList.length := by
  rw [strip, String.toList_ofList]
  exact length_trimBy_le isSpace s.toList

/-! ## Addresses -/

def parseOctet (cs : List Char) : Option Nat :=
  if cs = [] ∨ ¬ cs.all Char.isDigit ∨ 3 < cs.length ∨ (cs ≠ ['0'] ∧ cs.head? = some '0') then none
  else if 255 < Nat.ofDigitChars 10 cs 0 then none
  else some (Nat.ofDigitChars 10 cs 0)

def ipv4Int? (cs : List Char) : Option Nat :=
  match (cs.splitOn '.').map parseOctet with
  | [some a, some b, some c, some d] => some (((a * 256 + b) * 256 + c) * 256 + d)
  | _ => none

def parseHextet (cs : List Char) : Option Nat :=
  if ¬ cs.all isHex ∨ 4 < cs.length ∨ cs = [] then none else some (hexNumber cs)

def parseHextets (parts : List (List Char)) : Option (List Nat) :=
  parts.foldr (fun part rest =>
    match parseHextet part, rest with
    | some n, some ns => some (n :: ns)
    | _, _ => none) (some [])

/-- An IPv4 suffix is rewritten to two hexadecimal groups. -/
def expandSuffix (parts : List (List Char)) : Option (List (List Char)) :=
  match parts.getLast? with
  | some last =>
    if '.' ∈ last then
      (ipv4Int? last).map fun n => parts.dropLast ++ [hexText (n / 65536), hexText (n % 65536)]
    else some parts
  | none => none

/-- The positions strictly between the ends whose part is empty. -/
def skipIndices (parts : List (List Char)) : List Nat :=
  (List.range parts.length).filter fun i =>
    1 ≤ i && i + 1 < parts.length && parts[i]? == some []

/-- The groups of an address text that is split at its colons. -/
def ipv6Groups? (parts : List (List Char)) : Option (List Nat) :=
  if 9 < parts.length then none
  else
    match skipIndices parts with
    | [] =>
      if parts.length ≠ 8 ∨ parts.head? = some [] ∨ parts.getLast? = some [] then none
      else parseHextets parts
    | [skip] =>
      let leading := parts.head? = some []
      let trailing := parts.getLast? = some []
      -- An empty part at an end belongs to the ellipsis.
      let hi := if leading then skip - 1 else skip
      let lo := if trailing then parts.length - skip - 2 else parts.length - skip - 1
      if (leading ∧ hi ≠ 0) ∨ (trailing ∧ lo ≠ 0) ∨ 8 ≤ hi + lo then none
      else
        match parseHextets (parts.take hi), parseHextets (parts.drop (parts.length - lo)) with
        | some high, some low => some (high ++ List.replicate (8 - (hi + lo)) 0 ++ low)
        | _, _ => none
    | _ => none

def ipv6Int? (cs : List Char) : Option Nat :=
  if (cs.splitOn ':').length < 3 then none
  else ((expandSuffix (cs.splitOn ':')).bind ipv6Groups?).map ofGroups

/-- The text before the first `%` and the scope, which may hold no second one. -/
def splitScopeId (cs : List Char) : Option (List Char × String) :=
  match cs.dropWhile (· ≠ '%') with
  | [] => some (cs, "")
  | _ :: scope =>
    if scope = [] ∨ '%' ∈ scope then none
    else some (cs.takeWhile (· ≠ '%'), String.ofList scope)

def ipv4Address (cs : List Char) : Option Addr :=
  if '/' ∈ cs then none else (ipv4Int? cs).map fun n => .v4 (Fin.ofNat _ n)

def ipv6Address (cs : List Char) : Option Addr :=
  if '/' ∈ cs then none
  else
    match splitScopeId cs with
    | none => none
    | some (text, scope) => (ipv6Int? text).map fun n => .v6 (Fin.ofNat _ n) scope

def ipAddress (s : String) : Option Addr :=
  ipv4Address s.toList <|> ipv6Address s.toList

/-- `str` of an address. -/
def addressText (a : Addr) : List Char :=
  match a with
  | .v4 n => ipv4Text n
  | .v6 n scope => groupsText (groups n) ++ zoneText scope

/-! ## Networks -/

def prefixFromString (limit : Nat) (cs : List Char) : Option Nat :=
  match decimal? cs with
  | some n => if n ≤ limit then some n else none
  | none => none

def countRighthandZeroBits : Nat → Nat → Nat
  | 0, _ => 0
  | bits + 1, n => if n % 2 = 1 then 0 else countRighthandZeroBits bits (n / 2) + 1

def prefixFromInt (n : Nat) : Option Nat :=
  let zeros := countRighthandZeroBits 32 n
  if n / 2 ^ zeros = 2 ^ (32 - zeros) - 1 then some (32 - zeros) else none

/-- A netmask or, failing that, a host mask. -/
def prefixFromMask (cs : List Char) : Option Nat :=
  match ipv4Int? cs with
  | none => none
  | some n => prefixFromInt n <|> prefixFromInt (2 ^ 32 - 1 - n)

/-- Clears the host bits. An address without host bits keeps its scope. -/
def networkOf (a : Addr) (bits : Nat) : Prefix :=
  match a with
  | .v4 n => ⟨(Addr.v4 n).mask bits, bits⟩
  | .v6 n scope =>
    if (Addr.v6 n "").mask bits = .v6 n "" then ⟨.v6 n scope, bits⟩
    else ⟨(Addr.v6 n "").mask bits, bits⟩

def ipv4Network (parts : List (List Char)) : Option Prefix :=
  match parts with
  | [addr] => (ipv4Address addr).map fun a => networkOf a 32
  | [addr, mask] =>
    match ipv4Address addr, prefixFromString 32 mask <|> prefixFromMask mask with
    | some a, some bits => some (networkOf a bits)
    | _, _ => none
  | _ => none

def ipv6Network (parts : List (List Char)) : Option Prefix :=
  match parts with
  | [addr] => (ipv6Address addr).map fun a => networkOf a 128
  | [addr, mask] =>
    match ipv6Address addr, prefixFromString 128 mask with
    | some a, some bits => some (networkOf a bits)
    | _, _ => none
  | _ => none

/-- `ip_network(s, strict=False)`. -/
def ipNetwork (s : String) : Option Prefix :=
  ipv4Network (s.toList.splitOn '/') <|> ipv6Network (s.toList.splitOn '/')

def networkText (p : Prefix) : List Char :=
  addressText p.addr ++ '/' :: Nat.toDigits 10 p.bits

/-- `a in p`: the versions are equal and the masked numbers are. Scopes are not compared. -/
def inNetwork (a : Addr) (p : Prefix) : Bool :=
  match p.addr, a with
  | .v4 n, .v4 m => (Addr.v4 m).mask p.bits == .v4 n
  | .v6 n _, .v6 m _ => (Addr.v6 m "").mask p.bits == .v6 n ""
  | _, _ => false

end Grouproxy.Ipaddress
