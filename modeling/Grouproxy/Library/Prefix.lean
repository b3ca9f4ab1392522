import Mathlib.Data.List.TakeWhile
import Grouproxy.Library.AddressText

/-! # Address prefixes

`parsePrefix` and `Prefix.toString` follow Go's `net/netip`, `parseIP`, `parseCIDR` and
`networkText` the older package `net`, which has one form for an IPv4 address and
its IPv4-mapped IPv6 address.
-/

namespace Grouproxy.Netip

open Text

/-- An address and a number of leading bits. -/
structure Prefix where
  addr : Addr
  bits : Nat
  deriving DecidableEq, Repr

/-- Keeps the leading `bits` bits of an address and drops its zone. -/
def Addr.mask (bits : Nat) : Addr → Addr
  | .v4 n => .v4 (Fin.ofNat _ (n.val / 2 ^ (32 - bits) * 2 ^ (32 - bits)))
  | .v6 n _ => .v6 (Fin.ofNat _ (n.val / 2 ^ (128 - bits) * 2 ^ (128 - bits))) ""

def Prefix.masked (p : Prefix) : Prefix := ⟨p.addr.mask p.bits, p.bits⟩

/-- An address without a zone is contained in a prefix of its own family whose leading
bits it shares. -/
def Prefix.contains (p : Prefix) (a : Addr) : Bool :=
  match p.addr, a with
  | .v4 n, .v4 m => n.val / 2 ^ (32 - p.bits) == m.val / 2 ^ (32 - p.bits)
  | .v6 n _, .v6 m zone => zone == "" && n.val / 2 ^ (128 - p.bits) == m.val / 2 ^ (128 - p.bits)
  | _, _ => false

/-- A prefix of IPv4-mapped addresses becomes the IPv4 prefix it maps. -/
def Prefix.unmap (p : Prefix) : Prefix :=
  if p.addr.is4In6 then ⟨p.addr.unmap, p.bits - 96⟩ else p

/-! ## Reading and printing -/

def parsePrefix (s : String) : Option Prefix :=
  match s.toList.reverse.dropWhile (· ≠ '/') with
  | [] => none
  | _ :: rest =>
    match parseAddr (String.ofList rest.reverse),
        strictDecimal? (s.toList.reverse.takeWhile (· ≠ '/')).reverse with
    | some a, some n => if a.zone = "" ∧ n ≤ a.bitLen then some ⟨a, n⟩ else none
    | _, _ => none

def Prefix.toString (p : Prefix) : String :=
  String.ofList (p.addr.toString.toList ++ '/' :: Nat.toDigits 10 p.bits)

/-- The package `net` refuses an address with a zone. -/
def parseIP (s : String) : Option Addr :=
  match parseAddr s with
  | some a => if a.zone = "" then some a else none
  | none => none

/-- The address and the masked network; the length may be written with leading zeros. -/
def parseCIDR (s : String) : Option (Addr × Prefix) :=
  match s.toList.dropWhile (· ≠ '/') with
  | [] => none
  | _ :: mask =>
    match parseAddr (String.ofList (s.toList.takeWhile (· ≠ '/'))), decimal? mask with
    | some a, some n =>
      if a.zone = "" ∧ n ≤ a.bitLen then some (a, (Prefix.mk a n).masked) else none
    | _, _ => none

/-- How `net` prints a network. -/
def networkText (p : Prefix) : String := p.unmap.toString

/-- What rule engines match against an address: a prefix or a single address. -/
def matchesText (text : String) (a : Addr) : Bool :=
  match parsePrefix text with
  | some p => p.contains a
  | none =>
    match parseAddr text with
    | some b => b == a
    | none => false

/-! ## Reading back a printed prefix -/

theorem toList_toString_of_zone {a : Addr} (h : a.zone = "") : a.toString.toList = a.bareText := by
  simp [Addr.toString, h, zoneText]

theorem slash_notMem_bareText (a : Addr) : '/' ∉ a.bareText := by
  intro h
  rcases mem_bareText h with hc | hc | hc
  · exact absurd hc (by decide)
  · exact absurd hc (by decide)
  · exact absurd hc (by decide)

theorem slash_notMem_toDigits (n : Nat) : '/' ∉ Nat.toDigits 10 n :=
  not_mem_toDigits (by decide) n

theorem forall_ne_slash {cs : List Char} (h : '/' ∉ cs) : ∀ c ∈ cs, decide (c ≠ '/') = true := by
  intro c hc
  simp only [decide_eq_true_eq]
  intro hsame
  subst hsame
  exact h hc

theorem bits_lt_256 {a : Addr} {n : Nat} (h : n ≤ a.bitLen) : n < 256 := by
  cases a with
  | v4 m =>
      simp only [Addr.bitLen] at h
      omega
  | v6 m zone =>
      simp only [Addr.bitLen] at h
      omega

/-- Printing and then reading a prefix gives the prefix back. -/
theorem parsePrefix_toString {p : Prefix} (hz : p.addr.zone = "") (hb : p.bits ≤ p.addr.bitLen) :
    parsePrefix p.toString = some p := by
  have hall : ∀ c ∈ (Nat.toDigits 10 p.bits).reverse, decide (c ≠ '/') = true := fun c hc =>
    forall_ne_slash (slash_notMem_toDigits p.bits) c (List.mem_reverse.mp hc)
  have hrev : p.toString.toList.reverse =
      (Nat.toDigits 10 p.bits).reverse ++ '/' :: p.addr.toString.toList.reverse := by
    simp [Prefix.toString]
  rw [parsePrefix]
  rw [hrev, List.takeWhile_append_of_pos hall, List.dropWhile_append_of_pos hall]
  simp [strictDecimal?_toDigits_aux p.bits (bits_lt_256 hb), parseAddr_toString, hz, hb]

theorem parseCIDR_toString {p : Prefix} (hz : p.addr.zone = "") (hb : p.bits ≤ p.addr.bitLen) :
    parseCIDR p.toString = some (p.addr, p.masked) := by
  have htext : p.toString.toList = p.addr.bareText ++ '/' :: Nat.toDigits 10 p.bits := by
    simp [Prefix.toString, toList_toString_of_zone hz]
  have hall := forall_ne_slash (slash_notMem_bareText p.addr)
  have hback : String.ofList p.addr.bareText = p.addr.toString := by
    rw [← toList_toString_of_zone hz, String.ofList_toList]
  rw [parseCIDR]
  rw [htext, List.takeWhile_append_of_pos hall, List.dropWhile_append_of_pos hall]
  simp [hback, parseAddr_toString, hz, hb]

theorem parseIP_toString {a : Addr} (hz : a.zone = "") : parseIP a.toString = some a := by
  simp [parseIP, parseAddr_toString, hz]

theorem parsePrefix_addrText {a : Addr} (hz : a.zone = "") : parsePrefix a.toString = none := by
  have hall : ∀ c ∈ a.bareText.reverse, decide (c ≠ '/') = true := fun c hc =>
    forall_ne_slash (slash_notMem_bareText a) c (List.mem_reverse.mp hc)
  have hdrop : a.bareText.reverse.dropWhile (· ≠ '/') = [] :=
    List.dropWhile_eq_nil_iff.mpr hall
  rw [parsePrefix]
  rw [toList_toString_of_zone hz, hdrop]

theorem parsePrefix_bits_le {s : String} {p : Prefix} (h : parsePrefix s = some p) :
    p.addr.zone = "" ∧ p.bits ≤ p.addr.bitLen := by
  rw [parsePrefix] at h
  simp only at h
  split at h
  · cases h
  · split at h
    · split at h
      · rename_i hok
        cases h
        exact hok
      · cases h
    · cases h

@[simp] theorem matchesText_prefix {p : Prefix} (hz : p.addr.zone = "")
    (hb : p.bits ≤ p.addr.bitLen) (a : Addr) : matchesText p.toString a = p.contains a := by
  simp [matchesText, parsePrefix_toString hz hb]

@[simp] theorem matchesText_addr {b : Addr} (hz : b.zone = "") (a : Addr) :
    matchesText b.toString a = (b == a) := by
  simp [matchesText, parsePrefix_addrText hz, parseAddr_toString]

/-! ## IPv4-mapped addresses and prefixes -/

@[simp] theorem unmap_zone {a : Addr} (hz : a.zone = "") : a.unmap.zone = "" := by
  cases a with
  | v4 n => rfl
  | v6 n zone =>
      simp only [Addr.unmap]
      split
      · rfl
      · exact hz

theorem unmap_of_not_is4In6 {a : Addr} (h : a.is4In6 = false) : a.unmap = a := by
  cases a with
  | v4 n => rfl
  | v6 n zone =>
      simp only [Addr.is4In6, beq_eq_false_iff_ne] at h
      rw [Addr.unmap, if_neg h]

theorem unmap_unmap (a : Addr) : a.unmap.unmap = a.unmap := by
  cases a with
  | v4 n => rfl
  | v6 n zone =>
      by_cases h : n.val / 2 ^ 32 = 0xffff
      · simp only [Addr.unmap, h, if_true]
      · simp only [Addr.unmap, h, if_false]

theorem unmap_addr_zone {p : Prefix} (hz : p.addr.zone = "") : p.unmap.addr.zone = "" := by
  rw [Prefix.unmap]
  split
  · exact unmap_zone hz
  · exact hz

theorem unmap_bits_le {p : Prefix} (hb : p.bits ≤ p.addr.bitLen) :
    p.unmap.bits ≤ p.unmap.addr.bitLen := by
  rw [Prefix.unmap]
  split
  · rename_i h
    obtain ⟨a, bits⟩ := p
    cases a with
    | v4 n => simp [Addr.is4In6] at h
    | v6 n zone =>
        simp only [Addr.is4In6, beq_iff_eq] at h
        simp only [Addr.bitLen] at hb
        simp only [Addr.unmap, h, if_true, Addr.bitLen]
        omega
  · exact hb

end Grouproxy.Netip
