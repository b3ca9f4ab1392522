import Grouproxy.Library.JsonReader
import Grouproxy.Model.SingleNode

/-! # The values of an outbound

An object of the document of a link is made of parts that the inspection lets pass. Where one of its
values may be too large, the object passes together with that value.
-/

namespace Grouproxy.SingleNode

open Text hiding isSpace
open Ipaddress Value Inspection JsonReader
open Repair (Dict)

/-! ## Values of an outbound -/

section Values

/-- The depth of an outbound in its document leaves this much below it. -/
def depthBelow : Nat := 13

/-- A value at some depth of an outbound that both readers give back and the inspection lets pass. -/
structure IsSmall (depth : Nat) (value : Tree) : Prop where
  plain : IsPlain (depthBelow - depth) value
  fits : validateValue depth value = .ok ()

/-- Keys that are distinct, no more than an object may have, and each of which passes. -/
structure AreKeys (keys : List String) : Prop where
  nodup : keys.Nodup
  length : keys.length ≤ maxSubscriptionNodes
  fits : ∀ key ∈ keys, strip key ≠ "" ∧ (strip key).length ≤ maxFieldLength

/-- Some of the fields of an object, in order, and their values. -/
structure IsPart (depth : Nat) (keys : List String) (fields : Dict) : Prop where
  keys : (fields.map Prod.fst).Sublist keys
  small : ∀ f ∈ fields, IsSmall depth f.2

variable {depth : Nat} {keys keys' : List String} {fields fields' : Dict}

theorem validateItems_eq_ok {items : List Tree} :
    validateItems depth items = .ok () ↔ ∀ item ∈ items, validateValue depth item = .ok () := by
  induction items with
  | nil => simp [validateItems]
  | cons item items ih =>
      rw [validateItems, List.forall_mem_cons, ← ih]
      cases hitem : validateValue depth item with
      | error e => simp
      | ok u => simp

theorem string_eq_ok {s : String} {code : String} {t : String} :
    string (.str s) code = .ok t ↔ strip s ≠ "" ∧ (strip s).length ≤ maxFieldLength ∧ strip s = t := by
  rw [string]
  split
  · rename_i h
    simp only [reduceCtorEq, false_iff]
    rintro ⟨hne, hle, -⟩
    rcases h with h | h
    · exact hne h
    · omega
  · rename_i h
    rw [not_or] at h
    simp only [Except.ok.injEq]
    exact ⟨fun heq => ⟨h.1, Nat.le_of_not_lt h.2, heq⟩, fun heq => heq.2.2⟩

theorem validateFields_eq_ok :
    validateFields depth fields = .ok () ↔ ∀ f ∈ fields,
      (strip f.1 ≠ "" ∧ (strip f.1).length ≤ maxFieldLength) ∧ validateValue depth f.2 = .ok () := by
  induction fields with
  | nil => simp [validateFields]
  | cons f fields ih =>
      obtain ⟨key, item⟩ := f
      rw [validateFields, List.forall_mem_cons, ← ih]
      cases hkey : string (.str key) "subscription_invalid_field" with
      | error e =>
          simp only [reduceCtorEq, false_iff]
          rintro ⟨⟨⟨hne, hle⟩, -⟩, -⟩
          rw [string_eq_ok.mpr ⟨hne, hle, rfl⟩] at hkey
          cases hkey
      | ok t =>
          obtain ⟨hne, hle, -⟩ := string_eq_ok.mp hkey
          cases hitem : validateValue depth item with
          | error e => simp
          | ok u => simp [hne, hle]

theorem validateValue_str (hdepth : depth ≤ maxValueDepth) (s : String) :
    validateValue depth (.str s) = .ok () ↔ s.length ≤ maxFieldLength := by
  rw [validateValue, if_neg (Nat.not_lt.mpr hdepth)]
  split
  · simp only [reduceCtorEq, false_iff]
    omega
  · simp only [true_iff]
    omega

theorem validateValue_list (hdepth : depth ≤ maxValueDepth) (items : List Tree) :
    validateValue depth (.list items) = .ok () ↔ items.length ≤ maxSubscriptionNodes ∧
      ∀ item ∈ items, validateValue (depth + 1) item = .ok () := by
  rw [validateValue, if_neg (Nat.not_lt.mpr hdepth)]
  split
  · simp only [reduceCtorEq, false_iff]
    omega
  · rename_i h
    rw [validateItems_eq_ok]
    exact ⟨fun hitems => ⟨Nat.le_of_not_lt h, hitems⟩, fun hitems => hitems.2⟩

theorem validateValue_dict (hdepth : depth ≤ maxValueDepth) (fields : Dict) :
    validateValue depth (.dict fields) = .ok () ↔ fields.length ≤ maxSubscriptionNodes ∧
      ∀ f ∈ fields, (strip f.1 ≠ "" ∧ (strip f.1).length ≤ maxFieldLength) ∧
        validateValue (depth + 1) f.2 = .ok () := by
  rw [validateValue, if_neg (Nat.not_lt.mpr hdepth)]
  split
  · simp only [reduceCtorEq, false_iff]
    omega
  · rename_i h
    rw [validateFields_eq_ok]
    exact ⟨fun hfields => ⟨Nat.le_of_not_lt h, hfields⟩, fun hfields => hfields.2⟩

theorem validateValue_deep (hdepth : maxValueDepth < depth) (value : Tree) :
    validateValue depth value ≠ .ok () := by
  cases value <;> simp [validateValue, hdepth]

/-- The order of the keys does not matter to the inspection. -/
theorem validateValue_sorted (value : Tree) :
    validateValue depth value.sorted = .ok () ↔ validateValue depth value = .ok () := by
  induction value generalizing depth with
  | null => rfl
  | bool b => rfl
  | int n => rfl
  | float x => rfl
  | str s => rfl
  | list items ih =>
      by_cases hdepth : depth ≤ maxValueDepth
      · rw [Tree.sorted, Tree.sortedList_eq_map, validateValue_list hdepth,
          validateValue_list hdepth, List.length_map, List.forall_mem_map]
        exact and_congr_right fun _ => forall₂_congr fun item hitem => ih item hitem
      · have hdeep : maxValueDepth < depth := by omega
        exact iff_of_false (validateValue_deep hdeep _) (validateValue_deep hdeep _)
  | dict fields ih =>
      by_cases hdepth : depth ≤ maxValueDepth
      · have hperm := Tree.perm_sortKeys fields
        rw [Tree.sorted_dict, validateValue_dict hdepth, validateValue_dict hdepth,
          List.length_map, hperm.length_eq, List.forall_mem_map]
        apply and_congr_right
        intro _
        constructor
        · intro h f hf
          obtain ⟨hkey, hvalue⟩ := h f (hperm.mem_iff.mpr hf)
          exact ⟨hkey, (ih f hf).mp hvalue⟩
        · intro h f hf
          obtain ⟨hkey, hvalue⟩ := h f (hperm.mem_iff.mp hf)
          exact ⟨hkey, (ih f (hperm.mem_iff.mp hf)).mpr hvalue⟩
      · have hdeep : maxValueDepth < depth := by omega
        exact iff_of_false (validateValue_deep hdeep _) (validateValue_deep hdeep _)

theorem isSmall_str (hdepth : depth ≤ maxValueDepth) {s : String} (h : s.length ≤ maxFieldLength) :
    IsSmall depth (.str s) :=
  ⟨.str _ s, (validateValue_str hdepth s).mpr h⟩

theorem isSmall_bool (hdepth : depth ≤ maxValueDepth) (b : Bool) : IsSmall depth (.bool b) :=
  ⟨.bool _ b, by simp [validateValue, Nat.not_lt.mpr hdepth]⟩

theorem isSmall_int (hdepth : depth ≤ maxValueDepth) {n : Int} (h : n.natAbs < 2 ^ 53) :
    IsSmall depth (.int n) :=
  ⟨.int _ n h, by simp [validateValue, Nat.not_lt.mpr hdepth]⟩

/-! ## Objects made of parts -/

theorem IsPart.nil : IsPart depth [] [] := ⟨.slnil, fun f hf => by cases hf⟩

theorem IsPart.cons {key : String} {value : Tree} (hvalue : IsSmall depth value)
    (h : IsPart depth keys fields) : IsPart depth (key :: keys) ((key, value) :: fields) := by
  refine ⟨h.keys.cons_cons key, ?_⟩
  rw [List.forall_mem_cons]
  exact ⟨hvalue, h.small⟩

/-- Leaving out a key that is not always there. -/
theorem IsPart.skip (h : IsPart depth keys fields) (key : String) :
    IsPart depth (key :: keys) fields :=
  ⟨h.keys.cons key, h.small⟩

theorem IsPart.append (h : IsPart depth keys fields) (h' : IsPart depth keys' fields') :
    IsPart depth (keys ++ keys') (fields ++ fields') := by
  refine ⟨?_, ?_⟩
  · rw [List.map_append]
    exact h.keys.append h'.keys
  · rw [List.forall_mem_append]
    exact ⟨h.small, h'.small⟩

theorem isPart_optional (hdepth : depth ≤ maxValueDepth) (key : String) {value : String}
    (h : value.length ≤ maxFieldLength) : IsPart depth [key] (optional key value) := by
  rw [optional]
  split
  · exact IsPart.nil.skip key
  · exact .cons (isSmall_str hdepth h) .nil

/-- An object whose fields are parts passes together with their values. -/
theorem validateValue_part (hdepth : depth ≤ maxValueDepth) (hkeys : AreKeys keys)
    (h : (fields.map Prod.fst).Sublist keys) : validateValue depth (.dict fields) = .ok () ↔
      ∀ f ∈ fields, validateValue (depth + 1) f.2 = .ok () := by
  rw [validateValue_dict hdepth]
  have hlength := h.length_le
  rw [List.length_map] at hlength
  constructor
  · exact fun hall f hf => (hall.2 f hf).2
  · intro hall
    refine ⟨hlength.trans hkeys.length, fun f hf => ⟨?_, hall f hf⟩⟩
    exact hkeys.fits f.1 (h.subset (List.mem_map_of_mem hf))

theorem isPlain_part {plain : Nat} (hkeys : AreKeys keys)
    (h : (fields.map Prod.fst).Sublist keys) (hplain : ∀ f ∈ fields, IsPlain plain f.2) :
    IsPlain (plain + 1) (.dict fields) :=
  .dict plain fields (hkeys.nodup.sublist h) hplain

theorem isSmall_part (hdepth : depth < maxValueDepth) (hkeys : AreKeys keys)
    (h : IsPart (depth + 1) keys fields) : IsSmall depth (.dict fields) := by
  have hbelow : depthBelow - depth = depthBelow - (depth + 1) + 1 := by
    have hmax : maxValueDepth < depthBelow := by decide
    omega
  refine ⟨?_, ?_⟩
  · rw [hbelow]
    exact isPlain_part hkeys h.keys fun f hf => (h.small f hf).plain
  · rw [validateValue_part (Nat.le_of_lt hdepth) hkeys h.keys]
    exact fun f hf => (h.small f hf).fits

theorem isPlain_texts (plain : Nat) (texts : List String) :
    IsPlain (plain + 1) (.list (texts.map .str)) := by
  apply IsPlain.list
  rw [List.forall_mem_map]
  exact fun text _ => .str plain text

theorem validateValue_texts (hdepth : depth < maxValueDepth) {texts : List String}
    (h : ∀ text ∈ texts, text.length ≤ maxFieldLength) :
    validateValue depth (.list (texts.map .str)) = .ok () ↔
      texts.length ≤ maxSubscriptionNodes := by
  rw [validateValue_list (Nat.le_of_lt hdepth), List.length_map, List.forall_mem_map]
  exact and_iff_left fun text htext => (validateValue_str hdepth text).mpr (h text htext)

/-- What the document of a link has as an outbound of some kind and name. -/
structure IsNode (kind tag : String) (outbound : Dict) : Prop where
  nodup : (outbound.map Prod.fst).Nodup
  plain : ∀ f ∈ outbound, IsPlain (depthBelow - 1) f.2
  known : kind = "vless" ∨ kind = "vmess"
  typed : Value.Tree.get outbound "type" = .str kind
  tagged : Value.Tree.get? outbound "tag" = some (.str tag)
  stripped : strip tag = tag
  named : tag ≠ ""
  short : tag.length ≤ 255
  atoms : ∀ key ∈ ["tag", "server", "server_port", "uuid"],
    (Value.Tree.get outbound key).sorted = Value.Tree.get outbound key

section Around

variable {front middle back : Dict} {middleKeys : List String}

theorem sublist_around (hfront : IsPart depth keys front) (hback : IsPart depth keys' back)
    (hmiddle : (middle.map Prod.fst).Sublist middleKeys) :
    ((front ++ middle ++ back).map Prod.fst).Sublist (keys ++ middleKeys ++ keys') := by
  rw [List.map_append, List.map_append]
  exact (hfront.keys.append hmiddle).append hback.keys

/-- An object passes together with the fields between its small parts. -/
theorem validateValue_around (hdepth : depth ≤ maxValueDepth)
    (hkeys : AreKeys (keys ++ middleKeys ++ keys')) (hfront : IsPart (depth + 1) keys front)
    (hback : IsPart (depth + 1) keys' back) (hmiddle : (middle.map Prod.fst).Sublist middleKeys) :
    validateValue depth (.dict (front ++ middle ++ back)) = .ok () ↔
      ∀ f ∈ middle, validateValue (depth + 1) f.2 = .ok () := by
  rw [validateValue_part hdepth hkeys (sublist_around hfront hback hmiddle), List.forall_mem_append,
    List.forall_mem_append]
  constructor
  · exact fun h => h.1.2
  · exact fun h => ⟨⟨fun f hf => (hfront.small f hf).fits, h⟩, fun f hf => (hback.small f hf).fits⟩

theorem isPlain_around (hfront : IsPart depth keys front) (hback : IsPart depth keys' back)
    (hmiddle : ∀ f ∈ middle, IsPlain (depthBelow - depth) f.2) :
    ∀ f ∈ front ++ middle ++ back, IsPlain (depthBelow - depth) f.2 := by
  rw [List.forall_mem_append, List.forall_mem_append]
  exact ⟨⟨fun f hf => (hfront.small f hf).plain, hmiddle⟩, fun f hf => (hback.small f hf).plain⟩

end Around

end Values

end Grouproxy.SingleNode
