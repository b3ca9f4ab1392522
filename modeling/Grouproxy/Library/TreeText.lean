import Mathlib.Algebra.GroupWithZero.Nat
import Mathlib.Data.List.Sort
import Grouproxy.Library.Entries
import Grouproxy.Library.Json
import Grouproxy.Library.Tree

/-! # The JSON text of a document

`json.dumps` with sorted keys writes a tree without its order of keys. A document whose keys are
distinct is the same mapping after its keys are sorted. A JSON value is a document without other
numbers than its integers.
-/

namespace Grouproxy.Value

open Text Encoding Entries

namespace Tree

mutual
/-- `json.dumps(value, ensure_ascii=False, sort_keys=True, separators=(",", ":"))` -/
def dumps : Tree → List Char
  | .null => "null".toList
  | .bool b => boolText b
  | .int n => intText n
  | .float x => x.json.toList
  | .str s => quoteWith pythonEscape s
  | .list items => arrayText (dumpsList items)
  | .dict fields => objectText pythonEscape codePointLe (dumpsFields fields)
def dumpsList : List Tree → List (List Char)
  | [] => []
  | item :: items => dumps item :: dumpsList items
def dumpsFields : List (String × Tree) → List (String × List Char)
  | [] => []
  | (key, value) :: fields => (key, dumps value) :: dumpsFields fields
end

/-- The members of a mapping in the order of `sort_keys`. -/
def sortKeys {α : Type} (fields : List (String × α)) : List (String × α) :=
  fields.insertionSort fun a b => codePointLe a.1 b.1 = true

mutual
/-- The tree with the keys of every mapping sorted. -/
def sorted : Tree → Tree
  | .null => .null
  | .bool b => .bool b
  | .int n => .int n
  | .float x => .float x
  | .str s => .str s
  | .list items => .list (sortedList items)
  | .dict fields => .dict (sortKeys (sortedFields fields))
def sortedList : List Tree → List Tree
  | [] => []
  | item :: items => sorted item :: sortedList items
def sortedFields : List (String × Tree) → List (String × Tree)
  | [] => []
  | (key, value) :: fields => (key, sorted value) :: sortedFields fields
end

theorem sortedList_eq_map (items : List Tree) : sortedList items = items.map sorted := by
  induction items with
  | nil => rfl
  | cons item items ih => rw [sortedList, ih, List.map_cons]

theorem sortedFields_eq_map (fields : List (String × Tree)) :
    sortedFields fields = fields.map fun f => (f.1, sorted f.2) := by
  induction fields with
  | nil => rfl
  | cons f fields ih =>
      obtain ⟨key, value⟩ := f
      rw [sortedFields, ih, List.map_cons]

theorem perm_sortKeys {α : Type} (fields : List (String × α)) : (sortKeys fields).Perm fields :=
  List.perm_insertionSort _ _

/-- A mapping with distinct keys reads the same in any order. -/
theorem get?_eq_of_perm {fields others : List (String × Tree)} (h : fields.Perm others)
    (hnodup : (fields.map Prod.fst).Nodup) (key : String) : get? fields key = get? others key :=
  lookup_eq_of_perm hnodup h

/-- Reading a field of a sorted mapping. -/
theorem get?_sorted {fields : List (String × Tree)} (h : (fields.map Prod.fst).Nodup)
    (key : String) : get? (sortKeys (sortedFields fields)) key = (get? fields key).map sorted := by
  have hfst : ((sortedFields fields).map Prod.fst) = fields.map Prod.fst := by
    rw [sortedFields_eq_map, List.map_map]
    rfl
  have hsorted : ((sortKeys (sortedFields fields)).map Prod.fst).Nodup := by
    rw [((perm_sortKeys _).map Prod.fst).nodup_iff, hfst]
    exact h
  rw [get?_eq_of_perm (perm_sortKeys _) hsorted, sortedFields_eq_map]
  induction fields with
  | nil => rfl
  | cons f fields ih =>
      obtain ⟨k, v⟩ := f
      rw [List.map_cons, get?_cons, get?_cons]
      split
      · rfl
      · rw [List.map_cons, List.nodup_cons] at h
        apply ih h.2
        · rw [sortedFields_eq_map, List.map_map]
          rfl
        · rw [((perm_sortKeys _).map Prod.fst).nodup_iff, sortedFields_eq_map, List.map_map]
          exact h.2

theorem get_sorted {fields : List (String × Tree)} (h : (fields.map Prod.fst).Nodup)
    (key : String) : get (sortKeys (sortedFields fields)) key = (get fields key).sorted := by
  rw [get, get?_sorted h, get]
  cases get? fields key with
  | none => rfl
  | some value => rfl

/-- Sorting by key commutes with a change of the values. -/
theorem sortKeys_map {α β : Type} (f : String → α → β) (fields : List (String × α)) :
    sortKeys (fields.map fun field => (field.1, f field.1 field.2)) =
      (sortKeys fields).map fun field => (field.1, f field.1 field.2) := by
  rw [sortKeys, sortKeys]
  refine Eq.symm ?_
  exact List.map_insertionSort (fun a b : String × α => codePointLe a.1 b.1 = true)
    (fun a b : String × β => codePointLe a.1 b.1 = true)
    (fun field : String × α => (field.1, f field.1 field.2)) fields fun _ _ _ _ => Iff.rfl

/-! ## The size of the text -/

theorem length_pythonEscape_le (c : Char) : (pythonEscape c).length ≤ 6 := by
  have hcontrol : ∀ escaped ∈ controlEscape? c, escaped.length ≤ 6 := by
    rw [controlEscape?]
    split_ifs <;> simp
  rw [pythonEscape]
  cases h : controlEscape? c with
  | none => simp
  | some escaped => exact hcontrol escaped h

theorem length_quoteWith_le (s : String) :
    (quoteWith pythonEscape s).length ≤ 6 * s.utf8ByteSize + 2 := by
  have hescaped : ∀ cs : List Char, (cs.flatMap pythonEscape).length ≤ 6 * cs.length := by
    intro cs
    induction cs with
    | nil => simp
    | cons c cs ih =>
        have hchar := length_pythonEscape_le c
        rw [List.flatMap_cons, List.length_append, List.length_cons]
        omega
  have hsize := length_le_utf8ByteSize s.toList
  rw [String.ofList_toList] at hsize
  have hle := hescaped s.toList
  rw [quoteWith, List.cons_append, List.length_cons, List.length_append, List.length_singleton]
  omega

theorem length_intercalate_le (sep : Char) (parts : List (List Char)) :
    ([sep].intercalate parts).length ≤ (parts.map fun part => part.length + 1).sum := by
  induction parts with
  | nil => simp
  | cons part parts ih =>
      rw [List.map_cons, List.sum_cons]
      cases parts with
      | nil => simp
      | cons next parts =>
          rw [List.intercalate_cons_cons, List.length_append, List.length_append,
            List.length_singleton]
          omega

mutual
/-- A bound of the length of the text, from the sizes of its strings. -/
def textBound : Tree → Nat
  | .null => 4
  | .bool _ => 5
  | .int n => (intText n).length
  | .float x => x.json.toList.length
  | .str s => 6 * s.utf8ByteSize + 2
  | .list items => listBound items + 2
  | .dict fields => fieldsBound fields + 2
def listBound : List Tree → Nat
  | [] => 0
  | item :: items => textBound item + 1 + listBound items
def fieldsBound : List (String × Tree) → Nat
  | [] => 0
  | (key, value) :: fields => 6 * key.utf8ByteSize + textBound value + 4 + fieldsBound fields
end

theorem fieldsBound_eq_sum (fields : List (String × Tree)) : fieldsBound fields =
    (fields.map fun f => 6 * f.1.utf8ByteSize + textBound f.2 + 4).sum := by
  induction fields with
  | nil => rfl
  | cons f fields ih =>
      obtain ⟨key, value⟩ := f
      rw [fieldsBound, ih, List.map_cons, List.sum_cons]

theorem length_dumps_le (tree : Tree) : tree.dumps.length ≤ tree.textBound := by
  induction tree with
  | null => simp [dumps, textBound]
  | bool b => cases b <;> simp [dumps, textBound, boolText]
  | int n => simp [dumps, textBound]
  | float x => simp [dumps, textBound]
  | str s => exact length_quoteWith_le s
  | list items ih =>
      have hparts : ((dumpsList items).map fun part => part.length + 1).sum ≤ listBound items := by
        induction items with
        | nil => simp [dumpsList]
        | cons item items ihItems =>
            have hitem := ih item List.mem_cons_self
            have hitems := ihItems fun other hother => ih other (List.mem_cons_of_mem item hother)
            rw [dumpsList, List.map_cons, List.sum_cons, listBound]
            omega
      have hjoined := length_intercalate_le ',' (dumpsList items)
      rw [dumps, arrayText, List.cons_append, List.length_cons, List.length_append,
        List.length_singleton, textBound]
      omega
  | dict fields ih =>
      have hparts : ((dumpsFields fields).map fun m =>
          (quoteWith pythonEscape m.1 ++ ':' :: m.2).length + 1).sum ≤ fieldsBound fields := by
        induction fields with
        | nil => simp [dumpsFields]
        | cons f fields ihFields =>
            obtain ⟨key, value⟩ := f
            have hvalue := ih (key, value) List.mem_cons_self
            have hfields := ihFields fun other hother => ih other (List.mem_cons_of_mem _ hother)
            have hkey := length_quoteWith_le key
            dsimp only at hvalue
            rw [dumpsFields, List.map_cons, List.sum_cons, fieldsBound, List.length_append,
              List.length_cons]
            dsimp only
            omega
      have hsorted := ((List.perm_insertionSort (fun a b : String × List Char =>
        codePointLe a.1 b.1 = true) (dumpsFields fields)).map fun m =>
          (quoteWith pythonEscape m.1 ++ ':' :: m.2).length + 1).sum_nat
      have hjoined := length_intercalate_le ',' (((dumpsFields fields).insertionSort
        fun a b => codePointLe a.1 b.1 = true).map fun m =>
          quoteWith pythonEscape m.1 ++ ':' :: m.2)
      rw [List.map_map] at hjoined
      rw [dumps, objectText, List.cons_append, List.length_cons, List.length_append,
        List.length_singleton, textBound]
      have hsum := le_trans hjoined (le_trans (le_of_eq hsorted) hparts)
      omega

/-- The bound does not depend on the order of the keys. -/
theorem textBound_sorted (tree : Tree) : tree.sorted.textBound = tree.textBound := by
  induction tree with
  | null => rfl
  | bool b => rfl
  | int n => rfl
  | float x => rfl
  | str s => rfl
  | list items ih =>
      have hitems : listBound (sortedList items) = listBound items := by
        induction items with
        | nil => rfl
        | cons item items ihItems =>
            rw [sortedList, listBound, listBound, ih item List.mem_cons_self,
              ihItems fun other hother => ih other (List.mem_cons_of_mem item hother)]
      rw [sorted, textBound, textBound, hitems]
  | dict fields ih =>
      have hfields : fieldsBound (sortedFields fields) = fieldsBound fields := by
        induction fields with
        | nil => rfl
        | cons f fields ihFields =>
            obtain ⟨key, value⟩ := f
            have hvalue := ih (key, value) List.mem_cons_self
            rw [sortedFields, fieldsBound, fieldsBound, hvalue,
              ihFields fun other hother => ih other (List.mem_cons_of_mem _ hother)]
      have hsorted := ((perm_sortKeys (sortedFields fields)).map fun f =>
        6 * f.1.utf8ByteSize + textBound f.2 + 4).sum_nat
      rw [← fieldsBound_eq_sum, ← fieldsBound_eq_sum] at hsorted
      rw [sorted, textBound, textBound, hsorted, hfields]

/-! ## JSON values as documents -/

mutual
/-- The document that a JSON value is read as. -/
def ofJson : Json → Tree
  | .null => .null
  | .bool b => .bool b
  | .int n => .int n.val
  | .str s => .str s
  | .arr items => .list (ofJsonList items)
  | .obj fields => .dict (ofJsonFields fields)
def ofJsonList : List Json → List Tree
  | [] => []
  | item :: items => ofJson item :: ofJsonList items
def ofJsonFields : List (String × Json) → List (String × Tree)
  | [] => []
  | (key, value) :: fields => (key, ofJson value) :: ofJsonFields fields
end

theorem ofJsonFields_eq_map (fields : List (String × Json)) :
    ofJsonFields fields = fields.map fun f => (f.1, ofJson f.2) := by
  induction fields with
  | nil => rfl
  | cons f fields ih =>
      obtain ⟨key, value⟩ := f
      rw [ofJsonFields, ih, List.map_cons]

/-- A choice of fields by their keys. -/
theorem filter_ofJsonFields (p : String → Bool) (fields : List (String × Json)) :
    (ofJsonFields fields).filter (fun f => p f.1) = ofJsonFields (fields.filter fun f => p f.1) := by
  rw [ofJsonFields_eq_map, ofJsonFields_eq_map, List.filter_map]
  rfl

/-- Both writers of `json.dumps` write a JSON value to one text. -/
theorem dumps_ofJson (value : Json) : (ofJson value).dumps = Encoding.dumps value := by
  induction value with
  | null => rfl
  | bool b => rfl
  | int n => rfl
  | str s => rfl
  | arr items ih =>
      have hitems : dumpsList (ofJsonList items) = Encoding.dumpsList items := by
        induction items with
        | nil => rfl
        | cons item items ihItems =>
            rw [ofJsonList, dumpsList, Encoding.dumpsList, ih item List.mem_cons_self,
              ihItems fun other hother => ih other (List.mem_cons_of_mem item hother)]
      rw [ofJson, dumps, Encoding.dumps, hitems]
  | obj fields ih =>
      have hfields : dumpsFields (ofJsonFields fields) = Encoding.dumpsFields fields := by
        induction fields with
        | nil => rfl
        | cons f fields ihFields =>
            obtain ⟨key, value⟩ := f
            have hvalue := ih (key, value) List.mem_cons_self
            rw [ofJsonFields, dumpsFields, Encoding.dumpsFields, hvalue,
              ihFields fun other hother => ih other (List.mem_cons_of_mem _ hother)]
      rw [ofJson, dumps, Encoding.dumps, hfields]

end Tree

end Grouproxy.Value
