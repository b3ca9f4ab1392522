import Mathlib.Data.List.Basic
import Mathlib.Data.Nat.Basic
import Grouproxy.Library.Text

/-! # Dynamically typed values

`Any` is what a Go variable of type `any` holds after decoding JSON or YAML, or after
building a document by hand: unlike a JSON tree it tells an `int` from a `float64` and a
`[]string` from a `[]any`, which type assertions observe.
-/

namespace Grouproxy.Value

open Text

/-! ## Numbers -/

/-- A `float64` as far as a program that never calculates with it can tell: its printed
form, its JSON form and the `int` it equals, if any. -/
structure Float64 where
  sprint : String
  json : String
  toInt? : Option Int
  deriving DecidableEq, Repr

/-- An integer as a `float64` is printed: seven or more digits in exponent form. -/
def sprintInt (n : Int) : String :=
  let digits := Nat.toDigits 10 n.natAbs
  let body :=
    if digits.length ≤ 6 then digits
    else
      let significant := (digits.reverse.dropWhile (· == '0')).reverse
      let fraction := significant.drop 1
      let exponent := Nat.toDigits 10 (digits.length - 1)
      significant.take 1 ++ (if fraction = [] then [] else '.' :: fraction) ++ "e+".toList ++
        (if exponent.length < 2 then '0' :: exponent else exponent)
  String.ofList ((if n < 0 then ['-'] else []) ++ body)

/-- The `float64` of an integer, exact below `2 ^ 53`. -/
def Float64.ofInt (n : Int) : Float64 := ⟨sprintInt n, String.ofList (intText n), some n⟩

/-! ## Values and maps -/

inductive Any where
  | nil
  | bool (b : Bool)
  | int (n : Int)
  | float (x : Float64)
  | str (s : String)
  | strs (xs : List String)
  | arr (xs : List Any)
  | map (fields : List (String × Any))
  deriving Repr

instance : Inhabited Any := ⟨.nil⟩

/-- A `map[string]any`. No modelled operation observes the order of the fields. -/
abbrev Fields := List (String × Any)

namespace Any

@[induction_eliminator]
theorem ind {P : Any → Prop} (nil : P .nil) (bool : ∀ b, P (.bool b)) (int : ∀ n, P (.int n))
    (float : ∀ x, P (.float x)) (str : ∀ s, P (.str s)) (strs : ∀ xs, P (.strs xs))
    (arr : ∀ xs, (∀ x ∈ xs, P x) → P (.arr xs))
    (map : ∀ fs : List (String × Any), (∀ f ∈ fs, P f.2) → P (.map fs)) (v : Any) : P v :=
  @Any.rec P (fun xs => ∀ x ∈ xs, P x) (fun fs => ∀ f ∈ fs, P f.2) (fun f => P f.2)
    nil bool int float str strs arr map
    (by simp) (fun _ _ hx hxs => List.forall_mem_cons.mpr ⟨hx, hxs⟩)
    (by simp) (fun _ _ hf hfs => List.forall_mem_cons.mpr ⟨hf, hfs⟩)
    (fun _ _ hv => hv) v

/-! ## Type assertions -/

def asBool? : Any → Option Bool
  | .bool b => some b
  | _ => none

def asString? : Any → Option String
  | .str s => some s
  | _ => none

def asArr? : Any → Option (List Any)
  | .arr xs => some xs
  | _ => none

def asMap? : Any → Option Fields
  | .map fs => some fs
  | _ => none

/-- Integers, also those held as a `float64`. -/
def asInt? : Any → Option Int
  | .int n => some n
  | .float x => x.toInt?
  | _ => none

end Any

namespace Fields

def get? (m : Fields) (key : String) : Option Any := m.lookup key

/-- A missing key reads as `nil`. -/
def get (m : Fields) (key : String) : Any := (m.get? key).getD .nil

def has (m : Fields) (key : String) : Bool := (m.get? key).isSome

def put : Fields → String → Any → Fields
  | [], key, value => [(key, value)]
  | (k, v) :: m, key, value =>
    if k = key then (key, value) :: m else (k, v) :: put m key value

def delete (m : Fields) (key : String) : Fields := m.filter (fun f => f.1 ≠ key)

theorem get?_cons (k : String) (v : Any) (m : Fields) (key : String) :
    get? ((k, v) :: m) key = if key = k then some v else get? m key := by
  by_cases h : key = k
  · simp [get?, h]
  · have hb : (key == k) = false := by simpa using h
    simp [get?, List.lookup_cons, h, hb]

@[simp] theorem get?_put_self (m : Fields) (key : String) (value : Any) :
    (put m key value).get? key = some value := by
  induction m with
  | nil => simp [put, get?_cons]
  | cons f m ih =>
      obtain ⟨k, v⟩ := f
      by_cases h : k = key
      · simp [put, h, get?_cons]
      · have hk : key ≠ k := fun hh => h hh.symm
        simp [put, h, get?_cons, hk, ih]

theorem get?_put_ne {m : Fields} {key other : String} (value : Any) (h : other ≠ key) :
    (put m key value).get? other = m.get? other := by
  induction m with
  | nil => simp [put, h, get?]
  | cons f m ih =>
      obtain ⟨k, v⟩ := f
      by_cases hk : k = key
      · subst hk
        simp [put, get?_cons, h]
      · simp only [put, hk, if_false, get?_cons, ih]

theorem get?_delete (m : Fields) (key other : String) :
    (m.delete key).get? other = if other = key then none else m.get? other := by
  induction m with
  | nil => simp [delete, get?]
  | cons f m ih =>
      obtain ⟨k, v⟩ := f
      rw [delete] at ih
      by_cases hk : k = key
      · rw [delete, List.filter_cons_of_neg (by simpa using hk), ih, get?_cons]
        split
        · rfl
        · rename_i h
          rw [if_neg (hk ▸ h)]
      · rw [delete, List.filter_cons_of_pos (by simpa using hk), get?_cons, get?_cons, ih]
        by_cases hother : other = k
        · rw [if_pos hother, if_pos hother, if_neg (hother ▸ hk)]
        · rw [if_neg hother, if_neg hother]

/-- Deleting several keys leaves the others. -/
theorem get?_foldl_delete (keys : List String) (m : Fields) (other : String) :
    (keys.foldl delete m).get? other = if other ∈ keys then none else m.get? other := by
  induction keys generalizing m with
  | nil => simp
  | cons key keys ih =>
      rw [List.foldl_cons, ih, get?_delete]
      by_cases hkeys : other ∈ keys
      · simp [hkeys]
      · by_cases hkey : other = key
        · simp [hkey]
        · simp [hkeys, hkey]

end Fields

/-! ## Printing -/

mutual
/-- `fmt.Sprint` of a nested value; a map prints its fields in key order. -/
def sprint : Any → String
  | .nil => "<nil>"
  | .bool b => if b then "true" else "false"
  | .int n => String.ofList (intText n)
  | .float x => x.sprint
  | .str s => s
  | .strs xs => "[" ++ " ".intercalate xs ++ "]"
  | .arr xs => "[" ++ " ".intercalate (sprintList xs) ++ "]"
  | .map fs =>
    "map[" ++ " ".intercalate
      (((sprintFields fs).mergeSort (fun a b => a.1 ≤ b.1)).map fun f => f.1 ++ ":" ++ f.2) ++ "]"
def sprintList : List Any → List String
  | [] => []
  | x :: xs => sprint x :: sprintList xs
def sprintFields : List (String × Any) → List (String × String)
  | [] => []
  | (k, x) :: fs => (k, sprint x) :: sprintFields fs
end

/-- `nil` is the empty text, anything else is printed. -/
def stringValue : Any → String
  | .nil => ""
  | v => sprint v

def boolValue (v : Any) : Bool := v.asBool?.getD false

def stringSlice : Any → List String
  | .arr xs => xs.map stringValue
  | .strs xs => xs
  | _ => []

@[simp] theorem stringValue_str (s : String) : stringValue (.str s) = s := by
  simp [stringValue, sprint]

/-! ## Writing to a JSON file and reading back -/

mutual
/-- The value read back from the JSON text of a value: numbers become `float64` and
every slice becomes a `[]any`. -/
def jsonTree : Any → Any
  | .nil => .nil
  | .bool b => .bool b
  | .int n => .float (Float64.ofInt n)
  | .float x => .float x
  | .str s => .str s
  | .strs xs => .arr (xs.map .str)
  | .arr xs => .arr (jsonTreeList xs)
  | .map fs => .map (jsonTreeFields fs)
def jsonTreeList : List Any → List Any
  | [] => []
  | x :: xs => jsonTree x :: jsonTreeList xs
def jsonTreeFields : List (String × Any) → List (String × Any)
  | [] => []
  | (k, x) :: fs => (k, jsonTree x) :: jsonTreeFields fs
end

theorem jsonTreeList_eq_map (xs : List Any) : jsonTreeList xs = xs.map jsonTree := by
  induction xs with
  | nil => rfl
  | cons x xs ih => simp [jsonTreeList, ih]

theorem jsonTreeFields_eq_map (fs : Fields) :
    jsonTreeFields fs = fs.map fun f => (f.1, jsonTree f.2) := by
  induction fs with
  | nil => rfl
  | cons f fs ih => simp [jsonTreeFields, ih]

/-- Lists of objects are the same as JSON if and only if the objects are. -/
theorem map_jsonTree_inj {ms ns : List Fields} :
    (ms.map Any.map).map jsonTree = (ns.map Any.map).map jsonTree ↔
      ms.map jsonTreeFields = ns.map jsonTreeFields := by
  have hjson : (jsonTree ∘ Any.map) = Any.map ∘ jsonTreeFields := by
    funext m
    rw [Function.comp_apply, Function.comp_apply, jsonTree]
  have hinj : Function.Injective (List.map Any.map) :=
    List.map_injective_iff.mpr fun _ _ hmap => Any.map.inj hmap
  rw [List.map_map, List.map_map, hjson, ← List.map_map, ← List.map_map, hinj.eq_iff]

/-- A value read back from JSON is unchanged by a second round. -/
@[simp] theorem jsonTree_jsonTree (v : Any) : jsonTree (jsonTree v) = jsonTree v := by
  induction v with
  | nil => rfl
  | bool b => rfl
  | int n => rfl
  | float x => rfl
  | str s => rfl
  | strs xs => simp [jsonTree, jsonTreeList_eq_map]
  | arr xs ih =>
      simp only [jsonTree, jsonTreeList_eq_map, List.map_map, Any.arr.injEq]
      exact List.map_congr_left ih
  | map fs ih =>
      simp only [jsonTree, jsonTreeFields_eq_map, List.map_map, Any.map.injEq]
      apply List.map_congr_left
      intro f hf
      simp [ih f hf]

theorem get?_jsonTreeFields (m : Fields) (key : String) :
    Fields.get? (jsonTreeFields m) key = (Fields.get? m key).map jsonTree := by
  induction m with
  | nil => rfl
  | cons f m ih =>
      obtain ⟨k, v⟩ := f
      rw [jsonTreeFields, Fields.get?_cons, Fields.get?_cons, ih]
      split <;> rfl

theorem stringValue_jsonTree_str {v : Any} {s : String} (h : v = .str s) :
    stringValue (jsonTree v) = s := by
  subst h
  simp [jsonTree]

end Grouproxy.Value
