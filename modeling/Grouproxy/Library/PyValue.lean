import Grouproxy.Library.Ipaddress
import Grouproxy.Library.Tree

/-! # Python values

The values that the JSON and YAML readers of Python return. A text is a list of code points, which
may be lone surrogates.
-/

namespace Grouproxy.Python

open Value

/-! ## Texts -/

inductive CodePoint where
  | char (c : Char)
  | surrogate (n : Fin 2048)
  deriving DecidableEq

def CodePoint.char? : CodePoint → Option Char
  | char c => some c
  | surrogate _ => none

abbrev Str : Type := List CodePoint

instance lawfulBEq_str : LawfulBEq Str := inferInstance

namespace Str

def ofString (s : String) : Str := s.toList.map .char

/-- The text as a `String`, which has no surrogates. -/
def toString? (s : Str) : Option String := (s.mapM CodePoint.char?).map String.ofList

def isSpace : CodePoint → Bool
  | .char c => Ipaddress.isSpace c
  | .surrogate _ => false

def strip (s : Str) : Str := ((s.dropWhile isSpace).reverse.dropWhile isSpace).reverse

theorem ofString_injective : Function.Injective ofString := by
  intro s t h
  have hchars : s.toList = t.toList := List.map_injective_iff.mpr (fun _ _ => CodePoint.char.inj) h
  exact String.toList_inj.mp hchars

@[simp] theorem ofString_inj {s t : String} : ofString s = ofString t ↔ s = t :=
  ofString_injective.eq_iff

@[simp] theorem length_ofString (s : String) : (ofString s).length = s.length := by
  rw [ofString, List.length_map, String.length_toList]

@[simp] theorem toString?_ofString (s : String) : (ofString s).toString? = some s := by
  have hchars : ∀ cs : List Char, (cs.map CodePoint.char).mapM CodePoint.char? = some cs := by
    intro cs
    induction cs with
    | nil => rfl
    | cons c cs ih => simp [List.mapM_cons, ih, CodePoint.char?]
  rw [toString?, ofString, hchars, Option.map_some, String.ofList_toList]

theorem dropWhile_map_char (cs : List Char) :
    (cs.map CodePoint.char).dropWhile isSpace = (cs.dropWhile Ipaddress.isSpace).map .char := by
  rw [List.dropWhile_map]
  rfl

@[simp] theorem strip_ofString (s : String) : (ofString s).strip = ofString (Ipaddress.strip s) := by
  simp only [strip, ofString, dropWhile_map_char, ← List.map_reverse, Ipaddress.strip,
    String.toList_ofList, Text.trimBy]

end Str

/-! ## Values -/

/-- `null` is `None`. A dictionary may have keys of any hashable type. -/
inductive PyValue where
  | null
  | bool (b : Bool)
  | int (n : Int)
  | float (x : Float64)
  | str (s : Str)
  | bytes (b : List UInt8)
  /-- A `date` or a `datetime`, by its ISO text. -/
  | date (isoformat : String)
  | tuple (items : List PyValue)
  | set (items : List PyValue)
  | list (items : List PyValue)
  | dict (fields : List (PyValue × PyValue))

namespace PyValue

/-- `document.get(key)` -/
def get? (fields : List (PyValue × PyValue)) (key : String) : Option PyValue :=
  fields.findSome? fun
    | (.str s, value) => if s = Str.ofString key then some value else none
    | _ => none

/-- A missing key reads as `None`. -/
def get (fields : List (PyValue × PyValue)) (key : String) : PyValue :=
  (get? fields key).getD .null

/-- `bool(value)` -/
def isTruthy : PyValue → Bool
  | .null => false
  | .bool b => b
  | .int n => n ≠ 0
  | .float x => x.toInt? ≠ some 0
  | .str s => !s.isEmpty
  | .bytes b => !b.isEmpty
  | .date _ => true
  | .tuple items => !items.isEmpty
  | .set items => !items.isEmpty
  | .list items => !items.isEmpty
  | .dict fields => !fields.isEmpty

mutual
/-- A decoded document as a Python value. -/
def ofTree : Tree → PyValue
  | .null => .null
  | .bool b => .bool b
  | .int n => .int n
  | .float x => .float x
  | .str s => .str (Str.ofString s)
  | .list items => .list (ofItems items)
  | .dict fields => .dict (ofFields fields)
def ofItems : List Tree → List PyValue
  | [] => []
  | item :: items => ofTree item :: ofItems items
def ofFields : List (String × Tree) → List (PyValue × PyValue)
  | [] => []
  | (key, value) :: fields => (.str (Str.ofString key), ofTree value) :: ofFields fields
end

theorem get?_ofFields (fields : List (String × Tree)) (key : String) :
    get? (ofFields fields) key = (Value.Tree.get? fields key).map ofTree := by
  induction fields with
  | nil => rfl
  | cons f fields ih =>
      obtain ⟨k, v⟩ := f
      rw [Value.Tree.get?_cons, ofFields, get?, List.findSome?_cons]
      by_cases hk : key = k
      · simp [hk]
      · have hne : k ≠ key := fun h => hk h.symm
        simpa [hk, hne, get?] using ih

@[simp] theorem get_ofFields (fields : List (String × Tree)) (key : String) :
    get (ofFields fields) key = ofTree (Value.Tree.get fields key) := by
  rw [get, get?_ofFields, Value.Tree.get]
  cases Value.Tree.get? fields key <;> rfl

end PyValue

end Grouproxy.Python
