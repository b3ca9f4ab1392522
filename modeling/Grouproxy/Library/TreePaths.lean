import Grouproxy.Library.Tree

/-! # Paths into a document

A path leads through the keys of objects and the positions of arrays. Two documents are the same
but for some keys if they differ in nothing but the values under these.
-/

namespace Grouproxy.Value

namespace Tree

inductive Step where
  | key (key : String)
  | index (i : Nat)

/-- The value at the end of a path. -/
def at? : List Step → Tree → Option Tree
  | [], value => some value
  | .key key :: path, .dict fields => (get? fields key).bind (at? path)
  | .index i :: path, .list items => items[i]?.bind (at? path)
  | _ :: _, _ => none

/-- A path through none of some keys. -/
def Avoids (hidden : String → Prop) (path : List Step) : Prop :=
  ∀ key, .key key ∈ path → ¬ hidden key

mutual
/-- The keys of the objects in a document, at any depth. -/
def keysIn : Tree → List String
  | .list items => keysInList items
  | .dict fields => keysInFields fields
  | .null => []
  | .bool _ => []
  | .int _ => []
  | .float _ => []
  | .str _ => []
def keysInList : List Tree → List String
  | [] => []
  | item :: items => keysIn item ++ keysInList items
def keysInFields : List (String × Tree) → List String
  | [] => []
  | (key, value) :: fields => key :: keysIn value ++ keysInFields fields
end

mutual
/-- Two documents that differ only in the values under some keys. -/
inductive SameBut (hidden : String → Prop) : Tree → Tree → Prop
  | null : SameBut hidden .null .null
  | bool (b : Bool) : SameBut hidden (.bool b) (.bool b)
  | int (n : Int) : SameBut hidden (.int n) (.int n)
  | float (x : Float64) : SameBut hidden (.float x) (.float x)
  | str (s : String) : SameBut hidden (.str s) (.str s)
  | list {items others : List Tree} (h : SameItemsBut hidden items others) :
    SameBut hidden (.list items) (.list others)
  | dict {fields others : List (String × Tree)} (h : SameFieldsBut hidden fields others) :
    SameBut hidden (.dict fields) (.dict others)
inductive SameItemsBut (hidden : String → Prop) : List Tree → List Tree → Prop
  | nil : SameItemsBut hidden [] []
  | cons {item other : Tree} {items others : List Tree} (h : SameBut hidden item other)
    (hs : SameItemsBut hidden items others) : SameItemsBut hidden (item :: items) (other :: others)
inductive SameFieldsBut (hidden : String → Prop) :
    List (String × Tree) → List (String × Tree) → Prop
  | nil : SameFieldsBut hidden [] []
  | hide {key : String} (value other : Tree) {fields others : List (String × Tree)}
    (h : hidden key) (hs : SameFieldsBut hidden fields others) :
    SameFieldsBut hidden ((key, value) :: fields) ((key, other) :: others)
  | keep (key : String) {value other : Tree} {fields others : List (String × Tree)}
    (h : SameBut hidden value other) (hs : SameFieldsBut hidden fields others) :
    SameFieldsBut hidden ((key, value) :: fields) ((key, other) :: others)
end

end Tree

end Grouproxy.Value
