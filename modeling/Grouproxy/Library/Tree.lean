import Grouproxy.Library.Value

/-! # Decoded documents

The tree of a JSON or YAML text, and what a Go program sees of it.
-/

namespace Grouproxy.Value

open Text

inductive Tree where
  | null
  | bool (b : Bool)
  | int (n : Int)
  | float (x : Float64)
  | str (s : String)
  | list (items : List Tree)
  | dict (fields : List (String × Tree))

namespace Tree

@[induction_eliminator]
theorem ind {P : Tree → Prop} (null : P .null) (bool : ∀ b, P (.bool b)) (int : ∀ n, P (.int n))
    (float : ∀ x, P (.float x)) (str : ∀ s, P (.str s))
    (list : ∀ items, (∀ item ∈ items, P item) → P (.list items))
    (dict : ∀ fields : List (String × Tree), (∀ f ∈ fields, P f.2) → P (.dict fields))
    (tree : Tree) : P tree :=
  @Tree.rec P (fun items => ∀ item ∈ items, P item) (fun fields => ∀ f ∈ fields, P f.2)
    (fun f => P f.2) null bool int float str list dict
    (by simp) (fun _ _ hitem hitems => List.forall_mem_cons.mpr ⟨hitem, hitems⟩)
    (by simp) (fun _ _ hf hfields => List.forall_mem_cons.mpr ⟨hf, hfields⟩)
    (fun _ _ hvalue => hvalue) tree

def get? (fields : List (String × Tree)) (key : String) : Option Tree := fields.lookup key

/-- A missing key reads as `null`. -/
def get (fields : List (String × Tree)) (key : String) : Tree := (get? fields key).getD .null

theorem get?_cons (k : String) (v : Tree) (fields : List (String × Tree)) (key : String) :
    get? ((k, v) :: fields) key = if key = k then some v else get? fields key := by
  by_cases h : key = k
  · simp [get?, h]
  · have hb : (key == k) = false := by simpa using h
    simp [get?, List.lookup_cons, h, hb]

/-- Reading a key that stays. -/
theorem get?_filter {p : String × Tree → Bool} {key : String} (h : ∀ value, p (key, value) = true)
    (fields : List (String × Tree)) : get? (fields.filter p) key = get? fields key := by
  induction fields with
  | nil => rfl
  | cons f fields ih =>
      obtain ⟨k, v⟩ := f
      by_cases hk : key = k
      · subst hk
        rw [List.filter_cons_of_pos (h v), get?_cons, if_pos rfl, get?_cons, if_pos rfl]
      · rw [get?_cons, if_neg hk, ← ih]
        cases hp : p (k, v) with
        | true => rw [List.filter_cons_of_pos hp, get?_cons, if_neg hk]
        | false => rw [List.filter_cons_of_neg (Bool.not_eq_true _ ▸ hp)]

/-- Reading a key that no field keeps. -/
theorem get?_eq_none {fields : List (String × Tree)} {key : String}
    (h : ∀ f ∈ fields, f.1 ≠ key) : get? fields key = none := by
  induction fields with
  | nil => rfl
  | cons f fields ih =>
      obtain ⟨k, v⟩ := f
      rw [get?_cons, if_neg (Ne.symm (h (k, v) List.mem_cons_self))]
      exact ih fun g hg => h g (List.mem_cons_of_mem _ hg)

mutual
/-- The dynamically typed value of a tree; the reader decides what an integer becomes. -/
def view (number : Int → Any) : Tree → Any
  | .null => .nil
  | .bool b => .bool b
  | .int n => number n
  | .float x => .float x
  | .str s => .str s
  | .list items => .arr (viewList number items)
  | .dict fields => .map (viewFields number fields)
def viewList (number : Int → Any) : List Tree → List Any
  | [] => []
  | item :: items => view number item :: viewList number items
def viewFields (number : Int → Any) : List (String × Tree) → Fields
  | [] => []
  | (key, value) :: fields => (key, view number value) :: viewFields number fields
end

section View

variable {number : Int → Any}

theorem get?_viewFields (fields : List (String × Tree)) (key : String) :
    Fields.get? (viewFields number fields) key = (get? fields key).map (view number) := by
  induction fields with
  | nil => rfl
  | cons f fields ih =>
      obtain ⟨k, v⟩ := f
      rw [viewFields, Fields.get?_cons, get?_cons, ih]
      split
      · rfl
      · rfl

@[simp] theorem get_viewFields (fields : List (String × Tree)) (key : String) :
    Fields.get (viewFields number fields) key = view number (get fields key) := by
  rw [Fields.get, get?_viewFields, get]
  cases get? fields key with
  | none => rfl
  | some value => rfl

end View

/-! ## Numbers -/

/-- The integer part of a number in the range of ports: in exponent form a number is below one
or beyond the range. -/
def truncated (x : Float64) : Option Int :=
  match x.toInt? with
  | some n => some n
  | none => if 'e' ∈ x.json.toList then none else atoi? (x.json.toList.takeWhile (· ≠ '.'))

end Tree

end Grouproxy.Value
