import Grouproxy.Model.Formats

/-! # Formats of decoded documents

On the trees of JSON the validators are those that the model of single nodes has.
-/

namespace Grouproxy.Formats

open Python PyValue Inspection
open Value (Tree)
open SingleNode (ParsedSubscription refuse)

variable {α β γ : Type} {tree : Tree} {code : String}

/-! ## Fields -/

@[simp] theorem lower_ofString (s : String) :
    lower (Str.ofString s) = Str.ofString (Inspection.lower s) := by
  rw [lower, Str.ofString, List.flatMap_map, Str.ofString, Inspection.lower, String.toList_ofList,
    List.map_flatMap]

@[simp] theorem ofString_mem_texts {s : String} {names : List String} :
    Str.ofString s ∈ texts names ↔ s ∈ names :=
  List.mem_map_of_injective Str.ofString_injective

theorem mapping_ofTree (tree : Tree) (code : String) :
    mapping (ofTree tree) code = (Inspection.mapping tree code).map ofFields := by
  cases tree <;> rfl

theorem string_ofTree (tree : Tree) (code : String) :
    string (ofTree tree) code = (Inspection.string tree code).map Str.ofString := by
  cases tree with
  | str s =>
      have hblank : Str.ofString (Ipaddress.strip s) = [] ↔ Ipaddress.strip s = "" := by
        rw [Str.ofString, List.map_eq_nil_iff, String.toList_eq_nil_iff]
      rw [ofTree, string, Inspection.string, Str.strip_ofString, Str.length_ofString]
      simp only [hblank]
      split <;> rfl
  | _ => rfl

theorem port_ofTree (tree : Tree) (code : String) :
    port (ofTree tree) code = Inspection.port tree code := by
  cases tree with
  | str s =>
      have hint : intOf (.str (Str.ofString s)) = Inspection.intOf (.str s) := by
        rw [intOf, Str.toString?_ofString]
        rfl
      rw [ofTree, port, hint, Inspection.port]
      all_goals first | rfl | exact nofun
  | float x =>
      have hint : intOf (.float x) = Inspection.intOf (.float x) := by
        simp only [intOf, isInfinite, decide_eq_true_eq, Inspection.intOf]
      rw [ofTree, port, hint, Inspection.port]
      all_goals first | rfl | exact nofun
  | _ => rfl

theorem isTruthy_ofTree (tree : Tree) :
    PyValue.isTruthy (ofTree tree) = Inspection.isTruthy tree := by
  cases tree with
  | str s =>
      rw [ofTree, PyValue.isTruthy, Inspection.isTruthy]
      by_cases h : s = ""
      · rw [h]
        rfl
      · simp [h, Str.ofString]
  | list items => cases items <;> rfl
  | dict fields =>
      rcases fields with _ | ⟨⟨key, value⟩, fields⟩
      · rfl
      · rfl
  | _ => rfl

@[simp] theorem length_ofItems (items : List Tree) : (ofItems items).length = items.length := by
  induction items with
  | nil => rfl
  | cons item items ih => rw [ofItems, List.length_cons, List.length_cons, ih]

@[simp] theorem length_ofFields (fields : List (String × Tree)) :
    (ofFields fields).length = fields.length := by
  induction fields with
  | nil => rfl
  | cons f fields ih =>
      obtain ⟨key, value⟩ := f
      rw [ofFields, List.length_cons, List.length_cons, ih]

mutual
theorem validateValue_ofTree (depth : Nat) (tree : Tree) :
    validateValue depth (ofTree tree) = Inspection.validateValue depth tree := by
  cases tree with
  | str s => rw [ofTree, validateValue, Inspection.validateValue, Str.length_ofString]
  | list items =>
      rw [ofTree, validateValue, Inspection.validateValue, length_ofItems,
        validateItems_ofItems (depth + 1) items]
  | dict fields =>
      rw [ofTree, validateValue, Inspection.validateValue, length_ofFields,
        validateFields_ofFields (depth + 1) fields]
  | _ => simp only [ofTree, validateValue, Inspection.validateValue]
theorem validateItems_ofItems (depth : Nat) (items : List Tree) :
    validateItems depth (ofItems items) = Inspection.validateItems depth items := by
  cases items with
  | nil => rfl
  | cons item items =>
      rewrite [ofItems, validateItems, Inspection.validateItems, validateValue_ofTree depth item,
        validateItems_ofItems depth items]
      rfl
theorem validateFields_ofFields (depth : Nat) (fields : List (String × Tree)) :
    validateFields depth (ofFields fields) = Inspection.validateFields depth fields := by
  cases fields with
  | nil => rfl
  | cons f fields =>
      obtain ⟨key, value⟩ := f
      rw [ofFields, validateFields, Inspection.validateFields, validateValue_ofTree depth value,
        validateFields_ofFields depth fields]
      have hkey := string_ofTree (.str key) "subscription_invalid_field"
      rw [ofTree] at hkey
      rw [hkey]
      cases Inspection.string (.str key) "subscription_invalid_field" <;> rfl
end

/-! ## Formats -/

/-- Sequences that correspond part by part. -/
theorem bind_map {x : Except Refusal α} {f : α → β} {g : β → Except Refusal γ} :
    (x.map f >>= g) = x >>= fun a => g (f a) := by
  cases x <;> rfl

theorem get?_tag (fields : List (String × Tree)) (default : String) :
    (PyValue.get? (ofFields fields) "tag").getD (.str (Str.ofString default)) =
      ofTree ((Value.Tree.get? fields "tag").getD (.str default)) := by
  rw [get?_ofFields]
  cases Value.Tree.get? fields "tag" <;> rfl

theorem map_bind {x : Except Refusal α} {f : α → Except Refusal β} {g : β → γ} :
    (x >>= f).map g = x >>= fun a => (f a).map g := by
  cases x <;> rfl

theorem validateValue_ofFields (depth : Nat) (fields : List (String × Tree)) :
    validateValue depth (.dict (ofFields fields)) =
      Inspection.validateValue depth (.dict fields) :=
  validateValue_ofTree depth (.dict fields)

theorem length_texts (names : List String) : (texts names).length = names.length :=
  List.length_map _

theorem texts_concat (names : List String) (name : String) :
    texts names ++ [Str.ofString name] = texts (names ++ [name]) := by
  rw [texts, texts, List.map_append, List.map_singleton]

theorem countOutbounds_ofItems (tags : List String) (items : List Tree) :
    countOutbounds (texts tags) (ofItems items) =
      (SingleNode.countOutbounds tags items).map texts := by
  induction items generalizing tags with
  | nil => rfl
  | cons item items ih =>
      simp only [ofItems, countOutbounds, SingleNode.countOutbounds, mapping_ofTree, bind_map,
        get_ofFields, string_ofTree, lower_ofString, ofString_mem_texts, get?_tag, length_texts,
        validateValue_ofFields, texts_concat, ih, map_bind, apply_ite (Except.map texts)]

theorem validateOutbounds_ofTree (tree : Tree) :
    validateOutbounds (ofTree tree) = SingleNode.validateOutbounds tree := by
  cases tree with
  | list items =>
      have hcount : countOutbounds [] (ofItems items) = _ := countOutbounds_ofItems [] items
      have hempty : (ofItems items).isEmpty = items.isEmpty := by cases items <;> rfl
      have htexts : ∀ tags : List String, (texts tags).isEmpty = tags.isEmpty := fun tags => by
        cases tags <;> rfl
      simp only [ofTree, validateOutbounds, SingleNode.validateOutbounds, hcount, hempty, bind_map,
        length_texts, htexts]
  | _ => rfl

theorem parseSingbox_ofTree (tree : Tree) :
    parseSingbox (ofTree tree) = SingleNode.parseSingbox tree := by
  have hitems : singboxItems (ofTree tree) = (SingleNode.singboxItems tree).map ofTree := by
    cases tree with
    | dict fields =>
        rw [ofTree, singboxItems, get_ofFields]
        rfl
    | _ => rfl
  simp only [parseSingbox, SingleNode.parseSingbox, hitems, bind_map, validateOutbounds_ofTree]

theorem sip008Server_ofTree (tree : Tree) :
    sip008Server (ofTree tree) = SingleNode.sip008Server tree := by
  simp only [sip008Server, SingleNode.sip008Server, mapping_ofTree, bind_map, get_ofFields,
    string_ofTree, port_ofTree, validateValue_ofFields]

theorem sip008Servers_ofItems (items : List Tree) :
    sip008Servers (ofItems items) = SingleNode.checkAll SingleNode.sip008Server items := by
  induction items with
  | nil => rfl
  | cons item items ih =>
      rw [ofItems, sip008Servers, SingleNode.checkAll, sip008Server_ofTree, ih]

theorem parseSip008_ofTree (tree : Tree) :
    parseSip008 (ofTree tree) = SingleNode.parseSip008 tree := by
  simp only [parseSip008, SingleNode.parseSip008, mapping_ofTree, bind_map, get_ofFields]
  congr 1
  funext document
  cases hservers : Value.Tree.get document "servers" with
  | list items =>
      have hempty : (ofItems items).isEmpty = items.isEmpty := by cases items <;> rfl
      simp only [ofTree, hempty, length_ofItems, sip008Servers_ofItems]
  | _ => rfl

theorem clashFields_ofFields (fields : List (String × Tree)) (kind : String) :
    clashFields (ofFields fields) (Str.ofString kind) = SingleNode.clashFields fields kind := by
  simp only [clashFields, clashCredentials, SingleNode.clashFields, bind_map, get_ofFields,
    string_ofTree, port_ofTree, validateValue_ofFields, ofString_mem_texts, isTruthy_ofTree,
    ← apply_ite ofTree]
  by_cases hkind : kind ∈ ["ss", "shadowsocks"]
  · simp only [hkind, if_true, bind_assoc, pure_bind]
  · simp only [hkind, if_false, bind_assoc, pure_bind]

theorem clashProxies_ofItems (names : List String) (items : List Tree) :
    clashProxies (texts names) (ofItems items) = SingleNode.clashProxies names items := by
  induction items generalizing names with
  | nil => rfl
  | cons item items ih =>
      simp only [ofItems, clashProxies, SingleNode.clashProxies, mapping_ofTree, bind_map,
        get_ofFields, string_ofTree, lower_ofString, ofString_mem_texts, clashTypes, texts_concat,
        clashFields_ofFields, ih]

theorem parseClash_ofTree (tree : Tree) :
    parseClash (ofTree tree) = SingleNode.parseClash tree := by
  simp only [parseClash, SingleNode.parseClash, mapping_ofTree, bind_map, get_ofFields]
  congr 1
  funext document
  have hproviders : hasProviders (ofFields document) = SingleNode.hasProviders document := by
    simp only [hasProviders, SingleNode.hasProviders, get_ofFields, isTruthy_ofTree,
      ← apply_ite ofTree]
    cases (if Inspection.isTruthy (Value.Tree.get document "proxy-providers") = true then
      Value.Tree.get document "proxy-providers" else Value.Tree.get document "proxy_providers") with
    | dict fields =>
        rcases fields with _ | ⟨⟨key, value⟩, fields⟩ <;> rfl
    | _ => rfl
  cases hitems : Value.Tree.get document "proxies" with
  | list items =>
      cases items with
      | nil => simp only [ofTree, ofItems, hproviders]
      | cons item items =>
          have hproxies : clashProxies [] (ofTree item :: ofItems items) = _ :=
            clashProxies_ofItems [] (item :: items)
          simp only [ofTree, ofItems, List.length_cons, length_ofItems, hproxies]
  | _ => simp only [ofTree, hproviders]

end Grouproxy.Formats
