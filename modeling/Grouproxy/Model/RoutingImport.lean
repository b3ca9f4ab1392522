import Grouproxy.Model.RoutingPolicy

/-! # Import of sing-box route rules

A sing-box document is turned into rules of the routing policy. A `ValueError` is an error with
its text.
-/

namespace Grouproxy.Backend

open Encoding

/-- What `json.loads` reads, an object with all its pairs. No number is looked at. -/
inductive Document where
  | null
  | bool (b : Bool)
  | number (text : String)
  | str (s : String)
  | arr (items : List Document)
  | obj (fields : List (String × Document))

namespace Document

def get? : List (String × Document) → String → Option Document
  | [], _ => none
  | (k, v) :: fields, key => if k = key then some v else get? fields key

/-- `key in d` -/
def has (fields : List (String × Document)) (key : String) : Bool := (get? fields key).isSome

/-- A comparison with a text. -/
def isText (text : String) : Document → Bool
  | .str s => s == text
  | _ => false

mutual
/-- The key that `_unique_object` finds a second time. Inner objects are built first. -/
def duplicateKey : Document → Option String
  | .arr items => duplicateKeyList items
  | .obj fields => (duplicateKeyFields fields).or (uniqueObject [] fields)
  | _ => none
def duplicateKeyList : List Document → Option String
  | [] => none
  | item :: items => (duplicateKey item).or (duplicateKeyList items)
def duplicateKeyFields : List (String × Document) → Option String
  | [] => none
  | (_, value) :: fields => (duplicateKey value).or (duplicateKeyFields fields)
/-- The first key of an object that is among those before it. -/
def uniqueObject (result : List String) : List (String × Document) → Option String
  | [] => none
  | (key, _) :: fields => if key ∈ result then some key else uniqueObject (key :: result) fields
end

end Document

/-! ## Requests -/

def maxImportBytes : Nat := 1024 * 1024

inductive ImportMode where
  | append
  | replace
  deriving DecidableEq

structure RoutingImport where
  content : String
  mode : ImportMode
  policy : RoutingPolicy
  content_length : 1 ≤ content.toList.length ∧ content.toList.length ≤ maxImportBytes := by decide

structure RoutingImportOut where
  policy : RoutingPolicy
  sourceRules : Nat
  importedRules : Nat
  deriving DecidableEq

def matchFields : List RuleKind := [.domain, .domainSuffix, .ipCidr]

/-- `OUTBOUND_ACTIONS`. The values are also the ones that `final` takes. -/
def outboundActions : List (String × FinalAction) :=
  [("direct", .direct), ("subscription", .proxy), ("proxy", .proxy)]

def FinalAction.toRuleAction : FinalAction → RuleAction
  | .proxy => .proxy
  | .direct => .direct

def outboundAction (value : Option Document) (location : String) : Except String FinalAction :=
  match value with
  | some (.str outbound) =>
    match outboundActions.lookup outbound with
    | some action => .ok action
    | none => .error (location ++ ": outbound must be direct, subscription or proxy")
  | _ => .error (location ++ ": outbound must be direct, subscription or proxy")

/-- `RoutingRule(kind=kind, pattern=pattern, action=action)` -/
def newRule (libs : Libraries) (kind : RuleKind) (pattern : String) (action : RuleAction) :
    Option RoutingRule := do
  guard (1 ≤ pattern.toList.length ∧ pattern.toList.length ≤ 253)
  let pattern ← normalizePattern libs kind pattern
  return ⟨kind, pattern, action⟩

/-! ## Conversion -/

/-- The variables of the loops over rules, fields and patterns. -/
structure Conversion where
  converted : List RoutingRule
  matchCount : Nat

def convertPattern (libs : Libraries) (action : RuleAction) (location : String) (kind : RuleKind)
    (state : Conversion) : Document → Except String Conversion
  | .str pattern =>
    match newRule libs kind pattern action with
    | none => .error (location ++ "." ++ kind.text ++ ": invalid domain or CIDR")
    | some rule =>
      if 200 < (state.converted ++ [rule]).length then
        .error "Expanded rules exceed the 200-rule limit"
      else .ok ⟨state.converted ++ [rule], state.matchCount + 1⟩
  | _ => .error (location ++ "." ++ kind.text ++ ": patterns must be strings")

def convertField (libs : Libraries) (action : RuleAction) (location : String)
    (rule : List (String × Document)) (state : Conversion) (kind : RuleKind) :
    Except String Conversion :=
  match Document.get? rule kind.text with
  | none => .ok state
  | some (.str pattern) => convertPattern libs action location kind state (.str pattern)
  | some (.arr (pattern :: patterns)) =>
    (pattern :: patterns).foldlM (convertPattern libs action location kind) state
  | some _ => .error (location ++ "." ++ kind.text ++ ": expected a string or non-empty array")

def ruleKeys : List String := matchFields.map RuleKind.text ++ ["action", "outbound", "type"]

def targetAction (rule : List (String × Document)) (location : String) :
    Except String RuleAction :=
  let action := (Document.get? rule "action").getD (.str "route")
  if action.isText "route" then
    (outboundAction (Document.get? rule "outbound") location).map FinalAction.toRuleAction
  else if action.isText "reject" && !Document.has rule "outbound" then .ok .reject
  else .error (location ++ ": use route with outbound, or reject without outbound")

def convertRule (libs : Libraries) (location : String) (converted : List RoutingRule) :
    Document → Except String (List RoutingRule)
  | .obj rule => do
    let unsupported := (rule.map Prod.fst).filter fun key => key ∉ ruleKeys
    if unsupported ≠ [] then
      .error (location ++ ": unsupported fields: " ++
        ", ".intercalate (unsupported.mergeSort fun a b => a ≤ b))
    else if !((Document.get? rule "type").getD (.str "default")).isText "default" then
      .error (location ++ ": only default destination rules are supported")
    else
      let action ← targetAction rule location
      let state ← matchFields.foldlM (convertField libs action location rule) ⟨converted, 0⟩
      if state.matchCount = 0 then
        .error (location ++ ": a destination matcher is required; use route.final")
      else .ok state.converted
  | _ => .error (location ++ ": expected an object")

/-- `for index, rule in enumerate(rules)` -/
def convertRules (libs : Libraries) (rules : List Document) : Except String (List RoutingRule) :=
  rules.zipIdx.foldlM (fun converted rule =>
    convertRule libs ("rules[" ++ toString rule.2 ++ "]") converted rule.1) []

/-- `document.get("route", document)` of an object. -/
def routeOf : Document → Document
  | .obj fields => (Document.get? fields "route").getD (.obj fields)
  | document => document

def rulesOf : Document → Option Document
  | .obj route => Document.get? route "rules"
  | route => some route

/-- `route["final"]`, if there is one. -/
def finalOf : Document → Option Document
  | .obj route => Document.get? route "final"
  | _ => none

def trimBoms (content : String) : String :=
  String.ofList (content.toList.dropWhile (· == '\uFEFF'))

/-- `updated["rules"]` -/
def RoutingImport.updatedRules (payload : RoutingImport) (converted : List RoutingRule) :
    List RoutingRule :=
  match payload.mode with
  | .append => payload.policy.rules ++ converted
  | .replace => converted

/-- `updated["final"]` -/
def RoutingImport.updatedFinal (payload : RoutingImport) (route : Document) :
    Except String FinalAction :=
  match finalOf route with
  | some value => outboundAction (some value) "route.final"
  | none => .ok payload.policy.final

/-- `loads` is `json.loads` with its pairs. Rules that are already validated are not validated
again, so that `RoutingPolicy.model_validate` checks nothing new. -/
def importSingboxRouting (libs : Libraries) (loads : String → Option Document)
    (payload : RoutingImport) : Except String RoutingImportOut :=
  if maxImportBytes < payload.content.utf8ByteSize then .error "File exceeds 1 MiB"
  else
    match loads (trimBoms payload.content) with
    | none => .error "Invalid JSON: use a UTF-8 sing-box JSON configuration"
    | some document =>
      match document.duplicateKey with
      | some key => .error ("Duplicate JSON key: " ++ key)
      | none =>
        let route := routeOf document
        match rulesOf route with
        | some (.arr rules) => do
          if 200 < rules.length then .error "At most 200 source rules can be imported"
          else
            let converted ← convertRules libs rules
            let updated := payload.updatedRules converted
            if 200 < updated.length then .error "Combined rules exceed the 200-rule limit"
            else
              let final ← payload.updatedFinal route
              return ⟨{ payload.policy with final := final, rules := updated }, rules.length,
                converted.length⟩
        | _ => .error "Expected route.rules, a route object with rules, or a rules array"

end Grouproxy.Backend
