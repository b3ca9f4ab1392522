import Grouproxy.Model.Store

/-! # The backend's routing policy

Validation of a routing policy, with the normalization of its patterns, and its dump into a
bundle. A `ValidationError` is the absence of a result.
-/

namespace Grouproxy.Backend

open Text Ipaddress Encoding Crypto Cidr

/-- What the backend takes from libraries: lower case and the `idna` codec outside ASCII, the
readers of JSON and YAML texts, `str` of a list or a dictionary, and the report of a failed
validation. -/
structure Libraries where
  lower : String → String
  idna : String → Option String
  jsonLoads : String → Option Json
  yamlLoad : String → Option Json
  reprOf : Json → String
  validationReport : Json → String

/-! ## Dictionaries -/

/-- `d.get(key)`, with `null` for `None`. -/
def dictGet (d : Dict) (key : String) : Json := ((d.find? fun f => f.1 == key).map Prod.snd).getD .null

def isNone : Json → Bool
  | .null => true
  | _ => false

/-! ## Patterns -/

def isAscii (s : String) : Bool := s.toList.all fun c => c.toNat < 128

/-- `str.lower` -/
def lower (libs : Libraries) (s : String) : String :=
  if isAscii s then String.ofList (s.toList.map Char.toLower) else libs.lower s

/-- The `idna` codec leaves an ASCII name alone. It refuses labels of 64 characters or more, and
an empty label unless it is the last. -/
def encodeIdna (libs : Libraries) (s : String) : Option String :=
  if isAscii s then
    let labels := s.toList.splitOn '.'
    if (labels.dropLast.all fun label => 0 < label.length && label.length < 64) &&
        labels.getLast?.all fun label => label.length < 64 then some s
    else none
  else libs.idna s

/-- `value.removeprefix(".").rstrip(".")` -/
def trimDots (cs : List Char) : List Char :=
  let rest := if cs.head? = some '.' then cs.tail else cs
  (rest.reverse.dropWhile (· == '.')).reverse

inductive RuleKind where
  | domain
  | domainSuffix
  | ipCidr
  deriving DecidableEq

inductive RuleAction where
  | direct
  | proxy
  | reject
  deriving DecidableEq

inductive FinalAction where
  | proxy
  | direct
  deriving DecidableEq

def normalizeDomain (libs : Libraries) (value : String) : Option String :=
  match encodeIdna libs (String.ofList (trimDots value.toList)) with
  | none => none
  | some name =>
    if ¬ isAscii name then none
    else if 253 < name.toList.length ∨ ¬ (name.toList.splitOn '.').all isHostnameLabel then none
    else if (ipAddress name).isSome then none
    else some name

def normalizePattern (libs : Libraries) (kind : RuleKind) (value : String) : Option String :=
  let value := lower libs (strip value)
  match kind with
  | .ipCidr => (ipNetwork value).map fun network => String.ofList (networkText network)
  | .domain | .domainSuffix => normalizeDomain libs value

/-! ## Models -/

structure RoutingRule where
  kind : RuleKind
  pattern : String
  action : RuleAction
  deriving DecidableEq

/-- `mode` has one value and is not kept. -/
structure RoutingPolicy where
  privateDirect : Bool
  cnDirect : Bool
  final : FinalAction
  rules : List RoutingRule
  deriving DecidableEq

def RuleKind.text : RuleKind → String
  | .domain => "domain"
  | .domainSuffix => "domain_suffix"
  | .ipCidr => "ip_cidr"

def RuleAction.text : RuleAction → String
  | .direct => "direct"
  | .proxy => "proxy"
  | .reject => "reject"

def FinalAction.text : FinalAction → String
  | .proxy => "proxy"
  | .direct => "direct"

/-- A `Literal` field. -/
def literal {α : Type} (values : List α) (text : α → String) : Json → Option α
  | .str s => values.find? fun value => text value == s
  | _ => none

/-- A `bool` field also takes 0 and 1 and the usual words for true and false, in any case. -/
def boolField : Json → Option Bool
  | .bool b => some b
  | .int n => if n.val = 0 then some false else if n.val = 1 then some true else none
  | .str s =>
    let word := String.ofList (s.toList.map Char.toLower)
    if word ∈ ["0", "off", "f", "false", "n", "no"] then some false
    else if word ∈ ["1", "on", "t", "true", "y", "yes"] then some true
    else none
  | _ => none

/-- A field with a default: only a missing key takes it. -/
def withDefault {α : Type} (d : Dict) (key : String) (read : Json → Option α) (default : α) :
    Option α :=
  match d.find? fun f => f.1 == key with
  | none => some default
  | some f => read f.2

def ruleFields : List String := ["kind", "pattern", "action"]

def policyKeys : List String := ["mode", "private_direct", "cn_direct", "final", "rules"]

def validateRule (libs : Libraries) : Json → Option RoutingRule
  | .obj fields => do
    guard (fields.all fun f => f.1 ∈ ruleFields)
    let kind ← literal [.domain, .domainSuffix, .ipCidr] RuleKind.text (dictGet fields "kind")
    let action ← literal [.direct, .proxy, .reject] RuleAction.text (dictGet fields "action")
    match dictGet fields "pattern" with
    | .str pattern =>
      guard (1 ≤ pattern.toList.length ∧ pattern.toList.length ≤ 253)
      let pattern ← normalizePattern libs kind pattern
      return ⟨kind, pattern, action⟩
    | _ => none
  | _ => none

def validateRules (libs : Libraries) : Json → Option (List RoutingRule)
  | .arr items => do
    guard (items.length ≤ 200)
    items.mapM (validateRule libs)
  | _ => none

/-- `RoutingPolicy.model_validate` -/
def RoutingPolicy.modelValidate (libs : Libraries) : Json → Option RoutingPolicy
  | .obj fields => do
    guard (fields.all fun f => f.1 ∈ policyKeys)
    let _ ← withDefault fields "mode" (literal ["rule"] id) "rule"
    let privateDirect ← withDefault fields "private_direct" boolField true
    let cnDirect ← withDefault fields "cn_direct" boolField true
    let final ← withDefault fields "final" (literal [.proxy, .direct] FinalAction.text) .proxy
    let rules ← withDefault fields "rules" (validateRules libs) []
    return ⟨privateDirect, cnDirect, final, rules⟩
  | _ => none

def RoutingRule.modelDump (rule : RoutingRule) : Json :=
  .obj [("kind", .str rule.kind.text), ("pattern", .str rule.pattern),
    ("action", .str rule.action.text)]

def RoutingPolicy.modelDump (policy : RoutingPolicy) : Json :=
  .obj [("mode", .str "rule"), ("private_direct", .bool policy.privateDirect),
    ("cn_direct", .bool policy.cnDirect), ("final", .str policy.final.text),
    ("rules", .arr (policy.rules.map RoutingRule.modelDump))]

/-- A policy that sends something to the subscription. -/
def RoutingPolicy.usesProxy (policy : RoutingPolicy) : Bool :=
  policy.final == .proxy || policy.rules.any fun rule => rule.action == .proxy

end Grouproxy.Backend
