import Mathlib.Data.List.Basic
import Grouproxy.Library.Value

/-! # The monitor's probes

A probe switches the selector through the outbounds to be probed and restores its choice. A call of
the Clash API that reports a failure may or may not have taken effect.
-/

namespace Grouproxy.Probing

open Text Value

/-! ## Tags -/

/-- The loop of `uniqueProbeTags`. What has been seen is what is in the result. -/
def uniqueProbeTagsFrom (max : ℕ) (result : List String) : List String → List String
  | [] => result
  | value :: values =>
    let value := trimSpace value
    if value = "" ∨ value = "subscription" ∨ value = "direct" ∨ value = "block" then
      uniqueProbeTagsFrom max result values
    else if value ∈ result then uniqueProbeTagsFrom max result values
    else if max ≤ (result ++ [value]).length then result ++ [value]
    else uniqueProbeTagsFrom max (result ++ [value]) values

def uniqueProbeTags (values : List String) (max : ℕ) : List String :=
  uniqueProbeTagsFrom max [] values

def isSubscriptionSelector (raw : Any) : Option Fields :=
  match raw.asMap? with
  | none => none
  | some entry =>
    if stringValue (entry.get "type") ≠ "selector" ∨ stringValue (entry.get "tag") ≠ "subscription"
    then none
    else some entry

/-- The tags in the first configuration that has the selector. A file that cannot be read or decoded
is `none`. -/
def configuredProbeTags (max : ℕ) (configs : List (Option Fields)) : List String :=
  let outbounds := fun config : Option Fields =>
    ((config.getD []).get "outbounds").asArr?.getD []
  match (configs.flatMap outbounds).findSome? isSubscriptionSelector with
  | none => []
  | some entry => uniqueProbeTags (stringSlice (entry.get "outbounds")) max

/-! ## Calls -/

structure ClashSelector where
  now : String
  all : List String

inductive Reply where
  | ok
  | error (tookEffect : Bool)
  deriving DecidableEq

structure ProbeResult where
  outboundTag : String
  targetUrl : String
  success : Bool
  latencyMs : Int
  errorClass : String
  deriving DecidableEq

structure ProbeRequest where
  taskId : String
  targetUrl : String
  outboundTags : List String

/-- What a probe depends on besides its request. -/
structure Environment where
  probeMaxOutbounds : ℕ
  configs : List (Option Fields)
  /-- The answer to the call that selects an outbound. -/
  reply : String → Reply
  /-- The result of `probeThroughProxy` while an outbound is probed. -/
  probeThroughProxy : String → Bool × String × Int

/-- A probe under way: the selector's choice, the calls that changed it, and the variables. -/
structure Run where
  selected : String
  calls : List String
  current : String
  changed : Bool
  results : List ProbeResult
  deriving DecidableEq

section Probe

variable (env : Environment) (request : ProbeRequest)

/-- The answer is whether the call reports success. -/
def selectOutbound (tag : String) (run : Run) : Bool × Run :=
  match env.reply tag with
  | .ok => (true, { run with selected := tag, calls := run.calls ++ [tag] })
  | .error tookEffect =>
    (false, { run with
      selected := if tookEffect then tag else run.selected
      calls := run.calls ++ [tag] })

def probeResult (tag : String) (success : Bool) (errorClass : String) (latency : Int) :
    ProbeResult :=
  { outboundTag := tag
    targetUrl := request.targetUrl
    success := success
    latencyMs := latency
    errorClass := errorClass }

def failProbe (tag errorClass : String) (run : Run) : Run :=
  { run with results := run.results ++ [probeResult request tag false errorClass 0] }

def probeCurrent (tag : String) (run : Run) : Run :=
  let (success, errorClass, latency) := env.probeThroughProxy tag
  { run with results := run.results ++ [probeResult request tag success errorClass latency] }

/-- The body of the loop over the tags. -/
def probeTag (selectorErr : Bool) (available : List String) (run : Run) (tag : String) : Run :=
  if selectorErr then failProbe request tag "selector_unavailable" run
  else if tag ∉ available then failProbe request tag "outbound_not_found" run
  else if tag ≠ run.current then
    match selectOutbound env tag run with
    | (false, run) => failProbe request tag "selector_switch_error" run
    | (true, run) => probeCurrent env request tag { run with current := tag, changed := true }
  else probeCurrent env request tag run

/-- The outbounds that may be selected. -/
def availableTags (selector : ClashSelector) : List String :=
  if selector.all = [] then configuredProbeTags env.probeMaxOutbounds env.configs else selector.all

/-- The outbounds to be probed. -/
def probeTags (selector : ClashSelector) : List String :=
  let requested := uniqueProbeTags request.outboundTags env.probeMaxOutbounds
  let listed := uniqueProbeTags (availableTags env selector) env.probeMaxOutbounds
  if requested ≠ [] then requested
  else if listed ≠ [] then listed
  else ["subscription"]

/-- The call that restores the choice is deferred to the end. -/
def restore (selectorErr : Bool) (original : String) (run : Run) : Run :=
  if selectorErr = false ∧ original ≠ "" ∧ run.changed = true ∧ run.current ≠ original then
    (selectOutbound env original run).2
  else run

/-- A probe with what `readSubscriptionSelector` returned, when the selector's choice is
`selected`. -/
def executeProbe (selector : ClashSelector) (selectorErr : Bool) (selected : String) : Run :=
  let start : Run :=
    { selected := selected, calls := [], current := selector.now, changed := false, results := [] }
  let finished := (probeTags env request selector).foldl
    (probeTag env request selectorErr (availableTags env selector)) start
  restore env selectorErr selector.now finished

end Probe

end Grouproxy.Probing
