import Grouproxy.Verification.Backend.RateLimiter

/-! # The budgets of the endpoint classes

All requests of an address that are limited by address share one window of the limiter, whatever
the class of their endpoint. A class has a budget of its own exactly as long as no request finds
its limit used up by the other classes.
-/

namespace Grouproxy.RateLimit

open Grouproxy.Bundle SlidingWindow

/-- The classes of endpoints that are limited by address. -/
inductive EndpointClass where
  | login
  | verificationCodes
  | otherAuth
  | managementWrites
  | agentCalls
  deriving DecidableEq

def EndpointClass.limit : EndpointClass → ℤ
  | .login => 10
  | .verificationCodes => 5
  | .otherAuth => 30
  | .managementWrites => 20
  | .agentCalls => 50

def endpointClass (request : Request) : Option EndpointClass :=
  if startsWith request.path "/api/v1/auth/" then
    if request.path ∈ ["/api/v1/auth/login", "/api/v1/auth/register",
        "/api/v1/auth/gquan/login"] then some .login
    else if request.path = "/api/v1/auth/verification-codes" then some .verificationCodes
    else some .otherAuth
  else if request.authorization.getD "" ≠ "" then none
  else if startsWith request.path "/api/v1/" ∧
      request.method ∈ ["POST", "PUT", "PATCH", "DELETE"] then some .managementWrites
  else if startsWith request.path "/agent/v1/" then some .agentCalls
  else none

variable {hashes : Hashes} {windows : Windows} {events : List Event} {address : String}
  {request : Request} {config : RateConfig} {now : ℚ} {c : EndpointClass}

/-! ## The keys of the limiter -/

def ipKey (address : String) : String := "ip:" ++ address

/-- A key that starts as the keys of callers do. -/
def IsCallerKey (key : String) : Prop :=
  key.toList.head? = some 'u' ∨ key.toList.head? = some 'a'

theorem isCallerKey_user (token : String) : IsCallerKey ("user:" ++ token) :=
  .inl (by simp)

theorem isCallerKey_agent (token : String) : IsCallerKey ("agent:" ++ token) :=
  .inr (by simp)

/-- What the middleware looks up: a class by the address, or a caller by the token. -/
theorem rateConfig_cases :
    (∃ c, endpointClass request = some c ∧ rateConfig hashes request = some ⟨c.limit, 60, "ip"⟩) ∨
      endpointClass request = none ∧ (rateConfig hashes request = none ∨
        ∃ limit key, rateConfig hashes request = some ⟨limit, 60, key⟩ ∧ IsCallerKey key) := by
  simp only [endpointClass, rateConfig]
  split_ifs
  · exact .inl ⟨.login, rfl, rfl⟩
  · exact .inl ⟨.verificationCodes, rfl, rfl⟩
  · exact .inl ⟨.otherAuth, rfl, rfl⟩
  · exact .inr ⟨rfl, .inr ⟨_, _, rfl, isCallerKey_user _⟩⟩
  · exact .inr ⟨rfl, .inr ⟨_, _, rfl, isCallerKey_agent _⟩⟩
  · exact .inr ⟨rfl, .inl rfl⟩
  · exact .inl ⟨.managementWrites, rfl, rfl⟩
  · exact .inl ⟨.agentCalls, rfl, rfl⟩
  · exact .inr ⟨rfl, .inl rfl⟩

theorem rateKey_ip {limit : ℤ} : rateKey address ⟨limit, 60, "ip"⟩ = some (ipKey address) :=
  if_pos rfl

theorem IsCallerKey.ne_ipKey {key : String} (h : IsCallerKey key) : key ≠ ipKey address := by
  rintro rfl
  simp [IsCallerKey, ipKey] at h

theorem IsCallerKey.ne_empty {key : String} (h : IsCallerKey key) : key ≠ "" := by
  rintro rfl
  simp [IsCallerKey] at h

theorem IsCallerKey.rateKey {key : String} (h : IsCallerKey key) {limit : ℤ} :
    rateKey address ⟨limit, 60, key⟩ = some key := by
  have hip : key ≠ "ip" := by
    rintro rfl
    simp [IsCallerKey] at h
  have hnone : key ≠ "none" := by
    rintro rfl
    simp [IsCallerKey] at h
  rw [RateLimit.rateKey, if_neg hip, if_neg hnone]

theorem ipKey_ne_empty : ipKey address ≠ "" := by
  intro h
  have hlist := congrArg String.toList h
  simp [ipKey] at hlist

theorem ipKey_injective : Function.Injective ipKey := by
  intro a b h
  have hlist := congrArg String.toList h
  rw [ipKey, ipKey, String.toList_append, String.toList_append] at hlist
  exact String.toList_inj.mp (List.append_cancel_left hlist)

/-- The call of the limiter that an event leads to. -/
def Event.call? (hashes : Hashes) : Event → Option Call
  | .request now request =>
    match rateConfig hashes request with
    | none => none
    | some config =>
      (rateKey (clientIp request) config).map fun key =>
        .check now key config.limit config.window
  | .cleanup now => some (.cleanup now)

theorem dispatch_of_key {key : String} (hconfig : rateConfig hashes request = some config)
    (hkey : rateKey (clientIp request) config = some key) (hne : key ≠ "") :
    Event.call? hashes (.request now request) =
        some (.check now key config.limit config.window) ∧
      (dispatch hashes windows now request).1.isNone =
        (checkRateLimit windows now key config.limit config.window).1.1 ∧
      (dispatch hashes windows now request).2 =
        (checkRateLimit windows now key config.limit config.window).2 := by
  simp only [Event.call?, dispatch, hconfig, hkey, if_neg hne, Option.map_some, true_and]
  cases (checkRateLimit windows now key config.limit config.window).1.1 <;> simp

/-- A request for a class takes a slot of its address, a request of a caller one of the caller, and
any other request takes none. -/
theorem dispatch_cases (hashes : Hashes) (windows : Windows) (now : ℚ) (request : Request) :
    (∃ c key, endpointClass request = some c ∧ key = ipKey (clientIp request) ∧
      Event.call? hashes (.request now request) = some (.check now key c.limit 60) ∧
      (dispatch hashes windows now request).1.isNone =
        (checkRateLimit windows now key c.limit 60).1.1 ∧
      (dispatch hashes windows now request).2 = (checkRateLimit windows now key c.limit 60).2) ∨
    endpointClass request = none ∧
      (Event.call? hashes (.request now request) = none ∧
          (dispatch hashes windows now request).2 = windows ∨
        ∃ key limit, IsCallerKey key ∧
          Event.call? hashes (.request now request) = some (.check now key limit 60) ∧
          (dispatch hashes windows now request).2 =
            (checkRateLimit windows now key limit 60).2) := by
  rcases @rateConfig_cases hashes request with ⟨c, hclass, hconfig⟩ | ⟨hclass, hnone | hcaller⟩
  · obtain ⟨hcall, hverdict, hafter⟩ := @dispatch_of_key hashes windows request _ now _ hconfig
      rateKey_ip ipKey_ne_empty
    exact .inl ⟨c, _, hclass, rfl, hcall, hverdict, hafter⟩
  · exact .inr ⟨hclass, .inl ⟨by simp [Event.call?, hnone], by simp [dispatch, hnone]⟩⟩
  · obtain ⟨limit, key, hconfig, hkey⟩ := hcaller
    obtain ⟨hcall, -, hafter⟩ := @dispatch_of_key hashes windows request _ now _ hconfig
      hkey.rateKey hkey.ne_empty
    exact .inr ⟨hclass, .inr ⟨key, limit, hkey, hcall, hafter⟩⟩

/-- The request for a slot of its class that an event from the address makes. -/
def Event.classRequest? (address : String) :
    Event → Option (SlidingWindow.Request EndpointClass ℚ)
  | .request now request =>
    if clientIp request = address then
      (endpointClass request).map fun c => ⟨now, c, c.limit⟩
    else none
  | .cleanup _ => none

/-- The class of a request from the address, and whether it passed. -/
def Exchange.verdict? (address : String) (e : Exchange) : Option (EndpointClass × Bool) :=
  if clientIp e.request = address then
    (endpointClass e.request).map fun c => (c, e.response.isNone)
  else none

/-- The verdicts for the requests from an address that are in a class. -/
def verdicts (address : String) (exchanges : List Exchange) : List (EndpointClass × Bool) :=
  exchanges.filterMap (Exchange.verdict? address)

/-- The requests from an address that are in a class. -/
def classRequests (address : String) (events : List Event) :
    List (SlidingWindow.Request EndpointClass ℚ) :=
  events.filterMap (Event.classRequest? address)

/-- All classes share the window of the address. -/
def onAddress (address : String) (_ : EndpointClass) : String := ipKey address

/-- The answers of windows of their own for the classes of an address. -/
def ownAnswers (address : String) (events : List Event) : List (Answer EndpointClass ℚ) :=
  answers (fun _ => 60) (classRequests address events)

theorem map_fst_verdicts : (verdicts address (serve hashes windows events)).map Prod.fst =
    (classRequests address events).map SlidingWindow.Request.key := by
  induction events generalizing windows with
  | nil => rfl
  | cons e events ih =>
      cases e with
      | request now request =>
          simp only [serve, verdicts, classRequests] at ih ⊢
          by_cases h : clientIp request = address
          · cases hclass : endpointClass request with
            | none => simpa [Exchange.verdict?, Event.classRequest?, h, hclass] using ih
            | some c => simpa [Exchange.verdict?, Event.classRequest?, h, hclass] using ih
          · simpa [Exchange.verdict?, Event.classRequest?, h] using ih
      | cleanup now => exact ih

/-- The requests that the limiter receives under the key of an address are those in its classes. -/
theorem requests_ipKey : ((events.filterMap (Event.call? hashes)).filterMap Call.request?).filter
      (fun r => decide (r.key = ipKey address)) =
    (classRequests address events).map (Request.onKey (onAddress address)) := by
  induction events with
  | nil => rfl
  | cons e events ih =>
      rw [classRequests] at ih ⊢
      cases e with
      | cleanup now => exact ih
      | request now request =>
          rcases dispatch_cases hashes noWindows now request with
            ⟨c, key, hclass, rfl, hcall, -⟩ | ⟨hclass, ⟨hcall, -⟩ | ⟨key, limit, hkey, hcall, -⟩⟩
          · rw [List.filterMap_cons_some hcall]
            by_cases h : clientIp request = address
            · simpa [Call.request?, Event.classRequest?, h, hclass, Request.onKey, onAddress] using
                ih
            · simpa [Call.request?, Event.classRequest?, h, ipKey_injective.eq_iff] using ih
          · rw [List.filterMap_cons_none hcall]
            simpa [Event.classRequest?, hclass] using ih
          · rw [List.filterMap_cons_some hcall]
            simpa [Call.request?, Event.classRequest?, hclass, hkey.ne_ipKey] using ih

/-- The requests for the classes of an address get the answers of the limiter under its key. -/
theorem map_snd_verdicts : (verdicts address (serve hashes windows events)).map Prod.snd =
    ((answersOf windows (events.filterMap (Event.call? hashes))).filter
      fun a => decide (a.key = ipKey address)).map Answer.granted := by
  induction events generalizing windows with
  | nil => rfl
  | cons e events ih =>
      simp only [verdicts] at ih ⊢
      cases e with
      | cleanup now => exact ih
      | request now request =>
          simp only [serve]
          rcases dispatch_cases hashes windows now request with
            ⟨c, key, hclass, rfl, hcall, hverdict, hafter⟩ |
            ⟨hclass, ⟨hcall, hafter⟩ | ⟨key, limit, hkey, hcall, hafter⟩⟩
          · rw [List.filterMap_cons_some hcall, answersOf, hafter]
            by_cases h : clientIp request = address
            · simpa [Exchange.verdict?, h, hclass, hverdict] using ih
            · simpa [Exchange.verdict?, h, ipKey_injective.eq_iff] using ih
          · rw [List.filterMap_cons_none hcall, hafter]
            simpa [Exchange.verdict?, hclass] using ih
          · rw [List.filterMap_cons_some hcall, answersOf, hafter]
            simpa [Exchange.verdict?, hclass, hkey.ne_ipKey] using ih

/-! ## Budgets -/

/-- The verdicts for each class are those of a sliding window that sees the requests of the class
from the address, with the limit of the class, and no others. -/
def HasOwnBudgets (hashes : Hashes) (address : String) (events : List Event) : Prop :=
  ∀ c, ((verdicts address (serve hashes noWindows events)).filter
      fun v => decide (v.1 = c)).map Prod.snd =
    (answers (fun _ => 60)
      ((classRequests address events).filter fun r => decide (r.key = c))).map Answer.granted

theorem calls_now_mono (hclock : events.Pairwise fun d e => d.now ≤ e.now) :
    (events.filterMap (Event.call? hashes)).Pairwise fun c d => c.now ≤ d.now := by
  have hnow : ∀ e c, Event.call? hashes e = some c → c.now = e.now := by
    intro e c hcall
    cases e with
    | cleanup now =>
        cases hcall
        rfl
    | request now request =>
        rw [Event.call?] at hcall
        cases hconfig : rateConfig hashes request with
        | none => simp [hconfig] at hcall
        | some config =>
            rw [hconfig] at hcall
            obtain ⟨key, -, rfl⟩ := Option.map_eq_some_iff.mp hcall
            rfl
  apply List.Pairwise.filterMap (Event.call? hashes) _ hclock
  intro d e hle c hc c' hc'
  rw [hnow d c hc, hnow e c' hc']
  exact hle

theorem calls_hasWindow : ∀ c ∈ events.filterMap (Event.call? hashes), c.HasWindow fun _ => 60 := by
  intro c hc
  obtain ⟨e, -, hcall⟩ := List.mem_filterMap.mp hc
  cases e with
  | cleanup now =>
      cases hcall
      trivial
  | request now request =>
      rcases dispatch_cases hashes noWindows now request with
        ⟨c, key, -, -, heq, -⟩ | ⟨-, ⟨heq, -⟩ | ⟨key, limit, -, heq, -⟩⟩
      · rw [heq] at hcall
        cases hcall
        rfl
      · rw [heq] at hcall
        cases hcall
      · rw [heq] at hcall
        cases hcall
        rfl

/-- The verdicts of an address are those of one window that all classes share. -/
theorem map_snd_verdicts_eq (hclock : events.Pairwise fun d e => d.now ≤ e.now) :
    (verdicts address (serve hashes noWindows events)).map Prod.snd =
      (answers (fun _ => 60)
        ((classRequests address events).map (Request.onKey (onAddress address)))).map
          Answer.granted := by
  have hwindow : ∀ _ : String, (60 : ℤ) ≤ 3600 := fun _ => by decide
  have hwidth : width (fun _ => 60) = fun _ => (60 : ℚ) := by
    funext key
    norm_num [width]
  rw [map_snd_verdicts, answersOf_eq_answers hwindow (calls_now_mono hclock) calls_hasWindow,
    answers_filter_key, requests_ipKey, hwidth]

/-- Two labelled lists with the same labels agree if they do label by label. -/
theorem map_snd_eq_iff {κ β : Type} [DecidableEq κ] {l l' : List (κ × β)}
    (h : l.map Prod.fst = l'.map Prod.fst) :
    l.map Prod.snd = l'.map Prod.snd ↔ ∀ k,
      (l.filter fun v => decide (v.1 = k)).map Prod.snd =
        (l'.filter fun v => decide (v.1 = k)).map Prod.snd := by
  induction l generalizing l' with
  | nil =>
      cases l' with
      | nil => simp
      | cons v' l' => cases h
  | cons v l ih =>
      cases l' with
      | nil => cases h
      | cons v' l' =>
          obtain ⟨hlabel, hrest⟩ := List.cons.inj h
          constructor
          · intro heq k
            obtain ⟨hhead, htail⟩ := List.cons.inj heq
            have hnext := (ih hrest).mp htail k
            by_cases hk : v.1 = k
            · simpa [hk, ← hlabel, hhead] using hnext
            · simpa [hk, ← hlabel] using hnext
          · intro hall
            have hhead : v.2 = v'.2 := by
              have hfirst := hall v.1
              simp [hlabel] at hfirst
              exact hfirst.1
            have htail : l.map Prod.snd = l'.map Prod.snd := by
              apply (ih hrest).mpr
              intro k
              have hk := hall k
              by_cases hv : v.1 = k
              · simpa [hv, ← hlabel, hhead] using hk
              · simpa [hv, ← hlabel] using hk
            rw [List.map_cons, List.map_cons, hhead, htail]

theorem map_granted_filter_answers (c : EndpointClass)
    (requests : List (SlidingWindow.Request EndpointClass ℚ)) :
    (answers (fun _ => 60) (requests.filter fun r => decide (r.key = c))).map Answer.granted =
      (((answers (fun _ => 60) requests).map fun a => (a.key, a.granted)).filter
        fun v => decide (v.1 = c)).map Prod.snd := by
  rw [← answers_filter_key, List.filter_map, List.map_map]
  rfl

theorem classRequest?_eq_some_iff {e : Event} {r : SlidingWindow.Request EndpointClass ℚ} :
    Event.classRequest? address e = some r ↔ ∃ now request c, e = .request now request ∧
      clientIp request = address ∧ endpointClass request = some c ∧ r = ⟨now, c, c.limit⟩ := by
  constructor
  · intro h
    cases e with
    | cleanup now => cases h
    | request now request =>
        rw [Event.classRequest?] at h
        split at h
        · rename_i haddress
          obtain ⟨c, hclass, rfl⟩ := Option.map_eq_some_iff.mp h
          exact ⟨now, request, c, rfl, haddress, hclass, rfl⟩
        · cases h
  · rintro ⟨now, request, c, rfl, haddress, hclass, rfl⟩
    rw [Event.classRequest?, if_pos haddress, hclass]
    rfl

/-- Every class has its own budget exactly if no request finds the budget used up by the other
classes: the requests from the address granted within the last minute, over all classes, are fewer
than the limit of its class, or those of its own class alone have used it up. -/
theorem hasOwnBudgets_iff (hclock : events.Pairwise fun d e => d.now ≤ e.now) :
    HasOwnBudgets hashes address events ↔
      ∀ before now request after c, events = before ++ .request now request :: after →
        clientIp request = address → endpointClass request = some c →
        KeepsBudget (onAddress address) (fun _ => (60 : ℚ)) (ownAnswers address before)
          ⟨now, c, c.limit⟩ := by
  have hlabels : (verdicts address (serve hashes noWindows events)).map Prod.fst =
      ((ownAnswers address events).map fun a => (a.key, a.granted)).map Prod.fst := by
    rw [map_fst_verdicts, List.map_map, ownAnswers, answers]
    exact map_key_answersFrom.symm
  have hsplit : HasOwnBudgets hashes address events ↔
      (verdicts address (serve hashes noWindows events)).map Prod.snd =
        (ownAnswers address events).map Answer.granted := by
    have hlists := map_snd_eq_iff hlabels
    rw [List.map_map] at hlists
    rw [HasOwnBudgets]
    simp only [map_granted_filter_answers]
    exact hlists.symm
  rw [hsplit, map_snd_verdicts_eq hclock, ownAnswers, granted_answers_onKey_iff fun _ => rfl]
  constructor
  · rintro hall before now request after c rfl haddress hclass
    have hr := classRequest?_eq_some_iff.mpr ⟨now, request, c, rfl, haddress, hclass, rfl⟩
    apply hall (classRequests address before) ⟨now, c, c.limit⟩ (classRequests address after)
    rw [classRequests, List.filterMap_append, List.filterMap_cons_some hr]
    rfl
  · intro hall before r after heq
    obtain ⟨prior, rest, rfl, rfl, hrest⟩ := List.filterMap_eq_append_iff.mp heq
    obtain ⟨skipped, e, later, rfl, hskipped, hr, rfl⟩ := List.filterMap_eq_cons_iff.mp hrest
    obtain ⟨now, request, c, rfl, haddress, hclass, rfl⟩ := classRequest?_eq_some_iff.mp hr
    have hkeeps := hall (prior ++ skipped) now request later c (by simp) haddress hclass
    rw [ownAnswers, classRequests, List.filterMap_append,
      List.filterMap_eq_nil_iff.mpr hskipped, List.append_nil] at hkeeps
    exact hkeeps

def loginRequest : Request := ⟨"/api/v1/auth/login", "POST", some "203.0.113.9", none⟩

def codeRequest : Request := ⟨"/api/v1/auth/verification-codes", "POST", some "203.0.113.9", none⟩

/-- Five logins, and a request for a verification code a second later. -/
def sampleEvents : List Event :=
  List.replicate 5 (.request 0 loginRequest) ++ [.request 1 codeRequest]

def sampleHashes : Hashes := ⟨fun _ => [], fun _ _ => []⟩

/-- The only request for a verification code is refused. -/
theorem hasOwnBudgets_shared :
    ¬ HasOwnBudgets sampleHashes "203.0.113.9" sampleEvents := by
  intro h
  have hcodes := h .verificationCodes
  revert hcodes
  decide +kernel

/-- Five logins at once; a minute later two requests for verification codes, with a login between
them. -/
def spreadEvents : List Event :=
  List.replicate 5 (.request 0 loginRequest) ++
    [.request 61 codeRequest, .cleanup 62, .request 63 loginRequest, .request 64 codeRequest]

theorem hasOwnBudgets_iff_sample :
    HasOwnBudgets sampleHashes "203.0.113.9" spreadEvents := by
  apply (hasOwnBudgets_iff (by decide +kernel)).mpr
  intro before now request after c heq haddress hclass
  have hall : ∀ i < spreadEvents.length,
      ∀ r ∈ spreadEvents[i]?.bind (Event.classRequest? "203.0.113.9"),
        KeepsBudget (onAddress "203.0.113.9") (fun _ => (60 : ℚ))
          (ownAnswers "203.0.113.9" (spreadEvents.take i)) r := by
    decide +kernel
  have hplace : spreadEvents.take before.length = before ∧
      spreadEvents[before.length]? = some (.request now request) := by
    rw [heq]
    simp
  rw [← hplace.1]
  apply hall
  · rw [heq]
    simp
  · rw [hplace.2]
    exact classRequest?_eq_some_iff.mpr ⟨now, request, c, rfl, haddress, hclass, rfl⟩

end Grouproxy.RateLimit
