import Mathlib.Algebra.Order.Group.Defs
import Mathlib.Data.List.Basic

/-! # Sliding windows

Requests that are answered one after another: a request is granted as long as fewer than its limit
were granted to its key within the width of the key's window before it.
-/

namespace Grouproxy.SlidingWindow

structure Request (κ τ : Type) where
  time : τ
  key : κ
  limit : ℤ

structure Answer (κ τ : Type) where
  time : τ
  key : κ
  granted : Bool
  remaining : ℤ
  deriving DecidableEq

variable {κ τ ι : Type} [DecidableEq κ] [LinearOrder τ] {width : κ → τ}
  {earlier later answered : List (Answer κ τ)} {requests : List (Request κ τ)}
  {r : Request κ τ} {a : Answer κ τ} {key : κ} {start : τ}

/-! ## What a window holds -/

/-- The answers by which a key was granted a request after a time. -/
def grantedSince (answered : List (Answer κ τ)) (key : κ) (start : τ) : List (Answer κ τ) :=
  answered.filter fun a => a.granted && decide (a.key = key) && decide (start < a.time)

@[simp] theorem grantedSince_append : grantedSince (earlier ++ later) key start =
    grantedSince earlier key start ++ grantedSince later key start :=
  List.filter_append _ _

/-- Only the answers to a key count for it. -/
theorem grantedSince_filter_key : grantedSince (answered.filter fun a => decide (a.key = key)) key
    start = grantedSince answered key start := by
  rw [grantedSince, List.filter_filter, grantedSince]
  apply List.filter_congr
  intro a _
  cases decide (a.key = key) <;> simp

/-! ## Answers -/

variable [AddCommGroup τ]

/-- The answer to a request that comes after the answers `earlier`. -/
def answer (width : κ → τ) (earlier : List (Answer κ τ)) (r : Request κ τ) : Answer κ τ :=
  let used := (grantedSince earlier r.key (r.time - width r.key)).length
  if r.limit ≤ used then ⟨r.time, r.key, false, 0⟩
  else ⟨r.time, r.key, true, r.limit - used - 1⟩

def answersFrom (width : κ → τ) (earlier : List (Answer κ τ)) :
    List (Request κ τ) → List (Answer κ τ)
  | [] => []
  | r :: requests =>
    answer width earlier r :: answersFrom width (earlier ++ [answer width earlier r]) requests

def answers (width : κ → τ) (requests : List (Request κ τ)) : List (Answer κ τ) :=
  answersFrom width [] requests

theorem answer_of_le (h : r.limit ≤ (grantedSince earlier r.key (r.time - width r.key)).length) :
    answer width earlier r = ⟨r.time, r.key, false, 0⟩ :=
  if_pos h

theorem answer_of_lt (h : (grantedSince earlier r.key (r.time - width r.key)).length < r.limit) :
    answer width earlier r = ⟨r.time, r.key, true,
      r.limit - (grantedSince earlier r.key (r.time - width r.key)).length - 1⟩ :=
  if_neg (not_le.mpr h)

@[simp] theorem answer_time : (answer width earlier r).time = r.time := by
  simp only [answer]
  split <;> rfl

@[simp] theorem answer_key : (answer width earlier r).key = r.key := by
  simp only [answer]
  split <;> rfl

theorem answer_granted_iff : (answer width earlier r).granted = true ↔
    (grantedSince earlier r.key (r.time - width r.key)).length < r.limit := by
  rcases lt_or_ge ((grantedSince earlier r.key (r.time - width r.key)).length : ℤ) r.limit with
    hlt | hle
  · simp [answer_of_lt hlt, hlt]
  · simp [answer_of_le hle, hle]

theorem answer_granted_eq_false_iff : (answer width earlier r).granted = false ↔
    r.limit ≤ (grantedSince earlier r.key (r.time - width r.key)).length := by
  rw [← Bool.not_eq_true, answer_granted_iff, not_lt]

theorem answer_filter_key : answer width (earlier.filter fun a => decide (a.key = r.key)) r =
    answer width earlier r := by
  simp only [answer, grantedSince_filter_key]

theorem map_time_answersFrom :
    (answersFrom width earlier requests).map Answer.time = requests.map Request.time := by
  induction requests generalizing earlier with
  | nil => rfl
  | cons r requests ih => simp [answersFrom, ih]

theorem map_key_answersFrom :
    (answersFrom width earlier requests).map Answer.key = requests.map Request.key := by
  induction requests generalizing earlier with
  | nil => rfl
  | cons r requests ih => simp [answersFrom, ih]

/-- An answer in its place is the answer after those before it. -/
theorem answersFrom_eq_append_cons (h : answersFrom width earlier requests = answered ++ a :: later) :
    ∃ before r after, requests = before ++ r :: after ∧
      answered = answersFrom width earlier before ∧
      a = answer width (earlier ++ answered) r := by
  induction answered generalizing earlier requests with
  | nil =>
      cases requests with
      | nil => cases h
      | cons r requests =>
          obtain ⟨rfl, -⟩ := List.cons.inj h
          exact ⟨[], r, requests, rfl, rfl, by rw [List.append_nil]⟩
  | cons b answered ih =>
      cases requests with
      | nil => cases h
      | cons r requests =>
          obtain ⟨rfl, hrest⟩ := List.cons.inj h
          obtain ⟨before, x, after, rfl, heq, ha⟩ := ih hrest
          refine ⟨r :: before, x, after, rfl, by rw [answersFrom, heq], ?_⟩
          simpa using ha

/-! ## Keys do not influence each other -/

theorem answersFrom_filter_key (key : κ) :
    (answersFrom width earlier requests).filter (fun a => decide (a.key = key)) =
      answersFrom width (earlier.filter fun a => decide (a.key = key))
        (requests.filter fun r => decide (r.key = key)) := by
  induction requests generalizing earlier with
  | nil => rfl
  | cons r requests ih =>
      rw [answersFrom, List.filter_cons, List.filter_cons, answer_key, ih, List.filter_append]
      by_cases h : r.key = key
      · subst h
        simp [answersFrom, answer_filter_key]
      · simp [h]

theorem answers_filter_key (key : κ) :
    (answers width requests).filter (fun a => decide (a.key = key)) =
      answers width (requests.filter fun r => decide (r.key = key)) :=
  answersFrom_filter_key key

/-! ## The limit holds in every window -/

/-- Any two times of the set lie closer together than the width. -/
def Narrow (width : τ) (s : τ → Prop) : Prop := ∀ t u, s t → s u → u - width < t

section Intervals

variable [IsOrderedAddMonoid τ] {w : τ}

theorem narrow_ico (w start : τ) : Narrow w fun t => start ≤ t ∧ t < start + w :=
  fun _ _ ht hu => (sub_lt_iff_lt_add.mpr hu.2).trans_le ht.1

theorem narrow_ioc (w start : τ) : Narrow w fun t => start < t ∧ t ≤ start + w :=
  fun _ _ ht hu => (sub_le_iff_le_add.mpr hu.2).trans_lt ht.1

end Intervals

/-- The answers by which a key was granted a request within a set of times. -/
def grantedIn (answered : List (Answer κ τ)) (key : κ) (s : τ → Prop) [DecidablePred s] :
    List (Answer κ τ) :=
  answered.filter fun a => a.granted && decide (a.key = key) && decide (s a.time)

variable {s : τ → Prop} [DecidablePred s] {limit : κ → ℕ}

theorem length_grantedIn_answersFrom_le (hs : Narrow (width key) s)
    (hlimit : ∀ r ∈ requests, r.key = key → r.limit = limit key)
    (hbound : (grantedIn earlier key s).length ≤ limit key) :
    (grantedIn (earlier ++ answersFrom width earlier requests) key s).length ≤ limit key := by
  induction requests generalizing earlier with
  | nil => simpa [answersFrom] using hbound
  | cons r requests ih =>
      rw [answersFrom, ← List.singleton_append, ← List.append_assoc]
      apply ih fun x hx => hlimit x (List.mem_cons_of_mem _ hx)
      rw [grantedIn, List.filter_append, List.length_append]
      by_cases h : (answer width earlier r).granted = true ∧ r.key = key ∧ s r.time
      · -- What the set held so far lies in the window of this request.
        obtain ⟨hgranted, rfl, htime⟩ := h
        have hfew := answer_granted_iff.mp hgranted
        rw [hlimit r List.mem_cons_self rfl] at hfew
        have hsub : (grantedIn earlier r.key s).length ≤
            (grantedSince earlier r.key (r.time - width r.key)).length := by
          apply List.Sublist.length_le
          apply List.monotone_filter_right
          intro a ha
          simp only [Bool.and_eq_true, decide_eq_true_eq] at ha ⊢
          exact ⟨ha.1, hs _ _ ha.2 htime⟩
        rw [grantedIn] at hsub
        have hone := List.length_filter_le (fun a : Answer κ τ =>
          a.granted && decide (a.key = r.key) && decide (s a.time)) [answer width earlier r]
        rw [List.length_singleton] at hone
        omega
      · rw [List.filter_cons_of_neg (by simpa [and_assoc] using h), List.filter_nil,
          List.length_nil, Nat.add_zero]
        exact hbound

theorem length_grantedIn_le (hs : Narrow (width key) s)
    (hlimit : ∀ r ∈ requests, r.key = key → r.limit = limit key) :
    (grantedIn (answers width requests) key s).length ≤ limit key := by
  have hnone : (grantedIn ([] : List (Answer κ τ)) key s).length ≤ limit key := Nat.zero_le _
  exact length_grantedIn_answersFrom_le hs hlimit hnone

/-- A refused request finds its limit used up within the window before it. -/
theorem length_grantedIn_of_refused [IsOrderedAddMonoid τ]
    (hlimit : ∀ x ∈ requests, x.key = r.key → x.limit = limit r.key)
    (hr : r.limit = limit r.key) (htime : ∀ x ∈ requests, x.time ≤ r.time)
    (h : (answer width (answers width requests) r).granted = false) :
    (grantedIn (answers width requests) r.key
      fun t => r.time - width r.key < t ∧ t ≤ r.time).length = limit r.key := by
  have hmany := answer_granted_eq_false_iff.mp h
  rw [hr] at hmany
  have hnarrow : Narrow (width r.key) fun t => r.time - width r.key < t ∧ t ≤ r.time :=
    fun _ _ ht hu => (sub_le_sub_right hu.2 _).trans_lt ht.1
  have hfew : (grantedIn (answers width requests) r.key
      fun t => r.time - width r.key < t ∧ t ≤ r.time).length ≤ limit r.key :=
    length_grantedIn_le hnarrow hlimit
  have heq : grantedIn (answers width requests) r.key
      (fun t => r.time - width r.key < t ∧ t ≤ r.time) =
      grantedSince (answers width requests) r.key (r.time - width r.key) := by
    apply List.filter_congr
    intro a ha
    have hmem : a.time ∈ (answers width requests).map Answer.time := List.mem_map_of_mem ha
    rw [answers, map_time_answersFrom] at hmem
    obtain ⟨x, hx, hxa⟩ := List.mem_map.mp hmem
    have hle := htime x hx
    simp [← hxa, hle]
  rw [heq] at hfew ⊢
  omega

/-! ## Keys that share a window -/

section Shared

variable (f : κ → ι) [DecidableEq ι]

def Request.onKey (r : Request κ τ) : Request ι τ := ⟨r.time, f r.key, r.limit⟩

/-- What two runs agree on if they give the same verdicts. -/
def Answer.verdict (a : Answer κ τ) : τ × ι × Bool := (a.time, f a.key, a.granted)

/-- The answers by which one of the keys behind a shared key was granted a request after a time. -/
def grantedOver (answered : List (Answer κ τ)) (key : ι) (start : τ) : List (Answer κ τ) :=
  answered.filter fun a => a.granted && decide (f a.key = key) && decide (start < a.time)

variable {f} {shared : List (Answer ι τ)} {width' : ι → τ}

omit [DecidableEq κ] [AddCommGroup τ] in
theorem length_grantedSince_of_verdicts (h : shared.map (Answer.verdict id) =
    answered.map (Answer.verdict f)) {key : ι} :
    (grantedSince shared key start).length = (grantedOver f answered key start).length := by
  have hcount := congrArg (List.countP fun v => v.2.2 && decide (v.2.1 = key) &&
    decide (start < v.1)) h
  rw [List.countP_map, List.countP_map, List.countP_eq_length_filter,
    List.countP_eq_length_filter] at hcount
  exact hcount

omit [AddCommGroup τ] in
theorem length_grantedSince_le_grantedOver :
    (grantedSince answered key start).length ≤ (grantedOver f answered (f key) start).length := by
  apply List.Sublist.length_le
  apply List.monotone_filter_right
  intro a ha
  simp only [Bool.and_eq_true, decide_eq_true_eq] at ha ⊢
  exact ⟨⟨ha.1.1, congrArg f ha.1.2⟩, ha.2⟩

/-- A request gets the verdict of its own window if the keys that share its window leave its limit
unused, or if its own requests alone use it up. -/
def KeepsBudget (f : κ → ι) (width : κ → τ) (earlier : List (Answer κ τ)) (r : Request κ τ) :
    Prop :=
  (grantedOver f earlier (f r.key) (r.time - width r.key)).length < r.limit ∨
    r.limit ≤ (grantedSince earlier r.key (r.time - width r.key)).length

instance (width : κ → τ) (earlier : List (Answer κ τ)) (r : Request κ τ) :
    Decidable (KeepsBudget f width earlier r) :=
  inferInstanceAs (Decidable (_ ∨ _))

theorem granted_answer_onKey_iff (hwidth : ∀ key, width' (f key) = width key)
    (h : shared.map (Answer.verdict id) = earlier.map (Answer.verdict f)) :
    (answer width' shared (r.onKey f)).granted = (answer width earlier r).granted ↔
      KeepsBudget f width earlier r := by
  have hle : (grantedSince earlier r.key (r.time - width r.key)).length ≤
      (grantedOver f earlier (f r.key) (r.time - width r.key)).length :=
    length_grantedSince_le_grantedOver
  rw [Bool.eq_iff_iff, answer_granted_iff, answer_granted_iff, Request.onKey, hwidth,
    length_grantedSince_of_verdicts h, KeepsBudget]
  dsimp only
  omega

theorem verdict_answer_onKey (h : (answer width' shared (r.onKey f)).granted =
    (answer width earlier r).granted) :
    (answer width' shared (r.onKey f)).verdict id = (answer width earlier r).verdict f := by
  simp [Answer.verdict, Request.onKey, ← h]

theorem granted_answersFrom_onKey_iff (hwidth : ∀ key, width' (f key) = width key)
    (h : shared.map (Answer.verdict id) = earlier.map (Answer.verdict f)) :
    (answersFrom width' shared (requests.map (Request.onKey f))).map Answer.granted =
        (answersFrom width earlier requests).map Answer.granted ↔
      ∀ before r after, requests = before ++ r :: after →
        KeepsBudget f width (earlier ++ answersFrom width earlier before) r := by
  induction requests generalizing shared earlier with
  | nil => simp [answersFrom]
  | cons r requests ih =>
      rw [List.map_cons, answersFrom, answersFrom, List.map_cons, List.map_cons, List.cons.injEq,
        granted_answer_onKey_iff hwidth h]
      constructor
      · intro hboth before x after heq
        cases before with
        | nil =>
            cases heq
            simpa [answersFrom] using hboth.1
        | cons y before =>
            cases heq
            have hhead := (granted_answer_onKey_iff hwidth h).mpr hboth.1
            have hnext := (ih (by simp [h, verdict_answer_onKey hhead])).mp hboth.2
            simpa [answersFrom] using hnext before x after rfl
      · intro hall
        have hfirst := hall [] r requests rfl
        rw [answersFrom, List.append_nil] at hfirst
        have hhead := (granted_answer_onKey_iff hwidth h).mpr hfirst
        refine ⟨hfirst, (ih (by simp [h, verdict_answer_onKey hhead])).mpr ?_⟩
        intro before x after heq
        have hnext := hall (r :: before) x after (by rw [heq, List.cons_append])
        simpa [answersFrom] using hnext

/-- Keys that share a window get the verdicts of windows of their own exactly if every request
keeps its budget. -/
theorem granted_answers_onKey_iff (hwidth : ∀ key, width' (f key) = width key) :
    (answers width' (requests.map (Request.onKey f))).map Answer.granted =
        (answers width requests).map Answer.granted ↔
      ∀ before r after, requests = before ++ r :: after →
        KeepsBudget f width (answers width before) r :=
  granted_answersFrom_onKey_iff hwidth rfl

end Shared

end Grouproxy.SlidingWindow
