import Mathlib.Data.List.MinMax
import Mathlib.Tactic.Linarith
import Grouproxy.Model.RateLimit

/-! # The limiter is a sliding window

The windows keep the timestamps that can still count, so every answer is the one that all answers
before it call for.
-/

namespace Grouproxy.RateLimit

open SlidingWindow

variable {windows : Windows} {calls others : List Call} {earlier : List (Answer String ℚ)}
  {window : String → ℤ} {limit : String → ℕ} {now later : ℚ} {key : String}

/-- The request that a call of `check_rate_limit` makes. -/
def Call.request? : Call → Option (SlidingWindow.Request String ℚ)
  | .check now key limit _ => some ⟨now, key, limit⟩
  | .cleanup _ => none

/-- The key of the call, if any, is used with its window. -/
def Call.HasWindow (window : String → ℤ) : Call → Prop
  | .check _ key _ windowSeconds => windowSeconds = window key
  | .cleanup _ => True

/-- The key of the call, if any, is used with its limit. -/
def Call.HasLimit (limit : String → ℕ) : Call → Prop
  | .check _ key limit' _ => limit' = limit key
  | .cleanup _ => True

def Call.isCheck : Call → Bool
  | .check _ _ _ _ => true
  | .cleanup _ => false

/-- The call does not concern another key. -/
def Call.concerns (key : String) : Call → Bool
  | .check _ key' _ _ => decide (key' = key)
  | .cleanup _ => true

def width (window : String → ℤ) (key : String) : ℚ := window key

/-- From `now` on, the timestamps kept under a key count what the answers granted to it. -/
def Shows (window : String → ℤ) (windows : Windows) (earlier : List (Answer String ℚ))
    (now : ℚ) : Prop :=
  ∀ key later, now ≤ later →
    ((windows key).getD []).filter (fun ts => decide (later - width window key < ts)) =
      (grantedSince earlier key (later - width window key)).map Answer.time

theorem shows_noWindows : Shows window noWindows [] now := fun _ _ _ => rfl

/-! ## One call -/

/-- The timestamps under a key that are in its window. -/
def kept (windows : Windows) (now : ℚ) (key : String) (windowSeconds : ℤ) : List ℚ :=
  ((windows key).getD []).filter fun ts => decide (now - windowSeconds < ts)

theorem checkRateLimit_of_le {l windowSeconds : ℤ}
    (h : l ≤ (kept windows now key windowSeconds).length) :
    checkRateLimit windows now key l windowSeconds =
      ((false, 0), Function.update windows key (some (kept windows now key windowSeconds))) :=
  if_pos h

theorem checkRateLimit_of_lt {l windowSeconds : ℤ}
    (h : (kept windows now key windowSeconds).length < l) :
    checkRateLimit windows now key l windowSeconds =
      ((true, l - (kept windows now key windowSeconds).length - 1),
        Function.update windows key (some (kept windows now key windowSeconds ++ [now]))) :=
  if_neg (not_le.mpr h)

theorem answer_checkRateLimit (h : Shows window windows earlier now) (hle : now ≤ later)
    (key : String) (l : ℤ) :
    (⟨later, key, (checkRateLimit windows later key l (window key)).1.1,
      (checkRateLimit windows later key l (window key)).1.2⟩ : Answer String ℚ) =
      answer (width window) earlier ⟨later, key, l⟩ := by
  have hlength : (kept windows later key (window key)).length =
      (grantedSince earlier key (later - width window key)).length := by
    rw [kept, ← width, h key later hle, List.length_map]
  rcases lt_or_ge ((grantedSince earlier key (later - width window key)).length : ℤ) l with
    hlt | hused
  · have hanswer : answer (width window) earlier ⟨later, key, l⟩ = ⟨later, key, true,
        l - (grantedSince earlier key (later - width window key)).length - 1⟩ := answer_of_lt hlt
    rw [hanswer]
    rw [← hlength] at hlt
    rw [checkRateLimit_of_lt hlt, hlength]
  · have hanswer : answer (width window) earlier ⟨later, key, l⟩ = ⟨later, key, false, 0⟩ :=
      answer_of_le hused
    rw [hanswer]
    rw [← hlength] at hused
    rw [checkRateLimit_of_le hused]

/-- Pruning with an earlier cutoff does not change what a later one keeps. -/
theorem filter_filter_cutoff {timestamps : List ℚ} {cutoff cutoff' : ℚ} (h : cutoff ≤ cutoff') :
    (timestamps.filter fun ts => decide (cutoff < ts)).filter (fun ts => decide (cutoff' < ts)) =
      timestamps.filter fun ts => decide (cutoff' < ts) := by
  rw [List.filter_filter]
  apply List.filter_congr
  intro ts _
  by_cases hts : cutoff' < ts
  · simp [hts, h.trans_lt hts]
  · simp [hts]

theorem shows_checkRateLimit (h : Shows window windows earlier now) (hle : now ≤ later)
    (key : String) (l : ℤ) :
    Shows window (checkRateLimit windows later key l (window key)).2
      (earlier ++ [answer (width window) earlier ⟨later, key, l⟩]) later := by
  intro other t ht
  have hanswer := answer_checkRateLimit h hle key l
  have hold := h other t (hle.trans ht)
  rw [grantedSince_append, List.map_append, ← hold, ← hanswer]
  by_cases hkey : key = other
  · subst hkey
    have hprune : (kept windows later key (window key)).filter
        (fun ts => decide (t - width window key < ts)) =
        ((windows key).getD []).filter fun ts => decide (t - width window key < ts) :=
      filter_filter_cutoff (sub_le_sub_right ht _)
    rcases lt_or_ge ((kept windows later key (window key)).length : ℤ) l with hlt | hused
    · rw [checkRateLimit_of_lt hlt]
      dsimp only
      rw [Function.update_self, Option.getD_some, List.filter_append, hprune]
      by_cases hnew : t - width window key < later
      · simp [grantedSince, hnew]
      · simp [grantedSince, hnew]
    · rw [checkRateLimit_of_le hused]
      dsimp only
      rw [Function.update_self, Option.getD_some, hprune]
      simp [grantedSince]
  · rcases lt_or_ge ((kept windows later key (window key)).length : ℤ) l with hlt | hused
    · simp [checkRateLimit_of_lt hlt, grantedSince, hkey, Function.update_of_ne (Ne.symm hkey)]
    · simp [checkRateLimit_of_le hused, grantedSince, hkey, Function.update_of_ne (Ne.symm hkey)]

theorem filter_of_isStale {timestamps : List ℚ} {cutoff cutoff' : ℚ}
    (h : isStale cutoff timestamps = true) (hle : cutoff ≤ cutoff') :
    timestamps.filter (fun ts => decide (cutoff' < ts)) = [] := by
  rw [isStale] at h
  apply List.filter_eq_nil_iff.mpr
  intro ts hts
  cases hmax : timestamps.max? with
  | none => simp [List.max?_eq_none_iff.mp hmax] at hts
  | some latest =>
      rw [hmax] at h
      have hlatest : latest < cutoff := of_decide_eq_true h
      have hbound : ts ≤ latest := (List.max?_eq_some_iff.mp hmax).2 ts hts
      rw [decide_eq_true_eq, not_lt]
      exact (hbound.trans hlatest.le).trans hle

theorem shows_cleanupOldWindows (hwindow : ∀ key, window key ≤ 3600)
    (h : Shows window windows earlier now) (hle : now ≤ later) :
    Shows window (cleanupOldWindows windows later) earlier later := by
  intro key t ht
  rw [← h key t (hle.trans ht), cleanupOldWindows]
  cases hstored : windows key with
  | none => rfl
  | some timestamps =>
      by_cases hstale : isStale (later - 3600) timestamps = true
      · have hcut : later - 3600 ≤ t - width window key := by
          have hw : width window key ≤ 3600 := by
            rw [width]
            exact_mod_cast hwindow key
          linarith
        simp [Option.filter, hstale, filter_of_isStale hstale hcut]
      · simp [Option.filter, hstale]

/-! ## Runs -/

theorem answersOf_eq_answersFrom (hwindow : ∀ key, window key ≤ 3600)
    (hshows : Shows window windows earlier now) (hfirst : ∀ c ∈ calls, now ≤ c.now)
    (hclock : calls.Pairwise fun c d => c.now ≤ d.now)
    (huse : ∀ c ∈ calls, c.HasWindow window) :
    answersOf windows calls =
      answersFrom (width window) earlier (calls.filterMap Call.request?) := by
  induction calls generalizing windows earlier now with
  | nil => rfl
  | cons c calls ih =>
      rw [List.pairwise_cons] at hclock
      have hle := hfirst c List.mem_cons_self
      have hrest : ∀ d ∈ calls, d.HasWindow window := fun d hd =>
        huse d (List.mem_cons_of_mem _ hd)
      cases c with
      | check time key l windowSeconds =>
          have hkey : windowSeconds = window key := huse _ List.mem_cons_self
          subst hkey
          have hcons : (Call.check time key l (window key) :: calls).filterMap Call.request? =
              ⟨time, key, l⟩ :: calls.filterMap Call.request? := rfl
          rw [hcons, answersFrom, answersOf]
          change now ≤ time at hle
          have hnext := shows_checkRateLimit hshows hle key l
          rw [answer_checkRateLimit hshows hle key l, ih hnext hclock.1 hclock.2 hrest]
      | cleanup time =>
          have hcons : (Call.cleanup time :: calls).filterMap Call.request? =
              calls.filterMap Call.request? := rfl
          rw [hcons, answersOf]
          exact ih (shows_cleanupOldWindows hwindow hshows hle) hclock.1 hclock.2 hrest

/-- The limiter gives the answers of sliding windows. -/
theorem answersOf_eq_answers (hwindow : ∀ key, window key ≤ 3600)
    (hclock : calls.Pairwise fun c d => c.now ≤ d.now)
    (huse : ∀ c ∈ calls, c.HasWindow window) :
    answersOf noWindows calls = answers (width window) (calls.filterMap Call.request?) := by
  cases calls with
  | nil => rfl
  | cons c calls =>
      have hfirst : ∀ d ∈ c :: calls, c.now ≤ d.now := by
        intro d hd
        rcases List.mem_cons.mp hd with rfl | hmem
        · exact le_rfl
        · exact (List.pairwise_cons.mp hclock).1 d hmem
      exact answersOf_eq_answersFrom hwindow shows_noWindows hfirst hclock huse

theorem filterMap_request?_filter_isCheck :
    (calls.filter Call.isCheck).filterMap Call.request? = calls.filterMap Call.request? := by
  rw [List.filterMap_filter]
  apply List.filterMap_congr
  intro c _
  cases c <;> rfl

theorem filterMap_request?_filter_concerns :
    (calls.filter (Call.concerns key)).filterMap Call.request? =
      (calls.filterMap Call.request?).filter fun r => decide (r.key = key) := by
  induction calls with
  | nil => rfl
  | cons c calls ih =>
      cases c with
      | check time other l windowSeconds =>
          by_cases h : other = key
          · subst h
            simpa [Call.concerns, Call.request?] using ih
          · simpa [Call.concerns, Call.request?, h] using ih
      | cleanup time => exact ih

theorem hasWindow_of_filter_isCheck_eq (h : others.filter Call.isCheck = calls.filter Call.isCheck)
    (huse : ∀ c ∈ calls, c.HasWindow window) : ∀ c ∈ others, c.HasWindow window := by
  intro c hc
  cases c with
  | check time key' l windowSeconds =>
      have hmem : Call.check time key' l windowSeconds ∈ others.filter Call.isCheck :=
        List.mem_filter.mpr ⟨hc, rfl⟩
      rw [h] at hmem
      exact huse _ (List.mem_of_mem_filter hmem)
  | cleanup time => trivial

theorem limit_of_request? {r : SlidingWindow.Request String ℚ}
    (hlimit : ∀ c ∈ calls, c.HasLimit limit) (hr : r ∈ calls.filterMap Call.request?) :
    r.limit = limit r.key := by
  obtain ⟨c, hc, hcall⟩ := List.mem_filterMap.mp hr
  cases c with
  | check time key' l windowSeconds =>
      cases hcall
      exact hlimit _ hc
  | cleanup time => cases hcall

theorem pairwise_time_requests (hclock : calls.Pairwise fun c d => c.now ≤ d.now) :
    (calls.filterMap Call.request?).Pairwise fun r x => r.time ≤ x.time := by
  apply List.Pairwise.filterMap Call.request? _ hclock
  intro c d hle r hr x hx
  cases c <;> cases d <;> cases hr <;> cases hx
  exact hle

/-- Every window holds at most the limit of its key, a refused call finds exactly the limit in the
window before it, and neither other keys nor cleanups change an answer. -/
theorem rateLimiter_isSlidingWindow (hwindow : ∀ key, window key ≤ 3600)
    (hclock : calls.Pairwise fun c d => c.now ≤ d.now)
    (hlimit : ∀ c ∈ calls, c.HasLimit limit) (huse : ∀ c ∈ calls, c.HasWindow window) :
    (∀ key start,
      (grantedIn (answersOf noWindows calls) key
        fun t => start ≤ t ∧ t < start + window key).length ≤ limit key ∧
      (grantedIn (answersOf noWindows calls) key
        fun t => start < t ∧ t ≤ start + window key).length ≤ limit key) ∧
    (∀ (earlier : List (Answer String ℚ)) (refused : Answer String ℚ) later,
      answersOf noWindows calls = earlier ++ refused :: later → refused.granted = false →
      (grantedIn earlier refused.key fun t =>
        refused.time - window refused.key < t ∧ t ≤ refused.time).length = limit refused.key) ∧
    (∀ key, (answersOf noWindows calls).filter (fun a => decide (a.key = key)) =
      answersOf noWindows (calls.filter (Call.concerns key))) ∧
    ∀ others : List Call, others.Pairwise (fun c d => c.now ≤ d.now) →
      others.filter Call.isCheck = calls.filter Call.isCheck →
      answersOf noWindows others = answersOf noWindows calls := by
  have hanswers := answersOf_eq_answers hwindow hclock huse
  refine ⟨?_, ?_, ?_, ?_⟩
  · intro key start
    rw [hanswers]
    have hkey : ∀ r ∈ calls.filterMap Call.request?, r.key = key → r.limit = limit key := by
      rintro r hr rfl
      exact limit_of_request? hlimit hr
    exact ⟨length_grantedIn_le (narrow_ico _ _) hkey, length_grantedIn_le (narrow_ioc _ _) hkey⟩
  · intro earlier refused later heq hrefused
    rw [hanswers] at heq
    obtain ⟨before, r, after, hrequests, rfl, rfl⟩ := answersFrom_eq_append_cons heq
    have hmem : ∀ x ∈ before, x ∈ calls.filterMap Call.request? := by
      intro x hx
      rw [hrequests]
      exact List.mem_append_left _ hx
    have htime := pairwise_time_requests hclock
    rw [hrequests] at htime
    have hr : r ∈ calls.filterMap Call.request? := by simp [hrequests]
    have hbefore : ∀ x ∈ before, x.key = r.key → x.limit = limit r.key := by
      intro x hx hkey
      rw [limit_of_request? hlimit (hmem x hx), hkey]
    have hle : ∀ x ∈ before, x.time ≤ r.time := fun x hx =>
      (List.pairwise_append.mp htime).2.2 x hx r List.mem_cons_self
    rw [List.nil_append] at hrefused ⊢
    rw [answer_key, answer_time]
    exact length_grantedIn_of_refused hbefore (limit_of_request? hlimit hr) hle hrefused
  · intro key
    have hsub : (calls.filter (Call.concerns key)).Sublist calls := List.filter_sublist
    rw [hanswers, answers_filter_key, ← filterMap_request?_filter_concerns,
      answersOf_eq_answers hwindow (hclock.sublist hsub) fun c hc =>
        huse c (List.mem_of_mem_filter hc)]
  · intro others hothers heq
    rw [hanswers, answersOf_eq_answers hwindow hothers (hasWindow_of_filter_isCheck_eq heq huse),
      ← filterMap_request?_filter_isCheck, heq, filterMap_request?_filter_isCheck]

/-- Two calls for one slot, a cleanup an hour and a half later, and two calls again. -/
def sampleCalls : List Call :=
  [.check 0 "k" 1 60, .check 59 "k" 1 60, .cleanup 5400, .check 5400 "k" 1 60,
    .check 5460 "k" 1 60]

theorem rateLimiter_isSlidingWindow_sample :
    (grantedIn (answersOf noWindows sampleCalls) "k"
      fun t => 5400 < t ∧ t ≤ 5400 + ((60 : ℤ) : ℚ)).length ≤ 1 ∧
    answersOf noWindows (sampleCalls.filter Call.isCheck) = answersOf noWindows sampleCalls := by
  have hclock : sampleCalls.Pairwise fun c d => c.now ≤ d.now := by
    norm_num [sampleCalls, Call.now]
  have hlimit : ∀ c ∈ sampleCalls, c.HasLimit fun _ => 1 := by
    simp [sampleCalls, Call.HasLimit]
  have huse : ∀ c ∈ sampleCalls, c.HasWindow fun _ => 60 := by
    simp [sampleCalls, Call.HasWindow]
  obtain ⟨hbound, -, -, hcleanup⟩ :=
    rateLimiter_isSlidingWindow (fun _ => by decide) hclock hlimit huse
  exact ⟨(hbound "k" 5400).2, hcleanup _ (hclock.sublist List.filter_sublist) (by simp)⟩

end Grouproxy.RateLimit
