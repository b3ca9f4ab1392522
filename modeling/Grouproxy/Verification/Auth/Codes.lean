import Mathlib.Data.Finset.Card
import Grouproxy.Verification.Auth.Sessions

/-! # Verification codes

A call that consumes a code reads the challenge, compares, and saves its own copy of the
challenge. The attempts are counted and the code is used once as long as calls read the challenge
one after the other.
-/

namespace Grouproxy.Auth

open Programs Collections

/-! ## One call -/

/-- A call has read the challenge, if there is one, or it has saved its copy. -/
inductive CodeNote where
  | start
  | read (challenge : Option AuthVerificationChallenge)
  | saved (outcome : CodeOutcome)
  deriving DecidableEq

def AuthStore.challenge? (s : AuthStore) (challengeId : String) :
    Option AuthVerificationChallenge :=
  s.challenges.find? fun challenge => challenge.challengeId == challengeId

def codeNext (challengeId : String) (g : CodeNote) (l : AuthLabel) (s : AuthStore) : CodeNote :=
  match l with
  | .findChallenge => .read (s.challenge? challengeId)
  | .saveChallenge outcome _ => .saved outcome
  | _ => g

section Call

variable (settings : Settings) (challengeId : String)

/-- The copy that a call saves for an outcome. -/
inductive Settled (challenge : AuthVerificationChallenge) :
    CodeOutcome → AuthVerificationChallenge → Prop where
  | expired : Settled challenge .expired { challenge with status := .expired }
  | locked : Settled challenge .locked { challenge with status := .locked }
  | wrong (h : challenge.failedAttempts < settings.authVerificationMaxAttempts) :
      Settled challenge .wrong (challenge.afterWrongCode settings)
  | consumed (at' : Nat) :
      Settled challenge .consumed
        { challenge with status := .consumed, consumedAt := some at' }

/-- The two operations of a call. Only a delivered challenge is saved. -/
inductive CodeStep : CodeNote → AuthLabel → AuthStore → AuthStore → Prop where
  | read {s s' : AuthStore} (hsame : s' = s) : CodeStep .start .findChallenge s s'
  | save {challenge copy : AuthVerificationChallenge} {outcome : CodeOutcome} {s s' : AuthStore}
      (hstatus : challenge.status = .delivered) (hsettled : Settled settings challenge outcome copy)
      (hchallenges : s'.challenges = s.challenges.save copy) :
      CodeStep (.read (some challenge)) (.saveChallenge outcome copy) s s'

/-- Only a call that has saved the challenge as consumed succeeds. -/
def CodeEnd (g : CodeNote) (r : Except AuthFailure AuthVerificationChallenge) : Prop :=
  r.isOk = true → g = .saved .consumed

variable {settings challengeId}

theorem Settled.frame {challenge copy : AuthVerificationChallenge} {outcome : CodeOutcome}
    (h : Settled settings challenge outcome copy) :
    copy.id = challenge.id ∧ copy.challengeId = challenge.challengeId := by
  cases h with
  | expired => exact ⟨rfl, rfl⟩
  | locked => exact ⟨rfl, rfl⟩
  | wrong => exact ⟨rfl, rfl⟩
  | consumed => exact ⟨rfl, rfl⟩

/-- A wrong code counts one more attempt; nothing else does. -/
theorem Settled.failedAttempts {challenge copy : AuthVerificationChallenge}
    {outcome : CodeOutcome} (h : Settled settings challenge outcome copy) :
    copy.failedAttempts = challenge.failedAttempts + if outcome = .wrong then 1 else 0 := by
  cases h with
  | expired => rfl
  | locked => rfl
  | wrong => rfl
  | consumed => rfl

/-- The handler takes the operations of a call from a note on. -/
abbrev KeepsCode {α : Type} (challengeId : String) (settings : Settings) (g : CodeNote)
    (p : AuthHandler α) (Q : CodeNote → Except AuthFailure α → Prop) : Prop :=
  p.Follows (codeNext challengeId) (fun _ _ => True) (CodeStep settings) Q g

theorem consumeVerificationCode_keeps (now consumedAt : Nat) (request : VerificationCode)
    (hrequest : request.challengeId = challengeId) :
    KeepsCode challengeId settings .start
      (consumeVerificationCode settings now consumedAt request) CodeEnd := by
  subst hrequest
  have herror : ∀ {g : CodeNote} {e : AuthFailure}, CodeEnd g (.error e) := by
    simp [CodeEnd, Except.isOk, Except.toBool]
  refine .read_bind (fun _ _ => .read rfl) fun s _ => ?_
  simp only [codeNext]
  cases hfound : s.challenge? request.challengeId with
  | none =>
      rw [AuthStore.challenge?] at hfound
      rw [hfound]
      exact .done herror
  | some challenge =>
      rw [AuthStore.challenge?] at hfound
      rw [hfound]
      refine .reject_bind (fun _ => herror) fun haccepts => ?_
      have hstatus : challenge.status = .delivered := by
        simp only [AuthVerificationChallenge.accepts, Bool.not_eq_false, Bool.and_eq_true,
          beq_iff_eq] at haccepts
        exact haccepts.2
      split
      · exact .write_bind (fun _ _ => .save hstatus .expired rfl) fun _ _ => .done herror
      split
      · exact .write_bind (fun _ _ => .save hstatus .locked rfl) fun _ _ => .done herror
      rename_i hattempts
      split
      · exact .write_bind (fun _ _ => .save hstatus (.consumed consumedAt) rfl)
          fun _ _ => .done fun _ => rfl
      · refine .write_bind (fun _ _ => .save hstatus (.wrong (by omega)) rfl) fun _ _ => ?_
        split
        · exact .done herror
        · exact .done herror

end Call

/-! ## Any number of calls -/

variable {ι : Type} [DecidableEq ι]

abbrev CodePool (ι : Type) :=
  Pool ι AuthLabel AuthStore AuthFailure AuthVerificationChallenge CodeNote

/-- A call, with its readings of the clock. -/
structure CodeCall where
  request : VerificationCode
  now : Nat
  consumedAt : Nat

/-- All calls of an index type, before any of them has moved. -/
def startCodes (settings : Settings) (calls : ι → CodeCall) (s : AuthStore) : CodePool ι :=
  { thread := fun i => consumeVerificationCode settings (calls i).now (calls i).consumedAt
      (calls i).request
    note := fun _ => .start
    store := s }

def AuthLabel.outcome? : AuthLabel → Option CodeOutcome
  | .saveChallenge outcome _ => some outcome
  | _ => none

/-- What a call is about to save. -/
def pendingOutcome? (p : CodePool ι) (i : ι) : Option CodeOutcome :=
  (p.thread i).label?.bind AuthLabel.outcome?

/-- A call reads the challenge only while no other call has one to save. -/
def ReadsAlone (p : CodePool ι) (i : ι) : Prop :=
  (p.thread i).label? = some .findChallenge → ∀ j, pendingOutcome? p j = none

instance [Fintype ι] (p : CodePool ι) (i : ι) : Decidable (ReadsAlone p i) :=
  inferInstanceAs (Decidable (_ → ∀ _, _))

/-- The call has compared a wrong code with the challenge: it is about to count the attempt, or
has done so. -/
def ComparedWrong (p : CodePool ι) (i : ι) : Prop :=
  pendingOutcome? p i = some .wrong ∨ p.note i = .saved .wrong

/-- At most one call succeeds, and wrong codes are compared at most as often as the settings
allow. -/
structure SingleUse (settings : Settings) (p : CodePool ι) : Prop where
  once : ∀ i j a b, p.thread i = .done (.ok a) → p.thread j = .done (.ok b) → i = j
  limited : ∀ t : Finset ι, (∀ i ∈ t, ComparedWrong p i) →
    t.card ≤ settings.authVerificationMaxAttempts

/-- At most one call has read the challenge and not saved it, and it has read it as it is stored;
the stored challenge counts every wrong code, and stays consumed. -/
structure Counted (settings : Settings) (challengeId : String) (p : CodePool ι) : Prop where
  alone : ∀ i j, pendingOutcome? p i ≠ none → pendingOutcome? p j ≠ none → i = j
  current : ∀ i challenge, pendingOutcome? p i ≠ none → p.note i = .read (some challenge) →
    p.store.challenge? challengeId = some challenge
  attempts : ∀ t : Finset ι, (∀ i ∈ t, p.note i = .saved .wrong) →
    t.card ≤ settings.authVerificationMaxAttempts ∧
      ∀ challenge, p.store.challenge? challengeId = some challenge →
        t.card ≤ challenge.failedAttempts
  consumed : ∀ i, p.note i = .saved .consumed →
    ∀ challenge, p.store.challenge? challengeId = some challenge → challenge.status = .consumed
  once : ∀ i j, p.note i = .saved .consumed → p.note j = .saved .consumed → i = j

section Step

variable {settings : Settings} {challengeId : String} {p : CodePool ι} {i : ι} {l : AuthLabel}
  {w : AuthStore → AuthStore} {n : AuthStore → AuthHandler AuthVerificationChallenge}
  {k : AuthHandler AuthVerificationChallenge}

abbrev FollowsCode (challengeId : String) (settings : Settings) (p : CodePool ι) : Prop :=
  p.Follow (codeNext challengeId) (fun _ _ => True) (CodeStep settings) CodeEnd

omit [DecidableEq ι] in
/-- A call that is about to save has read a challenge. -/
theorem read_of_pending (hfollow : FollowsCode challengeId settings p) {outcome : CodeOutcome}
    (hpending : pendingOutcome? p i = some outcome) :
    ∃ challenge copy, p.note i = .read (some challenge) ∧ challenge.status = .delivered ∧
      Settled settings challenge outcome copy := by
  have hi := hfollow i
  unfold pendingOutcome? at hpending
  cases hthread : p.thread i with
  | done r =>
      rw [hthread] at hpending
      cases hpending
  | op l w n k =>
      rw [hthread] at hi hpending
      generalize hnote : p.note i = g at hi
      cases (hi p.store trivial).1 with
      | read => cases hpending
      | save hstatus hsettled =>
          cases hpending
          exact ⟨_, _, rfl, hstatus, hsettled⟩

theorem pendingOutcome?_step_of_ne {j : ι} (hj : j ≠ i) :
    pendingOutcome? (p.step (codeNext challengeId) i) j = pendingOutcome? p j := by
  rw [pendingOutcome?, Pool.step_thread_of_ne p hj, pendingOutcome?]

/-- A call reads the challenge. -/
theorem Counted.read (hp : Counted settings challengeId p) (hthread : p.thread i = .op l w n k)
    (hlabel : l = .findChallenge) (hnote : p.note i = .start) (hw : w p.store = p.store)
    (hcond : ReadsAlone p i) : Counted settings challengeId (p.step (codeNext challengeId) i) := by
  subst hlabel
  have hnone : ∀ j, pendingOutcome? p j = none := hcond (by rw [hthread]; rfl)
  have hstore : (p.step (codeNext challengeId) i).store = p.store := by
    rw [Pool.step_store hthread, hw]
  have hself : (p.step (codeNext challengeId) i).note i = .read (p.store.challenge? challengeId) :=
    Pool.step_note_self hthread
  have hsaved : ∀ j outcome, (p.step (codeNext challengeId) i).note j = .saved outcome →
      p.note j = .saved outcome := by
    intro j outcome hj
    by_cases hji : j = i
    · subst hji
      rw [hself] at hj
      cases hj
    · rwa [Pool.step_note_of_ne p hji] at hj
  have honly : ∀ j, pendingOutcome? (p.step (codeNext challengeId) i) j ≠ none → j = i := by
    intro j hj
    by_contra hji
    rw [pendingOutcome?_step_of_ne hji] at hj
    exact hj (hnone j)
  refine ⟨?_, ?_, ?_, ?_, ?_⟩
  · intro j j' hj hj'
    rw [honly j hj, honly j' hj']
  · intro j challenge hj hread
    rw [honly j hj, hself] at hread
    rw [hstore]
    exact (CodeNote.read.inj hread)
  · intro t ht
    rw [hstore]
    exact hp.attempts t fun j hj => hsaved j _ (ht j hj)
  · intro j hj
    rw [hstore]
    exact hp.consumed j (hsaved j _ hj)
  · intro j j' hj hj'
    exact hp.once j j' (hsaved j _ hj) (hsaved j' _ hj')

/-- A call saves the challenge it has read, which is the stored one. -/
theorem Counted.save (hp : Counted settings challengeId p) (hthread : p.thread i = .op l w n k)
    {challenge copy : AuthVerificationChallenge} {outcome : CodeOutcome}
    (hlabel : l = .saveChallenge outcome copy) (hnote : p.note i = .read (some challenge))
    (hstatus : challenge.status = .delivered) (hsettled : Settled settings challenge outcome copy)
    (hw : (w p.store).challenges = p.store.challenges.save copy)
    (hdone : pendingOutcome? (p.step (codeNext challengeId) i) i = none) :
    Counted settings challengeId (p.step (codeNext challengeId) i) := by
  subst hlabel
  have hpending : pendingOutcome? p i = some outcome := by
    rw [pendingOutcome?, hthread]
    rfl
  have hcurrent := hp.current i challenge (by simp [hpending]) hnote
  have hstored := Collection.mem_of_find? hcurrent
  have hself : (p.step (codeNext challengeId) i).note i = .saved outcome :=
    Pool.step_note_self hthread
  -- The stored challenge is the copy now.
  have hafter : (p.step (codeNext challengeId) i).store.challenge? challengeId = some copy := by
    rw [AuthStore.challenge?] at hcurrent
    rw [Pool.step_store hthread, AuthStore.challenge?, hw,
      Collection.find?_save hstored.1 hsettled.frame.1.symm (by rw [hsettled.frame.2]), hcurrent,
      Option.map_some]
    exact congrArg some (if_pos hsettled.frame.1.symm)
  have hnone : ∀ j, pendingOutcome? (p.step (codeNext challengeId) i) j = none := by
    intro j
    by_cases hji : j = i
    · rw [hji, hdone]
    · rw [pendingOutcome?_step_of_ne hji]
      by_contra hj
      exact hji (hp.alone j i hj (by simp [hpending]))
  have hnotConsumed : ∀ j, p.note j ≠ .saved .consumed := by
    intro j hj
    have := hp.consumed j hj challenge hcurrent
    rw [hstatus] at this
    cases this
  have hothers : ∀ j, j ≠ i → (p.step (codeNext challengeId) i).note j = p.note j :=
    fun j hji => Pool.step_note_of_ne p hji
  have hconsumed : ∀ j, (p.step (codeNext challengeId) i).note j = .saved .consumed →
      j = i ∧ outcome = .consumed := by
    intro j hj
    by_cases hji : j = i
    · refine ⟨hji, ?_⟩
      rw [hji, hself] at hj
      exact CodeNote.saved.inj hj
    · rw [hothers j hji] at hj
      exact absurd hj (hnotConsumed j)
  refine ⟨?_, ?_, ?_, ?_, ?_⟩
  · intro j _ hj
    exact absurd (hnone j) hj
  · intro j _ hj
    exact absurd (hnone j) hj
  · intro t ht
    have hrest := hp.attempts (t.erase i) fun j hj => by
      rw [← hothers j (Finset.ne_of_mem_erase hj)]
      exact ht j (Finset.mem_of_mem_erase hj)
    have hbefore := hrest.2 challenge hcurrent
    have hcount := hsettled.failedAttempts
    by_cases hi : i ∈ t
    · have houtcome : outcome = .wrong := by
        have hwrong := ht i hi
        rw [hself] at hwrong
        exact CodeNote.saved.inj hwrong
      subst houtcome
      have hcard := Finset.card_erase_add_one hi
      rw [if_pos rfl] at hcount
      cases hsettled with
      | wrong hattempts =>
          refine ⟨by omega, fun other hother => ?_⟩
          have hsame : challenge.afterWrongCode settings = other :=
            Option.some.inj (hafter.symm.trans hother)
          rw [← hsame]
          omega
    · rw [Finset.erase_eq_of_notMem hi] at hrest hbefore
      refine ⟨hrest.1, fun other hother => ?_⟩
      have hsame : copy = other := Option.some.inj (hafter.symm.trans hother)
      rw [← hsame]
      omega
  · intro j hj other hother
    obtain ⟨-, rfl⟩ := hconsumed j hj
    have hsame : copy = other := Option.some.inj (hafter.symm.trans hother)
    rw [← hsame]
    cases hsettled with
    | consumed => rfl
  · intro j j' hj hj'
    rw [(hconsumed j hj).1, (hconsumed j' hj').1]

theorem counted_step (hthread : p.thread i = .op l w n k)
    (hfollow : FollowsCode challengeId settings (p.step (codeNext challengeId) i))
    (hallowed : CodeStep settings (p.note i) l p.store (w p.store)) (hcond : ReadsAlone p i)
    (hp : Counted settings challengeId p) :
    Counted settings challengeId (p.step (codeNext challengeId) i) := by
  generalize hnote : p.note i = g at hallowed
  generalize hw : w p.store = s' at hallowed
  cases hallowed with
  | read hsame => exact hp.read hthread rfl hnote (hw.trans hsame) hcond
  | save hstatus hsettled hchallenges =>
      refine hp.save hthread rfl hnote hstatus hsettled (hw ▸ hchallenges) ?_
      -- A call saves once.
      by_contra hpending
      obtain ⟨outcome, houtcome⟩ := Option.ne_none_iff_exists'.mp hpending
      obtain ⟨challenge, copy, hread, -⟩ := read_of_pending hfollow houtcome
      rw [Pool.step_note_self hthread] at hread
      cases hread

/-- What the invariant says of the calls themselves. -/
theorem Counted.singleUse (hp : Counted settings challengeId p)
    (hfollow : FollowsCode challengeId settings p) : SingleUse settings p := by
  have hsucceeded : ∀ j a, p.thread j = .done (.ok a) → p.note j = .saved .consumed := by
    intro j a hj
    have hend := hfollow j
    rw [hj] at hend
    exact hend rfl
  refine ⟨fun i j a b hi hj => ?_, fun t ht => ?_⟩
  · exact hp.once i j (hsucceeded i a hi) (hsucceeded j b hj)
  · by_cases hall : ∀ j ∈ t, p.note j = .saved .wrong
    · exact (hp.attempts t hall).1
    · -- One of them is about to count its attempt, and there is room for it.
      simp only [not_forall] at hall
      obtain ⟨i, hi, hnot⟩ := hall
      have hpending := (ht i hi).resolve_right hnot
      obtain ⟨challenge, copy, hread, -, hsettled⟩ := read_of_pending hfollow hpending
      have hrest := hp.attempts (t.erase i) fun j hj => by
        refine (ht j (Finset.mem_of_mem_erase hj)).resolve_left fun hother => ?_
        exact Finset.ne_of_mem_erase hj (hp.alone j i (by simp [hother]) (by simp [hpending]))
      have hroom := hrest.2 challenge (hp.current i challenge (by simp [hpending]) hread)
      have hcard := Finset.card_erase_add_one hi
      cases hsettled with
      | wrong hattempts => omega

end Step

/-- Any number of calls on a challenge, interleaved at every operation: as long as they read the
challenge while no other call has one to save, the code is used once and the attempts are
limited. -/
theorem codes_singleUse (settings : Settings) (calls : ι → CodeCall) (challengeId : String)
    (hcalls : ∀ i, (calls i).request.challengeId = challengeId) (s : AuthStore)
    (schedule : List ι)
    (hmeets : (startCodes settings calls s).Meets (codeNext challengeId) ReadsAlone schedule) :
    SingleUse settings ((startCodes settings calls s).run (codeNext challengeId) schedule) := by
  have hfollow : FollowsCode challengeId settings (startCodes settings calls s) := fun i =>
    consumeVerificationCode_keeps _ _ _ (hcalls i)
  have hnone : ∀ i, pendingOutcome? (startCodes settings calls s) i = none := fun _ => rfl
  have hstart : Counted settings challengeId (startCodes settings calls s) := by
    refine ⟨?_, ?_, ?_, ?_, ?_⟩
    · intro i _ hi
      exact absurd (hnone i) hi
    · intro i _ hi
      exact absurd (hnone i) hi
    · intro t ht
      have hempty : t = ∅ := by
        apply Finset.eq_empty_of_forall_notMem
        intro i hi
        cases ht i hi
      simp [hempty]
    · intro i hi
      cases hi
    · intro i _ hi
      cases hi
  have hrun := Pool.invariant_run (codeNext challengeId) (fun _ _ => True) (CodeStep settings)
    CodeEnd (Counted settings challengeId) (fun _ _ _ _ => trivial)
    (fun p i l w n k hfollow hthread hallowed hcond hp =>
      counted_step hthread hfollow hallowed hcond hp)
    hfollow hmeets hstart
  exact hrun.1.singleUse hrun.2

/-! ## Guesses in parallel -/

/-- A delivered code `1`, with one attempt left. -/
def codeStore : AuthStore where
  users := ⟨[], List.nodup_nil⟩
  sessions := ⟨[], List.nodup_nil⟩
  challenges := ⟨[⟨"1", "c", "alice", "register",
    codeHash sampleSettings "c" "1", .delivered, 4, 100, none⟩], by decide⟩

def codeCalls (codes : Fin 2 → String) (i : Fin 2) : CodeCall :=
  ⟨⟨"c", "alice", "register", codes i⟩, 1, 1⟩

/-- The first call uses the code before the second reads the challenge. -/
theorem codes_singleUse_serial :
    SingleUse sampleSettings ((startCodes sampleSettings (codeCalls fun _ => "1") codeStore).run
      (codeNext "c") [0, 0, 1, 1]) :=
  codes_singleUse sampleSettings (codeCalls fun _ => "1") "c" (fun _ => rfl) codeStore _
    (by decide +kernel)

/-- Both calls read the challenge before either saves it: the code is used twice. -/
theorem parallel_codes_usedTwice :
    ¬ SingleUse sampleSettings ((startCodes sampleSettings (codeCalls fun _ => "1") codeStore).run
      (codeNext "c") [0, 1, 0, 1]) := by
  intro h
  exact absurd (h.once 0 1 _ _ rfl rfl) (by decide)

end Grouproxy.Auth
