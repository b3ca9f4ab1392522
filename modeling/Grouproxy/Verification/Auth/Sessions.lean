import Mathlib.Data.Fintype.Basic
import Grouproxy.Model.Auth

/-! # Revoked sessions

A lookup of a session and its revocation each read the session and save their own copy of it.
Only a lookup that saves its copy after a revocation can undo it.
-/

namespace Grouproxy.Auth

open Programs Collections

/-! ## What a call has in hand -/

/-- The sessions that a revocation is about. -/
inductive Target where
  | token (tokenHash : String)
  | user (userId : String)
  deriving DecidableEq

/-- How far a call has come: a lookup has found an open session, or none; a revocation still has
to save some sessions. -/
inductive SessionNote where
  | start
  | passing (tokenHash : String) (session : ManagementSession)
  | refused
  | revoking (target : Target) (pending : List ManagementSession)
  deriving DecidableEq

def AuthStore.session? (s : AuthStore) (tokenHash : String) : Option ManagementSession :=
  s.sessions.find? fun session => session.tokenHash == tokenHash

def afterLookup (tokenHash : String) : Option ManagementSession → SessionNote
  | none => .refused
  | some session =>
    if session.revokedAt = none then .passing tokenHash session else .refused

def afterRevocationLookup (tokenHash : String) : Option ManagementSession → SessionNote
  | none => .revoking (.token tokenHash) []
  | some session =>
    .revoking (.token tokenHash) (if session.revokedAt = none then [session] else [])

def sessionNext (g : SessionNote) (l : AuthLabel) (s : AuthStore) : SessionNote :=
  match l with
  | .resolve tokenHash => afterLookup tokenHash (s.session? tokenHash)
  | .revoke tokenHash => afterRevocationLookup tokenHash (s.session? tokenHash)
  | .revokeAll userId => .revoking (.user userId) (s.sessions.filter (isOpenSessionOf userId))
  | .saveRevoked _ =>
    match g with
    | .revoking target pending => .revoking target pending.tail
    | g => g
  | _ => g

def SessionNote.inHand : SessionNote → List ManagementSession
  | .passing _ session => [session]
  | .revoking _ pending => pending
  | _ => []

/-- The session is stored, whatever has become of it since the copy was read. -/
def Stored (s : AuthStore) (session : ManagementSession) : Prop :=
  ∃ stored ∈ s.sessions, stored.id = session.id ∧ stored.tokenHash = session.tokenHash ∧
    stored.userId = session.userId

def InHand (g : SessionNote) (s : AuthStore) : Prop := ∀ session ∈ g.inHand, Stored s session

/-- What an operation does to the stored sessions. -/
inductive SessionStep (g : SessionNote) : AuthLabel → AuthStore → AuthStore → Prop where
  | quiet {l : AuthLabel} {s s' : AuthStore} (hseen : ∀ session, l ≠ .saveSeen session)
      (hrevoked : ∀ session, l ≠ .saveRevoked session) (hsessions : s'.sessions = s.sessions) :
      SessionStep g l s s'
  | seen {session : ManagementSession} {s s' : AuthStore} (hstored : Stored s session)
      (hsessions : s'.sessions = s.sessions.save session) :
      SessionStep g (.saveSeen session) s s'
  | revoked {target : Target} {copy session : ManagementSession}
      {rest : List ManagementSession} {s s' : AuthStore}
      (hnote : g = .revoking target (copy :: rest)) (hcopy : copy.id = session.id)
      (hstored : Stored s session) (hrevoked : session.revokedAt ≠ none)
      (hsessions : s'.sessions = s.sessions.save session) :
      SessionStep g (.saveRevoked session) s s'

/-- How a call ends well. -/
inductive SessionAnswer where
  | resolved (tokenHash : String)
  | revoked (target : Target)
  deriving DecidableEq

def SessionEnd (g : SessionNote) : Except AuthFailure SessionAnswer → Prop
  | .ok (.resolved tokenHash) => ∃ session, g = .passing tokenHash session
  | .ok (.revoked target) => g = .revoking target []
  | .error _ => True

/-! ## The calls -/

/-- A call, with its readings of the clock. -/
inductive SessionCall where
  | resolveSession (now seenAt : Nat) (token : String)
  | revokeSessionToken (now : Nat) (token : String)
  | revokeUserSessions (now : Nat) (userId : String)

def SessionCall.program (settings : Settings) : SessionCall → AuthHandler SessionAnswer
  | .resolveSession now seenAt token => do
    let _ ← Auth.resolveSession settings now seenAt token
    return .resolved (tokenHash settings token)
  | .revokeSessionToken now token => do
    let _ ← Auth.revokeSessionToken settings now token
    return .revoked (.token (tokenHash settings token))
  | .revokeUserSessions now userId => do
    Auth.revokeUserSessions now userId
    return .revoked (.user userId)

/-- The handler takes the operations of a call from a note on. -/
abbrev KeepsSession {α : Type} (g : SessionNote) (p : AuthHandler α)
    (Q : SessionNote → Except AuthFailure α → Prop) : Prop :=
  p.Follows sessionNext InHand SessionStep Q g

theorem resolveSession_keeps (settings : Settings) (now seenAt : Nat) (token : String) :
    KeepsSession .start (resolveSession settings now seenAt token) fun g r =>
      r.isOk = true → ∃ session, g = .passing (tokenHash settings token) session := by
  refine .read_bind (fun _ _ => .quiet (by simp) (by simp) rfl) fun s _ => ?_
  simp only [sessionNext]
  cases hfound : s.session? (tokenHash settings token) with
  | none =>
      rw [AuthStore.session?] at hfound
      rw [hfound]
      exact .done (by simp [Except.isOk, Except.toBool])
  | some session =>
      have hlookup := hfound
      rw [AuthStore.session?] at hlookup
      rw [hlookup]
      refine .reject_bind (by simp [Except.isOk, Except.toBool]) fun hopen => ?_
      have hopen : session.revokedAt = none := by simpa using hopen
      have hnote : afterLookup (tokenHash settings token) (some session) =
          .passing (tokenHash settings token) session := by
        rw [afterLookup, if_pos hopen]
      rw [hnote]
      refine .reject_bind (by simp [Except.isOk, Except.toBool]) fun _ => ?_
      refine .read_bind (fun _ _ => .quiet (by simp) (by simp) rfl) fun t _ => ?_
      simp only [sessionNext]
      cases t.users.get? session.userId with
      | none => exact .done (by simp [Except.isOk, Except.toBool])
      | some user =>
          refine .reject_bind (by simp [Except.isOk, Except.toBool]) fun _ => ?_
          refine .write_bind (fun u hu => .seen ?_ rfl) fun u _ => .done fun _ => ?_
          · obtain ⟨stored, hmem, hid, htoken, huser⟩ := hu session (by simp [SessionNote.inHand])
            exact ⟨stored, hmem, hid, htoken, huser⟩
          · exact ⟨session, rfl⟩

/-- Revoking the sessions in hand, one after the other. -/
theorem revokeSessions_keeps (now : Nat) (target : Target) (pending : List ManagementSession) :
    KeepsSession (.revoking target pending) (revokeSessions now pending) fun g _ =>
      g = .revoking target [] := by
  induction pending with
  | nil => exact .done rfl
  | cons session rest ih =>
      refine .write_bind (fun s hs => ?_) fun s _ => ?_
      · obtain ⟨stored, hmem, hid, htoken, huser⟩ := hs session (by simp [SessionNote.inHand])
        exact .revoked rfl rfl ⟨stored, hmem, hid, htoken, huser⟩ (by simp) rfl
      · simpa [sessionNext] using ih

theorem revokeSessionToken_keeps (settings : Settings) (now : Nat) (token : String) :
    KeepsSession .start (revokeSessionToken settings now token) fun g _ =>
      g = .revoking (.token (tokenHash settings token)) [] := by
  refine .read_bind (fun _ _ => .quiet (by simp) (by simp) rfl) fun s _ => ?_
  simp only [sessionNext]
  cases hfound : s.session? (tokenHash settings token) with
  | none =>
      rw [AuthStore.session?] at hfound
      rw [hfound]
      exact .done rfl
  | some session =>
      have hlookup := hfound
      rw [AuthStore.session?] at hlookup
      rw [hlookup]
      dsimp only
      split
      · rename_i hrevoked
        exact .done (by simp [afterRevocationLookup, hrevoked])
      · rename_i hopen
        have hopen : session.revokedAt = none := by simpa using hopen
        rw [afterRevocationLookup, if_pos hopen]
        refine .write_bind (fun t ht => ?_) fun t _ => .done rfl
        obtain ⟨stored, hmem, hid, htoken, huser⟩ := ht session (by simp [SessionNote.inHand])
        exact .revoked rfl rfl ⟨stored, hmem, hid, htoken, huser⟩ (by simp) rfl

theorem revokeUserSessions_keeps (now : Nat) (userId : String) :
    KeepsSession .start (revokeUserSessions now userId) fun g _ =>
      g = .revoking (.user userId) [] :=
  .read_bind (fun _ _ => .quiet (by simp) (by simp) rfl) fun _ _ =>
    revokeSessions_keeps now (.user userId) _

theorem SessionCall.program_keeps (settings : Settings) (call : SessionCall) :
    KeepsSession .start (call.program settings) SessionEnd := by
  cases call with
  | resolveSession now seenAt token =>
      exact (resolveSession_keeps settings now seenAt token).bind
        (fun _ _ h => .done (h rfl)) fun _ _ _ => trivial
  | revokeSessionToken now token =>
      exact (revokeSessionToken_keeps settings now token).bind
        (fun _ _ h => .done h) fun _ _ _ => trivial
  | revokeUserSessions now userId =>
      exact (revokeUserSessions_keeps now userId).bind
        (fun _ _ h => .done h) fun _ _ _ => trivial

/-! ## Closed sessions -/

def Target.Reaches (s : AuthStore) (session : ManagementSession) : Target → Prop
  | .token tokenHash => s.session? tokenHash = some session
  | .user userId => session ∈ s.sessions ∧ session.userId = userId

/-- Every session of a target is revoked, or its revocation is still pending. -/
def Closed (target : Target) (pending : List ManagementSession) (s : AuthStore) : Prop :=
  ∀ session, target.Reaches s session →
    session.revokedAt ≠ none ∨ ∃ copy ∈ pending, copy.id = session.id

/-- The session with a token is one of the target's. -/
def Target.Covers (tokenHash : String) (s : AuthStore) : Target → Prop
  | .token other => other = tokenHash
  | .user userId => ∀ session, s.session? tokenHash = some session → session.userId = userId

theorem Closed.token {target : Target} {s : AuthStore} {tokenHash : String}
    (h : Closed target [] s) (hcovers : target.Covers tokenHash s) :
    Closed (.token tokenHash) [] s := by
  cases target with
  | token other => exact hcovers ▸ h
  | user userId =>
      intro session hsession
      exact h session ⟨(Collection.mem_of_find? hsession).1, hcovers session hsession⟩

/-- After a session is saved, a target reaches its new copy where it reached the session. -/
theorem reaches_save {s s' : AuthStore} {session other : ManagementSession} {target : Target}
    (hstored : Stored s session) (hsessions : s'.sessions = s.sessions.save session)
    (hother : target.Reaches s' other) :
    (other = session ∧ ∃ stored, target.Reaches s stored ∧ stored.id = session.id ∧
        stored.userId = session.userId) ∨
      (other.id ≠ session.id ∧ target.Reaches s other) := by
  obtain ⟨stored, hmem, hid, htoken, huser⟩ := hstored
  cases target with
  | token tokenHash =>
      rw [Target.Reaches, AuthStore.session?, hsessions,
        Collection.find?_save hmem hid (by rw [htoken]), Option.map_eq_some_iff] at hother
      obtain ⟨found, hfound, hreplaced⟩ := hother
      by_cases hsame : found.id = session.id
      · have hstoredFound : found = stored :=
          Collection.eq_of_key_eq (Collection.mem_of_find? hfound).1 hmem (hsame.trans hid.symm)
        refine .inl ⟨?_, found, hfound, hsame, by rw [hstoredFound, huser]⟩
        rw [← hreplaced]
        exact if_pos hsame
      · have hfoundOther : found = other := by
          rw [← hreplaced]
          exact (if_neg hsame).symm
        exact .inr ⟨hfoundOther ▸ hsame, hfoundOther ▸ hfound⟩
  | user userId =>
      obtain ⟨hin, hof⟩ := hother
      rw [hsessions, Collection.mem_save] at hin
      rcases hin with rfl | ⟨hin, hne⟩
      · exact .inl ⟨rfl, stored, ⟨hmem, huser.trans hof⟩, hid, huser⟩
      · exact .inr ⟨hne, hin, hof⟩

theorem Stored.save {s s' : AuthStore} {session other : ManagementSession}
    (hstored : Stored s session) (hsessions : s'.sessions = s.sessions.save session)
    (hother : Stored s other) : Stored s' other := by
  obtain ⟨found, hfound, hid, htoken, huser⟩ := hother
  obtain ⟨stored, hmem, hid', htoken', huser'⟩ := hstored
  by_cases hsame : found.id = session.id
  · have heq : found = stored := Collection.eq_of_key_eq hfound hmem (hsame.trans hid'.symm)
    refine ⟨session, hsessions ▸ Collection.mem_save_self _ _, ?_, ?_, ?_⟩
    · rw [← hid', ← heq, hid]
    · rw [← htoken', ← heq, htoken]
    · rw [← huser', ← heq, huser]
  · exact ⟨found, hsessions ▸ Collection.mem_save.mpr (.inr ⟨hfound, hsame⟩), hid, htoken, huser⟩

/-- A lookup saves its copy over an open session only. -/
def SavesOver (l : AuthLabel) (s : AuthStore) : Prop :=
  ∀ session, l = .saveSeen session → ∀ stored ∈ s.sessions, stored.id = session.id →
    stored.revokedAt = none

section Step

variable {g : SessionNote} {l : AuthLabel} {s s' : AuthStore}

theorem SessionStep.stored (h : SessionStep g l s s') {other : ManagementSession}
    (hother : Stored s other) : Stored s' other := by
  cases h with
  | quiet _ _ hsessions =>
      rw [Stored, hsessions]
      exact hother
  | seen hstored hsessions => exact hstored.save hsessions hother
  | revoked _ _ hstored _ hsessions => exact hstored.save hsessions hother

theorem SessionStep.covers (h : SessionStep g l s s') {target : Target} {tokenHash : String}
    (hcovers : target.Covers tokenHash s) : target.Covers tokenHash s' := by
  cases target with
  | token other => exact hcovers
  | user userId =>
      have hsaved : ∀ session, Stored s session → s'.sessions = s.sessions.save session →
          ∀ other, s'.session? tokenHash = some other → other.userId = userId := by
        intro session hstored hsessions other hother
        rcases @reaches_save _ _ _ _ (.token tokenHash) hstored hsessions hother with
          ⟨rfl, stored, hreaches, -, huser⟩ | ⟨-, hreaches⟩
        · rw [← huser]
          exact hcovers stored hreaches
        · exact hcovers other hreaches
      cases h with
      | quiet _ _ hsessions =>
          intro session hsession
          rw [AuthStore.session?, hsessions] at hsession
          exact hcovers session hsession
      | seen hstored hsessions => exact hsaved _ hstored hsessions
      | revoked _ _ hstored _ hsessions => exact hsaved _ hstored hsessions

/-- No operation opens what is closed. -/
theorem SessionStep.closed (h : SessionStep g l s s') (hover : SavesOver l s) {target : Target}
    {pending : List ManagementSession} (hclosed : Closed target pending s) :
    Closed target pending s' := by
  intro other hother
  cases h with
  | quiet _ _ hsessions =>
      apply hclosed
      cases target with
      | token tokenHash =>
          rw [Target.Reaches, AuthStore.session?, hsessions] at hother
          exact hother
      | user userId =>
          rw [Target.Reaches, hsessions] at hother
          exact hother
  | @seen session _ _ hstored hsessions =>
      rcases reaches_save hstored hsessions hother with
        ⟨rfl, stored, hreaches, hid, -⟩ | ⟨-, hreaches⟩
      · -- The stored session was open, so its revocation is pending.
        have hmem : stored ∈ s.sessions := by
          cases target with
          | token tokenHash => exact (Collection.mem_of_find? hreaches).1
          | user userId => exact hreaches.1
        rcases hclosed stored hreaches with hrevoked | ⟨copy, hcopy, hsame⟩
        · exact absurd (hover _ rfl stored hmem hid) hrevoked
        · exact .inr ⟨copy, hcopy, hsame.trans hid⟩
      · exact hclosed other hreaches
  | revoked _ _ hstored hrevoked hsessions =>
      rcases reaches_save hstored hsessions hother with ⟨rfl, -⟩ | ⟨-, hreaches⟩
      · exact .inl hrevoked
      · exact hclosed other hreaches

/-- Saving a revoked session takes it off the list of its revocation. -/
theorem SessionStep.closed_tail {session copy : ManagementSession}
    {rest : List ManagementSession} {target : Target} (hcopy : copy.id = session.id)
    (hstored : Stored s session) (hrevoked : session.revokedAt ≠ none)
    (hsessions : s'.sessions = s.sessions.save session)
    (hclosed : Closed target (copy :: rest) s) : Closed target rest s' := by
  intro other hother
  rcases reaches_save hstored hsessions hother with ⟨rfl, -⟩ | ⟨hne, hreaches⟩
  · exact .inl hrevoked
  · rcases hclosed other hreaches with h | ⟨c, hc, hid⟩
    · exact .inl h
    · rcases List.mem_cons.mp hc with rfl | hc
      · exact absurd (hid.symm.trans hcopy) hne
      · exact .inr ⟨c, hc, hid⟩

/-- What a call has in hand after its operation. -/
theorem SessionStep.inHand (h : SessionStep g l s s') (hg : InHand g s) :
    InHand (sessionNext g l s) s' := by
  intro session hsession
  apply h.stored
  have hfound : ∀ {tokenHash : String}, s.session? tokenHash = some session →
      Stored s session := fun h =>
    ⟨session, (Collection.mem_of_find? h).1, rfl, rfl, rfl⟩
  unfold sessionNext at hsession
  split at hsession
  · rename_i tokenHash
    unfold afterLookup at hsession
    split at hsession
    · simp [SessionNote.inHand] at hsession
    · rename_i found heq
      split at hsession
      · simp only [SessionNote.inHand, List.mem_singleton] at hsession
        exact hfound (hsession ▸ heq)
      · simp [SessionNote.inHand] at hsession
  · rename_i tokenHash
    unfold afterRevocationLookup at hsession
    split at hsession
    · simp [SessionNote.inHand] at hsession
    · rename_i found heq
      simp only [SessionNote.inHand] at hsession
      split at hsession
      · simp only [List.mem_singleton] at hsession
        exact hfound (hsession ▸ heq)
      · cases hsession
  · exact ⟨session, (Collection.mem_filter.mp hsession).1, rfl, rfl, rfl⟩
  · split at hsession
    · rename_i hnote
      apply hg
      exact List.mem_of_mem_tail hsession
    · exact hg session hsession
  · exact hg session hsession

/-- Nobody finds a closed session open. -/
theorem not_passing_next {tokenHash : String} {session : ManagementSession}
    (hclosed : Closed (.token tokenHash) [] s) (hg : g ≠ .passing tokenHash session) :
    sessionNext g l s ≠ .passing tokenHash session := by
  unfold sessionNext
  split
  · unfold afterLookup
    split
    · simp
    · rename_i found hfound
      split
      · rename_i hopen
        intro hpassing
        cases hpassing
        rcases hclosed session hfound with h | ⟨copy, hcopy, -⟩
        · exact h hopen
        · cases hcopy
      · simp
  · unfold afterRevocationLookup
    split
    · simp
    · simp
  · simp
  · split
    · simp
    · exact hg
  · exact hg

end Step

theorem closed_afterRevocationLookup {s : AuthStore} {tokenHash : String} {target : Target}
    {pending : List ManagementSession}
    (h : afterRevocationLookup tokenHash (s.session? tokenHash) = .revoking target pending) :
    Closed target pending s := by
  cases hfound : s.session? tokenHash with
  | none =>
      rw [hfound, afterRevocationLookup] at h
      cases h
      intro session hsession
      rw [Target.Reaches, hfound] at hsession
      cases hsession
  | some found =>
      rw [hfound, afterRevocationLookup] at h
      cases h
      intro session hsession
      rw [Target.Reaches, hfound] at hsession
      cases hsession
      by_cases hopen : found.revokedAt = none
      · exact .inr ⟨found, by simp [hopen], rfl⟩
      · exact .inl hopen

theorem closed_open (s : AuthStore) (userId : String) :
    Closed (.user userId) (s.sessions.filter (isOpenSessionOf userId)) s := by
  rintro session ⟨hmem, rfl⟩
  by_cases hopen : session.revokedAt = none
  · exact .inr ⟨session, Collection.mem_filter.mpr ⟨hmem, by simp [isOpenSessionOf, hopen]⟩, rfl⟩
  · exact .inl hopen

/-! ## Runs -/

variable {ι : Type} [DecidableEq ι]

abbrev SessionPool (ι : Type) := Pool ι AuthLabel AuthStore AuthFailure SessionAnswer SessionNote

/-- All calls of an index type, before any of them has moved. -/
def startCalls (settings : Settings) (calls : ι → SessionCall) (s : AuthStore) : SessionPool ι :=
  { thread := fun i => (calls i).program settings, note := fun _ => .start, store := s }

def AuthLabel.seen? : AuthLabel → Option ManagementSession
  | .saveSeen session => some session
  | _ => none

/-- A lookup saves its copy only while the stored session is open. -/
def SavesOpen (p : SessionPool ι) (i : ι) : Prop :=
  ∀ session ∈ (p.thread i).label?.bind AuthLabel.seen?,
    ∀ stored ∈ p.store.sessions.docs, stored.id = session.id → stored.revokedAt = none

instance (p : SessionPool ι) (i : ι) : Decidable (SavesOpen p i) :=
  inferInstanceAs (Decidable (∀ session ∈ (p.thread i).label?.bind AuthLabel.seen?, _))

/-- Copies in hand are of stored sessions, and what a revocation has left is on its list. -/
structure Tracked (p : SessionPool ι) : Prop where
  inHand : ∀ i, InHand (p.note i) p.store
  closed : ∀ i target pending, p.note i = .revoking target pending →
    Closed target pending p.store

section Pool

variable {p : SessionPool ι} {i : ι} {l : AuthLabel} {w : AuthStore → AuthStore}
  {n : AuthStore → AuthHandler SessionAnswer} {k : AuthHandler SessionAnswer}

omit [DecidableEq ι] in
theorem savesOver_of_savesOpen (hthread : p.thread i = .op l w n k) (hcond : SavesOpen p i) :
    SavesOver l p.store := by
  rintro session rfl stored hmem hid
  exact hcond session (by rw [hthread]; rfl) stored hmem hid

theorem tracked_step (hthread : p.thread i = .op l w n k)
    (hallowed : SessionStep (p.note i) l p.store (w p.store)) (hcond : SavesOpen p i)
    (hp : Tracked p) : Tracked (p.step sessionNext i) := by
  have hover := savesOver_of_savesOpen hthread hcond
  have hstore : (p.step sessionNext i).store = w p.store := Pool.step_store hthread
  have hnote : (p.step sessionNext i).note i = sessionNext (p.note i) l p.store :=
    Pool.step_note_self hthread
  refine ⟨fun j => ?_, fun j target pending hj => ?_⟩
  · rw [hstore]
    by_cases hji : j = i
    · subst hji
      rw [hnote]
      exact hallowed.inHand (hp.inHand j)
    · rw [Pool.step_note_of_ne p hji]
      exact fun session hsession => hallowed.stored (hp.inHand j session hsession)
  · rw [hstore]
    by_cases hji : j = i
    · subst hji
      rw [hnote] at hj
      cases l with
      | resolve tokenHash =>
          simp only [sessionNext, afterLookup] at hj
          split at hj
          · cases hj
          · split at hj
            · cases hj
            · cases hj
      | revoke tokenHash => exact hallowed.closed hover (closed_afterRevocationLookup hj)
      | revokeAll userId =>
          cases hj
          exact hallowed.closed hover (closed_open p.store userId)
      | saveRevoked session =>
          cases hallowed with
          | quiet _ hrevoked => exact absurd rfl (hrevoked session)
          | revoked hcurrent hcopy hstored hrevoked hsessions =>
              simp only [sessionNext, hcurrent, List.tail_cons] at hj
              cases hj
              exact SessionStep.closed_tail hcopy hstored hrevoked hsessions
                (hp.closed j _ _ hcurrent)
      | other => exact hallowed.closed hover (hp.closed j _ _ hj)
      | saveSeen session => exact hallowed.closed hover (hp.closed j _ _ hj)
      | findUser => exact hallowed.closed hover (hp.closed j _ _ hj)
      | findLegacyUser => exact hallowed.closed hover (hp.closed j _ _ hj)
      | saveItcode user => exact hallowed.closed hover (hp.closed j _ _ hj)
      | saveUser user => exact hallowed.closed hover (hp.closed j _ _ hj)
      | findChallenge => exact hallowed.closed hover (hp.closed j _ _ hj)
      | saveChallenge outcome challenge => exact hallowed.closed hover (hp.closed j _ _ hj)
    · rw [Pool.step_note_of_ne p hji] at hj
      exact hallowed.closed hover (hp.closed j target pending hj)

/-- A session that is revoked for good: nobody who starts now finds it open. -/
structure Shut (tokenHash : String) (late : ι) (p : SessionPool ι) : Prop extends Tracked p where
  shut : Closed (.token tokenHash) [] p.store
  refused : ∀ session, p.note late ≠ .passing tokenHash session

theorem shut_step {tokenHash : String} {late : ι} (hthread : p.thread i = .op l w n k)
    (hallowed : SessionStep (p.note i) l p.store (w p.store)) (hcond : SavesOpen p i)
    (hp : Shut tokenHash late p) : Shut tokenHash late (p.step sessionNext i) := by
  refine ⟨tracked_step hthread hallowed hcond hp.toTracked, ?_, fun session => ?_⟩
  · rw [Pool.step_store hthread]
    exact hallowed.closed (savesOver_of_savesOpen hthread hcond) hp.shut
  · by_cases hlate : late = i
    · subst hlate
      rw [Pool.step_note_self hthread]
      exact not_passing_next hp.shut (hp.refused session)
    · rw [Pool.step_note_of_ne p hlate]
      exact hp.refused session

end Pool

/-- Once a revocation that covers a token has completed, no lookup of that token that starts
afterwards succeeds. -/
def RevocationPermanent (settings : Settings) (calls : ι → SessionCall) (s : AuthStore)
    (first rest : List ι) : Prop :=
  ∀ (i late : ι) (target : Target) (token : String),
    target.Covers (tokenHash settings token) s →
    ((startCalls settings calls s).run sessionNext first).thread i =
      .done (.ok (.revoked target)) →
    late ∉ first →
    ((startCalls settings calls s).run sessionNext (first ++ rest)).thread late ≠
      .done (.ok (.resolved (tokenHash settings token)))

/-- Any number of lookups and revocations, interleaved at every operation: as long as lookups
save their copies over open sessions only, a revocation is permanent. -/
theorem revocation_permanent (settings : Settings) (calls : ι → SessionCall) (s : AuthStore)
    (first rest : List ι)
    (hmeets : (startCalls settings calls s).Meets sessionNext SavesOpen (first ++ rest)) :
    RevocationPermanent settings calls s first rest := by
  intro i late target token hcovers hrevoked hlate hresolved
  obtain ⟨hfirst, hrest⟩ := Pool.meets_append.mp hmeets
  have hstart : Tracked (startCalls settings calls s) :=
    ⟨fun _ _ h => by simp [startCalls, SessionNote.inHand] at h, fun _ _ _ h => by cases h⟩
  have hbefore := Pool.invariant_run sessionNext InHand SessionStep SessionEnd
    (fun p => Tracked p ∧ target.Covers (tokenHash settings token) p.store)
    (fun p j hp _ => hp.1.inHand j)
    (fun p j l w n k _ hthread hallowed hcond hp =>
      ⟨tracked_step hthread hallowed hcond hp.1, by
        rw [Pool.step_store hthread]
        exact hallowed.covers hp.2⟩)
    (fun j => (calls j).program_keeps settings) hfirst ⟨hstart, hcovers⟩
  obtain ⟨⟨htracked, hcovers'⟩, hfollow⟩ := hbefore
  -- The revocation has nothing left on its list.
  have hend := hfollow i
  rw [hrevoked] at hend
  have hclosed := (htracked.closed i target [] hend).token hcovers'
  have hnote : ((startCalls settings calls s).run sessionNext first).note late = .start :=
    (Pool.run_of_notMem hlate).2
  have hafter := Pool.invariant_run sessionNext InHand SessionStep SessionEnd
    (Shut (tokenHash settings token) late) (fun p j hp _ => hp.inHand j)
    (fun p j l w n k _ hthread hallowed hcond hp => shut_step hthread hallowed hcond hp)
    hfollow hrest ⟨htracked, hclosed, by simp [hnote]⟩
  have hlast := hafter.2 late
  rw [← Pool.run_append, hresolved] at hlast
  obtain ⟨session, hpassing⟩ := hlast
  rw [← Pool.run_append] at hafter
  exact hafter.1.refused session hpassing

/-! ## A lookup that overtakes a revocation -/

def sampleSettings : Settings where
  hashes := ⟨fun bytes => bytes.data.toList, fun _ bytes => bytes.data.toList⟩
  passwordHasher := ⟨fun password _ => "$argon2" ++ password,
    fun hash password => hash == "$argon2" ++ password, fun _ => false⟩
  casefold := id
  managementToken := "key"
  authSessionTtlMinutes := 60
  authVerificationMaxAttempts := 5

def sampleUser : AdminUser :=
  ⟨"1", "alice", "alice", "$argon2secret-secret", true, .admin, none, none⟩

theorem nodup_sampleUser : ([sampleUser].map Document.key).Nodup := by decide

/-- One account with one open session, for the token `t`. -/
def sessionStore : AuthStore where
  users := ⟨[sampleUser], nodup_sampleUser⟩
  sessions := ⟨[⟨"1", "74", "1", "alice", 100, none, none⟩], by decide⟩
  challenges := ⟨[], List.nodup_nil⟩

/-- Two lookups of the session and a revocation. -/
def sessionCalls : Fin 3 → SessionCall
  | 0 => .resolveSession 1 1 "t"
  | 1 => .revokeSessionToken 2 "t"
  | 2 => .resolveSession 3 3 "t"

theorem revocation_permanent_serial :
    RevocationPermanent sampleSettings sessionCalls sessionStore [0, 0, 0, 1, 1] [2, 2, 2] :=
  revocation_permanent sampleSettings sessionCalls sessionStore _ _ (by decide +kernel)

/-- The first lookup has read the session when it is revoked, and saves it open again. -/
theorem overtaken_revocation_lost :
    ¬ RevocationPermanent sampleSettings sessionCalls sessionStore [0, 0, 1, 1] [0, 2, 2, 2] := by
  intro h
  refine h 1 2 (.token (tokenHash sampleSettings "t")) "t" rfl ?_ (by decide) ?_
  · rfl
  · rfl

end Grouproxy.Auth
