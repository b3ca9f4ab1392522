import Mathlib.Data.Fintype.Basic
import Grouproxy.Verification.Auth.Accounts
import Grouproxy.Verification.Auth.Sessions

/-! # Updates of an account

An update is kept as long as no request saves an older value of a field that it does not set.
-/

namespace Grouproxy.Auth

open Ipaddress Programs Collections

/-! ## Any number of requests -/

instance : Fintype AccountField := ⟨{.role, .password}, fun field => by cases field <;> simp⟩

variable {ι : Type} [DecidableEq ι]

abbrev AccountPool (ι : Type) := Pool ι AuthLabel AuthStore AuthFailure Unit AccountNote

/-- All requests of an index type, before any of them has moved. -/
def startRequests (settings : Settings) (requests : ι → AccountRequest) (s : AuthStore) :
    AccountPool ι :=
  { thread := fun i => (requests i).program settings
    note := fun i => ⟨requests i, none, false⟩
    store := s }

/-- The fields that a save sets. The one that gives an account its IT code sets none of them. -/
def AccountNote.setsAt (g : AccountNote) : AuthLabel → AccountField → Bool
  | .saveUser _, field => g.request.sets field
  | _, _ => false

/-- A request saves the account only with the stored values of the fields that it does not set,
and a field that it sets only while no other request that has set the field is still running. -/
def SavesFresh (p : AccountPool ι) (i : ι) : Prop :=
  ∀ l ∈ (p.thread i).label?, ∀ user ∈ l.savedUser?, ∀ field,
    if (p.note i).setsAt l field = true then
      ∀ j, j ≠ i → (p.note j).request.sets field = true → (p.note j).saved = true →
        ¬ (p.thread j).Running
    else
      ∀ stored ∈ p.store.users.get? user.id, ∀ copy ∈ (p.note i).copy, field.Same copy stored

instance [Fintype ι] (p : AccountPool ι) (i : ι) : Decidable (SavesFresh p i) :=
  inferInstanceAs (Decidable (∀ l ∈ (p.thread i).label?, ∀ user ∈ l.savedUser?, ∀ _, _))

/-- The account is stored, and what a running request has set is what it has set it to. -/
structure Updated (settings : Settings) (itcode : String) (origin : AdminUser)
    (p : AccountPool ι) : Prop where
  current : ∃ user, Current itcode origin p.store user
  copies : ∀ i copy, (p.note i).copy = some copy → SameAccount itcode origin copy
  set : ∀ i field, (p.note i).request.sets field = true → (p.note i).saved = true →
    (p.thread i).Running → ∀ user, p.store.account? itcode = some user →
      (p.note i).request.HasSet settings user field

section Step

variable {settings : Settings} {itcode : String} {origin user : AdminUser} {p : AccountPool ι}
  {i : ι} {l : AuthLabel} {w : AuthStore → AuthStore} {n : AuthStore → AuthHandler Unit}
  {k : AuthHandler Unit} {s s' : AuthStore} {g : AccountNote}

abbrev FollowsAccount (settings : Settings) (itcode : String) (origin : AdminUser)
    (p : AccountPool ι) : Prop :=
  p.Follow (accountNext itcode) (fun _ s => ∃ user, Current itcode origin s user)
    (AccountStep settings itcode origin) (AccountEnd settings)

theorem Current.congr (h : Current itcode origin s user) (husers : s'.users = s.users) :
    Current itcode origin s' user := by
  refine ⟨?_, h.same, ?_⟩
  · rw [AuthStore.account?, husers]
    exact h.found
  · rw [husers]
    exact h.legacy

theorem SameAccount.withItcode {copy : AdminUser} (h : SameAccount itcode origin copy)
    (hempty : copy.itcode = "") : SameAccount itcode origin { copy with itcode := itcode } := by
  refine ⟨h.id, h.username, .inr ⟨?_, rfl⟩⟩
  rcases h.itcode with hsame | ⟨horigin, -⟩
  · exact hsame.symm.trans hempty
  · exact horigin

/-- A lookup of the account, or the save that gives it its IT code, leaves the stored account in
hand. -/
theorem copy_step (hallowed : AccountStep settings itcode origin g l s s')
    (hcurrent : Current itcode origin s user)
    (hcopies : ∀ copy, g.copy = some copy → SameAccount itcode origin copy) {copy : AdminUser}
    (hcopy : (accountNext itcode g l s).copy = some copy) :
    SameAccount itcode origin copy ∧
      (Current itcode origin s' copy ∨
        (g.request.sets .role = true → (accountNext itcode g l s).saved = true)) := by
  cases hallowed with
  | quiet hquiet hrole =>
      rw [accountNext_quiet hquiet.1] at hcopy ⊢
      exact ⟨hcopies copy hcopy, .inr hrole⟩
  | find =>
      have hsame := hcurrent.eq_of_findUser hcopy
      subst hsame
      exact ⟨hcurrent.same, .inl hcurrent⟩
  | findLegacy hcode =>
      have hsame : user = copy := Option.some.inj ((hcurrent.legacy hcode).symm.trans hcopy)
      subst hsame
      exact ⟨hcurrent.same, .inl hcurrent⟩
  | saveItcode hread hempty huser husers =>
      have hsame := Option.some.inj hcopy
      subst hsame huser
      have hsame := (hcopies _ hread).withItcode hempty
      exact ⟨hsame, .inl (hcurrent.save hsame (.inl rfl) husers)⟩
  | saveUser => exact ⟨hcopies copy hcopy, .inr fun _ => rfl⟩

theorem setsAt_of_quiet (hquiet : Quiet l s s') (field : AccountField) :
    g.setsAt l field = false := by
  cases l with
  | saveUser => cases hquiet.1
  | _ => rfl

omit [DecidableEq ι] in
/-- What an operation does to the account: it sets the fields of its request, and keeps the
others. -/
theorem account_step (hthread : p.thread i = .op l w n k)
    (hallowed : AccountStep settings itcode origin (p.note i) l p.store (w p.store))
    (hcond : SavesFresh p i)
    (hcopies : ∀ copy, (p.note i).copy = some copy → SameAccount itcode origin copy)
    (hcurrent : Current itcode origin p.store user) :
    ∃ user', Current itcode origin (w p.store) user' ∧ ∀ field,
      if (p.note i).setsAt l field = true then (p.note i).request.HasSet settings user' field
      else field.Kept settings user user' := by
  have hfresh : ∀ user' copy, l.savedUser? = some user' → (p.note i).copy = some copy →
      user'.id = copy.id → ∀ field, ¬ (p.note i).setsAt l field = true →
      field.Same copy user := by
    intro user' copy hsaved hcopy hid field hsets
    have hstored : p.store.users.get? user'.id = some user := by
      rw [hid, (hcopies copy hcopy).id, ← hcurrent.same.id]
      exact Collection.get?_of_mem (mem_of_account? hcurrent.found).1
    have hfield := hcond l (by rw [hthread]; rfl) user' hsaved field
    rw [if_neg hsets] at hfield
    exact hfield user hstored copy hcopy
  generalize hnote : p.note i = g at hallowed hcopies hfresh ⊢
  generalize w p.store = s' at hallowed ⊢
  generalize p.store = s at hallowed hcurrent ⊢
  cases hallowed with
  | quiet hquiet =>
      refine ⟨user, hcurrent.congr hquiet.2, fun field => ?_⟩
      rw [setsAt_of_quiet hquiet, if_neg Bool.false_ne_true]
      exact .refl
  | find => exact ⟨user, hcurrent, fun field => AccountField.Kept.refl⟩
  | findLegacy => exact ⟨user, hcurrent, fun field => AccountField.Kept.refl⟩
  | saveItcode hread hempty huser husers =>
      rename_i copy user'
      subst huser
      have hsame := (hcopies copy hread).withItcode hempty
      refine ⟨_, hcurrent.save hsame (.inl rfl) husers, fun field => ?_⟩
      have hfield := hfresh _ copy rfl hread rfl field Bool.false_ne_true
      refine AccountField.Kept.of_same hfield ?_
      cases field with
      | role => exact rfl
      | password => exact Relation.ReflTransGen.refl
  | saveUser hread hcode hid hname hsame hchange husers =>
      rename_i copy user'
      have hcopy := hcopies copy hread
      have huser' : SameAccount itcode origin user' :=
        ⟨hid.trans hcopy.id, hname.trans hcopy.username, by rw [hsame]; exact hcopy.itcode⟩
      refine ⟨user', hcurrent.save huser' (by rw [hsame]; exact hcode) husers, fun field => ?_⟩
      have hfield : if g.setsAt (.saveUser user') field = true then
          g.request.HasSet settings user' field else field.Kept settings copy user' := hchange field
      split
      · rename_i hsets
        rwa [if_pos hsets] at hfield
      · rename_i hsets
        rw [if_neg hsets] at hfield
        exact hfield.of_same (hfresh user' copy rfl hread hid field hsets)

theorem accountNext_request (g : AccountNote) (l : AuthLabel) (s : AuthStore) :
    (accountNext itcode g l s).request = g.request := by
  cases l <;> rfl

theorem accountNext_saved {g : AccountNote} (h : g.saved = true) (l : AuthLabel) (s : AuthStore) :
    (accountNext itcode g l s).saved = true := by
  cases l with
  | saveUser => exact rfl
  | _ => exact h

/-- A save that sets a field sets the mark. -/
theorem saved_of_setsAt {field : AccountField} (h : g.setsAt l field = true) (s : AuthStore) :
    g.request.sets field = true ∧ (accountNext itcode g l s).saved = true := by
  cases l with
  | saveUser user => exact ⟨h, rfl⟩
  | _ => cases h

/-- An operation that does not set a field of its request leaves the mark. -/
theorem saved_of_not_setsAt {field : AccountField} (hsets : g.request.sets field = true)
    (h : ¬ g.setsAt l field = true) (hsaved : (accountNext itcode g l s).saved = true) :
    g.saved = true := by
  cases l with
  | saveUser => exact absurd hsets h
  | _ => exact hsaved

theorem updated_step (hthread : p.thread i = .op l w n k)
    (hallowed : AccountStep settings itcode origin (p.note i) l p.store (w p.store))
    (hcond : SavesFresh p i) (hp : Updated settings itcode origin p) :
    Updated settings itcode origin (p.step (accountNext itcode) i) := by
  obtain ⟨user, hcurrent⟩ := hp.current
  obtain ⟨user', hcurrent', hfields⟩ :=
    account_step hthread hallowed hcond (hp.copies i) hcurrent
  have hstore : (p.step (accountNext itcode) i).store = w p.store := Pool.step_store hthread
  have hself : (p.step (accountNext itcode) i).note i = accountNext itcode (p.note i) l p.store :=
    Pool.step_note_self hthread
  refine ⟨⟨user', by rw [hstore]; exact hcurrent'⟩, fun j copy hcopy => ?_, ?_⟩
  · by_cases hj : j = i
    · subst hj
      rw [hself] at hcopy
      exact (copy_step hallowed hcurrent (hp.copies j) hcopy).1
    · rw [Pool.step_note_of_ne p hj] at hcopy
      exact hp.copies j copy hcopy
  · intro j field hsets hsaved hrunning found hfound
    rw [hstore, hcurrent'.found] at hfound
    obtain rfl := Option.some.inj hfound
    have hfield := hfields field
    by_cases hj : j = i
    · subst hj
      rw [hself, accountNext_request] at hsets
      rw [hself] at hsaved ⊢
      rw [accountNext_request]
      split at hfield
      · exact hfield
      · rename_i hset
        have hbefore := hp.set j field hsets (saved_of_not_setsAt hsets hset hsaved)
          (by rw [hthread]; trivial) user hcurrent.found
        exact hbefore.kept hfield
    · rw [Pool.step_note_of_ne p hj] at hsets hsaved ⊢
      rw [Pool.step_thread_of_ne p hj] at hrunning
      split at hfield
      · -- A field is not set while another request that has set it is still running.
        rename_i hset
        have hl : ∃ saved, l.savedUser? = some saved := by
          cases l with
          | saveUser saved => exact ⟨saved, rfl⟩
          | _ => cases hset
        obtain ⟨saved, hl⟩ := hl
        have halone := hcond l (by rw [hthread]; rfl) saved hl field
        rw [if_pos hset] at halone
        exact absurd hrunning (halone j hj hsets hsaved)
      · exact (hp.set j field hsets hsaved hrunning user hcurrent.found).kept hfield

omit [DecidableEq ι] in
/-- A request completes: the account has what the request has set. -/
theorem hasSet_of_completed (hthread : p.thread i = .op l w n k)
    (hallowed : AccountStep settings itcode origin (p.note i) l p.store (w p.store))
    (hcond : SavesFresh p i) (hp : Updated settings itcode origin p)
    (hend : AccountEnd settings (accountNext itcode (p.note i) l p.store) (.ok ()))
    {field : AccountField} (hsets : (p.note i).request.sets field = true) :
    ∃ user', Current itcode origin (w p.store) user' ∧
      (p.note i).request.HasSet settings user' field := by
  obtain ⟨user, hcurrent⟩ := hp.current
  obtain ⟨user', hcurrent', hfields⟩ :=
    account_step hthread hallowed hcond (hp.copies i) hcurrent
  refine ⟨user', hcurrent', ?_⟩
  have hfield := hfields field
  split at hfield
  · exact hfield
  · rename_i hset
    have hkept : (accountNext itcode (p.note i) l p.store).saved = true →
        (p.note i).request.HasSet settings user' field := by
      intro hsaved
      have hbefore := hp.set i field hsets (saved_of_not_setsAt hsets hset hsaved)
        (by rw [hthread]; trivial) user hcurrent.found
      exact hbefore.kept hfield
    have hanswer := (hend field (by rw [accountNext_request]; exact hsets)).1 rfl
    rw [accountNext_request] at hanswer
    rcases hanswer with hsaved | ⟨hrole, copy, hcopy, hcopyset⟩
    · exact hkept hsaved
    · rcases (copy_step hallowed hcurrent (hp.copies i) hcopy).2 with hfound | hsaved
      · have hsame : copy = user' :=
          Option.some.inj (hfound.found.symm.trans hcurrent'.found)
        rw [← hsame]
        exact hcopyset
      · exact hkept (hsaved hrole)

/-- What a save that does not set a field keeps, a run keeps in which the field is not set. -/
theorem account_run {P : AdminUser → Prop} {field : AccountField}
    (hP : ∀ user user', P user → field.Kept settings user user' → P user') {schedule : List ι}
    (hfollow : FollowsAccount settings itcode origin p)
    (hmeets : p.Meets (accountNext itcode) SavesFresh schedule)
    (hp : Updated settings itcode origin p)
    (hlast : ∀ j, (p.note j).request.sets field = true →
      ((p.run (accountNext itcode) schedule).note j).saved = true → ¬ (p.thread j).Running)
    (hstart : ∃ user, p.store.account? itcode = some user ∧ P user) :
    ∃ user, (p.run (accountNext itcode) schedule).store.account? itcode = some user ∧ P user := by
  induction schedule generalizing p with
  | nil => exact hstart
  | cons i schedule ih =>
      cases hthread : p.thread i with
      | done r =>
          have hsame : p.step (accountNext itcode) i = p := by rw [Pool.step, hthread]
          rw [Pool.run, hsame] at hlast ⊢
          exact ih hfollow (hsame ▸ hmeets.2) hp hlast hstart
      | op l w n k =>
          have hi := hfollow i
          rw [hthread] at hi
          have hallowed := (hi p.store hp.current).1
          obtain ⟨user, hfound, hholds⟩ := hstart
          obtain ⟨current, hcurrent⟩ := hp.current
          have hsame : current = user := Option.some.inj (hcurrent.found.symm.trans hfound)
          subst hsame
          obtain ⟨user', hcurrent', hfields⟩ :=
            account_step hthread hallowed hmeets.1 (hp.copies i) hcurrent
          have hself : (p.step (accountNext itcode) i).note i =
              accountNext itcode (p.note i) l p.store := Pool.step_note_self hthread
          have hkept : ¬ (p.note i).setsAt l field = true := by
            intro hset
            obtain ⟨hsets, hsaved⟩ := saved_of_setsAt hset p.store
            rw [← hself] at hsaved
            have hfinal : ((p.run (accountNext itcode) (i :: schedule)).note i).saved = true :=
              Pool.note_run (P := fun g : AccountNote => g.saved = true)
                (fun g l s h => accountNext_saved h l s) schedule hsaved
            exact hlast i hsets hfinal (by rw [hthread]; trivial)
          have hfield := hfields field
          rw [if_neg hkept] at hfield
          refine ih (hfollow.step hp.current) hmeets.2
            (updated_step hthread hallowed hmeets.1 hp) (fun j hsets hsaved => ?_)
            ⟨user', by rw [Pool.step_store hthread]; exact hcurrent'.found,
              hP _ _ hholds hfield⟩
          by_cases hj : j = i
          · subst hj
            rw [hself, accountNext_request] at hsets
            exact absurd (by rw [hthread]; trivial) (hlast j hsets hsaved)
          · rw [Pool.step_note_of_ne p hj] at hsets
            rw [Pool.step_thread_of_ne p hj]
            exact hlast j hsets hsaved

end Step

/-! ## Runs -/

section Runs

variable (settings : Settings) (requests : ι → AccountRequest) (itcode : String) (s : AuthStore)
  (schedule : List ι)

/-- The requests after a part of the schedule. -/
def accountsAfter : AccountPool ι :=
  (startRequests settings requests s).run (accountNext itcode) schedule

/-- Of the requests that set a field and complete, this one completes last. -/
def LastCompleted (field : AccountField) (i : ι) : Prop :=
  (requests i).sets field = true ∧ ∃ first rest, schedule = first ++ i :: rest ∧
    ((accountsAfter settings requests itcode s first).thread i).Running ∧
    (accountsAfter settings requests itcode s (first ++ [i])).thread i = .done (.ok ()) ∧
    ∀ j, j ≠ i → (requests j).sets field = true →
      (accountsAfter settings requests itcode s schedule).thread j = .done (.ok ()) →
      ¬ ((accountsAfter settings requests itcode s first).thread j).Running

/-- After all requests have ended, a field is as the last request has set it that completed, or as
it was if there is none. -/
structure UpdatesKept (origin : AdminUser) : Prop where
  last : ∀ field i, LastCompleted settings requests itcode s schedule field i →
    ∃ user, (accountsAfter settings requests itcode s schedule).store.account? itcode = some user ∧
      (requests i).HasSet settings user field
  unchanged : ∀ field, (∀ i, (requests i).sets field = true →
      (accountsAfter settings requests itcode s schedule).thread i ≠ .done (.ok ())) →
    ∃ user, (accountsAfter settings requests itcode s schedule).store.account? itcode = some user ∧
      AccountField.Kept settings origin user field

variable {settings requests itcode s schedule}

omit [DecidableEq ι] in
theorem updated_start {origin : AdminUser} (haccount : s.account? itcode = some origin) :
    Updated settings itcode origin (startRequests settings requests s) :=
  ⟨⟨origin, current_start haccount⟩, fun _ _ h => (nomatch h),
    fun _ _ _ h => (nomatch h)⟩

omit [DecidableEq ι] in
theorem followsAccount_start {origin : AdminUser}
    (hrequests : ∀ i, settings.casefold (strip (requests i).itcode) = itcode) :
    FollowsAccount settings itcode origin (startRequests settings requests s) :=
  fun i => (requests i).program_keeps (hrequests i)

theorem updated_run {origin : AdminUser}
    (hrequests : ∀ i, settings.casefold (strip (requests i).itcode) = itcode)
    (haccount : s.account? itcode = some origin)
    (hmeets : (startRequests settings requests s).Meets (accountNext itcode) SavesFresh schedule) :
    Updated settings itcode origin (accountsAfter settings requests itcode s schedule) ∧
      FollowsAccount settings itcode origin (accountsAfter settings requests itcode s schedule) :=
  Pool.invariant_run (accountNext itcode) _ _ _ (Updated settings itcode origin)
    (fun _ _ hp _ => hp.current)
    (fun _ _ _ _ _ _ _ hthread hallowed hcond hp => updated_step hthread hallowed hcond hp)
    (followsAccount_start hrequests) hmeets (updated_start haccount)

theorem accountsAfter_request (i : ι) :
    ((accountsAfter settings requests itcode s schedule).note i).request = requests i :=
  Pool.note_run (P := fun g : AccountNote => g.request = requests i)
    (fun g l s h => (accountNext_request g l s).trans h) schedule rfl

/-- Any number of requests for an account, interleaved at every operation: as long as they save it
with the stored values of the fields that they do not set, no update is lost. -/
theorem updates_kept (settings : Settings) (requests : ι → AccountRequest) (itcode : String)
    (hrequests : ∀ i, settings.casefold (strip (requests i).itcode) = itcode) (s : AuthStore)
    (origin : AdminUser) (haccount : s.account? itcode = some origin) (schedule : List ι)
    (hmeets : (startRequests settings requests s).Meets (accountNext itcode) SavesFresh schedule)
    (hended : ∀ i, ¬ ((accountsAfter settings requests itcode s schedule).thread i).Running) :
    UpdatesKept settings requests itcode s schedule origin := by
  have hfinal := updated_run hrequests haccount hmeets
  -- A request that has saved the account has completed.
  have hcompleted : ∀ j field, (requests j).sets field = true →
      ((accountsAfter settings requests itcode s schedule).note j).saved = true →
      (accountsAfter settings requests itcode s schedule).thread j = .done (.ok ()) := by
    intro j field hsets hsaved
    have hj := hfinal.2 j
    have hrunning := hended j
    have hrequest : ((accountsAfter settings requests itcode s schedule).note j).request =
        requests j := accountsAfter_request j
    rw [← hrequest] at hsets
    cases hthread : (accountsAfter settings requests itcode s schedule).thread j with
    | op l w n k =>
        rw [hthread] at hrunning
        exact absurd trivial hrunning
    | done r =>
        rw [hthread] at hj
        cases r with
        | ok => rfl
        | error e => cases (hj field hsets).2 hsaved
  constructor
  · rintro field i ⟨hsets, first, rest, rfl, hrunning, hdone, hlast⟩
    obtain ⟨hfirst, hrest⟩ := Pool.meets_append.mp hmeets
    obtain ⟨hp, hfollow⟩ := updated_run hrequests haccount hfirst
    have hrun : ∀ later, accountsAfter settings requests itcode s (first ++ i :: later) =
        ((accountsAfter settings requests itcode s first).step (accountNext itcode) i).run
          (accountNext itcode) later := fun later => Pool.run_append _ first (i :: later)
    have hrequest : ((accountsAfter settings requests itcode s first).note i).request =
        requests i := accountsAfter_request i
    rw [← hrequest] at hsets
    cases hthread : (accountsAfter settings requests itcode s first).thread i with
    | done r =>
        rw [hthread] at hrunning
        exact hrunning.elim
    | op l w n k =>
        have hi := hfollow i
        rw [hthread] at hi
        have hallowed := (hi _ hp.current).1
        -- The account right after the request has completed.
        have hend := hfollow.step hp.current (i := i) i
        rw [hrun []] at hdone
        rw [Pool.run] at hdone
        rw [hdone, Pool.step_note_self hthread] at hend
        obtain ⟨user, hcurrent, hset⟩ :=
          hasSet_of_completed hthread hallowed hrest.1 hp hend hsets
        rw [hrequest] at hset
        rw [hrun rest]
        refine account_run (P := fun user => (requests i).HasSet settings user field)
          (fun _ _ h hkept => h.kept hkept) (hfollow.step hp.current) hrest.2
          (updated_step hthread hallowed hrest.1 hp) (fun j hj hsaved => ?_)
          ⟨user, by rw [Pool.step_store hthread]; exact hcurrent.found, hset⟩
        by_cases hji : j = i
        · rw [hji, hdone]
          exact id
        · rw [Pool.step_note_of_ne _ hji, accountsAfter_request] at hj
          rw [Pool.step_thread_of_ne _ hji]
          rw [← hrun rest] at hsaved
          exact hlast j hji hj (hcompleted j field hj hsaved)
  · intro field hnone
    exact account_run (P := fun user => field.Kept settings origin user)
      (fun _ _ h hkept => h.trans hkept) (followsAccount_start hrequests) hmeets
      (updated_start haccount)
      (fun j hsets hsaved _ => hnone j hsets (hcompleted j field hsets hsaved))
      ⟨origin, haccount, .refl⟩

end Runs

/-! ## A login that undoes a demotion -/

def accountStore : AuthStore where
  users := ⟨[sampleUser], nodup_sampleUser⟩
  sessions := ⟨[], List.nodup_nil⟩
  challenges := ⟨[], List.nodup_nil⟩

/-- A login, and a role change to employee. -/
def accountRequests : Fin 2 → AccountRequest
  | 0 => .login ⟨"alice", "secret-secret", 1, "salt", ⟨"t", "1", 1⟩⟩
  | 1 => .updateUserRole ⟨"alice", .employee, 2⟩

theorem accountRequests_itcode :
    ∀ i, sampleSettings.casefold (strip (accountRequests i).itcode) = "alice" := by
  decide +kernel

/-- The login ends before the role change starts. -/
theorem updates_kept_serial :
    UpdatesKept sampleSettings accountRequests "alice" accountStore [0, 0, 0, 0, 1, 1, 1, 1, 1]
      sampleUser :=
  updates_kept sampleSettings accountRequests "alice" accountRequests_itcode accountStore
    sampleUser rfl _ (by decide +kernel) (by decide +kernel)

/-- The login has read the account when the role is changed, and saves it with the old role. -/
theorem overtaken_demotion_lost :
    ¬ UpdatesKept sampleSettings accountRequests "alice" accountStore [0, 1, 1, 1, 1, 0, 0, 0]
      sampleUser := by
  intro h
  have honly : ∀ j, j ≠ 1 → (accountRequests j).sets .role = false := by decide
  obtain ⟨user, hfound, hrole⟩ := h.last .role 1 ⟨rfl, [0, 1, 1, 1], [0, 0, 0], rfl,
    by decide +kernel, rfl, fun j hj hsets => by rw [honly j hj] at hsets; cases hsets⟩
  have hadmin : ((accountsAfter sampleSettings accountRequests "alice" accountStore
      [0, 1, 1, 1, 1, 0, 0, 0]).store.account? "alice").map AdminUser.role = some .admin := by
    decide +kernel
  rw [hfound] at hadmin
  exact absurd (hrole.symm.trans (Option.some.inj hadmin)) (by decide)

end Grouproxy.Auth
