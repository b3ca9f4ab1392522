import Mathlib.Logic.Relation
import Grouproxy.Model.Auth

/-! # Requests for an account

A request reads the account and saves its own copy of it, with the fields that it sets and the
fields as it has read them.
-/

namespace Grouproxy.Auth

open Ipaddress Programs Collections

/-! ## Requests and the fields they set -/

inductive AccountRequest where
  | login (payload : LoginRequest)
  | gquanLogin (payload : GQuanLoginRequest)
  | changePassword (payload : PasswordChangeRequest)
  | updateUserRole (payload : RoleUpdate)

def AccountRequest.itcode : AccountRequest → String
  | .login payload => payload.itcode
  | .gquanLogin payload => payload.itcode
  | .changePassword payload => payload.itcode
  | .updateUserRole payload => payload.itcode

def AccountRequest.program (settings : Settings) : AccountRequest → AuthHandler Unit
  | .login payload => Auth.login settings payload
  | .gquanLogin payload => Auth.gquanLogin settings payload
  | .changePassword payload => Auth.changePassword settings payload
  | .updateUserRole payload => Auth.updateUserRole settings payload

inductive AccountField where
  | role
  | password
  deriving DecidableEq

def AccountField.Same (copy stored : AdminUser) : AccountField → Prop
  | .role => stored.role = copy.role
  | .password => stored.passwordHash = copy.passwordHash

instance (copy stored : AdminUser) : (field : AccountField) → Decidable (field.Same copy stored)
  | .role => inferInstanceAs (Decidable (_ = _))
  | .password => inferInstanceAs (Decidable (_ = _))

/-- A login hashes a password again whose hash is outdated. -/
def Rehash (settings : Settings) (old new : String) : Prop :=
  ∃ password salt, verifyPassword settings password old = (true, true) ∧
    new = settings.passwordHasher.hash password salt

/-- A field is the same, up to renewals of the password hash. -/
def AccountField.Kept (settings : Settings) (user user' : AdminUser) : AccountField → Prop
  | .role => user'.role = user.role
  | .password => Relation.ReflTransGen (Rehash settings) user.passwordHash user'.passwordHash

def AccountRequest.sets : AccountRequest → AccountField → Bool
  | .updateUserRole _, .role => true
  | .changePassword _, .password => true
  | _, _ => false

/-- A field is as the request has set it, up to renewals of the password hash. -/
def AccountRequest.HasSet (settings : Settings) (user : AdminUser) :
    AccountRequest → AccountField → Prop
  | .updateUserRole payload, .role => user.role = payload.role.role
  | .changePassword payload, .password =>
    Relation.ReflTransGen (Rehash settings)
      (settings.passwordHasher.hash payload.password payload.salt) user.passwordHash
  | _, _ => False

section Fields

variable {settings : Settings} {user user' user'' : AdminUser} {field : AccountField}

theorem AccountField.Kept.refl : field.Kept settings user user := by
  cases field with
  | role => exact rfl
  | password => exact .refl

theorem AccountField.Kept.of_same (h : field.Same user user')
    (hkept : field.Kept settings user user'') : field.Kept settings user' user'' := by
  cases field with
  | role => exact hkept.trans h.symm
  | password =>
      rw [AccountField.Kept, h]
      exact hkept

theorem AccountField.Kept.trans (h : field.Kept settings user user')
    (h' : field.Kept settings user' user'') : field.Kept settings user user'' := by
  cases field with
  | role => exact Eq.trans h' h
  | password => exact Relation.ReflTransGen.trans h h'

theorem AccountRequest.HasSet.kept {request : AccountRequest}
    (h : request.HasSet settings user field) (hkept : field.Kept settings user user') :
    request.HasSet settings user' field := by
  cases request with
  | login | gquanLogin => cases field <;> exact h
  | changePassword =>
      cases field with
      | role => exact h
      | password => exact Relation.ReflTransGen.trans h hkept
  | updateUserRole =>
      cases field with
      | role => exact Eq.trans hkept h
      | password => exact h

end Fields

/-! ## The account of an IT code -/

/-- The account that the requests for an IT code find. -/
def AuthStore.account? (s : AuthStore) (itcode : String) : Option AdminUser :=
  (s.users.find? fun user => user.itcode == itcode).or
    (s.users.find? fun user => user.username == itcode)

/-- The account as it was, apart from the fields that requests change. -/
structure SameAccount (itcode : String) (origin user : AdminUser) : Prop where
  id : user.id = origin.id
  username : user.username = origin.username
  itcode : user.itcode = origin.itcode ∨ (origin.itcode = "" ∧ user.itcode = itcode)

/-- The account is stored; as long as it does not have the IT code it is found by its name. -/
structure Current (itcode : String) (origin : AdminUser) (s : AuthStore) (user : AdminUser) :
    Prop where
  found : s.account? itcode = some user
  same : SameAccount itcode origin user
  legacy : origin.itcode ≠ itcode →
    s.users.find? (fun user => user.username == itcode) = some user

section Account

variable {itcode : String} {origin user : AdminUser} {s s' : AuthStore}

theorem mem_of_account? (h : s.account? itcode = some user) :
    user ∈ s.users ∧ (user.itcode = itcode ∨ user.username = itcode) := by
  rw [AuthStore.account?, Option.or_eq_some_iff] at h
  rcases h with h | ⟨-, h⟩
  · obtain ⟨hmem, hcode⟩ := Collection.mem_of_find? h
    exact ⟨hmem, .inl (by simpa using hcode)⟩
  · obtain ⟨hmem, hname⟩ := Collection.mem_of_find? h
    exact ⟨hmem, .inr (by simpa using hname)⟩

theorem current_start (h : s.account? itcode = some origin) : Current itcode origin s origin := by
  refine ⟨h, ⟨rfl, rfl, .inl rfl⟩, fun hcode => ?_⟩
  rw [AuthStore.account?, Option.or_eq_some_iff] at h
  rcases h with h | ⟨-, h⟩
  · have := (Collection.mem_of_find? h).2
    exact absurd (by simpa using this) hcode
  · exact h

theorem Current.eq_of_findUser (h : Current itcode origin s user) {found : AdminUser}
    (hfound : s.users.find? (fun user => user.itcode == itcode) = some found) : found = user := by
  have := h.found
  rw [AuthStore.account?, hfound] at this
  exact Option.some.inj this

/-- A lookup by the IT code that finds nothing. -/
theorem Current.itcode_ne (h : Current itcode origin s user)
    (hnone : s.users.find? (fun user => user.itcode == itcode) = none) :
    origin.itcode ≠ itcode := by
  have hne : user.itcode ≠ itcode := by
    have := List.find?_eq_none.mp hnone user (mem_of_account? h.found).1
    simpa using this
  rcases h.same.itcode with hsame | ⟨-, hcode⟩
  · exact hsame ▸ hne
  · exact absurd hcode hne

/-- A saved copy of the account is found where the account was found. -/
theorem account?_save {copy : AdminUser} (h : s.account? itcode = some user)
    (hid : user.id = copy.id) (hname : copy.username = user.username)
    (hcode : user.itcode = itcode → copy.itcode = itcode)
    (husers : s'.users = s.users.save copy) : s'.account? itcode = some copy := by
  have hreplaced : Collection.replaced copy user = copy := if_pos hid
  have hmem := (mem_of_account? h).1
  rw [AuthStore.account?, husers]
  rw [AuthStore.account?, Option.or_eq_some_iff] at h
  rcases h with h | ⟨hnone, h⟩
  · have hsame : (copy.itcode == itcode) = (user.itcode == itcode) := by
      have huser : user.itcode = itcode := by simpa using (Collection.mem_of_find? h).2
      rw [huser, hcode huser]
    rw [Collection.find?_save hmem hid hsame, h, Option.map_some, hreplaced, Option.some_or]
  · by_cases hhas : copy.itcode = itcode
    · -- Only the saved copy has the IT code.
      have honly : ∀ other ∈ s.users.save copy, other.itcode = itcode → other = copy := by
        intro other hother hothercode
        rcases Collection.mem_save.mp hother with rfl | ⟨hold, -⟩
        · rfl
        · exact absurd hothercode (by simpa using List.find?_eq_none.mp hnone other hold)
      cases hfound : (s.users.save copy).find? fun user => user.itcode == itcode with
      | none =>
          have := List.find?_eq_none.mp hfound copy (Collection.mem_save_self _ _)
          exact absurd hhas (by simpa using this)
      | some other =>
          obtain ⟨hother, hothercode⟩ := Collection.mem_of_find? hfound
          rw [honly other hother (by simpa using hothercode), Option.some_or]
    · have huser : user.itcode ≠ itcode := by
        simpa using List.find?_eq_none.mp hnone user hmem
      have hsame : (copy.itcode == itcode) = (user.itcode == itcode) := by simp [hhas, huser]
      rw [Collection.find?_save hmem hid hsame, hnone, Option.map_none, Option.none_or,
        Collection.find?_save hmem hid (by rw [hname]), h, Option.map_some, hreplaced]

/-- The account after a copy of it is saved. -/
theorem Current.save {copy : AdminUser} (h : Current itcode origin s user)
    (hcopy : SameAccount itcode origin copy) (hcode : copy.itcode = itcode ∨ copy.itcode ≠ "")
    (husers : s'.users = s.users.save copy) : Current itcode origin s' copy := by
  have hid : user.id = copy.id := h.same.id.trans hcopy.id.symm
  have hname : copy.username = user.username := hcopy.username.trans h.same.username.symm
  refine ⟨account?_save h.found hid hname (fun huser => ?_) husers, hcopy, fun horigin => ?_⟩
  · -- A copy without the IT code has the one that the account has always had.
    by_contra hne
    have hcopycode : copy.itcode = origin.itcode :=
      hcopy.itcode.resolve_right fun hright => hne hright.2
    rcases h.same.itcode with hsame | ⟨hempty, -⟩
    · exact hne (hcopycode.trans (hsame.symm.trans huser))
    · exact (hcode.resolve_left hne) (hcopycode.trans hempty)
  · rw [husers, Collection.find?_save (mem_of_account? h.found).1 hid (by rw [hname]),
      h.legacy horigin, Option.map_some]
    exact congrArg some (if_pos hid)

end Account

/-! ## One request -/

/-- A request holds the copy of the account that it has read, and saves it once. -/
structure AccountNote where
  request : AccountRequest
  copy : Option AdminUser
  saved : Bool

def accountNext (itcode : String) (g : AccountNote) (l : AuthLabel) (s : AuthStore) :
    AccountNote :=
  match l with
  | .findUser => { g with copy := s.users.find? fun user => user.itcode == itcode }
  | .findLegacyUser => { g with copy := s.users.find? fun user => user.username == itcode }
  | .saveItcode user => { g with copy := some user }
  | .saveUser _ => { g with saved := true }
  | _ => g

/-- The copy that a save of the account writes. -/
def AuthLabel.savedUser? : AuthLabel → Option AdminUser
  | .saveItcode user => some user
  | .saveUser user => some user
  | _ => none

def AuthLabel.onAccount : AuthLabel → Bool
  | .findUser => true
  | .findLegacyUser => true
  | .saveItcode _ => true
  | .saveUser _ => true
  | _ => false

/-- The accounts stay as they are. -/
def Quiet (l : AuthLabel) (s s' : AuthStore) : Prop := l.onAccount = false ∧ s'.users = s.users

section Request

variable (settings : Settings) (itcode : String) (origin : AdminUser)

/-- A request sets its fields and keeps the others. -/
def Change (request : AccountRequest) (copy user : AdminUser) : Prop :=
  ∀ field : AccountField, if request.sets field then request.HasSet settings user field
    else field.Kept settings copy user

/-- The operations of a request. A role change that has not saved the account yet only looks for
it. -/
inductive AccountStep : AccountNote → AuthLabel → AuthStore → AuthStore → Prop where
  | quiet {g : AccountNote} {l : AuthLabel} {s s' : AuthStore} (hquiet : Quiet l s s')
      (hrole : g.request.sets .role = true → g.saved = true) : AccountStep g l s s'
  | find {g : AccountNote} {s : AuthStore} : AccountStep g .findUser s s
  | findLegacy {g : AccountNote} {s : AuthStore} (hcode : origin.itcode ≠ itcode) :
      AccountStep g .findLegacyUser s s
  | saveItcode {g : AccountNote} {copy user : AdminUser} {s s' : AuthStore}
      (hcopy : g.copy = some copy) (hcode : copy.itcode = "")
      (huser : user = { copy with itcode := itcode }) (husers : s'.users = s.users.save user) :
      AccountStep g (.saveItcode user) s s'
  | saveUser {g : AccountNote} {copy user : AdminUser} {s s' : AuthStore}
      (hcopy : g.copy = some copy) (hcode : copy.itcode = itcode ∨ copy.itcode ≠ "")
      (hid : user.id = copy.id) (hname : user.username = copy.username)
      (hsame : user.itcode = copy.itcode) (hchange : Change settings g.request copy user)
      (husers : s'.users = s.users.save user) : AccountStep g (.saveUser user) s s'

/-- A request that sets a field succeeds if it has saved the account, and only then or where the
account has the role already. -/
def AccountEnd (g : AccountNote) (r : Except AuthFailure Unit) : Prop :=
  ∀ field, g.request.sets field = true →
    (r.isOk = true → g.saved = true ∨ (g.request.sets .role = true ∧
      ∃ copy, g.copy = some copy ∧ g.request.HasSet settings copy field)) ∧
    (g.saved = true → r.isOk = true)

variable {settings itcode origin}

/-- The handler takes the operations of a request from a note on. -/
abbrev KeepsAccount {α : Type} (settings : Settings) (itcode : String) (origin : AdminUser)
    (g : AccountNote) (p : AuthHandler α) (Q : AccountNote → Except AuthFailure α → Prop) : Prop :=
  p.Follows (accountNext itcode) (fun _ s => ∃ user, Current itcode origin s user)
    (AccountStep settings itcode origin) Q g

theorem accountNext_quiet {g : AccountNote} {l : AuthLabel} {s : AuthStore}
    (h : l.onAccount = false) : accountNext itcode g l s = g := by
  cases l with
  | findUser | findLegacyUser | saveItcode | saveUser => cases h
  | _ => rfl

/-! ### Parts that leave the accounts alone -/

/-- The part returns, and the note is as it was. -/
abbrev Finishes {α : Type} (settings : Settings) (itcode : String) (origin : AdminUser)
    (g : AccountNote) (p : AuthHandler α) : Prop :=
  KeepsAccount settings itcode origin g p fun g' r => g' = g ∧ r.isOk = true

section Quiet

variable {g : AccountNote} (hrole : g.request.sets .role = true → g.saved = true)
include hrole

theorem appendAudit_finishes : Finishes settings itcode origin g appendAudit :=
  .atomic (fun _ _ => .quiet ⟨rfl, rfl⟩ hrole) fun _ _ => ⟨rfl, rfl⟩

theorem createSession_finishes (draws : SessionDraws) (user : AdminUser) :
    Finishes settings itcode origin g (createSession settings draws user) :=
  .write_bind (fun _ _ => .quiet ⟨rfl, rfl⟩ hrole) fun _ _ => .done ⟨rfl, rfl⟩

theorem revokeSessions_finishes (now : Nat) (sessions : List ManagementSession) :
    Finishes settings itcode origin g (revokeSessions now sessions) := by
  induction sessions with
  | nil => exact .done ⟨rfl, rfl⟩
  | cons session rest ih => exact .write_bind (fun _ _ => .quiet ⟨rfl, rfl⟩ hrole) fun _ _ => ih

theorem revokeUserSessions_finishes (now : Nat) (userId : String) :
    Finishes settings itcode origin g (revokeUserSessions now userId) :=
  .read_bind (fun _ _ => .quiet ⟨rfl, rfl⟩ hrole) fun _ _ => revokeSessions_finishes hrole now _

end Quiet

theorem consumeVerificationCode_quiet (now consumedAt : Nat) (request : VerificationCode) :
    (consumeVerificationCode settings now consumedAt request).Uses Quiet := by
  refine .read_bind (fun _ => ⟨rfl, rfl⟩) fun s => ?_
  split
  · exact .done
  · refine .reject_bind ?_
    split
    · exact .write_bind (fun _ => ⟨rfl, rfl⟩) .done
    split
    · exact .write_bind (fun _ => ⟨rfl, rfl⟩) .done
    split
    · exact .write_bind (fun _ => ⟨rfl, rfl⟩) .done
    · refine .write_bind (fun _ => ⟨rfl, rfl⟩) ?_
      split
      · exact .done
      · exact .done

/-! ### Parts without an operation -/

theorem normalizeItcode_cases (settings : Settings) (value : String) :
    normalizeItcode settings value = .done (.ok (settings.casefold (strip value))) ∨
      ∃ e, normalizeItcode settings value = .done (.error e) := by
  rw [normalizeItcode]
  split
  · exact .inl rfl
  · exact .inr ⟨_, rfl⟩

theorem hashPassword_cases (settings : Settings) (salt password : String) :
    hashPassword settings salt password =
        .done (.ok (settings.passwordHasher.hash password salt)) ∨
      ∃ e, hashPassword settings salt password = .done (.error e) := by
  rw [hashPassword, validatePassword, reject, Prog.reject]
  split
  · exact .inr ⟨_, rfl⟩
  · exact .inl rfl

/-- A login keeps the account, up to a renewed hash. -/
theorem renewedHash_cases (payload : LoginRequest) {needsUpgrade : Bool} {user : AdminUser}
    (hvalid : verifyPassword settings payload.password user.passwordHash = (true, needsUpgrade)) :
    (∃ e, renewedHash settings payload needsUpgrade user = .done (.error e)) ∨
      ∃ renewed, renewedHash settings payload needsUpgrade user = .done (.ok renewed) ∧
        renewed.id = user.id ∧ renewed.username = user.username ∧
        renewed.itcode = user.itcode ∧
        ∀ field : AccountField, field.Kept settings user renewed := by
  rw [renewedHash]
  split
  · rename_i hneeds
    rw [hneeds] at hvalid
    rcases hashPassword_cases settings payload.salt payload.password with
      h | ⟨e, h⟩
    · refine .inr ⟨{ user with
          passwordHash := settings.passwordHasher.hash payload.password payload.salt
          passwordChangedAt := some payload.now }, by rw [h]; rfl, rfl, rfl, rfl, fun field => ?_⟩
      cases field with
      | role => exact rfl
      | password => exact .single ⟨payload.password, payload.salt, hvalid, rfl⟩
    · exact .inl ⟨e, by rw [h]; rfl⟩
  · exact .inr ⟨user, rfl, rfl, rfl, rfl, fun _ => .refl⟩

/-! ### Parts of a request -/

section Parts

variable {α β : Type} {request : AccountRequest} {g : AccountNote}
  {Q : AccountNote → Except AuthFailure β → Prop}

theorem normalizeItcode_keeps {value : String} {f : String → AuthHandler β}
    (hcode : settings.casefold (strip value) = itcode) (herror : ∀ e, Q g (.error e))
    (hf : KeepsAccount settings itcode origin g (f itcode) Q) :
    KeepsAccount settings itcode origin g (normalizeItcode settings value >>= f) Q := by
  rcases normalizeItcode_cases settings value with h | ⟨e, h⟩
  · rw [h, hcode]
    exact hf
  · rw [h]
    exact herror e

theorem finishes_keeps {p : AuthHandler α} {f : α → AuthHandler β}
    (h : Finishes settings itcode origin g p)
    (hf : ∀ a, KeepsAccount settings itcode origin g (f a) Q) :
    KeepsAccount settings itcode origin g (p >>= f) Q := by
  refine h.bind (fun g' a hg => ?_) fun g' e hg => ?_
  · rw [hg.1]
    exact hf a
  · cases hg.2

theorem consumeVerificationCode_bind_keeps {now consumedAt : Nat} {code : VerificationCode}
    {f : AuthVerificationChallenge → AuthHandler β}
    (hrole : g.request.sets .role = true → g.saved = true) (herror : ∀ e, Q g (.error e))
    (hf : ∀ challenge, KeepsAccount settings itcode origin g (f challenge) Q) :
    KeepsAccount settings itcode origin g
      (consumeVerificationCode settings now consumedAt code >>= f) Q := by
  have hquiet : KeepsAccount settings itcode origin g
      (consumeVerificationCode settings now consumedAt code) fun g' _ => g' = g :=
    (consumeVerificationCode_quiet now consumedAt code).follows fun _ _ _ h =>
      ⟨.quiet h hrole, accountNext_quiet h.1⟩
  refine hquiet.bind (fun g' challenge hg => ?_) fun g' e hg => ?_
  · rw [hg]
    exact hf challenge
  · rw [hg]
    exact herror e

/-- The note of a request after the account was looked for. -/
def Found (itcode : String) (request : AccountRequest) (g : AccountNote) :
    Except AuthFailure (Option AdminUser) → Prop
  | .error _ => False
  | .ok found => g = ⟨request, found, false⟩ ∧
      ∀ user, found = some user → user.itcode = itcode ∨ user.itcode ≠ ""

theorem findUserByItcode_found : KeepsAccount settings itcode origin ⟨request, none, false⟩
    (findUserByItcode itcode) (Found itcode request) := by
  refine .read_bind (fun _ _ => .find) fun s hs => ?_
  obtain ⟨current, hcurrent⟩ := hs
  simp only [accountNext]
  cases hfound : s.users.find? fun user => user.itcode == itcode with
  | some user =>
      refine .done ⟨rfl, fun other hother => ?_⟩
      rw [← Option.some.inj hother]
      exact .inl (by simpa using (Collection.mem_of_find? hfound).2)
  | none =>
      have hcode := hcurrent.itcode_ne hfound
      refine .read_bind (fun _ _ => .findLegacy hcode) fun t _ => ?_
      simp only [accountNext]
      cases t.users.find? fun user => user.username == itcode with
      | none => exact .done ⟨rfl, by simp⟩
      | some user =>
          dsimp only
          split
          · rename_i hempty
            refine .write_bind (fun _ _ => .saveItcode rfl hempty rfl rfl) fun _ _ => ?_
            refine .done ⟨rfl, fun other hother => ?_⟩
            rw [← Option.some.inj hother]
            exact .inl rfl
          · rename_i hset
            refine .done ⟨rfl, fun other hother => ?_⟩
            rw [← Option.some.inj hother]
            exact .inr hset

theorem findUserByItcode_keeps {f : Option AdminUser → AuthHandler β}
    (hnone : KeepsAccount settings itcode origin ⟨request, none, false⟩ (f none) Q)
    (hsome : ∀ user, user.itcode = itcode ∨ user.itcode ≠ "" →
      KeepsAccount settings itcode origin ⟨request, some user, false⟩ (f (some user)) Q) :
    KeepsAccount settings itcode origin ⟨request, none, false⟩
      (findUserByItcode itcode >>= f) Q := by
  refine findUserByItcode_found.bind (fun g found hfound => ?_) fun _ _ h => h.elim
  obtain ⟨rfl, hcode⟩ := hfound
  cases found with
  | none => exact hnone
  | some user => exact hsome user (hcode user rfl)

/-- A body has saved the account exactly if it returns. -/
def Answered (request : AccountRequest) (g : AccountNote) (r : Except AuthFailure Unit) : Prop :=
  g.request = request ∧ g.saved = r.isOk

theorem answering_keeps {body : AuthHandler Unit} (hrole : request.sets .role = false)
    (h : KeepsAccount settings itcode origin ⟨request, none, false⟩ body (Answered request)) :
    KeepsAccount settings itcode origin ⟨request, none, false⟩
      (answering body >>= fun _ => appendAudit) (AccountEnd settings) := by
  have haudit : ∀ {g : AccountNote}, g.request = request → g.request.sets .role = true →
      g.saved = true := by
    intro g hrequest hsets
    rw [hrequest, hrole] at hsets
    cases hsets
  have hanswer : KeepsAccount settings itcode origin ⟨request, none, false⟩ (answering body)
      (Answered request) := by
    refine h.tryCatch (fun _ _ hok => hok) fun g e herror => ?_
    cases e with
    | auth code =>
        exact finishes_keeps (Q := Answered request) (appendAudit_finishes (haudit herror.1))
          fun _ => .done herror
    | http | operation => exact .done herror
  refine hanswer.bind (fun g a hok => ?_) fun g e herror field _ => ?_
  · refine (appendAudit_finishes (haudit hok.1)).mono fun g' r hend field _ => ?_
    rw [hend.1]
    exact ⟨fun _ => .inl hok.2, fun _ => hend.2⟩
  · refine ⟨by simp [Except.isOk, Except.toBool], fun hsaved => ?_⟩
    rw [herror.2] at hsaved
    cases hsaved

end Parts

/-! ### The requests -/

theorem login_keeps {payload : LoginRequest}
    (hcode : settings.casefold (strip payload.itcode) = itcode) :
    KeepsAccount settings itcode origin ⟨.login payload, none, false⟩ (login settings payload)
      (AccountEnd settings) := by
  refine answering_keeps rfl ?_
  refine normalizeItcode_keeps hcode (fun _ => ⟨rfl, rfl⟩) ?_
  refine findUserByItcode_keeps (.done ⟨rfl, rfl⟩) fun user huser => ?_
  rcases hverified : verifyPassword settings payload.password user.passwordHash with
    ⟨valid, needsUpgrade⟩
  simp only [hverified]
  refine .reject_bind (fun _ => ⟨rfl, rfl⟩) fun hvalid => ?_
  have hvalid : valid = true := by simpa using (not_or.mp hvalid).2
  subst hvalid
  rcases renewedHash_cases payload hverified with ⟨e, h⟩ | ⟨renewed, h, hid, hname, hsame, hkept⟩
  · rw [h]
    exact .done ⟨rfl, rfl⟩
  · rw [h]
    refine .write_bind (fun s _ => .saveUser rfl huser hid hname hsame (fun field => ?_) rfl)
      fun s _ => ?_
    · cases field with
      | role => exact hkept .role
      | password => exact hkept .password
    · exact finishes_keeps (createSession_finishes (fun _ => rfl) _ _) fun _ => .done ⟨rfl, rfl⟩

theorem gquanLogin_keeps {payload : GQuanLoginRequest}
    (hcode : settings.casefold (strip payload.itcode) = itcode) :
    KeepsAccount settings itcode origin ⟨.gquanLogin payload, none, false⟩
      (gquanLogin settings payload) (AccountEnd settings) := by
  refine answering_keeps rfl ?_
  refine normalizeItcode_keeps hcode (fun _ => ⟨rfl, rfl⟩) ?_
  refine findUserByItcode_keeps (.done ⟨rfl, rfl⟩) fun user huser => ?_
  refine .reject_bind (fun _ => ⟨rfl, rfl⟩) fun _ => ?_
  refine consumeVerificationCode_bind_keeps (by intro h; cases h) (fun _ => ⟨rfl, rfl⟩) fun _ => ?_
  refine .write_bind (fun s _ => .saveUser rfl huser rfl rfl rfl (fun field => ?_) rfl)
    fun s _ => ?_
  · cases field with
    | role => exact rfl
    | password => exact Relation.ReflTransGen.refl
  · exact finishes_keeps (createSession_finishes (fun _ => rfl) _ _) fun _ => .done ⟨rfl, rfl⟩

theorem changePassword_keeps {payload : PasswordChangeRequest}
    (hcode : settings.casefold (strip payload.itcode) = itcode) :
    KeepsAccount settings itcode origin ⟨.changePassword payload, none, false⟩
      (changePassword settings payload) (AccountEnd settings) := by
  refine answering_keeps rfl ?_
  refine normalizeItcode_keeps hcode (fun _ => ⟨rfl, rfl⟩) ?_
  refine .reject_bind (fun _ => ⟨rfl, rfl⟩) fun _ => ?_
  refine findUserByItcode_keeps (.done ⟨rfl, rfl⟩) fun user huser => ?_
  refine .reject_bind (fun _ => ⟨rfl, rfl⟩) fun _ => ?_
  refine consumeVerificationCode_bind_keeps (by intro h; cases h) (fun _ => ⟨rfl, rfl⟩) fun _ => ?_
  rcases hashPassword_cases settings payload.salt payload.password with
    h | ⟨e, h⟩
  · rw [h]
    refine .write_bind (fun s _ => .saveUser rfl huser rfl rfl rfl (fun field => ?_) rfl)
      fun s _ => ?_
    · cases field with
      | role => exact rfl
      | password => exact Relation.ReflTransGen.refl
    · refine (revokeUserSessions_finishes (fun _ => rfl) _ _).mono fun g r hend => ?_
      rw [hend.1]
      exact ⟨rfl, hend.2.symm⟩
  · rw [h]
    exact .done ⟨rfl, rfl⟩

/-- A role change that has not saved the account, or that has and returns. -/
theorem updateUserRole_keeps {payload : RoleUpdate}
    (hcode : settings.casefold (strip payload.itcode) = itcode) :
    KeepsAccount settings itcode origin ⟨.updateUserRole payload, none, false⟩
      (updateUserRole settings payload) (AccountEnd settings) := by
  have herror : ∀ {copy : Option AdminUser} {e : AuthFailure},
      AccountEnd settings ⟨.updateUserRole payload, copy, false⟩ (.error e) := by
    intro copy e field _
    exact ⟨by simp [Except.isOk, Except.toBool], by simp⟩
  refine normalizeItcode_keeps hcode (fun _ => herror) ?_
  refine .reject_bind (fun _ => herror) fun _ => ?_
  refine findUserByItcode_keeps (.done herror) fun user huser => ?_
  refine .reject_bind (fun _ => herror) fun _ => ?_
  split
  · refine .write_bind (fun s _ => .saveUser rfl huser rfl rfl rfl (fun field => ?_) rfl)
      fun s _ => ?_
    · cases field with
      | role => exact rfl
      | password => exact Relation.ReflTransGen.refl
    · have hend : KeepsAccount settings itcode origin ⟨.updateUserRole payload, some user, true⟩
          appendAudit (AccountEnd settings) := by
        refine (appendAudit_finishes fun _ => rfl).mono fun g r hend field _ => ?_
        rw [hend.1]
        exact ⟨fun _ => .inl rfl, fun _ => hend.2⟩
      split
      · exact finishes_keeps (revokeUserSessions_finishes (fun _ => rfl) _ _) fun _ => hend
      · exact hend
  · rename_i hsame
    refine .done fun field hsets => ⟨fun _ => .inr ⟨rfl, user, rfl, ?_⟩, by simp⟩
    cases field with
    | role => exact not_not.mp hsame
    | password => cases hsets

theorem AccountRequest.program_keeps (request : AccountRequest)
    (hcode : settings.casefold (strip request.itcode) = itcode) :
    KeepsAccount settings itcode origin ⟨request, none, false⟩ (request.program settings)
      (AccountEnd settings) := by
  cases request with
  | login => exact login_keeps hcode
  | gquanLogin => exact gquanLogin_keeps hcode
  | changePassword => exact changePassword_keeps hcode
  | updateUserRole => exact updateUserRole_keeps hcode

end Request

end Grouproxy.Auth
