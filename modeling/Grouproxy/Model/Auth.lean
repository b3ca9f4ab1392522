import Grouproxy.Library.Collection
import Grouproxy.Library.Handlers
import Grouproxy.Library.Ipaddress
import Grouproxy.Model.Bundle

/-! # Accounts, sessions and verification codes

The handlers that log a user in and out, change a password and change a role. `Document.save`
writes the copy that a handler has in hand. The password hasher, Unicode case folding, the clock
readings and the random draws are parameters; the audit log is left out.
-/

namespace Grouproxy.Auth

open Ipaddress Grouproxy.Bundle Programs Collections

/-! ## Documents -/

inductive Role where
  | root
  | admin
  | employee
  deriving DecidableEq

structure AdminUser where
  id : String
  username : String
  itcode : String
  passwordHash : String
  isActive : Bool
  role : Role
  passwordChangedAt : Option Nat
  lastLoginAt : Option Nat
  deriving DecidableEq

structure ManagementSession where
  id : String
  tokenHash : String
  userId : String
  itcode : String
  expiresAt : Nat
  revokedAt : Option Nat
  lastSeenAt : Option Nat
  deriving DecidableEq

inductive ChallengeStatus where
  | pending
  | delivered
  | deliveryFailed
  | expired
  | locked
  | consumed
  deriving DecidableEq

structure AuthVerificationChallenge where
  id : String
  challengeId : String
  itcode : String
  purpose : String
  codeHash : String
  status : ChallengeStatus
  failedAttempts : Nat
  expiresAt : Nat
  consumedAt : Option Nat
  deriving DecidableEq

instance : Document String AdminUser := ⟨AdminUser.id⟩

instance : Document String ManagementSession := ⟨ManagementSession.id⟩

instance : Document String AuthVerificationChallenge := ⟨AuthVerificationChallenge.id⟩

structure AuthStore where
  users : Collection AdminUser
  sessions : Collection ManagementSession
  challenges : Collection AuthVerificationChallenge

/-! ## Operations -/

/-- `AuthError` carries its code; `http` is what a request is answered with. -/
inductive AuthFailure where
  | auth (code : String)
  | http (status : Nat) (detail : String)
  | operation
  deriving DecidableEq

/-- What became of a verification code: the last two come after the comparison. -/
inductive CodeOutcome where
  | expired
  | locked
  | wrong
  | consumed
  deriving DecidableEq

/-- The names of the operations that the results single out; a save names the copy it writes. -/
inductive AuthLabel where
  | other
  | resolve (tokenHash : String)
  | revoke (tokenHash : String)
  | revokeAll (userId : String)
  | saveSeen (session : ManagementSession)
  | saveRevoked (session : ManagementSession)
  | findUser
  | findLegacyUser
  | saveItcode (user : AdminUser)
  | saveUser (user : AdminUser)
  | findChallenge
  | saveChallenge (outcome : CodeOutcome) (challenge : AuthVerificationChallenge)
  deriving DecidableEq

abbrev AuthHandler (α : Type) := Prog AuthLabel AuthStore AuthFailure α

def find {α : Type} (label : AuthLabel) (query : AuthStore → α) : AuthHandler α :=
  Prog.read .operation label query

def saveSession (label : ManagementSession → AuthLabel) (session : ManagementSession) :
    AuthHandler Unit :=
  Prog.write .operation (label session) fun s => { s with sessions := s.sessions.save session }

def saveUser (label : AdminUser → AuthLabel) (user : AdminUser) : AuthHandler Unit :=
  Prog.write .operation (label user) fun s => { s with users := s.users.save user }

def saveChallenge (outcome : CodeOutcome) (challenge : AuthVerificationChallenge) :
    AuthHandler Unit :=
  Prog.write .operation (.saveChallenge outcome challenge) fun s =>
    { s with challenges := s.challenges.save challenge }

def reject (condition : Prop) [Decidable condition] (code : String) : AuthHandler Unit :=
  Prog.reject condition (.auth code)

def appendAudit : AuthHandler Unit := Prog.write .operation .other id

/-! ## Settings -/

/-- Argon2; `hash` takes the salt it draws. -/
structure PasswordHasher where
  hash : String → String → String
  verify : String → String → Bool
  checkNeedsRehash : String → Bool

structure Settings where
  hashes : Hashes
  passwordHasher : PasswordHasher
  casefold : String → String
  managementToken : String
  authSessionTtlMinutes : Nat
  authVerificationMaxAttempts : Nat

def rootItcode : String := "zhangle"

def tokenHash (settings : Settings) (value : String) : String :=
  hexdigest (settings.hashes.sha256 value.toUTF8)

def codeHash (settings : Settings) (challengeId code : String) : String :=
  hexdigest (settings.hashes.hmacSha256 settings.managementToken.toUTF8
    (challengeId ++ ":" ++ code).toUTF8)

def isItcodeChar (c : Char) : Bool :=
  ('a' ≤ c && c ≤ 'z') || ('0' ≤ c && c ≤ '9')

/-- `^[a-z0-9][a-z0-9._-]{1,63}$` -/
def isItcode : List Char → Bool
  | [] => false
  | c :: rest =>
    isItcodeChar c && 1 ≤ rest.length && rest.length ≤ 63 &&
      rest.all fun c => isItcodeChar c || c == '.' || c == '_' || c == '-'

def normalizeItcode (settings : Settings) (value : String) : AuthHandler String :=
  let itcode := settings.casefold (strip value)
  if isItcode itcode.toList then return itcode else throw (.auth "invalid_itcode")

def validatePassword (password : String) : AuthHandler Unit :=
  reject (password.length < 12 ∨ 128 < password.length) "invalid_password"

def hashPassword (settings : Settings) (salt password : String) : AuthHandler String := do
  validatePassword password
  return settings.passwordHasher.hash password salt

/-- Whether the password is right, and whether its hash is to be renewed. -/
def verifyPassword (settings : Settings) (password storedHash : String) : Bool × Bool :=
  if "$argon2".toList.isPrefixOf storedHash.toList then
    if settings.passwordHasher.verify storedHash password then
      (true, settings.passwordHasher.checkNeedsRehash storedHash)
    else (false, false)
  else (tokenHash settings password == storedHash, true)

/-! ## Accounts -/

/-- An account from before the IT codes is found by its name, and gets its code. -/
def findUserByItcode (itcode : String) : AuthHandler (Option AdminUser) := do
  match ← find .findUser fun s => s.users.find? fun user => user.itcode == itcode with
  | some user => return some user
  | none =>
    match ← find .findLegacyUser fun s => s.users.find? fun user => user.username == itcode with
    | none => return none
    | some user =>
      if user.itcode = "" then do
        let user := { user with itcode := itcode }
        saveUser .saveItcode user
        return some user
      else return some user

/-! ## Sessions -/

/-- What a new session draws, and when. -/
structure SessionDraws where
  token : String
  documentId : String
  createdAt : Nat

def createSession (settings : Settings) (draws : SessionDraws) (user : AdminUser) :
    AuthHandler ManagementSession := do
  let session : ManagementSession :=
    { id := draws.documentId
      tokenHash := tokenHash settings draws.token
      userId := user.id
      itcode := user.itcode
      expiresAt := draws.createdAt + 60 * settings.authSessionTtlMinutes
      revokedAt := none
      lastSeenAt := none }
  saveSession (fun _ => .other) session
  return session

def findSession (settings : Settings) (label : String → AuthLabel) (token : String) :
    AuthHandler (Option ManagementSession) :=
  find (label (tokenHash settings token)) fun s =>
    s.sessions.find? fun session => session.tokenHash == tokenHash settings token

def resolveSession (settings : Settings) (now seenAt : Nat) (token : String) :
    AuthHandler (ManagementSession × AdminUser) := do
  match ← findSession settings .resolve token with
  | none => throw (.auth "management_session_invalid")
  | some session =>
    reject (session.revokedAt ≠ none) "management_session_revoked"
    reject (session.expiresAt ≤ now) "management_session_expired"
    match ← find .other fun s => s.users.get? session.userId with
    | none => throw (.auth "management_account_inactive")
    | some user =>
      reject (user.isActive = false ∨ user.itcode ≠ session.itcode) "management_account_inactive"
      let session := { session with lastSeenAt := some seenAt }
      saveSession .saveSeen session
      return (session, user)

def revokeSessionToken (settings : Settings) (now : Nat) (token : String) : AuthHandler Bool := do
  match ← findSession settings .revoke token with
  | none => return false
  | some session =>
    if session.revokedAt ≠ none then return false
    else do
      saveSession .saveRevoked { session with revokedAt := some now }
      return true

/-- The loop of `revoke_user_sessions`. -/
def revokeSessions (now : Nat) : List ManagementSession → AuthHandler Unit
  | [] => return ()
  | session :: rest => do
    saveSession .saveRevoked { session with revokedAt := some now }
    revokeSessions now rest

def isOpenSessionOf (userId : String) (session : ManagementSession) : Bool :=
  session.userId == userId && session.revokedAt == none

def revokeUserSessions (now : Nat) (userId : String) : AuthHandler Unit := do
  let sessions ← find (.revokeAll userId) fun s => s.sessions.filter (isOpenSessionOf userId)
  revokeSessions now sessions

/-! ## Verification codes -/

structure VerificationCode where
  challengeId : String
  itcode : String
  purpose : String
  code : String

def AuthVerificationChallenge.accepts (challenge : AuthVerificationChallenge)
    (request : VerificationCode) : Bool :=
  challenge.itcode == request.itcode && challenge.purpose == request.purpose &&
    challenge.status == .delivered

/-- `hmac.compare_digest` of the stored digest and that of the code. -/
def isRightCode (settings : Settings) (challenge : AuthVerificationChallenge)
    (request : VerificationCode) : Bool :=
  challenge.codeHash == codeHash settings request.challengeId request.code

/-- The challenge after a wrong code. -/
def AuthVerificationChallenge.afterWrongCode (settings : Settings)
    (challenge : AuthVerificationChallenge) : AuthVerificationChallenge :=
  { challenge with
    failedAttempts := challenge.failedAttempts + 1
    status := if settings.authVerificationMaxAttempts ≤ challenge.failedAttempts + 1 then .locked
      else challenge.status }

def consumeVerificationCode (settings : Settings) (now consumedAt : Nat)
    (request : VerificationCode) : AuthHandler AuthVerificationChallenge := do
  match ← find .findChallenge fun s =>
      s.challenges.find? fun challenge => challenge.challengeId == request.challengeId with
  | none => throw (.auth "verification_code_invalid")
  | some challenge =>
    reject (challenge.accepts request = false) "verification_code_invalid"
    if challenge.expiresAt ≤ now then do
      saveChallenge .expired { challenge with status := .expired }
      throw (.auth "verification_code_expired")
    else if settings.authVerificationMaxAttempts ≤ challenge.failedAttempts then do
      saveChallenge .locked { challenge with status := .locked }
      throw (.auth "verification_code_attempts_exceeded")
    else if isRightCode settings challenge request then do
      let challenge := { challenge with status := .consumed, consumedAt := some consumedAt }
      saveChallenge .consumed challenge
      return challenge
    else do
      let challenge := challenge.afterWrongCode settings
      saveChallenge .wrong challenge
      if challenge.status = .locked then throw (.auth "verification_code_attempts_exceeded")
      else throw (.auth "verification_code_invalid")

/-! ## Requests -/

/-- `_auth_http_error` -/
def authHttpError (code : String) : AuthFailure :=
  .http
    (if code ∈ ["invalid_itcode", "invalid_password"] then 422
    else if code = "itcode_already_registered" then 409
    else if code ∈ ["verification_code_rate_limited", "verification_code_attempts_exceeded",
      "gquan_quota_exceeded"] then 429
    else if code ∈ ["gquan_delivery_unavailable", "gquan_delivery_rejected",
      "gquan_stub_not_allowed", "gquan_test_code_not_configured"] then 503
    else 401)
    code

/-- A request answers an `AuthError` over HTTP, after an audit event. -/
def answering {α : Type} (body : AuthHandler α) : AuthHandler α :=
  body.tryCatch fun
    | .auth code => do
      appendAudit
      throw (authHttpError code)
    | e => throw e

structure PasswordChangeRequest where
  itcode : String
  challengeId : String
  verificationCode : String
  password : String
  now : Nat
  salt : String

def changePassword (settings : Settings) (payload : PasswordChangeRequest) : AuthHandler Unit := do
  answering do
    let itcode ← normalizeItcode settings payload.itcode
    validatePassword payload.password
    match ← findUserByItcode itcode with
    | none => throw (.auth "account_not_registered")
    | some user =>
      reject (user.isActive = false) "account_not_registered"
      let _ ← consumeVerificationCode settings payload.now payload.now
        ⟨payload.challengeId, itcode, "password_change", payload.verificationCode⟩
      let passwordHash ← hashPassword settings payload.salt payload.password
      saveUser .saveUser
        { user with passwordHash := passwordHash, passwordChangedAt := some payload.now }
      revokeUserSessions payload.now user.id
  appendAudit

structure LoginRequest where
  itcode : String
  password : String
  now : Nat
  salt : String
  draws : SessionDraws

/-- A password that is right but hashed in an outdated way is hashed again. -/
def renewedHash (settings : Settings) (payload : LoginRequest) (needsUpgrade : Bool)
    (user : AdminUser) : AuthHandler AdminUser :=
  if needsUpgrade then do
    let passwordHash ← hashPassword settings payload.salt payload.password
    return { user with passwordHash := passwordHash, passwordChangedAt := some payload.now }
  else return user

def login (settings : Settings) (payload : LoginRequest) : AuthHandler Unit := do
  answering do
    let itcode ← normalizeItcode settings payload.itcode
    match ← findUserByItcode itcode with
    | none => throw (.auth "invalid_credentials")
    | some user =>
      let (valid, needsUpgrade) := verifyPassword settings payload.password user.passwordHash
      reject (user.isActive = false ∨ valid = false) "invalid_credentials"
      let user ← renewedHash settings payload needsUpgrade user
      let user := { user with lastLoginAt := some payload.now }
      saveUser .saveUser user
      let _ ← createSession settings payload.draws user
  appendAudit

structure GQuanLoginRequest where
  itcode : String
  challengeId : String
  verificationCode : String
  now : Nat
  draws : SessionDraws

def gquanLogin (settings : Settings) (payload : GQuanLoginRequest) : AuthHandler Unit := do
  answering do
    let itcode ← normalizeItcode settings payload.itcode
    match ← findUserByItcode itcode with
    | none => throw (.auth "account_not_registered")
    | some user =>
      reject (user.isActive = false) "account_not_registered"
      let _ ← consumeVerificationCode settings payload.now payload.now
        ⟨payload.challengeId, itcode, "gquan_login", payload.verificationCode⟩
      let user := { user with lastLoginAt := some payload.now }
      saveUser .saveUser user
      let _ ← createSession settings payload.draws user
  appendAudit

/-- A role that a request may set. -/
inductive AssignableRole where
  | admin
  | employee
  deriving DecidableEq

def AssignableRole.role : AssignableRole → Role
  | .admin => .admin
  | .employee => .employee

structure RoleUpdate where
  itcode : String
  role : AssignableRole
  now : Nat

def updateUserRole (settings : Settings) (payload : RoleUpdate) : AuthHandler Unit := do
  let itcode ← normalizeItcode settings payload.itcode
  Prog.reject (itcode = rootItcode) (.http 409 "root_role_immutable")
  match ← findUserByItcode itcode with
  | none => throw (.http 404 "account_not_found")
  | some user =>
    Prog.reject (user.role = .root) (.http 409 "root_role_immutable")
    if user.role ≠ payload.role.role then do
      saveUser .saveUser { user with role := payload.role.role }
      if payload.role = .employee then revokeUserSessions payload.now user.id
      appendAudit
    else return ()

end Grouproxy.Auth
