import Mathlib.Data.List.MinMax
import Grouproxy.Library.DateTime
import Grouproxy.Library.TreeText
import Grouproxy.Model.Bundle
import Grouproxy.Model.Inspection

/-! # The audit chain

How audit events are appended, and how the chain of the stored ones is verified. The events are
stored in the order of their insertion.
-/

namespace Grouproxy.Audit

open Text Value Encoding Grouproxy.Bundle DateTimes

def sensitiveKeys : List String :=
  ["password", "password_hash", "token", "agent_token", "agent_token_hash", "secret", "secret_ref",
    "authorization", "private_key", "client_ca_pem"]

mutual
def redact : Tree → Tree
  | .dict fields => .dict (redactFields fields)
  | .list items => .list (redactList items)
  | .null => .null
  | .bool b => .bool b
  | .int n => .int n
  | .float x => .float x
  | .str s => .str s
def redactList : List Tree → List Tree
  | [] => []
  | item :: items => redact item :: redactList items
def redactFields : List (String × Tree) → List (String × Tree)
  | [] => []
  | (key, item) :: fields =>
    (key, if Inspection.lower key ∈ sensitiveKeys then .str "[REDACTED]" else redact item) ::
      redactFields fields
end

/-- The fields of an `AuditEvent` but for its expiry. -/
structure AuditEvent where
  eventId : String
  actor : String
  actorRole : String
  requestId : String
  sourceIp : String
  action : String
  targetType : String
  targetId : String
  before : List (String × Tree)
  after : List (String × Tree)
  result : String
  error : String
  previousHash : String
  immutableHash : String
  recordedAt : DateTime

/-- What is hashed of an event. -/
def payload (event : AuditEvent) : Tree :=
  .dict [("event_id", .str event.eventId), ("actor", .str event.actor),
    ("actor_role", .str event.actorRole), ("request_id", .str event.requestId),
    ("source_ip", .str event.sourceIp), ("action", .str event.action),
    ("target_type", .str event.targetType), ("target_id", .str event.targetId),
    ("before", .dict event.before), ("after", .dict event.after), ("result", .str event.result),
    ("error", .str event.error), ("previous_hash", .str event.previousHash),
    ("at", .str (String.ofList event.recordedAt.isoformat))]

def canonicalJson (value : Tree) : ByteArray := textBytes value.dumps

def contentHash (h : Hashes) (event : AuditEvent) : String :=
  hexdigest (h.sha256 (canonicalJson (payload event)))

/-! ## Appending -/

/-- The arguments of a call. -/
structure Call where
  action : String
  targetType : String
  targetId : String
  actor : String
  actorRole : String
  requestId : String
  sourceIp : String
  before : Tree
  after : Tree
  result : String
  error : String

/-- `redact(value or {})`, which the model only takes if it is a mapping. -/
def redactedFields? (value : Tree) : Option (List (String × Tree)) :=
  match redact (if Inspection.isTruthy value then value else .dict []) with
  | .dict fields => some fields
  | _ => none

/-- `AuditEvent.find().sort(-AuditEvent.at).first_or_none()` -/
def latest? (store : List AuditEvent) : Option AuditEvent :=
  store.argmax fun event => event.recordedAt.number

/-- The time of an event that is recorded now. -/
def recordedAt (now : DateTime) (previous : Option AuditEvent) : Option DateTime :=
  match previous with
  | none => some now.truncated
  | some previous =>
    if now.truncated.number ≤ previous.recordedAt.number then previous.recordedAt.addMillisecond
    else some now.truncated

/-- The event that a call inserts; `none` if an exception is raised before the insertion. -/
def auditEvent? (h : Hashes) (store : List AuditEvent) (now : DateTime) (eventId : String)
    (call : Call) : Option AuditEvent := do
  let previous := latest? store
  let recordedAt ← recordedAt now previous
  let before ← redactedFields? call.before
  let after ← redactedFields? call.after
  let event : AuditEvent :=
    { eventId := eventId
      actor := call.actor
      actorRole := call.actorRole
      requestId := call.requestId
      sourceIp := call.sourceIp
      action := call.action
      targetType := call.targetType
      targetId := call.targetId
      before := before
      after := after
      result := call.result
      error := String.ofList (call.error.toList.take 512)
      previousHash := (previous.map AuditEvent.immutableHash).getD ""
      immutableHash := ""
      recordedAt := recordedAt }
  return { event with immutableHash := contentHash h event }

/-- The unique indexes. -/
def isUnique (store : List AuditEvent) (event : AuditEvent) : Bool :=
  store.all fun other =>
    other.eventId != event.eventId && other.immutableHash != event.immutableHash

/-- The store after a call; an exception leaves it as it is. -/
def appendAudit (h : Hashes) (store : List AuditEvent) (now : DateTime) (eventId : String)
    (call : Call) : List AuditEvent :=
  match auditEvent? h store now eventId call with
  | some event => if isUnique store event then store ++ [event] else store
  | none => store

inductive Event where
  | append (now : DateTime) (eventId : String) (call : Call)
  /-- The oldest events are removed. -/
  | retain (removed : Nat)

def step (h : Hashes) (store : List AuditEvent) : Event → Option (List AuditEvent)
  | .append now eventId call => some (appendAudit h store now eventId call)
  | .retain removed => some (store.drop removed)

/-! ## Verifying -/

/-- The loop over the events from an index on; the message of the first mismatch. -/
def verifyFrom (h : Hashes) (index : Nat) (previousHash : String) :
    List AuditEvent → Option String
  | [] => none
  | event :: events =>
    if 0 < index ∧ event.previousHash ≠ previousHash then
      some ("previous_hash_mismatch:" ++ toString index)
    else if contentHash h event ≠ event.immutableHash then
      some ("immutable_hash_mismatch:" ++ toString index)
    else verifyFrom h (index + 1) event.immutableHash events

/-- The answer for the events as they are read. -/
def verifyAuditChain (h : Hashes) (events : List AuditEvent) : Bool × String × Nat :=
  match verifyFrom h 0 ((events.head?.map AuditEvent.previousHash).getD "") events with
  | some message => (false, message, events.length)
  | none => (true, "", events.length)

/-- What `AuditEvent.find().sort(+AuditEvent.at)` may return: events of the same time come in any
order. -/
structure ReadsAs (store events : List AuditEvent) : Prop where
  perm : events.Perm store
  sorted : events.Pairwise fun a b => a.recordedAt.number ≤ b.recordedAt.number

end Grouproxy.Audit
