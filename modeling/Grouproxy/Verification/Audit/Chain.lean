import Grouproxy.Library.Chain
import Grouproxy.Library.Transitions
import Grouproxy.Library.TreeReading
import Grouproxy.Model.Audit
import Grouproxy.Verification.Signing

/-! # The audit chain is complete and evident of tampering

Whatever the clock says, the events of a run form a chain that verifies. A changed event and a gap
make the verification fail.
-/

namespace Grouproxy.Audit

open Text Value Encoding Grouproxy.Bundle DateTimes Crypto Chains

variable {h : Hashes} {store events : List AuditEvent}

/-! ## What is verified -/

/-- A JSON value is hashed in the text over which bundles are signed. -/
theorem canonicalJson_ofJson (value : Json) :
    canonicalJson (.ofJson value) = Crypto.canonicalJson value := by
  rw [canonicalJson, Tree.dumps_ofJson, Crypto.canonicalJson]

/-- The stored events form a chain. -/
abbrev ChainOf (h : Hashes) (events : List AuditEvent) : Prop :=
  Intact AuditEvent.previousHash AuditEvent.immutableHash (contentHash h) events

theorem verifyFrom_eq_none_iff (h : Hashes) (index : Nat) (previousHash : String)
    (events : List AuditEvent) : verifyFrom h index previousHash events = none ↔
      (0 < index → ∀ event ∈ events.head?, event.previousHash = previousHash) ∧
        ChainOf h events := by
  induction events generalizing index previousHash with
  | nil => simp [verifyFrom, ChainOf, intact_nil]
  | cons event events ih =>
      rw [verifyFrom, ChainOf, intact_cons_iff]
      by_cases hlink : 0 < index ∧ event.previousHash ≠ previousHash
      · simp only [if_pos hlink, reduceCtorEq, false_iff]
        intro hchain
        exact hlink.2 (hchain.1 hlink.1 event rfl)
      · rw [if_neg hlink]
        have hlink' : 0 < index → ∀ e ∈ (event :: events).head?, e.previousHash = previousHash := by
          intro hindex e he
          cases he
          by_contra hne
          exact hlink ⟨hindex, hne⟩
        by_cases hhash : contentHash h event = event.immutableHash
        · rw [if_neg (not_not.mpr hhash), ih]
          simp only [hhash, true_and, Nat.succ_pos, forall_const]
          exact ⟨fun hrest => ⟨hlink', hrest⟩, fun hrest => hrest.2⟩
        · simp only [if_pos hhash, hhash, reduceCtorEq, false_and, and_false]

/-- The verification accepts exactly the chains. -/
theorem verifyAuditChain_iff (h : Hashes) (events : List AuditEvent) :
    (verifyAuditChain h events).1 = true ↔ ChainOf h events := by
  have hfrom := verifyFrom_eq_none_iff h 0 ((events.head?.map AuditEvent.previousHash).getD "")
    events
  rw [verifyAuditChain]
  cases hrun : verifyFrom h 0 ((events.head?.map AuditEvent.previousHash).getD "") events with
  | none =>
      rw [hrun] at hfrom
      simpa using hfrom.mp rfl
  | some message =>
      rw [hrun] at hfrom
      simpa using hfrom

/-! ## Appending -/

/-- The stored events form a chain in the order of their times, which are distinct, and so are
their digests. -/
structure Recorded (h : Hashes) (store : List AuditEvent) : Prop where
  chain : ChainOf h store
  increasing : store.Pairwise fun a b => a.recordedAt.number < b.recordedAt.number
  distinct : (store.map AuditEvent.immutableHash).Nodup

theorem recorded_nil (h : Hashes) : Recorded h [] where
  chain := intact_nil
  increasing := List.Pairwise.nil
  distinct := List.nodup_nil

/-- No event is later than the latest one. -/
theorem exists_latest? {event : AuditEvent} (hmem : event ∈ store) :
    ∃ latest ∈ latest? store, event.recordedAt.number ≤ latest.recordedAt.number := by
  cases hmax : latest? store with
  | none =>
      rw [latest?, List.argmax_eq_none] at hmax
      rw [hmax] at hmem
      cases hmem
  | some latest =>
      exact ⟨latest, rfl, List.le_of_mem_argmax (f := fun e : AuditEvent => e.recordedAt.number)
        hmem hmax⟩

/-- The event with the greatest time is the last one. -/
theorem Recorded.latest?_eq (hrecorded : Recorded h store) : latest? store = store.getLast? := by
  rcases List.eq_nil_or_concat store with rfl | ⟨front, last, rfl⟩
  · rfl
  · rw [List.concat_eq_append] at hrecorded ⊢
    have hlast : last ∈ front ++ [last] := List.mem_append_right _ List.mem_cons_self
    obtain ⟨latest, hlatest, hle⟩ := exists_latest? hlast
    rw [List.getLast?_concat, hlatest]
    rcases List.mem_append.mp (List.argmax_mem hlatest) with hmem | hmem
    · have hlt := (List.pairwise_append.mp hrecorded.increasing).2.2 latest hmem last
        List.mem_cons_self
      omega
    · rw [List.mem_singleton.mp hmem]

theorem number_recordedAt {now time : DateTime} {previous : Option AuditEvent}
    (htime : recordedAt now previous = some time) :
    ∀ event ∈ previous, event.recordedAt.number < time.number := by
  rintro event rfl
  rw [recordedAt] at htime
  split at htime
  · exact DateTime.number_addMillisecond htime
  · cases htime
    omega

/-- What an inserted event is, whatever its other fields are. -/
theorem auditEvent?_spec {now : DateTime} {eventId : String} {call : Call} {event : AuditEvent}
    (hevent : auditEvent? h store now eventId call = some event) :
    contentHash h event = event.immutableHash ∧
      event.previousHash = ((latest? store).map AuditEvent.immutableHash).getD "" ∧
      ∀ previous ∈ latest? store, previous.recordedAt.number < event.recordedAt.number := by
  simp only [auditEvent?, Option.bind_eq_bind, Option.bind_eq_some_iff, Option.pure_def,
    Option.some.injEq] at hevent
  obtain ⟨time, htime, before, -, after, -, rfl⟩ := hevent
  exact ⟨rfl, rfl, number_recordedAt htime⟩

theorem Recorded.append (hrecorded : Recorded h store) {now : DateTime} {eventId : String}
    {call : Call} : Recorded h (appendAudit h store now eventId call) := by
  rw [appendAudit]
  cases hevent : auditEvent? h store now eventId call with
  | none => exact hrecorded
  | some event =>
      obtain ⟨hhash, hprevious, hlater⟩ := auditEvent?_spec hevent
      dsimp only
      by_cases hunique : isUnique store event = true
      · rw [if_pos hunique]
        rw [isUnique, List.all_eq_true] at hunique
        constructor
        · apply hrecorded.chain.append _ hhash
          intro last hlast
          rw [hprevious, hrecorded.latest?_eq, hlast]
          rfl
        · rw [List.pairwise_append]
          refine ⟨hrecorded.increasing, List.pairwise_singleton _ _, ?_⟩
          intro a ha b hb
          rw [List.mem_singleton.mp hb]
          obtain ⟨latest, hlatest, hle⟩ := exists_latest? ha
          exact Nat.lt_of_le_of_lt hle (hlater latest hlatest)
        · rw [List.map_append, List.nodup_append']
          refine ⟨hrecorded.distinct, List.nodup_singleton _, ?_⟩
          intro hash hmem hlast
          obtain ⟨other, hother, rfl⟩ := List.mem_map.mp hmem
          have hne := hunique other hother
          rw [List.map_singleton, List.mem_singleton] at hlast
          simp [hlast] at hne
      · rw [if_neg hunique]
        exact hrecorded

theorem Recorded.drop (hrecorded : Recorded h store) (removed : Nat) :
    Recorded h (store.drop removed) where
  chain := hrecorded.chain.drop removed
  increasing := hrecorded.increasing.drop
  distinct := by
    rw [List.map_drop]
    exact hrecorded.distinct.sublist (List.drop_sublist _ _)

theorem Recorded.step {event : Event} {next : List AuditEvent} (hstep : step h store event = some next)
    (hrecorded : Recorded h store) : Recorded h next := by
  cases event with
  | append now eventId call =>
      cases hstep
      exact hrecorded.append
  | retain removed =>
      cases hstep
      exact hrecorded.drop removed

theorem Recorded.run {run : List Event} (hrun : Transitions.run (Audit.step h) [] run = some store) :
    Recorded h store :=
  Transitions.run_invariant (fun _ _ _ hstep hrecorded => hrecorded.step hstep) hrun
    (recorded_nil h)

/-! ## Reading -/

/-- Events with distinct times are read in the order of their times. -/
theorem ReadsAs.eq {read : List AuditEvent} (hread : ReadsAs store read)
    (hstore : store.Pairwise fun a b => a.recordedAt.number < b.recordedAt.number) :
    read = store := by
  have hdistinct : (store.map fun event => event.recordedAt.number).Nodup :=
    (List.pairwise_map.mpr hstore).imp Nat.ne_of_lt
  have hsame : ∀ a b, a ∈ read → b ∈ store → a.recordedAt.number ≤ b.recordedAt.number →
      b.recordedAt.number ≤ a.recordedAt.number → a = b := by
    intro a b ha hb hab hba
    exact List.inj_on_of_nodup_map hdistinct (hread.perm.mem_iff.mp ha) hb (Nat.le_antisymm hab hba)
  exact hread.perm.eq_of_pairwise hsame hread.sorted (hstore.imp Nat.le_of_lt)

/-! ## Tampering -/

/-- The hashed fields are the same, up to the order of the keys of `before` and `after`. -/
structure SameFields (event other : AuditEvent) : Prop where
  eventId : event.eventId = other.eventId
  actor : event.actor = other.actor
  actorRole : event.actorRole = other.actorRole
  requestId : event.requestId = other.requestId
  sourceIp : event.sourceIp = other.sourceIp
  action : event.action = other.action
  targetType : event.targetType = other.targetType
  targetId : event.targetId = other.targetId
  before : (Tree.dict event.before).sorted = (Tree.dict other.before).sorted
  after : (Tree.dict event.after).sorted = (Tree.dict other.after).sorted
  result : event.result = other.result
  error : event.error = other.error
  previousHash : event.previousHash = other.previousHash
  recordedAt : event.recordedAt = other.recordedAt

/-- The payloads of an event read back from the database unchanged. -/
structure AuditEvent.ReadsBack (readFloat : String → Option Float64) (event : AuditEvent) :
    Prop where
  before : Tree.ReadsBack readFloat (.dict event.before)
  after : Tree.ReadsBack readFloat (.dict event.after)

def payloadFields (event : AuditEvent) : List (String × Tree) :=
  match payload event with
  | .dict fields => fields
  | _ => []

theorem nodup_payloadFields (event : AuditEvent) : ((payloadFields event).map Prod.fst).Nodup := by
  change ["event_id", "actor", "actor_role", "request_id", "source_ip", "action", "target_type",
    "target_id", "before", "after", "result", "error", "previous_hash", "at"].Nodup
  decide +kernel

theorem AuditEvent.ReadsBack.payload {readFloat : String → Option Float64} {event : AuditEvent}
    (hreads : event.ReadsBack readFloat) : Tree.ReadsBack readFloat (payload event) := by
  apply Tree.ReadsBack.dict
  simp only [List.forall_mem_cons, List.not_mem_nil, false_implies, implies_true, and_true]
  exact ⟨.str _, .str _, .str _, .str _, .str _, .str _, .str _, .str _, hreads.before,
    hreads.after, .str _, .str _, .str _, .str _⟩

/-- What a hash of the payload fixes. -/
theorem sameFields_of_payload {readFloat : String → Option Float64} {event other : AuditEvent}
    (hevent : event.ReadsBack readFloat) (hother : other.ReadsBack readFloat)
    (hsame : canonicalJson (payload event) = canonicalJson (payload other)) :
    SameFields event other := by
  have hsorted := Tree.sorted_eq_of_dumps_eq hevent.payload hother.payload
    (textBytes_injective hsame)
  have hdict : Tree.sortKeys (Tree.sortedFields (payloadFields event)) =
      Tree.sortKeys (Tree.sortedFields (payloadFields other)) := Tree.dict.inj hsorted
  have hget : ∀ key, (Value.Tree.get (payloadFields event) key).sorted =
      (Value.Tree.get (payloadFields other) key).sorted := by
    intro key
    rw [← Tree.get_sorted (nodup_payloadFields event), ← Tree.get_sorted (nodup_payloadFields other),
      hdict]
  exact
    { eventId := Tree.str.inj (hget "event_id")
      actor := Tree.str.inj (hget "actor")
      actorRole := Tree.str.inj (hget "actor_role")
      requestId := Tree.str.inj (hget "request_id")
      sourceIp := Tree.str.inj (hget "source_ip")
      action := Tree.str.inj (hget "action")
      targetType := Tree.str.inj (hget "target_type")
      targetId := Tree.str.inj (hget "target_id")
      before := hget "before"
      after := hget "after"
      result := Tree.str.inj (hget "result")
      error := Tree.str.inj (hget "error")
      previousHash := Tree.str.inj (hget "previous_hash")
      recordedAt := DateTime.isoformat_injective
        (String.ofList_injective (Tree.str.inj (hget "at"))) }

/-- The digest tells two payloads apart. -/
def TellsApart (h : Hashes) (event other : AuditEvent) : Prop :=
  h.sha256 (canonicalJson (payload event)) = h.sha256 (canonicalJson (payload other)) →
    canonicalJson (payload event) = canonicalJson (payload other)

/-- A changed event that keeps the digest of the recorded one breaks every chain. -/
theorem Recorded.not_chainOf_changed (hrecorded : Recorded h store)
    {readFloat : String → Option Float64} {tampered : List AuditEvent} {event changed : AuditEvent}
    (hevent : event ∈ store) (hchanged : changed ∈ tampered)
    (hkept : changed.immutableHash = event.immutableHash) (hfields : ¬ SameFields changed event)
    (hreads : event.ReadsBack readFloat) (hreads' : changed.ReadsBack readFloat)
    (hsha : TellsApart h changed event) : ¬ ChainOf h tampered := by
  apply not_intact_of_mem hchanged
  intro hhash
  apply hfields
  apply sameFields_of_payload hreads' hreads
  apply hsha
  apply hexdigest_injective
  exact (hhash.trans hkept).trans (hrecorded.chain.hashed event hevent).symm

/-- A gap breaks the chain. -/
theorem Recorded.not_chainOf_gap {front back : List AuditEvent} {a removed b : AuditEvent}
    (hrecorded : Recorded h (front ++ a :: removed :: b :: back)) :
    ¬ ChainOf h (front ++ a :: b :: back) := by
  apply hrecorded.chain.not_intact_of_gap
  intro hsame
  have hdistinct := hrecorded.distinct
  rw [List.map_append, List.nodup_append'] at hdistinct
  have hnodup := hdistinct.2.1
  rw [List.map_cons, List.map_cons, List.nodup_cons] at hnodup
  apply hnodup.1
  rw [hsame]
  exact List.mem_cons_self

theorem verifyAuditChain_eq_false (hchain : ¬ ChainOf h events) :
    (verifyAuditChain h events).1 = false := by
  rw [← verifyAuditChain_iff] at hchain
  exact Bool.eq_false_iff.mpr hchain

theorem exists_run (h : Hashes) (store : List AuditEvent) (run : List Event) :
    ∃ next, Transitions.run (step h) store run = some next := by
  induction run generalizing store with
  | nil => exact ⟨store, rfl⟩
  | cons event run ih =>
      cases event with
      | append now eventId call =>
          obtain ⟨next, hnext⟩ := ih (appendAudit h store now eventId call)
          exact ⟨next, Transitions.run_cons.mpr ⟨_, rfl, hnext⟩⟩
      | retain removed =>
          obtain ⟨next, hnext⟩ := ih (store.drop removed)
          exact ⟨next, Transitions.run_cons.mpr ⟨_, rfl, hnext⟩⟩

/-- After any run the stored events verify; a changed event and a gap are found. -/
theorem auditChain_valid_and_evident (h : Hashes) (run : List Event) :
    ∃ store, Transitions.run (step h) [] run = some store ∧
      (∀ read, ReadsAs store read → (verifyAuditChain h read).1 = true) ∧
      (∀ readFloat tampered read, ReadsAs tampered read → ∀ event ∈ store, ∀ changed ∈ tampered,
        changed.immutableHash = event.immutableHash → ¬ SameFields changed event →
        event.ReadsBack readFloat → changed.ReadsBack readFloat → TellsApart h changed event →
        (verifyAuditChain h read).1 = false) ∧
      ∀ front a removed b back, store = front ++ a :: removed :: b :: back →
        ∀ read, ReadsAs (front ++ a :: b :: back) read → (verifyAuditChain h read).1 = false := by
  obtain ⟨store, hrun⟩ := exists_run h [] run
  have hrecorded := Recorded.run hrun
  refine ⟨store, hrun, ?_, ?_, ?_⟩
  · intro read hread
    rw [verifyAuditChain_iff, hread.eq hrecorded.increasing]
    exact hrecorded.chain
  · intro readFloat tampered read hread event hevent changed hchanged hkept hfields hreads hreads'
      hsha
    apply verifyAuditChain_eq_false
    exact hrecorded.not_chainOf_changed hevent (hread.perm.mem_iff.mpr hchanged) hkept hfields
      hreads hreads' hsha
  · rintro front a removed b back rfl read hread
    have hincreasing : (front ++ a :: b :: back).Pairwise
        fun a b => a.recordedAt.number < b.recordedAt.number := by
      refine List.Pairwise.sublist ?_ hrecorded.increasing
      exact List.Sublist.append_left ((List.sublist_cons_self _ _).cons_cons a) front
    apply verifyAuditChain_eq_false
    rw [hread.eq hincreasing]
    exact hrecorded.not_chainOf_gap

/-! ## Nothing is lost -/

/-- The event of a call, before it has its hash. -/
def Call.event (call : Call) (eventId previousHash : String) (time : DateTime)
    (before after : List (String × Tree)) : AuditEvent where
  eventId := eventId
  actor := call.actor
  actorRole := call.actorRole
  requestId := call.requestId
  sourceIp := call.sourceIp
  action := call.action
  targetType := call.targetType
  targetId := call.targetId
  before := before
  after := after
  result := call.result
  error := String.ofList (call.error.toList.take 512)
  previousHash := previousHash
  immutableHash := ""
  recordedAt := time

def hashed (h : Hashes) (event : AuditEvent) : AuditEvent :=
  { event with immutableHash := contentHash h event }

/-- The hash of the event that a store ends with. -/
def lastHash (store : List AuditEvent) : String :=
  (store.getLast?.map AuditEvent.immutableHash).getD ""

section Stores

variable {now time : DateTime} {eventId : String} {call : Call} {before after : List (String × Tree)}

/-- An event with an identifier of its own, which the digest tells apart, has a hash of its own. -/
theorem Recorded.immutableHash_ne (hrecorded : Recorded h store) {event other : AuditEvent}
    {readFloat : String → Option Float64} (hother : other ∈ store)
    (hne : other.eventId ≠ event.eventId) (hreads : event.ReadsBack readFloat)
    (hreads' : other.ReadsBack readFloat) (hsha : TellsApart h event other) :
    other.immutableHash ≠ contentHash h event := by
  intro hsame
  rw [← hrecorded.chain.hashed other hother] at hsame
  have hpayload := hsha (hexdigest_injective hsame.symm)
  exact hne (sameFields_of_payload hreads hreads' hpayload).eventId.symm

/-- A call whose payloads are mappings stores its event at the end, with the fields of the call. -/
theorem Recorded.appendAudit_eq (hrecorded : Recorded h store)
    (htime : recordedAt now store.getLast? = some time)
    (hbefore : redactedFields? call.before = some before)
    (hafter : redactedFields? call.after = some after)
    (hid : ∀ other ∈ store, other.eventId ≠ eventId)
    (hhash : ∀ other ∈ store, other.immutableHash ≠
      contentHash h (call.event eventId (lastHash store) time before after)) :
    appendAudit h store now eventId call =
      store ++ [hashed h (call.event eventId (lastHash store) time before after)] := by
  have hevent : auditEvent? h store now eventId call =
      some (hashed h (call.event eventId (lastHash store) time before after)) := by
    simp only [auditEvent?, hrecorded.latest?_eq, htime, hbefore, hafter, Option.bind_eq_bind,
      Option.bind_some]
    rfl
  have hunique : isUnique store
      (hashed h (call.event eventId (lastHash store) time before after)) = true := by
    rw [isUnique, List.all_eq_true]
    intro other hother
    rw [Bool.and_eq_true, bne_iff_ne, bne_iff_ne]
    exact ⟨hid other hother, hhash other hother⟩
  rw [appendAudit, hevent]
  exact if_pos hunique

/-- No event is lost: with payloads that are mappings, an identifier that is new and a digest that
tells the event apart from the stored ones, a call stores its event. -/
theorem Recorded.appendAudit_stores (hrecorded : Recorded h store)
    {readFloat : String → Option Float64} (htime : recordedAt now store.getLast? = some time)
    (hbefore : redactedFields? call.before = some before)
    (hafter : redactedFields? call.after = some after)
    (hid : ∀ other ∈ store, other.eventId ≠ eventId)
    (hreads : ∀ event ∈ call.event eventId (lastHash store) time before after :: store,
      event.ReadsBack readFloat)
    (hsha : ∀ other ∈ store,
      TellsApart h (call.event eventId (lastHash store) time before after) other) :
    appendAudit h store now eventId call =
      store ++ [hashed h (call.event eventId (lastHash store) time before after)] := by
  apply hrecorded.appendAudit_eq htime hbefore hafter hid
  intro other hother
  exact hrecorded.immutableHash_ne hother (hid other hother) (hreads _ List.mem_cons_self)
    (hreads other (List.mem_cons_of_mem _ hother)) (hsha other hother)

end Stores

/-! ## Three events -/

def sampleTime : DateTime := .ofFields 2026 1 1 0 0 0 123456 (by decide)

/-- The millisecond that the event of an index gets while the clock stands still. -/
def sampleTick (index : Nat) (h : index < 3) : DateTime :=
  .ofFields 2026 1 1 0 0 0 (123000 + index * 1000) ⟨by decide, by decide, by decide, by omega,
    by omega, by omega, by omega⟩

def sampleCall (targetId : String) : Call where
  action := "site.create"
  targetType := "site"
  targetId := targetId
  actor := "alice"
  actorRole := "admin"
  requestId := ""
  sourceIp := ""
  before := .null
  after := .dict [("name", .str "North")]
  result := "success"
  error := ""

def sampleEvent (eventId actor targetId previousHash : String) (time : DateTime) : AuditEvent :=
  { (sampleCall targetId).event eventId previousHash time [] [("name", .str "North")] with
    actor := actor }

def firstDigest : List UInt8 :=
  [177, 195, 174, 250, 252, 17, 22, 241, 7, 102, 60, 244, 214, 72, 163, 18, 217, 166, 236,
    186, 22, 90, 255, 133, 69, 230, 14, 52, 74, 101, 4, 146]

def secondDigest : List UInt8 :=
  [7, 137, 126, 119, 78, 128, 147, 134, 12, 158, 146, 149, 209, 160, 98, 33, 93, 181, 80, 68,
    48, 23, 121, 85, 67, 127, 213, 76, 80, 222, 6, 239]

def thirdDigest : List UInt8 :=
  [169, 151, 60, 40, 225, 117, 227, 200, 84, 122, 52, 191, 44, 16, 36, 223, 46, 23, 102, 126,
    139, 252, 121, 39, 160, 163, 37, 85, 225, 128, 16, 57]

def forgedDigest : List UInt8 :=
  [182, 3, 226, 100, 97, 205, 10, 78, 75, 255, 244, 252, 241, 62, 131, 85, 211, 248, 172, 17,
    31, 102, 35, 12, 153, 192, 6, 97, 108, 121, 142, 221]

def firstEvent : AuditEvent := sampleEvent "event-1" "alice" "site-1" "" (sampleTick 0 (by decide))

def secondEvent (actor : String) : AuditEvent :=
  sampleEvent "event-2" actor "site-2" (hexdigest firstDigest) (sampleTick 1 (by decide))

def thirdEvent : AuditEvent :=
  sampleEvent "event-3" "alice" "site-3" (hexdigest secondDigest) (sampleTick 2 (by decide))

/-- The digests of the events as they are recorded, and of the second one with another actor. -/
def sampleHashes : Hashes where
  sha256 bytes :=
    if bytes = canonicalJson (payload firstEvent) then firstDigest
    else if bytes = canonicalJson (payload (secondEvent "alice")) then secondDigest
    else if bytes = canonicalJson (payload thirdEvent) then thirdDigest
    else forgedDigest
  hmacSha256 _ _ := []

theorem readsBack_sampleEvent (eventId actor targetId previousHash : String) (time : DateTime) :
    (sampleEvent eventId actor targetId previousHash time).ReadsBack fun _ => none where
  before := .dict [] (by simp)
  after := .dict [("name", .str "North")] (by simpa using Tree.ReadsBack.str "North")

/-- Events of the sample that differ have different texts. -/
theorem canonicalJson_ne {eventId actor targetId previousHash eventId' actor' targetId'
    previousHash' : String} {time time' : DateTime}
    (h : eventId ≠ eventId' ∨ actor ≠ actor') :
    canonicalJson (payload (sampleEvent eventId actor targetId previousHash time)) ≠
      canonicalJson (payload (sampleEvent eventId' actor' targetId' previousHash' time')) := by
  intro hsame
  have hfields := sameFields_of_payload (readsBack_sampleEvent _ _ _ _ _)
    (readsBack_sampleEvent _ _ _ _ _) hsame
  exact h.elim (fun hid => hid hfields.eventId) fun hactor => hactor hfields.actor

theorem sha256_firstEvent :
    sampleHashes.sha256 (canonicalJson (payload firstEvent)) = firstDigest := by
  simp only [sampleHashes, if_true]

theorem sha256_secondEvent :
    sampleHashes.sha256 (canonicalJson (payload (secondEvent "alice"))) = secondDigest := by
  have hfirst : canonicalJson (payload (secondEvent "alice")) ≠ canonicalJson (payload firstEvent) :=
    canonicalJson_ne (.inl (by decide))
  simp only [sampleHashes, if_neg hfirst, if_true]

theorem sha256_thirdEvent :
    sampleHashes.sha256 (canonicalJson (payload thirdEvent)) = thirdDigest := by
  have hfirst : canonicalJson (payload thirdEvent) ≠ canonicalJson (payload firstEvent) :=
    canonicalJson_ne (.inl (by decide))
  have hsecond : canonicalJson (payload thirdEvent) ≠
      canonicalJson (payload (secondEvent "alice")) := canonicalJson_ne (.inl (by decide))
  simp only [sampleHashes, if_neg hfirst, if_neg hsecond, if_true]

theorem sha256_forgedEvent :
    sampleHashes.sha256 (canonicalJson (payload (secondEvent "bob"))) = forgedDigest := by
  have hfirst : canonicalJson (payload (secondEvent "bob")) ≠ canonicalJson (payload firstEvent) :=
    canonicalJson_ne (.inl (by decide))
  have hsecond : canonicalJson (payload (secondEvent "bob")) ≠
      canonicalJson (payload (secondEvent "alice")) := canonicalJson_ne (.inr (by decide))
  have hthird : canonicalJson (payload (secondEvent "bob")) ≠ canonicalJson (payload thirdEvent) :=
    canonicalJson_ne (.inl (by decide))
  simp only [sampleHashes, if_neg hfirst, if_neg hsecond, if_neg hthird]

/-- An event with the hash that a digest gives. -/
def withDigest (event : AuditEvent) (digest : List UInt8) : AuditEvent :=
  { event with immutableHash := hexdigest digest }

theorem hashed_eq {event : AuditEvent} {digest : List UInt8}
    (h : sampleHashes.sha256 (canonicalJson (payload event)) = digest) :
    hashed sampleHashes event = withDigest event digest := by
  rw [hashed, contentHash, h, withDigest]

def recordedEvents : List AuditEvent :=
  [withDigest firstEvent firstDigest, withDigest (secondEvent "alice") secondDigest,
    withDigest thirdEvent thirdDigest]

/-- Three calls while the clock stands still. -/
def sampleRun : List Event :=
  [.append sampleTime "event-1" (sampleCall "site-1"),
    .append sampleTime "event-2" (sampleCall "site-2"),
    .append sampleTime "event-3" (sampleCall "site-3")]

theorem addMillisecond_sampleTick (index : Nat) (h : index + 1 < 3) :
    (sampleTick index (by omega)).addMillisecond = some (sampleTick (index + 1) h) := by
  have hlt : (sampleTick index (by omega)).microsecond + 1000 < 1000000 := by
    change 123000 + index * 1000 + 1000 < 1000000
    omega
  have hnext : 123000 + index * 1000 + 1000 = 123000 + (index + 1) * 1000 := by omega
  rw [DateTime.addMillisecond, dif_pos hlt]
  simp [sampleTick, DateTime.ofFields, hnext]

theorem recordedAt_second :
    recordedAt sampleTime (some (withDigest firstEvent firstDigest)) =
      some (sampleTick 1 (by decide)) := by
  rw [recordedAt, if_pos (by decide)]
  exact addMillisecond_sampleTick 0 (by decide)

theorem recordedAt_third :
    recordedAt sampleTime (some (withDigest (secondEvent "alice") secondDigest)) =
      some (sampleTick 2 (by decide)) := by
  rw [recordedAt, if_pos (by decide)]
  exact addMillisecond_sampleTick 1 (by decide)

/-- Every call stores its event. -/
theorem run_sampleRun : Transitions.run (step sampleHashes) [] sampleRun = some recordedEvents := by
  have hfirst : appendAudit sampleHashes [] sampleTime "event-1" (sampleCall "site-1") =
      [withDigest firstEvent firstDigest] := by
    rw [← hashed_eq sha256_firstEvent]
    exact (recorded_nil sampleHashes).appendAudit_eq rfl rfl rfl (by simp) (by simp)
  have hrecorded : Recorded sampleHashes [withDigest firstEvent firstDigest] := by
    rw [← hfirst]
    exact (recorded_nil sampleHashes).append
  have hsecond : appendAudit sampleHashes [withDigest firstEvent firstDigest] sampleTime "event-2"
      (sampleCall "site-2") =
        [withDigest firstEvent firstDigest, withDigest (secondEvent "alice") secondDigest] := by
    rw [← hashed_eq sha256_secondEvent]
    refine hrecorded.appendAudit_eq recordedAt_second rfl rfl (by decide) ?_
    intro other hother
    rw [List.mem_singleton.mp hother]
    change hexdigest firstDigest ≠ contentHash sampleHashes (secondEvent "alice")
    rw [contentHash, sha256_secondEvent]
    decide
  have hrecorded' : Recorded sampleHashes
      [withDigest firstEvent firstDigest, withDigest (secondEvent "alice") secondDigest] := by
    rw [← hsecond]
    exact hrecorded.append
  have hthird : appendAudit sampleHashes
      [withDigest firstEvent firstDigest, withDigest (secondEvent "alice") secondDigest] sampleTime
      "event-3" (sampleCall "site-3") = recordedEvents := by
    rw [recordedEvents, ← hashed_eq sha256_thirdEvent]
    refine hrecorded'.appendAudit_eq recordedAt_third rfl rfl (by decide) ?_
    intro other hother
    change other.immutableHash ≠ contentHash sampleHashes thirdEvent
    rw [contentHash, sha256_thirdEvent]
    revert other
    decide
  refine Transitions.run_cons.mpr ⟨_, congrArg some hfirst, ?_⟩
  refine Transitions.run_cons.mpr ⟨_, congrArg some hsecond, ?_⟩
  exact Transitions.run_cons.mpr ⟨_, congrArg some hthird, rfl⟩

/-- The second event with another actor. -/
def forgedEvent : AuditEvent := withDigest (secondEvent "bob") secondDigest

theorem readsAs_self {events : List AuditEvent}
    (h : events.Pairwise fun a b => a.recordedAt.number ≤ b.recordedAt.number) :
    ReadsAs events events :=
  ⟨List.Perm.refl _, h⟩

/-- The verification accepts the three events, and finds that the actor of the second one has been
changed, or that it is missing. -/
theorem auditChain_evident_actor :
    Transitions.run (step sampleHashes) [] sampleRun = some recordedEvents ∧
      (verifyAuditChain sampleHashes recordedEvents).1 = true ∧
      (verifyAuditChain sampleHashes [withDigest firstEvent firstDigest, forgedEvent,
        withDigest thirdEvent thirdDigest]).1 = false ∧
      (verifyAuditChain sampleHashes [withDigest firstEvent firstDigest,
        withDigest thirdEvent thirdDigest]).1 = false := by
  obtain ⟨store, hrun, hvalid, hchanged, hgap⟩ :=
    auditChain_valid_and_evident sampleHashes sampleRun
  rw [run_sampleRun, Option.some.injEq] at hrun
  subst hrun
  have hsecond : withDigest (secondEvent "alice") secondDigest ∈ recordedEvents :=
    List.mem_cons_of_mem _ List.mem_cons_self
  have hfields : ¬ SameFields forgedEvent (withDigest (secondEvent "alice") secondDigest) :=
    fun hfields => absurd hfields.actor (by decide)
  have htells : TellsApart sampleHashes forgedEvent
      (withDigest (secondEvent "alice") secondDigest) := by
    intro hsame
    change sampleHashes.sha256 (canonicalJson (payload (secondEvent "bob"))) =
      sampleHashes.sha256 (canonicalJson (payload (secondEvent "alice"))) at hsame
    rw [sha256_forgedEvent, sha256_secondEvent] at hsame
    revert hsame
    decide
  have hreads : ∀ actor, (withDigest (secondEvent actor) secondDigest).ReadsBack fun _ => none := by
    intro actor
    have hevent := readsBack_sampleEvent "event-2" actor "site-2" (hexdigest firstDigest)
      (sampleTick 1 (by decide))
    exact ⟨hevent.before, hevent.after⟩
  refine ⟨run_sampleRun, hvalid _ (readsAs_self (by decide)), ?_, ?_⟩
  · exact hchanged (fun _ => none) _ _ (readsAs_self (by decide)) _ hsecond forgedEvent
      (List.mem_cons_of_mem _ List.mem_cons_self) rfl hfields (hreads "alice") (hreads "bob") htells
  · exact hgap [] _ _ _ [] rfl _ (readsAs_self (by decide))

end Grouproxy.Audit
