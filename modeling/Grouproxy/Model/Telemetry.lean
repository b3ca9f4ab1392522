import Grouproxy.Model.Store

/-! # Telemetry batches

The sequence numbers a monitor gives its batches and the backend's record of the batches it
accepted, per node and kind.
-/

namespace Grouproxy.Backend

open Programs

/-! ## The monitor -/

structure Batch where
  batchId : String
  sequence : Int
  itemCount : Nat
  deriving DecidableEq

/-- A batch with its identifier and size, or a reset of the state file. -/
inductive MonitorEvent where
  | batch (batchId : String) (itemCount : Nat)
  | reset

/-- The batches of one kind, numbered by `nextTelemetrySequence` from the counter in the state. -/
def sentBatches : Int → List MonitorEvent → List Batch
  | _, [] => []
  | counter, .batch batchId itemCount :: events =>
    ⟨batchId, counter + 1, itemCount⟩ :: sentBatches (counter + 1) events
  | _, .reset :: events => sentBatches 0 events

/-! ## The backend -/

def TelemetryBatch.isOf (nodeId kind : String) (b : TelemetryBatch) : Bool :=
  b.nodeId == nodeId && b.kind == kind

def TelemetryCursor.isOf (nodeId kind : String) (c : TelemetryCursor) : Bool :=
  c.nodeId == nodeId && c.kind == kind

def purgeTelemetryBatches (nodeId kind : String) : Handler Unit :=
  update .other fun s => { s with batches := s.batches.filter fun b => !b.isOf nodeId kind }

def newTelemetryBatch (nodeId kind : String) (b : Batch) : TelemetryBatch :=
  { nodeId := nodeId, kind := kind, batchId := b.batchId, sequence := b.sequence
    itemCount := b.itemCount }

/-- Two unique indexes: the batch identifier and the sequence, each per node and kind. -/
def TelemetryBatch.insert (b : TelemetryBatch) : Handler Unit :=
  Backend.insert .other
    (fun s => s.batches.any fun other =>
      other.isOf b.nodeId b.kind && (other.batchId == b.batchId || other.sequence == b.sequence))
    fun s => { s with batches := s.batches ++ [b] }

def TelemetryCursor.insert (c : TelemetryCursor) : Handler Unit :=
  Backend.insert .other (fun s => s.cursors.any (·.isOf c.nodeId c.kind))
    fun s => { s with cursors := s.cursors ++ [c] }

/-- `update_one` -/
def updateOne {α : Type} (selects : α → Bool) (set : α → α) : List α → List α
  | [] => []
  | a :: as => if selects a then set a :: as else a :: updateOne selects set as

/-- Moves the cursor to the batch if its last sequence qualifies. The answer is whether a
document matched. -/
def updateCursor (nodeId kind : String) (qualifies : Int → Bool) (b : Batch) : Handler Bool :=
  let selects := fun c : TelemetryCursor => c.isOf nodeId kind && qualifies c.lastSequence
  let set := fun c : TelemetryCursor =>
    { c with lastSequence := b.sequence, lastBatchId := b.batchId }
  Prog.atomic .operation .other fun s =>
    (.ok (s.cursors.any selects), { s with cursors := updateOne selects set s.cursors })

def advanceCursor (nodeId kind : String) (b : Batch) : Handler Bool :=
  updateCursor nodeId kind (fun last => last < b.sequence) b

/-- The cursor part of `_accept_telemetry_batch`: whether the sequence restarted, or nothing
when the batch is refused. -/
def reserveSequence (nodeId kind : String) (b : Batch) : Handler (Option Bool) := do
  if ← advanceCursor nodeId kind b then return some false
  if ← updateCursor nodeId kind (fun last => b.sequence < last) b then return some true
  Prog.tryCatch
    (do
      TelemetryCursor.insert ⟨nodeId, kind, b.sequence, b.batchId⟩
      return some false)
    fun
    | .duplicateKey => do return if ← advanceCursor nodeId kind b then some false else none
    | e => throw e

/-- The marker part of `_accept_telemetry_batch`. -/
def recordBatch (nodeId kind : String) (b : Batch) : Handler Bool :=
  Prog.tryCatch
    (do
      (newTelemetryBatch nodeId kind b).insert
      return true)
    fun
    | .duplicateKey => do
      let collision ← find .other fun s =>
        s.batches.find? fun other => other.isOf nodeId kind && other.sequence == b.sequence
      match collision with
      | none => return false
      | some other =>
        if other.batchId = b.batchId then return false
        purgeTelemetryBatches nodeId kind
        Prog.tryCatch
          (do
            (newTelemetryBatch nodeId kind b).insert
            return true)
          fun
          | .duplicateKey => return false
          | e => throw e
    | e => throw e

def acceptTelemetryBatch (nodeId kind : String) (b : Batch) : Handler Bool := do
  let existing ← find .other fun s =>
    s.batches.find? fun other => other.isOf nodeId kind && other.batchId == b.batchId
  if existing.isSome then return false
  match ← reserveSequence nodeId kind b with
  | none => return false
  | some sequenceRestarted =>
    if sequenceRestarted then purgeTelemetryBatches nodeId kind
    recordBatch nodeId kind b

/-- Deliveries handled one after another, with the answer to each. -/
def deliver (nodeId kind : String) : Store → List Batch → List (Batch × Except Failure Bool)
  | _, [] => []
  | s, b :: rest =>
    let answer := (acceptTelemetryBatch nodeId kind b).run s
    (b, answer.1) :: deliver nodeId kind answer.2 rest

end Grouproxy.Backend
