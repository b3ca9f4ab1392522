import Mathlib.Data.List.Dedup
import Mathlib.Data.List.Sort
import Grouproxy.Library.Transitions

/-! # The archive of connection snapshots

The worker exports the snapshots of a day into the archive file of the day and deletes them from
the collection. Times are milliseconds since the epoch. The steps of the worker are separated by
its awaits; snapshots may be inserted, an operation may fail, and the process may be restarted,
between any two of them.
-/

namespace Grouproxy.ConnectionArchive

open Transitions

structure ConnectionSnapshot where
  id : String
  nodeId : String
  siteId : String
  batchId : String
  sampledAt : Int
  activeConnections : Int
  bytesUp : Int
  bytesDown : Int
  rxBps : Int
  txBps : Int
  apiAvailable : Bool
  deriving DecidableEq

/-! ## Days -/

def dayLength : Int := 24 * 60 * 60 * 1000

/-- The UTC day of a time. -/
def utcDay (time : Int) : Int := time / dayLength

def archiveDayBounds (day : Int) : Int × Int :=
  let start := day * dayLength
  (start, start + dayLength)

def archiveCutoffDay (now : Int) : Int := utcDay (now - 7 * dayLength)

/-- The query of the export and of the deletion. -/
def inDay (day : Int) (document : ConnectionSnapshot) : Bool :=
  let (start, stop) := archiveDayBounds day
  decide (start ≤ document.sampledAt) && decide (document.sampledAt < stop)

def daysToArchive (cutoffDay : Int) (collection : List ConnectionSnapshot) : List Int :=
  let (_, cutoffEnd) := archiveDayBounds cutoffDay
  let found := (collection.filter fun document => document.sampledAt < cutoffEnd).map
    fun document => utcDay document.sampledAt
  ((found.filter fun day => day ≤ cutoffDay) ++ [cutoffDay]).dedup.insertionSort (· ≤ ·)

/-! ## The worker -/

/-- Where `run_once` stands. -/
inductive Phase where
  | idle
  | listing (cutoffDay : Int)
  | archiving (cutoffDay : Int) (targetDays : List Int)
  /-- The cursor is open; it found `opened` when it was. -/
  | exporting (cutoffDay targetDay : Int) (targetDays : List Int) (opened : List ConnectionSnapshot)
  /-- The temporary file has a line for each of `output`. -/
  | exported (cutoffDay targetDay : Int) (targetDays : List Int) (output : List ConnectionSnapshot)
  /-- The temporary file has replaced the archive file. -/
  | replaced (cutoffDay targetDay : Int) (targetDays : List Int) (output : List ConnectionSnapshot)
  deriving DecidableEq

/-- The archive file of a day has one line for each document. -/
structure World where
  collection : List ConnectionSnapshot
  files : Int → Option (List ConnectionSnapshot)
  clock : Int
  lastArchivedDay : Option Int
  phase : Phase
  /-- All snapshots that were ever inserted. -/
  inserted : List ConnectionSnapshot

def World.initial (clock : Int) : World where
  collection := []
  files _ := none
  clock := clock
  lastArchivedDay := none
  phase := .idle
  inserted := []

inductive Event where
  /-- `insert_many` -/
  | insert (documents : List ConnectionSnapshot)
  | runOnce (now : Int)
  | list
  | openCursor
  /-- The cursor is exhausted; it has returned `output`. -/
  | readCursor (output : List ConnectionSnapshot)
  | replace
  | delete
  | finish
  /-- The operation that the worker awaits fails. -/
  | fail
  | restart

/-- What a cursor on a day may return: every document that it found when it was opened, and of
those inserted since then any number. -/
def Returns (targetDay : Int) (opened collection output : List ConnectionSnapshot) : Prop :=
  (∀ document ∈ opened, document ∈ output) ∧
    (∀ document ∈ output, document ∈ collection ∧ inDay targetDay document = true) ∧
    output.Pairwise fun document other => document.sampledAt ≤ other.sampledAt

instance (targetDay : Int) (opened collection output : List ConnectionSnapshot) :
    Decidable (Returns targetDay opened collection output) :=
  inferInstanceAs (Decidable (_ ∧ _ ∧ _))

def World.deleteDay (w : World) (targetDay : Int) : List ConnectionSnapshot :=
  w.collection.filter fun document => !inDay targetDay document

def step (w : World) : Event → Option World
  | .insert documents => some { w with
      collection := w.collection ++ documents, inserted := w.inserted ++ documents }
  | .runOnce now =>
    if w.phase = .idle ∧ w.clock ≤ now then
      if w.lastArchivedDay = some (archiveCutoffDay now) then some { w with clock := now }
      else some { w with clock := now, phase := .listing (archiveCutoffDay now) }
    else none
  | .list =>
    match w.phase with
    | .listing cutoffDay =>
      some { w with phase := .archiving cutoffDay (daysToArchive cutoffDay w.collection) }
    | _ => none
  | .openCursor =>
    match w.phase with
    | .archiving cutoffDay (targetDay :: targetDays) =>
      some { w with
        phase := .exporting cutoffDay targetDay targetDays (w.collection.filter (inDay targetDay)) }
    | _ => none
  | .readCursor output =>
    match w.phase with
    | .exporting cutoffDay targetDay targetDays opened =>
      if Returns targetDay opened w.collection output then
        some { w with phase := .exported cutoffDay targetDay targetDays output }
      else none
    | _ => none
  | .replace =>
    match w.phase with
    | .exported cutoffDay targetDay targetDays output =>
      some { w with
        files := Function.update w.files targetDay (some output)
        phase := .replaced cutoffDay targetDay targetDays output }
    | _ => none
  | .delete =>
    match w.phase with
    | .replaced cutoffDay targetDay targetDays _ =>
      some { w with collection := w.deleteDay targetDay, phase := .archiving cutoffDay targetDays }
    | _ => none
  | .finish =>
    match w.phase with
    | .archiving cutoffDay [] =>
      some { w with phase := .idle, lastArchivedDay := some cutoffDay }
    | _ => none
  | .fail => if w.phase = .idle then none else some { w with phase := .idle }
  | .restart => some { w with phase := .idle, lastArchivedDay := none }

end Grouproxy.ConnectionArchive
