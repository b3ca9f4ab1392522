import Mathlib.Data.List.Nodup
import Mathlib.Data.List.Sort
import Grouproxy.Library.Eviction
import Grouproxy.Library.Lines

/-! # The monitor's telemetry spool

Batches that could not be sent are kept as files in one directory, whose size is bounded. The
answers of the file system and of the backend to the steps of an operation are parameters of the
operation.
-/

namespace Grouproxy.Spool

open Lines

/-! ## The directory -/

/-- A file with its bytes, or a directory with the size of the files under it. -/
inductive Content where
  | file (bytes : Bytes)
  | directory (size : ℕ)
  deriving DecidableEq

structure Entry where
  name : String
  content : Content
  deriving DecidableEq

def Entry.size (entry : Entry) : ℕ :=
  match entry.content with
  | .file bytes => bytes.length
  | .directory size => size

def Entry.isDir (entry : Entry) : Bool :=
  match entry.content with
  | .file _ => false
  | .directory _ => true

@[ext] structure Dir where
  entries : List Entry
  nodup : (entries.map Entry.name).Nodup

def emptyDir : Dir := ⟨[], List.nodup_nil⟩

def Dir.remove (dir : Dir) (name : String) : Dir where
  entries := dir.entries.filter fun e => decide (e.name ≠ name)
  nodup := dir.nodup.sublist (List.filter_sublist.map Entry.name)

/-- The directory with a file, which takes the place of an entry with its name. -/
def Dir.put (dir : Dir) (name : String) (bytes : Bytes) : Dir where
  entries := (dir.remove name).entries ++ [⟨name, .file bytes⟩]
  nodup := by
    rw [List.map_append, List.map_singleton]
    apply (dir.remove name).nodup.append (List.nodup_singleton _)
    simp [Dir.remove]

def directorySize (dir : Dir) : ℕ := Eviction.total Entry.size dir.entries

def hasSuffix (name suffix : String) : Bool := suffix.toList.isSuffixOf name.toList

/-- What the operations take for a file of the spool. -/
def Entry.isSpoolFile (entry : Entry) : Bool := !entry.isDir && hasSuffix entry.name ".json"

/-! ## Batches -/

structure SpoolEnvelope where
  kind : String
  priority : ℤ
  createdAt : ℤ
  payload : Bytes

/-- `encoding/json` on payloads and envelopes. -/
structure Libraries (Payload : Type) where
  marshal : Payload → Option Bytes
  marshalEnvelope : SpoolEnvelope → Option Bytes
  unmarshalEnvelope : Bytes → Option SpoolEnvelope
  /-- Whether the bytes are a JSON object. -/
  isObject : Bytes → Bool

/-- How a batch is written once there is room for it. A write that fails leaves a part of the
envelope in the temporary file. -/
inductive WriteOutcome where
  | createTempFails
  | fails (tempName : String) (written : ℕ)
  | renamed

/-- What the file system and the backend answer during an operation. -/
structure Outcomes where
  mkdirFails : Bool
  readDirFails : Bool
  removalFails : String → Bool
  readFails : String → Bool
  sendFails : String → Bool
  write : WriteOutcome

inductive SpoolError where
  | marshal
  | mkdir
  | telemetrySpoolFull
  | write
  deriving DecidableEq

/-- `%020d` -/
def paddedTime (nanos : ℕ) : List Char :=
  let digits := Nat.toDigits 10 nanos
  List.replicate (20 - digits.length) '0' ++ digits

/-- `fmt.Sprintf("%d-%020d-%s.json", priority, time.Now().UnixNano(), kind)` -/
def spoolName (priority : ℤ) (nanos : ℕ) (kind : String) : String :=
  String.ofList ((toString priority).toList ++ '-' :: paddedTime nanos ++ '-' :: kind.toList ++
    ".json".toList)

/-! ## Eviction -/

structure SpoolFile where
  path : String
  priority : ℕ
  size : ℕ
  deriving DecidableEq

def spoolFile (entry : Entry) : SpoolFile where
  path := entry.name
  priority := if "0-".toList.isPrefixOf entry.name.toList then 0 else 1
  size := entry.size

/-- The order of eviction: sampled data first, and by path. -/
def evictsBefore (f g : SpoolFile) : Bool :=
  if f.priority ≠ g.priority then decide (g.priority < f.priority) else decide (f.path < g.path)

def spoolFiles (dir : Dir) : List SpoolFile :=
  ((dir.entries.filter Entry.isSpoolFile).map spoolFile).insertionSort fun f g =>
    evictsBefore g f = false

/-- The loop over the files, with the size that it keeps account of. -/
def trimFiles (maxBytes required : ℤ) (removalFails : String → Bool) :
    Dir → ℤ → List SpoolFile → Dir
  | dir, _, [] => dir
  | dir, current, file :: files =>
    if current + required ≤ maxBytes then dir
    else if removalFails file.path then trimFiles maxBytes required removalFails dir current files
    else
      trimFiles maxBytes required removalFails (dir.remove file.path) (current - file.size) files

def trimSpool (maxBytes : ℕ) (outcomes : Outcomes) (dir : Dir) (required : ℕ) : Dir :=
  if outcomes.readDirFails then dir
  else trimFiles maxBytes required outcomes.removalFails dir (directorySize dir) (spoolFiles dir)

/-! ## Operations -/

/-- The eviction of `enqueueSpool`. -/
def makeRoom (maxBytes : ℕ) (outcomes : Outcomes) (dir : Dir) (required : ℕ) : Dir :=
  if maxBytes < required + directorySize dir then trimSpool maxBytes outcomes dir required else dir

/-- The temporary file is written and takes its name in the spool, or it is removed. -/
def writeBatch (outcomes : Outcomes) (dir : Dir) (name : String) (envelope : Bytes) :
    Except SpoolError Unit × Dir :=
  match outcomes.write with
  | .createTempFails => (.error .write, dir)
  | .fails tempName written =>
    if outcomes.removalFails tempName then
      (.error .write, dir.put tempName (envelope.take written))
    else (.error .write, dir)
  | .renamed => (.ok (), dir.put name envelope)

def enqueueEnvelope (maxBytes : ℕ) (outcomes : Outcomes) (dir : Dir) (name : String)
    (envelope : Bytes) : Except SpoolError Unit × Dir :=
  if outcomes.mkdirFails then (.error .mkdir, dir)
  else
    let room := makeRoom maxBytes outcomes dir envelope.length
    if maxBytes < envelope.length + directorySize room then (.error .telemetrySpoolFull, room)
    else writeBatch outcomes room name envelope

variable {Payload : Type}

/-- What becomes the content of a spool file, at a reading of the clock. -/
def marshalBatch (libs : Libraries Payload) (kind : String) (payload : Payload) (priority : ℤ)
    (nanos : ℕ) : Option Bytes := do
  let data ← libs.marshal payload
  libs.marshalEnvelope ⟨kind, priority, nanos, data⟩

def enqueueSpool (libs : Libraries Payload) (maxBytes : ℕ) (outcomes : Outcomes) (dir : Dir)
    (kind : String) (payload : Payload) (priority : ℤ) (nanos : ℕ) :
    Except SpoolError Unit × Dir :=
  match marshalBatch libs kind payload priority nanos with
  | none => (.error .marshal, dir)
  | some envelope =>
    enqueueEnvelope maxBytes outcomes dir (spoolName priority nanos kind) envelope

/-- `os.Remove`, whose error is ignored. -/
def tryRemove (outcomes : Outcomes) (dir : Dir) (name : String) : Dir :=
  if outcomes.removalFails name then dir else dir.remove name

/-- What becomes of a file that is read. -/
inductive Replay where
  | discard
  | send

def replayFile (libs : Libraries Payload) (bytes : Bytes) : Replay :=
  match libs.unmarshalEnvelope bytes with
  | none => .discard
  | some envelope =>
    if libs.isObject envelope.payload then
      if envelope.kind ∈ ["logs", "connections", "proxy_config", "probes"] then .send
      else .discard
    else .discard

/-- The loop over the names of the spool files. -/
def replayFiles (libs : Libraries Payload) (outcomes : Outcomes) : Dir → List Entry → Dir
  | dir, [] => dir
  | dir, entry :: entries =>
    match entry.content with
    | .directory _ => replayFiles libs outcomes dir entries
    | .file bytes =>
      if outcomes.readFails entry.name then replayFiles libs outcomes dir entries
      else
        match replayFile libs bytes with
        | .discard => replayFiles libs outcomes (tryRemove outcomes dir entry.name) entries
        | .send =>
          if outcomes.sendFails entry.name then dir
          else replayFiles libs outcomes (tryRemove outcomes dir entry.name) entries

def replaySpool (libs : Libraries Payload) (outcomes : Outcomes) (dir : Dir) : Dir :=
  if outcomes.readDirFails then dir
  else
    replayFiles libs outcomes dir
      ((dir.entries.filter Entry.isSpoolFile).insertionSort fun e f => ¬ f.name < e.name)

end Grouproxy.Spool
