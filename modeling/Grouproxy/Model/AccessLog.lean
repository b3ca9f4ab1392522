import Mathlib.Data.List.Infix
import Grouproxy.Model.Singbox
import Grouproxy.Model.Spool

/-! # The monitor's collection of access logs

A pass reads the lines that were added to the log of sing-box since the last one, and sends the
entries in them as a batch. The log grows between any two of its reads. Texts of which only some
bytes are kept are bytes.
-/

namespace Grouproxy.AccessLog

open Grouproxy.Bundle Lines Singbox Spool Text Value

/-! ## Entries -/

inductive Action where
  | allow
  | deny
  deriving DecidableEq

structure AccessLogEntry where
  ts : Int
  srcIp : Bytes
  username : Bytes
  dstHost : String
  dstPort : Int
  action : Action
  denyReason : String
  bytesUp : Int
  bytesDown : Int
  durationMs : Int

/-- What the parser takes from the standard library. -/
structure Libraries where
  /-- `json.Unmarshal` into a `map[string]any`. -/
  unmarshal : Bytes → Option Fields
  /-- `time.Parse` with `time.RFC3339Nano`. -/
  parseTime : String → Option Int
  /-- The host name of a text that `url.Parse` accepts. -/
  urlHostname : String → Option String
  sha256 : Bytes → List UInt8
  /-- `int(x)` and `int64(x)` of a `float64`. -/
  truncate : Float64 → Int

/-- `strings.ToLower`, exact for every rune whose lower case is an ASCII letter. -/
def lowerBytes : Bytes → Bytes
  | 0xe2 :: 0x84 :: 0xaa :: bytes => 0x6b :: lowerBytes bytes
  | 0xc4 :: 0xb0 :: bytes => 0x69 :: lowerBytes bytes
  | b :: bytes => (if 0x41 ≤ b ∧ b ≤ 0x5a then b + 0x20 else b) :: lowerBytes bytes
  | [] => []

def saysDenied (message : Bytes) : Bool :=
  bytesOf "deny" <:+: message ∨ bytesOf "reject" <:+: message ∨
    bytesOf "blocked" <:+: message

/-- `asInt(value)` without its second result. -/
def asInt (libs : Libraries) : Any → Int
  | .int n => n
  | .float x => libs.truncate x
  | _ => 0

def stripQuery (libs : Libraries) (value : String) : String :=
  let beforeQuery := String.ofList (value.toList.takeWhile fun c => c ≠ '?')
  match libs.urlHostname value with
  | none => beforeQuery
  | some hostname => if hostname ≠ "" then hostname else beforeQuery

/-- About one percent of the allowed requests is kept. -/
def isSampled (libs : Libraries) (line : Bytes) : Bool := (libs.sha256 line).headD 0 % 100 = 0

def entryTime (libs : Libraries) (now : Int) (raw : Fields) : Int :=
  let parse := fun value => (libs.parseTime value).getD now
  if stringValue (raw.get "timestamp") ≠ "" then parse (stringValue (raw.get "timestamp"))
  else if stringValue (raw.get "time") ≠ "" then parse (stringValue (raw.get "time"))
  else now

/-- The entry of a line that is a JSON object. -/
def jsonEntry (libs : Libraries) (now : Int) (raw : Fields) : AccessLogEntry :=
  let action := if stringValue (raw.get "action") = "deny" then Action.deny else Action.allow
  let denyReason := stringValue (raw.get "deny_reason")
  let denied := action = .allow ∧
    saysDenied (lowerBytes (bytesOf (stringValue (raw.get "message")))) = true
  { ts := entryTime libs now raw
    srcIp := bytesOf (stringValue (raw.get "src_ip"))
    username := bytesOf (stringValue (raw.get "username"))
    dstHost := stripQuery libs (stringValue (raw.get "dst_host"))
    dstPort := asInt libs (raw.get "dst_port")
    action := if denied then .deny else action
    denyReason := if denied ∧ denyReason = "" then "other" else denyReason
    bytesUp := asInt libs (raw.get "bytes_up")
    bytesDown := asInt libs (raw.get "bytes_down")
    durationMs := asInt libs (raw.get "duration_ms") }

/-- The entry of any other line. -/
def textEntry (now : Int) (line : Bytes) : AccessLogEntry :=
  let denied := saysDenied (lowerBytes line)
  { ts := now
    srcIp := []
    username := []
    dstHost := ""
    dstPort := 0
    action := if denied then .deny else .allow
    denyReason := if denied then "other" else ""
    bytesUp := 0
    bytesDown := 0
    durationMs := 0 }

/-- `strings.Join(strings.Fields(value), "")`, cut off. The text is valid UTF-8. -/
def compact (value : Bytes) (limit : ℕ) : Bytes :=
  let text := (String.fromUTF8? ⟨value.toArray⟩).getD ""
  (bytesOf (String.ofList (fieldsOf text.toList).flatten)).take limit

def parseAccessLog (libs : Libraries) (now : Int) (line : Bytes) : Option AccessLogEntry :=
  let entry :=
    match libs.unmarshal line with
    | some raw => jsonEntry libs now raw
    | none => textEntry now line
  if entry.action = .allow ∧ isSampled libs line = false then none
  else
    some { entry with
      srcIp := compact entry.srcIp 64
      username := compact entry.username 128
      dstHost := stripQuery libs entry.dstHost }

/-! ## Passes -/

structure LogBatch where
  nodeId : String
  batchId : String
  sequence : ℕ
  entries : List AccessLogEntry

structure Config where
  nodeId : String
  telemetryBatchMax : ℕ
  spoolMaxBytes : ℕ
  libs : Libraries
  spoolLibs : Spool.Libraries LogBatch
  /-- The reading of the clock when a line is parsed, by the number of the lines before it. -/
  clock : ℕ → Int

/-- The log, the part of the monitor's state that a pass uses, and the spool. -/
structure Collector where
  file : Bytes
  logOffset : ℕ
  logSequence : ℕ
  /-- The number of lines that have been parsed. -/
  parsed : ℕ
  spool : Dir

/-- What a pass finds: what is added to the log before it and before each of its reads, and what
becomes of its batch. What is added behind the last read stands there for the next pass. -/
structure Pass where
  before : Bytes
  during : List Bytes
  nanos : ℕ
  sent : Bool
  spoolNanos : ℕ
  outcomes : Outcomes

/-- `reader.ReadBytes('\\n')` at the rest of the file, and whether the end has been reached. -/
def readBytes (rest : Bytes) : Bytes × Bool :=
  if lineFeed ∈ rest then (rest.takeWhile (fun b => b ≠ lineFeed) ++ [lineFeed], false)
  else (rest, true)

def trimSuffix (line : Bytes) (b : UInt8) : Bytes :=
  if line.getLast? = some b then line.dropLast else line

/-- What the loop over the lines keeps. -/
structure Reading where
  file : Bytes
  /-- What is added to the log behind the last read. -/
  later : List Bytes
  offset : ℕ
  parsed : ℕ
  entries : List AccessLogEntry

/-- Whether the loop stops at what was read: at the end, or at a line that is not complete. -/
def stopsAt (read : Bytes × Bool) : Bool :=
  read.2 && (read.1 == [] || read.1.getLast? != some lineFeed)

theorem readBytes_of_stopsAt_eq_false {rest : Bytes} (h : stopsAt (readBytes rest) = false) :
    lineFeed ∈ rest := by
  by_contra hnot
  rw [readBytes, if_neg hnot, stopsAt, Bool.true_and, Bool.or_eq_false_iff] at h
  have hlast : rest.getLast? = some lineFeed := by simpa using h.2
  exact hnot (List.mem_of_getLast? hlast)

theorem length_readBytes_pos {rest : Bytes} (h : lineFeed ∈ rest) :
    0 < (readBytes rest).1.length := by
  rw [readBytes, if_pos h]
  simp

def readLines (config : Config) (file : Bytes) (during : List Bytes) (offset parsed : ℕ)
    (entries : List AccessLogEntry) : Reading :=
  if entries.length < config.telemetryBatchMax then
    let grown := file ++ during.headD []
    let read := readBytes (grown.drop offset)
    if _hstops : stopsAt read = true then ⟨grown, during.tail, offset, parsed, entries⟩
    else
      let line := trimSuffix (trimSuffix read.1 lineFeed) carriageReturn
      readLines config grown during.tail (offset + read.1.length) (parsed + 1)
        (entries ++ (parseAccessLog config.libs (config.clock parsed) line).toList)
  else ⟨file, during, offset, parsed, entries⟩
  termination_by file.length + during.flatten.length - offset
  decreasing_by
    have hmem : lineFeed ∈ (file ++ during.headD []).drop offset :=
      readBytes_of_stopsAt_eq_false (Bool.eq_false_iff.mpr _hstops)
    have hpos := length_readBytes_pos hmem
    have hdrop := List.length_pos_of_mem hmem
    rw [List.length_drop] at hdrop
    have hgrowth : (file ++ during.headD []).length + during.tail.flatten.length =
        file.length + during.flatten.length := by
      cases during <;> simp [Nat.add_assoc]
    omega

/-- Denied requests make a batch important. -/
def batchPriority (entries : List AccessLogEntry) : Int :=
  if entries.any fun e => e.action = .deny then 0 else 1

def batchId (nodeId : String) (sequence nanos : ℕ) : String :=
  nodeId ++ "-logs-" ++ toString sequence ++ "-" ++ toString nanos

/-- The file with what has been added to it; a cursor past its end is reset. -/
def openLog (c : Collector) (before : Bytes) : Collector :=
  let file := c.file ++ before
  { c with file := file, logOffset := if file.length < c.logOffset then 0 else c.logOffset }

def collectLogs (config : Config) (c : Collector) (pass : Pass) : Collector × Option LogBatch :=
  let c := openLog c pass.before
  let reading := readLines config c.file pass.during c.logOffset c.parsed []
  let c := { c with
    file := reading.file ++ reading.later.flatten
    logOffset := max c.logOffset reading.offset
    parsed := reading.parsed }
  if reading.entries = [] then (c, none)
  else
    let sequence := c.logSequence + 1
    let batch : LogBatch :=
      ⟨config.nodeId, batchId config.nodeId sequence pass.nanos, sequence, reading.entries⟩
    let spool :=
      if pass.sent then c.spool
      else
        (enqueueSpool config.spoolLibs config.spoolMaxBytes pass.outcomes c.spool "logs" batch
          (batchPriority reading.entries) pass.spoolNanos).2
    ({ c with logSequence := sequence, spool := spool }, some batch)

/-- The collector after passes, and their batches. -/
def collectAll (config : Config) (c : Collector) : List Pass → Collector × List LogBatch
  | [] => (c, [])
  | pass :: passes =>
    let collected := collectLogs config c pass
    let rest := collectAll config collected.1 passes
    (rest.1, collected.2.toList ++ rest.2)

end Grouproxy.AccessLog
