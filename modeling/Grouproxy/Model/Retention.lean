import Grouproxy.Library.Buckets
import Grouproxy.Library.Calendar
import Grouproxy.Library.Handlers
import Grouproxy.Model.Tasks

/-! # The retention of scheduled backups

Which backups are kept, and the pass of the backup worker that removes the others. A record of the
database has its time in UTC; the other fields of a record are left out.
-/

namespace Grouproxy.Retention

open Buckets Collections DateTimes Programs Tasks

/-- A `datetime`: without a time zone, or with an offset from the UTC time that it stands for. -/
inductive Datetime where
  | naive (reading : DateTime)
  | aware (utc : DateTime) (offset : ℤ)
  deriving DecidableEq

/-- `current.astimezone(timezone.utc)`, where a time without a time zone is taken for UTC. -/
def Datetime.utc : Datetime → DateTime
  | naive reading => reading
  | aware utc _ => utc

inductive Origin where
  | manual
  | scheduled
  deriving DecidableEq

structure BackupRecord where
  backupId : String
  origin : Origin
  artifactPaths : List String
  checksum : String
  storageRef : String
  status : String
  createdAt : Datetime
  error : String
  deriving DecidableEq

/-- The time by which records are sorted and put into buckets. -/
def BackupRecord.time (record : BackupRecord) : DateTime := record.createdAt.utc

instance : Document String BackupRecord := ⟨BackupRecord.backupId⟩

def backupReadyStatuses : List String := ["verified", "rehearsed", "restored"]

/-! ## Which backups are kept -/

section Retained

variable {κ : Type} [DecidableEq κ]

def isCandidate (record : BackupRecord) : Bool :=
  record.origin = .scheduled ∧ record.storageRef ≠ "" ∧ record.status ∈ backupReadyStatuses

/-- The candidates, sorted in reverse by their times. -/
def candidates (records : List BackupRecord) : List BackupRecord :=
  newestFirst BackupRecord.time (records.filter isCandidate)

/-- The loop of `retain_distinct`. -/
def retainLoop (limit : ℤ) (bucket : DateTime → κ) :
    List BackupRecord → Finset κ → Finset String → Finset String
  | [], _, retained => retained
  | record :: records, seen, retained =>
    let key := bucket record.time
    if key ∈ seen then retainLoop limit bucket records seen retained
    else
      let seen := insert key seen
      let retained := insert record.backupId retained
      if seen.card ≥ limit then retained
      else retainLoop limit bucket records seen retained

def retainDistinct (candidates : List BackupRecord) (limit : ℤ) (bucket : DateTime → κ)
    (retained : Finset String) : Finset String :=
  if limit ≤ 0 then retained else retainLoop limit bucket candidates ∅ retained

def retainedScheduledBackupIds (records : List BackupRecord)
    (dailyDays weeklyWeeks monthlyMonths : ℤ) : Finset String :=
  let candidates := candidates records
  let retained := retainDistinct candidates dailyDays DateTime.date ∅
  let retained := retainDistinct candidates weeklyWeeks DateTime.isocalendar retained
  retainDistinct candidates monthlyMonths DateTime.yearMonth retained

end Retained

/-! ## Artifacts -/

/-- The backup directory. A function that raises an exception has no result. -/
structure Directory where
  /-- `backup_root(settings)` -/
  root : Option String
  /-- The parent and the name of `(root / reference).resolve()`. -/
  resolve : String → String → Option (String × String)
  /-- Whether removing a file raises an `OSError`. -/
  locked : String → Bool

structure AuditEvent where
  action : String
  targetId : String
  requestId : String
  storageRef : String
  checksum : String
  status : String

structure Alert where
  fingerprint : String
  detail : String
  active : Bool

structure Store where
  records : Collection BackupRecord
  tasks : Collection Task
  /-- The names of the files in the backup directory. -/
  files : List String
  audits : List AuditEvent
  alerts : List Alert

def artifactPath (directory : Directory) (record : BackupRecord) : Except TaskError String :=
  match directory.root with
  | none => .error (.other "OSError")
  | some root =>
    let reference :=
      if record.storageRef ≠ "" then record.storageRef else record.artifactPaths.headD ""
    if reference = "" then .error (.backup "backup_artifact_missing")
    else
      match directory.resolve root reference with
      | none => .error (.other "ValueError")
      | some (parent, name) =>
        if parent ≠ root ∨ name ≠ reference then
          .error (.backup "backup_artifact_path_invalid")
        else .ok name

def deleteBackupArtifact (directory : Directory) (record : BackupRecord) (s : Store) :
    Except TaskError Unit × Store :=
  match artifactPath directory record with
  | .error e => (.error e, s)
  | .ok name =>
    -- A missing file has been removed by an earlier pass.
    if name ∉ s.files then (.ok (), s)
    else if directory.locked name then (.error (.backup "backup_retention_delete_failed"), s)
    else (.ok (), { s with files := s.files.filter fun file => file ≠ name })

/-! ## The pass -/

structure Settings where
  backupRetentionDailyDays : ℤ
  backupRetentionWeeklyWeeks : ℤ
  backupRetentionMonthlyMonths : ℤ

inductive PassLabel where
  | findRecords
  | findTasks
  | save (backupId : String)
  | unlink (backupId : String)
  | audit (backupId : String)
  | delete (backupId : String)
  | alert (backupId : String)

abbrev Pass (α : Type) : Type := Prog PassLabel Store TaskError α

def save (record : BackupRecord) : Pass Unit :=
  Prog.write lostConnection (.save record.backupId) fun s =>
    { s with records := s.records.save record }

def unlinkArtifact (directory : Directory) (record : BackupRecord) : Pass Unit :=
  Prog.atomic (.other "OSError") (.unlink record.backupId) (deleteBackupArtifact directory record)

def appendAudit (event : AuditEvent) : Pass Unit :=
  Prog.write lostConnection (.audit event.targetId) fun s =>
    { s with audits := s.audits ++ [event] }

def delete (record : BackupRecord) : Pass Unit :=
  Prog.write lostConnection (.delete record.backupId) fun s =>
    { s with records := s.records.delete record.backupId }

def setBackupAlert (record : BackupRecord) (active : Bool) (detail : String) : Pass Unit :=
  Prog.tryCatch
    (Prog.write lostConnection (.alert record.backupId) fun s =>
      { s with alerts := s.alerts ++ [⟨"backup:" ++ record.backupId, detail, active⟩] })
    fun _ => return ()

/-- What the query of the pass finds. -/
def isFound (record : BackupRecord) : Bool := record.origin = .scheduled ∧ record.storageRef ≠ ""

def isActiveRestore (task : Task) : Bool := task.taskType = "backup.restore" ∧ task.active = true

/-- The record with its new status, which is saved unless an earlier pass has set it. -/
def markExpired (record : BackupRecord) : Pass BackupRecord :=
  if record.status ≠ "expired" then do
    let expired := { record with status := "expired", error := "" }
    save expired
    return expired
  else return record

/-- The code of the `BackupError` that removing the artifact raises. -/
def unlinkFailure (directory : Directory) (record : BackupRecord) : Pass (Option String) :=
  Prog.tryCatch
    (do
      unlinkArtifact directory record
      return none)
    fun
      | .backup code => return some code
      | e => throw e

/-- The record of a backup that is not kept, from its new status on. -/
def expire (directory : Directory) (record : BackupRecord) : Pass Unit := do
  let expired ← markExpired record
  match ← unlinkFailure directory expired with
  | some code =>
    save { expired with error := code }
    setBackupAlert { expired with error := code } true code
  | none =>
    appendAudit ⟨"backup.retention.delete", record.backupId,
      "backup-retention:" ++ record.backupId, record.storageRef, record.checksum, record.status⟩
    delete expired
    setBackupAlert expired false ""

/-- The body of the loop over the records. -/
def retainOrExpire (directory : Directory) (retained : Finset String) (protectedIds : List String)
    (record : BackupRecord) : Pass Unit :=
  if record.backupId ∈ retained ∨ record.backupId ∈ protectedIds then return ()
  else if record.status ∉ backupReadyStatuses ∧ record.status ≠ "expired" then return ()
  else expire directory record

def retainOrExpireAll (directory : Directory) (retained : Finset String)
    (protectedIds : List String) : List BackupRecord → Pass Unit
  | [] => return ()
  | record :: records => do
    retainOrExpire directory retained protectedIds record
    retainOrExpireAll directory retained protectedIds records

def applyRetention (settings : Settings) (directory : Directory) : Pass Unit := do
  let records ← Prog.read lostConnection .findRecords fun s => s.records.filter isFound
  let retained := retainedScheduledBackupIds records settings.backupRetentionDailyDays
    settings.backupRetentionWeeklyWeeks settings.backupRetentionMonthlyMonths
  let activeRestores ← Prog.read lostConnection .findTasks fun s => s.tasks.filter isActiveRestore
  let protectedIds := activeRestores.map fun task => task.targetId
  retainOrExpireAll directory retained protectedIds records

end Grouproxy.Retention
