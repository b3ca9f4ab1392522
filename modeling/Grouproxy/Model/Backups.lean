import Grouproxy.Library.Collection
import Grouproxy.Library.Lines
import Grouproxy.Library.TreeText
import Grouproxy.Model.Inspection

/-! # Backups

The archive of the document collections: how it is written, checked when it is read, and restored.
The archiver, the cipher, the digest and the codecs of the documents and of the manifest are
parameters. The database carries out the writes of a batch in an order of its own.
-/

namespace Grouproxy.Backups

open Text Value Encoding Lines Collections

def backupSchemaVersion : Int := 2

def supportedBackupSchemaVersions : List Int := [1, backupSchemaVersion]

def restoreBatchSize : Nat := 1000

/-- A `BackupError` with its code, or another exception. -/
inductive Failure where
  | backup (code : String)
  | other (name : String)
  deriving DecidableEq

/-- A member of an archive, with what reading it returns unless the archive is damaged. -/
structure Member where
  name : String
  isReg : Bool
  size : Nat
  content : Option Bytes
  deriving DecidableEq

/-- What `json_util.loads` makes of a line: it raises, or the value is no object with an `_id`, or
it is a document. -/
inductive Loaded (δ : Type) where
  | raises
  | value
  | document (document : δ)

/-- How a run of `openssl` ends. -/
inductive Openssl where
  | error
  | exit (status : Nat) (stdout : Bytes)

structure Libraries (δ : Type) where
  /-- The hexadecimal SHA-256 digest. -/
  sha256 : Bytes → String
  tar : List Member → Bytes
  /-- The members of an archive, unless it cannot be opened. -/
  untar : Bytes → Option (List Member)
  hasOpenssl : Bool
  openssl : (decrypt : Bool) → (key : String) → Bytes → Openssl
  /-- `json.loads`, unless it raises a `ValueError`. -/
  jsonLoads : Bytes → Option Tree
  /-- `json_util.dumps`, encoded. -/
  dumps : δ → Bytes
  /-- `json_util.loads` -/
  loads : Bytes → Loaded δ

structure Settings where
  environment : String
  backupEncryptionKey : String
  backupMemberMaxBytes : Nat
  backupArchiveMaxBytes : Nat

/-- The fields of a `BackupRecord` that reading its artifact uses. -/
structure BackupRecord where
  checksum : String
  encrypted : Bool

def memberLimit (settings : Settings) : Nat := settings.backupMemberMaxBytes

def archiveLimit (settings : Settings) : Nat :=
  max (memberLimit settings) settings.backupArchiveMaxBytes

section Crypt

variable {δ : Type} (libs : Libraries δ)

def crypt (data : Bytes) (key : String) (decrypt : Bool) : Except Failure Bytes :=
  if libs.hasOpenssl = false then .error (.backup "backup_openssl_unavailable")
  else if key = "" then .error (.backup "backup_encryption_key_missing")
  else
    match libs.openssl decrypt key data with
    | .error => .error (.backup "backup_encryption_failed")
    | .exit status stdout =>
      if status = 0 then .ok stdout
      else if decrypt then .error (.backup "backup_decryption_failed")
      else .error (.backup "backup_encryption_failed")

end Crypt

/-! ## Writing an archive -/

/-- A regular member, as `_tar_member` describes it. -/
def tarMember (name : String) (payload : Bytes) : Member where
  name := name
  isReg := true
  size := payload.length
  content := some payload

/-- `{index:08d}` -/
def paddedIndex (index : Nat) : List Char :=
  let digits := Nat.toDigits 10 index
  List.replicate (8 - digits.length) '0' ++ digits

def chunkMemberName (collectionName : String) (index : Nat) : String :=
  String.ofList ("collections/".toList ++ collectionName.toList ++ '/' :: paddedIndex index ++
    ".jsonl".toList)

/-- The entry of a chunk in the manifest. -/
structure Chunk where
  member : String
  documents : Nat
  sizeBytes : Nat
  sha256 : String

def Chunk.fields (chunk : Chunk) : List (String × Tree) :=
  [("member", .str chunk.member), ("documents", .int chunk.documents),
    ("size_bytes", .int chunk.sizeBytes), ("sha256", .str chunk.sha256)]

def Chunk.json (chunk : Chunk) : Tree := .dict chunk.fields

/-- The variables of `_write_collection_chunks`, with the members added to the archive. A hash has
been fed the bytes of the chunk, or of the whole collection. -/
structure ChunkState where
  chunkFile : Bytes
  chunkDocuments : Nat
  documentCount : Nat
  totalSize : Nat
  whole : Bytes
  chunks : List Chunk
  members : List Member

def ChunkState.empty : ChunkState := ⟨[], 0, 0, 0, [], [], []⟩

/-- The entry of a collection in the manifest. -/
structure CollectionEntry where
  documents : Nat
  sizeBytes : Nat
  sha256 : String
  chunks : List Chunk

def CollectionEntry.fields (entry : CollectionEntry) : List (String × Tree) :=
  [("documents", .int entry.documents), ("size_bytes", .int entry.sizeBytes),
    ("sha256", .str entry.sha256), ("chunks", .list (entry.chunks.map Chunk.json))]

def CollectionEntry.json (entry : CollectionEntry) : Tree := .dict entry.fields

section Write

variable {δ : Type} (libs : Libraries δ)

def documentLine (document : δ) : Bytes := terminated (libs.dumps document)

/-- The index of the next chunk is the number of the chunks before it. -/
def flushChunk (name : String) (state : ChunkState) : ChunkState :=
  if state.chunkDocuments = 0 then state
  else
    let memberName := chunkMemberName name state.chunks.length
    { state with
      chunkFile := []
      chunkDocuments := 0
      chunks := state.chunks ++ [⟨memberName, state.chunkDocuments, state.chunkFile.length,
        libs.sha256 state.chunkFile⟩]
      members := state.members ++ [tarMember memberName state.chunkFile] }

def addLine (line : Bytes) (state : ChunkState) : ChunkState :=
  { state with
    chunkFile := state.chunkFile ++ line
    chunkDocuments := state.chunkDocuments + 1
    documentCount := state.documentCount + 1
    totalSize := state.totalSize + line.length
    whole := state.whole ++ line }

def writeDocument (name : String) (memberLimit : Nat) (state : ChunkState) (document : δ) :
    Except Failure ChunkState :=
  let line := documentLine libs document
  if memberLimit < line.length then .error (.backup "backup_document_too_large")
  else if state.chunkDocuments ≠ 0 ∧ memberLimit < state.chunkFile.length + line.length then
    .ok (addLine line (flushChunk libs name state))
  else .ok (addLine line state)

/-- An empty collection has one empty member. -/
def finishChunks (name : String) (state : ChunkState) : ChunkState :=
  let state := flushChunk libs name state
  if state.chunks = [] then
    { state with
      chunks := [⟨chunkMemberName name 0, 0, 0, libs.sha256 []⟩]
      members := state.members ++ [tarMember (chunkMemberName name 0) []] }
  else state

/-- The documents come in the order of their identifiers. -/
def writeCollectionChunks (name : String) (memberLimit : Nat) (documents : List δ) :
    Except Failure (CollectionEntry × List Member) := do
  let state ← documents.foldlM (writeDocument libs name memberLimit) ChunkState.empty
  let state := finishChunks libs name state
  return (⟨state.documentCount, state.totalSize, libs.sha256 state.whole, state.chunks⟩,
    state.members)

variable {κ : Type} [LinearOrder κ] [Document κ δ]

/-- `collection.find({}).sort("_id", 1)` -/
def sortedDocuments (collection : Collection δ) : List δ :=
  collection.docs.insertionSort fun a b => Document.key a ≤ Document.key b

/-- The entries of the collections written so far, and the members. -/
abbrev Written : Type := List (String × CollectionEntry) × List Member

def writeCollection (memberLimit : Nat) (written : Written) (c : String × Collection δ) :
    Except Failure Written :=
  if c.1 ∈ written.1.map Prod.fst then .error (.backup "backup_duplicate_collection")
  else do
    let (entry, members) ← writeCollectionChunks libs c.1 memberLimit (sortedDocuments c.2)
    return (written.1 ++ [(c.1, entry)], written.2 ++ members)

def manifestJson (scope createdAt : String) (collections : List (String × CollectionEntry)) : Tree :=
  .dict [("schema_version", .int backupSchemaVersion), ("scope", .str scope),
    ("created_at", .str createdAt),
    ("collections", .dict (collections.map fun c => (c.1, c.2.json)))]

def manifestPayload (manifest : Tree) : Bytes := bytesOf (String.ofList manifest.dumps)

def archiveMembers (scope createdAt : String) (written : Written) : List Member :=
  written.2 ++ [tarMember "manifest.json"
    (manifestPayload (manifestJson scope createdAt written.1))]

def archiveBytes (settings : Settings) (scope createdAt : String)
    (collections : List (String × Collection δ)) : Except Failure (Bytes × Tree) := do
  let written ← collections.foldlM (writeCollection libs (memberLimit settings)) ([], [])
  return (libs.tar (archiveMembers scope createdAt written), manifestJson scope createdAt written.1)

/-- What is stored, and what the record keeps of it. -/
structure BackupArtifact where
  output : Bytes
  record : BackupRecord
  manifest : Tree

def createBackupArtifact (settings : Settings) (scope createdAt : String)
    (collections : List (String × Collection δ)) : Except Failure BackupArtifact :=
  if scope ≠ "control_plane" then .error (.backup "backup_scope_not_supported")
  else if settings.environment ∉ ["development", "test"] ∧ settings.backupEncryptionKey = "" then
    .error (.backup "backup_encryption_required")
  else do
    let (archive, manifest) ← archiveBytes libs settings scope createdAt collections
    let encrypted := decide (settings.backupEncryptionKey ≠ "")
    let output ← if encrypted then crypt libs archive settings.backupEncryptionKey false
      else .ok archive
    return ⟨output, ⟨libs.sha256 output, encrypted⟩, manifest⟩

end Write

/-! ## Reading an archive -/

def collectionNameFromMember (memberName : String) : Option String :=
  let cs := memberName.toList
  if "collections/".toList <+: cs ∧ ".jsonl".toList <:+ cs then
    match (cs.drop "collections/".toList.length).splitOn '/' with
    | [part] =>
      let name := part.take (part.length - ".jsonl".toList.length)
      if name = [] then none else some (String.ofList name)
    | [name, chunk] =>
      let chunkIndex := chunk.take (chunk.length - ".jsonl".toList.length)
      if name ≠ [] ∧ ".jsonl".toList <:+ chunk ∧ chunkIndex.length = 8 ∧
          chunkIndex.all (fun c => (Inspection.digit? c).isSome) then
        some (String.ofList name)
      else none
    | _ => none
  else none

/-- `isinstance(value, int)`, with its value. -/
def asInt? : Tree → Option Int
  | .int n => some n
  | .bool b => some (if b then 1 else 0)
  | _ => none

/-- `value == n` -/
def equalsInt (value : Tree) (n : Int) : Bool :=
  match value with
  | .float x => x.toInt? == some n
  | _ => asInt? value == some n

/-- `value == text` -/
def equalsText (value : Tree) (text : String) : Bool :=
  match value with
  | .str s => s == text
  | _ => false

def validateCollectionMetadata (metadata : Tree) (documents sizeBytes : Nat) (digest : String) :
    Except Failure Unit :=
  match metadata with
  | .dict fields =>
    match asInt? (Value.Tree.get fields "documents") with
    | none => .error (.backup "backup_manifest_invalid")
    | some expected =>
      if expected < 0 then .error (.backup "backup_manifest_invalid")
      else if expected ≠ documents then .error (.backup "backup_collection_count_mismatch")
      else if equalsInt (Value.Tree.get fields "size_bytes") sizeBytes = false then
        .error (.backup "backup_collection_size_mismatch")
      else if equalsText (Value.Tree.get fields "sha256") digest = false then
        .error (.backup "backup_collection_checksum_mismatch")
      else .ok ()
  | _ => .error (.backup "backup_manifest_invalid")

/-- The number of documents in a member. -/
def countDocuments (content : Bytes) : Nat := ((splitlines content).filter (· ≠ [])).length

abbrev Files : Type := List (String × Bytes)

/-- `set(files) != expected_members` -/
def sameMembers (files : Files) (expectedMembers : List String) : Bool :=
  (files.all fun file => decide (file.1 ∈ expectedMembers)) &&
    expectedMembers.all fun name => decide (name ∈ files.map Prod.fst)

/-- The members of each collection. -/
abbrev MembersByCollection : Type := List (String × List String)

section Read

variable {δ : Type} (libs : Libraries δ)

def isCollectionName (name : String) : Bool := name != "" && decide ('/' ∉ name.toList)

/-- The expected members and the members of each collection so far. -/
abbrev Checked : Type := List String × MembersByCollection

def validateV1Collection (files : Files) (checked : Checked) (c : String × Tree) :
    Except Failure Checked :=
  if isCollectionName c.1 = false then .error (.backup "backup_manifest_invalid")
  else
    let memberName := String.ofList ("collections/".toList ++ c.1.toList ++ ".jsonl".toList)
    match files.lookup memberName with
    | none => .error (.backup "backup_collection_missing")
    | some content => do
      validateCollectionMetadata c.2 (countDocuments content) content.length (libs.sha256 content)
      return (checked.1 ++ [memberName], checked.2 ++ [(c.1, [memberName])])

/-- The variables of the loop over the chunks of a collection; the hash of the collection has been
fed `content`. -/
structure ChunkCheck where
  expectedMembers : List String
  memberNames : List String
  content : Bytes
  collectionDocuments : Nat

def validateChunk (files : Files) (name : String) (check : ChunkCheck) (chunkMetadata : Tree) :
    Except Failure ChunkCheck :=
  match chunkMetadata with
  | .dict fields =>
    let memberName := chunkMemberName name check.memberNames.length
    if equalsText (Value.Tree.get fields "member") memberName = false ∨
        memberName ∈ check.expectedMembers then
      .error (.backup "backup_manifest_invalid")
    else
      match files.lookup memberName with
      | none => .error (.backup "backup_collection_missing")
      | some content => do
        let documents := countDocuments content
        validateCollectionMetadata chunkMetadata documents content.length (libs.sha256 content)
        return ⟨check.expectedMembers ++ [memberName], check.memberNames ++ [memberName],
          check.content ++ content, check.collectionDocuments + documents⟩
  | _ => .error (.backup "backup_manifest_invalid")

def validateV2Collection (files : Files) (checked : Checked) (c : String × Tree) :
    Except Failure Checked :=
  match c.2 with
  | .dict metadata =>
    if isCollectionName c.1 = false then .error (.backup "backup_manifest_invalid")
    else
      match Value.Tree.get metadata "chunks" with
      | .list (chunk :: chunks) => do
        let check ← (chunk :: chunks).foldlM (validateChunk libs files c.1) ⟨checked.1, [], [], 0⟩
        validateCollectionMetadata c.2 check.collectionDocuments check.content.length
          (libs.sha256 check.content)
        return (check.expectedMembers, checked.2 ++ [(c.1, check.memberNames)])
      | _ => .error (.backup "backup_manifest_invalid")
  | _ => .error (.backup "backup_manifest_invalid")

/-- `_validate_v1_archive` or `_validate_v2_archive`, by the check of a collection. -/
def validateArchive
    (validateCollection : Files → Checked → String × Tree → Except Failure Checked)
    (collectionManifest : List (String × Tree)) (files : Files) :
    Except Failure MembersByCollection := do
  let checked ← collectionManifest.foldlM (validateCollection files) ([], [])
  if sameMembers files checked.1 = false then throw (.backup "backup_collection_set_mismatch")
  return checked.2

/-- The files and the total size so far. -/
def readMember (memberLimit archiveLimit : Nat) (read : Files × Nat) (member : Member) :
    Except Failure (Files × Nat) :=
  let isManifest := member.name == "manifest.json"
  let isCollection := (collectionNameFromMember member.name).isSome
  if member.isReg = false ∨ (isManifest || isCollection) = false then
    .error (.backup "backup_member_invalid")
  else if member.name ∈ read.1.map Prod.fst then .error (.backup "backup_member_duplicate")
  else if memberLimit < member.size then .error (.backup "backup_member_too_large")
  else if archiveLimit < read.2 + member.size then .error (.backup "backup_archive_too_large")
  else
    match member.content with
    | none => .error (.backup "backup_archive_invalid")
    | some content =>
      let content := content.take (memberLimit + 1)
      if memberLimit < content.length then .error (.backup "backup_member_too_large")
      else .ok (read.1 ++ [(member.name, content)], read.2 + member.size)

/-- The bytes of the archive in an artifact. -/
def openArtifact (settings : Settings) (record : BackupRecord) (artifact : Option Bytes) :
    Except Failure Bytes :=
  match artifact with
  | none => .error (.backup "backup_artifact_missing")
  | some payload =>
    if record.checksum ≠ "" ∧ libs.sha256 payload ≠ record.checksum then
      .error (.backup "backup_checksum_mismatch")
    else if record.encrypted then crypt libs payload settings.backupEncryptionKey true
    else .ok payload

def readFiles (settings : Settings) (payload : Bytes) : Except Failure Files :=
  match libs.untar payload with
  | none => .error (.backup "backup_archive_invalid")
  | some members => do
    let read ← members.foldlM (readMember (memberLimit settings) (archiveLimit settings)) ([], 0)
    return read.1

/-- The schema version and the collections of a manifest. -/
def readManifest (manifest : Tree) : Except Failure (Int × List (String × Tree)) :=
  match manifest with
  | .dict fields =>
    match asInt? (Value.Tree.get fields "schema_version") with
    | none => .error (.backup "backup_manifest_invalid")
    | some version =>
      if version ∉ supportedBackupSchemaVersions then .error (.backup "backup_manifest_invalid")
      else
        match Value.Tree.get fields "collections" with
        | .dict collections => .ok (version, collections)
        | _ => .error (.backup "backup_manifest_invalid")
  | _ => .error (.backup "backup_manifest_invalid")

/-- An accepted archive. -/
structure Archive where
  manifest : Tree
  files : Files
  members : MembersByCollection

def readArchive (settings : Settings) (record : BackupRecord) (artifact : Option Bytes) :
    Except Failure Archive := do
  let payload ← openArtifact libs settings record artifact
  let read ← readFiles libs settings payload
  match read.lookup "manifest.json" with
  | none => throw (.backup "backup_manifest_invalid")
  | some text =>
    match libs.jsonLoads text with
    | none => throw (.backup "backup_manifest_invalid")
    | some manifest =>
      let files := read.filter fun file => file.1 ≠ "manifest.json"
      let (version, collections) ← readManifest manifest
      let members ← if version = 1 then validateArchive (validateV1Collection libs) collections files
        else validateArchive (validateV2Collection libs) collections files
      return ⟨manifest, files, members⟩

end Read

/-! ## Restoring an archive -/

/-- `DOCUMENT_MODELS`: a collection has the name of its class. -/
def documentModels : List String :=
  ["AdminUser", "SystemSettings", "AuthVerificationChallenge", "ManagementSession", "Site", "Node",
    "SourceBlacklist", "NetworkGroup", "AccessControlRule", "AccessControlSet",
    "SubscriptionSource", "SubscriptionVersion", "SiteSubscription", "DesiredRelease", "AgentAck",
    "ConfigDraft", "ConfigRelease", "Task", "HeartbeatLatest", "HeartbeatSample", "AuditEvent",
    "AccessLog", "ConnectionSnapshot", "ProxyConfigSnapshot", "ProxyQualitySample", "ProbeHistory",
    "ProbeCircuit", "TelemetryBatch", "TelemetryCursor", "Alert", "BackupRecord"]

def taskCollectionName : String := "task"

def backupCollectionName : String := "backup_record"

section Restore

variable {κ δ : Type} [DecidableEq κ] [Document κ δ]

abbrev Database (κ δ : Type) [Document κ δ] : Type := String → Collection δ

/-- A document that takes the place of the stored one with its `_id`. -/
structure Write (δ : Type) where
  collection : String
  document : δ
  deriving DecidableEq

def Database.write (db : Database κ δ) (w : Write δ) : Database κ δ :=
  Function.update db w.collection ((db w.collection).save w.document)

/-- The database after a list of writes. -/
def Database.after (db : Database κ δ) (writes : List (Write δ)) : Database κ δ :=
  writes.foldl Database.write db

/-- The server carries out the operations of an unordered batch in its own order; when it refuses
one, the call raises an exception after some of the others. -/
structure Server (κ δ : Type) [Document κ δ] where
  accepts : Database κ δ → String → List δ → Bool
  performs : Database κ δ → String → List δ → List δ
  perm : ∀ db name operations, accepts db name operations = true →
    (performs db name operations).Perm operations

structure Summary where
  mode : String
  collections : Nat
  documents : Nat
  applied : Nat
  skipped : List String
  manifestScope : Tree

/-- What a restore has done: the writes, in the order of the server, and the counters. -/
structure Progress (δ : Type) where
  writes : List (Write δ)
  documents : Nat
  applied : Nat
  skipped : List String

variable (libs : Libraries δ) (server : Server κ δ) (db : Database κ δ)

def applyRestoreBatch (collection : String) (operations : List δ) (progress : Progress δ) :
    Progress δ × Except Failure Unit :=
  let found := db.after progress.writes
  let writes := progress.writes ++
    (server.performs found collection operations).map (Write.mk collection)
  if server.accepts found collection operations then
    ({ progress with writes := writes, applied := progress.applied + operations.length }, .ok ())
  else ({ progress with writes := writes }, .error (.other "BulkWriteError"))

/-- The loop over the lines of a collection; `operations` are those not yet written. -/
def restoreLines (collection : String) (shouldApply : Bool) :
    List δ → Progress δ → List Bytes → Progress δ × Except Failure Unit
  | operations, progress, [] =>
    if operations = [] then (progress, .ok ())
    else applyRestoreBatch server db collection operations progress
  | operations, progress, line :: lines =>
    if line = [] then restoreLines collection shouldApply operations progress lines
    else
      match libs.loads line with
      | .raises => (progress, .error (.other "ValueError"))
      | .value => (progress, .error (.backup "backup_document_invalid"))
      | .document document =>
        let progress := { progress with documents := progress.documents + 1 }
        if shouldApply then
          let operations := operations ++ [document]
          if restoreBatchSize ≤ operations.length then
            match applyRestoreBatch server db collection operations progress with
            | (progress, .ok ()) => restoreLines collection shouldApply [] progress lines
            | (progress, .error e) => (progress, .error e)
          else restoreLines collection shouldApply operations progress lines
        else restoreLines collection shouldApply operations progress lines

/-- The lines of the members of a collection, in order. -/
def memberLines (files : Files) (memberNames : List String) : List Bytes :=
  memberNames.flatMap fun name => splitlines ((files.lookup name).getD [])

def shouldApply (applyChanges : Bool) (collection : String) : Bool :=
  applyChanges && decide (collection ∉ [taskCollectionName, backupCollectionName])

def restoreCollection (files : Files) (applyChanges : Bool) (progress : Progress δ)
    (c : String × List String) : Progress δ × Except Failure Unit :=
  if c.1 ∉ documentModels then (progress, .error (.backup "backup_collection_unknown"))
  else
    let apply := shouldApply applyChanges c.1
    let skipped := if applyChanges ∧ apply = false then progress.skipped ++ [c.1]
      else progress.skipped
    restoreLines libs server db c.1 apply [] { progress with skipped := skipped }
      (memberLines files c.2)

def restoreCollections (files : Files) (applyChanges : Bool) :
    Progress δ → MembersByCollection → Progress δ × Except Failure Unit
  | progress, [] => (progress, .ok ())
  | progress, c :: members =>
    match restoreCollection libs server db files applyChanges progress c with
    | (progress, .ok ()) => restoreCollections files applyChanges progress members
    | (progress, .error e) => (progress, .error e)

/-- `sorted(members_by_collection.items())` -/
def sortedMembers (members : MembersByCollection) : MembersByCollection :=
  members.insertionSort fun a b => codePointLe a.1 b.1 = true

def scopeOf (manifest : Tree) : Tree :=
  match manifest with
  | .dict fields => (Value.Tree.get? fields "scope").getD (.str "")
  | _ => .str ""

/-- What follows `_read_archive`. -/
def restoreArchive (archive : Archive) (applyChanges : Bool) :
    List (Write δ) × Except Failure Summary :=
  match restoreCollections libs server db archive.files applyChanges ⟨[], 0, 0, []⟩
      (sortedMembers archive.members) with
  | (progress, .error e) => (progress.writes, .error e)
  | (progress, .ok ()) =>
    (progress.writes, .ok
      { mode := if applyChanges then "restore" else "rehearsal"
        collections := archive.members.length
        documents := progress.documents
        applied := progress.applied
        skipped := progress.skipped
        manifestScope := scopeOf archive.manifest })

/-- The writes that a restore makes, and its answer. -/
def restoreBackup (settings : Settings) (record : BackupRecord) (artifact : Option Bytes)
    (applyChanges : Bool) : List (Write δ) × Except Failure Summary :=
  match readArchive libs settings record artifact with
  | .error e => ([], .error e)
  | .ok archive => restoreArchive libs server db archive applyChanges

end Restore

end Grouproxy.Backups
