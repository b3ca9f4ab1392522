import Mathlib.Algebra.GroupWithZero.Nat
import Mathlib.Algebra.Order.BigOperators.Group.List
import Mathlib.Algebra.Order.Group.Nat
import Grouproxy.Library.Entries
import Grouproxy.Verification.Backups.MemberNames
import Grouproxy.Verification.Backups.Restore

/-! # What a restore promises

The live task and backup collections stay as they are, every other archived document is set, and
nothing else changes; a restore that is refused for its content changes nothing at all. Which
archives keep the promises is decided by the documents they hold and those that are stored.
-/

namespace Grouproxy.Backups

open Value Encoding Lines Collections Entries

/-- The collections of the task and of the backup record that a restore works on, under the names
of their classes. -/
def liveCollections : List String := ["Task", "BackupRecord"]

section Promises

variable {κ δ : Type} [DecidableEq κ] [Document κ δ] {libs : Libraries δ} {server : Server κ δ}
  {db : Database κ δ}

/-- The archive holds a document of a collection. -/
def Archived (libs : Libraries δ) (archive : Archive) : String → δ → Prop :=
  HoldsDocument libs archive.files archive.members

/-- What a restore of an archive promises of its writes. -/
structure Promised (libs : Libraries δ) (db : Database κ δ) (archive : Archive)
    (writes : List (Write δ)) : Prop where
  live : ∀ name ∈ liveCollections, Untouched db writes name
  set : ∀ name ∉ liveCollections, ∀ document, Archived libs archive name document →
    (db.after writes name).get? (Document.key document) = some document
  rest : ∀ name k, (∀ document, Archived libs archive name document → Document.key document ≠ k) →
    (db.after writes name).get? k = (db name).get? k
  /-- The same documents in other members, restored by another server, give the same database. -/
  independent : ∀ (other : Archive) (server : Server κ δ) writes' summary,
    (∀ name document, Archived libs other name document ↔ Archived libs archive name document) →
    restoreArchive libs server db other true = (writes', .ok summary) →
    ∀ name k, (db.after writes' name).get? k = (db.after writes name).get? k

/-- The live collections already have what the archive holds of them, and no other collection has
two documents under one identifier in the archive. -/
structure Undisputed (libs : Libraries δ) (db : Database κ δ) (archive : Archive) : Prop where
  live : ∀ name ∈ liveCollections, ∀ document, Archived libs archive name document →
    document ∈ db name
  unique : ∀ name ∉ liveCollections, ∀ document other, Archived libs archive name document →
    Archived libs archive name other → Document.key other = Document.key document →
    other = document

theorem mem_sortedMembers {members : MembersByCollection} {c : String × List String} :
    c ∈ sortedMembers members ↔ c ∈ members :=
  (List.perm_insertionSort _ _).mem_iff

/-- A restore to the end has written the documents of the archive. -/
theorem mem_writes_of_restored {archive : Archive} {writes : List (Write δ)} {summary : Summary}
    (h : restoreArchive libs server db archive true = (writes, .ok summary)) (w : Write δ) :
    w ∈ writes ↔ Archived libs archive w.collection w.document := by
  obtain ⟨written, hwrites, hend⟩ := restoreCollections_writes libs server db archive.files
    ⟨[], 0, 0, []⟩ (sortedMembers archive.members)
  rw [restoreArchive] at h
  split at h
  · cases h
  · rename_i progress hrun
    rw [hrun] at hwrites hend
    cases h
    rw [List.nil_append] at hwrites
    rw [hwrites]
    cases hend with
    | restored same =>
        rw [same]
        constructor
        · rintro ⟨names, hmem, hdocument⟩
          exact ⟨names, mem_sortedMembers.mp hmem, hdocument⟩
        · rintro ⟨names, hmem, hdocument⟩
          exact ⟨names, mem_sortedMembers.mpr hmem, hdocument⟩

/-- A restore that is refused for its content has written what was due before. -/
theorem mem_writes_of_refused {archive : Archive} {writes : List (Write δ)} {code : String}
    (h : restoreArchive libs server db archive true = (writes, .error (.backup code)))
    (w : Write δ) :
    w ∈ writes ↔ w ∈ appliedBefore libs archive.files (sortedMembers archive.members) := by
  obtain ⟨written, hwrites, hend⟩ := restoreCollections_writes libs server db archive.files
    ⟨[], 0, 0, []⟩ (sortedMembers archive.members)
  rw [restoreArchive] at h
  split at h
  · rename_i progress e hrun
    rw [hrun] at hwrites hend
    cases h
    rw [List.nil_append] at hwrites
    rw [hwrites]
    cases hend with
    | refused _ same => exact same w
  · cases h

/-- A document of another collection is set to the one that the archive holds. -/
theorem get?_restored {archive : Archive} {writes : List (Write δ)}
    (hwrites : ∀ w, w ∈ writes ↔ Archived libs archive w.collection w.document) {name : String}
    {document : δ} (hdocument : Archived libs archive name document)
    (hunique : ∀ other, Archived libs archive name other →
      Document.key other = Document.key document → other = document) :
    (db.after writes name).get? (Document.key document) = some document := by
  apply get?_after_of_agree ((hwrites ⟨name, document⟩).mpr hdocument)
  rintro w hw rfl hkey
  exact hunique w.document ((hwrites w).mp hw) hkey

theorem get?_unarchived {archive : Archive} {writes : List (Write δ)}
    (hwrites : ∀ w, w ∈ writes ↔ Archived libs archive w.collection w.document) {name : String}
    {k : κ} (h : ∀ document, Archived libs archive name document → Document.key document ≠ k) :
    (db.after writes name).get? k = (db name).get? k := by
  apply get?_after_of_unwritten
  rintro w hw rfl
  exact h w.document ((hwrites w).mp hw)

theorem untouched_restored {archive : Archive} {writes : List (Write δ)}
    (hwrites : ∀ w, w ∈ writes ↔ Archived libs archive w.collection w.document) {name : String} :
    Untouched db writes name ↔ ∀ document, Archived libs archive name document → document ∈ db name := by
  rw [untouched_iff]
  constructor
  · intro h document hdocument
    exact h ⟨name, document⟩ ((hwrites ⟨name, document⟩).mpr hdocument) rfl
  · rintro h w hw rfl
    exact h w.document ((hwrites w).mp hw)

/-- Undisputed archives with the same documents lead to the same database. -/
theorem get?_independent {archive : Archive} {writes writes' : List (Write δ)}
    (hwrites : ∀ w, w ∈ writes ↔ Archived libs archive w.collection w.document)
    (hwrites' : ∀ w, w ∈ writes' ↔ Archived libs archive w.collection w.document)
    (h : Undisputed libs db archive) (name : String) (k : κ) :
    (db.after writes' name).get? k = (db.after writes name).get? k := by
  by_cases hlive : name ∈ liveCollections
  · have hsame := (untouched_restored hwrites).mpr (h.live name hlive) writes (List.prefix_refl _)
    have hsame' := (untouched_restored hwrites').mpr (h.live name hlive) writes' (List.prefix_refl _)
    rw [hsame, hsame']
  · by_cases hmem : ∃ document, Archived libs archive name document ∧ Document.key document = k
    · obtain ⟨document, hdocument, rfl⟩ := hmem
      have hunique := fun other hother => h.unique name hlive document other hdocument hother
      rw [get?_restored hwrites hdocument hunique, get?_restored hwrites' hdocument hunique]
    · have hnone : ∀ document, Archived libs archive name document → Document.key document ≠ k :=
        fun document hdocument hkey => hmem ⟨document, hdocument, hkey⟩
      rw [get?_unarchived hwrites hnone, get?_unarchived hwrites' hnone]

/-- Only an accepted archive is written. -/
theorem accepted_of_writes (libs : Libraries δ) (server : Server κ δ) (db : Database κ δ)
    {settings : Settings} {record : BackupRecord} {artifact : Option Bytes} {apply : Bool} (h : (restoreBackup libs server db settings record artifact apply).1 ≠ []) :
    ∃ archive, readArchive libs settings record artifact = .ok archive := by
  cases haccepted : readArchive libs settings record artifact with
  | error e =>
      rw [restoreBackup, haccepted] at h
      exact absurd rfl h
  | ok archive => exact ⟨archive, rfl⟩

/-- A restore to the end keeps its promises exactly if the archive is undisputed. -/
theorem promised_iff_undisputed {archive : Archive} {writes : List (Write δ)} {summary : Summary}
    (hrun : restoreArchive libs server db archive true = (writes, .ok summary)) :
    Promised libs db archive writes ↔ Undisputed libs db archive := by
  have hwrites := mem_writes_of_restored hrun
  constructor
  · intro h
    constructor
    · intro name hlive
      exact (untouched_restored hwrites).mp (h.live name hlive)
    · intro name hlive document other hdocument hother hkey
      have hset := h.set name hlive document hdocument
      rw [← hkey, h.set name hlive other hother, Option.some.injEq] at hset
      exact hset
  · intro h
    constructor
    · intro name hlive
      exact (untouched_restored hwrites).mpr (h.live name hlive)
    · intro name hlive document hdocument
      exact get?_restored hwrites hdocument fun other hother =>
        h.unique name hlive document other hdocument hother
    · intro name k hnone
      exact get?_unarchived hwrites hnone
    · intro other server' writes' summary' hsame hother
      exact get?_independent hwrites
        (fun w => (mem_writes_of_restored hother w).trans (hsame _ _)) h

/-- For every accepted archive: a rehearsal writes nothing, and a restore to the end keeps its
promises exactly if the archive is undisputed. -/
theorem restoreBackup_promised_iff {settings : Settings} {record : BackupRecord}
    {artifact : Option Bytes} {archive : Archive}
    (haccepted : readArchive libs settings record artifact = .ok archive) :
    (restoreBackup libs server db settings record artifact false).1 = [] ∧
      ∀ writes summary,
        restoreBackup libs server db settings record artifact true = (writes, .ok summary) →
        (Promised libs db archive writes ↔ Undisputed libs db archive) := by
  rw [restoreBackup, restoreBackup, haccepted]
  constructor
  · have hrehearsal := restoreCollections_rehearsal libs server db archive.files ⟨[], 0, 0, []⟩
      (sortedMembers archive.members)
    dsimp only
    rw [restoreArchive]
    split
    · rename_i progress e hrun
      rw [hrun] at hrehearsal
      exact hrehearsal
    · rename_i progress hrun
      rw [hrun] at hrehearsal
      exact hrehearsal
  · intro writes summary hrun
    exact promised_iff_undisputed hrun

/-- A restore that is refused for the content of an accepted archive changes nothing exactly if
what was due before the refusal is stored already. -/
theorem refused_unmodified_iff {settings : Settings} {record : BackupRecord}
    {artifact : Option Bytes} {archive : Archive} {writes : List (Write δ)} {code : String}
    (haccepted : readArchive libs settings record artifact = .ok archive)
    (hrun : restoreBackup libs server db settings record artifact true =
      (writes, .error (.backup code))) :
    Unmodified db writes ↔
      ∀ w ∈ appliedBefore libs archive.files (sortedMembers archive.members),
        w.document ∈ db w.collection := by
  rw [restoreBackup, haccepted] at hrun
  rw [unmodified_iff]
  constructor
  · intro h w hw
    exact h w ((mem_writes_of_refused hrun w).mpr hw)
  · intro h w hw
    exact h w ((mem_writes_of_refused hrun w).mp hw)

end Promises

/-! ## Two archives -/

/-- A document with an identifier and a status. -/
structure SampleDocument where
  id : String
  status : String
  deriving DecidableEq

instance : Document String SampleDocument := ⟨SampleDocument.id⟩

def asciiBytes (text : String) : Bytes := text.toList.map fun c => c.toNat.toUInt8

/-- A server that writes in the order it is given. -/
def orderlyServer : Server String SampleDocument where
  accepts _ _ _ := true
  performs _ _ operations := operations
  perm _ _ operations _ := List.Perm.refl operations

def sampleSettings : Settings := ⟨"test", "", 134217728, 1073741824⟩

def sampleRecord : BackupRecord := ⟨"", false⟩

/-- One collection of an archive: its name, its only document, and the digest of its member. -/
structure SampleCollection where
  name : String
  document : SampleDocument
  digest : String

def SampleCollection.line (c : SampleCollection) : Bytes :=
  asciiBytes ("\x7b\"_id\":\"" ++ c.document.id ++ "\",\"status\":\"" ++ c.document.status ++ "\"\x7d")

def SampleCollection.content (c : SampleCollection) : Bytes := terminated c.line

def SampleCollection.entry (c : SampleCollection) : CollectionEntry :=
  ⟨1, c.content.length, c.digest,
    [⟨chunkMemberName c.name 0, 1, c.content.length, c.digest⟩]⟩

def sampleManifest (collections : List SampleCollection) : Tree :=
  .sorted (manifestJson "control_plane" "2026-01-01T00:00:00+00:00"
    (collections.map fun c => (c.name, c.entry)))

def sampleManifestText (collections : List SampleCollection) : Bytes :=
  (sampleManifest collections).dumps.map fun c => c.toNat.toUInt8

def sampleMembers (collections : List SampleCollection) : List Member :=
  collections.map (fun c => tarMember (chunkMemberName c.name 0) c.content) ++
    [tarMember "manifest.json" (sampleManifestText collections)]

/-- The libraries, as far as an artifact with these collections needs them. -/
def sampleLibraries (artifact : Bytes) (collections : List SampleCollection) :
    Libraries SampleDocument where
  sha256 bytes := ((collections.find? fun c => c.content == bytes).map
    SampleCollection.digest).getD ""
  tar members := if members = sampleMembers collections then artifact else []
  untar bytes := if bytes = artifact then some (sampleMembers collections) else none
  hasOpenssl := false
  openssl _ _ _ := .error
  jsonLoads bytes := if bytes = sampleManifestText collections then
    some (sampleManifest collections) else none
  dumps document := SampleCollection.line ⟨"", document, ""⟩
  loads bytes :=
    match collections.find? fun c => c.line == bytes with
    | some c => .document c.document
    | none => .raises

/-! ## Archives with small collections -/

/-- The checks of the manifest of an archive. -/
def checkedArchive {δ : Type} (libs : Libraries δ) (manifest : Tree) (files : Files) :
    Except Failure Archive := do
  let (version, collections) ← readManifest manifest
  let members ← if version = 1 then validateArchive (validateV1Collection libs) collections files
    else validateArchive (validateV2Collection libs) collections files
  return ⟨manifest, files, members⟩

section Sample

variable {artifact : Bytes} {collections : List SampleCollection}

def sampleFiles (collections : List SampleCollection) : Files :=
  collections.map fun c => (chunkMemberName c.name 0, c.content)

def sampleManifestFile (collections : List SampleCollection) : String × Bytes :=
  ("manifest.json", sampleManifestText collections)

theorem length_sampleManifestText_le (collections : List SampleCollection) :
    (sampleManifestText collections).length ≤
      (manifestJson "control_plane" "2026-01-01T00:00:00+00:00"
        (collections.map fun c => (c.name, c.entry))).textBound := by
  rw [sampleManifestText, List.length_map, ← Tree.textBound_sorted]
  exact Tree.length_dumps_le _

/-- The collections of an archive have names of their own, and are far below the limits. -/
structure Small (collections : List SampleCollection) : Prop where
  names : ∀ c ∈ collections, (collectionNameFromMember (chunkMemberName c.name 0)).isSome = true
  nodup : ((sampleFiles collections).map Prod.fst).Nodup
  size : ((sampleFiles collections).map fun file => file.2.length).sum ≤ 1000000
  manifest : (manifestJson "control_plane" "2026-01-01T00:00:00+00:00"
    (collections.map fun c => (c.name, c.entry))).textBound ≤ 1000000

theorem ne_manifest_of_mem_sampleFiles {file : String × Bytes}
    (h : file ∈ sampleFiles collections) : file.1 ≠ "manifest.json" := by
  obtain ⟨c, -, rfl⟩ := List.mem_map.mp h
  exact chunkMemberName_ne_manifest c.name 0

theorem Small.nodup_files (h : Small collections) :
    ((sampleFiles collections ++ [sampleManifestFile collections]).map Prod.fst).Nodup := by
  rw [List.map_append]
  refine List.Nodup.append h.nodup (List.nodup_singleton _) ?_
  intro name hname hlast
  obtain ⟨file, hmem, rfl⟩ := List.mem_map.mp hname
  exact ne_manifest_of_mem_sampleFiles hmem (List.mem_singleton.mp hlast)

/-- The members are read without a look at the text of the manifest. -/
theorem Small.readFiles (h : Small collections) :
    readFiles (sampleLibraries artifact collections) sampleSettings artifact =
      .ok (sampleFiles collections ++ [sampleManifestFile collections]) := by
  have htext := le_trans (length_sampleManifestText_le collections) h.manifest
  have hfile : ∀ file ∈ sampleFiles collections, file.2.length ≤ 1000000 := fun file hmem =>
    le_trans (List.single_le_sum (fun _ _ => Nat.zero_le _) _
      (List.mem_map_of_mem (f := fun file : String × Bytes => file.2.length) hmem)) h.size
  have hmember : memberLimit sampleSettings = 134217728 := rfl
  have harchive : archiveLimit sampleSettings = 1073741824 := rfl
  obtain ⟨total, hread⟩ := readMembers_ok (memberLimit sampleSettings)
    (archiveLimit sampleSettings) [] 0
    (sampleFiles collections ++ [sampleManifestFile collections])
    (by
      intro file hmem
      rcases List.mem_append.mp hmem with hmem | hlast
      · obtain ⟨c, hc, rfl⟩ := List.mem_map.mp hmem
        exact .inr (h.names c hc)
      · rw [List.mem_singleton.mp hlast]
        exact .inl rfl)
    h.nodup_files
    (by
      intro file hmem
      rw [hmember]
      rcases List.mem_append.mp hmem with hmem | hlast
      · exact le_trans (hfile file hmem) (by omega)
      · rw [List.mem_singleton.mp hlast]
        exact le_trans htext (by omega))
    (by
      have hsize := h.size
      rw [List.map_append, List.sum_append, List.map_singleton, List.sum_singleton, harchive]
      dsimp only [sampleManifestFile]
      omega)
  have huntar : (sampleLibraries artifact collections).untar artifact =
      some ((sampleFiles collections ++ [sampleManifestFile collections]).map
        fun file => tarMember file.1 file.2) := by
    rw [List.map_append, sampleFiles, List.map_map]
    exact if_pos rfl
  rw [Backups.readFiles, huntar]
  dsimp only
  rw [hread]
  rfl

/-- What is left of the reading are the checks of the manifest. -/
theorem Small.readArchive (h : Small collections) :
    readArchive (sampleLibraries artifact collections) sampleSettings sampleRecord
      (some artifact) = checkedArchive (sampleLibraries artifact collections)
        (sampleManifest collections) (sampleFiles collections) := by
  have hlookup : (sampleFiles collections ++ [sampleManifestFile collections]).lookup
      "manifest.json" = some (sampleManifestText collections) := by
    apply lookup_of_mem h.nodup_files
    exact List.mem_append_right _ (List.mem_singleton_self (sampleManifestFile collections))
  have hfiles : (sampleFiles collections ++ [sampleManifestFile collections]).filter
      (fun file => file.1 ≠ "manifest.json") = sampleFiles collections := by
    rw [List.filter_append, List.filter_eq_self.mpr fun file hmem =>
      decide_eq_true (ne_manifest_of_mem_sampleFiles hmem)]
    exact List.append_nil _
  have hloads : (sampleLibraries artifact collections).jsonLoads (sampleManifestText collections) =
      some (sampleManifest collections) := by
    simp only [sampleLibraries, if_true]
  have hopen : openArtifact (sampleLibraries artifact collections) sampleSettings sampleRecord
      (some artifact) = .ok artifact := rfl
  rw [Backups.readArchive, hopen]
  change (Backups.readFiles (sampleLibraries artifact collections) sampleSettings artifact >>= _) = _
  rw [h.readFiles]
  dsimp only [bind, Except.bind]
  rw [hlookup]
  dsimp only
  rw [hloads]
  dsimp only
  rw [hfiles, checkedArchive]
  rfl

end Sample

def sampleDatabase (tasks : List SampleDocument) (h : (tasks.map Document.key).Nodup) :
    Database String SampleDocument :=
  fun name => if name = "Task" then ⟨tasks, h⟩ else ⟨[], List.nodup_nil⟩

/-- The task table holds a task that has ended since the backup was made. -/
def endedTask : Database String SampleDocument :=
  sampleDatabase [⟨"task-1", "succeeded"⟩] (by simp)

def taskCollections : List SampleCollection :=
  [⟨"Task", ⟨"task-1", "running"⟩,
    "5ae0744935c248a56ca13bce73f89c90f1340f9681b551fba4a465ed8e62047a"⟩]

theorem small_taskCollections : Small taskCollections where
  names := by decide
  nodup := by decide
  size := by decide
  manifest := by decide

/-- The archive of a task that was running. -/
def taskArtifact : Bytes :=
  List.flatten
    [[31, 139, 8, 0, 0, 0, 0, 0, 2, 3, 237, 213, 221, 106, 131, 48, 20, 7, 112, 175, 247, 20],
      [35, 183, 179, 107, 162, 241, 243, 57, 122, 55, 134, 196, 120, 92, 93, 53, 22, 141, 131, 173, 248, 238],
      [139, 165, 80, 232, 197, 118, 211, 246, 98, 251, 255, 8, 70, 131, 230, 132, 200, 57, 209, 125, 219, 146],
      [182, 77, 111, 198, 245, 70, 141, 187, 53, 63, 121, 126, 31, 123, 211, 122, 215, 176, 76, 23, 115, 238],
      [157, 102, 190, 236, 57, 151, 242, 124, 191, 140, 139, 80, 112, 225, 61, 114, 239, 14, 166, 209, 170, 193],
      [133, 247, 254, 167, 3, 43, 154, 138, 229, 204, 186, 127, 191, 18, 204, 103, 110, 59, 236, 52, 186, 145],
      [97, 50, 166, 49, 111, 108, 126, 240, 224, 207, 234, 148, 105, 106, 26, 237, 49, 221, 111, 20, 227, 183],
      [252, 143, 146, 224, 34, 255, 93, 69, 8, 144, 255, 247, 201, 127, 125, 62, 1, 88, 126, 96, 203, 33],
      [176, 244, 122, 59, 153, 157, 27, 121, 57, 176, 170, 215, 83, 71, 198, 186, 39, 225, 179, 142, 186, 146],
      [6, 87, 32, 244, 207, 71, 199, 82, 75, 182, 42, 136, 98, 247, 106, 164, 136, 39, 82, 102, 97, 164],
      [3, 153, 170, 40, 214, 74, 132, 165, 166, 36, 172, 211, 76, 103, 188, 22, 161, 228, 117, 22, 167, 162],
      [140, 34, 81, 151, 74, 42, 25, 71, 84, 165, 20, 7, 92, 38, 106, 153, 171, 249, 162, 162, 252, 180],
      [228, 86, 17, 198, 243, 171, 127, 177, 172, 27, 198, 154, 125, 166, 7, 82, 150, 170, 66, 89, 23, 33],
      [224, 65, 188, 226, 194, 181, 13, 231, 249, 177, 61, 29, 175, 203, 167, 122, 75, 157, 42, 62, 104, 24],
      [221, 198, 176, 60, 88, 134, 250, 61, 29, 247, 203, 216, 161, 111, 139, 125, 171, 12, 177, 25, 181, 7],
      [0, 0, 0, 0, 0, 0, 0, 0, 0, 0, 0, 0, 0, 0, 0, 174, 227, 27, 32, 26, 46, 162],
      [0, 40, 0, 0]]

/-- The result of a computation that has one. -/
theorem exists_of_isSome {ε α : Type} {r : Except ε α} (h : r.toOption.isSome = true) :
    ∃ a, r = .ok a := by
  cases r with
  | error e => cases h
  | ok a => exact ⟨a, rfl⟩

def refusal? {α : Type} : Except Failure α → Option Failure
  | .error e => some e
  | .ok _ => none

theorem eq_error_of_refusal? {α : Type} {r : Except Failure α} {e : Failure}
    (h : refusal? r = some e) : r = .error e := by
  cases r with
  | error _ =>
      cases h
      rfl
  | ok a => cases h

/-- The restore writes the task as it was when the backup was made. -/
theorem restoreBackup_taskArtifact : ∃ summary,
    restoreBackup (sampleLibraries taskArtifact taskCollections) orderlyServer endedTask
      sampleSettings sampleRecord (some taskArtifact) true =
        ([⟨"Task", ⟨"task-1", "running"⟩⟩], .ok summary) := by
  have hrun : (restoreBackup (sampleLibraries taskArtifact taskCollections) orderlyServer endedTask
      sampleSettings sampleRecord (some taskArtifact) true).1 =
        [⟨"Task", ⟨"task-1", "running"⟩⟩] ∧
      (restoreBackup (sampleLibraries taskArtifact taskCollections) orderlyServer endedTask
      sampleSettings sampleRecord (some taskArtifact) true).2.toOption.isSome = true := by
    rw [restoreBackup, small_taskCollections.readArchive]
    decide +kernel
  obtain ⟨summary, hsummary⟩ := exists_of_isSome hrun.2
  exact ⟨summary, Prod.ext hrun.1 hsummary⟩

theorem exists_taskArchive : ∃ archive,
    readArchive (sampleLibraries taskArtifact taskCollections) sampleSettings sampleRecord
      (some taskArtifact) = .ok archive := by
  obtain ⟨summary, hrun⟩ := restoreBackup_taskArtifact
  apply accepted_of_writes _ orderlyServer endedTask
  rw [hrun]
  simp

theorem restoreBackup_promised_iff_taskArtifact : ∃ archive,
    readArchive (sampleLibraries taskArtifact taskCollections) sampleSettings sampleRecord
      (some taskArtifact) = .ok archive ∧
    (restoreBackup (sampleLibraries taskArtifact taskCollections) orderlyServer endedTask
      sampleSettings sampleRecord (some taskArtifact) false).1 = [] ∧
      ∀ writes summary,
        restoreBackup (sampleLibraries taskArtifact taskCollections) orderlyServer endedTask
          sampleSettings sampleRecord (some taskArtifact) true = (writes, .ok summary) →
        (Promised (sampleLibraries taskArtifact taskCollections) endedTask archive writes ↔
          Undisputed (sampleLibraries taskArtifact taskCollections) endedTask archive) := by
  obtain ⟨archive, haccepted⟩ := exists_taskArchive
  exact ⟨archive, haccepted, restoreBackup_promised_iff haccepted⟩

/-- The restore makes the ended task a running one. -/
theorem restore_overwrites_task : ∃ archive writes summary,
    readArchive (sampleLibraries taskArtifact taskCollections) sampleSettings sampleRecord
      (some taskArtifact) = .ok archive ∧
    restoreBackup (sampleLibraries taskArtifact taskCollections) orderlyServer endedTask
      sampleSettings sampleRecord (some taskArtifact) true = (writes, .ok summary) ∧
    (endedTask.after writes "Task").get? "task-1" = some ⟨"task-1", "running"⟩ ∧
    ¬ Promised (sampleLibraries taskArtifact taskCollections) endedTask archive writes := by
  obtain ⟨archive, haccepted⟩ := exists_taskArchive
  obtain ⟨summary, hrun⟩ := restoreBackup_taskArtifact
  refine ⟨archive, _, summary, haccepted, hrun, by decide, ?_⟩
  intro hpromised
  have hlive := untouched_iff.mp (hpromised.live "Task" (by decide)) _ (List.mem_singleton_self _) rfl
  have hdocs : (⟨"task-1", "running"⟩ : SampleDocument) ∉ (endedTask "Task").docs := by decide
  exact hdocs hlive

def ruleCollections : List SampleCollection :=
  [⟨"AdminUser", ⟨"admin-1", "active"⟩,
      "3b84ebfba60264f79e706b7bc7dc5197cc2dd4861dfb7c9ab5ad0d5b2bf994a4"⟩,
    ⟨"LegacyRule", ⟨"rule-1", "active"⟩,
      "06f0ad571a6a1afc41d07fa4a02e83f03193a7209ca8aeeccebb4079ad53550f"⟩]

theorem small_ruleCollections : Small ruleCollections where
  names := by decide
  nodup := by decide
  size := by decide
  manifest := by decide

/-- The archive of a user and of a collection that is no longer known. -/
def ruleArtifact : Bytes :=
  List.flatten
    [[31, 139, 8, 0, 0, 0, 0, 0, 2, 3, 237, 150, 77, 111, 212, 48, 16, 134, 115, 230, 87, 32],
      [95, 217, 210, 177, 227, 56, 155, 189, 113, 231, 132, 224, 132, 80, 52, 182, 199, 108, 32, 31, 85, 62],
      [42, 149, 85, 255, 59, 246, 170, 162, 171, 72, 165, 32, 218, 61, 208, 121, 100, 37, 177, 101, 123, 172],
      [215, 121, 61, 118, 67, 219, 146, 155, 155, 161, 159, 46, 223, 249, 174, 233, 63, 77, 52, 94, 194, 29],
      [111, 191, 77, 67, 223, 102, 255, 72, 154, 201, 0, 100, 119, 147, 174, 223, 0, 90, 223, 127, 167, 118],
      [169, 193, 152, 236, 53, 100, 103, 96, 153, 102, 28, 99, 248, 236, 101, 114, 16, 117, 227, 197, 78, 96],
      [218, 251, 11, 41, 54, 34, 234, 49, 47, 83, 106, 138, 191, 197, 53, 137, 219, 87, 25, 243, 223, 226],
      [78, 252, 255, 158, 190, 162, 187, 249, 176, 180, 244, 180, 7, 192, 227, 254, 207, 215, 254, 87, 185, 98],
      [255, 159, 211, 255, 99, 220, 117, 182, 255, 203, 163, 195, 190, 9, 52, 205, 71, 163, 63, 83, 140, 71],
      [252, 47, 149, 46, 86, 254, 143, 55, 2, 96, 255, 159, 199, 255, 39, 25, 64, 236, 14, 226, 215, 37],
      [48, 85, 220, 126, 233, 191, 199, 230, 207, 7, 225, 7, 183, 116, 212, 207, 177, 38, 55, 162, 163, 206],
      [166, 46, 167, 163, 31, 188, 63, 166, 83, 101, 143, 170, 48, 177, 127, 110, 183, 154, 108, 176, 104, 64],
      [25, 29, 202, 138, 74, 48, 182, 180, 174, 244, 174, 144, 85, 233, 156, 242, 94, 111, 141, 244, 193, 150],
      [174, 66, 91, 160, 7, 95, 88, 101, 67, 85, 105, 212, 105, 174, 230, 7, 213, 246, 102, 166, 184, 148],
      [220, 220, 126, 217, 172, 214, 246, 140, 177, 54, 226, 62, 71, 254, 189, 62, 15, 230, 215, 83, 129, 192],
      [4, 64, 95, 148, 18, 13, 74, 12, 78, 75, 15, 101, 64, 141, 160, 104, 155, 7, 200, 101, 149, 99],
      [169, 160, 114, 184, 69, 34, 231, 200, 90, 13, 101, 21, 199, 228, 69, 1, 97, 189, 232, 226, 55, 2],
      [61, 125, 172, 168, 144, 27, 9, 103, 242, 53, 206, 49, 130, 138, 202, 95, 128, 140, 229, 35, 192, 238],
      [88, 222, 28, 159, 105, 168, 219, 83, 135, 245, 53, 141, 83, 148, 71, 236, 84, 106, 26, 174, 232, 168],
      [90, 63, 143, 67, 91, 95, 181, 216, 199, 20, 196, 199, 52, 195, 48, 12, 195, 48, 12, 195, 48, 12],
      [195, 48, 12, 195, 48, 12, 195, 48, 12, 195, 252, 17, 63, 1, 8, 228, 65, 42, 0, 40, 0, 0]]

def emptyDatabase : Database String SampleDocument := sampleDatabase [] (by simp)

/-- The restore is refused after the user has been written. -/
theorem restoreBackup_ruleArtifact :
    restoreBackup (sampleLibraries ruleArtifact ruleCollections) orderlyServer emptyDatabase
      sampleSettings sampleRecord (some ruleArtifact) true =
        ([⟨"AdminUser", ⟨"admin-1", "active"⟩⟩],
          .error (.backup "backup_collection_unknown")) := by
  have hrun : (restoreBackup (sampleLibraries ruleArtifact ruleCollections) orderlyServer
      emptyDatabase sampleSettings sampleRecord (some ruleArtifact) true).1 =
        [⟨"AdminUser", ⟨"admin-1", "active"⟩⟩] ∧
      refusal? (restoreBackup (sampleLibraries ruleArtifact ruleCollections) orderlyServer
        emptyDatabase sampleSettings sampleRecord (some ruleArtifact) true).2 =
        some (.backup "backup_collection_unknown") := by
    rw [restoreBackup, small_ruleCollections.readArchive]
    decide +kernel
  exact Prod.ext hrun.1 (eq_error_of_refusal? hrun.2)

theorem exists_ruleArchive : ∃ archive,
    readArchive (sampleLibraries ruleArtifact ruleCollections) sampleSettings sampleRecord
      (some ruleArtifact) = .ok archive := by
  apply accepted_of_writes _ orderlyServer emptyDatabase
  rw [restoreBackup_ruleArtifact]
  simp

theorem refused_unmodified_iff_ruleArtifact : ∃ archive,
    readArchive (sampleLibraries ruleArtifact ruleCollections) sampleSettings sampleRecord
      (some ruleArtifact) = .ok archive ∧
    (Unmodified emptyDatabase [⟨"AdminUser", ⟨"admin-1", "active"⟩⟩] ↔
      ∀ w ∈ appliedBefore (sampleLibraries ruleArtifact ruleCollections) archive.files
        (sortedMembers archive.members), w.document ∈ emptyDatabase w.collection) := by
  obtain ⟨archive, haccepted⟩ := exists_ruleArchive
  exact ⟨archive, haccepted, refused_unmodified_iff haccepted restoreBackup_ruleArtifact⟩

/-- The refused restore has added a user. -/
theorem refused_restore_writes : ∃ archive writes,
    readArchive (sampleLibraries ruleArtifact ruleCollections) sampleSettings sampleRecord
      (some ruleArtifact) = .ok archive ∧
    restoreBackup (sampleLibraries ruleArtifact ruleCollections) orderlyServer emptyDatabase
      sampleSettings sampleRecord (some ruleArtifact) true =
        (writes, .error (.backup "backup_collection_unknown")) ∧
    emptyDatabase.after writes ≠ emptyDatabase := by
  obtain ⟨archive, haccepted⟩ := exists_ruleArchive
  refine ⟨archive, _, haccepted, restoreBackup_ruleArtifact, ?_⟩
  intro hsame
  have husers := congrArg (fun db : Database String SampleDocument => (db "AdminUser").docs) hsame
  revert husers
  decide

end Grouproxy.Backups
