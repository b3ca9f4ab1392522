import Grouproxy.Library.Steps
import Grouproxy.Verification.Backups.ReadBack

/-! # Recovery from a backup

A backup that is restored lies over the database that is live by then: every document it holds is
back, and the documents it does not hold stay as they are. Members, chunks and batches leave no
trace in the result, and neither does the order in which the server works.
-/

namespace Grouproxy.Backups

open Value Encoding Lines Collections Entries Steps

section Recovery

variable {κ δ : Type} [LinearOrder κ] [Document κ δ] {libs : Libraries δ} {server : Server κ δ}
  {db : Database κ δ} {collections : List (String × Collection δ)} {archive : Archive}

/-- What the database holds under a key with a backup of some collections laid over it. -/
def overlay (collections : List (String × Collection δ)) (db : Database κ δ) (name : String)
    (k : κ) : Option δ :=
  ((collections.lookup name).bind fun backup => backup.get? k).or ((db name).get? k)

/-- The archive of some collections holds their documents. -/
theorem archived_iff (hreads : ReadsAs libs collections archive)
    (hnames : (collections.map Prod.fst).Nodup) {name : String} {document : δ} :
    Archived libs archive name document ↔
      ∃ backup, (name, backup) ∈ collections ∧ document ∈ backup := by
  have hmembers : (archive.members.map Prod.fst).Nodup := hreads.names.nodup_iff.mpr hnames
  constructor
  · rintro ⟨memberNames, hmem, hdocument⟩
    have hname : name ∈ collections.map Prod.fst :=
      hreads.names.mem_iff.mp (List.mem_map.mpr ⟨_, hmem, rfl⟩)
    obtain ⟨c, hc, rfl⟩ := List.mem_map.mp hname
    obtain ⟨read, hlookup, hloaded⟩ := hreads.documents c hc
    rw [lookup_of_mem hmembers hmem] at hlookup
    cases hlookup
    rw [hloaded] at hdocument
    obtain ⟨other, hother, hsame⟩ := List.mem_map.mp hdocument
    cases hsame
    exact ⟨c.2, hc, mem_sortedDocuments.mp hother⟩
  · rintro ⟨backup, hc, hdocument⟩
    obtain ⟨memberNames, hlookup, hloaded⟩ := hreads.documents _ hc
    refine ⟨memberNames, mem_of_lookup hlookup, ?_⟩
    rw [hloaded]
    exact List.mem_map_of_mem (mem_sortedDocuments.mpr hdocument)

/-- Writing the documents of an archive lays the collections over the database. -/
theorem get?_recovered (hreads : ReadsAs libs collections archive)
    (hnames : (collections.map Prod.fst).Nodup) {writes : List (Write δ)}
    (hwrites : ∀ w, w ∈ writes ↔ Archived libs archive w.collection w.document) (name : String)
    (k : κ) : (db.after writes name).get? k = overlay collections db name k := by
  have harchived : ∀ document : δ, Archived libs archive name document ↔
      ∃ backup, (name, backup) ∈ collections ∧ document ∈ backup :=
    fun document => archived_iff hreads hnames
  cases hlookup : collections.lookup name with
  | none =>
      rw [overlay, hlookup]
      apply get?_unarchived hwrites
      intro document hdocument
      obtain ⟨backup, hmem, -⟩ := (harchived document).mp hdocument
      rw [lookup_of_mem hnames hmem] at hlookup
      cases hlookup
  | some backup =>
      have honly : ∀ document, Archived libs archive name document ↔ document ∈ backup := by
        intro document
        rw [harchived]
        constructor
        · rintro ⟨other, hmem, hdocument⟩
          rw [lookup_of_mem hnames hmem] at hlookup
          cases hlookup
          exact hdocument
        · exact fun hdocument => ⟨backup, mem_of_lookup hlookup, hdocument⟩
      rw [overlay, hlookup, Option.bind_some]
      cases hbackup : backup.get? k with
      | none =>
          apply get?_unarchived hwrites
          rintro document hdocument rfl
          rw [Collection.get?_of_mem ((honly document).mp hdocument)] at hbackup
          cases hbackup
      | some document =>
          obtain ⟨hmem, rfl⟩ := Collection.get?_eq_some.mp hbackup
          exact get?_restored hwrites ((honly document).mpr hmem) fun other hother hkey =>
            Collection.eq_of_key_eq ((honly other).mp hother) hmem hkey

/-! ## The restore runs to its end -/

/-- A server that carries out every batch. -/
def Server.Willing (server : Server κ δ) : Prop :=
  ∀ found name operations, server.accepts found name operations = true

/-- Lines that are all documents are restored to the end, and counted. -/
theorem restoreLines_read (db : Database κ δ) (name : String) {applies : Bool}
    (operations : List δ) (progress : Progress δ) {lines : List Bytes} {documents : List δ}
    (hrun : applies = false ∧ operations = [] ∨ server.Willing)
    (hread : loadedLines libs lines = documents.map .document) :
    ∃ writes applied, restoreLines libs server db name applies operations progress lines =
      (⟨writes, progress.documents + documents.length, applied, progress.skipped⟩, .ok ()) := by
  induction lines generalizing operations progress documents with
  | nil =>
      have hnone : documents = [] := List.map_eq_nil_iff.mp hread.symm
      subst hnone
      rw [restoreLines]
      split
      · exact ⟨progress.writes, progress.applied, rfl⟩
      · rename_i hne
        have hwilling := hrun.resolve_left fun h => hne h.2
        rw [applyRestoreBatch, if_pos (hwilling _ _ _)]
        exact ⟨_, _, rfl⟩
  | cons line lines ih =>
      rw [restoreLines]
      by_cases hempty : line = []
      · rw [if_pos hempty]
        subst hempty
        rw [loadedLines_cons_nil] at hread
        exact ih operations progress hrun hread
      · rw [if_neg hempty]
        rw [loadedLines_cons libs hempty] at hread
        obtain ⟨document, rest, rfl, hfirst, hrest⟩ := List.map_eq_cons_iff.mp hread.symm
        rw [← hfirst]
        dsimp only
        have hcount : ∀ n, n + 1 + rest.length = n + (document :: rest).length := by
          intro n
          rw [List.length_cons]
          omega
        by_cases happly : applies = true
        · subst happly
          have hwilling := hrun.resolve_left fun h => Bool.noConfusion h.1
          rw [if_pos rfl]
          split
          · rw [applyRestoreBatch, if_pos (hwilling _ _ _)]
            dsimp only
            rw [← hcount]
            exact ih [] _ (.inr hwilling) hrest.symm
          · rw [← hcount]
            exact ih (operations ++ [document]) { progress with documents := progress.documents + 1 }
              (.inr hwilling) hrest.symm
        · rw [if_neg happly, ← hcount]
          exact ih operations { progress with documents := progress.documents + 1 } hrun hrest.symm

/-- Collections whose lines are all documents are restored to the end, and counted. -/
theorem restoreCollections_read (db : Database κ δ) {files : Files} {applyChanges : Bool}
    (progress : Progress δ) {members : MembersByCollection}
    (hrun : applyChanges = false ∨ server.Willing)
    (hmodels : ∀ c ∈ members, c.1 ∈ documentModels)
    (hread : ∀ c ∈ members, ∃ documents : List δ,
      loadedLines libs (memberLines files c.2) = documents.map .document) :
    ∃ writes applied skipped, restoreCollections libs server db files applyChanges progress members =
      (⟨writes, progress.documents +
        (members.map fun c => (loadedLines libs (memberLines files c.2)).length).sum,
        applied, skipped⟩, .ok ()) := by
  induction members generalizing progress with
  | nil => exact ⟨progress.writes, progress.applied, progress.skipped, rfl⟩
  | cons c members ih =>
      obtain ⟨documents, hdocuments⟩ := hread c List.mem_cons_self
      have happly : shouldApply applyChanges c.1 = false ∧ ([] : List δ) = [] ∨ server.Willing := by
        rcases hrun with rfl | hwilling
        · exact .inl ⟨shouldApply_rehearsal c.1, rfl⟩
        · exact .inr hwilling
      rw [restoreCollections, restoreCollection, if_neg (not_not.mpr (hmodels c List.mem_cons_self))]
      dsimp only
      obtain ⟨writes, applied, hlines⟩ := restoreLines_read db c.1 []
        { progress with
          skipped := if applyChanges = true ∧ shouldApply applyChanges c.1 = false then
            progress.skipped ++ [c.1] else progress.skipped }
        happly hdocuments
      rw [hlines]
      dsimp only
      obtain ⟨writes', applied', skipped, hrest⟩ := ih _
        (fun c' hc' => hmodels c' (List.mem_cons_of_mem _ hc'))
        (fun c' hc' => hread c' (List.mem_cons_of_mem _ hc'))
      refine ⟨writes', applied', skipped, ?_⟩
      rw [hrest, List.map_cons, List.sum_cons, hdocuments, List.length_map, Nat.add_assoc]

/-- The lines of an archive are as many as the documents of its collections. -/
theorem sum_loadedLines (hreads : ReadsAs libs collections archive)
    (hnames : (collections.map Prod.fst).Nodup) :
    ((sortedMembers archive.members).map fun c =>
      (loadedLines libs (memberLines archive.files c.2)).length).sum =
        (collections.map fun c => c.2.docs.length).sum := by
  have hmembers : (archive.members.map Prod.fst).Nodup := hreads.names.nodup_iff.mpr hnames
  let size : String → Nat := fun name => ((collections.lookup name).map (·.docs.length)).getD 0
  have hsize : ∀ c ∈ archive.members,
      (loadedLines libs (memberLines archive.files c.2)).length = size c.1 := by
    intro member hmember
    have hname : member.1 ∈ collections.map Prod.fst :=
      hreads.names.mem_iff.mp (List.mem_map_of_mem hmember)
    obtain ⟨c, hc, hsame⟩ := List.mem_map.mp hname
    obtain ⟨memberNames, hlookup, hloaded⟩ := hreads.documents c hc
    rw [hsame, lookup_of_mem hmembers hmember] at hlookup
    cases hlookup
    have hfound : collections.lookup member.1 = some c.2 := by
      rw [← hsame]
      exact lookup_of_mem hnames hc
    rw [hloaded, List.length_map, sortedDocuments, List.length_insertionSort]
    simp only [size, hfound, Option.map_some, Option.getD_some]
  have hstored : ∀ c ∈ collections, c.2.docs.length = size c.1 := by
    intro c hc
    simp only [size, lookup_of_mem hnames hc, Option.map_some, Option.getD_some]
  calc ((sortedMembers archive.members).map fun c =>
        (loadedLines libs (memberLines archive.files c.2)).length).sum
      = (archive.members.map fun c =>
          (loadedLines libs (memberLines archive.files c.2)).length).sum :=
        ((List.perm_insertionSort _ _).map _).sum_eq
    _ = ((archive.members.map Prod.fst).map size).sum := by
        rw [List.map_map]
        exact congrArg List.sum (List.map_congr_left hsize)
    _ = ((collections.map Prod.fst).map size).sum := (hreads.names.map size).sum_eq
    _ = (collections.map fun c => c.2.docs.length).sum := by
        rw [List.map_map]
        exact congrArg List.sum (List.map_congr_left fun c hc => (hstored c hc).symm)

/-! ## From the backup to the restore -/

variable {settings : Settings} {scope createdAt : String} {written : Written}

/-- The lines of what has been written fit into a member. -/
theorem documentLine_le {limit : Nat}
    (hwritten : collections.foldlM (writeCollection libs limit) ([], []) = .ok written) :
    ∀ c ∈ collections, ∀ document ∈ c.2, (documentLine libs document).length ≤ limit := by
  intro c hc document hdocument
  obtain ⟨before, after, hwrite⟩ := forall_ok_of_foldlM hwritten c hc
  rw [writeCollection] at hwrite
  split at hwrite
  · cases hwrite
  · obtain ⟨chunks, hchunks, -⟩ := bind_eq_ok hwrite
    obtain ⟨state, hstate, -⟩ := bind_eq_ok hchunks
    obtain ⟨first, next, hline⟩ := forall_ok_of_foldlM hstate document
      (mem_sortedDocuments.mpr hdocument)
    rw [writeDocument] at hline
    by_contra hlong
    rw [if_pos (Nat.not_le.mp hlong)] at hline
    cases hline

/-- A created artifact is accepted and reads as the collections it was created from. -/
theorem readsAs_created {artifact : BackupArtifact} (hnames : (collections.map Prod.fst).Nodup)
    (hisName : ∀ c ∈ collections, isCollectionName c.1 = true)
    (hcodec : ∀ c ∈ collections, ∀ document ∈ c.2, RoundTrips libs document)
    (hwritten : collections.foldlM (writeCollection libs (memberLimit settings)) ([], []) =
      .ok written)
    (hreadable : Readable libs settings scope createdAt written)
    (hcipher : Deciphers libs settings.backupEncryptionKey)
    (hcreated : createBackupArtifact libs settings scope createdAt collections = .ok artifact) :
    ∃ archive, readArchive libs settings artifact.record (some artifact.output) = .ok archive ∧
      ReadsAs libs collections archive := by
  obtain ⟨packs, hpacks, hpacked⟩ := @exists_packs _ libs _ _ _ _ [] _ hnames
    (documentLine_le hwritten)
  rw [List.nil_append] at hpacked
  have hsame : written = packed libs packs := by
    have hboth := hwritten.symm.trans hpacked
    cases hboth
    rfl
  subst hsame
  have harchive : archiveBytes libs settings scope createdAt collections =
      .ok (libs.tar (archiveMembers scope createdAt (packed libs packs)),
        manifestJson scope createdAt (packed libs packs).1) := by
    rw [archiveBytes, hwritten]
    rfl
  exact readsAs_packed hpacks hnames hisName hcodec hreadable
    (openArtifact_created hcipher harchive hcreated)

theorem isCollectionName_of_model : ∀ name ∈ documentModels, isCollectionName name = true := by
  decide

/-- A backup restored over whatever the database has become: a restore that ends has laid the
backup over every collection, and the restore, as every rehearsal, does end and counts all
documents, unless the server refuses a batch. -/
theorem restoreBackup_created (libs : Libraries δ) (server : Server κ δ) (db : Database κ δ)
    (settings : Settings) (scope createdAt : String) (artifact : BackupArtifact)
    (hnames : (collections.map Prod.fst).Nodup)
    (hmodels : ∀ c ∈ collections, c.1 ∈ documentModels)
    (hcodec : ∀ c ∈ collections, ∀ document ∈ c.2, RoundTrips libs document)
    (hwritten : collections.foldlM (writeCollection libs (memberLimit settings)) ([], []) =
      .ok written)
    (hreadable : Readable libs settings scope createdAt written)
    (hcipher : Deciphers libs settings.backupEncryptionKey)
    (hcreated : createBackupArtifact libs settings scope createdAt collections = .ok artifact) :
    (∀ writes summary, restoreBackup libs server db settings artifact.record (some artifact.output)
        true = (writes, .ok summary) →
      ∀ name k, (db.after writes name).get? k = overlay collections db name k) ∧
    ∀ applyChanges, applyChanges = false ∨ server.Willing → ∃ writes summary,
      restoreBackup libs server db settings artifact.record (some artifact.output) applyChanges =
        (writes, .ok summary) ∧
      summary.documents = (collections.map fun c => c.2.docs.length).sum := by
  obtain ⟨archive, haccepted, hreads⟩ := readsAs_created hnames
    (fun c hc => isCollectionName_of_model c.1 (hmodels c hc)) hcodec hwritten hreadable hcipher
    hcreated
  have hmember : ∀ member ∈ sortedMembers archive.members, ∃ c ∈ collections, c.1 = member.1 ∧
      loadedLines libs (memberLines archive.files member.2) =
        (sortedDocuments c.2).map .document := by
    intro member hmember
    have hmem := mem_sortedMembers.mp hmember
    have hname : member.1 ∈ collections.map Prod.fst :=
      hreads.names.mem_iff.mp (List.mem_map_of_mem hmem)
    obtain ⟨c, hc, hsame⟩ := List.mem_map.mp hname
    obtain ⟨memberNames, hlookup, hloaded⟩ := hreads.documents c hc
    rw [hsame, lookup_of_mem (hreads.names.nodup_iff.mpr hnames) hmem] at hlookup
    cases hlookup
    exact ⟨c, hc, hsame, hloaded⟩
  rw [restoreBackup, haccepted]
  constructor
  · intro writes summary hrun name k
    exact get?_recovered hreads hnames (mem_writes_of_restored hrun) name k
  · intro applyChanges happly
    obtain ⟨writes, applied, skipped, hrun⟩ := restoreCollections_read db ⟨[], 0, 0, []⟩ happly
      (fun member hmem => by
        obtain ⟨c, hc, hsame, -⟩ := hmember member hmem
        rw [← hsame]
        exact hmodels c hc)
      (fun member hmem => by
        obtain ⟨c, -, -, hloaded⟩ := hmember member hmem
        exact ⟨_, hloaded⟩)
    rw [restoreBackup, haccepted]
    dsimp only
    rw [restoreArchive, hrun]
    refine ⟨writes, _, rfl, ?_⟩
    dsimp only
    rw [Nat.zero_add, sum_loadedLines hreads hnames]

end Recovery

/-! ## The archive of a site -/

section Recorded

variable {artifact : Bytes} {collections : List SampleCollection}

/-- What is written of small collections. -/
def recordedWritten (collections : List SampleCollection) : Written :=
  (collections.map fun c => (c.name, c.entry),
    collections.map fun c => tarMember (chunkMemberName c.name 0) c.content)

def recordedManifest (collections : List SampleCollection) : Tree :=
  manifestJson "control_plane" "2026-01-01T00:00:00+00:00" (recordedWritten collections).1

def recordedMembers (collections : List SampleCollection) : List Member :=
  archiveMembers "control_plane" "2026-01-01T00:00:00+00:00" (recordedWritten collections)

/-- The libraries, as far as an archive of these collections needs them. -/
def recordedLibraries (artifact : Bytes) (collections : List SampleCollection) :
    Libraries SampleDocument :=
  { sampleLibraries artifact collections with
    tar := fun members => if members = recordedMembers collections then artifact else []
    untar := fun bytes => if bytes = artifact then some (recordedMembers collections) else none
    jsonLoads := fun bytes => if bytes = manifestPayload (recordedManifest collections) then
      some (recordedManifest collections).sorted else none }

theorem tar_recorded :
    (recordedLibraries artifact collections).tar (recordedMembers collections) = artifact := by
  simp only [recordedLibraries, if_true]

theorem untar_recorded : (recordedLibraries artifact collections).untar artifact =
    some (recordedMembers collections) := by
  simp only [recordedLibraries, if_true]

theorem readable_recorded (h : Small collections) : Readable (recordedLibraries artifact collections)
    sampleSettings "control_plane" "2026-01-01T00:00:00+00:00" (recordedWritten collections) := by
  have hpayload := length_manifestPayload_le (recordedManifest collections)
  have hdumps : (recordedManifest collections).dumps.length ≤ 1000000 :=
    Nat.le_trans (Tree.length_dumps_le _) h.manifest
  have hmember : memberLimit sampleSettings = 134217728 := rfl
  have harchive : archiveLimit sampleSettings = 1073741824 := rfl
  have hsize : ((recordedWritten collections).2.map Member.size).sum ≤ 1000000 := by
    have hsmall := h.size
    rw [sampleFiles, List.map_map] at hsmall
    rw [recordedWritten, List.map_map]
    exact hsmall
  constructor
  · intro c hc
    obtain ⟨entry, -, rfl⟩ := List.mem_map.mp hc
    exact Nat.one_le_pow 8 10 (by omega)
  · rw [hmember]
    exact Nat.le_trans hpayload (by omega)
  · rw [sum_archiveMembers, harchive]
    exact Nat.le_trans (Nat.add_le_add hsize hpayload) (by omega)
  · change (recordedLibraries artifact collections).untar
      ((recordedLibraries artifact collections).tar (recordedMembers collections)) = _
    rw [tar_recorded, untar_recorded]
    rfl
  · change (recordedLibraries artifact collections).jsonLoads
      (manifestPayload (recordedManifest collections)) = some (recordedManifest collections).sorted
    simp only [recordedLibraries, if_true]

end Recorded

def activeSite : SampleDocument := ⟨"north", "active"⟩

def siteCollections : List SampleCollection :=
  [⟨"Site", activeSite, "893cd43a405ae037f13f9fa543730878fe7ef77dd24de4b8c30410802a505c5f"⟩]

theorem small_siteCollections : Small siteCollections where
  names := by decide
  nodup := List.nodup_singleton _
  size := by decide
  manifest := by decide

def siteArtifact : Bytes :=
  List.flatten
    [[31, 139, 8, 0, 0, 0, 0, 0, 2, 255, 237, 213, 65, 107, 131, 48, 20, 7],
      [112, 207, 251, 20, 35, 215, 185, 245, 105, 98, 181, 126, 141, 237, 54, 134, 164, 241],
      [137, 110, 26, 139, 198, 194, 86, 250, 221, 23, 75, 161, 208, 195, 118, 105, 123, 216],
      [254, 63, 130, 209, 160, 121, 33, 248, 94, 76, 223, 182, 108, 92, 211, 219, 113, 241],
      [220, 56, 94, 208, 209, 211, 251, 216, 219, 54, 184, 132, 121, 186, 37, 81, 112, 156],
      [249, 188, 39, 82, 241, 233, 126, 30, 143, 100, 68, 81, 112, 79, 193, 13, 76, 163],
      [211, 131, 15, 31, 252, 79, 59, 81, 52, 165, 200, 133, 237, 7, 87, 139, 80, 248],
      [221, 112, 211, 232, 7, 180, 255, 41, 182, 44, 246, 119, 1, 252, 97, 157, 182, 77],
      [197, 163, 59, 164, 251, 149, 98, 252, 150, 255, 73, 122, 158, 255, 164, 124, 73, 64],
      [254, 223, 36, 255, 205, 233, 4, 16, 249, 78, 204, 135, 192, 220, 155, 122, 178, 31],
      [126, 228, 117, 39, 202, 222, 76, 29, 91, 231, 159, 162, 80, 116, 220, 173, 121, 240],
      [21, 194, 252, 124, 116, 204, 197, 164, 214, 113, 178, 244, 175, 102, 43, 105, 74, 37],
      [181, 162, 68, 51, 201, 180, 138, 100, 181, 170, 116, 162, 100, 42, 41, 75, 179, 138],
      [83, 174, 210, 180, 44, 99, 85, 178, 90, 103, 70, 146, 138, 40, 163, 88, 39, 148],
      [152, 164, 154, 231, 106, 190, 184, 88, 127, 58, 246, 171, 144, 106, 255, 22, 158, 45],
      [235, 138, 177, 246, 161, 48, 3, 107, 199, 101, 161, 157, 143, 16, 83, 188, 124, 164],
      [200, 183, 23, 162, 252, 208, 30, 14, 215, 249, 83, 83, 115, 167, 139, 45, 15, 163],
      [223, 24, 145, 199, 243, 80, 191, 225, 195, 126, 89, 55, 244, 109, 177, 105, 181, 245],
      [133, 21, 181, 7, 0, 0, 0, 0, 0, 0, 0, 0, 0, 0, 0, 0, 0, 0],
      [0, 46, 227, 27, 173, 58, 131, 148, 0, 40, 0, 0]]

def storedSites : List (String × Collection SampleDocument) :=
  [("Site", ⟨[activeSite], List.nodup_singleton _⟩)]

def siteLibraries : Libraries SampleDocument := recordedLibraries siteArtifact siteCollections

def siteBackup : BackupArtifact where
  output := siteArtifact
  record := ⟨siteLibraries.sha256 siteArtifact, false⟩
  manifest := recordedManifest siteCollections

/-- The sites since then: the stored one has been shut down, and there is another one. -/
def laterSites : Database String SampleDocument := fun name =>
  if name = "Site" then ⟨[⟨"north", "shutdown"⟩, ⟨"south", "active"⟩], by decide⟩
  else ⟨[], List.nodup_nil⟩

theorem roundTrips_activeSite : RoundTrips siteLibraries activeSite where
  loads := by rfl
  isLine := by
    unfold IsLine
    decide
  ne := by decide

theorem written_site : storedSites.foldlM (writeCollection siteLibraries (memberLimit sampleSettings))
    ([], []) = .ok (recordedWritten siteCollections) := by
  rfl

theorem createBackupArtifact_site : createBackupArtifact siteLibraries sampleSettings
    "control_plane" "2026-01-01T00:00:00+00:00" storedSites = .ok siteBackup := by
  have harchive : archiveBytes siteLibraries sampleSettings "control_plane"
      "2026-01-01T00:00:00+00:00" storedSites =
        .ok (siteArtifact, recordedManifest siteCollections) := by
    rw [archiveBytes, written_site]
    change Except.ok (siteLibraries.tar (recordedMembers siteCollections), _) = _
    rw [siteLibraries, tar_recorded]
    rfl
  rw [createBackupArtifact, if_neg (by decide), if_neg (by decide), harchive]
  rfl

/-- The restore brings the site back as it was, and keeps the one that is newer than the backup. -/
theorem restoreBackup_created_site : ∃ writes summary,
    restoreBackup siteLibraries orderlyServer laterSites sampleSettings siteBackup.record
      (some siteBackup.output) true = (writes, .ok summary) ∧
    summary.documents = 1 ∧
    (laterSites.after writes "Site").get? "north" = some activeSite ∧
    (laterSites.after writes "Site").get? "south" = some ⟨"south", "active"⟩ := by
  have hcodec : ∀ c ∈ storedSites, ∀ document ∈ c.2, RoundTrips siteLibraries document := by
    intro c hc document hdocument
    rw [List.mem_singleton.mp hc] at hdocument
    rw [List.mem_singleton.mp hdocument]
    exact roundTrips_activeSite
  have hnames : (storedSites.map Prod.fst).Nodup := List.nodup_singleton "Site"
  obtain ⟨hoverlay, hends⟩ := restoreBackup_created siteLibraries orderlyServer laterSites
    sampleSettings "control_plane" "2026-01-01T00:00:00+00:00" siteBackup hnames (by decide)
    hcodec written_site (readable_recorded small_siteCollections)
    (fun data stdout h => by cases h) createBackupArtifact_site
  obtain ⟨writes, summary, hrun, hdocuments⟩ := hends true (.inr fun _ _ _ => rfl)
  refine ⟨writes, summary, hrun, hdocuments, ?_, ?_⟩
  · rw [hoverlay writes summary hrun "Site" "north"]
    rfl
  · rw [hoverlay writes summary hrun "Site" "south"]
    rfl

end Grouproxy.Backups
