import Mathlib.Algebra.GroupWithZero.Nat
import Mathlib.Data.String.Basic
import Grouproxy.Library.Entries
import Grouproxy.Library.JsonReader
import Grouproxy.Verification.Backups.Chunks
import Grouproxy.Verification.Backups.MemberNames
import Grouproxy.Verification.Backups.Promises

/-! # An archive reads back

An archive that has been written is accepted, and the members of each collection hold its documents
in order.
-/

namespace Grouproxy.Backups

open Text Value Encoding Lines Collections Entries

variable {δ : Type} {libs : Libraries δ}

/-! ## Files -/

/-- The files of a collection in groups. -/
def groupFiles (name : String) (groups : List (List Bytes)) : Files :=
  groups.mapIdx fun index group => (chunkMemberName name index, group.flatten)

def groupNames (name : String) (groups : List (List Bytes)) : List String :=
  groups.mapIdx fun index _ => chunkMemberName name index

def packFiles (packs : Packs) : Files := packs.flatMap fun p => groupFiles p.1 p.2

/-- Packs under distinct names that name collections, of no more chunks than there are indexes. -/
structure Distinct (packs : Packs) : Prop where
  nodup : (packs.map Prod.fst).Nodup
  isName : ∀ p ∈ packs, isCollectionName p.1 = true
  chunks : ∀ p ∈ packs, p.2.length ≤ 10 ^ 8

theorem map_fst_groupFiles (name : String) (groups : List (List Bytes)) :
    (groupFiles name groups).map Prod.fst = groupNames name groups := by
  simp [groupFiles, groupNames, List.mapIdx_eq_zipIdx_map]

theorem mem_groupNames {name member : String} {groups : List (List Bytes)} :
    member ∈ groupNames name groups ↔
      ∃ index, index < groups.length ∧ member = chunkMemberName name index := by
  rw [groupNames, List.mem_mapIdx]
  constructor
  · rintro ⟨index, hindex, rfl⟩
    exact ⟨index, hindex, rfl⟩
  · rintro ⟨index, hindex, rfl⟩
    exact ⟨index, hindex, rfl⟩

theorem nodup_groupNames {name : String} (h : isCollectionName name = true)
    (groups : List (List Bytes)) : (groupNames name groups).Nodup := by
  rw [groupNames, List.nodup_iff_injective_getElem]
  intro i j hij
  simp only [List.getElem_mapIdx] at hij
  exact Fin.ext (chunkMemberName_inj h h hij).2

theorem map_fst_packFiles (packs : Packs) :
    (packFiles packs).map Prod.fst = packs.flatMap fun p => groupNames p.1 p.2 := by
  rw [packFiles, List.map_flatMap]
  simp only [map_fst_groupFiles]

theorem Distinct.of_cons {p : String × List (List Bytes)} {packs : Packs}
    (h : Distinct (p :: packs)) : Distinct packs where
  nodup := (List.nodup_cons.mp h.nodup).2
  isName := fun q hq => h.isName q (List.mem_cons_of_mem _ hq)
  chunks := fun q hq => h.chunks q (List.mem_cons_of_mem _ hq)

theorem Distinct.perm {packs others : Packs} (h : Distinct packs) (hperm : packs.Perm others) :
    Distinct others where
  nodup := (hperm.map Prod.fst).nodup_iff.mp h.nodup
  isName := fun p hp => h.isName p (hperm.mem_iff.mpr hp)
  chunks := fun p hp => h.chunks p (hperm.mem_iff.mpr hp)

/-- No member of one collection is a member of another. -/
theorem Distinct.not_mem {p : String × List (List Bytes)} {packs : Packs}
    (h : Distinct (p :: packs)) {member : String} (hmem : member ∈ groupNames p.1 p.2) :
    member ∉ packs.flatMap fun q => groupNames q.1 q.2 := by
  intro hother
  obtain ⟨q, hq, hmem'⟩ := List.mem_flatMap.mp hother
  obtain ⟨i, -, rfl⟩ := mem_groupNames.mp hmem
  obtain ⟨j, -, heq⟩ := mem_groupNames.mp hmem'
  have hname := (chunkMemberName_inj (h.isName p List.mem_cons_self)
    (h.isName q (List.mem_cons_of_mem _ hq)) heq).1
  apply (List.nodup_cons.mp h.nodup).1
  rw [hname]
  exact List.mem_map_of_mem hq

theorem Distinct.nodup_files {packs : Packs} (h : Distinct packs) :
    ((packFiles packs).map Prod.fst).Nodup := by
  rw [map_fst_packFiles]
  induction packs with
  | nil => exact List.nodup_nil
  | cons p packs ih =>
      rw [List.flatMap_cons, List.nodup_append']
      exact ⟨nodup_groupNames (h.isName p List.mem_cons_self) p.2, ih h.of_cons,
        fun member hmem => h.not_mem hmem⟩

/-! ## The checks of the manifest -/

/-- Metadata that describes the content is accepted, in whatever order its keys are. -/
theorem validateCollectionMetadata_ok {fields : List (String × Tree)} {documents sizeBytes : Nat}
    {digest : String} (hnodup : (fields.map Prod.fst).Nodup)
    (hdocuments : Value.Tree.get fields "documents" = .int documents)
    (hsize : Value.Tree.get fields "size_bytes" = .int sizeBytes)
    (hdigest : Value.Tree.get fields "sha256" = .str digest) :
    validateCollectionMetadata (.dict (Tree.sortKeys (Tree.sortedFields fields))) documents sizeBytes
      digest = .ok () := by
  rw [validateCollectionMetadata, Tree.get_sorted hnodup, Tree.get_sorted hnodup,
    Tree.get_sorted hnodup, hdocuments, hsize, hdigest]
  simp [Tree.sorted, asInt?, equalsInt, equalsText]

/-- The variables after the chunks of some groups. -/
def ChunkCheck.after (check : ChunkCheck) (name : String) (groups : List (List Bytes)) : ChunkCheck :=
  let names := (groups.zipIdx check.memberNames.length).map fun g => chunkMemberName name g.2
  ⟨check.expectedMembers ++ names, check.memberNames ++ names,
    check.content ++ groups.flatten.flatten, check.collectionDocuments + groups.flatten.length⟩

/-- The content of every group has as many documents as the group has lines. -/
def Counted (groups : List (List Bytes)) : Prop :=
  ∀ group ∈ groups, countDocuments group.flatten = group.length

theorem Chunk.nodup_fields (chunk : Chunk) : (chunk.fields.map Prod.fst).Nodup := by
  change ["member", "documents", "size_bytes", "sha256"].Nodup
  decide

theorem CollectionEntry.nodup_fields (entry : CollectionEntry) :
    (entry.fields.map Prod.fst).Nodup := by
  change ["documents", "size_bytes", "sha256", "chunks"].Nodup
  decide

theorem validateChunk_ok (libs : Libraries δ) {files : Files} {name : String} {check : ChunkCheck}
    {group : List Bytes}
    (hnew : chunkMemberName name check.memberNames.length ∉ check.expectedMembers)
    (hfile : files.lookup (chunkMemberName name check.memberNames.length) = some group.flatten)
    (hcount : countDocuments group.flatten = group.length) :
    validateChunk libs files name check
      (groupChunk libs name check.memberNames.length group).json.sorted =
        .ok (check.after name [group]) := by
  have hnodup := (groupChunk libs name check.memberNames.length group).nodup_fields
  have hmetadata : validateCollectionMetadata (.dict (Tree.sortKeys (Tree.sortedFields
      (groupChunk libs name check.memberNames.length group).fields))) group.length
      group.flatten.length (libs.sha256 group.flatten) = .ok () :=
    validateCollectionMetadata_ok hnodup rfl rfl rfl
  have hmember : equalsText (Value.Tree.get (Tree.sortKeys (Tree.sortedFields
      (groupChunk libs name check.memberNames.length group).fields)) "member")
      (chunkMemberName name check.memberNames.length) = true := by
    rw [Tree.get_sorted hnodup]
    exact beq_self_eq_true _
  rw [Chunk.json, Tree.sorted, validateChunk]
  dsimp only
  rw [if_neg (by simp [hmember, hnew]), hfile]
  dsimp only
  rw [hcount, hmetadata]
  simp [ChunkCheck.after]

theorem mem_expected_after {check : ChunkCheck} {name member : String} {group : List Bytes} :
    member ∈ (check.after name [group]).expectedMembers ↔
      member ∈ check.expectedMembers ∨ member = chunkMemberName name check.memberNames.length := by
  simp [ChunkCheck.after]

/-- The chunks of a collection are accepted one after another. -/
theorem validateChunks_ok (libs : Libraries δ) {files : Files} {name : String}
    (hname : isCollectionName name = true) (groups : List (List Bytes)) (check : ChunkCheck)
    (hnew : ∀ index, check.memberNames.length ≤ index →
      chunkMemberName name index ∉ check.expectedMembers)
    (hfiles : ∀ g ∈ groups.zipIdx check.memberNames.length,
      files.lookup (chunkMemberName name g.2) = some g.1.flatten)
    (hcount : Counted groups) :
    ((groups.zipIdx check.memberNames.length).map fun g =>
      (groupChunk libs name g.2 g.1).json.sorted).foldlM (validateChunk libs files name) check =
        .ok (check.after name groups) := by
  induction groups generalizing check with
  | nil => simp [ChunkCheck.after]; rfl
  | cons group groups ih =>
      rw [List.zipIdx_cons] at hfiles ⊢
      have hstep := validateChunk_ok libs (hnew _ (Nat.le_refl _))
        (hfiles (group, check.memberNames.length) List.mem_cons_self)
        (hcount group List.mem_cons_self)
      rw [List.map_cons, List.foldlM_cons, hstep]
      have hlength : (check.after name [group]).memberNames.length =
          check.memberNames.length + 1 := by
        simp [ChunkCheck.after]
      have hrest := ih (check.after name [group]) (by
        rw [hlength]
        intro index hindex hmem
        rcases mem_expected_after.mp hmem with hold | hlast
        · exact hnew index (by omega) hold
        · have hsame := (chunkMemberName_inj hname hname hlast).2
          omega) (by
        rw [hlength]
        exact fun g hg => hfiles g (List.mem_cons_of_mem _ hg))
        fun g hg => hcount g (List.mem_cons_of_mem _ hg)
      rw [hlength] at hrest
      change (List.foldlM _ (check.after name [group]) _) = _
      rw [hrest]
      simp [ChunkCheck.after, Nat.add_assoc]

/-- The files of the collection are there, and their lines are its documents. -/
structure Stored (files : Files) (p : String × List (List Bytes)) : Prop where
  ne : p.2 ≠ []
  lookup : ∀ g ∈ p.2.zipIdx, files.lookup (chunkMemberName p.1 g.2) = some g.1.flatten
  counted : Counted p.2

theorem groupNames_eq_zipIdx (name : String) (groups : List (List Bytes)) :
    groupNames name groups = groups.zipIdx.map fun g => chunkMemberName name g.2 := by
  simp [groupNames, List.mapIdx_eq_zipIdx_map]

/-- The entry of a collection, as it is read. -/
def readEntry (libs : Libraries δ) (name : String) (groups : List (List Bytes)) : Tree :=
  (groupedEntry libs name groups).json.sorted

theorem validateV2Collection_ok (libs : Libraries δ) {files : Files}
    {p : String × List (List Bytes)} {checked : Checked} (hname : isCollectionName p.1 = true)
    (hnew : ∀ index, chunkMemberName p.1 index ∉ checked.1) (h : Stored files p) :
    validateV2Collection libs files checked (p.1, readEntry libs p.1 p.2) =
      .ok (checked.1 ++ groupNames p.1 p.2, checked.2 ++ [(p.1, groupNames p.1 p.2)]) := by
  have hnodup := (groupedEntry libs p.1 p.2).nodup_fields
  have hmetadata : validateCollectionMetadata (.dict (Tree.sortKeys (Tree.sortedFields
      (groupedEntry libs p.1 p.2).fields))) p.2.flatten.length p.2.flatten.flatten.length
      (libs.sha256 p.2.flatten.flatten) = .ok () :=
    validateCollectionMetadata_ok hnodup rfl rfl rfl
  have hchunks : Value.Tree.get (Tree.sortKeys (Tree.sortedFields (groupedEntry libs p.1 p.2).fields))
      "chunks" = .list (p.2.zipIdx.map fun g => (groupChunk libs p.1 g.2 g.1).json.sorted) := by
    rw [Tree.get_sorted hnodup]
    change Tree.sorted (.list ((p.2.mapIdx (groupChunk libs p.1)).map Chunk.json)) = _
    rw [Tree.sorted, Tree.sortedList_eq_map, List.mapIdx_eq_zipIdx_map, List.map_map, List.map_map]
    rfl
  have hfold := validateChunks_ok libs hname p.2 ⟨checked.1, [], [], 0⟩
    (fun index _ => hnew index) h.lookup h.counted
  obtain ⟨chunk, chunks, hcons⟩ := List.exists_cons_of_ne_nil
    (l := p.2.zipIdx.map fun g => (groupChunk libs p.1 g.2 g.1).json.sorted) (by simpa using h.ne)
  change (List.map _ (p.2.zipIdx 0)).foldlM _ _ = _ at hfold
  rw [hcons] at hchunks hfold
  rw [readEntry, CollectionEntry.json, Tree.sorted, validateV2Collection]
  dsimp only
  rw [if_neg (by simp [hname]), hchunks]
  dsimp only
  rw [hfold]
  change (validateCollectionMetadata _ (0 + p.2.flatten.length) p.2.flatten.flatten.length
    (libs.sha256 p.2.flatten.flatten) >>= _) = _
  rw [Nat.zero_add, hmetadata, groupNames_eq_zipIdx]
  rfl

/-- The collections are accepted one after another. -/
theorem validateCollections_ok (libs : Libraries δ) {files : Files} {packs : Packs}
    (hpacks : Distinct packs) (checked : Checked)
    (hnew : ∀ p ∈ packs, ∀ index, chunkMemberName p.1 index ∉ checked.1)
    (h : ∀ p ∈ packs, Stored files p) :
    (packs.map fun p => (p.1, readEntry libs p.1 p.2)).foldlM (validateV2Collection libs files)
      checked =
      .ok (checked.1 ++ packs.flatMap (fun p => groupNames p.1 p.2),
        checked.2 ++ packs.map fun p => (p.1, groupNames p.1 p.2)) := by
  induction packs generalizing checked with
  | nil => simp; rfl
  | cons p packs ih =>
      have hstep := validateV2Collection_ok libs (hpacks.isName p List.mem_cons_self)
        (hnew p List.mem_cons_self) (h p List.mem_cons_self)
      have hrest := ih hpacks.of_cons
        (checked.1 ++ groupNames p.1 p.2, checked.2 ++ [(p.1, groupNames p.1 p.2)])
        (by
          intro q hq index hmem
          rcases List.mem_append.mp hmem with hold | hfirst
          · exact hnew q (List.mem_cons_of_mem _ hq) index hold
          · obtain ⟨j, -, heq⟩ := mem_groupNames.mp hfirst
            have hsame := (chunkMemberName_inj (hpacks.isName q (List.mem_cons_of_mem _ hq))
              (hpacks.isName p List.mem_cons_self) heq).1
            apply (List.nodup_cons.mp hpacks.nodup).1
            rw [← hsame]
            exact List.mem_map_of_mem hq)
        fun q hq => h q (List.mem_cons_of_mem _ hq)
      rw [List.map_cons, List.foldlM_cons, hstep]
      change (List.foldlM _ _ _) = _
      rw [hrest, List.flatMap_cons, List.map_cons, List.append_assoc, List.append_assoc]
      rfl

/-- The manifest of the packs is accepted with their files. -/
theorem validateArchive_ok (libs : Libraries δ) {packs : Packs} (hpacks : Distinct packs)
    (h : ∀ p ∈ packs, Stored (packFiles packs) p) :
    validateArchive (validateV2Collection libs)
      (Tree.sortKeys (packs.map fun p => (p.1, readEntry libs p.1 p.2))) (packFiles packs) =
      .ok ((Tree.sortKeys packs).map fun p => (p.1, groupNames p.1 p.2)) := by
  have hperm := Tree.perm_sortKeys packs
  have hfold := validateCollections_ok libs (hpacks.perm hperm.symm) ([], [])
    (fun p _ index => List.not_mem_nil) fun p hp => h p (hperm.mem_iff.mp hp)
  have hsame : sameMembers (packFiles packs)
      ((Tree.sortKeys packs).flatMap fun p => groupNames p.1 p.2) = true := by
    have hmem : ∀ member, member ∈ (Tree.sortKeys packs).flatMap (fun p => groupNames p.1 p.2) ↔
        member ∈ (packFiles packs).map Prod.fst := by
      intro member
      rw [map_fst_packFiles]
      exact (hperm.flatMap_right _).mem_iff
    rw [sameMembers, Bool.and_eq_true, List.all_eq_true, List.all_eq_true]
    constructor
    · intro file hfile
      exact decide_eq_true ((hmem _).mpr (List.mem_map_of_mem hfile))
    · intro member hmember
      exact decide_eq_true ((hmem _).mp hmember)
  rw [validateArchive, Tree.sortKeys_map fun name groups => readEntry libs name groups, hfold]
  simp only [bind, Except.bind, List.nil_append, hsame]
  rfl

/-- The version and the collections of a manifest, in whatever order its keys are. -/
theorem readManifest_sorted {fields collections : List (String × Tree)}
    (hnodup : (fields.map Prod.fst).Nodup)
    (hversion : Value.Tree.get fields "schema_version" = .int backupSchemaVersion)
    (hcollections : Value.Tree.get fields "collections" = .dict collections) :
    readManifest (.dict (Tree.sortKeys (Tree.sortedFields fields))) =
      .ok (backupSchemaVersion, Tree.sortKeys (Tree.sortedFields collections)) := by
  rw [readManifest, Tree.get_sorted hnodup, Tree.get_sorted hnodup, hversion, hcollections]
  simp [Tree.sorted, asInt?, supportedBackupSchemaVersions]

theorem readManifest_ok (libs : Libraries δ) (scope createdAt : String) (packs : Packs) :
    readManifest (manifestJson scope createdAt (packed libs packs).1).sorted =
      .ok (backupSchemaVersion,
        Tree.sortKeys (packs.map fun p => (p.1, readEntry libs p.1 p.2))) := by
  have hcollections : Tree.sortedFields ((packed libs packs).1.map fun c : String × CollectionEntry =>
      (c.1, c.2.json)) = packs.map fun p => (p.1, readEntry libs p.1 p.2) := by
    rw [Tree.sortedFields_eq_map, packed, List.map_map, List.map_map]
    rfl
  rw [manifestJson, Tree.sorted, ← hcollections]
  apply readManifest_sorted
  · change ["schema_version", "scope", "created_at", "collections"].Nodup
    decide
  · rfl
  · rfl

/-! ## The documents of the groups -/

/-- The codec of the documents, as far as a document needs it: the line reads back, has no line
break in it, and is not empty. -/
structure RoundTrips (libs : Libraries δ) (document : δ) : Prop where
  loads : libs.loads (libs.dumps document) = .document document
  isLine : IsLine (libs.dumps document)
  ne : libs.dumps document ≠ []

/-- Groups of images are images of groups. -/
theorem exists_groups {α β : Type} {f : α → β} {groups : List (List β)} {xs : List α}
    (h : groups.flatten = xs.map f) :
    ∃ parts : List (List α), groups = parts.map (List.map f) ∧ parts.flatten = xs := by
  induction groups generalizing xs with
  | nil =>
      rw [List.flatten_nil, eq_comm, List.map_eq_nil_iff] at h
      exact ⟨[], rfl, h.symm⟩
  | cons group groups ih =>
      rw [List.flatten_cons, eq_comm, List.map_eq_append_iff] at h
      obtain ⟨first, rest, rfl, hfirst, hrest⟩ := h
      obtain ⟨parts, hparts, hflatten⟩ := ih hrest.symm
      exact ⟨first :: parts, by rw [List.map_cons, hfirst, hparts], by rw [List.flatten_cons, hflatten]⟩

/-- The lines of a group are its documents. -/
theorem splitlines_group {documents : List δ}
    (h : ∀ document ∈ documents, RoundTrips libs document) :
    splitlines (documents.map (documentLine libs)).flatten = documents.map libs.dumps := by
  have hflatten : (documents.map (documentLine libs)).flatten =
      (documents.map libs.dumps).flatMap terminated := by
    rw [List.flatMap_def, List.map_map]
    rfl
  rw [hflatten]
  apply splitlines_flatMap_terminated
  intro line hline
  obtain ⟨document, hdocument, rfl⟩ := List.mem_map.mp hline
  exact (h document hdocument).isLine

theorem filter_dumps {documents : List δ} (h : ∀ document ∈ documents, RoundTrips libs document) :
    (documents.map libs.dumps).filter (fun line => line ≠ []) = documents.map libs.dumps := by
  rw [List.filter_eq_self]
  intro line hline
  obtain ⟨document, hdocument, rfl⟩ := List.mem_map.mp hline
  simpa using (h document hdocument).ne

section Grouping

variable {limit : Nat} {documents : List δ} {groups : List (List Bytes)}

theorem Grouping.counted (hgroups : Grouping limit (documents.map (documentLine libs)) groups)
    (h : ∀ document ∈ documents, RoundTrips libs document) : Counted groups := by
  obtain ⟨parts, rfl, rfl⟩ := exists_groups hgroups.flatten
  intro group hgroup
  obtain ⟨part, hpart, rfl⟩ := List.mem_map.mp hgroup
  have hpart : ∀ document ∈ part, RoundTrips libs document := fun document hdocument =>
    h document (List.mem_flatten.mpr ⟨part, hpart, hdocument⟩)
  rw [countDocuments, splitlines_group hpart, filter_dumps hpart, List.length_map, List.length_map]

/-- The lines of all groups load to the documents in order. -/
theorem Grouping.loaded (hgroups : Grouping limit (documents.map (documentLine libs)) groups)
    (h : ∀ document ∈ documents, RoundTrips libs document) :
    loadedLines libs (groups.flatMap fun group => splitlines group.flatten) =
      documents.map .document := by
  obtain ⟨parts, rfl, rfl⟩ := exists_groups hgroups.flatten
  have hlines : (parts.map (List.map (documentLine libs))).flatMap
      (fun group => splitlines group.flatten) = parts.flatten.map libs.dumps := by
    rw [List.flatMap_map, List.map_flatten, ← List.flatMap_def]
    apply List.flatMap_congr
    intro part hpart
    exact splitlines_group fun document hdocument =>
      h document (List.mem_flatten.mpr ⟨part, hpart, hdocument⟩)
  rw [hlines, loadedLines, filter_dumps h, List.map_map]
  exact List.map_congr_left fun document hdocument => (h document hdocument).loads

end Grouping

/-! ## Written archives -/

theorem archiveMembers_packed (libs : Libraries δ) (scope createdAt : String) (packs : Packs) :
    archiveMembers scope createdAt (packed libs packs) =
      (packFiles packs ++ [("manifest.json",
        manifestPayload (manifestJson scope createdAt (packed libs packs).1))]).map
          fun file => tarMember file.1 file.2 := by
  rw [archiveMembers, packed, List.map_append, packFiles, List.map_flatMap]
  simp only [groupFiles, List.mapIdx_eq_zipIdx_map, List.map_map]
  rfl

theorem stored_of_mem {packs : Packs} (h : Distinct packs) {p : String × List (List Bytes)}
    (hp : p ∈ packs) (hne : p.2 ≠ []) (hcount : Counted p.2) : Stored (packFiles packs) p := by
  refine ⟨hne, ?_, hcount⟩
  intro g hg
  apply lookup_of_mem h.nodup_files
  refine List.mem_flatMap.mpr ⟨p, hp, ?_⟩
  rw [groupFiles, List.mapIdx_eq_zipIdx_map]
  exact List.mem_map_of_mem hg

/-- The lines of the members of a stored collection. -/
theorem memberLines_stored {files : Files} {p : String × List (List Bytes)} (h : Stored files p) :
    memberLines files (groupNames p.1 p.2) = p.2.flatMap fun group => splitlines group.flatten := by
  have hlines : ∀ g ∈ p.2.zipIdx, splitlines ((files.lookup (chunkMemberName p.1 g.2)).getD []) =
      splitlines g.1.flatten := by
    intro g hg
    rw [h.lookup g hg]
    rfl
  have hindexed : p.2.zipIdx.flatMap (fun g => splitlines g.1.flatten) =
      (p.2.zipIdx.map Prod.fst).flatMap fun group => splitlines group.flatten := by
    rw [List.flatMap_map]
  rw [memberLines, groupNames_eq_zipIdx, List.flatMap_map, List.flatMap_congr hlines, hindexed,
    List.zipIdx_map_fst]

/-- What is assumed of the archiver and of the manifest's codec, and of the sizes: every chunk has
an index of eight digits, the manifest fits into a member, and all members fit into the archive. -/
structure Readable (libs : Libraries δ) (settings : Settings) (scope createdAt : String)
    (written : Written) : Prop where
  chunks : ∀ c ∈ written.1, c.2.chunks.length ≤ 10 ^ 8
  manifest : (manifestPayload (manifestJson scope createdAt written.1)).length ≤ memberLimit settings
  total : ((archiveMembers scope createdAt written).map Member.size).sum ≤ archiveLimit settings
  untar : libs.untar (libs.tar (archiveMembers scope createdAt written)) =
    some (archiveMembers scope createdAt written)
  loads : libs.jsonLoads (manifestPayload (manifestJson scope createdAt written.1)) =
    some (manifestJson scope createdAt written.1).sorted

section Written

variable {κ : Type} [LinearOrder κ] [Document κ δ] {settings : Settings} {scope createdAt : String}
  {collections : List (String × Collection δ)} {packs : Packs}

theorem distinct_of_packing (hpacks : IsPacking libs (memberLimit settings) collections packs)
    (hnames : (collections.map Prod.fst).Nodup)
    (hisName : ∀ c ∈ collections, isCollectionName c.1 = true)
    (hreadable : Readable libs settings scope createdAt (packed libs packs)) : Distinct packs where
  nodup := by
    rw [hpacks.map_fst]
    exact hnames
  isName := by
    intro p hp
    have hmem : p.1 ∈ collections.map Prod.fst := by
      rw [← hpacks.map_fst]
      exact List.mem_map_of_mem hp
    obtain ⟨c, hc, hsame⟩ := List.mem_map.mp hmem
    rw [← hsame]
    exact hisName c hc
  chunks := by
    intro p hp
    have hlength := hreadable.chunks (p.1, groupedEntry libs p.1 p.2)
      (List.mem_map.mpr ⟨p, hp, rfl⟩)
    simpa [groupedEntry] using hlength

/-- No member of a collection is named as the manifest. -/
theorem manifest_not_mem (packs : Packs) : "manifest.json" ∉ (packFiles packs).map Prod.fst := by
  rw [map_fst_packFiles]
  intro hmem
  obtain ⟨p, -, hmem⟩ := List.mem_flatMap.mp hmem
  obtain ⟨index, -, hname⟩ := mem_groupNames.mp hmem
  exact chunkMemberName_ne_manifest p.1 index hname.symm

/-- The files of the packs, and the manifest. -/
def writtenFiles (packs : Packs) (manifest : Bytes) : Files :=
  packFiles packs ++ [("manifest.json", manifest)]

theorem nodup_writtenFiles (hpacks : Distinct packs) (manifest : Bytes) :
    ((writtenFiles packs manifest).map Prod.fst).Nodup := by
  rw [writtenFiles, List.map_append, List.nodup_append']
  exact ⟨hpacks.nodup_files, List.nodup_singleton _, by simpa using manifest_not_mem packs⟩

theorem lookup_writtenFiles (hpacks : Distinct packs) (manifest : Bytes) :
    (writtenFiles packs manifest).lookup "manifest.json" = some manifest := by
  apply lookup_of_mem (nodup_writtenFiles hpacks manifest)
  simp [writtenFiles]

theorem filter_writtenFiles (packs : Packs) (manifest : Bytes) :
    (writtenFiles packs manifest).filter (fun file => file.1 ≠ "manifest.json") =
      packFiles packs := by
  have hkept : ∀ file ∈ packFiles packs, decide (file.1 ≠ "manifest.json") = true := by
    intro file hfile
    apply decide_eq_true
    intro hname
    apply manifest_not_mem packs
    rw [← hname]
    exact List.mem_map_of_mem hfile
  rw [writtenFiles, List.filter_append, List.filter_eq_self.mpr hkept]
  simp

/-- The members of a written archive are read as the files of its packs and the manifest. -/
theorem readFiles_ok (hpacks : Distinct packs)
    (hfits : ∀ p ∈ packs, ∀ group ∈ p.2, group.flatten.length ≤ memberLimit settings)
    (hreadable : Readable libs settings scope createdAt (packed libs packs)) :
    readFiles libs settings (libs.tar (archiveMembers scope createdAt (packed libs packs))) =
      .ok (writtenFiles packs (manifestPayload (manifestJson scope createdAt
        (packed libs packs).1))) := by
  have hfile : ∀ file ∈ packFiles packs, ∃ p ∈ packs, ∃ index, ∃ group ∈ p.2,
      index < 10 ^ 8 ∧ file = (chunkMemberName p.1 index, group.flatten) := by
    intro file hfile
    obtain ⟨p, hp, hmem⟩ := List.mem_flatMap.mp hfile
    obtain ⟨index, hindex, rfl⟩ := List.mem_mapIdx.mp hmem
    exact ⟨p, hp, index, _, List.getElem_mem hindex, Nat.lt_of_lt_of_le hindex (hpacks.chunks p hp),
      rfl⟩
  have htotal := hreadable.total
  rw [archiveMembers_packed, List.map_map] at htotal
  obtain ⟨total, hread⟩ := readMembers_ok (memberLimit settings) (archiveLimit settings) [] 0
    (writtenFiles packs (manifestPayload (manifestJson scope createdAt (packed libs packs).1)))
    (by
      intro file hmem
      rcases List.mem_append.mp hmem with hmem | hlast
      · obtain ⟨p, hp, index, group, -, hindex, rfl⟩ := hfile file hmem
        right
        rw [collectionNameFromMember_chunkMemberName (hpacks.isName p hp) hindex]
        rfl
      · rw [List.mem_singleton.mp hlast]
        exact .inl rfl)
    (by
      rw [List.map_nil, List.nil_append]
      exact nodup_writtenFiles hpacks _)
    (by
      intro file hmem
      rcases List.mem_append.mp hmem with hmem | hlast
      · obtain ⟨p, hp, index, group, hgroup, -, rfl⟩ := hfile file hmem
        exact hfits p hp group hgroup
      · rw [List.mem_singleton.mp hlast]
        exact hreadable.manifest)
    (by
      rw [Nat.zero_add]
      exact htotal)
  rw [readFiles, hreadable.untar]
  dsimp only
  rw [archiveMembers_packed]
  rw [writtenFiles] at hread ⊢
  rw [hread]
  rfl

/-- A written archive is accepted. -/
theorem readArchive_packed (hpacks : Distinct packs)
    (hstored : ∀ p ∈ packs, Stored (packFiles packs) p)
    (hfits : ∀ p ∈ packs, ∀ group ∈ p.2, group.flatten.length ≤ memberLimit settings)
    (hreadable : Readable libs settings scope createdAt (packed libs packs))
    {record : BackupRecord} {artifact : Option Bytes}
    (hopen : openArtifact libs settings record artifact =
      .ok (libs.tar (archiveMembers scope createdAt (packed libs packs)))) :
    readArchive libs settings record artifact =
      .ok ⟨(manifestJson scope createdAt (packed libs packs).1).sorted, packFiles packs,
        (Tree.sortKeys packs).map fun p => (p.1, groupNames p.1 p.2)⟩ := by
  rw [readArchive, hopen]
  change (readFiles libs settings _ >>= _) = _
  rw [readFiles_ok hpacks hfits hreadable]
  simp only [bind, Except.bind]
  rw [lookup_writtenFiles hpacks]
  dsimp only
  rw [hreadable.loads]
  dsimp only
  rw [readManifest_ok, filter_writtenFiles]
  dsimp only
  rw [if_neg (by decide), validateArchive_ok libs hpacks hstored]
  rfl

/-- What the collections of the archive read as. -/
structure ReadsAs (libs : Libraries δ) (collections : List (String × Collection δ))
    (archive : Archive) : Prop where
  names : (archive.members.map Prod.fst).Perm (collections.map Prod.fst)
  documents : ∀ c ∈ collections, ∃ memberNames, archive.members.lookup c.1 = some memberNames ∧
    loadedLines libs (memberLines archive.files memberNames) =
      (sortedDocuments c.2).map .document

/-- The pack of a collection. -/
theorem IsPacking.exists_pack (hpacks : IsPacking libs (memberLimit settings) collections packs)
    {c : String × Collection δ} (hc : c ∈ collections) : ∃ groups, (c.1, groups) ∈ packs ∧
      Grouping (memberLimit settings) ((sortedDocuments c.2).map (documentLine libs)) groups := by
  induction hpacks with
  | nil => cases hc
  | @cons first p _ _ hp _ ih =>
      rcases List.mem_cons.mp hc with hhead | htail
      · refine ⟨p.2, ?_, ?_⟩
        · rw [hhead, ← hp.1]
          exact List.mem_cons_self
        · rw [hhead]
          exact hp.2
      · obtain ⟨groups, hmem, hgroups⟩ := ih htail
        exact ⟨groups, List.mem_cons_of_mem _ hmem, hgroups⟩

/-- Every pack is the pack of a collection. -/
theorem IsPacking.exists_collection
    (hpacks : IsPacking libs (memberLimit settings) collections packs)
    {p : String × List (List Bytes)} (hp : p ∈ packs) : ∃ c ∈ collections,
      Grouping (memberLimit settings) ((sortedDocuments c.2).map (documentLine libs)) p.2 := by
  induction hpacks with
  | nil => cases hp
  | @cons c first _ _ hfirst _ ih =>
      rcases List.mem_cons.mp hp with hhead | htail
      · rw [hhead]
        exact ⟨c, List.mem_cons_self, hfirst.2⟩
      · obtain ⟨other, hother, hgroups⟩ := ih htail
        exact ⟨other, List.mem_cons_of_mem _ hother, hgroups⟩

theorem mem_sortedDocuments {collection : Collection δ} {document : δ} :
    document ∈ sortedDocuments (κ := κ) collection ↔ document ∈ collection :=
  (List.perm_insertionSort _ _).mem_iff

/-- An archive of packs is accepted and reads as the collections. -/
theorem readsAs_packed (hpacks : IsPacking libs (memberLimit settings) collections packs)
    (hnames : (collections.map Prod.fst).Nodup)
    (hisName : ∀ c ∈ collections, isCollectionName c.1 = true)
    (hcodec : ∀ c ∈ collections, ∀ document ∈ c.2, RoundTrips libs document)
    (hreadable : Readable libs settings scope createdAt (packed libs packs))
    {record : BackupRecord} {artifact : Option Bytes}
    (hopen : openArtifact libs settings record artifact =
      .ok (libs.tar (archiveMembers scope createdAt (packed libs packs)))) :
    ∃ archive, readArchive libs settings record artifact = .ok archive ∧
      ReadsAs libs collections archive := by
  have hdistinct := distinct_of_packing hpacks hnames hisName hreadable
  have hdocuments : ∀ c ∈ collections, ∀ document ∈ sortedDocuments c.2,
      RoundTrips libs document := fun c hc document hdocument =>
    hcodec c hc document (mem_sortedDocuments.mp hdocument)
  have hstored : ∀ p ∈ packs, Stored (packFiles packs) p := by
    intro p hp
    obtain ⟨c, hc, hgroups⟩ := hpacks.exists_collection hp
    exact stored_of_mem hdistinct hp hgroups.ne (hgroups.counted (hdocuments c hc))
  have hfits : ∀ p ∈ packs, ∀ group ∈ p.2, group.flatten.length ≤ memberLimit settings := by
    intro p hp
    obtain ⟨c, -, hgroups⟩ := hpacks.exists_collection hp
    exact hgroups.fits
  refine ⟨_, readArchive_packed hdistinct hstored hfits hreadable hopen, ?_⟩
  have hmembers : ((Tree.sortKeys packs).map fun p => (p.1, groupNames p.1 p.2)).map Prod.fst =
      (Tree.sortKeys packs).map Prod.fst := by
    rw [List.map_map]
    rfl
  have hperm : ((Tree.sortKeys packs).map Prod.fst).Perm (packs.map Prod.fst) :=
    (Tree.perm_sortKeys packs).map Prod.fst
  constructor
  · rw [hmembers, ← hpacks.map_fst]
    exact hperm
  · intro c hc
    obtain ⟨groups, hmem, hgroups⟩ := hpacks.exists_pack hc
    refine ⟨groupNames c.1 groups, ?_, ?_⟩
    · apply lookup_of_mem
      · rw [hmembers]
        exact hperm.nodup_iff.mpr hdistinct.nodup
      · exact List.mem_map.mpr ⟨(c.1, groups), (Tree.perm_sortKeys packs).mem_iff.mpr hmem, rfl⟩
    · rw [memberLines_stored (hstored _ hmem)]
      exact hgroups.loaded (hdocuments c hc)

/-- What is assumed of the cipher: what it has encrypted it decrypts. -/
def Deciphers (libs : Libraries δ) (key : String) : Prop :=
  ∀ data stdout, libs.openssl false key data = .exit 0 stdout →
    libs.openssl true key stdout = .exit 0 data

theorem crypt_encrypted {key : String} (hcipher : Deciphers libs key) {data output : Bytes}
    (h : crypt libs data key false = .ok output) : crypt libs output key true = .ok data := by
  rw [crypt] at h ⊢
  by_cases hinstalled : libs.hasOpenssl = false
  · rw [if_pos hinstalled] at h
    cases h
  by_cases hkey : key = ""
  · rw [if_neg hinstalled, if_pos hkey] at h
    cases h
  rw [if_neg hinstalled, if_neg hkey] at h ⊢
  cases hrun : libs.openssl false key data with
  | error =>
      rw [hrun] at h
      cases h
  | exit status stdout =>
      rw [hrun] at h
      by_cases hstatus : status = 0
      · subst hstatus
        cases h
        rw [hcipher data _ hrun]
        rfl
      · simp [hstatus] at h

/-- A created artifact opens to its archive, encrypted or not. -/
theorem openArtifact_created (hcipher : Deciphers libs settings.backupEncryptionKey)
    {artifact : BackupArtifact} {archive : Bytes} {manifest : Tree}
    (harchive : archiveBytes libs settings scope createdAt collections = .ok (archive, manifest))
    (h : createBackupArtifact libs settings scope createdAt collections = .ok artifact) :
    openArtifact libs settings artifact.record (some artifact.output) = .ok archive := by
  rw [createBackupArtifact] at h
  split_ifs at h
  rw [harchive] at h
  simp only [bind, Except.bind] at h
  by_cases hkey : settings.backupEncryptionKey = ""
  · simp only [hkey, ne_eq, not_true_eq_false, decide_false, Bool.false_eq_true, if_false] at h
    cases h
    simp [openArtifact]
  · simp only [hkey, ne_eq, not_false_eq_true, decide_true, if_true] at h
    cases hrun : crypt libs archive settings.backupEncryptionKey false with
    | error e =>
        rw [hrun] at h
        cases h
    | ok output =>
        rw [hrun] at h
        cases h
        simp [openArtifact, crypt_encrypted hcipher hrun]

/-- Collections whose documents fit are archived, and within the limits the archive is accepted and
reads as them. -/
theorem readArchive_written (libs : Libraries δ) (settings : Settings) (scope createdAt : String)
    (hnames : (collections.map Prod.fst).Nodup)
    (hisName : ∀ c ∈ collections, isCollectionName c.1 = true)
    (hcodec : ∀ c ∈ collections, ∀ document ∈ c.2, RoundTrips libs document)
    (hlines : ∀ c ∈ collections, ∀ document ∈ c.2,
      (documentLine libs document).length ≤ memberLimit settings) :
    ∃ written, collections.foldlM (writeCollection libs (memberLimit settings)) ([], []) =
        .ok written ∧
      archiveBytes libs settings scope createdAt collections =
        .ok (libs.tar (archiveMembers scope createdAt written),
          manifestJson scope createdAt written.1) ∧
      (Readable libs settings scope createdAt written →
        (∀ record artifact, openArtifact libs settings record artifact =
          .ok (libs.tar (archiveMembers scope createdAt written)) →
          ∃ archive, readArchive libs settings record artifact = .ok archive ∧
            ReadsAs libs collections archive) ∧
        ∀ artifact, Deciphers libs settings.backupEncryptionKey →
          createBackupArtifact libs settings scope createdAt collections = .ok artifact →
          ∃ archive, readArchive libs settings artifact.record (some artifact.output) =
            .ok archive ∧ ReadsAs libs collections archive) := by
  obtain ⟨packs, hpacks, hwritten⟩ := @exists_packs _ libs _ _ _ _ [] _ hnames hlines
  rw [List.nil_append] at hwritten
  have harchive : archiveBytes libs settings scope createdAt collections =
      .ok (libs.tar (archiveMembers scope createdAt (packed libs packs)),
        manifestJson scope createdAt (packed libs packs).1) := by
    rw [archiveBytes]
    change (collections.foldlM _ (packed libs []) >>= _) = _
    rw [hwritten]
    rfl
  refine ⟨packed libs packs, hwritten, harchive, ?_⟩
  intro hreadable
  constructor
  · intro record artifact hopen
    exact readsAs_packed hpacks hnames hisName hcodec hreadable hopen
  · intro artifact hcipher hcreated
    exact readsAs_packed hpacks hnames hisName hcodec hreadable
      (openArtifact_created hcipher harchive hcreated)

end Written

/-! ## The codec of the manifest -/

/-- `json.loads` of the bytes of a text. -/
def readJson (float : String → Option Float64) (bytes : Bytes) : Option Tree :=
  (String.fromUTF8? bytes.toByteArray).bind fun text => JsonReader.read float text.toList

theorem readJson_manifestPayload (float : String → Option Float64) {depth : Nat} {manifest : Tree}
    (h : JsonReader.IsPlain depth manifest) :
    readJson float (manifestPayload manifest) = some manifest.sorted := by
  have hdecode : ∀ text : String, String.fromUTF8? text.toUTF8 = some text := fun text =>
    dif_pos text.isValidUTF8
  rw [readJson, manifestPayload, toByteArray_bytesOf, hdecode, Option.bind_some,
    String.toList_ofList, JsonReader.read_dumps float h]

/-- The numbers in a manifest are ones that a `float64` holds. -/
structure SizesFit (written : Written) : Prop where
  entries : ∀ c ∈ written.1, c.2.documents < 2 ^ 53 ∧ c.2.sizeBytes < 2 ^ 53
  chunks : ∀ c ∈ written.1, ∀ chunk ∈ c.2.chunks,
    chunk.documents < 2 ^ 53 ∧ chunk.sizeBytes < 2 ^ 53

theorem Chunk.isPlain {chunk : Chunk} (hdocuments : chunk.documents < 2 ^ 53)
    (hsize : chunk.sizeBytes < 2 ^ 53) : JsonReader.IsPlain 1 chunk.json := by
  refine .dict 0 chunk.fields chunk.nodup_fields ?_
  simp only [Chunk.fields, List.forall_mem_cons]
  exact ⟨.str 0 _, .int 0 _ (by simpa using hdocuments), .int 0 _ (by simpa using hsize), .str 0 _,
    fun f hf => absurd hf List.not_mem_nil⟩

theorem isPlain_manifestJson (scope createdAt : String) {written : Written}
    (hnames : (written.1.map Prod.fst).Nodup) (h : SizesFit written) :
    JsonReader.IsPlain 5 (manifestJson scope createdAt written.1) := by
  have hentry : ∀ c ∈ written.1, JsonReader.IsPlain 3 c.2.json := by
    intro c hc
    have hchunks : JsonReader.IsPlain 2 (.list (c.2.chunks.map Chunk.json)) := by
      refine .list 1 _ ?_
      intro item hitem
      obtain ⟨chunk, hchunk, rfl⟩ := List.mem_map.mp hitem
      exact Chunk.isPlain (h.chunks c hc chunk hchunk).1 (h.chunks c hc chunk hchunk).2
    refine .dict 2 c.2.fields c.2.nodup_fields ?_
    simp only [CollectionEntry.fields, List.forall_mem_cons]
    exact ⟨.int 2 _ (by simpa using (h.entries c hc).1), .int 2 _ (by simpa using (h.entries c hc).2),
      .str 2 _, hchunks, fun f hf => absurd hf List.not_mem_nil⟩
  have hcollections : JsonReader.IsPlain 4
      (.dict (written.1.map fun c => (c.1, c.2.json))) := by
    refine .dict 3 _ (by simpa [Function.comp_def] using hnames) ?_
    intro f hf
    obtain ⟨c, hc, rfl⟩ := List.mem_map.mp hf
    exact hentry c hc
  refine .dict 4 _ (by simp) ?_
  simp only [List.forall_mem_cons]
  exact ⟨.int 4 _ (by decide), .str 4 _, .str 4 _, hcollections,
    fun f hf => absurd hf List.not_mem_nil⟩

/-- The reader of JSON gives back the manifest that was written. -/
theorem jsonLoads_manifest {float : String → Option Float64} (hlibs : libs.jsonLoads = readJson float)
    (scope createdAt : String) {written : Written} (hnames : (written.1.map Prod.fst).Nodup)
    (h : SizesFit written) :
    libs.jsonLoads (manifestPayload (manifestJson scope createdAt written.1)) =
      some (manifestJson scope createdAt written.1).sorted := by
  rw [hlibs, readJson_manifestPayload float (isPlain_manifestJson scope createdAt hnames h)]

/-! ## Sizes -/

theorem size_utf8Encode_le (cs : List Char) : cs.utf8Encode.size ≤ 4 * cs.length := by
  induction cs with
  | nil => simp
  | cons c cs ih =>
      have hchar := c.utf8Size_le_four
      rw [List.utf8Encode_cons, ByteArray.size_append, List.utf8Encode_singleton,
        List.size_toByteArray, String.length_utf8EncodeChar, List.length_cons]
      omega

/-- The size of a manifest is bounded by the number of its characters. -/
theorem length_manifestPayload_le (manifest : Tree) :
    (manifestPayload manifest).length ≤ 4 * manifest.dumps.length := by
  rw [manifestPayload, length_bytesOf, String.utf8ByteSize, String.toByteArray_ofList]
  exact size_utf8Encode_le _

theorem sum_archiveMembers (scope createdAt : String) (written : Written) :
    ((archiveMembers scope createdAt written).map Member.size).sum =
      (written.2.map Member.size).sum +
        (manifestPayload (manifestJson scope createdAt written.1)).length := by
  rw [archiveMembers, List.map_append, List.sum_append]
  rfl

/-! ## The archive of a full collection -/

/-- A status of 400000 characters, which no proof spells out. -/
@[irreducible] def longStatus (c : Char) : String := String.ofList (List.replicate 400000 c)

theorem toList_longStatus (c : Char) : (longStatus c).toList = List.replicate 400000 c := by
  rw [longStatus, String.toList_ofList]

/-- A task whose document takes more than a third of a member. -/
def filledTask (id : String) (c : Char) : SampleDocument := ⟨id, longStatus c⟩

def firstTask : SampleDocument := filledTask "task-1" 'a'

def secondTask : SampleDocument := filledTask "task-2" 'b'

def thirdTask : SampleDocument := filledTask "task-3" 'c'

/-- The tasks in the order in which they were inserted. -/
def filledTasks : List (String × Collection SampleDocument) :=
  [("Task", ⟨[secondTask, firstTask, thirdTask], by decide⟩)]

/-- The smallest members that the configuration admits. -/
def filledSettings : Settings := ⟨"test", "", 1048576, 1073741824⟩

def taskLine (task : SampleDocument) : Bytes := SampleCollection.line ⟨"", task, ""⟩

def firstChunk : Bytes := terminated (taskLine firstTask) ++ terminated (taskLine secondTask)

def secondChunk : Bytes := terminated (taskLine thirdTask)

/-- The digests of the members and of the collection. -/
def filledDigest (bytes : Bytes) : String :=
  if bytes = firstChunk then "e530967551f6b94ff1ac589b20092d9b6df2d614c81d9a3e1a2ef986afa7692c"
  else if bytes = secondChunk then
    "f06076c52e65c7d40d08d1f79eb154fe9dd4feebd8dbdb6d54795fb6a6e70fa5"
  else if bytes = firstChunk ++ secondChunk then
    "9bf28898391a20f9a1e73e17ac3ae6a85412c13664beb63b33f5cd41d9f0d26a"
  else ""

def filledChunks : List Member :=
  [tarMember (chunkMemberName "Task" 0) firstChunk, tarMember (chunkMemberName "Task" 1) secondChunk]

def filledEntry : CollectionEntry :=
  ⟨3, 1200087, "9bf28898391a20f9a1e73e17ac3ae6a85412c13664beb63b33f5cd41d9f0d26a",
    [⟨chunkMemberName "Task" 0, 2, 800058,
        "e530967551f6b94ff1ac589b20092d9b6df2d614c81d9a3e1a2ef986afa7692c"⟩,
      ⟨chunkMemberName "Task" 1, 1, 400029,
        "f06076c52e65c7d40d08d1f79eb154fe9dd4feebd8dbdb6d54795fb6a6e70fa5"⟩]⟩

/-- Two documents fit into the first member, and the third one is left for the second. -/
def filledWritten : Written := ([("Task", filledEntry)], filledChunks)

def filledMembers : List Member :=
  archiveMembers "control_plane" "2026-01-01T00:00:00+00:00" filledWritten

def filledArtifact : Bytes :=
  List.flatten
    [[31, 139, 8, 0, 0, 0, 0, 0, 2, 3, 237, 212, 205, 110, 219, 70, 16, 0],
      [96, 157, 243, 20, 193, 94, 43, 219, 75, 82, 164, 68, 63, 135, 111, 69, 33, 240],
      [23, 81, 44, 75, 129, 72, 21, 104, 13, 189, 123, 215, 118, 12, 228, 231, 210, 67],
      [98, 160, 205, 247, 129, 224, 74, 3, 237, 204, 112, 150, 80, 119, 220, 239, 135, 110],
      [222, 29, 15, 211, 205, 93, 51, 221, 223, 196, 207, 174, 63, 78, 199, 195, 126, 241],
      [35, 60, 165, 171, 98, 92, 124, 206, 252, 213, 90, 196, 34, 95, 173, 243, 215, 216],
      [75, 60, 43, 178, 172, 90, 188, 143, 139, 55, 112, 158, 230, 230, 148, 202, 47, 126],
      [77, 143, 97, 187, 235, 195, 109, 152, 211, 217, 95, 101, 97, 25, 210, 56, 230, 243],
      [148, 34, 13],
      List.replicate 387 0,
      [188, 129, 112, 121, 247, 24, 182, 187, 62, 220, 134, 185, 153, 238, 175, 242, 176, 12],
      [211, 220, 204, 231, 41, 69, 90],
      List.replicate 387 0,
      [120, 3, 225, 242, 110, 241, 191, 208, 29, 247, 251, 161, 155, 119, 199, 195, 116, 115],
      [215, 76, 247, 55, 241, 69, 118, 253, 113, 58, 30, 246, 63, 164, 198, 83, 190, 42],
      [198, 197, 231, 212, 95, 173, 217, 42, 43, 243, 162, 124, 141, 189, 196, 179, 34, 203],
      [214, 139, 247, 241, 45, 6, 112, 158, 230, 230, 148, 202, 47, 126, 77, 143, 97, 187],
      [235, 195, 109, 152, 211, 217, 95, 21, 97, 25, 210, 56, 230, 243, 148, 34, 29],
      List.replicate 387 0,
      [188, 129, 112, 121, 183, 224, 103, 123, 104, 14, 187, 113, 152, 230, 235, 143, 211, 241],
      [240, 147, 106, 196, 164, 138, 241, 121, 141, 223, 175, 89, 44, 170, 215, 207, 47, 241],
      [44, 174, 82, 232, 125, 124, 139, 1, 156, 167, 185, 57, 165, 242, 191, 232, 249, 63],
      [134, 238, 184, 223, 15, 221, 188, 59, 30, 166, 112, 251, 24, 238, 154, 233, 254, 105],
      [237, 62, 156, 15, 247, 41, 242, 251, 99, 232, 143, 221, 249, 97, 56, 204, 233, 91],
      [190, 12, 15, 195, 67, 59, 156, 194, 237, 151, 27, 111, 158, 118, 221, 188, 30, 224],
      [243, 187, 180, 15, 203, 48, 125, 104, 242, 178, 74, 63, 29, 202, 34, 214, 213, 186],
      [44, 179, 177, 106, 235, 213, 56, 102, 77, 87, 110, 234, 54, 143, 177, 206, 251, 186],
      [173, 250, 49, 239, 171, 108, 213, 109, 178, 190, 110, 138, 33, 107, 242, 97, 172, 55],
      [85, 51, 54, 235, 170, 206, 187, 167, 92, 187, 191, 135, 109, 251, 215, 60, 164, 46],
      [54, 169, 72, 185, 185, 44, 191, 106, 45, 251, 23, 173, 101, 223, 183, 54, 166, 87],
      [115, 93, 117, 101, 62, 84, 101, 183, 238, 87, 177, 143, 155, 62, 27, 215, 245, 208],
      [102, 229, 106, 28, 234, 190, 79, 247, 161, 237, 55, 125, 219, 167, 70, 203, 213, 186],
      [46, 199, 182, 106, 170, 97, 29, 199, 166, 252, 166, 181, 85, 170, 146, 215, 151, 63],
      [150, 95, 182, 86, 124, 81, 175, 110, 199, 124, 179, 169, 55, 69, 157, 30, 50, 142],
      [117, 147, 13, 235, 244, 192, 235, 166, 43, 154, 161, 106, 54, 229, 42, 203, 187, 172],
      [168, 170, 85, 59, 180, 85, 209, 22, 197, 88, 118, 253, 42, 205, 101, 140, 125, 94],
      [53, 223, 212, 203, 210, 8, 227, 102, 125, 185, 44, 67, 119, 26, 154, 121, 232, 183],
      [205, 156, 202, 228, 49, 175, 174, 98, 150, 174, 187, 24, 111, 159, 175, 223, 158, 239],
      [79, 251, 187, 15, 195, 67, 179, 253, 115, 56, 77, 105, 66, 207, 135, 58, 117, 199],
      [79, 195, 243, 224, 14, 243, 233, 184, 223, 126, 218, 55, 135, 33, 92, 252, 63, 2],
      [0, 0, 0, 0, 252, 87, 253, 3, 254, 135, 101, 180, 0, 112, 18, 0]]

/-- The task whose line it is. -/
def loadTask (tasks : List SampleDocument) (bytes : Bytes) : Loaded SampleDocument :=
  match tasks.find? fun task => taskLine task == bytes with
  | some task => .document task
  | none => .raises

/-- The libraries, as far as the archive of the tasks needs them. -/
def filledLibraries : Libraries SampleDocument where
  sha256 := filledDigest
  tar members := if members = filledMembers then filledArtifact else []
  untar bytes := if bytes = filledArtifact then some filledMembers else none
  hasOpenssl := false
  openssl _ _ _ := .error
  jsonLoads := readJson fun _ => none
  dumps := taskLine
  loads := loadTask [firstTask, secondTask, thirdTask]

theorem length_taskLine (task : SampleDocument) :
    (taskLine task).length = task.id.toList.length + task.status.toList.length + 22 := by
  rw [taskLine, SampleCollection.line, asciiBytes, List.length_map]
  simp only [String.toList_append, List.length_append]
  have hid : "\x7b\"_id\":\"".toList.length = 8 := rfl
  have hstatus : "\",\"status\":\"".toList.length = 12 := rfl
  have hend : "\"\x7d".toList.length = 2 := rfl
  omega

theorem length_filledTask (id : String) (c : Char) (h : id.toList.length = 6) :
    (terminated (taskLine (filledTask id c))).length = 400029 := by
  rw [terminated, List.length_append, length_taskLine, filledTask, toList_longStatus,
    List.length_replicate, h]
  rfl

theorem length_firstChunk : firstChunk.length = 800058 := by
  rw [firstChunk, List.length_append, firstTask, length_filledTask _ _ rfl, secondTask,
    length_filledTask _ _ rfl]

theorem length_secondChunk : secondChunk.length = 400029 := length_filledTask _ _ rfl

theorem filledDigest_firstChunk : filledDigest firstChunk =
    "e530967551f6b94ff1ac589b20092d9b6df2d614c81d9a3e1a2ef986afa7692c" :=
  if_pos rfl

theorem filledDigest_secondChunk : filledDigest secondChunk =
    "f06076c52e65c7d40d08d1f79eb154fe9dd4feebd8dbdb6d54795fb6a6e70fa5" := by
  have hne : secondChunk ≠ firstChunk := fun h =>
    absurd (congrArg List.length h) (by rw [length_firstChunk, length_secondChunk]; decide)
  rw [filledDigest, if_neg hne, if_pos rfl]

theorem filledDigest_whole : filledDigest (firstChunk ++ secondChunk) =
    "9bf28898391a20f9a1e73e17ac3ae6a85412c13664beb63b33f5cd41d9f0d26a" := by
  have hlength : (firstChunk ++ secondChunk).length = 1200087 := by
    rw [List.length_append, length_firstChunk, length_secondChunk]
  have hfirst : firstChunk ++ secondChunk ≠ firstChunk := fun h =>
    absurd (congrArg List.length h) (by rw [hlength, length_firstChunk]; decide)
  have hsecond : firstChunk ++ secondChunk ≠ secondChunk := fun h =>
    absurd (congrArg List.length h) (by rw [hlength, length_secondChunk]; decide)
  rw [filledDigest, if_neg hfirst, if_neg hsecond, if_pos rfl]

/-- The state after two lines in one member and a third line in the next. -/
theorem finishChunks_two (libs : Libraries δ) (name : String) (first second third : Bytes) :
    finishChunks libs name (addLine third (flushChunk libs name
      (addLine second (addLine first ChunkState.empty)))) =
      ⟨[], 0, 3, first.length + second.length + third.length, first ++ second ++ third,
        [⟨chunkMemberName name 0, 2, first.length + second.length, libs.sha256 (first ++ second)⟩,
          ⟨chunkMemberName name 1, 1, third.length, libs.sha256 third⟩],
        [tarMember (chunkMemberName name 0) (first ++ second),
          tarMember (chunkMemberName name 1) third]⟩ := by
  simp [finishChunks, flushChunk, addLine, ChunkState.empty]

/-- Three documents of one length, of which two fit into a member. -/
theorem writeCollectionChunks_two (name : String) {limit length : Nat} {first second third : δ}
    (hfirst : (documentLine libs first).length = length)
    (hsecond : (documentLine libs second).length = length)
    (hthird : (documentLine libs third).length = length) (htwo : length + length ≤ limit)
    (hthree : limit < length + length + length) :
    writeCollectionChunks libs name limit [first, second, third] =
      .ok (⟨3, length + length + length, libs.sha256 (documentLine libs first ++
          documentLine libs second ++ documentLine libs third),
        [⟨chunkMemberName name 0, 2, length + length,
            libs.sha256 (documentLine libs first ++ documentLine libs second)⟩,
          ⟨chunkMemberName name 1, 1, length, libs.sha256 (documentLine libs third)⟩]⟩,
        [tarMember (chunkMemberName name 0) (documentLine libs first ++ documentLine libs second),
          tarMember (chunkMemberName name 1) (documentLine libs third)]) := by
  have hfits : ¬ limit < length := by omega
  have hone : writeDocument libs name limit ChunkState.empty first =
      .ok (addLine (documentLine libs first) ChunkState.empty) := by
    rw [writeDocument, hfirst, if_neg hfits, if_neg fun h => h.1 rfl]
  have htwo : writeDocument libs name limit (addLine (documentLine libs first) ChunkState.empty)
      second = .ok (addLine (documentLine libs second)
        (addLine (documentLine libs first) ChunkState.empty)) := by
    have hlength : (addLine (documentLine libs first) ChunkState.empty).chunkFile.length = length :=
      hfirst
    rw [writeDocument, hsecond, if_neg hfits, if_neg (by rw [hlength]; omega)]
  have hthree : writeDocument libs name limit (addLine (documentLine libs second)
      (addLine (documentLine libs first) ChunkState.empty)) third =
      .ok (addLine (documentLine libs third) (flushChunk libs name (addLine (documentLine libs second)
        (addLine (documentLine libs first) ChunkState.empty)))) := by
    have hlength : (addLine (documentLine libs second)
        (addLine (documentLine libs first) ChunkState.empty)).chunkFile.length = length + length := by
      simp [addLine, ChunkState.empty, hfirst, hsecond]
    rw [writeDocument, hthird, if_neg hfits,
      if_pos ⟨Nat.succ_ne_zero _, by rw [hlength]; exact hthree⟩]
  rw [writeCollectionChunks, List.foldlM_cons, hone]
  change (List.foldlM _ _ _ >>= _) = _
  rw [List.foldlM_cons, htwo]
  change (List.foldlM _ _ _ >>= _) = _
  rw [List.foldlM_cons, hthree]
  change Except.ok _ = Except.ok _
  rw [finishChunks_two, hfirst, hsecond, hthird]

theorem documentLine_filledLibraries (task : SampleDocument) :
    documentLine filledLibraries task = terminated (taskLine task) := rfl

theorem documentLine_two : documentLine filledLibraries firstTask ++
    documentLine filledLibraries secondTask = firstChunk := by
  rw [documentLine_filledLibraries, documentLine_filledLibraries, firstChunk]

theorem documentLine_third : documentLine filledLibraries thirdTask = secondChunk := by
  rw [documentLine_filledLibraries, secondChunk]

theorem length_firstTask : (documentLine filledLibraries firstTask).length = 400029 := by
  rw [documentLine_filledLibraries, firstTask, length_filledTask _ _ rfl]

theorem length_secondTask : (documentLine filledLibraries secondTask).length = 400029 := by
  rw [documentLine_filledLibraries, secondTask, length_filledTask _ _ rfl]

theorem length_thirdTask : (documentLine filledLibraries thirdTask).length = 400029 := by
  rw [documentLine_filledLibraries, thirdTask, length_filledTask _ _ rfl]

theorem sortedDocuments_filledTasks (h : ([secondTask, firstTask, thirdTask].map Document.key).Nodup) :
    sortedDocuments (⟨[secondTask, firstTask, thirdTask], h⟩ : Collection SampleDocument) =
      [firstTask, secondTask, thirdTask] := rfl

theorem writeCollection_filledTasks : filledTasks.foldlM
    (writeCollection filledLibraries (memberLimit filledSettings)) ([], []) = .ok filledWritten := by
  have hsha : filledLibraries.sha256 = filledDigest := rfl
  have hchunks : writeCollectionChunks filledLibraries "Task" 1048576
      [firstTask, secondTask, thirdTask] = .ok (filledEntry, filledChunks) := by
    have htwo : 400029 + 400029 ≤ 1048576 := by decide
    have hthree : 1048576 < 400029 + 400029 + 400029 := by decide
    rw [writeCollectionChunks_two "Task" length_firstTask length_secondTask length_thirdTask htwo
      hthree, documentLine_two, documentLine_third, hsha, filledDigest_whole,
      filledDigest_firstChunk, filledDigest_secondChunk, filledEntry, filledChunks]
  have hwrite : writeCollection filledLibraries (memberLimit filledSettings) ([], [])
      ("Task", ⟨[secondTask, firstTask, thirdTask], by decide⟩) = .ok filledWritten := by
    rw [writeCollection, if_neg (by exact List.not_mem_nil)]
    dsimp only
    rw [sortedDocuments_filledTasks]
    change (writeCollectionChunks filledLibraries "Task" 1048576 _ >>= _) = _
    rw [hchunks]
    rfl
  rw [filledTasks, List.foldlM_cons, hwrite]
  rfl

theorem sizesFit_filledWritten : SizesFit filledWritten where
  entries := by
    intro c hc
    rw [List.mem_singleton.mp hc]
    decide
  chunks := by
    intro c hc
    rw [List.mem_singleton.mp hc]
    simp only [filledEntry, List.forall_mem_cons]
    exact ⟨by decide, by decide, fun chunk hchunk => absurd hchunk List.not_mem_nil⟩

theorem textBound_filledManifest : (manifestJson "control_plane" "2026-01-01T00:00:00+00:00"
    filledWritten.1).textBound ≤ 10000 := by
  decide

theorem length_filledManifest : (manifestPayload (manifestJson "control_plane"
    "2026-01-01T00:00:00+00:00" filledWritten.1)).length ≤ 40000 := by
  have hdumps := Nat.le_trans (Tree.length_dumps_le _) textBound_filledManifest
  exact Nat.le_trans (length_manifestPayload_le _) (Nat.mul_le_mul_left 4 hdumps)

theorem tar_filledMembers : filledLibraries.tar filledMembers = filledArtifact := by
  simp only [filledLibraries, if_true]

theorem untar_filledArtifact : filledLibraries.untar filledArtifact = some filledMembers := by
  simp only [filledLibraries, if_true]

theorem size_tarMember (name : String) (payload : Bytes) :
    (tarMember name payload).size = payload.length := rfl

theorem sum_filledChunks : (filledWritten.2.map Member.size).sum = 1200087 := by
  rw [filledWritten, filledChunks]
  simp only [List.map_cons, List.map_nil, size_tarMember, length_firstChunk, length_secondChunk]
  rfl

theorem readable_filledWritten : Readable filledLibraries filledSettings "control_plane"
    "2026-01-01T00:00:00+00:00" filledWritten where
  chunks := by
    intro c hc
    rw [List.mem_singleton.mp hc]
    exact Nat.le_trans (by decide : 2 ≤ 10) (Nat.le_self_pow (by decide) 10)
  manifest := Nat.le_trans length_filledManifest (by decide)
  total := by
    have harchive : archiveLimit filledSettings = 1073741824 := by decide
    rw [sum_archiveMembers, sum_filledChunks, harchive]
    exact Nat.le_trans (Nat.add_le_add_left length_filledManifest 1200087) (by decide)
  untar := by
    change filledLibraries.untar (filledLibraries.tar filledMembers) = some filledMembers
    rw [tar_filledMembers, untar_filledArtifact]
  loads := jsonLoads_manifest rfl _ _ (List.nodup_singleton _) sizesFit_filledWritten

theorem mem_filledTasks {c : String × Collection SampleDocument} (hc : c ∈ filledTasks)
    {task : SampleDocument} (htask : task ∈ c.2) : task ∈ [firstTask, secondTask, thirdTask] := by
  rw [List.mem_singleton.mp hc] at htask
  have hperm : [secondTask, firstTask, thirdTask].Perm [firstTask, secondTask, thirdTask] :=
    List.Perm.swap _ _ _
  exact hperm.mem_iff.mp htask

/-- How the line of a document begins. -/
def lineStart (task : SampleDocument) : Bytes := asciiBytes ("\x7b\"_id\":\"" ++ task.id)

theorem take_taskLine {task : SampleDocument} (h : task.id.toList.length = 6) :
    (taskLine task).take 14 = lineStart task := by
  have hsplit : taskLine task = lineStart task ++
      asciiBytes ("\",\"status\":\"" ++ task.status ++ "\"\x7d") := by
    rw [taskLine, SampleCollection.line, lineStart]
    simp only [asciiBytes, String.toList_append, List.map_append, List.append_assoc]
  have hlength : (lineStart task).length = 14 := by
    rw [lineStart, asciiBytes, List.length_map, String.toList_append, List.length_append, h]
    rfl
  rw [hsplit, List.take_left' hlength]

/-- Documents whose lines begin differently are told apart. -/
theorem loadTask_taskLine {tasks : List SampleDocument}
    (hids : ∀ task ∈ tasks, task.id.toList.length = 6) (hstarts : (tasks.map lineStart).Nodup)
    {task : SampleDocument} (h : task ∈ tasks) : loadTask tasks (taskLine task) = .document task := by
  have hfound : (tasks.find? fun other => taskLine other == taskLine task) = some task := by
    induction tasks with
    | nil => cases h
    | cons first rest ih =>
        rw [List.map_cons, List.nodup_cons] at hstarts
        rcases List.mem_cons.mp h with rfl | hrest
        · rw [List.find?_cons_of_pos (by simp)]
        · have hne : taskLine first ≠ taskLine task := by
            intro hsame
            apply hstarts.1
            rw [← take_taskLine (hids first List.mem_cons_self), hsame, take_taskLine (hids task h)]
            exact List.mem_map_of_mem hrest
          rw [List.find?_cons_of_neg (by simpa using hne)]
          exact ih (fun other hother => hids other (List.mem_cons_of_mem _ hother)) hstarts.2 hrest
  rw [loadTask, hfound]

def breaksNoLine (c : Char) : Bool :=
  c.toNat.toUInt8 != lineFeed && c.toNat.toUInt8 != carriageReturn

theorem isLine_taskLine {task : SampleDocument} (hid : task.id.toList.all breaksNoLine = true)
    (hstatus : task.status.toList.all breaksNoLine = true) : IsLine (taskLine task) := by
  have hkeys : ["\x7b\"_id\":\"", "\",\"status\":\"", "\"\x7d"].all
      (fun text => text.toList.all breaksNoLine) = true := by
    decide
  simp only [List.all_cons, List.all_nil, Bool.and_true, Bool.and_eq_true] at hkeys
  have hall : ∀ byte ∈ taskLine task, byte ≠ lineFeed ∧ byte ≠ carriageReturn := by
    intro byte hbyte
    rw [taskLine, SampleCollection.line, asciiBytes, List.mem_map] at hbyte
    obtain ⟨c, hc, rfl⟩ := hbyte
    have hplain := (List.all_eq_true.mp (show List.all _ breaksNoLine = true from ?_)) c hc
    · simpa [breaksNoLine] using hplain
    · simp only [String.toList_append, List.all_append, hkeys, hid, hstatus, Bool.and_self]
  exact ⟨fun h => (hall _ h).1 rfl, fun h => (hall _ h).2 rfl⟩

theorem taskLine_ne_nil (task : SampleDocument) : taskLine task ≠ [] := by
  intro hnil
  have hlength := length_taskLine task
  rw [hnil, List.length_nil] at hlength
  omega

theorem isLine_filledTask {id : String} {c : Char} (hid : id.toList.all breaksNoLine = true)
    (hc : breaksNoLine c = true) : IsLine (taskLine (filledTask id c)) := by
  apply isLine_taskLine hid
  rw [filledTask, toList_longStatus, List.all_replicate, hc]
  rfl

theorem nodup_lineStart : ([firstTask, secondTask, thirdTask].map lineStart).Nodup := by
  have hstarts : (["task-1", "task-2", "task-3"].map fun id =>
      asciiBytes ("\x7b\"_id\":\"" ++ id)).Nodup := by
    decide
  exact hstarts

theorem loads_filledTasks {task : SampleDocument} (h : task ∈ [firstTask, secondTask, thirdTask]) :
    loadTask [firstTask, secondTask, thirdTask] (taskLine task) = .document task := by
  have hids : ∀ other ∈ [firstTask, secondTask, thirdTask], other.id.toList.length = 6 := by
    simp only [List.forall_mem_cons]
    exact ⟨by decide, by decide, by decide, fun other hother => absurd hother List.not_mem_nil⟩
  exact loadTask_taskLine hids nodup_lineStart h

theorem isLine_filledTasks : ∀ task ∈ [firstTask, secondTask, thirdTask], IsLine (taskLine task) := by
  simp only [List.forall_mem_cons]
  exact ⟨isLine_filledTask (by decide) (by decide), isLine_filledTask (by decide) (by decide),
    isLine_filledTask (by decide) (by decide), fun other hother => absurd hother List.not_mem_nil⟩

theorem roundTrips_filledTasks {task : SampleDocument}
    (h : task ∈ [firstTask, secondTask, thirdTask]) : RoundTrips filledLibraries task where
  loads := loads_filledTasks h
  isLine := isLine_filledTasks task h
  ne := taskLine_ne_nil task

theorem readArchive_written_tasks : ∃ archive,
    readArchive filledLibraries filledSettings sampleRecord (some filledArtifact) = .ok archive ∧
      ReadsAs filledLibraries filledTasks archive := by
  have hline : ∀ task ∈ [firstTask, secondTask, thirdTask],
      (documentLine filledLibraries task).length ≤ memberLimit filledSettings := by
    have hlimit : 400029 ≤ memberLimit filledSettings := by decide
    simp only [List.forall_mem_cons, length_firstTask, length_secondTask, length_thirdTask]
    exact ⟨hlimit, hlimit, hlimit, fun task htask => absurd htask List.not_mem_nil⟩
  have hnames : (filledTasks.map Prod.fst).Nodup := List.nodup_singleton _
  obtain ⟨written, hwritten, -, hreads⟩ := readArchive_written filledLibraries filledSettings
    "control_plane" "2026-01-01T00:00:00+00:00" hnames (by decide)
    (fun c hc task htask => roundTrips_filledTasks (mem_filledTasks hc htask))
    (fun c hc task htask => hline task (mem_filledTasks hc htask))
  rw [writeCollection_filledTasks] at hwritten
  cases hwritten
  refine (hreads readable_filledWritten).1 sampleRecord (some filledArtifact) ?_
  change _ = Except.ok (filledLibraries.tar filledMembers)
  rw [tar_filledMembers]
  rfl
end Grouproxy.Backups
