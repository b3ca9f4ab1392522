import Mathlib.Algebra.Order.Group.Nat
import Grouproxy.Model.Backups

/-! # How a collection is cut into chunks

The lines of a collection are written in groups, one group a member. The groups follow one another
without a gap, each fits into a member, and the entry of the collection in the manifest describes
exactly them.
-/

namespace Grouproxy.Backups

open Text Value Encoding Lines Collections

variable {δ : Type} {libs : Libraries δ} {name : String} {limit : Nat}

/-! ## Groups -/

/-- The chunk of a group of lines. -/
def groupChunk (libs : Libraries δ) (name : String) (index : Nat) (group : List Bytes) : Chunk :=
  ⟨chunkMemberName name index, group.length, group.flatten.length, libs.sha256 group.flatten⟩

def groupMember (name : String) (index : Nat) (group : List Bytes) : Member :=
  tarMember (chunkMemberName name index) group.flatten

/-- The entry of a collection whose lines are in these groups. -/
def groupedEntry (libs : Libraries δ) (name : String) (groups : List (List Bytes)) :
    CollectionEntry :=
  ⟨groups.flatten.length, groups.flatten.flatten.length, libs.sha256 groups.flatten.flatten,
    groups.mapIdx (groupChunk libs name)⟩

/-- Groups that hold the lines in order, none larger than a member. -/
structure Grouping (limit : Nat) (lines : List Bytes) (groups : List (List Bytes)) : Prop where
  flatten : groups.flatten = lines
  ne : groups ≠ []
  fits : ∀ group ∈ groups, group.flatten.length ≤ limit

/-- The state after the closed groups, with the group under way. -/
structure Packing (libs : Libraries δ) (name : String) (limit : Nat) (groups : List (List Bytes))
    (group : List Bytes) (state : ChunkState) : Prop where
  fits : ∀ closed ∈ groups, closed.flatten.length ≤ limit
  fitsLast : group.flatten.length ≤ limit
  chunkFile : state.chunkFile = group.flatten
  chunkDocuments : state.chunkDocuments = group.length
  documentCount : state.documentCount = groups.flatten.length + group.length
  totalSize : state.totalSize = groups.flatten.flatten.length + group.flatten.length
  whole : state.whole = groups.flatten.flatten ++ group.flatten
  chunks : state.chunks = groups.mapIdx (groupChunk libs name)
  members : state.members = groups.mapIdx (groupMember name)

theorem packing_empty (libs : Libraries δ) (name : String) (limit : Nat) :
    Packing libs name limit [] [] ChunkState.empty where
  fits := by simp
  fitsLast := Nat.zero_le limit
  chunkFile := rfl
  chunkDocuments := rfl
  documentCount := rfl
  totalSize := rfl
  whole := rfl
  chunks := rfl
  members := rfl

section Packing

variable {groups : List (List Bytes)} {group : List Bytes} {state : ChunkState}

/-- Closing a group that has lines. -/
theorem Packing.flush (h : Packing libs name limit groups group state) (hne : group ≠ []) :
    Packing libs name limit (groups ++ [group]) [] (flushChunk libs name state) := by
  have hdocuments : state.chunkDocuments ≠ 0 := by
    rw [h.chunkDocuments]
    exact List.length_pos_iff.mpr hne |>.ne'
  have hlength : state.chunks.length = groups.length := by rw [h.chunks, List.length_mapIdx]
  rw [flushChunk, if_neg hdocuments]
  constructor
  · intro closed hclosed
    rcases List.mem_append.mp hclosed with hmem | hmem
    · exact h.fits closed hmem
    · rw [List.mem_singleton.mp hmem]
      exact h.fitsLast
  · exact Nat.zero_le limit
  · rfl
  · rfl
  · simp [h.documentCount]
  · simp [h.totalSize]
  · simp [h.whole]
  · rw [List.mapIdx_concat, hlength, h.chunkDocuments, h.chunkFile, h.chunks]
    rfl
  · rw [List.mapIdx_concat, hlength, h.chunkFile, h.members]
    rfl

/-- A line joins the group if it fits. -/
theorem Packing.addLine (h : Packing libs name limit groups group state) {line : Bytes}
    (hfits : group.flatten.length + line.length ≤ limit) :
    Packing libs name limit groups (group ++ [line]) (Backups.addLine line state) where
  fits := h.fits
  fitsLast := by simpa using hfits
  chunkFile := by simp [Backups.addLine, h.chunkFile]
  chunkDocuments := by simp [Backups.addLine, h.chunkDocuments]
  documentCount := by simp [Backups.addLine, h.documentCount, Nat.add_assoc]
  totalSize := by simp [Backups.addLine, h.totalSize, Nat.add_assoc]
  whole := by simp [Backups.addLine, h.whole]
  chunks := h.chunks
  members := h.members

/-- A document whose line fits into a member is written. -/
theorem Packing.writeDocument (h : Packing libs name limit groups group state) {document : δ}
    (hfits : (documentLine libs document).length ≤ limit) :
    ∃ groups' group' state', writeDocument libs name limit state document = .ok state' ∧
      Packing libs name limit groups' group' state' ∧ group' ≠ [] ∧
      groups'.flatten ++ group' = groups.flatten ++ group ++ [documentLine libs document] := by
  rw [Backups.writeDocument, if_neg (Nat.not_lt.mpr hfits)]
  by_cases hfull : state.chunkDocuments ≠ 0 ∧
      limit < state.chunkFile.length + (documentLine libs document).length
  · rw [if_pos hfull]
    have hne : group ≠ [] := by
      rintro rfl
      exact hfull.1 h.chunkDocuments
    refine ⟨groups ++ [group], [] ++ [documentLine libs document], _, rfl, ?_, by simp, by simp⟩
    exact (h.flush hne).addLine (by simpa using hfits)
  · rw [if_neg hfull]
    refine ⟨groups, group ++ [documentLine libs document], _, rfl, h.addLine ?_, by simp, by simp⟩
    rw [← h.chunkFile]
    by_cases hempty : state.chunkDocuments = 0
    · have hnil : group = [] := by
        rw [h.chunkDocuments] at hempty
        exact List.length_eq_zero_iff.mp hempty
      rw [h.chunkFile, hnil]
      simpa using hfits
    · exact Nat.not_lt.mp fun hlt => hfull ⟨hempty, hlt⟩

theorem Packing.writeDocuments (h : Packing libs name limit groups group state)
    (hne : groups ≠ [] → group ≠ []) {documents : List δ}
    (hfits : ∀ document ∈ documents, (documentLine libs document).length ≤ limit) :
    ∃ groups' group' state',
      documents.foldlM (Backups.writeDocument libs name limit) state = .ok state' ∧
      Packing libs name limit groups' group' state' ∧ (groups' ≠ [] → group' ≠ []) ∧
      groups'.flatten ++ group' =
        groups.flatten ++ group ++ documents.map (documentLine libs) := by
  induction documents generalizing groups group state with
  | nil => exact ⟨groups, group, state, rfl, h, hne, by simp⟩
  | cons document documents ih =>
      obtain ⟨groups₁, group₁, state₁, hwrite, h₁, hne₁, hlines₁⟩ :=
        h.writeDocument (hfits document List.mem_cons_self)
      obtain ⟨groups₂, group₂, state₂, hrest, h₂, hne₂, hlines₂⟩ :=
        ih h₁ (fun _ => hne₁) fun other hother => hfits other (List.mem_cons_of_mem _ hother)
      refine ⟨groups₂, group₂, state₂, ?_, h₂, hne₂, ?_⟩
      · rw [List.foldlM_cons, hwrite]
        exact hrest
      · rw [hlines₂, hlines₁]
        simp

/-- The last group is closed; an empty collection has one empty group. -/
theorem Packing.finish (h : Packing libs name limit groups group state)
    (hne : groups ≠ [] → group ≠ []) :
    ∃ all, Packing libs name limit all [] (finishChunks libs name state) ∧ all ≠ [] ∧
      all.flatten = groups.flatten ++ group := by
  rw [finishChunks]
  by_cases hempty : group = []
  · subst hempty
    have hnone : groups = [] := by
      by_contra hgroups
      exact hne hgroups rfl
    subst hnone
    have hsame : flushChunk libs name state = state := by
      have hzero : state.chunkDocuments = 0 := h.chunkDocuments
      rw [flushChunk, if_pos hzero]
    have hchunks : state.chunks = [] := h.chunks
    refine ⟨[[]], ?_, by simp, by simp⟩
    rw [hsame, if_pos hchunks]
    exact
      { fits := by simp
        fitsLast := Nat.zero_le limit
        chunkFile := h.chunkFile
        chunkDocuments := h.chunkDocuments
        documentCount := h.documentCount
        totalSize := h.totalSize
        whole := h.whole
        chunks := rfl
        members := by rw [h.members]; rfl }
  · have hflushed := h.flush hempty
    refine ⟨groups ++ [group], ?_, by simp, by simp⟩
    rw [if_neg (by rw [hflushed.chunks]; simp)]
    exact hflushed

end Packing

/-- A collection whose lines fit is written in groups. -/
theorem exists_grouping (libs : Libraries δ) (name : String) (limit : Nat) (documents : List δ)
    (hfits : ∀ document ∈ documents, (documentLine libs document).length ≤ limit) :
    ∃ groups, Grouping limit (documents.map (documentLine libs)) groups ∧
      writeCollectionChunks libs name limit documents =
        .ok (groupedEntry libs name groups, groups.mapIdx (groupMember name)) := by
  obtain ⟨groups, group, state, hwrite, h, hne, hlines⟩ :=
    (packing_empty libs name limit).writeDocuments (by simp) hfits
  obtain ⟨all, hall, hsome, hflatten⟩ := h.finish hne
  have hsame : all.flatten = documents.map (documentLine libs) := by
    rw [hflatten, hlines]
    rfl
  refine ⟨all, ⟨hsame, hsome, hall.fits⟩, ?_⟩
  rw [writeCollectionChunks, hwrite]
  change Except.ok _ = Except.ok _
  rw [hall.documentCount, hall.totalSize, hall.whole, hall.chunks, hall.members, groupedEntry,
    List.flatten_nil, List.append_nil]
  rfl

/-! ## The collections of an archive -/

/-- The groups of each collection. -/
abbrev Packs : Type := List (String × List (List Bytes))

/-- The collections written as packs. -/
def packed (libs : Libraries δ) (packs : Packs) : Written :=
  (packs.map fun p => (p.1, groupedEntry libs p.1 p.2),
    packs.flatMap fun p => p.2.mapIdx (groupMember p.1))

section Archive

variable {κ : Type} [LinearOrder κ] [Document κ δ]

/-- The packs of the collections. -/
def IsPacking (libs : Libraries δ) (limit : Nat) :
    List (String × Collection δ) → Packs → Prop :=
  List.Forall₂ fun c p =>
    p.1 = c.1 ∧ Grouping limit ((sortedDocuments c.2).map (documentLine libs)) p.2

theorem IsPacking.map_fst {collections : List (String × Collection δ)} {packs : Packs}
    (h : IsPacking libs limit collections packs) :
    packs.map Prod.fst = collections.map Prod.fst := by
  induction h with
  | nil => rfl
  | cons hp _ ih => rw [List.map_cons, List.map_cons, hp.1, ih]

theorem packed_concat (packs : Packs) (p : String × List (List Bytes)) :
    packed libs (packs ++ [p]) =
      ((packed libs packs).1 ++ [(p.1, groupedEntry libs p.1 p.2)],
        (packed libs packs).2 ++ p.2.mapIdx (groupMember p.1)) := by
  simp [packed]

/-- Collections of different names whose lines fit are written as packs. -/
theorem exists_packs (before : Packs) {collections : List (String × Collection δ)}
    (hnames : (before.map Prod.fst ++ collections.map Prod.fst).Nodup)
    (hfits : ∀ c ∈ collections, ∀ document ∈ c.2, (documentLine libs document).length ≤ limit) :
    ∃ packs, IsPacking libs limit collections packs ∧
      collections.foldlM (writeCollection libs limit) (packed libs before) =
        .ok (packed libs (before ++ packs)) := by
  induction collections generalizing before with
  | nil => exact ⟨[], .nil, by rw [List.append_nil]; rfl⟩
  | cons c collections ih =>
      obtain ⟨groups, hgroups, hwrite⟩ := exists_grouping libs c.1 limit (sortedDocuments c.2)
        fun document hdocument => hfits c List.mem_cons_self document
          ((List.perm_insertionSort _ _).mem_iff.mp hdocument)
      have hnew : c.1 ∉ (packed libs before).1.map Prod.fst := by
        rw [packed, List.map_map]
        intro hmem
        exact List.disjoint_of_nodup_append hnames hmem (List.mem_cons_self)
      obtain ⟨packs, hpacks, hrest⟩ := ih (before ++ [(c.1, groups)])
        (by simpa using hnames) fun c' hc' => hfits c' (List.mem_cons_of_mem _ hc')
      refine ⟨(c.1, groups) :: packs, .cons ⟨rfl, hgroups⟩ hpacks, ?_⟩
      rw [List.foldlM_cons, writeCollection, if_neg hnew, hwrite]
      rw [packed_concat, List.append_assoc] at hrest
      exact hrest

end Archive

end Grouproxy.Backups
