import Mathlib.Tactic.Linarith
import Grouproxy.Model.Spool

/-! # The bound of the spool

Eviction and replay only remove files, and a batch is written only where there is room for it. What
a refused batch leaves in the spool depends on what could be removed for it.
-/

namespace Grouproxy.Spool

open Lines Eviction

variable {dir : Dir} {name : String} {bytes envelope : Bytes} {outcomes : Outcomes}
  {maxBytes required : ℕ} {bound need current : ℤ} {removalFails : String → Bool}
  {files : List SpoolFile} {file : SpoolFile} {Payload : Type} {libs : Libraries Payload}

/-! ## Sizes -/

theorem directorySize_remove_le : directorySize (dir.remove name) ≤ directorySize dir :=
  total_le_of_sublist List.filter_sublist

theorem directorySize_put_le :
    directorySize (dir.put name bytes) ≤ directorySize dir + bytes.length := by
  have hle : directorySize (dir.remove name) ≤ directorySize dir := directorySize_remove_le
  rw [directorySize, Dir.put, total_append, ← directorySize]
  simpa [Entry.size] using hle

theorem directorySize_tryRemove_le :
    directorySize (tryRemove outcomes dir name) ≤ directorySize dir := by
  rw [tryRemove]
  split
  · exact le_rfl
  · exact directorySize_remove_le

theorem directorySize_trimFiles_le :
    directorySize (trimFiles bound need removalFails dir current files) ≤ directorySize dir := by
  induction files generalizing dir current with
  | nil => exact le_rfl
  | cons file files ih =>
      rw [trimFiles]
      split_ifs
      · exact le_rfl
      · exact ih
      · exact ih.trans directorySize_remove_le

theorem directorySize_makeRoom_le :
    directorySize (makeRoom maxBytes outcomes dir required) ≤ directorySize dir := by
  rw [makeRoom, trimSpool]
  split_ifs
  · exact le_rfl
  · exact directorySize_trimFiles_le
  · exact le_rfl

theorem directorySize_replayFiles_le (entries : List Entry) :
    directorySize (replayFiles libs outcomes dir entries) ≤ directorySize dir := by
  induction entries generalizing dir with
  | nil => exact le_rfl
  | cons entry entries ih =>
      rw [replayFiles]
      split
      · exact ih
      · split
        · exact ih
        · split
          · exact ih.trans directorySize_tryRemove_le
          · split
            · exact le_rfl
            · exact ih.trans directorySize_tryRemove_le

theorem directorySize_replaySpool_le :
    directorySize (replaySpool libs outcomes dir) ≤ directorySize dir := by
  rw [replaySpool]
  split
  · exact le_rfl
  · exact directorySize_replayFiles_le _

/-! ## The bound -/

theorem directorySize_writeBatch_le :
    directorySize (writeBatch outcomes dir name envelope).2 ≤
      directorySize dir + envelope.length := by
  rw [writeBatch]
  split
  · exact Nat.le_add_right _ _
  · split
    · apply directorySize_put_le.trans
      rw [List.length_take]
      omega
    · exact Nat.le_add_right _ _
  · exact directorySize_put_le

/-- A batch keeps the bound, whatever fails. -/
theorem directorySize_enqueueEnvelope_le (h : directorySize dir ≤ maxBytes) :
    directorySize (enqueueEnvelope maxBytes outcomes dir name envelope).2 ≤ maxBytes := by
  rw [enqueueEnvelope]
  split
  · exact h
  · dsimp only
    split
    · exact directorySize_makeRoom_le.trans h
    · rename_i hroom
      have hwrite : directorySize (writeBatch outcomes
          (makeRoom maxBytes outcomes dir envelope.length) name envelope).2 ≤
          directorySize (makeRoom maxBytes outcomes dir envelope.length) + envelope.length :=
        directorySize_writeBatch_le
      omega

theorem directorySize_enqueueSpool_le {kind : String} {payload : Payload} {priority : ℤ}
    {nanos : ℕ} (h : directorySize dir ≤ maxBytes) :
    directorySize (enqueueSpool libs maxBytes outcomes dir kind payload priority nanos).2 ≤
      maxBytes := by
  rw [enqueueSpool]
  split
  · exact h
  · exact directorySize_enqueueEnvelope_le h

/-- An operation on the spool, with what the file system and the backend answer to it. -/
inductive Operation (Payload : Type) where
  | enqueue (outcomes : Outcomes) (kind : String) (payload : Payload) (priority : ℤ) (nanos : ℕ)
  | replay (outcomes : Outcomes)

def Operation.run (libs : Libraries Payload) (maxBytes : ℕ) (dir : Dir) :
    Operation Payload → Dir
  | .enqueue outcomes kind payload priority nanos =>
    (enqueueSpool libs maxBytes outcomes dir kind payload priority nanos).2
  | .replay outcomes => replaySpool libs outcomes dir

/-- The spool, empty at first, stays within its bound. -/
theorem directorySize_run_le (libs : Libraries Payload) (maxBytes : ℕ)
    (operations : List (Operation Payload)) :
    directorySize (operations.foldl (Operation.run libs maxBytes) emptyDir) ≤ maxBytes := by
  have hall : ∀ dir, directorySize dir ≤ maxBytes →
      directorySize (operations.foldl (Operation.run libs maxBytes) dir) ≤ maxBytes := by
    induction operations with
    | nil => exact fun _ h => h
    | cons operation operations ih =>
        intro dir h
        rw [List.foldl_cons]
        apply ih
        cases operation with
        | enqueue outcomes kind payload priority nanos => exact directorySize_enqueueSpool_le h
        | replay outcomes => exact directorySize_replaySpool_le.trans h
  exact hall emptyDir (Nat.zero_le _)

/-! ## What eviction removes -/

/-- The files that the loop removes. -/
def evictedFiles (bound need : ℤ) (removalFails : String → Bool) (current : ℤ)
    (files : List SpoolFile) : List SpoolFile :=
  evicted SpoolFile.size (fun f => removalFails f.path) bound need current files

theorem entries_trimFiles :
    (trimFiles bound need removalFails dir current files).entries =
      dir.entries.filter fun e =>
        decide (e.name ∉ (evictedFiles bound need removalFails current files).map SpoolFile.path) := by
  induction files generalizing dir current with
  | nil => simp [trimFiles, evictedFiles, evicted]
  | cons file files ih =>
      rw [trimFiles, evictedFiles, evicted]
      split_ifs with hstop hfails
      · simp
      · exact ih
      · rw [ih, Dir.remove, List.filter_filter]
        apply List.filter_congr
        intro e _
        rw [evictedFiles, List.map_cons]
        by_cases h : e.name = file.path
        · simp [h]
        · simp only [List.mem_cons, h, false_or, decide_not, decide_false, Bool.not_false,
            Bool.and_true]

theorem perm_spoolFiles (dir : Dir) :
    (spoolFiles dir).Perm ((dir.entries.filter Entry.isSpoolFile).map spoolFile) :=
  List.perm_insertionSort _ _

theorem mem_spoolFiles : file ∈ spoolFiles dir ↔
    ∃ e ∈ dir.entries, e.isSpoolFile = true ∧ spoolFile e = file := by
  rw [(perm_spoolFiles dir).mem_iff]
  simp [and_assoc]

theorem nodup_path_spoolFiles (dir : Dir) : ((spoolFiles dir).map SpoolFile.path).Nodup := by
  have hperm := (perm_spoolFiles dir).map SpoolFile.path
  rw [hperm.nodup_iff, List.map_map]
  exact dir.nodup.sublist (List.filter_sublist.map Entry.name)

/-- Removing the file of an entry frees its size. -/
theorem directorySize_remove {e : Entry} (he : e ∈ dir.entries) :
    directorySize (dir.remove e.name) + e.size = directorySize dir := by
  obtain ⟨before, after, heq⟩ := List.append_of_mem he
  have hnodup := dir.nodup
  rw [heq, List.map_append, List.map_cons] at hnodup
  have hbefore : before.filter (fun x => decide (x.name ≠ e.name)) = before := by
    rw [List.filter_eq_self]
    intro x hx
    have hne := List.disjoint_of_nodup_append hnodup
    simpa using fun h => hne (List.mem_map_of_mem hx) (by simp [h])
  have hafter : after.filter (fun x => decide (x.name ≠ e.name)) = after := by
    rw [List.filter_eq_self]
    intro x hx
    have hne := (List.nodup_cons.mp (List.nodup_append.mp hnodup).2.1).1
    rw [decide_eq_true_eq]
    intro h
    exact hne (h ▸ List.mem_map_of_mem hx)
  simp only [directorySize, Dir.remove]
  rw [heq, List.filter_append, List.filter_cons_of_neg (by simp), hbefore, hafter, total_append,
    total_append, total_cons]
  omega

/-- The account that the loop keeps is the size of the directory. -/
theorem directorySize_trimFiles
    (hfiles : ∀ f ∈ files, ∃ e ∈ dir.entries, e.name = f.path ∧ e.size = f.size)
    (hnodup : (files.map SpoolFile.path).Nodup) :
    (directorySize (trimFiles bound need removalFails dir (directorySize dir) files) : ℤ) =
      directorySize dir -
        total SpoolFile.size (evictedFiles bound need removalFails (directorySize dir) files) := by
  induction files generalizing dir with
  | nil => simp [trimFiles, evictedFiles, evicted]
  | cons file files ih =>
      rw [List.map_cons, List.nodup_cons] at hnodup
      have hrest : ∀ f ∈ files, ∃ e ∈ dir.entries, e.name = f.path ∧ e.size = f.size :=
        fun f hf => hfiles f (List.mem_cons_of_mem _ hf)
      rw [trimFiles, evictedFiles, evicted]
      split_ifs with hstop hfails
      · simp
      · exact ih hrest hnodup.2
      · obtain ⟨e, he, hname, hsize⟩ := hfiles file List.mem_cons_self
        have hfreed := directorySize_remove he
        rw [hname, hsize] at hfreed
        have hcurrent : (directorySize dir : ℤ) - file.size =
            directorySize (dir.remove file.path) := by
          omega
        have hkept : ∀ f ∈ files, ∃ e ∈ (dir.remove file.path).entries,
            e.name = f.path ∧ e.size = f.size := by
          intro f hf
          obtain ⟨x, hx, hpath, hxsize⟩ := hrest f hf
          refine ⟨x, List.mem_filter.mpr ⟨hx, ?_⟩, hpath, hxsize⟩
          rw [decide_eq_true_eq, hpath]
          exact fun heq => hnodup.1 (heq ▸ List.mem_map_of_mem hf)
        rw [hcurrent, ih hkept hnodup.2, total_cons, evictedFiles]
        push_cast
        omega

/-! ## What a batch evicts -/

/-- The spool files that an operation finds. -/
def listedFiles (outcomes : Outcomes) (dir : Dir) : List SpoolFile :=
  if outcomes.readDirFails then [] else spoolFiles dir

/-- Those of them that can be removed, in the order of eviction. -/
def removable (outcomes : Outcomes) (dir : Dir) : List SpoolFile :=
  (listedFiles outcomes dir).filter fun f => !outcomes.removalFails f.path

/-- The files that are evicted to make room. -/
def evictedBy (maxBytes : ℕ) (outcomes : Outcomes) (dir : Dir) (required : ℕ) : List SpoolFile :=
  evictedFiles maxBytes required outcomes.removalFails (directorySize dir)
    (listedFiles outcomes dir)

theorem evictedBy_sublist :
    (evictedBy maxBytes outcomes dir required).Sublist (removable outcomes dir) :=
  evicted_sublist

theorem exists_spoolFile_of_mem_listedFiles (h : file ∈ listedFiles outcomes dir) :
    ∃ e ∈ dir.entries, e.isSpoolFile = true ∧ spoolFile e = file := by
  rw [listedFiles] at h
  split at h
  · cases h
  · exact mem_spoolFiles.mp h

theorem exists_entry_of_mem_listedFiles (h : file ∈ listedFiles outcomes dir) :
    ∃ e ∈ dir.entries, e.name = file.path ∧ e.size = file.size := by
  obtain ⟨e, he, -, rfl⟩ := exists_spoolFile_of_mem_listedFiles h
  exact ⟨e, he, rfl, rfl⟩

theorem nodup_path_listedFiles : ((listedFiles outcomes dir).map SpoolFile.path).Nodup := by
  rw [listedFiles]
  split
  · exact List.nodup_nil
  · exact nodup_path_spoolFiles dir

theorem makeRoom_eq : makeRoom maxBytes outcomes dir required =
    trimFiles maxBytes required outcomes.removalFails dir (directorySize dir)
      (listedFiles outcomes dir) := by
  rw [makeRoom, trimSpool, listedFiles]
  split_ifs with hfull hread
  · rfl
  · rfl
  · rfl
  · cases hfiles : spoolFiles dir with
    | nil => rfl
    | cons file files => rw [trimFiles, if_pos (by omega)]

/-- Exactly the entries of the evicted files are gone. -/
theorem entries_makeRoom : (makeRoom maxBytes outcomes dir required).entries =
    dir.entries.filter fun e =>
      decide (e.name ∉ (evictedBy maxBytes outcomes dir required).map SpoolFile.path) := by
  rw [makeRoom_eq]
  exact entries_trimFiles

theorem directorySize_makeRoom : (directorySize (makeRoom maxBytes outcomes dir required) : ℤ) =
    directorySize dir - total SpoolFile.size (evictedBy maxBytes outcomes dir required) := by
  rw [makeRoom_eq]
  exact directorySize_trimFiles (fun f hf => exists_entry_of_mem_listedFiles hf)
    nodup_path_listedFiles

/-- Nothing is evicted exactly if the directory is left as it is. -/
theorem makeRoom_eq_self_iff : makeRoom maxBytes outcomes dir required = dir ↔
    evictedBy maxBytes outcomes dir required = [] := by
  rw [Dir.ext_iff, entries_makeRoom, List.filter_eq_self]
  constructor
  · intro hall
    apply List.eq_nil_iff_forall_not_mem.mpr
    intro file hfile
    obtain ⟨e, he, hname, -⟩ := exists_entry_of_mem_listedFiles
      (List.mem_of_mem_filter (evictedBy_sublist.subset hfile))
    have hkept := hall e he
    rw [decide_eq_true_eq, hname] at hkept
    exact hkept (List.mem_map_of_mem hfile)
  · intro hnil e _
    simp [hnil]

/-- If there is no room afterwards, everything is gone that can be removed. -/
theorem evictedBy_of_no_room
    (h : maxBytes < required + directorySize (makeRoom maxBytes outcomes dir required)) :
    evictedBy maxBytes outcomes dir required = removable outcomes dir := by
  have hsize := @directorySize_makeRoom dir outcomes maxBytes required
  apply evicted_eq_filter
  rw [evictedBy, evictedFiles] at hsize
  omega

/-- A batch finds no room exactly if it does not fit once everything is gone that can be removed. -/
theorem no_room_iff :
    maxBytes < required + directorySize (makeRoom maxBytes outcomes dir required) ↔
      maxBytes + total SpoolFile.size (removable outcomes dir) < required + directorySize dir := by
  have hsize := @directorySize_makeRoom dir outcomes maxBytes required
  constructor
  · intro hfull
    rw [evictedBy_of_no_room hfull] at hsize
    omega
  · intro hfull
    have hle : total SpoolFile.size (evictedBy maxBytes outcomes dir required) ≤
        total SpoolFile.size (removable outcomes dir) :=
      total_le_of_sublist evictedBy_sublist
    omega

/-! ## A refused batch -/

variable {kind : String} {payload : Payload} {priority : ℤ} {nanos : ℕ}

theorem writeBatch_ne_full :
    (writeBatch outcomes dir name envelope).1 ≠ .error .telemetrySpoolFull := by
  rw [writeBatch]
  split
  · simp
  · split <;> simp
  · simp

/-- A batch that is refused for want of room leaves the spool as it was exactly if it would fit
once every file is gone that can be removed, or if no file can be removed: else it is refused after
all of them have been evicted. -/
theorem enqueueSpool_intact_iff :
    ((enqueueSpool libs maxBytes outcomes dir kind payload priority nanos).1 =
        .error .telemetrySpoolFull →
      (enqueueSpool libs maxBytes outcomes dir kind payload priority nanos).2 = dir) ↔
    ∀ envelope, marshalBatch libs kind payload priority nanos = some envelope →
      outcomes.mkdirFails = false →
      envelope.length + directorySize dir ≤
          maxBytes + total SpoolFile.size (removable outcomes dir) ∨
        removable outcomes dir = [] := by
  rw [enqueueSpool]
  cases hmarshal : marshalBatch libs kind payload priority nanos with
  | none => simp
  | some envelope =>
      cases hmkdir : outcomes.mkdirFails with
      | true => simp [enqueueEnvelope, hmkdir]
      | false =>
          simp only [enqueueEnvelope, hmkdir, Bool.false_eq_true, if_false]
          by_cases hfull : maxBytes <
              envelope.length + directorySize (makeRoom maxBytes outcomes dir envelope.length)
          · rw [if_pos hfull]
            have hsize := no_room_iff.mp hfull
            have hall := evictedBy_of_no_room hfull
            constructor
            · rintro hintact envelope' heq -
              cases heq
              rw [← hall]
              exact .inr (makeRoom_eq_self_iff.mp (hintact rfl))
            · intro hcond _
              apply makeRoom_eq_self_iff.mpr
              rw [hall]
              rcases hcond envelope rfl trivial with hfits | hnone
              · omega
              · exact hnone
          · rw [if_neg hfull]
            constructor
            · rintro - envelope' heq -
              cases heq
              have hfits := mt no_room_iff.mpr hfull
              exact .inl (by omega)
            · exact fun _ h => absurd h writeBatch_ne_full

/-- The JSON text of an envelope at the epoch. -/
def sampleLibs : Libraries String where
  marshal payload := some (bytesOf payload)
  marshalEnvelope envelope := some (bytesOf ("\x7b\"kind\":\"" ++ envelope.kind ++
    "\",\"priority\":" ++ toString envelope.priority ++
    ",\"created_at\":\"1970-01-01T00:00:00Z\",\"payload\":") ++ envelope.payload ++
    bytesOf "\x7d")
  unmarshalEnvelope _ := none
  isObject _ := true

/-- Nothing fails. -/
def sampleOutcomes : Outcomes :=
  ⟨false, false, fun _ => false, fun _ => false, fun _ => false, .renamed⟩

/-- A spool with one batch of denied requests. -/
def sampleDir : Dir :=
  ⟨[⟨spoolName 0 1 "logs", .file (bytesOf "\x7b\x7d")⟩], by decide⟩

/-- A batch that is larger than the bound is refused, and the denied requests are gone. -/
theorem enqueueSpool_not_intact :
    ¬ ((enqueueSpool sampleLibs 16 sampleOutcomes sampleDir "connections" "\x7b\x7d" 2 0).1 =
        .error .telemetrySpoolFull →
      (enqueueSpool sampleLibs 16 sampleOutcomes sampleDir "connections" "\x7b\x7d" 2 0).2 =
        sampleDir) := by
  intro h
  have hdir := h (by decide +kernel)
  have hlength := congrArg (fun dir => dir.entries.length) hdir
  revert hlength
  decide +kernel

end Grouproxy.Spool
