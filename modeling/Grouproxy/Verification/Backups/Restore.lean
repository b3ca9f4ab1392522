import Mathlib.Data.List.Induction
import Grouproxy.Model.Backups

/-! # What a restore writes

The documents of a collection are written in batches. Whatever order the server takes in a batch,
a collection that is restored to its end has had exactly the documents of its members written, and
one that is refused at a line has had those of its full batches.
-/

namespace Grouproxy.Backups

open Value Encoding Lines Collections

variable {κ δ : Type} [DecidableEq κ] [Document κ δ]

/-! ## Writes and the database -/

section Database

variable {db : Database κ δ} {name : String} {k : κ}

theorem after_concat (writes : List (Write δ)) (w : Write δ) :
    db.after (writes ++ [w]) = (db.after writes).write w :=
  List.foldl_concat _ _ _ _

theorem write_self (w : Write δ) : db.write w w.collection = (db w.collection).save w.document :=
  Function.update_self _ _ _

theorem write_of_ne {w : Write δ} (h : name ≠ w.collection) : db.write w name = db name :=
  Function.update_of_ne h _ _

/-- Saving a stored document changes nothing. -/
theorem save_of_mem {c : Collection δ} {x : δ} (h : x ∈ c) : c.save x = c := by
  have hkey : Document.key x ∈ c.docs.map Document.key := List.mem_map_of_mem h
  have hdocs : c.docs.map (Collection.replaced x) = c.docs := by
    have hsame : ∀ y ∈ c.docs, Collection.replaced x y = y := by
      intro y hy
      rw [Collection.replaced]
      split
      · rename_i hyx
        exact (Collection.eq_of_key_eq hy h hyx).symm
      · rfl
    rw [List.map_congr_left hsame, List.map_id']
  rw [Collection.save, dif_pos hkey]
  obtain ⟨docs, hnodup⟩ := c
  simp only [Collection.mk.injEq]
  exact hdocs

/-- Writes that find their documents stored leave the collection alone. -/
theorem after_apply_of_mem {writes : List (Write δ)}
    (h : ∀ w ∈ writes, w.collection = name → w.document ∈ db name) :
    (db.after writes) name = db name := by
  induction writes using List.reverseRecOn with
  | nil => rfl
  | append_singleton writes w ih =>
      have hprior := ih fun v hv => h v (List.mem_append_left _ hv)
      rw [after_concat]
      by_cases hw : name = w.collection
      · subst hw
        have hmem := h w (List.mem_append_right _ (List.mem_singleton_self w)) rfl
        rw [write_self, hprior, save_of_mem hmem]
      · rw [write_of_ne hw, hprior]

/-- A document that no write replaces stays. -/
theorem get?_after_of_unwritten {writes : List (Write δ)}
    (h : ∀ w ∈ writes, w.collection = name → Document.key w.document ≠ k) :
    ((db.after writes) name).get? k = (db name).get? k := by
  induction writes using List.reverseRecOn with
  | nil => rfl
  | append_singleton writes w ih =>
      have hprior := ih fun v hv => h v (List.mem_append_left _ hv)
      rw [after_concat]
      by_cases hw : name = w.collection
      · subst hw
        have hne := h w (List.mem_append_right _ (List.mem_singleton_self w)) rfl
        rw [write_self, Collection.get?_save_of_ne _ hne.symm, hprior]
      · rw [write_of_ne hw, hprior]

/-- A document is set if it is written and every write under its identifier agrees. -/
theorem get?_after_of_agree {writes : List (Write δ)} {x : δ} (hmem : ⟨name, x⟩ ∈ writes)
    (h : ∀ w ∈ writes, w.collection = name → Document.key w.document = Document.key x →
      w.document = x) :
    ((db.after writes) name).get? (Document.key x) = some x := by
  induction writes using List.reverseRecOn with
  | nil => cases hmem
  | append_singleton writes w ih =>
      rw [after_concat]
      by_cases hw : name = w.collection
      · subst hw
        rw [write_self]
        by_cases hkey : Document.key w.document = Document.key x
        · have hsame := h w (List.mem_append_right _ (List.mem_singleton_self w)) rfl hkey
          rw [hsame, Collection.get?_save_self]
        · rw [Collection.get?_save_of_ne _ fun heq => hkey heq.symm]
          apply ih
          · rcases List.mem_append.mp hmem with hmem | hmem
            · exact hmem
            · rw [List.mem_singleton] at hmem
              rw [← hmem] at hkey
              exact absurd rfl hkey
          · exact fun v hv => h v (List.mem_append_left _ hv)
      · rw [write_of_ne hw]
        apply ih
        · rcases List.mem_append.mp hmem with hmem | hmem
          · exact hmem
          · rw [List.mem_singleton] at hmem
            rw [← hmem] at hw
            exact absurd rfl hw
        · exact fun v hv => h v (List.mem_append_left _ hv)

/-- No write changes anything, at any moment. -/
def Unmodified (db : Database κ δ) (writes : List (Write δ)) : Prop :=
  ∀ prior, prior <+: writes → db.after prior = db

/-- The collection is the same at every moment. -/
def Untouched (db : Database κ δ) (writes : List (Write δ)) (name : String) : Prop :=
  ∀ prior, prior <+: writes → (db.after prior) name = db name

theorem untouched_iff {writes : List (Write δ)} :
    Untouched db writes name ↔ ∀ w ∈ writes, w.collection = name → w.document ∈ db name := by
  constructor
  · rintro h w hw rfl
    obtain ⟨before, behind, rfl⟩ := List.append_of_mem hw
    have hafter := h (before ++ [w]) ⟨behind, by simp⟩
    rw [after_concat, write_self] at hafter
    rw [← hafter]
    exact Collection.mem_save_self _ _
  · intro h prior hprior
    exact after_apply_of_mem fun w hw => h w (hprior.subset hw)

theorem unmodified_iff {writes : List (Write δ)} :
    Unmodified db writes ↔ ∀ w ∈ writes, w.document ∈ db w.collection := by
  constructor
  · intro h w hw
    exact untouched_iff.mp (fun prior hprior => by rw [h prior hprior]) w hw rfl
  · intro h prior hprior
    funext name
    exact untouched_iff.mpr (fun w hw hname => hname ▸ h w hw) prior hprior

end Database

/-! ## The documents of a collection -/

/-- What the lines hold. -/
def loadedLines (libs : Libraries δ) (lines : List Bytes) : List (Loaded δ) :=
  (lines.filter fun line => line ≠ []).map libs.loads

theorem restoreBatchSize_pos : 0 < restoreBatchSize := by decide

/-- The documents of the full batches. -/
def fullBatches (documents : List δ) : List δ :=
  documents.take (restoreBatchSize * (documents.length / restoreBatchSize))

theorem fullBatches_of_lt {documents : List δ} (h : documents.length < restoreBatchSize) :
    fullBatches documents = [] := by
  rw [fullBatches, Nat.div_eq_of_lt h]
  rfl

theorem fullBatches_append {batch : List δ} (h : batch.length = restoreBatchSize)
    (documents : List δ) : fullBatches (batch ++ documents) = batch ++ fullBatches documents := by
  rw [fullBatches, fullBatches, List.length_append, h, Nat.add_div_left _ restoreBatchSize_pos, Nat.mul_succ,
    Nat.add_comm, List.take_append, h, Nat.add_sub_cancel_left, List.take_of_length_le]
  omega

/-- How the lines of a collection end, with the documents that were written. -/
inductive LinesEnd (loaded : List (Loaded δ)) (operations : List δ) :
    List δ → Except Failure Unit → Prop
  | restored (documents written : List δ) (read : loaded = documents.map .document)
      (perm : written.Perm (operations ++ documents)) : LinesEnd loaded operations written (.ok ())
  | invalid (documents written : List δ) (rest : List (Loaded δ))
      (read : loaded = documents.map .document ++ .value :: rest)
      (perm : written.Perm (fullBatches (operations ++ documents))) :
      LinesEnd loaded operations written (.error (.backup "backup_document_invalid"))
  | raised (written : List δ) (exception : String) :
      LinesEnd loaded operations written (.error (.other exception))

/-- A document joins the batch under way. -/
theorem LinesEnd.cons {loaded : List (Loaded δ)} {operations written : List δ} {document : δ}
    {r : Except Failure Unit} (h : LinesEnd loaded (operations ++ [document]) written r) :
    LinesEnd (.document document :: loaded) operations written r := by
  cases h with
  | restored documents _ read perm =>
      refine .restored (document :: documents) written (by rw [read]; rfl) ?_
      simpa using perm
  | invalid documents _ rest read perm =>
      refine .invalid (document :: documents) written rest (by rw [read]; rfl) ?_
      simpa using perm
  | raised _ exception => exact .raised written exception

/-- A full batch is written before the rest. -/
theorem LinesEnd.batch {loaded : List (Loaded δ)} {batch first written : List δ}
    {r : Except Failure Unit} (h : LinesEnd loaded [] written r)
    (hlength : batch.length = restoreBatchSize) (hperm : first.Perm batch) :
    LinesEnd loaded batch (first ++ written) r := by
  cases h with
  | restored documents _ read perm => exact .restored documents _ read (hperm.append perm)
  | invalid documents _ rest read perm =>
      refine .invalid documents _ rest read ?_
      rw [fullBatches_append hlength]
      exact hperm.append perm
  | raised _ exception => exact .raised _ exception

section Lines

variable {libs : Libraries δ} {server : Server κ δ} {db : Database κ δ} {name : String}

/-- A batch that the server accepts has been written. -/
theorem applyRestoreBatch_writes (operations : List δ) (progress : Progress δ) :
    ∃ written : List δ,
      (applyRestoreBatch server db name operations progress).1.writes =
        progress.writes ++ written.map (Write.mk name) ∧
      ((applyRestoreBatch server db name operations progress).2 = .ok () ∧
          written.Perm operations ∨
        (applyRestoreBatch server db name operations progress).2 =
          .error (.other "BulkWriteError")) := by
  refine ⟨server.performs (db.after progress.writes) name operations, ?_⟩
  rw [applyRestoreBatch]
  by_cases haccepts : server.accepts (db.after progress.writes) name operations = true
  · rw [if_pos haccepts]
    exact ⟨rfl, .inl ⟨rfl, server.perm _ _ _ haccepts⟩⟩
  · rw [if_neg haccepts]
    exact ⟨rfl, .inr rfl⟩

theorem loadedLines_cons (libs : Libraries δ) {line : Bytes} (h : line ≠ []) (lines : List Bytes) :
    loadedLines libs (line :: lines) = libs.loads line :: loadedLines libs lines := by
  rw [loadedLines, List.filter_cons_of_pos (by simpa using h), List.map_cons]
  rfl

theorem loadedLines_cons_nil (libs : Libraries δ) (lines : List Bytes) :
    loadedLines libs ([] :: lines) = loadedLines libs lines := by
  rw [loadedLines, List.filter_cons_of_neg (by simp)]
  rfl

/-- A rehearsal writes nothing. -/
theorem restoreLines_rehearsal (libs : Libraries δ) (server : Server κ δ) (db : Database κ δ)
    (name : String) (operations : List δ) (progress : Progress δ) (lines : List Bytes)
    (h : operations = []) :
    (restoreLines libs server db name false operations progress lines).1.writes =
      progress.writes := by
  induction lines generalizing progress with
  | nil => rw [restoreLines, if_pos h]
  | cons line lines ih =>
      rw [restoreLines]
      split
      · exact ih progress
      · split
        · rfl
        · rfl
        · exact ih _

/-- What the lines of a collection have written when they end. -/
theorem restoreLines_writes (libs : Libraries δ) (server : Server κ δ) (db : Database κ δ)
    (name : String) (operations : List δ) (progress : Progress δ) (lines : List Bytes)
    (hlength : operations.length < restoreBatchSize) :
    ∃ written : List δ,
      (restoreLines libs server db name true operations progress lines).1.writes =
        progress.writes ++ written.map (Write.mk name) ∧
      LinesEnd (loadedLines libs lines) operations written
        (restoreLines libs server db name true operations progress lines).2 := by
  induction lines generalizing operations progress with
  | nil =>
      rw [restoreLines]
      by_cases hempty : operations = []
      · rw [if_pos hempty]
        exact ⟨[], by simp, .restored [] [] rfl (by simp [hempty])⟩
      · rw [if_neg hempty]
        obtain ⟨written, hwrites, hend⟩ :=
          applyRestoreBatch_writes operations progress
        refine ⟨written, hwrites, ?_⟩
        rcases hend with ⟨hok, hperm⟩ | herror
        · rw [hok]
          exact .restored [] written rfl (by simpa using hperm)
        · rw [herror]
          exact .raised written _
  | cons line lines ih =>
      rw [restoreLines]
      by_cases hline : line = []
      · subst hline
        rw [if_pos rfl, loadedLines_cons_nil]
        exact ih operations progress hlength
      · rw [if_neg hline, loadedLines_cons libs hline]
        cases hload : libs.loads line with
        | raises => exact ⟨[], by simp, .raised [] _⟩
        | value =>
            refine ⟨[], by simp, .invalid [] [] (loadedLines libs lines) rfl ?_⟩
            rw [List.append_nil, fullBatches_of_lt hlength]
        | document document =>
            dsimp only
            rw [if_pos rfl]
            by_cases hfull : restoreBatchSize ≤ (operations ++ [document]).length
            · rw [if_pos hfull]
              obtain ⟨first, hwrites, hend⟩ := applyRestoreBatch_writes (operations ++ [document])
                { progress with documents := progress.documents + 1 }
              cases hbatch : applyRestoreBatch server db name (operations ++ [document])
                  { progress with documents := progress.documents + 1 } with
              | mk progress' r =>
                  rw [hbatch] at hwrites hend
                  rcases hend with ⟨rfl, hperm⟩ | rfl
                  · obtain ⟨written, hrest, hend⟩ := ih [] progress' restoreBatchSize_pos
                    refine ⟨first ++ written, ?_, ?_⟩
                    · rw [hrest, hwrites, List.append_assoc, ← List.map_append]
                    · apply LinesEnd.cons
                      apply hend.batch _ hperm
                      rw [List.length_append, List.length_singleton] at hfull ⊢
                      omega
                  · exact ⟨first, hwrites, .raised first _⟩
            · rw [if_neg hfull]
              obtain ⟨written, hrest, hend⟩ := ih (operations ++ [document])
                { progress with documents := progress.documents + 1 } (Nat.lt_of_not_le hfull)
              exact ⟨written, hrest, hend.cons⟩

end Lines

/-! ## The collections of an archive -/

/-- The documents before the first line that is none. -/
def leading : List (Loaded δ) → List δ
  | .document document :: loaded => document :: leading loaded
  | _ => []

theorem leading_map (documents : List δ) : leading (documents.map Loaded.document) = documents := by
  induction documents with
  | nil => rfl
  | cons document documents ih => rw [List.map_cons, leading, ih]

theorem leading_append_value (documents : List δ) (rest : List (Loaded δ)) :
    leading (documents.map Loaded.document ++ .value :: rest) = documents := by
  induction documents with
  | nil => rfl
  | cons document documents ih => rw [List.map_cons, List.cons_append, leading, ih]

/-- What is due before the first collection or document that is refused: the documents of the
collections before it, and those of the full batches of its own collection. -/
def appliedBefore (libs : Libraries δ) (files : Files) : MembersByCollection → List (Write δ)
  | [] => []
  | c :: members =>
    if c.1 ∉ documentModels then []
    else
      let loaded := loadedLines libs (memberLines files c.2)
      if (leading loaded).length = loaded.length then
        (leading loaded).map (Write.mk c.1) ++ appliedBefore libs files members
      else (fullBatches (leading loaded)).map (Write.mk c.1)

/-- The names that are passed over are none of the collections. -/
theorem shouldApply_of_mem {name : String} (h : name ∈ documentModels) :
    shouldApply true name = true := by
  have hall : ∀ model ∈ documentModels, model ∉ [taskCollectionName, backupCollectionName] := by
    decide
  simp [shouldApply, hall name h]

theorem shouldApply_rehearsal (name : String) : shouldApply false name = false := rfl

/-- Some member of the collection holds the document. -/
def HoldsDocument (libs : Libraries δ) (files : Files) (members : MembersByCollection) (name : String)
    (document : δ) : Prop :=
  ∃ names, (name, names) ∈ members ∧
    Loaded.document document ∈ loadedLines libs (memberLines files names)

section Collections

variable {libs : Libraries δ} {server : Server κ δ} {db : Database κ δ} {files : Files}

theorem holdsDocument_cons {c : String × List String} {members : MembersByCollection} {name : String}
    {document : δ} : HoldsDocument libs files (c :: members) name document ↔
      (name = c.1 ∧ Loaded.document document ∈ loadedLines libs (memberLines files c.2)) ∨
        HoldsDocument libs files members name document := by
  constructor
  · rintro ⟨names, hmem, hdocument⟩
    rcases List.mem_cons.mp hmem with hhead | htail
    · cases hhead
      exact .inl ⟨rfl, hdocument⟩
    · exact .inr ⟨names, htail, hdocument⟩
  · rintro (⟨rfl, hdocument⟩ | ⟨names, hmem, hdocument⟩)
    · exact ⟨c.2, List.mem_cons_self, hdocument⟩
    · exact ⟨names, List.mem_cons_of_mem _ hmem, hdocument⟩

theorem mem_map_mk {name : String} {documents : List δ} {w : Write δ} :
    w ∈ documents.map (Write.mk name) ↔ w.collection = name ∧ w.document ∈ documents := by
  constructor
  · intro h
    obtain ⟨document, hmem, rfl⟩ := List.mem_map.mp h
    exact ⟨rfl, hmem⟩
  · rintro ⟨rfl, hmem⟩
    exact List.mem_map_of_mem hmem

/-- A collection whose lines are all documents is due as a whole. -/
theorem appliedBefore_of_read {name : String} {names : List String} {members : MembersByCollection}
    {documents : List δ} (hmodel : name ∈ documentModels)
    (hread : loadedLines libs (memberLines files names) = documents.map .document) :
    appliedBefore libs files ((name, names) :: members) =
      documents.map (Write.mk name) ++ appliedBefore libs files members := by
  rw [appliedBefore, if_neg (not_not.mpr hmodel)]
  dsimp only
  rw [hread, leading_map, if_pos (by rw [List.length_map])]

/-- A collection with a line that is no document is due with the full batches before it. -/
theorem appliedBefore_of_invalid {name : String} {names : List String}
    {members : MembersByCollection} {documents : List δ} {rest : List (Loaded δ)}
    (hmodel : name ∈ documentModels)
    (hread : loadedLines libs (memberLines files names) =
      documents.map .document ++ .value :: rest) :
    appliedBefore libs files ((name, names) :: members) =
      (fullBatches documents).map (Write.mk name) := by
  rw [appliedBefore, if_neg (not_not.mpr hmodel)]
  dsimp only
  rw [hread, leading_append_value, if_neg (by simp)]

/-- How the collections end, with the writes that were made. -/
inductive CollectionsEnd (libs : Libraries δ) (files : Files) (members : MembersByCollection)
    (written : List (Write δ)) : Except Failure Unit → Prop
  | restored (same : ∀ w, w ∈ written ↔ HoldsDocument libs files members w.collection w.document) :
      CollectionsEnd libs files members written (.ok ())
  | refused (code : String) (same : ∀ w, w ∈ written ↔ w ∈ appliedBefore libs files members) :
      CollectionsEnd libs files members written (.error (.backup code))
  | raised (exception : String) : CollectionsEnd libs files members written (.error (.other exception))

/-- A collection that is restored comes before the rest. -/
theorem CollectionsEnd.cons {name : String} {names : List String} {members : MembersByCollection}
    {documents first : List δ} {written : List (Write δ)} {r : Except Failure Unit}
    (h : CollectionsEnd libs files members written r) (hmodel : name ∈ documentModels)
    (hread : loadedLines libs (memberLines files names) = documents.map .document)
    (hperm : first.Perm documents) :
    CollectionsEnd libs files ((name, names) :: members) (first.map (Write.mk name) ++ written) r := by
  cases h with
  | restored same =>
      refine .restored fun w => ?_
      rw [List.mem_append, mem_map_mk, same, holdsDocument_cons, hread, hperm.mem_iff]
      simp
  | refused code same =>
      refine .refused code fun w => ?_
      rw [List.mem_append, mem_map_mk, same, appliedBefore_of_read hmodel hread, List.mem_append,
        mem_map_mk, hperm.mem_iff]
  | raised exception => exact .raised exception

/-- What the collections of an archive have written when the restore ends. -/
theorem restoreCollections_writes (libs : Libraries δ) (server : Server κ δ) (db : Database κ δ)
    (files : Files) (progress : Progress δ) (members : MembersByCollection) :
    ∃ written : List (Write δ),
      (restoreCollections libs server db files true progress members).1.writes =
        progress.writes ++ written ∧
      CollectionsEnd libs files members written
        (restoreCollections libs server db files true progress members).2 := by
  induction members generalizing progress with
  | nil =>
      refine ⟨[], by simp [restoreCollections], .restored fun w => ?_⟩
      simp [HoldsDocument]
  | cons c members ih =>
      obtain ⟨name, names⟩ := c
      rw [restoreCollections, restoreCollection]
      by_cases hmodel : name ∈ documentModels
      · rw [if_neg (not_not.mpr hmodel), shouldApply_of_mem hmodel]
        obtain ⟨first, hwrites, hend⟩ := restoreLines_writes libs server db name []
          { progress with skipped :=
            if true = true ∧ true = false then progress.skipped ++ [name] else progress.skipped }
          (memberLines files names) restoreBatchSize_pos
        dsimp only
        cases hlines : restoreLines libs server db name true [] { progress with skipped :=
            if true = true ∧ true = false then progress.skipped ++ [name] else progress.skipped }
            (memberLines files names) with
        | mk progress' r =>
            rw [hlines] at hwrites hend
            dsimp only at hwrites hend ⊢
            cases hend with
            | restored documents _ read perm =>
                obtain ⟨written, hrest, hend⟩ := ih progress'
                refine ⟨first.map (Write.mk name) ++ written, ?_, hend.cons hmodel read perm⟩
                rw [hrest, hwrites, List.append_assoc]
            | invalid documents _ rest read perm =>
                refine ⟨first.map (Write.mk name), hwrites, .refused _ fun w => ?_⟩
                rw [appliedBefore_of_invalid hmodel read, mem_map_mk, mem_map_mk, perm.mem_iff]
                rfl
            | raised _ exception => exact ⟨first.map (Write.mk name), hwrites, .raised exception⟩
      · rw [if_pos hmodel]
        refine ⟨[], by simp, .refused _ fun w => ?_⟩
        rw [appliedBefore, if_pos hmodel]

/-- A rehearsal writes nothing. -/
theorem restoreCollections_rehearsal (libs : Libraries δ) (server : Server κ δ)
    (db : Database κ δ) (files : Files) (progress : Progress δ) (members : MembersByCollection) :
    (restoreCollections libs server db files false progress members).1.writes = progress.writes := by
  induction members generalizing progress with
  | nil => rfl
  | cons c members ih =>
      rw [restoreCollections, restoreCollection]
      by_cases hmodel : c.1 ∈ documentModels
      · rw [if_neg (not_not.mpr hmodel), shouldApply_rehearsal]
        dsimp only
        have hlines := restoreLines_rehearsal libs server db c.1 [] { progress with skipped :=
            if false = true ∧ false = false then progress.skipped ++ [c.1] else progress.skipped }
          (memberLines files c.2) rfl
        split
        · rename_i progress' hrun
          rw [hrun] at hlines
          rw [ih, hlines]
        · rename_i progress' e hrun
          rw [hrun] at hlines
          exact hlines
      · rw [if_pos hmodel]

end Collections

end Grouproxy.Backups
