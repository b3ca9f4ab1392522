import Grouproxy.Model.Retention

/-! # The pass that removes backups

A pass removes the records that are neither kept nor protected and whose artifacts can be removed.
-/

namespace Grouproxy.Retention

open Buckets Collections Collection DateTimes Programs Tasks

variable {directory : Directory} {settings : Settings} {s t : Store} {files : List String}
  {record : BackupRecord} {records : List BackupRecord} {condemned : BackupRecord → Bool}

/-! ## Artifacts -/

/-- How removing the artifact of a record ends. -/
def deletion (directory : Directory) (files : List String) (record : BackupRecord) :
    Except TaskError Unit :=
  match artifactPath directory record with
  | .error e => .error e
  | .ok name =>
    if name ∈ files ∧ directory.locked name then .error (.backup "backup_retention_delete_failed")
    else .ok ()

theorem artifactPath_eq_ok {name : String} (hfound : isFound record = true)
    (h : artifactPath directory record = .ok name) : name = record.storageRef := by
  have hreference : record.storageRef ≠ "" := by
    simp only [isFound, decide_eq_true_eq] at hfound
    exact hfound.2
  rw [artifactPath] at h
  cases hroot : directory.root with
  | none => simp [hroot] at h
  | some root =>
      cases hresolve : directory.resolve root record.storageRef with
      | none => simp [hroot, hreference, hresolve] at h
      | some path =>
          simp only [hroot, hreference, hresolve, ne_eq, not_false_eq_true, if_true, if_false] at h
          split at h
          · cases h
          · rename_i hpath
            cases h
            by_contra hne
            exact hpath (.inr hne)

theorem deleteBackupArtifact_eq (hfound : isFound record = true) (s : Store) :
    deleteBackupArtifact directory record s = (deletion directory s.files record,
      if deletion directory s.files record = .ok () then
        { s with files := s.files.filter fun file => file ≠ record.storageRef }
      else s) := by
  rw [deleteBackupArtifact, deletion]
  cases hpath : artifactPath directory record with
  | error e => simp
  | ok name =>
      obtain rfl := artifactPath_eq_ok hfound hpath
      by_cases hmem : record.storageRef ∈ s.files
      · cases hlocked : directory.locked record.storageRef <;> simp [hmem, hlocked]
      · have hfilter : s.files.filter (fun file => file ≠ record.storageRef) = s.files :=
          List.filter_eq_self.mpr fun file hfile => by
            simpa using ne_of_mem_of_not_mem hfile hmem
        simp only [hmem, not_false_eq_true, if_true, false_and, if_false, hfilter]

theorem deletion_congr {others : List String}
    (h : ∀ file, directory.locked file = true → (file ∈ files ↔ file ∈ others)) :
    deletion directory files record = deletion directory others record := by
  rw [deletion, deletion]
  cases artifactPath directory record with
  | error e => rfl
  | ok name =>
      have hiff : (name ∈ files ∧ directory.locked name = true) ↔
          (name ∈ others ∧ directory.locked name = true) :=
        and_congr_left fun hlocked => h name hlocked
      simp only [hiff]

theorem not_locked_of_deletion (hfound : isFound record = true)
    (h : deletion directory files record = .ok ()) (hmem : record.storageRef ∈ files) :
    directory.locked record.storageRef = false := by
  rw [deletion] at h
  cases hpath : artifactPath directory record with
  | error e => simp [hpath] at h
  | ok name =>
      obtain rfl := artifactPath_eq_ok hfound hpath
      simpa [hpath, hmem] using h

/-! ## What a pass removes -/

/-- The records that a pass removes; an exception ends it. -/
def removals (directory : Directory) (files : List String) (condemned : BackupRecord → Bool) :
    List BackupRecord → List BackupRecord
  | [] => []
  | record :: records =>
    if condemned record then
      match deletion directory files record with
      | .ok () => record :: removals directory files condemned records
      | .error (.backup _) => removals directory files condemned records
      | .error _ => []
    else removals directory files condemned records

theorem mem_removals (h : record ∈ removals directory files condemned records) :
    record ∈ records ∧ condemned record = true ∧ deletion directory files record = .ok () := by
  induction records with
  | nil => cases h
  | cons other records ih =>
      have htail : record ∈ removals directory files condemned records →
          record ∈ other :: records ∧ condemned record = true ∧
            deletion directory files record = .ok () :=
        fun hmem => ⟨List.mem_cons_of_mem _ (ih hmem).1, (ih hmem).2⟩
      rw [removals] at h
      by_cases hcondemned : condemned other = true
      · rw [if_pos hcondemned] at h
        split at h
        · rename_i hdeletion
          rcases List.mem_cons.mp h with rfl | h
          · exact ⟨List.mem_cons_self, hcondemned, hdeletion⟩
          · exact htail h
        · exact htail h
        · cases h
      · rw [if_neg hcondemned] at h
        exact htail h

theorem removals_congr {others : List String}
    (h : ∀ file, directory.locked file = true → (file ∈ files ↔ file ∈ others)) :
    removals directory files condemned records = removals directory others condemned records := by
  induction records with
  | nil => rfl
  | cons record records ih => rw [removals, removals, deletion_congr h, ih]

/-- What is left of some records: each is as it was, or changed into one that fares alike, or it has
been removed. -/
def Leaves (directory : Directory) (files others : List String) (condemned : BackupRecord → Bool)
    (change : BackupRecord → Option BackupRecord) (record : BackupRecord) : Prop :=
  (∀ changed, change record = some changed → condemned changed = condemned record ∧
    deletion directory others changed = deletion directory files record) ∧
  (change record = none → condemned record = true ∧ deletion directory files record = .ok ())

/-- A pass over what is left removes what is left of the records it would have removed. -/
theorem removals_filterMap {others : List String} {change : BackupRecord → Option BackupRecord}
    (h : ∀ record ∈ records, Leaves directory files others condemned change record) :
    removals directory others condemned (records.filterMap change) =
      (removals directory files condemned records).filterMap change := by
  induction records with
  | nil => rfl
  | cons record records ih =>
      have ih := ih fun r hr => h r (List.mem_cons_of_mem _ hr)
      obtain ⟨hchanged, hgone⟩ := h record List.mem_cons_self
      cases hchange : change record with
      | none =>
          obtain ⟨hcondemned, hdeletion⟩ := hgone hchange
          rw [List.filterMap_cons_none hchange, ih, removals, if_pos hcondemned, hdeletion,
            List.filterMap_cons_none hchange]
      | some changed =>
          obtain ⟨hcondemned, hdeletion⟩ := hchanged changed hchange
          rw [List.filterMap_cons_some hchange, removals, removals, hcondemned, hdeletion]
          by_cases hfate : condemned record = true
          · rw [if_pos hfate, if_pos hfate]
            split
            · rw [ih, List.filterMap_cons_some hchange]
            · exact ih
            · rfl
          · rw [if_neg hfate, if_neg hfate, ih]

/-! ## A whole pass -/

/-- The identifiers of the records. -/
def Store.ids (s : Store) : List String := s.records.docs.map BackupRecord.backupId

def expiredWith (record : BackupRecord) (error : String) : BackupRecord :=
  { record with status := "expired", error := error }

@[simp] theorem expiredWith_expiredWith (record : BackupRecord) (error later : String) :
    { expiredWith record error with error := later } = expiredWith record later := rfl

theorem deletion_expiredWith (record : BackupRecord) (error : String) :
    deletion directory files (expiredWith record error) = deletion directory files record := rfl

theorem ids_save (h : record.backupId ∈ s.ids) :
    Store.ids { s with records := s.records.save record } = s.ids := by
  have hmem : Document.key record ∈ s.records.docs.map Document.key := h
  rw [Store.ids, Collection.save, dif_pos hmem]
  exact map_key_replaced record s.records.docs

theorem ids_delete (s : Store) (id : String) :
    Store.ids { s with records := s.records.delete id } =
      s.ids.filter fun other => decide (other ≠ id) := by
  rw [Store.ids, Store.ids, List.filter_map]
  rfl

/-- How the body of the loop ends for a record whose artifact is to be removed. -/
def ending : Except TaskError Unit → Except TaskError Unit
  | .error (.backup _) => .ok ()
  | r => r

/-- The store has lost the record and its file. -/
def Loses (s t : Store) (record : BackupRecord) : Prop :=
  t.ids = s.ids.filter (fun id => decide (id ≠ record.backupId)) ∧
    t.files = s.files.filter fun file => decide (file ≠ record.storageRef)

/-- The store has its records and files, also where a record has changed. -/
def Retains (s t : Store) : Prop := t.ids = s.ids ∧ t.files = s.files

theorem run_markExpired (hmem : record.backupId ∈ s.ids) : ∃ error t,
    (markExpired record).run s = (.ok (expiredWith record error), t) ∧ Retains s t := by
  rw [markExpired]
  split
  · exact ⟨"", _, rfl, ids_save hmem, rfl⟩
  · rename_i hexpired
    have hsame : expiredWith record record.error = record := by
      rw [expiredWith, ← not_not.mp hexpired]
    exact ⟨record.error, s, by rw [hsame]; rfl, rfl, rfl⟩

/-- The artifact is gone, and the exceptions that a pass survives are told from the others. -/
theorem run_unlinkFailure (hfound : isFound record = true) (s : Store) :
    (unlinkFailure directory record).run s =
      match deletion directory s.files record with
      | .ok () => (.ok none, { s with files := s.files.filter fun file => file ≠ record.storageRef })
      | .error (.backup code) => (.ok (some code), s)
      | .error e => (.error e, s) := by
  have hrun : (unlinkArtifact directory record).run s = _ := deleteBackupArtifact_eq hfound s
  rw [unlinkFailure]
  cases hdeletion : deletion directory s.files record with
  | ok u =>
      rw [hdeletion, if_pos rfl] at hrun
      exact Prog.run_tryCatch_ok (Prog.run_bind_ok hrun _) _
  | error e =>
      rw [hdeletion, if_neg (by simp)] at hrun
      rw [Prog.run_tryCatch_error (Prog.run_bind_error hrun _)]
      cases e <;> rfl

theorem run_expire (hfound : isFound record = true) (hmem : record.backupId ∈ s.ids) : ∃ t,
    (expire directory record).run s = (ending (deletion directory s.files record), t) ∧
      if deletion directory s.files record = .ok () then Loses s t record else Retains s t := by
  obtain ⟨error, marked, hmark, hids, hfiles⟩ := run_markExpired hmem
  have hunlink : (unlinkFailure directory (expiredWith record error)).run marked = _ :=
    run_unlinkFailure hfound marked
  rw [hfiles] at hunlink
  rw [expire, Prog.run_bind_ok hmark]
  cases hdeletion : deletion directory s.files record with
  | ok u =>
      rw [hdeletion] at hunlink
      rw [Prog.run_bind_ok hunlink]
      refine ⟨_, rfl, ?_⟩
      rw [if_pos rfl]
      refine ⟨?_, rfl⟩
      rw [← hids]
      exact ids_delete marked record.backupId
  | error e =>
      rw [hdeletion] at hunlink
      simp only [reduceCtorEq, if_false]
      cases e with
      | backup code =>
          rw [Prog.run_bind_ok hunlink]
          have hmarked : (expiredWith record code).backupId ∈ marked.ids := hids ▸ hmem
          refine ⟨_, rfl, ?_, hfiles⟩
          rw [← hids]
          exact ids_save hmarked
      | _ =>
          rw [Prog.run_bind_error hunlink]
          exact ⟨_, rfl, hids, hfiles⟩

/-- The records whose turn it is to be removed. -/
def isCondemned (retained : Finset String) (protectedIds : List String) (record : BackupRecord) :
    Bool :=
  record.backupId ∉ retained ∧ record.backupId ∉ protectedIds ∧
    (record.status ∈ backupReadyStatuses ∨ record.status = "expired")

theorem retainOrExpire_eq (directory : Directory) (retained : Finset String)
    (protectedIds : List String) (record : BackupRecord) :
    retainOrExpire directory retained protectedIds record =
      if isCondemned retained protectedIds record then expire directory record
      else return () := by
  rw [retainOrExpire]
  by_cases hkept : record.backupId ∈ retained ∨ record.backupId ∈ protectedIds
  · have hnot : isCondemned retained protectedIds record = false := by
      rw [isCondemned, decide_eq_false_iff_not]
      tauto
    rw [if_pos hkept, hnot]
    rfl
  · rw [if_neg hkept]
    by_cases hstatus : record.status ∉ backupReadyStatuses ∧ record.status ≠ "expired"
    · have hnot : isCondemned retained protectedIds record = false := by
        rw [isCondemned, decide_eq_false_iff_not]
        tauto
      rw [if_pos hstatus, hnot]
      rfl
    · have hcondemned : isCondemned retained protectedIds record = true := by
        rw [isCondemned, decide_eq_true_eq]
        tauto
      rw [if_neg hstatus, if_pos hcondemned]

/-- The store has lost records and their files. -/
def LosesAll (s t : Store) (removed : List BackupRecord) : Prop :=
  (∀ id, id ∈ t.ids ↔ id ∈ s.ids ∧ id ∉ removed.map BackupRecord.backupId) ∧
    ∀ file, file ∈ t.files ↔ file ∈ s.files ∧ file ∉ removed.map BackupRecord.storageRef

theorem losesAll_nil (h : Retains s t) : LosesAll s t [] := by
  rw [LosesAll, h.1, h.2]
  simp

theorem Retains.losesAll {u : Store} {removed : List BackupRecord} (h : Retains s t)
    (hall : LosesAll t u removed) : LosesAll s u removed := by
  rw [LosesAll, h.1, h.2] at hall
  exact hall

theorem Loses.losesAll {u : Store} {removed : List BackupRecord} (h : Loses s t record)
    (hall : LosesAll t u removed) : LosesAll s u (record :: removed) := by
  rw [LosesAll, h.1, h.2] at hall
  refine ⟨fun id => ?_, fun file => ?_⟩
  · rw [hall.1, List.mem_filter, decide_eq_true_eq, List.map_cons, List.mem_cons, not_or,
      and_assoc]
  · rw [hall.2, List.mem_filter, decide_eq_true_eq, List.map_cons, List.mem_cons, not_or,
      and_assoc]

theorem run_retainOrExpireAll (retained : Finset String) (protectedIds : List String)
    (hfound : ∀ r ∈ records, isFound r = true) (hmem : ∀ r ∈ records, r.backupId ∈ s.ids)
    (hnodup : (records.map BackupRecord.backupId).Nodup) :
    LosesAll s ((retainOrExpireAll directory retained protectedIds records).run s).2
      (removals directory s.files (isCondemned retained protectedIds) records) := by
  induction records generalizing s with
  | nil => exact losesAll_nil ⟨rfl, rfl⟩
  | cons record records ih =>
      have ih := fun t => @ih t (fun r hr => hfound r (List.mem_cons_of_mem _ hr))
      have hother : ∀ r ∈ records, r.backupId ≠ record.backupId := fun r hr heq =>
        (List.nodup_cons.mp hnodup).1 (heq ▸ List.mem_map_of_mem hr)
      have hlater : ∀ r ∈ records, r.backupId ∈ s.ids := fun r hr =>
        hmem r (List.mem_cons_of_mem _ hr)
      have hnodup := (List.nodup_cons.mp hnodup).2
      rw [retainOrExpireAll, retainOrExpire_eq, removals]
      by_cases hcondemned : isCondemned retained protectedIds record = true
      · rw [if_pos hcondemned, if_pos hcondemned]
        obtain ⟨t, hrun, hend⟩ := run_expire (hfound record List.mem_cons_self)
          (hmem record List.mem_cons_self)
        cases hdeletion : deletion directory s.files record with
        | ok u =>
            rw [hdeletion] at hrun hend
            rw [if_pos rfl] at hend
            have hleft : ∀ r ∈ records, r.backupId ∈ t.ids := by
              intro r hr
              rw [hend.1]
              exact List.mem_filter.mpr ⟨hlater r hr, by simpa using hother r hr⟩
            have hsame : removals directory t.files (isCondemned retained protectedIds) records =
                removals directory s.files (isCondemned retained protectedIds) records := by
              refine removals_congr fun file hlocked => ?_
              rw [hend.2, List.mem_filter, decide_eq_true_eq, and_iff_left_iff_imp]
              rintro hfile rfl
              rw [not_locked_of_deletion (hfound record List.mem_cons_self) hdeletion hfile]
                at hlocked
              cases hlocked
            rw [Prog.run_bind_ok hrun, ← hsame]
            exact hend.losesAll (ih t hleft hnodup)
        | error e =>
            rw [hdeletion] at hrun hend
            simp only [reduceCtorEq, if_false] at hend
            have hleft : ∀ r ∈ records, r.backupId ∈ t.ids := fun r hr => by
              rw [hend.1]
              exact hlater r hr
            cases e with
            | backup code =>
                rw [Prog.run_bind_ok hrun, ← hend.2]
                exact hend.losesAll (ih t hleft hnodup)
            | _ =>
                rw [Prog.run_bind_error hrun]
                exact losesAll_nil hend
      · rw [if_neg hcondemned, if_neg hcondemned]
        exact ih s hlater hnodup

/-- The records that a pass finds. -/
def found (s : Store) : List BackupRecord := s.records.filter isFound

/-- The backups that a pass keeps. -/
def retainedIn (settings : Settings) (s : Store) : Finset String :=
  retainedScheduledBackupIds (found s) settings.backupRetentionDailyDays
    settings.backupRetentionWeeklyWeeks settings.backupRetentionMonthlyMonths

/-- The backups that a task is restoring. -/
def protectedIn (s : Store) : List String :=
  (s.tasks.filter isActiveRestore).map fun task => task.targetId

def condemnedIn (settings : Settings) (s : Store) : BackupRecord → Bool :=
  isCondemned (retainedIn settings s) (protectedIn s)

/-- The records that a pass removes. -/
def doomed (settings : Settings) (directory : Directory) (s : Store) : List BackupRecord :=
  removals directory s.files (condemnedIn settings s) (found s)

theorem found_mem (h : record ∈ found s) : record ∈ s.records ∧ isFound record = true :=
  mem_filter.mp h

theorem run_applyRetention (settings : Settings) (directory : Directory) (s : Store) :
    LosesAll s ((applyRetention settings directory).run s).2 (doomed settings directory s) := by
  have hnodup : ((found s).map BackupRecord.backupId).Nodup :=
    s.records.nodup.sublist (List.filter_sublist.map _)
  rw [applyRetention, Prog.run_read_bind, Prog.run_read_bind]
  exact run_retainOrExpireAll _ _ (fun r hr => (found_mem hr).2)
    (fun r hr => List.mem_map_of_mem (found_mem hr).1) hnodup

end Grouproxy.Retention
