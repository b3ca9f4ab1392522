import Grouproxy.Library.Interruptions
import Grouproxy.Verification.Backups.Retained
import Grouproxy.Verification.Backups.RetentionPass

/-! # What retention promises

However far a pass has come, what it leaves is the store without some of what a whole pass removes,
and the next pass decides in the same way on what is left.
-/

namespace Grouproxy.Retention

open Buckets Collections Collection DateTimes Programs Tasks

variable {directory : Directory} {settings : Settings} {s t : Store}
  {record : BackupRecord} {records : List BackupRecord}

/-! ## An interrupted pass -/

/-- What a pass over a store leaves behind at any point: a record is as it was, or it is condemned
and marked as expired, or it is one that a whole pass removes, and so is its file. -/
structure Pruned (settings : Settings) (directory : Directory) (s t : Store) : Prop where
  tasks : t.tasks = s.tasks
  order : t.ids.Sublist s.ids
  fate : ∀ r ∈ s.records, t.records.get? r.backupId = some r ∨
    (isFound r = true ∧ condemnedIn settings s r = true ∧
      ∃ error, t.records.get? r.backupId = some (expiredWith r error)) ∨
    (r ∈ doomed settings directory s ∧ t.records.get? r.backupId = none ∧
      r.storageRef ∉ t.files)
  remaining : ∀ file ∈ t.files, file ∈ s.files
  cleared : ∀ file ∈ s.files, file ∉ t.files →
    ∃ r ∈ doomed settings directory s, r.storageRef = file

theorem Pruned.refl (settings : Settings) (directory : Directory) (s : Store) :
    Pruned settings directory s s where
  tasks := rfl
  order := List.Sublist.refl _
  fate := fun _ hr => .inl (get?_of_mem hr)
  remaining := fun _ hfile => hfile
  cleared := fun _ hfile hnot => absurd hfile hnot

/-- Removing an artifact ends in the same way at every point. -/
theorem Pruned.deletion_eq (h : Pruned settings directory s t) (record : BackupRecord) :
    deletion directory t.files record = deletion directory s.files record := by
  refine deletion_congr fun file hlocked => ⟨h.remaining file, fun hfile => ?_⟩
  by_contra hnot
  obtain ⟨r, hr, rfl⟩ := h.cleared file hfile hnot
  obtain ⟨hmem, -, hdeletion⟩ := mem_removals hr
  rw [not_locked_of_deletion (found_mem hmem).2 hdeletion hfile] at hlocked
  cases hlocked

/-- A condemned record that has not been removed is marked, with an error or without. -/
theorem Pruned.save (h : Pruned settings directory s t) (hr : record ∈ found s)
    (hcondemned : condemnedIn settings s record = true) (hmem : record.backupId ∈ t.ids)
    (error : String) :
    Pruned settings directory s
      { t with records := t.records.save (expiredWith record error) } where
  tasks := h.tasks
  order := by
    have hmem' : (expiredWith record error).backupId ∈ t.ids := hmem
    rw [ids_save hmem']
    exact h.order
  fate := by
    intro r hmem
    by_cases heq : r.backupId = record.backupId
    · obtain rfl : r = record := eq_of_key_eq hmem (found_mem hr).1 heq
      have hsaved : (t.records.save (expiredWith r error)).get? r.backupId =
          some (expiredWith r error) := get?_save_self _ (expiredWith r error)
      exact .inr (.inl ⟨(found_mem hr).2, hcondemned, error, hsaved⟩)
    · have hother : (t.records.save (expiredWith record error)).get? r.backupId =
          t.records.get? r.backupId := get?_save_of_ne _ heq
      rw [hother]
      exact h.fate r hmem
  remaining := h.remaining
  cleared := h.cleared

theorem Pruned.unlink (h : Pruned settings directory s t)
    (hr : record ∈ doomed settings directory s) :
    Pruned settings directory s
      { t with files := t.files.filter fun file => file ≠ record.storageRef } where
  tasks := h.tasks
  order := h.order
  fate := by
    intro r hmem
    rcases h.fate r hmem with hsame | hmarked | ⟨hdoomed, hnone, hfile⟩
    · exact .inl hsame
    · exact .inr (.inl hmarked)
    · exact .inr (.inr ⟨hdoomed, hnone, fun hin => hfile (List.mem_of_mem_filter hin)⟩)
  remaining := fun file hfile => h.remaining file (List.mem_of_mem_filter hfile)
  cleared := by
    intro file hfile hnot
    by_cases hin : file ∈ t.files
    · refine ⟨record, hr, ?_⟩
      by_contra hne
      exact hnot (List.mem_filter.mpr ⟨hin, by simpa using Ne.symm hne⟩)
    · exact h.cleared file hfile hin

theorem Pruned.delete (h : Pruned settings directory s t)
    (hr : record ∈ doomed settings directory s) (hfile : record.storageRef ∉ t.files) :
    Pruned settings directory s { t with records := t.records.delete record.backupId } where
  tasks := h.tasks
  order := by
    rw [ids_delete]
    exact List.filter_sublist.trans h.order
  fate := by
    intro r hmem
    have hrecord : record ∈ s.records := (found_mem (mem_removals hr).1).1
    by_cases heq : r.backupId = record.backupId
    · obtain rfl : r = record := eq_of_key_eq hmem hrecord heq
      exact .inr (.inr ⟨hr, get?_delete_self _ _, hfile⟩)
    · have hother : (t.records.delete record.backupId).get? r.backupId =
          t.records.get? r.backupId := get?_delete_of_ne _ heq
      rw [hother]
      exact h.fate r hmem
  remaining := h.remaining
  cleared := h.cleared

/-- The records that are still to be looked at are stored as they were found. -/
def Pending (rest : List BackupRecord) (t : Store) : Prop := ∀ r ∈ rest, r ∈ t.records

/-- What holds while a record is treated. -/
def Stage (settings : Settings) (directory : Directory) (s : Store) (rest : List BackupRecord)
    (t : Store) : Prop := Pruned settings directory s t ∧ Pending rest t

section Expire

variable {rest : List BackupRecord}

theorem Stage.save (h : Stage settings directory s rest t) (hr : record ∈ found s)
    (hcondemned : condemnedIn settings s record = true) (hmem : record.backupId ∈ t.ids)
    (hother : ∀ r ∈ rest, r.backupId ≠ record.backupId) (error : String) :
    Stage settings directory s rest
      { t with records := t.records.save (expiredWith record error) } :=
  ⟨h.1.save hr hcondemned hmem error, fun r hrest => mem_save.mpr
    (.inr ⟨h.2 r hrest, hother r hrest⟩)⟩

theorem Stage.delete (h : Stage settings directory s rest t)
    (hr : record ∈ doomed settings directory s) (hfile : record.storageRef ∉ t.files)
    (hother : ∀ r ∈ rest, r.backupId ≠ record.backupId) :
    Stage settings directory s rest
      { t with records := t.records.delete record.backupId } :=
  ⟨h.1.delete hr hfile, fun r hrest => mem_delete.mpr ⟨h.2 r hrest, hother r hrest⟩⟩

theorem keeps_setBackupAlert (h : Stage settings directory s rest t) (record : BackupRecord)
    (active : Bool) (detail : String) :
    (setBackupAlert record active detail).Keeps (Stage settings directory s rest)
      (fun _ _ => True) t := by
  refine Prog.Keeps.tryCatch (Q := fun _ _ => True) (Prog.Keeps.write h ?_ trivial trivial)
    (fun _ _ _ => trivial) fun _ _ hstage _ => Prog.Keeps.pure hstage trivial
  exact ⟨⟨h.1.tasks, h.1.order, h.1.fate, h.1.remaining, h.1.cleared⟩, h.2⟩

/-- The record that is treated is stored, whatever has become of it. -/
theorem keeps_markExpired (h : Stage settings directory s rest t) (hr : record ∈ found s)
    (hcondemned : condemnedIn settings s record = true) (hmem : record.backupId ∈ t.ids)
    (hother : ∀ r ∈ rest, r.backupId ≠ record.backupId) :
    (markExpired record).Keeps (Stage settings directory s rest)
      (fun result u => ∀ expired, result = .ok expired →
        (∃ error, expired = expiredWith record error) ∧ record.backupId ∈ u.ids) t := by
  rw [markExpired]
  split
  · have hmem' : (expiredWith record "").backupId ∈ t.ids := hmem
    have hsaved : record.backupId ∈
        Store.ids { t with records := t.records.save (expiredWith record "") } := by
      rw [ids_save hmem']
      exact hmem
    refine Prog.Keeps.bind (Q := fun result u => result = .ok () → record.backupId ∈ u.ids)
      (Prog.Keeps.write h (h.save hr hcondemned hmem hother "") (fun _ => hsaved)
        fun h => by cases h) ?_ fun _ _ _ _ h => by cases h
    intro _ u hstage hids
    refine Prog.Keeps.pure hstage ?_
    rintro expired ⟨⟩
    exact ⟨⟨"", rfl⟩, hids rfl⟩
  · rename_i hexpired
    have hsame : record = expiredWith record record.error := by
      rw [expiredWith, ← not_not.mp hexpired]
    refine Prog.Keeps.pure h ?_
    rintro expired ⟨⟩
    exact ⟨⟨record.error, hsame⟩, hmem⟩

/-- What is known once the artifact has been removed, or not. -/
def UnlinkEnds (settings : Settings) (directory : Directory) (s : Store) (record : BackupRecord)
    (result : Except TaskError (Option String)) (u : Store) : Prop :=
  record.backupId ∈ u.ids ∧
    match result with
    | .ok none => record ∈ doomed settings directory s ∧ record.storageRef ∉ u.files
    | .ok (some code) => deletion directory s.files record = .error (.backup code)
    | .error (.backup code) => deletion directory s.files record = .error (.backup code)
    | .error _ => True

theorem keeps_unlinkFailure (h : Stage settings directory s rest t) (hr : record ∈ found s)
    (hmem : record.backupId ∈ t.ids)
    (hdoomed : deletion directory s.files record = .ok () → record ∈ doomed settings directory s)
    (error : String) :
    (unlinkFailure directory (expiredWith record error)).Keeps (Stage settings directory s rest)
      (UnlinkEnds settings directory s record) t := by
  have hfound : isFound (expiredWith record error) = true := (found_mem hr).2
  have hact : deleteBackupArtifact directory (expiredWith record error) t =
      (deletion directory s.files record,
        if deletion directory s.files record = .ok () then
          { t with files := t.files.filter fun file => file ≠ record.storageRef }
        else t) := by
    rw [deleteBackupArtifact_eq hfound t, deletion_expiredWith, h.1.deletion_eq record]
    rfl
  have hunlink : (unlinkArtifact directory (expiredWith record error)).Keeps
      (Stage settings directory s rest)
      (fun result u => UnlinkEnds settings directory s record (result.map fun _ => none) u) t := by
    rw [unlinkArtifact]
    refine Prog.Keeps.atomic h ?_ ?_ ⟨hmem, trivial⟩
    · rw [hact]
      split
      · rename_i hdeletion
        exact ⟨h.1.unlink (hdoomed hdeletion), h.2⟩
      · exact h
    · rw [hact]
      cases hdeletion : deletion directory s.files record with
      | ok u =>
          rw [if_pos rfl]
          exact ⟨hmem, hdoomed hdeletion, fun hin => by simpa using List.of_mem_filter hin⟩
      | error e =>
          rw [if_neg (by simp)]
          cases e with
          | backup code => exact ⟨hmem, hdeletion⟩
          | _ => exact ⟨hmem, trivial⟩
  rw [unlinkFailure]
  refine Prog.Keeps.tryCatch (Q := UnlinkEnds settings directory s record)
    (Prog.Keeps.bind hunlink (fun _ u hstage hend => Prog.Keeps.pure hstage hend)
      fun _ _ hend => hend) (fun _ _ hend => hend) ?_
  intro e u hstage hend
  cases e with
  | backup code => exact Prog.Keeps.pure hstage hend
  | _ => exact Prog.Keeps.throw hstage hend

theorem keeps_expire (h : Stage settings directory s rest t) (hr : record ∈ found s)
    (hcondemned : condemnedIn settings s record = true) (hmem : record.backupId ∈ t.ids)
    (hdoomed : deletion directory s.files record = .ok () → record ∈ doomed settings directory s)
    (hother : ∀ r ∈ rest, r.backupId ≠ record.backupId) :
    (expire directory record).Keeps (Stage settings directory s rest)
      (fun result _ => result = .ok () →
        ending (deletion directory s.files record) = .ok ()) t := by
  rw [expire]
  refine Prog.Keeps.bind (keeps_markExpired h hr hcondemned hmem hother) ?_ fun _ _ _ h => by cases h
  intro expired t h hmarked
  obtain ⟨⟨error, rfl⟩, hmem⟩ := hmarked expired rfl
  refine Prog.Keeps.bind (keeps_unlinkFailure h hr hmem hdoomed error) ?_ fun _ _ _ h => by cases h
  intro failure t h hend
  obtain ⟨hmem, hend⟩ := hend
  cases failure with
  | some code =>
      have hending : ending (deletion directory s.files record) = .ok () := by
        rw [show deletion directory s.files record = .error (.backup code) from hend]
        rfl
      refine Prog.Keeps.bind (Q := fun _ _ => True)
        (Prog.Keeps.write h (h.save hr hcondemned hmem hother code) trivial trivial) ?_ fun _ _ _ h => by cases h
      intro _ u hstage _
      exact (keeps_setBackupAlert hstage _ true code).mono fun _ _ _ _ _ => hending
  | none =>
      obtain ⟨hin, hfile⟩ := hend
      have hending : ending (deletion directory s.files record) = .ok () := by
        rw [(mem_removals hin).2.2]
        rfl
      refine Prog.Keeps.bind (Q := fun _ u => record.storageRef ∉ u.files)
        (Prog.Keeps.write h ?_ hfile hfile) ?_ fun _ _ _ h => by cases h
      · exact ⟨⟨h.1.tasks, h.1.order, h.1.fate, h.1.remaining, h.1.cleared⟩, h.2⟩
      · intro _ u hstage hfile
        have hdeleted : Stage settings directory s rest
            { u with records := u.records.delete record.backupId } :=
          hstage.delete hin hfile hother
        refine Prog.Keeps.bind (Q := fun _ _ => True)
          (Prog.Keeps.write hstage hdeleted trivial trivial) ?_ fun _ _ _ h => by cases h
        intro _ v hstage _
        exact (keeps_setBackupAlert hstage _ false "").mono fun _ _ _ _ _ => hending

/-- Whatever happens to it, the loop leaves a pruned store. -/
theorem keeps_retainOrExpireAll (h : Stage settings directory s records t)
    (hfound : ∀ r ∈ records, r ∈ found s) (hnodup : (records.map BackupRecord.backupId).Nodup)
    (hdoomed : ∀ r ∈ removals directory s.files (condemnedIn settings s) records,
      r ∈ doomed settings directory s) :
    (retainOrExpireAll directory (retainedIn settings s) (protectedIn s) records).Keeps
      (Pruned settings directory s) (fun _ _ => True) t := by
  induction records generalizing t with
  | nil => exact Prog.Keeps.pure h.1 trivial
  | cons record records ih =>
      have hlater : ∀ r ∈ records, r ∈ found s := fun r hr =>
        hfound r (List.mem_cons_of_mem _ hr)
      have hother : ∀ r ∈ records, r.backupId ≠ record.backupId := fun r hr heq =>
        (List.nodup_cons.mp hnodup).1 (heq ▸ List.mem_map_of_mem hr)
      have hnodup := (List.nodup_cons.mp hnodup).2
      have hrest : Stage settings directory s records t :=
        ⟨h.1, fun r hr => h.2 r (List.mem_cons_of_mem _ hr)⟩
      rw [retainOrExpireAll, retainOrExpire_eq]
      rw [removals] at hdoomed
      by_cases hcondemned : condemnedIn settings s record = true
      · rw [if_pos hcondemned] at hdoomed
        have hmem : record.backupId ∈ t.ids := List.mem_map_of_mem (h.2 record List.mem_cons_self)
        have hself : deletion directory s.files record = .ok () →
            record ∈ doomed settings directory s := by
          intro hdeletion
          rw [hdeletion] at hdoomed
          exact hdoomed record List.mem_cons_self
        have hexpire := keeps_expire hrest (hfound record List.mem_cons_self) hcondemned hmem hself
          hother
        have hrun := (hexpire.mono fun result u hstage hend => And.intro hstage hend).weaken
          fun _ hstage => hstage.1
        rw [condemnedIn] at hcondemned
        rw [if_pos hcondemned]
        refine Prog.Keeps.bind hrun (fun _ u _ hend => ih hend.1 hlater hnodup ?_)
          fun _ _ _ => trivial
        have hending := hend.2 rfl
        intro r hr
        cases hdeletion : deletion directory s.files record with
        | ok u =>
            rw [hdeletion] at hdoomed
            exact hdoomed r (List.mem_cons_of_mem _ hr)
        | error e =>
            rw [hdeletion] at hdoomed hending
            cases e with
            | backup code => exact hdoomed r hr
            | _ => cases hending
      · rw [if_neg hcondemned] at hdoomed
        rw [condemnedIn] at hcondemned
        rw [if_neg hcondemned]
        exact ih hrest hlater hnodup hdoomed

end Expire

/-- Wherever a pass stops, what it leaves is the store without some of what a whole pass removes. -/
theorem pruned_interrupted (settings : Settings) (directory : Directory) (s : Store)
    (outcomes : List Bool) :
    Pruned settings directory s
      ((applyRetention settings directory).interrupted outcomes s) := by
  have hrefl := Pruned.refl settings directory s
  have hnodup : ((found s).map BackupRecord.backupId).Nodup :=
    s.records.nodup.sublist (List.filter_sublist.map _)
  have hloop := keeps_retainOrExpireAll ⟨hrefl, fun r hr => (found_mem hr).1⟩ (fun _ hr => hr)
    hnodup fun _ hr => hr
  have hpass : (applyRetention settings directory).Keeps (Pruned settings directory s)
      (fun _ _ => True) s := by
    rw [applyRetention]
    refine Prog.Keeps.bind
      (Q := fun result t => t = s ∧ ∀ records, result = .ok records → records = found s)
      (Prog.Keeps.read hrefl ⟨rfl, by rintro _ ⟨⟩; rfl⟩ ⟨rfl, fun _ h => by cases h⟩) ?_ fun _ _ _ => trivial
    rintro records t - ⟨rfl, hrecords⟩
    obtain rfl := hrecords records rfl
    refine Prog.Keeps.bind
      (Q := fun result u => u = t ∧
        ∀ tasks, result = .ok tasks → tasks = t.tasks.filter isActiveRestore)
      (Prog.Keeps.read hrefl ⟨rfl, by rintro _ ⟨⟩; rfl⟩ ⟨rfl, fun _ h => by cases h⟩) ?_ fun _ _ _ => trivial
    rintro tasks u - ⟨rfl, htasks⟩
    obtain rfl := htasks tasks rfl
    exact hloop
  exact hpass.interrupted outcomes

/-! ## The pass that follows -/

section Changes

variable {change : BackupRecord → Option BackupRecord} {q : BackupRecord → Bool}

theorem filter_filterMap
    (h : ∀ r ∈ records, ∀ changed, change r = some changed → q changed = q r) :
    (records.filterMap change).filter q = (records.filter q).filterMap change := by
  induction records with
  | nil => rfl
  | cons record records ih =>
      have ih := ih fun r hr => h r (List.mem_cons_of_mem _ hr)
      cases hchange : change record with
      | none =>
          rw [List.filterMap_cons_none hchange, ih, List.filter_cons]
          split
          · rw [List.filterMap_cons_none hchange]
          · rfl
      | some changed =>
          rw [List.filterMap_cons_some hchange, List.filter_cons, List.filter_cons, ih,
            h record List.mem_cons_self changed hchange]
          split
          · rw [List.filterMap_cons_some hchange]
          · rfl

/-- Where records that change no longer qualify, those that do are among those that did. -/
theorem filter_filterMap_eq_filter
    (h : ∀ r ∈ records, ∀ changed, change r = some changed → changed = r ∨ q changed = false) :
    (records.filterMap change).filter q =
      (records.filter q).filter fun r => decide (change r = some r) := by
  induction records with
  | nil => rfl
  | cons record records ih =>
      have ih := ih fun r hr => h r (List.mem_cons_of_mem _ hr)
      cases hchange : change record with
      | none =>
          rw [List.filterMap_cons_none hchange, ih, List.filter_cons]
          split
          · rw [List.filter_cons_of_neg (by simp [hchange])]
          · rfl
      | some changed =>
          rw [List.filterMap_cons_some hchange]
          by_cases hsame : changed = record
          · rw [hsame] at hchange ⊢
            rw [List.filter_cons, List.filter_cons, ih]
            split
            · rw [List.filter_cons_of_pos (by simp [hchange])]
            · rfl
          · have hq := (h record List.mem_cons_self changed hchange).resolve_left hsame
            rw [List.filter_cons_of_neg (by simp [hq]), ih, List.filter_cons]
            split
            · rw [List.filter_cons_of_neg (by simpa [hchange] using hsame)]
            · rfl

end Changes

theorem Pruned.change_cases (h : Pruned settings directory s t) (hr : record ∈ s.records)
    {changed : BackupRecord} (hchange : t.records.get? record.backupId = some changed) :
    changed = record ∨
      (condemnedIn settings s record = true ∧ ∃ error, changed = expiredWith record error) := by
  rcases h.fate record hr with hsame | ⟨-, hcondemned, error, hmarked⟩ | ⟨-, hnone, -⟩
  · exact .inl (Option.some.inj (hchange.symm.trans hsame))
  · exact .inr ⟨hcondemned, error, Option.some.inj (hchange.symm.trans hmarked)⟩
  · rw [hnone] at hchange
    cases hchange

theorem Pruned.found_eq (h : Pruned settings directory s t) :
    found t = (found s).filterMap fun r => t.records.get? r.backupId := by
  have hdocs : t.records.docs = s.records.docs.filterMap fun r => t.records.get? r.backupId :=
    docs_eq_filterMap h.order
  rw [found, Collection.filter, hdocs, filter_filterMap, found, Collection.filter]
  intro r hr changed hchange
  rcases h.change_cases hr hchange with rfl | ⟨-, error, rfl⟩
  · rfl
  · rfl

theorem not_isCandidate_expiredWith (record : BackupRecord) (error : String) :
    isCandidate (expiredWith record error) = false := by
  simp [isCandidate, expiredWith, backupReadyStatuses]

/-- What is kept stays kept. -/
theorem Pruned.retainedIn_eq (h : Pruned settings directory s t) :
    retainedIn settings t = retainedIn settings s := by
  have hcandidates : (found t).filter isCandidate = ((found s).filter isCandidate).filter
      fun r => decide (t.records.get? r.backupId = some r) := by
    rw [h.found_eq]
    refine filter_filterMap_eq_filter fun r hr changed hchange => ?_
    rcases h.change_cases (found_mem hr).1 hchange with rfl | ⟨-, error, rfl⟩
    · exact .inl rfl
    · exact .inr (not_isCandidate_expiredWith r error)
  refine retained_eq_of_candidates hcandidates fun r hr hkept => ?_
  have hnot : condemnedIn settings s r ≠ true := by
    intro hcondemned
    rw [condemnedIn, isCondemned, decide_eq_true_eq] at hcondemned
    exact hcondemned.1 hkept
  rw [decide_eq_true_eq]
  rcases h.fate r (found_mem hr).1 with hsame | ⟨-, hcondemned, -⟩ | ⟨hdoomed, -⟩
  · exact hsame
  · exact absurd hcondemned hnot
  · exact absurd (mem_removals hdoomed).2.1 hnot

theorem Pruned.condemnedIn_eq (h : Pruned settings directory s t) :
    condemnedIn settings t = condemnedIn settings s := by
  rw [condemnedIn, condemnedIn, h.retainedIn_eq, protectedIn, protectedIn, h.tasks]

theorem condemned_expiredWith (hcondemned : condemnedIn settings s record = true)
    (error : String) : condemnedIn settings s (expiredWith record error) = true := by
  rw [condemnedIn, isCondemned, decide_eq_true_eq] at hcondemned ⊢
  exact ⟨hcondemned.1, hcondemned.2.1, .inr rfl⟩

theorem Pruned.doomed_eq (h : Pruned settings directory s t) :
    doomed settings directory t =
      (doomed settings directory s).filterMap fun r => t.records.get? r.backupId := by
  rw [doomed, h.condemnedIn_eq, h.found_eq, removals_filterMap, doomed]
  intro r hr
  refine ⟨fun changed hchange => ?_, fun hnone => ?_⟩
  · rcases h.change_cases (found_mem hr).1 hchange with rfl | ⟨hcondemned, error, rfl⟩
    · exact ⟨rfl, h.deletion_eq _⟩
    · rw [condemned_expiredWith hcondemned, hcondemned, deletion_expiredWith]
      exact ⟨rfl, h.deletion_eq r⟩
  · rcases h.fate r (found_mem hr).1 with hsame | ⟨-, -, error, hmarked⟩ | ⟨hdoomed, -⟩
    · simp [hsame] at hnone
    · simp [hmarked] at hnone
    · exact (mem_removals hdoomed).2

/-- What is left of a record that a pass removes has its identifier and its file. -/
theorem Pruned.left_of_doomed (h : Pruned settings directory s t)
    (hr : record ∈ doomed settings directory s) {changed : BackupRecord}
    (hchange : t.records.get? record.backupId = some changed) :
    changed.backupId = record.backupId ∧ changed.storageRef = record.storageRef := by
  rcases h.change_cases (found_mem (mem_removals hr).1).1 hchange with rfl | ⟨-, error, rfl⟩
  · exact ⟨rfl, rfl⟩
  · exact ⟨rfl, rfl⟩

/-- The next pass removes the identifiers that are left of those that the whole pass removes. -/
theorem Pruned.mem_ids_doomed (h : Pruned settings directory s t) (id : String) :
    id ∈ (doomed settings directory t).map BackupRecord.backupId ↔
      id ∈ (doomed settings directory s).map BackupRecord.backupId ∧ id ∈ t.ids := by
  rw [h.doomed_eq]
  simp only [List.mem_map, List.mem_filterMap]
  constructor
  · rintro ⟨changed, ⟨r, hr, hchange⟩, rfl⟩
    exact ⟨⟨r, hr, (h.left_of_doomed hr hchange).1.symm⟩,
      List.mem_map_of_mem (get?_eq_some.mp hchange).1⟩
  · rintro ⟨⟨r, hr, rfl⟩, hmem⟩
    obtain ⟨changed, hchanged, hkey⟩ := List.mem_map.mp hmem
    have hchange : t.records.get? r.backupId = some changed := get?_eq_some.mpr ⟨hchanged, hkey⟩
    exact ⟨changed, ⟨r, hr, hchange⟩, hkey⟩

/-- The stores have the same records and files. -/
def SameContents (s t : Store) : Prop :=
  (∀ id, id ∈ s.ids ↔ id ∈ t.ids) ∧ ∀ file, file ∈ s.files ↔ file ∈ t.files

/-- A pass over what another has left ends like one over the whole store. -/
theorem Pruned.sameContents (h : Pruned settings directory s t) :
    SameContents ((applyRetention settings directory).run t).2
      ((applyRetention settings directory).run s).2 := by
  obtain ⟨hids, hfiles⟩ := run_applyRetention settings directory t
  obtain ⟨hids', hfiles'⟩ := run_applyRetention settings directory s
  refine ⟨fun id => ?_, fun file => ?_⟩
  · rw [hids, hids', h.mem_ids_doomed]
    constructor
    · rintro ⟨hmem, hnot⟩
      exact ⟨h.order.subset hmem, fun hdoomed => hnot ⟨hdoomed, hmem⟩⟩
    · rintro ⟨hmem, hnot⟩
      obtain ⟨r, hr, rfl⟩ := List.mem_map.mp hmem
      refine ⟨?_, fun hdoomed => hnot hdoomed.1⟩
      rcases h.fate r hr with hsame | ⟨-, -, error, hmarked⟩ | ⟨hdoomed, -⟩
      · exact List.mem_map_of_mem (get?_eq_some.mp hsame).1
      · exact List.mem_map.mpr ⟨_, (get?_eq_some.mp hmarked).1, rfl⟩
      · exact absurd (List.mem_map_of_mem hdoomed) hnot
  · rw [hfiles, hfiles', h.doomed_eq]
    simp only [List.mem_map, List.mem_filterMap]
    constructor
    · rintro ⟨hfile, hnot⟩
      refine ⟨h.remaining file hfile, ?_⟩
      rintro ⟨r, hr, rfl⟩
      rcases h.fate r (found_mem (mem_removals hr).1).1 with
        hsame | ⟨-, -, error, hmarked⟩ | ⟨-, -, hgone⟩
      · exact hnot ⟨r, ⟨r, hr, hsame⟩, rfl⟩
      · exact hnot ⟨_, ⟨r, hr, hmarked⟩, rfl⟩
      · exact hgone hfile
    · rintro ⟨hfile, hnot⟩
      refine ⟨?_, ?_⟩
      · by_contra hcleared
        exact hnot (h.cleared file hfile hcleared)
      · rintro ⟨changed, ⟨r, hr, hchange⟩, rfl⟩
        exact hnot ⟨r, hr, (h.left_of_doomed hr hchange).2.symm⟩

theorem SameContents.trans {u : Store} (h : SameContents s t) (h' : SameContents t u) :
    SameContents s u :=
  ⟨fun id => (h.1 id).trans (h'.1 id), fun file => (h.2 file).trans (h'.2 file)⟩

/-! ## What retention promises -/

/-- A scheduled backup that is ready. -/
def isReady (record : BackupRecord) : Bool :=
  record.origin = .scheduled ∧ record.status ∈ backupReadyStatuses

/-- A record that may be removed: it is scheduled, ready or expired, not kept, and no task is
restoring it. -/
def MayBeRemoved (settings : Settings) (s : Store) (record : BackupRecord) : Prop :=
  record.origin = .scheduled ∧
    (record.status ∈ backupReadyStatuses ∨ record.status = "expired") ∧
    record.backupId ∉ retainedIn settings s ∧
    ∀ task ∈ s.tasks, task.taskType = "backup.restore" → task.active = true →
      task.targetId ≠ record.backupId

/-- Only records that may be removed have been, and only their files. -/
def RemovesOnly (settings : Settings) (s t : Store) : Prop :=
  (∀ r ∈ s.records, r.backupId ∉ t.ids → MayBeRemoved settings s r) ∧
    ∀ file ∈ s.files, file ∉ t.files →
      ∃ r ∈ s.records, r.storageRef = file ∧ MayBeRemoved settings s r

/-- The store after passes that have all been interrupted. -/
def interruptedPasses (settings : Settings) (directory : Directory) (s : Store)
    (passes : List (List Bool)) : Store :=
  passes.foldl (fun s outcomes => (applyRetention settings directory).interrupted outcomes s) s

theorem mayBeRemoved_of_doomed (h : record ∈ doomed settings directory s) :
    record ∈ s.records ∧ MayBeRemoved settings s record := by
  obtain ⟨hmem, hcondemned, -⟩ := mem_removals h
  obtain ⟨hrecord, hfound⟩ := found_mem hmem
  rw [isFound, decide_eq_true_eq] at hfound
  rw [condemnedIn, isCondemned, decide_eq_true_eq] at hcondemned
  obtain ⟨hkept, hprotected, hstatus⟩ := hcondemned
  refine ⟨hrecord, hfound.1, hstatus, hkept, ?_⟩
  intro task htask htype hactive htarget
  have hrestore : isActiveRestore task = true := by simp [isActiveRestore, htype, hactive]
  exact hprotected (List.mem_map.mpr ⟨task, mem_filter.mpr ⟨htask, hrestore⟩, htarget⟩)

theorem Pruned.removesOnly (h : Pruned settings directory s t) : RemovesOnly settings s t := by
  refine ⟨fun r hr hnot => ?_, fun file hfile hnot => ?_⟩
  · rcases h.fate r hr with hsame | ⟨-, -, error, hmarked⟩ | ⟨hdoomed, -⟩
    · exact absurd (List.mem_map_of_mem (get?_eq_some.mp hsame).1) hnot
    · exact absurd (List.mem_map.mpr ⟨_, (get?_eq_some.mp hmarked).1, rfl⟩) hnot
    · exact (mayBeRemoved_of_doomed hdoomed).2
  · obtain ⟨r, hr, hname⟩ := h.cleared file hfile hnot
    exact ⟨r, (mayBeRemoved_of_doomed hr).1, hname, (mayBeRemoved_of_doomed hr).2⟩

theorem removesOnly_run (settings : Settings) (directory : Directory) (s : Store) :
    RemovesOnly settings s ((applyRetention settings directory).run s).2 := by
  obtain ⟨hids, hfiles⟩ := run_applyRetention settings directory s
  refine ⟨fun r hr hnot => ?_, fun file hfile hnot => ?_⟩
  · rw [hids, not_and_not_right] at hnot
    obtain ⟨other, hother, heq⟩ := List.mem_map.mp (hnot (List.mem_map_of_mem hr))
    obtain ⟨hmem, hmay⟩ := mayBeRemoved_of_doomed hother
    rwa [eq_of_key_eq hmem hr heq] at hmay
  · rw [hfiles, not_and_not_right] at hnot
    obtain ⟨r, hr, hname⟩ := List.mem_map.mp (hnot hfile)
    exact ⟨r, (mayBeRemoved_of_doomed hr).1, hname, (mayBeRemoved_of_doomed hr).2⟩

theorem sameContents_interruptedPasses (settings : Settings) (directory : Directory) (s : Store)
    (passes : List (List Bool)) :
    SameContents
      ((applyRetention settings directory).run (interruptedPasses settings directory s passes)).2
      ((applyRetention settings directory).run s).2 := by
  induction passes generalizing s with
  | nil => exact ⟨fun _ => Iff.rfl, fun _ => Iff.rfl⟩
  | cons outcomes passes ih =>
      exact (ih _).trans (pruned_interrupted settings directory s outcomes).sameContents

/-- What retention promises of the scheduled backups that count as ready. -/
structure RetentionKeeps (isReady : BackupRecord → Bool) : Prop where
  /-- Exactly the newest ones of the most recent days, weeks and months are kept. -/
  newest : ∀ (records : List BackupRecord) (daily weekly monthly : ℕ),
    (records.map BackupRecord.time).Nodup →
      ∀ id, id ∈ retainedScheduledBackupIds records daily weekly monthly ↔
        ∃ record, record.backupId = id ∧
          IsNewestReady isReady daily weekly monthly records record
  /-- The order of the records does not matter. -/
  order : ∀ (records others : List BackupRecord) (daily weekly monthly : ℕ),
    (records.map BackupRecord.time).Nodup → records.Perm others →
      retainedScheduledBackupIds others daily weekly monthly =
        retainedScheduledBackupIds records daily weekly monthly
  /-- What is kept is kept again. -/
  again : ∀ (records : List BackupRecord) (daily weekly monthly : ℕ),
    retainedScheduledBackupIds
        (records.filter fun r =>
          decide (r.backupId ∈ retainedScheduledBackupIds records daily weekly monthly))
        daily weekly monthly =
      retainedScheduledBackupIds records daily weekly monthly
  /-- A pass, whole or interrupted, removes nothing else than it may. -/
  removes : ∀ (settings : Settings) (directory : Directory) (s : Store),
    RemovesOnly settings s ((applyRetention settings directory).run s).2 ∧
      ∀ outcomes, RemovesOnly settings s
        ((applyRetention settings directory).interrupted outcomes s)
  /-- A pass after interrupted ones ends like a pass that is not interrupted. -/
  repeated : ∀ (settings : Settings) (directory : Directory) (s : Store)
    (passes : List (List Bool)), SameContents
      ((applyRetention settings directory).run (interruptedPasses settings directory s passes)).2
      ((applyRetention settings directory).run s).2

/-- Retention keeps its promises of the ready backups that have an artifact. -/
theorem retention_keeps : RetentionKeeps isCandidate where
  newest := fun _ _ _ _ hnodup _ => mem_retained_iff hnodup
  order := fun _ _ _ _ _ hnodup hperm => (retained_perm hnodup hperm).symm
  again := fun _ _ _ _ => retained_filter
  removes := fun settings directory s => ⟨removesOnly_run settings directory s, fun outcomes =>
    (pruned_interrupted settings directory s outcomes).removesOnly⟩
  repeated := sameContents_interruptedPasses

/-- A ready backup of noon, which has no artifact of its own. -/
def recordWithoutArtifact : BackupRecord where
  backupId := "bkp"
  origin := .scheduled
  artifactPaths := []
  checksum := ""
  storageRef := ""
  status := "verified"
  createdAt := .naive (.ofFields 2026 8 30 12 0 0 0 (by decide))
  error := ""

theorem not_retentionKeeps_isReady : ¬ RetentionKeeps isReady := by
  intro h
  have hnewest : NewestOfRecent DateTime.date BackupRecord.time 1 [recordWithoutArtifact]
      recordWithoutArtifact := by
    refine ⟨by simp, by simp, by simp⟩
  have hkept := (h.newest [recordWithoutArtifact] 1 0 0 (by simp) "bkp").mpr
    ⟨recordWithoutArtifact, rfl, .inl hnewest⟩
  have hnone : retainedScheduledBackupIds [recordWithoutArtifact] (1 : ℕ) (0 : ℕ) (0 : ℕ) = ∅ := by
    decide
  rw [hnone] at hkept
  cases hkept

end Grouproxy.Retention
