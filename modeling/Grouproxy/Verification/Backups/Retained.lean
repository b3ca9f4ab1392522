import Grouproxy.Model.Retention

/-! # The backups that are kept

Of each of the most recent days, weeks and months that have a backup the newest one is kept. What
is kept is kept again when others have been removed.
-/

namespace Grouproxy.Retention

open Buckets DateTimes

variable {κ : Type} {records others : List BackupRecord} {record : BackupRecord}
  {retained : Finset String} {id : String} {limit : ℤ} {daily weekly monthly : ℤ}

/-! ## One bucketing -/

section Bucket

variable [DecidableEq κ] {bucket : DateTime → κ} {seen : Finset κ}

theorem retainLoop_eq (hroom : (seen.card : ℤ) < limit) :
    retainLoop limit bucket records seen retained =
      retained ∪ ((firstOfEach (fun r => bucket r.time) limit.toNat seen records).map
        BackupRecord.backupId).toFinset := by
  induction records generalizing seen retained with
  | nil => simp [retainLoop, firstOfEach]
  | cons record records ih =>
      have hroom' : seen.card < limit.toNat := by omega
      rw [retainLoop, firstOfEach]
      by_cases hseen : bucket record.time ∈ seen
      · rw [if_pos hseen, if_pos hseen, ih hroom]
      · rw [if_neg hseen, if_neg hseen, if_pos hroom', List.map_cons, List.toFinset_cons,
          Finset.union_insert, ← Finset.insert_union]
        by_cases hfull : ((insert (bucket record.time) seen).card : ℤ) ≥ limit
        · have hlast : limit.toNat ≤ (insert (bucket record.time) seen).card := by omega
          rw [firstOfEach_full hlast]
          simp [hfull]
        · rw [← ih (not_le.mp hfull)]
          simp [hfull]

/-- What a bucketing keeps. -/
def keptIn (bucket : DateTime → κ) (limit : ℤ) (records : List BackupRecord) : Finset String :=
  ((firstOfEach (fun r => bucket r.time) limit.toNat ∅ records).map
    BackupRecord.backupId).toFinset

theorem retainDistinct_eq :
    retainDistinct records limit bucket retained = retained ∪ keptIn bucket limit records := by
  rw [retainDistinct, keptIn]
  split
  · have hnone : limit.toNat ≤ (∅ : Finset κ).card := by omega
    rw [firstOfEach_full hnone]
    simp
  · rw [retainLoop_eq (by simpa using ‹¬ limit ≤ 0›)]

theorem mem_keptIn : id ∈ keptIn bucket limit records ↔
    ∃ r ∈ firstOfEach (fun r => bucket r.time) limit.toNat ∅ records, r.backupId = id := by
  rw [keptIn, List.mem_toFinset, List.mem_map]

theorem keptIn_filter {p : BackupRecord → Bool}
    (h : ∀ r ∈ records, r.backupId ∈ keptIn bucket limit records → p r = true) :
    keptIn bucket limit (records.filter p) = keptIn bucket limit records := by
  have hkept : ∀ r ∈ firstOfEach (fun r => bucket r.time) limit.toNat ∅ records, p r = true := by
    intro r hr
    obtain ⟨newer, older, rfl, -⟩ := mem_firstOfEach.mp hr
    exact h r (by simp) (mem_keptIn.mpr ⟨r, hr, rfl⟩)
  rw [keptIn, keptIn, firstOfEach_filter hkept]

end Bucket

section Newest

variable [LinearOrder κ] {bucket : DateTime → κ}

theorem mem_keptIn_candidates (hbucket : Monotone bucket)
    (h : ((records.filter isCandidate).map BackupRecord.time).Nodup) :
    id ∈ keptIn bucket limit (candidates records) ↔ ∃ record, record.backupId = id ∧
      NewestOfRecent bucket BackupRecord.time limit.toNat (records.filter isCandidate) record := by
  rw [mem_keptIn]
  simp only [candidates, mem_firstOfEach_sorted hbucket (newestFirst_strict h),
    newestOfRecent_perm (newestFirst_perm BackupRecord.time (records.filter isCandidate))]
  exact exists_congr fun r => and_comm

end Newest

/-! ## The three bucketings together -/

theorem retainedScheduledBackupIds_eq :
    retainedScheduledBackupIds records daily weekly monthly =
      keptIn DateTime.date daily (candidates records) ∪
        keptIn DateTime.isocalendar weekly (candidates records) ∪
        keptIn DateTime.yearMonth monthly (candidates records) := by
  simp only [retainedScheduledBackupIds, retainDistinct_eq, Finset.empty_union]

/-- The newest of the ready records of one of the most recent days, weeks or months. -/
def IsNewestReady (isReady : BackupRecord → Bool) (daily weekly monthly : ℤ)
    (records : List BackupRecord) (record : BackupRecord) : Prop :=
  let ready := records.filter isReady
  NewestOfRecent DateTime.date BackupRecord.time daily.toNat ready record ∨
    NewestOfRecent DateTime.isocalendar BackupRecord.time weekly.toNat ready record ∨
    NewestOfRecent DateTime.yearMonth BackupRecord.time monthly.toNat ready record

theorem mem_retained_iff (h : (records.map BackupRecord.time).Nodup) :
    id ∈ retainedScheduledBackupIds records daily weekly monthly ↔
      ∃ record, record.backupId = id ∧
        IsNewestReady isCandidate daily weekly monthly records record := by
  have hnodup : ((records.filter isCandidate).map BackupRecord.time).Nodup :=
    h.sublist (List.filter_sublist.map _)
  rw [retainedScheduledBackupIds_eq, Finset.mem_union, Finset.mem_union,
    mem_keptIn_candidates DateTime.date_monotone hnodup,
    mem_keptIn_candidates (fun _ _ => DateTime.isocalendar_mono) hnodup,
    mem_keptIn_candidates DateTime.yearMonth_monotone hnodup]
  simp only [IsNewestReady, and_or_left, exists_or, or_assoc]

theorem isNewestReady_perm (h : records.Perm others) {isReady : BackupRecord → Bool} :
    IsNewestReady isReady daily weekly monthly records record ↔
      IsNewestReady isReady daily weekly monthly others record := by
  have hready := h.filter isReady
  rw [IsNewestReady, IsNewestReady, newestOfRecent_perm hready, newestOfRecent_perm hready,
    newestOfRecent_perm hready]

theorem retained_perm (hnodup : (records.map BackupRecord.time).Nodup)
    (h : records.Perm others) :
    retainedScheduledBackupIds records daily weekly monthly =
      retainedScheduledBackupIds others daily weekly monthly := by
  ext id
  have hnodup' := ((h.map BackupRecord.time).nodup_iff).mp hnodup
  rw [mem_retained_iff hnodup, mem_retained_iff hnodup']
  simp only [isNewestReady_perm h]

/-- Leaving out candidates that are not kept changes nothing. -/
theorem retained_eq_of_candidates {p : BackupRecord → Bool}
    (hcandidates : others.filter isCandidate = (records.filter isCandidate).filter p)
    (h : ∀ r ∈ records, r.backupId ∈ retainedScheduledBackupIds records daily weekly monthly →
      p r = true) :
    retainedScheduledBackupIds others daily weekly monthly =
      retainedScheduledBackupIds records daily weekly monthly := by
  have hfilter : candidates others = (candidates records).filter p := by
    rw [candidates, hcandidates, newestFirst_filter, candidates]
  rw [retainedScheduledBackupIds_eq] at h
  have hrecords : ∀ r ∈ candidates records, r ∈ records := fun r hr =>
    List.mem_of_mem_filter ((newestFirst_perm _ _).mem_iff.mp hr)
  rw [retainedScheduledBackupIds_eq, retainedScheduledBackupIds_eq, hfilter, keptIn_filter,
    keptIn_filter, keptIn_filter]
  · intro r hr hkept
    exact h r (hrecords r hr) (by simp [hkept])
  · intro r hr hkept
    exact h r (hrecords r hr) (by simp [hkept])
  · intro r hr hkept
    exact h r (hrecords r hr) (by simp [hkept])

theorem retained_filter :
    retainedScheduledBackupIds
        (records.filter fun r =>
          decide (r.backupId ∈ retainedScheduledBackupIds records daily weekly monthly))
        daily weekly monthly =
      retainedScheduledBackupIds records daily weekly monthly :=
  retained_eq_of_candidates (List.filter_comm _ _ _) fun r _ hr => by simpa using hr

end Grouproxy.Retention
