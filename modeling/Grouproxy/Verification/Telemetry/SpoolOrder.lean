import Mathlib.Data.String.Basic
import Mathlib.Tactic.IntervalCases
import Grouproxy.Library.Digits
import Grouproxy.Verification.Telemetry.Spool

/-! # The order of eviction

Three priorities are written into the names of the files, and two of them are read back: files of
priority 1 are evicted before those of priority 2.
-/

namespace Grouproxy.Spool

open Digits Eviction

variable {dir : Dir} {outcomes : Outcomes} {maxBytes required : ℕ} {e f g : SpoolFile}
  {before after files : List SpoolFile} {p q t u : ℕ} {kind other : String}

/-! ## Names -/

theorem paddedTime_eq (h : t < 10 ^ 20) : paddedTime t = fixedDigits 20 t :=
  replicate_append_toDigits 19 h

theorem toList_spoolName (hp : p ≤ 2) (ht : t < 10 ^ 20) : (spoolName p t kind).toList =
    Nat.digitChar p :: '-' :: (fixedDigits 20 t ++ '-' :: (kind.toList ++ ".json".toList)) := by
  have htext : (toString (p : ℤ)).toList = [Nat.digitChar p] := by
    interval_cases p <;> rfl
  rw [spoolName, String.toList_ofList, htext, paddedTime_eq ht]
  simp

/-- A file with a smaller priority number has a smaller name, and so has an older file of one
priority. -/
theorem spoolName_lt (hp : p ≤ 2) (hq : q ≤ 2) (ht : t < 10 ^ 20) (hu : u < 10 ^ 20)
    (h : p < q ∨ p = q ∧ t < u) : spoolName p t kind < spoolName q u other := by
  rw [String.lt_iff, toList_spoolName hp ht, toList_spoolName hq hu]
  rcases h with hlt | ⟨rfl, hlt⟩
  · exact List.cons_lt_cons_iff.mpr (.inl (digitChar_lt p (by omega) q (by omega) hlt))
  · refine List.cons_lt_cons_iff.mpr (.inr ⟨rfl, List.cons_lt_cons_iff.mpr (.inr ⟨rfl, ?_⟩)⟩)
    apply append_lt_append_of_lt
    · rw [length_fixedDigits, length_fixedDigits]
    · exact fixedDigits_lt 20 hu hlt

/-- The name says the priority and the time of a batch. -/
def Named (name : String) (priority nanos : ℕ) : Prop :=
  priority ≤ 2 ∧ nanos < 10 ^ 20 ∧ ∃ kind, name = spoolName priority nanos kind

def isPriority (priority : ℕ) (file : SpoolFile) : Bool :=
  file.path.toList.head? = some (Nat.digitChar priority)

theorem Named.isPriority_iff {name : String} (h : Named name p t) {size : ℕ} {c : ℕ} (hq : q ≤ 2) :
    isPriority q ⟨name, c, size⟩ = true ↔ p = q := by
  obtain ⟨hp, ht, kind, rfl⟩ := h
  rw [isPriority, decide_eq_true_eq, toList_spoolName hp ht, List.head?_cons, Option.some.injEq]
  interval_cases p <;> interval_cases q <;> simp [Nat.digitChar]

/-- The priority that is read back. -/
theorem Named.priority_eq {entry : Entry} (h : Named entry.name p t) :
    (spoolFile entry).priority = if p = 0 then 0 else 1 := by
  obtain ⟨hp, ht, kind, heq⟩ := h
  rw [spoolFile, heq, toList_spoolName hp ht]
  interval_cases p <;> rfl

/-! ## The order -/

theorem evictsBefore_iff : evictsBefore e f = true ↔
    f.priority < e.priority ∨ e.priority = f.priority ∧ e.path < f.path := by
  rw [evictsBefore]
  split
  · rename_i hne
    simp [hne]
  · rename_i heq
    simp [not_not.mp heq]

theorem not_evictsBefore_iff : evictsBefore e f = false ↔
    e.priority < f.priority ∨ e.priority = f.priority ∧ f.path ≤ e.path := by
  rw [← Bool.not_eq_true, evictsBefore_iff, not_or, not_and, not_lt, not_lt]
  constructor
  · rintro ⟨hle, hpath⟩
    rcases Nat.lt_or_ge e.priority f.priority with hlt | hge
    · exact .inl hlt
    · exact .inr ⟨le_antisymm hle hge, hpath (le_antisymm hle hge)⟩
  · rintro (hlt | ⟨heq, hpath⟩)
    · exact ⟨hlt.le, fun heq => absurd heq hlt.ne⟩
    · exact ⟨heq.le, fun _ => hpath⟩

/-- The order of eviction, as the sort uses it. -/
abbrev NotAfter (f g : SpoolFile) : Prop := evictsBefore g f = false

instance : IsTrans SpoolFile NotAfter where
  trans a b c hab hbc := by
    rw [NotAfter, not_evictsBefore_iff] at *
    rcases hab with hab | ⟨hab, hpath⟩ <;> rcases hbc with hbc | ⟨hbc, hpath'⟩
    · exact .inl (by omega)
    · exact .inl (by omega)
    · exact .inl (by omega)
    · exact .inr ⟨by omega, hpath.trans hpath'⟩

instance : Std.Total NotAfter where
  total a b := by
    rw [NotAfter, NotAfter, not_evictsBefore_iff, not_evictsBefore_iff]
    rcases lt_trichotomy a.priority b.priority with h | h | h
    · exact .inr (.inl h)
    · rcases le_total a.path b.path with hpath | hpath
      · exact .inl (.inr ⟨h.symm, hpath⟩)
      · exact .inr (.inr ⟨h, hpath⟩)
    · exact .inl (.inl h)

theorem pairwise_spoolFiles (dir : Dir) :
    (spoolFiles dir).Pairwise fun f g => evictsBefore g f = false :=
  List.pairwise_insertionSort NotAfter _

theorem path_eq_of_not_evictsBefore (h : evictsBefore e f = false)
    (h' : evictsBefore f e = false) : e.path = f.path := by
  rw [not_evictsBefore_iff] at h h'
  rcases h with hlt | ⟨heq, hle⟩ <;> rcases h' with hlt' | ⟨heq', hle'⟩
  · omega
  · omega
  · omega
  · exact le_antisymm hle' hle

/-- The listing is the only order of the spool files in which none goes before an earlier one. -/
theorem spoolFiles_eq (hperm : files.Perm ((dir.entries.filter Entry.isSpoolFile).map spoolFile))
    (hsorted : files.Pairwise NotAfter) : spoolFiles dir = files := by
  have hboth : (spoolFiles dir).Perm files := (perm_spoolFiles dir).trans hperm.symm
  apply hboth.eq_of_pairwise ?_ (pairwise_spoolFiles dir) hsorted
  intro f g hf hg hfg hgf
  apply List.inj_on_of_nodup_map (nodup_path_spoolFiles dir) hf (hboth.mem_iff.mpr hg)
  exact path_eq_of_not_evictsBefore hgf hfg

theorem pairwise_removable :
    (removable outcomes dir).Pairwise fun f g => evictsBefore g f = false := by
  rw [removable, listedFiles]
  split
  · exact List.Pairwise.nil
  · exact (pairwise_spoolFiles dir).sublist List.filter_sublist

theorem nodup_path_removable : ((removable outcomes dir).map SpoolFile.path).Nodup :=
  nodup_path_listedFiles.sublist (List.filter_sublist.map _)

/-- In the order of eviction, the files that go before a file stand before it. -/
theorem filter_evictsBefore (hsplit : removable outcomes dir = before ++ f :: after) :
    (removable outcomes dir).filter (fun g => evictsBefore g f) = before := by
  have hsorted := @pairwise_removable dir outcomes
  have hnodup := @nodup_path_removable dir outcomes
  rw [hsplit] at hsorted hnodup ⊢
  rw [List.map_append, List.map_cons] at hnodup
  rw [List.pairwise_append] at hsorted
  have hbefore : before.filter (fun g => evictsBefore g f) = before := by
    rw [List.filter_eq_self]
    intro g hg
    have hnot := hsorted.2.2 g hg f List.mem_cons_self
    have hpath : g.path ≠ f.path := by
      intro heq
      exact List.disjoint_of_nodup_append hnodup (List.mem_map_of_mem hg) (by simp [heq])
    rw [not_evictsBefore_iff] at hnot
    rw [evictsBefore_iff]
    rcases hnot with hlt | ⟨heq, hle⟩
    · exact .inl hlt
    · exact .inr ⟨heq.symm, lt_of_le_of_ne hle hpath⟩
  have hafter : (f :: after).filter (fun g => evictsBefore g f) = [] := by
    rw [List.filter_eq_nil_iff]
    intro g hg
    rcases List.mem_cons.mp hg with rfl | hmem
    · simp [evictsBefore]
    · simp [(List.pairwise_cons.mp hsorted.2.1).1 g hmem]
  rw [List.filter_append, hbefore, hafter, List.append_nil]

theorem mem_evictedBy_iff (hf : f ∈ removable outcomes dir) :
    f ∈ evictedBy maxBytes outcomes dir required ↔
      maxBytes + total SpoolFile.size ((removable outcomes dir).filter fun g => evictsBefore g f) <
        required + directorySize dir := by
  obtain ⟨before, after, hsplit⟩ := List.append_of_mem hf
  have hnodup : (removable outcomes dir).Nodup :=
    List.Nodup.of_map SpoolFile.path nodup_path_removable
  rw [filter_evictsBefore hsplit, evictedBy, evictedFiles, ← evicted_filter, ← removable, hsplit,
    mem_evicted_iff (hsplit ▸ hnodup)]
  simp only [Bool.not_false, List.filter_true, true_and]
  omega

/-! ## What is evicted and what stays -/

/-- The entry is evicted to make room for a batch. -/
def IsEvicted (maxBytes : ℕ) (outcomes : Outcomes) (dir : Dir) (required : ℕ) (e : Entry) : Prop :=
  e ∈ dir.entries ∧ e ∉ (makeRoom maxBytes outcomes dir required).entries

/-- The entry is a spool file that stays, though it could be removed. -/
def Stays (maxBytes : ℕ) (outcomes : Outcomes) (dir : Dir) (required : ℕ) (e : Entry) : Prop :=
  e ∈ (makeRoom maxBytes outcomes dir required).entries ∧ e.isSpoolFile = true ∧
    outcomes.removalFails e.name = false

theorem entry_eq_of_name_eq {e e' : Entry} (he : e ∈ dir.entries) (he' : e' ∈ dir.entries)
    (h : e.name = e'.name) : e = e' :=
  List.inj_on_of_nodup_map dir.nodup he he' h

theorem isEvicted_iff {e : Entry} : IsEvicted maxBytes outcomes dir required e ↔
    e ∈ dir.entries ∧ spoolFile e ∈ evictedBy maxBytes outcomes dir required := by
  rw [IsEvicted, entries_makeRoom, List.mem_filter, decide_eq_true_eq, not_and, not_not]
  constructor
  · rintro ⟨he, hgone⟩
    obtain ⟨file, hfile, hname⟩ := List.mem_map.mp (hgone he)
    have hlisted := List.mem_of_mem_filter (evictedBy_sublist.subset hfile)
    obtain ⟨e', he', -, hfile'⟩ := exists_spoolFile_of_mem_listedFiles hlisted
    have heq : e = e' := by
      apply entry_eq_of_name_eq he he'
      rw [← hname, ← hfile']
      rfl
    rw [heq, hfile']
    exact ⟨he', hfile⟩
  · rintro ⟨he, hfile⟩
    exact ⟨he, fun _ => List.mem_map.mpr ⟨spoolFile e, hfile, rfl⟩⟩

theorem Stays.mem {e : Entry} (h : Stays maxBytes outcomes dir required e) : e ∈ dir.entries := by
  have hmem := h.1
  rw [entries_makeRoom] at hmem
  exact List.mem_of_mem_filter hmem

theorem Stays.not_mem_evictedBy {e : Entry} (h : Stays maxBytes outcomes dir required e) :
    spoolFile e ∉ evictedBy maxBytes outcomes dir required := fun hmem =>
  (isEvicted_iff.mpr ⟨h.mem, hmem⟩).2 h.1

theorem mem_removable_of_stays {e : Entry} (hread : outcomes.readDirFails = false)
    (h : Stays maxBytes outcomes dir required e) : spoolFile e ∈ removable outcomes dir := by
  rw [removable, listedFiles, hread, List.mem_filter]
  exact ⟨mem_spoolFiles.mpr ⟨e, h.mem, h.2.1, rfl⟩, by simp [spoolFile, h.2.2]⟩

theorem stays_of_mem_removable {x : Entry} (hx : x ∈ dir.entries)
    (hmem : spoolFile x ∈ removable outcomes dir)
    (hkept : spoolFile x ∉ evictedBy maxBytes outcomes dir required) :
    Stays maxBytes outcomes dir required x := by
  obtain ⟨hlisted, hremovable⟩ := List.mem_filter.mp hmem
  obtain ⟨y, hy, hspool, heq⟩ := exists_spoolFile_of_mem_listedFiles hlisted
  have hname : y.name = x.name := congrArg SpoolFile.path heq
  rw [entry_eq_of_name_eq hy hx hname] at hspool
  refine ⟨?_, hspool, by simpa [spoolFile] using hremovable⟩
  by_contra hgone
  exact hkept (isEvicted_iff.mp ⟨hx, hgone⟩).2

theorem readDirFails_of_mem_removable (h : f ∈ removable outcomes dir) :
    outcomes.readDirFails = false := by
  cases hread : outcomes.readDirFails with
  | true => simp [removable, listedFiles, hread] at h
  | false => rfl

/-- What could have been evicted before an evicted file is evicted too. -/
theorem not_evictsBefore_of_evicted (he : e ∈ evictedBy maxBytes outcomes dir required)
    (hf : f ∈ removable outcomes dir) (hkept : f ∉ evictedBy maxBytes outcomes dir required) :
    evictsBefore f e = false := by
  rw [← Bool.not_eq_true]
  intro hbefore
  have hroom := (mem_evictedBy_iff (evictedBy_sublist.subset he)).mp he
  have hnone := mt (mem_evictedBy_iff hf).mpr hkept
  have hle : total SpoolFile.size ((removable outcomes dir).filter fun g => evictsBefore g f) ≤
      total SpoolFile.size ((removable outcomes dir).filter fun g => evictsBefore g e) := by
    apply total_le_of_sublist
    apply List.monotone_filter_right
    intro g hg
    rw [evictsBefore_iff] at hg hbefore ⊢
    rcases hg with hg | ⟨hg, hpath⟩ <;> rcases hbefore with hb | ⟨hb, hpath'⟩
    · exact .inl (hb.trans hg)
    · exact .inl (hb ▸ hg)
    · exact .inl (hg ▸ hb)
    · exact .inr ⟨hg.trans hb, hpath.trans hpath'⟩
  omega

/-! ## Spools of batches -/

/-- Every spool file bears the name of a batch. -/
def WellNamed (dir : Dir) : Prop :=
  ∀ e ∈ dir.entries, e.isSpoolFile = true → ∃ priority nanos, Named e.name priority nanos

/-- No file is evicted while one of less importance stays, or an older one of the same priority;
and no denied requests are evicted for a batch of another priority. -/
structure EvictsByPriority (maxBytes : ℕ) (outcomes : Outcomes) (dir : Dir) (required : ℕ)
    (batch : ℤ) : Prop where
  ordered : ∀ e f p t q u, IsEvicted maxBytes outcomes dir required e →
    Stays maxBytes outcomes dir required f → Named e.name p t → Named f.name q u →
    q ≤ p ∧ (p = q → t ≤ u)
  deny : batch = 1 ∨ batch = 2 → ∀ e t, IsEvicted maxBytes outcomes dir required e →
    ¬ Named e.name 0 t

/-- Nothing has to be evicted; or no file of priority 1 can be evicted, or every file of priority 2
is, and either the batch is one of denied requests, or none can be evicted, or there is room without
that. -/
def RoomByPriority (maxBytes : ℕ) (outcomes : Outcomes) (dir : Dir) (required : ℕ) (batch : ℤ) :
    Prop :=
  required + directorySize dir ≤ maxBytes ∨
    ((∀ e ∈ removable outcomes dir, isPriority 1 e = false) ∨
      ∀ f ∈ removable outcomes dir, isPriority 2 f = true →
        maxBytes +
            total SpoolFile.size ((removable outcomes dir).filter fun g => evictsBefore g f) <
          required + directorySize dir) ∧
    (batch ≠ 1 ∧ batch ≠ 2 ∨ (∀ e ∈ removable outcomes dir, isPriority 0 e = false) ∨
      required + directorySize dir ≤ maxBytes +
        total SpoolFile.size ((removable outcomes dir).filter fun g => !isPriority 0 g))

theorem exists_named_of_mem_removable (hnamed : WellNamed dir) (hf : f ∈ removable outcomes dir) :
    ∃ e ∈ dir.entries, spoolFile e = f ∧ ∃ priority nanos, Named e.name priority nanos := by
  obtain ⟨e, he, hspool, rfl⟩ := exists_spoolFile_of_mem_listedFiles (List.mem_of_mem_filter hf)
  exact ⟨e, he, rfl, hnamed e he hspool⟩

/-- The order of eviction, told by the names. -/
theorem named_of_not_evictsBefore {x y : Entry} (hx : Named x.name p t) (hy : Named y.name q u)
    (h : evictsBefore (spoolFile y) (spoolFile x) = false) :
    q = 0 ∧ p ≠ 0 ∨ (p = 0 ↔ q = 0) ∧ p ≤ q ∧ (p = q → t ≤ u) := by
  rw [not_evictsBefore_iff, hx.priority_eq, hy.priority_eq] at h
  rcases h with hlt | ⟨heq, hpath⟩
  · left
    split at hlt <;> split at hlt <;> omega
  · right
    have hclass : p = 0 ↔ q = 0 := by
      split at heq <;> split at heq <;> omega
    obtain ⟨hp, ht, kind, hxname⟩ := hx
    obtain ⟨hq, hu, other, hyname⟩ := hy
    have hnot : ¬ (q < p ∨ q = p ∧ u < t) := by
      intro hlt
      have hname : spoolName q u other < spoolName p t kind := spoolName_lt hq hp hu ht hlt
      rw [← hxname, ← hyname] at hname
      exact absurd hname (not_lt.mpr hpath)
    refine ⟨hclass, by omega, fun _ => by omega⟩

/-- Less important files go first among those that are read back alike. -/
theorem Named.notAfter {x y : Entry} (hx : Named x.name p t) (hy : Named y.name q u)
    (h : q = 0 ∧ p ≠ 0 ∨ (p = 0 ↔ q = 0) ∧ (p < q ∨ p = q ∧ t < u)) :
    NotAfter (spoolFile x) (spoolFile y) := by
  rw [NotAfter, not_evictsBefore_iff, hx.priority_eq, hy.priority_eq]
  rcases h with ⟨hq, hp⟩ | ⟨hclass, hlt⟩
  · exact .inl (by simp [hq, hp])
  · obtain ⟨hp, ht, kind, hxname⟩ := hx
    obtain ⟨hq, hu, other, hyname⟩ := hy
    have hname : x.name < y.name := by
      rw [hxname, hyname]
      exact spoolName_lt hp hq ht hu hlt
    exact .inr ⟨by simp [hclass], hname.le⟩

theorem isPriority_spoolFile_iff {x : Entry} (hx : Named x.name p t) (hq : q ≤ 2) :
    isPriority q (spoolFile x) = true ↔ p = q :=
  hx.isPriority_iff hq

theorem not_room_of_mem_evictedBy (h : f ∈ evictedBy maxBytes outcomes dir required) :
    maxBytes < required + directorySize dir := by
  have hroom := (mem_evictedBy_iff (evictedBy_sublist.subset h)).mp h
  omega

/-- The first of the files that can be evicted is. -/
theorem head_mem_evictedBy (hfull : maxBytes < required + directorySize dir)
    (hsplit : removable outcomes dir = f :: after) :
    f ∈ evictedBy maxBytes outcomes dir required := by
  apply (mem_evictedBy_iff (by simp [hsplit])).mpr
  rw [@filter_evictsBefore dir outcomes f [] after hsplit, total_nil]
  omega

/-- If a file of priority 1 can be evicted, one is as soon as any is. -/
theorem exists_evicted_one (hnamed : WellNamed dir)
    (hfull : maxBytes < required + directorySize dir) (hf : f ∈ removable outcomes dir)
    (hone : isPriority 1 f = true) :
    ∃ x t, IsEvicted maxBytes outcomes dir required x ∧ Named x.name 1 t := by
  cases hsplit : removable outcomes dir with
  | nil => simp [hsplit] at hf
  | cons g after =>
      have hg : g ∈ removable outcomes dir := by simp [hsplit]
      have hnot : evictsBefore f g = false := by
        have hsorted := @pairwise_removable dir outcomes
        rw [hsplit] at hsorted hf
        rcases List.mem_cons.mp hf with rfl | hmem
        · simp [evictsBefore]
        · exact (List.pairwise_cons.mp hsorted).1 f hmem
      obtain ⟨x, hx, rfl, p, t, hxnamed⟩ := exists_named_of_mem_removable hnamed hg
      obtain ⟨y, hy, rfl, q, u, hynamed⟩ := exists_named_of_mem_removable hnamed hf
      have hq : q = 1 := (isPriority_spoolFile_iff hynamed (by decide)).mp hone
      have hp : p = 1 := by
        have horder := named_of_not_evictsBefore hxnamed hynamed hnot
        omega
      subst hp
      exact ⟨x, t, isEvicted_iff.mpr ⟨hx, head_mem_evictedBy hfull hsplit⟩, hxnamed⟩

/-- Unless there is room without it, denied requests are evicted if any can be. -/
theorem exists_evicted_deny (hnamed : WellNamed dir) (hf : f ∈ removable outcomes dir)
    (hzero : isPriority 0 f = true)
    (hfull : maxBytes + total SpoolFile.size
      ((removable outcomes dir).filter fun g => !isPriority 0 g) < required + directorySize dir) :
    ∃ x t, IsEvicted maxBytes outcomes dir required x ∧ Named x.name 0 t := by
  -- The first of them comes right after the sampled data.
  obtain ⟨g, hfind⟩ := Option.isSome_iff_exists.mp (List.find?_isSome.mpr ⟨f, hf, hzero⟩)
  obtain ⟨hg, before, after, hsplit, hsampled⟩ := List.find?_eq_some_iff_append.mp hfind
  have hmem : g ∈ removable outcomes dir := by simp [hsplit]
  obtain ⟨x, hx, rfl, p, t, hxnamed⟩ := exists_named_of_mem_removable hnamed hmem
  have hp : p = 0 := (isPriority_spoolFile_iff hxnamed (by decide)).mp hg
  subst hp
  refine ⟨x, t, isEvicted_iff.mpr ⟨hx, (mem_evictedBy_iff hmem).mpr ?_⟩, hxnamed⟩
  have hself : before.filter (fun g => !isPriority 0 g) = before :=
    List.filter_eq_self.mpr hsampled
  have hle : total SpoolFile.size before ≤ total SpoolFile.size
      ((removable outcomes dir).filter fun g => !isPriority 0 g) := by
    rw [hsplit, List.filter_append, hself, total_append]
    omega
  rw [filter_evictsBefore hsplit]
  omega

/-- Sampled data goes before denied requests. -/
theorem total_sampled_le (hnamed : WellNamed dir) {x : Entry} (hx : Named x.name 0 t) :
    total SpoolFile.size ((removable outcomes dir).filter fun g => !isPriority 0 g) ≤
      total SpoolFile.size ((removable outcomes dir).filter fun g => evictsBefore g (spoolFile x)) := by
  have hfilter : (removable outcomes dir).filter (fun g => !isPriority 0 g) =
      ((removable outcomes dir).filter fun g => evictsBefore g (spoolFile x)).filter
        fun g => !isPriority 0 g := by
    rw [List.filter_filter]
    apply List.filter_congr
    intro g hg
    obtain ⟨y, -, rfl, q, u, hy⟩ := exists_named_of_mem_removable hnamed hg
    cases hzero : isPriority 0 (spoolFile y) with
    | true => simp
    | false =>
        have hq : q ≠ 0 := fun heq => by
          rw [(isPriority_spoolFile_iff hy (by decide)).mpr heq] at hzero
          cases hzero
        have hbefore : evictsBefore (spoolFile y) (spoolFile x) = true := by
          rw [evictsBefore_iff, hx.priority_eq, hy.priority_eq, if_pos rfl, if_neg hq]
          exact .inl Nat.one_pos
        simp [hbefore]
  rw [hfilter]
  exact total_le_of_sublist List.filter_sublist

/-- Files are evicted by priority exactly under the condition. -/
theorem evictsByPriority_iff {batch : ℤ} (hnamed : WellNamed dir) :
    EvictsByPriority maxBytes outcomes dir required batch ↔
      RoomByPriority maxBytes outcomes dir required batch := by
  constructor
  · intro h
    rcases Nat.lt_or_ge maxBytes (required + directorySize dir) with hfull | hroom
    · refine .inr ⟨?_, ?_⟩
      · by_cases hone : ∀ e ∈ removable outcomes dir, isPriority 1 e = false
        · exact .inl hone
        · right
          intro f hf htwo
          push Not at hone
          obtain ⟨e, he, hpriority⟩ := hone
          obtain ⟨x, t, hevicted, hx⟩ :=
            exists_evicted_one hnamed hfull he (by simpa using hpriority)
          by_contra hnot
          have hkept := mt (mem_evictedBy_iff hf).mp hnot
          obtain ⟨y, hy, rfl, q, u, hynamed⟩ := exists_named_of_mem_removable hnamed hf
          have hq : q = 2 := (isPriority_spoolFile_iff hynamed le_rfl).mp htwo
          have hstays := stays_of_mem_removable hy hf hkept
          have hle := (h.ordered x y 1 t q u hevicted hstays hx hynamed).1
          omega
      · by_cases hbatch : batch = 1 ∨ batch = 2
        · by_cases hzero : ∀ e ∈ removable outcomes dir, isPriority 0 e = false
          · exact .inr (.inl hzero)
          · right
            right
            push Not at hzero
            obtain ⟨e, he, hpriority⟩ := hzero
            by_contra hnot
            obtain ⟨x, t, hevicted, hx⟩ :=
              exists_evicted_deny hnamed he (by simpa using hpriority) (not_le.mp hnot)
            exact h.deny hbatch x t hevicted hx
        · exact .inl (not_or.mp hbatch)
    · exact .inl hroom
  · intro h
    constructor
    · intro x y p t q u hevicted hstays hx hy
      have hgone := (isEvicted_iff.mp hevicted).2
      have hmem := evictedBy_sublist.subset hgone
      have hymem := mem_removable_of_stays (readDirFails_of_mem_removable hmem) hstays
      have horder := named_of_not_evictsBefore hx hy
        (not_evictsBefore_of_evicted hgone hymem hstays.not_mem_evictedBy)
      have hfull := not_room_of_mem_evictedBy hgone
      have hnot : ¬ (p = 1 ∧ q = 2) := by
        rintro ⟨rfl, rfl⟩
        rcases h with hroom | ⟨hone | htwo, -⟩
        · omega
        · have hfalse := hone _ hmem
          rw [(isPriority_spoolFile_iff hx (by decide)).mpr rfl] at hfalse
          cases hfalse
        · have hroom := htwo _ hymem ((isPriority_spoolFile_iff hy le_rfl).mpr rfl)
          exact hstays.not_mem_evictedBy ((mem_evictedBy_iff hymem).mpr hroom)
      have hp := hx.1
      have hq := hy.1
      rcases horder with ⟨hq, hp⟩ | ⟨hclass, hle, htime⟩
      · exact ⟨by omega, by omega⟩
      · exact ⟨by omega, htime⟩
    · intro hbatch x t hevicted hx
      have hgone := (isEvicted_iff.mp hevicted).2
      have hmem := evictedBy_sublist.subset hgone
      have hfull := not_room_of_mem_evictedBy hgone
      rcases h with hroom | ⟨-, hother | hzero | hroom⟩
      · omega
      · omega
      · have hfalse := hzero _ hmem
        rw [(isPriority_spoolFile_iff hx (by decide)).mpr rfl] at hfalse
        cases hfalse
      · have hneed := (mem_evictedBy_iff hmem).mp hgone
        have hle := @total_sampled_le dir outcomes t hnamed x hx
        omega

/-! ## Spools of three kinds of batches -/

/-- The bytes of a batch, at the turn of the year 2026. -/
def envelopeBytes (kind : String) (priority : ℕ) (payload : String) : Lines.Bytes :=
  Lines.bytesOf ("\x7b\"kind\":\"" ++ kind ++ "\",\"priority\":" ++ toString priority ++
    ",\"created_at\":\"2026-01-01T00:00:00Z\",\"payload\":" ++ payload ++ "\x7d")

/-- A denied request. -/
def deniedEnvelope : Lines.Bytes :=
  envelopeBytes "logs" 0 ("\x7b\"batch_id\":\"north-a-logs-1-1767225600000000000\"," ++
    "\"entries\":[\x7b\"ts\":\"2026-01-01T00:00:00Z\",\"policy_version\":1," ++
    "\"src_ip\":\"203.0.113.9\",\"src_cidr_match\":\"\",\"username\":\"\",\"cert_fp\":\"\"," ++
    "\"dst_host\":\"example.com\",\"dst_port\":443,\"action\":\"deny\",\"deny_reason\":\"\"," ++
    "\"bytes_up\":0,\"bytes_down\":0,\"duration_ms\":0\x7d],\"node_id\":\"north-a\",\"sequence\":1\x7d")

/-- Results of probes. -/
def probesEnvelope : Lines.Bytes :=
  envelopeBytes "probes" 1 ("\x7b\"batch_id\":\"north-a-probes-1-1767225600000000000\"," ++
    "\"node_id\":\"north-a\",\"results\":[],\"sequence\":1,\"task_id\":\"task-1\"\x7d")

/-- A sample of the groups of the proxy. -/
def groupsEnvelope : Lines.Bytes :=
  envelopeBytes "proxy_config" 2 ("\x7b\"api_available\":true,\"batch_id\":" ++
    "\"north-a-proxy_config-1-1767225600000000000\",\"error\":\"\",\"groups\":[]," ++
    "\"node_id\":\"north-a\",\"sampled_at\":\"2026-01-01T00:00:00Z\",\"sequence\":1\x7d")

/-- The name of a batch, some nanoseconds later. -/
def batchName (priority nanos : ℕ) (kind : String) : String :=
  spoolName priority (1767225600000000000 + nanos) kind

def deniedFile (nanos : ℕ) : Entry := ⟨batchName 0 nanos "logs", .file deniedEnvelope⟩

def probesFile (nanos : ℕ) : Entry := ⟨batchName 1 nanos "probes", .file probesEnvelope⟩

def groupsFile (nanos : ℕ) : Entry := ⟨batchName 2 nanos "proxy_config", .file groupsEnvelope⟩

theorem named_batchName {kind : String} {priority nanos : ℕ} (hpriority : priority ≤ 2)
    (hnanos : nanos ≤ 9) :
    Named (batchName priority nanos kind) priority (1767225600000000000 + nanos) :=
  ⟨hpriority, by omega, kind, rfl⟩

theorem batchName_ne {priority priority' nanos nanos' : ℕ} {kind other : String}
    (hpriority : priority ≤ 2) (hpriority' : priority' ≤ 2) (hnanos : nanos ≤ 9)
    (hnanos' : nanos' ≤ 9) (h : nanos ≠ nanos') :
    batchName priority nanos kind ≠ batchName priority' nanos' other := by
  rcases lt_trichotomy priority priority' with hlt | heq | hlt
  · exact (spoolName_lt hpriority hpriority' (by omega) (by omega) (.inl hlt)).ne
  · rcases h.lt_or_gt with hlt | hlt
    · exact (spoolName_lt hpriority hpriority' (by omega) (by omega) (.inr ⟨heq, by omega⟩)).ne
    · exact (spoolName_lt hpriority' hpriority (by omega) (by omega)
        (.inr ⟨heq.symm, by omega⟩)).ne'
  · exact (spoolName_lt hpriority' hpriority (by omega) (by omega) (.inl hlt)).ne'

theorem isSpoolFile_of_named {e : Entry} (h : Named e.name p t) (hfile : e.isDir = false) :
    e.isSpoolFile = true := by
  obtain ⟨hp, ht, kind, hname⟩ := h
  rw [Entry.isSpoolFile, hfile, hasSuffix, hname, toList_spoolName hp ht, Bool.not_false,
    Bool.true_and, List.isSuffixOf_iff_suffix]
  exact ⟨Nat.digitChar p :: '-' :: (fixedDigits 20 t ++ '-' :: kind.toList), by simp⟩

/-- A file with the bytes of a batch, under its name. -/
structure IsBatch (e : Entry) (priority nanos : ℕ) : Prop where
  named : Named e.name priority nanos
  file : e.isDir = false

theorem isBatch_deniedFile {nanos : ℕ} (h : nanos ≤ 9) :
    IsBatch (deniedFile nanos) 0 (1767225600000000000 + nanos) :=
  ⟨named_batchName (by decide) h, rfl⟩

theorem isBatch_probesFile {nanos : ℕ} (h : nanos ≤ 9) :
    IsBatch (probesFile nanos) 1 (1767225600000000000 + nanos) :=
  ⟨named_batchName (by decide) h, rfl⟩

theorem isBatch_groupsFile {nanos : ℕ} (h : nanos ≤ 9) :
    IsBatch (groupsFile nanos) 2 (1767225600000000000 + nanos) :=
  ⟨named_batchName (by decide) h, rfl⟩

theorem isPriority_of_batch {e : Entry} (h : IsBatch e p t) (hq : q ≤ 2) :
    isPriority q (spoolFile e) = decide (p = q) := by
  rw [Bool.eq_iff_iff, isPriority_spoolFile_iff h.named hq, decide_eq_true_eq]

theorem isPriority_deniedFile {nanos : ℕ} (h : nanos ≤ 9) (hq : q ≤ 2) :
    isPriority q (spoolFile (deniedFile nanos)) = decide (0 = q) :=
  isPriority_of_batch (isBatch_deniedFile h) hq

theorem isPriority_probesFile {nanos : ℕ} (h : nanos ≤ 9) (hq : q ≤ 2) :
    isPriority q (spoolFile (probesFile nanos)) = decide (1 = q) :=
  isPriority_of_batch (isBatch_probesFile h) hq

theorem isPriority_groupsFile {nanos : ℕ} (h : nanos ≤ 9) (hq : q ≤ 2) :
    isPriority q (spoolFile (groupsFile nanos)) = decide (2 = q) :=
  isPriority_of_batch (isBatch_groupsFile h) hq

theorem wellNamed_of_batches (h : ∀ e ∈ dir.entries, ∃ priority nanos, IsBatch e priority nanos) :
    WellNamed dir := by
  intro e he _
  obtain ⟨priority, nanos, hbatch⟩ := h e he
  exact ⟨priority, nanos, hbatch.named⟩

/-- Batches in the order of eviction are what can be removed. -/
theorem removable_of_batches {batches : List Entry}
    (h : ∀ e ∈ dir.entries, ∃ priority nanos, IsBatch e priority nanos)
    (hperm : batches.Perm dir.entries) (hsorted : (batches.map spoolFile).IsChain NotAfter) :
    removable sampleOutcomes dir = batches.map spoolFile := by
  have hspool : dir.entries.filter Entry.isSpoolFile = dir.entries := by
    rw [List.filter_eq_self]
    intro e he
    obtain ⟨priority, nanos, hbatch⟩ := h e he
    exact isSpoolFile_of_named hbatch.named hbatch.file
  have hfiles : spoolFiles dir = batches.map spoolFile := by
    apply spoolFiles_eq
    · rw [hspool]
      exact hperm.map spoolFile
    · exact List.isChain_iff_pairwise.mp hsorted
  rw [removable, listedFiles, hfiles]
  exact List.filter_eq_self.mpr fun _ _ => rfl

theorem length_append {s t : String} {m n : ℕ} (hs : (Lines.bytesOf s).length = m)
    (ht : (Lines.bytesOf t).length = n) : (Lines.bytesOf (s ++ t)).length = m + n := by
  rw [Lines.length_bytesOf] at hs ht ⊢
  rw [String.utf8ByteSize_append, hs, ht]

theorem length_chars (chars : List Char) :
    (Lines.bytesOf (String.ofList chars)).length = String.utf8Len chars := by
  rw [Lines.length_bytesOf, String.utf8ByteSize_ofList]

/-- What an envelope adds to its payload. -/
theorem length_envelopeBytes {kind payload : String} {priority m n : ℕ} (hpriority : priority ≤ 2)
    (hkind : (Lines.bytesOf kind).length = m) (hpayload : (Lines.bytesOf payload).length = n) :
    (envelopeBytes kind priority payload).length = m + n + 71 := by
  have hdigit : (Lines.bytesOf (toString priority)).length = 1 := by
    rw [Lines.length_bytesOf]
    interval_cases priority <;> rfl
  have hlength : (envelopeBytes kind priority payload).length = 9 + m + 13 + 1 + 47 + n + 1 := by
    apply length_append (length_append (length_append (length_append (length_append
      (length_append ?_ hkind) ?_) hdigit) ?_) hpayload) ?_
    all_goals exact length_chars _
  omega

@[simp] theorem size_deniedFile (nanos : ℕ) : (deniedFile nanos).size = 405 := by
  change deniedEnvelope.length = 405
  rw [deniedEnvelope]
  exact Eq.trans (length_envelopeBytes (by decide) (length_chars _)
    (length_append (length_append (length_append (length_append (length_chars _) (length_chars _))
      (length_chars _)) (length_chars _)) (length_chars _))) (by decide)

@[simp] theorem size_probesFile (nanos : ℕ) : (probesFile nanos).size = 193 := by
  change probesEnvelope.length = 193
  rw [probesEnvelope]
  exact Eq.trans (length_envelopeBytes (by decide) (length_chars _)
    (length_append (length_chars _) (length_chars _))) (by decide)

@[simp] theorem size_groupsFile (nanos : ℕ) : (groupsFile nanos).size = 253 := by
  change groupsEnvelope.length = 253
  rw [groupsEnvelope]
  exact Eq.trans (length_envelopeBytes (by decide) (length_chars _)
    (length_append (length_append (length_chars _) (length_chars _)) (length_chars _))) (by decide)

@[simp] theorem size_spoolFile (entry : Entry) : (spoolFile entry).size = entry.size := rfl

/-- Results of probes, and an older sample of the groups. -/
def mixedDir : Dir :=
  ⟨[probesFile 5, groupsFile 1], by simp [probesFile, groupsFile, batchName_ne]⟩

theorem isBatch_mixedDir : ∀ e ∈ mixedDir.entries, ∃ priority nanos, IsBatch e priority nanos := by
  simp only [mixedDir, List.forall_mem_cons]
  exact ⟨⟨1, _, isBatch_probesFile (by decide)⟩, ⟨2, _, isBatch_groupsFile (by decide)⟩,
    fun _ h => absurd h List.not_mem_nil⟩

theorem removable_mixedDir : removable sampleOutcomes mixedDir =
    [spoolFile (probesFile 5), spoolFile (groupsFile 1)] := by
  apply removable_of_batches isBatch_mixedDir (List.Perm.refl _)
  have hprobes := (@isBatch_probesFile 5 (by decide)).named
  have hgroups := (@isBatch_groupsFile 1 (by decide)).named
  exact .cons_cons (hprobes.notAfter hgroups (by decide)) (.singleton _)

/-- The results are evicted, and the older sample, of less importance, stays. -/
theorem not_evictsByPriority_mixed : ¬ EvictsByPriority 512 sampleOutcomes mixedDir 193 1 := by
  intro h
  have hsize : directorySize mixedDir = 446 := by simp [directorySize, mixedDir, total_cons]
  have hevicted : IsEvicted 512 sampleOutcomes mixedDir 193 (probesFile 5) := by
    refine isEvicted_iff.mpr ⟨List.mem_cons_self, head_mem_evictedBy ?_ removable_mixedDir⟩
    rw [hsize]
    decide
  have hbefore : (removable sampleOutcomes mixedDir).filter
      (fun g => evictsBefore g (spoolFile (groupsFile 1))) = [spoolFile (probesFile 5)] :=
    filter_evictsBefore removable_mixedDir
  have hmem : spoolFile (groupsFile 1) ∈ removable sampleOutcomes mixedDir := by
    simp [removable_mixedDir]
  have hstays : Stays 512 sampleOutcomes mixedDir 193 (groupsFile 1) := by
    refine stays_of_mem_removable (List.mem_cons_of_mem _ List.mem_cons_self) hmem ?_
    rw [mem_evictedBy_iff hmem, hbefore, hsize]
    simp [total_cons]
  have hle := (h.ordered _ _ 1 _ 2 _ hevicted hstays (named_batchName (by decide) (by decide))
    (named_batchName (by decide) (by decide))).1
  omega

/-- Denied requests, and two samples of the groups. -/
def sampledDir : Dir :=
  ⟨[deniedFile 1, groupsFile 4, groupsFile 2], by simp [deniedFile, groupsFile, batchName_ne]⟩

/-- The same with results of probes. -/
def crowdedDir : Dir :=
  ⟨[deniedFile 1, groupsFile 4, groupsFile 2, probesFile 3, probesFile 5],
    by simp [deniedFile, groupsFile, probesFile, batchName_ne]⟩

theorem isBatch_crowdedDir :
    ∀ e ∈ crowdedDir.entries, ∃ priority nanos, IsBatch e priority nanos := by
  simp only [crowdedDir, List.forall_mem_cons]
  exact ⟨⟨0, _, isBatch_deniedFile (by decide)⟩, ⟨2, _, isBatch_groupsFile (by decide)⟩,
    ⟨2, _, isBatch_groupsFile (by decide)⟩, ⟨1, _, isBatch_probesFile (by decide)⟩,
    ⟨1, _, isBatch_probesFile (by decide)⟩, fun _ h => absurd h List.not_mem_nil⟩

theorem isBatch_sampledDir :
    ∀ e ∈ sampledDir.entries, ∃ priority nanos, IsBatch e priority nanos := by
  intro e he
  apply isBatch_crowdedDir e
  exact List.mem_append_left [probesFile 3, probesFile 5] he

/-- The newer sample goes after the older one, and the denied requests after both. -/
theorem isChain_samples : [spoolFile (groupsFile 2), spoolFile (groupsFile 4),
    spoolFile (deniedFile 1)].IsChain NotAfter := by
  have holder := (@isBatch_groupsFile 2 (by decide)).named
  have hnewer := (@isBatch_groupsFile 4 (by decide)).named
  have hdenied := (@isBatch_deniedFile 1 (by decide)).named
  exact .cons_cons (holder.notAfter hnewer (by decide))
    (.cons_cons (hnewer.notAfter hdenied (by decide)) (.singleton _))

theorem removable_sampledDir : removable sampleOutcomes sampledDir =
    [spoolFile (groupsFile 2), spoolFile (groupsFile 4), spoolFile (deniedFile 1)] := by
  exact @removable_of_batches sampledDir [groupsFile 2, groupsFile 4, deniedFile 1]
    isBatch_sampledDir (List.reverse_perm sampledDir.entries) isChain_samples

theorem removable_crowdedDir : removable sampleOutcomes crowdedDir =
    [spoolFile (probesFile 3), spoolFile (probesFile 5), spoolFile (groupsFile 2),
      spoolFile (groupsFile 4), spoolFile (deniedFile 1)] := by
  have hfirst := (@isBatch_probesFile 3 (by decide)).named
  have hsecond := (@isBatch_probesFile 5 (by decide)).named
  have holder := (@isBatch_groupsFile 2 (by decide)).named
  have hperm : ([probesFile 3, probesFile 5] ++ [groupsFile 2, groupsFile 4, deniedFile 1]).Perm
      crowdedDir.entries :=
    List.perm_append_comm.trans ((List.reverse_perm sampledDir.entries).append_right _)
  apply removable_of_batches isBatch_crowdedDir hperm
  exact .cons_cons (hfirst.notAfter hsecond (by decide))
    (.cons_cons (hsecond.notAfter holder (by decide)) isChain_samples)

/-- Without results of probes the oldest sample makes room; with them, a batch that is large enough
has all sampled data go, and the denied requests stay. -/
theorem evictsByPriority_iff_sample : EvictsByPriority 1024 sampleOutcomes sampledDir 253 2 ∧
    EvictsByPriority 1400 sampleOutcomes crowdedDir 900 1 := by
  constructor
  · apply (evictsByPriority_iff ?_).mpr
    · have hsize : directorySize sampledDir = 911 := by
        simp [directorySize, sampledDir, total_cons]
      have hsampled : (removable sampleOutcomes sampledDir).filter (fun g => !isPriority 0 g) =
          [spoolFile (groupsFile 2), spoolFile (groupsFile 4)] := by
        simp [removable_sampledDir, isPriority_groupsFile, isPriority_deniedFile]
      have hnone : ∀ f ∈ removable sampleOutcomes sampledDir, isPriority 1 f = false := by
        simp [removable_sampledDir, isPriority_groupsFile, isPriority_deniedFile]
      refine .inr ⟨.inl hnone, .inr (.inr ?_)⟩
      rw [hsize, hsampled]
      simp [total_cons]
    · exact wellNamed_of_batches isBatch_sampledDir
  · apply (evictsByPriority_iff ?_).mpr
    · have hsize : directorySize crowdedDir = 1297 := by
        simp [directorySize, crowdedDir, total_cons]
      have hsampled : (removable sampleOutcomes crowdedDir).filter (fun g => !isPriority 0 g) =
          [spoolFile (probesFile 3), spoolFile (probesFile 5), spoolFile (groupsFile 2),
            spoolFile (groupsFile 4)] := by
        simp [removable_crowdedDir, isPriority_probesFile, isPriority_groupsFile,
          isPriority_deniedFile]
      refine .inr ⟨.inr ?_, .inr (.inr ?_)⟩
      · intro f hf htwo
        have hnot : f ≠ spoolFile (probesFile 3) ∧ f ≠ spoolFile (probesFile 5) ∧
            f ≠ spoolFile (deniedFile 1) := by
          refine ⟨?_, ?_, ?_⟩ <;> rintro rfl
          · simp [isPriority_probesFile] at htwo
          · simp [isPriority_probesFile] at htwo
          · simp [isPriority_deniedFile] at htwo
        simp only [removable_crowdedDir, List.mem_cons, hnot, List.not_mem_nil, or_false,
          false_or] at hf
        rcases hf with rfl | rfl
        · rw [@filter_evictsBefore crowdedDir sampleOutcomes (spoolFile (groupsFile 2))
            [spoolFile (probesFile 3), spoolFile (probesFile 5)] _ removable_crowdedDir, hsize]
          simp [total_cons]
        · rw [@filter_evictsBefore crowdedDir sampleOutcomes (spoolFile (groupsFile 4))
            [spoolFile (probesFile 3), spoolFile (probesFile 5), spoolFile (groupsFile 2)] _
            removable_crowdedDir, hsize]
          simp [total_cons]
      · rw [hsize, hsampled]
        simp [total_cons]
    · exact wellNamed_of_batches isBatch_crowdedDir

end Grouproxy.Spool
