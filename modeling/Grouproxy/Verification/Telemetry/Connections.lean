import Mathlib.Algebra.BigOperators.Group.List.Basic
import Mathlib.Algebra.GroupWithZero.Nat
import Mathlib.Algebra.Order.BigOperators.Group.List
import Mathlib.Algebra.Ring.Int.Defs
import Mathlib.Data.List.Dedup
import Mathlib.Data.Prod.Lex
import Grouproxy.Library.Entries
import Grouproxy.Library.Ranking
import Grouproxy.Model.Connections

/-! # What the snapshot of the connections says

The totals of a snapshot are those of the document, or else the sums over the connections. Its
entries count the connections of each source and destination, the busiest first. The loop adds the
counters to totals it has not found yet, and the sums are those of 64-bit integers.
-/

namespace Grouproxy.Connections

open Groups Ranking Value

/-! ## Exact snapshots -/

/-- The connections that are objects. Any other element of the list is skipped. -/
def objects (raw : Fields) : List Fields := (connectionsOf raw).filterMap Any.asMap?

section Sums

variable (conv : Conversions)

def uploaded (conns : List Fields) : ℤ := (conns.map fun conn => (upload conv conn).toInt).sum

def downloaded (conns : List Fields) : ℤ := (conns.map fun conn => (download conv conn).toInt).sum

def total (conns : List Fields) : ℤ := uploaded conv conns + downloaded conv conns

structure NonNegative (raw : Fields) : Prop where
  uploadTotal : 0 ≤ asInt64 conv (raw.get "uploadTotal")
  downloadTotal : 0 ≤ asInt64 conv (raw.get "downloadTotal")
  upload : ∀ conn ∈ objects raw, 0 ≤ upload conv conn
  download : ∀ conn ∈ objects raw, 0 ≤ download conv conn

/-- The document has totals of its own. -/
def HasTotals (raw : Fields) : Prop :=
  asInt64 conv (raw.get "uploadTotal") ≠ 0 ∨ asInt64 conv (raw.get "downloadTotal") ≠ 0

instance : DecidablePred (HasTotals conv) := fun _ => inferInstanceAs (Decidable (_ ∨ _))

structure ExactTotals (raw : Fields) (snapshot : Snapshot) : Prop where
  given : HasTotals conv raw →
    snapshot.bytesUp = asInt64 conv (raw.get "uploadTotal") ∧
      snapshot.bytesDown = asInt64 conv (raw.get "downloadTotal")
  summed : ¬ HasTotals conv raw →
    snapshot.bytesUp.toInt = uploaded conv (objects raw) ∧
      snapshot.bytesDown.toInt = downloaded conv (objects raw)

variable (labelOf : Fields → String) (conns : List Fields)

def labels : List String := ((conns.map labelOf).filter (· ≠ "")).dedup

def under (label : String) : List Fields := conns.filter (labelOf · = label)

/-- The entry carries exactly the count and the sums of the connections with its label. -/
structure ExactEntry (entry : ConnectionCounter) : Prop where
  count : entry.count = (under labelOf conns entry.label).length
  bytesUp : entry.bytesUp.toInt = uploaded conv (under labelOf conns entry.label)
  bytesDown : entry.bytesDown.toInt = downloaded conv (under labelOf conns entry.label)

/-- The entries of the 20 labels with the largest totals, of all labels if there are fewer. -/
structure ExactEntries (entries : List ConnectionCounter) : Prop where
  nodup : (entries.map (·.label)).Nodup
  mem : ∀ entry ∈ entries, entry.label ∈ labels labelOf conns
  length : entries.length = min 20 (labels labelOf conns).length
  exact : ∀ entry ∈ entries, ExactEntry conv labelOf conns entry
  largest : ∀ entry ∈ entries, ∀ label ∈ labels labelOf conns,
    label ∉ entries.map (·.label) →
      total conv (under labelOf conns label) ≤ total conv (under labelOf conns entry.label)

structure ExactSnapshot (raw : Fields) (snapshot : Snapshot) : Prop where
  totals : ExactTotals conv raw snapshot
  sources : ExactEntries conv srcIP (objects raw) snapshot.topSources
  destinations : ExactEntries conv dstHost (objects raw) snapshot.topDestinations

/-! ## When the counters are enough -/

def IsBusy (conn : Fields) : Prop := upload conv conn ≠ 0 ∨ download conv conn ≠ 0

instance : DecidablePred (IsBusy conv) := fun _ => inferInstanceAs (Decidable (_ ∨ _))

/-- Labels are ranked by their total and then by their number of connections. -/
def rank (label : String) : ℤ ×ₗ ℕ :=
  toLex (total conv (under labelOf conns label), (under labelOf conns label).length)

/-- No total wraps around in 64 bits, or all of them do, once. -/
def WrapAlike : Prop :=
  (∀ label ∈ labels labelOf conns, total conv (under labelOf conns label) < 2 ^ 63) ∨
    ∀ label ∈ labels labelOf conns, 2 ^ 63 ≤ total conv (under labelOf conns label) ∧
      total conv (under labelOf conns label) < 2 ^ 64

/-- The sums fit into 64 bits where they may be shown, and the totals wrap around alike where there
are more labels than are shown. -/
structure Fits : Prop where
  sums : ∀ label ∈ labels labelOf conns,
    ((labels labelOf conns).filter
      fun other => rank conv labelOf conns label < rank conv labelOf conns other).length < 20 →
    uploaded conv (under labelOf conns label) < 2 ^ 63 ∧
      downloaded conv (under labelOf conns label) < 2 ^ 63
  order : (labels labelOf conns).length ≤ 20 ∨ WrapAlike conv labelOf conns

end Sums

/-! ## Totals -/

section Totals

variable {conv : Conversions} {raw : Fields} {conns : List Fields} {a : Accounts}

theorem foldl_accountAny (rawConns : List Any) (a : Accounts) :
    rawConns.foldl (accountAny conv) a = (rawConns.filterMap Any.asMap?).foldl (account conv) a := by
  induction rawConns generalizing a with
  | nil => rfl
  | cons rawConn rest ih =>
      rw [List.foldl_cons, ih, accountAny]
      cases h : rawConn.asMap? with
      | none => rw [List.filterMap_cons_none h]
      | some conn => rw [List.filterMap_cons_some h, List.foldl_cons]

variable (conns) in
/-- Totals that have been found stay as they are. -/
theorem foldl_account_of_ne (h : a.bytesUp ≠ 0 ∨ a.bytesDown ≠ 0) :
    (conns.foldl (account conv) a).bytesUp = a.bytesUp ∧
      (conns.foldl (account conv) a).bytesDown = a.bytesDown := by
  induction conns generalizing a with
  | nil => exact ⟨rfl, rfl⟩
  | cons conn rest ih =>
      have hidle : ¬ (a.bytesUp = 0 ∧ a.bytesDown = 0) := by
        rcases h with h | h
        · exact fun hidle => h hidle.1
        · exact fun hidle => h hidle.2
      have hup : (account conv a conn).bytesUp = a.bytesUp := if_neg hidle
      have hdown : (account conv a conn).bytesDown = a.bytesDown := if_neg hidle
      have hrest := ih (a := account conv a conn) (by rwa [hup, hdown])
      rwa [hup, hdown] at hrest

variable (conv) in
theorem sums_cons (conn : Fields) (conns : List Fields) :
    uploaded conv (conn :: conns) = (upload conv conn).toInt + uploaded conv conns ∧
      downloaded conv (conn :: conns) = (download conv conn).toInt + downloaded conv conns := by
  simp [uploaded, downloaded]

/-- Counters that are not negative. -/
def Counted (conv : Conversions) (conns : List Fields) : Prop :=
  ∀ conn ∈ conns, 0 ≤ (upload conv conn).toInt ∧ 0 ≤ (download conv conn).toInt

theorem NonNegative.counted (h : NonNegative conv raw) : Counted conv (objects raw) :=
  fun conn hconn => ⟨by simpa using Int64.le_iff_toInt_le.mp (h.upload conn hconn),
    by simpa using Int64.le_iff_toInt_le.mp (h.download conn hconn)⟩

theorem Counted.sums_nonneg (h : Counted conv conns) :
    0 ≤ uploaded conv conns ∧ 0 ≤ downloaded conv conns := by
  constructor
  · exact List.sum_nonneg fun n hn => by
      obtain ⟨conn, hconn, rfl⟩ := List.mem_map.mp hn
      exact (h conn hconn).1
  · exact List.sum_nonneg fun n hn => by
      obtain ⟨conn, hconn, rfl⟩ := List.mem_map.mp hn
      exact (h conn hconn).2

theorem not_isBusy_iff {conn : Fields} :
    ¬ IsBusy conv conn ↔ (upload conv conn).toInt = 0 ∧ (download conv conn).toInt = 0 := by
  rw [IsBusy, not_or, not_not, not_not, ← Int64.toInt_inj, ← Int64.toInt_inj, Int64.toInt_zero]

/-- Sums of counters are zero where no connection is busy. -/
theorem Counted.sums_eq_zero_iff (h : Counted conv conns) :
    uploaded conv conns = 0 ∧ downloaded conv conns = 0 ↔ conns.filter (IsBusy conv ·) = [] := by
  induction conns with
  | nil => simp [uploaded, downloaded]
  | cons conn rest ih =>
      obtain ⟨hconn, hrest⟩ := List.forall_mem_cons.mp h
      have hnonneg := Counted.sums_nonneg hrest
      obtain ⟨hup, hdown⟩ := sums_cons conv conn rest
      by_cases hbusy : IsBusy conv conn
      · have hne : ¬ ((upload conv conn).toInt = 0 ∧ (download conv conn).toInt = 0) :=
          fun hzero => not_isBusy_iff.mpr hzero hbusy
        rw [List.filter_cons_of_pos (by simpa using hbusy), hup, hdown]
        exact ⟨fun hzero => absurd ⟨by omega, by omega⟩ hne, fun h => by simp at h⟩
      · have hzero := not_isBusy_iff.mp hbusy
        rw [List.filter_cons_of_neg (by simpa using hbusy), ← ih hrest, hup, hdown, hzero.1,
          hzero.2, zero_add, zero_add]

/-- Without totals the loop finds those of the first busy connection, which are the sums where no
other one is busy. -/
theorem foldl_account_iff (h : Counted conv conns) (hup : a.bytesUp = 0) (hdown : a.bytesDown = 0) :
    ((conns.foldl (account conv) a).bytesUp.toInt = uploaded conv conns ∧
      (conns.foldl (account conv) a).bytesDown.toInt = downloaded conv conns) ↔
      (conns.filter (IsBusy conv ·)).length ≤ 1 := by
  induction conns generalizing a with
  | nil => simp [uploaded, downloaded, hup, hdown]
  | cons conn rest ih =>
      obtain ⟨hconn, hrest⟩ := List.forall_mem_cons.mp h
      have hidle : a.bytesUp = 0 ∧ a.bytesDown = 0 := ⟨hup, hdown⟩
      have hfound : (account conv a conn).bytesUp = upload conv conn ∧
          (account conv a conn).bytesDown = download conv conn := by
        simp [account, hup, hdown]
      obtain ⟨hsum, hsum'⟩ := sums_cons conv conn rest
      rw [List.foldl_cons, hsum, hsum']
      by_cases hbusy : IsBusy conv conn
      · have hnonzero : (account conv a conn).bytesUp ≠ 0 ∨ (account conv a conn).bytesDown ≠ 0 := by
          rwa [hfound.1, hfound.2]
        obtain ⟨hkeep, hkeep'⟩ := foldl_account_of_ne rest hnonzero
        have hnone := Counted.sums_eq_zero_iff hrest
        rw [hkeep, hkeep', hfound.1, hfound.2, List.filter_cons_of_pos (by simpa using hbusy),
          List.length_cons, Nat.succ_le_succ_iff, Nat.le_zero, List.length_eq_zero_iff, ← hnone]
        constructor
        · exact fun h => ⟨by omega, by omega⟩
        · exact fun h => ⟨by omega, by omega⟩
      · have hzero := not_isBusy_iff.mp hbusy
        rw [List.filter_cons_of_neg (by simpa using hbusy), hzero.1, hzero.2, zero_add, zero_add]
        refine ih hrest ?_ ?_
        · rw [hfound.1, ← Int64.toInt_inj, hzero.1, Int64.toInt_zero]
        · rw [hfound.2, ← Int64.toInt_inj, hzero.2, Int64.toInt_zero]

variable {slices : Slices} {now : Int} {agent : Agent}

theorem accounts_eq (conv : Conversions) (raw : Fields) :
    accounts conv raw = (objects raw).foldl (account conv) ⟨asInt64 conv (raw.get "uploadTotal"),
      asInt64 conv (raw.get "downloadTotal"), [], [], []⟩ :=
  foldl_accountAny (connectionsOf raw) _

theorem exactTotals_iff (h : NonNegative conv raw) :
    ExactTotals conv raw (fillConnectionSnapshot conv slices raw now agent).1 ↔
      HasTotals conv raw ∨ ((objects raw).filter (IsBusy conv ·)).length ≤ 1 := by
  have hup : (fillConnectionSnapshot conv slices raw now agent).1.bytesUp =
      (accounts conv raw).bytesUp := rfl
  have hdown : (fillConnectionSnapshot conv slices raw now agent).1.bytesDown =
      (accounts conv raw).bytesDown := rfl
  rw [accounts_eq] at hup hdown
  by_cases htotals : HasTotals conv raw
  · refine ⟨fun _ => .inl htotals, fun _ => ⟨fun _ => ?_, fun h => absurd htotals h⟩⟩
    rw [hup, hdown]
    exact foldl_account_of_ne _ htotals
  · have hzero := htotals
    rw [HasTotals, not_or, not_not, not_not] at hzero
    have hiff := foldl_account_iff h.counted (a := ⟨asInt64 conv (raw.get "uploadTotal"),
      asInt64 conv (raw.get "downloadTotal"), [], [], []⟩) hzero.1 hzero.2
    rw [or_iff_right htotals, ← hiff, ← hup, ← hdown]
    exact ⟨fun h => h.summed htotals, fun h => ⟨fun hgiven => absurd hgiven htotals, fun _ => h⟩⟩

end Totals

/-! ## Entries -/

section Entries

variable {conv : Conversions} {labelOf : Fields → String} {conns : List Fields} {label : String}

theorem mem_labels :
    label ∈ labels labelOf conns ↔ label ≠ "" ∧ label ∈ conns.map labelOf := by
  simp [labels, and_comm]

variable (conv labelOf conns label) in
/-- The counter that the loop keeps for a label. -/
def entryOf : ConnectionCounter :=
  (under labelOf conns label).foldl (addConnection conv) (newCounter label)

variable (conv) in
/-- 64-bit sums are the sums up to a multiple of `2 ^ 64`. -/
theorem foldl_addConnection (conns : List Fields) (counter : ConnectionCounter) :
    (conns.foldl (addConnection conv) counter).label = counter.label ∧
      (conns.foldl (addConnection conv) counter).count = counter.count + conns.length ∧
      (conns.foldl (addConnection conv) counter).bytesUp.toInt =
        (counter.bytesUp.toInt + uploaded conv conns).bmod (2 ^ 64) ∧
      (conns.foldl (addConnection conv) counter).bytesDown.toInt =
        (counter.bytesDown.toInt + downloaded conv conns).bmod (2 ^ 64) := by
  induction conns generalizing counter with
  | nil => simp [uploaded, downloaded]
  | cons conn rest ih =>
      obtain ⟨hlabel, hcount, hup, hdown⟩ := ih (addConnection conv counter conn)
      obtain ⟨hsum, hsum'⟩ := sums_cons conv conn rest
      rw [List.foldl_cons, hlabel, hcount, hup, hdown, hsum, hsum', List.length_cons]
      refine ⟨rfl, ?_, ?_, ?_⟩
      · rw [addConnection, add_assoc, add_comm 1]
      · rw [addConnection, Int64.toInt_add, Int.bmod_add_bmod, add_assoc]
      · rw [addConnection, Int64.toInt_add, Int.bmod_add_bmod, add_assoc]

variable (conv labelOf conns label) in
theorem entryOf_spec :
    (entryOf conv labelOf conns label).label = label ∧
      (entryOf conv labelOf conns label).count = (under labelOf conns label).length ∧
      (entryOf conv labelOf conns label).bytesUp.toInt =
        (uploaded conv (under labelOf conns label)).bmod (2 ^ 64) ∧
      (entryOf conv labelOf conns label).bytesDown.toInt =
        (downloaded conv (under labelOf conns label)).bmod (2 ^ 64) := by
  simpa [newCounter, entryOf] using
    foldl_addConnection conv (under labelOf conns label) (newCounter label)

variable (conv labelOf conns) in
theorem map_label_entryOf (xs : List String) :
    (xs.map (entryOf conv labelOf conns)).map (·.label) = xs := by
  rw [List.map_map]
  exact (List.map_congr_left fun label _ => (entryOf_spec conv labelOf conns _).1).trans (List.map_id xs)

variable (conv labelOf conns) in
/-- The map of counters after the loop. -/
def countsOf : Counts :=
  conns.foldl (fun counts conn => countUnder conv (labelOf conn) conn counts) []

theorem countsOf_eq_group :
    countsOf conv labelOf conns =
      group newCounter (addConnection conv) labelOf (conns.filter (labelOf · ≠ "")) [] := by
  rw [countsOf, group, List.foldl_filter]
  congr
  funext counts conn
  by_cases h : labelOf conn = "" <;> simp [countUnder, h]

/-- The map holds one counter for each label. -/
theorem counters_perm :
    ((countsOf conv labelOf conns).map Prod.snd).Perm
      ((labels labelOf conns).map (entryOf conv labelOf conns)) := by
  rw [countsOf_eq_group]
  let labelled := conns.filter (labelOf · ≠ "")
  have hnodup : ((group newCounter (addConnection conv) labelOf labelled []).map Prod.fst).Nodup :=
    nodup_group List.nodup_nil
  have hkeys : ((group newCounter (addConnection conv) labelOf labelled []).map Prod.fst).Perm
      (labels labelOf conns) := by
    refine (List.perm_ext_iff_of_nodup hnodup (List.nodup_dedup _)).mpr fun label => ?_
    rw [mem_keys_group, ← labels, mem_labels]
    simp [labelled]
    grind
  have hcounters : (group newCounter (addConnection conv) labelOf labelled []).map Prod.snd =
      ((group newCounter (addConnection conv) labelOf labelled []).map Prod.fst).map
        (entryOf conv labelOf conns) := by
    rw [List.map_map]
    refine List.map_congr_left fun e he => ?_
    have hkey : e.1 ∈ (group newCounter (addConnection conv) labelOf labelled []).map Prod.fst :=
      List.mem_map_of_mem he
    have hlookup := lookup_group hkey
    rw [Entries.lookup_of_mem hnodup he] at hlookup
    have hne : e.1 ≠ "" := (mem_labels.mp (hkeys.mem_iff.mp hkey)).1
    have hunder : labelled.filter (labelOf · = e.1) = under labelOf conns e.1 := by
      rw [List.filter_filter, under]
      refine List.filter_congr fun conn _ => ?_
      by_cases h : labelOf conn = e.1 <;> simp [h, hne]
    rw [Option.some.inj hlookup, hunder]
    rfl
  rw [hcounters]
  exact hkeys.map _

/-! ## The order of the entries -/

/-- The rank of a counter is that of 64-bit totals. -/
def counterRank (counter : ConnectionCounter) : ℤ ×ₗ ℕ :=
  toLex ((counter.bytesUp + counter.bytesDown).toInt, counter.count)

theorem hasMoreBytes_eq_false_iff {left right : ConnectionCounter} :
    hasMoreBytes left right = false ↔ counterRank left ≤ counterRank right := by
  rw [counterRank, counterRank, Prod.Lex.toLex_le_toLex, Int64.toInt_inj,
    ← Int64.lt_iff_toInt_lt, hasMoreBytes]
  by_cases heq : left.bytesUp + left.bytesDown = right.bytesUp + right.bytesDown
  · simp [heq]
  · have hne := mt Int64.toInt_inj.mp heq
    simp only [heq, if_false, false_and, or_false, decide_eq_false_iff_not, Int64.lt_iff_toInt_lt]
    omega

variable (conv labelOf conns) in
/-- The rank of a label in the eyes of the code. -/
def wrappedRank (label : String) : ℤ ×ₗ ℕ :=
  toLex ((total conv (under labelOf conns label)).bmod (2 ^ 64), (under labelOf conns label).length)

theorem counterRank_entryOf :
    counterRank (entryOf conv labelOf conns label) = wrappedRank conv labelOf conns label := by
  obtain ⟨-, hcount, hup, hdown⟩ := entryOf_spec conv labelOf conns label
  rw [counterRank, wrappedRank, hcount, Int64.toInt_add, hup, hdown, Int.bmod_add_bmod,
    Int.add_bmod_bmod, total]

variable (conv labelOf conns) in
/-- What is reported is an arrangement of the labels, cut off. -/
theorem exists_ranks_topConnectionCounters (slice : SortSlice hasMoreBytes) (limit : ℕ) :
    ∃ arranged, Ranks (wrappedRank conv labelOf conns) (labels labelOf conns) arranged ∧
      topConnectionCounters slice (countsOf conv labelOf conns) limit =
        (arranged.take limit).map (entryOf conv labelOf conns) := by
  let counters := (countsOf conv labelOf conns).map Prod.snd
  have hperm : (slice.sort counters).Perm ((labels labelOf conns).map (entryOf conv labelOf conns)) :=
    (slice.perm counters).trans counters_perm
  let arranged := (slice.sort counters).map (·.label)
  have hlabels : arranged.Perm (labels labelOf conns) := by
    calc arranged.Perm (((labels labelOf conns).map (entryOf conv labelOf conns)).map (·.label)) :=
          hperm.map _
      _ = labels labelOf conns := map_label_entryOf conv labelOf conns _
  have harranged : slice.sort counters = arranged.map (entryOf conv labelOf conns) := by
    rw [List.map_map]
    refine (List.map_id _).symm.trans (List.map_congr_left fun counter hcounter => ?_)
    obtain ⟨label, -, rfl⟩ := List.mem_map.mp (hperm.mem_iff.mp hcounter)
    rw [Function.comp_apply, (entryOf_spec conv labelOf conns _).1, id_eq]
  refine ⟨arranged, ⟨hlabels, ?_⟩, ?_⟩
  · have hsorted := slice.sorted counters
    rw [harranged, List.pairwise_map] at hsorted
    refine hsorted.imp fun {left right} h => ?_
    rwa [hasMoreBytes_eq_false_iff, counterRank_entryOf, counterRank_entryOf] at h
  · rw [topConnectionCounters, List.map_take, ← harranged]

/-- Every arrangement of the labels may be what is reported. -/
theorem exists_slice_of_ranks {arranged : List String}
    (h : Ranks (wrappedRank conv labelOf conns) (labels labelOf conns) arranged) (limit : ℕ) :
    ∃ slice : SortSlice hasMoreBytes,
      topConnectionCounters slice (countsOf conv labelOf conns) limit =
        (arranged.take limit).map (entryOf conv labelOf conns) := by
  let counters := (countsOf conv labelOf conns).map Prod.snd
  choose arrange harrange using exists_ranks counterRank
  let sort := Function.update arrange counters (arranged.map (entryOf conv labelOf conns))
  have hsort : ∀ xs, Ranks counterRank xs (sort xs) := by
    intro xs
    by_cases hxs : xs = counters
    · subst hxs
      rw [show sort counters = arranged.map (entryOf conv labelOf conns) from
        Function.update_self ..]
      refine ⟨(h.perm.map _).trans counters_perm.symm, ?_⟩
      rw [List.pairwise_map]
      refine h.sorted.imp fun {left right} h => ?_
      rwa [counterRank_entryOf, counterRank_entryOf]
    · rw [show sort xs = arrange xs from Function.update_of_ne hxs ..]
      exact harrange xs
  refine ⟨⟨sort, fun xs => (hsort xs).perm, fun xs => (hsort xs).sorted.imp fun h => ?_⟩, ?_⟩
  · exact hasMoreBytes_eq_false_iff.mpr h
  · rw [topConnectionCounters, List.map_take]
    exact congrArg (List.take limit) (Function.update_self ..)

/-! ## Which arrangements are exact -/

theorem bmod_eq_self_iff {n : ℤ} (h : 0 ≤ n) : n.bmod (2 ^ 64) = n ↔ n < 2 ^ 63 := by
  rw [Int.bmod_def]
  omega

variable (labelOf) in
theorem Counted.under (h : Counted conv conns) (label : String) :
    Counted conv (under labelOf conns label) :=
  fun conn hconn => h conn (List.mem_of_mem_filter hconn)

/-- Both sums of a label fit into 64 bits. -/
def SumsFit (conv : Conversions) (labelOf : Fields → String) (conns : List Fields)
    (label : String) : Prop :=
  uploaded conv (under labelOf conns label) < 2 ^ 63 ∧
    downloaded conv (under labelOf conns label) < 2 ^ 63

theorem exactEntry_entryOf_iff (h : Counted conv conns) :
    ExactEntry conv labelOf conns (entryOf conv labelOf conns label) ↔
      SumsFit conv labelOf conns label := by
  obtain ⟨hlabel, hcount, hup, hdown⟩ := entryOf_spec conv labelOf conns label
  obtain ⟨hnonneg, hnonneg'⟩ := (h.under labelOf label).sums_nonneg
  rw [SumsFit, ← bmod_eq_self_iff hnonneg, ← bmod_eq_self_iff hnonneg', ← hup, ← hdown]
  constructor
  · intro hexact
    exact ⟨by rw [hexact.bytesUp, hlabel], by rw [hexact.bytesDown, hlabel]⟩
  · rintro ⟨hup, hdown⟩
    exact ⟨by rw [hlabel, hcount], by rw [hup, hlabel], by rw [hdown, hlabel]⟩

theorem exactEntries_map_iff (h : Counted conv conns) {arranged : List String}
    (hranks : Ranks (wrappedRank conv labelOf conns) (labels labelOf conns) arranged) :
    ExactEntries conv labelOf conns ((arranged.take 20).map (entryOf conv labelOf conns)) ↔
      (∀ label ∈ arranged.take 20, SumsFit conv labelOf conns label) ∧
        ∀ label ∈ arranged.take 20, ∀ other ∈ arranged.drop 20,
          total conv (under labelOf conns other) ≤ total conv (under labelOf conns label) := by
  have hlabels := map_label_entryOf conv labelOf conns (arranged.take 20)
  have hnodup : arranged.Nodup := hranks.perm.nodup_iff.mpr (List.nodup_dedup _)
  have hsplit : ∀ label, label ∈ labels labelOf conns ↔
      label ∈ arranged.take 20 ∨ label ∈ arranged.drop 20 := by
    intro label
    rw [← hranks.perm.mem_iff, ← List.mem_append, List.take_append_drop]
  constructor
  · intro hexact
    constructor
    · intro label hlabel
      exact (exactEntry_entryOf_iff h).mp (hexact.exact _ (List.mem_map_of_mem hlabel))
    · intro label hlabel other hother
      have hnot : other ∉ arranged.take 20 :=
        fun hmem => List.disjoint_take_drop hnodup le_rfl hmem hother
      have hle := hexact.largest _ (List.mem_map_of_mem hlabel) other
        ((hsplit other).mpr (.inr hother)) (by rwa [hlabels])
      rwa [(entryOf_spec conv labelOf conns _).1] at hle
  · rintro ⟨hfit, hle⟩
    refine ⟨?_, ?_, ?_, ?_, ?_⟩
    · rw [hlabels]
      exact hnodup.sublist (List.take_sublist _ _)
    · intro entry hentry
      obtain ⟨label, hlabel, rfl⟩ := List.mem_map.mp hentry
      rw [(entryOf_spec conv labelOf conns _).1]
      exact (hsplit label).mpr (.inl hlabel)
    · rw [List.length_map, List.length_take, hranks.perm.length_eq]
    · intro entry hentry
      obtain ⟨label, hlabel, rfl⟩ := List.mem_map.mp hentry
      exact (exactEntry_entryOf_iff h).mpr (hfit label hlabel)
    · intro entry hentry other hother hnot
      obtain ⟨label, hlabel, rfl⟩ := List.mem_map.mp hentry
      rw [(entryOf_spec conv labelOf conns _).1]
      rw [hlabels] at hnot
      exact hle label hlabel other (((hsplit other).mp hother).resolve_left hnot)

/-! ## When every arrangement is exact -/

variable (labelOf) in
theorem total_nonneg (h : Counted conv conns) (label : String) :
    0 ≤ total conv (under labelOf conns label) := by
  have := (h.under labelOf label).sums_nonneg
  rw [total]
  omega

/-- 64-bit totals compare like the totals where all of them wrap around once, or none does. -/
theorem wrappedRank_le_iff (h : Counted conv conns)
    (horder : WrapAlike conv labelOf conns) {left right : String}
    (hleft : left ∈ labels labelOf conns) (hright : right ∈ labels labelOf conns) :
    wrappedRank conv labelOf conns left ≤ wrappedRank conv labelOf conns right ↔
      rank conv labelOf conns left ≤ rank conv labelOf conns right := by
  have hnonneg := total_nonneg labelOf h left
  have hnonneg' := total_nonneg labelOf h right
  rw [wrappedRank, wrappedRank, rank, rank, Prod.Lex.toLex_le_toLex, Prod.Lex.toLex_le_toLex,
    Int.bmod_def, Int.bmod_def]
  rcases horder with hsmall | hlarge
  · have := hsmall left hleft
    have := hsmall right hright
    omega
  · have := hlarge left hleft
    have := hlarge right hright
    omega

theorem ranks_iff (h : Counted conv conns)
    (horder : WrapAlike conv labelOf conns) {arranged : List String} :
    Ranks (wrappedRank conv labelOf conns) (labels labelOf conns) arranged ↔
      Ranks (rank conv labelOf conns) (labels labelOf conns) arranged := by
  constructor
  · intro hranks
    refine ⟨hranks.perm, hranks.sorted.imp_of_mem fun hleft hright hle => ?_⟩
    exact (wrappedRank_le_iff h horder (hranks.perm.mem_iff.mp hright)
      (hranks.perm.mem_iff.mp hleft)).mp hle
  · intro hranks
    refine ⟨hranks.perm, hranks.sorted.imp_of_mem fun hleft hright hle => ?_⟩
    exact (wrappedRank_le_iff h horder (hranks.perm.mem_iff.mp hright)
      (hranks.perm.mem_iff.mp hleft)).mpr hle

theorem le_of_rank_le {left right : String}
    (h : rank conv labelOf conns left ≤ rank conv labelOf conns right) :
    total conv (under labelOf conns left) ≤ total conv (under labelOf conns right) := by
  rw [rank, rank, Prod.Lex.toLex_le_toLex] at h
  omega

theorem le_of_wrappedRank_le {left right : String}
    (h : wrappedRank conv labelOf conns left ≤ wrappedRank conv labelOf conns right) :
    (total conv (under labelOf conns left)).bmod (2 ^ 64) ≤
      (total conv (under labelOf conns right)).bmod (2 ^ 64) := by
  rw [wrappedRank, wrappedRank, Prod.Lex.toLex_le_toLex] at h
  omega

/-- In an exact arrangement that leaves something out, a total that wraps around pulls all others
with it: what is left out ranks below it for the code, and no higher for its total. -/
theorem order_of_exact (h : Counted conv conns) {arranged : List String}
    (hranks : Ranks (wrappedRank conv labelOf conns) (labels labelOf conns) arranged)
    (hmore : 20 < (labels labelOf conns).length)
    (hfit : ∀ label ∈ arranged.take 20, SumsFit conv labelOf conns label)
    (hle : ∀ label ∈ arranged.take 20, ∀ other ∈ arranged.drop 20,
      total conv (under labelOf conns other) ≤ total conv (under labelOf conns label)) :
    WrapAlike conv labelOf conns := by
  have hsplit : ∀ label ∈ labels labelOf conns,
      label ∈ arranged.take 20 ∨ label ∈ arranged.drop 20 := by
    intro label hlabel
    rw [← hranks.perm.mem_iff, ← List.take_append_drop 20 arranged] at hlabel
    exact List.mem_append.mp hlabel
  have hkept : ∀ label ∈ arranged.take 20, total conv (under labelOf conns label) < 2 ^ 64 := by
    intro label hlabel
    obtain ⟨hup, hdown⟩ := hfit label hlabel
    rw [total]
    omega
  have hcode : ∀ label ∈ arranged.take 20, ∀ other ∈ arranged.drop 20,
      (total conv (under labelOf conns other)).bmod (2 ^ 64) ≤
        (total conv (under labelOf conns label)).bmod (2 ^ 64) :=
    fun label hlabel other hother => le_of_wrappedRank_le (hranks.le hlabel hother)
  obtain ⟨kept, hkeptmem⟩ : ∃ kept, kept ∈ arranged.take 20 := by
    refine List.exists_mem_of_length_pos ?_
    rw [List.length_take, hranks.perm.length_eq]
    omega
  obtain ⟨left, hleft⟩ : ∃ left, left ∈ arranged.drop 20 := by
    refine List.exists_mem_of_length_pos ?_
    rw [List.length_drop, hranks.perm.length_eq]
    omega
  by_cases hwraps : ∃ label ∈ labels labelOf conns, 2 ^ 63 ≤ total conv (under labelOf conns label)
  · right
    -- one that is left out wraps around
    obtain ⟨other, hother, hlarge⟩ : ∃ other ∈ arranged.drop 20,
        2 ^ 63 ≤ total conv (under labelOf conns other) := by
      obtain ⟨label, hlabel, hlarge⟩ := hwraps
      rcases hsplit label hlabel with hlabel | hlabel
      · refine ⟨left, hleft, ?_⟩
        have := hkept label hlabel
        have := hle label hlabel left hleft
        have hrank := hcode label hlabel left hleft
        have := total_nonneg labelOf h left
        rw [Int.bmod_def, Int.bmod_def] at hrank
        omega
      · exact ⟨label, hlabel, hlarge⟩
    -- and so do all that are kept
    have hkept' : ∀ label ∈ arranged.take 20, 2 ^ 63 ≤ total conv (under labelOf conns label) :=
      fun label hlabel => hlarge.trans (hle label hlabel other hother)
    intro label hlabel
    rcases hsplit label hlabel with hlabel | hlabel
    · exact ⟨hkept' label hlabel, hkept label hlabel⟩
    · have := hkept kept hkeptmem
      have := hkept' kept hkeptmem
      have := hle kept hkeptmem label hlabel
      have hrank := hcode kept hkeptmem label hlabel
      have := total_nonneg labelOf h label
      rw [Int.bmod_def, Int.bmod_def] at hrank
      omega
  · left
    intro label hlabel
    exact not_le.mp fun hlarge => hwraps ⟨label, hlabel, hlarge⟩

theorem exactEntries_iff (h : Counted conv conns) :
    (∀ slice, ExactEntries conv labelOf conns
      (topConnectionCounters slice (countsOf conv labelOf conns) 20)) ↔
      Fits conv labelOf conns := by
  constructor
  · intro hexact
    have hall : ∀ arranged,
        Ranks (wrappedRank conv labelOf conns) (labels labelOf conns) arranged →
        (∀ label ∈ arranged.take 20, SumsFit conv labelOf conns label) ∧
          ∀ label ∈ arranged.take 20, ∀ other ∈ arranged.drop 20,
            total conv (under labelOf conns other) ≤ total conv (under labelOf conns label) := by
      intro arranged hranks
      obtain ⟨slice, hslice⟩ := exists_slice_of_ranks hranks 20
      have hmap := hexact slice
      rw [hslice] at hmap
      exact (exactEntries_map_iff h hranks).mp hmap
    obtain ⟨arranged, hranks⟩ := exists_ranks (wrappedRank conv labelOf conns) (labels labelOf conns)
    obtain ⟨hfit, hle⟩ := hall arranged hranks
    by_cases hfew : (labels labelOf conns).length ≤ 20
    · refine ⟨fun label hlabel _ => hfit label ?_, .inl hfew⟩
      rw [List.take_of_length_le (by rwa [hranks.perm.length_eq])]
      exact hranks.perm.mem_iff.mpr hlabel
    · have horder := order_of_exact h hranks (not_le.mp hfew) hfit hle
      refine ⟨fun label hlabel habove => ?_, .inr horder⟩
      obtain ⟨arranged, hranks, hmem⟩ := exists_ranks_mem_take hlabel habove
      exact (hall arranged ((ranks_iff h horder).mpr hranks)).1 label hmem
  · intro hfits slice
    obtain ⟨arranged, hranks, harranged⟩ := exists_ranks_topConnectionCounters conv labelOf
      conns slice 20
    rw [harranged, exactEntries_map_iff h hranks]
    rcases hfits.order with hfew | horder
    · have hdrop : arranged.drop 20 = [] :=
        List.drop_eq_nil_of_le (by rwa [hranks.perm.length_eq])
      refine ⟨fun label hlabel => ?_, fun label _ other hother => by simp [hdrop] at hother⟩
      have hmem := hranks.perm.mem_iff.mp (List.mem_of_mem_take hlabel)
      refine hfits.sums label hmem (lt_of_lt_of_le ?_ hfew)
      exact List.length_filter_lt_length_iff_exists.mpr ⟨label, hmem, by simp⟩
    · have hranks' := (ranks_iff h horder).mp hranks
      constructor
      · intro label hlabel
        exact hfits.sums label (hranks.perm.mem_iff.mp (List.mem_of_mem_take hlabel))
          (hranks'.above_lt hlabel)
      · intro label hlabel other hother
        exact le_of_rank_le (hranks'.le hlabel hother)

end Entries

/-! ## Snapshots -/

section Snapshots

variable {conv : Conversions} {raw : Fields}

theorem foldl_account_counts (conns : List Fields) (a : Accounts) :
    (conns.foldl (account conv) a).sourceCounts =
        conns.foldl (fun counts conn => countUnder conv (srcIP conn) conn counts) a.sourceCounts ∧
      (conns.foldl (account conv) a).destCounts =
        conns.foldl (fun counts conn => countUnder conv (dstHost conn) conn counts) a.destCounts := by
  induction conns generalizing a with
  | nil => exact ⟨rfl, rfl⟩
  | cons conn rest ih => exact ih (account conv a conn)

/-- Any list can be sorted by a rank. -/
theorem nonempty_sortSlice {α : Type} {less : α → α → Bool} {β : Type} [LinearOrder β]
    (rank : α → β) (h : ∀ {left right}, less left right = false ↔ rank left ≤ rank right) :
    Nonempty (SortSlice less) := by
  choose sort hsort using exists_ranks rank
  exact ⟨sort, fun xs => (hsort xs).perm, fun xs => (hsort xs).sorted.imp h.mpr⟩

theorem nonempty_sortSlice_hasMoreBytes : Nonempty (SortSlice hasMoreBytes) :=
  nonempty_sortSlice counterRank hasMoreBytes_eq_false_iff

theorem nonempty_sortSlice_isBusier : Nonempty (SortSlice isBusier) := by
  refine nonempty_sortSlice (fun conn => (conn.bytesUp + conn.bytesDown).toInt) fun {_ _} => ?_
  rw [isBusier, decide_eq_false_iff_not, Int64.lt_iff_toInt_lt, not_lt]

/-- A snapshot is exact, however its lists are sorted, if and only if the document has totals or at
most one busy connection, and the sums fit into 64 bits. -/
theorem exactSnapshot_iff (h : NonNegative conv raw) (now : Int) (agent : Agent) :
    (∀ slices, ExactSnapshot conv raw (fillConnectionSnapshot conv slices raw now agent).1) ↔
      (HasTotals conv raw ∨ ((objects raw).filter (IsBusy conv ·)).length ≤ 1) ∧
        Fits conv srcIP (objects raw) ∧ Fits conv dstHost (objects raw) := by
  have hsources : (accounts conv raw).sourceCounts = countsOf conv srcIP (objects raw) := by
    rw [accounts_eq, (foldl_account_counts _ _).1]
    rfl
  have hdestinations : (accounts conv raw).destCounts = countsOf conv dstHost (objects raw) := by
    rw [accounts_eq, (foldl_account_counts _ _).2]
    rfl
  rw [← exactEntries_iff h.counted, ← exactEntries_iff h.counted, ← hsources, ← hdestinations]
  obtain ⟨live⟩ := nonempty_sortSlice_isBusier
  obtain ⟨other⟩ := nonempty_sortSlice_hasMoreBytes
  constructor
  · intro hexact
    refine ⟨(exactTotals_iff h).mp (hexact ⟨live, other, other⟩).totals, fun slice => ?_,
      fun slice => ?_⟩
    · exact (hexact ⟨live, slice, other⟩).sources
    · exact (hexact ⟨live, other, slice⟩).destinations
  · rintro ⟨htotals, hsources, hdestinations⟩ slices
    exact ⟨(exactTotals_iff h).mpr htotals, hsources slices.sources,
      hdestinations slices.destinations⟩

/-- Conversions that are right for whole numbers. -/
def wholeConversions : Conversions where
  truncate x := Int64.ofInt (x.toInt?.getD 0)
  perSecond delta elapsed := Int64.ofInt (delta.toInt * 1000000000 / elapsed)

/-- Two connections have sent a byte each, and the document has no totals. -/
def twoConnections : Fields :=
  let conn : Any := .map [("upload", .float (Float64.ofInt 1))]
  [("connections", .arr [conn, conn])]

theorem nonNegative_twoConnections : NonNegative wholeConversions twoConnections := by
  refine ⟨by decide, by decide, ?_, ?_⟩ <;> decide

theorem exactSnapshot_iff_twoConnections :
    (∀ slices, ExactSnapshot wholeConversions twoConnections
      (fillConnectionSnapshot wholeConversions slices twoConnections 0
        ⟨none, 0, 0, 0, 0, 0⟩).1) ↔
      (HasTotals wholeConversions twoConnections ∨
        ((objects twoConnections).filter (IsBusy wholeConversions ·)).length ≤ 1) ∧
        Fits wholeConversions srcIP (objects twoConnections) ∧
        Fits wholeConversions dstHost (objects twoConnections) :=
  exactSnapshot_iff nonNegative_twoConnections 0 _

/-- The snapshot of two connections with a byte each says one byte. -/
theorem not_exactSnapshot :
    ¬ ∀ conv raw, NonNegative conv raw → ∀ slices now agent,
      ExactSnapshot conv raw (fillConnectionSnapshot conv slices raw now agent).1 := by
  intro h
  obtain ⟨live⟩ := nonempty_sortSlice_isBusier
  obtain ⟨other⟩ := nonempty_sortSlice_hasMoreBytes
  have hexact := h wholeConversions twoConnections nonNegative_twoConnections
    ⟨live, other, other⟩ 0 ⟨none, 0, 0, 0, 0, 0⟩
  have hsum := (hexact.totals.summed (by decide)).1
  have hup : (accounts wholeConversions twoConnections).bytesUp.toInt = 1 := by decide
  have huploaded : uploaded wholeConversions (objects twoConnections) = 2 := by decide
  rw [huploaded] at hsum
  exact absurd (hup.symm.trans hsum) (by decide)

end Snapshots

end Grouproxy.Connections
