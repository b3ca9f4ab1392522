import Grouproxy.Verification.Backend.BlacklistMigration

/-! # Interrupted blacklist migrations

A row of a retired scope is narrowed to its first node in place, and its copies for the other nodes
are inserted after all rows. A run that stops in between loses them.
-/

namespace Grouproxy.Backend

open Text Ipaddress Cidr

/-! ## Rows waiting to be inserted -/

/-- No row is the first with two keys. -/
def OneRuleEach (inventory : Inventory) (rows : List RawRow) : Prop :=
  ∀ before row after, rows = before ++ row :: after →
    (distinctBy Prod.fst ((tuples inventory before).map Prod.fst)
      (rowTuples inventory row)).length ≤ 1

theorem length_newRules (inventory : Inventory) (now : Nat) (rows : List RawRow) (row : RawRow) :
    (newRules inventory now (migrateRows inventory now rows).seen row).length =
      (distinctBy Prod.fst ((tuples inventory rows).map Prod.fst)
        (rowTuples inventory row)).length := by
  obtain ⟨written, h⟩ := exists_migrated inventory now rows
  have hkey : ∀ rule : CanonicalRow, rule.tuple.1 = rule.key := fun _ => rfl
  have hseen : newRules inventory now (migrateRows inventory now rows).seen row =
      distinctBy CanonicalRow.key ((tuples inventory rows).map Prod.fst)
        (rowRules inventory now row) := by
    apply distinctBy_congr
    intro key
    rw [h.seen, map_key_expansion]
  rw [hseen, ← map_rowRules inventory now, ← map_distinctBy hkey, List.length_map]

theorem migrateRows_concat (inventory : Inventory) (now : Nat) (rows : List RawRow) (row : RawRow) :
    migrateRows inventory now (rows ++ [row]) =
      migrateRow inventory now (migrateRows inventory now rows) row := by
  rw [migrateRows, List.foldl_append, List.foldl_cons, List.foldl_nil, migrateRows]

theorem oneRuleEach_concat_iff (inventory : Inventory) (rows : List RawRow) (row : RawRow) :
    OneRuleEach inventory (rows ++ [row]) ↔ OneRuleEach inventory rows ∧
      (distinctBy Prod.fst ((tuples inventory rows).map Prod.fst)
        (rowTuples inventory row)).length ≤ 1 := by
  constructor
  · intro h
    refine ⟨?_, h rows row [] rfl⟩
    rintro before other after rfl
    exact h before other (after ++ [row]) (by simp)
  · rintro ⟨hrows, hrow⟩ before other after hsplit
    rcases List.eq_nil_or_concat after with rfl | ⟨after, last, rfl⟩
    · obtain ⟨rfl, hlast⟩ := List.append_inj' hsplit rfl
      cases hlast
      exact hrow
    · have hsplit' : rows ++ [row] = (before ++ other :: after) ++ [last] := by
        rw [hsplit, List.append_assoc, List.cons_append, List.concat_eq_append]
      obtain ⟨rfl, -⟩ := List.append_inj' hsplit' rfl
      exact hrows before other after rfl

theorem pendingInserts_eq_nil_iff (inventory : Inventory) (now : Nat) (rows : List RawRow) :
    (migrateRows inventory now rows).pendingInserts = [] ↔ OneRuleEach inventory rows := by
  induction rows using List.reverseRecOn with
  | nil =>
      apply iff_of_true rfl
      intro before row after hsplit
      exact absurd hsplit (by simp)
  | append_singleton rows row ih =>
      have hrow := migrateRow_spec inventory now (migrateRows inventory now rows) row
      rw [migrateRows_concat, hrow.pendingInserts, List.append_eq_nil_iff, ih,
        oneRuleEach_concat_iff, ← length_newRules inventory now]
      apply and_congr_right
      intro _
      rw [← List.length_eq_zero_iff, List.length_tail]
      omega

theorem OneRuleEach.take {inventory : Inventory} {rows : List RawRow}
    (h : OneRuleEach inventory rows) (count : Nat) : OneRuleEach inventory (rows.take count) := by
  intro before row after hsplit
  apply h before row (after ++ rows.drop count)
  calc rows = rows.take count ++ rows.drop count := (List.take_append_drop count rows).symm
    _ = before ++ row :: (after ++ rows.drop count) := by
      rw [hsplit, List.append_assoc, List.cons_append]

/-! ## Restarting -/

/-- What a run leaves if it stops after some of its writes. -/
inductive Interrupted (inventory : Inventory) (now : Nat) (rows : List RawRow) :
    List RawRow → Prop
  | inLoop (count : Nat) :
    Interrupted inventory now rows (interruptedAt inventory now rows count)
  | atEnd : Interrupted inventory now rows (migrateSourceBlacklistState inventory now rows)

/-- However a run is interrupted, the next one stores the rules it would have stored. -/
def Restartable (inventory : Inventory) (rows : List RawRow) : Prop :=
  ∀ now now' left, Interrupted inventory now rows left → ∀ t : BlacklistKey × Bool,
    some t ∈ (migrateSourceBlacklistState inventory now' left).map storedTuple? ↔
      some t ∈ (migrateSourceBlacklistState inventory now rows).map storedTuple?

theorem tuples_append (inventory : Inventory) (rows rows' : List RawRow) :
    tuples inventory (rows ++ rows') = tuples inventory rows ++ tuples inventory rows' := by
  rw [tuples, List.flatMap_append, tuples, tuples]

/-- The rows a run has kept stand for the rules written to them. -/
theorem Migrated.tuples_rows {inventory : Inventory} {now : Nat} {rows : List RawRow}
    {loop : MigrationLoop} {written : List CanonicalRow}
    (h : Migrated inventory now rows loop written) :
    tuples inventory loop.rows = written.map CanonicalRow.tuple := by
  apply tuples_of_reads inventory h.reads
  intro rule hrule
  exact isCanonical_of_mem_expansion (h.perm.mem_iff.mp (List.mem_append_left _ hrule))

theorem distinctBy_tuples_interruptedAt {inventory : Inventory} (now : Nat) {rows : List RawRow}
    (h : OneRuleEach inventory rows) (count : Nat) :
    (distinctBy Prod.fst [] (tuples inventory (interruptedAt inventory now rows count))).Perm
      (distinctBy Prod.fst [] (tuples inventory rows)) := by
  obtain ⟨written, hwritten⟩ := exists_migrated inventory now (rows.take count)
  have hperm := hwritten.perm
  rw [(pendingInserts_eq_nil_iff inventory now _).mpr (h.take count), List.append_nil] at hperm
  have hfront := hperm.map CanonicalRow.tuple
  rw [map_distinctBy_expansion] at hfront
  have hrows : tuples inventory rows =
      tuples inventory (rows.take count) ++ tuples inventory (rows.drop count) := by
    rw [← tuples_append, List.take_append_drop]
  rw [interruptedAt, tuples_append, hwritten.tuples_rows, hrows]
  exact distinctBy_append_perm hfront _

/-- A run that stops before the inserts has stored only the rules written in place. -/
theorem pendingInserts_eq_nil_of_restartable {inventory : Inventory} {rows : List RawRow}
    (h : Restartable inventory rows) (now : Nat) :
    (migrateRows inventory now rows).pendingInserts = [] := by
  obtain ⟨written, hwritten⟩ := exists_migrated inventory now rows
  have hkeys : ((written ++ (migrateRows inventory now rows).pendingInserts).map
      CanonicalRow.key).Nodup :=
    (hwritten.perm.map CanonicalRow.key).nodup_iff.mpr (map_distinctBy_nodup [] _).1
  rw [List.map_append] at hkeys
  rw [List.eq_nil_iff_forall_not_mem]
  intro rule hrule
  have hstored : rule.tuple ∈ distinctBy Prod.fst [] (tuples inventory rows) := by
    rw [← map_distinctBy_expansion inventory now]
    exact List.mem_map_of_mem (hwritten.perm.mem_iff.mp (List.mem_append_right _ hrule))
  have hleft : interruptedAt inventory now rows rows.length =
      (migrateRows inventory now rows).rows := by
    rw [interruptedAt, List.take_length, List.drop_length, List.append_nil]
  have hkept := (h now now _ (.inLoop rows.length) rule.tuple).mpr
    ((mem_stored_iff inventory now rows rule.tuple).mpr hstored)
  rw [mem_stored_iff, hleft, hwritten.tuples_rows] at hkept
  obtain ⟨other, hother, hsame⟩ := List.mem_map.mp (mem_of_mem_distinctBy hkept)
  apply (List.disjoint_of_nodup_append hkeys) (List.mem_map_of_mem hother)
  have hkey : other.key = rule.key := congrArg Prod.fst hsame
  rw [hkey]
  exact List.mem_map_of_mem hrule

/-- The migration can be restarted exactly when no row is the first with two keys, so that nothing
has to be inserted. -/
theorem restartable_iff (inventory : Inventory) (rows : List RawRow) :
    Restartable inventory rows ↔ OneRuleEach inventory rows := by
  constructor
  · intro h
    exact (pendingInserts_eq_nil_iff inventory 0 rows).mp (pendingInserts_eq_nil_of_restartable h 0)
  · intro h now now' left hleft t
    rw [mem_stored_iff, mem_stored_iff]
    cases hleft with
    | inLoop count => exact (distinctBy_tuples_interruptedAt now h count).mem_iff
    | atEnd =>
        obtain ⟨stored, hreads, hperm⟩ := exists_stored inventory now rows
        have hcanonical : ∀ rule ∈ stored, IsCanonical rule :=
          fun rule hrule => isCanonical_of_mem_expansion (hperm.mem_iff.mp hrule)
        have htuples := hperm.map CanonicalRow.tuple
        rw [map_distinctBy_expansion] at htuples
        have hself := distinctBy_append_perm htuples []
        rw [List.append_nil, List.append_nil] at hself
        rw [tuples_of_reads inventory hreads hcanonical]
        exact hself.mem_iff

/-- A global row and two nodes: a run that stops before the inserts leaves the second node without
the rule. -/
theorem interrupted_migration_loses_rule :
    ¬Restartable ⟨[], [(.str "node-a", .null), (.str "node-b", .null)]⟩ [globalRow true] := by
  intro h
  exact absurd (pendingInserts_eq_nil_of_restartable h 0) (by decide)

end Grouproxy.Backend
