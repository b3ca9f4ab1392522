import Grouproxy.Library.Checks
import Grouproxy.Verification.Backend.BlacklistRows

/-! # Effect of the blacklist migration

The rules of a row are its canonical rows at its nodes. The migration keeps the first rule of every
node, direction, kind and pattern; the first new rule of a row is written in its place, and the
others are inserted at the end.
-/

namespace Grouproxy.Backend

open Text Ipaddress Cidr

/-! ## Rules of a row -/

/-- The nodes of a row: its own, or those of its retired scope. -/
def rowNodeIds (inventory : Inventory) (row : RawRow) : List String :=
  if (row.get "node_id").isTruthy then (nodeIdText? (row.get "node_id")).toList
  else legacyTargetNodeIds inventory row

/-- The rule of a well-formed row at one of its nodes. -/
def rowRule? (now : Nat) (row : RawRow) (nodeId : String) : Option CanonicalRow :=
  match rowRuleKey? row, enabledFlag? row with
  | some rule, some enabled =>
    some ⟨⟨nodeId, rule.direction, rule.kind, rule.pattern⟩, commentText row, enabled,
      createdByText row, createdAtTime now row⟩
  | _, _ => none

def rowRules (inventory : Inventory) (now : Nat) (row : RawRow) : List CanonicalRow :=
  (rowNodeIds inventory row).filterMap (rowRule? now row)

/-- The rules of all rows, in their order. -/
def expansion (inventory : Inventory) (now : Nat) (rows : List RawRow) : List CanonicalRow :=
  rows.flatMap (rowRules inventory now)

theorem canonicalBlacklistFields_eq (now : Nat) (row : RawRow) :
    canonicalBlacklistFields now row =
      (nodeIdText? (row.get "node_id")).bind (rowRule? now row) := by
  rw [canonicalBlacklistFields]
  cases hrule : rowRuleKey? row with
  | none =>
      cases nodeIdText? (row.get "node_id") with
      | none => rfl
      | some nodeId => simp [rowRule?, hrule]
  | some rule =>
      cases nodeIdText? (row.get "node_id") with
      | none => rfl
      | some nodeId =>
          cases henabled : enabledFlag? row with
          | none => simp [rowRule?, hrule, henabled]
          | some enabled => simp [rowRule?, hrule, henabled]

theorem nodeIdText?_of_mem_nodes {nodes : List (RawValue × RawValue)} {nodeId : String}
    (h : nodeId ∈ nodes.filterMap fun node => nodeIdText? node.1) :
    nodeIdText? (.str nodeId) = some nodeId := by
  obtain ⟨node, -, hnode⟩ := List.mem_filterMap.mp h
  exact nodeIdText?_idempotent hnode

theorem nodeIdText?_of_mem_legacyTargetNodeIds {inventory : Inventory} {row : RawRow}
    {nodeId : String} (h : nodeId ∈ legacyTargetNodeIds inventory row) :
    nodeIdText? (.str nodeId) = some nodeId := by
  rw [legacyTargetNodeIds] at h
  split at h
  · cases h
  split at h
  · split at h
    · exact nodeIdText?_of_mem_nodes h
    · cases h
  split at h
  · split at h
    · split at h
      · exact nodeIdText?_of_mem_nodes h
      · cases h
    · cases h
  · cases h

/-! ## The prototype of a row -/

theorem get?_prototypeFor (row : RawRow) (nodeId : String) {key : String}
    (hkey : key ∈ ["kind", "pattern", "enabled", "comment", "created_by", "created_at"]) :
    (prototypeFor row nodeId).get? key = row.get? key := by
  have hdirection : key ≠ "direction" := fun h => absurd (h ▸ hkey) (by decide)
  have hnode : key ≠ "node_id" := fun h => absurd (h ▸ hkey) (by decide)
  have hsite : key ≠ "site_id" := fun h => absurd (h ▸ hkey) (by decide)
  have hscope : key ≠ "scope" := fun h => absurd (h ▸ hkey) (by decide)
  rw [prototypeFor, RawRow.get?_set_ne _ _ hdirection, RawRow.get?_set_ne _ _ hnode,
    RawRow.get?_unset_ne _ hsite, RawRow.get?_unset_ne _ hscope]

theorem get_prototypeFor_nodeId (row : RawRow) (nodeId : String) :
    (prototypeFor row nodeId).get "node_id" = .str nodeId := by
  rw [RawRow.get, prototypeFor, RawRow.get?_set_ne _ _ (by decide), RawRow.get?_set_self]
  rfl

theorem directionOrSource_prototypeFor (row : RawRow) (nodeId : String) :
    directionOrSource ((prototypeFor row nodeId).get "direction") =
      directionOrSource (row.get "direction") := by
  have hget : RawRow.get (((row.unset "scope").unset "site_id").set "node_id" (.str nodeId))
      "direction" = row.get "direction" := by
    rw [RawRow.get, RawRow.get?_set_ne _ _ (by decide), RawRow.get?_unset_ne _ (by decide),
      RawRow.get?_unset_ne _ (by decide), RawRow.get]
  rw [prototypeFor]
  rw [hget, RawRow.get, RawRow.get?_set_self, Option.getD_some]
  split
  · rfl
  · rename_i htruthy
    have hsource : directionOrSource (row.get "direction") = some "source" := by
      unfold directionOrSource
      rw [if_neg htruthy]
    rw [hsource]
    rfl

theorem rowRule?_prototypeFor (now : Nat) (row : RawRow) (nodeId : String) :
    rowRule? now (prototypeFor row nodeId) = rowRule? now row := by
  have hget : ∀ key ∈ ["kind", "pattern", "enabled", "comment", "created_by", "created_at"],
      (prototypeFor row nodeId).get key = row.get key := by
    intro key hkey
    rw [RawRow.get, get?_prototypeFor row nodeId hkey, RawRow.get]
  have hrule : rowRuleKey? (prototypeFor row nodeId) = rowRuleKey? row := by
    rw [rowRuleKey?, directionOrSource_prototypeFor, hget "kind" (by decide),
      hget "pattern" (by decide), rowRuleKey?]
  have henabled : enabledFlag? (prototypeFor row nodeId) = enabledFlag? row := by
    rw [enabledFlag?, get?_prototypeFor row nodeId (by decide), enabledFlag?]
  have hcomment : commentText (prototypeFor row nodeId) = commentText row := by
    rw [commentText, hget "comment" (by decide), commentText]
  have hcreatedBy : createdByText (prototypeFor row nodeId) = createdByText row := by
    rw [createdByText, hget "created_by" (by decide), createdByText]
  have hcreatedAt : createdAtTime now (prototypeFor row nodeId) = createdAtTime now row := by
    rw [createdAtTime, hget "created_at" (by decide), createdAtTime]
  funext other
  rw [rowRule?, hrule, henabled, hcomment, hcreatedBy, hcreatedAt, rowRule?]

theorem canonicalBlacklistFields_prototypeFor (now : Nat) (row : RawRow) {nodeId : String}
    (h : nodeIdText? (.str nodeId) = some nodeId) :
    canonicalBlacklistFields now (prototypeFor row nodeId) = rowRule? now row nodeId := by
  rw [canonicalBlacklistFields_eq, get_prototypeFor_nodeId, h, rowRule?_prototypeFor,
    Option.bind_some]

/-! ## One row -/

theorem mem_seen_narrowRow (now : Nat) (row : RawRow) (seen : List BlacklistKey)
    {targets : List String} (htargets : ∀ nodeId ∈ targets, nodeIdText? (.str nodeId) = some nodeId)
    (key : BlacklistKey) :
    key ∈ (narrowRow now row seen targets).2 ↔
      key ∈ seen ∨ key ∈ (targets.filterMap (rowRule? now row)).map CanonicalRow.key := by
  induction targets generalizing seen with
  | nil => simp [narrowRow]
  | cons nodeId targets ih =>
      have hrest : ∀ other ∈ targets, nodeIdText? (.str other) = some other :=
        fun other hother => htargets other (List.mem_cons_of_mem nodeId hother)
      rw [narrowRow, canonicalBlacklistFields_prototypeFor now row
        (htargets nodeId List.mem_cons_self)]
      cases hrule : rowRule? now row nodeId with
      | none =>
          rw [List.filterMap_cons_none hrule]
          exact ih seen hrest
      | some rule =>
          rw [List.filterMap_cons_some hrule, List.map_cons, List.mem_cons]
          dsimp only
          by_cases hseen : rule.key ∈ seen
          · rw [if_pos hseen, ih seen hrest]
            constructor
            · rintro (hkey | hkey)
              · exact .inl hkey
              · exact .inr (.inr hkey)
            · rintro (hkey | rfl | hkey)
              · exact .inl hkey
              · exact .inl hseen
              · exact .inr hkey
          · rw [if_neg hseen, ih (rule.key :: seen) hrest, List.mem_cons]
            constructor
            · rintro ((rfl | hkey) | hkey)
              · exact .inr (.inl rfl)
              · exact .inl hkey
              · exact .inr (.inr hkey)
            · rintro (hkey | rfl | hkey)
              · exact .inl (.inr hkey)
              · exact .inl (.inl rfl)
              · exact .inr hkey

theorem narrowRow_fst (now : Nat) (row : RawRow) (seen : List BlacklistKey)
    {targets : List String}
    (htargets : ∀ nodeId ∈ targets, nodeIdText? (.str nodeId) = some nodeId) :
    (narrowRow now row seen targets).1 =
      distinctBy CanonicalRow.key seen (targets.filterMap (rowRule? now row)) := by
  induction targets generalizing seen with
  | nil => rfl
  | cons nodeId targets ih =>
      have hrest : ∀ other ∈ targets, nodeIdText? (.str other) = some other :=
        fun other hother => htargets other (List.mem_cons_of_mem nodeId hother)
      rw [narrowRow, canonicalBlacklistFields_prototypeFor now row
        (htargets nodeId List.mem_cons_self)]
      cases hrule : rowRule? now row nodeId with
      | none =>
          rw [List.filterMap_cons_none hrule]
          exact ih seen hrest
      | some rule =>
          rw [List.filterMap_cons_some hrule, distinctBy]
          dsimp only
          by_cases hseen : rule.key ∈ seen
          · rw [if_pos hseen, if_pos hseen]
            exact ih seen hrest
          · rw [if_neg hseen, if_neg hseen, ih (rule.key :: seen) hrest]

/-- The rules of a row that are new to the loop. -/
def newRules (inventory : Inventory) (now : Nat) (seen : List BlacklistKey) (row : RawRow) :
    List CanonicalRow :=
  distinctBy CanonicalRow.key seen (rowRules inventory now row)

/-- The first new rule of a row is written in its place, and the others wait. -/
structure MigratedRow (inventory : Inventory) (now : Nat) (loop : MigrationLoop) (row : RawRow)
    (loop' : MigrationLoop) : Prop where
  rows : loop'.rows =
    loop.rows ++ ((newRules inventory now loop.seen row).head?.map row.rewrite).toList
  pendingInserts : loop'.pendingInserts =
    loop.pendingInserts ++ (newRules inventory now loop.seen row).tail
  seen : ∀ key, key ∈ loop'.seen ↔
    key ∈ loop.seen ∨ key ∈ (rowRules inventory now row).map CanonicalRow.key

theorem migrateRow_spec (inventory : Inventory) (now : Nat) (loop : MigrationLoop) (row : RawRow) :
    MigratedRow inventory now loop row (migrateRow inventory now loop row) := by
  rw [migrateRow]
  by_cases htruthy : (row.get "node_id").isTruthy
  · rw [if_pos htruthy]
    have hrules : rowRules inventory now row = (canonicalBlacklistFields now row).toList := by
      rw [rowRules, rowNodeIds, if_pos htruthy, canonicalBlacklistFields_eq]
      cases nodeIdText? (row.get "node_id") with
      | none => rfl
      | some nodeId => simp [List.filterMap_cons]; cases rowRule? now row nodeId <;> rfl
    cases hfields : canonicalBlacklistFields now row with
    | none =>
        rw [hfields] at hrules
        constructor
        · simp [newRules, hrules, distinctBy, MigrationLoop.remove]
        · simp [newRules, hrules, distinctBy, MigrationLoop.remove]
        · simp [hrules, MigrationLoop.remove]
    | some rule =>
        rw [hfields] at hrules
        dsimp only
        by_cases hseen : rule.key ∈ loop.seen
        · rw [if_pos hseen]
          constructor
          · simp [newRules, hrules, distinctBy, MigrationLoop.remove, hseen]
          · simp [newRules, hrules, distinctBy, MigrationLoop.remove, hseen]
          · simp [hrules, MigrationLoop.remove, hseen]
        · rw [if_neg hseen]
          constructor
          · simp [newRules, hrules, distinctBy, hseen]
          · simp [newRules, hrules, distinctBy, hseen]
          · simp [hrules, or_comm]
  · rw [if_neg htruthy]
    have htargets : ∀ nodeId ∈ legacyTargetNodeIds inventory row,
        nodeIdText? (.str nodeId) = some nodeId :=
      fun nodeId hnode => nodeIdText?_of_mem_legacyTargetNodeIds hnode
    have hrules : rowRules inventory now row =
        (legacyTargetNodeIds inventory row).filterMap (rowRule? now row) := by
      rw [rowRules, rowNodeIds, if_neg htruthy]
    have hnew := narrowRow_fst now row loop.seen htargets
    have hseen := mem_seen_narrowRow now row loop.seen htargets
    rw [← hrules] at hnew hseen
    cases hnarrow : narrowRow now row loop.seen (legacyTargetNodeIds inventory row) with
    | mk fresh seen =>
        rw [hnarrow] at hnew hseen
        dsimp only at hnew hseen
        cases fresh with
        | nil =>
            constructor
            · simp [newRules, ← hnew, MigrationLoop.remove]
            · simp [newRules, ← hnew, MigrationLoop.remove]
            · exact hseen
        | cons first rest =>
            constructor
            · simp [newRules, ← hnew]
            · simp [newRules, ← hnew]
            · exact hseen

/-! ## All rows -/

/-- What the loop has done after some rows: its rows read as rules, and with the waiting ones these
are the first rules of their keys. -/
structure Migrated (inventory : Inventory) (now : Nat) (rows : List RawRow) (loop : MigrationLoop)
    (written : List CanonicalRow) : Prop where
  reads : List.Forall₂ Reads loop.rows written
  perm : (written ++ loop.pendingInserts).Perm
    (distinctBy CanonicalRow.key [] (expansion inventory now rows))
  seen : ∀ key, key ∈ loop.seen ↔ key ∈ (expansion inventory now rows).map CanonicalRow.key

theorem Migrated.step {inventory : Inventory} {now : Nat} {rows : List RawRow}
    {loop loop' : MigrationLoop} {written : List CanonicalRow} {row : RawRow}
    (h : Migrated inventory now rows loop written)
    (hrow : MigratedRow inventory now loop row loop') :
    ∃ written', Migrated inventory now (rows ++ [row]) loop' written' := by
  have hexpansion : expansion inventory now (rows ++ [row]) =
      expansion inventory now rows ++ rowRules inventory now row := by
    rw [expansion, List.flatMap_append, List.flatMap_singleton, expansion]
  have hnew : newRules inventory now loop.seen row = distinctBy CanonicalRow.key
      ((expansion inventory now rows).map CanonicalRow.key ++ []) (rowRules inventory now row) := by
    apply distinctBy_congr
    intro key
    rw [List.append_nil]
    exact h.seen key
  refine ⟨written ++ (newRules inventory now loop.seen row).head?.toList, ?_, ?_, ?_⟩
  · rw [hrow.rows]
    apply List.rel_append h.reads
    cases (newRules inventory now loop.seen row).head? with
    | none => exact .nil
    | some rule => exact .cons (reads_rewrite row rule) .nil
  · rw [hexpansion, distinctBy_append, ← hnew, hrow.pendingInserts]
    have hsplit : (newRules inventory now loop.seen row).head?.toList ++
        (newRules inventory now loop.seen row).tail = newRules inventory now loop.seen row := by
      cases newRules inventory now loop.seen row with
      | nil => rfl
      | cons rule rules => rfl
    generalize newRules inventory now loop.seen row = fresh at hsplit ⊢
    calc (written ++ fresh.head?.toList ++ (loop.pendingInserts ++ fresh.tail)).Perm
          (written ++ loop.pendingInserts ++ (fresh.head?.toList ++ fresh.tail)) := by
          simp only [List.append_assoc]
          apply List.Perm.append_left
          rw [← List.append_assoc, ← List.append_assoc]
          exact List.perm_append_comm.append_right _
      _ = written ++ loop.pendingInserts ++ fresh := by rw [hsplit]
      List.Perm _ _ := h.perm.append_right _
  · intro key
    rw [hrow.seen, h.seen, hexpansion, List.map_append, List.mem_append]

theorem exists_migrated (inventory : Inventory) (now : Nat) (rows : List RawRow) :
    ∃ written, Migrated inventory now rows (migrateRows inventory now rows) written := by
  induction rows using List.reverseRecOn with
  | nil =>
      refine ⟨[], .nil, ?_, ?_⟩
      · exact .nil
      · intro key
        exact Iff.rfl
  | append_singleton rows row ih =>
      obtain ⟨written, h⟩ := ih
      rw [migrateRows, List.foldl_append, List.foldl_cons, List.foldl_nil]
      exact h.step (migrateRow_spec inventory now (migrateRows inventory now rows) row)

theorem isCanonical_of_mem_rowRules {inventory : Inventory} {now : Nat} {row : RawRow}
    {rule : CanonicalRow} (h : rule ∈ rowRules inventory now row) : IsCanonical rule := by
  obtain ⟨nodeId, hnode, hrule⟩ := List.mem_filterMap.mp h
  rw [rowNodeIds] at hnode
  split at hnode
  · apply isCanonical_of_canonicalBlacklistFields
    rw [canonicalBlacklistFields_eq, Option.mem_toList.mp hnode, Option.bind_some]
    exact hrule
  · rw [← canonicalBlacklistFields_prototypeFor now row
      (nodeIdText?_of_mem_legacyTargetNodeIds hnode)] at hrule
    exact isCanonical_of_canonicalBlacklistFields hrule

/-! ## Rules in force -/

/-- The rules a row stands for, and whether they are enabled: none if the row is malformed. -/
def rowTuples (inventory : Inventory) (row : RawRow) : List (BlacklistKey × Bool) :=
  match rowRuleKey? row, enabledFlag? row with
  | some rule, some enabled => (rowNodeIds inventory row).map fun nodeId =>
    (⟨nodeId, rule.direction, rule.kind, rule.pattern⟩, enabled)
  | _, _ => []

def tuples (inventory : Inventory) (rows : List RawRow) : List (BlacklistKey × Bool) :=
  rows.flatMap (rowTuples inventory)

/-- The rule of a row of a single node. -/
def storedTuple? (row : RawRow) : Option (BlacklistKey × Bool) :=
  match row.get "node_id", row.get "direction", row.get "kind", row.get "pattern",
    row.get "enabled" with
  | .str nodeId, .str direction, .str kind, .str pattern, .bool enabled =>
    some (⟨nodeId, direction, kind, pattern⟩, enabled)
  | _, _, _, _, _ => none

def CanonicalRow.tuple (canonical : CanonicalRow) : BlacklistKey × Bool :=
  (canonical.key, canonical.enabled)

theorem storedTuple?_of_reads {row : RawRow} {canonical : CanonicalRow} (h : Reads row canonical) :
    storedTuple? row = some canonical.tuple := by
  obtain ⟨hnode, hdirection, hkind, hpattern, -, henabled, -, -⟩ := h.get?
  simp only [storedTuple?, RawRow.get, hnode, hdirection, hkind, hpattern, henabled,
    Option.getD_some]
  rfl

theorem map_rowRules (inventory : Inventory) (now : Nat) (row : RawRow) :
    (rowRules inventory now row).map CanonicalRow.tuple = rowTuples inventory row := by
  rw [rowRules, rowTuples]
  generalize rowNodeIds inventory row = nodeIds
  cases hrule : rowRuleKey? row with
  | none =>
      have hnone : rowRule? now row = fun _ => none := by
        funext nodeId
        rw [rowRule?, hrule]
      rw [hnone, List.filterMap_none]
      rfl
  | some rule =>
      cases henabled : enabledFlag? row with
      | none =>
          have hnone : rowRule? now row = fun _ => none := by
            funext nodeId
            rw [rowRule?, hrule, henabled]
          rw [hnone, List.filterMap_none]
          rfl
      | some enabled =>
          induction nodeIds with
          | nil => rfl
          | cons nodeId nodeIds ih =>
              have hsome : rowRule? now row nodeId = some ⟨⟨nodeId, rule.direction, rule.kind,
                  rule.pattern⟩, commentText row, enabled, createdByText row,
                  createdAtTime now row⟩ := by
                rw [rowRule?, hrule, henabled]
              rw [List.filterMap_cons_some hsome, List.map_cons, ih]
              rfl

theorem map_expansion (inventory : Inventory) (now : Nat) (rows : List RawRow) :
    (expansion inventory now rows).map CanonicalRow.tuple = tuples inventory rows := by
  induction rows with
  | nil => rfl
  | cons row rows ih =>
      rw [expansion, List.flatMap_cons, List.map_append, map_rowRules, tuples, List.flatMap_cons]
      exact congrArg _ ih

/-- The keys do not depend on the time of the run. -/
theorem map_key_expansion (inventory : Inventory) (now : Nat) (rows : List RawRow) :
    (expansion inventory now rows).map CanonicalRow.key = (tuples inventory rows).map Prod.fst := by
  rw [← map_expansion inventory now, List.map_map]
  rfl

theorem map_storedTuple?_of_reads {rows : List RawRow} {stored : List CanonicalRow}
    (h : List.Forall₂ Reads rows stored) :
    rows.map storedTuple? = (stored.map CanonicalRow.tuple).map some := by
  induction h with
  | nil => rfl
  | cons hrow _ ih => rw [List.map_cons, List.map_cons, List.map_cons, storedTuple?_of_reads hrow, ih]

/-- After the migration the first rule of every key is stored, once. -/
theorem exists_stored (inventory : Inventory) (now : Nat) (rows : List RawRow) :
    ∃ stored, List.Forall₂ Reads (migrateSourceBlacklistState inventory now rows) stored ∧
      stored.Perm (distinctBy CanonicalRow.key [] (expansion inventory now rows)) := by
  obtain ⟨written, h⟩ := exists_migrated inventory now rows
  refine ⟨written ++ (migrateRows inventory now rows).pendingInserts, ?_, h.perm⟩
  apply List.rel_append h.reads
  rw [List.forall₂_map_left_iff, List.forall₂_same]
  exact fun rule _ => reads_fields rule

theorem map_distinctBy_expansion (inventory : Inventory) (now : Nat) (rows : List RawRow) :
    (distinctBy CanonicalRow.key [] (expansion inventory now rows)).map CanonicalRow.tuple =
      distinctBy Prod.fst [] (tuples inventory rows) := by
  have hkey : ∀ rule : CanonicalRow, rule.tuple.1 = rule.key := fun _ => rfl
  rw [← map_expansion inventory now]
  exact map_distinctBy hkey [] _

/-! ## Rows of single nodes -/

theorem nodeId_truthy {canonical : CanonicalRow} (h : IsCanonical canonical) :
    (RawValue.str canonical.key.nodeId).isTruthy = true := by
  apply decide_eq_true
  intro hempty
  have hnode := h.nodeId
  rw [hempty] at hnode
  exact absurd hnode (by decide)

theorem rowTuples_of_reads (inventory : Inventory) {row : RawRow} {canonical : CanonicalRow}
    (h : Reads row canonical) (hcanonical : IsCanonical canonical) :
    rowTuples inventory row = [canonical.tuple] := by
  obtain ⟨hnode, -, -, -, -, henabled, -, -⟩ := h.get?
  have hget : row.get "node_id" = .str canonical.key.nodeId := by
    rw [RawRow.get, hnode, Option.getD_some]
  have hflag : enabledFlag? row = some canonical.enabled := by
    rw [enabledFlag?, henabled]
  rw [rowTuples, rowRuleKey?_of_reads h hcanonical, hflag, rowNodeIds, hget,
    if_pos (nodeId_truthy hcanonical), hcanonical.nodeId]
  rfl

theorem tuples_of_reads (inventory : Inventory) {rows : List RawRow} {stored : List CanonicalRow}
    (h : List.Forall₂ Reads rows stored) (hcanonical : ∀ rule ∈ stored, IsCanonical rule) :
    tuples inventory rows = stored.map CanonicalRow.tuple := by
  induction h with
  | nil => rfl
  | @cons row rule rows stored hrow _ ih =>
      rw [List.forall_mem_cons] at hcanonical
      rw [tuples, List.flatMap_cons, rowTuples_of_reads inventory hrow hcanonical.1, List.map_cons]
      exact congrArg _ (ih hcanonical.2)

theorem migrateRow_of_reads (inventory : Inventory) (now : Nat) {loop : MigrationLoop}
    {row : RawRow} {canonical : CanonicalRow} (h : Reads row canonical)
    (hcanonical : IsCanonical canonical) (hnew : canonical.key ∉ loop.seen) :
    (migrateRow inventory now loop row).rows = loop.rows ++ [row.rewrite canonical.again] ∧
      (migrateRow inventory now loop row).pendingInserts = loop.pendingInserts ∧
      (migrateRow inventory now loop row).seen = canonical.key :: loop.seen := by
  have hget : row.get "node_id" = .str canonical.key.nodeId := by
    rw [RawRow.get, h.get?.1, Option.getD_some]
  rw [migrateRow, hget, if_pos (nodeId_truthy hcanonical),
    canonicalBlacklistFields_of_reads now h hcanonical]
  simp only [key_again, if_neg hnew, and_self]

theorem foldl_migrateRow_of_reads (inventory : Inventory) (now : Nat) (loop : MigrationLoop)
    {rows : List RawRow} {stored : List CanonicalRow} (h : List.Forall₂ Reads rows stored)
    (hcanonical : ∀ rule ∈ stored, IsCanonical rule) (hnodup : (stored.map CanonicalRow.key).Nodup)
    (hnew : ∀ rule ∈ stored, rule.key ∉ loop.seen) :
    (rows.foldl (migrateRow inventory now) loop).rows =
        loop.rows ++ List.zipWith (fun row rule => row.rewrite rule.again) rows stored ∧
      (rows.foldl (migrateRow inventory now) loop).pendingInserts = loop.pendingInserts := by
  induction h generalizing loop with
  | nil => simp
  | @cons row rule rows stored hrow _ ih =>
      rw [List.forall_mem_cons] at hcanonical hnew
      rw [List.map_cons, List.nodup_cons] at hnodup
      obtain ⟨hrows, hpending, hseen⟩ :=
        migrateRow_of_reads inventory now hrow hcanonical.1 hnew.1
      rw [List.foldl_cons, List.zipWith_cons_cons]
      have hrest : ∀ other ∈ stored, other.key ∉ (migrateRow inventory now loop row).seen := by
        intro other hother
        rw [hseen, List.mem_cons, not_or]
        refine ⟨?_, hnew.2 other hother⟩
        intro hsame
        exact hnodup.1 (hsame ▸ List.mem_map_of_mem hother)
      obtain ⟨hrows', hpending'⟩ := ih _ hcanonical.2 hnodup.2 hrest
      rw [hrows', hpending', hrows, hpending, List.append_assoc]
      exact ⟨rfl, rfl⟩

/-- A run over rows of single nodes leaves them alone exactly if their free texts are stripped. -/
theorem migrate_eq_self_iff (inventory : Inventory) (now : Nat) {rows : List RawRow}
    {stored : List CanonicalRow} (h : List.Forall₂ Reads rows stored)
    (hcanonical : ∀ rule ∈ stored, IsCanonical rule)
    (hnodup : (stored.map CanonicalRow.key).Nodup) :
    migrateSourceBlacklistState inventory now rows = rows ↔ ∀ rule ∈ stored, rule.again = rule := by
  obtain ⟨hrows, hpending⟩ := foldl_migrateRow_of_reads inventory now .start h hcanonical hnodup
    fun rule _ => List.not_mem_nil
  have hresult : migrateSourceBlacklistState inventory now rows =
      List.zipWith (fun row rule => row.rewrite rule.again) rows stored := by
    rw [migrateSourceBlacklistState, migrateRows, hrows, hpending]
    simp [MigrationLoop.start]
  rw [hresult]
  clear hrows hpending hresult hnodup
  induction h with
  | nil => simp
  | @cons row rule rows stored hrow _ ih =>
      rw [List.forall_mem_cons] at hcanonical
      rw [List.zipWith_cons_cons, List.cons.injEq, List.forall_mem_cons]
      apply and_congr _ (ih hcanonical.2)
      constructor
      · intro hsame
        have hagain : Reads row rule.again := by
          rw [← hsame]
          exact reads_rewrite row rule.again
        exact hagain.unique hrow
      · intro hsame
        rw [hsame]
        exact hrow.rewrite_eq_self

/-! ## The policy is preserved -/

/-- The enabled rules stay, no key is stored twice, and a second run leaves all rows alone. -/
structure PreservesPolicy (inventory : Inventory) (now : Nat) (rows : List RawRow) : Prop where
  enabled : ∀ key, some (key, true) ∈
      (migrateSourceBlacklistState inventory now rows).map storedTuple? ↔
    (key, true) ∈ tuples inventory rows
  keys : ∃ stored : List (BlacklistKey × Bool),
    (migrateSourceBlacklistState inventory now rows).map storedTuple? = stored.map some ∧
      (stored.map Prod.fst).Nodup
  again : ∀ now', migrateSourceBlacklistState inventory now'
      (migrateSourceBlacklistState inventory now rows) =
    migrateSourceBlacklistState inventory now rows

/-- The first row with a key decides, so it has to be enabled where a later one is. -/
def EnabledFirst (inventory : Inventory) (rows : List RawRow) : Prop :=
  ∀ key, (key, true) ∈ tuples inventory rows →
    (tuples inventory rows).find? (fun t => decide (t.1 = key)) = some (key, true)

/-- The texts of every row that is the first with one of its keys end without white space after
they are cut. -/
def TextsStripped (inventory : Inventory) (rows : List RawRow) : Prop :=
  ∀ before row after, rows = before ++ row :: after →
    (∃ t ∈ rowTuples inventory row, t.1 ∉ (tuples inventory before).map Prod.fst) →
    strip (commentText row) = commentText row ∧ strip (createdByText row) = createdByText row

theorem isCanonical_of_mem_expansion {inventory : Inventory} {now : Nat} {rows : List RawRow}
    {rule : CanonicalRow} (h : rule ∈ distinctBy CanonicalRow.key []
      (expansion inventory now rows)) : IsCanonical rule := by
  obtain ⟨row, -, hrule⟩ := List.mem_flatMap.mp (mem_of_mem_distinctBy h)
  exact isCanonical_of_mem_rowRules hrule

theorem texts_of_mem_rowRules {inventory : Inventory} {now : Nat} {row : RawRow}
    {rule : CanonicalRow} (h : rule ∈ rowRules inventory now row) :
    rule.comment = commentText row ∧ rule.createdBy = createdByText row := by
  obtain ⟨nodeId, -, hrule⟩ := List.mem_filterMap.mp h
  rw [rowRule?] at hrule
  split at hrule
  · cases hrule
    exact ⟨rfl, rfl⟩
  · cases hrule

theorem textsStripped_iff (inventory : Inventory) (now : Nat) (rows : List RawRow) :
    (∀ rule ∈ distinctBy CanonicalRow.key [] (expansion inventory now rows), rule.again = rule) ↔
      TextsStripped inventory rows := by
  constructor
  · rintro h before row after rfl ⟨t, ht, hnew⟩
    rw [← map_rowRules inventory now] at ht
    obtain ⟨rule, hrule, rfl⟩ := List.mem_map.mp ht
    rcases exists_mem_distinctBy CanonicalRow.key
      ((before.flatMap (rowRules inventory now)).map CanonicalRow.key ++ []) hrule with hold | hfirst
    · rw [List.append_nil] at hold
      exact absurd (map_key_expansion inventory now before ▸ hold) hnew
    · obtain ⟨first, hfirst, -⟩ := hfirst
      have hmem : first ∈ distinctBy CanonicalRow.key []
          (expansion inventory now (before ++ row :: after)) :=
        (mem_distinctBy_flatMap (rowRules inventory now)).mpr ⟨before, row, after, rfl, hfirst⟩
      obtain ⟨hcomment, hcreatedBy⟩ := texts_of_mem_rowRules (mem_of_mem_distinctBy hfirst)
      rw [← hcomment, ← hcreatedBy]
      exact (again_eq_self_iff (isCanonical_of_mem_expansion hmem)).mp (h first hmem)
  · intro h rule hrule
    apply (again_eq_self_iff (isCanonical_of_mem_expansion hrule)).mpr
    obtain ⟨before, row, after, hrows, hfirst⟩ :=
      (mem_distinctBy_flatMap (rowRules inventory now)).mp hrule
    have hmem := mem_of_mem_distinctBy hfirst
    obtain ⟨hcomment, hcreatedBy⟩ := texts_of_mem_rowRules hmem
    rw [hcomment, hcreatedBy]
    apply h before row after hrows
    refine ⟨rule.tuple, ?_, ?_⟩
    · rw [← map_rowRules inventory now]
      exact List.mem_map_of_mem hmem
    · rw [← map_key_expansion inventory now]
      have hnew := (map_distinctBy_nodup _ _).2 rule hfirst
      rw [List.append_nil] at hnew
      exact hnew

theorem mem_stored_iff (inventory : Inventory) (now : Nat) (rows : List RawRow)
    (t : BlacklistKey × Bool) :
    some t ∈ (migrateSourceBlacklistState inventory now rows).map storedTuple? ↔
      t ∈ distinctBy Prod.fst [] (tuples inventory rows) := by
  obtain ⟨stored, hreads, hperm⟩ := exists_stored inventory now rows
  rw [map_storedTuple?_of_reads hreads, List.mem_map_of_injective (Option.some_injective _),
    ← map_distinctBy_expansion inventory now]
  exact (hperm.map CanonicalRow.tuple).mem_iff

/-- The migration preserves the policy exactly when the first row of every key is enabled where a
later one is, and no text ends in white space where it is cut. -/
theorem preservesPolicy_iff (inventory : Inventory) (now : Nat) (rows : List RawRow) :
    PreservesPolicy inventory now rows ↔
      EnabledFirst inventory rows ∧ TextsStripped inventory rows := by
  obtain ⟨stored, hreads, hperm⟩ := exists_stored inventory now rows
  have hcanonical : ∀ rule ∈ stored, IsCanonical rule :=
    fun rule hrule => isCanonical_of_mem_expansion (hperm.mem_iff.mp hrule)
  have hnodup : (stored.map CanonicalRow.key).Nodup :=
    (hperm.map CanonicalRow.key).nodup_iff.mpr (map_distinctBy_nodup [] _).1
  have hagain : (∀ rule ∈ stored, rule.again = rule) ↔ TextsStripped inventory rows := by
    rw [← textsStripped_iff inventory now]
    exact forall_congr' fun rule => by rw [hperm.mem_iff]
  have henabled : ∀ key, some (key, true) ∈
      (migrateSourceBlacklistState inventory now rows).map storedTuple? ↔
      (tuples inventory rows).find? (fun t => decide (t.1 = key)) = some (key, true) := by
    intro key
    rw [mem_stored_iff, mem_distinctBy_iff]
    exact and_iff_right List.not_mem_nil
  constructor
  · intro h
    refine ⟨?_, hagain.mp ((migrate_eq_self_iff inventory now hreads hcanonical hnodup).mp
      (h.again now))⟩
    intro key hkey
    exact (henabled key).mp ((h.enabled key).mpr hkey)
  · rintro ⟨hfirst, htexts⟩
    refine ⟨?_, ⟨stored.map CanonicalRow.tuple, map_storedTuple?_of_reads hreads, ?_⟩, ?_⟩
    · intro key
      rw [henabled]
      exact ⟨List.mem_of_find?_eq_some, hfirst key⟩
    · rw [List.map_map]
      exact hnodup
    · intro now'
      exact (migrate_eq_self_iff inventory now' hreads hcanonical hnodup).mpr (hagain.mpr htexts)

/-- One site with one node. -/
def siteInventory : Inventory := ⟨["site-a"], [(.str "node-a", .str "site-a")]⟩

def globalRow (enabled : Bool) : RawRow :=
  [("scope", .str "global"), ("kind", .str "domain"), ("pattern", .str "example.com"),
    ("enabled", .bool enabled)]

def siteRow : RawRow :=
  [("scope", .str "site"), ("site_id", .str "site-a"), ("kind", .str "domain"),
    ("pattern", .str "Example.com."), ("enabled", .bool true)]

/-- A disabled global row comes before the enabled row of a site, and the site loses its rule. -/
theorem migration_disables_site_rule :
    ¬PreservesPolicy siteInventory 0 [globalRow false, siteRow] := by
  intro h
  have hbefore : (⟨"node-a", "source", "domain", "example.com"⟩, true) ∈
      tuples siteInventory [globalRow false, siteRow] := by decide
  have hafter := (h.enabled _).mpr hbefore
  rw [mem_stored_iff] at hafter
  exact absurd hafter (by decide)

end Grouproxy.Backend
