import Mathlib.Data.List.Flatten
import Mathlib.Data.List.Perm.Basic
import ConferenceSync.Proofs.BatchOrder

/-!
# What the statistics of a plan count

The batch of a plan goes through the tables of the kinds in a data set. In each table it inserts,
updates and removes as many rows as the comparison of the table says, and the sessions that are
written only to follow what they refer to are updated besides. So the statistics of a plan, which
are taken from the comparisons, count the mutations of its batch.

All of this holds of every data set and of all indexes, whether or not they agree with what is
stored.

## Main definitions

* `Mutation.Change`, `Mutation.does` — what a mutation may do to one row of a table
* `Import.TableDiff.changedIds` — the ids of the rows to which a change is made
* `DataSet.diffFor`, `DataSet.tableBatch` — what has changed in a table, and its part of the batch
* `Import.refreshes`, `DataSet.refreshesFor` — the number of sessions that only follow
* `Import.Plan.Accounted` — that the mutations of a batch are in order, and counted

## Main results

* `DataSet.plan_eq` — a plan, table by table
* `DataSet.plan_accounted` — the mutations of a plan are in order, and counted
-/

namespace ConferenceSync

open Agenda

/-! ## What a mutation does to one row -/

namespace Mutation

/-- What may be done to one row of a table. -/
inductive Change where
  | insert
  | update
  | remove
  deriving DecidableEq

/-- What the mutation does to one row, and in which table, if it is about one row. -/
def rowChange? : Mutation → Option (Change × Table)
  | insert row => some (.insert, row.table)
  | update row => some (.update, row.table)
  | deleteById table _ => some (.remove, table)
  | _ => none

/-- Whether the mutation makes a change to one row of a table. -/
def does (change : Change) (table : Table) (m : Mutation) : Bool :=
  m.rowChange? = some (change, table)

variable {m : Mutation} {table : Table} {change : Change}

theorem owner_of_does (done : m.does change table = true) : m.owner = table := by
  cases m <;> simp [does, rowChange?] at done <;> exact done.2

theorem does_of_isLink (link : m.isLink = true) : m.does change table = false := by
  cases m <;> first | rfl | exact absurd link Bool.false_ne_true

end Mutation

/-! ## Counting -/

namespace Import

open Mutation

variable {table : Table} {records : Dict table.Record} {diff : TableDiff} {m : Mutation}

/-- Distinct ids among distinct keys are counted one by one. -/
theorem countP_contains {keys ids : List String} (once : keys.Nodup) (onceIds : ids.Nodup)
    (known : ∀ id ∈ ids, id ∈ keys) : keys.countP ids.contains = ids.length := by
  rw [List.countP_eq_length_filter]
  refine ((List.perm_ext_iff_of_nodup (once.filter _) onceIds).2 fun id => ?_).length_eq
  rw [List.mem_filter, List.contains_iff_mem, and_iff_right_iff_imp]
  exact known id

/-- A test that the mutations of certain ids pass, and no others, counts these ids. -/
theorem countP_writes {p : Mutation → Bool} {ids : List String}
    (test : ∀ e : String × table.Record,
      ((recordMutation? diff e).map p).getD false = ids.contains e.1)
    (onceIds : ids.Nodup) (known : ∀ id ∈ ids, ∃ record, records.get? id = some record) :
    (records.entries.filterMap (recordMutation? diff)).countP p = ids.length := by
  rw [List.countP_filterMap, List.countP_congr fun e _ => by rw [test e],
    ← countP_contains records.nodup_keys onceIds fun id listed => Dict.mem_keys.2 (known id listed),
    Dict.keys, List.countP_map]
  rfl

/-- The mutations of a table that pass a test: those of certain ids, and the removals or not. -/
theorem countP_tableMutations (p : Mutation → Bool) (ids : List String) (removed : Bool)
    (wiped : p (.deleteAll table) = false) (gone : ∀ id, p (.deleteById table id) = removed)
    (test : ∀ e : String × table.Record,
      ((recordMutation? diff e).map p).getD false = ids.contains e.1)
    (onceIds : ids.Nodup) (known : ∀ id ∈ ids, ∃ record, records.get? id = some record) :
    (tableMutations records diff).countP p =
      ids.length + if removed then diff.deleted.length else 0 := by
  have none : (if diff.full then [deleteAll table] else []).countP p = 0 := by
    split <;> simp [wiped]
  have removals : (diff.deleted.map (deleteById table)).countP p =
      if removed then diff.deleted.length else 0 := by
    rw [List.countP_map, List.countP_congr fun id _ => by rw [Function.comp_apply, gone id]]
    cases removed <;> simp
  rw [tableMutations, List.countP_append, List.countP_append, none, removals, Nat.zero_add,
    countP_writes test onceIds known]

/-- The ids of the rows to which a change is made. -/
def TableDiff.changedIds (diff : TableDiff) : Change → List String
  | .insert => diff.inserted
  | .update => diff.updated
  | .remove => diff.deleted

/-- The changes to the rows of a table are counted by its comparison. -/
theorem countP_does_tableMutations (fits : diff.Fits records) (change : Change) :
    (tableMutations records diff).countP (does change table) =
      (diff.changedIds change).length := by
  obtain ⟨onceInserted, onceUpdated, apart⟩ := List.nodup_append.1 fits.once_written
  cases change with
  | insert =>
    refine countP_tableMutations _ diff.inserted false rfl (fun _ => rfl) (fun e => ?_)
      onceInserted fun id new => fits.known id (List.mem_append_left _ new)
    rw [recordMutation?]
    split
    · simp_all [does, rowChange?]
    · split <;> simp_all [does, rowChange?]
  | update =>
    refine countP_tableMutations _ diff.updated false rfl (fun _ => rfl) (fun e => ?_)
      onceUpdated fun id changed => fits.known id (List.mem_append_right _ changed)
    rw [recordMutation?]
    split
    · next new =>
      have other : e.1 ∉ diff.updated := fun changed =>
        apart e.1 (List.contains_iff_mem.1 new) e.1 changed rfl
      simpa [does, rowChange?] using other
    · split <;> simp_all [does, rowChange?]
  | remove =>
    have removal (id : String) : does .remove table (.deleteById table id) = true :=
      decide_eq_true rfl
    rw [countP_tableMutations _ [] true rfl removal (fun e => ?_) .nil (by simp)]
    · exact Nat.zero_add _
    · rw [recordMutation?]
      split
      · rfl
      · split <;> rfl

/-- Links are not counted. -/
theorem countP_does_linkMutations (change : Change) (sessions : Dict Session) (diff : TableDiff) :
    (linkMutations sessions diff).countP (does change table) = 0 := by
  refine List.countP_eq_zero.2 fun m there => ?_
  rw [does_of_isLink (isLink_of_mem_linkMutations there)]
  exact Bool.false_ne_true

/-- The number of sessions that are written only to follow what they refer to. -/
def refreshes (sessions : Dict Session) (diff : TableDiff) (changed : ChangedReferences) : Nat :=
  if diff.full then 0
  else sessions.entries.countP fun e => !diff.written.contains e.1 && changed.touch e.2

theorem length_refreshMutations (sessions : Dict Session) (diff : TableDiff)
    (changed : ChangedReferences) :
    (refreshMutations sessions diff changed).length = refreshes sessions diff changed := by
  rw [refreshMutations, refreshes]
  split
  · rfl
  · rw [List.length_filterMap_eq_countP]
    refine List.countP_congr fun e _ => ?_
    rw [refreshMutation?]
    split <;> simp_all

/-- Sessions that only follow are updated. -/
theorem countP_does_refreshMutations (change : Change) (sessions : Dict Session)
    (diff : TableDiff) (changed : ChangedReferences) :
    (refreshMutations sessions diff changed).countP (does change .sessions) =
      if change = .update then refreshes sessions diff changed else 0 := by
  have test : ∀ m ∈ refreshMutations sessions diff changed,
      m.does change .sessions = decide (change = .update) := by
    intro m there
    obtain ⟨-, id, s, rfl, -⟩ := exists_update_of_mem_refreshMutations there
    cases change <;> rfl
  rw [List.countP_congr fun m there => by rw [test m there], ← length_refreshMutations]
  cases change <;> simp

end Import

namespace DataSet

open Import Mutation

/-! ## A batch, table by table -/

variable (rules : GroupingRules) (d : DataSet) (mode : Mode) (index? : Table → Option Index)

/-- What has changed in a table, as far as its index can be read. -/
def diffFor (table : Table) : TableDiff :=
  compare (fingerprints (d.records rules table)) (if mode = .full then none else index? table)

/-- The speakers and tags that change, none of a kind that is not in the data set. -/
def changedFor : ChangedReferences :=
  ⟨d.touchedIds (.ofFn (d.diffFor rules mode index?)) .speakers,
    d.touchedIds (.ofFn (d.diffFor rules mode index?)) .tags⟩

/-- The mutations of a table; those of sessions include those that only follow, and the links. -/
def tableBatch : Table → Batch
  | .sessions =>
    @tableMutations .sessions (d.records rules .sessions) (d.diffFor rules mode index? .sessions)
    ++ refreshMutations (d.records rules .sessions) (d.diffFor rules mode index? .sessions)
      (d.changedFor rules mode index?)
    ++ linkMutations (d.records rules .sessions) (d.diffFor rules mode index? .sessions)
  | table => tableMutations (d.records rules table) (d.diffFor rules mode index? table)

/-- The tables of the kinds in a data set. -/
def tables : List Table := d.present.flatMap Kind.tables

/-- The number of sessions that a plan writes only to follow what they refer to. -/
def refreshesFor : Nat :=
  refreshes (d.records rules .sessions) (d.diffFor rules mode index? .sessions)
    (d.changedFor rules mode index?)

/-- A plan goes through the tables of the kinds in the data set. -/
theorem plan_eq : d.plan rules mode index? =
    ⟨d.tables.flatMap (d.tableBatch rules mode index?),
      ⟨d.tables.map fun table => (table, .of (d.diffFor rules mode index? table))⟩⟩ := by
  have kinds (kind : Kind) : d.kindMutations (.ofFn (d.records rules))
      (.ofFn (d.diffFor rules mode index?)) kind =
        kind.tables.flatMap (d.tableBatch rules mode index?) := by
    cases kind with
    | sessions => exact (List.append_nil _).symm
    | _ => rfl
  have records : (PerTable.ofFn fun table =>
      compare (fingerprints ((PerTable.ofFn (F := fun table => Dict table.Record)
        (d.records rules)).get table)) (if mode = .full then none else index? table)) =
      PerTable.ofFn (d.diffFor rules mode index?) := by
    simp only [PerTable.get_ofFn]
    rfl
  rw [plan, records, tables, List.flatMap_assoc, ← List.flatMap_congr fun kind _ => kinds kind]
  simp only [PerTable.get_ofFn]

variable {rules d mode index?} {table : Table}

theorem mem_tables : table ∈ d.tables ↔ table.kind ∈ d.present := by
  simp [tables, Pass.mem_tables_iff]

theorem pairwise_tables :
    d.tables.Pairwise fun a b => a.kind.position ≤ b.kind.position ∧ a ≠ b := by
  have all : Table.all.Pairwise fun a b => a.kind.position ≤ b.kind.position ∧ a ≠ b := by decide
  exact all.sublist (List.filter_sublist.flatMap Kind.tables)

theorem tableBatch_of_ne (other : table ≠ .sessions) : d.tableBatch rules mode index? table =
    tableMutations (d.records rules table) (d.diffFor rules mode index? table) := by
  cases table <;> first | rfl | exact absurd rfl other

theorem own_of_records : ∀ id record, (d.records rules table).get? id = some record →
    table.idOf record = id := fun _ _ => idOf_of_records

theorem pairwise_tableBatch : (d.tableBatch rules mode index? table).Pairwise MayPrecede := by
  by_cases sessions : table = .sessions
  · subst sessions
    exact pairwise_sessionMutations own_of_records (fits_compare _ _) _
  · rw [tableBatch_of_ne sessions]
    exact pairwise_tableMutations own_of_records (fits_compare _ _)

theorem owner_of_mem_tableBatch {m : Mutation} (there : m ∈ d.tableBatch rules mode index? table) :
    m.owner = table := by
  by_cases sessions : table = .sessions
  · subst sessions
    rcases List.mem_append.1 there with there | link
    · rcases List.mem_append.1 there with row | refresh
      · exact (isLink_of_mem_tableMutations own_of_records row).1
      · exact (isLink_of_mem_refreshMutations own_of_records refresh).1
    · exact owner_of_isLink (isLink_of_mem_linkMutations link)
  · rw [tableBatch_of_ne sessions] at there
    exact (isLink_of_mem_tableMutations own_of_records there).1

/-- A link is added only with a mutation that removes the links of its session. -/
theorem exists_of_insertLink_mem_tableBatch {link : LinkTable} {id target : String}
    (there : .insertLink link id target ∈ d.tableBatch rules mode index? .sessions)
    (other : LinkTable) :
    .deleteAllLinks other ∈ d.tableBatch rules mode index? .sessions ∨
      .deleteLinks other id ∈ d.tableBatch rules mode index? .sessions := by
  have links : .insertLink link id target ∈ linkMutations (d.records rules .sessions)
      (d.diffFor rules mode index? .sessions) := by
    rcases List.mem_append.1 there with rows | links
    · have row := (List.mem_append.1 rows).elim (isLink_of_mem_tableMutations own_of_records)
        (isLink_of_mem_refreshMutations own_of_records)
      simp [isLink] at row
    · exact links
  exact (exists_of_insertLink_mem links other).imp (List.mem_append_right _)
    (List.mem_append_right _)

theorem deleteAll_mem_tableBatch_iff :
    .deleteAll table ∈ d.tableBatch rules mode index? table ↔
      (d.diffFor rules mode index? table).full = true := by
  have rows (table : Table) : .deleteAll table ∈ tableMutations (d.records rules table)
      (d.diffFor rules mode index? table) ↔ (d.diffFor rules mode index? table).full = true := by
    constructor
    · intro there
      rcases exists_rowKey?_of_mem_tableMutations own_of_records there with ⟨-, full⟩ | ⟨id, key, -⟩
      · exact full
      · simp [rowKey?] at key
    · intro full
      simp [tableMutations, full]
  by_cases sessions : table = .sessions
  · subst sessions
    rw [← rows, tableBatch, List.mem_append, List.mem_append, or_assoc, or_iff_left_iff_imp]
    rintro (refresh | link)
    · obtain ⟨-, id, s, update, -⟩ := exists_update_of_mem_refreshMutations refresh
      simp at update
    · simpa [isLink] using isLink_of_mem_linkMutations link
  · rw [tableBatch_of_ne sessions, rows]

/-- The changes to the rows of a table are those of its comparison, and of sessions that follow. -/
theorem countP_does_tableBatch (change : Change) :
    (d.tableBatch rules mode index? table).countP (does change table) =
      ((d.diffFor rules mode index? table).changedIds change).length +
        if change = .update ∧ table = .sessions then d.refreshesFor rules mode index? else 0 := by
  have rows := countP_does_tableMutations (fits_compare (d.records rules table)
    (if mode = .full then none else index? table)) change
  by_cases sessions : table = .sessions
  · subst sessions
    rw [tableBatch, List.countP_append, List.countP_append, countP_does_refreshMutations,
      countP_does_linkMutations, Nat.add_zero]
    simp only [and_true]
    exact congrArg (· + _) rows
  · rw [tableBatch_of_ne sessions, if_neg fun both => sessions both.2]
    exact rows

/-! ## The whole -/

theorem mem_batch_plan {m : Mutation} : m ∈ (d.plan rules mode index?).batch ↔
    m.kind ∈ d.present ∧ m ∈ d.tableBatch rules mode index? m.owner := by
  rw [plan_eq, List.mem_flatMap, kind_eq, ← mem_tables]
  constructor
  · rintro ⟨table, listed, there⟩
    obtain rfl := owner_of_mem_tableBatch there
    exact ⟨listed, there⟩
  · rintro ⟨listed, there⟩
    exact ⟨_, listed, there⟩

/-- The changes to rows of a table are made in its part of the batch. -/
theorem countP_batch_plan (present : table.kind ∈ d.present) (change : Change) :
    (d.plan rules mode index?).batch.countP (does change table) =
      (d.tableBatch rules mode index? table).countP (does change table) := by
  obtain ⟨before, after, split⟩ := List.append_of_mem (mem_tables.2 present)
  have once : (before ++ table :: after).Nodup := split ▸ pairwise_tables.imp And.right
  have others {tables : List Table} (other : table ∉ tables) :
      (tables.flatMap (d.tableBatch rules mode index?)).countP (does change table) = 0 := by
    refine List.countP_eq_zero.2 fun m there done => ?_
    obtain ⟨owner, listed, there⟩ := List.mem_flatMap.1 there
    rw [← owner_of_mem_tableBatch there, owner_of_does done] at listed
    exact other listed
  -- The table is listed once, and the other tables make no changes to it.
  rw [List.nodup_middle, List.nodup_cons, List.mem_append, not_or] at once
  rw [plan_eq]
  simp only [split, List.flatMap_append, List.flatMap_cons, List.countP_append, others once.1.1,
    others once.1.2, Nat.zero_add, Nat.add_zero]

theorem stats_plan_eq_some_iff {s : TableStats} :
    (d.plan rules mode index?).stats.get? table = some s ↔
      table.kind ∈ d.present ∧ .of (d.diffFor rules mode index? table) = s := by
  rw [plan_eq, Stats.get?, ← mem_tables]
  by_cases listed : table ∈ d.tables
  · rw [List.lookup_graph _ listed, Option.some.injEq, and_iff_right listed]
  · have none : (d.tables.map fun table =>
        (table, TableStats.of (d.diffFor rules mode index? table))).lookup table = none := by
      refine List.lookup_eq_none_iff.2 fun e counted => ?_
      obtain ⟨other, there, rfl⟩ := List.mem_map.1 counted
      exact bne_iff_ne.2 fun same : table = other => listed (same ▸ there)
    simp [none, listed]

end DataSet

/-- Whether the mutations of a plan for a data set are in order, and its statistics count them but
for the sessions that only follow others. Emptied are the tables that are loaded anew, a session
gets links once its old ones are removed, and other kinds than those of the data set have neither
mutations nor statistics. -/
structure Import.Plan.Accounted (plan : Import.Plan) (d : DataSet) (refreshes : Nat) : Prop where
  ordered : plan.batch.Pairwise Mutation.MayPrecede
  emptied : ∀ table, .deleteAll table ∈ plan.batch ↔
    ∃ s, plan.stats.get? table = some s ∧ s.full = true
  unlinked : ∀ link id target, .insertLink link id target ∈ plan.batch →
    ∀ other, .deleteAllLinks other ∈ plan.batch ∨ .deleteLinks other id ∈ plan.batch
  counted : ∀ table s, plan.stats.get? table = some s →
    plan.batch.countP (Mutation.does .insert table) = s.inserted ∧
      plan.batch.countP (Mutation.does .update table) =
        s.updated + (if table = .sessions then refreshes else 0) ∧
      plan.batch.countP (Mutation.does .remove table) = s.deleted
  counts_present : ∀ table, (∃ s, plan.stats.get? table = some s) ↔ table.kind ∈ d.present
  present : ∀ m ∈ plan.batch, m.kind ∈ d.present

/-- The mutations of every plan are in order, and its statistics count them. -/
theorem DataSet.plan_accounted (rules : GroupingRules) (d : DataSet) (mode : Import.Mode)
    (index? : Table → Option Import.Index) :
    (d.plan rules mode index?).Accounted d (d.refreshesFor rules mode index?) where
  ordered := by
    rw [plan_eq]
    refine List.pairwise_flatMap.2 ⟨fun table _ => pairwise_tableBatch, ?_⟩
    refine pairwise_tables.imp fun {a b} order m there later thereLater => ?_
    rw [← owner_of_mem_tableBatch there, ← owner_of_mem_tableBatch thereLater] at order
    exact Mutation.mayPrecede_of_owner_ne order.1 order.2
  emptied table := by
    rw [mem_batch_plan]
    refine (and_congr_right fun _ => deleteAll_mem_tableBatch_iff).trans ?_
    simp only [stats_plan_eq_some_iff, and_assoc, exists_eq_left', exists_and_left]
    rfl
  unlinked link id target there other := by
    obtain ⟨present, there⟩ := mem_batch_plan.1 there
    exact (exists_of_insertLink_mem_tableBatch there other).imp
      (fun removal => mem_batch_plan.2 ⟨present, removal⟩)
      fun removal => mem_batch_plan.2 ⟨present, removal⟩
  counted table s counts := by
    obtain ⟨present, rfl⟩ := stats_plan_eq_some_iff.1 counts
    simp only [countP_batch_plan present, countP_does_tableBatch]
    exact ⟨rfl, by simp [Import.TableDiff.changedIds, Import.TableStats.of], rfl⟩
  counts_present table := by
    simp [stats_plan_eq_some_iff]
  present m there := (mem_batch_plan.1 there).1

end ConferenceSync
