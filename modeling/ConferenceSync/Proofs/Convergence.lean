import Mathlib.Data.List.Basic
import ConferenceSync.Proofs.AllOrNothing
import ConferenceSync.Proofs.Reload
import ConferenceSync.World.Import

/-!
# An import succeeds at once and has nothing left to do

The batch of an import is planned from the indexes of the database it is committed to. Whatever that
database holds, and whichever of the indexes cannot be read, none of the mutations is refused. The
rows that are left then have the fingerprints of the records, so that the same files imported again
change nothing.

## Main definitions

* `DataSet.Settled` — that the indexes of the tables in a data set are those of its records

## Main results

* `Import.plan_is_not_refused` — the batch of an import can be made
* `DataSet.batch_plan_of_settled`, `DataSet.stats_plan_of_settled` — the plan for indexes that are
  settled is empty
* `Import.Pass.settled_after` — an import settles the indexes
* `Import.second_import_changes_nothing` — the same files imported again change nothing
-/

namespace ConferenceSync

open Agenda

variable {σ : Type}

namespace Import

/-- Whatever a database holds, and whichever of its indexes cannot be read: it refuses nothing of
the batch that an import plans for it. -/
theorem plan_is_not_refused (env : Environment σ) (origin : Origin) (p : Pass) (w : World σ)
    (whole : w.device.db.Whole) :
    ¬w.device.db.Refuses (p.plan w.device.db).batch ∧
      ((commitBatch env origin (p.plan w.device.db).batch).run.run w).1 =
        .ok (p.plan w.device.db).batch.length := by
  have runs := Pass.runs_plan (p := p) whole
  obtain ⟨same, -⟩ := Contents.runs_iff.1 runs
  obtain ⟨made, committed, -⟩ := Database.exists_commit_of_runs whole runs
  constructor
  · exact Database.not_refuses_iff.2 ⟨fun m _ => whole.has_relation m, same ▸ runs⟩
  · rw [run_commitBatch_of_ok env origin committed]

/-- A database in which a session that is not there has a tag that is not there either. -/
def danglingLink : Database := Database.initial.setLinks .tags [⟨"s0", "nowhere"⟩]

theorem whole_danglingLink : danglingLink.Whole :=
  (Database.rewritten_setLinks rfl _).whole Database.whole_initial

/-- A database with a dangling link takes the batch of an import that can read no index at all. -/
theorem plan_is_not_refused_dangling_link :
    let w : World Unit := ⟨.start danglingLink .inMemory, ()⟩
    let p : Pass := ⟨.standard, .incremental, [oneSession], Table.all⟩
    w.device.db.Whole ∧ ¬w.device.db.Refuses (p.plan w.device.db).batch ∧
      ((commitBatch .silent .sync (p.plan w.device.db).batch).run.run w).1 =
        .ok (p.plan w.device.db).batch.length := by
  intro w p
  exact ⟨whole_danglingLink, plan_is_not_refused .silent .sync p w whole_danglingLink⟩

end Import

/-! ## Data sets whose indexes are settled -/

namespace DataSet

open Import

variable {d : DataSet} {rules : GroupingRules} {index? : Table → Option Index}

/-- The fingerprints of records do not depend on how sessions are put into groups. -/
theorem fingerprints_records (d : DataSet) (rules other : GroupingRules) (table : Table) :
    fingerprints (d.records rules table) = fingerprints (d.records other table) := by
  have listed (rules : GroupingRules) : fingerprints (d.records rules table) =
      Dict.ofList ((readRecords rules d.sections table).map fun record =>
        (table.idOf record, table.fingerprintOf record)) := by
    rw [fingerprints, records, recordsOf, Table.byId, Dict.map_ofList, List.map_map]
    rfl
  rw [listed rules, listed other]
  cases table with
  | sessions =>
    simp only [readRecords, List.map_map]
    rfl
  | _ => rfl

/-- Whether the index of each table in a data set is that of its records. -/
def Settled (d : DataSet) (rules : GroupingRules) (index? : Table → Option Index) : Prop :=
  ∀ table, table.kind ∈ d.present → index? table = some (fingerprints (d.records rules table))

/-- What has changed in a table of which nothing has. -/
def noDiff (count : Nat) : TableDiff := ⟨false, [], [], count, []⟩

theorem tableMutations_noDiff {table : Table} (records : Dict table.Record) (count : Nat) :
    tableMutations records (noDiff count) = [] := by
  have none : records.entries.filterMap (recordMutation? (noDiff count)) = [] :=
    List.filterMap_eq_nil_iff.2 fun e _ => rfl
  rw [tableMutations, none]
  rfl

theorem refreshMutations_noDiff (sessions : Dict Session) (count : Nat) :
    refreshMutations sessions (noDiff count) ⟨[], []⟩ = [] := by
  refine List.filterMap_eq_nil_iff.2 fun e _ => ?_
  simp [refreshMutation?, ChangedReferences.touch]

/-- In a data set that is settled no table of a kind in it has changed. -/
theorem Settled.compare_eq (settled : d.Settled rules index?) {table : Table}
    (present : table.kind ∈ d.present) :
    compare (fingerprints (d.records rules table)) (index? table) =
      noDiff (d.records rules table).size := by
  rw [settled table present, compare_self, noDiff, fingerprints, Dict.size, Dict.map,
    List.length_map, Dict.size]

/-- The comparisons that a plan makes in a data set that is settled. -/
theorem Settled.get_diffs (settled : d.Settled rules index?) {table : Table}
    (present : table.kind ∈ d.present) :
    (PerTable.ofFn fun table =>
      compare (fingerprints ((PerTable.ofFn (F := fun table => Dict table.Record)
        (d.records rules)).get table))
        (if Mode.incremental = .full then none else index? table)).get table =
      noDiff (d.records rules table).size := by
  rw [PerTable.get_ofFn, PerTable.get_ofFn, if_neg (by decide), settled.compare_eq present]

/-- Kinds of which no table has changed give rise to no mutations. -/
theorem kindMutations_of_noDiff {diffs : PerTable fun _ => TableDiff}
    (same : ∀ table, table.kind ∈ d.present →
      diffs.get table = noDiff (d.records rules table).size)
    {kind : Kind} (present : kind ∈ d.present) :
    d.kindMutations (PerTable.ofFn (d.records rules)) diffs kind = [] := by
  have untouched (table : Table) : d.touchedIds diffs table = [] := by
    by_cases there : table.kind ∈ d.present
    · rw [touchedIds, same table there]
      exact ite_self _
    · exact if_neg fun listed => there (List.contains_iff_mem.1 listed)
  by_cases sessions : kind = .sessions
  · subst sessions
    have kept : diffs.sessions = noDiff (d.records rules .sessions).size := same .sessions present
    simp only [kindMutations, untouched, kept, tableMutations_noDiff, refreshMutations_noDiff]
    rfl
  · rw [Pass.kindMutations_of_ne sessions]
    refine List.flatMap_eq_nil_iff.2 fun table listed => ?_
    rw [same table (Pass.mem_tables_iff.1 listed ▸ present), tableMutations_noDiff]

/-- The plan for indexes that are settled has no mutations. -/
theorem batch_plan_of_settled (settled : d.Settled rules index?) :
    (d.plan rules .incremental index?).batch = [] :=
  List.flatMap_eq_nil_iff.2 fun _ present =>
    kindMutations_of_noDiff (fun _ there => settled.get_diffs there) present

/-- The plan for indexes that are settled counts each record as unchanged. -/
theorem stats_plan_of_settled (settled : d.Settled rules index?) :
    (d.plan rules .incremental index?).stats =
      ⟨(d.present.flatMap Kind.tables).map fun table =>
        (table, ⟨false, 0, 0, (d.records rules table).size, 0⟩)⟩ := by
  refine congrArg Stats.mk (List.map_congr_left fun table listed => ?_)
  obtain ⟨kind, present, here⟩ := List.mem_flatMap.1 listed
  have diff := settled.get_diffs (Pass.mem_tables_iff.1 here ▸ present)
  exact congrArg (fun diff => (table, TableStats.of diff)) diff

end DataSet

namespace Import

/-- Nothing is changed if nothing is changed in any table. -/
theorem Stats.totalChanged_eq_zero {tables : List (Table × TableStats)}
    (none : ∀ e ∈ tables, e.2.inserted + e.2.updated + e.2.deleted = 0) :
    Stats.totalChanged ⟨tables⟩ = 0 := by
  rw [totalChanged]
  induction tables with
  | nil => rfl
  | cons e rest ih =>
    have first : 0 + (e.2.inserted + e.2.updated + e.2.deleted) = 0 :=
      (Nat.zero_add _).trans (none e List.mem_cons_self)
    rw [List.foldl_cons]
    simp only [first]
    exact ih fun other listed => none other (List.mem_cons_of_mem _ listed)

namespace Pass

variable {p : Pass} {c : Contents} {table : Table}

/-- The rows that an import leaves have the fingerprints of its records. -/
theorem fingerprints_rows_after (brings : p.Brings table.kind) :
    ((p.after c).rows table).map StoredRow.fingerprint = fingerprints (p.records table) := by
  have rows : (p.after c).rows table = p.rowsAfter c table := if_pos brings
  apply Dict.ext_get?
  intro id
  rw [rows, rowsAfter, settle, fingerprints, Dict.get?_map, Dict.get?_map, Dict.get?_mapKeyed]
  cases there : (p.records table).get? id with
  | none => rfl
  | some record =>
    by_cases written : p.writes c table id record
    · rw [Option.map_some, if_pos written]
      rfl
    · have kept : id ∉ (p.diff c table).written := by
        intro listed
        exact written (by simp [writes, listed])
      obtain ⟨-, row, stored, same⟩ := exists_of_not_mem_written there kept
      rw [Option.map_some, if_neg written, stored]
      exact congrArg some same

/-- An import settles the indexes of what it brings, whichever rules sessions are grouped by. -/
theorem settled_after (p : Pass) {db : Database} (rules : GroupingRules)
    (isOpen : db.closed = false)
    (rows : ∀ table, db.tables.get table = some ((p.after c).rows table)) :
    p.data.Settled rules fun table => (db.fingerprints table).toOption := by
  intro table brings
  have read : db.rows table = .ok ((p.after c).rows table) :=
    Database.rows_eq_ok_iff.2 ⟨isOpen, rows table⟩
  show (db.fingerprints table).toOption = _
  rw [Database.fingerprints, read, p.data.fingerprints_records rules p.rules]
  exact congrArg some (fingerprints_rows_after brings)

end Pass

theorem run_importFiles (env : Environment σ) (rules : GroupingRules) (mode : Mode)
    (origin : Origin) (files : List (String × String)) (w : World σ) :
    (importFiles env rules mode origin files).run w =
      let plan := (DataSet.empty.addEach files).1.planFor rules mode w.device.db
      let run := (commitBatch env origin plan.batch).run.run w
      (⟨(DataSet.empty.addEach files).2, plan, run.1⟩, run.2) := rfl

/-- After an import, with whichever of the indexes, the same files imported by comparison change
nothing, of which nobody hears, and each of their records counts as unchanged. -/
theorem second_import_changes_nothing (env : Environment σ) (origin : Origin)
    (rules : GroupingRules) (p : Pass) {db : Database} (whole : db.Whole) :
    ∃ after, db.importPass p = .ok after ∧
      ∀ w : World (σ × List Hearing), w.device.db.closed = false →
        w.device.db.tables = after.tables →
        ∃ result,
          (importFiles env.recordingNotices rules .incremental origin p.files).run w =
              (result, w) ∧
            result.plan.batch = [] ∧ result.plan.batch.kindsTouched = [] ∧
            result.applied = .ok 0 ∧ result.plan.stats.totalChanged = 0 ∧
            ∀ table, p.Brings table.kind →
              result.plan.stats.get? table =
                some ⟨false, 0, 0, (p.data.records rules table).size, 0⟩ := by
  obtain ⟨after, imported, afterWhole, contents⟩ := Database.exists_importPass whole p
  refine ⟨after, imported, fun w isOpen tables => ?_⟩
  have settled : p.data.Settled rules fun table => (w.device.db.fingerprints table).toOption :=
    p.settled_after rules isOpen fun table => by
      rw [tables, afterWhole.tables_eq, contents]
  have batch : (p.data.planFor rules .incremental w.device.db).batch = [] :=
    DataSet.batch_plan_of_settled settled
  have stats := DataSet.stats_plan_of_settled settled
  have committed : (commitBatch env.recordingNotices origin
      (p.data.planFor rules .incremental w.device.db).batch).run.run w = (.ok 0, w) := by
    rw [batch, run_commitBatch_nil]
  refine ⟨⟨(DataSet.empty.addEach p.files).2, p.data.planFor rules .incremental w.device.db,
    .ok 0⟩, ?_, batch, by rw [batch]; rfl, rfl, ?_, fun table brings => ?_⟩
  · rw [run_importFiles]
    exact congrArg (fun run => (ImportResult.mk _ _ run.1, run.2)) committed
  · rw [DataSet.planFor, stats]
    refine Stats.totalChanged_eq_zero fun e listed => ?_
    obtain ⟨table, -, rfl⟩ := List.mem_map.1 listed
    rfl
  · have listed : table ∈ p.data.present.flatMap Kind.tables :=
      List.mem_flatMap.2 ⟨table.kind, brings, Pass.mem_tables_iff.2 rfl⟩
    rw [DataSet.planFor, stats]
    exact List.lookup_graph _ listed

/-- The session of the file counts as unchanged, although the first import could not read any index
of sessions. -/
theorem second_import_changes_nothing_one_session :
    let p : Pass := ⟨.standard, .incremental, [oneSession], [.sessions]⟩
    let world (db : Database) : World (Unit × List Hearing) := ⟨.start db .inMemory, ((), [])⟩
    ∃ after result, danglingLink.importPass p = .ok after ∧
      (importFiles Environment.silent.recordingNotices .standard .incremental .sync p.files).run
          (world after) = (result, world after) ∧
        result.plan.batch = [] ∧
        result.plan.stats.get? .sessions = some ⟨false, 0, 0, 1, 0⟩ := by
  intro p world
  obtain ⟨after, imported, again⟩ :=
    second_import_changes_nothing Environment.silent .sync .standard p whole_danglingLink
  obtain ⟨afterWhole, -⟩ := whole_danglingLink.importPass imported
  obtain ⟨result, ran, batch, -, -, -, stats⟩ := again (world after) afterWhole.isOpen rfl
  have one : (p.data.records .standard .sessions).size = 1 := by decide +kernel
  have counted := stats .sessions (by decide +kernel)
  rw [one] at counted
  exact ⟨after, result, imported, ran, batch, counted⟩

end Import

end ConferenceSync
