import ConferenceSync.Proofs.Comparison
import ConferenceSync.Proofs.Contents
import ConferenceSync.Proofs.SessionRecords
import ConferenceSync.Store.Plan

/-!
# What an import does to the contents

An import reads data files, compares their records with the indexes that can be read, and commits
the plan. Its effect on each table is stated here key by key: a table of a kind in the files ends
up with exactly the ids of the records, each with the row of its record unless the import leaves
the stored row alone; the links of a session that is written are its references.

## Main definitions

* `Import.Pass` — one import: the files, the rules, the mode, and the tables whose index fails
* `Database.importPass`, `Database.importPasses` — a database after one import, after several
* `Import.Pass.diff`, `Import.Pass.changed` — what an import finds changed
* `Import.Pass.after` — the contents that an import makes of contents

## Main results

* `Import.Pass.mem_written`, `Import.Pass.mem_deleted` — the ids to write and to remove, in terms
  of records and stored rows
-/

namespace ConferenceSync

open Agenda

namespace Import

/-- One import of data files: how sessions are put into groups, how much of what is stored is taken
into account, the names and the texts of the files, and the tables whose index cannot be read. -/
structure Pass where
  rules : GroupingRules
  mode : Mode
  files : List (String × String)
  unreadable : List Table
  deriving DecidableEq, Repr

namespace Pass

/-- The data set of the files that can be read. -/
def data (p : Pass) : DataSet := (DataSet.empty.addEach p.files).1

/-- Whether a kind of data is in the files. -/
def Brings (p : Pass) (kind : Kind) : Prop := kind ∈ p.data.present

instance (p : Pass) (kind : Kind) : Decidable (p.Brings kind) :=
  inferInstanceAs (Decidable (_ ∈ _))

/-- The records of a table, by id. -/
def records (p : Pass) (table : Table) : Dict table.Record := p.data.records p.rules table

/-- The records that the sessions of the files refer to. -/
def references (p : Pass) : References := ⟨p.records .tags, p.records .speakers⟩

/-- The index of a table of a database, if it can be read. -/
def index? (p : Pass) (db : Database) (table : Table) : Option Index :=
  if table ∈ p.unreadable then none else (db.fingerprints table).toOption

/-- The plan of the import for a database. -/
def plan (p : Pass) (db : Database) : Plan := p.data.plan p.rules p.mode (p.index? db)

end Pass

end Import

/-- The database after an import. -/
def Database.importPass (db : Database) (p : Import.Pass) : Except SyncError Database :=
  db.commit (p.plan db).batch

/-- The database after imports, one after another. -/
def Database.importPasses (db : Database) : List Import.Pass → Except SyncError Database
  | [] => .ok db
  | p :: rest =>
    match db.importPass p with
    | .ok db => db.importPasses rest
    | .error e => .error e

namespace Import.Pass

variable {p : Pass} {c : Contents} {table : Table}

/-- With all indexes readable the plan is the one for the database. -/
theorem plan_eq_planFor (db : Database) (readable : p.unreadable = []) :
    p.plan db = p.data.planFor p.rules p.mode db := by
  have same : p.index? db = fun table => (db.fingerprints table).toOption := by
    funext table
    simp [index?, readable]
  rw [plan, same, DataSet.planFor]

/-! ## What an import finds changed -/

/-- The index that a table is compared with. -/
def usedIndex? (p : Pass) (c : Contents) (table : Table) : Option Index :=
  if p.mode = .full ∨ table ∈ p.unreadable then none
  else some ((c.rows table).map StoredRow.fingerprint)

/-- What has changed in a table. -/
def diff (p : Pass) (c : Contents) (table : Table) : TableDiff :=
  compare (fingerprints (p.records table)) (p.usedIndex? c table)

/-- The ids of a table that are reported as changed. -/
def touched (p : Pass) (c : Contents) (table : Table) : List String :=
  if p.Brings table.kind then (p.diff c table).touched else []

/-- The ids of speakers and tags that are reported as changed. -/
def changed (p : Pass) (c : Contents) : ChangedReferences :=
  ⟨p.touched c .speakers, p.touched c .tags⟩

/-- Whether a record is written only to follow what it refers to. -/
def follows (p : Pass) (c : Contents) : (table : Table) → table.Record → Bool
  | .sessions, s => (p.changed c).touch s
  | _, _ => false

/-- Whether the row of a record is written; otherwise the stored row stays. -/
def writes (p : Pass) (c : Contents) (table : Table) (id : String) (record : table.Record) : Bool :=
  (p.diff c table).written.contains id || p.follows c table record

/-! ## The contents after an import -/

/-- The rows of records: those that are written, and the stored ones of the others. -/
def settle (old : Dict (StoredRow table)) (records : Dict table.Record)
    (writes : String → table.Record → Bool) : Dict (StoredRow table) :=
  records.mapKeyed fun id record =>
    if writes id record then .of table record else (old.get? id).getD (.of table record)

/-- The rows of a table after an import that brings its kind. -/
def rowsAfter (p : Pass) (c : Contents) (table : Table) : Dict (StoredRow table) :=
  settle (c.rows table) (p.records table) (p.writes c table)

/-- The links of a session in a table of links. -/
def sessionLinksIn (link : LinkTable) (id : String) : Option Session → List Link
  | some s => (s.targets link).map (Link.mk id)
  | none => []

/-- The links of a table after an import that brings sessions: those of sessions that are neither
written nor removed stay, and those of sessions that are written are added. -/
def linksAfter (p : Pass) (c : Contents) (link : LinkTable) : List Link :=
  let diff := p.diff c .sessions
  (if diff.full then []
    else (c.links link).filter fun l => !(diff.written ++ diff.deleted).contains l.sessionId)
  ++ diff.written.flatMap fun id => sessionLinksIn link id ((p.records .sessions).get? id)

/-- The contents after an import. -/
def after (p : Pass) (c : Contents) : Contents where
  rows table := if p.Brings table.kind then p.rowsAfter c table else c.rows table
  links link := if p.Brings .sessions then p.linksAfter c link else c.links link

theorem touched_of_brings (table : Table) (brings : p.Brings table.kind) :
    p.touched c table = (p.diff c table).touched := if_pos brings

/-! ## Which ids are written and removed -/

/-- Whether a table is compared with its index. -/
def Compares (p : Pass) (table : Table) : Prop := p.mode ≠ .full ∧ table ∉ p.unreadable

theorem usedIndex?_eq_some_iff {index : Index} :
    p.usedIndex? c table = some index ↔
      p.Compares table ∧ index = (c.rows table).map StoredRow.fingerprint := by
  rw [usedIndex?, Compares, ← not_or]
  split
  · next unused => exact ⟨fun none => by simp at none, fun used => absurd unused used.1⟩
  · next used => exact ⟨fun same => ⟨used, (Option.some.inj same).symm⟩, fun h => h.2 ▸ rfl⟩

theorem mem_written {id : String} :
    id ∈ (p.diff c table).written ↔
      ∃ record, (p.records table).get? id = some record ∧
        (p.Compares table →
          ((c.rows table).get? id).map StoredRow.fingerprint ≠
            some (table.fingerprintOf record)) := by
  rw [diff, mem_written_compare]
  simp only [fingerprints, Dict.get?_map, Option.map_eq_some_iff, usedIndex?_eq_some_iff]
  constructor
  · rintro ⟨_, ⟨record, there, rfl⟩, other⟩
    refine ⟨record, there, fun used => ?_⟩
    rw [← Dict.get?_map]
    exact other _ ⟨used, rfl⟩
  · rintro ⟨record, there, other⟩
    refine ⟨_, ⟨record, there, rfl⟩, ?_⟩
    rintro _ ⟨used, rfl⟩
    rw [Dict.get?_map]
    exact other used

theorem exists_of_mem_written {id : String} (written : id ∈ (p.diff c table).written) :
    ∃ record, (p.records table).get? id = some record := by
  obtain ⟨record, there, -⟩ := mem_written.1 written
  exact ⟨record, there⟩

theorem mem_deleted {id : String} :
    id ∈ (p.diff c table).deleted ↔
      (p.records table).get? id = none ∧ p.Compares table ∧
        ∃ row, (c.rows table).get? id = some row := by
  rw [diff, mem_deleted_compare]
  simp only [fingerprints, Dict.get?_map, Option.map_eq_none_iff, usedIndex?_eq_some_iff]
  constructor
  · rintro ⟨gone, _, old, ⟨used, rfl⟩, before⟩
    rw [Dict.get?_map, Option.map_eq_some_iff] at before
    obtain ⟨row, there, -⟩ := before
    exact ⟨gone, used, row, there⟩
  · rintro ⟨gone, used, row, there⟩
    exact ⟨gone, _, row.fingerprint, ⟨used, rfl⟩, by rw [Dict.get?_map, there]; rfl⟩

/-- The row of a record that is not written is there, with the record's fingerprint. -/
theorem exists_of_not_mem_written {id : String} {record : table.Record}
    (there : (p.records table).get? id = some record) (kept : id ∉ (p.diff c table).written) :
    p.Compares table ∧ ∃ row, (c.rows table).get? id = some row ∧
      row.fingerprint = table.fingerprintOf record := by
  rw [mem_written] at kept
  by_contra different
  refine kept ⟨record, there, fun used same => different ⟨used, ?_⟩⟩
  exact Option.map_eq_some_iff.1 same

/-- A record that is stored with its fingerprint is not reported as changed. -/
theorem not_mem_touched_of_stored {id : String} {record : table.Record} {row : StoredRow table}
    (used : p.Compares table) (there : (p.records table).get? id = some record)
    (stored : (c.rows table).get? id = some row)
    (same : row.fingerprint = table.fingerprintOf record) : id ∉ (p.diff c table).touched := by
  rw [TableDiff.touched, List.mem_append, not_or]
  constructor
  · intro written
    obtain ⟨other, found, different⟩ := mem_written.1 written
    obtain rfl := Option.some.inj (there.symm.trans found)
    exact different used (by rw [stored, Option.map_some, same])
  · intro gone
    rw [(mem_deleted.1 gone).1] at there
    simp at there

/-- A record whose id is not stored gets its own row. -/
theorem get?_rows_after_of_absent {id : String} (brings : p.Brings table.kind)
    (absent : (c.rows table).get? id = none) :
    ((p.after c).rows table).get? id = ((p.records table).get? id).map (.of table) := by
  show ((if p.Brings table.kind then p.rowsAfter c table else c.rows table).get? id) = _
  rw [if_pos brings, rowsAfter, settle, Dict.get?_mapKeyed, absent]
  exact Option.map_congr fun record _ => ite_self _

theorem rows_after_of_not_brings (absent : ¬p.Brings table.kind) :
    (p.after c).rows table = c.rows table := if_neg absent

theorem compares_of_not_full (kept : (p.diff c table).full = false) : p.Compares table := by
  cases used : p.usedIndex? c table with
  | none =>
    rw [diff, full_of_none used] at kept
    simp at kept
  | some index => exact (usedIndex?_eq_some_iff.1 used).1

/-- If a table is loaded anew although its index is used, there was nothing in it. -/
theorem absent_of_full {id : String} (full : (p.diff c table).full = true)
    (used : p.Compares table) : (c.rows table).get? id = none := by
  have empty : ((c.rows table).map StoredRow.fingerprint).get? id = none :=
    get?_of_full full (usedIndex?_eq_some_iff.2 ⟨used, rfl⟩)
  rwa [Dict.get?_map, Option.map_eq_none_iff] at empty

theorem absent_of_mem_inserted {id : String} (new : id ∈ (p.diff c table).inserted)
    (kept : (p.diff c table).full = false) : (c.rows table).get? id = none := by
  have absent := get?_of_mem_inserted new kept
    (usedIndex?_eq_some_iff.2 ⟨compares_of_not_full kept, rfl⟩)
  rwa [Dict.get?_map, Option.map_eq_none_iff] at absent

theorem stored_of_mem_updated {id : String} (old : id ∈ (p.diff c table).updated) :
    (p.diff c table).full = false ∧ ∃ row, (c.rows table).get? id = some row := by
  obtain ⟨kept, _, _, found, before⟩ := exists_of_mem_updated old
  obtain ⟨-, rfl⟩ := usedIndex?_eq_some_iff.1 found
  rw [Dict.get?_map, Option.map_eq_some_iff] at before
  obtain ⟨row, there, -⟩ := before
  exact ⟨kept, row, there⟩

end Import.Pass

end ConferenceSync
