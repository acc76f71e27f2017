import ConferenceSync.Agenda.PerTable
import ConferenceSync.Import.DataSet
import ConferenceSync.Import.Diff
import ConferenceSync.Import.Mutation
import ConferenceSync.Import.Stats

/-!
# Plans

A plan is the batch that brings the tables of the kinds in a data set up to date, with statistics.
Tables of other kinds are left alone. Links have no fingerprints, so each session that is written
gets its links anew. A session whose own fields are as before is written too if a speaker or a
tag that it refers to has changed, since two of its fields follow from them.

## Main definitions

* `Import.tableMutations`, `Import.linkMutations`, `Import.refreshMutations` — the parts
* `Import.Plan`, `DataSet.plan` — the whole
-/

namespace ConferenceSync

namespace Import

open Agenda

/-- The fingerprints of records by id. -/
def fingerprints {table : Table} (records : Dict table.Record) : Index :=
  records.map table.fingerprintOf

/-- The mutation of a table for one record. -/
def recordMutation? {table : Table} (diff : TableDiff) (e : String × table.Record) :
    Option Mutation :=
  if diff.inserted.contains e.1 then some (.insert ⟨table, e.2⟩)
  else if diff.updated.contains e.1 then some (.update ⟨table, e.2⟩)
  else none

/-- The mutations that bring a table up to date. -/
def tableMutations {table : Table} (records : Dict table.Record) (diff : TableDiff) : Batch :=
  (if diff.full then [.deleteAll table] else [])
  ++ records.entries.filterMap (recordMutation? diff)
  ++ diff.deleted.map (.deleteById table)

/-- The mutations that remove the links of a session. -/
def unlink (id : String) : Batch :=
  LinkTable.all.map fun link => .deleteLinks link id

/-- The mutations that add the links of a session. -/
def relink (id : String) (session : Session) : Batch :=
  session.speakers.map (.insertLink .speakers id) ++ session.tags.map (.insertLink .tags id)

/-- The mutations of the links of one session that is written. -/
def sessionLinks (sessions : Dict Session) (full : Bool) (id : String) : Batch :=
  match sessions.get? id with
  | some session => (if full then [] else unlink id) ++ relink id session
  | none => []

/-- The mutations that bring the links up to date. -/
def linkMutations (sessions : Dict Session) (diff : TableDiff) : Batch :=
  (if diff.full then LinkTable.all.map .deleteAllLinks else [])
  ++ diff.written.flatMap (sessionLinks sessions diff.full)
  ++ diff.deleted.flatMap unlink

/-- The ids of speakers and tags that change. -/
structure ChangedReferences where
  speakers : List String
  tags : List String

/-- Whether a session refers to a speaker or a tag that changes. -/
def ChangedReferences.touch (changed : ChangedReferences) (session : Session) : Bool :=
  session.speakers.any changed.speakers.contains || session.tags.any changed.tags.contains

/-- The mutation of a session that is only to follow what it refers to. -/
def refreshMutation? (diff : TableDiff) (changed : ChangedReferences) (e : String × Session) :
    Option Mutation :=
  if !diff.written.contains e.1 && changed.touch e.2 then some (.update ⟨.sessions, e.2⟩)
  else none

/-- The mutations of sessions that are only to follow what they refer to. -/
def refreshMutations (sessions : Dict Session) (diff : TableDiff) (changed : ChangedReferences) :
    Batch :=
  if diff.full then [] else sessions.entries.filterMap (refreshMutation? diff changed)

/-- How much of what is stored a plan takes into account: each table is compared with its index, or
each table is loaded anew. -/
inductive Mode where
  | incremental
  | full
  deriving DecidableEq, Repr

/-- A batch, and what it does to each table. -/
structure Plan where
  batch : Batch
  stats : Stats
  deriving Repr

end Import

namespace DataSet

open Import

/-- The ids in a table that change, none if its kind is not in the data set. -/
def touchedIds (d : DataSet) (diffs : PerTable fun _ => TableDiff) (table : Table) :
    List String :=
  if d.present.contains table.kind then (diffs.get table).touched else []

/-- The mutations of a kind. -/
def kindMutations (d : DataSet) (records : PerTable fun table => Dict table.Record)
    (diffs : PerTable fun _ => TableDiff) : Kind → Batch
  | .sessions =>
    -- A kind that is not in the data set does not change, whatever its index says.
    let changed := ⟨d.touchedIds diffs .speakers, d.touchedIds diffs .tags⟩
    @tableMutations .sessions records.sessions diffs.sessions
    ++ refreshMutations records.sessions diffs.sessions changed
    ++ linkMutations records.sessions diffs.sessions
  | kind => kind.tables.flatMap fun table => tableMutations (records.get table) (diffs.get table)

/-- The plan for a data set and the indexes of the tables, as far as they can be read. -/
def plan (rules : Agenda.GroupingRules) (d : DataSet) (mode : Mode)
    (index? : Table → Option Index) : Plan :=
  let records := PerTable.ofFn (F := fun table => Dict table.Record) (d.records rules)
  let diffs := PerTable.ofFn fun table =>
    -- In full mode the index is not even asked for.
    compare (fingerprints (records.get table)) (if mode = .full then none else index? table)
  { batch := d.present.flatMap (d.kindMutations records diffs)
    stats := ⟨(d.present.flatMap Kind.tables).map fun table => (table, .of (diffs.get table))⟩ }

end DataSet

end ConferenceSync
