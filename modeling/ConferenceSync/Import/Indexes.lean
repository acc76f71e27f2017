import ConferenceSync.Agenda.PerTable
import ConferenceSync.Import.Diff
import ConferenceSync.Import.Mutation

/-!
# Indexes that follow batches

The indexes of all tables, kept up to date by following the mutations of each batch. Links have no
index.

## Main definitions

* `Indexes` — an index for each table
* `Indexes.follow`, `Indexes.followAll` — the indexes after a mutation, after a batch
* `Indexes.tableOf?` — the table whose index a mutation changes
-/

namespace ConferenceSync.Import

/-- An index for each table. -/
abbrev Indexes := PerTable fun _ => Index

namespace Indexes

/-- No rows in any table. -/
def empty : Indexes := PerTable.ofFn fun _ => Dict.empty

/-- The table whose index a mutation changes, if there is one. -/
def tableOf? : Mutation → Option Table
  | .deleteAll table => some table
  | .deleteById table _ => some table
  | .insert row => some row.table
  | .update row => some row.table
  | _ => none

/-- The indexes after a mutation. -/
def follow (indexes : Indexes) : Mutation → Indexes
  | .deleteAll table => indexes.set table .empty
  | .deleteById table id => indexes.set table ((indexes.get table).erase id)
  | .insert row => indexes.set row.table ((indexes.get row.table).insert row.id row.fingerprint)
  | .update row => indexes.set row.table ((indexes.get row.table).insert row.id row.fingerprint)
  | _ => indexes

/-- The indexes after a batch. -/
def followAll (indexes : Indexes) (batch : Batch) : Indexes :=
  batch.foldl follow indexes

end Indexes

end ConferenceSync.Import
