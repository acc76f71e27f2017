import ConferenceSync.Agenda.Kind
import ConferenceSync.Import.Diff

/-!
# Statistics of an import

## Main definitions

* `TableStats` — how many rows of a table are new, changed, as before and gone
* `Stats` — these numbers for the tables of an import
* `Stats.text`, `Stats.totalChanged` — the numbers in one line, and the number of all changes
-/

namespace ConferenceSync.Import

/-- What an import does to a table: whether it is loaded anew, and the numbers of rows that are new,
changed, as before and gone. -/
structure TableStats where
  full : Bool
  inserted : Nat
  updated : Nat
  unchanged : Nat
  deleted : Nat
  deriving DecidableEq, Repr

/-- The numbers of a comparison. -/
def TableStats.of (diff : TableDiff) : TableStats where
  full := diff.full
  inserted := diff.inserted.length
  updated := diff.updated.length
  unchanged := diff.unchanged
  deleted := diff.deleted.length

/-- What an import does to tables, in the order of import. -/
structure Stats where
  tables : List (Table × TableStats)
  deriving DecidableEq, Repr

namespace Stats

/-- The numbers of a table. -/
def get? (stats : Stats) (table : Table) : Option TableStats :=
  stats.tables.lookup table

/-- The numbers of changes in one line, such as `rooms+2~1-0 tags+0~0-3`. -/
def text (stats : Stats) : String :=
  " ".intercalate <| stats.tables.map fun (table, s) =>
    table.name ++ "+" ++ toString s.inserted ++ "~" ++ toString s.updated ++ "-" ++
      toString s.deleted

/-- The number of all changes. -/
def totalChanged (stats : Stats) : Nat :=
  stats.tables.foldl (fun n (_, s) => n + (s.inserted + s.updated + s.deleted)) 0

end Stats

end ConferenceSync.Import
