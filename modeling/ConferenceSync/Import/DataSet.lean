import ConferenceSync.Agenda.Record
import ConferenceSync.Error
import ConferenceSync.Json.Reader

/-!
# Data sets

A data set is what the data files of one pass hold: for each kind of data the sections of the
files, in the order of the files.

## Main definitions

* `DataSet` — the type
* `DataSet.add` — a data set with the text of one file more
* `DataSet.sections`, `DataSet.present` — the sections of a kind, the kinds that have any
* `DataSet.records` — the records of a table
-/

namespace ConferenceSync

/-- The sections of data files with their kinds, in the order of the files, which are counted. -/
structure DataSet where
  parts : List (Kind × Json)
  files : Nat

namespace DataSet

/-- No files. -/
def empty : DataSet := ⟨[], 0⟩

/-- The sections of a file, given as the members of an object. Members under unknown keys are
passed over. -/
def partsOf (members : List (String × Json)) : List (Kind × Json) :=
  members.filterMap fun (key, value) => (Kind.ofKey? key).map (·, value)

/-- A data set with one file more. -/
def addMembers (d : DataSet) (members : List (String × Json)) : DataSet :=
  ⟨d.parts ++ partsOf members, d.files + 1⟩

/-- A data set with the text of one file more. A text that is no object is an error. -/
def add (d : DataSet) (name text : String) : Except SyncError DataSet :=
  match Json.objectOfText text with
  | .ok members => .ok (d.addMembers members)
  | .error fault => .error (.unreadable ("data file " ++ name) fault)

/-- A data set with the texts of more files, up to the first that is an error. -/
def addAll (d : DataSet) : List (String × String) → Except SyncError DataSet
  | [] => .ok d
  | (name, text) :: rest =>
    match d.add name text with
    | .ok d => d.addAll rest
    | .error e => .error e

/-- A data set with the texts of more files, passing over those that are errors; and what became of
each file. -/
def addEach (d : DataSet) : List (String × String) → DataSet × List (Except SyncError Unit)
  | [] => (d, [])
  | (name, text) :: rest =>
    match d.add name text with
    | .ok d => let (d, results) := d.addEach rest; (d, .ok () :: results)
    | .error e => let (d, results) := d.addEach rest; (d, .error e :: results)

/-- The sections of a kind, in the order of the files. -/
def sections (d : DataSet) (kind : Kind) : List Json :=
  (d.parts.filter fun part => part.1 = kind).map Prod.snd

/-- The kinds with a section, in the order of import. -/
def present (d : DataSet) : List Kind :=
  Kind.importOrder.filter fun kind => d.parts.any fun part => part.1 = kind

/-- The records of a table, by id. -/
def records (rules : Agenda.GroupingRules) (d : DataSet) (table : Table) : Dict table.Record :=
  recordsOf rules d.sections table

end DataSet

end ConferenceSync
