import ConferenceSync.Agenda.PerTable
import ConferenceSync.Error
import ConferenceSync.Store.Row

/-!
# The database

The tables of records and of links, the attendee's schedule, the index for searches, and what is
kept about the synchronization itself. Any table may be missing, and the database may be closed;
either makes every statement fail that needs it.

## Main definitions

* `Relation` — any table of the database
* `Database` — the type, with `Database.initial`
* `Database.rows`, `Database.links`, … — a table that a statement needs, or why it is not there

## Main results

* `Database.rows_eq_ok_iff`, `Database.links_eq_ok_iff` — a statement finds a table exactly if the
  database is open and the table is there
* `Database.tables_setRows_of_ne`, `Database.links?_setRows`, `Database.tables_setLinks`,
  `Database.links?_setLinks_of_ne` — writing a table leaves every other one alone
* `Database.SameAside` — agreement on all but records and links, which writing them keeps
-/

namespace ConferenceSync

/-- Any table of the database. -/
inductive Relation where
  | records (table : Table)
  | links (link : LinkTable)
  | schedule
  | searchIndex
  | metadata
  deriving DecidableEq, Repr

/-- The name of a table. -/
def Relation.name : Relation → String
  | records table => table.name
  | links link => link.name
  | schedule => "my_schedule"
  | searchIndex => "search_index"
  | metadata => "sync_metadata"

/-- All tables of the database. -/
def Relation.all : List Relation :=
  Table.all.map records ++ LinkTable.all.map links ++ [schedule, searchIndex, metadata]

/-- The table with a name. -/
def Relation.ofName? (s : String) : Option Relation :=
  all.find? fun r => r.name == s

/-- A link from a session to a speaker or a tag. -/
structure Link where
  sessionId : String
  targetId : String
  deriving DecidableEq, Repr

/-- A database. A table that is `none` is missing. Rows and texts for searches are listed by id,
links once each; a mark of the attendee's schedule is 1 for a session in it and 0 for one that has
been taken out. -/
structure Database where
  closed : Bool
  tables : PerTable fun table => Option (Dict (StoredRow table))
  speakerLinks : Option (List Link)
  tagLinks : Option (List Link)
  schedule : Option (Dict Int)
  searchIndex : Option (Dict String)
  metadata : Option (Dict String)

namespace Database

/-- A new database, with all tables and no rows. -/
def initial : Database where
  closed := false
  tables := .ofFn fun _ => some .empty
  speakerLinks := some []
  tagLinks := some []
  schedule := some .empty
  searchIndex := some .empty
  metadata := some .empty

/-- What a statement finds when it needs a table. -/
def need {α : Type} (db : Database) (relation : Relation) (content : Option α) :
    Except StorageCause α :=
  if db.closed then .error .closed
  else
    match content with
    | some a => .ok a
    | none => .error (.tableMissing relation.name)

/-- The rows of a table. -/
def rows (db : Database) (table : Table) : Except StorageCause (Dict (StoredRow table)) :=
  db.need (.records table) (db.tables.get table)

/-- The database with other rows in a table. -/
def setRows (db : Database) (table : Table) (rows : Dict (StoredRow table)) : Database :=
  { db with tables := db.tables.set table (some rows) }

/-- The links of a table, if it is there. -/
def links? (db : Database) : LinkTable → Option (List Link)
  | .speakers => db.speakerLinks
  | .tags => db.tagLinks

/-- The links of a table. -/
def links (db : Database) (link : LinkTable) : Except StorageCause (List Link) :=
  db.need (.links link) (db.links? link)

/-- The database with other links in a table. -/
def setLinks (db : Database) : LinkTable → List Link → Database
  | .speakers, links => { db with speakerLinks := some links }
  | .tags, links => { db with tagLinks := some links }

/-- The attendee's schedule. -/
def scheduleRows (db : Database) : Except StorageCause (Dict Int) :=
  db.need .schedule db.schedule

/-- The index for searches. -/
def searchRows (db : Database) : Except StorageCause (Dict String) :=
  db.need .searchIndex db.searchIndex

/-- What is kept about the synchronization. -/
def metadataRows (db : Database) : Except StorageCause (Dict String) :=
  db.need .metadata db.metadata

/-- The fingerprints of the rows of a table, by id. -/
def fingerprints (db : Database) (table : Table) : Except SyncError (Dict String) :=
  match db.rows table with
  | .ok rows => .ok (rows.map StoredRow.fingerprint)
  | .error cause => .error (.ofStorage ("read fingerprints of " ++ table.name) cause)

/-- Whether a table is there. -/
def has (db : Database) : Relation → Bool
  | .records table => (db.tables.get table).isSome
  | .links link => (db.links? link).isSome
  | .schedule => db.schedule.isSome
  | .searchIndex => db.searchIndex.isSome
  | .metadata => db.metadata.isSome

/-- The database without a table. -/
def remove (db : Database) : Relation → Database
  | .records table => { db with tables := db.tables.set table none }
  | .links .speakers => { db with speakerLinks := none }
  | .links .tags => { db with tagLinks := none }
  | .schedule => { db with schedule := none }
  | .searchIndex => { db with searchIndex := none }
  | .metadata => { db with metadata := none }

/-- The database without a table that has to be there. -/
def drop (db : Database) (relation : Relation) : Except SyncError Database :=
  if db.closed then .error (.ofStorage "drop" .closed)
  else if db.has relation then .ok (db.remove relation)
  else .error (.ofStorage "drop" (.tableMissing relation.name))

/-! ### Reading what has been written -/

section Lemmas

variable {db : Database} {table : Table} {link : LinkTable}

theorem need_eq_ok_iff {α : Type} {relation : Relation} {content : Option α} {a : α} :
    db.need relation content = .ok a ↔ db.closed = false ∧ content = some a := by
  unfold need
  cases db.closed <;> cases content <;> simp

theorem rows_eq_ok_iff {rows : Dict (StoredRow table)} :
    db.rows table = .ok rows ↔ db.closed = false ∧ db.tables.get table = some rows :=
  need_eq_ok_iff

theorem links_eq_ok_iff {links : List Link} :
    db.links link = .ok links ↔ db.closed = false ∧ db.links? link = some links :=
  need_eq_ok_iff

@[simp] theorem tables_setRows_self (rows : Dict (StoredRow table)) :
    (db.setRows table rows).tables.get table = some rows :=
  PerTable.get_set_self ..

theorem tables_setRows_of_ne {other : Table} (rows : Dict (StoredRow table))
    (different : other ≠ table) :
    (db.setRows table rows).tables.get other = db.tables.get other :=
  PerTable.get_set_of_ne _ _ different.symm

@[simp] theorem links?_setRows (rows : Dict (StoredRow table)) :
    (db.setRows table rows).links? link = db.links? link := by
  cases link <;> rfl

@[simp] theorem tables_setLinks (links : List Link) :
    (db.setLinks link links).tables = db.tables := by
  cases link <;> rfl

@[simp] theorem links?_setLinks_self (links : List Link) :
    (db.setLinks link links).links? link = some links := by
  cases link <;> rfl

theorem links?_setLinks_of_ne {other : LinkTable} (links : List Link) (different : other ≠ link) :
    (db.setLinks link links).links? other = db.links? other := by
  cases link <;> cases other <;> first | rfl | exact absurd rfl different

end Lemmas

/-! ### What lies beside records and links -/

/-- Two databases agree on all but their records and links. -/
structure SameAside (before after : Database) : Prop where
  closed : after.closed = before.closed
  schedule : after.schedule = before.schedule
  searchIndex : after.searchIndex = before.searchIndex
  metadata : after.metadata = before.metadata

theorem SameAside.refl (db : Database) : SameAside db db := ⟨rfl, rfl, rfl, rfl⟩

theorem SameAside.trans {a b c : Database} (first : SameAside a b) (second : SameAside b c) :
    SameAside a c where
  closed := second.closed.trans first.closed
  schedule := second.schedule.trans first.schedule
  searchIndex := second.searchIndex.trans first.searchIndex
  metadata := second.metadata.trans first.metadata

theorem sameAside_setRows (db : Database) (table : Table) (rows : Dict (StoredRow table)) :
    SameAside db (db.setRows table rows) := ⟨rfl, rfl, rfl, rfl⟩

theorem sameAside_setLinks (db : Database) (link : LinkTable) (links : List Link) :
    SameAside db (db.setLinks link links) := by
  cases link <;> exact ⟨rfl, rfl, rfl, rfl⟩

end Database

end ConferenceSync
