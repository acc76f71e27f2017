import ConferenceSync.Agenda.Block
import ConferenceSync.Agenda.Kind
import ConferenceSync.Agenda.Session
import ConferenceSync.Agenda.Venue
import ConferenceSync.Agenda.Video

/-!
# Records and their tables

Each table holds records of one type. A row is a record together with its table.

## Main definitions

* `Table.Record` — the type of the records of a table
* `Table.idOf`, `Table.fieldsOf`, `Table.fingerprintOf` — what every record has
* `Row` — a record of any table
* `recordsOf` — the records of a table in the sections of data files, by id

## Main results

* `id_of_mem_byId` — a record is kept under its own id
-/

namespace ConferenceSync

open Agenda

/-- The type of the records of a table. -/
abbrev Table.Record : Table → Type
  | .rooms => Room
  | .blocks => Block
  | .tags => Tag
  | .speakers => Speaker
  | .sessions => Session
  | .searchSuggestions => SearchSuggestion
  | .mapMarkers => MapMarker
  | .mapTiles => MapTile
  | .hashtags => Hashtag
  | .videos => Video

instance (table : Table) : DecidableEq table.Record := by
  cases table <;> infer_instance

instance (table : Table) : Repr table.Record := by
  cases table <;> infer_instance

/-- The id of a record. -/
def Table.idOf : (table : Table) → table.Record → String
  | .rooms => Room.id
  | .blocks => Block.id
  | .tags => Tag.id
  | .speakers => Speaker.id
  | .sessions => Session.id
  | .searchSuggestions => SearchSuggestion.id
  | .mapMarkers => MapMarker.id
  | .mapTiles => MapTile.id
  | .hashtags => Hashtag.id
  | .videos => Video.id

/-- The fields that tell versions of a record apart. -/
def Table.fieldsOf : (table : Table) → table.Record → List Digest.Field
  | .rooms => Room.fields
  | .blocks => Block.fields
  | .tags => Tag.fields
  | .speakers => Speaker.fields
  | .sessions => Session.fields
  | .searchSuggestions => SearchSuggestion.fields
  | .mapMarkers => MapMarker.fields
  | .mapTiles => MapTile.fields
  | .hashtags => Hashtag.fields
  | .videos => Video.fields

/-- The import fingerprint of a record. -/
def Table.fingerprintOf (table : Table) (record : table.Record) : String :=
  Digest.fingerprint (table.fieldsOf record)

/-- A record of any table. -/
structure Row where
  table : Table
  record : table.Record
  deriving Repr

/-- The id of a row. -/
def Row.id (row : Row) : String :=
  row.table.idOf row.record

/-- The import fingerprint of a row. -/
def Row.fingerprint (row : Row) : String :=
  row.table.fingerprintOf row.record

/-! ## Records in data files -/

/-- Records by their ids. Of two records with one id the later one is kept. -/
def Table.byId (table : Table) (records : List table.Record) : Dict table.Record :=
  Dict.ofList (records.map fun record => (table.idOf record, record))

/-- The items of array sections that are records. -/
def readItems {α : Type} (read? : Json → Option α) (sections : List Json) : List α :=
  sections.flatMap fun part => part.items.filterMap read?

/-- What sessions refer to in the sections of data files. -/
def referencesOf (sections : Kind → List Json) : References where
  tags := Table.tags.byId (readItems Tag.ofJson? (sections .tags))
  speakers := Table.speakers.byId (readItems Speaker.ofJson? (sections .speakers))

/-- The records of a table in the sections of data files, in the order in which they occur. -/
def readRecords (rules : GroupingRules) (sections : Kind → List Json) :
    (table : Table) → List table.Record
  | .rooms => readItems Room.ofJson? (sections .rooms)
  | .blocks => readItems Block.ofJson? (sections .blocks)
  | .tags => readItems Tag.ofJson? (sections .tags)
  | .speakers => readItems Speaker.ofJson? (sections .speakers)
  | .sessions =>
    (readItems Session.ofJson? (sections .sessions)).map
      (Session.withReferences rules (referencesOf sections))
  | .searchSuggestions => readItems SearchSuggestion.ofJson? (sections .searchSuggestions)
  | .mapMarkers => (sections .map).flatMap markersOfMap
  | .mapTiles => (sections .map).flatMap tilesOfMap
  | .hashtags => readItems Hashtag.ofJson? (sections .hashtags)
  | .videos => readItems Video.ofJson? (sections .videos)

/-- The records of a table in the sections of data files, by id. -/
def recordsOf (rules : GroupingRules) (sections : Kind → List Json) (table : Table) :
    Dict table.Record :=
  table.byId (readRecords rules sections table)

theorem id_of_mem_foldl {table : Table} {records : List table.Record} {d : Dict table.Record}
    (own : ∀ k r, d.get? k = some r → table.idOf r = k) {k : String} {r : table.Record}
    (h : ((records.map fun record => (table.idOf record, record)).foldl
      (fun d e => d.insert e.1 e.2) d).get? k = some r) : table.idOf r = k := by
  induction records generalizing d with
  | nil => exact own k r h
  | cons record rest ih =>
    refine ih (fun j s hs => ?_) h
    rw [Dict.get?_insert] at hs
    split at hs
    · next same => obtain rfl := Option.some.inj hs; exact same
    · exact own j s hs

/-- A record is kept under its own id. -/
theorem id_of_mem_byId {table : Table} {records : List table.Record} {k : String}
    {r : table.Record} (h : (table.byId records).get? k = some r) : table.idOf r = k :=
  id_of_mem_foldl (d := .empty) (fun _ _ h => by simp at h) h

end ConferenceSync
