import ConferenceSync.Agenda.Record

/-!
# Stored rows

A row as the database keeps it. A session has no column for its speakers, who are kept as links,
and one text column for its tags; all other records are kept as they are, but for the sign of a
coordinate that is zero.

## Main definitions

* `SessionColumns`, `Table.Columns` — the columns of a row
* `Table.columnsOf` — the columns of a record
* `StoredRow` — columns with the fingerprint of the record
-/

namespace ConferenceSync

open Agenda

/-- The columns of a session. The ids of its tags are separated by commas. -/
structure SessionColumns where
  id : String
  title : String
  description : String
  url : String
  startMillis : Int
  endMillis : Int
  roomId : String
  tags : String
  mainTag : String
  hashtag : String
  isLivestream : Bool
  youtubeUrl : String
  captionsUrl : String
  photoUrl : String
  color : Int
  relatedContent : String
  speakerNames : String
  groupingOrder : Int
  deriving DecidableEq, Repr

/-- The columns of a session's row. -/
def SessionColumns.of (s : Session) : SessionColumns :=
  { s with tags := ",".intercalate s.tags }

/-- A coordinate as it is kept: zero has no sign. Coordinates come from JSON, in which every number
is one, so there is none that would be kept as missing. -/
def storedReal (x : Number.Binary64) : Number.Binary64 :=
  if x.isZero then .zero false else x

/-- The columns of a marker's row. -/
def storedMarker (m : MapMarker) : MapMarker :=
  { m with latitude := storedReal m.latitude, longitude := storedReal m.longitude }

namespace Table

/-- The type of the columns of a table's rows. -/
abbrev Columns : Table → Type
  | .rooms => Room
  | .blocks => Block
  | .tags => Tag
  | .speakers => Speaker
  | .sessions => SessionColumns
  | .searchSuggestions => SearchSuggestion
  | .mapMarkers => MapMarker
  | .mapTiles => MapTile
  | .hashtags => Hashtag
  | .videos => Video

instance (table : Table) : DecidableEq table.Columns := by
  cases table <;> infer_instance

instance (table : Table) : Repr table.Columns := by
  cases table <;> infer_instance

/-- The columns of a record's row. -/
def columnsOf : (table : Table) → table.Record → table.Columns
  | .rooms => fun r => r
  | .blocks => fun b => b
  | .tags => fun t => t
  | .speakers => fun s => s
  | .sessions => SessionColumns.of
  | .searchSuggestions => fun s => s
  | .mapMarkers => storedMarker
  | .mapTiles => fun t => t
  | .hashtags => fun h => h
  | .videos => fun v => v

end Table

/-- A row of a table, with the fingerprint of the record that was written last. -/
structure StoredRow (table : Table) where
  columns : table.Columns
  fingerprint : String
  deriving DecidableEq, Repr

/-- The row of a record. -/
def StoredRow.of (table : Table) (record : table.Record) : StoredRow table :=
  ⟨table.columnsOf record, table.fingerprintOf record⟩

end ConferenceSync
