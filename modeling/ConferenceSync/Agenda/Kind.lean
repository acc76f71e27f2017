/-!
# The kinds of conference data

A data file holds one section for each kind of data. A kind is kept in one table, but the map in
two; which speakers and tags a session has is kept in two tables of links.

## Main definitions

* `Kind` — a kind of data, with its key in a data file and its path for observers
* `Kind.importOrder` — the kinds in the order in which they are imported
* `Table`, `LinkTable` — the tables, with their names
-/

namespace ConferenceSync

/-- A kind of conference data. The kind `map` is that of the markers and tiles of the map. -/
inductive Kind where
  | rooms
  | blocks
  | tags
  | speakers
  | sessions
  | searchSuggestions
  | map
  | hashtags
  | videos
  deriving DecidableEq, Repr, Inhabited

/-- A table of records. -/
inductive Table where
  | rooms
  | blocks
  | tags
  | speakers
  | sessions
  | searchSuggestions
  | mapMarkers
  | mapTiles
  | hashtags
  | videos
  deriving DecidableEq, Repr, Inhabited

/-- A table of links from sessions. -/
inductive LinkTable where
  | speakers
  | tags
  deriving DecidableEq, Repr, Inhabited

namespace Kind

/-- The kinds in the order of their import: what sessions refer to comes before them. -/
def importOrder : List Kind :=
  [rooms, blocks, tags, speakers, sessions, searchSuggestions, map, hashtags, videos]

/-- The key of the kind's section in a data file. -/
def key : Kind → String
  | rooms => "rooms"
  | blocks => "blocks"
  | tags => "tags"
  | speakers => "speakers"
  | sessions => "sessions"
  | searchSuggestions => "search_suggestions"
  | map => "map"
  | hashtags => "hashtags"
  | videos => "video_library"

/-- The path under which observers hear of changes. -/
def path : Kind → String
  | searchSuggestions => "search_suggest_query"
  | videos => "videos"
  | kind => kind.key

/-- The kind whose section has a key. -/
def ofKey? (s : String) : Option Kind :=
  importOrder.find? fun kind => kind.key == s

/-- The place of the kind in the order of import. -/
def position (kind : Kind) : Nat :=
  importOrder.idxOf kind

/-- The tables in which the kind is kept. -/
def tables : Kind → List Table
  | rooms => [.rooms]
  | blocks => [.blocks]
  | tags => [.tags]
  | speakers => [.speakers]
  | sessions => [.sessions]
  | searchSuggestions => [.searchSuggestions]
  | map => [.mapMarkers, .mapTiles]
  | hashtags => [.hashtags]
  | videos => [.videos]

theorem mem_importOrder (kind : Kind) : kind ∈ importOrder := by
  cases kind <;> decide

end Kind

namespace Table

/-- The name of the table. -/
def name : Table → String
  | rooms => "rooms"
  | blocks => "blocks"
  | tags => "tags"
  | speakers => "speakers"
  | sessions => "sessions"
  | searchSuggestions => "search_suggestions"
  | mapMarkers => "map_markers"
  | mapTiles => "map_tiles"
  | hashtags => "hashtags"
  | videos => "videos"

/-- The kind of the records in the table. -/
def kind : Table → Kind
  | rooms => .rooms
  | blocks => .blocks
  | tags => .tags
  | speakers => .speakers
  | sessions => .sessions
  | searchSuggestions => .searchSuggestions
  | mapMarkers => .map
  | mapTiles => .map
  | hashtags => .hashtags
  | videos => .videos

/-- All tables, in the order in which they are imported. -/
def all : List Table :=
  Kind.importOrder.flatMap Kind.tables

/-- The table with a name. -/
def ofName? (s : String) : Option Table :=
  all.find? fun table => table.name == s

theorem mem_all (table : Table) : table ∈ all := by
  cases table <;> decide

end Table

namespace LinkTable

/-- The tables of links, in the order in which they are written. -/
def all : List LinkTable := [speakers, tags]

/-- The name of the table. -/
def name : LinkTable → String
  | speakers => "session_speakers"
  | tags => "session_tags"

/-- The column of the record that a link leads to. -/
def targetColumn : LinkTable → String
  | speakers => "speaker_id"
  | tags => "tag_id"

/-- The table of links with a name. -/
def ofName? (s : String) : Option LinkTable :=
  all.find? fun link => link.name == s

end LinkTable

end ConferenceSync
