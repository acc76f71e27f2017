import ConferenceSync.Store.Database

/-!
# Queries

What other parts of the program read from the tables. Lists are ordered by columns that depend on
the query; rows that agree in all of them are in the order of their ids.

## Main definitions

* `QueryFailure` — a query that could not be answered
* `Query.sessions`, `Query.speakers`, … — all rows of a table
* `Query.session?`, … — the row with an id
* `Query.speakersOf`, `Query.tagsOf` — what a session is linked to
* `Query.categoriesInUse`, `Query.sessionsWithTags` — sessions by a selection of tags
-/

namespace ConferenceSync

/-- A query that could not be answered: what could not be done, and why. -/
structure QueryFailure where
  task : String
  cause : StorageCause
  deriving DecidableEq, Repr

/-- Names what could not be done. -/
def orFailed {α : Type} (task : String) : Except StorageCause α → Except QueryFailure α
  | .ok a => .ok a
  | .error cause => .error ⟨task, cause⟩

namespace Query

open Agenda

/-- Values in ascending order; equal ones stay in the order in which they are. -/
def orderBy {α : Type} (order : α → α → Ordering) (values : List α) : List α :=
  values.mergeSort fun a b => (order a b).isLE

/-- Rows in an order of their columns, and of their ids where that leaves them equal. -/
def inOrder {table : Table} (order : table.Columns → table.Columns → Ordering)
    (rows : Dict (StoredRow table)) : List (StoredRow table) :=
  orderBy (fun a b => order a.columns b.columns) rows.values

/-- Sessions by start, group and title. -/
def byAgenda (a b : SessionColumns) : Ordering :=
  (compare a.startMillis b.startMillis).then
    ((compare a.groupingOrder b.groupingOrder).then (compare a.title b.title))

/-- Sessions by start and title. -/
def byStart (a b : SessionColumns) : Ordering :=
  (compare a.startMillis b.startMillis).then (compare a.title b.title)

/-- Tags by category and place in it. -/
def byCategory (a b : Tag) : Ordering :=
  (compare a.category b.category).then (compare a.orderInCategory b.orderInCategory)

/-- Tags by category, place in it and name. -/
def byCategoryAndName (a b : Tag) : Ordering :=
  (byCategory a b).then (compare a.name b.name)

/-- Videos by year, the latest first, and title. -/
def byYear (a b : Video) : Ordering :=
  (compare b.year a.year).then (compare a.title b.title)

/-- All rows of a table in an order. -/
def list (db : Database) (table : Table) (order : table.Columns → table.Columns → Ordering) :
    Except QueryFailure (List (StoredRow table)) :=
  orFailed ("failed to list " ++ table.name) <| (db.rows table).map (inOrder order)

/-- All sessions. -/
def sessions (db : Database) : Except QueryFailure (List (StoredRow .sessions)) :=
  list db .sessions byAgenda

/-- All speakers, by name. -/
def speakers (db : Database) : Except QueryFailure (List (StoredRow .speakers)) :=
  list db .speakers fun a b => compare (Speaker.name a) (Speaker.name b)

/-- All rooms, by name. -/
def rooms (db : Database) : Except QueryFailure (List (StoredRow .rooms)) :=
  list db .rooms fun a b => compare (Room.name a) (Room.name b)

/-- All tags. -/
def tags (db : Database) : Except QueryFailure (List (StoredRow .tags)) :=
  list db .tags byCategoryAndName

/-- All blocks, by start. -/
def blocks (db : Database) : Except QueryFailure (List (StoredRow .blocks)) :=
  list db .blocks fun a b => compare (Block.startMillis a) (Block.startMillis b)

/-- All hashtags, by their place. -/
def hashtags (db : Database) : Except QueryFailure (List (StoredRow .hashtags)) :=
  list db .hashtags fun a b => compare (Hashtag.ordering a) (Hashtag.ordering b)

/-- All videos. -/
def videos (db : Database) : Except QueryFailure (List (StoredRow .videos)) :=
  list db .videos byYear

/-- The row with an id; `noun` names it if it cannot be read. -/
def row? (db : Database) (table : Table) (noun id : String) :
    Except QueryFailure (Option (StoredRow table)) :=
  orFailed ("failed to load " ++ noun ++ " " ++ id) <| (db.rows table).map (·.get? id)

/-- The session with an id. -/
def session? (db : Database) (id : String) : Except QueryFailure (Option (StoredRow .sessions)) :=
  row? db .sessions "session" id

/-- The speaker with an id. -/
def speaker? (db : Database) (id : String) : Except QueryFailure (Option (StoredRow .speakers)) :=
  row? db .speakers "speaker" id

/-- The room with an id. -/
def room? (db : Database) (id : String) : Except QueryFailure (Option (StoredRow .rooms)) :=
  row? db .rooms "room" id

/-- The tag with an id. -/
def tag? (db : Database) (id : String) : Except QueryFailure (Option (StoredRow .tags)) :=
  row? db .tags "tag" id

/-- The rows that a session is linked to, in an order. -/
def linked (db : Database) (table : Table) (link : LinkTable) (sessionId : String)
    (order : table.Columns → table.Columns → Ordering) :
    Except StorageCause (List (StoredRow table)) := do
  let rows ← db.rows table
  let links ← db.links link
  return inOrder order (rows.filter fun id _ => links.contains ⟨sessionId, id⟩)

/-- The speakers of a session, by name. -/
def speakersOf (db : Database) (sessionId : String) :
    Except QueryFailure (List (StoredRow .speakers)) :=
  orFailed ("failed to load speakers of session " ++ sessionId) <|
    linked db .speakers .speakers sessionId fun a b => compare (Speaker.name a) (Speaker.name b)

/-- The tags of a session. -/
def tagsOf (db : Database) (sessionId : String) : Except QueryFailure (List (StoredRow .tags)) :=
  orFailed ("failed to load tags of session " ++ sessionId) <|
    linked db .tags .tags sessionId byCategory

/-- The categories of stored tags that are selected, each once. -/
def categoriesOf (tags : Dict (StoredRow .tags)) (selected : String → Bool) : List String :=
  ((tags.filter fun id _ => selected id).values.map fun row => Tag.category row.columns).eraseDups

/-- The number of parameters that a statement may have. -/
def mostParameters : Nat := 32766

/-- The number of categories among the tags of a selection, at least 1. Each tag is a parameter. -/
def categoriesInUse (db : Database) (tagIds : List String) : Except QueryFailure Nat :=
  if tagIds.isEmpty then .ok 1
  else
    orFailed "failed to count tag categories" <|
      if mostParameters < tagIds.length then .error .tooManyParameters
      else (db.rows .tags).map fun tags => max 1 (categoriesOf tags tagIds.contains).length

/-- The sessions that have a selected tag in each of the categories in use. Without a selection
these are all sessions. -/
def sessionsWithTags (db : Database) (tagIds : List String) :
    Except QueryFailure (List (StoredRow .sessions)) :=
  if tagIds.isEmpty then sessions db
  else
    match categoriesInUse db tagIds with
    | .error failure => .error failure
    | .ok categories =>
      orFailed "failed to filter sessions by tags" <| do
        -- The number of categories is a parameter too.
        if mostParameters < tagIds.length + 1 then .error .tooManyParameters
        let rows ← db.rows .sessions
        let links ← db.links .tags
        let tags ← db.rows .tags
        -- A session cannot have more categories than there are, so "at least" means "all".
        return inOrder byAgenda <| rows.filter fun id _ =>
          categories ≤ (categoriesOf tags fun tagId =>
            tagIds.contains tagId && links.contains ⟨id, tagId⟩).length

end Query

end ConferenceSync
