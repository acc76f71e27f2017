import ConferenceSync.Store.Commit
import ConferenceSync.Store.Query

/-!
# Whole tables

## Main definitions

* `Content`, `Database.content` — the rows of any table, ordered by their keys
-/

namespace ConferenceSync

/-- The rows of a table. -/
inductive Content where
  | records (table : Table) (rows : List (StoredRow table))
  | links (link : LinkTable) (links : List Link)
  | schedule (rows : List (String × Bool))
  | searchIndex (rows : List (String × String))
  | metadata (rows : List (String × String))

/-- Links by session and target. -/
def Link.byKey (a b : Link) : Ordering :=
  (compare a.sessionId b.sessionId).then (compare a.targetId b.targetId)

/-- The rows of a table, ordered by their keys. -/
def Database.content (db : Database) : Relation → Except SyncError Content
  | .records table =>
    attempt "dump" <| (db.rows table).map fun rows => .records table rows.values
  | .links link =>
    attempt "dump" <| (db.links link).map fun links => .links link (Query.orderBy Link.byKey links)
  | .schedule =>
    attempt "dump" <| db.scheduleRows.map fun marks => .schedule (marks.map (· != 0)).entries
  | .searchIndex => attempt "dump" <| db.searchRows.map fun rows => .searchIndex rows.entries
  | .metadata => attempt "dump" <| db.metadataRows.map fun rows => .metadata rows.entries

end ConferenceSync
