import ConferenceSync.Store.Query
import ConferenceSync.Text.Pattern

/-!
# Searching sessions

The index for searches holds one text for each session. It is made anew from the sessions as a
whole.

## Main definitions

* `searchText` — the text in which a session is searched
* `Database.rebuildSearchIndex` — the database with the index made anew
* `Query.search` — the sessions in whose text a query occurs
-/

namespace ConferenceSync

/-- The text in which a session is searched: what is said about it, with ASCII letters in lower
case. -/
def searchText (s : SessionColumns) : String :=
  let tags := String.ofList (s.tags.toList.map fun c => if c = ',' then ' ' else c)
  Text.lowerAscii (" ".intercalate [s.title, s.description, s.speakerNames, s.hashtag, tags])

/-- The database with the index for searches made anew, and the number of sessions in it. -/
def Database.rebuildSearchIndex (db : Database) : Except QueryFailure (Database × Nat) :=
  if db.closed then .error ⟨"failed to begin search index rebuild", .closed⟩
  else
    match db.searchRows with
    | .error cause => .error ⟨"failed to clear search index", cause⟩
    | .ok _ =>
      orFailed "failed to fill search index" <|
        (db.rows .sessions).map fun rows =>
          ({ db with searchIndex := some (rows.map fun row => searchText row.columns) }, rows.size)

/-- The number of octets that a pattern with its two percent signs may have. -/
def longestPattern : Nat := 50000

/-- The sessions in whose text a query occurs, which is put into lower case and read as a pattern.
A blank query finds nothing. The length of a pattern counts as soon as a text is compared with
it. -/
def Query.search (db : Database) (query : String) :
    Except QueryFailure (List (StoredRow .sessions)) :=
  let needle := Text.lower (Text.trim query)
  if needle == "" then .ok []
  else
    orFailed "failed to search sessions" <| do
      let rows ← db.rows .sessions
      let texts ← db.searchRows
      if longestPattern < needle.utf8ByteSize + 2 && !texts.isEmpty then
        .error .patternTooLong
      return inOrder byStart <| rows.filter fun id _ =>
        (texts.get? id).any (Text.occursLike needle)

end ConferenceSync
