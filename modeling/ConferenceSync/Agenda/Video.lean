import ConferenceSync.Agenda.Identity
import ConferenceSync.Digest.Fingerprint
import ConferenceSync.Json.Fields

/-!
# The video library

Videos of past conferences.

## Main definitions

* `Video` — the record
* `Video.ofJson?` — a video from its JSON value
-/

namespace ConferenceSync.Agenda

open Digest (Field)

/-- A video of a past conference, with the names of its speakers. -/
structure Video where
  id : String
  year : Int
  title : String
  description : String
  youtubeId : String
  speakers : String
  thumbnailUrl : String
  topic : String
  deriving DecidableEq, Repr

/-- The fields that tell versions of a video apart. -/
def Video.fields (v : Video) : List Field :=
  [⟨"id", v.id⟩, ⟨"year", toString v.year⟩, ⟨"title", v.title⟩, ⟨"desc", v.description⟩,
    ⟨"vid", v.youtubeId⟩, ⟨"speakers", v.speakers⟩, ⟨"thumbnailUrl", v.thumbnailUrl⟩,
    ⟨"topic", v.topic⟩]

/-- A video from its JSON value. The id of the hosted video, or the title, may stand in for the
id. -/
def Video.ofJson? (value : Json) : Option Video := do
  let fields ← value.fields?
    ["id", "year", "title", "desc", "vid", "speakers", "thumbnailUrl", "topic"]
  let id ← fields.text "id"
  let year ← fields.integer "year"
  let title ← fields.text "title"
  let description ← fields.text "desc"
  let youtubeId ← fields.text "vid"
  let speakers ← fields.text "speakers"
  let thumbnailUrl ← fields.text "thumbnailUrl"
  let topic ← fields.text "topic"
  let id ← resolveId? id [youtubeId, title]
  return { id, year, title, description, youtubeId, speakers, thumbnailUrl, topic }

end ConferenceSync.Agenda
