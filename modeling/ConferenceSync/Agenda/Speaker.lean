import ConferenceSync.Agenda.Identity
import ConferenceSync.Digest.Fingerprint
import ConferenceSync.Json.Fields

/-!
# Speakers

## Main definitions

* `Speaker` — the record
* `Speaker.ofJson?` — a speaker from its JSON value
-/

namespace ConferenceSync.Agenda

open Digest (Field)

/-- A speaker. -/
structure Speaker where
  id : String
  name : String
  bio : String
  company : String
  thumbnailUrl : String
  plusoneUrl : String
  twitterUrl : String
  deriving DecidableEq, Repr

/-- The fields that tell versions of a speaker apart. -/
def Speaker.fields (s : Speaker) : List Field :=
  [⟨"id", s.id⟩, ⟨"name", s.name⟩, ⟨"bio", s.bio⟩, ⟨"company", s.company⟩,
    ⟨"thumbnailUrl", s.thumbnailUrl⟩, ⟨"plusoneUrl", s.plusoneUrl⟩,
    ⟨"twitterUrl", s.twitterUrl⟩]

/-- A speaker from its JSON value. The name may stand in for the id. -/
def Speaker.ofJson? (value : Json) : Option Speaker := do
  let fields ← value.fields?
    ["id", "name", "bio", "company", "thumbnailUrl", "plusoneUrl", "twitterUrl"]
  let id ← fields.text "id"
  let name ← fields.text "name"
  let bio ← fields.text "bio"
  let company ← fields.text "company"
  let thumbnailUrl ← fields.text "thumbnailUrl"
  let plusoneUrl ← fields.text "plusoneUrl"
  let twitterUrl ← fields.text "twitterUrl"
  let id ← resolveId? id [name]
  return { id, name, bio, company, thumbnailUrl, plusoneUrl, twitterUrl }

end ConferenceSync.Agenda
