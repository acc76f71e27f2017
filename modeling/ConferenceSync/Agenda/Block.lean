import ConferenceSync.Digest.Fingerprint
import ConferenceSync.Json.Fields
import ConferenceSync.Text.Slug
import ConferenceSync.Time.Timestamp

/-!
# Blocks of time

A block is a span of the agenda for a meal, a break or whatever the attendee likes. It has no id
of its own; the id is made of its start and its end.

## Main definitions

* `Block` — the record
* `blockId` — the id of the block with a start and an end
* `Block.ofJson?` — a block from its JSON value
-/

namespace ConferenceSync.Agenda

open Digest (Field)

/-- A block of time. -/
structure Block where
  id : String
  title : String
  subtitle : String
  blockType : String
  startMillis : Int
  endMillis : Int
  deriving DecidableEq, Repr

/-- The id of the block with a start and an end. -/
def blockId (startMillis endMillis : Int) : String :=
  Text.slug (toString startMillis ++ "-" ++ toString endMillis)

/-- The fields that tell versions of a block apart. -/
def Block.fields (b : Block) : List Field :=
  [⟨"title", b.title⟩, ⟨"subtitle", b.subtitle⟩, ⟨"type", b.blockType⟩,
    ⟨"start", toString b.startMillis⟩, ⟨"end", toString b.endMillis⟩]

/-- A block from its JSON value. A block that neither starts nor ends at any time but 0 is
none. -/
def Block.ofJson? (value : Json) : Option Block := do
  let fields ← value.fields? ["title", "subtitle", "type", "start", "end"]
  let title ← fields.text "title"
  let subtitle ← fields.text "subtitle"
  let blockType ← fields.text "type"
  let startMillis := Time.timestampOfJson (fields.value "start")
  let endMillis := Time.timestampOfJson (fields.value "end")
  if startMillis = 0 ∧ endMillis = 0 then none
  else
    some { id := blockId startMillis endMillis, title, subtitle, blockType, startMillis, endMillis }

end ConferenceSync.Agenda
