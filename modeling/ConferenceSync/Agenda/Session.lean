import ConferenceSync.Agenda.Speaker
import ConferenceSync.Agenda.Topic
import ConferenceSync.Dict
import ConferenceSync.Json.Writer
import ConferenceSync.Time.Timestamp

/-!
# Sessions

A session refers to speakers and tags by their ids. Two of its fields follow from the records
that it refers to: the names of its speakers, and the order of the group that it is listed in.

## Main definitions

* `Session` — the record
* `Session.ofJson?` — a session from its JSON value, without the fields that follow
* `References`, `GroupingRules` — what those fields follow from
* `Session.withReferences` — a session with the fields that follow
-/

namespace ConferenceSync.Agenda

open Digest (Field)

/-- A session. Its tags and speakers are ids, each once; `speakerNames` are the names of the
speakers that are known, and `groupingOrder` is the order of the group that it is listed in. -/
structure Session where
  id : String
  title : String
  description : String
  url : String
  startMillis : Int
  endMillis : Int
  roomId : String
  tags : List String
  mainTag : String
  hashtag : String
  speakers : List String
  isLivestream : Bool
  youtubeUrl : String
  captionsUrl : String
  photoUrl : String
  color : Int
  relatedContent : String
  speakerNames : String
  groupingOrder : Int
  deriving DecidableEq, Repr

/-- The group of keynotes, which comes before every other. -/
def keynoteOrder : Int := -0x80000000

/-- The group of sessions without a tag of the grouping category, which comes last. -/
def ungroupedOrder : Int := 0x7fffffff

/-- The fields that tell versions of a session apart: all but those that follow from other
records. -/
def Session.fields (s : Session) : List Field :=
  [⟨"id", s.id⟩, ⟨"description", s.description⟩, ⟨"title", s.title⟩, ⟨"url", s.url⟩,
    ⟨"startTimestamp", toString s.startMillis⟩, ⟨"endTimestamp", toString s.endMillis⟩,
    ⟨"youtubeUrl", s.youtubeUrl⟩, ⟨"room", s.roomId⟩,
    ⟨"isLivestream", toString s.isLivestream⟩, ⟨"photoUrl", s.photoUrl⟩,
    ⟨"color", toString s.color⟩, ⟨"captionsUrl", s.captionsUrl⟩, ⟨"hashtag", s.hashtag⟩,
    ⟨"mainTag", s.mainTag⟩, ⟨"relatedContent", s.relatedContent⟩]
  ++ Field.list "tag" s.tags ++ Field.list "speaker" s.speakers

/-- The ids of a list without blanks at their ends, each at its first occurrence; blank ones are
left out. -/
def distinctIds (ids : List String) : List String :=
  (ids.map Text.trim).foldl
    (fun kept id => if id == "" || kept.contains id then kept else kept ++ [id]) []

/-- What else to look at, as a text: a text as it is, other values in JSON. -/
def relatedText : Json → String
  | .null => ""
  | .string s => s
  | value => value.render

/-- The names of the fields of a session, in the order of the array form. -/
def sessionFieldNames : List String :=
  ["id", "url", "title", "description", "startTimestamp", "endTimestamp", "tags", "mainTag",
    "hashtag", "speakers", "room", "isLivestream", "youtubeUrl", "captionsUrl", "photoUrl",
    "color", "relatedContent"]

/-- A session from its JSON value, as if it referred to nothing known. The URL, or the title, may
stand in for the id. -/
def Session.ofJson? (value : Json) : Option Session := do
  let fields ← value.fields? sessionFieldNames
  let id ← fields.text "id"
  let url ← fields.text "url"
  let title ← fields.text "title"
  let description ← fields.text "description"
  let tags ← fields.texts "tags"
  let mainTag ← fields.text "mainTag"
  let hashtag ← fields.text "hashtag"
  let speakers ← fields.texts "speakers"
  let roomId ← fields.text "room"
  let isLivestream ← fields.flag "isLivestream"
  let youtubeUrl ← fields.text "youtubeUrl"
  let captionsUrl ← fields.text "captionsUrl"
  let photoUrl ← fields.text "photoUrl"
  let color ← fields.text "color"
  -- An id in the data wins over one that is made from other fields.
  let id ← resolveId? id [url, title]
  return {
    id, title, description, url
    startMillis := Time.timestampOfJson (fields.value "startTimestamp")
    endMillis := Time.timestampOfJson (fields.value "endTimestamp")
    roomId, tags := distinctIds tags, mainTag, hashtag, speakers := distinctIds speakers
    isLivestream, youtubeUrl, captionsUrl, photoUrl, color := colorOfText color
    relatedContent := relatedText (fields.value "relatedContent")
    speakerNames := "", groupingOrder := ungroupedOrder }

/-! ## The fields that follow -/

/-- The records that sessions refer to, by their ids. -/
structure References where
  tags : Dict Tag
  speakers : Dict Speaker

/-- How sessions are put into groups: the category whose tags make groups, and the id of the tag of
keynotes. -/
structure GroupingRules where
  category : String
  keynoteTag : String
  deriving DecidableEq, Repr

/-- The rules unless others are given. -/
def GroupingRules.standard : GroupingRules := ⟨"TYPE", "FLAG_KEYNOTE"⟩

/-- The names of the speakers that are known, in the order of their ids. -/
def References.speakerNames (references : References) (ids : List String) : String :=
  ", ".intercalate (ids.filterMap fun id => (references.speakers.get? id).map Speaker.name)

/-- The orders of the tags that are known and of the grouping category. -/
def References.groupOrders (rules : GroupingRules) (references : References) (ids : List String) :
    List Int :=
  ids.filterMap fun id =>
    ((references.tags.get? id).filter (·.category == rules.category)).map Tag.orderInCategory

/-- The order of the group of a session with given tags: the group of keynotes if the keynote tag
is one of them, else the least order of a tag of the grouping category. -/
def References.groupingOrder (rules : GroupingRules) (references : References)
    (ids : List String) : Int :=
  if ids.contains rules.keynoteTag then keynoteOrder
  else (references.groupOrders rules ids).foldl min ungroupedOrder

/-- A session with the fields that follow from what it refers to. -/
def Session.withReferences (rules : GroupingRules) (references : References) (s : Session) :
    Session :=
  { s with
    speakerNames := references.speakerNames s.speakers
    groupingOrder := references.groupingOrder rules s.tags }

end ConferenceSync.Agenda
