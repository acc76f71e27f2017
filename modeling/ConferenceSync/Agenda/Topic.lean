import ConferenceSync.Agenda.Color
import ConferenceSync.Agenda.Identity
import ConferenceSync.Digest.Fingerprint
import ConferenceSync.Json.Fields

/-!
# Topics

The words under which sessions are found: tags, hashtags and suggestions for a search.

## Main definitions

* `Tag`, `Hashtag`, `SearchSuggestion` — the records
* `Tag.ofJson?`, `Hashtag.ofJson?`, `SearchSuggestion.ofJson?` — a record from its JSON value
-/

namespace ConferenceSync.Agenda

open Digest (Field)

/-- A tag of sessions, with its place among the tags of its category. -/
structure Tag where
  id : String
  category : String
  name : String
  orderInCategory : Int
  abstractText : String
  color : Int
  photoUrl : String
  deriving DecidableEq, Repr

/-- A hashtag, whose name has no number sign. Its id is its name in lower case. -/
structure Hashtag where
  id : String
  name : String
  description : String
  color : Int
  ordering : Int
  deriving DecidableEq, Repr

/-- A text to offer in a search. Its id is the text in lower case. -/
structure SearchSuggestion where
  id : String
  text : String
  deriving DecidableEq, Repr

/-- The fields that tell versions of a tag apart. -/
def Tag.fields (t : Tag) : List Field :=
  [⟨"tag", t.id⟩, ⟨"category", t.category⟩, ⟨"name", t.name⟩,
    ⟨"order", toString t.orderInCategory⟩, ⟨"abstract", t.abstractText⟩,
    ⟨"color", toString t.color⟩, ⟨"photoUrl", t.photoUrl⟩]

/-- The fields that tell versions of a hashtag apart. -/
def Hashtag.fields (h : Hashtag) : List Field :=
  [⟨"name", h.name⟩, ⟨"description", h.description⟩, ⟨"color", toString h.color⟩,
    ⟨"ordering", toString h.ordering⟩]

/-- The fields that tell versions of a suggestion apart. -/
def SearchSuggestion.fields (s : SearchSuggestion) : List Field :=
  [⟨"text", s.text⟩]

/-- A tag from its JSON value. Category and name together may stand in for its id. -/
def Tag.ofJson? (value : Json) : Option Tag := do
  let fields ← value.fields?
    ["tag", "name", "category", "order_in_category", "abstract", "color", "photoUrl"]
  let id ← fields.text "tag"
  let name ← fields.text "name"
  let category ← fields.text "category"
  let orderInCategory ← fields.integer "order_in_category"
  let abstractText ← fields.text "abstract"
  let color ← fields.text "color"
  let photoUrl ← fields.text "photoUrl"
  let id ← resolveId? id [category ++ " " ++ name]
  return { id, category, name, orderInCategory, abstractText, color := colorOfText color, photoUrl }

/-- The name of a hashtag without blanks at its ends and then without the number signs at its
start. -/
def hashtagName (s : String) : String :=
  String.ofList ((Text.trimList s.toList).dropWhile (· == '#'))

/-- A hashtag from its JSON value. -/
def Hashtag.ofJson? (value : Json) : Option Hashtag := do
  let fields ← value.fields? ["name", "description", "color", "ordering"]
  let name ← fields.text "name"
  let description ← fields.text "description"
  let color ← fields.text "color"
  let ordering ← fields.integer "ordering"
  let name := hashtagName name
  let id ← resolveId? (Text.lower name) []
  return { id, name, description, color := colorOfText color, ordering }

/-- A suggestion from its JSON value, a text that is not blank. -/
def SearchSuggestion.ofJson? : Json → Option SearchSuggestion
  | .string s =>
    let text := Text.trim s
    if text == "" then none else some { id := Text.lower text, text }
  | _ => none

end ConferenceSync.Agenda
