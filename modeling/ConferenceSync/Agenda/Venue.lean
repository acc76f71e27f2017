import ConferenceSync.Agenda.Identity
import ConferenceSync.Digest.Fingerprint
import ConferenceSync.Json.Fields
import ConferenceSync.Json.Writer
import ConferenceSync.Number.Decimal

/-!
# The venue

Rooms, and the map of the venue: per floor a list of markers and one tile with the picture of the
floor.

## Main definitions

* `Room`, `MapMarker`, `MapTile` — the records
* `Room.ofJson?` — a room from its JSON value
* `markersOfMap`, `tilesOfMap` — the markers and the tiles of a section of the map
-/

namespace ConferenceSync.Agenda

open Digest (Field)

/-- A room. -/
structure Room where
  id : String
  name : String
  floor : String
  deriving DecidableEq, Repr

/-- A marker on the map, at a latitude and a longitude in degrees. -/
structure MapMarker where
  id : String
  markerType : String
  latitude : Number.Binary64
  longitude : Number.Binary64
  label : String
  floor : String
  deriving DecidableEq, Repr

/-- The tile of a floor. The floor is also its id. -/
structure MapTile where
  id : String
  floor : String
  fileName : String
  url : String
  deriving DecidableEq, Repr

/-- The fields that tell versions of a room apart. -/
def Room.fields (r : Room) : List Field :=
  [⟨"id", r.id⟩, ⟨"name", r.name⟩, ⟨"floor", r.floor⟩]

/-- The text of a coordinate. -/
def coordinateText (x : Number.Binary64) : String :=
  Number.DecimalLayout.plain.render x

/-- The fields that tell versions of a marker apart. -/
def MapMarker.fields (m : MapMarker) : List Field :=
  [⟨"type", m.markerType⟩, ⟨"lat", coordinateText m.latitude⟩,
    ⟨"lng", coordinateText m.longitude⟩, ⟨"label", m.label⟩, ⟨"floor", m.floor⟩]

/-- The fields that tell versions of a tile apart. -/
def MapTile.fields (t : MapTile) : List Field :=
  [⟨"floor", t.floor⟩, ⟨"filename", t.fileName⟩, ⟨"url", t.url⟩]

/-- The text of a floor, which the data gives as a text or as a number. -/
def floorText : Json → String
  | .string s => s
  | .number n => Json.renderNumber n
  | _ => ""

/-- A room from its JSON value. Its name may stand in for its id. -/
def Room.ofJson? (value : Json) : Option Room := do
  let fields ← value.fields? ["id", "name", "floor"]
  let id ← fields.text "id"
  let name ← fields.text "name"
  let id ← resolveId? id [name]
  return { id, name, floor := floorText (fields.value "floor") }

/-- A marker of a floor from its JSON value. The title stands in for an empty label, and the label
for the id. -/
def MapMarker.ofJson? (floor : String) (value : Json) : Option MapMarker := do
  let fields ← value.fields? ["id", "type", "lat", "lng", "label", "title"]
  let id ← fields.text "id"
  let markerType ← fields.text "type"
  let latitude ← fields.real "lat"
  let longitude ← fields.real "lng"
  let label ← fields.text "label"
  let title ← fields.text "title"
  let label := if label == "" then title else label
  let id ← resolveId? id [label]
  return { id, markerType, latitude, longitude, label, floor }

/-- The tile of a floor from its JSON value. -/
def MapTile.ofJson? (floor : String) (value : Json) : Option MapTile := do
  let fields ← value.fields? ["filename", "url"]
  let fileName ← fields.text "filename"
  let url ← fields.text "url"
  return { id := floor, floor, fileName, url }

/-- The markers and the tiles of a section of the map, each under its floor. A section of the wrong
shape has none. -/
def floorsOfMap (part : Json) : List (String × Json) × List (String × Json) :=
  match part.fields? ["markers", "tiles"] with
  | none => ([], [])
  | some fields =>
    match fields.members "markers", fields.members "tiles" with
    | some markers, some tiles => (markers, tiles)
    | _, _ => ([], [])

/-- The markers of a section of the map, floor by floor. -/
def markersOfMap (part : Json) : List MapMarker :=
  (floorsOfMap part).1.flatMap fun (floor, markers) =>
    markers.items.filterMap (MapMarker.ofJson? floor)

/-- The tiles of a section of the map, floor by floor. -/
def tilesOfMap (part : Json) : List MapTile :=
  (floorsOfMap part).2.filterMap fun (floor, tile) => MapTile.ofJson? floor tile

end ConferenceSync.Agenda
