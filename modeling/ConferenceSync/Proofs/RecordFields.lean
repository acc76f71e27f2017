import ConferenceSync.Agenda.Record
import ConferenceSync.Import.DataSet
import ConferenceSync.Proofs.CoordinateText
import ConferenceSync.Proofs.JsonNumbers
import ConferenceSync.Proofs.Rendering
import ConferenceSync.Proofs.SessionRecords
import ConferenceSync.Proofs.WholeNumbers

/-!
# What fingerprints see of records

The fields that a fingerprint is made of, together with the id, are all of a record but for the two
columns of a session that follow from other records. Coordinates have to be numbers for that, which
those in data files are.

## Main definitions

* `Table.forget` — a record without what follows from other records
* `Table.Sound` — that the coordinates of a record are numbers

## Main results

* `Table.forget_inj` — id and fields determine a record but for what follows from others
* `DataSet.sound_of_readRecords`, `DataSet.sound_of_records` — the records of data files have sound
  coordinates
* `Table.fieldsOf_eq_of_canonical` — renderings tell the fields of records apart
-/

namespace ConferenceSync

open Agenda Digest

namespace Table

/-- The record without what follows from other records. -/
def forget : (table : Table) → table.Record → table.Record
  | .sessions => fun s => { s with speakerNames := "", groupingOrder := 0 }
  | .rooms | .blocks | .tags | .speakers | .searchSuggestions | .mapMarkers | .mapTiles
  | .hashtags | .videos => fun record => record

/-- Whether the coordinates of the record are numbers. -/
def Sound : (table : Table) → table.Record → Prop
  | .mapMarkers => fun m => m.latitude.IsNumber ∧ m.longitude.IsNumber
  | _ => fun _ => True

/-- The labels of the fields of a table's records. -/
def labels : Table → List String
  | .rooms => ["id", "name", "floor"]
  | .blocks => ["title", "subtitle", "type", "start", "end"]
  | .tags => ["tag", "category", "name", "order", "abstract", "color", "photoUrl"]
  | .speakers => ["id", "name", "bio", "company", "thumbnailUrl", "plusoneUrl", "twitterUrl"]
  | .sessions => ["id", "description", "title", "url", "startTimestamp", "endTimestamp",
      "youtubeUrl", "room", "isLivestream", "photoUrl", "color", "captionsUrl", "hashtag",
      "mainTag", "relatedContent", "tag", "speaker"]
  | .searchSuggestions => ["text"]
  | .mapMarkers => ["type", "lat", "lng", "label", "floor"]
  | .mapTiles => ["floor", "filename", "url"]
  | .hashtags => ["name", "description", "color", "ordering"]
  | .videos => ["id", "year", "title", "desc", "vid", "speakers", "thumbnailUrl", "topic"]

theorem prefixFree_labels (table : Table) : PrefixFree table.labels := by
  cases table <;> decide +kernel

theorem label_mem_labels {table : Table} {record : table.Record} {f : Field}
    (there : f ∈ table.fieldsOf record) : f.label ∈ table.labels := by
  cases table with
  | sessions =>
    rcases List.mem_append.1 there with there | speaker
    · rcases List.mem_append.1 there with first | tag
      · have label := List.mem_map_of_mem (f := Field.label) first
        exact List.mem_append_left ["tag", "speaker"] label
      · obtain ⟨_, -, rfl⟩ := List.mem_map.1 tag
        simp [labels]
    · obtain ⟨_, -, rfl⟩ := List.mem_map.1 speaker
      simp [labels]
  | _ => exact List.mem_map_of_mem (f := Field.label) there

/-- Renderings tell the fields of records apart. -/
theorem fieldsOf_eq_of_canonical {table : Table} {a b : table.Record}
    (fitsA : ∀ f ∈ table.fieldsOf a, f.Fits) (fitsB : ∀ f ∈ table.fieldsOf b, f.Fits)
    (same : canonical (table.fieldsOf a) = canonical (table.fieldsOf b)) :
    table.fieldsOf a = table.fieldsOf b :=
  canonical_inj table.prefixFree_labels (fun f there => ⟨label_mem_labels there, fitsA f there⟩)
    (fun f there => ⟨label_mem_labels there, fitsB f there⟩) same

end Table

/-! ## Texts of values -/

theorem Agenda.toString_bool_injective : Function.Injective (toString : Bool → String) := by
  decide

/-! ## Fields and records -/

theorem filter_list (label other : String) (values : List String) :
    (Field.list other values).filter (fun f => f.label == label) =
      if other = label then Field.list other values else [] := by
  split
  · next same =>
    refine List.filter_eq_self.2 fun f there => ?_
    obtain ⟨_, -, rfl⟩ := List.mem_map.1 there
    simp [same]
  · next different =>
    refine List.filter_eq_nil_iff.2 fun f there => ?_
    obtain ⟨_, -, rfl⟩ := List.mem_map.1 there
    simp [different]

theorem list_injective (label : String) : Function.Injective (Field.list label) :=
  List.map_injective_iff.2 fun _ _ same => (Field.mk.inj same).2

/-- The lists at the end of a session's fields can be told apart by their labels. -/
theorem lists_inj {tags tags' speakers speakers' : List String}
    (same : Field.list "tag" tags ++ Field.list "speaker" speakers =
      Field.list "tag" tags' ++ Field.list "speaker" speakers') :
    tags = tags' ∧ speakers = speakers' := by
  have first := congrArg (List.filter fun f => f.label == "tag") same
  have second := congrArg (List.filter fun f => f.label == "speaker") same
  simp only [List.filter_append, filter_list, ↓reduceIte, String.reduceEq, List.append_nil,
    List.nil_append] at first second
  exact ⟨list_injective "tag" first, list_injective "speaker" second⟩

namespace Table

/-- Id and fields determine a record but for what follows from others. -/
theorem forget_inj {table : Table} {a b : table.Record} (soundA : table.Sound a)
    (soundB : table.Sound b) (id : table.idOf a = table.idOf b)
    (fields : table.fieldsOf a = table.fieldsOf b) : table.forget a = table.forget b := by
  have int {m n : Int} : toString m = toString n ↔ m = n :=
    Text.toString_int_injective.eq_iff
  cases table with
  | sessions =>
    -- The fields before the lists are as many on both sides, and the lists differ in their labels.
    simp only [fieldsOf, Session.fields, List.append_assoc] at fields
    obtain ⟨first, lists⟩ := List.append_inj fields rfl
    obtain ⟨tags, speakers⟩ := lists_inj lists
    simp only [List.cons.injEq, Field.mk.injEq, true_and, and_true] at first
    obtain ⟨id, description, title, url, start, finish, youtube, room, live, photo, color, captions,
      hashtag, mainTag, related⟩ := first
    simp only [forget, Session.mk.injEq, and_true]
    exact ⟨id, title, description, url, int.1 start, int.1 finish, room, tags, mainTag, hashtag,
      speakers, toString_bool_injective live, youtube, captions, photo, int.1 color, related⟩
  | mapMarkers =>
    -- Coordinates are rendered as decimals, which determine a number but not any bits.
    simp only [fieldsOf, MapMarker.fields, List.cons.injEq, Field.mk.injEq, true_and,
      and_true] at fields
    obtain ⟨type, latitude, longitude, label, floor⟩ := fields
    have latitudes := coordinateText_inj soundA.1 soundB.1 latitude
    have longitudes := coordinateText_inj soundA.2 soundB.2 longitude
    cases a
    cases b
    simp_all [forget, idOf]
  | rooms | blocks | tags | speakers | searchSuggestions | mapTiles | hashtags | videos =>
    simp only [fieldsOf, Room.fields, Block.fields, Tag.fields, Speaker.fields,
      SearchSuggestion.fields, MapTile.fields, Hashtag.fields, Video.fields, List.cons.injEq,
      Field.mk.injEq, true_and, and_true, int] at fields
    cases a
    cases b
    simp_all [forget, idOf]

theorem targets_forget (s : Session) (link : LinkTable) :
    Session.targets (forget .sessions s) link = s.targets link := by
  cases link <;> rfl

end Table

/-! ## Records of data files -/

theorem Agenda.isNumber_of_markersOfMap {part : Json} (ok : part.Numeric) {m : MapMarker}
    (there : m ∈ markersOfMap part) : Table.Sound .mapMarkers m := by
  simp only [markersOfMap, List.mem_flatMap, List.mem_filterMap] at there
  obtain ⟨⟨floor, markers⟩, listed, value, item, read⟩ := there
  have numeric : markers.Numeric := by
    rw [floorsOfMap] at listed
    split at listed
    · simp at listed
    · next fields given =>
      split at listed
      · next found _ => exact Json.Fields.numeric_members ok given found _ listed
      · simp at listed
  have own := Json.numeric_items numeric value item
  obtain ⟨fields, given, read⟩ := Option.bind_eq_some_iff.1 read
  iterate 2 obtain ⟨_, -, read⟩ := Option.bind_eq_some_iff.1 read
  obtain ⟨lat, readLat, read⟩ := Option.bind_eq_some_iff.1 read
  obtain ⟨lng, readLng, read⟩ := Option.bind_eq_some_iff.1 read
  iterate 3 obtain ⟨_, -, read⟩ := Option.bind_eq_some_iff.1 read
  obtain rfl := Option.some.inj read
  exact ⟨Json.Fields.isNumber_real own given readLat, Json.Fields.isNumber_real own given readLng⟩

namespace DataSet

variable {d : DataSet} {rules : GroupingRules} {table : Table} {id : String}

/-- Whether there is nothing but numbers in the sections of a data set. -/
def Numeric (d : DataSet) : Prop := ∀ part ∈ d.parts, part.2.Numeric

theorem numeric_add {name text : String} {after : DataSet} (ok : d.Numeric)
    (added : d.add name text = .ok after) : after.Numeric := by
  rw [add] at added
  split at added
  · next members read =>
    obtain rfl := Except.ok.inj added
    intro part there
    rcases List.mem_append.1 there with before | new
    · exact ok part before
    · simp only [partsOf, List.mem_filterMap, Option.map_eq_some_iff] at new
      obtain ⟨⟨key, value⟩, listed, kind, -, rfl⟩ := new
      exact Json.numeric_of_objectOfText read _ listed
  · simp at added

theorem numeric_addEach (ok : d.Numeric) (files : List (String × String)) :
    (d.addEach files).1.Numeric := by
  induction files generalizing d with
  | nil => exact ok
  | cons file rest ih =>
    rw [addEach]
    split
    · next added => exact ih (numeric_add ok added)
    · exact ih ok

/-- What is read from data files has sound coordinates. -/
theorem sound_of_readRecords (ok : d.Numeric) {record : table.Record}
    (there : record ∈ readRecords rules d.sections table) : table.Sound record := by
  cases table with
  | mapMarkers =>
    simp only [readRecords, List.mem_flatMap] at there
    obtain ⟨part, own, there⟩ := there
    simp only [sections, List.mem_map, List.mem_filter] at own
    obtain ⟨part, ⟨own, -⟩, rfl⟩ := own
    exact isNumber_of_markersOfMap (ok part own) there
  | _ => trivial

/-- The records of data files have sound coordinates. -/
theorem sound_of_records (ok : d.Numeric) {record : table.Record}
    (there : (d.records rules table).get? id = some record) : table.Sound record := by
  have listed := Dict.mem_of_get?_ofList there
  simp only [List.mem_map, Prod.mk.injEq] at listed
  obtain ⟨_, read, -, rfl⟩ := listed
  exact sound_of_readRecords ok read

end DataSet

end ConferenceSync
