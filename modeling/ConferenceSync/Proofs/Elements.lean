import Mathlib.Data.List.Basic
import ConferenceSync.Import.DataSet
import ConferenceSync.Proofs.Dict
import ConferenceSync.Proofs.FailureCount
import ConferenceSync.Proofs.Slugs

/-!
# The elements of array sections

All sections but those of the map are arrays, and each element of an array is read on its own. An
element that cannot be read, or that has no usable id, is passed over. Of the usable elements with
one id, in the order of the sections and within each of them, the last one is kept. The id under
which it is kept is its own and is not empty: it is given, or made from another text, or for a block
of time from two numbers, whose digits a slug keeps.

## Main definitions

* `Table.ofElement?` — the record of an element, if the element is usable
* `Table.ofSections` — the records of array sections, by id
* `Table.IsLast`, `Table.KeepsLast` — what is kept
* `DataSet.elements` — the elements of a kind of data

## Main results

* `Table.idOf_ne_empty_of_ofElement?` — the id of a record is not empty
* `Table.keepsLast` — the last usable element with an id wins
* `DataSet.records_eq_ofSections` — the records of a data set are kept of its sections
-/

namespace ConferenceSync

open Agenda

/-! ## Ids -/

namespace Text

theorem lower_eq_empty_iff {s : String} : lower s = "" ↔ s = "" := by
  rw [← String.toList_eq_nil_iff, toList_lower, lowerAfter_eq_nil_iff, String.toList_eq_nil_iff]

end Text

theorem Agenda.blockId_ne_empty (startMillis endMillis : Int) :
    blockId startMillis endMillis ≠ "" := by
  obtain ⟨c, there, digit⟩ := Text.exists_isDigit_toString startMillis
  refine Text.slug_ne_empty (c := c) ?_ digit
  rw [String.toList_append, String.toList_append]
  exact List.mem_append_left _ (List.mem_append_left _ there)

/-! ## Elements -/

/-- Only the usable elements of sections count. -/
theorem readItems_eq {α : Type} (read? : Json → Option α) (parts : List Json) :
    readItems read? parts = (parts.flatMap Json.items).filterMap read? := by
  rw [readItems, List.filterMap_flatMap]

namespace Table

/-- The record of an element of an array section, if the element is usable. The sections of the map
are no arrays of records. -/
def ofElement? (rules : GroupingRules) (references : References) :
    (table : Table) → Json → Option table.Record
  | .rooms => Room.ofJson?
  | .blocks => Block.ofJson?
  | .tags => Tag.ofJson?
  | .speakers => Speaker.ofJson?
  | .sessions => fun e => (Session.ofJson? e).map (Session.withReferences rules references)
  | .searchSuggestions => SearchSuggestion.ofJson?
  | .mapMarkers => fun _ => none
  | .mapTiles => fun _ => none
  | .hashtags => Hashtag.ofJson?
  | .videos => Video.ofJson?

variable {rules : GroupingRules} {references : References} {table : Table}

/-- A record that is made with a resolved id has an id. -/
theorem ne_empty_of_resolved {α : Type} {given : String} {substitutes : List String}
    {make : String → α} {key : α → String} (own : ∀ id, key (make id) = id) {record : α}
    (read : ((resolveId? given substitutes).bind fun id => some (make id)) = some record) :
    key record ≠ "" := by
  obtain ⟨id, resolved, made⟩ := Option.bind_eq_some_iff.1 read
  obtain rfl := Option.some.inj made
  rw [own]
  exact resolveId?_ne_empty resolved

/-- The id of a record in a data file is not empty. -/
theorem idOf_ne_empty_of_ofElement? {e : Json} {record : table.Record}
    (read : table.ofElement? rules references e = some record) : table.idOf record ≠ "" := by
  -- An id is resolved after all other fields have been read, but for two tables.
  cases table with
  | rooms =>
    iterate 3 obtain ⟨_, -, read⟩ := Option.bind_eq_some_iff.1 read
    exact ne_empty_of_resolved (fun _ => rfl) read
  | tags =>
    iterate 8 obtain ⟨_, -, read⟩ := Option.bind_eq_some_iff.1 read
    exact ne_empty_of_resolved (fun _ => rfl) read
  | speakers =>
    iterate 8 obtain ⟨_, -, read⟩ := Option.bind_eq_some_iff.1 read
    exact ne_empty_of_resolved (fun _ => rfl) read
  | sessions =>
    obtain ⟨s, plain, rfl⟩ := Option.map_eq_some_iff.1 read
    iterate 15 obtain ⟨_, -, plain⟩ := Option.bind_eq_some_iff.1 plain
    show s.id ≠ ""
    exact ne_empty_of_resolved (fun _ => rfl) plain
  | hashtags =>
    iterate 5 obtain ⟨_, -, read⟩ := Option.bind_eq_some_iff.1 read
    exact ne_empty_of_resolved (fun _ => rfl) read
  | videos =>
    iterate 9 obtain ⟨_, -, read⟩ := Option.bind_eq_some_iff.1 read
    exact ne_empty_of_resolved (fun _ => rfl) read
  | blocks =>
    iterate 4 obtain ⟨_, -, read⟩ := Option.bind_eq_some_iff.1 read
    dsimp only at read
    split at read
    · simp at read
    · obtain rfl := Option.some.inj read
      exact blockId_ne_empty _ _
  | searchSuggestions =>
    cases e with
    | string s =>
      dsimp only [ofElement?, SearchSuggestion.ofJson?] at read
      split at read
      · simp at read
      · next given =>
        obtain rfl := Option.some.inj read
        exact fun none => given (beq_iff_eq.2 (Text.lower_eq_empty_iff.1 none))
    | _ => simp [ofElement?, SearchSuggestion.ofJson?] at read
  | mapMarkers => simp [ofElement?] at read
  | mapTiles => simp [ofElement?] at read

/-- The records of array sections, by id. -/
def ofSections (rules : GroupingRules) (references : References) (table : Table)
    (parts : List Json) : Dict table.Record :=
  table.byId (readItems (table.ofElement? rules references) parts)

/-- Whether a record is made of the last usable element with an id. -/
def IsLast (rules : GroupingRules) (references : References) (table : Table)
    (elements : List Json) (id : String) (record : table.Record) : Prop :=
  ∃ before e after, elements = before ++ e :: after ∧
    table.ofElement? rules references e = some record ∧ table.idOf record = id ∧
    ∀ later ∈ after, ∀ other, table.ofElement? rules references later = some other →
      table.idOf other ≠ id

/-- Under each id there is the record of the last usable element with this id. -/
theorem get?_ofSections_eq_some_iff {parts : List Json} {id : String} {record : table.Record} :
    (table.ofSections rules references parts).get? id = some record ↔
      table.IsLast rules references (parts.flatMap Json.items) id record := by
  rw [ofSections, byId, readItems_eq, List.map_filterMap, Dict.get?_ofList_eq_some_iff_last, IsLast]
  constructor
  · rintro ⟨front, back, split, last⟩
    obtain ⟨first, rest, elements, rfl, made⟩ := List.filterMap_eq_append_iff.1 split
    obtain ⟨skipped, e, after, rfl, -, keyed, rfl⟩ := List.filterMap_eq_cons_iff.1 made
    obtain ⟨other, read, same⟩ := Option.map_eq_some_iff.1 keyed
    obtain ⟨rfl, rfl⟩ := Prod.mk.inj same
    refine ⟨first ++ skipped, e, after, by rw [elements, List.append_assoc], read, rfl, ?_⟩
    intro later there other found
    exact last _ (List.mem_filterMap.2 ⟨later, there, by rw [found]; rfl⟩)
  · rintro ⟨before, e, after, elements, read, rfl, last⟩
    refine ⟨_, _, by rw [elements, List.filterMap_append, List.filterMap_cons, read]; rfl, ?_⟩
    intro entry there
    obtain ⟨later, listed, made⟩ := List.mem_filterMap.1 there
    obtain ⟨other, found, rfl⟩ := Option.map_eq_some_iff.1 made
    exact last later listed other found

/-- What is kept of the elements of array sections: under each id the record of the last usable
element with this id. Sections with the same usable elements have the same records, and a section
that is no array does not count. -/
structure KeepsLast (rules : GroupingRules) (references : References) (table : Table)
    (parts : List Json) : Prop where
  get?_iff : ∀ id record, (table.ofSections rules references parts).get? id = some record ↔
    table.IsLast rules references (parts.flatMap Json.items) id record
  exists_iff : ∀ id, (∃ record, (table.ofSections rules references parts).get? id = some record) ↔
    ∃ e ∈ parts.flatMap Json.items, ∃ record,
      table.ofElement? rules references e = some record ∧ table.idOf record = id
  own : ∀ id record, (table.ofSections rules references parts).get? id = some record →
    table.idOf record = id ∧ id ≠ ""
  usable : ∀ more,
    (parts.flatMap Json.items).filter (fun e => (table.ofElement? rules references e).isSome) =
      (more.flatMap Json.items).filter (fun e => (table.ofElement? rules references e).isSome) →
    table.ofSections rules references parts = table.ofSections rules references more
  arrays : ∀ before part after, parts = before ++ part :: after → (∀ items, part ≠ .array items) →
    table.ofSections rules references parts = table.ofSections rules references (before ++ after)

theorem ofSections_congr {parts more : List Json}
    (same : (parts.flatMap Json.items).filterMap (table.ofElement? rules references) =
      (more.flatMap Json.items).filterMap (table.ofElement? rules references)) :
    table.ofSections rules references parts = table.ofSections rules references more := by
  rw [ofSections, ofSections, readItems_eq, readItems_eq, same]

/-- The last usable element with an id wins. -/
theorem keepsLast (rules : GroupingRules) (references : References) (table : Table)
    (parts : List Json) : table.KeepsLast rules references parts where
  get?_iff _ _ := get?_ofSections_eq_some_iff
  exists_iff id := by
    rw [ofSections, byId, readItems_eq, Dict.exists_get?_ofList_iff]
    simp only [List.map_map, List.mem_map, List.mem_filterMap, Function.comp_apply]
    constructor
    · rintro ⟨record, ⟨e, listed, read⟩, same⟩
      exact ⟨e, listed, record, read, same⟩
    · rintro ⟨e, listed, record, read, same⟩
      exact ⟨record, ⟨e, listed, read⟩, same⟩
  own id record there := by
    obtain ⟨before, e, after, -, read, rfl, -⟩ := get?_ofSections_eq_some_iff.1 there
    exact ⟨rfl, idOf_ne_empty_of_ofElement? read⟩
  usable more same := by
    have usable (elements : List Json) :
        (elements.filter fun e => (table.ofElement? rules references e).isSome).filterMap
          (table.ofElement? rules references) =
        elements.filterMap (table.ofElement? rules references) := by
      rw [List.filterMap_filter]
      refine List.filterMap_congr fun e _ => ?_
      cases table.ofElement? rules references e <;> rfl
    exact ofSections_congr (by rw [← usable, same, usable])
  arrays before part after split other := by
    have none : part.items = [] := by
      cases part with
      | array items => exact absurd rfl (other items)
      | _ => rfl
    refine ofSections_congr ?_
    rw [split, List.flatMap_append, List.flatMap_cons, none, List.nil_append, List.flatMap_append]

end Table

namespace DataSet

variable {rules : GroupingRules} {d : DataSet} {table : Table}

/-- The elements of the array sections of a kind, in the order of the files. -/
def elements (d : DataSet) (kind : Kind) : List Json := (d.sections kind).flatMap Json.items

/-- The records of a table are those of the usable elements. Sessions are seen with the speakers and
tags of the data set. -/
theorem readRecords_eq (array : table.kind ≠ .map) : readRecords rules d.sections table =
    (d.elements table.kind).filterMap (table.ofElement? rules (referencesOf d.sections)) := by
  cases table with
  | mapMarkers => exact absurd rfl array
  | mapTiles => exact absurd rfl array
  | sessions =>
    rw [readRecords, readItems_eq, List.map_filterMap]
    rfl
  | _ => exact readItems_eq _ _

/-- The records of a data set by id are kept of the sections of each kind. -/
theorem records_eq_ofSections (array : table.kind ≠ .map) :
    d.records rules table =
      table.ofSections rules (referencesOf d.sections) (d.sections table.kind) := by
  rw [records, recordsOf, readRecords_eq array, Table.ofSections, readItems_eq, elements]

end DataSet

end ConferenceSync
