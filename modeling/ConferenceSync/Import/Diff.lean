import ConferenceSync.Dict

/-!
# What has changed in a table

The records of a data set are compared with the index of a table, the fingerprints of its rows by
id. Without an index, or if the index is empty and the data set is not, the table is loaded anew.

## Main definitions

* `Index` — fingerprints by id
* `TableDiff` — which ids are new, changed or gone
* `compareWith`, `loadAnew`, `compare` — the comparison with an index in use, with nothing, and
  with whichever there is

## Main results

* `mem_inserted_compareWith`, `mem_updated_compareWith`, `mem_deleted_compareWith` — the three lists
  by id, for a table that is not loaded anew
-/

namespace ConferenceSync.Import

/-- The fingerprints of the rows of a table, by id. -/
abbrev Index := Dict String

/-- What has changed in a table: whether it is loaded anew, the ids of records that are new and of
those that have changed, the number of those that have not, and the ids of rows without a record.
The lists of ids ascend. -/
structure TableDiff where
  full : Bool
  inserted : List String
  updated : List String
  unchanged : Nat
  deleted : List String
  deriving DecidableEq, Repr

namespace TableDiff

/-- The ids of the rows to write. -/
def written (diff : TableDiff) : List String := diff.inserted ++ diff.updated

/-- The ids of the rows that change in any way. -/
def touched (diff : TableDiff) : List String := diff.written ++ diff.deleted

end TableDiff

/-- The new fingerprint of an id against the old one. -/
def isNew (index : Index) (e : String × String) : Bool := (index.get? e.1).isNone

/-- Whether a row is there, with another fingerprint. -/
def isChanged (index : Index) (e : String × String) : Bool :=
  match index.get? e.1 with
  | some old => old != e.2
  | none => false

/-- Whether a row is there, with the same fingerprint. -/
def isSame (index : Index) (e : String × String) : Bool := index.get? e.1 == some e.2

/-- The comparison of fingerprints with an index that is in use. -/
def compareWith (fingerprints index : Index) : TableDiff where
  full := false
  inserted := (fingerprints.entries.filter (isNew index)).map Prod.fst
  updated := (fingerprints.entries.filter (isChanged index)).map Prod.fst
  unchanged := (fingerprints.entries.filter (isSame index)).length
  deleted := index.keys.filter fun id => !fingerprints.contains id

/-- The comparison of fingerprints with nothing: all ids are new. -/
def loadAnew (fingerprints : Index) : TableDiff where
  full := true
  inserted := fingerprints.keys
  updated := []
  unchanged := 0
  deleted := []

/-- The comparison of the fingerprints of records with the index of a table, if there is one. An
empty index is as good as none, unless there are no records either. -/
def compare (fingerprints : Index) : Option Index → TableDiff
  | none => loadAnew fingerprints
  | some index =>
    if index.isEmpty && !fingerprints.isEmpty then loadAnew fingerprints
    else compareWith fingerprints index

theorem mem_inserted_compareWith {fingerprints index : Index} {id : String} :
    id ∈ (compareWith fingerprints index).inserted ↔
      (∃ new, fingerprints.get? id = some new) ∧ index.get? id = none := by
  simp only [compareWith, isNew, List.mem_map, List.mem_filter, Prod.exists, Dict.get?_eq_some_iff,
    Option.isNone_iff_eq_none]
  constructor
  · rintro ⟨k, v, ⟨there, fresh⟩, rfl⟩; exact ⟨⟨v, there⟩, fresh⟩
  · rintro ⟨⟨v, there⟩, fresh⟩; exact ⟨id, v, ⟨there, fresh⟩, rfl⟩

theorem mem_updated_compareWith {fingerprints index : Index} {id : String} :
    id ∈ (compareWith fingerprints index).updated ↔
      ∃ new old, fingerprints.get? id = some new ∧ index.get? id = some old ∧ old ≠ new := by
  simp only [compareWith, List.mem_map, List.mem_filter, Prod.exists]
  constructor
  · rintro ⟨k, v, ⟨there, other⟩, rfl⟩
    cases h : index.get? k with
    | none => simp [isChanged, h] at other
    | some old =>
      exact ⟨v, old, Dict.get?_eq_some_iff.2 there, rfl, by simpa [isChanged, h] using other⟩
  · rintro ⟨v, old, there, before, other⟩
    exact ⟨id, v, ⟨Dict.get?_eq_some_iff.1 there, by simp [isChanged, before, other]⟩, rfl⟩

theorem mem_deleted_compareWith {fingerprints index : Index} {id : String} :
    id ∈ (compareWith fingerprints index).deleted ↔
      (∃ old, index.get? id = some old) ∧ fingerprints.get? id = none := by
  simp [compareWith, Dict.mem_keys, Dict.contains]

end ConferenceSync.Import
