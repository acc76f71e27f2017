import Mathlib.Data.List.Sort
import Mathlib.Data.String.Basic
import ConferenceSync.Import.Plan
import ConferenceSync.Proofs.Comparison

/-!
# The classes of a comparison

The records of a table are compared with the rows of an index. Each id of a record or a row falls
into one of four classes: it is new, changed, as before or gone. The mutations of the table follow
the classes: in the order of the ids each record that is new is inserted and each one that has
changed replaces its row, and then each row that is gone is removed. Which way the rows of the index
are listed does not matter.

## Main definitions

* `Import.Partitions` — that the classes are those of given records and given rows
* `Import.Writes` — that a mutation writes the record with an id as its class demands
* `Import.CarriesOut` — that mutations follow the classes

## Main results

* `Import.compareWith_swap` — the comparison the other way round
* `Import.forall₂_writes` — the mutations that write records, id by id
* `Import.compare_partitions` — the classes of a comparison, and the mutations that follow from them
-/

namespace ConferenceSync.Import

open Agenda

/-! ## The classes -/

section Classes

variable {fingerprints index : Index} {index? : Option Index}

theorem ascending_inserted_compareWith :
    (compareWith fingerprints index).inserted.Pairwise (· < ·) :=
  List.pairwise_map.2 (fingerprints.ascending.filter _)

theorem ascending_updated_compareWith :
    (compareWith fingerprints index).updated.Pairwise (· < ·) :=
  List.pairwise_map.2 (fingerprints.ascending.filter _)

theorem ascending_deleted_compareWith :
    (compareWith fingerprints index).deleted.Pairwise (· < ·) :=
  index.ascending_keys.filter _

/-- The numbers of fingerprints that both indexes have do not depend on which comes first. -/
theorem length_filter_isSame_swap (fingerprints index : Index) :
    (fingerprints.entries.filter (isSame index)).length =
      (index.entries.filter (isSame fingerprints)).length := by
  have once (d e : Index) : (d.entries.filter (isSame e)).Nodup :=
    (Dict.nodup_of_once d.nodup_keys).filter _
  have same (d e : Index) (entry : String × String) :
      entry ∈ d.entries.filter (isSame e) ↔
        d.get? entry.1 = some entry.2 ∧ e.get? entry.1 = some entry.2 := by
    rw [List.mem_filter, isSame, beq_iff_eq, Dict.get?_eq_some_iff (d := d)]
  refine ((List.perm_ext_iff_of_nodup (once _ _) (once _ _)).2 fun entry => ?_).length_eq
  rw [same, same, and_comm]

/-- The other way round, what is new is gone and what is gone is new. -/
theorem compareWith_swap (fingerprints index : Index) :
    compareWith index fingerprints =
      { full := false
        inserted := (compareWith fingerprints index).deleted
        updated := (compareWith fingerprints index).updated
        unchanged := (compareWith fingerprints index).unchanged
        deleted := (compareWith fingerprints index).inserted } := by
  -- The ids ascend in all classes, so those with the same members are equal.
  have inserted (d e : Index) : (compareWith d e).inserted = (compareWith e d).deleted :=
    ascending_inserted_compareWith.eq_of_mem_iff ascending_deleted_compareWith fun id => by
      rw [mem_inserted_compareWith, mem_deleted_compareWith]
  have updated : (compareWith index fingerprints).updated =
      (compareWith fingerprints index).updated :=
    ascending_updated_compareWith.eq_of_mem_iff ascending_updated_compareWith fun id => by
      rw [mem_updated_compareWith, mem_updated_compareWith]
      exact ⟨fun ⟨new, old, a, b, other⟩ => ⟨old, new, b, a, other.symm⟩,
        fun ⟨new, old, a, b, other⟩ => ⟨old, new, b, a, other.symm⟩⟩
  have unchanged : (compareWith index fingerprints).unchanged =
      (compareWith fingerprints index).unchanged :=
    length_filter_isSame_swap index fingerprints
  rw [← inserted index, ← updated, ← unchanged, inserted fingerprints index]
  rfl

/-- Each record is new, changed or as before. -/
theorem length_classes (fingerprints index : Index) :
    (compareWith fingerprints index).inserted.length +
        (compareWith fingerprints index).updated.length +
      (compareWith fingerprints index).unchanged = fingerprints.size := by
  simp only [compareWith, List.length_map, Dict.size]
  induction fingerprints.entries with
  | nil => rfl
  | cons e rest ih =>
    rw [List.length_cons, ← ih]
    cases before : index.get? e.1 with
    | none => simp [isNew, isChanged, isSame, before]; omega
    | some old =>
      by_cases same : old = e.2 <;> simp [isNew, isChanged, isSame, before, same] <;> omega

/-- Each row is changed, as before or gone. -/
theorem length_classes_of_index (fingerprints index : Index) :
    (compareWith fingerprints index).updated.length +
        (compareWith fingerprints index).unchanged +
      (compareWith fingerprints index).deleted.length = index.size := by
  have classes := length_classes index fingerprints
  simp only [compareWith_swap fingerprints index] at classes
  omega

/-- No id is in two classes. -/
theorem disjoint_compare (fingerprints : Index) (index? : Option Index) :
    (∀ id ∈ (compare fingerprints index?).inserted, id ∉ (compare fingerprints index?).updated) ∧
      ∀ id ∈ (compare fingerprints index?).written, id ∉ (compare fingerprints index?).deleted := by
  constructor
  · have once : (compare fingerprints index?).written.Nodup := nodup_written_compare
    exact fun id new changed => (List.nodup_append.1 once).2.2 id new id changed rfl
  · intro id written gone
    obtain ⟨new, there, -⟩ := mem_written_compare.1 written
    rw [(mem_deleted_compare.1 gone).1] at there
    exact absurd there (by simp)

end Classes

/-! ## Records and rows -/

section Records

variable {table : Table} {records : Dict table.Record} {rows : List (String × String)}
  {diff : TableDiff}

theorem exists_get?_fingerprints_iff {id : String} :
    (∃ new, (fingerprints records).get? id = some new) ↔
      ∃ record, records.get? id = some record := by
  simp [fingerprints, Dict.get?_map]

/-- Whether the classes of a comparison are those of records and of the rows of an index, which are
listed in any order. The ids of each class ascend, and no id is in two of them. New are the records
without a row, changed those whose rows have another fingerprint, and gone the rows without a
record; each record and each row is in one class. -/
structure Partitions (records : Dict table.Record) (rows : List (String × String))
    (diff : TableDiff) : Prop where
  kept : diff.full = false
  inserted : diff.inserted.Pairwise (· < ·)
  updated : diff.updated.Pairwise (· < ·)
  deleted : diff.deleted.Pairwise (· < ·)
  inserted_updated : ∀ id ∈ diff.inserted, id ∉ diff.updated
  inserted_deleted : ∀ id ∈ diff.inserted, id ∉ diff.deleted
  updated_deleted : ∀ id ∈ diff.updated, id ∉ diff.deleted
  mem_inserted : ∀ id, id ∈ diff.inserted ↔
    (∃ record, records.get? id = some record) ∧ id ∉ rows.map Prod.fst
  mem_updated : ∀ id, id ∈ diff.updated ↔
    ∃ record old, records.get? id = some record ∧ (id, old) ∈ rows ∧
      old ≠ table.fingerprintOf record
  unchanged : diff.unchanged =
    rows.countP fun e => (records.get? e.1).map table.fingerprintOf = some e.2
  mem_deleted : ∀ id, id ∈ diff.deleted ↔ id ∈ rows.map Prod.fst ∧ records.get? id = none
  records_size : diff.inserted.length + diff.updated.length + diff.unchanged = records.size
  rows_length : diff.updated.length + diff.unchanged + diff.deleted.length = rows.length

/-- Whether a mutation inserts the record with an id that is new, or replaces the row of the record
with an id that has changed. -/
def Writes (records : Dict table.Record) (diff : TableDiff) (id : String) (m : Mutation) : Prop :=
  ∃ record, records.get? id = some record ∧ (⟨table, record⟩ : Row).id = id ∧
    (id ∈ diff.inserted ∧ m = .insert ⟨table, record⟩ ∨
      id ∈ diff.updated ∧ m = .update ⟨table, record⟩)

/-- Whether mutations write one record for each id that is new or has changed, in ascending order of
the ids, and then remove one row for each id that is gone. -/
def CarriesOut (records : Dict table.Record) (diff : TableDiff) (batch : Batch) : Prop :=
  ∃ ids writes, ids.Pairwise (· < ·) ∧
    (∀ id, id ∈ ids ↔ id ∈ diff.inserted ∨ id ∈ diff.updated) ∧
    List.Forall₂ (Writes records diff) ids writes ∧
    batch = writes ++ diff.deleted.map (.deleteById table)

/-- The mutations of records are those of the ids to write, one for each. -/
theorem forall₂_writes (own : ∀ id record, records.get? id = some record → table.idOf record = id)
    (diff : TableDiff) :
    List.Forall₂ (Writes records diff) (records.keys.filter diff.written.contains)
      (records.entries.filterMap (recordMutation? diff)) := by
  have there : ∀ e ∈ records.entries, records.get? e.1 = some e.2 :=
    fun _ listed => Dict.get?_eq_some_iff.2 listed
  rw [Dict.keys]
  generalize records.entries = entries at there
  induction entries with
  | nil => exact .nil
  | cons e rest ih =>
    have tail := ih fun e listed => there e (List.mem_cons_of_mem _ listed)
    have found := there e List.mem_cons_self
    rw [List.map_cons, List.filter_cons, List.filterMap_cons, recordMutation?]
    by_cases new : e.1 ∈ diff.inserted
    · have written : e.1 ∈ diff.written := List.mem_append_left _ new
      simp only [List.contains_iff_mem, new, written, ↓reduceIte]
      exact .cons ⟨e.2, found, own _ _ found, .inl ⟨new, rfl⟩⟩ tail
    · by_cases changed : e.1 ∈ diff.updated
      · have written : e.1 ∈ diff.written := List.mem_append_right _ changed
        simp only [List.contains_iff_mem, new, changed, written, ↓reduceIte]
        exact .cons ⟨e.2, found, own _ _ found, .inr ⟨changed, rfl⟩⟩ tail
      · have unwritten : e.1 ∉ diff.written := by simp [TableDiff.written, new, changed]
        simpa only [List.contains_iff_mem, new, changed, unwritten, ↓reduceIte] using tail

/-- An index with rows is in use. -/
theorem compare_of_ne_nil (new : Index) (once : (rows.map Prod.fst).Nodup) (nonempty : rows ≠ []) :
    compare new (some (.ofList rows)) = compareWith new (.ofList rows) := by
  have entries : (Dict.ofList rows).entries ≠ [] := fun none =>
    nonempty ((none ▸ Dict.perm_entries_ofList once).nil_eq).symm
  have used : (Dict.ofList rows).isEmpty = false := List.isEmpty_eq_false_iff.2 entries
  rw [compare, used, Bool.false_and, if_neg Bool.false_ne_true]

/-- The classes of a comparison with rows that are listed in any order. -/
theorem partitions_compare (once : (rows.map Prod.fst).Nodup) (nonempty : rows ≠ []) :
    Partitions records rows (compare (fingerprints records) (some (.ofList rows))) := by
  have stored {id old : String} : (Dict.ofList rows).get? id = some old ↔ (id, old) ∈ rows :=
    Dict.get?_ofList_eq_some_iff once
  have listed (id : String) :
      (∃ old, (Dict.ofList rows).get? id = some old) ↔ id ∈ rows.map Prod.fst := by
    simp [stored]
  -- The index does not show the order of the rows, but it has as many entries of each sort.
  have perm : (Dict.ofList rows).entries.Perm rows := Dict.perm_entries_ofList once
  have fingerprint (id : String) : (fingerprints records).get? id =
      (records.get? id).map table.fingerprintOf := Dict.get?_map _ _ _
  have apart := disjoint_compare (fingerprints records) (some (.ofList rows))
  rw [compare_of_ne_nil _ once nonempty] at apart ⊢
  exact {
    kept := rfl
    inserted := ascending_inserted_compareWith
    updated := ascending_updated_compareWith
    deleted := ascending_deleted_compareWith
    inserted_updated := apart.1
    inserted_deleted := fun id new => apart.2 id (List.mem_append_left _ new)
    updated_deleted := fun id changed => apart.2 id (List.mem_append_right _ changed)
    mem_inserted := fun id => by
      rw [mem_inserted_compareWith, fingerprint, ← Option.not_isSome_iff_eq_none,
        Option.isSome_iff_exists, listed]
      simp
    mem_updated := fun id => by
      rw [mem_updated_compareWith, fingerprint]
      simp [stored]
    unchanged := by
      rw [← perm.countP_eq, List.countP_eq_length_filter, compareWith, length_filter_isSame_swap]
      refine congrArg List.length (List.filter_congr fun e _ => ?_)
      rw [isSame, fingerprint, Bool.beq_eq_decide_eq]
    mem_deleted := fun id => by
      rw [mem_deleted_compareWith, listed, fingerprint, Option.map_eq_none_iff]
    records_size := by
      rw [length_classes, Dict.size, Dict.size, fingerprints, Dict.map, List.length_map]
    rows_length := by
      rw [length_classes_of_index, Dict.size, perm.length_eq] }

/-- The mutations of a table follow the classes of a comparison. -/
theorem carriesOut_tableMutations
    (own : ∀ id record, records.get? id = some record → table.idOf record = id)
    (index? : Option Index)
    (kept : (compare (fingerprints records) index?).full = false) :
    CarriesOut records (compare (fingerprints records) index?)
      (tableMutations records (compare (fingerprints records) index?)) := by
  generalize compared : compare (fingerprints records) index? = diff at kept
  refine ⟨_, _, records.ascending_keys.filter _, fun id => ?_, forall₂_writes own diff, ?_⟩
  · rw [List.mem_filter, List.contains_iff_mem, TableDiff.written, List.mem_append,
      and_iff_right_iff_imp, ← List.mem_append, ← TableDiff.written, ← compared]
    intro written
    obtain ⟨new, there, -⟩ := mem_written_compare.1 written
    exact Dict.mem_keys.2 (exists_get?_fingerprints_iff.1 ⟨new, there⟩)
  · rw [tableMutations, kept, if_neg Bool.false_ne_true, List.nil_append]

/-- If a table is loaded anew, it is emptied and each record is inserted. -/
theorem tableMutations_loadAnew (records : Dict table.Record) :
    tableMutations records (loadAnew (fingerprints records)) =
      .deleteAll table :: records.entries.map fun e => .insert ⟨table, e.2⟩ := by
  have all : ∀ e ∈ records.entries,
      recordMutation? (loadAnew (fingerprints records)) e =
        some (.insert ⟨table, e.2⟩) := fun e listed => by
    have new : e.1 ∈ (loadAnew (fingerprints records)).inserted :=
      Dict.mem_keys.2 (exists_get?_fingerprints_iff.2 ⟨e.2, Dict.get?_eq_some_iff.2 listed⟩)
    rw [recordMutation?, if_pos (List.contains_iff_mem.2 new)]
  rw [tableMutations, List.filterMap_congr all, List.filterMap_eq_map']
  simp [loadAnew]

/-- The classes of a comparison with the rows of an index, which are listed in any order, and the
mutations that follow from them. Without an index, or if it is empty and there are records, the
table is loaded anew. -/
theorem compare_partitions
    (own : ∀ id record, records.get? id = some record → table.idOf record = id) :
    (∀ rows : List (String × String), rows ≠ [] → (rows.map Prod.fst).Nodup →
      let diff := compare (fingerprints records) (some (.ofList rows))
      Partitions records rows diff ∧
        CarriesOut records diff (tableMutations records diff)) ∧
    ∀ index? : Option Index,
      index? = none ∨ index? = some .empty ∧ records.entries ≠ [] →
      tableMutations records (compare (fingerprints records) index?) =
        .deleteAll table :: records.entries.map fun e => .insert ⟨table, e.2⟩ := by
  constructor
  · intro rows nonempty once
    have parts : Partitions records rows _ := partitions_compare once nonempty
    exact ⟨parts, carriesOut_tableMutations own _ parts.kept⟩
  · rintro index? (rfl | ⟨rfl, nonempty⟩)
    · exact tableMutations_loadAnew records
    · have anew : (fingerprints records).isEmpty = false := by
        simpa [fingerprints, Dict.map, Dict.isEmpty] using nonempty
      have empty : Dict.isEmpty (.empty : Index) = true := rfl
      rw [compare, anew, empty, Bool.not_false, Bool.true_and, if_pos rfl]
      exact tableMutations_loadAnew records

end Records

/-! ## An example -/

/-- A room that is stored already. -/
def hall : Room := ⟨"hall", "Hall", "1"⟩

/-- The hall, a room that moves to another floor and a new room. -/
def venue : List Room := [⟨"attic", "Attic", "3"⟩, hall, ⟨"studio", "Studio", "2"⟩]

/-- The stored rooms, which are not listed in the order of their ids. -/
def storedRooms : List (String × String) :=
  [("studio", "unlike"), ("yard", "gone"), ("hall", Table.rooms.fingerprintOf hall)]

/-- One room is new, one has changed, one is as before and one is gone. -/
theorem compare_partitions_venue :
    let records := Table.rooms.byId venue
    let diff := compare (fingerprints records) (some (.ofList storedRooms))
    diff = ⟨false, ["attic"], ["studio"], 1, ["yard"]⟩ ∧
      Partitions records storedRooms diff ∧
      CarriesOut records diff (tableMutations records diff) ∧
      tableMutations records (compare (fingerprints records) none) =
        .deleteAll .rooms :: records.entries.map fun e => .insert ⟨.rooms, e.2⟩ := by
  have own : ∀ id record, (Table.rooms.byId venue).get? id = some record →
      Table.rooms.idOf record = id := fun _ _ found => id_of_mem_byId found
  have once : (storedRooms.map Prod.fst).Nodup := by simp [storedRooms]
  obtain ⟨listed, anew⟩ := compare_partitions own
  obtain ⟨parts, carried⟩ := listed storedRooms (List.cons_ne_nil _ _) once
  exact ⟨by decide +kernel, parts, carried, anew none (.inl rfl)⟩

end ConferenceSync.Import
