import Mathlib.Data.String.Basic
import Mathlib.Order.Compare
import ConferenceSync.Proofs.AllOrNothing
import ConferenceSync.Proofs.Dict
import ConferenceSync.Store.Query

/-!
# Rows in order

A query that lists rows gives each row of a selection once, and in the order that it asks for. The
orders compare one column after another; each of them is total and transitive, so a list that is
sorted by one is sorted as a whole and not just neighbour by neighbour. No row is listed twice
because rows lie under their ids, which no batch can change.

## Main definitions

* `StoredRow.id`, `Keyed` — the column with the id of a row, and that each row lies under its id
* `titled` — the row of a session with a title

## Main results

* `keyed_rows_apply`, `keyed_rows_afterAll` — rows lie under their ids after any batch
* `Query.pairwise_orderBy`, `Query.perm_orderBy` — a sorted list is sorted, and has the same members
* `Query.mem_inOrder`, `Query.nodup_inOrder`, `Query.pairwise_inOrder` — what is listed
* `Query.isLE_byStart_iff` — what it means that sessions are ordered by start and title
-/

namespace ConferenceSync

/-! ## Ids -/

/-- The column with the id of a row. -/
def StoredRow.id : {table : Table} → StoredRow table → String
  | .rooms, row => Agenda.Room.id row.columns
  | .blocks, row => Agenda.Block.id row.columns
  | .tags, row => Agenda.Tag.id row.columns
  | .speakers, row => Agenda.Speaker.id row.columns
  | .sessions, row => SessionColumns.id row.columns
  | .searchSuggestions, row => Agenda.SearchSuggestion.id row.columns
  | .mapMarkers, row => Agenda.MapMarker.id row.columns
  | .mapTiles, row => Agenda.MapTile.id row.columns
  | .hashtags, row => Agenda.Hashtag.id row.columns
  | .videos, row => Agenda.Video.id row.columns

/-- The row of a session that has nothing but an id and a title. -/
def titled (id title : String) : StoredRow .sessions :=
  ⟨.of ⟨id, title, "", "", 0, 0, "", [], "", "", [], false, "", "", "", 0, "", "", 0⟩, ""⟩

/-- Whether each row of a table lies under its id. -/
def Keyed {table : Table} (rows : Dict (StoredRow table)) : Prop :=
  ∀ id row, rows.get? id = some row → row.id = id

section Keyed

variable {table : Table} {c : Contents}

@[simp] theorem StoredRow.id_of (record : table.Record) :
    (StoredRow.of table record).id = table.idOf record := by
  cases table <;> rfl

theorem keyed_empty : Keyed (.empty : Dict (StoredRow table)) := by
  intro id row there
  simp at there

theorem keyed_iff {rows : Dict (StoredRow table)} :
    Keyed rows ↔ ∀ e ∈ rows.entries, e.2.id = e.1 := by
  constructor
  · intro keyed e listed
    exact keyed e.1 e.2 (Dict.get?_eq_some_iff.2 listed)
  · intro own id row there
    exact own (id, row) (Dict.get?_eq_some_iff.1 there)

theorem Keyed.erase {rows : Dict (StoredRow table)} (keyed : Keyed rows) (key : String) :
    Keyed (rows.erase key) := by
  intro id row there
  rw [Dict.get?_erase] at there
  split at there
  · exact absurd there (by simp)
  · exact keyed id row there

theorem Keyed.insert_of {rows : Dict (StoredRow table)} (keyed : Keyed rows)
    (record : table.Record) : Keyed (rows.insert (table.idOf record) (.of table record)) := by
  intro id row there
  rw [Dict.get?_insert] at there
  split at there
  · next same =>
    obtain rfl := Option.some.inj there
    rw [StoredRow.id_of, same]
  · exact keyed id row there

/-- Other rows in some table do no harm if they are keyed, should they be the ones in question. -/
theorem keyed_rows_setRows {other : Table} {rows : Dict (StoredRow other)}
    (keyed : Keyed (c.rows table)) (fresh : other = table → Keyed rows) :
    Keyed ((c.setRows other rows).rows table) := by
  by_cases same : other = table
  · subst same
    rw [Contents.rows_setRows_self]
    exact fresh rfl
  · rw [Contents.rows_setRows_of_ne _ (Ne.symm same)]
    exact keyed

/-- A mutation writes rows under their ids only. -/
theorem keyed_rows_apply (keyed : Keyed (c.rows table)) (m : Mutation) :
    Keyed ((c.apply m).rows table) := by
  cases m with
  | deleteAll other => exact keyed_rows_setRows keyed fun _ => keyed_empty
  | deleteById other id =>
    refine keyed_rows_setRows keyed fun same => ?_
    subst same
    exact keyed.erase id
  | insert row =>
    refine keyed_rows_setRows keyed fun same => ?_
    subst same
    exact keyed.insert_of row.record
  | update row =>
    refine keyed_rows_setRows keyed fun same => ?_
    subst same
    exact keyed.insert_of row.record
  | deleteAllLinks | deleteLinks | insertLink => exact keyed

theorem keyed_rows_afterAll (keyed : Keyed (c.rows table)) (batch : Batch) :
    Keyed ((c.afterAll batch).rows table) := by
  induction batch generalizing c with
  | nil => exact keyed
  | cons m rest ih => exact ih (keyed_rows_apply keyed m)

end Keyed

namespace Query

/-! ## Orders -/

/-- Texts are compared by their code points. -/
theorem isLE_compare_text_iff (a b : String) : (compare a b).isLE = true ↔ a ≤ b := by
  rw [Ordering.isLE_iff_ne_gt, compare_gt_iff_gt, not_lt]

instance : Std.TransCmp byStart :=
  inferInstanceAs <| Std.TransCmp <|
    compareLex (compareOn SessionColumns.startMillis) (compareOn SessionColumns.title)

/-- Of two sessions the one that starts first comes first; of two that start together, the one whose
title does. -/
theorem isLE_byStart_iff (a b : SessionColumns) :
    (byStart a b).isLE = true ↔
      a.startMillis < b.startMillis ∨ a.startMillis = b.startMillis ∧ a.title ≤ b.title := by
  rw [byStart, Ordering.isLE_then_iff_or, compare_lt_iff_lt, compare_eq_iff_eq,
    isLE_compare_text_iff]

/-! ## Lists in order -/

section OrderBy

variable {α : Type} (order : α → α → Ordering) (values : List α)

theorem perm_orderBy : (orderBy order values).Perm values := List.mergeSort_perm ..

theorem pairwise_orderBy [Std.TransCmp order] :
    (orderBy order values).Pairwise fun a b => (order a b).isLE = true := by
  refine List.pairwise_mergeSort (fun a b c => Std.TransCmp.isLE_trans) (fun a b => ?_) values
  have swapped : order b a = (order a b).swap := Std.OrientedCmp.eq_swap
  rw [swapped]
  cases order a b <;> rfl

end OrderBy

/-! ## Rows in order -/

section InOrder

variable {table : Table} {order : table.Columns → table.Columns → Ordering}
  {rows : Dict (StoredRow table)}

theorem mem_inOrder {row : StoredRow table} :
    row ∈ inOrder order rows ↔ ∃ id, rows.get? id = some row := by
  rw [inOrder, (perm_orderBy _ _).mem_iff, Dict.values, List.mem_map]
  constructor
  · rintro ⟨⟨id, _⟩, listed, rfl⟩
    exact ⟨id, Dict.get?_eq_some_iff.2 listed⟩
  · rintro ⟨id, there⟩
    exact ⟨(id, row), Dict.get?_eq_some_iff.1 there, rfl⟩

/-- No row is listed twice. -/
theorem nodup_inOrder (keyed : Keyed rows) : ((inOrder order rows).map StoredRow.id).Nodup := by
  have ids : rows.values.map StoredRow.id = rows.keys := by
    rw [Dict.values, Dict.keys, List.map_map]
    refine List.map_congr_left fun e listed => ?_
    exact keyed e.1 e.2 (Dict.get?_eq_some_iff.2 listed)
  have same := (perm_orderBy (fun a b => order a.columns b.columns) rows.values).map StoredRow.id
  rw [ids] at same
  exact same.nodup_iff.2 rows.nodup_keys

/-- Of two rows the one that comes first is not listed after the other. -/
theorem pairwise_inOrder [Std.TransCmp order] :
    (inOrder order rows).Pairwise fun a b => (order a.columns b.columns).isLE = true :=
  have : Std.TransCmp fun a b : StoredRow table => order a.columns b.columns :=
    { eq_swap := Std.OrientedCmp.eq_swap
      isLE_trans := Std.TransCmp.isLE_trans }
  pairwise_orderBy _ rows.values

end InOrder

end Query

end ConferenceSync
