import Mathlib.Data.List.Basic
import ConferenceSync.Proofs.PassEffect

/-!
# Writing and removing the rows of a table

The mutations for the rows of a table are run on contents: first those of the records that are new
or changed, then those of the ids that are gone. Sessions that only follow what they refer to are
updated after them. Each mutation can be done when its turn comes.

## Main results

* `Import.Pass.runs_table` — the mutations of a table lead to the rows after the import
* `Import.Pass.runs_refresh` — so do those of sessions, with the sessions that only follow
-/

namespace ConferenceSync

open Agenda

namespace Import.Pass

variable {p : Pass} {c : Contents} {table : Table}

/-! ## The batch of a table -/

/-- The rows of the records that a comparison says to write. -/
def rowsToWrite (diff : TableDiff) (records : List (String × table.Record)) :
    List (String × StoredRow table) :=
  (records.filter fun e => diff.written.contains e.1).map fun e => (e.1, .of table e.2)

/-- A record that counts as new is inserted, one that counts as changed is updated; both put its
row under its id. -/
theorem runs_record (diff : TableDiff) {id : String} {record : table.Record}
    (own : table.idOf record = id) (fresh : id ∈ diff.inserted → (c.rows table).get? id = none)
    (known : id ∈ diff.updated → ∃ row, (c.rows table).get? id = some row) :
    c.Runs (recordMutation? diff (id, record)).toList
      (if id ∈ diff.written then
        c.setRows table ((c.rows table).insert id (.of table record)) else c) := by
  rw [recordMutation?]
  by_cases new : id ∈ diff.inserted
  · have written : id ∈ diff.written := List.mem_append_left _ new
    simp only [List.contains_iff_mem, new, written, ↓reduceIte, Option.toList_some]
    refine ⟨?_, ?_⟩
    · show (c.rows table).contains (table.idOf record) = false
      rw [Dict.contains_eq_false_iff, own]
      exact fresh new
    · simp [Contents.apply, Row.id, own]
  · by_cases old : id ∈ diff.updated
    · have written : id ∈ diff.written := List.mem_append_right _ old
      simp only [List.contains_iff_mem, new, old, written, ↓reduceIte, Option.toList_some]
      refine ⟨?_, ?_⟩
      · show (c.rows table).contains (table.idOf record) = true
        rw [Dict.contains_iff, own]
        exact known old
      · simp [Contents.apply, Row.id, own]
    · have unwritten : id ∉ diff.written := by simp [TableDiff.written, new, old]
      simp [new, old, unwritten]

theorem rowsToWrite_cons (diff : TableDiff) (id : String) (record : table.Record)
    (rest : List (String × table.Record)) :
    rowsToWrite diff ((id, record) :: rest) =
      if id ∈ diff.written then (id, .of table record) :: rowsToWrite diff rest
      else rowsToWrite diff rest := by
  by_cases written : id ∈ diff.written <;> simp [rowsToWrite, written]

/-- Records are inserted and updated in one go: ids that count as new must not be there, ids that
count as changed must. -/
theorem runs_records (diff : TableDiff) {records : List (String × table.Record)}
    (own : ∀ e ∈ records, table.idOf e.2 = e.1) (once : (records.map Prod.fst).Nodup)
    (fresh : ∀ id ∈ diff.inserted, id ∈ records.map Prod.fst → (c.rows table).get? id = none)
    (known : ∀ id ∈ diff.updated, id ∈ records.map Prod.fst →
      ∃ row, (c.rows table).get? id = some row) :
    c.Runs (records.filterMap (recordMutation? diff))
      (c.setRows table ((c.rows table).overlay (rowsToWrite diff records))) := by
  induction records generalizing c with
  | nil => simp [rowsToWrite, Dict.overlay]
  | cons e rest ih =>
    obtain ⟨id, record⟩ := e
    rw [List.map_cons, List.nodup_cons] at once
    have first := runs_record (c := c) diff (own _ List.mem_cons_self)
      (fun new => fresh id new List.mem_cons_self) (fun old => known id old List.mem_cons_self)
    have later (d : Contents)
        (same : ∀ k, k ≠ id → (d.rows table).get? k = (c.rows table).get? k) :
        d.Runs (rest.filterMap (recordMutation? diff))
          (d.setRows table ((d.rows table).overlay (rowsToWrite diff rest))) := by
      refine ih (fun e he => own e (List.mem_cons_of_mem _ he)) once.2 ?_ ?_
      · intro k new inRest
        rw [same k fun h => once.1 (h ▸ inRest)]
        exact fresh k new (List.mem_cons_of_mem _ inRest)
      · intro k old inRest
        rw [same k fun h => once.1 (h ▸ inRest)]
        exact known k old (List.mem_cons_of_mem _ inRest)
    have batch : ((id, record) :: rest).filterMap (recordMutation? diff) =
        (recordMutation? diff (id, record)).toList ++ rest.filterMap (recordMutation? diff) := by
      rw [List.filterMap_cons]
      cases recordMutation? diff (id, record) <;> rfl
    rw [batch, rowsToWrite_cons]
    by_cases written : id ∈ diff.written
    · rw [if_pos written] at first ⊢
      have tail := later (c.setRows table ((c.rows table).insert id (.of table record)))
        fun k other => by
          rw [Contents.rows_setRows_self, Dict.get?_insert, if_neg (Ne.symm other)]
      rw [Contents.setRows_setRows, Contents.rows_setRows_self] at tail
      exact first.append tail
    · rw [if_neg written] at first ⊢
      exact first.append (later c fun _ _ => rfl)

/-- Rows are removed one after another. -/
theorem runs_deleted (table : Table) (ids : List String) :
    c.Runs (ids.map (.deleteById table)) (c.setRows table ((c.rows table).eraseAll ids)) := by
  induction ids generalizing c with
  | nil => simp [Dict.eraseAll]
  | cons id rest ih =>
    refine ⟨trivial, ?_⟩
    have tail := ih (c := c.apply (.deleteById table id))
    simpa [Contents.apply, Dict.eraseAll] using tail

theorem find?_rowsToWrite (diff : TableDiff) (records : Dict table.Record) (id : String) :
    Dict.find? id (rowsToWrite diff records.entries) =
      if id ∈ diff.written then (records.get? id).map (StoredRow.of table) else none := by
  show ((records.filter fun k _ => diff.written.contains k).map (StoredRow.of table)).get? id = _
  rw [Dict.get?_map, Dict.get?_filter]
  by_cases written : id ∈ diff.written <;> cases records.get? id <;> simp [written]

theorem nodup_rowsToWrite (diff : TableDiff) (records : Dict table.Record) :
    ((rowsToWrite diff records.entries).map Prod.fst).Nodup :=
  ((records.filter fun k _ => diff.written.contains k).map (StoredRow.of table)).nodup_keys

theorem own_of_records (p : Pass) (table : Table) :
    ∀ e ∈ (p.records table).entries, table.idOf e.2 = e.1 :=
  fun _ he => DataSet.idOf_of_records (Dict.get?_eq_some_iff.2 he)

/-- Writing and removing rows of a table leaves the rows of its records. -/
theorem settle_eq (p : Pass) (c : Contents) (table : Table) :
    let diff := p.diff c table
    ((if diff.full then Dict.empty else c.rows table).overlay
        (rowsToWrite diff (p.records table).entries)).eraseAll diff.deleted =
      settle (c.rows table) (p.records table) fun id _ => diff.written.contains id := by
  intro diff
  apply Dict.ext_get?
  intro id
  -- Under each id: a record or none, written or not, in a table that is loaded anew or not.
  rw [Dict.get?_eraseAll, Dict.get?_overlay (nodup_rowsToWrite diff _), find?_rowsToWrite, settle,
    Dict.get?_mapKeyed]
  cases there : (p.records table).get? id with
  | none =>
    by_cases gone : id ∈ diff.deleted
    · simp [gone]
    · cases full : diff.full with
      | true => simp [gone]
      | false =>
        cases before : (c.rows table).get? id with
        | none => simp [gone, before]
        | some row =>
          exact absurd (mem_deleted.2 ⟨there, compares_of_not_full full, row, before⟩) gone
  | some record =>
    have stays : id ∉ diff.deleted := by
      intro gone
      rw [(mem_deleted.1 gone).1] at there
      simp at there
    by_cases written : id ∈ diff.written
    · simp [stays, written]
    · obtain ⟨used, row, before, -⟩ := exists_of_not_mem_written there written
      cases full : diff.full with
      | true =>
        rw [absent_of_full full used] at before
        simp at before
      | false => simp [stays, written, before]

/-- The batch of a table brings the rows of its records up to date. -/
theorem runs_table {d : Contents} (same : d.rows table = c.rows table) :
    d.Runs (tableMutations (p.records table) (p.diff c table))
      (d.setRows table (settle (c.rows table) (p.records table)
        fun id _ => (p.diff c table).written.contains id)) := by
  have first : d.Runs (if (p.diff c table).full then [.deleteAll table] else [])
      (d.setRows table (if (p.diff c table).full then Dict.empty else c.rows table)) := by
    split
    · exact ⟨trivial, rfl⟩
    · rw [← same, Contents.setRows_rows]
      exact rfl
  have second := runs_records (p.diff c table)
    (c := d.setRows table (if (p.diff c table).full then Dict.empty else c.rows table))
    (own_of_records p table) (p.records table).nodup_keys
    (fun id new _ => by
      rw [Contents.rows_setRows_self]
      split
      · rfl
      · next kept => exact absent_of_mem_inserted new (by simpa using kept))
    (fun id old _ => by
      obtain ⟨kept, stored⟩ := stored_of_mem_updated old
      rw [kept, Contents.rows_setRows_self]
      exact stored)
  have third := runs_deleted table (p.diff c table).deleted
    (c := d.setRows table ((if (p.diff c table).full then Dict.empty else c.rows table).overlay
      (rowsToWrite (p.diff c table) (p.records table).entries)))
  rw [Contents.setRows_setRows, Contents.rows_setRows_self] at second third
  have all := (first.append second).append third
  rwa [settle_eq] at all

/-! ## Sessions that only follow -/

/-- A comparison that finds just those sessions changed that are only to follow. -/
def refreshDiff (sessions : Dict Session) (diff : TableDiff) (changed : ChangedReferences) :
    TableDiff :=
  ⟨false, [], (sessions.filter fun id s => !diff.written.contains id && changed.touch s).keys, 0,
    []⟩

@[simp] theorem inserted_refreshDiff (sessions : Dict Session) (diff : TableDiff)
    (changed : ChangedReferences) : (refreshDiff sessions diff changed).inserted = [] := rfl

theorem mem_updated_refreshDiff {sessions : Dict Session} {diff : TableDiff}
    {changed : ChangedReferences} {id : String} :
    id ∈ (refreshDiff sessions diff changed).updated ↔
      ∃ s, sessions.get? id = some s ∧ id ∉ diff.written ∧ changed.touch s = true := by
  rw [refreshDiff, Dict.mem_keys]
  simp only [Dict.get?_filter, Option.filter_eq_some_iff, Bool.and_eq_true, Bool.not_eq_true',
    List.contains_eq_mem, decide_eq_false_iff_not]

/-- Refreshing sessions is the batch of that comparison. -/
theorem refreshMutations_eq (sessions : Dict Session) (diff : TableDiff)
    (changed : ChangedReferences) (kept : diff.full = false) :
    refreshMutations sessions diff changed =
      sessions.entries.filterMap
        (@recordMutation? .sessions (refreshDiff sessions diff changed)) := by
  rw [refreshMutations, kept]
  refine List.filterMap_congr fun e he => ?_
  have there := Dict.get?_eq_some_iff.2 he
  rw [refreshMutation?, recordMutation?]
  by_cases chosen : e.1 ∉ diff.written ∧ changed.touch e.2 = true
  · have listed := mem_updated_refreshDiff.2 ⟨e.2, there, chosen⟩
    simp [chosen, listed]
  · have unlisted : e.1 ∉ (refreshDiff sessions diff changed).updated := by
      intro listed
      obtain ⟨s, same, rest⟩ := mem_updated_refreshDiff.1 listed
      obtain rfl := Option.some.inj (there.symm.trans same)
      exact chosen rest
    simp [chosen, unlisted]

/-- If sessions are loaded anew all of them are written, and none is left that has to follow. -/
theorem rowsAfter_of_full (full : (p.diff c .sessions).full = true) :
    p.rowsAfter c .sessions = settle (c.rows .sessions) (p.records .sessions)
      fun id _ => (p.diff c .sessions).written.contains id := by
  apply Dict.ext_get?
  intro id
  rw [rowsAfter, settle, settle, Dict.get?_mapKeyed, Dict.get?_mapKeyed]
  cases there : (p.records .sessions).get? id with
  | none => rfl
  | some s =>
    have written : id ∈ (p.diff c .sessions).written := by
      by_contra kept
      obtain ⟨used, row, before, -⟩ := exists_of_not_mem_written there kept
      rw [absent_of_full full used] at before
      simp at before
    simp [writes, written]

/-- The rows of the sessions that only follow go over those that are there already. -/
theorem overlay_refreshDiff (p : Pass) (c : Contents) :
    (settle (c.rows .sessions) (p.records .sessions)
        fun id _ => (p.diff c .sessions).written.contains id).overlay
      (rowsToWrite (refreshDiff (p.records .sessions) (p.diff c .sessions) (p.changed c))
        (p.records .sessions).entries) = p.rowsAfter c .sessions := by
  apply Dict.ext_get?
  intro id
  rw [Dict.get?_overlay (nodup_rowsToWrite _ _), find?_rowsToWrite, rowsAfter, settle, settle,
    Dict.get?_mapKeyed, Dict.get?_mapKeyed, TableDiff.written]
  simp only [inserted_refreshDiff, List.nil_append, mem_updated_refreshDiff]
  cases there : (p.records .sessions).get? id with
  | none => simp
  | some s =>
    by_cases written : id ∈ (p.diff c .sessions).written
    · simp [writes, written]
    · cases touched : (p.changed c).touch s <;> simp [writes, written, follows, touched]

/-- Refreshing sessions leaves the rows that `Pass.rowsAfter` says. -/
theorem runs_refresh {d : Contents}
    (same : d.rows .sessions = settle (c.rows .sessions) (p.records .sessions)
      fun id _ => (p.diff c .sessions).written.contains id) :
    d.Runs (refreshMutations (p.records .sessions) (p.diff c .sessions) (p.changed c))
      (d.setRows .sessions (p.rowsAfter c .sessions)) := by
  cases full : (p.diff c .sessions).full with
  | true =>
    rw [refreshMutations, full, rowsAfter_of_full full, ← same, Contents.setRows_rows]
    exact rfl
  | false =>
    rw [refreshMutations_eq _ _ _ full, ← overlay_refreshDiff, ← same]
    refine runs_records _ (own_of_records p .sessions) (p.records .sessions).nodup_keys (by simp)
      fun id chosen _ => ?_
    obtain ⟨s, there, -⟩ := mem_updated_refreshDiff.1 chosen
    rw [same, settle, Dict.get?_mapKeyed, there]
    exact ⟨_, rfl⟩

end Import.Pass

end ConferenceSync
