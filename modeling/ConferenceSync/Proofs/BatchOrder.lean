import Mathlib.Data.List.Basic
import ConferenceSync.Import.Indexes
import ConferenceSync.Proofs.Classification
import ConferenceSync.Proofs.PassRun

/-!
# The order of the mutations

Kinds come in the order of import. A table that is loaded anew is emptied before anything else
happens to it, and each row is written or removed once. The links of sessions come after their rows,
and those of a session are removed before they are added. This is a relation between any two
mutations of a batch, the earlier one and the later one. It is proved here for the parts of a batch:
the rows of a table, the sessions that only follow what they refer to, and the links.

## Main definitions

* `Mutation.MayPrecede` — that a mutation may come before another one in a batch
* `Import.TableDiff.Fits` — that a comparison may be one of given records

## Main results

* `Import.fits_compare` — a comparison of records fits them
* `Import.pairwise_tableMutations` — the mutations of a table are in order
* `Import.pairwise_sessionMutations` — so are those of sessions, with their links
* `Import.exists_of_insertLink_mem` — links are added only where they have been removed
-/

namespace ConferenceSync

open Agenda Import

/-! ## Which mutations may come before which -/

namespace Mutation

variable {m later : Mutation} {table : Table} {i j : String}

/-- The table to which the mutation belongs. Links belong to sessions. -/
def owner (m : Mutation) : Table := (Indexes.tableOf? m).getD .sessions

/-- The table and the id of the row that the mutation writes or removes, if it is about one row. -/
def rowKey? : Mutation → Option (Table × String)
  | deleteById table id => some (table, id)
  | insert row => some (row.table, row.id)
  | update row => some (row.table, row.id)
  | _ => none

/-- The session whose links the mutation adds or removes, if it is about one session. -/
def linkKey? : Mutation → Option String
  | deleteLinks _ id => some id
  | insertLink _ id _ => some id
  | _ => none

/-- Whether a mutation may come before another one in a batch, at whatever distance. Kinds come in
the order of import; nothing happens to a table before all its rows are removed, and a row is
written or removed only once; links come after the rows of sessions, and those of a session that
have been added are not removed. -/
structure MayPrecede (m later : Mutation) : Prop where
  kinds : m.kind.position ≤ later.kind.position
  wipe : ∀ table, later = .deleteAll table → Indexes.tableOf? m ≠ some table
  row : ∀ key, m.rowKey? = some key → later.rowKey? ≠ some key
  links : m.isLink = true → Indexes.tableOf? later ≠ some .sessions
  unlink : ∀ link id target, m = .insertLink link id target →
    ∀ other, later ≠ .deleteAllLinks other ∧ later ≠ .deleteLinks other id

theorem kind_eq (m : Mutation) : m.kind = m.owner.kind := by
  cases m <;> rfl

theorem owner_of_isLink (link : m.isLink = true) : m.owner = .sessions := by
  cases m <;> first | rfl | exact absurd link Bool.false_ne_true

theorem owner_of_rowKey? (key : m.rowKey? = some (table, i)) : m.owner = table := by
  cases m <;> simp only [rowKey?, reduceCtorEq, Option.some.injEq, Prod.mk.injEq] at key <;>
    exact key.1

theorem isLink_of_rowKey? (key : m.rowKey? = some (table, i)) : m.isLink = false := by
  cases m <;> first | rfl | simp [rowKey?] at key

theorem isLink_of_linkKey? (key : m.linkKey? = some i) : m.isLink = true := by
  cases m <;> first | rfl | simp [linkKey?] at key

theorem owner_of_tableOf? (of : Indexes.tableOf? m = some table) : m.owner = table := by
  rw [owner, of, Option.getD_some]

/-- Mutations of different tables are in order if their kinds are. -/
theorem mayPrecede_of_owner_ne (kinds : m.owner.kind.position ≤ later.owner.kind.position)
    (apart : m.owner ≠ later.owner) : MayPrecede m later where
  kinds := by rwa [kind_eq, kind_eq]
  wipe table all of := apart ((owner_of_tableOf? of).trans (all ▸ rfl))
  row key same sameLater :=
    apart ((owner_of_rowKey? same).trans (owner_of_rowKey? sameLater).symm)
  links link of := apart ((owner_of_isLink link).trans (owner_of_tableOf? of).symm)
  unlink link id target added other :=
    ⟨fun h => apart (by rw [added, h]; rfl), fun h => apart (by rw [added, h]; rfl)⟩

/-- Mutations of different rows of a table may come in any order. -/
theorem mayPrecede_of_rowKey? (key : m.rowKey? = some (table, i))
    (keyLater : later.rowKey? = some (table, j)) (apart : i ≠ j) : MayPrecede m later where
  kinds := by rw [kind_eq, kind_eq, owner_of_rowKey? key, owner_of_rowKey? keyLater]
  wipe _ all := by simp [all, rowKey?] at keyLater
  row other same sameLater := by
    rw [keyLater, Option.some.injEq] at sameLater
    rw [key, ← sameLater, Option.some.injEq, Prod.mk.injEq] at same
    exact apart same.2
  links link := by simp [isLink_of_rowKey? key] at link
  unlink _ _ _ added := by simp [added, rowKey?] at key

/-- A table is emptied before its rows are written. -/
theorem mayPrecede_deleteAll (keyLater : later.rowKey? = some (table, j)) :
    MayPrecede (.deleteAll table) later where
  kinds := by rw [kind_eq later, owner_of_rowKey? keyLater]; exact le_rfl
  wipe _ all := by simp [all, rowKey?] at keyLater
  row _ same := by simp [rowKey?] at same
  links link := by simp [isLink] at link
  unlink _ _ _ added := by simp at added

/-- The rows of sessions come before their links. -/
theorem mayPrecede_of_isLink (sessions : m.owner = .sessions) (rows : m.isLink = false)
    (link : later.isLink = true) : MayPrecede m later where
  kinds := by rw [kind_eq, kind_eq, sessions, owner_of_isLink link]
  wipe _ all := by simp [all, isLink] at link
  row _ _ := by cases later <;> simp [isLink] at link <;> simp [rowKey?]
  links before := by simp [rows] at before
  unlink _ _ _ added := by simp [added, isLink] at rows

/-- The links of a session may be added or removed before links of others are removed. -/
theorem mayPrecede_links (link : m.isLink = true) (linkLater : later.isLink = true)
    (unlink : ∀ link id target, m = .insertLink link id target →
      ∀ other, later ≠ .deleteAllLinks other ∧ later ≠ .deleteLinks other id) :
    MayPrecede m later where
  kinds := by rw [kind_eq, kind_eq, owner_of_isLink link, owner_of_isLink linkLater]
  wipe _ all := by simp [all, isLink] at linkLater
  row _ same := by cases m <;> simp [isLink] at link <;> simp [rowKey?] at same
  links _ := by cases later <;> simp [isLink] at linkLater <;> simp [Indexes.tableOf?]
  unlink := unlink

theorem mayPrecede_of_linkKey? (key : m.linkKey? = some i) (keyLater : later.linkKey? = some j)
    (apart : i ≠ j) : MayPrecede m later := by
  refine mayPrecede_links (isLink_of_linkKey? key) (isLink_of_linkKey? keyLater)
    fun link id target added other => ?_
  obtain rfl : id = i := by simpa [added, linkKey?] using key
  refine ⟨fun all => ?_, fun removed => apart ?_⟩
  · simp [all, linkKey?] at keyLater
  · simpa [removed, linkKey?] using keyLater

end Mutation

/-! ## The mutations of a table -/

namespace Import

open Mutation

variable {table : Table} {records : Dict table.Record} {diff : TableDiff} {m : Mutation}

/-- Whether a comparison tells records from ids that are gone, and lists each id once. -/
structure TableDiff.Fits (diff : TableDiff) (records : Dict table.Record) : Prop where
  once_written : diff.written.Nodup
  once_deleted : diff.deleted.Nodup
  known : ∀ id ∈ diff.written, ∃ record, records.get? id = some record
  gone : ∀ id ∈ diff.deleted, records.get? id = none

/-- What is written is not removed. -/
theorem TableDiff.Fits.apart (fits : diff.Fits records) :
    ∀ id ∈ diff.written, id ∉ diff.deleted := by
  intro id written gone
  obtain ⟨record, there⟩ := fits.known id written
  rw [fits.gone id gone] at there
  simp at there

theorem fits_compare (records : Dict table.Record) (index? : Option Index) :
    (compare (fingerprints records) index?).Fits records where
  once_written := nodup_written_compare
  once_deleted := by
    rcases compare_cases (fingerprints records) index? with ⟨anew, -⟩ | ⟨index, -, compared⟩
    · rw [anew]
      exact .nil
    · rw [compared]
      exact ascending_deleted_compareWith.imp ne_of_lt
  known id written := by
    obtain ⟨new, there, -⟩ := mem_written_compare.1 written
    exact exists_get?_fingerprints_iff.1 ⟨new, there⟩
  gone id gone := by
    have absent := (mem_deleted_compare.1 gone).1
    rwa [fingerprints, Dict.get?_map, Option.map_eq_none_iff] at absent

section Keyed

variable (own : ∀ id record, records.get? id = some record → table.idOf record = id)
include own

theorem rowKey?_of_recordMutation?
    {e : String × table.Record} (listed : e ∈ records.entries)
    (made : recordMutation? diff e = some m) :
    m.rowKey? = some (table, e.1) ∧ e.1 ∈ diff.written := by
  have id : some (table, table.idOf e.2) = some (table, e.1) := by
    rw [own _ _ (Dict.get?_eq_some_iff.2 listed)]
  rw [recordMutation?] at made
  split at made
  · next new =>
    obtain rfl := Option.some.inj made
    exact ⟨id, List.mem_append_left _ (List.contains_iff_mem.1 new)⟩
  · split at made
    · next changed =>
      obtain rfl := Option.some.inj made
      exact ⟨id, List.mem_append_right _ (List.contains_iff_mem.1 changed)⟩
    · simp at made

/-- The records of a table are written in order. -/
theorem pairwise_writes :
    (records.entries.filterMap (recordMutation? diff)).Pairwise MayPrecede := by
  rw [List.pairwise_filterMap]
  -- The records are listed by ascending ids, so no two mutations are about the same row.
  refine records.ascending.imp_of_mem fun listed listedLater below m made later madeLater => ?_
  exact mayPrecede_of_rowKey? (rowKey?_of_recordMutation? own listed made).1
    (rowKey?_of_recordMutation? own listedLater madeLater).1 (ne_of_lt below)

/-- A mutation of a table that is not loaded anew is about a row that is written or removed. -/
theorem exists_rowKey?_of_mem_tableMutations (there : m ∈ tableMutations records diff) :
    m = .deleteAll table ∧ diff.full = true ∨
      ∃ id, m.rowKey? = some (table, id) ∧ (id ∈ diff.written ∨ id ∈ diff.deleted) := by
  rw [tableMutations, List.mem_append, List.mem_append, List.mem_filterMap, List.mem_map] at there
  rcases there with (emptied | ⟨e, listed, made⟩) | ⟨id, gone, rfl⟩
  · cases full : diff.full <;> simp [full] at emptied
    exact .inl ⟨emptied, rfl⟩
  · obtain ⟨key, written⟩ := rowKey?_of_recordMutation? own listed made
    exact .inr ⟨e.1, key, .inl written⟩
  · exact .inr ⟨id, rfl, .inr gone⟩

theorem isLink_of_mem_tableMutations (there : m ∈ tableMutations records diff) :
    m.owner = table ∧ m.isLink = false := by
  rcases exists_rowKey?_of_mem_tableMutations own there with ⟨rfl, -⟩ | ⟨id, key, -⟩
  · exact ⟨rfl, rfl⟩
  · exact ⟨owner_of_rowKey? key, isLink_of_rowKey? key⟩

/-- The mutations of a table are in order. -/
theorem pairwise_tableMutations (fits : diff.Fits records) :
    (tableMutations records diff).Pairwise MayPrecede := by
  have emptied : (if diff.full then [Mutation.deleteAll table] else []).Pairwise MayPrecede := by
    split <;> simp
  have removed : (diff.deleted.map (Mutation.deleteById table)).Pairwise MayPrecede :=
    List.pairwise_map.2 (fits.once_deleted.imp fun other => mayPrecede_of_rowKey? rfl rfl other)
  have first : ∀ m ∈ (if diff.full then [Mutation.deleteAll table] else []), m = .deleteAll table :=
    fun m there => by split at there <;> simp_all
  rw [tableMutations]
  refine List.pairwise_append.2 ⟨List.pairwise_append.2 ⟨emptied, pairwise_writes own, ?_⟩,
    removed, ?_⟩
  · intro m there later made
    obtain ⟨e, listed, made⟩ := List.mem_filterMap.1 made
    rw [first m there]
    exact mayPrecede_deleteAll (rowKey?_of_recordMutation? own listed made).1
  · intro m there later removal
    obtain ⟨id, gone, rfl⟩ := List.mem_map.1 removal
    rcases List.mem_append.1 there with there | made
    · rw [first m there]
      exact mayPrecede_deleteAll rfl
    · obtain ⟨e, listed, made⟩ := List.mem_filterMap.1 made
      obtain ⟨key, written⟩ := rowKey?_of_recordMutation? own listed made
      exact mayPrecede_of_rowKey? key rfl fun same => fits.apart _ written (same ▸ gone)

end Keyed

/-! ## The links of sessions -/

theorem linkKey?_of_mem_unlink {id : String} (there : m ∈ unlink id) :
    m.linkKey? = some id ∧ ∃ link, m = .deleteLinks link id := by
  obtain ⟨link, -, rfl⟩ := List.mem_map.1 there
  exact ⟨rfl, link, rfl⟩

theorem linkKey?_of_mem_relink {id : String} {session : Session} (there : m ∈ relink id session) :
    m.linkKey? = some id ∧ ∃ link target, m = .insertLink link id target := by
  rcases List.mem_append.1 there with there | there
  · obtain ⟨target, -, rfl⟩ := List.mem_map.1 there
    exact ⟨rfl, .speakers, target, rfl⟩
  · obtain ⟨target, -, rfl⟩ := List.mem_map.1 there
    exact ⟨rfl, .tags, target, rfl⟩

theorem linkKey?_of_mem_sessionLinks {sessions : Dict Session} {full : Bool} {id : String}
    (there : m ∈ sessionLinks sessions full id) : m.linkKey? = some id := by
  rw [sessionLinks] at there
  split at there
  · rcases List.mem_append.1 there with removed | added
    · cases full with
      | true => simp at removed
      | false => exact (linkKey?_of_mem_unlink removed).1
    · exact (linkKey?_of_mem_relink added).1
  · simp at there

/-- Links are removed in any order. -/
theorem pairwise_unlink (id : String) : (unlink id).Pairwise MayPrecede :=
  List.pairwise_map.2 <| List.pairwise_of_forall fun _ _ =>
    mayPrecede_links rfl rfl fun _ _ _ added => by simp at added

/-- The links of a session are removed and then added. -/
theorem pairwise_sessionLinks (sessions : Dict Session) (full : Bool) (id : String) :
    (sessionLinks sessions full id).Pairwise MayPrecede := by
  rw [sessionLinks]
  split
  · next session _ =>
    have cleared : (if full then [] else unlink id).Pairwise MayPrecede := by
      cases full <;> simp [pairwise_unlink]
    have added : (relink id session).Pairwise MayPrecede := by
      refine List.pairwise_of_forall_mem_list fun m there later thereLater => ?_
      obtain ⟨key, -⟩ := linkKey?_of_mem_relink there
      obtain ⟨keyLater, link, target, rfl⟩ := linkKey?_of_mem_relink thereLater
      exact mayPrecede_links (isLink_of_linkKey? key) rfl fun _ _ _ _ _ => by simp
    refine List.pairwise_append.2 ⟨cleared, added, fun m there later thereLater => ?_⟩
    have removal : m ∈ unlink id := by cases full <;> simp_all
    obtain ⟨-, link, rfl⟩ := linkKey?_of_mem_unlink removal
    exact mayPrecede_links rfl (isLink_of_linkKey? (linkKey?_of_mem_relink thereLater).1)
      fun _ _ _ added => by simp at added
  · exact .nil

/-- The links of different sessions are added and removed in any order. -/
theorem pairwise_flatMap_of_linkKey? {ids : List String} {mutations : String → Batch}
    (once : ids.Nodup) (keys : ∀ id, ∀ m ∈ mutations id, m.linkKey? = some id)
    (each : ∀ id, (mutations id).Pairwise MayPrecede) :
    (ids.flatMap mutations).Pairwise MayPrecede :=
  List.pairwise_flatMap.2 ⟨fun id _ => each id, once.imp fun other m there later thereLater =>
    mayPrecede_of_linkKey? (keys _ m there) (keys _ later thereLater) other⟩

theorem isLink_of_mem_linkMutations {sessions : Dict Session} {diff : TableDiff}
    (there : m ∈ linkMutations sessions diff) : m.isLink = true := by
  simp only [linkMutations, List.mem_append, List.mem_flatMap] at there
  rcases there with (emptied | ⟨id, -, there⟩) | ⟨id, -, there⟩
  · cases full : diff.full <;> simp [full] at emptied
    obtain ⟨link, -, rfl⟩ := emptied
    rfl
  · exact isLink_of_linkKey? (linkKey?_of_mem_sessionLinks there)
  · exact isLink_of_linkKey? (linkKey?_of_mem_unlink there).1

/-- The mutations of links are in order. -/
theorem pairwise_linkMutations {sessions : Dict (Table.Record .sessions)} {diff : TableDiff}
    (fits : diff.Fits sessions) :
    (linkMutations sessions diff).Pairwise MayPrecede := by
  have written := pairwise_flatMap_of_linkKey? fits.once_written
    (fun _ _ => linkKey?_of_mem_sessionLinks) (pairwise_sessionLinks sessions diff.full)
  have deleted := pairwise_flatMap_of_linkKey? fits.once_deleted
    (fun _ _ there => (linkKey?_of_mem_unlink there).1) pairwise_unlink
  have emptied (m : Mutation)
      (there : m ∈ if diff.full then LinkTable.all.map .deleteAllLinks else []) :
      ∃ link, m = .deleteAllLinks link := by
    split at there
    · obtain ⟨link, -, rfl⟩ := List.mem_map.1 there
      exact ⟨link, rfl⟩
    · simp at there
  have first (m : Mutation)
      (there : m ∈ if diff.full then LinkTable.all.map .deleteAllLinks else [])
      (later : Mutation) (link : later.isLink = true) : MayPrecede m later := by
    obtain ⟨table, rfl⟩ := emptied m there
    exact mayPrecede_links rfl link fun _ _ _ added => by simp at added
  rw [linkMutations]
  refine List.pairwise_append.2 ⟨List.pairwise_append.2 ⟨?_, written, ?_⟩, deleted, ?_⟩
  · refine List.pairwise_of_forall_mem_list fun m there later thereLater => first m there later ?_
    obtain ⟨link, rfl⟩ := emptied later thereLater
    rfl
  · intro m there later thereLater
    obtain ⟨id, -, added⟩ := List.mem_flatMap.1 thereLater
    exact first m there later (isLink_of_linkKey? (linkKey?_of_mem_sessionLinks added))
  · -- The sessions whose links are removed last are not those that have just got theirs.
    intro m there later thereLater
    obtain ⟨id, gone, removed⟩ := List.mem_flatMap.1 thereLater
    have keyLater := (linkKey?_of_mem_unlink removed).1
    rcases List.mem_append.1 there with there | there
    · exact first m there later (isLink_of_linkKey? keyLater)
    · obtain ⟨other, written, added⟩ := List.mem_flatMap.1 there
      exact mayPrecede_of_linkKey? (linkKey?_of_mem_sessionLinks added) keyLater
        fun same => fits.apart _ written (same ▸ gone)

/-- A link is added only behind a mutation that removes the links of its session. -/
theorem exists_of_insertLink_mem {sessions : Dict Session} {diff : TableDiff} {link : LinkTable}
    {id target : String} (there : .insertLink link id target ∈ linkMutations sessions diff)
    (other : LinkTable) :
    .deleteAllLinks other ∈ linkMutations sessions diff ∨
      .deleteLinks other id ∈ linkMutations sessions diff := by
  have all : other ∈ LinkTable.all := by cases other <;> decide
  simp only [linkMutations, List.mem_append, List.mem_flatMap] at there ⊢
  cases full : diff.full with
  | true => exact .inl (.inl (.inl (by simpa using all)))
  | false =>
    rw [full] at there
    rcases there with (emptied | ⟨key, written, there⟩) | ⟨key, -, removed⟩
    · simp at emptied
    · obtain rfl : id = key := by simpa [linkKey?] using linkKey?_of_mem_sessionLinks there
      refine .inr (.inl (.inr ⟨id, written, ?_⟩))
      rw [sessionLinks] at there ⊢
      split at there
      · exact List.mem_append_left _ (List.mem_map_of_mem all)
      · simp at there
    · obtain ⟨-, link, same⟩ := linkKey?_of_mem_unlink removed
      simp at same

/-! ## Sessions that only follow -/

section Sessions

variable {sessions : Dict (Table.Record .sessions)} {changed : ChangedReferences}

/-- A session that only follows is updated because it is not written otherwise. -/
theorem exists_update_of_mem_refreshMutations
    (there : m ∈ refreshMutations sessions diff changed) :
    diff.full = false ∧ ∃ id s, m = .update ⟨.sessions, s⟩ ∧ sessions.get? id = some s ∧
      id ∉ diff.written := by
  cases full : diff.full with
  | true => simp [refreshMutations, full] at there
  | false =>
    rw [refreshMutations, full, if_neg Bool.false_ne_true, List.mem_filterMap] at there
    obtain ⟨e, listed, made⟩ := there
    rw [refreshMutation?] at made
    split at made
    · next chosen =>
      obtain rfl := Option.some.inj made
      exact ⟨rfl, e.1, e.2, rfl, Dict.get?_eq_some_iff.2 listed, by simp_all⟩
    · simp at made

variable (own : ∀ id record, sessions.get? id = some record → Table.sessions.idOf record = id)
include own

/-- A session that only follows is a record that is not written otherwise. -/
theorem exists_rowKey?_of_mem_refreshMutations
    (there : m ∈ refreshMutations sessions diff changed) :
    diff.full = false ∧ ∃ id s, m.rowKey? = some (.sessions, id) ∧ sessions.get? id = some s ∧
      id ∉ diff.written := by
  obtain ⟨kept, id, s, rfl, found, unwritten⟩ := exists_update_of_mem_refreshMutations there
  refine ⟨kept, id, s, ?_, found, unwritten⟩
  exact congrArg (fun id => some (Table.sessions, id)) (own _ _ found)

theorem isLink_of_mem_refreshMutations (there : m ∈ refreshMutations sessions diff changed) :
    m.owner = .sessions ∧ m.isLink = false := by
  obtain ⟨-, id, s, key, -⟩ := exists_rowKey?_of_mem_refreshMutations own there
  exact ⟨owner_of_rowKey? key, isLink_of_rowKey? key⟩

/-- The mutations of sessions, with those that only follow and with their links, are in order. -/
theorem pairwise_sessionMutations (fits : diff.Fits sessions) (changed : ChangedReferences) :
    (tableMutations sessions diff ++ refreshMutations sessions diff changed ++
      linkMutations sessions diff).Pairwise MayPrecede := by
  have refreshed : (refreshMutations sessions diff changed).Pairwise MayPrecede := by
    cases full : diff.full with
    | true => simp [refreshMutations, full]
    | false =>
      rw [Pass.refreshMutations_eq _ _ _ full]
      exact pairwise_writes own
  refine List.pairwise_append.2 ⟨List.pairwise_append.2 ⟨pairwise_tableMutations own fits,
    refreshed, ?_⟩, pairwise_linkMutations fits, ?_⟩
  · intro m there later thereLater
    obtain ⟨kept, id, s, keyLater, found, unwritten⟩ :=
      exists_rowKey?_of_mem_refreshMutations own thereLater
    rcases exists_rowKey?_of_mem_tableMutations own there with ⟨-, full⟩ | ⟨other, key, change⟩
    · simp [kept] at full
    · refine mayPrecede_of_rowKey? key keyLater fun same => ?_
      rcases change with written | gone
      · exact unwritten (same ▸ written)
      · rw [← same, fits.gone _ gone] at found
        simp at found
  · intro m there later thereLater
    have rows := (List.mem_append.1 there).elim (isLink_of_mem_tableMutations own)
      (isLink_of_mem_refreshMutations own)
    exact mayPrecede_of_isLink rows.1 rows.2 (isLink_of_mem_linkMutations thereLater)

end Sessions

end Import

end ConferenceSync
