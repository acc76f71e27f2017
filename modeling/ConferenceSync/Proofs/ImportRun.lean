import Mathlib.Data.List.Nodup
import ConferenceSync.Proofs.PassRun
import ConferenceSync.Proofs.RecordFields

/-!
# What a run of imports leaves

However many imports there have been, in whichever modes and with whichever indexes out of reach,
a database reflects the records that were imported last: each table has one row for each of them,
with its fingerprint, and the links of sessions are their references. Only the two columns of a
session that follow from other records may be older.

## Main definitions

* `Import.Separated` — that fingerprints tell the records of imports apart
* `Import.lastRecords` — the records of a table in the last import that brings its kind
* `StoredRow.withoutDerived` — a row without the columns that follow from other records
* `Import.Reflects` — that contents are those of the records imported last

## Main results

* `Import.Reflects.after` — an import preserves it
* `Import.reflects_of_importPasses` — any run of imports leads to it
-/

namespace ConferenceSync

open Agenda

/-! ## Rows without what follows from others -/

/-- The columns without those that follow from other records. -/
def Table.withoutDerived : (table : Table) → table.Columns → table.Columns
  | .sessions => fun columns => { columns with speakerNames := "", groupingOrder := 0 }
  | .rooms | .blocks | .tags | .speakers | .searchSuggestions | .mapMarkers | .mapTiles
  | .hashtags | .videos => fun columns => columns

/-- The row without the columns that follow from other records. -/
def StoredRow.withoutDerived {table : Table} (row : StoredRow table) : StoredRow table :=
  ⟨table.withoutDerived row.columns, row.fingerprint⟩

@[simp] theorem StoredRow.fingerprint_withoutDerived {table : Table} (row : StoredRow table) :
    row.withoutDerived.fingerprint = row.fingerprint := rfl

theorem Table.withoutDerived_columnsOf {table : Table} (record : table.Record) :
    table.withoutDerived (table.columnsOf record) = table.columnsOf (table.forget record) := by
  cases table <;> rfl

namespace Import

/-! ## Records and fingerprints -/

namespace Pass

/-- The canonical renderings of the records of an import. -/
def renderings (p : Pass) : List (List UInt8) :=
  Table.all.flatMap fun table =>
    (p.records table).entries.map fun e => Digest.canonical (table.fieldsOf e.2)

/-- Whether the length of each value of a record fits into eight octets, as that of every text in
memory does. -/
def Fits (p : Pass) : Prop :=
  ∀ table ∈ Table.all, ∀ e ∈ (p.records table).entries, ∀ f ∈ table.fieldsOf e.2, f.Fits

instance (p : Pass) : Decidable p.Fits :=
  inferInstanceAs (Decidable (∀ table ∈ Table.all, ∀ e ∈ (p.records table).entries, _))

variable {p : Pass} {table : Table} {id : String} {record : table.Record}

theorem mem_renderings (there : (p.records table).get? id = some record) :
    Digest.canonical (table.fieldsOf record) ∈ p.renderings :=
  List.mem_flatMap.2 ⟨table, Table.mem_all table,
    List.mem_map.2 ⟨(id, record), Dict.get?_eq_some_iff.1 there, rfl⟩⟩

theorem sound_of_records (there : (p.records table).get? id = some record) :
    table.Sound record :=
  DataSet.sound_of_records (DataSet.numeric_addEach (by simp [DataSet.Numeric, DataSet.empty]) _)
    there

end Pass

/-- Whether fingerprints tell the records of imports apart: different renderings have different
digests, and each value is rendered with its length. -/
structure Separated (passes : List Pass) : Prop where
  apart : ∀ a ∈ passes.flatMap Pass.renderings, ∀ b ∈ passes.flatMap Pass.renderings,
    Digest.Blake3.digest a = Digest.Blake3.digest b → a = b
  fits : ∀ p ∈ passes, p.Fits

/-- If all renderings are alike, there are none that could be mistaken for each other. -/
theorem separated_of_alike {passes : List Pass}
    (alike : ∀ a ∈ passes.flatMap Pass.renderings, ∀ b ∈ passes.flatMap Pass.renderings, a = b)
    (fits : ∀ p ∈ passes, p.Fits) : Separated passes :=
  ⟨fun a ha b hb _ => alike a ha b hb, fits⟩

/-- If there are only two renderings, one look at their digests is enough. -/
theorem separated_of_pair {passes : List Pass} {r s : List UInt8}
    (either : ∀ a ∈ passes.flatMap Pass.renderings, a = r ∨ a = s)
    (apart : Digest.Blake3.digest r ≠ Digest.Blake3.digest s) (fits : ∀ p ∈ passes, p.Fits) :
    Separated passes := by
  refine ⟨fun a ha b hb same => ?_, fits⟩
  obtain rfl | rfl := either a ha <;> obtain rfl | rfl := either b hb
  · rfl
  · exact absurd same apart
  · exact absurd same.symm apart
  · rfl

section Separated

variable {passes more : List Pass} {p q : Pass} {table : Table} {id : String}

theorem Separated.of_append (separated : Separated (passes ++ more)) : Separated passes where
  apart a ha b hb :=
    separated.apart a (by simp only [List.flatMap_append, List.mem_append, ha, true_or])
      b (by simp only [List.flatMap_append, List.mem_append, hb, true_or])
  fits p hp := separated.fits p (List.mem_append_left _ hp)

/-- Records under one id with one fingerprint are the same but for what follows from others. -/
theorem Separated.forget_eq (separated : Separated passes) (hp : p ∈ passes) (hq : q ∈ passes)
    {a b : table.Record} (ha : (p.records table).get? id = some a)
    (hb : (q.records table).get? id = some b)
    (same : table.fingerprintOf a = table.fingerprintOf b) : table.forget a = table.forget b := by
  have rendering := separated.apart _ (List.mem_flatMap.2 ⟨p, hp, Pass.mem_renderings ha⟩)
    _ (List.mem_flatMap.2 ⟨q, hq, Pass.mem_renderings hb⟩) (Text.hexOctets_injective same)
  have fields := Table.fieldsOf_eq_of_canonical
    (separated.fits p hp table table.mem_all (id, a) (Dict.get?_eq_some_iff.1 ha))
    (separated.fits q hq table table.mem_all (id, b) (Dict.get?_eq_some_iff.1 hb)) rendering
  have ids : table.idOf a = table.idOf b :=
    (DataSet.idOf_of_records ha).trans (DataSet.idOf_of_records hb).symm
  exact Table.forget_inj (Pass.sound_of_records ha) (Pass.sound_of_records hb) ids fields

end Separated

/-! ## The records that were imported last -/

/-- The records of a table in the last import that brings its kind. -/
def lastRecords (passes : List Pass) (table : Table) : Dict table.Record :=
  passes.foldl (fun held p => if p.Brings table.kind then p.records table else held) .empty

section LastRecords

variable {passes : List Pass} {p : Pass} {table : Table}

@[simp] theorem lastRecords_nil : lastRecords [] table = .empty := rfl

theorem lastRecords_append_singleton :
    lastRecords (passes ++ [p]) table =
      if p.Brings table.kind then p.records table else lastRecords passes table := by
  simp [lastRecords]

theorem lastRecords_of_brings (table : Table) (brings : p.Brings table.kind) :
    lastRecords (passes ++ [p]) table = p.records table := by
  rw [lastRecords_append_singleton, if_pos brings]

theorem exists_of_lastRecords {id : String} {record : table.Record}
    (there : (lastRecords passes table).get? id = some record) :
    ∃ p ∈ passes, (p.records table).get? id = some record := by
  induction passes using List.reverseRecOn with
  | nil => simp at there
  | append_singleton passes p ih =>
    rw [lastRecords_append_singleton] at there
    split at there
    · exact ⟨p, by simp, there⟩
    · obtain ⟨q, listed, there⟩ := ih there
      exact ⟨q, List.mem_append_left _ listed, there⟩

end LastRecords

/-! ## The invariant -/

/-- Whether contents are those of the records that were imported last: one row for each record, the
record's but for what follows from others, and the references of the sessions as links. -/
structure Reflects (passes : List Pass) (c : Contents) : Prop where
  rows : ∀ table id, ((c.rows table).get? id).map StoredRow.withoutDerived =
    ((lastRecords passes table).get? id).map fun record =>
      (StoredRow.of table record).withoutDerived
  nodup : ∀ link, (c.links link).Nodup
  links : ∀ link l, l ∈ c.links link ↔
    ∃ s, Dict.get? (lastRecords passes .sessions) l.sessionId = some s ∧
      l.targetId ∈ s.targets link

section Reflects

variable {passes : List Pass} {p : Pass} {c : Contents} {table : Table} {id : String}

theorem reflects_initial : Reflects [] Database.initial.contents where
  rows table id := by simp [Database.get?_rows_initial]
  nodup link := by simp [Database.links_contents_initial]
  links link l := by simp [Database.links_contents_initial]

/-- A stored row has the fingerprint of a record that was imported. -/
theorem Reflects.exists_record (reflects : Reflects passes c) {row : StoredRow table}
    (stored : (c.rows table).get? id = some row) :
    ∃ record, (lastRecords passes table).get? id = some record ∧
      row.withoutDerived = (StoredRow.of table record).withoutDerived := by
  have same := reflects.rows table id
  rw [stored, Option.map_some, eq_comm, Option.map_eq_some_iff] at same
  obtain ⟨record, there, same⟩ := same
  exact ⟨record, there, same.symm⟩

theorem Reflects.exists_row (reflects : Reflects passes c) {record : table.Record}
    (there : (lastRecords passes table).get? id = some record) :
    ∃ row, (c.rows table).get? id = some row := by
  have same := reflects.rows table id
  rw [there, Option.map_some, Option.map_eq_some_iff] at same
  obtain ⟨row, stored, -⟩ := same
  exact ⟨row, stored⟩

/-- A stored row with the fingerprint of a record of the next import belongs to that record, and
so does the record that the row was written for. -/
theorem Reflects.of_fingerprint (reflects : Reflects passes c)
    (separated : Separated (passes ++ [p])) {record : table.Record} {row : StoredRow table}
    (there : (p.records table).get? id = some record)
    (stored : (c.rows table).get? id = some row)
    (same : row.fingerprint = table.fingerprintOf record) :
    row.withoutDerived = (StoredRow.of table record).withoutDerived ∧
      ∃ before, (lastRecords passes table).get? id = some before ∧
        table.forget before = table.forget record := by
  -- The row was written for a record of some import, and that record has the same fingerprint.
  obtain ⟨before, held, rows⟩ := reflects.exists_record stored
  obtain ⟨q, listed, own⟩ := exists_of_lastRecords held
  have fingerprints : table.fingerprintOf before = table.fingerprintOf record := by
    rw [← same, ← row.fingerprint_withoutDerived, rows]
    rfl
  have forgets :=
    separated.forget_eq (List.mem_append_left _ listed) (by simp) own there fingerprints
  refine ⟨?_, before, held, forgets⟩
  rw [rows, StoredRow.withoutDerived, StoredRow.withoutDerived]
  simp only [StoredRow.of, Table.withoutDerived_columnsOf, forgets, fingerprints]

/-- A record that an import does not write is stored already. -/
theorem Reflects.of_not_written (reflects : Reflects passes c)
    (separated : Separated (passes ++ [p])) {record : table.Record}
    (there : (p.records table).get? id = some record) (kept : id ∉ (p.diff c table).written) :
    p.Compares table ∧ ∃ row, (c.rows table).get? id = some row ∧
      row.withoutDerived = (StoredRow.of table record).withoutDerived ∧
      ∃ before, (lastRecords passes table).get? id = some before ∧
        table.forget before = table.forget record := by
  obtain ⟨used, row, stored, same⟩ := Pass.exists_of_not_mem_written there kept
  exact ⟨used, row, stored, reflects.of_fingerprint separated there stored same⟩

theorem Reflects.rows_after (reflects : Reflects passes c) (separated : Separated (passes ++ [p]))
    (table : Table) (id : String) :
    (((p.after c).rows table).get? id).map StoredRow.withoutDerived =
      ((lastRecords (passes ++ [p]) table).get? id).map fun record =>
        (StoredRow.of table record).withoutDerived := by
  rw [lastRecords_append_singleton]
  show ((if p.Brings table.kind then p.rowsAfter c table else c.rows table).get? id).map _ = _
  split
  · rw [Pass.rowsAfter, Pass.settle, Dict.get?_mapKeyed]
    cases there : (p.records table).get? id with
    | none => rfl
    | some record =>
      rw [Option.map_some, Option.map_some, Option.map_some]
      split
      · rfl
      · next kept =>
        have unwritten : id ∉ (p.diff c table).written := fun written =>
          kept (by simp [Pass.writes, written])
        obtain ⟨-, row, stored, same, -⟩ := reflects.of_not_written separated there unwritten
        rw [stored, Option.getD_some, same]
  · exact reflects.rows table id

theorem Reflects.nodup_linksAfter (reflects : Reflects passes c) (link : LinkTable) :
    (p.linksAfter c link).Nodup := by
  have written : (p.diff c .sessions).written.Nodup := nodup_written_compare
  -- Old links, the links of each session, those of two sessions, and old against new ones.
  refine List.nodup_append.2 ⟨?_, List.nodup_flatMap.2 ⟨fun id _ => ?_, ?_⟩, ?_⟩
  · split
    · exact .nil
    · exact (reflects.nodup link).filter _
  · cases there : (p.records .sessions).get? id with
    | none => exact .nil
    | some s =>
      exact (DataSet.nodup_targets_of_records there link).map fun _ _ same => (Link.mk.inj same).2
  · refine written.imp fun {a b} different l inA inB => different ?_
    rw [← Pass.sessionId_of_mem_sessionLinksIn inA, Pass.sessionId_of_mem_sessionLinksIn inB]
  · rintro l kept m new rfl
    obtain ⟨id, listed, new⟩ := List.mem_flatMap.1 new
    split at kept
    · simp at kept
    · have gone := (List.mem_filter.1 kept).2
      rw [Pass.sessionId_of_mem_sessionLinksIn new] at gone
      simp [listed] at gone

/-- A link that stays belongs to a session that has not changed, and a new one to one that has. -/
theorem Reflects.exists_of_mem_linksAfter (reflects : Reflects passes c)
    (separated : Separated (passes ++ [p])) {link : LinkTable} {l : Link}
    (there : l ∈ p.linksAfter c link) :
    ∃ s, Dict.get? (p.records .sessions) l.sessionId = some s ∧ l.targetId ∈ s.targets link := by
  rw [Pass.linksAfter, List.mem_append, List.mem_flatMap] at there
  rcases there with kept | ⟨id, listed, new⟩
  · split at kept
    · simp at kept
    · next incremental =>
      obtain ⟨old, apart⟩ := List.mem_filter.1 kept
      simp only [List.contains_eq_mem, List.mem_append, Bool.not_eq_true',
        decide_eq_false_iff_not, not_or] at apart
      obtain ⟨s, held, target⟩ := (reflects.links link l).1 old
      cases there : (p.records .sessions).get? l.sessionId with
      | none =>
        obtain ⟨row, stored⟩ := reflects.exists_row held
        have used := Pass.compares_of_not_full (by simpa using incremental)
        exact absurd (Pass.mem_deleted.2 ⟨there, used, row, stored⟩) apart.2
      | some record =>
        obtain ⟨-, -, -, -, before, held', same⟩ :=
          reflects.of_not_written separated there apart.1
        obtain rfl := Option.some.inj (held.symm.trans held')
        refine ⟨record, rfl, ?_⟩
        rwa [← Table.targets_forget, same, Table.targets_forget] at target
  · have own := Pass.sessionId_of_mem_sessionLinksIn new
    cases there : (p.records .sessions).get? id with
    | none => simp [there, Pass.sessionLinksIn] at new
    | some s =>
      rw [there] at new
      obtain ⟨target, listed, rfl⟩ := List.mem_map.1 new
      exact ⟨s, by rw [own]; exact there, listed⟩

/-- A reference of a session that is written is added, one of another session is there already. -/
theorem Reflects.mem_linksAfter_of_target (reflects : Reflects passes c)
    (separated : Separated (passes ++ [p])) {link : LinkTable} {l : Link} {s : Session}
    (there : Dict.get? (p.records .sessions) l.sessionId = some s)
    (target : l.targetId ∈ s.targets link) : l ∈ p.linksAfter c link := by
  rw [Pass.linksAfter, List.mem_append, List.mem_flatMap]
  by_cases written : l.sessionId ∈ (p.diff c .sessions).written
  · refine .inr ⟨l.sessionId, written, ?_⟩
    rw [there]
    exact List.mem_map.2 ⟨l.targetId, target, rfl⟩
  · left
    obtain ⟨used, row, stored, -, before, held, same⟩ :=
      reflects.of_not_written separated there written
    have old : l ∈ c.links link := by
      refine (reflects.links link l).2 ⟨before, held, ?_⟩
      rwa [← Table.targets_forget, same, Table.targets_forget]
    have stays : l.sessionId ∉ (p.diff c .sessions).deleted := by
      intro gone
      rw [(Pass.mem_deleted.1 gone).1] at there
      simp at there
    split
    · next full =>
      rw [Pass.absent_of_full full used] at stored
      simp at stored
    · exact List.mem_filter.2 ⟨old, by simp [written, stays]⟩

/-- The links after an import that brings sessions are the references of its sessions. -/
theorem Reflects.mem_linksAfter (reflects : Reflects passes c)
    (separated : Separated (passes ++ [p])) {link : LinkTable} {l : Link} :
    l ∈ p.linksAfter c link ↔
      ∃ s, Dict.get? (p.records .sessions) l.sessionId = some s ∧ l.targetId ∈ s.targets link := by
  constructor
  · exact reflects.exists_of_mem_linksAfter separated
  · rintro ⟨s, there, target⟩
    exact reflects.mem_linksAfter_of_target separated there target

/-- An import leads from contents that reflect the records imported last to such contents. -/
theorem Reflects.after (reflects : Reflects passes c) (separated : Separated (passes ++ [p])) :
    Reflects (passes ++ [p]) (p.after c) where
  rows := reflects.rows_after separated
  nodup link := by
    show (if p.Brings .sessions then p.linksAfter c link else c.links link).Nodup
    split
    · exact reflects.nodup_linksAfter link
    · exact reflects.nodup link
  links link l := by
    rw [lastRecords_append_singleton]
    show l ∈ (if p.Brings .sessions then p.linksAfter c link else c.links link) ↔ _
    by_cases brings : p.Brings .sessions
    · simp only [brings, Table.kind, ↓reduceIte]
      exact reflects.mem_linksAfter separated
    · simp only [brings, Table.kind, ↓reduceIte]
      exact reflects.links link l

/-- Any run of imports leaves a database that reflects the records imported last. -/
theorem reflects_of_importPasses {db : Database}
    (reached : Database.initial.importPasses passes = .ok db) (separated : Separated passes) :
    db.Whole ∧ Reflects passes db.contents := by
  induction passes using List.reverseRecOn generalizing db with
  | nil =>
    obtain rfl := Except.ok.inj reached
    exact ⟨Database.whole_initial, reflects_initial⟩
  | append_singleton passes p ih =>
    obtain ⟨before, first, last⟩ := Database.exists_of_importPasses_append reached
    obtain ⟨whole, reflects⟩ := ih first separated.of_append
    obtain ⟨wholeAfter, contents⟩ := whole.importPass last
    exact ⟨wholeAfter, contents ▸ reflects.after separated⟩

end Reflects

end Import

end ConferenceSync
