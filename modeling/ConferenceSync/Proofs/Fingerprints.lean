import ConferenceSync.Proofs.ImportRun

/-!
# What a fingerprint is taken of

A fingerprint is taken of the rendering of a record's fields. Renderings can be read back, so two
records of one table under one id are rendered alike exactly if they agree in everything that does
not follow from other records. Some records are rendered without their id, so it has to be given.
Labels stand in a rendering as they are; but values that look like labels do no harm, because a
length comes before each of them. What follows from other records is in no rendering, so that a
session whose speakers were renamed is not taken for another version of it.

## Main results

* `Table.fieldsOf_forget` — what follows from other records is in no field
* `Table.canonical_eq_iff` — sound records with the same rendering
* `StoredRow.withoutDerived_of_forget_eq`, `StoredRow.of_eq_of_forget_eq` — their rows
* `renderings_tell_versions_apart` — records of data files, and what is stored of them
-/

namespace ConferenceSync

open Agenda Digest

section Rendering

variable {table : Table} {a b : table.Record}

/-- What follows from other records is in no field. -/
@[simp] theorem Table.fieldsOf_forget (record : table.Record) :
    table.fieldsOf (table.forget record) = table.fieldsOf record := by
  cases table <;> rfl

/-- Sound records under one id have the same rendering exactly if they are the same but for what
follows from other records. -/
theorem Table.canonical_eq_iff (soundA : table.Sound a) (soundB : table.Sound b)
    (ids : table.idOf a = table.idOf b) (fitsA : ∀ f ∈ table.fieldsOf a, f.Fits)
    (fitsB : ∀ f ∈ table.fieldsOf b, f.Fits) :
    canonical (table.fieldsOf a) = canonical (table.fieldsOf b) ↔
      table.forget a = table.forget b := by
  constructor
  · intro same
    exact Table.forget_inj soundA soundB ids (Table.fieldsOf_eq_of_canonical fitsA fitsB same)
  · intro same
    rw [← Table.fieldsOf_forget a, same, Table.fieldsOf_forget]

/-- Records that are the same but for what follows from others have the same row but for that. -/
theorem StoredRow.withoutDerived_of_forget_eq (same : table.forget a = table.forget b) :
    (StoredRow.of table a).withoutDerived = (StoredRow.of table b).withoutDerived := by
  have fields : table.fieldsOf a = table.fieldsOf b := by
    rw [← Table.fieldsOf_forget a, same, Table.fieldsOf_forget]
  rw [StoredRow.withoutDerived, StoredRow.withoutDerived]
  simp only [StoredRow.of, Table.withoutDerived_columnsOf, same, Table.fingerprintOf, fields]

/-- In the tables other than that of the sessions nothing follows from other records. -/
theorem StoredRow.withoutDerived_of_ne (other : table ≠ .sessions) (row : StoredRow table) :
    row.withoutDerived = row := by
  cases table with
  | sessions => exact absurd rfl other
  | _ => rfl

end Rendering

/-- Of two records that data files have under one id, the renderings of which fingerprints are taken
are the same if and only if the records agree in every field, for a session in every one but the
names of its speakers and the order of its group. Then the rows of both are the same but for these
columns, so in any other table they are the same. As every text in memory, the values are no longer
than eight octets can say; coordinates agree if they do to the last bit. -/
theorem renderings_tell_versions_apart {table : Table} {rules rules' : GroupingRules}
    {files files' : List (String × String)} {a b : table.Record}
    (readA : a ∈ readRecords rules (DataSet.empty.addEach files).1.sections table)
    (readB : b ∈ readRecords rules' (DataSet.empty.addEach files').1.sections table)
    (ids : table.idOf a = table.idOf b) (fitsA : ∀ f ∈ table.fieldsOf a, f.Fits)
    (fitsB : ∀ f ∈ table.fieldsOf b, f.Fits) :
    (canonical (table.fieldsOf a) = canonical (table.fieldsOf b) ↔
      table.forget a = table.forget b) ∧
    (canonical (table.fieldsOf a) = canonical (table.fieldsOf b) →
      (StoredRow.of table a).withoutDerived = (StoredRow.of table b).withoutDerived ∧
      (table ≠ .sessions → StoredRow.of table a = StoredRow.of table b)) := by
  -- No JSON text stands for something that is not a number, so coordinates can be told apart.
  have none : DataSet.empty.Numeric := by simp [DataSet.Numeric, DataSet.empty]
  have soundA := DataSet.sound_of_readRecords (DataSet.numeric_addEach none files) readA
  have soundB := DataSet.sound_of_readRecords (DataSet.numeric_addEach none files') readB
  have versions := Table.canonical_eq_iff soundA soundB ids fitsA fitsB
  refine ⟨versions, fun same => ?_⟩
  have rows := StoredRow.withoutDerived_of_forget_eq (versions.1 same)
  refine ⟨rows, fun other => ?_⟩
  rwa [StoredRow.withoutDerived_of_ne other, StoredRow.withoutDerived_of_ne other] at rows

/-- A talk with a speaker and a tag, the speaker going by a name. -/
def talkBy (speakerNames : String) : Session :=
  ⟨"s1", "", "", "", 0, 0, "", ["web"], "", "", ["ada"], false, "", "", "", 0, "", speakerNames,
    ungroupedOrder⟩

/-- A speaker is renamed: the talk is rendered as before, and but for the name its row is the same
as before. -/
theorem renderings_tell_versions_apart_renamed_speaker :
    let talk :=
      "\x7b\"sessions\":[\x7b\"id\":\"s1\",\"tags\":[\"web\"],\"speakers\":[\"ada\"]\x7d]\x7d"
    let ada := "\x7b\"speakers\":[\x7b\"id\":\"ada\",\"name\":\"Ada\"\x7d]\x7d"
    let lady := "\x7b\"speakers\":[\x7b\"id\":\"ada\",\"name\":\"Lady Ada\"\x7d]\x7d"
    let files := [("talk.json", talk), ("ada.json", ada)]
    let later := [("talk.json", talk), ("ada.json", lady)]
    talkBy "Ada" ∈ readRecords .standard (DataSet.empty.addEach files).1.sections .sessions ∧
      talkBy "Lady Ada" ∈ readRecords .standard (DataSet.empty.addEach later).1.sections .sessions ∧
      canonical (talkBy "Ada").fields = canonical (talkBy "Lady Ada").fields ∧
      (StoredRow.of .sessions (talkBy "Ada")).withoutDerived =
        (StoredRow.of .sessions (talkBy "Lady Ada")).withoutDerived := by
  intro talk ada lady files later
  have before : talkBy "Ada" ∈
      readRecords .standard (DataSet.empty.addEach files).1.sections .sessions := by decide +kernel
  have after : talkBy "Lady Ada" ∈
      readRecords .standard (DataSet.empty.addEach later).1.sections .sessions := by decide +kernel
  have fits (name : String) : ∀ f ∈ Table.sessions.fieldsOf (talkBy name), f.Fits := by
    have all : ∀ f ∈ (talkBy "").fields, f.Fits := by decide +kernel
    exact all
  obtain ⟨versions, rows⟩ :=
    renderings_tell_versions_apart before after rfl (fits "Ada") (fits "Lady Ada")
  have same := versions.2 rfl
  exact ⟨before, after, same, (rows same).1⟩

end ConferenceSync
