import Mathlib.Data.List.Forall2
import ConferenceSync.Import.Indexes
import ConferenceSync.Proofs.PassRun

/-!
# Indexes in memory simulate the database

A plan asks nothing of a database but the indexes of its tables. So imports can be planned against
indexes in memory that follow each batch, and never fail, in place of a database to which each batch
is applied. Both give the same plans, and after each import the same indexes.

The relation between the two is that the indexes in memory are read off the rows. A mutation of the
rows and the mutation that the indexes follow commute with it, whatever the mutation is and whether
it can be done or not; that each batch of a plan can be done is what makes the database keep up.

## Main definitions

* `Import.Pass.planAgainst` — the plan of an import for indexes in memory
* `Import.Indexes.course`, `Database.course` — a run of imports: the plan of each, and the indexes
  or the database after it
* `Import.Indexes.of` — the indexes of the rows of contents

## Main results

* `Import.Indexes.of_apply`, `Import.Indexes.of_runs` — the indexes follow a mutation, and a batch
* `Import.Pass.planAgainst_of` — they lead to the plan for the database
* `Import.courses_agree` — runs against indexes in memory and against a database agree
-/

namespace ConferenceSync

namespace Import

/-- The plan of an import for indexes in memory. -/
def Pass.planAgainst (p : Pass) (indexes : Indexes) : Plan :=
  p.data.plan p.rules p.mode fun table =>
    if table ∈ p.unreadable then none else some (indexes.get table)

/-- A run of imports against indexes in memory that follow each batch: the plan of each import, and
the indexes after it. -/
def Indexes.course (indexes : Indexes) : List Pass → List (Plan × Indexes)
  | [] => []
  | p :: rest =>
    let plan := p.planAgainst indexes
    let after := indexes.followAll plan.batch
    (plan, after) :: after.course rest

end Import

/-- A run of imports against a database to which each batch is applied: the plan of each import, and
the database after it. The run ends with the first batch that cannot be applied. -/
def Database.course (db : Database) :
    List Import.Pass → Except SyncError (List (Import.Plan × Database))
  | [] => .ok []
  | p :: rest =>
    match db.importPass p with
    | .error e => .error e
    | .ok after => (after.course rest).map ((p.plan db, after) :: ·)

namespace Import

/-! ## The indexes of rows -/

namespace Indexes

/-- The indexes of the rows of contents. -/
def of (c : Contents) : Indexes := .ofFn fun table => (c.rows table).map StoredRow.fingerprint

variable {c d : Contents} {table : Table}

@[simp] theorem get_of : (of c).get table = (c.rows table).map StoredRow.fingerprint :=
  PerTable.get_ofFn ..

/-- Without rows the indexes are empty. -/
theorem of_initial : of Database.initial.contents = empty := by
  apply PerTable.ext_get
  intro table
  rw [get_of, Database.rows_contents_initial, empty, PerTable.get_ofFn]
  rfl

/-- Rows that are written into a table are written into its index. -/
theorem of_setRows (rows : Dict (StoredRow table)) :
    of (c.setRows table rows) = (of c).set table (rows.map StoredRow.fingerprint) := by
  apply PerTable.ext_get
  intro other
  by_cases same : other = table
  · subst same
    rw [get_of, Contents.rows_setRows_self, PerTable.get_set_self]
  · rw [get_of, Contents.rows_setRows_of_ne _ same, PerTable.get_set_of_ne _ _ (Ne.symm same),
      get_of]

/-- Links have no index. -/
theorem of_setLinks (link : LinkTable) (links : List Link) : of (c.setLinks link links) = of c :=
  rfl

/-- The indexes follow what a mutation does to the rows. -/
theorem of_apply (c : Contents) (m : Mutation) : of (c.apply m) = (of c).follow m := by
  cases m with
  | deleteAll table => exact of_setRows .empty
  | deleteById table id => rw [Contents.apply, of_setRows, Dict.map_erase, follow, get_of]
  | insert row => rw [Contents.apply, of_setRows, Dict.map_insert, follow, get_of]; rfl
  | update row => rw [Contents.apply, of_setRows, Dict.map_insert, follow, get_of]; rfl
  | deleteAllLinks link => exact of_setLinks link []
  | deleteLinks link sessionId => exact of_setLinks link _
  | insertLink link sessionId targetId => exact of_setLinks link _

/-- The indexes follow a batch. -/
theorem of_runs {batch : Batch} (runs : c.Runs batch d) : of d = (of c).followAll batch := by
  induction batch generalizing c with
  | nil =>
    obtain rfl := Contents.runs_nil.1 runs
    rfl
  | cons m rest ih =>
    rw [ih runs.2, of_apply]
    rfl

/-- The index that a database gives for a table is the one of its rows. -/
theorem fingerprints_eq_of {db : Database} (whole : db.Whole) (table : Table) :
    db.fingerprints table = .ok ((of db.contents).get table) := by
  rw [whole.fingerprints_eq_ok, get_of]

end Indexes

/-! ## One import -/

variable {db : Database}

/-- The indexes of its rows stand for the database when an import is planned. -/
theorem Pass.planAgainst_of (whole : db.Whole) (p : Pass) :
    p.planAgainst (.of db.contents) = p.plan db := by
  have same : (fun table => if table ∈ p.unreadable then none
      else some ((Indexes.of db.contents).get table)) = p.index? db := by
    funext table
    rw [Pass.index?, Indexes.fingerprints_eq_of whole]
    rfl
  rw [Pass.planAgainst, same, Pass.plan]

/-- An import that is planned against the indexes of the rows can be done, and leaves a database of
whose rows the indexes are those that have followed the batch. -/
theorem exists_importPass_following (whole : db.Whole) (p : Pass) :
    ∃ after, db.importPass p = .ok after ∧ after.Whole ∧
      Indexes.of after.contents = (Indexes.of db.contents).followAll (p.plan db).batch := by
  obtain ⟨after, imported, afterWhole, contents⟩ := Database.exists_importPass whole p
  refine ⟨after, imported, afterWhole, ?_⟩
  rw [contents]
  exact Indexes.of_runs (Pass.runs_plan whole)

/-! ## Imports one after another -/

/-- Whether an import has had the same plan on both sides, and has left a database that gives the
indexes in memory for its tables. -/
def Agree (stored : Plan × Database) (kept : Plan × Indexes) : Prop :=
  stored.1 = kept.1 ∧ ∀ table, stored.2.fingerprints table = .ok (kept.2.get table)

/-- From any database that misses no table, a run agrees with the one against the indexes of its
rows. -/
theorem exists_course (whole : db.Whole) (passes : List Pass) :
    ∃ course, db.course passes = .ok course ∧
      List.Forall₂ Agree course ((Indexes.of db.contents).course passes) := by
  -- On the passes; that the indexes are those of the rows is what each of them leaves.
  induction passes generalizing db with
  | nil => exact ⟨[], rfl, .nil⟩
  | cons p rest ih =>
    obtain ⟨after, imported, afterWhole, followed⟩ := exists_importPass_following whole p
    obtain ⟨course, others, agree⟩ := ih afterWhole
    have ran : db.course (p :: rest) = .ok ((p.plan db, after) :: course) := by
      rw [Database.course, imported]
      dsimp only
      rw [others]
      rfl
    refine ⟨_, ran, ?_⟩
    rw [Indexes.course, Pass.planAgainst_of whole, ← followed]
    exact .cons ⟨rfl, Indexes.fingerprints_eq_of afterWhole⟩ agree

/-- However many imports there are, of whichever files, in whichever modes and with whichever
indexes out of reach, from the empty database on every batch can be applied; the plans, batches and
statistics, are those against indexes in memory that follow the batches, and after each import the
database gives these indexes for its tables. -/
theorem courses_agree (passes : List Pass) :
    ∃ course, Database.initial.course passes = .ok course ∧
      List.Forall₂ Agree course (Indexes.empty.course passes) := by
  have simulated := exists_course Database.whole_initial passes
  rwa [Indexes.of_initial] at simulated

end Import

end ConferenceSync
