import Mathlib.Logic.Function.Basic
import ConferenceSync.Store.Commit

/-!
# The contents of a database

Batches change nothing but records and links, so a database that is open is seen here as its rows
and links. On these a mutation is a total function together with a condition under which the
database accepts it, if the table that the mutation needs is there; whole batches compose.

## Main definitions

* `Contents` — the rows of every table of records and the links of every table of links
* `Database.contents`, `Database.Whole` — the contents of a database, and that no table is missing
* `Contents.apply`, `Contents.Admits` — what a mutation does, and when it can be done
* `Contents.Runs` — what a batch does if each of its mutations can be done
* `Database.Rewritten` — a database that differs from another one in its contents alone

## Main results

* `Contents.Runs.append` — batches one after another
* `Database.apply_cases` — what an open database makes of a mutation
* `Database.exists_commit_of_runs` — a batch that the contents admit is committed, and the database
  then holds what the batch makes of the contents
-/

namespace ConferenceSync

/-- The rows and the links of a database. -/
structure Contents where
  rows : (table : Table) → Dict (StoredRow table)
  links : LinkTable → List Link

namespace Contents

/-- Contents with other rows in a table. -/
def setRows (c : Contents) (table : Table) (rows : Dict (StoredRow table)) : Contents :=
  { c with rows := Function.update c.rows table rows }

/-- Contents with other links in a table. -/
def setLinks (c : Contents) (link : LinkTable) (links : List Link) : Contents :=
  { c with links := Function.update c.links link links }

/-- The contents after a mutation. -/
def apply (c : Contents) : Mutation → Contents
  | .deleteAll table => c.setRows table .empty
  | .deleteById table id => c.setRows table ((c.rows table).erase id)
  | .insert row =>
    c.setRows row.table ((c.rows row.table).insert row.id (.of row.table row.record))
  | .update row =>
    c.setRows row.table ((c.rows row.table).insert row.id (.of row.table row.record))
  | .deleteAllLinks link => c.setLinks link []
  | .deleteLinks link sessionId =>
    c.setLinks link ((c.links link).filter fun l => l.sessionId != sessionId)
  | .insertLink link sessionId targetId =>
    c.setLinks link (c.links link ++ [⟨sessionId, targetId⟩])

/-- Whether a mutation can be done: what is inserted must not be there, what is updated must. -/
def Admits (c : Contents) : Mutation → Prop
  | .insert row => (c.rows row.table).contains row.id = false
  | .update row => (c.rows row.table).contains row.id = true
  | .insertLink link sessionId targetId => (⟨sessionId, targetId⟩ : Link) ∉ c.links link
  | _ => True

/-- Each mutation of a batch can be done after the ones before it, and together they lead to the
contents `after`. -/
def Runs (c : Contents) : Batch → Contents → Prop
  | [], after => after = c
  | m :: rest, after => c.Admits m ∧ (c.apply m).Runs rest after

section Lemmas

variable {c d e : Contents} {table : Table} {link : LinkTable}

@[ext] theorem ext (rows : ∀ table, c.rows table = d.rows table)
    (links : ∀ link, c.links link = d.links link) : c = d := by
  cases c
  cases d
  simp only [mk.injEq]
  exact ⟨funext rows, funext links⟩

@[simp] theorem rows_setRows_self (rows : Dict (StoredRow table)) :
    (c.setRows table rows).rows table = rows :=
  Function.update_self ..

theorem rows_setRows_of_ne {other : Table} (rows : Dict (StoredRow table))
    (different : other ≠ table) : (c.setRows table rows).rows other = c.rows other :=
  Function.update_of_ne different ..

@[simp] theorem links_setRows (rows : Dict (StoredRow table)) :
    (c.setRows table rows).links = c.links := rfl

@[simp] theorem rows_setLinks (links : List Link) : (c.setLinks link links).rows = c.rows := rfl

@[simp] theorem links_setLinks_self (links : List Link) :
    (c.setLinks link links).links link = links :=
  Function.update_self ..

theorem links_setLinks_of_ne {other : LinkTable} (links : List Link) (different : other ≠ link) :
    (c.setLinks link links).links other = c.links other :=
  Function.update_of_ne different ..

@[simp] theorem setRows_setRows (a b : Dict (StoredRow table)) :
    (c.setRows table a).setRows table b = c.setRows table b := by
  simp [setRows]

@[simp] theorem setRows_rows : c.setRows table (c.rows table) = c := by
  simp [setRows]

@[simp] theorem runs_nil : c.Runs [] d ↔ d = c := Iff.rfl

theorem Runs.congr {batch : Batch} (runs : c.Runs batch d) (same : d = e) : c.Runs batch e :=
  same ▸ runs

/-- Batches one after another are their concatenation. -/
theorem Runs.append {a b : Batch} (first : c.Runs a d) (second : d.Runs b e) :
    c.Runs (a ++ b) e := by
  induction a generalizing c with
  | nil =>
    obtain rfl := runs_nil.1 first
    exact second
  | cons m rest ih => exact ⟨first.1, ih first.2⟩

end Lemmas

end Contents

/-- The table that a mutation needs. -/
def Mutation.relation : Mutation → Relation
  | .deleteAll table => .records table
  | .deleteById table _ => .records table
  | .insert row => .records row.table
  | .update row => .records row.table
  | .deleteAllLinks link => .links link
  | .deleteLinks link _ => .links link
  | .insertLink link _ _ => .links link

namespace Database

/-- The rows and links of a database; a missing table counts as empty. -/
def contents (db : Database) : Contents where
  rows table := (db.tables.get table).getD .empty
  links link := (db.links? link).getD []

/-- A database that is open and misses no table of records or links. -/
structure Whole (db : Database) : Prop where
  isOpen : db.closed = false
  rows : ∀ table, (db.tables.get table).isSome
  links : ∀ link, (db.links? link).isSome

section Lemmas

variable {db after : Database} {c : Contents} {table : Table} {link : LinkTable}

theorem whole_initial : initial.Whole where
  isOpen := rfl
  rows table := by cases table <;> rfl
  links link := by cases link <;> rfl

theorem rows_contents_initial (table : Table) : initial.contents.rows table = .empty := by
  cases table <;> rfl

theorem get?_rows_initial (table : Table) (id : String) :
    (initial.contents.rows table).get? id = none := by
  rw [rows_contents_initial, Dict.get?_empty]

theorem links_contents_initial (link : LinkTable) : initial.contents.links link = [] := by
  cases link <;> rfl

theorem Whole.tables_eq (whole : db.Whole) (table : Table) :
    db.tables.get table = some (db.contents.rows table) := by
  obtain ⟨rows, found⟩ := Option.isSome_iff_exists.1 (whole.rows table)
  simp [contents, found]

theorem rows_contents_of_tables {rows : Dict (StoredRow table)}
    (found : db.tables.get table = some rows) : db.contents.rows table = rows := by
  simp [contents, found]

theorem Whole.links?_eq (whole : db.Whole) (link : LinkTable) :
    db.links? link = some (db.contents.links link) := by
  obtain ⟨links, found⟩ := Option.isSome_iff_exists.1 (whole.links link)
  simp [contents, found]

theorem Whole.rows_eq_ok (whole : db.Whole) (table : Table) :
    db.rows table = .ok (db.contents.rows table) :=
  rows_eq_ok_iff.2 ⟨whole.isOpen, whole.tables_eq table⟩

/-- A database that misses no table has the one that a mutation needs. -/
theorem Whole.has_relation (whole : db.Whole) (m : Mutation) : db.has m.relation = true := by
  cases m with
  | deleteAll table => exact whole.rows table
  | deleteById table _ => exact whole.rows table
  | insert row => exact whole.rows row.table
  | update row => exact whole.rows row.table
  | deleteAllLinks link => exact whole.links link
  | deleteLinks link _ => exact whole.links link
  | insertLink link _ _ => exact whole.links link

/-- The index of a table that is there is read off its rows. -/
theorem Whole.fingerprints_eq_ok (whole : db.Whole) (table : Table) :
    db.fingerprints table = .ok ((db.contents.rows table).map StoredRow.fingerprint) := by
  rw [fingerprints, whole.rows_eq_ok]

theorem contents_setRows (rows : Dict (StoredRow table)) :
    (db.setRows table rows).contents = db.contents.setRows table rows := by
  ext1 other
  · by_cases same : other = table
    · subst same
      simp [contents]
    · rw [Contents.rows_setRows_of_ne _ same]
      simp [contents, tables_setRows_of_ne _ same]
  · simp [contents]

theorem contents_setLinks (links : List Link) :
    (db.setLinks link links).contents = db.contents.setLinks link links := by
  ext1 other
  · simp [contents]
  · by_cases same : other = link
    · subst same
      simp [contents]
    · rw [Contents.links_setLinks_of_ne _ same]
      simp [contents, links?_setLinks_of_ne _ same]

theorem has_setRows (there : db.has (.records table) = true) (rows : Dict (StoredRow table))
    (relation : Relation) : (db.setRows table rows).has relation = db.has relation := by
  cases relation with
  | records other =>
    by_cases same : other = table
    · subst same
      simpa [has] using there.symm
    · simp [has, tables_setRows_of_ne _ same]
  | links link => simp [has]
  | schedule => rfl
  | searchIndex => rfl
  | metadata => rfl

theorem has_setLinks (there : db.has (.links link) = true) (links : List Link)
    (relation : Relation) : (db.setLinks link links).has relation = db.has relation := by
  have aside := sameAside_setLinks db link links
  cases relation with
  | records table => simp [has]
  | links other =>
    by_cases same : other = link
    · subst same
      simpa [has] using there.symm
    · simp [has, links?_setLinks_of_ne _ same]
  | schedule => simp only [has, aside.schedule]
  | searchIndex => simp only [has, aside.searchIndex]
  | metadata => simp only [has, aside.metadata]

/-! ## Mutations -/

/-- A database that differs from another one in its contents alone, which are `c`. -/
structure Rewritten (db : Database) (c : Contents) (after : Database) : Prop where
  contents : after.contents = c
  has : ∀ relation, after.has relation = db.has relation
  aside : SameAside db after

theorem Rewritten.refl (db : Database) : Rewritten db db.contents db :=
  ⟨rfl, fun _ => rfl, .refl db⟩

theorem Rewritten.trans {next : Database} {d : Contents} (first : Rewritten db c next)
    (second : Rewritten next d after) : Rewritten db d after where
  contents := second.contents
  has relation := (second.has relation).trans (first.has relation)
  aside := first.aside.trans second.aside

theorem Rewritten.closed_eq_false (rewritten : Rewritten db c after) (isOpen : db.closed = false) :
    after.closed = false :=
  rewritten.aside.closed.trans isOpen

/-- A table that is there holds the rows that it is rewritten with. -/
theorem Rewritten.tables_eq (rewritten : Rewritten db c after)
    (there : db.has (.records table) = true) : after.tables.get table = some (c.rows table) := by
  obtain ⟨rows, found⟩ :=
    Option.isSome_iff_exists.1 ((rewritten.has (.records table)).trans there)
  rw [← rewritten.contents, rows_contents_of_tables found, found]

theorem Rewritten.whole (rewritten : Rewritten db c after) (whole : db.Whole) : after.Whole where
  isOpen := rewritten.closed_eq_false whole.isOpen
  rows table := (rewritten.has (.records table)).trans (whole.rows table)
  links link := (rewritten.has (.links link)).trans (whole.links link)

theorem rewritten_setRows (there : db.has (.records table) = true) (rows : Dict (StoredRow table)) :
    Rewritten db (db.contents.setRows table rows) (db.setRows table rows) :=
  ⟨contents_setRows rows, has_setRows there rows, sameAside_setRows ..⟩

theorem rewritten_setLinks (there : db.has (.links link) = true) (links : List Link) :
    Rewritten db (db.contents.setLinks link links) (db.setLinks link links) :=
  ⟨contents_setLinks links, has_setLinks there links, sameAside_setLinks ..⟩

/-- A statement of an open database finds the rows of a table, unless the table is missing. -/
theorem rows_cases (isOpen : db.closed = false) (table : Table) :
    db.has (.records table) = true ∧ db.rows table = .ok (db.contents.rows table) ∨
      db.has (.records table) = false ∧ ∃ cause, db.rows table = .error cause := by
  cases found : db.tables.get table with
  | none =>
    have refused : db.rows table = .error (.tableMissing (Relation.records table).name) := by
      simp [rows, need, isOpen, found]
    exact .inr ⟨by simp [has, found], _, refused⟩
  | some rows =>
    have read : db.rows table = .ok (db.contents.rows table) :=
      rows_eq_ok_iff.2 ⟨isOpen, by simp [contents, found]⟩
    exact .inl ⟨by simp [has, found], read⟩

/-- A statement of an open database finds the links of a table, unless the table is missing. -/
theorem links_cases (isOpen : db.closed = false) (link : LinkTable) :
    db.has (.links link) = true ∧ db.links link = .ok (db.contents.links link) ∨
      db.has (.links link) = false ∧ ∃ cause, db.links link = .error cause := by
  cases found : db.links? link with
  | none =>
    have refused : db.links link = .error (.tableMissing (Relation.links link).name) := by
      simp [links, need, isOpen, found]
    exact .inr ⟨by simp [has, found], _, refused⟩
  | some links =>
    have read : db.links link = .ok (db.contents.links link) :=
      links_eq_ok_iff.2 ⟨isOpen, by simp [contents, found]⟩
    exact .inl ⟨by simp [has, found], read⟩

/-- A failure stays one when the task is named. -/
theorem exists_attempt_eq_error {α : Type} {task : String} {result : Except StorageCause α}
    {cause : StorageCause} (failed : result = .error cause) :
    ∃ e, attempt task result = .error e :=
  ⟨_, by rw [failed, attempt]⟩

/-- An open database changes the rows of a table, unless the table is missing. -/
theorem change_rows_cases (isOpen : db.closed = false) (task : String) (table : Table)
    (f : Dict (StoredRow table) → Dict (StoredRow table)) :
    let changed := attempt task ((db.rows table).map fun rows => db.setRows table (f rows))
    db.has (.records table) = true ∧
        (∃ after, changed = .ok after ∧
          Rewritten db (db.contents.setRows table (f (db.contents.rows table))) after) ∨
      db.has (.records table) = false ∧ ∃ e, changed = .error e := by
  rcases rows_cases isOpen table with ⟨there, found⟩ | ⟨missing, cause, found⟩
  · exact .inl ⟨there, _, by rw [found]; rfl, rewritten_setRows there _⟩
  · exact .inr ⟨missing, exists_attempt_eq_error (by rw [found]; rfl)⟩

/-- An open database changes the links of a table, unless the table is missing. -/
theorem change_links_cases (isOpen : db.closed = false) (task : String) (link : LinkTable)
    (f : List Link → List Link) :
    let changed := attempt task ((db.links link).map fun links => db.setLinks link (f links))
    db.has (.links link) = true ∧
        (∃ after, changed = .ok after ∧
          Rewritten db (db.contents.setLinks link (f (db.contents.links link))) after) ∨
      db.has (.links link) = false ∧ ∃ e, changed = .error e := by
  rcases links_cases isOpen link with ⟨there, found⟩ | ⟨missing, cause, found⟩
  · exact .inl ⟨there, _, by rw [found]; rfl, rewritten_setLinks there _⟩
  · exact .inr ⟨missing, exists_attempt_eq_error (by rw [found]; rfl)⟩

/-- An open database makes a mutation that it admits and for which the table is there, and does to
the contents what the mutation says; any other mutation is an error. -/
theorem apply_cases (isOpen : db.closed = false) (m : Mutation) :
    (db.has m.relation = true ∧ db.contents.Admits m ∧
        ∃ after, db.apply m = .ok after ∧ Rewritten db (db.contents.apply m) after) ∨
      (db.has m.relation = false ∨ ¬db.contents.Admits m) ∧ ∃ e, db.apply m = .error e := by
  cases m with
  | deleteAll table =>
    have changed := change_rows_cases isOpen ("delete all " ++ table.name) table fun _ => .empty
    rcases changed with ⟨there, made⟩ | ⟨missing, failed⟩
    · exact .inl ⟨there, trivial, made⟩
    · exact .inr ⟨.inl missing, failed⟩
  | deleteById table id =>
    have changed := change_rows_cases isOpen ("delete " ++ table.name ++ " " ++ id) table
      fun rows => rows.erase id
    rcases changed with ⟨there, made⟩ | ⟨missing, failed⟩
    · exact .inl ⟨there, trivial, made⟩
    · exact .inr ⟨.inl missing, failed⟩
  | insert row =>
    rcases rows_cases isOpen row.table with ⟨there, found⟩ | ⟨missing, cause, found⟩
    · cases present : (db.contents.rows row.table).contains row.id with
      | false =>
        refine .inl ⟨there, present, _, ?_, rewritten_setRows there _⟩
        simp [apply, insertRow, found, present, bind, Except.bind, pure, Except.pure, attempt]
      | true =>
        have refused : db.apply (.insert row) = .error (.ofStorage
            ("insert " ++ row.table.name ++ " " ++ row.id)
            (.duplicate [row.table.name ++ ".id"])) := by
          simp [apply, insertRow, found, present, bind, Except.bind, attempt]
        refine .inr ⟨.inr fun fresh => ?_, _, refused⟩
        exact absurd (present.symm.trans fresh) (by simp)
    · exact .inr ⟨.inl missing, exists_attempt_eq_error (by rw [found]; rfl)⟩
  | update row =>
    rcases rows_cases isOpen row.table with ⟨there, found⟩ | ⟨missing, cause, found⟩
    · cases present : (db.contents.rows row.table).contains row.id with
      | false =>
        have refused : db.apply (.update row) = .error (.ofStorage
            ("update " ++ row.table.name ++ " " ++ row.id ++ ": row missing") .rowMissing) := by
          simp [apply, updateRow, found, present]
        refine .inr ⟨.inr fun known => ?_, _, refused⟩
        exact absurd (present.symm.trans known) (by simp)
      | true =>
        refine .inl ⟨there, present, _, ?_, rewritten_setRows there _⟩
        simp [apply, updateRow, found, present]
    · exact .inr ⟨.inl missing, _, by rw [apply, updateRow, found]⟩
  | deleteAllLinks link =>
    have changed := change_links_cases isOpen ("delete all " ++ link.name) link fun _ => []
    rcases changed with ⟨there, made⟩ | ⟨missing, failed⟩
    · exact .inl ⟨there, trivial, made⟩
    · exact .inr ⟨.inl missing, failed⟩
  | deleteLinks link sessionId =>
    have changed := change_links_cases isOpen ("delete " ++ link.name ++ " of " ++ sessionId) link
      fun links => links.filter fun l => l.sessionId != sessionId
    rcases changed with ⟨there, made⟩ | ⟨missing, failed⟩
    · exact .inl ⟨there, trivial, made⟩
    · exact .inr ⟨.inl missing, failed⟩
  | insertLink link sessionId targetId =>
    rcases links_cases isOpen link with ⟨there, found⟩ | ⟨missing, cause, found⟩
    · by_cases present : (⟨sessionId, targetId⟩ : Link) ∈ db.contents.links link
      · have refused : db.apply (.insertLink link sessionId targetId) = .error (.ofStorage
            ("link " ++ sessionId ++ " -> " ++ targetId) (.duplicate
              [link.name ++ ".session_id", link.name ++ "." ++ link.targetColumn])) := by
          simp [apply, insertLink, found, present, bind, Except.bind, attempt]
        exact .inr ⟨.inr fun fresh => fresh present, _, refused⟩
      · refine .inl ⟨there, present, _, ?_, rewritten_setLinks there _⟩
        simp [apply, insertLink, found, present, bind, Except.bind, pure, Except.pure, attempt]
    · exact .inr ⟨.inl missing, exists_attempt_eq_error (by rw [found]; rfl)⟩

/-! ## Batches -/

/-- An open database makes a batch whose mutations can all be done and find their tables. -/
theorem exists_applyAll_of_runs (isOpen : db.closed = false) {batch : Batch}
    (there : ∀ m ∈ batch, db.has m.relation = true) (runs : db.contents.Runs batch c) :
    ∃ after, db.applyAll batch = .ok after ∧ Rewritten db c after := by
  induction batch generalizing db with
  | nil =>
    obtain rfl := Contents.runs_nil.1 runs
    exact ⟨db, rfl, .refl db⟩
  | cons m rest ih =>
    rcases apply_cases isOpen m with ⟨-, -, next, made, rewritten⟩ | ⟨refused, -⟩
    · obtain ⟨after, done, others⟩ := ih (rewritten.closed_eq_false isOpen)
        (fun m listed => (rewritten.has _).trans (there m (List.mem_cons_of_mem _ listed)))
        (rewritten.contents ▸ runs.2)
      exact ⟨after, by rw [applyAll, made]; exact done, rewritten.trans others⟩
    · rcases refused with missing | refused
      · exact absurd (missing.symm.trans (there m List.mem_cons_self)) (by simp)
      · exact absurd runs.1 refused

/-- A batch that an open database makes is one whose mutations can all be done and find their
tables. -/
theorem runs_of_applyAll (isOpen : db.closed = false) {batch : Batch}
    (made : db.applyAll batch = .ok after) :
    (∀ m ∈ batch, db.has m.relation = true) ∧ db.contents.Runs batch after.contents := by
  induction batch generalizing db with
  | nil =>
    obtain rfl := Except.ok.inj made
    exact ⟨by simp, Contents.runs_nil.2 rfl⟩
  | cons m rest ih =>
    rw [applyAll] at made
    rcases apply_cases isOpen m with ⟨there, admitted, next, first, rewritten⟩ | ⟨-, e, first⟩
    · rw [first] at made
      obtain ⟨others, runs⟩ := ih (rewritten.closed_eq_false isOpen) made
      refine ⟨fun other listed => ?_, admitted, rewritten.contents ▸ runs⟩
      rcases List.mem_cons.1 listed with rfl | listed
      · exact there
      · exact (rewritten.has _).symm.trans (others other listed)
    · rw [first] at made
      exact absurd made (by simp)

/-- An open database makes the mutations of a batch in their order. -/
theorem commit_of_isOpen (isOpen : db.closed = false) (batch : Batch) :
    db.commit batch = db.applyAll batch := by
  unfold commit
  split
  · next none => rw [List.isEmpty_iff.1 none, applyAll]
  · rw [isOpen, if_neg Bool.false_ne_true]

/-- A batch whose mutations can all be done is committed if no table is missing. -/
theorem exists_commit_of_runs (whole : db.Whole) {batch : Batch}
    (runs : db.contents.Runs batch c) :
    ∃ after, db.commit batch = .ok after ∧ after.Whole ∧ after.contents = c := by
  obtain ⟨after, made, rewritten⟩ :=
    exists_applyAll_of_runs whole.isOpen (fun m _ => whole.has_relation m) runs
  exact ⟨after, (commit_of_isOpen whole.isOpen batch).trans made, rewritten.whole whole,
    rewritten.contents⟩

end Lemmas

end Database

end ConferenceSync
