import ConferenceSync.Import.Mutation
import ConferenceSync.Store.Database

/-!
# Committing batches

A batch is made as a whole or not at all: the first mutation that fails leaves the database as it
was. Who observes the database hears of a batch only once it has been made.

## Main definitions

* `Database.apply` — the database after one mutation
* `Database.commit` — the database after a batch
* `Notice`, `notices` — what observers hear of a batch

## Main results

* `Database.sameAside_commit` — a batch leaves all but records and links alone
-/

namespace ConferenceSync

namespace Database

/-- Names what was to be done when a statement failed. -/
def attempt {α : Type} (task : String) : Except StorageCause α → Except SyncError α
  | .ok a => .ok a
  | .error cause => .error (.ofStorage task cause)

/-- The database with a row more, whose id must not be there. -/
def insertRow (db : Database) (row : Row) : Except SyncError Database :=
  attempt ("insert " ++ row.table.name ++ " " ++ row.id) <| do
    let rows ← db.rows row.table
    if rows.contains row.id then .error (.duplicate [row.table.name ++ ".id"])
    else return db.setRows row.table (rows.insert row.id (.of row.table row.record))

/-- The database with a row replaced, whose id must be there. -/
def updateRow (db : Database) (row : Row) : Except SyncError Database :=
  let task := "update " ++ row.table.name ++ " " ++ row.id
  match db.rows row.table with
  | .error cause => .error (.ofStorage task cause)
  | .ok rows =>
    if rows.contains row.id then
      .ok (db.setRows row.table (rows.insert row.id (.of row.table row.record)))
    else .error (.ofStorage (task ++ ": row missing") .rowMissing)

/-- The database with a link more, which must not be there. -/
def insertLink (db : Database) (link : LinkTable) (sessionId targetId : String) :
    Except SyncError Database :=
  attempt ("link " ++ sessionId ++ " -> " ++ targetId) <| do
    let links ← db.links link
    if links.contains ⟨sessionId, targetId⟩ then
      .error (.duplicate [link.name ++ ".session_id", link.name ++ "." ++ link.targetColumn])
    else return db.setLinks link (links ++ [⟨sessionId, targetId⟩])

/-- The database after a mutation. -/
def apply (db : Database) : Mutation → Except SyncError Database
  | .deleteAll table =>
    attempt ("delete all " ++ table.name) <|
      (db.rows table).map fun _ => db.setRows table .empty
  | .deleteById table id =>
    attempt ("delete " ++ table.name ++ " " ++ id) <|
      (db.rows table).map fun rows => db.setRows table (rows.erase id)
  | .insert row => db.insertRow row
  | .update row => db.updateRow row
  | .deleteAllLinks link =>
    attempt ("delete all " ++ link.name) <|
      (db.links link).map fun _ => db.setLinks link []
  | .deleteLinks link sessionId =>
    attempt ("delete " ++ link.name ++ " of " ++ sessionId) <|
      (db.links link).map fun links =>
        db.setLinks link (links.filter fun l => l.sessionId != sessionId)
  | .insertLink link sessionId targetId => db.insertLink link sessionId targetId

/-- The database after mutations, one after another. -/
def applyAll (db : Database) : Batch → Except SyncError Database
  | [] => .ok db
  | m :: rest =>
    match db.apply m with
    | .ok db => db.applyAll rest
    | .error e => .error e

/-- The database after a batch. An empty batch does not need the database at all. -/
def commit (db : Database) (batch : Batch) : Except SyncError Database :=
  if batch.isEmpty then .ok db
  else if db.closed then .error (.ofStorage "begin batch transaction" .closed)
  else db.applyAll batch

/-! ### What a batch leaves alone -/

section Aside

variable {db after : Database}

theorem attempt_eq_ok_iff {α : Type} {task : String} {result : Except StorageCause α} {a : α} :
    attempt task result = .ok a ↔ result = .ok a := by
  cases result <;> simp [attempt]

theorem attempt_map_eq_ok_iff {α β : Type} {task : String} {result : Except StorageCause α}
    {f : α → β} {b : β} :
    attempt task (result.map f) = .ok b ↔ ∃ a, result = .ok a ∧ f a = b := by
  cases result <;> simp [attempt, Except.map]

theorem sameAside_insertRow {row : Row} (made : db.insertRow row = .ok after) :
    SameAside db after := by
  rw [insertRow, attempt_eq_ok_iff] at made
  cases found : db.rows row.table with
  | error cause => simp [found, bind, Except.bind] at made
  | ok rows =>
    by_cases present : rows.contains row.id
    · simp [found, bind, Except.bind, present] at made
    · simp only [found, bind, Except.bind, present, Bool.false_eq_true, ↓reduceIte, pure,
        Except.pure, Except.ok.injEq] at made
      exact made ▸ sameAside_setRows ..

theorem sameAside_updateRow {row : Row} (made : db.updateRow row = .ok after) :
    SameAside db after := by
  unfold updateRow at made
  split at made
  · exact absurd made (by simp)
  · split at made
    · cases made
      exact sameAside_setRows ..
    · exact absurd made (by simp)

theorem sameAside_insertLink {link : LinkTable} {sessionId targetId : String}
    (made : db.insertLink link sessionId targetId = .ok after) : SameAside db after := by
  rw [insertLink, attempt_eq_ok_iff] at made
  cases found : db.links link with
  | error cause => simp [found, bind, Except.bind] at made
  | ok links =>
    by_cases present : links.contains ⟨sessionId, targetId⟩
    · simp only [found, bind, Except.bind, present, ↓reduceIte, reduceCtorEq] at made
    · simp only [found, bind, Except.bind, present, Bool.false_eq_true, ↓reduceIte, pure,
        Except.pure, Except.ok.injEq] at made
      exact made ▸ sameAside_setLinks ..

theorem sameAside_apply {mutation : Mutation} (made : db.apply mutation = .ok after) :
    SameAside db after := by
  cases mutation with
  | deleteAll table =>
    obtain ⟨_, _, rfl⟩ := attempt_map_eq_ok_iff.1 made
    exact sameAside_setRows ..
  | deleteById table id =>
    obtain ⟨_, _, rfl⟩ := attempt_map_eq_ok_iff.1 made
    exact sameAside_setRows ..
  | insert row => exact sameAside_insertRow made
  | update row => exact sameAside_updateRow made
  | deleteAllLinks link =>
    obtain ⟨_, _, rfl⟩ := attempt_map_eq_ok_iff.1 made
    exact sameAside_setLinks ..
  | deleteLinks link sessionId =>
    obtain ⟨_, _, rfl⟩ := attempt_map_eq_ok_iff.1 made
    exact sameAside_setLinks ..
  | insertLink link sessionId targetId => exact sameAside_insertLink made

theorem sameAside_applyAll {batch : Batch} (made : db.applyAll batch = .ok after) :
    SameAside db after := by
  induction batch generalizing db with
  | nil => cases made; exact .refl _
  | cons m rest ih =>
    rw [applyAll] at made
    split at made
    · exact (sameAside_apply ‹_›).trans (ih made)
    · exact absurd made (by simp)

theorem sameAside_commit {batch : Batch} (made : db.commit batch = .ok after) :
    SameAside db after := by
  unfold commit at made
  split at made
  · cases made; exact .refl db
  · split at made
    · exact absurd made (by simp)
    · exact sameAside_applyAll made

end Aside

end Database

/-- On whose behalf a batch is made: that of the synchronization or another part of the program. -/
inductive Origin where
  | sync
  | caller
  deriving DecidableEq, Repr

/-- What observers hear of a batch: all paths that it has changed, in the order of import, or the
path that one mutation has changed. -/
inductive Notice where
  | batch (paths : List String)
  | change (path : String)
  deriving DecidableEq, Repr

/-- What observers hear of a batch that has been made: of one of the synchronization all paths at
once, of any other the path of each mutation. -/
def notices (origin : Origin) (batch : Batch) : List Notice :=
  if batch.isEmpty then []
  else
    match origin with
    | .sync => [.batch (batch.kindsTouched.map Kind.path)]
    | .caller => batch.map fun m => .change m.kind.path

end ConferenceSync
