import ConferenceSync.Proofs.Chronicle
import ConferenceSync.Proofs.Contents

/-!
# Batches are made as a whole or not at all

Any batch may be given to a database, also one that no import would plan. If the database refuses
one of its mutations, nothing happens: no table changes and no observer hears of anything.
Otherwise the mutations are made one after another, and then the observers hear of them.

## Main definitions

* `Contents.afterAll` — the contents after mutations, whether they can be done or not
* `Database.Refuses` — that some mutation of a batch cannot be done after those before it
* `hearings` — what observers hear of a batch that has been made

## Main results

* `Contents.runs_iff` — a batch runs if each of its mutations can be done after those before it
* `Database.commit_cases` — a batch is made if the database refuses none of its mutations
* `commitBatch_is_all_or_nothing` — so are the notices to observers
-/

namespace ConferenceSync

namespace Contents

variable {c d : Contents} {batch : Batch}

/-- The contents after mutations, one after another. -/
def afterAll (c : Contents) (batch : Batch) : Contents := batch.foldl apply c

theorem runs_iff :
    c.Runs batch d ↔
      d = c.afterAll batch ∧
        ∀ done m rest, batch = done ++ m :: rest → (c.afterAll done).Admits m := by
  induction batch generalizing c with
  | nil => simp [afterAll]
  | cons first others ih =>
    constructor
    · rintro ⟨admitted, runs⟩
      obtain ⟨rfl, each⟩ := ih.1 runs
      refine ⟨rfl, fun done m rest split => ?_⟩
      cases done with
      | nil =>
        obtain ⟨rfl, rfl⟩ := List.cons.inj split
        exact admitted
      | cons head done =>
        obtain ⟨rfl, tail⟩ := List.cons.inj split
        exact each done m rest tail
    · rintro ⟨rfl, each⟩
      refine ⟨each [] first others rfl, ih.2 ⟨rfl, ?_⟩⟩
      intro done m rest split
      exact each (first :: done) m rest (by rw [split, List.cons_append])

end Contents

namespace Database

variable {db : Database}

/-- The database refuses a mutation after others: the table that it needs is missing, or what it
inserts is there, or what it updates is not. -/
def RefusesAfter (db : Database) (done : Batch) (m : Mutation) : Prop :=
  db.has m.relation = false ∨ ¬(db.contents.afterAll done).Admits m

/-- The database refuses some mutation of a batch after those before it. -/
def Refuses (db : Database) (batch : Batch) : Prop :=
  ∃ done m rest, batch = done ++ m :: rest ∧ db.RefusesAfter done m

/-- What runs on the contents of a database is not refused if the tables are there. -/
theorem not_refuses_iff {batch : Batch} :
    ¬db.Refuses batch ↔
      (∀ m ∈ batch, db.has m.relation = true) ∧
        db.contents.Runs batch (db.contents.afterAll batch) := by
  constructor
  · intro accepted
    have there : ∀ m ∈ batch, db.has m.relation = true := by
      intro m listed
      obtain ⟨done, rest, split⟩ := List.append_of_mem listed
      exact eq_true_of_ne_false fun missing => accepted ⟨done, m, rest, split, .inl missing⟩
    refine ⟨there, Contents.runs_iff.2 ⟨rfl, fun done m rest split => ?_⟩⟩
    by_contra refused
    exact accepted ⟨done, m, rest, split, .inr refused⟩
  · rintro ⟨there, runs⟩ ⟨done, m, rest, rfl, missing | refused⟩
    · have found := there m (List.mem_append_right _ List.mem_cons_self)
      exact absurd (found.symm.trans missing) (by simp)
    · exact refused ((Contents.runs_iff.1 runs).2 done m rest rfl)

/-- An open database makes a batch if it refuses none of its mutations. -/
theorem commit_cases (isOpen : db.closed = false) (batch : Batch) :
    (¬db.Refuses batch ∧
        ∃ made, db.commit batch = .ok made ∧
          db.Rewritten (db.contents.afterAll batch) made) ∨
      db.Refuses batch ∧ ∃ e, db.commit batch = .error e := by
  rw [commit_of_isOpen isOpen]
  by_cases refused : db.Refuses batch
  · refine .inr ⟨refused, ?_⟩
    cases made : db.applyAll batch with
    | error e => exact ⟨e, rfl⟩
    | ok after =>
      obtain ⟨there, runs⟩ := runs_of_applyAll isOpen made
      obtain ⟨same, -⟩ := Contents.runs_iff.1 runs
      exact absurd refused (not_refuses_iff.2 ⟨there, same ▸ runs⟩)
  · obtain ⟨there, runs⟩ := not_refuses_iff.1 refused
    exact .inl ⟨refused, exists_applyAll_of_runs isOpen there runs⟩

end Database

/-! ## Notices -/

variable {σ : Type} {batch : Batch}

/-- The paths of the kinds that have a mutation in a batch, in the order of import. -/
def changedPaths (batch : Batch) : List String :=
  (Kind.importOrder.filter fun kind => ∃ m ∈ batch, m.kind = kind).map Kind.path

/-- What observers, as many as are counted, hear of a batch that has been made: of one of the
synchronization each hears all changed paths at once, of any other the path of each mutation goes
to all of them in turn. -/
def hearings (origin : Origin) (batch : Batch) (count : Nat) : List Hearing :=
  match origin, batch with
  | _, [] => []
  | .sync, batch => (List.range count).map (⟨·, .batch (changedPaths batch)⟩)
  | .caller, batch =>
    batch.flatMap fun m => (List.range count).map (⟨·, .change m.kind.path⟩)

theorem nodup_changedPaths (batch : Batch) : (changedPaths batch).Nodup := by
  have once : (Kind.importOrder.map Kind.path).Nodup := by decide
  exact (List.filter_sublist.map Kind.path).nodup once

theorem changedPaths_eq (batch : Batch) :
    changedPaths batch = batch.kindsTouched.map Kind.path := by
  have same : ∀ kind, decide (∃ m ∈ batch, m.kind = kind) = batch.any fun m => m.kind = kind := by
    intro kind
    rw [Bool.eq_iff_iff, decide_eq_true_iff, List.any_eq_true]
    simp only [decide_eq_true_iff]
  rw [changedPaths, Batch.kindsTouched, List.filter_congr fun kind _ => same kind]

theorem hearings_eq (origin : Origin) (batch : Batch) (count : Nat) :
    hearings origin batch count =
      (notices origin batch).flatMap fun notice => (List.range count).map (⟨·, notice⟩) := by
  cases batch with
  | nil => cases origin <;> rfl
  | cons m rest =>
    cases origin with
    | sync => simp [hearings, notices, changedPaths_eq]
    | caller => simp [hearings, notices, List.flatMap_map]

/-! ## Writing a batch -/

section

variable (env : Environment σ) (origin : Origin) {w : World σ}

theorem run_commitBatch_of_error {e : SyncError} (refused : w.device.db.commit batch = .error e) :
    (commitBatch env origin batch).run.run w = (.error e, w) :=
  Attempt.run_bind_of_error (Attempt.run_write_of_error refused)

theorem run_commitBatch_of_ok {made : Database} (committed : w.device.db.commit batch = .ok made) :
    (commitBatch env origin batch).run.run w =
      (.ok batch.length, ((announce env.observers (notices origin batch)).run
        { w with device := { w.device with db := made } }).2) :=
  Attempt.run_bind_of_ok (Attempt.run_write_of_ok committed)

/-- An empty batch needs no database, changes nothing and is not heard of. -/
theorem run_commitBatch_nil : (commitBatch env origin []).run.run w = (.ok 0, w) :=
  run_commitBatch_of_ok env origin rfl

end

/-- A batch is refused if one of its mutations is, and then the world is as before. Otherwise the
mutations are made, all but rows and links is left alone, and only then each observer hears of what
has changed. -/
theorem commitBatch_is_all_or_nothing (env : Environment σ) (origin : Origin) (batch : Batch)
    (w : World (σ × List Hearing)) (isOpen : w.device.db.closed = false) :
    let run := (commitBatch env.recordingNotices origin batch).run.run w
    ((∃ e, run.1 = .error e) ↔ w.device.db.Refuses batch) ∧
      (w.device.db.Refuses batch → run.2 = w) ∧
      (¬w.device.db.Refuses batch →
        run.1 = .ok batch.length ∧
          ∃ made, w.device.db.Rewritten (w.device.db.contents.afterAll batch) made ∧
            run.2 = ((announce env.recordingNotices.observers (notices origin batch)).run
              { w with device := { w.device with db := made } }).2 ∧
            run.2.outside.2 = w.outside.2 ++ hearings origin batch env.observers.length ∧
            (changedPaths batch).Nodup) ∧
      (batch = [] → run = (.ok 0, w)) := by
  intro run
  have empty : batch = [] → run = (.ok 0, w) := by
    rintro rfl
    exact run_commitBatch_nil env.recordingNotices origin
  rcases w.device.db.commit_cases isOpen batch with
    ⟨accepted, made, done, rewritten⟩ | ⟨refused, e, failed⟩
  · have outcome := run_commitBatch_of_ok env.recordingNotices origin done
    have returned : run.1 = .ok batch.length := congrArg Prod.fst outcome
    have after := congrArg Prod.snd outcome
    refine ⟨⟨?_, fun refused => absurd refused accepted⟩, fun refused => absurd refused accepted,
      fun _ => ⟨returned, made, rewritten, after, ?_, nodup_changedPaths batch⟩, empty⟩
    · rintro ⟨e, failed⟩
      exact absurd (returned.symm.trans failed) (by simp)
    · rw [hearings_eq]
      exact (congrArg (·.outside.2) after).trans (chronicle_announce ..)
  · have outcome : run = (.error e, w) := run_commitBatch_of_error _ _ failed
    refine ⟨⟨fun _ => refused, fun _ => ⟨e, congrArg Prod.fst outcome⟩⟩, fun _ => ?_,
      fun accepted => absurd refused accepted, empty⟩
    exact congrArg Prod.snd outcome

/-- Two observers hear of a batch of the synchronization, each once; a batch that adds a link twice
leaves no trace. -/
theorem commitBatch_is_all_or_nothing_two_observers :
    let link : Mutation := .insertLink .tags "keynote" "web"
    let env := { Environment.silent with observers := [indexUpdater, indexUpdater] }
    let w : World (Unit × List Hearing) := ⟨.start .initial .inMemory, ((), [])⟩
    ((commitBatch env.recordingNotices .sync [link, .deleteAll .rooms]).run.run w).2.outside.2 =
        [⟨0, .batch ["rooms", "sessions"]⟩, ⟨1, .batch ["rooms", "sessions"]⟩] ∧
      ((commitBatch env.recordingNotices .caller [link, link]).run.run w).2 = w := by
  intro link env w
  have made := commitBatch_is_all_or_nothing env .sync [link, .deleteAll .rooms] w rfl
  have refused := commitBatch_is_all_or_nothing env .caller [link, link] w rfl
  have accepts : ¬w.device.db.Refuses [link, .deleteAll .rooms] := fun refuses => by
    obtain ⟨e, failed⟩ := made.1.2 refuses
    cases failed
  have refuses : w.device.db.Refuses [link, link] := by
    refine ⟨[link], link, [], rfl, .inr fun fresh => fresh ?_⟩
    decide
  obtain ⟨-, -, -, -, heard, -⟩ := made.2.2.1 accepts
  exact ⟨heard, refused.2.1 refuses⟩

end ConferenceSync
