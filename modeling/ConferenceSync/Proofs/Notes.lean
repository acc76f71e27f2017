import ConferenceSync.Proofs.Turns

/-!
# Notes

What a pass wants to know of the passes before it is kept in the database, under a key for each
note. A note outlasts all that does not write under its key.

## Main definitions

* `Database.note` — what is kept about the synchronization under a key, if that can be told

## Main results

* `Database.note_commit`, `Database.note_set` — what writing does to a note
* `Sync.withstands_note` — a note outlasts what is kept under other keys
* `Sync.note_write_self` — a note that is written can be read again
* `Sync.note_take_cases` — only a pass that is made can change a note
-/

namespace ConferenceSync

variable {σ : Type}

namespace Database

/-- Whether what is kept about the synchronization can be read and written, and the text that is
kept under a key. -/
def note (db : Database) (key : String) : Bool × Option String :=
  (db.answers, db.metadata.bind (·.get? key))

variable {db after : Database} {key : String}

theorem note_commit {batch : Batch} (made : db.commit batch = .ok after) :
    after.note key = db.note key := by
  rw [note, note, answers_commit made, (sameAside_commit made).metadata]

/-- What is written under a key is there, and what is kept under the others stays. -/
theorem note_set {other value : String} (written : Metadata.set db other value = .ok after) :
    after.note key = if other = key then (true, some value) else db.note key := by
  obtain ⟨answers, rfl⟩ := Metadata.set_eq_ok_iff.1 written
  obtain ⟨rows, read⟩ := answers_iff.1 answers
  have kept := Metadata.metadataRows_eq_ok_iff.1 read
  by_cases same : other = key <;>
    simp [note, Database.answers, kept.1, kept.2, Dict.get?_insert, same]

end Database

namespace Sync

variable {w : World σ}

/-- What is kept under a key outlasts batches and what is kept under the others. -/
theorem withstands_note (key : String) (kept : Bool × Option String) :
    Withstands (σ := σ) (· ≠ key) fun w => w.device.db.note key = kept where
  commit _ _ _ made held := (Database.note_commit made).trans held
  set _ _ _ _ other written held := by
    rw [World.setDb, Database.note_set written, if_neg other]
    exact held
  phase _ _ held := held

/-- What is kept under a key can be read again. -/
theorem note_write_self (key value : String) (answers : w.device.db.answers = true) :
    ((Attempt.write (Metadata.set · key value)).ignored.run w).2.device.db.note key =
      (true, some value) := by
  have written : Metadata.set w.device.db key value = .ok _ :=
    Metadata.set_eq_ok_iff.2 ⟨answers, rfl⟩
  have run := Attempt.run_write_of_ok (f := (Metadata.set · key value)) written
  show ((Attempt.write (Metadata.set · key value)).run.run w).2.device.db.note key = _
  rw [run]
  exact (Database.note_set written).trans (if_pos rfl)

/-- A turn is a pass that is made and gives its report, or it gives none and leaves notes alone. -/
theorem note_take_cases {env : Environment σ} {key : String}
    (keeps : env.Keeps fun d => d.db.note key) (turn : Turn) (w : World σ) :
    (∃ settings trigger report after,
        (sync env settings trigger).run.run w = (.ok report, after) ∧
        (turn.take env).run w = (some report, after)) ∨
      ∃ after, (turn.take env).run w = (none, after) ∧
        after.device.db.note key = w.device.db.note key := by
  rcases take_cases env turn w with
    ⟨settings, trigger, report, after, -, made, taken⟩ | taken | ⟨-, taken⟩ | ⟨-, taken⟩ |
      ⟨-, taken⟩
  · exact .inl ⟨settings, trigger, report, after, made, taken⟩
  · exact .inr ⟨_, taken, rfl⟩
  · exact .inr ⟨_, taken, rfl⟩
  · exact .inr ⟨_, taken, (withstands_note key _).ignoresNotes.preserves_enter
      (keeps _).toOthersPreserve .idle w rfl⟩
  · exact .inr ⟨_, taken, rfl⟩

/-- The index for searches is apart from what is kept about the synchronization. -/
theorem observersKeep_note_indexedServing (pages : List (String × String)) (key : String) :
    (indexedServing pages).ObserversKeep fun d => d.db.note key :=
  observersKeep_indexedServing pages fun d db _ same => by
    show db.withoutIndex.note key = d.db.withoutIndex.note key
    rw [same]

end Sync

end ConferenceSync
