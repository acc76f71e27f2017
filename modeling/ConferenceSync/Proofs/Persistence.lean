import ConferenceSync.Proofs.CacheOrigin
import ConferenceSync.Proofs.SyncRun

/-!
# What a pass persists

A pass writes the data of a conference as a whole or not at all. Whatever fails, and whenever it is
cancelled: if it does not report an update, then rows, links, the schedule, the index for searches
and the date of the data set are those that it has found, and no observer has heard of anything. If
it does, the whole batch has been made, and the date is that of the data set if it has one.

## Main definitions

* `Database.withoutNotes` — a database without what a pass notes about itself

## Main results

* `Sync.ignoresProgress_withoutNotes`, `Sync.ignoresProgress_hearings` — the notes of a pass concern
  neither the data of the conference nor the observers
* `Sync.persists_only_updates` — what a pass persists
-/

namespace ConferenceSync

variable {σ : Type}

/-- A change under a key that does not count is not seen. -/
theorem Dict.filter_insert_of_not {α : Type} (d : Dict α) {p : String → Bool} {key : String}
    (value : α) (other : p key = false) :
    (d.insert key value).filter (fun key _ => p key) = d.filter fun key _ => p key := by
  refine Dict.ext_get? fun k => ?_
  rw [Dict.get?_filter, Dict.get?_filter, Dict.get?_insert]
  by_cases here : key = k
  · subst here
    cases d.get? key <;> simp [other]
  · rw [if_neg here]

namespace Database

/-- The database without what a pass notes about itself. Of what is kept about the synchronization
only the date of the data set is part of it. -/
def withoutNotes (db : Database) : Database :=
  { db with metadata := db.metadata.map (·.filter fun key _ => key == Metadata.dataTimestampKey) }

variable {db after : Database}

theorem storedDate?_withoutNotes : db.withoutNotes.storedDate? = db.storedDate? := by
  cases there : db.metadata with
  | none => simp [storedDate?, withoutNotes, there]
  | some rows =>
    simp only [storedDate?, withoutNotes, there, Option.map_some, Option.bind_some,
      Dict.get?_filter]
    cases rows.get? Metadata.dataTimestampKey <;> simp

theorem withoutNotes_setInteger {key : String} {value : Int}
    (other : key ≠ Metadata.dataTimestampKey)
    (written : Metadata.setInteger db key value = .ok after) :
    after.withoutNotes = db.withoutNotes := by
  obtain ⟨-, rfl⟩ := Metadata.set_eq_ok_iff.1 written
  cases there : db.metadata with
  | none => simp [withoutNotes, there]
  | some rows =>
    simp only [withoutNotes, there, Option.map_some]
    rw [Dict.filter_insert_of_not (p := (· == Metadata.dataTimestampKey)) rows _
      (by simpa using other)]

/-- The plan for a data set does not depend on what a pass notes about itself. -/
theorem planFor_eq_of_withoutNotes (same : db.withoutNotes = after.withoutNotes) (data : DataSet)
    (rules : Agenda.GroupingRules) (mode : Import.Mode) :
    data.planFor rules mode db = data.planFor rules mode after := by
  show data.planFor rules mode db.withoutNotes = data.planFor rules mode after.withoutNotes
  rw [same]

/-- How a database changes when a data set is written: each mutation of a batch is made, the
attendee's schedule stays, and the date of the data set, if it has one, replaces the stored one. -/
structure Updated (before : Database) (batch : Batch) (date? : Option String) (after : Database) :
    Prop where
  runs : before.contents.Runs batch after.contents
  schedule : after.schedule = before.schedule
  date : after.storedDate? = date?.or before.storedDate?

/-- What a pass notes about itself does not count. -/
theorem Updated.of_withoutNotes {before : Database} {batch : Batch} {date? : Option String}
    (updated : before.withoutNotes.Updated batch date? after.withoutNotes) :
    before.Updated batch date? after where
  runs := updated.runs
  schedule := updated.schedule
  date := by
    rw [← storedDate?_withoutNotes, updated.date, storedDate?_withoutNotes]

theorem Updated.withoutNotes {before : Database} {batch : Batch} {date? : Option String}
    (updated : before.Updated batch date? after) :
    before.withoutNotes.Updated batch date? after.withoutNotes where
  runs := updated.runs
  schedule := updated.schedule
  date := by
    rw [storedDate?_withoutNotes, updated.date, storedDate?_withoutNotes]

end Database

namespace Sync

variable {env : Environment σ}

theorem ignoresProgress_withoutNotes (Q : Database → Prop) :
    IgnoresProgress fun w : World σ => Q w.device.db.withoutNotes where
  phase _ _ held := held
  cancel _ held := held
  number w db key value other written held := by
    rw [World.setDb, Database.withoutNotes_setInteger other written]
    exact held

theorem ignoresProgress_hearings (hearings : List Hearing) :
    IgnoresProgress fun w : World (σ × Transcript) => w.hearings = hearings where
  phase _ _ held := held
  cancel _ held := held
  number _ _ _ _ _ _ held := held

/-- An update makes the whole batch of its plan. Beside that only the index for searches and the
date of the data set may change. -/
theorem Updates.updated {settings : Settings} {w next : World σ} {reference? : Option String}
    {fetched : Fetch.Fetched} {data : DataSet} {made kept : Database}
    (updates : Updates env settings w reference? fetched next data made kept)
    (observers : env.ObserversKeep fun d => d.db.withoutIndex)
    (answers : next.device.db.answers = true) :
    next.device.db.Updated (data.planFor settings.rules .incremental next.device.db).batch
      fetched.timestamp? kept := by
  have committed := updates.committed
  have dated := updates.dated
  generalize data.planFor settings.rules .incremental next.device.db = plan at committed dated ⊢
  have isOpen : next.device.db.closed = false := by
    obtain ⟨rows, read⟩ := Database.answers_iff.1 answers
    exact (Metadata.metadataRows_eq_ok_iff.1 read).1
  rcases next.device.db.commit_cases isOpen plan.batch with
    ⟨accepted, other, done, rewritten⟩ | ⟨-, e, failed⟩
  · obtain rfl := Except.ok.inj (committed.symm.trans done)
    have told : (announced env next plan.batch made).device.db.withoutIndex = made.withoutIndex :=
      preserves_announce (observers _) _ (next.setDb made) rfl
    have toldAnswers : (announced env next plan.batch made).device.db.answers = true :=
      (congrArg Database.answers told).trans ((Database.answers_commit done).trans answers)
    obtain ⟨after, dated', date, rest, -⟩ := exists_dated toldAnswers fetched.timestamp?
    obtain rfl := Except.ok.inj (dated.symm.trans dated')
    have contents : kept.contents = next.device.db.contents.afterAll plan.batch :=
      (congrArg Database.contents rest).trans
        ((congrArg Database.contents told).trans rewritten.contents)
    have toldDate : (announced env next plan.batch made).device.db.storedDate? =
        next.device.db.storedDate? :=
      (congrArg Database.storedDate? told).trans
        (congrArg (fun metadata => Option.bind metadata _) rewritten.aside.metadata)
    exact {
      runs := contents ▸ (Database.not_refuses_iff.1 accepted).2
      schedule := (congrArg Database.schedule rest).trans
        ((congrArg Database.schedule told).trans rewritten.aside.schedule)
      date := by rw [date, toldDate] }
  · exact absurd (committed.symm.trans failed) (by simp)

theorem preserves_withoutNotes (server : env.Keeps Device.db) (Q : Database → Prop) :
    env.transcribed.Preserves fun w => Q w.device.db.withoutNotes :=
  server.transcribed.preserves fun db => Q db.withoutNotes

/-- What is persisted while the data of a conference are brought up to date. -/
theorem updateConference_persists (server : env.Keeps Device.db)
    (observers : env.ObserversKeep fun d => d.db.withoutIndex) (settings : Settings)
    (w : World (σ × Transcript)) :
    let run := (updateConference env.transcribed settings).run.run w
    ((∀ applied stats, run.1 ≠ .ok (.updated applied stats)) →
        run.2.device.db.withoutNotes = w.device.db.withoutNotes ∧ run.2.hearings = w.hearings) ∧
      ∀ applied stats, run.1 = .ok (.updated applied stats) →
        ∃ reference? response fetched data,
          Metadata.lastDataTimestamp? w.device.db = .ok reference? ∧
          ((env.transcribed.get settings.fetch.effectiveUrl
            (reference?.bind Time.normalizeHttpDate?)).run.run w).1 = .ok response ∧
          ((Fetch.fetchIfNewer env.transcribed settings.fetch reference?).run.run w).1 =
            .ok (some fetched) ∧
          dataOf fetched.files = .ok data ∧
          let plan := data.planFor settings.rules .incremental w.device.db
          applied = plan.batch.length ∧ stats = plan.stats ∧
            w.device.db.Updated plan.batch
              (response.lastModified?.bind Time.normalizeHttpDate?) run.2.device.db := by
  have answering : env.transcribed.Keeps fun d => d.db.answers := fun v =>
    server.transcribed.preserves fun db => db.answers = v
  have hearing : env.transcribed.ObserversKeep fun d => d.db.answers := fun v =>
    observers.transcribed.preserves fun db => db.answers = v
  rcases run_updateConference_cases env.transcribed settings w answering hearing with
    ⟨notUpdated, left⟩ | ⟨reference?, fetched, next, data, made, kept, updates, ran⟩
  · refine ⟨fun _ => ?_, fun applied stats reported => absurd reported (notUpdated applied stats)⟩
    rcases left with same | ⟨reference?, same⟩
    · rw [same]
      exact ⟨rfl, rfl⟩
    · rw [same]
      exact ⟨Fetch.preserves_fetchIfNewer (preserves_withoutNotes server (· = _)).get
          (fun _ _ held => held) settings.fetch reference? w rfl,
        Fetch.preserves_fetchIfNewer (env.preserves_hearings _).get (fun _ _ held => held)
          settings.fetch reference? w rfl⟩
  · -- The server leaves the database alone, so the plan is made for the one that was found.
    have nextDb : next.device.db = w.device.db := by
      have kept := Fetch.preserves_fetchIfNewer (server.transcribed w.device.db).get
        (fun _ _ held => held) settings.fetch reference? w rfl
      rwa [updates.cycle] at kept
    have answers := (Metadata.lastDataTimestamp?_eq_ok_iff.1 updates.reference).1
    obtain ⟨response, after, manifest, answered, -, -, date⟩ :=
      Fetch.exists_response_of_fetchIfNewer updates.cycle
    have written := updates.updated observers.transcribed (nextDb ▸ answers)
    rw [nextDb, date] at written
    dsimp only at ran ⊢
    rw [ran, nextDb]
    refine ⟨fun none => absurd rfl (none _ _), ?_⟩
    rintro _ _ ⟨⟩
    exact ⟨reference?, response, fetched, data, updates.reference, congrArg Prod.fst answered,
      congrArg Prod.fst updates.cycle, updates.readable, rfl, rfl, written⟩

/-- What a pass persists. If it does not report an update, what is stored is what it has found when
it entered its phase, and no observer has heard of anything. If it reports one, its cycle, which
started from the stored date, has given files from which a data set can be read, the whole batch
for that has been made, and the date that came with the manifest is stored if it can be read. -/
theorem persists_only_updates (env : Environment σ) (server : env.Keeps Device.db)
    (observers : env.ObserversKeep fun d => d.db.withoutIndex) (settings : Settings)
    (trigger : Trigger) (w : World (σ × Transcript)) :
    let entered := seeded env.transcribed settings w
    let start := begun env.transcribed settings w
    let run := (pass env.transcribed settings trigger).run w
    ((∀ applied stats, run.1.conference ≠ .updated applied stats) →
        run.2.device.db.withoutNotes = entered.device.db.withoutNotes ∧
          run.2.hearings = entered.hearings) ∧
      ∀ applied stats, run.1.conference = .updated applied stats →
        ∃ reference? response fetched data,
          Metadata.lastDataTimestamp? start.device.db = .ok reference? ∧
          ((env.transcribed.get settings.fetch.effectiveUrl
            (reference?.bind Time.normalizeHttpDate?)).run.run start).1 = .ok response ∧
          ((Fetch.fetchIfNewer env.transcribed settings.fetch reference?).run.run start).1 =
            .ok (some fetched) ∧
          dataOf fetched.files = .ok data ∧
          let plan := data.planFor settings.rules .incremental entered.device.db
          applied = plan.batch.length ∧ stats = plan.stats ∧
            entered.device.db.Updated plan.batch
              (response.lastModified?.bind Time.normalizeHttpDate?) run.2.device.db := by
  intro entered start run
  have startNotes : start.device.db.withoutNotes = entered.device.db.withoutNotes :=
    preserves_beginStep (ignoresProgress_withoutNotes (· = entered.device.db.withoutNotes))
      (preserves_withoutNotes server (· = _)).toOthersPreserve entered rfl
  have startHearings : start.hearings = entered.hearings :=
    preserves_beginStep (ignoresProgress_hearings entered.hearings)
      (env.preserves_hearings _).toOthersPreserve entered rfl
  have persists := updateConference_persists server observers settings start
  have ran : run = _ := run_pass env.transcribed settings trigger w
  rw [run_conferenceStep] at ran
  cases stepped : (updateConference env.transcribed settings).run.run start with
  | mk result after =>
    rw [stepped] at ran persists
    dsimp only at ran persists
    have outcome : run.1.conference = outcomeOf result := by
      rw [ran]
      exact conference_conclude ..
    have lastNotes : run.2.device.db.withoutNotes = after.device.db.withoutNotes := by
      rw [ran]
      exact preserves_conclude (ignoresProgress_withoutNotes (· = after.device.db.withoutNotes))
        (preserves_withoutNotes server (· = _)).toOthersPreserve settings trigger _ _ after rfl
    have lastHearings : run.2.hearings = after.hearings := by
      rw [ran]
      exact preserves_conclude (ignoresProgress_hearings _)
        (env.preserves_hearings _).toOthersPreserve settings trigger _ _ after rfl
    simp only [outcome, ne_eq, outcomeOf_eq_updated_iff, lastNotes, lastHearings, ← startNotes,
      ← startHearings]
    refine ⟨persists.1, fun applied stats reported => ?_⟩
    obtain ⟨reference?, response, fetched, data, reference, answered, given, readable, length,
      statistics, updated⟩ := persists.2 applied stats reported
    rw [Database.planFor_eq_of_withoutNotes startNotes] at length statistics updated
    refine ⟨reference?, response, fetched, data, reference, answered, given, readable, length,
      statistics, ?_⟩
    apply Database.Updated.of_withoutNotes
    rw [lastNotes, ← startNotes]
    exact updated.withoutNotes

/-! ## One room -/

/-- A manifest that names one file, with one room. -/
def oneRoom : List (String × String) := roomPages "\x7b\"rooms\":[\x7b\"id\":\"r1\"\x7d]\x7d"

/-- A pass that finds the room. -/
def roomPass : Report × World (Unit × Transcript) :=
  (pass (indexedServing oneRoom).transcribed plainSettings .manual).run
    ⟨.start .initial .inMemory, ((), [])⟩

/-- A pass after it that finds no manifest. -/
def laterPass : Report × World (Unit × Transcript) :=
  (pass (indexedServing []).transcribed plainSettings .manual).run roomPass.2

theorem outcome_roomPass :
    roomPass.1.conference = .updated 2 ⟨[(.rooms, ⟨true, 1, 0, 0, 0⟩)]⟩ := by
  decide +kernel

theorem outcome_laterPass :
    laterPass.1.conference =
      .failed (.transport "https://conf.example/manifest.json" (.status 404)) := by
  decide +kernel

/-- The first pass writes the room; the second leaves what is stored. -/
theorem persists_only_updates_one_room :
    (∃ batch : Batch, batch.length = 2 ∧
        (seeded (indexedServing oneRoom).transcribed plainSettings
          ⟨.start .initial .inMemory, ((), [])⟩).device.db.contents.Runs batch
            roomPass.2.device.db.contents) ∧
      laterPass.2.device.db.withoutNotes =
        (seeded (indexedServing []).transcribed plainSettings
          roomPass.2).device.db.withoutNotes := by
  have written := (persists_only_updates (indexedServing oneRoom)
    (keeps_indexedServing oneRoom Device.db)
    (observersKeep_indexedServing oneRoom fun _ _ _ same => same) plainSettings .manual
    ⟨.start .initial .inMemory, ((), [])⟩).2
  have left := (persists_only_updates (indexedServing []) (keeps_indexedServing [] Device.db)
    (observersKeep_indexedServing [] fun _ _ _ same => same) plainSettings .manual roomPass.2).1
  rw [← roomPass] at written
  rw [← laterPass] at left
  obtain ⟨_, _, _, data, -, -, -, -, length, -, updated⟩ := written _ _ outcome_roomPass
  refine ⟨⟨_, length.symm, updated.runs⟩, (left fun applied stats updated => ?_).1⟩
  exact absurd (outcome_laterPass.symm.trans updated) (by simp)

end Sync

end ConferenceSync
