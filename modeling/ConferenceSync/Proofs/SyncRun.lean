import ConferenceSync.Proofs.CacheOrigin
import ConferenceSync.Proofs.Preservation
import ConferenceSync.Sync.Pass

/-!
# The run of a pass

A pass is written as a sequence of steps. Here it is what it gives for the world it starts in: it
takes care of the seed, enters its phase, brings the data of the conference up to date, and
concludes with all that does not depend on these data.

## Main definitions

* `Sync.seeded`, `Sync.begun` — the world once the seed has been taken care of, and once the pass
  has begun
* `Sync.outcomeOf` — the outcome that the result of an attempt stands for
* `Sync.conclude`, `Sync.wrapUp` — what a pass does after the data of the conference, and what of
  that once a request to cancel has been dealt with
* `Sync.IgnoresProgress`, `Sync.IgnoresNotes` — that a property of worlds does not depend on what a
  pass notes about itself, or on some of that
* `Sync.Updates` — what is written when the data of a conference are updated

## Main results

* `Metadata.get?_eq_ok_iff`, `Metadata.set_eq_ok_iff` — when the metadata can be read and written
* `Sync.run_pass`, `Sync.run_sync` — what a pass gives
* `Sync.run_updateConference`, `Sync.run_importFetched` — what bringing up to date gives
* `Sync.run_importSeed` — what importing the seed gives
* `Sync.run_updateConference_cases` — either that is written, or nothing but to the cache
* `Sync.preserves_beginStep`, `Sync.preserves_conclude` — what the rest of a pass preserves
-/

namespace ConferenceSync

variable {σ : Type}

/-! ## What is kept about the synchronization -/

namespace Database

/-- Whether what is kept about the synchronization can be read and written. -/
def answers (db : Database) : Bool := !db.closed && db.metadata.isSome

/-- The stored date of the data set that was written last. -/
def storedDate? (db : Database) : Option String :=
  db.metadata.bind (·.get? Metadata.dataTimestampKey)

variable {db after : Database}

theorem answers_iff : db.answers = true ↔ ∃ rows, db.metadataRows = .ok rows := by
  simp [answers, metadataRows, need_eq_ok_iff, Option.isSome_iff_exists]

/-- A batch does not concern what is kept about the synchronization. -/
theorem answers_commit {batch : Batch} (made : db.commit batch = .ok after) :
    after.answers = db.answers := by
  have aside := sameAside_commit made
  rw [answers, answers, aside.closed, aside.metadata]

theorem storedDate?_commit {batch : Batch} (made : db.commit batch = .ok after) :
    after.storedDate? = db.storedDate? := by
  rw [storedDate?, storedDate?, (sameAside_commit made).metadata]

end Database

namespace Metadata

variable {db after : Database} {key value : String}

theorem metadataRows_eq_ok_iff {rows : Dict String} :
    db.metadataRows = .ok rows ↔ db.closed = false ∧ db.metadata = some rows :=
  Database.need_eq_ok_iff

theorem get?_eq_ok_iff {text? : Option String} :
    get? db key = .ok text? ↔ db.answers = true ∧ text? = db.metadata.bind (·.get? key) := by
  rw [get?, Database.attempt_map_eq_ok_iff, Database.answers_iff]
  constructor
  · rintro ⟨rows, read, rfl⟩
    rw [(metadataRows_eq_ok_iff.1 read).2]
    exact ⟨⟨rows, read⟩, rfl⟩
  · rintro ⟨⟨rows, read⟩, rfl⟩
    rw [(metadataRows_eq_ok_iff.1 read).2]
    exact ⟨rows, read, rfl⟩

theorem set_eq_ok_iff :
    set db key value = .ok after ↔ db.answers = true ∧
      after = { db with metadata := db.metadata.map (·.insert key value) } := by
  rw [set, Database.attempt_map_eq_ok_iff, Database.answers_iff]
  constructor
  · rintro ⟨rows, read, rfl⟩
    rw [(metadataRows_eq_ok_iff.1 read).2]
    exact ⟨⟨rows, read⟩, rfl⟩
  · rintro ⟨⟨rows, read⟩, rfl⟩
    rw [(metadataRows_eq_ok_iff.1 read).2]
    exact ⟨rows, read, rfl⟩

/-- The stored date is read unless it is blank. -/
theorem lastDataTimestamp?_eq_ok_iff {date? : Option String} :
    lastDataTimestamp? db = .ok date? ↔
      db.answers = true ∧ date? = db.storedDate?.filter fun s => !Text.isBlankText s := by
  rw [lastDataTimestamp?]
  cases read : get? db dataTimestampKey with
  | error e =>
    have silent : db.answers ≠ true := fun answers =>
      absurd (read.symm.trans (get?_eq_ok_iff.2 ⟨answers, rfl⟩)) (by simp)
    simp [Except.map, silent]
  | ok text? =>
    obtain ⟨answers, rfl⟩ := get?_eq_ok_iff.1 read
    simp [Except.map, answers, Database.storedDate?, eq_comm]

end Metadata

namespace Sync

open Attempt (run_bind_of_ok run_bind_of_error)

variable (env : Environment σ) (settings : Settings) (trigger : Trigger) (w : World σ)

/-! ## Before the data of the conference -/

/-- Whether a database says that the seed has been taken care of; not if that cannot be read. -/
def seedDone (db : Database) : Bool :=
  match Metadata.isBootstrapped db with
  | .ok done => done
  | .error _ => false

/-- The world once a pass has taken care of the seed, if that was to be done. -/
def seeded : World σ :=
  if seedDone w.device.db then w else ((bootstrap env settings).run w).2

/-- Enters the phase of a pass and keeps when that was. -/
def beginStep : Action σ Unit := do
  Action.enter env .syncing
  record Metadata.lastAttemptKey (← env.now)

/-- The world in which a pass turns to the data of the conference. -/
def begun : World σ := ((beginStep env).run (seeded env settings w)).2

theorem run_bootstrapDone : (bootstrapDone : Action σ Bool).run w = (seedDone w.device.db, w) := by
  rw [bootstrapDone, Attempt.orDefault, StateT.run_bind, Attempt.run_query, seedDone]
  cases Metadata.isBootstrapped w.device.db <;> rfl

/-! ## The data of the conference -/

/-- The outcome that the result of an attempt stands for. -/
def outcomeOf : Except SyncError ConferenceOutcome → ConferenceOutcome
  | .ok outcome => outcome
  | .error .cancelled => .cancelled
  | .error e => .failed e

theorem outcomeOf_eq_updated_iff {result : Except SyncError ConferenceOutcome} {applied : Nat}
    {stats : Import.Stats} :
    outcomeOf result = .updated applied stats ↔ result = .ok (.updated applied stats) := by
  cases result with
  | ok outcome => simp [outcomeOf]
  | error e => cases e <;> simp [outcomeOf]

theorem run_conferenceStep :
    (conferenceStep env settings).run w =
      let (result, after) := (updateConference env settings).run.run w
      (outcomeOf result, after) := by
  show (match (updateConference env settings).run.run w with
    | (result, after) => (match result with
      | .ok outcome => (pure outcome : Action σ ConferenceOutcome)
      | .error .cancelled => pure .cancelled
      | .error e => pure (.failed e)).run after) = _
  cases (updateConference env settings).run.run w with
  | mk result after =>
    cases result with
    | ok outcome => rfl
    | error e => cases e <;> rfl

/-- The server is asked, from the stored date on, and what it gives is written. -/
theorem run_updateConference :
    (updateConference env settings).run.run w =
      match Metadata.lastDataTimestamp? w.device.db with
      | .error e => (.error e, w)
      | .ok reference? =>
        match (Fetch.fetchIfNewer env settings.fetch reference?).run.run w with
        | (.error e, after) => (.error e, after)
        | (.ok none, after) => (.ok .unchanged, after)
        | (.ok (some fetched), after) => (importFetched env settings fetched).run.run after := by
  rw [updateConference]
  cases read : Metadata.lastDataTimestamp? w.device.db with
  | error e =>
    exact run_bind_of_error ((Attempt.run_query ..).trans (congrArg (·, w) read))
  | ok reference? =>
    refine (run_bind_of_ok ((Attempt.run_query ..).trans (congrArg (·, w) read))).trans ?_
    dsimp only
    cases fetch : (Fetch.fetchIfNewer env settings.fetch reference?).run.run w with
    | mk result after =>
      cases result with
      | error e => exact run_bind_of_error fetch
      | ok fetched? =>
        refine (run_bind_of_ok fetch).trans ?_
        cases fetched? <;> rfl

/-- The data set of files. -/
def dataOf (files : List Fetch.DataFile) : Except SyncError DataSet :=
  DataSet.empty.addAll (files.map fun file => (file.url, file.body))

/-- The world in which observers have heard of a batch that has been committed. -/
def announced (batch : Batch) (made : Database) : World σ :=
  ((announce env.observers (notices .sync batch)).run (w.setDb made)).2

theorem run_commitBatch_announced {batch : Batch} {made : Database}
    (committed : w.device.db.commit batch = .ok made) :
    (commitBatch env .sync batch).run.run w = (.ok batch.length, announced env w batch made) :=
  run_commitBatch_of_ok env .sync committed

/-- A database with the date of the data set that was written last, if that has one. -/
def dated (timestamp? : Option String) (db : Database) : Except SyncError Database :=
  match timestamp? with
  | some timestamp => Metadata.setLastDataTimestamp db timestamp
  | none => .ok db

/-- A date replaces the one that is stored, and nothing else. -/
theorem exists_dated {db : Database} (answers : db.answers = true) (timestamp? : Option String) :
    ∃ after, dated timestamp? db = .ok after ∧ after.storedDate? = timestamp?.or db.storedDate? ∧
      { after with metadata := none } = { db with metadata := none } ∧ after.answers = true := by
  cases timestamp? with
  | none => exact ⟨db, rfl, rfl, rfl, answers⟩
  | some timestamp =>
    obtain ⟨rows, read⟩ := Database.answers_iff.1 answers
    have there := (Metadata.metadataRows_eq_ok_iff.1 read).2
    refine ⟨_, Metadata.set_eq_ok_iff.2 ⟨answers, rfl⟩, ?_, rfl, ?_⟩
    · simp [Database.storedDate?, there, Dict.get?_insert]
    · simpa [Database.answers, there] using answers

theorem answers_announced {env : Environment σ}
    (observers : env.ObserversKeep fun d => d.db.answers) (batch : Batch) {made : Database}
    {w : World σ} (answers : made.answers = true) :
    (announced env w batch made).device.db.answers = true :=
  preserves_announce (observers true) _ (w.setDb made) answers

/-- The plan for the data set is committed unless it is to be abandoned. Observers hear of it, and
then the date is kept. -/
theorem run_importFetched (fetched : Fetch.Fetched) :
    (importFetched env settings fetched).run.run w =
      match dataOf fetched.files with
      | .error e => (.error e, w)
      | .ok data =>
        let plan := data.planFor settings.rules .incremental w.device.db
        if w.device.cancelRequested then (.error .cancelled, w)
        else
          match w.device.db.commit plan.batch with
          | .error e => (.error e, w)
          | .ok made =>
            let told := announced env w plan.batch made
            match dated fetched.timestamp? told.device.db with
            | .error e => (.error e, told)
            | .ok db => (.ok (.updated plan.batch.length plan.stats), told.setDb db) := by
  rw [importFetched]
  show ((liftM (dataOf fetched.files) : Attempt σ DataSet) >>= _).run.run w = _
  cases read : dataOf fetched.files with
  | error e => exact run_bind_of_error (Attempt.run_liftExcept (.error e) w)
  | ok data =>
    refine (run_bind_of_ok (Attempt.run_liftExcept (.ok data) w)).trans ?_
    dsimp only
    have looked : (liftM (Action.read id : Action σ Device) : Attempt σ Device).run.run w =
        (.ok w.device, w) := rfl
    refine (run_bind_of_ok looked).trans ?_
    by_cases cancelled : w.device.cancelRequested = true
    · rw [if_pos cancelled]
      simp only [cancelled, ↓reduceIte]
      rfl
    · rw [if_neg cancelled]
      simp only [cancelled, Bool.false_eq_true, ↓reduceIte]
      cases commit : w.device.db.commit
          (data.planFor settings.rules .incremental w.device.db).batch with
      | error e => exact run_bind_of_error (run_commitBatch_of_error env .sync commit)
      | ok made =>
        refine (run_bind_of_ok (run_commitBatch_announced env w commit)).trans ?_
        dsimp only
        generalize announced env w _ made = told
        cases fetched.timestamp? with
        | none => rfl
        | some timestamp =>
          dsimp only [dated]
          cases kept : Metadata.setLastDataTimestamp told.device.db timestamp with
          | error e => exact run_bind_of_error (Attempt.run_write_of_error kept)
          | ok db => exact run_bind_of_ok (Attempt.run_write_of_ok kept)

/-- The data set of a seed. -/
def dataOfSeed (seed : Seed) : Except SyncError DataSet := do
  DataSet.empty.add seed.name (← seed.content.mapError (.file seed.name))

/-- The plan for the data set of the seed is committed. Observers hear of it, and then its date is
kept. -/
theorem run_importSeed {seed : Seed} (given : settings.seed? = some seed) :
    (importSeed env settings).run.run w =
      match dataOfSeed seed with
      | .error e => (.error e, w)
      | .ok data =>
        let batch := (data.planFor settings.rules .full w.device.db).batch
        match w.device.db.commit batch with
        | .error e => (.error e, w)
        | .ok made =>
          let told := announced env w batch made
          match Metadata.setLastDataTimestamp told.device.db seed.timestamp with
          | .error e => (.error e, told)
          | .ok db => (.ok (), told.setDb db) := by
  rw [importSeed, given, dataOfSeed]
  dsimp only
  cases content : (seed.content.mapError (.file seed.name) : Except SyncError String) with
  | error e => exact run_bind_of_error (Attempt.run_liftExcept (.error e) w)
  | ok text =>
    refine (run_bind_of_ok (Attempt.run_liftExcept (.ok text) w)).trans ?_
    show _ = match DataSet.empty.add seed.name text with
      | .error e => _
      | .ok data => _
    cases read : DataSet.empty.add seed.name text with
    | error e => exact run_bind_of_error (Attempt.run_liftExcept (.error e) w)
    | ok data =>
      refine (run_bind_of_ok (Attempt.run_liftExcept (.ok data) w)).trans ?_
      dsimp only
      have looked : (liftM (Action.read Device.db : Action σ Database) :
          Attempt σ Database).run.run w = (.ok w.device.db, w) := rfl
      refine (run_bind_of_ok looked).trans ?_
      cases commit : w.device.db.commit (data.planFor settings.rules .full w.device.db).batch with
      | error e => exact run_bind_of_error (run_commitBatch_of_error env .sync commit)
      | ok made =>
        refine (run_bind_of_ok (run_commitBatch_announced env w commit)).trans ?_
        dsimp only
        generalize announced env w _ made = told
        cases kept : Metadata.setLastDataTimestamp told.device.db seed.timestamp with
        | error e => exact Attempt.run_write_of_error kept
        | ok db => exact Attempt.run_write_of_ok kept

/-- What is written when the data of a conference that lie in `w` are updated: a cycle gives files
and leads to `next`, the plan for their data set is committed as `made`, and once observers have
heard of that, the date of the data set is kept in `kept`. -/
structure Updates (env : Environment σ) (settings : Settings) (w : World σ)
    (reference? : Option String) (fetched : Fetch.Fetched) (next : World σ) (data : DataSet)
    (made kept : Database) : Prop where
  reference : Metadata.lastDataTimestamp? w.device.db = .ok reference?
  cycle : (Fetch.fetchIfNewer env settings.fetch reference?).run.run w = (.ok (some fetched), next)
  readable : dataOf fetched.files = .ok data
  wanted : next.device.cancelRequested = false
  committed : next.device.db.commit
    (data.planFor settings.rules .incremental next.device.db).batch = .ok made
  dated : dated fetched.timestamp? (announced env next
    (data.planFor settings.rules .incremental next.device.db).batch made).device.db = .ok kept

/-- The data of a conference are updated, or nothing is written but to the cache. -/
theorem run_updateConference_cases (server : env.Keeps fun d => d.db.answers)
    (observers : env.ObserversKeep fun d => d.db.answers) :
    let run := (updateConference env settings).run.run w
    ((∀ applied stats, run.1 ≠ .ok (.updated applied stats)) ∧
        (run.2 = w ∨ ∃ reference?, run.2 =
          ((Fetch.fetchIfNewer env settings.fetch reference?).run.run w).2)) ∨
      ∃ reference? fetched next data made kept,
        Updates env settings w reference? fetched next data made kept ∧
          let plan := data.planFor settings.rules .incremental next.device.db
          run = (.ok (.updated plan.batch.length plan.stats),
            (announced env next plan.batch made).setDb kept) := by
  rw [run_updateConference]
  cases reference : Metadata.lastDataTimestamp? w.device.db with
  | error e => exact .inl ⟨by simp, .inl rfl⟩
  | ok reference? =>
    have answers := (Metadata.lastDataTimestamp?_eq_ok_iff.1 reference).1
    have kept := Fetch.preserves_fetchIfNewer (server true).get (fun _ _ same => same)
      settings.fetch reference? w answers
    dsimp only
    cases cycle : (Fetch.fetchIfNewer env settings.fetch reference?).run.run w with
    | mk result next =>
      rw [cycle] at kept
      cases result with
      | error e => exact .inl ⟨by simp, .inr ⟨reference?, by rw [cycle]⟩⟩
      | ok fetched? =>
        cases fetched? with
        | none => exact .inl ⟨by simp, .inr ⟨reference?, by rw [cycle]⟩⟩
        | some fetched =>
          dsimp only
          rw [run_importFetched]
          cases readable : dataOf fetched.files with
          | error e => exact .inl ⟨by simp, .inr ⟨reference?, by rw [cycle]⟩⟩
          | ok data =>
            dsimp only
            by_cases cancelled : next.device.cancelRequested = true
            · rw [if_pos cancelled]
              exact .inl ⟨by simp, .inr ⟨reference?, by rw [cycle]⟩⟩
            · rw [if_neg cancelled]
              cases committed : next.device.db.commit
                  (data.planFor settings.rules .incremental next.device.db).batch with
              | error e => exact .inl ⟨by simp, .inr ⟨reference?, by rw [cycle]⟩⟩
              | ok made =>
                have told := answers_announced observers
                  (data.planFor settings.rules .incremental next.device.db).batch
                  (w := next) ((Database.answers_commit committed).trans kept)
                obtain ⟨db, dated, -⟩ := exists_dated told fetched.timestamp?
                refine .inr ⟨reference?, fetched, next, data, made, db,
                  ⟨reference, cycle, readable, eq_false_of_ne_true cancelled, committed, dated⟩, ?_⟩
                dsimp only
                rw [dated]

/-! ## A pass -/

/-- What a pass does after the data of the conference, whatever has become of them. -/
def conclude (bootstrapped : Bool) (conference : ConferenceOutcome) : Action σ Report := do
  Action.change ({ · with cancelRequested := false })
  let consecutiveFailures ← recordOutcome env conference
  let userData ← userStep env
  let feedback ← feedbackStep env
  let nextDelay := settings.policy.nextDelay (← env.now) consecutiveFailures
  record Metadata.intervalKey (Int.bmod nextDelay.millis 0x10000000000000000)
  Action.enter env .idle
  return { trigger, bootstrapped, conference, userData, feedback, consecutiveFailures, nextDelay }

/-- What a pass does last: it keeps how long to wait for the next one. -/
def closingStep (failures : Nat) : Action σ Time.Duration := do
  let nextDelay := settings.policy.nextDelay (← env.now) failures
  record Metadata.intervalKey (Int.bmod nextDelay.millis 0x10000000000000000)
  Action.enter env .idle
  return nextDelay

/-- What a pass does once a request to cancel has been dealt with. -/
def wrapUp (bootstrapped : Bool) (conference : ConferenceOutcome) : Action σ Report := do
  let consecutiveFailures ← recordOutcome env conference
  let userData ← userStep env
  let feedback ← feedbackStep env
  let nextDelay ← closingStep env settings consecutiveFailures
  return { trigger, bootstrapped, conference, userData, feedback, consecutiveFailures, nextDelay }

theorem conclude_eq (bootstrapped : Bool) (conference : ConferenceOutcome) :
    conclude env settings trigger bootstrapped conference = (do
      Action.change ({ · with cancelRequested := false })
      wrapUp env settings trigger bootstrapped conference) := by
  simp only [conclude, wrapUp, closingStep, bind_assoc, pure_bind]

/-- A pass reports what has become of the data of the conference. -/
theorem conference_conclude (bootstrapped : Bool) (conference : ConferenceOutcome) :
    ((conclude env settings trigger bootstrapped conference).run w).1.conference = conference := rfl

/-- A pass takes care of the seed, begins, turns to the data of the conference and concludes. -/
theorem pass_eq :
    pass env settings trigger = (do
      let done ← bootstrapDone
      if !done then bootstrap env settings
      beginStep env
      let conference ← conferenceStep env settings
      conclude env settings trigger (!done) conference) := by
  simp only [pass, beginStep, conclude, bind_assoc]

theorem run_pass :
    (pass env settings trigger).run w =
      let (conference, after) := (conferenceStep env settings).run (begun env settings w)
      (conclude env settings trigger (!seedDone w.device.db) conference).run after := by
  rw [pass_eq, StateT.run_bind, run_bootstrapDone, begun, seeded]
  cases seedDone w.device.db with
  | true => exact StateT.run_bind ..
  | false => exact StateT.run_bind ..

theorem run_sync :
    (sync env settings trigger).run.run w =
      if w.device.running then (.error .alreadyRunning, w)
      else
        let (report, after) := (pass env settings trigger).run
          { w with device := { w.device with running := true } }
        (.ok report, { after with device := { after.device with running := false } }) := by
  rw [sync]
  have looked : (liftM (Action.read Device.running : Action σ Bool) : Attempt σ Bool).run.run w =
      (.ok w.device.running, w) := rfl
  refine (run_bind_of_ok looked).trans ?_
  cases w.device.running <;> rfl

/-- The phase is idle if the seed has been taken care of and nothing else is known. -/
theorem run_restorePhase :
    (restorePhase env).run w =
      let after := if w.device.phase = .notBootstrapped ∧ seedDone w.device.db = true then
        ((Action.enter env .idle).run w).2 else w
      (after.device.phase, after) := by
  have looked : (restorePhase env).run w =
      (if w.device.phase = .notBootstrapped then (do
          if ← bootstrapDone then Action.enter env .idle
          Action.read Device.phase)
        else Action.read Device.phase).run w := rfl
  rw [looked]
  by_cases unknown : w.device.phase = .notBootstrapped
  · rw [if_pos unknown, StateT.run_bind, run_bootstrapDone]
    cases seedDone w.device.db with
    | true => rw [if_pos ⟨unknown, rfl⟩]; rfl
    | false => rw [if_neg fun both => absurd both.2 (by simp)]; rfl
  · rw [if_neg unknown, if_neg fun both => unknown both.1]
    rfl

/-! ## What a pass notes about itself -/

/-- Whether a property of worlds does not depend on the phase, nor on the numbers that are kept
about the synchronization under some keys. -/
structure IgnoresNotes (keys : String → Prop) (P : World σ → Prop) : Prop where
  phase : ∀ w phase, P w → P { w with device := { w.device with phase } }
  number : ∀ w db key value, keys key →
    Metadata.setInteger w.device.db key value = .ok db → P w → P (w.setDb db)

/-- Whether a property of worlds does not depend on what a pass notes about itself: its phase, that
a request to cancel has been dealt with, and numbers. -/
structure IgnoresProgress (P : World σ → Prop) : Prop where
  phase : ∀ w phase, P w → P { w with device := { w.device with phase } }
  cancel : ∀ w, P w → P { w with device := { w.device with cancelRequested := false } }
  number : ∀ w db key value, key ≠ Metadata.dataTimestampKey →
    Metadata.setInteger w.device.db key value = .ok db → P w → P (w.setDb db)

theorem IgnoresProgress.ignoresNotes {P : World σ → Prop} (ignores : IgnoresProgress P) :
    IgnoresNotes (· ≠ Metadata.dataTimestampKey) P :=
  ⟨ignores.phase, ignores.number⟩

section Preserves

variable {env : Environment σ} {P : World σ → Prop}

theorem preserves_recoverUser (others : env.OthersPreserve P) :
    (recoverUser env).Preserves P := by
  refine Action.Preserves.bind others.refreshToken fun refreshed => ?_
  cases refreshed with
  | error e => exact Action.preserves_pure _
  | ok =>
    refine Action.Preserves.bind others.syncUser fun synced => ?_
    cases synced with
    | error e => exact Action.preserves_pure _
    | ok => exact Action.preserves_pure _

theorem preserves_feedbackStep (others : env.OthersPreserve P) :
    (feedbackStep env).Preserves P := by
  refine Action.Preserves.bind others.sendFeedback fun sent => ?_
  cases sent <;> exact Action.preserves_pure _

namespace IgnoresNotes

variable {keys : String → Prop} (ignores : IgnoresNotes keys P)

include ignores

theorem preserves_enter (others : env.OthersPreserve P) (phase : Phase) :
    (Action.enter env phase).Preserves P :=
  Action.Preserves.bind (fun w held => ignores.phase w phase held) fun _ => others.publish phase

theorem preserves_record {key : String} (ignored : keys key) (value : Int) :
    (record key value : Action σ Unit).Preserves P :=
  Attempt.preserves_ignored (Attempt.preserves_write fun w db held written =>
    ignores.number w db key value ignored written held)

theorem preserves_beginStep (attempt : keys Metadata.lastAttemptKey)
    (others : env.OthersPreserve P) : (beginStep env).Preserves P :=
  (ignores.preserves_enter others .syncing).bind fun _ => others.now.bind fun _ =>
    ignores.preserves_record attempt _

theorem preserves_recordOutcome (success : keys Metadata.lastSuccessKey)
    (failures : keys Metadata.failuresKey) (others : env.OthersPreserve P)
    (outcome : ConferenceOutcome) : (recordOutcome env outcome).Preserves P := by
  have read : ((Attempt.query Metadata.consecutiveFailures).orDefault 0 : Action σ Nat).Preserves
      P := by
    intro w held
    rw [Attempt.orDefault, StateT.run_bind, Attempt.run_query]
    cases Metadata.consecutiveFailures w.device.db <;> exact held
  refine read.bind fun previous => ?_
  cases outcome with
  | unchanged | updated =>
    exact others.now.bind fun _ => (ignores.preserves_record success _).bind fun _ =>
      (ignores.preserves_record failures _).bind fun _ => Action.preserves_pure _
  | cancelled | failed =>
    exact (ignores.preserves_record failures _).bind fun _ => Action.preserves_pure _

theorem preserves_userStep (others : env.OthersPreserve P) : (userStep env).Preserves P := by
  refine Action.Preserves.bind others.syncUser fun synced => ?_
  cases synced with
  | ok => exact Action.preserves_pure _
  | error e =>
    dsimp only
    split
    · exact (ignores.preserves_enter others _).bind fun _ =>
        (preserves_recoverUser others).bind fun _ =>
          (ignores.preserves_enter others _).bind fun _ => Action.preserves_pure _
    · exact Action.preserves_pure _

theorem preserves_closingStep (interval : keys Metadata.intervalKey)
    (others : env.OthersPreserve P) (settings : Settings) (failures : Nat) :
    (closingStep env settings failures).Preserves P :=
  others.now.bind fun _ => (ignores.preserves_record interval _).bind fun _ =>
    (ignores.preserves_enter others _).bind fun _ => Action.preserves_pure _

/-- What a pass does at its end preserves what does not depend on its notes. -/
theorem preserves_wrapUp (success : keys Metadata.lastSuccessKey)
    (failures : keys Metadata.failuresKey) (interval : keys Metadata.intervalKey)
    (others : env.OthersPreserve P) (settings : Settings) (trigger : Trigger)
    (bootstrapped : Bool) (conference : ConferenceOutcome) :
    (wrapUp env settings trigger bootstrapped conference).Preserves P :=
  (ignores.preserves_recordOutcome success failures others conference).bind fun _ =>
    (ignores.preserves_userStep others).bind fun _ =>
      (preserves_feedbackStep others).bind fun _ =>
        (ignores.preserves_closingStep interval others settings _).bind fun _ =>
          Action.preserves_pure _

theorem preserves_conclude
    (cancel : ∀ w, P w → P { w with device := { w.device with cancelRequested := false } })
    (success : keys Metadata.lastSuccessKey) (failures : keys Metadata.failuresKey)
    (interval : keys Metadata.intervalKey) (others : env.OthersPreserve P) (settings : Settings)
    (trigger : Trigger) (bootstrapped : Bool) (conference : ConferenceOutcome) :
    (conclude env settings trigger bootstrapped conference).Preserves P := by
  rw [conclude_eq]
  exact Action.Preserves.bind (fun w held => cancel w held) fun _ =>
    ignores.preserves_wrapUp success failures interval others settings trigger bootstrapped
      conference

end IgnoresNotes

theorem preserves_enter (ignores : IgnoresProgress P) (others : env.OthersPreserve P)
    (phase : Phase) : (Action.enter env phase).Preserves P :=
  ignores.ignoresNotes.preserves_enter others phase

theorem preserves_beginStep (ignores : IgnoresProgress P) (others : env.OthersPreserve P) :
    (beginStep env).Preserves P :=
  ignores.ignoresNotes.preserves_beginStep (by decide) others

/-- What a pass does after the data of the conference preserves what does not depend on what a pass
notes about itself. -/
theorem preserves_conclude (ignores : IgnoresProgress P) (others : env.OthersPreserve P)
    (settings : Settings) (trigger : Trigger) (bootstrapped : Bool)
    (conference : ConferenceOutcome) :
    (conclude env settings trigger bootstrapped conference).Preserves P :=
  ignores.ignoresNotes.preserves_conclude ignores.cancel (by decide) (by decide) (by decide) others
    settings trigger bootstrapped conference

end Preserves

/-! ## A server with texts under URLs -/

/-- A server with texts under URLs, and the index for searches that is kept. -/
def indexedServing (pages : List (String × String)) : Environment Unit :=
  { Fetch.serving pages with observers := [indexUpdater] }

section IndexedServing

variable {β : Type} (pages : List (String × String))

theorem keeps_indexedServing (part : Device → β) : (indexedServing pages).Keeps part := fun _ =>
  ⟨⟨fun _ held => held, fun _ held => held, fun _ held => held, fun _ held => held,
    fun _ _ held => held⟩, fun _ _ _ held => held⟩

theorem observersKeep_indexedServing {part : Device → β}
    (same : ∀ d db rebuilds, db.withoutIndex = d.db.withoutIndex →
      part { d with db, rebuilds } = part d) : (indexedServing pages).ObserversKeep part := by
  intro v observer listed notice
  obtain rfl := List.mem_singleton.1 listed
  exact preserves_hear_indexUpdater same notice v

end IndexedServing

/-- A manifest that names one file, for which there is a text. -/
def roomPages (text : String) : List (String × String) :=
  [("https://conf.example/manifest.json",
      "\x7b\"format\":\"iosched-json-v1\",\"data_files\":[\"rooms.json\"]\x7d"),
    ("https://conf.example/rooms.json", text)]

/-- Settings for a manifest on this server, without a seed. -/
def plainSettings : Settings :=
  ⟨.standard "https://conf.example/manifest.json", .standard, none, .standard 0 0⟩

end Sync

end ConferenceSync
