import ConferenceSync.Proofs.Notes

/-!
# The seed is imported once

A pass that finds that the seed has not been taken care of takes care of it, and keeps that it has,
whether the import succeeds or not. What is kept outlasts passes and new starts of the program. So
only the first pass on a device can import the seed, before any pass has written data of the
conference, and no row that has come from the server ever gives way to one of the seed.

## Main definitions

* `Sync.afterSeed` — what a pass does once the seed has been taken care of

## Main results

* `Sync.note_seeded` — once a pass has begun, the seed has been taken care of
* `Sync.run_importSeed_of_error` — an import of the seed that fails does nothing
* `Sync.seed_is_imported_at_most_once` — which pass imports the seed
-/

namespace ConferenceSync.Sync

variable {σ : Type} {env : Environment σ} {settings : Settings} {trigger : Trigger} {w : World σ}

/-! ## Whether the seed has been taken care of -/

theorem seedDone_of_note {db : Database} {text? : Option String}
    (kept : db.note Metadata.bootstrapKey = (true, text?)) : seedDone db = (text? == some "1") := by
  obtain ⟨answers, rfl⟩ := Prod.mk.inj kept
  rw [seedDone, Metadata.isBootstrapped, Metadata.get?_eq_ok_iff.2 ⟨answers, rfl⟩]
  rfl

theorem seedDone_eq_true_iff {db : Database} :
    seedDone db = true ↔ db.note Metadata.bootstrapKey = (true, some "1") := by
  refine ⟨fun done => ?_, fun kept => by rw [seedDone_of_note kept, beq_self_eq_true]⟩
  rw [seedDone, Metadata.isBootstrapped] at done
  cases read : Metadata.get? db Metadata.bootstrapKey with
  | error e =>
    rw [read] at done
    cases done
  | ok text? =>
    rw [read] at done
    obtain ⟨answers, rfl⟩ := Metadata.get?_eq_ok_iff.1 read
    exact Prod.ext answers (beq_iff_eq.1 done)

/-- What a pass does once the seed has been taken care of. -/
def afterSeed (env : Environment σ) (settings : Settings) (trigger : Trigger)
    (bootstrapped : Bool) : Action σ Report := do
  beginStep env
  let conference ← conferenceStep env settings
  conclude env settings trigger bootstrapped conference

/-- A pass takes care of the seed if that has not been done. -/
theorem run_pass_eq_afterSeed (env : Environment σ) (settings : Settings) (trigger : Trigger)
    (w : World σ) :
    (pass env settings trigger).run w =
      (afterSeed env settings trigger !seedDone w.device.db).run (seeded env settings w) :=
  run_pass ..

section Kept

variable (keeps : env.Keeps fun d => d.db.note Metadata.bootstrapKey)
  (observers : env.ObserversKeep fun d => d.db.note Metadata.bootstrapKey)

include keeps observers

/-- Once a pass has begun, the seed has been taken care of, whatever its import has led to. -/
theorem note_seeded {text? : Option String}
    (kept : w.device.db.note Metadata.bootstrapKey = (true, text?)) :
    (seeded env settings w).device.db.note Metadata.bootstrapKey = (true, some "1") := by
  by_cases done : seedDone w.device.db = true
  · rw [seeded, if_pos done]
    exact seedDone_eq_true_iff.1 done
  · rw [seeded, if_neg done]
    have same := withstands_note (σ := σ) Metadata.bootstrapKey (true, text?)
    have entered := same.ignoresNotes.preserves_enter (keeps _).toOthersPreserve .bootstrapping w
      kept
    have imported := same.preserves_importSeed (observers _) (by decide) settings _ entered
    have marked := note_write_self (σ := σ) Metadata.bootstrapKey "1" (Prod.mk.inj imported).1
    exact (withstands_note _ (true, some "1")).ignoresNotes.preserves_enter
      (keeps _).toOthersPreserve .idle _ marked

/-- What is kept of the seed outlasts the rest of a pass. -/
theorem preserves_afterSeed (kept : Bool × Option String) (trigger : Trigger)
    (bootstrapped : Bool) :
    (afterSeed env settings trigger bootstrapped).Preserves fun w =>
      w.device.db.note Metadata.bootstrapKey = kept := by
  have same := withstands_note (σ := σ) Metadata.bootstrapKey kept
  have cycle (reference? : Option String) := Fetch.preserves_fetchIfNewer (keeps kept).get
    (fun _ _ held => held) settings.fetch reference?
  intro w held
  have begun := same.ignoresNotes.preserves_beginStep (by decide) (keeps _).toOthersPreserve w held
  have updated := same.preserves_updateConference (observers _) (by decide) cycle _ begun
  have run : ((afterSeed env settings trigger bootstrapped).run w).2 =
      ((conclude env settings trigger bootstrapped
        ((conferenceStep env settings).run ((beginStep env).run w).2).1).run
          ((conferenceStep env settings).run ((beginStep env).run w).2).2).2 := rfl
  rw [run, run_conferenceStep]
  exact same.ignoresNotes.preserves_conclude (fun _ held => held) (by decide) (by decide)
    (by decide) (keeps _).toOthersPreserve settings trigger bootstrapped _ _ updated

theorem note_of_sync {text? : Option String} {report : Report} {after : World σ}
    (kept : w.device.db.note Metadata.bootstrapKey = (true, text?))
    (made : (sync env settings trigger).run.run w = (.ok report, after)) :
    after.device.db.note Metadata.bootstrapKey = (true, some "1") := by
  obtain ⟨-, rfl⟩ := eq_pass_of_sync made
  show ((pass env settings trigger).run (claimed w)).2.device.db.note _ = _
  rw [run_pass_eq_afterSeed]
  exact preserves_afterSeed keeps observers _ trigger _ _ (note_seeded keeps observers kept)

end Kept

/-- An import of the seed that fails does nothing, if what is kept about the synchronization can be
written. -/
theorem run_importSeed_of_error (observers : env.ObserversKeep fun d => d.db.answers)
    (answers : w.device.db.answers = true) {e : SyncError}
    (failed : ((importSeed env settings).run.run w).1 = .error e) :
    ((importSeed env settings).run.run w).2 = w := by
  cases given : settings.seed? with
  | none =>
    rw [importSeed, given] at failed
    cases failed
  | some seed =>
    rw [run_importSeed env settings w given] at failed ⊢
    cases read : dataOfSeed seed with
    | error e => rfl
    | ok data =>
      rw [read] at failed
      dsimp only at failed ⊢
      cases made : w.device.db.commit (data.planFor settings.rules .full w.device.db).batch with
      | error e => rfl
      | ok db =>
        -- Once the batch is written, nothing can fail but to keep its date.
        have told := answers_announced observers
          (data.planFor settings.rules .full w.device.db).batch (w := w)
          ((Database.answers_commit made).trans answers)
        have dated : Metadata.setLastDataTimestamp _ seed.timestamp = .ok _ :=
          Metadata.set_eq_ok_iff.2 ⟨told, rfl⟩
        rw [made] at failed
        dsimp only at failed
        rw [dated] at failed
        cases failed

/-! ## Which pass imports the seed -/

section Turns

variable (keeps : env.Keeps fun d => d.db.note Metadata.bootstrapKey)
  (observers : env.ObserversKeep fun d => d.db.note Metadata.bootstrapKey)

include keeps observers

/-- The note of the seed after turns, and what their passes report about the seed: only the first
pass can find it missing, and then it is there. -/
theorem seed_afterTurns {text? : Option String}
    (kept : w.device.db.note Metadata.bootstrapKey = (true, text?)) (turns : List Turn) :
    let reports := reportsAfter env turns w
    (afterTurns env turns w).device.db.note Metadata.bootstrapKey =
        (true, if reports.isEmpty then text? else some "1") ∧
      (∀ report ∈ reports.head?, report.bootstrapped = !(text? == some "1")) ∧
      ∀ report ∈ reports.tail, report.bootstrapped = false := by
  refine holds_after_turns (P := fun _ reports w =>
    w.device.db.note Metadata.bootstrapKey =
        (true, if reports.isEmpty then text? else some "1") ∧
      (∀ report ∈ reports.head?, report.bootstrapped = !(text? == some "1")) ∧
      ∀ report ∈ reports.tail, report.bootstrapped = false) ?_ turns ⟨kept, by simp, by simp⟩
  rintro past reports turn w ⟨note, first, others⟩
  rcases note_take_cases keeps turn w with
    ⟨settings, trigger, report, after, made, taken⟩ | ⟨after, taken, same⟩ <;>
    rw [taken]
  · have noted := note_of_sync keeps observers note made
    have reported := bootstrapped_of_sync made
    rw [seedDone_of_note note] at reported
    cases reports with
    | nil => exact ⟨noted, by simpa using reported, by simp⟩
    | cons head rest =>
      refine ⟨noted, first, fun other listed => ?_⟩
      rcases List.mem_append.1 listed with earlier | last
      · exact others other earlier
      · obtain rfl := List.mem_singleton.1 last
        exact reported
  · rw [Option.toList_none, List.append_nil]
    exact ⟨same.trans note, first, others⟩

end Turns

/-- Whatever happens on a device on which what is kept about the synchronization can be read and
written: if the seed had not been taken care of, the first pass reports that it has taken care of
it, and no other pass does. From then on, and after each new start of the program, the seed counts
as taken care of. A pass that does not report it does nothing before it begins, so it does nothing
about the seed; the first one imports it before any pass has brought data of the conference, and if
the import fails, it leaves everything as it was. -/
theorem seed_is_imported_at_most_once (env : Environment σ)
    (keeps : env.Keeps fun d => d.db.note Metadata.bootstrapKey)
    (observers : env.ObserversKeep fun d => d.db.note Metadata.bootstrapKey)
    (turns : List Turn) (start before : World σ) (answers : start.device.db.answers = true)
    (reached : afterTurns env turns start = before) :
    let done := seedDone start.device.db
    let reports := reportsAfter env turns start
    (∀ report ∈ reports.head?, report.bootstrapped = !done) ∧
      (∀ report ∈ reports.tail, report.bootstrapped = false) ∧
      bootstrapDone.run before = (done || !reports.isEmpty, before) ∧
      ∀ settings trigger report after,
        (sync env settings trigger).run.run before = (.ok report, after) →
        report.bootstrapped = (!done && reports.isEmpty) ∧
        bootstrapDone.run after = (true, after) ∧
        (report.bootstrapped = false →
          (pass env settings trigger).run (claimed before) =
            (afterSeed env settings trigger false).run (claimed before)) ∧
        (report.bootstrapped = true →
          (pass env settings trigger).run (claimed before) = (do
            bootstrap env settings
            afterSeed env settings trigger true).run (claimed before) ∧
          let entered := ((Action.enter env .bootstrapping).run (claimed before)).2
          ∀ e, ((importSeed env settings).run.run entered).1 = .error e →
            ((importSeed env settings).run.run entered).2 = entered) := by
  intro done reports
  obtain ⟨text?, kept⟩ : ∃ text?, start.device.db.note Metadata.bootstrapKey = (true, text?) :=
    ⟨_, Prod.ext answers rfl⟩
  obtain ⟨note, first, others⟩ := seed_afterTurns keeps observers kept turns
  rw [reached] at note
  have found : done = (text? == some "1") := seedDone_of_note kept
  rw [← found] at first
  have known : seedDone before.device.db = (done || !reports.isEmpty) := by
    rw [seedDone_of_note note, found]
    cases reports.isEmpty <;> simp
  refine ⟨first, others, by rw [run_bootstrapDone, known], ?_⟩
  intro settings trigger report after made
  have reported := bootstrapped_of_sync made
  have last := seedDone_eq_true_iff.2 (note_of_sync keeps observers note made)
  have split := run_pass_eq_afterSeed env settings trigger (claimed before)
  have same : seedDone (claimed before).device.db = !report.bootstrapped := by
    rw [reported, Bool.not_not]
    rfl
  refine ⟨by rw [reported, known, Bool.not_or, Bool.not_not], by rw [run_bootstrapDone, last],
    fun untouched => ?_, fun taken => ⟨?_, fun e failed => ?_⟩⟩
  · rw [split, seeded, same, untouched]
    rfl
  · rw [split, seeded, same, taken]
    rfl
  · have entered := (withstands_note _ _).ignoresNotes.preserves_enter (keeps _).toOthersPreserve
      .bootstrapping (claimed before) note
    exact run_importSeed_of_error (fun kept => observers.preserves (·.1 = kept))
      (Prod.mk.inj entered).1 failed

/-- Settings with a seed that cannot be read. -/
def brokenSeedSettings : Settings :=
  { plainSettings with seed? := some ⟨"seed.json", .ok "\x7b not json", Seed.oldestTimestamp⟩ }

/-- With a broken seed, a pass, a new start of the program and another pass: only the first pass has
tried to import the seed, and no pass that follows will. -/
theorem seed_is_imported_at_most_once_broken_seed :
    let env := indexedServing (roomPages "\x7b\"rooms\":[]\x7d")
    let turns := [.pass brokenSeedSettings .manual, .restart, .pass brokenSeedSettings .manual]
    let start : World Unit := ⟨.start .initial .inMemory, ()⟩
    (reportsAfter env turns start).map (·.bootstrapped) = [true, false] ∧
      (bootstrapDone.run (afterTurns env turns start)).1 = true ∧
      ∀ settings trigger report after,
        (sync env settings trigger).run.run (afterTurns env turns start) = (.ok report, after) →
          report.bootstrapped = false := by
  intro env turns start
  have reports : (reportsAfter env turns start).map (·.bootstrapped) = [true, false] := by
    decide +kernel
  have made : (reportsAfter env turns start).isEmpty = false := by
    cases shown : reportsAfter env turns start with
    | nil => simp [shown] at reports
    | cons => rfl
  obtain ⟨-, -, known, next⟩ := seed_is_imported_at_most_once env (keeps_indexedServing _ _)
    (observersKeep_note_indexedServing _ _) turns start _ (by decide) rfl
  refine ⟨reports, by rw [known, made, Bool.not_false, Bool.or_true], ?_⟩
  intro settings trigger report after ran
  rw [(next settings trigger report after ran).1, made, Bool.and_false]

end ConferenceSync.Sync
