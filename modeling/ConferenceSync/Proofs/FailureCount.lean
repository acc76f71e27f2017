import ConferenceSync.Proofs.HttpDates
import ConferenceSync.Proofs.Notes
import ConferenceSync.Proofs.PassCourse

/-!
# Failures are counted

The number of failures in a row is kept as a text from pass to pass. Each pass reads it, counts its
own failure or starts anew, and keeps what it reports, so the number is that of the passes that have
failed since the last one that was successful, up to the greatest number of 32 bits.

## Main definitions

* `Sync.failuresSinceSuccess` — the number of failures since the last success
* `Sync.failuresIn` — the number of failures that a text stands for

## Main results

* `Sync.failuresAfter_eq` — one more outcome is counted as it should be
* `Sync.recordOutcome_counts` — a pass keeps the number that it reports
* `Sync.failures_are_counted` — the number that a pass reports, keeps and waits for
-/

namespace ConferenceSync

variable {σ : Type}

namespace Sync

/-! ## What is counted -/

/-- The number of failures since the last success. -/
def failuresSinceSuccess (outcomes : List ConferenceOutcome) : Nat :=
  (outcomes.reverse.takeWhile fun outcome => !outcome.isSuccess).countP ConferenceOutcome.isFailure

theorem failuresSinceSuccess_append (outcomes : List ConferenceOutcome)
    (outcome : ConferenceOutcome) :
    failuresSinceSuccess (outcomes ++ [outcome]) =
      if outcome.isSuccess then 0
      else failuresSinceSuccess outcomes + if outcome.isFailure then 1 else 0 := by
  rw [failuresSinceSuccess, List.reverse_append, List.reverse_singleton, List.singleton_append,
    List.takeWhile_cons]
  cases outcome.isSuccess with
  | true => rfl
  | false => exact List.countP_cons

theorem ConferenceOutcome.isSuccess_eq_false {outcome : ConferenceOutcome}
    (failed : outcome.isFailure = true) : outcome.isSuccess = false := by
  cases outcome with
  | failed e => rfl
  | _ => cases failed

/-- The number that is kept counts one more outcome as it should. -/
theorem failuresAfter_eq (outcomes : List ConferenceOutcome) (outcome : ConferenceOutcome) :
    failuresAfter outcome (min (failuresSinceSuccess outcomes) 0xffffffff) =
      min (failuresSinceSuccess (outcomes ++ [outcome])) 0xffffffff := by
  rw [failuresSinceSuccess_append]
  cases outcome <;>
    simp only [failuresAfter, ConferenceOutcome.isSuccess, ConferenceOutcome.isFailure] <;> grind

/-- The number of failures that a text stands for, or none if there is no text. -/
def failuresIn (text? : Option String) : Nat :=
  ((text?.bind fun s => Text.int64Of? s.toList).getD 0).toNat % 0x100000000

theorem failuresIn_toString {n : Nat} (fits : n ≤ 0xffffffff) :
    failuresIn (some (toString (n : Int))) = n := by
  have inside : Text.FitsInt64 (n : Int) := by
    rw [Text.FitsInt64]
    omega
  rw [failuresIn, Option.bind_some, Text.int64Of?_toString inside, Option.getD_some,
    Int.toNat_natCast]
  omega

theorem consecutiveFailures_of_note {db : Database} {text? : Option String}
    (kept : db.note Metadata.failuresKey = (true, text?)) :
    Metadata.consecutiveFailures db = .ok (failuresIn text?) := by
  obtain ⟨answers, rfl⟩ := Prod.mk.inj kept
  rw [Metadata.consecutiveFailures, Metadata.integer?, Metadata.get?_eq_ok_iff.2 ⟨answers, rfl⟩]
  rfl

section Kept

variable {env : Environment σ} {settings : Settings} {trigger : Trigger} {w : World σ}
  (keeps : env.Keeps fun d => d.db.note Metadata.failuresKey)
  (observers : env.ObserversKeep fun d => d.db.note Metadata.failuresKey)

include keeps

/-- A pass keeps the number that it reports, which is that of the failures so far with its own
outcome. -/
theorem recordOutcome_counts {text? : Option String}
    (kept : w.device.db.note Metadata.failuresKey = (true, text?)) (outcome : ConferenceOutcome) :
    let run := (recordOutcome env outcome).run w
    run.1 = failuresAfter outcome (failuresIn text?) ∧
      run.2.device.db.note Metadata.failuresKey =
        (true, some (toString (failuresAfter outcome (failuresIn text?) : Int))) := by
  have previous : ((Attempt.query Metadata.consecutiveFailures).orDefault 0 : Action σ Nat).run w =
      (failuresIn text?, w) := by
    rw [Attempt.orDefault, StateT.run_bind, Attempt.run_query, consecutiveFailures_of_note kept]
    rfl
  have written (w : World σ) (kept : w.device.db.note Metadata.failuresKey = (true, text?))
      (failures : Nat) : let run := (do
          record Metadata.failuresKey failures
          return failures : Action σ Nat).run w
        run.1 = failures ∧ run.2.device.db.note Metadata.failuresKey =
          (true, some (toString (failures : Int))) :=
    ⟨rfl, note_write_self _ _ (Prod.mk.inj kept).1⟩
  have same := (withstands_note (σ := σ) Metadata.failuresKey (true, text?)).ignoresNotes
  rw [recordOutcome, StateT.run_bind, previous]
  cases outcome with
  | unchanged | updated =>
    exact written _ (same.preserves_record (by decide) _ _
      ((keeps _).now w kept)) 0
  | cancelled | failed => exact written w kept _

include observers in
/-- Until the data of the conference have been dealt with, a pass leaves the note alone. -/
theorem note_updateConference {kept : Bool × Option String}
    (held : w.device.db.note Metadata.failuresKey = kept) :
    ((updateConference env settings).run.run (begun env settings w)).2.device.db.note
      Metadata.failuresKey = kept := by
  have same := withstands_note (σ := σ) Metadata.failuresKey kept
  have cycle (reference? : Option String) := Fetch.preserves_fetchIfNewer (keeps kept).get
    (fun _ _ held => held) settings.fetch reference?
  have seeded := same.preserves_seeded (observers _) (by decide) (keeps _).toOthersPreserve
    (by decide) settings held
  have begun := same.ignoresNotes.preserves_beginStep (by decide) (keeps _).toOthersPreserve _
    seeded
  exact same.preserves_updateConference (observers _) (by decide) cycle _ begun

include observers in
/-- A pass that is made counts its own outcome, and keeps the number that it reports. -/
theorem counts_of_sync {text? : Option String} {report : Report} {after : World σ}
    (kept : w.device.db.note Metadata.failuresKey = (true, text?))
    (made : (sync env settings trigger).run.run w = (.ok report, after)) :
    report.consecutiveFailures = failuresAfter report.conference (failuresIn text?) ∧
      after.device.db.note Metadata.failuresKey =
        (true, some (toString (report.consecutiveFailures : Int))) := by
  obtain ⟨rfl, rfl⟩ := eq_pass_of_sync made
  rw [run_pass_eq_wrapUp]
  have dealt : ((updateConference env settings).run.run
      (begun env settings (claimed w))).2.device.db.note Metadata.failuresKey = (true, text?) :=
    note_updateConference keeps observers kept
  cases ran : (updateConference env settings).run.run (begun env settings (claimed w)) with
  | mk result ended =>
    rw [ran] at dealt
    obtain ⟨counted, noted⟩ := recordOutcome_counts keeps (w := heeded ended) dealt
      (outcomeOf result)
    rw [← counted] at noted
    refine ⟨counted, ?_⟩
    have same := (withstands_note (σ := σ) Metadata.failuresKey (true, some (toString
      (((recordOutcome env (outcomeOf result)).run (heeded ended)).1 : Int)))).ignoresNotes
    have others := (keeps (true, some (toString
      (((recordOutcome env (outcomeOf result)).run (heeded ended)).1 : Int)))).toOthersPreserve
    exact (same.preserves_userStep others).bind (fun userData =>
      (preserves_feedbackStep others).bind fun feedback =>
        (same.preserves_closingStep (by decide) others settings _).bind fun delay =>
          Action.preserves_pure (⟨trigger, !seedDone (claimed w).device.db, outcomeOf result,
            userData, feedback, _, delay⟩ : Report)) _ noted

include observers in
/-- After turns, the note stands for the failures that they have brought since the last success. -/
theorem failures_afterTurns (kept : w.device.db.note Metadata.failuresKey = (true, none))
    (turns : List Turn) :
    ∃ text?, (afterTurns env turns w).device.db.note Metadata.failuresKey = (true, text?) ∧
      failuresIn text? =
        min (failuresSinceSuccess ((reportsAfter env turns w).map (·.conference))) 0xffffffff := by
  refine holds_after_turns (P := fun _ reports w =>
    ∃ text?, w.device.db.note Metadata.failuresKey = (true, text?) ∧
      failuresIn text? = min (failuresSinceSuccess (reports.map (·.conference))) 0xffffffff)
    ?_ turns ⟨none, kept, rfl⟩
  rintro past reports turn w ⟨text?, note, counted⟩
  rcases note_take_cases keeps turn w with
    ⟨settings, trigger, report, after, made, taken⟩ | ⟨after, taken, same⟩ <;>
    rw [taken]
  · obtain ⟨number, noted⟩ := counts_of_sync keeps observers note made
    rw [counted, failuresAfter_eq] at number
    refine ⟨_, noted, ?_⟩
    rw [failuresIn_toString (by omega), number, Option.toList_some, List.map_append]
    rfl
  · rw [Option.toList_none, List.append_nil]
    exact ⟨text?, same.trans note, counted⟩

end Kept

/-- Whatever happens on a device on which no failures have been counted yet: the number that a pass
finds is that of the failures since the last success, the number that it reports is the same with
its own outcome, up to the greatest number of 32 bits, and that number is kept for the passes that
follow. How long to wait is what the policy says for that number at the time at which the clock is
read last. -/
theorem failures_are_counted (env : Environment σ)
    (keeps : env.Keeps fun d => d.db.note Metadata.failuresKey)
    (observers : env.ObserversKeep fun d => d.db.note Metadata.failuresKey)
    (turns : List Turn) (start before after : World σ) (settings : Settings) (trigger : Trigger)
    (report : Report) (empty : start.device.db.note Metadata.failuresKey = (true, none))
    (reached : afterTurns env turns start = before)
    (made : (sync env settings trigger).run.run before = (.ok report, after)) :
    let earlier := (reportsAfter env turns start).map (·.conference)
    Metadata.consecutiveFailures before.device.db =
        .ok (min (failuresSinceSuccess earlier) 0xffffffff) ∧
      report.consecutiveFailures =
        min (failuresSinceSuccess (earlier ++ [report.conference])) 0xffffffff ∧
      Metadata.consecutiveFailures after.device.db = .ok report.consecutiveFailures ∧
      ∃ course time, (sync env.watched settings trigger).run.run
          ⟨before.device, (before.outside, [])⟩ =
            (.ok report, ⟨after.device, (after.outside, course)⟩) ∧
        (course.calls.filterMap Call.time?).getLast? = some time ∧
        report.nextDelay = settings.policy.nextDelay time report.consecutiveFailures := by
  intro earlier
  obtain ⟨text?, note, counted⟩ := failures_afterTurns keeps observers empty turns
  rw [reached] at note
  obtain ⟨number, noted⟩ := counts_of_sync keeps observers note made
  rw [counted, failuresAfter_eq] at number
  obtain ⟨c, watched, fits⟩ := exists_course_of_sync made
  obtain ⟨time, shown, delay⟩ := fits.exists_time
  refine ⟨by rw [consecutiveFailures_of_note note, counted], number, ?_, c.whole, time, watched,
    shown, delay⟩
  rw [consecutiveFailures_of_note noted, failuresIn_toString (by omega)]

/-- A server that cannot be reached, in two passes with a request to cancel and a new start of the
program between them. -/
def unreachableTurns : List Turn :=
  [.pass plainSettings .manual, .cancel, .restart, .pass plainSettings .scheduled]

/-- The world after them. -/
def afterUnreachable : World Unit :=
  afterTurns (indexedServing []) unreachableTurns ⟨.start .initial .inMemory, ()⟩

/-- Both passes fail, and so does one more. -/
theorem outcome_unreachable :
    failuresSinceSuccess ((reportsAfter (indexedServing []) unreachableTurns
        ⟨.start .initial .inMemory, ()⟩).map (·.conference)) = 2 ∧
      afterUnreachable.device.running = false ∧
      ((pass (indexedServing []) plainSettings .manual).run
        (claimed afterUnreachable)).1.conference.isFailure = true := by
  decide +kernel

/-- Failures are counted over a request to cancel and a new start of the program. -/
theorem failures_are_counted_unreachable :
    ∃ report after,
      (sync (indexedServing []) plainSettings .manual).run.run afterUnreachable =
          (.ok report, after) ∧
        Metadata.consecutiveFailures afterUnreachable.device.db = .ok 2 ∧
          report.consecutiveFailures = 3 ∧
            Metadata.consecutiveFailures after.device.db = .ok 3 := by
  obtain ⟨past, idle, failed⟩ := outcome_unreachable
  have made := run_sync_of_idle (indexedServing []) plainSettings .manual idle
  obtain ⟨found, number, kept, -⟩ := failures_are_counted (indexedServing [])
    (keeps_indexedServing _ _) (observersKeep_note_indexedServing _ _) unreachableTurns
    ⟨.start .initial .inMemory, ()⟩ afterUnreachable _ plainSettings .manual _ (by decide) rfl made
  rw [failuresSinceSuccess_append, past, failed, ConferenceOutcome.isSuccess_eq_false failed]
    at number
  exact ⟨_, _, made, by rw [found, past]; rfl, number, by rw [kept, number]; rfl⟩

end Sync

end ConferenceSync
