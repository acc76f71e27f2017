import ConferenceSync.Proofs.Watching

/-!
# The course of a pass

A pass always goes the same way, whatever the outside answers: it takes care of the seed if that was
to be done, moves to its phase, makes its requests, lets observers hear of what it has written,
exchanges the attendee's data, sends feedback, and comes to rest. What it reports about each step is
what the calls of that step have answered.

## Main definitions

* `Sync.UserExchange`, `Sync.WrapUp` — the calls for the attendee's data, and those of all that
  follows the data of the conference
* `Sync.answered` — the world in which the server has answered all requests of a pass
* `Sync.PassCourse`, `Sync.PassCourse.Fits` — the course of a pass, stretch by stretch
* `Sync.PassCourse.Leads` — that a course leads through the worlds of a pass
* `Sync.phases`, `Sync.refusedAtFirst` — the phases that calls publish, and whether the account does
  not accept the user

## Main results

* `Sync.follows_userStep`, `Sync.follows_wrapUp` — which calls the steps of a pass make
* `Sync.exists_passCourse`, `Sync.exists_course_of_sync` — a pass that is made has a course
* `Sync.every_pass_runs_its_course` — which calls a pass makes, and what it reports of them
-/

namespace ConferenceSync

variable {σ β : Type}

/-- What a database holds beside what is kept about the synchronization. -/
def Database.data (db : Database) : Database := { db with metadata := none }

/-- What a pass leaves alone except in its steps for that: what the database holds beside what is
kept about the synchronization, and whether the next data set is to be abandoned. -/
def Device.settled (d : Device) : Database × Bool := (d.db.data, d.cancelRequested)

namespace Sync

/-! ## Steps -/

/-- Whether a part of the device is not concerned by what a pass notes about itself, which are its
phase and numbers. -/
structure OmitsNotes (part : Device → β) : Prop where
  phase : ∀ d phase, part { d with phase } = part d
  number : ∀ d key value db, Metadata.setInteger d.db key value = .ok db →
    part { d with db } = part d

theorem omitsNotes_settled : OmitsNotes Device.settled where
  phase _ _ := rfl
  number _ _ _ _ written := by
    obtain ⟨-, rfl⟩ := Metadata.set_eq_ok_iff.1 written
    rfl

/-- What becomes of the attendee's data once there is a new access token. -/
def secondOutcome : Except SyncError Unit → StepOutcome
  | .ok () => .done
  | .error e => if e.isUnauthorized then .skipped e else .failed e

/-- What becomes of the feedback. -/
def feedbackOutcome : Except SyncError Nat → StepOutcome
  | .ok _ => .done
  | .error e => .failed e

/-- The calls for the attendee's data, and what becomes of these. If the user is not accepted, a new
access token is asked for, and with it the data are exchanged once more. -/
inductive UserExchange : List Call → StepOutcome → Prop where
  | done : UserExchange [.noted (.userSynced (.ok ()))] .done
  | failed {e : SyncError} (other : e.isUnauthorized = false) :
    UserExchange [.noted (.userSynced (.error e))] (.failed e)
  | refused {e cause : SyncError} (unauthorized : e.isUnauthorized = true) :
    UserExchange
      [.noted (.userSynced (.error e)), .noted (.published .authRecovery),
        .noted (.tokenRefreshed (.error cause)), .noted (.published .syncing)]
      (.skipped cause)
  | again {e : SyncError} (unauthorized : e.isUnauthorized = true)
      (answer : Except SyncError Unit) :
    UserExchange
      [.noted (.userSynced (.error e)), .noted (.published .authRecovery),
        .noted (.tokenRefreshed (.ok ())), .noted (.userSynced answer),
        .noted (.published .syncing)]
      (secondOutcome answer)

/-- Whether the data of the conference are up to date. -/
def ConferenceOutcome.isSuccess : ConferenceOutcome → Bool
  | unchanged | updated _ _ => true
  | cancelled | failed _ => false

/-- The calls of a pass after the data of the conference: the clock is read if these are up to date;
the attendee's data are exchanged; feedback is sent; the clock is read, and the pass is over. -/
inductive WrapUp (settings : Settings) (report : Report) : List Call → Prop where
  | intro {success account : List Call} {answer : Except SyncError Nat} {time : Int}
      (noted : if report.conference.isSuccess then ∃ time, success = [.timed time]
        else success = [])
      (exchanged : UserExchange account report.userData)
      (feedback : report.feedback = feedbackOutcome answer)
      (delay : report.nextDelay = settings.policy.nextDelay time report.consecutiveFailures) :
    WrapUp settings report
      (success ++ account ++
        [.noted (.feedbackSent answer), .timed time, .noted (.published .idle)])

section Steps

variable {part : Device → β} (omits : OmitsNotes part) (env : Environment σ)

theorem follows_now :
    env.watched.now.Follows part fun time calls => calls = [.timed time] :=
  Action.follows_watching (fun _ => rfl) env.now

/-- What the program writes itself is no moment. -/
theorem follows_write {f : Database → Except SyncError Database}
    (apart : ∀ d db, f d.db = .ok db → part { d with db } = part d) :
    (Attempt.write f : Attempt (σ × Course) Unit).ignored.Follows part fun _ calls =>
      calls = [] := by
  intro w
  refine ⟨[], ?_, rfl⟩
  show Along part w [] ((Attempt.write f : Attempt (σ × Course) Unit).run.run w).2
  cases written : f w.device.db with
  | ok db =>
    rw [Attempt.run_write_of_ok written]
    exact .of_device (apart w.device db written) rfl
  | error e =>
    rw [Attempt.run_write_of_error written]
    exact .refl part w

include omits in
theorem follows_record (key : String) (value : Int) :
    (record key value : Action (σ × Course) Unit).Follows part fun _ calls => calls = [] :=
  follows_write fun d db => omits.number d key value db

include omits in
/-- When a pass begins, it publishes that and reads the clock. -/
theorem follows_beginStep :
    (beginStep env.watched).Follows part fun _ calls =>
      ∃ time, calls = [.noted (.published .syncing), .timed time] := by
  refine ((Action.follows_enter omits.phase env .syncing).bind fun _ => (follows_now env).bind
    fun time => follows_record omits Metadata.lastAttemptKey time).mono ?_
  rintro ⟨⟩ calls ⟨-, front, back, rfl, rfl, time, front, back, rfl, rfl, rfl⟩
  exact ⟨time, rfl⟩

include omits in
/-- The clock is read if the data of the conference are up to date. -/
theorem follows_recordOutcome (outcome : ConferenceOutcome) :
    (recordOutcome env.watched outcome).Follows part fun _ calls =>
      if outcome.isSuccess then ∃ time, calls = [.timed time] else calls = [] := by
  have read : ((Attempt.query Metadata.consecutiveFailures).orDefault 0 :
      Action (σ × Course) Nat).Follows part fun _ calls => calls = [] := by
    intro w
    refine ⟨[], ?_, rfl⟩
    rw [Attempt.orDefault, StateT.run_bind, Attempt.run_query]
    cases Metadata.consecutiveFailures w.device.db <;> exact .refl part w
  have keep (failures : Nat) : (do
      record Metadata.failuresKey failures
      return failures : Action (σ × Course) Nat).Follows part fun _ calls => calls = [] := by
    refine ((follows_record omits _ _).bind fun _ => Action.follows_pure failures).mono ?_
    rintro _ calls ⟨-, front, back, rfl, rfl, -, rfl⟩
    rfl
  have success (failures : Nat) : (do
      record Metadata.lastSuccessKey (← env.watched.now)
      record Metadata.failuresKey failures
      return failures : Action (σ × Course) Nat).Follows part fun _ calls =>
        ∃ time, calls = [.timed time] := by
    refine ((follows_now env).bind fun time =>
      (follows_record omits Metadata.lastSuccessKey time).bind fun _ => keep failures).mono ?_
    rintro _ calls ⟨time, front, back, rfl, rfl, -, front, back, rfl, rfl, rfl⟩
    exact ⟨time, rfl⟩
  cases outcome with
  | unchanged | updated =>
    refine (read.bind fun previous => success _).mono ?_
    rintro _ calls ⟨previous, front, back, rfl, rfl, time, rfl⟩
    exact ⟨time, rfl⟩
  | cancelled | failed =>
    refine (read.bind fun previous => keep _).mono ?_
    rintro _ calls ⟨previous, front, back, rfl, rfl, rfl⟩
    rfl

theorem follows_syncUser :
    env.watched.syncUser.run.Follows part fun answer calls =>
      calls = [.noted (.userSynced answer)] :=
  Action.follows_watching (fun _ => rfl) env.syncUser.run

/-- A new access token is asked for once, and if there is one, the data are exchanged again. -/
theorem follows_recoverUser :
    (recoverUser env.watched).Follows part fun outcome calls =>
      (∃ cause, calls = [.noted (.tokenRefreshed (.error cause))] ∧ outcome = .skipped cause) ∨
        ∃ answer, calls = [.noted (.tokenRefreshed (.ok ())), .noted (.userSynced answer)] ∧
          outcome = secondOutcome answer := by
  have refresh : env.watched.refreshToken.run.Follows part fun answer calls =>
      calls = [.noted (.tokenRefreshed answer)] :=
    Action.follows_watching (fun _ => rfl) env.refreshToken.run
  refine (refresh.bind fun refreshed => (?_ : Action.Follows part (fun outcome calls =>
    (∃ cause, refreshed = .error cause ∧ calls = [] ∧ outcome = .skipped cause) ∨
      refreshed = .ok () ∧ ∃ answer, calls = [.noted (.userSynced answer)] ∧
        outcome = secondOutcome answer) _)).mono ?_
  · cases refreshed with
    | error cause =>
      refine (Action.follows_pure _).mono ?_
      rintro _ _ ⟨rfl, rfl⟩
      exact .inl ⟨cause, rfl, rfl, rfl⟩
    | ok =>
      refine ((follows_syncUser env).bind fun answer => (?_ : Action.Follows part
        (fun outcome calls => outcome = secondOutcome answer ∧ calls = []) _)).mono ?_
      · cases answer <;> exact Action.follows_pure _
      · rintro _ _ ⟨answer, front, back, rfl, rfl, rfl, rfl⟩
        exact .inr ⟨rfl, answer, rfl, rfl⟩
  · rintro _ _ ⟨refreshed, front, back, rfl, rfl,
      ⟨cause, rfl, rfl, rfl⟩ | ⟨rfl, answer, rfl, rfl⟩⟩
    · exact .inl ⟨cause, rfl, rfl⟩
    · exact .inr ⟨answer, rfl, rfl⟩

include omits in
theorem follows_userStep :
    (userStep env.watched).Follows part fun outcome calls => UserExchange calls outcome := by
  refine ((follows_syncUser env).bind fun answer => (?_ : Action.Follows part (fun outcome calls =>
    UserExchange (.noted (.userSynced answer) :: calls) outcome) _)).mono ?_
  · cases answer with
    | ok =>
      refine (Action.follows_pure _).mono ?_
      rintro _ _ ⟨rfl, rfl⟩
      exact .done
    | error e =>
      dsimp only
      split
      · next unauthorized =>
        refine ((Action.follows_enter omits.phase env _).bind fun _ =>
          (follows_recoverUser env).bind fun outcome =>
            (Action.follows_enter omits.phase env _).bind fun _ =>
              Action.follows_pure outcome).mono ?_
        rintro _ _ ⟨-, front, back, rfl, rfl, outcome, recovery, back, rfl, recovered, -, front,
          back, rfl, rfl, rfl, rfl⟩
        rcases recovered with ⟨cause, rfl, rfl⟩ | ⟨answer, rfl, rfl⟩
        · exact .refused unauthorized
        · exact .again unauthorized answer
      · next accepted =>
        refine (Action.follows_pure _).mono ?_
        rintro _ _ ⟨rfl, rfl⟩
        exact .failed (eq_false_of_ne_true accepted)
  · rintro _ _ ⟨answer, front, back, rfl, rfl, exchanged⟩
    exact exchanged

/-- Feedback is sent once. -/
theorem follows_feedbackStep :
    (feedbackStep env.watched).Follows part fun outcome calls =>
      ∃ answer, calls = [.noted (.feedbackSent answer)] ∧ outcome = feedbackOutcome answer := by
  have send : env.watched.sendFeedback.run.Follows part fun answer calls =>
      calls = [.noted (.feedbackSent answer)] :=
    Action.follows_watching (fun _ => rfl) env.sendFeedback.run
  refine (send.bind fun answer => (?_ : Action.Follows part
    (fun outcome calls => outcome = feedbackOutcome answer ∧ calls = []) _)).mono ?_
  · cases answer <;> exact Action.follows_pure _
  · rintro _ _ ⟨answer, front, back, rfl, rfl, rfl, rfl⟩
    exact ⟨answer, rfl, rfl⟩

include omits in
/-- In the end the clock is read, and the pass is over. -/
theorem follows_closingStep (settings : Settings) (failures : Nat) :
    (closingStep env.watched settings failures).Follows part fun delay calls =>
      ∃ time, calls = [.timed time, .noted (.published .idle)] ∧
        delay = settings.policy.nextDelay time failures := by
  refine ((follows_now env).bind fun time => (follows_record omits Metadata.intervalKey _).bind
    fun _ => (Action.follows_enter omits.phase env .idle).bind fun _ =>
      Action.follows_pure (settings.policy.nextDelay time failures)).mono ?_
  rintro delay calls ⟨time, front, back, rfl, rfl, -, front, back, rfl, rfl, -, front, back, rfl,
    rfl, rfl, rfl⟩
  exact ⟨time, rfl, rfl⟩

include omits in
/-- What a pass does once a request to cancel has been dealt with. -/
theorem follows_wrapUp (settings : Settings) (trigger : Trigger) (bootstrapped : Bool)
    (conference : ConferenceOutcome) :
    (wrapUp env.watched settings trigger bootstrapped conference).Follows part fun report calls =>
      WrapUp settings report calls := by
  refine ((follows_recordOutcome omits env conference).bind fun failures =>
    (follows_userStep omits env).bind fun userData => (follows_feedbackStep env).bind
      fun feedback => (follows_closingStep omits env settings failures).bind fun delay =>
        Action.follows_pure _).mono ?_
  rintro report calls ⟨failures, success, rest, rfl, noted, userData, account, rest, rfl, exchanged,
    feedback, front, rest, rfl, ⟨answer, rfl, rfl⟩, delay, front, back, rfl, ⟨time, rfl, rfl⟩, rfl,
    rfl⟩
  rw [← List.append_assoc]
  exact .intro noted exchanged rfl rfl

end Steps

/-! ## The data of the conference -/

section Conference

variable {part : Device → β} (env : Environment σ) (settings : Settings)

/-- What the program writes itself is no moment, if the part is not about the database. -/
theorem outlastsWrites_since (apart : ∀ d db, part { d with db } = part d) (kind : Call → Prop)
    (start : World (σ × Course)) : OutlastsWrites (fun _ => True) (Since part kind start) where
  commit w _ db _ since := since.of_device (apart w.device db) rfl
  set w _ _ db _ _ since := since.of_device (apart w.device db) rfl

/-- While the seed is taken care of, observers may hear of it. -/
theorem follows_bootstrap (omits : OmitsNotes part) (apart : ∀ d db, part { d with db } = part d) :
    (bootstrap env.watched settings).Follows part fun _ calls =>
      ∃ hearings, (∀ call ∈ hearings, Call.IsHearing call) ∧
        calls = .noted (.published .bootstrapping) :: hearings ++ [.noted (.published .idle)] := by
  have imported : (importSeed env.watched settings).ignored.Follows part fun _ calls =>
      ∀ call ∈ calls, Call.IsHearing call :=
    Action.follows_of_preserves_since fun start => Attempt.preserves_ignored
      ((outlastsWrites_since apart _ start).preserves_importSeed (env.observersPreserve_since start)
        trivial settings)
  refine ((Action.follows_enter omits.phase env _).bind fun _ => imported.bind fun _ =>
    (follows_write fun d db _ => apart d db).bind fun _ =>
      Action.follows_enter omits.phase env _).mono ?_
  rintro _ _ ⟨-, front, back, rfl, rfl, -, hearings, back, rfl, all, -, front, back, rfl, rfl, rfl⟩
  exact ⟨hearings, all, rfl⟩

/-- The world in which the server has answered all requests of a pass. -/
def answered (env : Environment σ) (settings : Settings) (w : World σ) : World σ :=
  match Metadata.lastDataTimestamp? w.device.db with
  | .error _ => w
  | .ok reference? => ((Fetch.fetchIfNewer env settings.fetch reference?).run.run w).2

/-- Until the server has answered all requests, nothing is written to the database. -/
theorem since_answered (w : World (σ × Course)) :
    Since (fun d => (d.db, d.cancelRequested)) Call.IsRequest w
      (answered env.watched settings w) := by
  rw [answered]
  cases Metadata.lastDataTimestamp? w.device.db with
  | error e => exact .refl _ _ w
  | ok reference? => exact Fetch.since_fetchIfNewer (fun _ _ => rfl) env settings.fetch reference? w

/-- Then only observers are turned to. -/
theorem since_updateConference (w : World (σ × Course)) :
    Since Device.cancelRequested Call.IsHearing (answered env.watched settings w)
      ((updateConference env.watched settings).run.run w).2 := by
  rw [run_updateConference, answered]
  cases Metadata.lastDataTimestamp? w.device.db with
  | error e => exact .refl _ _ w
  | ok reference? =>
    dsimp only
    cases (Fetch.fetchIfNewer env.watched settings.fetch reference?).run.run w with
    | mk result next =>
      cases result with
      | error e => exact .refl _ _ next
      | ok fetched? =>
        cases fetched? with
        | none => exact .refl _ _ next
        | some fetched =>
          exact (outlastsWrites_since (fun _ _ => rfl) _ next).preserves_importFetched
            (env.observersPreserve_since next) trivial settings fetched next (.refl _ _ next)

end Conference

/-! ## A pass -/

/-- The world in which a request to cancel has been dealt with. -/
def heeded (w : World σ) : World σ :=
  { w with device := { w.device with cancelRequested := false } }

theorem course_released (w : World (σ × Course)) : (released w).course = w.course := rfl

/-- The course of a pass, stretch by stretch: the seed is taken care of, the pass begins, the server
is asked, observers hear of the data of the conference, and all that follows. -/
structure PassCourse where
  seed : Course
  beginning : Course
  requests : Course
  hearings : Course
  wrapUp : Course

namespace PassCourse

/-- The stretches of a course together. -/
def whole (c : PassCourse) : Course :=
  c.seed ++ c.beginning ++ c.requests ++ c.hearings ++ c.wrapUp

/-- Whether the stretches of a course are what they should be, and what is reported is what the
calls have answered. -/
structure Fits (settings : Settings) (report : Report) (c : PassCourse) : Prop where
  seed : if report.bootstrapped then ∃ hearings, (∀ call ∈ hearings, Call.IsHearing call) ∧
      c.seed.calls = .noted (.published .bootstrapping) :: hearings ++ [.noted (.published .idle)]
    else c.seed = []
  beginning : ∃ time, c.beginning.calls = [.noted (.published .syncing), .timed time]
  requests : ∀ moment ∈ c.requests, moment.call.IsRequest
  hearings : ∀ moment ∈ c.hearings, moment.call.IsHearing
  wrapUp : WrapUp settings report c.wrapUp.calls

/-- Whether a course leads through the worlds of a pass from one world to another, and what the
program itself leaves alone along each of its stretches. -/
structure Leads (env : Environment σ) (settings : Settings) (before : World (σ × Course))
    (c : PassCourse) (after : World (σ × Course)) : Prop where
  seed : Along Device.cancelRequested before c.seed (seeded env.watched settings (claimed before))
  beginning : Along Device.settled (seeded env.watched settings (claimed before)) c.beginning
    (begun env.watched settings (claimed before))
  requests : Along (fun d => (d.db, d.cancelRequested))
    (begun env.watched settings (claimed before)) c.requests
    (answered env.watched settings (begun env.watched settings (claimed before)))
  hearings : Along Device.cancelRequested
    (answered env.watched settings (begun env.watched settings (claimed before))) c.hearings
    ((updateConference env.watched settings).run.run
      (begun env.watched settings (claimed before))).2
  wrapUp : Along Device.settled
    (heeded ((updateConference env.watched settings).run.run
      (begun env.watched settings (claimed before))).2) c.wrapUp after

end PassCourse

/-- If the seed is to be taken care of, that is a stretch of its own. -/
theorem exists_course_seeded (env : Environment σ) (settings : Settings)
    (w : World (σ × Course)) :
    ∃ course, Along Device.cancelRequested w course (seeded env.watched settings w) ∧
      if !seedDone w.device.db then ∃ hearings, (∀ call ∈ hearings, Call.IsHearing call) ∧
        course.calls = .noted (.published .bootstrapping) :: hearings ++
          [.noted (.published .idle)]
      else course = [] := by
  rw [seeded]
  cases seedDone w.device.db with
  | true => exact ⟨[], .refl _ w, rfl⟩
  | false =>
    exact follows_bootstrap env settings ⟨fun _ _ => rfl, fun _ _ _ _ _ => rfl⟩ (fun _ _ => rfl) w

/-- A pass deals with a request to cancel once the data of the conference have been dealt with. -/
theorem run_pass_eq_wrapUp (env : Environment σ) (settings : Settings) (trigger : Trigger)
    (w : World σ) :
    (pass env settings trigger).run w =
      let (result, ended) := (updateConference env settings).run.run (begun env settings w)
      (wrapUp env settings trigger (!seedDone w.device.db) (outcomeOf result)).run
        (heeded ended) := by
  rw [run_pass, run_conferenceStep]
  exact congrFun (congrArg StateT.run (conclude_eq ..)) _

/-- A pass that is made has a course. -/
theorem exists_passCourse {env : Environment σ} {settings : Settings} {trigger : Trigger}
    {before after : World (σ × Course)} {report : Report}
    (made : (sync env.watched settings trigger).run.run before = (.ok report, after)) :
    ∃ c : PassCourse, c.Fits settings report ∧ c.Leads env settings before after := by
  obtain ⟨rfl, rfl⟩ := eq_pass_of_sync made
  rw [run_pass_eq_wrapUp]
  obtain ⟨seed, seedAlong, seedFits⟩ := exists_course_seeded env settings (claimed before)
  obtain ⟨beginning, beginningAlong, begins⟩ := follows_beginStep omitsNotes_settled env
    (seeded env.watched settings (claimed before))
  obtain ⟨requests, requestsAlong, asked⟩ := since_answered env settings
    (begun env.watched settings (claimed before))
  obtain ⟨hearings, hearingsAlong, heard⟩ := since_updateConference env settings
    (begun env.watched settings (claimed before))
  obtain ⟨wrapUp, wrapUpAlong, wrapsUp⟩ := follows_wrapUp omitsNotes_settled env settings trigger
    (!seedDone (claimed before).device.db)
    (outcomeOf ((updateConference env.watched settings).run.run
      (begun env.watched settings (claimed before))).1)
    (heeded ((updateConference env.watched settings).run.run
      (begun env.watched settings (claimed before))).2)
  exact ⟨⟨seed, beginning, requests, hearings, wrapUp⟩, ⟨seedFits, begins, asked, heard, wrapsUp⟩,
    ⟨seedAlong.grows, seedAlong.leaves.of_start rfl rfl⟩, beginningAlong, requestsAlong,
    hearingsAlong, wrapUpAlong.grows, wrapUpAlong.leaves.of_finish rfl rfl⟩

/-! ## What is published -/

/-- The phases that calls publish. -/
def phases (calls : List Call) : List Phase := calls.filterMap Call.phase?

/-- Whether the account does not accept the user when it is asked first. -/
def refusedAtFirst (calls : List Call) : Bool :=
  match calls.findSome? Call.userAnswer? with
  | some (.error e) => e.isUnauthorized
  | _ => false

theorem phases_append (calls rest : List Call) :
    phases (calls ++ rest) = phases calls ++ phases rest := List.filterMap_append

theorem phases_eq_nil {calls : List Call} (silent : ∀ call ∈ calls, call.phase? = none) :
    phases calls = [] := List.filterMap_eq_nil_iff.2 silent

theorem phases_userExchange {calls : List Call} {outcome : StepOutcome}
    (exchanged : UserExchange calls outcome) :
    phases calls = if refusedAtFirst calls then [.authRecovery, .syncing] else [] := by
  cases exchanged with
  | done => rfl
  | failed other => exact (if_neg (ne_true_of_eq_false other)).symm
  | refused unauthorized => exact (if_pos unauthorized).symm
  | again unauthorized answer => exact (if_pos unauthorized).symm

theorem phases_wrapUp {settings : Settings} {report : Report} {calls : List Call}
    (wrapsUp : WrapUp settings report calls) :
    phases calls = (if refusedAtFirst calls then [.authRecovery, .syncing] else []) ++ [.idle] := by
  obtain @⟨success, account, answer, time, noted, exchanged, -, -⟩ := wrapsUp
  have quiet : phases success = [] ∧ success.findSome? Call.userAnswer? = none := by
    split at noted
    · obtain ⟨time, rfl⟩ := noted
      exact ⟨rfl, rfl⟩
    · obtain rfl := noted
      exact ⟨rfl, rfl⟩
  have last : refusedAtFirst (success ++ account ++
      [.noted (.feedbackSent answer), .timed time, .noted (.published .idle)]) =
        refusedAtFirst account := by
    rw [refusedAtFirst, List.findSome?_append, List.findSome?_append, quiet.2, Option.none_or,
      refusedAtFirst]
    cases account.findSome? Call.userAnswer? <;> rfl
  rw [last, phases_append, phases_append, quiet.1, phases_userExchange exchanged]
  rfl

namespace PassCourse

variable {c : PassCourse} {settings : Settings} {report : Report}

/-- The phases that a pass publishes. -/
theorem Fits.phases_eq (fits : c.Fits settings report) :
    phases c.whole.calls =
      (if report.bootstrapped then [.bootstrapping, .idle] else []) ++ [.syncing] ++
        (if refusedAtFirst c.wrapUp.calls then [.authRecovery, .syncing] else []) ++ [.idle] := by
  have seed : phases c.seed.calls =
      if report.bootstrapped then [.bootstrapping, .idle] else [] := by
    have fit := fits.seed
    cases reported : report.bootstrapped with
    | true =>
      rw [if_pos reported] at fit
      obtain ⟨hearings, all, shaped⟩ := fit
      have silent := phases_eq_nil fun call listed => (all call listed).phase?_eq_none
      rw [shaped, phases_append]
      exact congrArg (.bootstrapping :: · ++ [.idle]) silent
    | false =>
      rw [if_neg (by simp [reported])] at fit
      rw [fit]
      rfl
  obtain ⟨time, begins⟩ := fits.beginning
  have requests : phases c.requests.calls = [] :=
    phases_eq_nil (List.forall_mem_map.2 fun m listed => (fits.requests m listed).phase?_eq_none)
  have hearings : phases c.hearings.calls = [] :=
    phases_eq_nil (List.forall_mem_map.2 fun m listed => (fits.hearings m listed).phase?_eq_none)
  rw [whole]
  simp only [Course.calls_append, phases_append]
  rw [seed, begins, requests, hearings, phases_wrapUp fits.wrapUp, List.append_nil, List.append_nil,
    ← List.append_assoc]
  rfl

/-- How long to wait follows from the time at which the clock was read last. -/
theorem Fits.exists_time (fits : c.Fits settings report) :
    ∃ time, (c.whole.calls.filterMap Call.time?).getLast? = some time ∧
      report.nextDelay = settings.policy.nextDelay time report.consecutiveFailures := by
  have wrapsUp := fits.wrapUp
  rw [whole, Course.calls_append]
  generalize c.wrapUp.calls = calls at wrapsUp
  obtain @⟨success, account, answer, time, -, -, -, delay⟩ := wrapsUp
  refine ⟨time, ?_, delay⟩
  rw [List.filterMap_append, List.filterMap_append, ← List.append_assoc]
  exact List.getLast?_concat

/-- Along a pass, the program changes the phase only to publish it. -/
theorem Leads.leavesAlone {env : Environment σ} {before after : World (σ × Course)}
    (leads : c.Leads env settings before after) :
    LeavesAlone (fun _ => ()) before.device c.whole after.device := by
  have whole := (((leads.seed.leaves.map fun _ => ()).trans
    (leads.beginning.leaves.map fun _ => ())).trans (leads.requests.leaves.map fun _ => ())).trans
      (leads.hearings.leaves.map fun _ => ())
  exact whole.trans ((leads.wrapUp.leaves.map fun _ => ()).of_start rfl rfl)

theorem Leads.grows {env : Environment σ} {before after : World (σ × Course)}
    (leads : c.Leads env settings before after) : after.course = before.course ++ c.whole := by
  have grown : (heeded ((updateConference env.watched settings).run.run
      (begun env.watched settings (claimed before))).2).course = _ := leads.hearings.grows
  rw [leads.wrapUp.grows, grown, leads.requests.grows, leads.beginning.grows, leads.seed.grows]
  simp only [whole, List.append_assoc]

end PassCourse

/-- A pass that is made has a course beside which it is the same. -/
theorem exists_course_of_sync {env : Environment σ} {settings : Settings} {trigger : Trigger}
    {before after : World σ} {report : Report}
    (made : (sync env settings trigger).run.run before = (.ok report, after)) :
    ∃ c : PassCourse, (sync env.watched settings trigger).run.run
        ⟨before.device, (before.outside, [])⟩ =
          (.ok report, ⟨after.device, (after.outside, c.whole)⟩) ∧ c.Fits settings report := by
  have mirrored := mirrors_sync env.mirrors_watched settings trigger
    ⟨before.device, (before.outside, [])⟩
  cases watched : (sync env.watched settings trigger).run.run
      ⟨before.device, (before.outside, [])⟩ with
  | mk result last =>
    rw [watched] at mirrored
    obtain ⟨rfl, rfl⟩ := Prod.mk.inj (made.symm.trans mirrored)
    obtain ⟨c, fits, leads⟩ := exists_passCourse watched
    have course : last.outside.2 = c.whole := leads.grows
    exact ⟨c, by rw [← course]; rfl, fits⟩

/-- A pass is made whenever none is running, whether it is watched or not, and whatever the outside
answers, it takes its course: the phases follow one another as they should, the program itself
changes the phase only to publish it, all requests and all that is written of the data of the
conference lie between the begin of the pass and the first call for the attendee's data, and what is
reported of each step is what its calls have answered. -/
theorem every_pass_runs_its_course (env : Environment σ) (settings : Settings) (trigger : Trigger)
    (before : World (σ × Course)) (idle : before.device.running = false) :
    ∃ report after c,
      (sync env.watched settings trigger).run.run before = (.ok report, after) ∧
      (sync env settings trigger).run.run before.forget = (.ok report, after.forget) ∧
      after.course = before.course ++ PassCourse.whole c ∧ c.Fits settings report ∧
      c.Leads env settings before after ∧
      LeavesAlone (fun _ => ()) before.device c.whole after.device ∧
      report.bootstrapped = !seedDone before.device.db ∧
      phases c.whole.calls =
        (if seedDone before.device.db then [] else [.bootstrapping, .idle]) ++ [.syncing] ++
          (if refusedAtFirst c.wrapUp.calls then [.authRecovery, .syncing] else []) ++ [.idle] ∧
      report.conference = ((conferenceStep env.watched settings).run
        (begun env.watched settings (claimed before))).1 := by
  have made := run_sync_of_idle env.watched settings trigger idle
  obtain ⟨c, fits, leads⟩ := exists_passCourse made
  have bootstrapped := bootstrapped_of_sync made
  have published := fits.phases_eq
  rw [bootstrapped] at published
  have unwatched := mirrors_sync env.mirrors_watched settings trigger before
  rw [made] at unwatched
  refine ⟨_, _, c, made, unwatched, leads.grows, fits, leads, leads.leavesAlone, bootstrapped, ?_,
    ?_⟩
  · rw [published]
    cases seedDone before.device.db <;> rfl
  · rw [conference_of_sync made, run_conferenceStep]
    rfl

/-- A server with an account that does not accept the user. -/
def refusingServing : Environment Unit :=
  { indexedServing (roomPages "\x7b\"rooms\":[]\x7d") with
    syncUser := throw (.unauthorized "expired") }

/-- On a new device, with an account that does not accept the user even with a new access token, all
phases are published. -/
theorem every_pass_runs_its_course_refused :
    let start : World (Unit × Course) := ⟨.start .initial .inMemory, ((), [])⟩
    ∃ report after c,
      (sync refusingServing.watched plainSettings .manual).run.run start = (.ok report, after) ∧
        PassCourse.Fits plainSettings report c ∧
        phases c.whole.calls = [.bootstrapping, .idle, .syncing, .authRecovery, .syncing, .idle] ∧
        report.userData = .skipped (.unauthorized "expired") := by
  intro start
  obtain ⟨report, after, c, made, -, grows, fits, -⟩ :=
    every_pass_runs_its_course refusingServing plainSettings .manual start rfl
  have outcome : ((sync refusingServing.watched plainSettings .manual).run.run start).1.toOption.map
      (·.userData) = some (.skipped (.unauthorized "expired")) := by decide +kernel
  have published : phases
      ((sync refusingServing.watched plainSettings .manual).run.run start).2.course.calls =
        [.bootstrapping, .idle, .syncing, .authRecovery, .syncing, .idle] := by decide +kernel
  rw [made] at outcome published
  rw [grows] at published
  exact ⟨report, after, c, made, fits, published, Option.some.inj outcome⟩

end Sync

end ConferenceSync
