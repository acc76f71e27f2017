import ConferenceSync.Proofs.PassCourse
import ConferenceSync.Proofs.Recovery

/-!
# Requests to cancel

A request to cancel may come at any moment. A pass looks for one just before it writes the data of
the conference, and forgets it once these have been dealt with. So a request is heeded if it has
come before the last answer of the server, and stays for the next pass if it comes once the data of
the conference have been dealt with; but one that comes while they are written and observers hear
of them is lost.

## Main definitions

* `Moment.requests` — that a request comes at a moment
* `Attempt.NeverCancels` — that an attempt never ends as cancelled
* `Sync.Heeds` — that an outcome is that of an attempt that finds a request, or none
* `Sync.PassCourse.pending` — that a request has come by the time a pass looks for one

## Main results

* `cancelRequested_along` — a request that has come stays while the program leaves it alone
* `Sync.heeds_answered` — a pass heeds a request that it finds once the server has answered
* `Sync.cancelled_le_requests` — a request does not cancel two passes
* `Sync.requests_before_the_batch_are_heeded` — what becomes of requests
* `Sync.not_every_request_is_heeded` — what becomes of one that comes at the wrong moment
* `Sync.restart_forgets_request` — that none outlasts the program
-/

namespace ConferenceSync

variable {σ : Type}

/-! ## Requests along a course -/

/-- Whether a request to cancel comes at a moment at which there has been none. -/
def Moment.requests (moment : Moment) : Bool :=
  !moment.before.cancelRequested && moment.after.cancelRequested

/-- Along a course on which requests are left alone, and on which the outside takes none back, there
is a request in the end if there was one at the start or one has come. -/
theorem cancelRequested_along {start finish : Device} {course : Course}
    (leaves : LeavesAlone Device.cancelRequested start course finish)
    (patient : ∀ moment ∈ course, moment.before.cancelRequested = true →
      moment.after.cancelRequested = true) :
    finish.cancelRequested = (start.cancelRequested || course.any Moment.requests) := by
  induction course generalizing start with
  | nil => rw [leaves.1, List.any_nil, Bool.or_false]
  | cons moment rest ih =>
    have first := patient moment List.mem_cons_self
    have same : moment.before.cancelRequested = start.cancelRequested := leaves.1.1
    rw [ih leaves.2 fun m listed => patient m (List.mem_cons_of_mem _ listed), List.any_cons,
      Moment.requests, ← same]
    cases before : moment.before.cancelRequested with
    | true => simp [first before]
    | false => simp

theorem toNat_or_le (a b : Bool) : (a || b).toNat ≤ a.toNat + b.toNat := by
  cases a <;> simp

theorem toNat_any_le_countP {α : Type} (p : α → Bool) (l : List α) :
    (l.any p).toNat ≤ l.countP p := by
  cases found : l.any p with
  | false => exact Nat.zero_le _
  | true =>
    obtain ⟨a, there, holds⟩ := List.any_eq_true.1 found
    exact List.countP_pos_iff.2 ⟨a, there, holds⟩

/-! ## What is never cancelled -/

namespace Attempt

variable {α β : Type} {attempt : Attempt σ α}

/-- Whether an attempt never ends as cancelled. -/
def NeverCancels (attempt : Attempt σ α) : Prop :=
  ∀ w, (attempt.run.run w).1 ≠ .error .cancelled

theorem NeverCancels.bind {next : α → Attempt σ β} (first : attempt.NeverCancels)
    (others : ∀ a, (next a).NeverCancels) : (attempt >>= next).NeverCancels := by
  intro w
  have never := first w
  cases made : attempt.run.run w with
  | mk result after =>
    rw [made] at never
    cases result with
    | error e =>
      rw [run_bind_of_error made]
      simpa using never
    | ok a =>
      rw [run_bind_of_ok made]
      exact others a after

theorem neverCancels_pure (a : α) : NeverCancels (pure a : Attempt σ α) :=
  fun _ failed => by cases failed

theorem neverCancels_lift (action : Action σ α) :
    NeverCancels (ExceptT.lift action : Attempt σ α) :=
  fun _ failed => by cases failed

theorem neverCancels_throw {e : SyncError} (other : e ≠ .cancelled) :
    NeverCancels (throw e : Attempt σ α) :=
  fun _ failed => other (Except.error.inj failed)

theorem neverCancels_liftExcept {result : Except SyncError α} (other : result ≠ .error .cancelled) :
    NeverCancels (liftM result : Attempt σ α) := fun _ => other

end Attempt

namespace Database

theorem ofStorage_ne_cancelled (task : String) (cause : StorageCause) :
    SyncError.ofStorage task cause ≠ .cancelled := by
  rw [SyncError.ofStorage]
  split <;> simp

theorem attempt_ne_cancelled {α : Type} (task : String) (result : Except StorageCause α) :
    attempt task result ≠ .error .cancelled := by
  cases result with
  | ok a => simp [attempt]
  | error cause => simpa [attempt] using ofStorage_ne_cancelled task cause

theorem apply_ne_cancelled (db : Database) (m : Mutation) : db.apply m ≠ .error .cancelled := by
  cases m with
  | update row =>
    show db.updateRow row ≠ _
    rw [updateRow]
    split
    · simpa using ofStorage_ne_cancelled _ _
    · split
      · simp
      · simpa using ofStorage_ne_cancelled _ _
  | _ => exact attempt_ne_cancelled _ _

theorem applyAll_ne_cancelled (db : Database) (batch : Batch) :
    db.applyAll batch ≠ .error .cancelled := by
  induction batch generalizing db with
  | nil => simp [applyAll]
  | cons m rest ih =>
    rw [applyAll]
    cases made : db.apply m with
    | ok db => exact ih db
    | error e =>
      have other := db.apply_ne_cancelled m
      rwa [made] at other

theorem commit_ne_cancelled (db : Database) (batch : Batch) :
    db.commit batch ≠ .error .cancelled := by
  rw [commit]
  split
  · simp
  · split
    · simpa using ofStorage_ne_cancelled _ _
    · exact db.applyAll_ne_cancelled batch

end Database

namespace Fetch

open Attempt (neverCancels_pure neverCancels_lift neverCancels_throw neverCancels_liftExcept)

theorem manifestOf_ne_cancelled (expectedFormat url : String) (response : Response) :
    manifestOf expectedFormat url response ≠ .error .cancelled := by
  rw [manifestOf]
  split
  · simp
  · split
    · simp
    · split <;> simp

theorem fileOf_ne_cancelled (url : String) (response : Response) :
    fileOf url response ≠ .error .cancelled := by
  rw [fileOf]
  split
  · simp
  · split
    · simp
    · split <;> simp

variable {env : Environment σ} (server : ∀ url since?, (env.get url since?).NeverCancels)

include server

theorem neverCancels_fetchFile (url : String) : (fetchFile env url).NeverCancels := by
  refine (neverCancels_lift _).bind fun text? => ?_
  cases text? with
  | some body => exact neverCancels_pure _
  | none =>
    exact (server url none).bind fun response =>
      (neverCancels_liftExcept (fileOf_ne_cancelled url response)).bind fun _ =>
        (neverCancels_lift _).bind fun _ => neverCancels_pure _

theorem neverCancels_fetchFiles (urls : List String) : (fetchFiles env urls).NeverCancels := by
  induction urls with
  | nil => exact neverCancels_pure _
  | cons url rest ih =>
    exact (neverCancels_fetchFile server url).bind fun _ => ih.bind fun _ => neverCancels_pure _

/-- A cycle of the download is not cancelled unless the server says so. -/
theorem neverCancels_fetchIfNewer (settings : Settings) (reference? : Option String) :
    (fetchIfNewer env settings reference?).NeverCancels := by
  refine (server _ _).bind fun response => ?_
  split
  · exact neverCancels_pure _
  · split
    · exact neverCancels_throw (by simp)
    · exact (neverCancels_liftExcept (manifestOf_ne_cancelled _ _ response)).bind fun _ =>
        (neverCancels_fetchFiles server _).bind fun _ => (neverCancels_lift _).bind fun _ =>
          neverCancels_pure _

end Fetch

namespace Sync

variable {env : Environment σ} (server : ∀ url since?, (env.get url since?).NeverCancels)
  {settings : Settings}

theorem outcomeOf_error {e : SyncError} (other : e ≠ .cancelled) :
    outcomeOf (.error e) = .failed e := by
  cases e with
  | cancelled => exact absurd rfl other
  | _ => rfl

/-- Whether an outcome is that of an attempt that finds a request or none: it is cancelled only if
there is one, and an update only if there is none. -/
def Heeds (requested : Bool) (outcome : ConferenceOutcome) : Prop :=
  (outcome = .cancelled → requested = true) ∧
    ∀ applied stats, outcome = .updated applied stats → requested = false

theorem heeds_failed (requested : Bool) (e : SyncError) : Heeds requested (.failed e) := by
  simp [Heeds]

/-- An error that is no cancellation has nothing to do with requests. -/
theorem heeds_of_error (requested : Bool) {e : SyncError} (other : e ≠ .cancelled) :
    Heeds requested (outcomeOf (.error e)) := by
  rw [outcomeOf_error other]
  exact heeds_failed requested e

theorem dataOf_ne_cancelled {files : List Fetch.DataFile} {e : SyncError}
    (failed : dataOf files = .error e) : e ≠ .cancelled := by
  rintro rfl
  rcases dataOf_cases files with ⟨-, read⟩ | ⟨file, -, fault, -, bad⟩
  · cases failed.symm.trans read
  · cases failed.symm.trans bad

theorem lastDataTimestamp?_ne_cancelled {db : Database} {e : SyncError}
    (failed : Metadata.lastDataTimestamp? db = .error e) : e ≠ .cancelled := by
  rintro rfl
  have never := Database.attempt_ne_cancelled ("read metadata " ++ Metadata.dataTimestampKey)
    (db.metadataRows.map (·.get? Metadata.dataTimestampKey))
  rw [Metadata.lastDataTimestamp?] at failed
  cases read : Metadata.get? db Metadata.dataTimestampKey with
  | ok text? =>
    rw [read] at failed
    cases failed
  | error cause =>
    rw [read] at failed
    exact never (read.trans failed)

theorem dated_ne_cancelled {timestamp? : Option String} {db : Database} {e : SyncError}
    (failed : dated timestamp? db = .error e) : e ≠ .cancelled := by
  rintro rfl
  cases timestamp? with
  | none => cases failed
  | some timestamp => exact Database.attempt_ne_cancelled _ _ failed

/-- A request is looked for when the files have been read, and before they are written. -/
theorem heeds_importFetched (fetched : Fetch.Fetched) (w : World σ) :
    Heeds w.device.cancelRequested
      (outcomeOf ((importFetched env settings fetched).run.run w).1) := by
  rw [run_importFetched]
  cases read : dataOf fetched.files with
  | error e => exact heeds_of_error _ (dataOf_ne_cancelled read)
  | ok data =>
    dsimp only
    generalize data.planFor settings.rules .incremental w.device.db = plan
    cases requested : w.device.cancelRequested with
    | true => simp [Heeds, outcomeOf]
    | false =>
      rw [if_neg Bool.false_ne_true]
      cases made : w.device.db.commit plan.batch with
      | error e =>
        exact heeds_of_error _ fun same => w.device.db.commit_ne_cancelled plan.batch (same ▸ made)
      | ok db =>
        dsimp only
        cases kept : dated fetched.timestamp? (announced env w plan.batch db).device.db with
        | error e => exact heeds_of_error _ (dated_ne_cancelled kept)
        | ok last => simp [Heeds, outcomeOf]

include server in
/-- A pass is cancelled only if it finds a request once the server has answered, and updates the
data of the conference only if it finds none. -/
theorem heeds_answered (settings : Settings) (w : World σ) :
    Heeds (answered env settings w).device.cancelRequested
      (outcomeOf ((updateConference env settings).run.run w).1) := by
  rw [run_updateConference, answered]
  cases read : Metadata.lastDataTimestamp? w.device.db with
  | error e => exact heeds_of_error _ (lastDataTimestamp?_ne_cancelled read)
  | ok reference? =>
    have never := Fetch.neverCancels_fetchIfNewer server settings.fetch reference? w
    dsimp only
    cases cycle : (Fetch.fetchIfNewer env settings.fetch reference?).run.run w with
    | mk result next =>
      rw [cycle] at never
      cases result with
      | error e => exact heeds_of_error _ fun same => never (same ▸ rfl)
      | ok fetched? =>
        cases fetched? with
        | none => simp [Heeds, outcomeOf]
        | some fetched => exact heeds_importFetched fetched next

/-! ## What becomes of requests -/

/-- Whether a request has come by the time a pass that starts in a world looks for one. -/
def PassCourse.pending (c : PassCourse) (before : World (σ × Course)) : Bool :=
  before.device.cancelRequested || (c.seed ++ c.beginning ++ c.requests).any Moment.requests

theorem PassCourse.toNat_pending_le (c : PassCourse) (before : World (σ × Course)) :
    (c.pending before).toNat ≤ before.device.cancelRequested.toNat +
      (c.seed ++ c.beginning ++ c.requests).countP Moment.requests := by
  have come := toNat_any_le_countP Moment.requests (c.seed ++ c.beginning ++ c.requests)
  exact Nat.le_trans (toNat_or_le ..) (by omega)

/-- Whether a turn is a request to cancel. -/
def Turn.isCancel : Turn → Bool
  | cancel => true
  | _ => false

section Patient

variable {trigger : Trigger} {report : Report}
  (patient : env.Preserves fun w => w.device.cancelRequested = true)
  (observers : env.ObserversPreserve fun w => w.device.cancelRequested = true)

include patient observers

/-- In no turn the outside takes a request back. -/
theorem steady_take (base : Course) (turn : Turn) :
    (turn.take env.watched).Preserves (Steady (·.cancelRequested = true) base) := by
  have others := Environment.Preserves.steady (Q := (·.cancelRequested = true)) patient base
  have hearing := Environment.ObserversPreserve.steady (Q := (·.cancelRequested = true)) observers
    base
  have aside := outlasts_aside (σ := σ × Course) fun _ outside => ∃ own, outside.2 = base ++ own ∧
    ∀ moment ∈ own, moment.before.cancelRequested = true → moment.after.cancelRequested = true
  refine preserves_take aside others.toOthersPreserve hearing (fun settings reference? => ?_)
    (fun _ held => held) (fun _ held => held) turn
  exact Fetch.preserves_fetchIfNewer others.get (fun _ _ held => held) settings reference?

theorem patient_of_sync {before after : World (σ × Course)} {c : PassCourse}
    (made : (sync env.watched settings trigger).run.run before = (.ok report, after))
    (leads : c.Leads env settings before after) : ∀ moment ∈ c.whole,
      moment.before.cancelRequested = true → moment.after.cancelRequested = true := by
  have taken := steady_take patient observers before.course (.pass settings trigger) before
    ⟨[], (List.append_nil _).symm, by simp⟩
  rw [run_take_pass, made] at taken
  obtain ⟨own, grown, steady⟩ := taken
  obtain rfl := List.append_cancel_left (leads.grows.symm.trans grown)
  exact steady

/-- A pass finds a request if one is pending, and in the end there is one if one has come after the
data of the conference. -/
theorem cancelRequested_of_sync {before after : World (σ × Course)} {c : PassCourse}
    (made : (sync env.watched settings trigger).run.run before = (.ok report, after))
    (leads : c.Leads env settings before after) :
    (answered env.watched settings
        (begun env.watched settings (claimed before))).device.cancelRequested = c.pending before ∧
      after.device.cancelRequested = c.wrapUp.any Moment.requests := by
  have steady := patient_of_sync patient observers made leads
  constructor
  · exact cancelRequested_along ((leads.seed.leaves.trans (leads.beginning.leaves.map (·.2))).trans
      (leads.requests.leaves.map (·.2))) fun moment listed =>
        steady moment (by simp only [PassCourse.whole, List.mem_append] at listed ⊢; tauto)
  · exact (cancelRequested_along (leads.wrapUp.leaves.map (·.2)) fun moment listed =>
      steady moment (List.mem_append_right _ listed)).trans (Bool.false_or _)

include server in
/-- A pass that is cancelled uses up a request that was pending or has come, and so does one that is
pending in the end. -/
theorem requests_of_sync {before after : World (σ × Course)}
    (made : (sync env.watched settings trigger).run.run before = (.ok report, after)) :
    ∃ c : PassCourse, c.Fits settings report ∧ c.Leads env settings before after ∧
      Heeds (c.pending before) report.conference ∧
      after.device.cancelRequested = c.wrapUp.any Moment.requests := by
  obtain ⟨c, fits, leads⟩ := exists_passCourse made
  obtain ⟨found, last⟩ := cancelRequested_of_sync patient observers made leads
  have watched (url : String) (since? : Option String) :
      (env.watched.get url since?).NeverCancels := fun w => server url since? w.forget
  have heeds := heeds_answered watched settings (begun env.watched settings (claimed before))
  rw [found, ← conference_of_sync made] at heeds
  exact ⟨c, fits, leads, heeds, last⟩

include server in
/-- Passes that are cancelled and a request that is pending are never more than requests that have
come. -/
theorem cancelled_le_requests (turns : List Turn) (start : World (σ × Course)) :
    ∃ own, (afterTurns env.watched turns start).course = start.course ++ own ∧
      (reportsAfter env.watched turns start).countP (·.conference = .cancelled) +
          (afterTurns env.watched turns start).device.cancelRequested.toNat ≤
        start.device.cancelRequested.toNat + turns.countP Turn.isCancel +
          own.countP Moment.requests := by
  refine holds_after_turns (P := fun past reports w =>
    ∃ own, w.course = start.course ++ own ∧
      reports.countP (·.conference = .cancelled) + w.device.cancelRequested.toNat ≤
        start.device.cancelRequested.toNat + past.countP Turn.isCancel +
          own.countP Moment.requests) ?_ turns ⟨[], (List.append_nil _).symm, by simp⟩
  rintro past reports turn w ⟨own, grown, few⟩
  rcases take_cases env.watched turn w with
    ⟨settings, trigger, report, after, rfl, made, taken⟩ | taken | ⟨rfl, taken⟩ | ⟨rfl, taken⟩ |
      ⟨rfl, taken⟩ <;>
    rw [taken]
  · obtain ⟨c, -, leads, heeds, last⟩ := requests_of_sync server patient observers made
    refine ⟨own ++ c.whole, by rw [leads.grows, grown, List.append_assoc], ?_⟩
    have used : [report].countP (·.conference = .cancelled) ≤ (c.pending w).toNat := by
      by_cases cancelled : report.conference = .cancelled
      · simp [cancelled, heeds.1 cancelled]
      · simp [cancelled]
    have came := c.toNat_pending_le w
    have stays := toNat_any_le_countP Moment.requests c.wrapUp
    rw [last, Option.toList_some]
    simp only [PassCourse.whole, List.countP_append] at used came stays few ⊢
    omega
  · refine ⟨own, grown, ?_⟩
    simp only [Option.toList_none, List.append_nil, List.countP_append]
    omega
  · refine ⟨own, grown, ?_⟩
    have requested :
        ((Action.requestCancel (σ := σ × Course)).run w).2.device.cancelRequested.toNat = 1 := rfl
    have turned : [Turn.cancel].countP Turn.isCancel = 1 := rfl
    simp only [requested, turned, Option.toList_none, List.append_nil, List.countP_append]
    omega
  · have enters : (Action.enter env.watched .idle).Follows Device.cancelRequested _ :=
      Action.follows_enter (fun _ _ => rfl) env .idle
    obtain ⟨course, along, -⟩ := enters w
    have looked := steady_take patient observers w.course .look w
      ⟨[], (List.append_nil _).symm, by simp⟩
    rw [taken] at looked
    obtain ⟨more, grown', steady⟩ := looked
    obtain rfl := List.append_cancel_left (along.grows.symm.trans grown')
    refine ⟨own ++ course, by rw [along.grows, grown, List.append_assoc], ?_⟩
    have came := toNat_any_le_countP Moment.requests course
    have last := toNat_or_le w.device.cancelRequested (course.any Moment.requests)
    rw [← cancelRequested_along along.leaves steady] at last
    simp only [Option.toList_none, List.append_nil, List.countP_append]
    omega
  · refine ⟨own, grown, ?_⟩
    have forgotten : w.device.restart.cancelRequested.toNat = 0 := rfl
    simp only [forgotten, Option.toList_none, List.append_nil, List.countP_append]
    omega

end Patient

/-- Whatever happens on a device whose outside takes no request back, watched or not: passes are
never cancelled more often than requests have come. A pass that finds a request, because one was
pending when it started or one has come before the last answer of the server, does not update the
data of the conference, and no other pass is cancelled. Of the requests that come later, those are
pending when the pass is over that have come once the data of the conference have been dealt with;
those that come while observers hear of them count for nothing. -/
theorem requests_before_the_batch_are_heeded (env : Environment σ)
    (server : ∀ url since?, (env.get url since?).NeverCancels)
    (patient : env.Preserves fun w => w.device.cancelRequested = true)
    (observers : env.ObserversPreserve fun w => w.device.cancelRequested = true)
    (turns : List Turn) (start before : World (σ × Course))
    (reached : afterTurns env.watched turns start = before) :
    afterTurns env turns start.forget = before.forget ∧
      (∃ own, before.course = start.course ++ own ∧
        (reportsAfter env turns start.forget).countP (·.conference = .cancelled) +
            before.device.cancelRequested.toNat ≤
          start.device.cancelRequested.toNat + turns.countP Turn.isCancel +
            own.countP Moment.requests) ∧
      ∀ settings trigger report after,
        (sync env.watched settings trigger).run.run before = (.ok report, after) →
        (sync env settings trigger).run.run before.forget = (.ok report, after.forget) ∧
        ∃ c : PassCourse, c.Fits settings report ∧ c.Leads env settings before after ∧
          (c.pending before = true → ∀ applied stats, report.conference ≠ .updated applied stats) ∧
          (report.conference = .cancelled → c.pending before = true) ∧
          after.device.cancelRequested = c.wrapUp.any Moment.requests := by
  subst reached
  have counted := cancelled_le_requests server patient observers turns start
  rw [← reportsAfter_mirrors env.mirrors_watched] at counted
  refine ⟨afterTurns_mirrors env.mirrors_watched turns start, counted, ?_⟩
  intro settings trigger report after made
  have unwatched := mirrors_sync env.mirrors_watched settings trigger
    (afterTurns env.watched turns start)
  rw [made] at unwatched
  refine ⟨unwatched, ?_⟩
  obtain ⟨c, fits, leads, heeds, last⟩ := requests_of_sync server patient observers made
  refine ⟨c, fits, leads, fun found applied stats updated => ?_, heeds.1, last⟩
  rw [heeds.2 applied stats updated] at found
  cases found

/-! ## Two passes -/

/-- A server with two manifests, each of which names a file. -/
def twoDataSets : List (String × String) :=
  roomPages "\x7b\"rooms\":[\x7b\"id\":\"r1\"\x7d]\x7d" ++
    [("https://conf.example/later.json",
        "\x7b\"format\":\"iosched-json-v1\",\"data_files\":[\"more.json\"]\x7d"),
      ("https://conf.example/more.json", "\x7b\"rooms\":[\x7b\"id\":\"r2\"\x7d]\x7d")]

/-- Settings for the later manifest. -/
def moreSettings : Settings :=
  { plainSettings with fetch := .standard "https://conf.example/later.json" }

theorem neverCancels_serving (pages : List (String × String)) (url : String)
    (since? : Option String) : ((indexedServing pages).get url since?).NeverCancels :=
  Attempt.neverCancels_pure _

/-- A request that comes before a pass is heeded by it. -/
theorem requests_before_the_batch_are_heeded_between_passes :
    let start : World (Unit × Course) := ⟨.start .initial .inMemory, ((), [])⟩
    let before := afterTurns (indexedServing twoDataSets).watched [.cancel] start
    ∃ report after,
      (sync (indexedServing twoDataSets).watched plainSettings .manual).run.run before =
          (.ok report, after) ∧
        ∀ applied stats, report.conference ≠ .updated applied stats := by
  intro start before
  obtain ⟨-, -, heeded⟩ := requests_before_the_batch_are_heeded (indexedServing twoDataSets)
    (neverCancels_serving _) ((keeps_indexedServing _ Device.cancelRequested).preserves (· = true))
    ((observersKeep_indexedServing _ fun _ _ _ _ => rfl).preserves (· = true)) [.cancel] start
    before rfl
  have made := run_sync_of_idle (indexedServing twoDataSets).watched plainSettings .manual
    (w := before) rfl
  obtain ⟨-, c, -, -, found, -⟩ := heeded plainSettings .manual _ _ made
  exact ⟨_, _, made, found (Bool.true_or _)⟩

/-- The server with an observer that requests to cancel whenever it hears of something. -/
def hastyServing : Environment Unit :=
  { Fetch.serving twoDataSets with
    observers := [⟨fun _ => Action.requestCancel, fun _ => Action.requestCancel⟩] }

theorem preserves_hastyServing :
    hastyServing.Preserves fun w => w.device.cancelRequested = true :=
  ⟨⟨fun _ held => held, fun _ held => held, fun _ held => held, fun _ held => held,
    fun _ _ held => held⟩, fun _ _ _ held => held⟩

theorem observersPreserve_hastyServing :
    hastyServing.ObserversPreserve fun w => w.device.cancelRequested = true := by
  intro observer listed notice w _
  obtain rfl := List.mem_singleton.1 listed
  cases notice <;> rfl

/-- The number of mutations of a batch that has been written. -/
def ConferenceOutcome.mutations : ConferenceOutcome → Nat
  | updated applied _ => applied
  | unchanged | cancelled | failed _ => 0

/-- A pass on a new device, with an observer who requests to cancel. -/
def hastyPass : Report × World (Unit × Course) :=
  (pass hastyServing.watched plainSettings .manual).run
    (claimed ⟨.start .initial .inMemory, ((), [])⟩)

/-- The pass that follows, for the later manifest. -/
def secondHastyPass : Report × World (Unit × Course) :=
  (pass hastyServing.watched moreSettings .manual).run (claimed (released hastyPass.2))

/-- A request comes in the first pass, and both passes write their data. -/
theorem outcome_hastyPass :
    hastyPass.2.course.any Moment.requests = true ∧ hastyPass.1.conference.mutations ≠ 0 ∧
      secondHastyPass.1.conference.mutations ≠ 0 := by
  decide +kernel

theorem sync_hastyPass :
    (sync hastyServing.watched plainSettings .manual).run.run
        ⟨.start .initial .inMemory, ((), [])⟩ = (.ok hastyPass.1, released hastyPass.2) :=
  run_sync_of_idle hastyServing.watched plainSettings .manual rfl

theorem sync_secondHastyPass :
    (sync hastyServing.watched moreSettings .manual).run.run (released hastyPass.2) =
      (.ok secondHastyPass.1, released secondHastyPass.2) :=
  run_sync_of_idle hastyServing.watched moreSettings .manual rfl

/-- Not every request is heeded: if one comes while observers hear of the data of the conference,
neither the data of this pass nor those of the next are abandoned. -/
theorem not_every_request_is_heeded :
    ¬ ∀ env : Environment Unit, (∀ url since?, (env.get url since?).NeverCancels) →
      (env.Preserves fun w => w.device.cancelRequested = true) →
      (env.ObserversPreserve fun w => w.device.cancelRequested = true) →
      ∀ (settings next : Settings) (start between last : World (Unit × Course))
        (first second : Report) (c : PassCourse),
        (sync env.watched settings .manual).run.run start = (.ok first, between) →
        c.Fits settings first → c.Leads env settings start between →
        (∃ moment ∈ c.whole, moment.requests = true) →
        (sync env.watched next .manual).run.run between = (.ok second, last) →
        first.conference.mutations = 0 ∨ second.conference.mutations = 0 := by
  intro always
  obtain ⟨came, written, writtenLater⟩ := outcome_hastyPass
  obtain ⟨c, fits, leads⟩ := exists_passCourse sync_hastyPass
  have requested : ∃ moment ∈ c.whole, moment.requests = true := by
    rw [← course_released, leads.grows] at came
    exact List.any_eq_true.1 came
  rcases always hastyServing (fun _ _ => Attempt.neverCancels_pure _) preserves_hastyServing
      observersPreserve_hastyServing plainSettings moreSettings
      ⟨.start .initial .inMemory, ((), [])⟩ (released hastyPass.2) (released secondHastyPass.2)
      hastyPass.1 secondHastyPass.1 c sync_hastyPass fits leads requested
      sync_secondHastyPass with none | none
  · exact written none
  · exact writtenLater none

/-- A pass after a request and a new start of the program. -/
def restartedPass : Report × World (Unit × Course) :=
  (pass (indexedServing twoDataSets).watched plainSettings .manual).run
    (claimed (afterTurns (indexedServing twoDataSets).watched [.cancel, .restart]
      ⟨.start .initial .inMemory, ((), [])⟩))

/-- A request does not outlast the program: if it is started anew before the next pass, that pass
writes its data. -/
theorem restart_forgets_request :
    ∃ report after, (sync (indexedServing twoDataSets).watched plainSettings .manual).run.run
        (afterTurns (indexedServing twoDataSets).watched [.cancel, .restart]
          ⟨.start .initial .inMemory, ((), [])⟩) = (.ok report, after) ∧
      report.conference.mutations ≠ 0 := by
  have written : restartedPass.1.conference.mutations ≠ 0 := by decide +kernel
  exact ⟨restartedPass.1, released restartedPass.2,
    run_sync_of_idle (indexedServing twoDataSets).watched plainSettings .manual rfl, written⟩

end Sync

end ConferenceSync
