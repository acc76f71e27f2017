import ConferenceSync.Proofs.SyncRun

/-!
# Turns

What happens to a device in the course of time are passes, and between them requests to cancel,
looks at the phase, and starts of the program. What is said here about any number of turns follows
from what each of them preserves, and that from what its steps preserve.

## Main definitions

* `Sync.Turn`, `Sync.Turn.take` — what may happen to a device
* `Sync.afterTurns`, `Sync.reportsAfter` — the world after turns, one after another, and the reports
  of their passes
* `Sync.Outlasts`, `Sync.OutlastsWrites`, `Sync.Withstands` — that a property of worlds outlasts
  what a pass does to the device, or some of that
* `Sync.OutlastsPasses`, `Sync.OutlastsBatches` — the same if a batch is taken together with the
  notices of it
* `Sync.claimed`, `Sync.released` — the world in which a pass is running, and in which none is any
  more

## Main results

* `Sync.OutlastsPasses.preserves_begun`, `Sync.OutlastsPasses.preserves_pass`,
  `Sync.OutlastsPasses.preserves_take` — what a pass preserves until it turns to the data of the
  conference, and to its end, and what a turn preserves
* `Sync.preserves_afterTurns`, `Sync.holds_after_turns` — what turns preserve, one after another
* `Sync.run_sync_of_idle`, `Sync.eq_pass_of_sync` — a pass is made when none is running, and what is
  made is a pass
* `Sync.conference_of_sync`, `Sync.holds_after_sync`, `Sync.asks_of_sync` — what a pass that is made
  reports, what holds after it, and what it asks
-/

namespace ConferenceSync.Sync

variable {σ : Type}

/-- What may happen to a device: a pass is to be made, the next data set is to be abandoned, the
phase is looked at, or the program is started anew. -/
inductive Turn where
  | pass (settings : Settings) (trigger : Trigger)
  | cancel
  | look
  | restart

/-- Lets a turn happen. If it is a pass that is made, its report is given. -/
def Turn.take (env : Environment σ) : Turn → Action σ (Option Report)
  | pass settings trigger => do
    match ← (sync env settings trigger).run with
    | .ok report => return some report
    | .error _ => return none
  | cancel => do
    Action.requestCancel
    return none
  | look => do
    let _ ← restorePhase env
    return none
  | restart => do
    Action.change Device.restart
    return none

/-- The world after turns, one after another. -/
def afterTurns (env : Environment σ) (turns : List Turn) (w : World σ) : World σ :=
  turns.foldl (fun w turn => ((turn.take env).run w).2) w

/-- The reports of the passes that are made in turns, one after another. -/
def reportsAfter (env : Environment σ) : List Turn → World σ → List Report
  | [], _ => []
  | turn :: rest, w =>
    let (report?, after) := (turn.take env).run w
    report?.toList ++ reportsAfter env rest after

/-- What holds of the turns so far, the reports so far and the world holds after any turns, if each
turn keeps it so. -/
theorem holds_after_turns {env : Environment σ} {P : List Turn → List Report → World σ → Prop}
    (step : ∀ past reports turn w, P past reports w →
      P (past ++ [turn]) (reports ++ ((turn.take env).run w).1.toList) ((turn.take env).run w).2)
    (turns : List Turn) {w : World σ} (start : P [] [] w) :
    P turns (reportsAfter env turns w) (afterTurns env turns w) := by
  -- What has been gone through grows by one turn at each step.
  have goOn (past : List Turn) (reports : List Report) (w : World σ) (held : P past reports w) :
      P (past ++ turns) (reports ++ reportsAfter env turns w) (afterTurns env turns w) := by
    induction turns generalizing past reports w with
    | nil => simpa [reportsAfter, afterTurns] using held
    | cons turn rest ih =>
      have next := ih _ _ _ (step past reports turn w held)
      rw [List.append_assoc, List.append_assoc] at next
      exact next
  exact goOn [] [] w start

/-- The world after a turn that is a pass. -/
theorem run_take_pass (env : Environment σ) (settings : Settings) (trigger : Trigger)
    (w : World σ) :
    ((Turn.pass settings trigger).take env).run w =
      let (result, after) := (sync env settings trigger).run.run w
      (result.toOption, after) := by
  show (match (sync env settings trigger).run.run w with
    | (result, after) => (match result with
      | .ok report => (pure (some report) : Action σ (Option Report))
      | .error _ => pure none).run after) = _
  cases (sync env settings trigger).run.run w with
  | mk result after => cases result <;> rfl

/-- A pass that is refused changes nothing. -/
theorem eq_of_sync_eq_error {env : Environment σ} {settings : Settings} {trigger : Trigger}
    {w after : World σ} {e : SyncError}
    (refused : (sync env settings trigger).run.run w = (.error e, after)) : after = w := by
  rw [run_sync] at refused
  split at refused
  · exact (Prod.mk.inj refused).2.symm
  · cases refused

/-- What a turn can be: a pass that is made and gives its report, or something that gives none. -/
theorem take_cases (env : Environment σ) (turn : Turn) (w : World σ) :
    (∃ settings trigger report after, turn = .pass settings trigger ∧
        (sync env settings trigger).run.run w = (.ok report, after) ∧
        (turn.take env).run w = (some report, after)) ∨
      (turn.take env).run w = (none, w) ∨
      turn = .cancel ∧ (turn.take env).run w = (none, (Action.requestCancel.run w).2) ∨
      turn = .look ∧ (turn.take env).run w = (none, ((Action.enter env .idle).run w).2) ∨
      turn = .restart ∧
        (turn.take env).run w = (none, { w with device := w.device.restart }) := by
  cases turn with
  | pass settings trigger =>
    rw [run_take_pass]
    cases made : (sync env settings trigger).run.run w with
    | mk result after =>
      cases result with
      | ok report => exact .inl ⟨settings, trigger, report, after, rfl, made, rfl⟩
      | error e =>
        obtain rfl := eq_of_sync_eq_error made
        exact .inr (.inl rfl)
  | cancel => exact .inr (.inr (.inl ⟨rfl, rfl⟩))
  | look =>
    have looked : (Turn.look.take env).run w = (none, ((restorePhase env).run w).2) := rfl
    rw [run_restorePhase] at looked
    dsimp only at looked
    split at looked
    · exact .inr (.inr (.inr (.inl ⟨rfl, looked⟩)))
    · exact .inr (.inl looked)
  | restart => exact .inr (.inr (.inr (.inr ⟨rfl, rfl⟩)))

/-! ## What turns preserve -/

section Preserves

variable {env : Environment σ} {P : World σ → Prop}

theorem preserves_afterTurns (each : ∀ turn : Turn, (turn.take env).Preserves P)
    (turns : List Turn) {w : World σ} (held : P w) : P (afterTurns env turns w) := by
  induction turns generalizing w with
  | nil => exact held
  | cons turn rest ih => exact ih (each turn w held)

/-- Whether a property of worlds outlasts what the program itself does to the database in a pass,
and what it notes about where it stands. -/
structure Outlasts (P : World σ → Prop) : Prop where
  commit : ∀ w batch db, w.device.db.commit batch = .ok db → P w → P (w.setDb db)
  set : ∀ w key value db, Metadata.set w.device.db key value = .ok db → P w → P (w.setDb db)
  phase : ∀ w phase, P w → P { w with device := { w.device with phase } }
  running : ∀ w running, P w → P { w with device := { w.device with running } }
  cancel : ∀ w, P w → P { w with device := { w.device with cancelRequested := false } }

/-- Whether a property of worlds outlasts batches, and what is kept about the synchronization under
some keys. -/
structure OutlastsWrites (keys : String → Prop) (P : World σ → Prop) : Prop where
  commit : ∀ w batch db, w.device.db.commit batch = .ok db → P w → P (w.setDb db)
  set : ∀ w key value db, keys key → Metadata.set w.device.db key value = .ok db →
    P w → P (w.setDb db)

/-- Whether a property of worlds outlasts these, and does not depend on the phase. -/
structure Withstands (keys : String → Prop) (P : World σ → Prop) : Prop
    extends OutlastsWrites keys P where
  phase : ∀ w phase, P w → P { w with device := { w.device with phase } }

theorem Outlasts.ignoresProgress (outlasts : Outlasts P) : IgnoresProgress P where
  phase := outlasts.phase
  cancel := outlasts.cancel
  number w db key value _ written held := outlasts.set w key (toString value) db written held

theorem Outlasts.withstands (outlasts : Outlasts P) : Withstands (fun _ => True) P :=
  ⟨⟨outlasts.commit, fun w key value db _ => outlasts.set w key value db⟩, outlasts.phase⟩

/-- What is about the cache and the outside only outlasts a pass. -/
theorem outlasts_aside (Q : Cache → σ → Prop) :
    Outlasts fun w : World σ => Q w.device.cache w.outside :=
  ⟨fun _ _ _ _ held => held, fun _ _ _ _ _ held => held, fun _ _ held => held,
    fun _ _ held => held, fun _ held => held⟩

/-- Whether a property of worlds outlasts batches of the synchronization once their notices have
been given, and what is kept about the synchronization under some keys. Between a batch and its
notices it may fail to hold. -/
structure OutlastsBatches (env : Environment σ) (keys : String → Prop) (P : World σ → Prop) :
    Prop where
  batch : ∀ batch, (commitBatch env .sync batch).run.Preserves P
  set : ∀ w key value db, keys key → Metadata.set w.device.db key value = .ok db →
    P w → P (w.setDb db)

/-- Whether a property of worlds outlasts all that the program itself does in a pass, if batches are
taken together with their notices. -/
structure OutlastsPasses (env : Environment σ) (P : World σ → Prop) : Prop
    extends OutlastsBatches env (fun _ => True) P where
  phase : ∀ w phase, P w → P { w with device := { w.device with phase } }
  running : ∀ w running, P w → P { w with device := { w.device with running } }
  cancel : ∀ w, P w → P { w with device := { w.device with cancelRequested := false } }

theorem OutlastsWrites.batches {keys : String → Prop} (outlasts : OutlastsWrites keys P)
    (observers : env.ObserversPreserve P) : OutlastsBatches env keys P where
  batch _ := preserves_commitBatch observers _ fun w db held made =>
    outlasts.commit w _ db made held
  set := outlasts.set

theorem Outlasts.passes (outlasts : Outlasts P) (observers : env.ObserversPreserve P) :
    OutlastsPasses env P where
  toOutlastsBatches := outlasts.withstands.toOutlastsWrites.batches observers
  phase := outlasts.phase
  running := outlasts.running
  cancel := outlasts.cancel

theorem OutlastsPasses.ignoresNotes (outlasts : OutlastsPasses env P) :
    IgnoresNotes (fun _ => True) P where
  phase := outlasts.phase
  number w db key value noted written held :=
    outlasts.set w key (toString value) db noted written held

theorem OutlastsPasses.ignoresProgress (outlasts : OutlastsPasses env P) : IgnoresProgress P where
  phase := outlasts.phase
  cancel := outlasts.cancel
  number w db key value _ := outlasts.ignoresNotes.number w db key value trivial

namespace OutlastsBatches

variable {keys : String → Prop} (outlasts : OutlastsBatches env keys P)
  (date : keys Metadata.dataTimestampKey)

include outlasts date

theorem preserves_importSeed (settings : Settings) :
    (importSeed env settings).run.Preserves P := by
  unfold importSeed
  cases settings.seed? with
  | none => exact Action.preserves_pure _
  | some seed =>
    exact Attempt.preserves_bind (Attempt.preserves_liftExcept _) fun _ =>
      Attempt.preserves_bind (Attempt.preserves_liftExcept _) fun _ =>
        Attempt.preserves_bind (Attempt.preserves_lift (Action.preserves_read _)) fun _ =>
          Attempt.preserves_bind (outlasts.batch _) fun _ =>
            Attempt.preserves_write fun w db held written =>
              outlasts.set w _ _ db date written held

theorem preserves_importFetched (settings : Settings) (fetched : Fetch.Fetched) :
    (importFetched env settings fetched).run.Preserves P := by
  intro w held
  rw [run_importFetched]
  cases dataOf fetched.files with
  | error e => exact held
  | ok data =>
    dsimp only
    generalize data.planFor settings.rules .incremental w.device.db = plan
    split
    · exact held
    · cases made : w.device.db.commit plan.batch with
      | error e => exact held
      | ok db =>
        have told : P (announced env w plan.batch db) := by
          have batch := outlasts.batch plan.batch w held
          rwa [run_commitBatch_of_ok env .sync made] at batch
        dsimp only
        cases dated : dated fetched.timestamp? (announced env w plan.batch db).device.db with
        | error e => exact told
        | ok kept =>
          cases stamp : fetched.timestamp? with
          | none =>
            rw [stamp] at dated
            obtain rfl := Except.ok.inj dated
            exact told
          | some timestamp =>
            rw [stamp] at dated
            exact outlasts.set _ _ timestamp kept date dated told

/-- To bring the data of the conference up to date preserves what outlasts that, if a cycle of the
download does. -/
theorem preserves_updateConference {settings : Settings}
    (cycle : ∀ reference?, (Fetch.fetchIfNewer env settings.fetch reference?).run.Preserves P) :
    (updateConference env settings).run.Preserves P := by
  intro w held
  rw [run_updateConference]
  cases Metadata.lastDataTimestamp? w.device.db with
  | error e => exact held
  | ok reference? =>
    have fetched := cycle reference? w held
    dsimp only
    cases ran : (Fetch.fetchIfNewer env settings.fetch reference?).run.run w with
    | mk result next =>
      rw [ran] at fetched
      cases result with
      | error e => exact fetched
      | ok fetched? =>
        cases fetched? with
        | none => exact fetched
        | some files => exact outlasts.preserves_importFetched date settings files next fetched

/-- What a pass does before it begins preserves what outlasts it. -/
theorem preserves_seeded (ignores : IgnoresNotes keys P) (others : env.OthersPreserve P)
    (mark : keys Metadata.bootstrapKey) (settings : Settings) {w : World σ} (held : P w) :
    P (seeded env settings w) := by
  rw [seeded]
  split
  · exact held
  · have enter := ignores.preserves_enter others
    have imported := Attempt.preserves_ignored (outlasts.preserves_importSeed date settings)
    exact ((enter _).bind fun _ => imported.bind fun _ =>
      (Attempt.preserves_ignored (Attempt.preserves_write fun w db held written =>
        outlasts.set w _ _ db mark written held)).bind fun _ => enter _) w held

end OutlastsBatches

namespace OutlastsWrites

variable {keys : String → Prop} (outlasts : OutlastsWrites keys P)
  (observers : env.ObserversPreserve P) (date : keys Metadata.dataTimestampKey)

include outlasts observers date

theorem preserves_importSeed (settings : Settings) :
    (importSeed env settings).run.Preserves P :=
  (outlasts.batches observers).preserves_importSeed date settings

theorem preserves_importFetched (settings : Settings) (fetched : Fetch.Fetched) :
    (importFetched env settings fetched).run.Preserves P :=
  (outlasts.batches observers).preserves_importFetched date settings fetched

theorem preserves_updateConference {settings : Settings}
    (cycle : ∀ reference?, (Fetch.fetchIfNewer env settings.fetch reference?).run.Preserves P) :
    (updateConference env settings).run.Preserves P :=
  (outlasts.batches observers).preserves_updateConference date cycle

end OutlastsWrites

namespace Withstands

variable {keys : String → Prop} (withstands : Withstands keys P)

include withstands

theorem ignoresNotes : IgnoresNotes keys P where
  phase := withstands.phase
  number w db key value noted written held :=
    withstands.set w key (toString value) db noted written held

theorem preserves_seeded (observers : env.ObserversPreserve P)
    (date : keys Metadata.dataTimestampKey) (others : env.OthersPreserve P)
    (mark : keys Metadata.bootstrapKey) (settings : Settings) {w : World σ} (held : P w) :
    P (seeded env settings w) :=
  (withstands.toOutlastsWrites.batches observers).preserves_seeded date withstands.ignoresNotes
    others mark settings held

end Withstands

/-- To look at the phase preserves what does not depend on what a pass notes about itself. -/
theorem preserves_look (ignores : IgnoresProgress P) (others : env.OthersPreserve P) :
    (Turn.look.take env).Preserves P := by
  intro w held
  show P (((restorePhase env).run w).2)
  rw [run_restorePhase]
  dsimp only
  split
  · exact preserves_enter ignores others .idle w held
  · exact held

namespace OutlastsPasses

variable (outlasts : OutlastsPasses env P) (others : env.OthersPreserve P)

include outlasts others

/-- What outlasts a pass still holds when the pass turns to the data of the conference. -/
theorem preserves_begun (settings : Settings) {w : World σ} (held : P w) :
    P (begun env settings w) :=
  preserves_beginStep outlasts.ignoresProgress others _
    (outlasts.preserves_seeded trivial outlasts.ignoresNotes others trivial settings held)

/-- A pass preserves what outlasts it, if its cycle of the download does. -/
theorem preserves_pass {settings : Settings}
    (cycle : ∀ reference?, (Fetch.fetchIfNewer env settings.fetch reference?).run.Preserves P)
    (trigger : Trigger) : (pass env settings trigger).Preserves P := by
  intro w held
  rw [run_pass, run_conferenceStep]
  have start := outlasts.preserves_begun others settings held
  exact preserves_conclude outlasts.ignoresProgress others settings trigger _ _ _
    (outlasts.preserves_updateConference trivial cycle _ start)

theorem preserves_sync {settings : Settings}
    (cycle : ∀ reference?, (Fetch.fetchIfNewer env settings.fetch reference?).run.Preserves P)
    (trigger : Trigger) : (sync env settings trigger).run.Preserves P := by
  intro w held
  rw [run_sync]
  split
  · exact held
  · exact outlasts.running _ false (outlasts.preserves_pass others cycle trigger _
      (outlasts.running w true held))

/-- A turn preserves what outlasts passes, if cycles of the download, requests to cancel and new
starts of the program do. -/
theorem preserves_take
    (cycle : ∀ settings reference?, (Fetch.fetchIfNewer env settings reference?).run.Preserves P)
    (request : ∀ w, P w → P { w with device := { w.device with cancelRequested := true } })
    (restart : ∀ w, P w → P { w with device := w.device.restart }) (turn : Turn) :
    (turn.take env).Preserves P := by
  intro w held
  cases turn with
  | pass settings trigger =>
    rw [run_take_pass]
    exact outlasts.preserves_sync others (cycle settings.fetch) trigger w held
  | cancel => exact request w held
  | look => exact preserves_look outlasts.ignoresProgress others w held
  | restart => exact restart w held

end OutlastsPasses

variable (outlasts : Outlasts P) (others : env.OthersPreserve P)
  (observers : env.ObserversPreserve P)

include outlasts others observers

theorem preserves_begun (settings : Settings) {w : World σ} (held : P w) :
    P (begun env settings w) :=
  (outlasts.passes observers).preserves_begun others settings held

theorem preserves_take
    (cycle : ∀ settings reference?, (Fetch.fetchIfNewer env settings reference?).run.Preserves P)
    (request : ∀ w, P w → P { w with device := { w.device with cancelRequested := true } })
    (restart : ∀ w, P w → P { w with device := w.device.restart }) (turn : Turn) :
    (turn.take env).Preserves P :=
  (outlasts.passes observers).preserves_take others cycle request restart turn

end Preserves

/-! ## A pass that is made -/

/-- The world in which a pass is running. -/
def claimed (w : World σ) : World σ := { w with device := { w.device with running := true } }

/-- The world in which no pass is running any more. -/
def released (w : World σ) : World σ := { w with device := { w.device with running := false } }

section Made

variable {env : Environment σ} {settings : Settings} {trigger : Trigger} {report : Report}

/-- A pass is made if none is running. -/
theorem run_sync_of_idle (env : Environment σ) (settings : Settings) (trigger : Trigger)
    {w : World σ} (idle : w.device.running = false) :
    (sync env settings trigger).run.run w =
      (.ok ((pass env settings trigger).run (claimed w)).1,
        released ((pass env settings trigger).run (claimed w)).2) := by
  rw [run_sync, if_neg (by simp [idle])]
  rfl

theorem exists_sync_of_idle (env : Environment σ) (settings : Settings) (trigger : Trigger)
    {w : World (σ × Transcript)} (idle : w.device.running = false) :
    let run := (pass env.transcribed settings trigger).run (claimed w)
    ∃ after, (sync env.transcribed settings trigger).run.run w = (.ok run.1, after) ∧
      after.asks = run.2.asks :=
  ⟨_, run_sync_of_idle env.transcribed settings trigger idle, rfl⟩

/-- A pass that is made gives its report, and then none is running. -/
theorem eq_pass_of_sync {w after : World σ}
    (made : (sync env settings trigger).run.run w = (.ok report, after)) :
    let run := (pass env settings trigger).run (claimed w)
    report = run.1 ∧ after = released run.2 := by
  rw [run_sync] at made
  split at made
  · cases made
  · obtain ⟨reported, rfl⟩ := Prod.mk.inj made
    exact ⟨(Except.ok.inj reported).symm, rfl⟩

/-- A pass that is made reports whether the seed was to be taken care of. -/
theorem bootstrapped_of_sync {w after : World σ}
    (made : (sync env settings trigger).run.run w = (.ok report, after)) :
    report.bootstrapped = !seedDone w.device.db := by
  rw [(eq_pass_of_sync made).1, run_pass]
  rfl

/-- A pass that is made reports what has become of the data of the conference since it has turned to
them. -/
theorem conference_of_sync {w after : World σ}
    (made : (sync env settings trigger).run.run w = (.ok report, after)) :
    report.conference =
      outcomeOf ((updateConference env settings).run.run (begun env settings (claimed w))).1 := by
  rw [(eq_pass_of_sync made).1, run_pass, run_conferenceStep]
  exact conference_conclude ..

/-- What holds once the data of the conference have been dealt with holds at the end of a pass that
is made, if it does not depend on what the pass notes about itself. -/
theorem holds_after_sync {P : World σ → Prop} (ignores : IgnoresProgress P)
    (running : ∀ w running, P w → P { w with device := { w.device with running } })
    (others : env.OthersPreserve P) {w after : World σ}
    (made : (sync env settings trigger).run.run w = (.ok report, after))
    (held : P ((updateConference env settings).run.run (begun env settings (claimed w))).2) :
    P after := by
  obtain ⟨-, rfl⟩ := eq_pass_of_sync made
  refine running _ false ?_
  rw [run_pass, run_conferenceStep]
  exact preserves_conclude ignores others settings trigger _ _ _ held

/-- What a pass that is made asks the server, it asks in its cycle of the download. -/
theorem asks_of_sync {w after : World (σ × Transcript)} {reference? : Option String}
    (made : (sync env.transcribed settings trigger).run.run w = (.ok report, after))
    (reference : Metadata.lastDataTimestamp?
      (begun env.transcribed settings (claimed w)).device.db = .ok reference?) :
    after.asks = ((Fetch.fetchIfNewer env.transcribed settings.fetch reference?).run.run
      (begun env.transcribed settings (claimed w))).2.asks := by
  have aside (asks : List Ask) := outlasts_aside (σ := σ × Transcript) fun _ outside =>
    Transcript.asks outside.2 = asks
  refine holds_after_sync (aside _).ignoresProgress (fun _ _ held => held)
    (env.othersPreserve_asks _) made ?_
  rw [run_updateConference, reference]
  dsimp only
  cases (Fetch.fetchIfNewer env.transcribed settings.fetch reference?).run.run
      (begun env.transcribed settings (claimed w)) with
  | mk result next =>
    cases result with
    | error e => rfl
    | ok fetched? =>
      cases fetched? with
      | none => rfl
      | some fetched =>
        exact (aside next.asks).withstands.preserves_importFetched
          (env.observersPreserve_asks next.asks) trivial settings fetched next rfl

/-- A pass has asked the server nothing before it turns to the data of the conference. -/
theorem asks_begun (env : Environment σ) (settings : Settings) (w : World (σ × Transcript)) :
    (begun env.transcribed settings w).asks = w.asks :=
  preserves_begun (outlasts_aside (σ := σ × Transcript) fun _ outside =>
    Transcript.asks outside.2 = w.asks) (env.othersPreserve_asks w.asks)
      (env.observersPreserve_asks w.asks) settings rfl

end Made

end ConferenceSync.Sync
