import ConferenceSync.Proofs.Moments
import ConferenceSync.Proofs.Turns

/-!
# To watch a pass changes nothing

A pass gives the same report and leads to the same world whether what passes between the program
and the outside is noted or not, and so do turns, one after another. What is shown of passes beside
a transcript or a course is thus true of passes.

## Main results

* `Sync.mirrors_pass`, `Sync.mirrors_sync`, `Sync.mirrors_take` — to note what happens changes
  nothing in a pass or in a turn
* `Sync.afterTurns_mirrors`, `Sync.reportsAfter_mirrors` — nor in turns, one after another
-/

namespace ConferenceSync

variable {σ ε : Type}

/-! ## A pass -/

namespace Sync

theorem mirrors_record (key : String) (value : Int) :
    (record key value : Action (σ × ε) Unit).Mirrors (record key value : Action σ Unit) :=
  Attempt.mirrors_ignored (Attempt.mirrors_write _)

theorem mirrors_bootstrapDone :
    (bootstrapDone : Action (σ × ε) Bool).Mirrors (bootstrapDone : Action σ Bool) :=
  Attempt.mirrors_orDefault (Attempt.mirrors_query _) false

section Mirrors

variable {watched : Environment (σ × ε)} {env : Environment σ} (mirrors : watched.Mirrors env)

include mirrors

theorem mirrors_importSeed (settings : Settings) :
    (importSeed watched settings).run.Mirrors (importSeed env settings).run := by
  rw [importSeed, importSeed]
  cases settings.seed? with
  | none => exact Action.mirrors_pure _
  | some seed =>
    exact Attempt.mirrors_bind (Action.mirrors_pure _) fun text =>
      Attempt.mirrors_bind (Action.mirrors_pure _) fun data =>
        Attempt.mirrors_bind (Attempt.mirrors_lift (Action.mirrors_read _)) fun db =>
          Attempt.mirrors_bind (mirrors_commitBatch mirrors _ _) fun _ => Attempt.mirrors_write _

theorem mirrors_bootstrap (settings : Settings) :
    (bootstrap watched settings).Mirrors (bootstrap env settings) :=
  (mirrors_enter mirrors _).bind fun _ =>
    (Attempt.mirrors_ignored (mirrors_importSeed mirrors settings)).bind fun _ =>
      (Attempt.mirrors_ignored (Attempt.mirrors_write _)).bind fun _ => mirrors_enter mirrors _

theorem mirrors_importFetched (settings : Settings) (fetched : Fetch.Fetched) :
    (importFetched watched settings fetched).run.Mirrors
      (importFetched env settings fetched).run := by
  refine Attempt.mirrors_bind (Action.mirrors_pure _) fun data =>
    Attempt.mirrors_bind (Attempt.mirrors_lift (Action.mirrors_read _)) fun device => ?_
  dsimp only
  split
  · exact Action.mirrors_pure _
  · refine Attempt.mirrors_bind (mirrors_commitBatch mirrors _ _) fun applied => ?_
    split
    · exact Attempt.mirrors_bind (Attempt.mirrors_write _) fun _ => Action.mirrors_pure _
    · exact Action.mirrors_pure _

theorem mirrors_updateConference (settings : Settings) :
    (updateConference watched settings).run.Mirrors (updateConference env settings).run := by
  refine Attempt.mirrors_bind (Attempt.mirrors_query _) fun reference? =>
    Attempt.mirrors_bind (Fetch.mirrors_fetchIfNewer mirrors _ _) fun fetched? => ?_
  cases fetched? with
  | none => exact Action.mirrors_pure _
  | some fetched => exact mirrors_importFetched mirrors settings fetched

theorem mirrors_conferenceStep (settings : Settings) :
    (conferenceStep watched settings).Mirrors (conferenceStep env settings) := by
  refine (mirrors_updateConference mirrors settings).bind fun result => ?_
  cases result with
  | ok outcome => exact Action.mirrors_pure _
  | error e => cases e <;> exact Action.mirrors_pure _

theorem mirrors_recoverUser : (recoverUser watched).Mirrors (recoverUser env) := by
  refine mirrors.refreshToken.bind fun refreshed => ?_
  cases refreshed with
  | error e => exact Action.mirrors_pure _
  | ok =>
    refine mirrors.syncUser.bind fun answer => ?_
    cases answer <;> exact Action.mirrors_pure _

theorem mirrors_userStep : (userStep watched).Mirrors (userStep env) := by
  refine mirrors.syncUser.bind fun answer => ?_
  cases answer with
  | ok => exact Action.mirrors_pure _
  | error e =>
    dsimp only
    split
    · exact (mirrors_enter mirrors _).bind fun _ => (mirrors_recoverUser mirrors).bind fun _ =>
        (mirrors_enter mirrors _).bind fun _ => Action.mirrors_pure _
    · exact Action.mirrors_pure _

theorem mirrors_feedbackStep : (feedbackStep watched).Mirrors (feedbackStep env) := by
  refine mirrors.sendFeedback.bind fun answer => ?_
  cases answer <;> exact Action.mirrors_pure _

theorem mirrors_recordOutcome (outcome : ConferenceOutcome) :
    (recordOutcome watched outcome).Mirrors (recordOutcome env outcome) := by
  refine (Attempt.mirrors_orDefault (Attempt.mirrors_query _) 0).bind fun previous => ?_
  cases outcome with
  | unchanged | updated =>
    exact mirrors.now.bind fun _ => (mirrors_record _ _).bind fun _ =>
      (mirrors_record _ _).bind fun _ => Action.mirrors_pure _
  | cancelled | failed => exact (mirrors_record _ _).bind fun _ => Action.mirrors_pure _

theorem mirrors_beginStep : (beginStep watched).Mirrors (beginStep env) :=
  (mirrors_enter mirrors .syncing).bind fun _ => mirrors.now.bind fun _ => mirrors_record _ _

theorem mirrors_closingStep (settings : Settings) (failures : Nat) :
    (closingStep watched settings failures).Mirrors (closingStep env settings failures) :=
  mirrors.now.bind fun _ => (mirrors_record _ _).bind fun _ =>
    (mirrors_enter mirrors .idle).bind fun _ => Action.mirrors_pure _

theorem mirrors_wrapUp (settings : Settings) (trigger : Trigger) (bootstrapped : Bool)
    (conference : ConferenceOutcome) :
    (wrapUp watched settings trigger bootstrapped conference).Mirrors
      (wrapUp env settings trigger bootstrapped conference) :=
  (mirrors_recordOutcome mirrors conference).bind fun failures => (mirrors_userStep mirrors).bind
    fun _ => (mirrors_feedbackStep mirrors).bind fun _ =>
      (mirrors_closingStep mirrors settings failures).bind fun _ => Action.mirrors_pure _

theorem mirrors_conclude (settings : Settings) (trigger : Trigger) (bootstrapped : Bool)
    (conference : ConferenceOutcome) :
    (conclude watched settings trigger bootstrapped conference).Mirrors
      (conclude env settings trigger bootstrapped conference) := by
  rw [conclude_eq, conclude_eq]
  exact (Action.mirrors_change _).bind fun _ =>
    mirrors_wrapUp mirrors settings trigger bootstrapped conference

/-- A pass in the watched environment is the pass in the environment itself. -/
theorem mirrors_pass (settings : Settings) (trigger : Trigger) :
    (pass watched settings trigger).Mirrors (pass env settings trigger) := by
  have goOn (done : Bool) := (mirrors_beginStep mirrors).bind fun _ =>
    (mirrors_conferenceStep mirrors settings).bind
      (mirrors_conclude mirrors settings trigger !done)
  rw [pass_eq, pass_eq]
  refine mirrors_bootstrapDone.bind fun done => ?_
  cases done with
  | true => exact goOn true
  | false => exact (mirrors_bootstrap mirrors settings).bind fun _ => goOn false

theorem mirrors_sync (settings : Settings) (trigger : Trigger) :
    (sync watched settings trigger).run.Mirrors (sync env settings trigger).run := by
  intro w
  have same : w.forget.device = w.device := rfl
  rw [run_sync, run_sync, same]
  split
  · rfl
  · have passed := mirrors_pass mirrors settings trigger
      { w with device := { w.device with running := true } }
    exact congrArg (fun run => ((.ok run.1 : Except SyncError Report), released run.2)) passed

/-! ## Turns -/

theorem mirrors_take (turn : Turn) : (turn.take watched).Mirrors (turn.take env) := by
  cases turn with
  | pass settings trigger =>
    refine (mirrors_sync mirrors settings trigger).bind fun result => ?_
    cases result <;> exact Action.mirrors_pure _
  | cancel => exact fun _ => rfl
  | look =>
    intro w
    have looked : (restorePhase env).run w.forget =
        (((restorePhase watched).run w).1, ((restorePhase watched).run w).2.forget) := by
      have same : w.forget.device = w.device := rfl
      have entered := mirrors_enter mirrors .idle w
      rw [run_restorePhase, run_restorePhase, same]
      dsimp only
      split
      · rw [entered]
        rfl
      · rfl
    exact congrArg (fun run => (none, run.2)) looked
  | restart => exact fun _ => rfl

/-- Turns lead to the same world whether they are watched or not. -/
theorem afterTurns_mirrors (turns : List Turn) (w : World (σ × ε)) :
    afterTurns env turns w.forget = (afterTurns watched turns w).forget := by
  induction turns generalizing w with
  | nil => rfl
  | cons turn rest ih =>
    have first := mirrors_take mirrors turn w
    have others := ih ((turn.take watched).run w).2
    rw [afterTurns, List.foldl_cons, first]
    exact others

/-- Turns bring the same reports whether they are watched or not. -/
theorem reportsAfter_mirrors (turns : List Turn) (w : World (σ × ε)) :
    reportsAfter env turns w.forget = reportsAfter watched turns w := by
  induction turns generalizing w with
  | nil => rfl
  | cons turn rest ih =>
    have first := mirrors_take mirrors turn w
    have others := ih ((turn.take watched).run w).2
    rw [reportsAfter, reportsAfter, first]
    exact congrArg _ others

end Mirrors

end Sync

end ConferenceSync
