import ConferenceSync.Error
import ConferenceSync.Import.Stats
import ConferenceSync.Time.Duration

/-!
# Reports

What a pass reports about its steps. A step that fails keeps no other step from being done.

## Main definitions

* `ConferenceOutcome`, `StepOutcome` — what became of a step
* `Report` — what a pass reports
-/

namespace ConferenceSync.Sync

/-- What makes a pass start: the attendee, the clock, or a change of the account. -/
inductive Trigger where
  | manual
  | scheduled
  | accountChanged
  deriving DecidableEq, Repr

/-- What became of the data of the conference: the server has nothing newer, a batch has been
written, the data set was abandoned before that, or the data could not be brought up to date. -/
inductive ConferenceOutcome where
  | unchanged
  | updated (applied : Nat) (stats : Import.Stats)
  | cancelled
  | failed (error : SyncError)
  deriving DecidableEq, Repr

/-- Whether the data could not be brought up to date. -/
def ConferenceOutcome.isFailure : ConferenceOutcome → Bool
  | failed _ => true
  | _ => false

/-- What became of another step. It is skipped if the server does not accept the user; the next pass
will try again. -/
inductive StepOutcome where
  | done
  | skipped (error : SyncError)
  | failed (error : SyncError)
  deriving DecidableEq, Repr

/-- What a pass reports: what made it start, whether it took care of the seed, what became of each
step, the number of passes in a row whose conference data failed, and how long to wait before the
next pass. -/
structure Report where
  trigger : Trigger
  bootstrapped : Bool
  conference : ConferenceOutcome
  userData : StepOutcome
  feedback : StepOutcome
  consecutiveFailures : Nat
  nextDelay : Time.Duration
  deriving DecidableEq, Repr

end ConferenceSync.Sync
