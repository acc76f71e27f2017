import ConferenceSync.Sync.Pass

/-!
# Passes time after time

Passes are made until a signal says to stop. Between two passes there is a wait, which ends early
when the signal changes, and ends all if the signal can change no more.

## Main definitions

* `Signal` — the ways to learn about the signal
* `runPeriodic` — passes until the signal says to stop
-/

namespace ConferenceSync.Sync

/-- What ends a wait: the time is up, the signal has changed, or it can change no more. -/
inductive Wakeup where
  | elapsed
  | changed
  | closed
  deriving DecidableEq, Repr

/-- The ways to learn about the signal: whether it says to stop, and to wait for a time at most. -/
structure Signal (σ : Type) where
  isSet : Action σ Bool
  wait : Time.Duration → Action σ Wakeup

variable {σ : Type}

/-- How long to wait after a scheduled pass has been made, or could not be made. -/
def scheduledPass (env : Environment σ) (settings : Settings) : Action σ Time.Duration := do
  match ← (sync env settings .scheduled).run with
  | .ok report => return report.nextDelay
  | .error _ => return settings.policy.interval (← env.now)

/-- Passes until the signal says to stop, or until a number of passes has been made. -/
def runPeriodic (env : Environment σ) (settings : Settings) (signal : Signal σ) :
    Nat → Action σ Unit
  | 0 => return ()
  | passes + 1 => do
    if ← signal.isSet then return ()
    let delay ← scheduledPass env settings
    match ← signal.wait delay with
    | .closed => return ()
    | .elapsed | .changed => runPeriodic env settings signal passes

end ConferenceSync.Sync
