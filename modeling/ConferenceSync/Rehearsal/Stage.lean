import ConferenceSync.Sync.Periodic
import ConferenceSync.World.Basic

/-!
# A stage

A stage is an outside that goes by a script: it says what the server answers to each URL, how the
account answers one call after another, and what else happens when the server or the account is
called. It keeps a list of all events.

## Main definitions

* `Script` — the answers to calls, one after another
* `Intervention`, `Cue`, `Hook` — what else happens at a call
* `Watch` — a signal that interventions can change
* `Event` — what is kept of a run
* `Stage` — the whole
-/

namespace ConferenceSync.Rehearsal

open Sync

/-- The answers to calls. The last one is given again and again, and without any a call succeeds. -/
abbrev Script (α : Type) := List (Except SyncError α)

/-- The answer to a call, and the script for the calls that follow. -/
def Script.next {α : Type} (success : α) : Script α → Except SyncError α × Script α
  | [] => (.ok success, [])
  | [answer] => (answer, [answer])
  | answer :: rest => (answer, rest)

/-- What else happens at a call. With `periodic` passes are asked for time after time, under a
signal that can change no more; `stop` sets the signal of such passes, `wake` changes it without
saying to stop, and `drop` keeps it from changing any more. -/
inductive Intervention where
  | cancel
  | reenter
  | close
  | periodic
  | stop
  | wake
  | drop
  deriving DecidableEq, Repr

/-- Whether an intervention is about the signal. -/
def Intervention.isSignal : Intervention → Bool
  | stop => true
  | wake => true
  | drop => true
  | _ => false

/-- A call at which something else happens. -/
inductive Cue where
  | request (url : String)
  | userData
  deriving DecidableEq, Repr

/-- An intervention that waits for its cue. It happens once. -/
structure Hook where
  cue : Cue
  intervention : Intervention
  deriving DecidableEq, Repr

/-- A signal as one who waits for it sees it: whether it says to stop, whether it has changed since
it was seen last, and whether it can change no more. -/
structure Watch where
  value : Bool
  unseen : Bool
  closed : Bool
  deriving DecidableEq, Repr

namespace Watch

/-- A signal that has not changed yet. -/
def start (value : Bool) : Watch := ⟨value, false, false⟩

/-- The signal after it has been set, if it can be. -/
def send (w : Watch) (value : Bool) : Watch :=
  if w.closed then w else { w with value := value, unseen := true }

/-- The signal after an intervention. -/
def after (w : Watch) : Intervention → Watch
  | .stop => w.send true
  | .wake => w.send false
  | .drop => { w with closed := true }
  | _ => w

/-- What ends a wait for the signal, and the signal after that. A change that has not been seen
comes before the end of all changes. -/
def wait (w : Watch) : Wakeup × Watch :=
  if w.unseen then (.changed, { w with unseen := false })
  else if w.closed then (.closed, w)
  else (.elapsed, w)

end Watch

/-- What is kept of a run, each with the phase of the synchronization. With `reentered` a pass was
asked for in between, and with `periodicStopped` the passes that are made time after time have
ended. -/
inductive Event where
  | requested (url : String) (since? : Option String) (phase : Phase)
  | changed (path : String) (phase : Phase)
  | userSynced (phase : Phase)
  | tokenRefreshed (phase : Phase)
  | feedbackSent (phase : Phase)
  | reentered (answer : Except SyncError Report) (phase : Phase)
  | periodicStopped (phase : Phase)

/-- An outside that goes by a script: the responses to URLs, where a request for any other URL is
refused; what waits for its cue, in order; how the account answers for the attendee's data, if there
is one, for an access token, and for feedback, if there is a place to send it to; the signal of the
passes that are made time after time, while they are made; the time, which stands still; and what
has happened, the latest first. -/
structure Stage where
  served : Dict Response
  hooks : List Hook
  user? : Option (Script Unit)
  refresh : Script Unit
  feedback? : Option (Script Nat)
  watch? : Option Watch
  time : Int
  events : List Event

end ConferenceSync.Rehearsal
