import ConferenceSync.Rehearsal.Stage
import ConferenceSync.Sync.Periodic

/-!
# Playing on a stage

The environment of a stage. An intervention may itself ask for a pass, which calls the server and
the account again, and so more interventions happen. As each hook is used up before its
intervention happens, there are at most as many passes within passes as there are hooks.

## Main definitions

* `environmentAt` — the environment of a stage, with interventions up to a depth
* `play` — does something in the environment of a stage with all its interventions
* `runPeriodic` — passes time after time, under the signal of the stage
-/

namespace ConferenceSync.Rehearsal

open Sync

/-- A device and a stage. -/
abbrev Theatre := World Stage

/-- Changes the stage. -/
def changeStage (f : Stage → Stage) : Action Stage Unit :=
  fun w => ((), { w with outside := f w.outside })

/-- Reads the stage. -/
def readStage {α : Type} (f : Stage → α) : Action Stage α := fun w => (f w.outside, w)

/-- Keeps an event. -/
def log (event : Phase → Event) : Action Stage Unit := do
  let phase ← Action.read Device.phase
  changeStage fun s => { s with events := event phase :: s.events }

/-- Takes the first hook that waits for a cue off the stage. -/
def takeHook (cue : Cue) : Action Stage (Option Intervention) := do
  match ← readStage fun s => s.hooks.find? fun h => h.cue = cue with
  | none => return none
  | some hook =>
    changeStage fun s => { s with hooks := s.hooks.erase hook }
    return some hook.intervention

/-- Lets the interventions that wait for a cue happen, one after another, up to one that is about
the signal; at most `n` of them. -/
def intervene (happen : Intervention → Action Stage Unit) (cue : Cue) : Nat → Action Stage Unit
  | 0 => return ()
  | n + 1 => do
    match ← takeHook cue with
    | none => return ()
    | some intervention =>
      happen intervention
      -- One that is about the signal ends the call's turn; the next call takes the next one.
      if !intervention.isSignal then intervene happen cue n

/-- Lets all interventions happen that wait for a cue. -/
def giveCue (happen : Intervention → Action Stage Unit) (cue : Cue) : Action Stage Unit := do
  let hooks ← readStage Stage.hooks
  intervene happen cue hooks.length

/-- Who keeps an event for each path that has changed. -/
def logger : Observer Stage where
  onChange path := log (.changed path)
  onBatch paths := paths.forM fun path => log (.changed path)

/-- The server: a URL that is not served is refused. -/
def request (happen : Intervention → Action Stage Unit) (url : String) (since? : Option String) :
    Attempt Stage Response := do
  (log (.requested url since?) : Action Stage Unit)
  (giveCue happen (.request url) : Action Stage Unit)
  match ← (readStage fun s => s.served.get? url : Action Stage (Option Response)) with
  | some response => return response
  | none => throw (.transport url (.reported "connection refused"))

/-- The account, for the attendee's data. -/
def syncUser (happen : Intervention → Action Stage Unit) : Attempt Stage Unit := do
  match ← (readStage Stage.user? : Action Stage (Option (Script Unit))) with
  | none => return ()
  | some _ =>
    (log .userSynced : Action Stage Unit)
    (giveCue happen .userData : Action Stage Unit)
    let (answer, rest) ←
      (readStage fun s => (s.user?.getD []).next () : Action Stage (Except _ Unit × Script Unit))
    (changeStage fun s => { s with user? := some rest } : Action Stage Unit)
    (answer : Except SyncError Unit)

/-- The account, for an access token. -/
def refreshToken : Attempt Stage Unit := do
  (log .tokenRefreshed : Action Stage Unit)
  let (answer, rest) ←
    (readStage fun s => s.refresh.next () : Action Stage (Except _ Unit × Script Unit))
  (changeStage fun s => { s with refresh := rest } : Action Stage Unit)
  (answer : Except SyncError Unit)

/-- The place to send feedback to. -/
def sendFeedback : Attempt Stage Nat := do
  match ← (readStage Stage.feedback? : Action Stage (Option (Script Nat))) with
  | none => return 0
  | some script =>
    (log .feedbackSent : Action Stage Unit)
    let (answer, rest) := script.next 0
    (changeStage fun s => { s with feedback? := some rest } : Action Stage Unit)
    (answer : Except SyncError Nat)

/-- The environment of a stage on which interventions happen in a certain way. -/
def environmentWith (happen : Intervention → Action Stage Unit) : Environment Stage where
  get := request happen
  syncUser := syncUser happen
  refreshToken := refreshToken
  sendFeedback := sendFeedback
  now := readStage Stage.time
  publish _ := return ()
  observers := [logger, indexUpdater]

/-- A signal that says to go on and can change no more. -/
def closedSignal : Signal Stage where
  isSet := return false
  wait _ := return .closed

/-- What happens in an intervention. -/
def happen (env : Environment Stage) (settings : Settings) : Intervention → Action Stage Unit
  | .cancel => Action.requestCancel
  | .close => Action.change fun d => { d with db := { d.db with closed := true } }
  | .reenter => do
    let answer ← (sync env settings .manual).run
    log (.reentered answer)
  | .periodic => do
    Sync.runPeriodic env settings closedSignal 1
    log .periodicStopped
  | signal => changeStage fun s => { s with watch? := s.watch?.map (·.after signal) }

/-- The environment of a stage, with interventions within interventions up to a depth. -/
def environmentAt (settings : Settings) : Nat → Environment Stage
  | 0 => environmentWith fun _ => return ()
  | depth + 1 => environmentWith (happen (environmentAt settings depth) settings)

/-- Does something in the environment of a stage with all its interventions. -/
def play {α : Type} (settings : Settings) (act : Environment Stage → Action Stage α) :
    Action Stage α := do
  let hooks ← readStage Stage.hooks
  act (environmentAt settings hooks.length)

/-- The signal of the stage. -/
def stageSignal : Signal Stage where
  isSet := readStage fun s => s.watch?.any Watch.value
  wait _ := do
    let (wakeup, watch?) ← readStage fun s =>
      match s.watch? with
      | some watch => let (wakeup, watch) := watch.wait; (wakeup, some watch)
      | none => (.closed, none)
    changeStage fun s => { s with watch? }
    return wakeup

/-- Passes time after time, under a signal that interventions can change. Each of them ends at most
one wait, so as many passes as there are hooks and two more are all that can be made before a
wait without end. -/
def runPeriodic (settings : Settings) (initial : Bool) : Action Stage Unit := do
  changeStage fun s => { s with watch? := some (.start initial) }
  let hooks ← readStage Stage.hooks
  play settings fun env => Sync.runPeriodic env settings stageSignal (hooks.length + 2)
  changeStage fun s => { s with watch? := none }

end ConferenceSync.Rehearsal
