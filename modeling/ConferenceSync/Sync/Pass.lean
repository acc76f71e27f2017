import ConferenceSync.Fetch.Cycle
import ConferenceSync.Store.Metadata
import ConferenceSync.Store.Plan
import ConferenceSync.Sync.Report
import ConferenceSync.Sync.Settings
import ConferenceSync.World.Observer

/-!
# Passes

A pass takes care of the seed if that has not been done on the device, brings the data of the
conference up to date, exchanges the attendee's data with the account, and sends feedback. It
always does all of it, whatever fails, and ends with a report. Only one pass runs at a time.

## Main definitions

* `bootstrap` — takes care of the seed
* `conferenceStep`, `userStep`, `feedbackStep` — the other steps
* `pass` — all steps with a report
* `sync` — a pass, unless one is running
* `restorePhase` — the phase in which the program finds the device
-/

namespace ConferenceSync.Sync

variable {σ : Type}

/-! ### The seed -/

/-- Whether the seed has been taken care of; not if that cannot be read. -/
def bootstrapDone : Action σ Bool :=
  (Attempt.query Metadata.isBootstrapped).orDefault false

/-- Writes the data of the seed in place of all others of their kinds. -/
def importSeed (env : Environment σ) (settings : Settings) : Attempt σ Unit := do
  match settings.seed? with
  | none => return ()
  | some seed =>
    let text ← (seed.content.mapError (.file seed.name) : Except SyncError String)
    let data ← (DataSet.empty.add seed.name text : Except SyncError DataSet)
    let db ← (Action.read Device.db : Action σ Database)
    -- A seed is written in full mode: whatever is stored of its kinds goes.
    let _ ← commitBatch env .sync (data.planFor settings.rules .full db).batch
    Attempt.write (Metadata.setLastDataTimestamp · seed.timestamp)

/-- Takes care of the seed. That is done once, even if the seed cannot be imported. -/
def bootstrap (env : Environment σ) (settings : Settings) : Action σ Unit := do
  Action.enter env .bootstrapping
  (importSeed env settings).ignored
  -- A seed that cannot be imported is not tried again; network data take its place.
  (Attempt.write Metadata.markBootstrapped).ignored
  Action.enter env .idle

/-! ### The data of the conference -/

/-- Writes the files of a data set, unless it is to be abandoned. -/
def importFetched (env : Environment σ) (settings : Settings) (fetched : Fetch.Fetched) :
    Attempt σ ConferenceOutcome := do
  let bodies := fetched.files.map fun file => (file.url, file.body)
  let data ← (DataSet.empty.addAll bodies : Except SyncError DataSet)
  let device ← (Action.read id : Action σ Device)
  let plan := data.planFor settings.rules .incremental device.db
  -- This is the last moment to abandon the data set: nothing has been written yet.
  if device.cancelRequested then throw .cancelled
  let applied ← commitBatch env .sync plan.batch
  match fetched.timestamp? with
  | some timestamp => Attempt.write (Metadata.setLastDataTimestamp · timestamp)
  -- Without a date the one of an earlier data set stays.
  | none => pure ()
  return .updated applied plan.stats

/-- Brings the data of the conference up to date. -/
def updateConference (env : Environment σ) (settings : Settings) :
    Attempt σ ConferenceOutcome := do
  let reference? ← Attempt.query Metadata.lastDataTimestamp?
  match ← Fetch.fetchIfNewer env settings.fetch reference? with
  | none => return .unchanged
  | some fetched => importFetched env settings fetched

/-- Brings the data of the conference up to date, and says what became of them. -/
def conferenceStep (env : Environment σ) (settings : Settings) : Action σ ConferenceOutcome := do
  match ← (updateConference env settings).run with
  | .ok outcome => return outcome
  | .error .cancelled => return .cancelled
  | .error e => return .failed e

/-! ### The attendee's data and feedback -/

/-- Asks for a new access token and exchanges the attendee's data again. -/
def recoverUser (env : Environment σ) : Action σ StepOutcome := do
  match ← env.refreshToken.run with
  | .error e => return .skipped e
  | .ok () =>
    match ← env.syncUser.run with
    | .ok () => return .done
    | .error e => return if e.isUnauthorized then .skipped e else .failed e

/-- Exchanges the attendee's data, with a new access token if that is what it takes. -/
def userStep (env : Environment σ) : Action σ StepOutcome := do
  match ← env.syncUser.run with
  | .ok () => return .done
  | .error e =>
    if e.isUnauthorized then
      Action.enter env .authRecovery
      let outcome ← recoverUser env
      Action.enter env .syncing
      return outcome
    else return .failed e

/-- Sends feedback. -/
def feedbackStep (env : Environment σ) : Action σ StepOutcome := do
  match ← env.sendFeedback.run with
  | .ok _ => return .done
  | .error e => return .failed e

/-! ### The whole -/

/-- Keeps a number about the synchronization if that can be done. -/
def record (key : String) (value : Int) : Action σ Unit :=
  (Attempt.write (Metadata.setInteger · key value)).ignored

/-- The number of failures in a row after one more outcome. -/
def failuresAfter (outcome : ConferenceOutcome) (previous : Nat) : Nat :=
  match outcome with
  | .failed _ => min (previous + 1) 0xffffffff
  | .cancelled => previous
  | _ => 0

/-- Keeps what the outcome of a pass means for the passes that follow, and gives the number of
failures in a row. -/
def recordOutcome (env : Environment σ) (outcome : ConferenceOutcome) : Action σ Nat := do
  let previous ← (Attempt.query Metadata.consecutiveFailures).orDefault 0
  match outcome with
  | .unchanged | .updated _ _ => record Metadata.lastSuccessKey (← env.now)
  | .cancelled | .failed _ => pure ()
  let failures := failuresAfter outcome previous
  record Metadata.failuresKey failures
  return failures

/-- All steps of a pass. -/
def pass (env : Environment σ) (settings : Settings) (trigger : Trigger) : Action σ Report := do
  let done ← bootstrapDone
  if !done then bootstrap env settings
  Action.enter env .syncing
  record Metadata.lastAttemptKey (← env.now)
  let conference ← conferenceStep env settings
  -- A request counts for one pass, whether that pass has heeded it or not.
  Action.change ({ · with cancelRequested := false })
  let consecutiveFailures ← recordOutcome env conference
  let userData ← userStep env
  let feedback ← feedbackStep env
  let nextDelay := settings.policy.nextDelay (← env.now) consecutiveFailures
  -- A delay beyond 64 bits wraps around; what is kept informs others and is not read here.
  record Metadata.intervalKey (Int.bmod nextDelay.millis 0x10000000000000000)
  Action.enter env .idle
  return { trigger, bootstrapped := !done, conference, userData, feedback, consecutiveFailures
           nextDelay }

/-- A pass, unless one is running. -/
def sync (env : Environment σ) (settings : Settings) (trigger : Trigger) : Attempt σ Report := do
  if ← (Action.read Device.running : Action σ Bool) then throw .alreadyRunning
  (Action.change ({ · with running := true }) : Action σ Unit)
  let report ← (pass env settings trigger : Action σ Report)
  (Action.change ({ · with running := false }) : Action σ Unit)
  return report

/-- The phase in which the program finds the device: idle if the seed has been taken care of
before. -/
def restorePhase (env : Environment σ) : Action σ Phase := do
  if (← Action.read Device.phase) = .notBootstrapped then
    if ← bootstrapDone then Action.enter env .idle
  Action.read Device.phase

end ConferenceSync.Sync
