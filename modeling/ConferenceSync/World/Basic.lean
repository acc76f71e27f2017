import ConferenceSync.Fetch.Cache
import ConferenceSync.Store.Commit

/-!
# A device and the world around it

What this program keeps lies on a device: the database, the cache, and where the synchronization
stands. Around it is the outside, of which nothing is known but the ways to reach it: the server,
the attendee's account, a clock, and those who observe the device. Each of these may itself act on
the device before it answers.

## Main definitions

* `Phase`, `Device` — what lies on a device
* `World`, `Action`, `Attempt` — a device with an outside, and what is done in it
* `Environment` — the ways to reach the outside

## Main results

* `Action.run_read`, `Action.run_change`, `Attempt.run_query`, `Attempt.run_write_of_ok`,
  `Attempt.run_write_of_error` — what the steps of a run give, and the world after them
* `Attempt.run_liftExcept`, `Attempt.run_bind_of_ok`, `Attempt.run_bind_of_error` — steps that do
  nothing to the world, and steps one after another
-/

namespace ConferenceSync

/-- Where the synchronization stands. At `notBootstrapped` the seed has not been taken care of, as
far as is known, and at `authRecovery` a pass is asking for a new access token. -/
inductive Phase where
  | notBootstrapped
  | bootstrapping
  | idle
  | syncing
  | authRecovery
  deriving DecidableEq, Repr

/-- What lies on a device. `running` is whether a pass is running, `cancelRequested` whether the
next data set is to be abandoned before it is written, and `rebuilds` how many times the index for
searches has been made anew, or has been tried to. -/
structure Device where
  db : Database
  cache : Cache
  phase : Phase
  running : Bool
  cancelRequested : Bool
  rebuilds : Nat

namespace Device

/-- A device on which the program starts, with a database and a cache that are there. -/
def start (db : Database) (cache : Cache) : Device where
  db
  cache
  phase := .notBootstrapped
  running := false
  cancelRequested := false
  rebuilds := 0

/-- The device after the program has been started anew. -/
def restart (d : Device) : Device := start d.db d.cache

end Device

/-- A device and an outside with states in `σ`. -/
structure World (σ : Type) where
  device : Device
  outside : σ

/-- What is done in a world and cannot fail. -/
abbrev Action (σ : Type) := StateM (World σ)

/-- What is done in a world and may fail. What was done before a failure stays done. -/
abbrev Attempt (σ : Type) := ExceptT SyncError (Action σ)

/-- A response of the server. `lastModified?` is when the content was changed last, as it says. -/
structure Response where
  status : Nat
  body : List UInt8
  lastModified? : Option String
  deriving DecidableEq, Repr

/-- Who observes the database, and hears of the path that a mutation has changed, and of all paths
that a batch has changed. -/
structure Observer (σ : Type) where
  onChange : String → Action σ Unit
  onBatch : List String → Action σ Unit

/-- The ways to reach the outside. The server is asked for a URL, or only for what has changed since
a date; the attendee's data are exchanged with the account, which gives new access tokens; the
feedback that is waiting is sent, with the number of items; the time is in milliseconds; and some
hear where the synchronization stands, or observe the database. -/
structure Environment (σ : Type) where
  get : String → Option String → Attempt σ Response
  syncUser : Attempt σ Unit
  refreshToken : Attempt σ Unit
  sendFeedback : Attempt σ Nat
  now : Action σ Int
  publish : Phase → Action σ Unit
  observers : List (Observer σ)

namespace Action

variable {σ α : Type}

/-- Reads the device. -/
def read (f : Device → α) : Action σ α := fun w => (f w.device, w)

/-- Changes the device. -/
def change (f : Device → Device) : Action σ Unit := fun w => ((), { w with device := f w.device })

@[simp] theorem run_read (f : Device → α) (w : World σ) :
    (read f : Action σ α).run w = (f w.device, w) := rfl

@[simp] theorem run_change (f : Device → Device) (w : World σ) :
    (change f).run w = ((), { w with device := f w.device }) := rfl

/-- Requests that the next data set be abandoned before it is written. -/
def requestCancel : Action σ Unit := change ({ · with cancelRequested := true })

/-- Moves the synchronization to a phase and publishes it. -/
def enter (env : Environment σ) (phase : Phase) : Action σ Unit := do
  change ({ · with phase := phase })
  env.publish phase

end Action

namespace Attempt

variable {σ α β : Type}

/-- Reads the database. -/
def query (f : Database → Except SyncError α) : Attempt σ α := fun w => (f w.device.db, w)

/-- Changes the database; a failure leaves it as it was. -/
def write (f : Database → Except SyncError Database) : Attempt σ Unit := fun w =>
  match f w.device.db with
  | .ok db => (.ok (), { w with device := { w.device with db := db } })
  | .error e => (.error e, w)

@[simp] theorem run_query (f : Database → Except SyncError α) (w : World σ) :
    (query f).run.run w = (f w.device.db, w) := rfl

theorem run_write_of_ok {f : Database → Except SyncError Database} {w : World σ} {db : Database}
    (written : f w.device.db = .ok db) :
    (write f).run.run w = (.ok (), { w with device := { w.device with db := db } }) := by
  simp only [write, ExceptT.run, StateT.run, written]

theorem run_write_of_error {f : Database → Except SyncError Database} {w : World σ}
    {e : SyncError} (refused : f w.device.db = .error e) :
    (write f).run.run w = (.error e, w) := by
  simp only [write, ExceptT.run, StateT.run, refused]

@[simp] theorem run_liftExcept (result : Except SyncError α) (w : World σ) :
    (liftM result : Attempt σ α).run.run w = (result, w) := rfl

theorem run_bind_of_ok {attempt : Attempt σ α} {next : α → Attempt σ β} {w after : World σ} {a : α}
    (first : attempt.run.run w = (.ok a, after)) :
    (attempt >>= next).run.run w = (next a).run.run after := by
  rw [ExceptT.run_bind, StateT.run_bind, first]
  rfl

theorem run_bind_of_error {attempt : Attempt σ α} {next : α → Attempt σ β} {w after : World σ}
    {e : SyncError} (first : attempt.run.run w = (.error e, after)) :
    (attempt >>= next).run.run w = (.error e, after) := by
  rw [ExceptT.run_bind, StateT.run_bind, first]
  rfl

/-- Makes an attempt whose failure is of no consequence. -/
def ignored (attempt : Attempt σ α) : Action σ Unit := do
  let _ ← attempt.run

/-- What an attempt gives, or something else if it fails. -/
def orDefault (attempt : Attempt σ α) (other : α) : Action σ α := do
  match ← attempt.run with
  | .ok a => return a
  | .error _ => return other

end Attempt

end ConferenceSync
