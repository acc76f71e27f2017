import Mathlib.Data.List.Forall2
import ConferenceSync.Fetch.Cycle
import ConferenceSync.Proofs.Chronicle

/-!
# To be observed changes nothing

Beside a chronicle, each part of an environment does what it does without. So does all that is made
of these parts: whatever is done in an environment that is observed gives the same result and leads
to the same world as in the environment itself, if what has been noted is forgotten.

## Main definitions

* `Action.Mirrors`, `Observer.Mirrors`, `Environment.Mirrors` — that what is beside something does
  what another does without

## Main results

* `Action.Mirrors.bind`, `Attempt.mirrors_bind` — steps one after another
* `mirrors_commitBatch`, `Fetch.mirrors_fetchIfNewer` — a batch is written, and a cycle of the
  download is made, as it is without
-/

namespace ConferenceSync

variable {σ ε α β : Type}

/-! ## Steps -/

/-- Whether an action beside something gives what another gives, and leads to the same world. -/
def Action.Mirrors (watched : Action (σ × ε) α) (action : Action σ α) : Prop :=
  ∀ w, action.run w.forget = ((watched.run w).1, (watched.run w).2.forget)

namespace Action

variable {watched : Action (σ × ε) α} {action : Action σ α}

theorem mirrors_pure (a : α) : (pure a : Action (σ × ε) α).Mirrors (pure a : Action σ α) :=
  fun _ => rfl

theorem mirrors_read (f : Device → α) :
    (read f : Action (σ × ε) α).Mirrors (read f : Action σ α) := fun _ => rfl

theorem mirrors_change (f : Device → Device) :
    (change f : Action (σ × ε) Unit).Mirrors (change f : Action σ Unit) := fun _ => rfl

theorem Mirrors.bind {next : α → Action (σ × ε) β} {other : α → Action σ β}
    (first : watched.Mirrors action) (others : ∀ a, (next a).Mirrors (other a)) :
    (watched >>= next).Mirrors (action >>= other) := by
  intro w
  rw [StateT.run_bind, StateT.run_bind, first w]
  exact others (watched.run w).1 (watched.run w).2

end Action

namespace Attempt

variable {watched : Attempt (σ × ε) α} {attempt : Attempt σ α}

theorem mirrors_bind {next : α → Attempt (σ × ε) β} {other : α → Attempt σ β}
    (first : watched.run.Mirrors attempt.run)
    (others : ∀ a, (next a).run.Mirrors (other a).run) :
    (watched >>= next).run.Mirrors (attempt >>= other).run := by
  rw [ExceptT.run_bind, ExceptT.run_bind]
  refine first.bind fun result => ?_
  cases result with
  | ok a => exact others a
  | error e => exact Action.mirrors_pure _

theorem mirrors_lift {watched : Action (σ × ε) α} {action : Action σ α}
    (mirrors : watched.Mirrors action) :
    (ExceptT.lift watched : Attempt (σ × ε) α).run.Mirrors
      (ExceptT.lift action : Attempt σ α).run :=
  mirrors.bind fun a => Action.mirrors_pure (.ok a : Except SyncError α)

theorem mirrors_query (f : Database → Except SyncError α) :
    (query f : Attempt (σ × ε) α).run.Mirrors (query f : Attempt σ α).run := fun _ => rfl

theorem mirrors_write (f : Database → Except SyncError Database) :
    (write f : Attempt (σ × ε) Unit).run.Mirrors (write f : Attempt σ Unit).run := by
  intro w
  cases written : f w.device.db with
  | ok db =>
    rw [run_write_of_ok written, run_write_of_ok (w := w.forget) written]
    rfl
  | error e =>
    rw [run_write_of_error written, run_write_of_error (w := w.forget) written]

theorem mirrors_ignored (mirrors : watched.run.Mirrors attempt.run) :
    watched.ignored.Mirrors attempt.ignored :=
  mirrors.bind fun _ => Action.mirrors_pure ()

theorem mirrors_orDefault (mirrors : watched.run.Mirrors attempt.run) (other : α) :
    (watched.orDefault other).Mirrors (attempt.orDefault other) := by
  refine Action.Mirrors.bind mirrors fun result => ?_
  cases result <;> exact Action.mirrors_pure _

end Attempt

/-! ## Environments -/

/-- Whether an observer beside something does with what it hears what another does. -/
def Observer.Mirrors (watched : Observer (σ × ε)) (observer : Observer σ) : Prop :=
  ∀ notice, (watched.hear notice).Mirrors (observer.hear notice)

/-- Whether each part of an environment beside something does what the same part of another does
without. -/
structure Environment.Mirrors (watched : Environment (σ × ε)) (env : Environment σ) : Prop where
  get : ∀ url since?, (watched.get url since?).run.Mirrors (env.get url since?).run
  syncUser : watched.syncUser.run.Mirrors env.syncUser.run
  refreshToken : watched.refreshToken.run.Mirrors env.refreshToken.run
  sendFeedback : watched.sendFeedback.run.Mirrors env.sendFeedback.run
  now : watched.now.Mirrors env.now
  publish : ∀ phase, (watched.publish phase).Mirrors (env.publish phase)
  observers : List.Forall₂ Observer.Mirrors watched.observers env.observers

namespace Environment

/-- Observers who are told apart by numbers do what each of them does. -/
theorem mirrors_mapIdx {f : Nat → Observer σ → Observer (σ × ε)}
    (each : ∀ number observer, (f number observer).Mirrors observer)
    (observers : List (Observer σ)) :
    List.Forall₂ Observer.Mirrors (observers.mapIdx f) observers := by
  refine List.forall₂_iff_get.2 ⟨List.length_mapIdx, fun i _ bound => ?_⟩
  simpa using each i observers[i]

end Environment

section Mirrors

variable {watched : Environment (σ × ε)} {env : Environment σ} (mirrors : watched.Mirrors env)

include mirrors

theorem mirrors_enter (phase : Phase) :
    (Action.enter watched phase).Mirrors (Action.enter env phase) :=
  (Action.mirrors_change _).bind fun _ => mirrors.publish phase

theorem mirrors_announce (notices : List Notice) :
    (announce watched.observers notices).Mirrors (announce env.observers notices) := by
  have hearing (notice : Notice) : (watched.observers.forM (Observer.hear · notice)).Mirrors
      (env.observers.forM (Observer.hear · notice)) := by
    have each := mirrors.observers
    revert each
    generalize watched.observers = others, env.observers = observers
    intro each
    induction each with
    | nil => exact Action.mirrors_pure ()
    | cons first _ ih => exact (first notice).bind fun _ => ih
  induction notices with
  | nil => exact Action.mirrors_pure ()
  | cons notice rest ih => exact (hearing notice).bind fun _ => ih

theorem mirrors_commitBatch (origin : Origin) (batch : Batch) :
    (commitBatch watched origin batch).run.Mirrors (commitBatch env origin batch).run :=
  Attempt.mirrors_bind (Attempt.mirrors_write _) fun _ =>
    Attempt.mirrors_bind (Attempt.mirrors_lift (mirrors_announce mirrors _)) fun _ =>
      Action.mirrors_pure _

namespace Fetch

theorem mirrors_fetchFile (url : String) :
    (fetchFile watched url).run.Mirrors (fetchFile env url).run := by
  refine Attempt.mirrors_bind (fun _ => rfl) fun text? => ?_
  cases text? with
  | some body => exact Action.mirrors_pure _
  | none =>
    exact Attempt.mirrors_bind (mirrors.get url none) fun response =>
      Attempt.mirrors_bind (Action.mirrors_pure _) fun body =>
        Attempt.mirrors_bind (fun _ => rfl) fun _ => Action.mirrors_pure _

theorem mirrors_fetchFiles (urls : List String) :
    (fetchFiles watched urls).run.Mirrors (fetchFiles env urls).run := by
  induction urls with
  | nil => exact Action.mirrors_pure _
  | cons url rest ih =>
    exact Attempt.mirrors_bind (mirrors_fetchFile mirrors url) fun _ =>
      Attempt.mirrors_bind ih fun _ => Action.mirrors_pure _

theorem mirrors_fetchIfNewer (settings : Settings) (reference? : Option String) :
    (fetchIfNewer watched settings reference?).run.Mirrors
      (fetchIfNewer env settings reference?).run := by
  refine Attempt.mirrors_bind (mirrors.get _ _) fun response => ?_
  split
  · exact Action.mirrors_pure _
  · split
    · exact Action.mirrors_pure _
    · exact Attempt.mirrors_bind (Action.mirrors_pure _) fun manifest =>
        Attempt.mirrors_bind (mirrors_fetchFiles mirrors _) fun files =>
          Attempt.mirrors_bind (Attempt.mirrors_lift (Action.mirrors_change _)) fun _ =>
            Action.mirrors_pure _

end Fetch

end Mirrors

end ConferenceSync
