import ConferenceSync.World.Observer

/-!
# Worlds with a chronicle

Observers and the server belong to the outside, about whose states nothing is known. To say what
they are told and what they answer, an environment is run in a world whose outside keeps a chronicle
beside its own state. The parts of the environment do what they did before; they neither read the
chronicle nor write to it.

## Main definitions

* `Action.beside`, `Attempt.beside`, `Environment.beside` — what is done, done beside a chronicle
* `Environment.recordingNotices` — observers who record what they hear
* `Environment.recordingResponses` — a server whose responses are recorded

## Main results

* `chronicle_announce` — each observer hears of each notice, one notice after another
* `Environment.run_get_recordingResponses` — a response is given as before and recorded
-/

namespace ConferenceSync

variable {σ α ε : Type}

/-- An action, done in a world whose outside keeps a chronicle as well. -/
def Action.beside (action : Action σ α) : Action (σ × ε) α := fun w =>
  let (a, after) := action.run ⟨w.device, w.outside.1⟩
  (a, ⟨after.device, (after.outside, w.outside.2)⟩)

/-- An attempt, made in a world whose outside keeps a chronicle as well. -/
def Attempt.beside (attempt : Attempt σ α) : Attempt (σ × ε) α :=
  ExceptT.mk (Action.beside attempt.run)

/-- Adds an event to the chronicle. -/
def Action.record (event : ε) : Action (σ × List ε) Unit := fun w =>
  ((), ⟨w.device, (w.outside.1, w.outside.2 ++ [event])⟩)

/-- The observer beside a chronicle. -/
def Observer.beside (observer : Observer σ) : Observer (σ × ε) where
  onChange path := (observer.onChange path).beside
  onBatch paths := (observer.onBatch paths).beside

/-- The environment beside a chronicle. -/
def Environment.beside (env : Environment σ) : Environment (σ × ε) where
  get url since? := (env.get url since?).beside
  syncUser := env.syncUser.beside
  refreshToken := env.refreshToken.beside
  sendFeedback := env.sendFeedback.beside
  now := env.now.beside
  publish phase := (env.publish phase).beside
  observers := env.observers.map Observer.beside

/-- An environment whose server cannot be reached and in which nobody observes. -/
def Environment.silent : Environment Unit where
  get url _ := throw (.transport url (.reported "connection refused"))
  syncUser := pure ()
  refreshToken := pure ()
  sendFeedback := pure 0
  now := pure 0
  publish _ := pure ()
  observers := []

/-- A world without its chronicle. -/
def World.forget (w : World (σ × ε)) : World σ := ⟨w.device, w.outside.1⟩

/-! ## What observers hear -/

/-- What one of several observers, who are told apart by numbers, has heard. -/
structure Hearing where
  observer : Nat
  notice : Notice
  deriving DecidableEq, Repr

/-- The observer with a number, who records what it hears before it acts. -/
def Observer.recording (observer : Observer σ) (number : Nat) : Observer (σ × List Hearing) where
  onChange path := do
    Action.record ⟨number, .change path⟩
    observer.beside.onChange path
  onBatch paths := do
    Action.record ⟨number, .batch paths⟩
    observer.beside.onBatch paths

/-- Observers who record what they hear, numbered in their order. -/
def recordingFrom (number : Nat) : List (Observer σ) → List (Observer (σ × List Hearing))
  | [] => []
  | observer :: rest => observer.recording number :: recordingFrom (number + 1) rest

/-- The environment with observers who record what they hear. -/
def Environment.recordingNotices (env : Environment σ) : Environment (σ × List Hearing) :=
  { env.beside with observers := recordingFrom 0 env.observers }

/-- An observer who records hears of a notice once. -/
theorem chronicle_hear (observer : Observer σ) (number : Nat) (notice : Notice)
    (w : World (σ × List Hearing)) :
    (((observer.recording number).hear notice).run w).2.outside.2 =
      w.outside.2 ++ [⟨number, notice⟩] := by
  cases notice with
  | batch paths => rfl
  | change path => rfl

/-- Observers who record hear of a notice one after another. -/
theorem chronicle_hear_all (observers : List (Observer σ)) (number : Nat) (notice : Notice)
    (w : World (σ × List Hearing)) :
    (((recordingFrom number observers).forM (Observer.hear · notice)).run w).2.outside.2 =
      w.outside.2 ++ (List.range' number observers.length).map (Hearing.mk · notice) := by
  induction observers generalizing number w with
  | nil => exact (List.append_nil _).symm
  | cons observer rest ih =>
    have first := chronicle_hear observer number notice w
    have others := ih (number + 1) (((observer.recording number).hear notice).run w).2
    rw [first, List.append_assoc] at others
    rw [List.length_cons, List.range'_succ]
    exact others

/-- Each observer hears of each notice, one notice after another. -/
theorem chronicle_announce (env : Environment σ) (notices : List Notice)
    (w : World (σ × List Hearing)) :
    ((announce env.recordingNotices.observers notices).run w).2.outside.2 =
      w.outside.2 ++ notices.flatMap fun notice =>
        (List.range env.observers.length).map (Hearing.mk · notice) := by
  induction notices generalizing w with
  | nil => exact (List.append_nil _).symm
  | cons notice rest ih =>
    have first := chronicle_hear_all env.observers 0 notice w
    have others := ih (((recordingFrom 0 env.observers).forM (Observer.hear · notice)).run w).2
    rw [first, ← List.range_eq_range', List.append_assoc] at others
    rw [List.flatMap_cons]
    exact others

/-! ## What the server answers -/

/-- The environment with a server whose responses are recorded with their URLs. -/
def Environment.recordingResponses (env : Environment σ) :
    Environment (σ × List (String × Response)) :=
  { env.beside with get := fun url since? => do
      let response ← (env.get url since?).beside
      (Action.record (url, response) : Action (σ × List (String × Response)) Unit)
      return response }

/-- A response is given as before and recorded. -/
theorem Environment.run_get_recordingResponses (env : Environment σ) (url : String)
    (since? : Option String) (w : World (σ × List (String × Response))) :
    (env.recordingResponses.get url since?).run.run w =
      let (answer, after) := (env.get url since?).run.run ⟨w.device, w.outside.1⟩
      (answer, ⟨after.device,
        (after.outside, w.outside.2 ++ answer.toOption.toList.map fun r => (url, r))⟩) := by
  have beside : ((env.get url since?).beside (ε := List (String × Response))).run.run w =
      let (answer, after) := (env.get url since?).run.run ⟨w.device, w.outside.1⟩
      (answer, ⟨after.device, (after.outside, w.outside.2)⟩) := rfl
  cases answered : (env.get url since?).run.run ⟨w.device, w.outside.1⟩ with
  | mk answer after =>
    rw [answered] at beside
    cases answer with
    | ok response => exact Attempt.run_bind_of_ok beside
    | error e =>
      refine (Attempt.run_bind_of_error beside).trans ?_
      simp [Except.toOption]

end ConferenceSync
