import ConferenceSync.Proofs.Mirrors

/-!
# Transcripts

To say what the program asks, what it is answered and who hears of what, in which order, an
environment is run beside a transcript of all that passes between the program and the outside. Each
part of the environment does what it did before, and then an entry is added.

## Main definitions

* `Ask`, `Entry`, `Transcript` — what passes between the program and the outside
* `Environment.transcribed` — an environment beside a transcript
* `Transcript.asks`, `Transcript.hearings` — the requests to the server, what observers hear

## Main results

* `Environment.run_get_transcribed` — a request is answered as before and noted with its answer
* `Environment.mirrors_transcribed` — to note what happens changes nothing
-/

namespace ConferenceSync

variable {σ α : Type}

/-- A request to the server, for what has changed since a date if it names one, and its answer. -/
structure Ask where
  url : String
  since? : Option String
  answer : Except SyncError Response

/-- What passes between the program and the outside. -/
inductive Entry where
  | asked (ask : Ask)
  | userSynced (answer : Except SyncError Unit)
  | tokenRefreshed (answer : Except SyncError Unit)
  | feedbackSent (answer : Except SyncError Nat)
  | published (phase : Phase)
  | heard (hearing : Hearing)

/-- The request that an entry is about. -/
def Entry.ask? : Entry → Option Ask
  | asked ask => some ask
  | _ => none

/-- What an observer has heard, as an entry says. -/
def Entry.hearing? : Entry → Option Hearing
  | heard hearing => some hearing
  | _ => none

/-- What has passed between the program and the outside, in order. -/
abbrev Transcript := List Entry

namespace Transcript

/-- The requests to the server. -/
def asks (t : Transcript) : List Ask := t.filterMap Entry.ask?

/-- What observers have heard. -/
def hearings (t : Transcript) : List Hearing := t.filterMap Entry.hearing?

@[simp] theorem asks_append (s t : Transcript) : asks (s ++ t) = asks s ++ asks t :=
  List.filterMap_append

end Transcript

/-- An action beside a transcript, in which its result is noted. -/
def Action.noting (entry : α → Entry) (action : Action σ α) : Action (σ × Transcript) α := do
  let a ← action.beside
  Action.record (entry a)
  return a

/-- An attempt beside a transcript, in which its result is noted. -/
def Attempt.noting (entry : Except SyncError α → Entry) (attempt : Attempt σ α) :
    Attempt (σ × Transcript) α :=
  ExceptT.mk (Action.noting entry attempt.run)

/-- The observer with a number, beside a transcript in which is noted what it hears. -/
def Observer.noting (observer : Observer σ) (number : Nat) : Observer (σ × Transcript) where
  onChange path := (observer.onChange path).noting fun _ => .heard ⟨number, .change path⟩
  onBatch paths := (observer.onBatch paths).noting fun _ => .heard ⟨number, .batch paths⟩

/-- The environment beside a transcript. -/
def Environment.transcribed (env : Environment σ) : Environment (σ × Transcript) where
  get url since? := (env.get url since?).noting fun answer => .asked ⟨url, since?, answer⟩
  syncUser := env.syncUser.noting .userSynced
  refreshToken := env.refreshToken.noting .tokenRefreshed
  sendFeedback := env.sendFeedback.noting .feedbackSent
  now := env.now.beside
  publish phase := (env.publish phase).noting fun _ => .published phase
  observers := env.observers.mapIdx fun number observer => observer.noting number

/-- The requests that a world has a transcript of. -/
def World.asks (w : World (σ × Transcript)) : List Ask := Transcript.asks w.outside.2

/-- What observers have heard, as far as a world has a transcript of it. -/
def World.hearings (w : World (σ × Transcript)) : List Hearing := Transcript.hearings w.outside.2

theorem Action.run_noting (entry : α → Entry) (action : Action σ α) (w : World (σ × Transcript)) :
    (action.noting entry).run w =
      let (a, after) := action.run w.forget
      (a, ⟨after.device, (after.outside, w.outside.2 ++ [entry a])⟩) := rfl

/-- A request is answered as before and noted with its answer. -/
theorem Environment.run_get_transcribed (env : Environment σ) (url : String)
    (since? : Option String) (w : World (σ × Transcript)) :
    (env.transcribed.get url since?).run.run w =
      let (answer, after) := (env.get url since?).run.run w.forget
      (answer, ⟨after.device,
        (after.outside, w.outside.2 ++ [.asked ⟨url, since?, answer⟩])⟩) := rfl

/-- To note what passes between the program and the outside changes nothing. -/
theorem Environment.mirrors_transcribed (env : Environment σ) : env.transcribed.Mirrors env where
  get _ _ _ := rfl
  syncUser _ := rfl
  refreshToken _ := rfl
  sendFeedback _ := rfl
  now _ := rfl
  publish _ _ := rfl
  observers :=
    mirrors_mapIdx (fun _ _ notice => by cases notice <;> exact fun _ => rfl) env.observers

end ConferenceSync
