import ConferenceSync.Proofs.Turns
import ConferenceSync.World.Import

/-!
# What happens to a store

The database of a device is written to by whoever has a batch or data files for it, by the passes of
the synchronization, and by whoever wants the index for searches made anew. A property of the
database that each of these preserves holds however they follow each other.

## Main definitions

* `StoreEvent`, `StoreEvent.happen` — what may happen to a store
* `afterEvents` — the world after such events, one after another

## Main results

* `StoreEvent.preserves_happen`, `holds_after_events` — what is preserved by writing a batch with
  its notices, by what is kept about the synchronization, by making the index anew and by the
  outside is preserved by every event, and holds after any number of them
-/

namespace ConferenceSync

variable {σ : Type}

/-- What may happen to a store. -/
inductive StoreEvent where
  | apply (origin : Origin) (batch : Batch)
  | bring (rules : Agenda.GroupingRules) (mode : Import.Mode) (origin : Origin)
    (files : List (String × String))
  | reindex
  | turn (turn : Sync.Turn)

/-- Lets an event happen. What it gives is passed over. -/
def StoreEvent.happen (env : Environment σ) : StoreEvent → Action σ Unit
  | apply origin batch => (commitBatch env origin batch).ignored
  | bring rules mode origin files => do
    let _ ← importFiles env rules mode origin files
  | reindex => rebuildIndex
  | turn next => do
    let _ ← next.take env

/-- The world after events, one after another. -/
def afterEvents (env : Environment σ) (events : List StoreEvent) (w : World σ) : World σ :=
  events.foldl (fun w event => ((event.happen env).run w).2) w

section Preserves

variable {env : Environment σ} (Q : Database → σ → Prop)

/-- An import preserves what writing a batch preserves. -/
theorem preserves_importFiles {P : World σ → Prop} {origin : Origin}
    (batch : ∀ batch, (commitBatch env origin batch).run.Preserves P)
    (rules : Agenda.GroupingRules) (mode : Import.Mode) (files : List (String × String)) :
    (importFiles env rules mode origin files).Preserves P :=
  (Action.preserves_read _).bind fun _ => (batch _).bind fun _ => Action.preserves_pure _

variable (batch : ∀ origin batch,
    (commitBatch env origin batch).run.Preserves fun w => Q w.device.db w.outside)
  (set : ∀ db outside key value after, Metadata.set db key value = .ok after →
    Q db outside → Q after outside)
  (rebuild : (rebuildIndex : Action σ Unit).Preserves fun w => Q w.device.db w.outside)
  (parts : env.Preserves fun w => Q w.device.db w.outside)

include batch set parts in
/-- A property of the database and the outside is preserved by turns if it is preserved by their
writes and by the outside: the rest of what turns do is not about the database. -/
theorem preserves_take_of_about_database (turn : Sync.Turn) :
    (turn.take env).Preserves fun w => Q w.device.db w.outside := by
  have outlasts : Sync.OutlastsPasses env fun w : World σ => Q w.device.db w.outside := by
    refine ⟨⟨batch .sync, ?_⟩, fun _ _ held => held, fun _ _ held => held, fun _ held => held⟩
    intro w key value db _ written held
    exact set w.device.db w.outside key value db written held
  refine outlasts.preserves_take parts.toOthersPreserve ?_ (fun _ held => held)
    (fun _ held => held) turn
  intro settings reference?
  exact Fetch.preserves_fetchIfNewer parts.get (fun _ _ held => held) settings reference?

include batch set rebuild parts

theorem StoreEvent.preserves_happen (event : StoreEvent) :
    (event.happen env).Preserves fun w => Q w.device.db w.outside := by
  cases event with
  | apply origin mutations => exact Attempt.preserves_ignored (batch origin mutations)
  | bring rules mode origin files =>
    exact preserves_importFiles (batch origin) rules mode files
  | reindex => exact rebuild
  | turn next => exact preserves_take_of_about_database Q batch set parts next

/-- What each event preserves holds after any of them. -/
theorem holds_after_events (events : List StoreEvent) {w : World σ}
    (held : Q w.device.db w.outside) :
    Q (afterEvents env events w).device.db (afterEvents env events w).outside := by
  induction events generalizing w with
  | nil => exact held
  | cons event rest ih =>
    exact ih (StoreEvent.preserves_happen Q batch set rebuild parts event w held)

end Preserves

end ConferenceSync
