import ConferenceSync.Store.Search
import ConferenceSync.World.Basic

/-!
# Observers

Batches are written with an environment whose observers hear of them afterwards, one notice after
another, and each notice in the order of the observers. One of the observers makes the index for
searches anew when sessions or speakers have changed: once for a batch of the synchronization, and
at each change for any other.

## Main definitions

* `indexUpdater` — the observer that keeps the index for searches
* `commitBatch` — writes a batch and gives notice of it
-/

namespace ConferenceSync

variable {σ : Type}

/-- Whether the texts in which sessions are searched follow from the data under a path. -/
def affectsIndex (path : String) : Bool :=
  path == Kind.path .sessions || path == Kind.path .speakers

/-- Makes the index for searches anew if it can be. -/
def rebuildIndex : Action σ Unit :=
  .change fun d =>
    let db :=
      match d.db.rebuildSearchIndex with
      | .ok (db, _) => db
      | .error _ => d.db
    { d with db := db, rebuilds := d.rebuilds + 1 }

/-- The observer that keeps the index for searches. -/
def indexUpdater : Observer σ where
  onChange path := if affectsIndex path then rebuildIndex else pure ()
  onBatch paths := if paths.any affectsIndex then rebuildIndex else pure ()

/-- Lets an observer hear of a notice. -/
def Observer.hear (observer : Observer σ) : Notice → Action σ Unit
  | .batch paths => observer.onBatch paths
  | .change path => observer.onChange path

/-- Lets observers hear of notices. -/
def announce (observers : List (Observer σ)) (notices : List Notice) : Action σ Unit :=
  notices.forM fun notice => observers.forM fun observer => observer.hear notice

/-- Writes a batch and gives notice of it. The number of mutations is returned. -/
def commitBatch (env : Environment σ) (origin : Origin) (batch : Batch) : Attempt σ Nat := do
  Attempt.write (·.commit batch)
  ExceptT.lift (announce env.observers (notices origin batch))
  return batch.length

end ConferenceSync
