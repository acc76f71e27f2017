import ConferenceSync.Store.Plan
import ConferenceSync.World.Observer

/-!
# Importing files

## Main definitions

* `ImportResult`, `importFiles` — writes the texts of data files to the database of a device
-/

namespace ConferenceSync

variable {σ : Type}

/-- What an import gives: what became of each file, the plan for the files that can be read, and the
number of mutations that were made, or why none was. -/
structure ImportResult where
  files : List (Except SyncError Unit)
  plan : Import.Plan
  applied : Except SyncError Nat

/-- Writes the texts of data files, each with its name, to the database of a device. Files that
cannot be read are passed over. -/
def importFiles (env : Environment σ) (rules : Agenda.GroupingRules) (mode : Import.Mode)
    (origin : Origin) (files : List (String × String)) : Action σ ImportResult := do
  let (data, results) := DataSet.empty.addEach files
  let db ← Action.read Device.db
  let plan := data.planFor rules mode db
  let applied ← (commitBatch env origin plan.batch).run
  return ⟨results, plan, applied⟩

end ConferenceSync
