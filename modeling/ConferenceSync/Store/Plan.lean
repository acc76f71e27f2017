import ConferenceSync.Import.Plan
import ConferenceSync.Store.Database

/-!
# Plans for a database

## Main definitions

* `DataSet.planFor` — the plan that brings a database up to date with a data set
-/

namespace ConferenceSync

/-- The plan that brings a database up to date with a data set. A table whose fingerprints cannot
be read is loaded anew. -/
def DataSet.planFor (d : DataSet) (rules : Agenda.GroupingRules) (mode : Import.Mode)
    (db : Database) : Import.Plan :=
  d.plan rules mode fun table => (db.fingerprints table).toOption

end ConferenceSync
