import ConferenceSync.Agenda.Session
import ConferenceSync.Fetch.Settings
import ConferenceSync.Sync.Policy

/-!
# Settings of the synchronization

## Main definitions

* `Seed` — the data that come with the program
* `Settings` — what to synchronize and how
-/

namespace ConferenceSync.Sync

/-- The data that come with the program, imported once on a device: the name of their file, its text
or why it cannot be read, and the date of the data. -/
structure Seed where
  name : String
  content : Except FileCause String
  timestamp : String

/-- The date of a seed unless another one is given, older than any data set. -/
def Seed.oldestTimestamp : String := "Thu, 01 Jan 1970 00:00:00 GMT"

/-- What to synchronize and how. -/
structure Settings where
  fetch : Fetch.Settings
  rules : Agenda.GroupingRules
  seed? : Option Seed
  policy : Policy

end ConferenceSync.Sync
