import ConferenceSync.Store.Commit
import ConferenceSync.Text.Blank
import ConferenceSync.Text.Digits

/-!
# What is kept about the synchronization

Texts under keys, some of which stand for numbers.

## Main definitions

* `Metadata.get?`, `Metadata.set` — the text under a key
* `Metadata.integer?`, `Metadata.setInteger` — the number under a key
* `Metadata.lastDataTimestamp?`, `Metadata.isBootstrapped`, `Metadata.consecutiveFailures` — what
  a pass wants to know
-/

namespace ConferenceSync.Metadata

/-- The date of the data set that was written last. -/
def dataTimestampKey : String := "last_data_timestamp"

/-- Whether the seed has been taken care of. -/
def bootstrapKey : String := "bootstrap_done"

/-- When the last pass started. -/
def lastAttemptKey : String := "last_attempt_millis"

/-- When the last pass succeeded. -/
def lastSuccessKey : String := "last_success_millis"

/-- How long to wait after the last pass. -/
def intervalKey : String := "sync_interval_millis"

/-- The number of failures in a row. -/
def failuresKey : String := "consecutive_failures"

/-- The text under a key. -/
def get? (db : Database) (key : String) : Except SyncError (Option String) :=
  Database.attempt ("read metadata " ++ key) <| db.metadataRows.map (·.get? key)

/-- The database with a text under a key. -/
def set (db : Database) (key value : String) : Except SyncError Database :=
  Database.attempt ("write metadata " ++ key) <|
    db.metadataRows.map fun rows => { db with metadata := some (rows.insert key value) }

/-- The signed 64-bit number under a key; a text that is none counts as nothing. -/
def integer? (db : Database) (key : String) : Except SyncError (Option Int) :=
  (get? db key).map fun value => value.bind fun s => Text.int64Of? s.toList

/-- The database with a number under a key. -/
def setInteger (db : Database) (key : String) (value : Int) : Except SyncError Database :=
  set db key (toString value)

/-- The date of the data set that was written last; a blank one counts as nothing. -/
def lastDataTimestamp? (db : Database) : Except SyncError (Option String) :=
  (get? db dataTimestampKey).map fun value => value.filter fun s => !Text.isBlankText s

/-- The database with the date of the data set that was written last. -/
def setLastDataTimestamp (db : Database) (value : String) : Except SyncError Database :=
  set db dataTimestampKey value

/-- Whether the seed has been taken care of. -/
def isBootstrapped (db : Database) : Except SyncError Bool :=
  (get? db bootstrapKey).map fun value => value == some "1"

/-- The database with the seed taken care of. -/
def markBootstrapped (db : Database) : Except SyncError Database :=
  set db bootstrapKey "1"

/-- The number of failures in a row, a 32-bit number; a negative number counts as none. -/
def consecutiveFailures (db : Database) : Except SyncError Nat :=
  (integer? db failuresKey).map fun value => (value.getD 0).toNat % 0x100000000

end ConferenceSync.Metadata
