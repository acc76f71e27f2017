import ConferenceSync.Store.Query

/-!
# The attendee's schedule

Which sessions an attendee wants to see. Imports never change it.

## Main definitions

* `scheduleMark` — what is stored of a session that is in the schedule, or has been taken out
* `Database.setInSchedule` — the database with a session put into the schedule or taken out
* `Query.isInSchedule`, `Query.mySchedule` — whether a session is in it, and which are
-/

namespace ConferenceSync

/-- What is stored of a session that is in the schedule, or has been taken out. -/
def scheduleMark (inSchedule : Bool) : Int := if inSchedule then 1 else 0

/-- The database with a session put into the schedule or taken out. -/
def Database.setInSchedule (db : Database) (sessionId : String) (inSchedule : Bool) :
    Except QueryFailure Database :=
  orFailed ("failed to update schedule for " ++ sessionId) <|
    db.scheduleRows.map fun rows =>
      { db with schedule := some (rows.insert sessionId (scheduleMark inSchedule)) }

namespace Query

/-- Whether a session is in the schedule: any mark but 0 counts. -/
def isInSchedule (db : Database) (sessionId : String) : Except QueryFailure Bool :=
  orFailed ("failed to load schedule of " ++ sessionId) <|
    db.scheduleRows.map fun marks =>
      match marks.get? sessionId with
      | some mark => mark != 0
      | none => false

/-- The sessions in the schedule, as far as they are stored: those whose mark is 1. -/
def mySchedule (db : Database) : Except QueryFailure (List (StoredRow .sessions)) :=
  orFailed "failed to load my schedule" <| do
    let rows ← db.rows .sessions
    let marks ← db.scheduleRows
    return inOrder byStart <| rows.filter fun id _ => marks.get? id == some 1

end Query

end ConferenceSync
