import ConferenceSync.Time.Duration

/-!
# When to run again

How long to wait after a pass depends on how far off the conference is: it is long before, near or
during, or after it. After failures the wait starts short and doubles with each failure, up to the
regular one.

## Main definitions

* `Policy` — the dates of the conference and the waits
* `Policy.interval` — the regular wait at a time
* `Policy.nextDelay` — the wait after a number of failures
-/

namespace ConferenceSync.Sync

open Time

/-- The dates of a conference, in milliseconds, and the waits around it. It counts as near for the
time `lead` before its start, and `backoffBase` is the wait after one failure. -/
structure Policy where
  start : Int
  finish : Int
  lead : Int
  longBefore : Duration
  nearOrDuring : Duration
  after : Duration
  backoffBase : Duration
  deriving DecidableEq, Repr

namespace Policy

/-- The policy for a conference unless other waits are given. -/
def standard (start finish : Int) : Policy where
  start
  finish
  lead := 10 * 24 * 60 * 60 * 1000
  longBefore := .ofSeconds (6 * 60 * 60)
  nearOrDuring := .ofSeconds (2 * 60 * 60)
  after := .ofSeconds (12 * 60 * 60)
  backoffBase := .ofSeconds 30

/-- The regular wait at a time. -/
def interval (p : Policy) (now : Int) : Duration :=
  if now < p.start - p.lead then p.longBefore
  else if now ≤ p.finish then p.nearOrDuring
  else p.after

/-- The factor of the first wait after a positive number of failures. It doubles up to `2 ^ 31`
and then stays just below `2 ^ 32`. -/
def backoffFactor (failures : Nat) : Nat :=
  if failures ≤ 32 then Nat.pow 2 (failures - 1) else 0xffffffff

/-- The wait after a number of failures. A wait that would be too long for a duration gives way
to the regular one. -/
def nextDelay (p : Policy) (now : Int) (failures : Nat) : Duration :=
  if failures = 0 then p.interval now
  else
    match p.backoffBase.scale? (backoffFactor failures) with
    | some wait => wait.min (p.interval now)
    | none => p.interval now

end Policy

end ConferenceSync.Sync
