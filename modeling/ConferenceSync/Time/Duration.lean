/-!
# Durations

A duration is a whole number of nanoseconds, of at most `2 ^ 64` seconds less one nanosecond.

## Main definitions

* `Duration` — the type, with `Duration.ofSeconds` and `Duration.ofParts`
* `Duration.scale?` — a multiple of a duration, if it is a duration
-/

namespace ConferenceSync.Time

/-- A span of time. -/
structure Duration where
  nanoseconds : Nat
  deriving DecidableEq, Repr

namespace Duration

/-- The least number of nanoseconds that is no duration. -/
def limit : Nat := 0x10000000000000000 * 1000000000

/-- A duration of whole seconds. -/
def ofSeconds (n : Nat) : Duration := ⟨n * 1000000000⟩

/-- A duration of seconds and nanoseconds. -/
def ofParts (seconds nanoseconds : Nat) : Duration := ⟨seconds * 1000000000 + nanoseconds⟩

/-- The whole seconds of a duration. -/
def seconds (d : Duration) : Nat := d.nanoseconds / 1000000000

/-- The nanoseconds of a duration after its whole seconds. -/
def subsecond (d : Duration) : Nat := d.nanoseconds % 1000000000

/-- The whole milliseconds of a duration. -/
def millis (d : Duration) : Nat := d.nanoseconds / 1000000

/-- A multiple of a duration, unless it is too long. -/
def scale? (d : Duration) (factor : Nat) : Option Duration :=
  if d.nanoseconds * factor < limit then some ⟨d.nanoseconds * factor⟩ else none

/-- The shorter of two durations. -/
def min (a b : Duration) : Duration := ⟨Nat.min a.nanoseconds b.nanoseconds⟩

end Duration

end ConferenceSync.Time
