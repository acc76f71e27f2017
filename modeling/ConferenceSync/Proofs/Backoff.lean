import Mathlib.Order.Basic
import ConferenceSync.Sync.Policy
import ConferenceSync.Text.Digits

/-!
# How the wait grows with failures

After failures the wait is the shorter one of two: the regular wait, and the wait after one failure
multiplied by a factor. The product is exact. If it is too long for a duration, it is longer than
the regular wait as well, which takes its place. The factor doubles with each failure, but it has
only 32 bits: from the 33rd failure on it stays as it is. So the wait stops doubling there, and
whoever starts with a wait so short that it is not yet the regular one by then never gets there.

## Main definitions

* `Duration.Fits` — that a number of nanoseconds is a duration
* `Policy.RegularFit` — that the regular waits are durations
* `Policy.doubledWait` — the wait that doubles with each failure, up to the regular one

## Main results

* `Duration.scale?_eq_some_iff` — a multiple in seconds and nanoseconds
* `Policy.nextDelay_of_pos` — the wait as the shorter one of two
* `Policy.nextDelay_doubles_iff` — when the wait is the one that doubles
* `Policy.not_always_doubled` — a wait that stops doubling before it is the regular one
-/

namespace ConferenceSync

namespace Time.Duration

/-- Whether a number of nanoseconds is a duration. -/
def Fits (d : Duration) : Prop := d.nanoseconds < limit

instance (d : Duration) : Decidable d.Fits := inferInstanceAs (Decidable (_ < _))

/-- A multiple has a multiple of the seconds, with those that the nanoseconds carry over; it is a
duration if these seconds have 64 bits. -/
theorem scale?_eq_some_iff {d multiple : Duration} {factor : Nat} :
    d.scale? factor = some multiple ↔
      d.seconds * factor + d.subsecond * factor / 1000000000 < 0x10000000000000000 ∧
        multiple.seconds = d.seconds * factor + d.subsecond * factor / 1000000000 ∧
        multiple.subsecond = d.subsecond * factor % 1000000000 := by
  obtain ⟨n⟩ := d
  obtain ⟨m⟩ := multiple
  have size : limit = 0x10000000000000000 * 1000000000 := rfl
  simp only [scale?, seconds, subsecond]
  have parts : n * factor = 1000000000 * (n / 1000000000 * factor) + n % 1000000000 * factor := by
    rw [← Nat.mul_assoc, ← Nat.add_mul, Nat.div_add_mod]
  rw [parts]
  generalize n / 1000000000 * factor = whole
  generalize n % 1000000000 * factor = rest
  split_ifs with short
  · rw [Option.some.injEq, mk.injEq]
    omega
  · simp only [false_iff, not_and]
    omega

theorem nanoseconds_min (a b : Duration) :
    (a.min b).nanoseconds = Min.min a.nanoseconds b.nanoseconds := rfl

/-- The shorter one of a multiple and a duration is that duration if the multiple is none. -/
theorem min_scale? (d : Duration) (factor : Nat) {other : Duration} (fits : other.Fits) :
    (match d.scale? factor with
      | some multiple => multiple.min other
      | none => other) = Duration.min ⟨d.nanoseconds * factor⟩ other := by
  rw [scale?]
  split_ifs with short
  · rfl
  · have longer : other.nanoseconds ≤ d.nanoseconds * factor := by
      rw [Fits] at fits
      omega
    exact congrArg mk (Nat.min_eq_right longer).symm

end Time.Duration

namespace Sync

open Time

namespace Policy

variable {p : Policy} {now : Int} {failures fewer more : Nat}

/-- Whether the regular waits are durations. -/
structure RegularFit (p : Policy) : Prop where
  longBefore : p.longBefore.Fits
  nearOrDuring : p.nearOrDuring.Fits
  after : p.after.Fits

theorem RegularFit.interval (fit : p.RegularFit) (now : Int) : (p.interval now).Fits := by
  rw [Policy.interval]
  split_ifs
  · exact fit.longBefore
  · exact fit.nearOrDuring
  · exact fit.after

/-- The wait after a number of failures that doubles with each of them after the first, up to the
regular wait. -/
def doubledWait (p : Policy) (now : Int) (failures : Nat) : Duration :=
  Duration.min ⟨p.backoffBase.nanoseconds * Nat.pow 2 (failures - 1)⟩ (p.interval now)

/-! ## The factor -/

theorem backoffFactor_of_le (few : failures ≤ 32) :
    backoffFactor failures = Nat.pow 2 (failures - 1) := if_pos few

theorem backoffFactor_of_lt (many : 32 < failures) : backoffFactor failures = 0xffffffff :=
  if_neg (Nat.not_le.2 many)

/-- With many failures the factor falls behind the one that doubles. -/
theorem backoffFactor_lt (many : 32 < failures) :
    backoffFactor failures < Nat.pow 2 (failures - 1) := by
  rw [backoffFactor_of_lt many]
  have large : 2 ^ 32 ≤ 2 ^ (failures - 1) := Nat.pow_le_pow_right Nat.two_pos (by omega)
  exact Nat.lt_of_lt_of_le (by decide) large

theorem backoffFactor_mono (le : fewer ≤ more) : backoffFactor fewer ≤ backoffFactor more := by
  rcases Nat.lt_or_ge 32 more with many | few
  · rw [backoffFactor_of_lt many]
    rcases Nat.lt_or_ge 32 fewer with many | few
    · exact Nat.le_of_eq (backoffFactor_of_lt many)
    · rw [backoffFactor_of_le few]
      have small : 2 ^ (fewer - 1) ≤ 2 ^ 31 := Nat.pow_le_pow_right Nat.two_pos (by omega)
      exact Nat.le_trans small (by decide)
  · rw [backoffFactor_of_le few, backoffFactor_of_le (Nat.le_trans le few)]
    exact Nat.pow_le_pow_right Nat.two_pos (Nat.sub_le_sub_right le 1)

/-! ## The wait -/

/-- After failures the wait is the shorter one of two. -/
theorem nextDelay_of_pos (fit : p.RegularFit) (failed : 0 < failures) :
    p.nextDelay now failures =
      Duration.min ⟨p.backoffBase.nanoseconds * backoffFactor failures⟩ (p.interval now) := by
  rw [nextDelay, if_neg (Nat.pos_iff_ne_zero.1 failed)]
  exact Duration.min_scale? _ _ (fit.interval now)

theorem nextDelay_zero : p.nextDelay now 0 = p.interval now := if_pos rfl

theorem nextDelay_le (fit : p.RegularFit) :
    (p.nextDelay now failures).nanoseconds ≤ (p.interval now).nanoseconds := by
  rcases Nat.eq_zero_or_pos failures with rfl | failed
  · exact Nat.le_of_eq (congrArg _ nextDelay_zero)
  · rw [nextDelay_of_pos fit failed]
    exact Nat.min_le_right _ _

theorem nextDelay_mono (fit : p.RegularFit) (failed : 0 < fewer) (le : fewer ≤ more) :
    (p.nextDelay now fewer).nanoseconds ≤ (p.nextDelay now more).nanoseconds := by
  rw [nextDelay_of_pos fit failed, nextDelay_of_pos fit (Nat.lt_of_lt_of_le failed le)]
  have longer := Nat.mul_le_mul_left p.backoffBase.nanoseconds (backoffFactor_mono le)
  exact Nat.le_min.2 ⟨Nat.le_trans (Nat.min_le_left _ _) longer, Nat.min_le_right _ _⟩

/-- With many failures the wait is the one that doubles only if it is the regular one by then, or
there is nothing to double. -/
theorem nextDelay_eq_doubledWait_iff (fit : p.RegularFit) (many : 32 < failures) :
    p.nextDelay now failures = p.doubledWait now failures ↔
      p.backoffBase.nanoseconds = 0 ∨
        (p.interval now).nanoseconds ≤ p.backoffBase.nanoseconds * 0xffffffff := by
  have behind := backoffFactor_lt many
  rw [nextDelay_of_pos fit (by omega), doubledWait, ← backoffFactor_of_lt many]
  constructor
  · intro same
    rcases Nat.eq_zero_or_pos p.backoffBase.nanoseconds with none | some
    · exact .inl none
    · -- The wait that doubles is longer, unless both are cut off at the regular one.
      have shorter := Nat.mul_lt_mul_of_pos_left behind some
      have lengths := congrArg Duration.nanoseconds same
      simp only [Duration.nanoseconds_min] at lengths
      exact .inr (by omega)
  · rintro (none | reached)
    · rw [none, Nat.zero_mul, Nat.zero_mul]
    · have longer := Nat.mul_le_mul_left p.backoffBase.nanoseconds (Nat.le_of_lt behind)
      refine congrArg Duration.mk ?_
      exact (Nat.min_eq_right reached).trans (Nat.min_eq_right (Nat.le_trans reached longer)).symm

/-- The wait after failures is exactly the one that doubles with each of them, up to the regular
one, for at most 32 failures; with more of them it is the regular wait or the first one times
`2 ^ 32 - 1`, and so the one that doubles just if the latter is not the shorter of these, or the
first wait is none at all. It is never longer than the regular wait and never gets shorter with
more failures; without failures it is the regular one. -/
theorem nextDelay_doubles_iff (p : Policy) (fit : p.RegularFit) (now : Int) :
    p.nextDelay now 0 = p.interval now ∧
      (∀ failures, 32 < failures → p.nextDelay now failures =
        Duration.min ⟨p.backoffBase.nanoseconds * 0xffffffff⟩ (p.interval now)) ∧
      (∀ failures, 0 < failures →
        (p.nextDelay now failures = p.doubledWait now failures ↔
          failures ≤ 32 ∨ p.backoffBase.nanoseconds = 0 ∨
            (p.interval now).nanoseconds ≤ p.backoffBase.nanoseconds * 0xffffffff)) ∧
      (∀ failures,
        (p.nextDelay now failures).nanoseconds ≤ (p.interval now).nanoseconds) ∧
      ∀ fewer more, 0 < fewer → fewer ≤ more →
        (p.nextDelay now fewer).nanoseconds ≤ (p.nextDelay now more).nanoseconds := by
  refine ⟨nextDelay_zero, fun failures many => ?_, fun failures failed => ?_,
    fun _ => nextDelay_le fit, fun _ _ => nextDelay_mono fit⟩
  · rw [nextDelay_of_pos fit (by omega), backoffFactor_of_lt many]
  · rcases Nat.lt_or_ge 32 failures with many | few
    · rw [nextDelay_eq_doubledWait_iff fit many, or_iff_right (Nat.not_le.2 many)]
    · refine iff_of_true ?_ (.inl few)
      rw [nextDelay_of_pos fit failed, backoffFactor_of_le few, doubledWait]

/-- A policy that waits a nanosecond after one failure. -/
def hasty : Policy := { standard 0 1 with backoffBase := ⟨1⟩ }

theorem regularFit_hasty : hasty.RegularFit := ⟨by decide, by decide, by decide⟩

/-- The wait of a nanosecond has doubled for 31 times after 32 failures, and not once more after
33. -/
theorem nextDelay_doubles_iff_hasty :
    hasty.RegularFit ∧ hasty.nextDelay 0 32 = hasty.doubledWait 0 32 ∧
      hasty.nextDelay 0 33 ≠ hasty.doubledWait 0 33 := by
  obtain ⟨-, -, iff, -⟩ := nextDelay_doubles_iff hasty regularFit_hasty 0
  exact ⟨regularFit_hasty, (iff 32 (by decide)).2 (.inl (by decide)),
    fun same => absurd ((iff 33 (by decide)).1 same) (by decide)⟩

/-- After 64 failures that wait is still less than five seconds, although the one that doubles is
the regular one of two hours. -/
theorem not_always_doubled :
    hasty.RegularFit ∧ Text.FitsInt64 (hasty.start - hasty.lead) ∧
      hasty.nextDelay 0 64 = ⟨4294967295⟩ ∧ hasty.doubledWait 0 64 = .ofSeconds (2 * 60 * 60) ∧
      ¬∀ (p : Policy) (now : Int) (failures : Nat), p.RegularFit → p.backoffBase.Fits →
        Text.FitsInt64 (p.start - p.lead) → 0 < failures →
          p.nextDelay now failures = p.doubledWait now failures := by
  have apart : hasty.nextDelay 0 64 ≠ hasty.doubledWait 0 64 := by decide +kernel
  exact ⟨regularFit_hasty, by decide, by decide +kernel, by decide +kernel,
    fun all => apart (all hasty 0 64 regularFit_hasty (by decide) (by decide) (by decide))⟩

end Policy

end Sync

end ConferenceSync
