import Mathlib.Data.List.Basic
import ConferenceSync.Text.Blank
import ConferenceSync.Text.Digits

/-!
# Whole numbers are read back

The decimal text of a whole number is read as that number. It consists of digits, after a minus sign
if the number is negative, so it holds no blanks and nothing that separates the parts of a date.

## Main results

* `Text.toList_toString` — the characters of a whole number
* `Text.integerOf?_toString`, `Text.int64Of?_toString` — a number that is written is read back
-/

namespace ConferenceSync.Text

theorem naturalFrom_eq_ofDigitChars (n : Nat) (cs : List Char) :
    naturalFrom n cs = Nat.ofDigitChars 10 cs n := rfl

/-- A digit is not a blank. -/
theorem isBlank_eq_false_of_isDigit {c : Char} (digit : isDigit c = true) : isBlank c = false := by
  have range : 0x30 ≤ c.toNat ∧ c.toNat ≤ 0x39 := by
    simpa [isDigit, Char.le_def, UInt32.le_iff_toNat_le] using digit
  simp [isBlank]
  omega

/-! ## Natural numbers -/

theorem isDigit_of_mem_toDigits {n : Nat} {c : Char} (there : c ∈ Nat.toDigits 10 n) :
    isDigit c = true :=
  Nat.isDigit_of_mem_toDigits (by decide) (by decide) there

theorem naturalOf?_toDigits (n : Nat) : naturalOf? (Nat.toDigits 10 n) = some n := by
  have nonempty : (Nat.toDigits 10 n).isEmpty = false := by simp
  have digits : (Nat.toDigits 10 n).all isDigit = true :=
    List.all_eq_true.2 fun c there => isDigit_of_mem_toDigits there
  rw [naturalOf?, nonempty, digits, naturalFrom_eq_ofDigitChars, Nat.ofDigitChars_ten_toDigits]
  rfl

/-! ## Whole numbers -/

/-- A whole number is written with the digits of its absolute value, after a minus sign if it is
negative. -/
theorem toList_toString (n : Int) :
    (toString n).toList = (if n < 0 then ['-'] else []) ++ Nat.toDigits 10 n.natAbs := by
  cases n with
  | ofNat n => simp [toString, Int.repr]
  | negSucc n => simp [toString, Int.repr, Int.negSucc_lt_zero n]

theorem isDigit_or_eq_of_mem_toString {n : Int} {c : Char} (there : c ∈ (toString n).toList) :
    isDigit c = true ∨ c = '-' := by
  rw [toList_toString, List.mem_append] at there
  rcases there with sign | digit
  · split at sign
    · exact .inr (List.mem_singleton.1 sign)
    · exact absurd sign List.not_mem_nil
  · exact .inl (isDigit_of_mem_toDigits digit)

theorem exists_isDigit_toString (n : Int) : ∃ c ∈ (toString n).toList, c.isDigit = true := by
  obtain ⟨c, there⟩ := List.exists_mem_of_ne_nil _ (Nat.toDigits_ne_nil)
  refine ⟨c, ?_, isDigit_of_mem_toDigits there⟩
  rw [toList_toString]
  exact List.mem_append_right _ there

/-- A whole number that is written is read back. -/
theorem integerOf?_toString (n : Int) : integerOf? (toString n).toList = some n := by
  have digits := naturalOf?_toDigits n.natAbs
  rw [toList_toString]
  by_cases negative : n < 0
  · rw [if_pos negative, List.singleton_append, integerOf?, digits, Option.map_some]
    exact congrArg some (by rw [Int.ofNat_eq_natCast]; omega)
  · have unsigned : ∀ c ∈ Nat.toDigits 10 n.natAbs, isDigit c = true :=
      fun c => isDigit_of_mem_toDigits
    rw [if_neg negative, List.nil_append]
    revert digits unsigned
    generalize Nat.toDigits 10 n.natAbs = cs
    intro digits unsigned
    rw [integerOf?, digits, Option.map_some]
    · exact congrArg some (by rw [Int.ofNat_eq_natCast]; omega)
    · rintro rest rfl
      exact absurd (unsigned '+' List.mem_cons_self) (by decide)
    · rintro rest rfl
      exact absurd (unsigned '-' List.mem_cons_self) (by decide)

/-- A number that is written is read back, if it fits. -/
theorem int64Of?_toString {n : Int} (fits : FitsInt64 n) :
    int64Of? (toString n).toList = some n := by
  rw [int64Of?, integerOf?_toString, Option.filter_some, if_pos (decide_eq_true fits)]

theorem toString_int_injective : Function.Injective (toString : Int → String) := by
  intro m n same
  have read := integerOf?_toString m
  rw [same, integerOf?_toString] at read
  exact (Option.some.inj read).symm

end ConferenceSync.Text
