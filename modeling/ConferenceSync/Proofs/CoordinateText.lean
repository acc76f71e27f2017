import Mathlib.Data.List.TakeWhile
import ConferenceSync.Agenda.Venue
import ConferenceSync.Proofs.Rounding
import ConferenceSync.Proofs.ShortestDecimal

/-!
# The text of a coordinate tells it apart

A coordinate is written with all its digits and at most one point among them, so its text can be
read as a decimal, which is the shortest one that reads back as the coordinate. Only numbers that
are none at all share their text.

## Main definitions

* `Number.textValue` — the rational number that digits with a point stand for

## Main results

* `Agenda.coordinateText_inj` — coordinates with the same text are the same
-/

namespace ConferenceSync

namespace Number

/-- The rational number that digits with at most one point among them stand for. -/
def textValue (cs : List Char) : ℚ :=
  let whole := cs.takeWhile (· != '.')
  let fraction := (cs.dropWhile (· != '.')).tail
  Nat.ofDigitChars 10 (whole ++ fraction) 0 / 10 ^ fraction.length

private theorem all_ne_point {cs : List Char} (digits : '.' ∉ cs) :
    ∀ c ∈ cs, (c != '.') = true := by
  intro c there
  rw [bne_iff_ne]
  rintro rfl
  exact digits there

theorem textValue_whole {whole : List Char} (digits : '.' ∉ whole) :
    textValue whole = Nat.ofDigitChars 10 whole 0 := by
  have all := all_ne_point digits
  simp [textValue, List.takeWhile_eq_self_iff.2 all, List.dropWhile_eq_nil_iff.2 all]

theorem textValue_point {whole fraction : List Char} (digits : '.' ∉ whole) :
    textValue (whole ++ '.' :: fraction) =
      Nat.ofDigitChars 10 (whole ++ fraction) 0 / 10 ^ fraction.length := by
  have all := all_ne_point digits
  have front : (whole ++ '.' :: fraction).takeWhile (· != '.') = whole := by
    rw [List.takeWhile_append_of_pos all]
    simp
  have back : (whole ++ '.' :: fraction).dropWhile (· != '.') = '.' :: fraction := by
    rw [List.dropWhile_append_of_pos all]
    simp
  simp only [textValue, front, back, List.tail_cons]

theorem not_mem_toDigits {c : Char} (other : c.isDigit = false) (n : Nat) :
    c ∉ Nat.toDigits 10 n := by
  intro there
  have digit := Nat.isDigit_of_mem_toDigits (by norm_num) (by norm_num) there
  rw [other] at digit
  simp at digit

/-- Without an exponent a decimal is written as it is. -/
theorem textValue_renderPositional (n : Nat) (point : Int) :
    textValue (DecimalLayout.plain.renderPositional (Nat.toDigits 10 n) point) =
      n * 10 ^ (point - (Nat.toDigits 10 n).length) := by
  have noPoint : '.' ∉ Nat.toDigits 10 n := not_mem_toDigits rfl n
  have value := Nat.ofDigitChars_ten_toDigits (n := n)
  generalize Nat.toDigits 10 n = digits at noPoint value
  have shift {count : Nat} {k : Int} (same : k = -count) :
      (n : ℚ) / 10 ^ count = n * 10 ^ k := by
    rw [same, zpow_neg, zpow_natCast, div_eq_mul_inv]
  -- The point stands before all digits, after all of them, or among them.
  rw [DecimalLayout.renderPositional]
  split
  · next small =>
    have front : '.' ∉ ['0'] := by simp
    have zeros : Nat.ofDigitChars 10 (['0'] ++ (List.replicate (-point).toNat '0' ++ digits)) 0
        = n := by
      rw [Nat.ofDigitChars_append, Nat.ofDigitChars_append, Nat.ofDigitChars_replicate_zero]
      exact value
    show textValue (['0'] ++ '.' :: (List.replicate (-point).toNat '0' ++ digits)) = _
    rw [textValue_point front, zeros, List.length_append, List.length_replicate]
    exact shift (by omega)
  · split
    · next large =>
      have plain : DecimalLayout.plain.pointZero = false := rfl
      rw [plain, if_neg (by simp), List.append_nil, textValue_whole (by simp [noPoint]),
        Nat.ofDigitChars_append, value, Nat.ofDigitChars_replicate_zero, mul_comm]
      have count : point - digits.length = (point.toNat - digits.length : Nat) := by omega
      rw [count, zpow_natCast]
      push_cast
      rfl
    · next inside =>
      rw [textValue_point fun there => noPoint (List.mem_of_mem_take there), List.take_append_drop,
        value, List.length_drop]
      exact shift (by omega)

/-! ## Texts of numbers -/

namespace Binary64

/-- The text of a finite number without its sign. -/
def magnitudeText (x : Binary64) : List Char :=
  if x.isZero then ['0']
  else
    let d := Decimal.shortest .away x
    DecimalLayout.plain.renderPositional (Nat.toDigits 10 d.digits)
      (d.exponent + (Nat.toDigits 10 d.digits).length)

theorem isZero_iff {x : Binary64} : x.isZero = true ↔ x.mantissa = 0 := by
  have below := x.fractionField_lt
  rw [isZero, mantissa, Bool.and_eq_true, beq_iff_eq, beq_iff_eq]
  split <;> omega

/-- The text of a finite number reads back as the number. -/
theorem near_magnitudeText (x : Binary64) : x.Near (textValue x.magnitudeText) := by
  rw [magnitudeText]
  split
  · next zero =>
    have none := isZero_iff.1 zero
    have low : x.lowQuarters = 0 := by
      rcases x.lowQuarters_cases with ⟨h, -⟩ | ⟨h, -⟩ <;> omega
    have pos := x.quarter_pos
    have text : textValue ['0'] = 0 := by
      rw [textValue_whole (by simp)]
      simp [Nat.ofDigitChars_cons]
    rw [Near, if_pos (by omega), text, low, none]
    norm_num
    linarith
  · next nonzero =>
    rw [textValue_renderPositional, add_sub_cancel_right]
    exact near_shortest (fun none => nonzero (isZero_iff.2 none)) .away

/-- The text of a finite number has digits and a point only. -/
theorem isDigit_or_eq_of_mem_magnitudeText {x : Binary64} {c : Char} (there : c ∈ x.magnitudeText) :
    c.isDigit = true ∨ c = '.' := by
  have digit {n : Nat} (there : c ∈ Nat.toDigits 10 n) : c.isDigit = true :=
    Nat.isDigit_of_mem_toDigits (by norm_num) (by norm_num) there
  have zero (same : c = '0') : c.isDigit = true := by rw [same]; rfl
  rw [magnitudeText] at there
  split at there
  · exact .inl (zero (List.mem_singleton.1 there))
  · simp only [DecimalLayout.renderPositional] at there
    split at there
    · rw [List.mem_cons, List.mem_cons, List.mem_append] at there
      rcases there with first | point | zeros | rest
      · exact .inl (zero first)
      · exact .inr point
      · exact .inl (zero (List.eq_of_mem_replicate zeros))
      · exact .inl (digit rest)
    · split at there
      · rw [List.mem_append, List.mem_append] at there
        rcases there with (first | zeros) | none
        · exact .inl (digit first)
        · exact .inl (zero (List.eq_of_mem_replicate zeros))
        · simp [DecimalLayout.plain] at none
      · rw [List.mem_append, List.mem_cons] at there
        rcases there with first | point | rest
        · exact .inl (digit (List.mem_of_mem_take first))
        · exact .inr point
        · exact .inl (digit (List.mem_of_mem_drop rest))

theorem render_of_isFinite {x : Binary64} (finite : x.isFinite = true) :
    DecimalLayout.plain.render x =
      String.ofList ((if x.isNegative then ['-'] else []) ++ x.magnitudeText) := by
  rw [DecimalLayout.render, finite]
  rfl

theorem render_of_isInfinite {x : Binary64} (infinite : x.isInfinite = true) :
    DecimalLayout.plain.render x =
      String.ofList ((if x.isNegative then ['-'] else []) ++ ['i', 'n', 'f']) := by
  have notFinite : x.isFinite = false := by
    rw [isInfinite, Bool.and_eq_true, beq_iff_eq] at infinite
    simp [isFinite, infinite.1]
  rw [DecimalLayout.render, notFinite, infinite]
  cases x.isNegative <;> rfl

end Binary64

end Number

namespace Agenda

open Number Binary64

/-- A sign and what follows it can be told apart if no minus sign follows. -/
theorem sign_append_inj {a b : Bool} {u v : List Char} (hu : '-' ∉ u) (hv : '-' ∉ v)
    (same : (if a then ['-'] else []) ++ u = (if b then ['-'] else []) ++ v) : a = b ∧ u = v := by
  cases a with
  | true =>
    cases b with
    | true => simpa using same
    | false => exact absurd (by simp [← (show _ = v from same)]) hv
  | false =>
    cases b with
    | true => exact absurd (by simp [(show u = _ from same)]) hu
    | false => exact ⟨rfl, same⟩

theorem minus_not_mem_magnitudeText (x : Binary64) : '-' ∉ x.magnitudeText := by
  intro there
  have := isDigit_or_eq_of_mem_magnitudeText there
  simp at this

/-- The text of a finite number is not the word for infinity. -/
theorem magnitudeText_ne_inf (x : Binary64) : x.magnitudeText ≠ ['i', 'n', 'f'] := by
  intro same
  have there : 'i' ∈ x.magnitudeText := by simp [same]
  have := isDigit_or_eq_of_mem_magnitudeText there
  simp at this

/-- Coordinates with the same text are the same. -/
theorem coordinateText_inj {x y : Binary64} (hx : x.IsNumber) (hy : y.IsNumber)
    (same : coordinateText x = coordinateText y) : x = y := by
  have inf : '-' ∉ ['i', 'n', 'f'] := by simp
  have minus := minus_not_mem_magnitudeText
  rw [coordinateText, coordinateText] at same
  rcases hx with finiteX | infiniteX <;> rcases hy with finiteY | infiniteY
  · rw [render_of_isFinite finiteX, render_of_isFinite finiteY] at same
    obtain ⟨sign, text⟩ := sign_append_inj (minus x) (minus y) (String.ofList_injective same)
    have nearX := near_magnitudeText x
    rw [text] at nearX
    obtain ⟨mantissas, exponents⟩ := eq_of_near nearX (near_magnitudeText y)
    exact eq_of_magnitude sign mantissas exponents
  · rw [render_of_isFinite finiteX, render_of_isInfinite infiniteY] at same
    have text := (sign_append_inj (minus x) inf (String.ofList_injective same)).2
    exact absurd text (magnitudeText_ne_inf x)
  · rw [render_of_isInfinite infiniteX, render_of_isFinite finiteY] at same
    have text := (sign_append_inj inf (minus y) (String.ofList_injective same)).2
    exact absurd text.symm (magnitudeText_ne_inf y)
  · rw [render_of_isInfinite infiniteX, render_of_isInfinite infiniteY] at same
    have sign := (sign_append_inj inf inf (String.ofList_injective same)).1
    simp only [isInfinite, Bool.and_eq_true, beq_iff_eq] at infiniteX infiniteY
    exact eq_of_fields sign (infiniteX.1.trans infiniteY.1.symm)
      (infiniteX.2.trans infiniteY.2.symm)

end Agenda

end ConferenceSync
