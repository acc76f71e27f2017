import Mathlib.Data.Nat.Digits.Defs
import ConferenceSync.Agenda.Color

/-!
# The colors that texts stand for

A color is written with six hexadecimal digits, or with eight if it has an alpha of its own. Blanks
around it and any number of `#` in front do not count. Whatever is written otherwise should be no
color. But a plus sign may stand in front of the digits, as it may in front of any number, and it is
counted among the six or eight characters. So a text with a sign is read as if a zero stood there:
five digits after a sign are a color, and so are seven, which are the color 0 only if they are all
zero.

## Main definitions

* `Text.IsHexDigit`, `Text.hexDigitValue` — the hexadecimal digits and their values
* `Text.IsHexadecimal`, `Text.hexNumber` — texts of digits alone and the numbers they stand for
* `Agenda.colorPart` — a text without what does not count
* `Agenda.colorOfDigits` — the color of six or eight digits, and 0 for whatever else
* `Agenda.zeroForSign` — characters with a zero in place of a sign

## Main results

* `Text.hexValue?_eq` — which characters are read as digits, and with which values
* `Agenda.hexNumber?_eq` — which characters are read as a number, and as which one
* `Agenda.colorOfText_eq` — a sign is read as a zero
* `Agenda.color_is_of_digits_iff` — the texts whose color is that of their digits
* `Agenda.signed_text_has_color` — these are not all texts
-/

namespace ConferenceSync

namespace Text

/-! ## Digits -/

/-- The hexadecimal digits. -/
def hexDigits : List Char := "0123456789abcdefABCDEF".toList

/-- Whether a character is a hexadecimal digit. -/
def IsHexDigit (c : Char) : Prop := c ∈ hexDigits

instance (c : Char) : Decidable (IsHexDigit c) := inferInstanceAs (Decidable (_ ∈ _))

/-- The value of a hexadecimal digit: its place among the digits, whichever case it has. -/
def hexDigitValue (c : Char) : Nat := "0123456789abcdef".toList.idxOf c.toLower

/-- What holds of each of the digits in turn holds of every digit. -/
theorem forall_isHexDigit {p : Char → Prop} [DecidablePred p]
    (each : hexDigits.all (fun d => decide (p d)) = true) {c : Char} (digit : IsHexDigit c) : p c :=
  of_decide_eq_true (List.all_eq_true.1 each c digit)

theorem hexValue?_of_isHexDigit {c : Char} (digit : IsHexDigit c) :
    hexValue? c = some (hexDigitValue c) :=
  forall_isHexDigit (p := fun d => hexValue? d = some (hexDigitValue d)) (by decide) digit

theorem hexDigitValue_lt {c : Char} (digit : IsHexDigit c) : hexDigitValue c < 16 :=
  forall_isHexDigit (p := fun d => hexDigitValue d < 16) (by decide) digit

theorem hexDigitValue_eq_zero_iff {c : Char} (digit : IsHexDigit c) :
    hexDigitValue c = 0 ↔ c = '0' :=
  forall_isHexDigit (p := fun d => hexDigitValue d = 0 ↔ d = '0') (by decide) digit

/-- Beyond the ASCII range no character is read as a digit. -/
theorem lt_of_hexValue?_isSome {c : Char} (read : (hexValue? c).isSome) : c.toNat < 128 := by
  by_contra large
  have beyond {lowest highest : Char} (low : highest.toNat < 128) :
      (lowest ≤ c && c ≤ highest) = false := by
    simp only [Bool.and_eq_false_iff, decide_eq_false_iff_not]
    exact .inr fun le => large (Nat.lt_of_le_of_lt le low)
  rw [hexValue?, beyond (by decide), beyond (by decide), beyond (by decide)] at read
  cases read

theorem isHexDigit_of_hexValue?_isSome {c : Char} (read : (hexValue? c).isSome) :
    IsHexDigit c := by
  have all : ∀ n : Fin 128, (hexValue? (Char.ofNat n)).isSome → IsHexDigit (Char.ofNat n) := by
    decide +kernel
  have own := all ⟨c.toNat, lt_of_hexValue?_isSome read⟩
  rw [Char.ofNat_toNat] at own
  exact own read

/-- The digits, and nothing else, are read as their values. -/
theorem hexValue?_eq (c : Char) :
    hexValue? c = if IsHexDigit c then some (hexDigitValue c) else none := by
  split
  · next digit => exact hexValue?_of_isHexDigit digit
  · next other =>
    rw [← Option.not_isSome_iff_eq_none]
    exact mt isHexDigit_of_hexValue?_isSome other

/-! ## Numbers -/

/-- Whether characters are hexadecimal digits alone. -/
def IsHexadecimal (cs : List Char) : Prop := ∀ c ∈ cs, IsHexDigit c

instance (cs : List Char) : Decidable (IsHexadecimal cs) := List.decidableBAll IsHexDigit cs

@[simp] theorem isHexadecimal_nil : IsHexadecimal [] := List.forall_mem_nil _

@[simp] theorem isHexadecimal_cons {c : Char} {cs : List Char} :
    IsHexadecimal (c :: cs) ↔ IsHexDigit c ∧ IsHexadecimal cs := List.forall_mem_cons

theorem isHexadecimal_zero_cons {cs : List Char} :
    IsHexadecimal ('0' :: cs) ↔ IsHexadecimal cs := by
  have zero : IsHexDigit '0' := by decide
  rw [isHexadecimal_cons, and_iff_right zero]

/-- The number that hexadecimal digits stand for; the last one counts ones. -/
def hexNumber (cs : List Char) : Nat := Nat.ofDigits 16 (cs.map hexDigitValue).reverse

theorem hexNumber_cons (c : Char) (cs : List Char) :
    hexNumber (c :: cs) = hexNumber cs + 16 ^ cs.length * hexDigitValue c := by
  rw [hexNumber, List.map_cons, Nat.ofDigits_reverse_cons, List.length_map, hexNumber]

theorem hexNumber_zero_cons (cs : List Char) : hexNumber ('0' :: cs) = hexNumber cs := by
  have zero : hexDigitValue '0' = 0 := by decide
  rw [hexNumber_cons, zero, Nat.mul_zero, Nat.add_zero]

theorem hexNumber_lt {cs : List Char} (digits : IsHexadecimal cs) :
    hexNumber cs < 16 ^ cs.length := by
  have values : ∀ v ∈ (cs.map hexDigitValue).reverse, v < 16 := by
    intro v there
    obtain ⟨c, listed, rfl⟩ := List.mem_map.1 (List.mem_reverse.1 there)
    exact hexDigitValue_lt (digits c listed)
  have below := Nat.ofDigits_lt_base_pow_length (by decide) values
  rwa [List.length_reverse, List.length_map] at below

/-- Digits stand for zero just if they are all zero. -/
theorem hexNumber_eq_zero_iff {cs : List Char} (digits : IsHexadecimal cs) :
    hexNumber cs = 0 ↔ ∀ c ∈ cs, c = '0' := by
  induction cs with
  | nil => simp [hexNumber]
  | cons c cs ih =>
    obtain ⟨here, later⟩ := isHexadecimal_cons.1 digits
    have large : 16 ^ cs.length ≠ 0 := by simp
    rw [hexNumber_cons, Nat.add_eq_zero_iff, Nat.mul_eq_zero, or_iff_right large,
      hexDigitValue_eq_zero_iff here, ih later, List.forall_mem_cons, and_comm]

/-- Digits are read on from the number that the digits before them stand for. -/
theorem foldlM_hexValue? (n : Nat) (cs : List Char) :
    cs.foldlM (fun n c => (hexValue? c).map (16 * n + ·)) n =
      if IsHexadecimal cs then some (16 ^ cs.length * n + hexNumber cs) else none := by
  induction cs generalizing n with
  | nil => simp [hexNumber]
  | cons c cs ih =>
    rw [List.foldlM_cons, hexValue?_eq]
    by_cases here : IsHexDigit c
    · -- What was read before moves up by one more place for each digit that is read.
      have number : 16 ^ cs.length * (16 * n + hexDigitValue c) + hexNumber cs =
          16 ^ (c :: cs).length * n + hexNumber (c :: cs) := by
        rw [hexNumber_cons, List.length_cons]
        ring
      rw [if_pos here, Option.map_some, Option.bind_eq_bind, Option.bind_some, ih, number]
      simp only [isHexadecimal_cons, here, true_and]
    · simp [here]

end Text

namespace Agenda

open Text

/-! ## Numbers with a sign -/

theorem hexNumber?_eq (cs : List Char) :
    hexNumber? cs = if cs ≠ [] ∧ IsHexadecimal cs then some (hexNumber cs) else none := by
  cases cs with
  | nil => rfl
  | cons c cs =>
    rw [hexNumber?, List.isEmpty_cons, if_neg Bool.false_ne_true, foldlM_hexValue?, Nat.mul_zero,
      Nat.zero_add]
    simp only [ne_eq, List.cons_ne_nil, not_false_eq_true, true_and]

/-- Characters with a zero in place of a sign in front. -/
def zeroForSign : List Char → List Char
  | '+' :: cs => '0' :: cs
  | cs => cs

theorem zeroForSign_of_unsigned {cs : List Char} (unsigned : ∀ rest, cs = '+' :: rest → False) :
    zeroForSign cs = cs := by
  rw [zeroForSign]
  exact unsigned

theorem length_zeroForSign (cs : List Char) : (zeroForSign cs).length = cs.length := by
  rw [zeroForSign.eq_def]
  split <;> rfl

/-- Where something else is there, a sign in front is read as a zero. -/
theorem signedHexNumber?_eq {cs : List Char} (more : 1 < cs.length) :
    signedHexNumber? cs =
      if IsHexadecimal (zeroForSign cs) then some (hexNumber (zeroForSign cs)) else none := by
  rw [signedHexNumber?.eq_def]
  split
  · next rest =>
    have nonempty : rest ≠ [] := by
      rintro rfl
      exact absurd more (by decide)
    rw [zeroForSign, hexNumber?_eq, hexNumber_zero_cons]
    simp only [nonempty, ne_eq, not_false_eq_true, true_and, isHexadecimal_zero_cons]
  · next unsigned =>
    have nonempty : cs ≠ [] := by
      rintro rfl
      exact absurd more (by decide)
    rw [zeroForSign_of_unsigned unsigned, hexNumber?_eq]
    simp only [nonempty, ne_eq, not_false_eq_true, true_and]

/-! ## Colors -/

/-- A text without the blanks around it and the `#` in front. -/
def colorPart (s : String) : List Char := (trim s).toList.dropWhile (· == '#')

/-- The color of six hexadecimal digits, which leave alpha at its most, or of eight, as a signed
number of 32 bits; whatever else has the color 0. -/
def colorOfDigits (cs : List Char) : Int :=
  if cs.length = 6 ∧ IsHexadecimal cs then
    (BitVec.ofNat 32 (0xff000000 + hexNumber cs)).toInt
  else if cs.length = 8 ∧ IsHexadecimal cs then
    (BitVec.ofNat 32 (hexNumber cs)).toInt
  else 0

section Digits

variable {cs : List Char}

theorem colorOfDigits_of_six (six : cs.length = 6) (digits : IsHexadecimal cs) :
    colorOfDigits cs = (0xff000000 + (hexNumber cs : Int)).bmod 0x100000000 := by
  rw [colorOfDigits, if_pos ⟨six, digits⟩, BitVec.toInt_ofNat']
  rfl

theorem colorOfDigits_of_eight (eight : cs.length = 8) (digits : IsHexadecimal cs) :
    colorOfDigits cs = (hexNumber cs : Int).bmod 0x100000000 := by
  rw [colorOfDigits, if_neg (by omega), if_pos ⟨eight, digits⟩, BitVec.toInt_ofNat']

theorem colorOfDigits_of_length_ne (notSix : cs.length ≠ 6) (notEight : cs.length ≠ 8) :
    colorOfDigits cs = 0 := by
  rw [colorOfDigits, if_neg fun both => notSix both.1, if_neg fun both => notEight both.1]

theorem colorOfDigits_of_not (other : ¬IsHexadecimal cs) : colorOfDigits cs = 0 := by
  rw [colorOfDigits, if_neg fun both => other both.2, if_neg fun both => other both.2]

/-- Six digits never have the color 0, since it has no alpha. -/
theorem colorOfDigits_neg (six : cs.length = 6) (digits : IsHexadecimal cs) :
    colorOfDigits cs < 0 := by
  have below := hexNumber_lt digits
  rw [six] at below
  rw [colorOfDigits_of_six six digits, Int.bmod_def]
  omega

/-- Seven digits after a zero stand for themselves, since they do not reach the sign bit. -/
theorem colorOfDigits_zero_cons (seven : cs.length = 7) (digits : IsHexadecimal cs) :
    colorOfDigits ('0' :: cs) = hexNumber cs := by
  have below := hexNumber_lt digits
  rw [seven] at below
  rw [colorOfDigits_of_eight (by simp [seven]) (isHexadecimal_zero_cons.2 digits),
    hexNumber_zero_cons, Int.bmod_def]
  omega

end Digits

/-- The color of a text is that of its digits, where a sign in front counts as a zero. -/
theorem colorOfText_eq (s : String) :
    colorOfText s = colorOfDigits (zeroForSign (colorPart s)) := by
  have part : (trimList s.toList).dropWhile (· == '#') = colorPart s := by
    rw [colorPart, toList_trim]
  rw [colorOfText, part]
  generalize colorPart s = cs
  have long := length_zeroForSign cs
  by_cases sized : cs.length = 6 ∨ cs.length = 8
  · rw [signedHexNumber?_eq (by omega)]
    by_cases digits : IsHexadecimal (zeroForSign cs)
    · rw [if_pos digits]
      rcases sized with six | eight
      · simp only [six, colorOfDigits_of_six (long.trans six) digits]
      · simp only [eight, colorOfDigits_of_eight (long.trans eight) digits]
    · rw [if_neg digits, colorOfDigits_of_not digits]
  · obtain ⟨notSix, notEight⟩ := not_or.1 sized
    rw [colorOfDigits_of_length_ne (by omega) (by omega)]
    simp [notSix, notEight]

/-- Digits after a sign have another color than 0 if they are five, or seven that are not all
zero. -/
theorem colorOfDigits_zero_cons_eq_zero_iff (cs : List Char) :
    colorOfDigits ('0' :: cs) = 0 ↔
      ¬(IsHexadecimal cs ∧ (cs.length = 5 ∨ cs.length = 7 ∧ ∃ c ∈ cs, c ≠ '0')) := by
  have long : ('0' :: cs).length = cs.length + 1 := List.length_cons
  by_cases digits : IsHexadecimal cs
  · by_cases five : cs.length = 5
    · have negative := colorOfDigits_neg (by omega) (isHexadecimal_zero_cons.2 digits)
      exact iff_of_false (Int.ne_of_lt negative) (not_not.2 ⟨digits, .inl five⟩)
    by_cases seven : cs.length = 7
    · rw [colorOfDigits_zero_cons seven digits, Int.natCast_eq_zero, hexNumber_eq_zero_iff digits,
        and_iff_right digits, or_iff_right five, and_iff_right seven]
      simp only [ne_eq, not_exists, not_and, not_not]
    · rw [colorOfDigits_of_length_ne (by omega) (by omega)]
      simp [five, seven]
  · rw [colorOfDigits_of_not (mt isHexadecimal_zero_cons.1 digits)]
    simp [digits]

/-- A sign is no digit, so it leaves no color. -/
theorem colorOfDigits_sign_cons (cs : List Char) : colorOfDigits ('+' :: cs) = 0 := by
  have sign : ¬IsHexDigit '+' := by decide
  exact colorOfDigits_of_not fun all => sign (isHexadecimal_cons.1 all).1

/-- The color of a text is the one of its six or eight hexadecimal digits, and 0 if it has not just
these, unless there is a sign in front of five digits, or of seven that are not all zero. In any
case it is the color that comes of a zero in place of a sign. -/
theorem color_is_of_digits_iff (s : String) :
    colorOfText s = colorOfDigits (zeroForSign (colorPart s)) ∧
      (colorOfText s = colorOfDigits (colorPart s) ↔
        ¬∃ cs, colorPart s = '+' :: cs ∧ IsHexadecimal cs ∧
          (cs.length = 5 ∨ cs.length = 7 ∧ ∃ c ∈ cs, c ≠ '0')) := by
  have color := colorOfText_eq s
  refine ⟨color, ?_⟩
  rw [color, zeroForSign.eq_def]
  split
  · next cs part =>
    rw [part, colorOfDigits_sign_cons, colorOfDigits_zero_cons_eq_zero_iff]
    simp only [List.cons.injEq, true_and, exists_eq_left']
  · next unsigned =>
    refine iff_of_true rfl ?_
    rintro ⟨cs, signed, -⟩
    exact unsigned cs signed

/-- Blanks, `#` and the case of letters do not count, and digits leave alpha at its most. -/
theorem color_is_of_digits_iff_indigo :
    colorPart " ##3F51b5\n" = "3F51b5".toList ∧
      colorOfText " ##3F51b5\n" = (0xff3f51b5 - 0x100000000 : Int) := by
  have part : colorPart " ##3F51b5\n" = "3F51b5".toList := by decide +kernel
  have unsigned : ¬∃ cs, colorPart " ##3F51b5\n" = '+' :: cs ∧ IsHexadecimal cs ∧
      (cs.length = 5 ∨ cs.length = 7 ∧ ∃ c ∈ cs, c ≠ '0') := by
    rw [part]
    rintro ⟨cs, signed, -⟩
    exact absurd (List.head_eq_of_cons_eq signed) (by decide)
  have color := (color_is_of_digits_iff " ##3F51b5\n").2.2 unsigned
  rw [part] at color
  exact ⟨part, color.trans (by decide +kernel)⟩

/-- A sign and five digits have a color, although they are not six digits. -/
theorem signed_text_has_color :
    colorPart "#+fffff" = "+fffff".toList ∧ colorOfText "#+fffff" = -15728641 ∧
      ¬∀ s, colorOfText s = colorOfDigits (colorPart s) := by
  have color : colorOfText "#+fffff" = -15728641 := by decide +kernel
  have noDigits : colorOfDigits (colorPart "#+fffff") = 0 := by decide +kernel
  refine ⟨by decide +kernel, color, fun all => ?_⟩
  have same := all "#+fffff"
  rw [color, noDigits] at same
  exact absurd same (by decide)

end Agenda

end ConferenceSync
