import Mathlib.Data.List.TakeWhile
import ConferenceSync.Proofs.LowerCase
import ConferenceSync.Text.Pattern

/-!
# What patterns stand for

A pattern stands for characters by one rule for each of its characters: a percent sign takes any
number of them, an underscore takes one, and every other character takes one that compares equal.
To try all of that would mean to try every number for every percent sign. The search that takes the
first place for each piece finds a way whenever there is one, because what is left behind a later
place is also left, with more in front of it, behind an earlier one, and the next percent sign takes
the rest.

## Main definitions

* `Text.Denotes` — that a pattern stands for characters
* `Text.Occurs` — that it stands for some part of a text
* `Text.IsLiteral` — the characters that stand for nothing but themselves, in either case

## Main results

* `Text.matchesPattern_iff` — to take the first places misses nothing
* `Text.occursLike_iff` — what it is that is found in a text
* `Text.Denotes.count_le` — a character of a pattern that is no wildcard is there as often in what
  the pattern stands for
* `Text.denotes_iff_of_isLiteral` — a pattern without special characters stands for one text
* `Text.occurs_of_isInfix` — a text in which the pattern itself is
* `Text.contains_of_occurs_iff` — the patterns that all texts they are found in contain
-/

namespace ConferenceSync.Text

/-! ## Patterns -/

/-- Whether a character of a pattern, other than the percent sign, may stand for a character. -/
def StandsFor (p c : Char) : Prop := p = '_' ∨ comparedChar p = comparedChar c

/-- Whether a pattern stands for characters. A percent sign stands for any, and every other
character of the pattern for one. -/
inductive Denotes : List Char → List Char → Prop
  | nil : Denotes [] []
  | many {pattern cs : List Char} (extra : List Char) (rest : Denotes pattern cs) :
    Denotes ('%' :: pattern) (extra ++ cs)
  | one {p c : Char} {pattern cs : List Char} (single : p ≠ '%') (same : StandsFor p c)
    (rest : Denotes pattern cs) : Denotes (p :: pattern) (c :: cs)

section Denotes

variable {pattern piece cs rest : List Char} {p : Char}

@[simp] theorem denotes_nil_iff : Denotes [] cs ↔ cs = [] := by
  constructor
  · rintro ⟨⟩
    rfl
  · rintro rfl
    exact .nil

theorem denotes_many_iff :
    Denotes ('%' :: pattern) cs ↔ ∃ extra rest, cs = extra ++ rest ∧ Denotes pattern rest := by
  constructor
  · intro stands
    cases stands with
    | many extra rest => exact ⟨extra, _, rfl, rest⟩
    | one single => exact absurd rfl single
  · rintro ⟨extra, rest, rfl, stands⟩
    exact .many extra stands

theorem denotes_one_iff (single : p ≠ '%') :
    Denotes (p :: pattern) cs ↔
      ∃ c rest, cs = c :: rest ∧ StandsFor p c ∧ Denotes pattern rest := by
  constructor
  · intro stands
    cases stands with
    | many => exact absurd rfl single
    | one _ same rest => exact ⟨_, _, rfl, same, rest⟩
  · rintro ⟨c, rest, rfl, same, stands⟩
    exact .one single same stands

/-- A percent sign takes what comes before as well. -/
theorem Denotes.more (stands : Denotes ('%' :: pattern) cs) (extra : List Char) :
    Denotes ('%' :: pattern) (extra ++ cs) := by
  obtain ⟨own, rest, rfl, others⟩ := denotes_many_iff.1 stands
  rw [← List.append_assoc]
  exact .many (extra ++ own) others

/-- Patterns one after another stand for what they stand for, one after another. -/
theorem denotes_append_iff {more : List Char} : Denotes (pattern ++ more) cs ↔
    ∃ front rest, cs = front ++ rest ∧ Denotes pattern front ∧ Denotes more rest := by
  induction pattern generalizing cs with
  | nil =>
    rw [List.nil_append]
    constructor
    · exact fun stands => ⟨[], cs, rfl, .nil, stands⟩
    · rintro ⟨front, rest, rfl, none, stands⟩
      rwa [denotes_nil_iff.1 none]
  | cons p pattern ih =>
    rw [List.cons_append]
    by_cases many : p = '%'
    · subst many
      simp only [denotes_many_iff, ih]
      constructor
      · rintro ⟨extra, _, rfl, front, rest, rfl, first, second⟩
        exact ⟨extra ++ front, rest, by simp, ⟨extra, front, rfl, first⟩, second⟩
      · rintro ⟨_, rest, rfl, ⟨extra, front, rfl, first⟩, second⟩
        exact ⟨extra, front ++ rest, by simp, front, rest, rfl, first, second⟩
    · simp only [denotes_one_iff many, ih]
      constructor
      · rintro ⟨c, _, rfl, same, front, rest, rfl, first, second⟩
        exact ⟨c :: front, rest, rfl, ⟨c, front, rfl, same, first⟩, second⟩
      · rintro ⟨_, rest, rfl, ⟨c, front, rfl, same, first⟩, second⟩
        exact ⟨c, front ++ rest, rfl, same, front, rest, rfl, first, second⟩

/-- Without a percent sign a pattern stands for as many characters as it has. -/
theorem Denotes.length_eq (single : '%' ∉ piece) (stands : Denotes piece cs) :
    cs.length = piece.length := by
  induction stands with
  | nil => rfl
  | many => exact absurd List.mem_cons_self single
  | one _ _ _ ih =>
    rw [List.length_cons, List.length_cons, ih (List.not_mem_of_not_mem_cons single)]

/-- What compares equal to a pattern is something that it stands for, whatever is special in it. -/
theorem denotes_of_map_eq (same : pattern.map comparedChar = cs.map comparedChar) :
    Denotes pattern cs := by
  induction pattern generalizing cs with
  | nil =>
    rw [List.map_nil, eq_comm, List.map_eq_nil_iff] at same
    exact denotes_nil_iff.2 same
  | cons p pattern ih =>
    obtain ⟨c, rest, rfl, first, others⟩ := List.map_eq_cons_iff.1 same.symm
    by_cases many : p = '%'
    · subst many
      exact .many [c] (ih others.symm)
    · exact .one many (.inr first.symm) (ih others.symm)

/-- A character of a pattern that is no wildcard is there as often in what the pattern stands
for. -/
theorem Denotes.count_le (stands : Denotes pattern cs) {d : Char} (many : d ≠ '%') (one : d ≠ '_') :
    (pattern.map comparedChar).count d ≤ (cs.map comparedChar).count d := by
  induction stands with
  | nil => exact Nat.le_refl _
  | @many pattern cs extra _ ih =>
    have percent : comparedChar '%' = '%' := by decide
    rw [List.map_cons, percent, List.count_cons_of_ne many.symm, List.map_append, List.count_append]
    omega
  | @one p c pattern cs _ same _ ih =>
    rw [List.map_cons, List.map_cons, List.count_cons, List.count_cons]
    rcases same with rfl | same
    · have underscore : (comparedChar '_' == d) = false := by
        rw [beq_eq_false_iff_ne]
        exact one.symm
      rw [underscore, if_neg Bool.false_ne_true]
      omega
    · rw [same]
      omega

end Denotes

/-! ## Taking the first place -/

section Pieces

variable {piece cs rest : List Char} {pieces : List (List Char)}

/-- A piece is taken from the front exactly if what it stands for is there. -/
theorem afterPiece?_eq_some_iff (single : '%' ∉ piece) :
    afterPiece? piece cs = some rest ↔ ∃ front, cs = front ++ rest ∧ Denotes piece front := by
  induction piece generalizing cs with
  | nil => simp [afterPiece?]
  | cons p piece ih =>
    have first : p ≠ '%' := fun same => single (same ▸ List.mem_cons_self)
    have others := List.not_mem_of_not_mem_cons single
    cases cs with
    | nil => simp [afterPiece?, denotes_one_iff first]
    | cons c cs =>
      have fits : (p = '_' || comparedChar p = comparedChar c) = true ↔ StandsFor p c := by
        simp [StandsFor]
      rw [afterPiece?]
      simp only [denotes_one_iff first]
      split
      · next same =>
        rw [ih others]
        constructor
        · rintro ⟨front, rfl, stands⟩
          exact ⟨c :: front, rfl, c, front, rfl, fits.1 same, stands⟩
        · rintro ⟨_, split, _, front, rfl, -, stands⟩
          exact ⟨front, (List.cons.inj split).2, stands⟩
      · next other =>
        constructor
        · exact fun none => absurd none (by simp)
        · rintro ⟨_, split, d, front, rfl, same, -⟩
          exact absurd (fits.2 ((List.cons.inj split).1 ▸ same)) other

/-- What is found is one of the places of the piece. -/
theorem exists_of_searchPiece? (single : '%' ∉ piece) (found : searchPiece? piece cs = some rest) :
    ∃ skipped front, cs = skipped ++ (front ++ rest) ∧ Denotes piece front := by
  induction cs with
  | nil =>
    obtain ⟨front, split, stands⟩ := (afterPiece?_eq_some_iff single).1 found
    exact ⟨[], front, split, stands⟩
  | cons c cs ih =>
    rw [searchPiece?] at found
    split at found
    · next here =>
      obtain rfl := Option.some.inj found
      obtain ⟨front, split, stands⟩ := (afterPiece?_eq_some_iff single).1 here
      exact ⟨[], front, split, stands⟩
    · obtain ⟨skipped, front, rfl, stands⟩ := ih found
      exact ⟨c :: skipped, front, rfl, stands⟩

/-- If a piece has a place, then one is found that leaves at least as much behind. -/
theorem searchPiece?_first (single : '%' ∉ piece) {skipped front : List Char}
    (stands : Denotes piece front) :
    ∃ more, searchPiece? piece (skipped ++ (front ++ rest)) = some (more ++ rest) := by
  -- On what is skipped: the piece fits here, or it is looked for one character on.
  induction skipped with
  | nil =>
    have here : afterPiece? piece (front ++ rest) = some rest :=
      (afterPiece?_eq_some_iff single).2 ⟨front, rfl, stands⟩
    refine ⟨[], ?_⟩
    rw [List.nil_append, List.nil_append]
    cases whole : front ++ rest with
    | nil => rw [whole] at here; exact here
    | cons c cs => rw [whole] at here; rw [searchPiece?, here]
  | cons c skipped ih =>
    rw [List.cons_append, searchPiece?]
    split
    · next rest' here =>
      obtain ⟨own, split, ownStands⟩ := (afterPiece?_eq_some_iff single).1 here
      have ownLength := ownStands.length_eq single
      have length := stands.length_eq single
      have shorter : rest.length ≤ rest'.length := by
        have total := congrArg List.length split
        simp only [List.length_cons, List.length_append] at total
        omega
      have tail : rest <:+ rest' := by
        have there : rest <:+ c :: (skipped ++ (front ++ rest)) :=
          ⟨c :: (skipped ++ front), by simp⟩
        have here : rest' <:+ c :: (skipped ++ (front ++ rest)) := ⟨own, split.symm⟩
        exact List.suffix_of_suffix_length_le there here shorter
      obtain ⟨more, rfl⟩ := tail
      exact ⟨more, rfl⟩
    · exact ih

theorem endsWithPiece_iff (single : '%' ∉ piece) :
    endsWithPiece piece cs = true ↔
      ∃ skipped front, cs = skipped ++ front ∧ Denotes piece front := by
  rw [endsWithPiece, Bool.and_eq_true, decide_eq_true_iff, Option.isSome_iff_exists]
  constructor
  · rintro ⟨long, rest, taken⟩
    obtain ⟨front, split, stands⟩ := (afterPiece?_eq_some_iff single).1 taken
    have none : rest = [] := by
      have total := congrArg List.length split
      rw [List.length_drop, List.length_append, stands.length_eq single] at total
      exact List.length_eq_zero_iff.1 (by omega)
    rw [none, List.append_nil] at split
    have whole : cs = cs.take (cs.length - piece.length) ++ front := by
      rw [← split, List.take_append_drop]
    exact ⟨_, front, whole, stands⟩
  · rintro ⟨skipped, front, rfl, stands⟩
    have length := stands.length_eq single
    have start : (skipped ++ front).length - piece.length = skipped.length := by
      rw [List.length_append]
      omega
    refine ⟨by rw [List.length_append]; omega, [], ?_⟩
    rw [start, List.drop_left, afterPiece?_eq_some_iff single]
    exact ⟨front, (List.append_nil _).symm, stands⟩

/-- Pieces, each behind a percent sign, fit exactly if the first places can be taken. -/
theorem matchesPieces_iff (single : ∀ piece ∈ pieces, '%' ∉ piece) :
    matchesPieces pieces cs = true ↔ Denotes (pieces.flatMap ('%' :: ·)) cs := by
  induction pieces generalizing cs with
  | nil => simp [matchesPieces]
  | cons piece pieces ih =>
    have own := single piece List.mem_cons_self
    have others := fun p there => single p (List.mem_cons_of_mem piece there)
    rw [List.flatMap_cons, List.cons_append, denotes_many_iff]
    simp only [denotes_append_iff]
    cases pieces with
    | nil =>
      rw [matchesPieces, endsWithPiece_iff own]
      simp
    | cons next pieces =>
      simp only [matchesPieces]
      constructor
      · intro fits
        split at fits
        · next rest found =>
          obtain ⟨skipped, front, rfl, stands⟩ := exists_of_searchPiece? own found
          exact ⟨skipped, _, rfl, front, rest, rfl, stands, (ih others).1 fits⟩
        · exact absurd fits Bool.false_ne_true
      · rintro ⟨skipped, _, rfl, front, rest, rfl, stands, more⟩
        obtain ⟨extra, found⟩ : ∃ extra,
            searchPiece? piece (skipped ++ (front ++ rest)) = some (extra ++ rest) :=
          searchPiece?_first own stands
        rw [found]
        -- There is a percent sign before the next piece, which takes what is left over.
        exact (ih others).2 (Denotes.more more extra)

end Pieces

/-! ## Whole patterns -/

theorem exists_splitAt (sep : Char) (cs : List Char) : ∃ first pieces,
    splitAt sep cs = first :: pieces ∧ cs = first ++ pieces.flatMap (sep :: ·) ∧
      ∀ piece ∈ first :: pieces, sep ∉ piece := by
  induction cs with
  | nil => exact ⟨[], [], rfl, rfl, by simp⟩
  | cons c cs ih =>
    obtain ⟨first, pieces, parts, whole, single⟩ := ih
    rw [splitAt, parts]
    by_cases same : c = sep
    · refine ⟨[], first :: pieces, by simp [same], by simp [same, ← whole], ?_⟩
      simpa using single
    · refine ⟨c :: first, pieces, by simp [same], by simp [← whole], ?_⟩
      simpa [Ne.symm same] using single

/-- Characters fit a pattern exactly if it stands for them. -/
theorem matchesPattern_iff {pattern cs : List Char} :
    matchesPattern pattern cs = true ↔ Denotes pattern cs := by
  obtain ⟨first, pieces, parts, whole, single⟩ := exists_splitAt '%' pattern
  have own := single first List.mem_cons_self
  have others := fun p there => single p (List.mem_cons_of_mem first there)
  rw [matchesPattern, parts]
  dsimp only
  rw [whole, denotes_append_iff]
  constructor
  · intro fits
    split at fits
    · next rest taken =>
      obtain ⟨front, rfl, stands⟩ := (afterPiece?_eq_some_iff own).1 taken
      exact ⟨front, rest, rfl, stands, (matchesPieces_iff others).1 fits⟩
    · exact absurd fits Bool.false_ne_true
  · rintro ⟨front, rest, rfl, stands, more⟩
    rw [(afterPiece?_eq_some_iff own).2 ⟨front, rfl, stands⟩]
    exact (matchesPieces_iff others).2 more

/-! ## Occurrences -/

/-- Whether a pattern stands for some part of a text, both as far as to the first NUL. If there is
one in the pattern, the part is at the end of the text. -/
def Occurs (pattern text : String) : Prop :=
  ∃ before part after, beforeNul text.toList = before ++ (part ++ after) ∧
    Denotes (beforeNul pattern.toList) part ∧ ('\x00' ∈ pattern.toList → after = [])

theorem beforeNul_of_not_mem {cs : List Char} (whole : '\x00' ∉ cs) : beforeNul cs = cs := by
  refine List.takeWhile_eq_self_iff.2 fun c there => ?_
  rw [decide_eq_true_iff]
  rintro rfl
  exact whole there

theorem beforeNul_append_of_mem {cs more : List Char} (ended : '\x00' ∈ cs) :
    beforeNul (cs ++ more) = beforeNul cs := by
  rw [beforeNul, beforeNul, List.takeWhile_append, if_neg]
  intro same
  have all := List.takeWhile_eq_self_iff.1 ((List.takeWhile_prefix _).eq_of_length same)
  simpa using all _ ended

/-- A pattern is found in a text exactly if it stands for some part of it. -/
theorem occursLike_iff {pattern text : String} :
    occursLike pattern text = true ↔ Occurs pattern text := by
  have front (cs : List Char) : beforeNul ('%' :: cs) = '%' :: beforeNul cs := by
    simp [beforeNul]
  rw [occursLike, matchesPattern_iff, List.cons_append, front, denotes_many_iff, Occurs]
  by_cases ended : '\x00' ∈ pattern.toList
  · rw [beforeNul_append_of_mem ended]
    constructor
    · rintro ⟨before, part, split, stands⟩
      exact ⟨before, part, [], by rw [split, List.append_nil], stands, fun _ => rfl⟩
    · rintro ⟨before, part, after, split, stands, last⟩
      rw [last ended, List.append_nil] at split
      exact ⟨before, part, split, stands⟩
  · have whole : beforeNul (pattern.toList ++ ['%']) = beforeNul pattern.toList ++ ['%'] := by
      rw [beforeNul_of_not_mem ended, beforeNul_of_not_mem (by simp [ended])]
    rw [whole]
    simp only [denotes_append_iff, denotes_many_iff, denotes_nil_iff]
    constructor
    · rintro ⟨before, _, split, part, _, rfl, stands, after, _, rfl, rfl⟩
      exact ⟨before, part, after, by simpa using split, stands, fun there => absurd there ended⟩
    · rintro ⟨before, part, after, split, stands, -⟩
      exact ⟨before, _, split, part, after, rfl, stands, after, [], by simp, rfl⟩

/-- What is verbatim in a text is found in it, whatever is special in it. -/
theorem occurs_of_isInfix {pattern text : String} (inside : pattern.toList <:+: text.toList)
    (noNul : '\x00' ∉ text.toList) : Occurs pattern text := by
  have noneInPattern : '\x00' ∉ pattern.toList := fun there => noNul (inside.subset there)
  obtain ⟨before, after, whole⟩ := inside
  refine ⟨before, pattern.toList, after, ?_, ?_, fun there => absurd there noneInPattern⟩
  · rw [beforeNul_of_not_mem noNul, ← whole, List.append_assoc]
  · rw [beforeNul_of_not_mem noneInPattern]
    exact denotes_of_map_eq rfl

/-- A character that is no wildcard is in a text at least as often as in what is found there. -/
theorem Occurs.count_le {pattern text : String} (found : Occurs pattern text)
    (noNul : '\x00' ∉ pattern.toList) {d : Char} (many : d ≠ '%') (one : d ≠ '_') :
    (pattern.toList.map comparedChar).count d ≤ (text.toList.map comparedChar).count d := by
  obtain ⟨before, part, after, split, stands, -⟩ := found
  rw [beforeNul_of_not_mem noNul] at stands
  have inside : part.Sublist text.toList := by
    have own : part.Sublist (beforeNul text.toList) := by
      rw [split]
      exact (List.sublist_append_left part after).trans (List.sublist_append_right before _)
    exact own.trans (List.takeWhile_sublist _)
  exact (stands.count_le many one).trans ((inside.map comparedChar).count_le d)

/-- Where all characters keep their case, only the last ones of the basic plane count for others. -/
theorem count_map_comparedChar {cs : List Char} (kept : ∀ c ∈ cs, lowerAsciiChar c = c) {d : Char}
    (other : ¬(0xfffd ≤ d.toNat ∧ d.toNat ≤ 0xffff)) :
    (cs.map comparedChar).count d = cs.count d := by
  have same (c : Char) (there : c ∈ cs) : comparedChar c = d ↔ c = d := by
    rw [comparedChar]
    split
    · next last =>
      have value : c.toNat = 0xfffe ∨ c.toNat = 0xffff := by simpa using last
      constructor
      · rintro rfl
        exact absurd (by decide) other
      · rintro rfl
        omega
    · rw [kept c there]
  rw [List.count_eq_countP, List.countP_map, List.count_eq_countP]
  exact List.countP_congr fun c there => by simpa using same c there

/-! ## Literal characters -/

/-- Whether a character stands for itself and, should it be an ASCII letter, for the same letter in
the other case, but for nothing else. The last two characters of the basic plane compare equal to
the one before them, and a NUL cuts off what follows. -/
def IsLiteral (c : Char) : Prop :=
  c ≠ '%' ∧ c ≠ '_' ∧ c ≠ '\x00' ∧ ¬(0xfffd ≤ c.toNat ∧ c.toNat ≤ 0xffff)

instance (c : Char) : Decidable (IsLiteral c) := inferInstanceAs (Decidable (_ ∧ _))

/-- Whether a text contains another one, but for the case of ASCII letters. -/
def Contains (text part : String) : Prop :=
  part.toList.map lowerAsciiChar <:+: text.toList.map lowerAsciiChar

section Literal

variable {p c : Char} {pattern cs : List Char}

/-- What compares equal to a literal character is the same letter. -/
theorem comparedChar_eq_iff_of_isLiteral (literal : IsLiteral p) :
    comparedChar p = comparedChar c ↔ lowerAsciiChar p = lowerAsciiChar c := by
  obtain ⟨-, -, -, other⟩ := literal
  have own : comparedChar p = lowerAsciiChar p := by
    rw [comparedChar, if_neg]
    rw [Bool.or_eq_true, decide_eq_true_iff, decide_eq_true_iff]
    omega
  rw [own, comparedChar]
  split
  · next last =>
    have value : c.toNat = 0xfffe ∨ c.toNat = 0xffff := by simpa using last
    have replaced : lowerAsciiChar c = c := (lowerAsciiChar_eq_iff_of_le (by omega)).2 rfl
    rw [replaced, lowerAsciiChar_eq_iff_of_le (by decide), lowerAsciiChar_eq_iff_of_le (by omega)]
    constructor
    · rintro rfl
      exact absurd (by decide) other
    · rintro rfl
      omega
  · rfl

/-- A pattern of literal characters stands for one text, but for the case of ASCII letters. -/
theorem denotes_iff_of_isLiteral (literal : ∀ p ∈ pattern, IsLiteral p) :
    Denotes pattern cs ↔ pattern.map lowerAsciiChar = cs.map lowerAsciiChar := by
  induction pattern generalizing cs with
  | nil => rw [denotes_nil_iff, List.map_nil, eq_comm (a := []), List.map_eq_nil_iff]
  | cons p pattern ih =>
    have first := literal p List.mem_cons_self
    have others := fun q there => literal q (List.mem_cons_of_mem p there)
    rw [denotes_one_iff first.1, List.map_cons, eq_comm (b := cs.map _), List.map_eq_cons_iff]
    simp only [StandsFor, first.2.1, false_or, comparedChar_eq_iff_of_isLiteral first, ih others]
    constructor
    · rintro ⟨c, rest, rfl, same, more⟩
      exact ⟨c, rest, rfl, same.symm, more.symm⟩
    · rintro ⟨c, rest, rfl, same, more⟩
      exact ⟨c, rest, rfl, same.symm, more.symm⟩

end Literal

theorem beforeNul_isPrefix (cs : List Char) : beforeNul cs <+: cs := List.takeWhile_prefix _

theorem not_mem_beforeNul (cs : List Char) : '\x00' ∉ beforeNul cs := fun there => by
  simpa using List.mem_takeWhile_imp there

/-- If all its characters are literal, a text that a pattern is found in contains it. -/
theorem Occurs.contains {pattern text : String} (found : Occurs pattern text)
    (literal : ∀ p ∈ pattern.toList, IsLiteral p) : Contains text pattern := by
  obtain ⟨before, part, after, split, stands, -⟩ := found
  have noNul : '\x00' ∉ pattern.toList := fun there => (literal _ there).2.2.1 rfl
  rw [beforeNul_of_not_mem noNul, denotes_iff_of_isLiteral literal] at stands
  have inside : part <:+: text.toList := by
    refine List.IsInfix.trans ⟨before, after, ?_⟩ (beforeNul_isPrefix _).isInfix
    rw [split, List.append_assoc]
  rw [Contains, stands]
  exact inside.map _

/-! ### Texts that a pattern is found in without being in them -/

/-- A character, other than the one given, that a special character stands for. -/
def imitate (c : Char) : Char :=
  if c = '_' then 'x'
  else if c.toNat = 0xfffd then '\uffff'
  else if c.toNat = 0xfffe ∨ c.toNat = 0xffff then '\ufffd'
  else c

/-- Characters that a pattern stands for: nothing for a percent sign, and for any other special
character one that is not the same. -/
def imitation (pattern : List Char) : List Char :=
  ((beforeNul pattern).filter (· ≠ '%')).map imitate

theorem standsFor_imitate (c : Char) : StandsFor c (imitate c) := by
  rw [imitate]
  split
  · next same => exact .inl same
  · split
    · next same =>
      obtain rfl : c = '\ufffd' := Char.toNat_inj.1 same
      exact .inr (by decide)
    · split
      · next last =>
        right
        rw [comparedChar, if_pos (by simpa using last)]
        decide
      · exact .inr rfl

theorem denotes_imitate (pattern : List Char) :
    Denotes pattern ((pattern.filter (· ≠ '%')).map imitate) := by
  induction pattern with
  | nil => exact .nil
  | cons p pattern ih =>
    by_cases many : p = '%'
    · subst many
      exact .many [] ih
    · rw [List.filter_cons_of_pos (by simpa using many), List.map_cons]
      exact .one many (standsFor_imitate p) ih

theorem occurs_imitation (pattern : String) :
    Occurs pattern (String.ofList (imitation pattern.toList)) := by
  have noNul : '\x00' ∉ imitation pattern.toList := by
    intro there
    obtain ⟨c, listed, same⟩ := List.mem_map.1 there
    have own : c ≠ '\x00' := by
      rintro rfl
      exact not_mem_beforeNul _ (List.mem_filter.1 listed).1
    rw [imitate] at same
    split_ifs at same
    · exact absurd same (by decide)
    · exact absurd same (by decide)
    · exact absurd same (by decide)
    · exact own same
  refine ⟨[], imitation pattern.toList, [], ?_, denotes_imitate _, fun _ => rfl⟩
  rw [String.toList_ofList, beforeNul_of_not_mem noNul]
  simp

/-- An imitation contains the pattern only if there is nothing to imitate. -/
theorem isLiteral_of_contains_imitation {pattern : String}
    (contains : Contains (String.ofList (imitation pattern.toList)) pattern) :
    ∀ c ∈ pattern.toList, IsLiteral c := by
  rw [Contains, String.toList_ofList] at contains
  have length := contains.length_le
  have kept := List.length_filter_le (· ≠ '%') (beforeNul pattern.toList)
  have before := (beforeNul_isPrefix pattern.toList).length_le
  rw [imitation, List.length_map, List.length_map, List.length_map] at length
  -- The imitation is as long as the pattern, so there is neither a NUL nor a percent sign.
  have whole : beforeNul pattern.toList = pattern.toList :=
    (beforeNul_isPrefix _).eq_of_length (by omega)
  have single : pattern.toList.filter (· ≠ '%') = pattern.toList := by
    refine List.filter_sublist.eq_of_length ?_
    rw [whole] at length kept
    omega
  have same := contains.eq_of_length (by
    rw [imitation, whole, single, List.length_map, List.length_map, List.length_map])
  rw [imitation, whole, single, List.map_map, List.map_inj_left] at same
  intro c there
  have own := same c there
  have noNul : c ≠ '\x00' := by
    rintro rfl
    exact not_mem_beforeNul _ (whole ▸ there)
  have noPercent : c ≠ '%' := by
    have passes := (List.filter_eq_self.1 single) c there
    simpa using passes
  simp only [Function.comp_apply, imitate] at own
  split_ifs at own with underscore replacement last
  · subst underscore
    exact absurd own (by decide)
  · obtain rfl : c = '\ufffd' := Char.toNat_inj.1 replacement
    exact absurd own (by decide)
  · have kept : lowerAsciiChar c = c := (lowerAsciiChar_eq_iff_of_le (by omega)).2 rfl
    rw [kept, show lowerAsciiChar '\ufffd' = '\ufffd' by decide] at own
    subst own
    exact absurd last (by decide)
  · exact ⟨noPercent, underscore, noNul, by omega⟩

/-- A pattern is contained in all texts that it is found in exactly if its characters are
literal. -/
theorem contains_of_occurs_iff {pattern : String} :
    (∀ text, Occurs pattern text → Contains text pattern) ↔
      ∀ c ∈ pattern.toList, IsLiteral c := by
  constructor
  · exact fun all => isLiteral_of_contains_imitation (all _ (occurs_imitation pattern))
  · exact fun literal text found => found.contains literal

end ConferenceSync.Text
