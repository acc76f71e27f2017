import Mathlib.Data.List.Basic
import Mathlib.Data.List.Infix
import Mathlib.Data.List.TakeWhile
import ConferenceSync.Agenda.Identity
import ConferenceSync.Proofs.LowerCase

/-!
# Slugs stand for themselves

A slug is made of words, which consist of alphanumeric characters that are their own lower case, and
single dashes between them. Whatever has this form is its own slug. Every slug has it: a character
may have a lower case of several characters, and some of these may not be alphanumeric, but none of
them has another lower case. So a slug is made once, and an id that is a slug stands for itself.

## Main definitions

* `Text.IsSlug` — the form of a slug
* `Text.SlugTail` — what may come after an alphanumeric character of a slug

## Main results

* `Text.slugList_eq_self` — what has the form of a slug is its own slug
* `Text.isSlug_slug` — every slug has the form
* `Text.slug_eq_empty_iff` — the texts without a slug
* `Agenda.slugs_stand_for_themselves` — slugs, and the ids that are slugs
-/

namespace ConferenceSync

namespace Text

/-! ## Blanks and digits -/

theorem mem_dropWhile_of_not {p : Char → Bool} {cs : List Char} {c : Char} (there : c ∈ cs)
    (kept : p c = false) : c ∈ cs.dropWhile p := by
  rw [← List.takeWhile_append_dropWhile (p := p) (l := cs), List.mem_append] at there
  refine there.resolve_left fun dropped => ?_
  rw [List.mem_takeWhile_imp dropped] at kept
  simp at kept

theorem mem_trimList_of_not_isBlank {cs : List Char} {c : Char} (there : c ∈ cs)
    (kept : isBlank c = false) : c ∈ trimList cs := by
  rw [trimList, dropEndWhile, List.mem_reverse]
  refine mem_dropWhile_of_not (List.mem_reverse.2 ?_) kept
  exact mem_dropWhile_of_not there kept

theorem mem_of_mem_trimList {cs : List Char} {c : Char} (there : c ∈ trimList cs) : c ∈ cs := by
  rw [trimList, dropEndWhile, List.mem_reverse] at there
  have kept := (List.dropWhile_sublist _).mem there
  exact (List.dropWhile_sublist _).mem (List.mem_reverse.1 kept)

/-- Characters without a blank at either end are not cut. -/
theorem trimList_eq_self {cs : List Char} (first : ∀ c ∈ cs.head?, isBlank c = false)
    (last : ∀ c ∈ cs.getLast?, isBlank c = false) : trimList cs = cs := by
  have front : cs.dropWhile isBlank = cs := by
    cases cs with
    | nil => rfl
    | cons c cs => exact List.dropWhile_cons_of_neg (by simp [first c rfl])
  rw [trimList, front, dropEndWhile_eq_self_iff]
  exact last

/-- Blanks on either side do not count. -/
theorem trimList_between {front back : List Char} (before : ∀ c ∈ front, isBlank c = true)
    (after : ∀ c ∈ back, isBlank c = true) (cs : List Char) :
    trimList (front ++ (cs ++ back)) = trimList cs := by
  have gone : dropEndWhile isBlank back = [] := by
    rw [dropEndWhile, List.reverse_eq_nil_iff, List.dropWhile_eq_nil_iff]
    exact fun c there => after c (List.mem_reverse.1 there)
  rw [trimList, List.dropWhile_append_of_pos before, List.dropWhile_append]
  split
  · next blank =>
    rw [trimList, List.isEmpty_iff.1 blank, List.dropWhile_eq_nil_iff.2 after]
  · rw [trimList, dropEndWhile, List.reverse_append, List.dropWhile_append_of_pos]
    · rfl
    · exact fun c there => after c (List.mem_reverse.1 there)

/-- The code points of the blanks. -/
def blankPoints : List Nat :=
  [0x09, 0x0a, 0x0b, 0x0c, 0x0d, 0x20, 0x85, 0xa0, 0x1680, 0x2000, 0x2001, 0x2002, 0x2003, 0x2004,
    0x2005, 0x2006, 0x2007, 0x2008, 0x2009, 0x200a, 0x2028, 0x2029, 0x202f, 0x205f, 0x3000]

theorem toNat_mem_blankPoints {c : Char} (blank : isBlank c = true) : c.toNat ∈ blankPoints := by
  simp only [isBlank, Bool.or_eq_true, Bool.and_eq_true, beq_iff_eq, decide_eq_true_iff] at blank
  simp only [blankPoints, List.mem_cons, List.not_mem_nil, or_false]
  omega

/-- A blank is its own lower case, and it is not alphanumeric. -/
theorem isLowered_of_isBlank {c : Char} (blank : isBlank c = true) :
    IsLowered c ∧ isAlphanumeric c = false := by
  have all : ∀ n ∈ blankPoints, IsLowered (Char.ofNat n) ∧
      isAlphanumeric (Char.ofNat n) = false := by decide +kernel
  have own := all c.toNat (toNat_mem_blankPoints blank)
  rwa [Char.ofNat_toNat] at own

theorem isBlank_eq_false_of_isAlphanumeric {c : Char} (kept : isAlphanumeric c = true) :
    isBlank c = false := by
  by_contra blank
  rw [Bool.not_eq_false] at blank
  rw [(isLowered_of_isBlank blank).2] at kept
  cases kept

/-- Digits are neither blank nor in upper case, and they are kept in slugs. -/
theorem kept_of_isDigit {c : Char} (digit : c.isDigit = true) :
    isBlank c = false ∧ lowerChar c = [c] ∧ isAlphanumeric c = true := by
  have digits : ∀ n < 10, isBlank (Char.ofNat (48 + n)) = false ∧
      lowerChar (Char.ofNat (48 + n)) = [Char.ofNat (48 + n)] ∧
      isAlphanumeric (Char.ofNat (48 + n)) = true := by decide +kernel
  have low : 48 ≤ c.toNat := (Char.isDigit_iff_toNat.1 digit).1
  have high : c.toNat ≤ 57 := (Char.isDigit_iff_toNat.1 digit).2
  have kept := digits (c.toNat - 48) (by omega)
  rwa [Nat.add_sub_cancel' low, Char.ofNat_toNat] at kept

theorem isLowered_dash : IsLowered '-' := by decide +kernel

theorem isAlphanumeric_dash : isAlphanumeric '-' = false := by decide +kernel

theorem ne_dash_of_isAlphanumeric {c : Char} (kept : isAlphanumeric c = true) : c ≠ '-' := by
  rintro rfl
  rw [isAlphanumeric_dash] at kept
  cases kept

/-! ## The form of a slug -/

/-- Whether characters have the form of a slug: words of alphanumeric characters that are their own
lower case, with single dashes between them. -/
structure IsSlug (cs : List Char) : Prop where
  kept : ∀ c ∈ cs, c = '-' ∨ isAlphanumeric c = true ∧ IsLowered c
  first : cs.head? ≠ some '-'
  last : cs.getLast? ≠ some '-'
  single : ¬['-', '-'] <:+: cs

/-- What may come after an alphanumeric character of a slug. -/
inductive SlugTail : List Char → Prop where
  | done : SlugTail []
  | keep {c : Char} {rest : List Char} (kept : isAlphanumeric c = true) (lowered : IsLowered c)
      (tail : SlugTail rest) : SlugTail (c :: rest)
  | dash {c : Char} {rest : List Char} (kept : isAlphanumeric c = true) (lowered : IsLowered c)
      (tail : SlugTail rest) : SlugTail ('-' :: c :: rest)

section Form

variable {c : Char} {cs rest : List Char} {gap : Bool}

theorem slugAfter_of_isAlphanumeric (kept : isAlphanumeric c = true) (gap : Bool)
    (rest : List Char) :
    slugAfter gap (c :: rest) =
      if gap then '-' :: c :: slugAfter false rest else c :: slugAfter false rest := by
  rw [slugAfter, if_pos kept]

theorem slugAfter_dash (gap : Bool) (rest : List Char) :
    slugAfter gap ('-' :: rest) = slugAfter true rest := by
  rw [slugAfter, if_neg (by simp [isAlphanumeric_dash])]

/-- What comes after the first character of a slug has the form that it may have. -/
theorem slugTail_slugAfter (lowered : ∀ c ∈ cs, IsLowered c) (gap : Bool) :
    SlugTail (slugAfter gap cs) := by
  induction cs generalizing gap with
  | nil => exact .done
  | cons c cs ih =>
    have own := lowered c List.mem_cons_self
    have rest := ih fun d there => lowered d (List.mem_cons_of_mem c there)
    by_cases kept : isAlphanumeric c = true
    · rw [slugAfter_of_isAlphanumeric kept]
      cases gap
      · exact .keep kept own (rest false)
      · exact .dash kept own (rest false)
    · rw [slugAfter, if_neg kept]
      exact rest true

/-- What has that form is left as it is. -/
theorem SlugTail.slugAfter_eq (tail : SlugTail cs) : slugAfter false cs = cs := by
  induction tail with
  | done => rfl
  | keep kept _ _ ih => rw [slugAfter_of_isAlphanumeric kept, ih, if_neg (by decide)]
  | dash kept _ _ ih =>
    rw [slugAfter_dash, slugAfter_of_isAlphanumeric kept, ih, if_pos rfl]

theorem SlugTail.kept (tail : SlugTail cs) :
    ∀ c ∈ cs, c = '-' ∨ isAlphanumeric c = true ∧ IsLowered c := by
  induction tail with
  | done => simp
  | keep kept lowered _ ih => exact List.forall_mem_cons.2 ⟨.inr ⟨kept, lowered⟩, ih⟩
  | dash kept lowered _ ih =>
    exact List.forall_mem_cons.2 ⟨.inl rfl, List.forall_mem_cons.2 ⟨.inr ⟨kept, lowered⟩, ih⟩⟩

/-- After an alphanumeric character it ends with one as well. -/
theorem SlugTail.getLast?_ne (tail : SlugTail cs) (kept : isAlphanumeric c = true) :
    (c :: cs).getLast? ≠ some '-' := by
  induction tail generalizing c with
  | done => simpa using ne_dash_of_isAlphanumeric kept
  | keep next _ _ ih => exact ih next
  | dash next _ _ ih => exact ih next

theorem SlugTail.not_infix (tail : SlugTail cs) : ¬['-', '-'] <:+: cs := by
  induction tail with
  | done => simp
  | keep kept _ _ ih =>
    rw [List.infix_cons_iff, List.cons_prefix_cons]
    exact not_or.2 ⟨fun same => ne_dash_of_isAlphanumeric kept same.1.symm, ih⟩
  | dash kept _ _ ih =>
    have apart := (ne_dash_of_isAlphanumeric kept).symm
    simp only [List.infix_cons_iff, List.cons_prefix_cons, apart, ih, false_and, and_false,
      or_self, not_false_eq_true]

theorem getLast?_ne_of_cons {d : Char} (last : (c :: rest).getLast? ≠ some d) :
    rest.getLast? ≠ some d := by
  intro same
  refine last ?_
  rw [List.getLast?_cons, same]
  rfl

/-- Words and single dashes may come after an alphanumeric character, unless a dash comes last. -/
theorem slugTail_of_kept : ∀ {cs : List Char},
    (∀ c ∈ cs, c = '-' ∨ isAlphanumeric c = true ∧ IsLowered c) → cs.getLast? ≠ some '-' →
      ¬['-', '-'] <:+: cs → SlugTail cs
  | [], _, _, _ => .done
  | c :: rest, kept, last, single => by
    obtain ⟨here, later⟩ := List.forall_mem_cons.1 kept
    have others : ¬['-', '-'] <:+: rest := fun there => single (List.infix_cons there)
    rcases here with rfl | ⟨alphanumeric, lowered⟩
    · match rest, later, last, single, others with
      | [], _, last, _, _ => exact absurd rfl last
      | d :: rest, later, last, single, others =>
        obtain ⟨next, later⟩ := List.forall_mem_cons.1 later
        rcases next with rfl | ⟨alphanumeric, lowered⟩
        · exact absurd (List.IsPrefix.isInfix ⟨rest, rfl⟩) single
        · refine .dash alphanumeric lowered (slugTail_of_kept later ?_ ?_)
          · exact getLast?_ne_of_cons (getLast?_ne_of_cons last)
          · exact fun there => others (List.infix_cons there)
    · exact .keep alphanumeric lowered
        (slugTail_of_kept later (getLast?_ne_of_cons last) others)

end Form

/-! ## Slugs -/

section Slugs

variable {cs : List Char} {s : String}

/-- Characters have no slug if none of them is alphanumeric. -/
theorem slugList_eq_nil_iff : slugList cs = [] ↔ ∀ c ∈ cs, isAlphanumeric c = false := by
  rw [slugList]
  split
  · next none => simpa [List.dropWhile_eq_nil_iff] using none
  · next c rest some =>
    have there : ¬∀ c ∈ cs, isAlphanumeric c = false := by
      intro none
      rw [List.dropWhile_eq_nil_iff.2 fun c there => by simp [none c there]] at some
      cases some
    simp [there]

/-- The slug of characters that are their own lower case has the form of a slug. -/
theorem isSlug_slugList (lowered : ∀ c ∈ cs, IsLowered c) : IsSlug (slugList cs) := by
  rw [slugList]
  split
  · exact ⟨by simp, by simp, by simp, by simp⟩
  · next c rest split =>
    have own : ∀ d ∈ c :: rest, IsLowered d := fun d there =>
      lowered d ((List.dropWhile_sublist _).mem (split ▸ there))
    have kept : isAlphanumeric c = true := by
      simpa [split] using List.head?_dropWhile_not (fun c => !isAlphanumeric c) cs
    have tail := slugTail_slugAfter (fun d there => own d (List.mem_cons_of_mem c there)) false
    have whole : SlugTail (c :: slugAfter false rest) := .keep kept (own c List.mem_cons_self) tail
    refine ⟨whole.kept, ?_, tail.getLast?_ne kept, whole.not_infix⟩
    simpa using ne_dash_of_isAlphanumeric kept

/-- What has the form of a slug is its own slug. -/
theorem slugList_eq_self (form : IsSlug cs) : slugList cs = cs := by
  have tail := slugTail_of_kept form.kept form.last form.single
  cases tail with
  | done => rfl
  | keep kept _ tail =>
    rw [slugList, List.dropWhile_cons_of_neg (by simp [kept])]
    exact congrArg (List.cons _) tail.slugAfter_eq
  | dash => exact absurd rfl form.first

theorem toList_slug (s : String) :
    (slug s).toList = slugList ((trimList s.toList).flatMap lowerChar) := by
  rw [slug, String.toList_ofList]

/-- Every slug has the form of one. -/
theorem isSlug_slug (s : String) : IsSlug (slug s).toList := by
  rw [toList_slug]
  refine isSlug_slugList fun d there => ?_
  obtain ⟨c, -, image⟩ := List.mem_flatMap.1 there
  exact (isLowered_of_mem_lowerChar image).1

/-- Characters that are their own lower case are not changed. -/
theorem flatMap_lowerChar (lowered : ∀ c ∈ cs, IsLowered c) : cs.flatMap lowerChar = cs := by
  induction cs with
  | nil => rfl
  | cons c cs ih =>
    obtain ⟨own, others⟩ := List.forall_mem_cons.1 lowered
    rw [List.flatMap_cons, own, ih others]
    rfl

namespace IsSlug

theorem isLowered (form : IsSlug cs) : ∀ c ∈ cs, IsLowered c := by
  intro c there
  rcases form.kept c there with rfl | ⟨-, lowered⟩
  · exact isLowered_dash
  · exact lowered

theorem trimList_eq (form : IsSlug cs) : trimList cs = cs := by
  have solid : ∀ c ∈ cs, c ≠ '-' → isBlank c = false := fun c there other =>
    isBlank_eq_false_of_isAlphanumeric ((form.kept c there).resolve_left other).1
  refine trimList_eq_self (fun c first => ?_) fun c last => ?_
  · exact solid c (List.mem_of_mem_head? first) fun dash => form.first (dash ▸ first)
  · exact solid c (List.mem_of_mem_getLast? last) fun dash => form.last (dash ▸ last)

theorem slug_eq (form : IsSlug s.toList) : slug s = s := by
  rw [slug, form.trimList_eq, flatMap_lowerChar form.isLowered, slugList_eq_self form,
    String.ofList_toList]

theorem trim_eq (form : IsSlug s.toList) : trim s = s := by
  rw [trim, form.trimList_eq, String.ofList_toList]

end IsSlug

/-- A text has no slug if no character of its lower case is alphanumeric; blanks do not matter. -/
theorem slug_eq_empty_iff :
    slug s = "" ↔ ∀ c ∈ s.toList.flatMap lowerChar, isAlphanumeric c = false := by
  rw [← String.toList_eq_nil_iff, toList_slug, slugList_eq_nil_iff]
  simp only [List.mem_flatMap, forall_exists_index, and_imp]
  constructor
  · intro none d c there image
    by_cases blank : isBlank c = true
    · obtain ⟨lowered, skipped⟩ := isLowered_of_isBlank blank
      rw [lowered, List.mem_singleton] at image
      rw [image, skipped]
    · exact none d c (mem_trimList_of_not_isBlank there (Bool.not_eq_true _ ▸ blank)) image
  · intro none d c there
    exact none d c (mem_of_mem_trimList there)

/-- A text with a digit has a slug. -/
theorem slug_ne_empty {c : Char} (there : c ∈ s.toList) (digit : c.isDigit = true) :
    slug s ≠ "" := by
  obtain ⟨-, lowered, kept⟩ := kept_of_isDigit digit
  intro none
  have skipped := slug_eq_empty_iff.1 none c (List.mem_flatMap.2 ⟨c, there, by simp [lowered]⟩)
  rw [kept] at skipped
  cases skipped

end Slugs

end Text

namespace Agenda

open Text

theorem resolveId?_of_ne_empty {id : String} (given : Text.trim id ≠ "") (others : List String) :
    resolveId? id others = some (Text.trim id) := by
  rw [resolveId?, if_pos (by simpa using given)]

theorem resolveId?_of_eq_empty {id : String} (blank : Text.trim id = "") (others : List String) :
    resolveId? id others = (others.map slug).find? (· != "") := by
  rw [resolveId?, if_neg (by simp [blank])]

/-- A slug has the form of a slug, it is empty just if no character of the lower case of its text is
alphanumeric, and it is its own slug. An id that another text stands in for is a slug that is not
empty and has no blanks at its ends: it stands for itself, whether it is given as an id or as a text
that stands in for one. -/
theorem slugs_stand_for_themselves (x : String) :
    IsSlug (slug x).toList ∧
      (slug x = "" ↔ ∀ c ∈ x.toList.flatMap lowerChar, isAlphanumeric c = false) ∧
      slug (slug x) = slug x ∧
      ∀ id substitutes resolved, Text.trim id = "" → resolveId? id substitutes = some resolved →
        resolved ≠ "" ∧ Text.trim resolved = resolved ∧
          (∀ others, resolveId? resolved others = some resolved) ∧
          ∀ others, resolveId? id (resolved :: others) = some resolved := by
  refine ⟨isSlug_slug x, slug_eq_empty_iff, (isSlug_slug x).slug_eq, ?_⟩
  intro id substitutes resolved blank found
  have nonempty := resolveId?_ne_empty found
  rw [resolveId?_of_eq_empty blank] at found
  obtain ⟨text, -, rfl⟩ := List.mem_map.1 (List.mem_of_find?_eq_some found)
  have form := isSlug_slug text
  refine ⟨nonempty, form.trim_eq, fun others => ?_, fun others => ?_⟩
  · rw [resolveId?_of_ne_empty (form.trim_eq.symm ▸ nonempty), form.trim_eq]
  · rw [resolveId?_of_eq_empty blank, List.map_cons, form.slug_eq,
      List.find?_cons_of_pos (by simpa using nonempty)]

/-- The lower case of a capital `İ` with its dot is a letter and the dot, at which a word ends. -/
theorem slugs_stand_for_themselves_dotted_capital :
    Text.trim " " = "" ∧ resolveId? " " ["!!", " İx: Oslo "] = some "i-x-oslo" ∧
      slug "i-x-oslo" = "i-x-oslo" ∧ resolveId? "i-x-oslo" ["other"] = some "i-x-oslo" := by
  have blank : Text.trim " " = "" := by decide +kernel
  have found : resolveId? " " ["!!", " İx: Oslo "] = some "i-x-oslo" := by decide +kernel
  have made : slug " İx: Oslo " = "i-x-oslo" := by decide +kernel
  obtain ⟨-, -, own, ids⟩ := slugs_stand_for_themselves " İx: Oslo "
  rw [made] at own
  exact ⟨blank, found, own, (ids " " _ _ blank found).2.2.1 ["other"]⟩

end Agenda

end ConferenceSync
