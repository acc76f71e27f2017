/-!
# Splitting

Characters are split at every occurrence of one character.

## Main definitions

* `splitAt` — the parts between the occurrences

## Main results

* `splitAt_of_not_mem` — without an occurrence there is one part
-/

namespace ConferenceSync.Text

/-- The parts between the occurrences of a character, one more than there are occurrences. -/
def splitAt (sep : Char) : List Char → List (List Char)
  | [] => [[]]
  | c :: cs =>
    match splitAt sep cs with
    | [] => [[c]]
    | part :: parts => if c = sep then [] :: part :: parts else (c :: part) :: parts

theorem splitAt_of_not_mem {sep : Char} {cs : List Char} (h : sep ∉ cs) :
    splitAt sep cs = [cs] := by
  induction cs with
  | nil => rfl
  | cons c cs ih =>
    simp only [List.mem_cons, not_or] at h
    simp [splitAt, ih h.2, Ne.symm h.1]

end ConferenceSync.Text
