/-!
# Blank characters

The characters with the Unicode property `White_Space`, and the removal of blanks from the ends
of a text.

## Main definitions

* `isBlank` — the property `White_Space`
* `trimStart`, `trimEnd`, `trim` — a text without blanks at its start, its end, both

## Main results

* `dropEndWhile_eq_self_iff` — nothing is dropped exactly when the last member is to be kept
-/

namespace ConferenceSync.Text

/-- The characters with the property `White_Space`. -/
def isBlank (c : Char) : Bool :=
  let n := c.toNat
  n == 0x20 || (0x09 ≤ n && n ≤ 0x0d) || n == 0x85 || n == 0xa0 || n == 0x1680 ||
    (0x2000 ≤ n && n ≤ 0x200a) || n == 0x2028 || n == 0x2029 || n == 0x202f || n == 0x205f ||
    n == 0x3000

/-- A list without the longest run at its end whose members satisfy `p`. -/
def dropEndWhile {α : Type} (p : α → Bool) (l : List α) : List α :=
  (l.reverse.dropWhile p).reverse

/-- Characters without the blanks at both ends. -/
def trimList (cs : List Char) : List Char :=
  dropEndWhile isBlank (cs.dropWhile isBlank)

/-- A text without the blanks at its start. -/
def trimStart (s : String) : String :=
  String.ofList (s.toList.dropWhile isBlank)

/-- A text without the blanks at its end. -/
def trimEnd (s : String) : String :=
  String.ofList (dropEndWhile isBlank s.toList)

/-- A text without the blanks at both ends. -/
def trim (s : String) : String :=
  String.ofList (trimList s.toList)

/-- Whether a text holds nothing but blanks. -/
def isBlankText (s : String) : Bool :=
  s.toList.all isBlank

@[simp] theorem toList_trim (s : String) : (trim s).toList = trimList s.toList := by
  simp [trim]

theorem dropEndWhile_eq_self_iff {α : Type} {p : α → Bool} {l : List α} :
    dropEndWhile p l = l ↔ ∀ x, l.getLast? = some x → p x = false := by
  constructor
  · intro h x hx
    have hr : l.reverse.dropWhile p = l.reverse := by
      simpa [dropEndWhile] using congrArg List.reverse h
    rw [List.getLast?_eq_head?_reverse] at hx
    cases hl : l.reverse with
    | nil => rw [hl] at hx; simp at hx
    | cons y ys =>
      rw [hl] at hx hr
      obtain rfl : y = x := by simpa using hx
      cases hp : p y with
      | false => rfl
      | true =>
        rw [List.dropWhile_cons_of_pos hp] at hr
        have := congrArg List.length hr
        have hle := (List.dropWhile_sublist (p := p) (l := ys)).length_le
        simp at this
        omega
  · intro h
    rw [List.getLast?_eq_head?_reverse] at h
    unfold dropEndWhile
    cases hl : l.reverse with
    | nil => simpa using hl.symm
    | cons y ys =>
      rw [hl] at h
      rw [List.dropWhile_cons_of_neg (by simp [h y (by simp)]), ← hl, List.reverse_reverse]

end ConferenceSync.Text
