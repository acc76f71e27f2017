import Mathlib.Data.List.Count
import ConferenceSync.Text.Case

/-!
# Two ways to put text into lower case

Letters of the ASCII range have the same lower case in both ways. Beyond that range the one way
leaves everything as it is, and the other changes a character exactly if it is not its own lower
case; what it changes it to is, so that nothing changes twice. Hence a text comes out the same both
ways if it has no character of the latter kind, and if it has one, some character is there more
often when the text is put into lower case the second way than when it is put so the first way.

## Main definitions

* `Text.IsLowered` — the characters that are their own lower case
* `Text.LowersAlike` — the characters that have the same lower case both ways
* `Text.LowersTo` — what a character may become within a text

## Main results

* `Text.isLowered_of_mem_lowerChar` — a lower case is its own lower case
* `Text.lowerAfter_eq_map` — texts that come out the same
* `Text.exists_count_lt` — a character that other texts come out with more often
-/

namespace ConferenceSync.Text

/-! ## The ASCII range -/

theorem toNat_ofNat_of_isValidChar {n : Nat} (valid : n.isValidChar) :
    (Char.ofNat n).toNat = n := by
  rw [Char.ofNat, dif_pos valid]
  rfl

theorem lowerAsciiChar_cases (c : Char) :
    (65 ≤ c.toNat ∧ c.toNat ≤ 90 ∧ (lowerAsciiChar c).toNat = c.toNat + 32) ∨
      ((c.toNat < 65 ∨ 90 < c.toNat) ∧ lowerAsciiChar c = c) := by
  have capital : ('A' ≤ c && c ≤ 'Z') = true ↔ 65 ≤ c.toNat ∧ c.toNat ≤ 90 := by
    rw [Bool.and_eq_true, decide_eq_true_iff, decide_eq_true_iff]
    exact Iff.rfl
  rw [lowerAsciiChar]
  split
  · next inside =>
    obtain ⟨low, high⟩ := capital.1 inside
    exact .inl ⟨low, high, toNat_ofNat_of_isValidChar (.inl (by omega))⟩
  · next outside =>
    exact .inr ⟨by have := mt capital.2 outside; omega, rfl⟩

/-- Beyond the small letters of the ASCII range, every character stands for itself. -/
theorem lowerAsciiChar_eq_iff_of_le {c p : Char} (large : 123 ≤ p.toNat) :
    lowerAsciiChar c = p ↔ c = p := by
  rcases lowerAsciiChar_cases c with ⟨low, high, value⟩ | ⟨-, same⟩
  · constructor
    · rintro rfl
      omega
    · rintro rfl
      omega
  · rw [same]

/-! ## The lower case of a character -/

/-- Whether a character is its own lower case. -/
def IsLowered (c : Char) : Prop := lowerChar c = [c]

instance (c : Char) : Decidable (IsLowered c) := inferInstanceAs (Decidable (_ = _))

/-- Whether a character has the same lower case, whether all letters count or those of the ASCII
range alone. -/
def LowersAlike (c : Char) : Prop := 128 ≤ c.toNat → IsLowered c

instance (c : Char) : Decidable (LowersAlike c) := inferInstanceAs (Decidable (_ → _))

/-- In the ASCII range there is no difference. -/
theorem lowerChar_of_lt {c : Char} (ascii : c.toNat < 128) : lowerChar c = [lowerAsciiChar c] := by
  have all : ∀ n : Fin 128, lowerChar (Char.ofNat n) = [lowerAsciiChar (Char.ofNat n)] := by
    decide +kernel
  have own := all ⟨c.toNat, ascii⟩
  rwa [Char.ofNat_toNat] at own

theorem lowerChar_of_lowersAlike {c : Char} (alike : LowersAlike c) :
    lowerChar c = [lowerAsciiChar c] := by
  by_cases ascii : c.toNat < 128
  · exact lowerChar_of_lt ascii
  · rw [(lowerAsciiChar_eq_iff_of_le (by omega)).2 rfl]
    exact alike (by omega)

theorem IsLowered.lowerAsciiChar_eq {c : Char} (lowered : IsLowered c) : lowerAsciiChar c = c := by
  have same := lowerChar_of_lowersAlike fun _ => lowered
  rw [lowered, List.singleton_inj] at same
  exact same.symm

/-- Small letters of the ASCII range are none of its capitals. -/
theorem lowerAsciiChar_lowerAsciiChar (c : Char) :
    lowerAsciiChar (lowerAsciiChar c) = lowerAsciiChar c := by
  rcases lowerAsciiChar_cases (lowerAsciiChar c) with ⟨low, high, -⟩ | ⟨-, same⟩
  · rcases lowerAsciiChar_cases c with ⟨_, _, value⟩ | ⟨outside, same⟩
    · omega
    · rw [same] at low high
      omega
  · exact same

/-- A code point stays, or it is in one of the runs. -/
theorem lowerIn_cases (runs : List CaseRun) (n : Nat) :
    lowerIn runs n = n ∨ ∃ run ∈ runs, ∃ k < run.last - run.first + 1,
      k % run.step = 0 ∧ lowerIn runs n = run.image + k := by
  induction runs with
  | nil => exact .inl rfl
  | cons run rest ih =>
    rw [lowerIn]
    split
    · exact .inl rfl
    · split
      · next inside =>
        rw [Bool.and_eq_true, decide_eq_true_iff, beq_iff_eq] at inside
        exact .inr ⟨run, List.mem_cons_self, n - run.first, by omega, inside.2, rfl⟩
      · rcases ih with same | ⟨other, listed, found⟩
        · exact .inl same
        · exact .inr ⟨other, List.mem_cons_of_mem run listed, found⟩

/-- Whether a code point is no smaller than those of the small letters of the ASCII range, and none
of the last three of the basic plane. -/
def IsImage (n : Nat) : Prop := 97 ≤ n ∧ ¬(0xfffd ≤ n ∧ n ≤ 0xffff)

instance (n : Nat) : Decidable (IsImage n) := inferInstanceAs (Decidable (_ ∧ _))

/-- Whether runs change no code point from `low` to `high`. If only every second one counts, a run
of every second one is no harm that has the others. -/
def leaveAlone (low high : Nat) (second : Bool) : List CaseRun → Bool
  | [] => true
  | run :: rest =>
    Nat.blt high run.first ||
      ((Nat.blt run.last low || (second && run.step == 2 && (low + run.first) % 2 == 1)) &&
        leaveAlone low high second rest)

theorem lowerIn_of_leaveAlone {low high n : Nat} {second : Bool} {runs : List CaseRun}
    (alone : leaveAlone low high second runs = true) (above : low ≤ n) (below : n ≤ high)
    (even : second = true → (n - low) % 2 = 0) : lowerIn runs n = n := by
  induction runs with
  | nil => rfl
  | cons run rest ih =>
    simp only [leaveAlone, Bool.or_eq_true, Bool.and_eq_true, Nat.blt_eq, beq_iff_eq] at alone
    rw [lowerIn]
    split
    · rfl
    · next beyond =>
      rcases alone with before | ⟨apart, others⟩
      · omega
      · have outside : ¬(decide (n ≤ run.last) && (n - run.first) % run.step == 0) = true := by
          rw [Bool.and_eq_true, decide_eq_true_iff, beq_iff_eq]
          rintro ⟨inside, step⟩
          rcases apart with after | ⟨⟨every, two⟩, odd⟩
          · omega
          · have := even every
            rw [two] at step
            omega
        rw [if_neg outside]
        exact ih others

/-- Whether a run changes its code points to small letters, which no run changes. -/
def CaseRun.isFinal (run : CaseRun) : Bool :=
  let low := run.image
  let high := run.image + (run.last - run.first)
  Nat.ble 97 low && (Nat.blt high 0x130 || Nat.blt 0x130 low) &&
    (Nat.blt high 0xd800 || (Nat.blt 0xdfff low && Nat.blt high 0xfffd) ||
      (Nat.blt 0xffff low && Nat.blt high 0x110000)) &&
    leaveAlone low high (run.step == 2 || run.first == run.last) lowerRuns

theorem all_isFinal_lowerRuns : lowerRuns.all CaseRun.isFinal = true := by decide +kernel

/-- What code points are changed to is changed by no run. -/
theorem isImage_of_mem_lowerRuns {run : CaseRun} (listed : run ∈ lowerRuns) {k : Nat}
    (inside : k < run.last - run.first + 1) (step : k % run.step = 0) :
    IsImage (run.image + k) ∧ (run.image + k).isValidChar ∧ run.image + k ≠ 0x130 ∧
      lowerIn lowerRuns (run.image + k) = run.image + k := by
  have final := List.all_eq_true.1 all_isFinal_lowerRuns run listed
  simp only [CaseRun.isFinal, Bool.and_eq_true, Bool.or_eq_true, Nat.blt_eq, Nat.ble_eq] at final
  obtain ⟨⟨⟨small, dotless⟩, valid⟩, alone⟩ := final
  have stays := lowerIn_of_leaveAlone alone (n := run.image + k) (by omega) (by omega) ?_
  · exact ⟨by rw [IsImage]; omega, by rw [Nat.isValidChar]; omega, by omega, stays⟩
  · intro second
    rw [Bool.or_eq_true, beq_iff_eq, beq_iff_eq] at second
    rcases second with two | single
    · rw [two] at step
      omega
    · omega

theorem isLowered_of_lowerIn {c : Char} (dotless : c.toNat ≠ 0x130)
    (same : lowerIn lowerRuns c.toNat = c.toNat) : IsLowered c := by
  have other : c ≠ 'İ' := by
    rintro rfl
    exact dotless (by decide)
  rw [IsLowered, lowerChar, if_neg other, same, Char.ofNat_toNat]

/-- A lower case is its own lower case. -/
theorem isLowered_of_mem_lowerChar {c d : Char} (there : d ∈ lowerChar c) :
    IsLowered d ∧ (d = c ∨ IsImage d.toNat) := by
  rw [lowerChar] at there
  split at there
  · have letter : IsLowered 'i' ∧ IsImage 'i'.toNat := by decide +kernel
    have dot : IsLowered '\u0307' ∧ IsImage '\u0307'.toNat := by decide +kernel
    rcases List.mem_cons.1 there with rfl | there
    · exact ⟨letter.1, .inr letter.2⟩
    · obtain rfl := List.mem_singleton.1 there
      exact ⟨dot.1, .inr dot.2⟩
  · next other =>
    obtain rfl := List.mem_singleton.1 there
    rcases lowerIn_cases lowerRuns c.toNat with same | ⟨run, listed, k, inside, step, image⟩
    · rw [same, Char.ofNat_toNat]
      have dotless : c.toNat ≠ 0x130 := fun value => other (Char.toNat_inj.1 value)
      exact ⟨isLowered_of_lowerIn dotless same, .inl rfl⟩
    · obtain ⟨isImage, valid, dotless, stays⟩ := isImage_of_mem_lowerRuns listed inside step
      have value := toNat_ofNat_of_isValidChar valid
      rw [image]
      refine ⟨isLowered_of_lowerIn ?_ ?_, .inr ?_⟩ <;> rwa [value]

theorem lowerChar_ne_nil (c : Char) : lowerChar c ≠ [] := by
  rw [lowerChar]
  split <;> exact List.cons_ne_nil _ _

/-! ## Characters within a text -/

/-- What a character may become within a text: its lower case, or one of those of a sigma. -/
def LowersTo (c : Char) (cs : List Char) : Prop :=
  c ≠ 'Σ' ∧ cs = lowerChar c ∨ c = 'Σ' ∧ (cs = ['ς'] ∨ cs = ['σ'])

section LowersTo

variable {c d : Char} {first : List Char}

theorem lowerAfter_cons (before : List Char) (c : Char) (rest : List Char) :
    ∃ first, lowerAfter before (c :: rest) = first ++ lowerAfter (c :: before) rest ∧
      LowersTo c first := by
  rw [lowerAfter]
  refine ⟨_, rfl, ?_⟩
  by_cases sigma : c = 'Σ'
  · rw [if_pos sigma]
    split
    · exact .inr ⟨sigma, .inl rfl⟩
    · exact .inr ⟨sigma, .inr rfl⟩
  · rw [if_neg sigma]
    exact .inl ⟨sigma, rfl⟩

theorem isLowered_medialSigma : IsLowered 'σ' ∧ IsImage 'σ'.toNat := by decide +kernel

theorem isLowered_finalSigma : IsLowered 'ς' ∧ IsImage 'ς'.toNat := by decide +kernel

theorem LowersTo.eq_of_lowersAlike (lowers : LowersTo c first) (alike : LowersAlike c) :
    first = [lowerAsciiChar c] := by
  rcases lowers with ⟨-, rfl⟩ | ⟨rfl, -⟩
  · exact lowerChar_of_lowersAlike alike
  · exact absurd alike (by decide +kernel)

theorem large_of_not_lowersAlike (unlike : ¬LowersAlike c) : 128 ≤ c.toNat := by
  by_contra small
  exact unlike fun large => absurd large small

/-- A character that keeps its case is among what it comes from. -/
theorem LowersTo.mem (lowers : LowersTo c first) (lowered : IsLowered d)
    (same : lowerAsciiChar c = d) : d ∈ first := by
  by_cases alike : LowersAlike c
  · rw [lowers.eq_of_lowersAlike alike, same]
    exact List.mem_singleton_self d
  · -- The character is beyond the ASCII range, so it is `d` itself, which keeps its case.
    have large := large_of_not_lowersAlike alike
    rw [(lowerAsciiChar_eq_iff_of_le (by omega)).2 rfl] at same
    exact absurd (fun _ => same ▸ lowered) alike

/-- A character that has another lower case beyond the ASCII range becomes something else. -/
theorem LowersTo.exists_mem (lowers : LowersTo c first) (unlike : ¬LowersAlike c) :
    ∃ d ∈ first, IsLowered d ∧ IsImage d.toNat ∧ lowerAsciiChar c ≠ d := by
  have large := large_of_not_lowersAlike unlike
  have differs {d : Char} (lowered : IsLowered d) : lowerAsciiChar c ≠ d := by
    rw [(lowerAsciiChar_eq_iff_of_le (by omega)).2 rfl]
    rintro rfl
    exact unlike fun _ => lowered
  rcases lowers with ⟨-, rfl⟩ | ⟨-, rfl | rfl⟩
  · obtain ⟨d, there⟩ := List.exists_mem_of_ne_nil _ (lowerChar_ne_nil c)
    obtain ⟨lowered, same | isImage⟩ := isLowered_of_mem_lowerChar there
    · exact absurd (fun _ => same ▸ lowered) unlike
    · exact ⟨d, there, lowered, isImage, differs lowered⟩
  · obtain ⟨lowered, image⟩ := isLowered_finalSigma
    exact ⟨'ς', List.mem_singleton_self _, lowered, image, differs lowered⟩
  · obtain ⟨lowered, image⟩ := isLowered_medialSigma
    exact ⟨'σ', List.mem_singleton_self _, lowered, image, differs lowered⟩

/-- What a character becomes keeps its case. -/
theorem LowersTo.isLowered (lowers : LowersTo c first) (there : d ∈ first) :
    IsLowered d ∧ (d = c ∨ IsImage d.toNat) := by
  rcases lowers with ⟨-, rfl⟩ | ⟨-, rfl | rfl⟩
  · exact isLowered_of_mem_lowerChar there
  · obtain rfl := List.mem_singleton.1 there
    exact ⟨isLowered_finalSigma.1, .inr isLowered_finalSigma.2⟩
  · obtain rfl := List.mem_singleton.1 there
    exact ⟨isLowered_medialSigma.1, .inr isLowered_medialSigma.2⟩

end LowersTo

/-! ## Texts -/

section Texts

variable {d : Char} {cs : List Char}

theorem toList_lower (s : String) : (lower s).toList = lowerAfter [] s.toList := by
  rw [lower, String.toList_ofList]

/-- A text whose characters have the same lower case both ways comes out the same. -/
theorem lowerAfter_eq_map (alike : ∀ c ∈ cs, LowersAlike c) (before : List Char) :
    lowerAfter before cs = cs.map lowerAsciiChar := by
  induction cs generalizing before with
  | nil => rfl
  | cons c cs ih =>
    obtain ⟨first, split, lowers⟩ := lowerAfter_cons before c cs
    rw [split, ih fun d there => alike d (List.mem_cons_of_mem c there),
      lowers.eq_of_lowersAlike (alike c List.mem_cons_self)]
    rfl

/-- What a text is put into keeps its case, and is there already or an image. -/
theorem isLowered_of_mem_lowerAfter {before : List Char} (there : d ∈ lowerAfter before cs) :
    IsLowered d ∧ (d ∈ cs ∨ IsImage d.toNat) := by
  induction cs generalizing before with
  | nil => exact absurd there List.not_mem_nil
  | cons c cs ih =>
    obtain ⟨first, split, lowers⟩ := lowerAfter_cons before c cs
    rw [split, List.mem_append] at there
    rcases there with here | later
    · obtain ⟨lowered, same | image⟩ := lowers.isLowered here
      · exact ⟨lowered, .inl (same ▸ List.mem_cons_self)⟩
      · exact ⟨lowered, .inr image⟩
    · exact ⟨(ih later).1, (ih later).2.imp_left (List.mem_cons_of_mem c)⟩

theorem lowerAfter_eq_nil_iff {before : List Char} : lowerAfter before cs = [] ↔ cs = [] := by
  cases cs with
  | nil => simp [lowerAfter]
  | cons c cs =>
    obtain ⟨first, split, lowers⟩ := lowerAfter_cons before c cs
    have some : first ≠ [] := by
      rcases lowers with ⟨-, rfl⟩ | ⟨-, rfl | rfl⟩
      · exact lowerChar_ne_nil c
      · exact List.cons_ne_nil _ _
      · exact List.cons_ne_nil _ _
    simp [split, some]

/-- A character that keeps its case is there at least as often when all letters count. -/
theorem count_map_le_count_lowerAfter (lowered : IsLowered d) (cs before : List Char) :
    (cs.map lowerAsciiChar).count d ≤ (lowerAfter before cs).count d := by
  induction cs generalizing before with
  | nil => exact Nat.le_refl _
  | cons c cs ih =>
    obtain ⟨first, split, lowers⟩ := lowerAfter_cons before c cs
    rw [split, List.count_append, List.map_cons, List.count_cons]
    have others := ih (c :: before)
    split_ifs with same
    · have here := List.count_pos_iff.2 (lowers.mem lowered (beq_iff_eq.1 same))
      omega
    · omega

/-- If a character has another lower case when all letters count, then some character is there more
often than when those of the ASCII range count alone. -/
theorem exists_count_lt (unlike : ∃ c ∈ cs, ¬LowersAlike c) (before : List Char) :
    ∃ d, IsLowered d ∧ IsImage d.toNat ∧
      (cs.map lowerAsciiChar).count d < (lowerAfter before cs).count d := by
  induction cs generalizing before with
  | nil => simp at unlike
  | cons c cs ih =>
    obtain ⟨first, split, lowers⟩ := lowerAfter_cons before c cs
    simp only [split, List.count_append, List.map_cons, List.count_cons]
    by_cases own : LowersAlike c
    · -- The first character comes out the same, so it is another one that does not.
      have rest : ∃ c ∈ cs, ¬LowersAlike c := by simpa [own] using unlike
      obtain ⟨d, lowered, isImage, more⟩ := ih rest (c :: before)
      refine ⟨d, lowered, isImage, ?_⟩
      rw [lowers.eq_of_lowersAlike own, List.count_singleton]
      omega
    · obtain ⟨d, there, lowered, isImage, other⟩ := lowers.exists_mem own
      refine ⟨d, lowered, isImage, ?_⟩
      have here := List.count_pos_iff.2 there
      have others := count_map_le_count_lowerAfter lowered cs (c :: before)
      rw [if_neg fun same => other (beq_iff_eq.1 same)]
      omega

end Texts

end ConferenceSync.Text
