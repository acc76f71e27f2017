import Mathlib.Algebra.Group.Nat.Defs
import ConferenceSync.Digest.Fingerprint

/-!
# Renderings tell fields apart

A canonical rendering can be read back in one way only: the label is found because no label of a
record is the beginning of another, the length of the value stands in eight octets, and the value
takes as many octets as it says. The text of a digest stands for one digest.

## Main definitions

* `Digest.PrefixFree` — labels of which none is the beginning of another
* `Digest.Field.Fits` — the length of a value fits into its eight octets

## Main results

* `Digest.canonical_inj` — fields with the same rendering are the same
* `Text.hexOctets_injective` — octets with the same hexadecimal digits are the same
-/

namespace ConferenceSync

namespace Text

theorem hexValue?_hexDigit {n : Nat} (small : n < 16) : hexValue? (hexDigit n) = some n := by
  have all : ∀ k : Fin 16, hexValue? (hexDigit k) = some (k : Nat) := by decide
  exact all ⟨n, small⟩

theorem octetsOfHexDigits?_flatMap (bs : List UInt8) :
    octetsOfHexDigits? (bs.flatMap hexOctet) = some bs := by
  induction bs with
  | nil => rfl
  | cons b rest ih =>
    have below := b.toNat_lt
    have high : hexValue? (hexDigit (b.toNat / 16)) = some (b.toNat / 16) :=
      hexValue?_hexDigit (by omega)
    have low : hexValue? (hexDigit (b.toNat % 16)) = some (b.toNat % 16) :=
      hexValue?_hexDigit (by omega)
    have whole : UInt8.ofNat (16 * (b.toNat / 16) + b.toNat % 16) = b := by
      rw [Nat.div_add_mod, UInt8.ofNat_toNat]
    show octetsOfHexDigits? (_ :: _ :: rest.flatMap hexOctet) = _
    simp only [octetsOfHexDigits?, high, low, ih, Option.bind_eq_bind, Option.bind_some, whole,
      Option.pure_def]

/-- Octets with the same hexadecimal digits are the same. -/
theorem hexOctets_injective : Function.Injective hexOctets := by
  intro a b same
  have digits := congrArg octetsOfHexDigits? (String.ofList_injective same)
  rw [octetsOfHexDigits?_flatMap, octetsOfHexDigits?_flatMap] at digits
  exact Option.some.inj digits

end Text

namespace Digest

/-- Labels of which none is the beginning of another. -/
def PrefixFree (labels : List String) : Prop :=
  ∀ a ∈ labels, ∀ b ∈ labels, octets a <+: octets b → a = b

instance (labels : List String) : Decidable (PrefixFree labels) :=
  inferInstanceAs (Decidable (∀ a ∈ labels, ∀ b ∈ labels, _))

/-- The length of the value fits into the eight octets that it has in a rendering. -/
def Field.Fits (f : Field) : Prop := (octets f.value).length < 256 ^ 8

instance (f : Field) : Decidable f.Fits := inferInstanceAs (Decidable (_ < _))

theorem octets_injective : Function.Injective octets := by
  intro a b same
  have arrays := Array.toList_inj.1 same
  exact String.toByteArray_inj.1 (ByteArray.ext arrays)

@[simp] theorem length_littleEndian (count n : Nat) : (littleEndian count n).length = count := by
  induction count generalizing n with
  | zero => rfl
  | succ count ih => rw [littleEndian, List.length_cons, ih]

/-- Octets determine the number that they stand for, if it is small enough. -/
theorem littleEndian_inj {count m n : Nat} (hm : m < 256 ^ count) (hn : n < 256 ^ count)
    (same : littleEndian count m = littleEndian count n) : m = n := by
  induction count generalizing m n with
  | zero => omega
  | succ count ih =>
    rw [littleEndian, littleEndian, List.cons.injEq] at same
    rw [Nat.pow_succ] at hm hn
    have rest : m / 256 = n / 256 :=
      ih (Nat.div_lt_of_lt_mul (by omega)) (Nat.div_lt_of_lt_mul (by omega)) same.2
    have first := congrArg UInt8.toNat same.1
    simp only [UInt8.toNat_ofNat'] at first
    omega

/-- The first field can be told from what follows it. -/
theorem canonical_append_inj {labels : List String} (free : PrefixFree labels) {f g : Field}
    (hf : f.label ∈ labels) (hg : g.label ∈ labels) (fitsF : f.Fits) (fitsG : g.Fits)
    {u v : List UInt8} (same : f.canonical ++ u = g.canonical ++ v) : f = g ∧ u = v := by
  simp only [Field.canonical, List.append_assoc] at same
  -- Both labels are at the beginning of one list, so one is at the beginning of the other.
  have label : f.label = g.label := by
    rcases List.prefix_or_prefix_of_prefix (List.prefix_append _ _)
      (same ▸ List.prefix_append _ _) with longer | shorter
    · exact (free _ hg _ hf longer).symm
    · exact free _ hf _ hg shorter
  rw [label] at same
  -- The length comes before the value and says where it ends.
  have sized := List.append_inj (List.append_cancel_left same) (by simp)
  have length := littleEndian_inj fitsF fitsG sized.1
  obtain ⟨value, rest⟩ := List.append_inj sized.2 length
  refine ⟨?_, rest⟩
  cases f
  cases g
  exact congr (congrArg Field.mk label) (octets_injective value)

theorem canonical_field_ne_nil (f : Field) : f.canonical ≠ [] := by
  intro none
  have length := congrArg List.length none
  simp only [Field.canonical, List.length_append, length_littleEndian, List.length_nil] at length
  omega

/-- Fields with the same rendering are the same. -/
theorem canonical_inj {labels : List String} (free : PrefixFree labels) {a b : List Field}
    (ha : ∀ f ∈ a, f.label ∈ labels ∧ f.Fits) (hb : ∀ f ∈ b, f.label ∈ labels ∧ f.Fits)
    (same : canonical a = canonical b) : a = b := by
  induction a generalizing b with
  | nil =>
    cases b with
    | nil => rfl
    | cons g rest =>
      have none := (List.append_eq_nil_iff.1 same.symm).1
      exact absurd none (canonical_field_ne_nil g)
  | cons f rest ih =>
    cases b with
    | nil =>
      have none := (List.append_eq_nil_iff.1 same).1
      exact absurd none (canonical_field_ne_nil f)
    | cons g others =>
      have headF := ha f List.mem_cons_self
      have headG := hb g List.mem_cons_self
      obtain ⟨rfl, tail⟩ :=
        canonical_append_inj free headF.1 headG.1 headF.2 headG.2 same
      rw [ih (fun h there => ha h (List.mem_cons_of_mem _ there))
        (fun h there => hb h (List.mem_cons_of_mem _ there)) tail]

end Digest

end ConferenceSync
