import Mathlib.Data.List.Dedup
import Mathlib.Data.List.Nodup
import ConferenceSync.Proofs.Elements

/-!
# Ids of blocks

The id of a block is the slug of its start and its end in milliseconds. A slug keeps digits and has
a single dash wherever something else stands between them. So the two numbers can be told apart, but
their signs are lost: two blocks have one id if their starts are the same up to the sign, and their
ends are. Of blocks with one id the last one is kept, so there is a block for each range up to
signs, and for each range as long as no two of them differ in nothing but signs. That is so in
particular if no block reaches back before 1970.

## Main definitions

* `Block.range`, `Block.unsignedRange` — the start and the end of a block, with and without signs

## Main results

* `blockId_eq`, `blockId_eq_iff` — the id of a block, and which ranges have one id
* `perm_unsignedRange` — there is one block for each range up to signs
* `one_block_for_each_range_iff` — when there is one for each range
* `ranges_that_differ_in_signs_have_one_block` — that is not always so
-/

namespace ConferenceSync

namespace Text

section Words

variable {c : Char} {word rest : List Char}

/-- A word goes on in a slug as long as its characters are alphanumeric. -/
theorem slugAfter_word (kept : ∀ c ∈ word, isAlphanumeric c = true) (rest : List Char) :
    slugAfter false (word ++ rest) = word ++ slugAfter false rest := by
  induction word with
  | nil => rfl
  | cons c word ih =>
    obtain ⟨here, later⟩ := List.forall_mem_cons.1 kept
    rw [List.cons_append, slugAfter_of_isAlphanumeric here, ih later]
    rfl

/-- A word that comes after something else has a dash in front. -/
theorem slugAfter_gap (kept : ∀ c ∈ word, isAlphanumeric c = true) (some : word ≠ []) :
    slugAfter true word = '-' :: word := by
  obtain ⟨c, word, rfl⟩ := List.exists_cons_of_ne_nil some
  obtain ⟨here, later⟩ := List.forall_mem_cons.1 kept
  have rest := slugAfter_word later []
  rw [List.append_nil] at rest
  rw [slugAfter_of_isAlphanumeric here, rest]
  simp [slugAfter]

/-- A slug starts with the first word. -/
theorem slugList_word (kept : ∀ c ∈ word, isAlphanumeric c = true) (some : word ≠ [])
    (rest : List Char) : slugList (word ++ rest) = word ++ slugAfter false rest := by
  obtain ⟨c, word, rfl⟩ := List.exists_cons_of_ne_nil some
  obtain ⟨here, later⟩ := List.forall_mem_cons.1 kept
  rw [List.cons_append, slugList, List.dropWhile_cons_of_neg (by simp [here])]
  exact congrArg (List.cons c) (slugAfter_word later rest)

theorem slugList_dash (rest : List Char) : slugList ('-' :: rest) = slugList rest := by
  rw [slugList, List.dropWhile_cons_of_pos (by simp [isAlphanumeric_dash]), ← slugList]

end Words

end Text

namespace Agenda

open Text

/-! ## Ids -/

theorem kept_of_mem_toDigits {n : Nat} {c : Char} (there : c ∈ Nat.toDigits 10 n) :
    isBlank c = false ∧ lowerChar c = [c] ∧ isAlphanumeric c = true :=
  kept_of_isDigit (isDigit_of_mem_toDigits there)

/-- A whole number holds no blanks and nothing in upper case. -/
theorem kept_of_mem_toString {n : Int} {c : Char} (there : c ∈ (toString n).toList) :
    isBlank c = false ∧ IsLowered c := by
  rcases isDigit_or_eq_of_mem_toString there with digit | rfl
  · obtain ⟨solid, lowered, -⟩ := kept_of_isDigit digit
    exact ⟨solid, lowered⟩
  · exact ⟨rfl, isLowered_dash⟩

/-- The sign of a whole number adds nothing to a gap before it. -/
theorem slugAfter_toString (n : Int) :
    slugAfter true (toString n).toList = '-' :: Nat.toDigits 10 n.natAbs := by
  have digits : slugAfter true (Nat.toDigits 10 n.natAbs) = '-' :: Nat.toDigits 10 n.natAbs :=
    slugAfter_gap (fun c there => (kept_of_mem_toDigits there).2.2) Nat.toDigits_ne_nil
  rw [toList_toString]
  split
  · rw [List.singleton_append, slugAfter_dash, digits]
  · rw [List.nil_append, digits]

/-- A slug that starts with a whole number starts with its digits. -/
theorem slugList_toString (n : Int) (rest : List Char) :
    slugList ((toString n).toList ++ rest) =
      Nat.toDigits 10 n.natAbs ++ slugAfter false rest := by
  have kept : ∀ c ∈ Nat.toDigits 10 n.natAbs, isAlphanumeric c = true := fun c there =>
    (kept_of_mem_toDigits there).2.2
  have digits := slugList_word kept Nat.toDigits_ne_nil rest
  rw [toList_toString, List.append_assoc]
  split
  · rw [List.singleton_append, slugList_dash, digits]
  · rw [List.nil_append, digits]

/-- The id of a block holds its start and its end without their signs. -/
theorem toList_blockId (startMillis endMillis : Int) :
    (blockId startMillis endMillis).toList =
      Nat.toDigits 10 startMillis.natAbs ++ '-' :: Nat.toDigits 10 endMillis.natAbs := by
  have chars : (toString startMillis ++ "-" ++ toString endMillis).toList =
      (toString startMillis).toList ++ '-' :: (toString endMillis).toList := by
    simp
  have kept : ∀ c ∈ (toString startMillis).toList ++ '-' :: (toString endMillis).toList,
      isBlank c = false ∧ IsLowered c := by
    intro c there
    rcases List.mem_append.1 there with there | there
    · exact kept_of_mem_toString there
    · rcases List.mem_cons.1 there with rfl | there
      · exact ⟨rfl, isLowered_dash⟩
      · exact kept_of_mem_toString there
  rw [blockId, toList_slug, chars,
    trimList_eq_self (fun c first => (kept c (List.mem_of_mem_head? first)).1)
      (fun c last => (kept c (List.mem_of_mem_getLast? last)).1),
    flatMap_lowerChar fun c there => (kept c there).2, slugList_toString, slugAfter_dash,
    slugAfter_toString]

/-- Two ranges have one id just if they differ in nothing but signs. -/
theorem blockId_eq_iff {startMillis endMillis otherStart otherEnd : Int} :
    blockId startMillis endMillis = blockId otherStart otherEnd ↔
      startMillis.natAbs = otherStart.natAbs ∧ endMillis.natAbs = otherEnd.natAbs := by
  have noDash (n : Nat) : '-' ∉ Nat.toDigits 10 n := fun there =>
    ne_dash_of_isAlphanumeric (kept_of_mem_toDigits there).2.2 rfl
  have digits {m n : Nat} : Nat.toDigits 10 m = Nat.toDigits 10 n ↔ m = n := by
    refine ⟨fun same => ?_, congrArg _⟩
    have read := naturalOf?_toDigits m
    rw [same, naturalOf?_toDigits] at read
    exact (Option.some.inj read).symm
  rw [← String.toList_inj, toList_blockId, toList_blockId,
    List.append_cons_inj_of_notMem (noDash _) (noDash _), digits, digits]
  simp

/-! ## Blocks -/

/-- The start and the end of a block. -/
def Block.range (b : Block) : Int × Int := (b.startMillis, b.endMillis)

/-- The start and the end of a block without their signs. -/
def Block.unsignedRange (b : Block) : Nat × Nat := (b.startMillis.natAbs, b.endMillis.natAbs)

theorem Block.unsignedRange_eq_of_range_eq {a b : Block} (same : a.range = b.range) :
    a.unsignedRange = b.unsignedRange := by
  obtain ⟨start, finish⟩ := Prod.mk.inj same
  rw [unsignedRange, unsignedRange, start, finish]

/-- A block in a data file has the id of its range, which is not that of no time. -/
theorem Block.of_ofJson? {value : Json} {b : Block} (read : Block.ofJson? value = some b) :
    b.id = blockId b.startMillis b.endMillis ∧ b.range ≠ (0, 0) := by
  iterate 4 obtain ⟨_, -, read⟩ := Option.bind_eq_some_iff.1 read
  dsimp only at read
  split at read
  · cases read
  · next ranged =>
    obtain rfl := Option.some.inj read
    refine ⟨rfl, fun none => ranged ?_⟩
    exact Prod.mk.inj none

variable {rules : GroupingRules} {sections : Kind → List Json}

theorem Block.of_mem_readRecords {b : Block} (there : b ∈ readRecords rules sections .blocks) :
    b.id = blockId b.startMillis b.endMillis ∧ b.range ≠ (0, 0) := by
  obtain ⟨_, -, there⟩ := List.mem_flatMap.1 there
  obtain ⟨_, -, read⟩ := List.mem_filterMap.1 there
  exact Block.of_ofJson? read

theorem Block.id_eq_iff {a b : Block} (listedA : a ∈ readRecords rules sections .blocks)
    (listedB : b ∈ readRecords rules sections .blocks) :
    a.id = b.id ↔ a.unsignedRange = b.unsignedRange := by
  rw [(of_mem_readRecords listedA).1, (of_mem_readRecords listedB).1, blockId_eq_iff,
    unsignedRange, unsignedRange, Prod.mk.injEq]

/-! ## Blocks that are kept -/

section Kept

variable (rules) (sections)

theorem mem_readRecords_of_mem_values {r : Block}
    (there : r ∈ (recordsOf rules sections .blocks).values) :
    r ∈ readRecords rules sections .blocks := by
  obtain ⟨e, entry, rfl⟩ := List.mem_map.1 there
  have member := Dict.mem_of_get?_ofList (Dict.get?_eq_some_iff.2 entry)
  obtain ⟨b, listed, same⟩ := List.mem_map.1 member
  rwa [← congrArg Prod.snd same]

/-- Of the blocks with one id there is one that is kept. -/
theorem exists_mem_values_of_mem_readRecords {b : Block}
    (there : b ∈ readRecords rules sections .blocks) :
    ∃ r ∈ (recordsOf rules sections .blocks).values, r.id = b.id := by
  let entries := (readRecords rules sections .blocks).map fun b => (Table.blocks.idOf b, b)
  have listed : b.id ∈ entries.map Prod.fst := by
    rw [List.map_map]
    exact List.mem_map.2 ⟨b, there, rfl⟩
  obtain ⟨r, found⟩ := Dict.exists_get?_ofList_iff.2 listed
  exact ⟨r, List.mem_map.2 ⟨(b.id, r), Dict.get?_eq_some_iff.1 found, rfl⟩, id_of_mem_byId found⟩

/-- The blocks that are kept have different ids. -/
theorem nodup_ids : ((recordsOf rules sections .blocks).values.map Block.id).Nodup := by
  have keys : (recordsOf rules sections .blocks).values.map Block.id =
      (recordsOf rules sections .blocks).keys := by
    rw [Dict.values, Dict.keys, List.map_map]
    refine List.map_congr_left fun e there => ?_
    have own : Table.blocks.idOf e.2 = e.1 := id_of_mem_byId (Dict.get?_eq_some_iff.2 there)
    exact own
  rw [keys]
  exact Dict.nodup_keys _

/-- The blocks that are kept differ in more than signs. -/
theorem nodup_unsignedRange :
    ((recordsOf rules sections .blocks).values.map Block.unsignedRange).Nodup := by
  have ids := nodup_ids rules sections
  refine (List.nodup_map_iff_inj_on (ids.of_map _)).2 fun a keptA b keptB same => ?_
  have listedA := mem_readRecords_of_mem_values rules sections keptA
  have listedB := mem_readRecords_of_mem_values rules sections keptB
  exact List.inj_on_of_nodup_map ids keptA keptB ((Block.id_eq_iff listedA listedB).2 same)

theorem exists_unsignedRange_eq {b : Block} (there : b ∈ readRecords rules sections .blocks) :
    ∃ r ∈ (recordsOf rules sections .blocks).values, r.unsignedRange = b.unsignedRange := by
  obtain ⟨r, kept, same⟩ := exists_mem_values_of_mem_readRecords rules sections there
  have listed := mem_readRecords_of_mem_values rules sections kept
  exact ⟨r, kept, (Block.id_eq_iff listed there).1 same⟩

/-- There is one block for each range of a block up to signs. -/
theorem perm_unsignedRange :
    ((recordsOf rules sections .blocks).values.map Block.unsignedRange).Perm
      ((readRecords rules sections .blocks).map Block.unsignedRange).dedup := by
  refine (List.perm_ext_iff_of_nodup (nodup_unsignedRange rules sections)
    (List.nodup_dedup _)).2 fun range => ?_
  rw [List.mem_dedup, List.mem_map, List.mem_map]
  constructor
  · rintro ⟨r, kept, rfl⟩
    exact ⟨r, mem_readRecords_of_mem_values rules sections kept, rfl⟩
  · rintro ⟨b, there, rfl⟩
    exact exists_unsignedRange_eq rules sections there

/-- There is one block for each range of a block just if no two of these ranges differ in nothing
but signs. -/
theorem perm_range_iff :
    ((recordsOf rules sections .blocks).values.map Block.range).Perm
        ((readRecords rules sections .blocks).map Block.range).dedup ↔
      ∀ a ∈ readRecords rules sections .blocks, ∀ b ∈ readRecords rules sections .blocks,
        a.unsignedRange = b.unsignedRange → a.range = b.range := by
  have once := nodup_unsignedRange rules sections
  have apart : ((recordsOf rules sections .blocks).values.map Block.range).Nodup := by
    refine (List.nodup_map_iff_inj_on (once.of_map _)).2 fun a keptA b keptB same => ?_
    exact List.inj_on_of_nodup_map once keptA keptB (Block.unsignedRange_eq_of_range_eq same)
  rw [List.perm_ext_iff_of_nodup apart (List.nodup_dedup _)]
  simp only [List.mem_dedup, List.mem_map]
  constructor
  · intro each a listedA b listedB same
    -- Of each of the two ranges there is a block that is kept, and these two are the same block.
    obtain ⟨r, keptA, rangeA⟩ := (each a.range).2 ⟨a, listedA, rfl⟩
    obtain ⟨s, keptB, rangeB⟩ := (each b.range).2 ⟨b, listedB, rfl⟩
    have unsigned : r.unsignedRange = s.unsignedRange := by
      rw [Block.unsignedRange_eq_of_range_eq rangeA, same,
        Block.unsignedRange_eq_of_range_eq rangeB]
    rw [← rangeA, ← rangeB, List.inj_on_of_nodup_map once keptA keptB unsigned]
  · intro signed range
    constructor
    · rintro ⟨r, kept, rfl⟩
      exact ⟨r, mem_readRecords_of_mem_values rules sections kept, rfl⟩
    · rintro ⟨b, there, rfl⟩
      obtain ⟨r, kept, same⟩ := exists_unsignedRange_eq rules sections there
      exact ⟨r, kept, signed r (mem_readRecords_of_mem_values rules sections kept) b there same⟩

end Kept

/-- Two blocks have one id just if their ranges differ in nothing but signs. Of the blocks of data
files that have a range there is exactly one for each range up to signs, and one for each range just
if no two of their ranges differ in nothing but signs, as it is if none of them reaches back before
1970. -/
theorem one_block_for_each_range_iff (rules : GroupingRules) (sections : Kind → List Json) :
    (∀ startMillis endMillis otherStart otherEnd,
      blockId startMillis endMillis = blockId otherStart otherEnd ↔
        startMillis.natAbs = otherStart.natAbs ∧ endMillis.natAbs = otherEnd.natAbs) ∧
      let blocks := readRecords rules sections .blocks
      let kept := (recordsOf rules sections .blocks).values
      (∀ b ∈ blocks, b.range ≠ (0, 0)) ∧ (∀ b ∈ kept, b ∈ blocks) ∧
        (kept.map Block.unsignedRange).Perm (blocks.map Block.unsignedRange).dedup ∧
        ((kept.map Block.range).Perm (blocks.map Block.range).dedup ↔
          ∀ a ∈ blocks, ∀ b ∈ blocks, a.unsignedRange = b.unsignedRange → a.range = b.range) ∧
        ((∀ b ∈ blocks, 0 ≤ b.startMillis ∧ 0 ≤ b.endMillis) →
          (kept.map Block.range).Perm (blocks.map Block.range).dedup) := by
  refine ⟨fun _ _ _ _ => blockId_eq_iff, fun b listed => (Block.of_mem_readRecords listed).2,
    fun b => mem_readRecords_of_mem_values rules sections, perm_unsignedRange rules sections,
    perm_range_iff rules sections, fun late => ?_⟩
  refine (perm_range_iff rules sections).2 fun a listedA b listedB same => ?_
  obtain ⟨startA, endA⟩ := late a listedA
  obtain ⟨startB, endB⟩ := late b listedB
  obtain ⟨start, finish⟩ := Prod.mk.inj same
  rw [Block.range, Block.range, Prod.mk.injEq]
  omega

/-! ## Two ranges with one block -/

/-- A block with a start and an end, as data files have it. -/
def blockElement (startMillis endMillis : Int) : Json :=
  .object [("end", .ofInt endMillis), ("start", .ofInt startMillis)]

/-- Data files with blocks alone. -/
def blockSections (elements : List Json) : Kind → List Json
  | .blocks => [.array elements]
  | _ => []

/-- Of two meals the one with the later id is kept beside the other one, and a block without a time
is none. -/
theorem one_block_for_each_range_iff_meals :
    let sections := blockSections [blockElement 5 9, blockElement 0 0, blockElement 12 19,
      blockElement 5 9]
    (∀ b ∈ readRecords .standard sections .blocks, 0 ≤ b.startMillis ∧ 0 ≤ b.endMillis) ∧
      ((recordsOf .standard sections .blocks).values.map Block.range).Perm [(5, 9), (12, 19)] := by
  intro sections
  have late : ∀ b ∈ readRecords .standard sections .blocks,
      0 ≤ b.startMillis ∧ 0 ≤ b.endMillis := by decide +kernel
  have ranges : ((readRecords .standard sections .blocks).map Block.range).dedup.Perm
      [(5, 9), (12, 19)] := by decide +kernel
  obtain ⟨-, -, -, -, -, each⟩ := one_block_for_each_range_iff .standard sections
  exact ⟨late, (each late).trans ranges⟩

/-- A block from five milliseconds before 1970 to three after has the id of one from five to three
after, and only the latter is kept. -/
theorem ranges_that_differ_in_signs_have_one_block :
    let sections := blockSections [blockElement (-5) 3, blockElement 5 3]
    (readRecords .standard sections .blocks).map Block.range = [(-5, 3), (5, 3)] ∧
      (recordsOf .standard sections .blocks).values.map Block.range = [(5, 3)] ∧
      ¬∀ startMillis endMillis otherStart otherEnd, FitsInt64 startMillis → FitsInt64 endMillis →
        FitsInt64 otherStart → FitsInt64 otherEnd →
          blockId startMillis endMillis = blockId otherStart otherEnd →
            startMillis = otherStart ∧ endMillis = otherEnd := by
  refine ⟨by decide +kernel, by decide +kernel, fun all => ?_⟩
  have same : blockId (-5) 3 = blockId 5 3 := by decide +kernel
  have apart := all (-5) 3 5 3 (by decide) (by decide) (by decide) (by decide) same
  exact absurd apart.1 (by decide)

end Agenda

end ConferenceSync
