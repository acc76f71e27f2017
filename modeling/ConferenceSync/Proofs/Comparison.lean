import ConferenceSync.Import.Diff
import ConferenceSync.Proofs.Dict

/-!
# The comparison of a table, id by id

Whether a table is loaded anew or compared with an index, the ids to write are those of the records
whose fingerprint the index does not have, and the ids to remove are those that only the index has.

## Main results

* `mem_written_compare`, `mem_deleted_compare` — the ids to write and to remove
* `nodup_written_compare` — each id is written once
* `compare_self` — what is compared with itself has not changed
-/

namespace ConferenceSync.Import

variable {fingerprints index : Index} {index? : Option Index} {id : String}

private theorem mem_written_compareWith :
    id ∈ (compareWith fingerprints index).written ↔
      ∃ new, fingerprints.get? id = some new ∧ index.get? id ≠ some new := by
  rw [TableDiff.written, List.mem_append, mem_inserted_compareWith, mem_updated_compareWith]
  constructor
  · rintro (⟨⟨new, there⟩, fresh⟩ | ⟨new, old, there, before, other⟩)
    · exact ⟨new, there, by simp [fresh]⟩
    · exact ⟨new, there, by simpa [before] using other⟩
  · rintro ⟨new, there, other⟩
    cases before : index.get? id with
    | none => exact .inl ⟨⟨new, there⟩, rfl⟩
    | some old => exact .inr ⟨new, old, there, rfl, by simpa [before] using other⟩

/-- A comparison loads the table anew, or compares it with the index. -/
theorem compare_cases (fingerprints : Index) (index? : Option Index) :
    (compare fingerprints index? = loadAnew fingerprints ∧
        ∀ index, index? = some index → ∀ id, index.get? id = none) ∨
      ∃ index, index? = some index ∧
        compare fingerprints index? = compareWith fingerprints index := by
  cases index? with
  | none => exact .inl ⟨rfl, by simp⟩
  | some index =>
    by_cases empty : (index.isEmpty && !fingerprints.isEmpty) = true
    · refine .inl ⟨by simp only [compare, empty, ↓reduceIte], ?_⟩
      intro other same
      obtain rfl := Option.some.inj same
      simp only [Bool.and_eq_true] at empty
      exact Dict.isEmpty_iff.1 empty.1
    · exact .inr ⟨index, rfl, by simp only [compare, empty, Bool.false_eq_true, ↓reduceIte]⟩

/-- Written are the records whose fingerprint is not in the index. -/
theorem mem_written_compare :
    id ∈ (compare fingerprints index?).written ↔
      ∃ new, fingerprints.get? id = some new ∧
        ∀ index, index? = some index → index.get? id ≠ some new := by
  rcases compare_cases fingerprints index? with ⟨anew, empty⟩ | ⟨index, rfl, compared⟩
  · rw [anew]
    simp only [TableDiff.written, loadAnew, List.append_nil, Dict.mem_keys]
    constructor
    · rintro ⟨new, there⟩
      exact ⟨new, there, fun index found => by simp [empty index found]⟩
    · rintro ⟨new, there, -⟩
      exact ⟨new, there⟩
  · rw [compared, mem_written_compareWith]
    simp

/-- Removed are the ids that are in the index alone. -/
theorem mem_deleted_compare :
    id ∈ (compare fingerprints index?).deleted ↔
      fingerprints.get? id = none ∧
        ∃ index old, index? = some index ∧ index.get? id = some old := by
  rcases compare_cases fingerprints index? with ⟨anew, empty⟩ | ⟨index, rfl, compared⟩
  · rw [anew]
    simp only [loadAnew, List.not_mem_nil, false_iff, not_and, not_exists]
    intro _ index old found there
    rw [empty index found] at there
    simp at there
  · rw [compared, mem_deleted_compareWith]
    simp [and_comm]

/-- An id counts as new only if the table is loaded anew or the index does not have it. -/
theorem get?_of_mem_inserted (h : id ∈ (compare fingerprints index?).inserted)
    (kept : (compare fingerprints index?).full = false) (found : index? = some index) :
    index.get? id = none := by
  rcases compare_cases fingerprints index? with ⟨anew, -⟩ | ⟨other, found', compared⟩
  · rw [anew] at kept
    simp [loadAnew] at kept
  · obtain rfl : index = other := Option.some.inj (found.symm.trans found')
    rw [compared] at h
    exact (mem_inserted_compareWith.1 h).2

/-- An id counts as changed only if the table is not loaded anew and the index has it. -/
theorem exists_of_mem_updated (h : id ∈ (compare fingerprints index?).updated) :
    (compare fingerprints index?).full = false ∧
      ∃ index old, index? = some index ∧ index.get? id = some old := by
  rcases compare_cases fingerprints index? with ⟨anew, -⟩ | ⟨index, rfl, compared⟩
  · rw [anew] at h
    simp [loadAnew] at h
  · rw [compared] at h ⊢
    obtain ⟨-, old, -, before, -⟩ := mem_updated_compareWith.1 h
    exact ⟨rfl, index, old, rfl, before⟩

/-- If a table is loaded anew, its index is missing or empty, and all its records are written. -/
theorem get?_of_full (full : (compare fingerprints index?).full = true)
    (found : index? = some index) : index.get? id = none := by
  rcases compare_cases fingerprints index? with ⟨-, empty⟩ | ⟨other, -, compared⟩
  · exact empty index found id
  · rw [compared] at full
    simp [compareWith] at full

theorem full_of_none (missing : index? = none) : (compare fingerprints index?).full = true := by
  subst missing
  rfl

theorem nodup_written_compare : (compare fingerprints index?).written.Nodup := by
  rcases compare_cases fingerprints index? with ⟨anew, -⟩ | ⟨index, rfl, compared⟩
  · rw [anew]
    simpa [TableDiff.written, loadAnew] using fingerprints.nodup_keys
  · rw [compared]
    have part (p : String × String → Bool) :
        ((fingerprints.entries.filter p).map Prod.fst).Nodup :=
      (List.filter_sublist.map _).nodup fingerprints.nodup_keys
    refine List.nodup_append.2 ⟨part _, part _, fun id new other changed same => ?_⟩
    subst same
    obtain ⟨-, old, -, before, -⟩ := mem_updated_compareWith.1 changed
    rw [(mem_inserted_compareWith.1 new).2] at before
    simp at before

/-- Fingerprints do not differ from themselves. -/
theorem compare_self (fingerprints : Index) :
    compare fingerprints (some fingerprints) = ⟨false, [], [], fingerprints.size, []⟩ := by
  have kept : (fingerprints.isEmpty && !fingerprints.isEmpty) = false := Bool.and_not_self _
  have there : ∀ e ∈ fingerprints.entries, fingerprints.get? e.1 = some e.2 :=
    fun _ listed => Dict.get?_eq_some_iff.2 listed
  have new : fingerprints.entries.filter (isNew fingerprints) = [] :=
    List.filter_eq_nil_iff.2 fun e listed => by simp [isNew, there e listed]
  have changed : fingerprints.entries.filter (isChanged fingerprints) = [] :=
    List.filter_eq_nil_iff.2 fun e listed => by simp [isChanged, there e listed]
  have same : fingerprints.entries.filter (isSame fingerprints) = fingerprints.entries :=
    List.filter_eq_self.2 fun e listed => by simp [isSame, there e listed]
  have gone : (fingerprints.keys.filter fun id => !fingerprints.contains id) = [] := by
    refine List.filter_eq_nil_iff.2 fun id listed => ?_
    rw [Dict.contains_iff.2 (Dict.mem_keys.1 listed)]
    simp
  rw [compare, kept, if_neg Bool.false_ne_true, compareWith, new, changed, same, gone]
  rfl

end ConferenceSync.Import
