import Mathlib.Data.List.Sort
import Mathlib.Data.String.Basic
import ConferenceSync.Fetch.Cache
import ConferenceSync.Proofs.Classification

/-!
# Sorted ids

The ids that a comparison finds new or changed ascend, so an id can be looked for by halving instead
of going through the whole list. The rows of an index, the texts in memory and the names in a
directory may be handed over in any order. Sorting what is left of them after a test gives the same
list as going through them in ascending order.

## Main definitions

* `Ids.searchBetween`, `Ids.search` — the place of an id, by halving
* `Ids.Locates` — that a place is where an id stands, or where it would have to stand

## Main results

* `Ids.locates_search` — what a search in an ascending list finds
* `Import.recordMutation?_eq_searched`, `Import.refreshMutation?_eq_searched` — the mutations of an
  import, with the ids looked for by halving
* `Import.deleted_compareWith_eq_mergeSort`, `Cache.keys_memory_eq_mergeSort`,
  `Cache.keys_disk_eq_mergeSort` — the ids to remove and the keys of a cache, as they are sorted
-/

namespace ConferenceSync

/-! ## Looking for an id -/

namespace Ids

/-- Looks for an id from the place `low` up to the place `high`, which is not looked at. An id that
is not there gives the place where it could be put in. -/
def searchBetween (ids : List String) (id : String) (low high : Nat) (inside : high ≤ ids.length) :
    Except Nat Nat :=
  if window : low < high then
    let middle := low + (high - low) / 2
    have found : middle < ids.length := by omega
    if ids[middle] = id then .ok middle
    else if ids[middle] < id then searchBetween ids id (middle + 1) high inside
    else searchBetween ids id low middle (by omega)
  else .error low
termination_by high - low

/-- Looks for an id in a list. -/
def search (ids : List String) (id : String) : Except Nat Nat :=
  searchBetween ids id 0 ids.length le_rfl

/-- Whether a place is where an id stands, or the place between those before and those after it. -/
def Locates (ids : List String) (id : String) : Except Nat Nat → Prop
  | .ok place => ids[place]? = some id
  | .error place => (∀ other ∈ ids.take place, other < id) ∧ ∀ other ∈ ids.drop place, id < other

section Search

variable {ids : List String} {id : String}

/-- Up to an id that is below another one, all ids are. -/
theorem lt_of_mem_take_succ (ascending : ids.Pairwise (· < ·)) {place : Nat}
    (inside : place < ids.length) (below : ids[place] < id) :
    ∀ other ∈ ids.take (place + 1), other < id := by
  intro other listed
  obtain ⟨i, bound, rfl⟩ := List.mem_take_iff_getElem.1 listed
  rcases Nat.lt_succ_iff_lt_or_eq.1 (lt_of_lt_of_le bound (min_le_left _ _)) with before | rfl
  · exact lt_trans (List.pairwise_iff_getElem.1 ascending _ _ _ inside before) below
  · exact below

/-- From an id on that is above another one, all ids are. -/
theorem lt_of_mem_drop (ascending : ids.Pairwise (· < ·)) {place : Nat}
    (inside : place < ids.length) (above : id < ids[place]) :
    ∀ other ∈ ids.drop place, id < other := by
  intro other listed
  obtain ⟨i, bound, rfl⟩ := List.mem_drop_iff_getElem.1 listed
  rcases Nat.eq_zero_or_pos i with rfl | later
  · exact above
  · exact lt_trans above
      (List.pairwise_iff_getElem.1 ascending _ _ inside (by omega) (Nat.lt_add_of_pos_right later))

/-- The window of a search leaves out only ids that are below the one that is looked for, in front
of it, and above it, behind it. -/
theorem locates_searchBetween (ascending : ids.Pairwise (· < ·)) {low high : Nat}
    (inside : high ≤ ids.length) (front : ∀ other ∈ ids.take low, other < id)
    (behind : ∀ other ∈ ids.drop high, id < other) :
    Locates ids id (searchBetween ids id low high inside) := by
  fun_induction searchBetween ids id low high inside with
  | case1 low high inside window middle found same =>
    exact List.getElem?_eq_some_iff.2 ⟨found, same⟩
  | case2 low high inside window middle found other below ih =>
    exact ih (lt_of_mem_take_succ ascending found below) behind
  | case3 low high inside window middle found other notBelow ih =>
    have above : id < ids[middle] := lt_of_le_of_ne (not_lt.1 notBelow) (Ne.symm other)
    exact ih front (lt_of_mem_drop ascending found above)
  | case4 low high inside empty =>
    exact ⟨front, fun other listed =>
      behind other (List.drop_subset_drop_left ids (not_lt.1 empty) listed)⟩

/-- A search in an ascending list finds the place of an id, or the one where it could be put in. -/
theorem locates_search (ascending : ids.Pairwise (· < ·)) (id : String) :
    Locates ids id (search ids id) :=
  locates_searchBetween ascending le_rfl (by simp) (by simp)

/-- A search in an ascending list finds what is in it. -/
theorem isOk_search (ascending : ids.Pairwise (· < ·)) (id : String) :
    (search ids id).isOk = ids.contains id := by
  have located := locates_search ascending id
  rw [Bool.eq_iff_iff, List.contains_iff_mem]
  cases result : search ids id with
  | ok place =>
    rw [result] at located
    exact iff_of_true rfl (List.mem_of_getElem? located)
  | error place =>
    rw [result] at located
    refine iff_of_false (by simp [Except.isOk, Except.toBool]) fun listed => ?_
    rw [← List.take_append_drop place ids, List.mem_append] at listed
    exact listed.elim (fun before => lt_irrefl id (located.1 id before))
      fun after => lt_irrefl id (located.2 id after)

end Search

end Ids

/-! ## Sorting what has been collected -/

/-- What is left of the keys of a dictionary, in whichever order they are collected. -/
theorem Dict.mergeSort_filter_keys {α : Type} {d : Dict α} {ids : List String}
    (collected : ids.Perm d.keys) (p : String → Bool) :
    (ids.filter p).mergeSort (· ≤ ·) = d.keys.filter p := by
  have sorted : (d.keys.filter p).SortedLE :=
    ((d.ascending_keys.filter p).imp le_of_lt).sortedLE
  exact ((List.mergeSort_perm _ _).trans (collected.filter p)).eq_of_sortedLE
    List.sortedLE_mergeSort sorted

namespace Cache

/-- The keys of a cache in memory, collected in any order and sorted. -/
theorem keys_memory_eq_mergeSort {texts : Dict String} {denied : List CacheOperation}
    (allowed : CacheOperation.keys ∉ denied) {names : List String}
    (collected : names.Perm texts.keys) :
    (⟨.memory texts, denied⟩ : Cache).keys = .ok (names.mergeSort (· ≤ ·)) := by
  have sorted := Dict.mergeSort_filter_keys collected fun _ => true
  rw [List.filter_true, List.filter_true] at sorted
  simp [keys, allowed, sorted]

/-- The keys of a cache on a disk: of the names in its directory, in any order, those of kept files,
sorted. -/
theorem keys_disk_eq_mergeSort {tree : FileTree} {denied : List CacheOperation}
    (allowed : CacheOperation.keys ∉ denied) {names : List String}
    (collected : names.Perm ((tree.entries? directory).getD .empty).keys) :
    (⟨.disk tree, denied⟩ : Cache).keys = .ok ((names.filter isKey).mergeSort (· ≤ ·)) := by
  simp [keys, allowed, Dict.mergeSort_filter_keys collected]

end Cache

namespace Import

open Agenda

/-- The ids to remove: of the ids of an index, in any order, those without a record, sorted. -/
theorem deleted_compareWith_eq_mergeSort {fingerprints index : Index} {ids : List String}
    (collected : ids.Perm index.keys) :
    (compareWith fingerprints index).deleted =
      (ids.filter fun id => !fingerprints.contains id).mergeSort (· ≤ ·) :=
  (Dict.mergeSort_filter_keys collected _).symm

/-! ## The mutations of an import -/

theorem ascending_inserted_compare (fingerprints : Index) (index? : Option Index) :
    (compare fingerprints index?).inserted.Pairwise (· < ·) := by
  rcases compare_cases fingerprints index? with ⟨anew, -⟩ | ⟨index, -, compared⟩
  · rw [anew]
    exact fingerprints.ascending_keys
  · rw [compared]
    exact ascending_inserted_compareWith

theorem ascending_updated_compare (fingerprints : Index) (index? : Option Index) :
    (compare fingerprints index?).updated.Pairwise (· < ·) := by
  rcases compare_cases fingerprints index? with ⟨anew, -⟩ | ⟨index, -, compared⟩
  · rw [anew]
    exact .nil
  · rw [compared]
    exact ascending_updated_compareWith

section Searched

variable {fingerprints : Index} {index? : Option Index} {diff : TableDiff}

/-- A record is looked for among the ids that are new and then among those that have changed. -/
theorem recordMutation?_eq_searched (compared : compare fingerprints index? = diff)
    {table : Table} (e : String × table.Record) :
    recordMutation? diff e =
      if (Ids.search diff.inserted e.1).isOk then some (.insert ⟨table, e.2⟩)
      else if (Ids.search diff.updated e.1).isOk then some (.update ⟨table, e.2⟩)
      else none := by
  subst compared
  rw [Ids.isOk_search (ascending_inserted_compare fingerprints index?),
    Ids.isOk_search (ascending_updated_compare fingerprints index?), recordMutation?]

/-- A session that is found in neither class is written if it refers to what has changed. -/
theorem refreshMutation?_eq_searched (compared : compare fingerprints index? = diff)
    (changed : ChangedReferences) (e : String × Session) :
    refreshMutation? diff changed e =
      if !(Ids.search diff.inserted e.1).isOk && !(Ids.search diff.updated e.1).isOk &&
          changed.touch e.2 then
        some (.update ⟨.sessions, e.2⟩)
      else none := by
  subst compared
  rw [Ids.isOk_search (ascending_inserted_compare fingerprints index?),
    Ids.isOk_search (ascending_updated_compare fingerprints index?), refreshMutation?,
    TableDiff.written, List.contains_append, Bool.not_or]

end Searched

end Import

end ConferenceSync
