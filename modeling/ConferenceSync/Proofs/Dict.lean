import ConferenceSync.Dict

/-!
# More on dictionaries

What lists of insertions and removals do to every key, and the entries of a dictionary that is
made from a list.

## Main definitions

* `Dict.mapKeyed` — a dictionary with a function of key and value applied to its entries
* `Dict.overlay`, `Dict.eraseAll` — many insertions, many removals

## Main results

* `Dict.get?_mapKeyed`, `Dict.get?_overlay`, `Dict.get?_eraseAll` — what they do to every key
* `Dict.mem_of_get?_ofList` — an entry of a list's dictionary is a member of the list
* `Dict.get?_ofList_eq_some_iff_last` — it is the last one under its key
* `Dict.get?_ofList_eq_some_iff`, `Dict.ofList_perm` — the dictionary of a list in which each key is
  listed once
* `Dict.map_ofList` — the dictionary of a list with a function applied to its values
-/

namespace ConferenceSync.Dict

variable {α β : Type}

/-- The dictionary with a function of key and value applied to its entries. -/
def mapKeyed (f : String → α → β) (d : Dict α) : Dict β :=
  ⟨d.entries.map fun e => (e.1, f e.1 e.2), List.pairwise_map.2 d.ascending⟩

/-- The dictionary with the entries of a list inserted, one after another. -/
def overlay (d : Dict α) (entries : List (String × α)) : Dict α :=
  entries.foldl (fun d e => d.insert e.1 e.2) d

/-- The dictionary without the entries under some keys. -/
def eraseAll (d : Dict α) (keys : List String) : Dict α :=
  keys.foldl erase d

/-! ## Reading -/

theorem contains_iff {d : Dict α} {key : String} :
    d.contains key = true ↔ ∃ v, d.get? key = some v := by
  rw [contains, Option.isSome_iff_exists]

theorem contains_eq_false_iff {d : Dict α} {key : String} :
    d.contains key = false ↔ d.get? key = none := by
  rw [contains, Option.isSome_eq_false_iff, Option.isNone_iff_eq_none]

theorem get?_insert_empty_iff {key id : String} {a b : α} :
    (empty.insert key a).get? id = some b ↔ key = id ∧ a = b := by
  rw [get?_insert]
  split
  · next same => simp [same]
  · next other => simp [other]

theorem isEmpty_iff {d : Dict α} : d.isEmpty = true ↔ ∀ key, d.get? key = none := by
  rw [isEmpty, List.isEmpty_iff]
  constructor
  · intro none key
    simp [get?, none, find?]
  · intro none
    refine List.eq_nil_iff_forall_not_mem.2 fun e he => ?_
    have there := get?_eq_some_iff.2 he
    rw [none] at there
    simp at there

theorem get?_mapKeyed (f : String → α → β) (d : Dict α) (key : String) :
    (d.mapKeyed f).get? key = (d.get? key).map (f key) := by
  apply Option.ext
  intro v
  rw [get?_eq_some_iff, Option.map_eq_some_iff]
  simp only [mapKeyed, List.mem_map, Prod.mk.injEq, Prod.exists, get?_eq_some_iff]
  constructor
  · rintro ⟨k, w, there, rfl, rfl⟩
    exact ⟨w, there, rfl⟩
  · rintro ⟨w, there, rfl⟩
    exact ⟨key, w, there, rfl, rfl⟩

theorem ascending_keys (d : Dict α) : d.keys.Pairwise (· < ·) := List.pairwise_map.2 d.ascending

theorem nodup_keys (d : Dict α) : d.keys.Nodup := by
  refine List.pairwise_map.2 (d.ascending.imp ?_)
  intro a b below same
  rw [same] at below
  exact String.lt_irrefl _ below

/-- A function on the values leaves the keys. -/
theorem keys_map (f : α → β) (d : Dict α) : (d.map f).keys = d.keys := by
  simp only [keys, map, List.map_map, Function.comp_def]

/-- A test of the keys is a test of the listed keys. -/
theorem keys_filter (p : String → Bool) (d : Dict α) :
    (d.filter fun key _ => p key).keys = d.keys.filter p := by
  simp only [keys, filter, List.filter_map, Function.comp_def]

/-! ## Many changes -/

/-- An entry of the list wins over the dictionary, provided that each key is listed once. -/
theorem get?_overlay {entries : List (String × α)} (once : (entries.map Prod.fst).Nodup)
    (d : Dict α) (key : String) :
    (d.overlay entries).get? key = (find? key entries).or (d.get? key) := by
  induction entries generalizing d with
  | nil => simp [overlay, find?]
  | cons e rest ih =>
    obtain ⟨k, v⟩ := e
    rw [List.map_cons, List.nodup_cons] at once
    have step : d.overlay ((k, v) :: rest) = (d.insert k v).overlay rest := rfl
    rw [step, ih once.2, get?_insert, find?]
    by_cases same : k = key
    · subst same
      have absent : find? k rest = none :=
        find?_eq_none_iff.2 fun e he h => once.1 (List.mem_map.2 ⟨e, he, h⟩)
      simp [absent]
    · simp [same]

theorem get?_eraseAll (d : Dict α) (keys : List String) (key : String) :
    (d.eraseAll keys).get? key = if key ∈ keys then none else d.get? key := by
  induction keys generalizing d with
  | nil => simp [eraseAll]
  | cons k rest ih =>
    have step : d.eraseAll (k :: rest) = (d.erase k).eraseAll rest := rfl
    rw [step, ih, get?_erase]
    by_cases there : key ∈ rest
    · simp [there]
    · by_cases same : k = key
      · simp [same]
      · simp [there, same, Ne.symm same]

/-! ## The dictionary of a list -/

theorem find?_eq_find? (key : String) (entries : List (String × α)) :
    find? key entries = (entries.find? fun e => e.1 = key).map Prod.snd := by
  induction entries with
  | nil => rfl
  | cons e rest ih =>
    obtain ⟨k, v⟩ := e
    by_cases same : k = key <;> simp [find?, same, ih]

/-- The last entry of the list under a key wins. -/
theorem get?_overlay_eq_or (d : Dict α) (entries : List (String × α)) (key : String) :
    (d.overlay entries).get? key = (find? key entries.reverse).or (d.get? key) := by
  induction entries generalizing d with
  | nil => simp [overlay, find?]
  | cons e rest ih =>
    have step : d.overlay (e :: rest) = (d.insert e.1 e.2).overlay rest := rfl
    rw [step, ih, get?_insert, List.reverse_cons, find?_eq_find?, find?_eq_find?, List.find?_append]
    cases rest.reverse.find? fun e => e.1 = key with
    | some _ => rfl
    | none => by_cases same : e.1 = key <;> simp [same]

theorem get?_ofList (entries : List (String × α)) (key : String) :
    (ofList entries).get? key = find? key entries.reverse :=
  (get?_overlay_eq_or empty entries key).trans Option.or_none

/-- The keys of a list's dictionary are those that are listed. -/
theorem exists_get?_ofList_iff {entries : List (String × α)} {key : String} :
    (∃ value, (ofList entries).get? key = some value) ↔ key ∈ entries.map Prod.fst := by
  rw [← Option.isSome_iff_exists, ← Option.ne_none_iff_isSome, get?_ofList, Ne, find?_eq_none_iff]
  simp

/-- In a list's dictionary there is under each key the value of the last entry under the key. -/
theorem get?_ofList_eq_some_iff_last {entries : List (String × α)} {key : String} {value : α} :
    (ofList entries).get? key = some value ↔
      ∃ before after, entries = before ++ (key, value) :: after ∧ ∀ e ∈ after, e.1 ≠ key := by
  rw [get?_ofList, find?_eq_find?, Option.map_eq_some_iff]
  simp only [List.find?_eq_some_iff_append, List.reverse_eq_append_iff]
  constructor
  · rintro ⟨e, ⟨here, after, before, rfl, others⟩, rfl⟩
    obtain rfl : e.1 = key := of_decide_eq_true here
    exact ⟨before.reverse, after.reverse, by simp, by simpa using others⟩
  · rintro ⟨before, after, rfl, others⟩
    refine ⟨(key, value), ⟨by simp, after.reverse, before.reverse, by simp, ?_⟩, rfl⟩
    simpa using others

/-- An entry of a list's dictionary is a member of the list. -/
theorem mem_of_get?_ofList {entries : List (String × α)} {key : String} {value : α}
    (h : (ofList entries).get? key = some value) : (key, value) ∈ entries := by
  obtain ⟨before, after, rfl, -⟩ := get?_ofList_eq_some_iff_last.1 h
  exact List.mem_append_right _ List.mem_cons_self

/-- If each key is listed once, the first value that is listed under it is the only one. -/
theorem find?_eq_some_iff_of_nodup {entries : List (String × α)}
    (once : (entries.map Prod.fst).Nodup) {key : String} {value : α} :
    find? key entries = some value ↔ (key, value) ∈ entries := by
  induction entries with
  | nil => simp [find?]
  | cons e rest ih =>
    obtain ⟨k, v⟩ := e
    rw [List.map_cons, List.nodup_cons] at once
    by_cases same : k = key
    · subst same
      have absent : (k, value) ∉ rest := fun there =>
        once.1 (List.mem_map.2 ⟨(k, value), there, rfl⟩)
      simp [find?, absent, eq_comm]
    · simp [find?, same, ih once.2, Ne.symm same]

section Listed

variable {entries more : List (String × α)} (once : (entries.map Prod.fst).Nodup)
include once

/-- If each key is listed once, the entries of a list's dictionary are the members of the list. -/
theorem get?_ofList_eq_some_iff {key : String} {value : α} :
    (ofList entries).get? key = some value ↔ (key, value) ∈ entries := by
  have listed : (ofList entries).get? key = (find? key entries).or none :=
    get?_overlay once empty key
  rw [listed, Option.or_none, find?_eq_some_iff_of_nodup once]

theorem nodup_of_once : entries.Nodup :=
  List.Pairwise.of_map Prod.fst (fun _ _ apart same => apart (congrArg Prod.fst same)) once

theorem perm_entries_ofList : (ofList entries).entries.Perm entries := by
  have own := nodup_of_once (ofList entries).nodup_keys
  refine (List.perm_ext_iff_of_nodup own (nodup_of_once once)).2 fun e => ?_
  rw [← get?_eq_some_iff, get?_ofList_eq_some_iff once]

/-- If each key is listed once, the order of the list does not matter. -/
theorem ofList_perm (perm : entries.Perm more) : ofList entries = ofList more := by
  apply ext_get?
  intro key
  apply Option.ext
  intro value
  rw [get?_ofList_eq_some_iff once, get?_ofList_eq_some_iff ((perm.map _).nodup_iff.1 once),
    perm.mem_iff]

end Listed

theorem map_insert (f : α → β) (d : Dict α) (key : String) (value : α) :
    (d.insert key value).map f = (d.map f).insert key (f value) := by
  apply ext_get?
  intro k
  rw [get?_map, get?_insert, get?_insert, get?_map]
  by_cases same : key = k <;> simp [same]

theorem map_erase (f : α → β) (d : Dict α) (key : String) :
    (d.erase key).map f = (d.map f).erase key := by
  apply ext_get?
  intro k
  rw [get?_map, get?_erase, get?_erase, get?_map]
  by_cases same : key = k <;> simp [same]

theorem map_overlay (f : α → β) (d : Dict α) (entries : List (String × α)) :
    (d.overlay entries).map f = (d.map f).overlay (entries.map fun e => (e.1, f e.2)) := by
  induction entries generalizing d with
  | nil => rfl
  | cons e rest ih =>
    have step := ih (d.insert e.1 e.2)
    rw [map_insert] at step
    exact step

/-- A function is applied to the values of a list's dictionary by applying it to the list. -/
theorem map_ofList (f : α → β) (entries : List (String × α)) :
    (ofList entries).map f = ofList (entries.map fun e => (e.1, f e.2)) :=
  map_overlay f empty entries

end ConferenceSync.Dict
