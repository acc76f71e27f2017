/-!
# Dictionaries in key order

A dictionary from texts to values that lists its entries in ascending order of their keys. Texts
are compared by code points, which is also the order of their UTF-8 octets.

## Main definitions

* `Dict` — the type; its entries are strictly ascending, so each key occurs once
* `Dict.get?`, `Dict.insert`, `Dict.erase` — reading, writing and removing an entry
* `Dict.ofList` — the dictionary of a list of entries, later ones winning

## Main results

* `Dict.get?_insert`, `Dict.get?_erase` — what a change does to every key
* `Dict.ext_get?` — dictionaries with the same value under every key are equal
-/

namespace ConferenceSync

/-- A dictionary whose entries are in ascending order of their keys. -/
structure Dict (α : Type) where
  entries : List (String × α)
  ascending : entries.Pairwise fun a b => a.1 < b.1

namespace Dict

variable {α β : Type}

instance [Repr α] : Repr (Dict α) := ⟨fun d n => reprPrec d.entries n⟩

instance [DecidableEq α] : DecidableEq (Dict α) := fun a b =>
  decidable_of_iff (a.entries = b.entries) (by cases a; cases b; simp)

/-- The dictionary without entries. -/
def empty : Dict α := ⟨[], .nil⟩

instance : Inhabited (Dict α) := ⟨empty⟩

/-- The value that a list of entries has under a key. -/
def find? (key : String) : List (String × α) → Option α
  | [] => none
  | (k, v) :: rest => if k = key then some v else find? key rest

/-- A list of entries with one entry more, put in its place; an entry under the same key gives
way. -/
def place (key : String) (value : α) : List (String × α) → List (String × α)
  | [] => [(key, value)]
  | (k, v) :: rest =>
    if key < k then (key, value) :: (k, v) :: rest
    else if key = k then (key, value) :: rest
    else (k, v) :: place key value rest

theorem mem_place {key : String} {value : α} {entries : List (String × α)} {e : String × α}
    (h : e ∈ place key value entries) : e = (key, value) ∨ e ∈ entries := by
  induction entries with
  | nil => simpa [place] using h
  | cons d rest ih =>
    obtain ⟨k, v⟩ := d
    unfold place at h
    split at h
    · simpa using h
    · split at h
      · rcases List.mem_cons.1 h with h | h
        · exact .inl h
        · exact .inr (by simp [h])
      · rcases List.mem_cons.1 h with h | h
        · exact .inr (by simp [h])
        · exact (ih h).imp_right fun h => by simp [h]

theorem pairwise_place {key : String} {value : α} {entries : List (String × α)}
    (h : entries.Pairwise fun a b => a.1 < b.1) :
    (place key value entries).Pairwise fun a b => a.1 < b.1 := by
  induction entries with
  | nil => simp [place]
  | cons d rest ih =>
    obtain ⟨k, v⟩ := d
    rw [List.pairwise_cons] at h
    unfold place
    split
    · next below =>
      refine List.pairwise_cons.2 ⟨fun e he => ?_, List.pairwise_cons.2 h⟩
      rcases List.mem_cons.1 he with rfl | he
      · exact below
      · exact String.lt_trans below (h.1 e he)
    · split
      · next _ same => exact List.pairwise_cons.2 ⟨fun e he => same ▸ h.1 e he, h.2⟩
      · next above other =>
        refine List.pairwise_cons.2 ⟨fun e he => ?_, ih h.2⟩
        rcases mem_place he with rfl | he
        · show k < key
          grind
        · exact h.1 e he

/-- The value under a key. -/
def get? (d : Dict α) (key : String) : Option α := find? key d.entries

/-- Whether there is a value under a key. -/
def contains (d : Dict α) (key : String) : Bool := (d.get? key).isSome

/-- The dictionary with a value put under a key. -/
def insert (d : Dict α) (key : String) (value : α) : Dict α :=
  ⟨place key value d.entries, pairwise_place d.ascending⟩

/-- The dictionary without the entries that fail a test. -/
def filter (p : String → α → Bool) (d : Dict α) : Dict α :=
  ⟨d.entries.filter fun e => p e.1 e.2, d.ascending.filter _⟩

/-- The dictionary without the entry under a key. -/
def erase (d : Dict α) (key : String) : Dict α :=
  d.filter fun k _ => k != key

/-- The dictionary with a function applied to its values. -/
def map (f : α → β) (d : Dict α) : Dict β :=
  ⟨d.entries.map fun e => (e.1, f e.2), List.pairwise_map.2 d.ascending⟩

/-- The keys in ascending order. -/
def keys (d : Dict α) : List String := d.entries.map Prod.fst

/-- The values in the order of their keys. -/
def values (d : Dict α) : List α := d.entries.map Prod.snd

/-- The number of entries. -/
def size (d : Dict α) : Nat := d.entries.length

/-- Whether there are no entries. -/
def isEmpty (d : Dict α) : Bool := d.entries.isEmpty

/-- The dictionary of a list of entries; of two entries under one key the later one counts. -/
def ofList (entries : List (String × α)) : Dict α :=
  entries.foldl (fun d e => d.insert e.1 e.2) empty

/-! ## What a change does to every key -/

theorem find?_place (key : String) (value : α) (entries : List (String × α)) (k : String) :
    find? k (place key value entries) = if key = k then some value else find? k entries := by
  induction entries with
  | nil => simp [place, find?]
  | cons d rest ih =>
    obtain ⟨k', v'⟩ := d
    unfold place
    split
    · simp [find?]
    · split
      · next _ same => subst same; by_cases h : key = k <;> simp [find?, h]
      · next _ other =>
        by_cases h : k' = k
        · subst h; simp [find?, other]
        · simp [find?, h, ih]

@[simp] theorem get?_empty (key : String) : (empty : Dict α).get? key = none := rfl

/-- An insertion changes the value under its key and no other. -/
theorem get?_insert (d : Dict α) (key : String) (value : α) (k : String) :
    (d.insert key value).get? k = if key = k then some value else d.get? k :=
  find?_place key value d.entries k

theorem find?_eq_none_iff {key : String} {entries : List (String × α)} :
    find? key entries = none ↔ ∀ e ∈ entries, e.1 ≠ key := by
  induction entries with
  | nil => simp [find?]
  | cons d rest ih =>
    obtain ⟨k, v⟩ := d
    by_cases h : k = key <;> simp [find?, h, ih]

theorem find?_eq_some_iff {key : String} {value : α} {entries : List (String × α)}
    (h : entries.Pairwise fun a b => a.1 < b.1) :
    find? key entries = some value ↔ (key, value) ∈ entries := by
  induction entries with
  | nil => simp [find?]
  | cons d rest ih =>
    obtain ⟨k, v⟩ := d
    rw [List.pairwise_cons] at h
    by_cases same : k = key
    · subst same
      have absent : (k, value) ∉ rest := fun hm => String.lt_irrefl k (h.1 _ hm)
      simp [find?, absent, eq_comm]
    · simp [find?, same, ih h.2, Ne.symm same]

/-- The values under keys are exactly the entries. -/
theorem get?_eq_some_iff {d : Dict α} {key : String} {value : α} :
    d.get? key = some value ↔ (key, value) ∈ d.entries :=
  find?_eq_some_iff d.ascending

theorem get?_filter (p : String → α → Bool) (d : Dict α) (k : String) :
    (d.filter p).get? k = (d.get? k).filter (p k) := by
  apply Option.ext
  intro v
  rw [get?_eq_some_iff, Option.filter_eq_some_iff, get?_eq_some_iff]
  simp [filter]

/-- A removal takes the value under its key away and no other. -/
theorem get?_erase (d : Dict α) (key k : String) :
    (d.erase key).get? k = if key = k then none else d.get? k := by
  rw [erase, get?_filter]
  by_cases h : key = k
  · subst h; simp
  · cases hv : d.get? k <;> simp [h, Ne.symm h]

theorem get?_map (f : α → β) (d : Dict α) (k : String) :
    (d.map f).get? k = (d.get? k).map f := by
  show find? k (d.entries.map fun e => (e.1, f e.2)) = (find? k d.entries).map f
  induction d.entries with
  | nil => rfl
  | cons e rest ih =>
    obtain ⟨k', v⟩ := e
    by_cases h : k' = k <;> simp [find?, h, ih]

theorem mem_keys {d : Dict α} {key : String} : key ∈ d.keys ↔ ∃ v, d.get? key = some v := by
  simp [keys, get?_eq_some_iff]

theorem eq_of_find? {a b : List (String × α)} (ha : a.Pairwise fun a b => a.1 < b.1)
    (hb : b.Pairwise fun a b => a.1 < b.1) (same : ∀ k, find? k a = find? k b) : a = b := by
  induction a generalizing b with
  | nil =>
    cases b with
    | nil => rfl
    | cons e rest => have := same e.1; simp [find?] at this
  | cons d restA ih =>
    obtain ⟨k, v⟩ := d
    cases b with
    | nil => have := same k; simp [find?] at this
    | cons e restB =>
      obtain ⟨k', v'⟩ := e
      rw [List.pairwise_cons] at ha hb
      have hk : k = k' := by
        have inB : (k, v) ∈ (k', v') :: restB := by
          rw [← find?_eq_some_iff (List.pairwise_cons.2 hb), ← same]; simp [find?]
        have inA : (k', v') ∈ (k, v) :: restA := by
          rw [← find?_eq_some_iff (List.pairwise_cons.2 ha), same]; simp [find?]
        rcases List.mem_cons.1 inB with h | h
        · exact congrArg Prod.fst h
        · rcases List.mem_cons.1 inA with h' | h'
          · exact (congrArg Prod.fst h').symm
          · exact absurd (String.lt_trans (hb.1 _ h) (ha.1 _ h')) (String.lt_irrefl _)
      subst hk
      have hv : v = v' := by have := same k; simpa [find?] using this
      subst hv
      congr 1
      refine ih ha.2 hb.2 fun j => ?_
      by_cases hj : k = j
      · subst hj
        have fresh {rest : List (String × α)} (above : ∀ e ∈ rest, k < e.1) :
            find? k rest = none :=
          find?_eq_none_iff.2 fun e he h => String.lt_irrefl k (by simpa [h] using above e he)
        rw [fresh ha.1, fresh hb.1]
      · have := same j
        simpa [find?, hj] using this

/-- Dictionaries with the same value under every key are equal. -/
theorem ext_get? {a b : Dict α} (same : ∀ k, a.get? k = b.get? k) : a = b := by
  have := eq_of_find? a.ascending b.ascending same
  cases a; cases b; simp_all

end Dict

end ConferenceSync
