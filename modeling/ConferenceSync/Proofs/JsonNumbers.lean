import ConferenceSync.Json.Fields
import ConferenceSync.Json.Reader
import ConferenceSync.Proofs.Rounding

/-!
# Numbers in JSON texts

Every floating point number that is read from a text comes from roundings, so it is finite or
infinite. This goes for a value with all that is in it, by induction on the steps of the reader.

## Main definitions

* `JsonNumber.IsNumber`, `Json.Numeric` — that there is nothing but numbers in a value

## Main results

* `Json.numeric_of_objectOfText` — the members of a text have nothing but numbers in them
* `Json.Fields.isNumber_real` — neither has a field that is a number
-/

namespace ConferenceSync

open Number Binary64

/-- Whether a number of a JSON text is one. -/
def JsonNumber.IsNumber : JsonNumber → Prop
  | .whole _ => True
  | .float x => x.IsNumber

namespace Json

/-- Whether every number in a value is one. -/
inductive Numeric : Json → Prop where
  | null : Numeric null
  | bool (b : Bool) : Numeric (bool b)
  | number {n : JsonNumber} (isNumber : n.IsNumber) : Numeric (number n)
  | string (s : String) : Numeric (string s)
  | array {items : List Json} (all : ∀ v ∈ items, Numeric v) : Numeric (array items)
  | object {members : List (String × Json)} (all : ∀ m ∈ members, Numeric m.2) :
    Numeric (object members)

private theorem exists_of_map {α β : Type} {read : Except Fault α} {f : α → β} {b : β}
    (done : read.map f = .ok b) : ∃ a, read = .ok a ∧ f a = b := by
  cases read with
  | error fault => simp [Except.map] at done
  | ok a => exact ⟨a, rfl, Except.ok.inj done⟩

/-! ## Numbers -/

theorem isNumber_of_scaleByTen {fuel : Nat} {x y : Binary64} {e : Int} (number : x.IsNumber)
    (scaled : scaleByTen fuel x e = .ok y) : y.IsNumber := by
  induction fuel generalizing x e with
  | zero =>
    rw [scaleByTen] at scaled
    exact Except.ok.inj scaled ▸ number
  | succ fuel ih =>
    rw [scaleByTen] at scaled
    split at scaled
    · split at scaled
      · dsimp only at scaled
        split at scaled
        · simp at scaled
        · exact Except.ok.inj scaled ▸ isNumber_mul _ _
      · exact Except.ok.inj scaled ▸ isNumber_div _ _
    · split at scaled
      · exact Except.ok.inj scaled ▸ number
      · split at scaled
        · simp at scaled
        · exact ih (isNumber_div _ _) scaled

variable {negative : Bool} {n : Nat} {e : Int} {cs rest : List Char} {v : JsonNumber}

theorem isNumber_of_endFloat (read : endFloat negative n e cs = .ok (v, rest)) : v.IsNumber := by
  obtain ⟨x, parts, same⟩ := exists_of_map read
  obtain ⟨rfl, -⟩ := Prod.mk.inj same
  rw [floatOfParts] at parts
  cases scaled : scaleByTen 4 (Number.Binary64.ofNat n) e with
  | error fault => simp [scaled, bind, Except.bind] at parts
  | ok y =>
    have number := isNumber_of_scaleByTen (isNumber_ofNat n) scaled
    simp only [scaled, bind, Except.bind, pure, Except.pure, Except.ok.injEq] at parts
    rw [← parts]
    show Binary64.IsNumber _
    split
    · exact isNumber_neg number
    · exact number

theorem isNumber_of_readExponent (read : readExponent negative n e cs = .ok (v, rest)) :
    v.IsNumber := by
  rw [readExponent.eq_def] at read
  split at read
  split at read
  · simp at read
  · split at read
    · simp at read
    · dsimp only at read
      split at read
      · split at read
        · simp at read
        · obtain ⟨rfl, -⟩ := Prod.mk.inj (Except.ok.inj read)
          exact isNumber_zero negative
      · exact isNumber_of_endFloat read

theorem isNumber_of_readExponentIfAny
    (read : readExponentIfAny negative n e cs = .ok (v, rest)) : v.IsNumber := by
  rw [readExponentIfAny.eq_def] at read
  split at read
  · exact isNumber_of_readExponent read
  · exact isNumber_of_readExponent read
  · exact isNumber_of_endFloat read

theorem isNumber_of_readFraction (read : readFraction negative n e cs = .ok (v, rest)) :
    v.IsNumber := by
  rw [readFraction] at read
  split at read
  dsimp only at read
  split at read
  · exact isNumber_of_readExponentIfAny read
  · split at read
    · simp at read
    · exact isNumber_of_readExponentIfAny read

theorem isNumber_endWhole : (endWhole negative n).IsNumber := by
  rw [endWhole]
  split
  · trivial
  · split
    · exact isNumber_neg (isNumber_ofNat n)
    · trivial

theorem isNumber_of_readAfterWhole (read : readAfterWhole negative n cs = .ok (v, rest)) :
    v.IsNumber := by
  rw [readAfterWhole.eq_def] at read
  dsimp only at read
  split at read
  · exact isNumber_of_readFraction read
  · exact isNumber_of_readExponent read
  · exact isNumber_of_readExponent read
  · split at read
    · obtain ⟨rfl, -⟩ := Prod.mk.inj (Except.ok.inj read)
      exact isNumber_endWhole
    · exact isNumber_of_endFloat read

theorem isNumber_of_readMagnitude (read : readMagnitude negative cs = .ok (v, rest)) :
    v.IsNumber := by
  rw [readMagnitude.eq_def] at read
  split at read
  · simp at read
  · split at read
    · simp at read
    · exact isNumber_of_readAfterWhole read
  · split at read
    · exact isNumber_of_readAfterWhole read
    · simp at read

theorem isNumber_of_readNumber {care : Care} (read : readNumber care cs = .ok (v, rest)) :
    v.IsNumber := by
  rw [readNumber.eq_def] at read
  split at read
  cases care with
  | full => exact isNumber_of_readMagnitude read
  | skim =>
    dsimp only at read
    obtain ⟨_, -, same⟩ := exists_of_map read
    obtain ⟨rfl, -⟩ := Prod.mk.inj same
    trivial

/-! ## Values -/

theorem numeric_insertMember {value : Json} {members : List (String × Json)} (ok : value.Numeric)
    (all : ∀ m ∈ members, m.2.Numeric) (key : String) :
    ∀ m ∈ insertMember key value members, m.2.Numeric := by
  induction members with
  | nil =>
    intro m there
    rw [List.mem_singleton.1 there]
    exact ok
  | cons first rest ih =>
    obtain ⟨k, v⟩ := first
    have head := all _ List.mem_cons_self
    have tail := fun m there => all m (List.mem_cons_of_mem _ there)
    intro m there
    rw [insertMember] at there
    split at there
    · rcases List.mem_cons.1 there with rfl | there
      · exact ok
      · exact all m there
    · split at there
      · rcases List.mem_cons.1 there with rfl | there
        · exact ok
        · exact tail m there
      · rcases List.mem_cons.1 there with rfl | there
        · exact head
        · exact ih tail m there

section Readers

variable {care : Care} {fuel : Nat}

/-- Whether values that are read with a given number of steps have nothing but numbers in them. -/
def ReadsValues (care : Care) (fuel : Nat) : Prop :=
  ∀ room cs v rest, readValueWith care fuel room cs = .ok (v, rest) → v.Numeric

/-- Whether arrays that are read so, after some items, have nothing but numbers in them. -/
def ReadsItems (care : Care) (fuel : Nat) : Prop :=
  ∀ room acc cs v rest, (∀ w ∈ acc, w.Numeric) →
    readItemsWith care fuel room acc cs = .ok (v, rest) → v.Numeric

/-- Whether objects that are read so, after some members, have nothing but numbers in them. -/
def ReadsMembers (care : Care) (fuel : Nat) : Prop :=
  ∀ room acc cs v rest, (∀ m ∈ acc, m.2.Numeric) →
    readMembersWith care fuel room acc cs = .ok (v, rest) → v.Numeric

/-- A value is a word, a text, a number, or an array or object whose parts are read next. -/
theorem ReadsValues.succ (items : ReadsItems care fuel) (members : ReadsMembers care fuel) :
    ReadsValues care (fuel + 1) := by
  intro room cs v rest read
  rw [readValueWith.eq_def] at read
  dsimp only at read
  split at read
  · simp at read
  · obtain ⟨_, -, same⟩ := exists_of_map read
    obtain ⟨rfl, -⟩ := Prod.mk.inj same
    exact .null
  · obtain ⟨_, -, same⟩ := exists_of_map read
    obtain ⟨rfl, -⟩ := Prod.mk.inj same
    exact .bool true
  · obtain ⟨_, -, same⟩ := exists_of_map read
    obtain ⟨rfl, -⟩ := Prod.mk.inj same
    exact .bool false
  · obtain ⟨⟨s, _⟩, -, same⟩ := exists_of_map read
    obtain ⟨rfl, -⟩ := Prod.mk.inj same
    exact .string s
  -- An array or object may end at once; otherwise it has not had any parts yet.
  · split at read
    · simp at read
    · split at read
      · simp at read
      · obtain ⟨rfl, -⟩ := Prod.mk.inj (Except.ok.inj read)
        exact .array (by simp)
      · exact items _ _ _ _ _ (by simp) read
  · split at read
    · simp at read
    · split at read
      · simp at read
      · obtain ⟨rfl, -⟩ := Prod.mk.inj (Except.ok.inj read)
        exact .object (by simp)
      · exact members _ _ _ _ _ (by simp) read
  · split at read
    · obtain ⟨⟨n, _⟩, number, same⟩ := exists_of_map read
      obtain ⟨rfl, -⟩ := Prod.mk.inj same
      exact .number (isNumber_of_readNumber number)
    · simp at read

/-- Items are collected from back to front until the array ends. -/
theorem ReadsItems.succ (values : ReadsValues care fuel) (items : ReadsItems care fuel) :
    ReadsItems care (fuel + 1) := by
  intro room acc cs v rest all read
  rw [readItemsWith.eq_def] at read
  dsimp only at read
  split at read
  · simp at read
  · next item rest found =>
    have collected : ∀ w ∈ item :: acc, w.Numeric := by
      intro w there
      rcases List.mem_cons.1 there with rfl | there
      · exact values _ _ _ _ found
      · exact all w there
    split at read
    · simp at read
    · obtain ⟨rfl, -⟩ := Prod.mk.inj (Except.ok.inj read)
      exact .array fun w there => collected w (List.mem_reverse.1 there)
    · exact items _ _ _ _ _ collected read
    · simp at read

/-- Members are inserted by key until the object ends. -/
theorem ReadsMembers.succ (values : ReadsValues care fuel) (members : ReadsMembers care fuel) :
    ReadsMembers care (fuel + 1) := by
  intro room acc cs v rest all read
  rw [readMembersWith.eq_def] at read
  dsimp only at read
  split at read
  · simp at read
  · split at read
    · simp at read
    · split at read
      · simp at read
      · split at read
        · simp at read
        · next found =>
          have collected := numeric_insertMember (values _ _ _ _ found) all
          split at read
          · simp at read
          · obtain ⟨rfl, -⟩ := Prod.mk.inj (Except.ok.inj read)
            exact .object (collected _)
          · exact members _ _ _ _ _ (collected _) read
          · simp at read
      · simp at read
  · simp at read

/-- The three readers call each other with fewer steps. -/
theorem reads_all (care : Care) (fuel : Nat) :
    ReadsValues care fuel ∧ ReadsItems care fuel ∧ ReadsMembers care fuel := by
  induction fuel with
  | zero =>
    refine ⟨?_, ?_, ?_⟩
    · intro _ _ _ _ read
      simp [readValueWith] at read
    · intro _ _ _ _ _ _ read
      simp [readItemsWith] at read
    · intro _ _ _ _ _ _ read
      simp [readMembersWith] at read
  | succ fuel ih =>
    obtain ⟨values, items, members⟩ := ih
    exact ⟨.succ items members, .succ values items, .succ values members⟩

end Readers

/-- A value that is read has nothing but numbers in it. -/
theorem numeric_of_readValue {cs rest : List Char} {v : Json}
    (read : readValue cs = .ok (v, rest)) : v.Numeric :=
  (reads_all _ _).1 _ _ _ _ read

/-- The members of a text have nothing but numbers in them. -/
theorem numeric_of_objectOfText {text : String} {members : List (String × Json)}
    (read : objectOfText text = .ok members) : ∀ m ∈ members, m.2.Numeric := by
  rw [objectOfText.eq_def] at read
  split at read
  · next rest =>
    simp only [bind, Except.bind] at read
    split at read
    · simp at read
    · next found =>
      split at read
      · rw [endText] at read
        split at read
        · obtain rfl := Except.ok.inj read
          cases numeric_of_readValue found with
          | object all => exact all
        · simp at read
      · simp at read
  · simp at read

/-! ## Fields -/

theorem numeric_of_findMember? {key : String} {members : List (String × Json)} {v : Json}
    (all : ∀ m ∈ members, m.2.Numeric) (found : findMember? key members = some v) : v.Numeric := by
  induction members with
  | nil => simp [findMember?] at found
  | cons first rest ih =>
    rw [findMember?] at found
    split at found
    · exact Option.some.inj found ▸ all first List.mem_cons_self
    · exact ih (fun m there => all m (List.mem_cons_of_mem _ there)) found

theorem numeric_of_lookup {name : String} {members : List (String × Json)} {v : Json}
    (all : ∀ m ∈ members, m.2.Numeric) (found : members.lookup name = some v) : v.Numeric := by
  induction members with
  | nil => simp at found
  | cons first rest ih =>
    obtain ⟨key, value⟩ := first
    rw [List.lookup_cons] at found
    split at found
    · exact Option.some.inj found ▸ all (key, value) List.mem_cons_self
    · exact ih (fun m there => all m (List.mem_cons_of_mem _ there)) found

/-- The fields of a value have nothing but numbers in them. -/
theorem numeric_of_fields? {names : List String} {value v : Json} {fields : Fields} {name : String}
    (ok : value.Numeric) (given : value.fields? names = some fields)
    (found : fields.get? name = some v) : v.Numeric := by
  cases ok with
  | object all =>
    obtain rfl := Option.some.inj given
    exact numeric_of_findMember? all found
  | @array items all =>
    rw [fields?] at given
    split at given
    · obtain rfl := Option.some.inj given
      exact numeric_of_lookup (fun m there => all _ (List.of_mem_zip there).2) found
    · simp at given
  | _ => simp [fields?] at given

namespace Fields

variable {names : List String} {value : Json} {fields : Fields} {name : String}

/-- A field that is a floating point number is one. -/
theorem isNumber_real {x : Binary64} (ok : value.Numeric)
    (given : value.fields? names = some fields) (read : fields.real name = some x) :
    x.IsNumber := by
  rw [real] at read
  split at read
  · exact Option.some.inj read ▸ isNumber_zero false
  · exact Option.some.inj read ▸ isNumber_ofInt _
  · next found =>
    obtain rfl := Option.some.inj read
    cases numeric_of_fields? ok given found with
    | number isNumber => exact isNumber
  · simp at read

/-- The members of a field have nothing but numbers in them. -/
theorem numeric_members {members : List (String × Json)} (ok : value.Numeric)
    (given : value.fields? names = some fields) (read : fields.members name = some members) :
    ∀ m ∈ members, m.2.Numeric := by
  rw [Fields.members] at read
  split at read
  · obtain rfl := Option.some.inj read
    simp
  · next found =>
    obtain rfl := Option.some.inj read
    cases numeric_of_fields? ok given found with
    | object all => exact all
  · simp at read

end Fields

theorem numeric_items {value : Json} (ok : value.Numeric) : ∀ v ∈ value.items, v.Numeric := by
  cases ok with
  | array all => exact all
  | _ => simp [items]

end Json

end ConferenceSync
