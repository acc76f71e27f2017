import Mathlib.Data.List.Forall2
import ConferenceSync.Agenda.Block
import ConferenceSync.Agenda.Session
import ConferenceSync.Proofs.Timestamps

/-!
# Respelled times

A time may be spelled in several ways, and a record does not depend on the one that is chosen: if
two elements differ only in how their times are spelled, they are read as the same block or the same
session, with the same id and the same fingerprint, or neither of them is read at all.

## Main definitions

* `Json.Agree` — whether two values of a field are the same up to the spelling of a time
* `Json.Respelled` — whether two elements are

## Main results

* `Block.ofJson?_respelled`, `Session.ofJson?_respelled` — they are read as the same record
* `spellings_of_one_instant_agree` — which time a spelling stands for, and that no other spelling of
  it gives another record
-/

namespace ConferenceSync

open Time (Denotes bind_of_some timestampOfJson timestampOfJson_eq)

/-! ## Elements -/

namespace Json

variable {times names : List String} {name : String} {e e' : Json}

/-- Whether two values of a field are the same, or spell one instant if the field is a time. -/
def Agree (times : List String) (name : String) (value other : Json) : Prop :=
  value = other ∨ name ∈ times ∧ ∃ instant, Denotes value instant ∧ Denotes other instant

/-- Whether two elements with the fields `names` differ only in how the `times` among them are
spelled. -/
inductive Respelled (times names : List String) : Json → Json → Prop where
  | object {members others : List (String × Json)}
      (same : List.Forall₂ (fun m o => m.1 = o.1 ∧ Agree times m.1 m.2 o.2) members others) :
      Respelled times names (.object members) (.object others)
  | array {items others : List Json} (length : items.length = others.length)
      (same : List.Forall₂ (fun m o => m.1 = o.1 ∧ Agree times m.1 m.2 o.2) (names.zip items)
        (names.zip others)) :
      Respelled times names (.array items) (.array others)

/-- A time is the same in milliseconds. -/
theorem Agree.timestamp {value other : Json} (agree : Agree times name value other) :
    timestampOfJson value = timestampOfJson other := by
  rcases agree with rfl | ⟨-, instant, here, there⟩
  · rfl
  · rw [timestampOfJson_eq here, timestampOfJson_eq there]

/-- What is found under a key agrees. -/
theorem rel_findMember? {members others : List (String × Json)}
    (same : List.Forall₂ (fun m o => m.1 = o.1 ∧ Agree times m.1 m.2 o.2) members others)
    (name : String) :
    Option.Rel (Agree times name) (findMember? name members) (findMember? name others) := by
  induction same with
  | nil => exact .none
  | @cons m o members others here _ ih =>
    obtain ⟨key, value⟩ := m
    obtain ⟨_, other⟩ := o
    obtain ⟨rfl, agree⟩ := here
    rw [findMember?, findMember?]
    split
    · next found => exact .some (found ▸ agree)
    · exact ih

/-- What is found in a list of named values does too. -/
theorem rel_lookup {members others : List (String × Json)}
    (same : List.Forall₂ (fun m o => m.1 = o.1 ∧ Agree times m.1 m.2 o.2) members others)
    (name : String) :
    Option.Rel (Agree times name) (members.lookup name) (others.lookup name) := by
  induction same with
  | nil => exact .none
  | @cons m o members others here _ ih =>
    obtain ⟨key, value⟩ := m
    obtain ⟨_, other⟩ := o
    obtain ⟨rfl, agree⟩ := here
    by_cases found : name = key
    · subst found
      rw [List.lookup_cons_self, List.lookup_cons_self]
      exact .some agree
    · have passed : (name == key) = false := beq_false_of_ne found
      rw [List.lookup_cons, List.lookup_cons, passed]
      exact ih

namespace Fields

/-- Whether two records agree in every field. -/
def Agree (times : List String) (fields others : Fields) : Prop :=
  ∀ name, Option.Rel (Json.Agree times name) (fields.get? name) (others.get? name)

variable {fields others : Fields}

/-- A field that is no time has one value in both. -/
theorem Agree.get?_eq (agree : Agree times fields others) (other : name ∉ times) :
    fields.get? name = others.get? name := by
  have here := agree name
  revert here
  generalize fields.get? name = value, others.get? name = value'
  rintro (⟨same | ⟨time, -⟩⟩ | _)
  · exact congrArg some same
  · exact absurd time other
  · rfl

theorem Agree.text (agree : Agree times fields others) (other : name ∉ times) :
    fields.text name = others.text name := by
  rw [Fields.text, Fields.text, agree.get?_eq other]

theorem Agree.texts (agree : Agree times fields others) (other : name ∉ times) :
    fields.texts name = others.texts name := by
  rw [Fields.texts, Fields.texts, agree.get?_eq other]

theorem Agree.flag (agree : Agree times fields others) (other : name ∉ times) :
    fields.flag name = others.flag name := by
  rw [Fields.flag, Fields.flag, agree.get?_eq other]

theorem Agree.value (agree : Agree times fields others) (other : name ∉ times) :
    fields.value name = others.value name := by
  rw [Fields.value, Fields.value, agree.get?_eq other]

/-- A field that is a time has one value in milliseconds, given or not. -/
theorem Agree.timestamp (agree : Agree times fields others) (name : String) :
    timestampOfJson (fields.value name) = timestampOfJson (others.value name) := by
  have here := agree name
  rw [Fields.value, Fields.value]
  revert here
  generalize fields.get? name = value, others.get? name = value'
  rintro (same | _)
  · exact same.timestamp
  · rfl

end Fields

/-- Respelled elements have fields that agree, or neither of them has the shape of a record. -/
theorem Respelled.fields? (respelled : Respelled times names e e') :
    Option.Rel (Fields.Agree times) (e.fields? names) (e'.fields? names) := by
  cases respelled with
  | object same => exact .some (rel_findMember? same)
  | array length same =>
    rw [Json.fields?, Json.fields?, length]
    split
    · exact .some (rel_lookup same)
    · exact .none

end Json

/-! ## Records -/

namespace Agenda

open Json (Respelled)

variable {e e' : Json}

/-- The names of the fields of a block, in the order of the array form. -/
def blockFieldNames : List String := ["title", "subtitle", "type", "start", "end"]

/-- The fields of a block that are times. -/
def blockTimes : List String := ["start", "end"]

/-- The fields of a session that are times. -/
def sessionTimes : List String := ["startTimestamp", "endTimestamp"]

/-- Elements that differ in the spelling of times are one block. -/
theorem Block.ofJson?_respelled
    (respelled : Respelled blockTimes blockFieldNames e e') :
    Block.ofJson? e = Block.ofJson? e' := by
  have shape := respelled.fields?
  rw [Block.ofJson?, Block.ofJson?, ← blockFieldNames]
  revert shape
  generalize e.fields? _ = fields?, e'.fields? _ = others?
  rintro (agree | _)
  · simp (disch := decide) only [bind_of_some, agree.text, agree.timestamp]
  · rfl

/-- Elements that differ in the spelling of times are one session. -/
theorem Session.ofJson?_respelled (respelled : Respelled sessionTimes sessionFieldNames e e') :
    Session.ofJson? e = Session.ofJson? e' := by
  have shape := respelled.fields?
  rw [Session.ofJson?, Session.ofJson?]
  revert shape
  generalize e.fields? _ = fields?, e'.fields? _ = others?
  rintro (agree | _)
  · simp (disch := decide) only [bind_of_some, agree.text, agree.texts, agree.flag, agree.value,
      agree.timestamp]
  · rfl

/-- A time that is given by a date and a time of day with a zone, by one of Greenwich or by a whole
number stands for the milliseconds, rounded down, from the start of 1970 to the instant that it
denotes, and records whose times are spelled in different ways are the same, with one id and one
fingerprint. -/
theorem spellings_of_one_instant_agree :
    (∀ value instant, Denotes value instant → timestampOfJson value = instant / 1000000) ∧
      (∀ e e', Respelled blockTimes blockFieldNames e e' → Block.ofJson? e = Block.ofJson? e') ∧
      ∀ e e', Respelled sessionTimes sessionFieldNames e e' →
        Session.ofJson? e = Session.ofJson? e' := by
  refine ⟨?_, ?_, ?_⟩
  · intro value instant denotes
    exact timestampOfJson_eq denotes
  · intro e e' respelled
    exact Block.ofJson?_respelled respelled
  · intro e e' respelled
    exact Session.ofJson?_respelled respelled

/-- The last tenth of a millisecond before 1970, as it is spelled an hour east of Greenwich. -/
theorem denotes_east {front back : List Char}
    (blanks : ∀ c ∈ front ++ back, Text.isBlank c = true) :
    Denotes (.string (Time.between front "1970-01-01T00:59:59.9999+01:00".toList back))
      (-100000) := by
  have valid : (⟨⟨1970, 1, 1⟩, 0, 59, 59⟩ : Time.CivilTime).IsValid :=
    ⟨by decide, ⟨by decide, by decide⟩, by decide, by decide, by decide⟩
  have fraction : ∀ f ∈ some (⟨4, 9999⟩ : Time.Fraction), f.IsValid := by
    rintro _ ⟨⟩
    exact ⟨by decide, by decide⟩
  have zone : (Time.Zone.offset false 1 0).IsValid := ⟨by decide, by decide⟩
  have spelled := Denotes.zoned blanks valid (by decide) fraction zone
  rw [Time.CivilTime.nanosecondsFromEpoch_eq valid] at spelled
  exact spelled

/-- The same instant as it is spelled in Greenwich. -/
theorem denotes_greenwich : Denotes (.string "1969-12-31T23:59:59.9999Z") (-100000) := by
  have valid : (⟨⟨1969, 12, 31⟩, 23, 59, 59⟩ : Time.CivilTime).IsValid :=
    ⟨by decide, ⟨by decide, by decide⟩, by decide, by decide, by decide⟩
  have fraction : ∀ f ∈ some (⟨4, 9999⟩ : Time.Fraction), f.IsValid := by
    rintro _ ⟨⟩
    exact ⟨by decide, by decide⟩
  have zone : Time.Zone.greenwich.IsValid := trivial
  have noBlanks : ∀ c ∈ ([] : List Char) ++ [], Text.isBlank c = true := List.all_eq_true.1 rfl
  have spelled := Denotes.zoned noBlanks valid (by decide) fraction zone
  rw [Time.CivilTime.nanosecondsFromEpoch_eq valid] at spelled
  exact spelled

theorem spellings_of_one_instant_agree_new_year :
    timestampOfJson (.string " 1970-01-01T00:59:59.9999+01:00\n") = -1 ∧
      Block.ofJson? (.object [("end", .string "5"),
          ("start", .string "1970-01-01T00:59:59.9999+01:00")]) =
        Block.ofJson? (.object [("end", .number (.whole 5)),
          ("start", .string "1969-12-31T23:59:59.9999Z")]) ∧
      Session.ofJson? (.array [.string "opening", .null, .null, .null,
          .string "1970-01-01T00:59:59.9999+01:00"]) =
        Session.ofJson? (.array [.string "opening", .null, .null, .null,
          .string "1969-12-31T23:59:59.9999Z"]) := by
  obtain ⟨millis, blocks, sessions⟩ := spellings_of_one_instant_agree
  have around : ∀ c ∈ [' '] ++ ['\n'], Text.isBlank c = true := List.all_eq_true.1 rfl
  have noBlanks : ∀ c ∈ ([] : List Char) ++ [], Text.isBlank c = true := List.all_eq_true.1 rfl
  have east := denotes_east noBlanks
  have fits : Text.FitsInt64 5 := by decide
  refine ⟨?_, ?_, ?_⟩
  · exact millis _ _ (denotes_east around)
  · apply blocks
    have starts : "start" ∈ blockTimes ∧ "end" ∈ blockTimes := by decide
    exact .object (.cons ⟨rfl, .inr ⟨starts.2, _, .decimal noBlanks fits, .number fits⟩⟩
      (.cons ⟨rfl, .inr ⟨starts.1, _, east, denotes_greenwich⟩⟩ .nil))
  · apply sessions
    refine .array rfl ?_
    iterate 4 refine .cons ⟨rfl, .inl rfl⟩ ?_
    exact .cons ⟨rfl, .inr ⟨by decide, _, east, denotes_greenwich⟩⟩ .nil

end Agenda

end ConferenceSync
