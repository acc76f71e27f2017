import ConferenceSync.Json.Value
import ConferenceSync.Text.Digits

/-!
# Records in JSON

A record is given as an object, or as an array with the values of its fields in a fixed order. A
field that is not given has a value of its own; a field of the wrong shape spoils the record.

## Main definitions

* `Json.Fields` — the fields that are given
* `Json.fields?` — the fields of a record
* `Fields.text`, `Fields.texts`, `Fields.integer`, `Fields.flag`, `Fields.real`, `Fields.value` —
  the value of a field
-/

namespace ConferenceSync.Json

/-- The fields of a record, as far as they are given. -/
structure Fields where
  get? : String → Option Json

/-- The fields of a record whose fields have the given names. An array may leave out the last
ones, but must not hold more. Other members of an object do not matter. -/
def fields? (names : List String) : Json → Option Fields
  | object members => some ⟨fun name => findMember? name members⟩
  | array items =>
    if items.length ≤ names.length then some ⟨fun name => (names.zip items).lookup name⟩ else none
  | _ => none

namespace Fields

variable (fields : Fields) (name : String)

/-- A text; `null`, like no value, is the empty one. -/
def text : Option String :=
  match fields.get? name with
  | none => some ""
  | some null => some ""
  | some (string s) => some s
  | some _ => none

/-- The texts of an array that holds nothing else. -/
def textItems : List Json → Option (List String)
  | [] => some []
  | string s :: rest => (textItems rest).map (s :: ·)
  | _ => none

/-- A list of texts; `null`, like no value, is the empty one. -/
def texts : Option (List String) :=
  match fields.get? name with
  | none => some []
  | some null => some []
  | some (array items) => textItems items
  | some _ => none

/-- A signed 32-bit number, 0 if there is none. -/
def integer : Option Int :=
  match fields.get? name with
  | none => some 0
  | some (number (.whole n)) => if Text.FitsInt32 n then some n else none
  | some _ => none

/-- A truth value, false if there is none. -/
def flag : Option Bool :=
  match fields.get? name with
  | none => some false
  | some (bool b) => some b
  | some _ => none

/-- A floating point number, 0 if there is none. -/
def real : Option Number.Binary64 :=
  match fields.get? name with
  | none => some (.zero false)
  | some (number (.whole n)) => some (.ofInt n)
  | some (number (.float x)) => some x
  | some _ => none

/-- The members of an object, none if there is none. -/
def members : Option (List (String × Json)) :=
  match fields.get? name with
  | none => some []
  | some (object members) => some members
  | some _ => none

/-- A value of any shape, `null` if there is none. -/
def value : Json :=
  (fields.get? name).getD null

end Fields

end ConferenceSync.Json
