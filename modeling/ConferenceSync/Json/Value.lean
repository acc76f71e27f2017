import ConferenceSync.Number.Binary64

/-!
# JSON values

## Main definitions

* `JsonNumber` — a whole number of at most 64 bits, or a binary floating point number
* `Json` — a value; the members of an object are in ascending order of their keys, each key once
* `Json.insertMember`, `Json.member?` — writing and reading a member of an object
-/

namespace ConferenceSync

/-- A number of a JSON text. Whole numbers that fit a signed or an unsigned word of 64 bits stay
whole; all others are floating point numbers. -/
inductive JsonNumber where
  | whole (n : Int)
  | float (x : Number.Binary64)
  deriving DecidableEq, Repr

/-- A JSON value. -/
inductive Json where
  | null
  | bool (b : Bool)
  | number (n : JsonNumber)
  | string (s : String)
  | array (items : List Json)
  | object (members : List (String × Json))
  deriving Repr

namespace Json

/-- A list of members with one more member, kept in ascending order of the keys. A member under
the same key gives way. -/
def insertMember (key : String) (value : Json) : List (String × Json) → List (String × Json)
  | [] => [(key, value)]
  | (k, v) :: rest =>
    if key < k then (key, value) :: (k, v) :: rest
    else if key = k then (key, value) :: rest
    else (k, v) :: insertMember key value rest

/-- The value under a key in a list of members. -/
def findMember? (key : String) : List (String × Json) → Option Json
  | [] => none
  | (k, v) :: rest => if k = key then some v else findMember? key rest

/-- The value under a key of an object. -/
def member? (key : String) : Json → Option Json
  | object members => findMember? key members
  | _ => none

/-- The items of an array; a value of another shape has none. -/
def items : Json → List Json
  | array items => items
  | _ => []

/-- The object with the given members, a later one under the same key winning. -/
def ofMembers (members : List (String × Json)) : Json :=
  object (members.foldl (fun acc (k, v) => insertMember k v acc) [])

/-- A whole number as a value. -/
def ofInt (n : Int) : Json := number (.whole n)

/-- A natural number as a value. -/
def ofNat (n : Nat) : Json := number (.whole n)

end Json

end ConferenceSync
