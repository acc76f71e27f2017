import ConferenceSync.Json.Lexer

/-!
# Reading JSON texts

A value is read from left to right; the first character that cannot continue the text decides
the fault. Arrays and objects may be nested to a depth of 127 unless they are skimmed.

## Main definitions

* `Json.readValue` — a value at the front of a list of characters
* `Json.ofText` — the value of a whole text
* `Json.objectOfText` — the members of a text that has to be an object
-/

namespace ConferenceSync.Json

/-- The number of arrays and objects around a value, from which on the text is refused. -/
def depthLimit : Nat := 128

mutual

/-- Reads a value. `room` bounds the nesting that is left, `fuel` the number of steps. -/
def readValueWith (care : Care) : Nat → Nat → List Char → Reading Json
  | 0, _, _ => .error .truncated
  | fuel + 1, room, cs =>
    match skipBlanks cs with
    | [] => .error .truncated
    | 'n' :: rest => (readName ['u', 'l', 'l'] rest).map fun rest => (null, rest)
    | 't' :: rest => (readName ['r', 'u', 'e'] rest).map fun rest => (bool true, rest)
    | 'f' :: rest => (readName ['a', 'l', 's', 'e'] rest).map fun rest => (bool false, rest)
    | '"' :: rest => (readString care rest).map fun (s, rest) => (string s, rest)
    | '[' :: rest =>
      if care = .full && room ≤ 1 then .error .malformed
      else
        match skipBlanks rest with
        | [] => .error .truncated
        | ']' :: rest => .ok (array [], rest)
        | rest => readItemsWith care fuel (room - 1) [] rest
    | '\x7b' :: rest =>
      if care = .full && room ≤ 1 then .error .malformed
      else
        match skipBlanks rest with
        | [] => .error .truncated
        | '\x7d' :: rest => .ok (object [], rest)
        | rest => readMembersWith care fuel (room - 1) [] rest
    | c :: rest =>
      -- A sign of plus, a point, or a letter cannot start a value.
      if c = '-' || Text.isDigit c then
        (readNumber care (c :: rest)).map fun (n, rest) => (number n, rest)
      else .error .malformed

/-- Reads the items of an array from one of them on; `acc` holds the items before it, in reverse
order. -/
def readItemsWith (care : Care) : Nat → Nat → List Json → List Char → Reading Json
  | 0, _, _, _ => .error .truncated
  | fuel + 1, room, acc, cs =>
    match readValueWith care fuel room cs with
    | .error e => .error e
    | .ok (item, rest) =>
      match skipBlanks rest with
      | [] => .error .truncated
      | ']' :: rest => .ok (array (item :: acc).reverse, rest)
      | ',' :: rest => readItemsWith care fuel room (item :: acc) rest
      | _ => .error .malformed

/-- Reads the members of an object from one of them on; `acc` holds the members before it. -/
def readMembersWith (care : Care) :
    Nat → Nat → List (String × Json) → List Char → Reading Json
  | 0, _, _, _ => .error .truncated
  | fuel + 1, room, acc, cs =>
    match skipBlanks cs with
    | [] => .error .truncated
    | '"' :: rest =>
      match readString care rest with
      | .error e => .error e
      | .ok (key, rest) =>
        match skipBlanks rest with
        | [] => .error .truncated
        | ':' :: rest =>
          match readValueWith care fuel room rest with
          | .error e => .error e
          | .ok (value, rest) =>
            match skipBlanks rest with
            | [] => .error .truncated
            | '\x7d' :: rest => .ok (object (insertMember key value acc), rest)
            | ',' :: rest => readMembersWith care fuel room (insertMember key value acc) rest
            | _ => .error .malformed
        | _ => .error .malformed
    | _ => .error .malformed

end

/-- Reads a value with `room` for nesting. Every step but one in two takes a character off the
text, so twice its length is fuel enough. -/
def readValueIn (care : Care) (room : Nat) (cs : List Char) : Reading Json :=
  readValueWith care (2 * cs.length + 2) room cs

/-- Reads a value at the front of a list of characters. -/
def readValue (cs : List Char) : Reading Json :=
  readValueIn .full depthLimit cs

/-- The characters after a value that is not wanted. -/
def skimValue (cs : List Char) : Except Fault (List Char) :=
  (readValueIn .skim 0 cs).map Prod.snd

/-- The end of a text after its value: blanks alone may follow. -/
def endText {α : Type} (value : α) (rest : List Char) : Except Fault α :=
  if (skipBlanks rest).isEmpty then .ok value else .error .malformed

/-- The value of a whole text. -/
def ofText (text : String) : Except Fault Json := do
  let (value, rest) ← readValue text.toList
  endText value rest

/-- The fault of a value at the front of a list of characters where a value of another shape is
wanted. An array or an object is refused at its first character, every other value only once it
has been read. -/
def mismatch (cs : List Char) : Fault :=
  match skipBlanks cs with
  | '[' :: _ => .mismatched
  | '\x7b' :: _ => .mismatched
  | cs =>
    match readValue cs with
    | .error e => e
    | .ok _ => .mismatched

/-- The members of a text that has to be an object. -/
def objectOfText (text : String) : Except Fault (List (String × Json)) :=
  match skipBlanks text.toList with
  | '\x7b' :: rest => do
    -- The members are read as a value, so that nesting counts from the outermost brace.
    match ← readValue ('\x7b' :: rest) with
    | (object members, rest) => endText members rest
    | _ => .error .mismatched
  | cs => .error (mismatch cs)

end ConferenceSync.Json
