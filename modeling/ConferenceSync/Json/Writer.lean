import ConferenceSync.Json.Value
import ConferenceSync.Number.Decimal
import ConferenceSync.Text.Hexadecimal

/-!
# Writing JSON texts

The text of a value has no blanks between its words; the members of an object come in their
order.

## Main definitions

* `Json.numberLayout` — how floating point numbers are laid out
* `Json.renderNumber`, `Json.renderString` — the text of a number, of a string
* `Json.render` — the text of a value
-/

namespace ConferenceSync.Json

/-- Floating point numbers from `1e-5` up to below `1e16` have no exponent, whole ones end in
`.0`, and ties go to the even digit. -/
def numberLayout : Number.DecimalLayout :=
  ⟨fun point => -5 < point && point ≤ 16, true, .toEven⟩

/-- The text of a number. -/
def renderNumber : JsonNumber → String
  | .whole n => toString n
  | .float x => numberLayout.render x

/-- A character within a string: quotes, backslashes and the controls below the blank are
escaped. -/
def renderChar (c : Char) : List Char :=
  if c = '"' then ['\\', '"']
  else if c = '\\' then ['\\', '\\']
  else if c = '\n' then ['\\', 'n']
  else if c = '\r' then ['\\', 'r']
  else if c = '\t' then ['\\', 't']
  else if c = '\x08' then ['\\', 'b']
  else if c = '\x0c' then ['\\', 'f']
  else if c.toNat < 0x20 then
    ['\\', 'u', '0', '0', Text.hexDigit (c.toNat / 16), Text.hexDigit (c.toNat % 16)]
  else [c]

/-- The text of a string. -/
def renderString (s : String) : String :=
  String.ofList ('"' :: s.toList.flatMap renderChar ++ ['"'])

mutual

/-- The text of a value. -/
def render : Json → String
  | null => "null"
  | bool true => "true"
  | bool false => "false"
  | number n => renderNumber n
  | string s => renderString s
  | array items => "[" ++ ",".intercalate (renderItems items) ++ "]"
  | object members => "\x7b" ++ ",".intercalate (renderMembers members) ++ "\x7d"

/-- The texts of the items of an array. -/
def renderItems : List Json → List String
  | [] => []
  | item :: rest => render item :: renderItems rest

/-- The texts of the members of an object. -/
def renderMembers : List (String × Json) → List String
  | [] => []
  | (key, value) :: rest => (renderString key ++ ":" ++ render value) :: renderMembers rest

end

end ConferenceSync.Json
