import ConferenceSync.Text.Alphanumeric
import ConferenceSync.Text.Blank
import ConferenceSync.Text.Case

/-!
# Slugs

A slug names a record that has no id of its own: the alphanumeric characters of a text in lower
case, with one dash wherever other characters separate two of them.

## Main definitions

* `slugList` — the slug of lower-cased characters
* `slug` — the slug of a text
-/

namespace ConferenceSync.Text

/-- The characters of a slug after its first one. `gap` says that other characters were skipped
since the last one that was kept. -/
def slugAfter (gap : Bool) : List Char → List Char
  | [] => []
  | c :: rest =>
    if isAlphanumeric c then
      if gap then '-' :: c :: slugAfter false rest else c :: slugAfter false rest
    else slugAfter true rest

/-- The slug of characters that are in lower case already. -/
def slugList (cs : List Char) : List Char :=
  match cs.dropWhile (fun c => !isAlphanumeric c) with
  | [] => []
  | c :: rest => c :: slugAfter false rest

/-- The slug of a text. Each character is put into lower case on its own. -/
def slug (s : String) : String :=
  String.ofList (slugList ((trimList s.toList).flatMap lowerChar))

end ConferenceSync.Text
