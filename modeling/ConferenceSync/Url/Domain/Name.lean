import ConferenceSync.Text.Split
import ConferenceSync.Url.Domain.Combining
import ConferenceSync.Url.Domain.Direction
import ConferenceSync.Url.Domain.Joiner
import ConferenceSync.Url.Punycode

/-!
# Domain names

A domain name is put into its canonical form: every character is replaced by what it stands for,
what can be one character becomes one, and the labels, which the full stops divide, are written
in ASCII. A label may come in its ASCII form already, but only in the one that its meaning has.

## Main definitions

* `Label` — a label, in characters and in ASCII
* `label?` — the label of characters
* `canonical?` — the canonical form of a name
-/

namespace ConferenceSync.Url.Domain

/-- The characters that no host may hold. -/
def forbiddenInHost : List Char :=
  ['\x00', '\t', '\n', '\r', ' ', '#', '/', ':', '<', '>', '?', '@', '[', '\\', ']', '^', '|']

/-- Whether a domain name may hold a character: one that names have a place for, and neither
forbidden in a host nor a percent sign. -/
def mayHold (c : Char) : Bool :=
  isNameChar c && !forbiddenInHost.contains c && c != '%'

/-- Whether a character is one of ASCII. -/
def isAscii (c : Char) : Bool := c.toNat < 0x80

/-- Characters, each replaced by what it stands for, in composed form. -/
def settle (cs : List Char) : List Char := compose (cs.flatMap foldChar)

/-- A label of a domain name: its characters, and its form in ASCII. -/
structure Label where
  meaning : List Char
  ascii : List Char
  deriving DecidableEq, Repr

/-- What the ASCII form of a label with other characters starts with. -/
def asciiMark : List Char := ['x', 'n', '-', '-']

/-- The number of characters that a label with characters beyond ASCII may have. -/
def longestMeaning : Nat := 1000

/-- The number of characters that may follow the mark of an ASCII form. -/
def longestForm : Nat := 2000

/-- The label of an ASCII form after its mark. The form has to be needed, and its meaning to be as
it is compared. -/
def labelOfForm? (form : List Char) : Option Label :=
  if longestForm < form.length || !form.all isAscii then none
  else
    ((Punycode.decode? form).filter fun meaning =>
      !meaning.all isAscii && meaning.length ≤ longestMeaning && settle meaning = meaning &&
        meaning.all mayHold && !asciiMark.isPrefixOf meaning).map
      fun meaning => ⟨meaning, asciiMark ++ form⟩

/-- The label of characters as they are compared. -/
def label? (cs : List Char) : Option Label :=
  if asciiMark.isPrefixOf cs then labelOfForm? (cs.drop asciiMark.length)
  else if cs.all isAscii then some ⟨cs, cs⟩
  else if longestMeaning < cs.length then none
  else some ⟨cs, asciiMark ++ Punycode.encode cs⟩

/-- Whether a label does not start with a mark, which would belong to the character before it, and
every joiner in it is needed. -/
def Label.standsAlone (l : Label) : Bool :=
  !l.meaning.head?.any Text.isMark && joinsWell l.meaning

/-- The canonical form of a domain name, if it is one. -/
def canonical? (cs : List Char) : Option (List Char) :=
  let settled := settle cs
  if !settled.all mayHold then none
  else
    match (Text.splitAt '.' settled).mapM label? with
    | none => none
    | some labels =>
      if labels.all Label.standsAlone && keepDirections (labels.map Label.meaning) then
        some (".".intercalate (labels.map fun l => String.ofList l.ascii)).toList
      else none

end ConferenceSync.Url.Domain
