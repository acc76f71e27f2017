import ConferenceSync.Text.Blank
import ConferenceSync.Url.Host
import ConferenceSync.Url.Path

/-!
# URLs

A URL is read from a text, alone or as a reference from another URL, and written in its canonical
form.

## Main definitions

* `Url` — the type
* `Url.parse?` — the URL of a text, relative to a base if there is one
* `Url.render` — the canonical text
* `Url.resolve` — the text of a reference, seen from the text of a base
-/

namespace ConferenceSync

/-- A URL, with its parts in canonical form. The authority is user, host and port, if there is a
place for them. -/
structure Url where
  scheme : String
  authority? : Option String
  path : List Char
  query? : Option String
  fragment? : Option String
  deriving DecidableEq, Repr

namespace Url

/-- A URL without query and fragment. -/
def bare (scheme : String) (authority? : Option String) (path : List Char) : Url :=
  { scheme, authority?, path, query? := none, fragment? := none }

/-- Whether the URL can be no base: its path does not start with a slash and has no host before
it. -/
def isOpaque (u : Url) : Bool :=
  u.authority?.isNone && u.path.head? != some '/'

/-- The syntax of the URL's scheme. -/
def schemeClass (u : Url) : SchemeClass := .of u.scheme

/-- The canonical text of a URL. -/
def render (u : Url) : String :=
  let authority := match u.authority? with
    | some a => "//" ++ a
    -- Without the dot the path would be read back as a host.
    | none => if u.path.take 2 = ['/', '/'] then "/." else ""
  let query := match u.query? with
    | some q => "?" ++ q
    | none => ""
  let fragment := match u.fragment? with
    | some f => "#" ++ f
    | none => ""
  u.scheme ++ ":" ++ authority ++ String.ofList u.path ++ query ++ fragment

/-! ### Parts -/

/-- Characters cut at the first one that satisfies `p`. -/
def cut (p : Char → Bool) (cs : List Char) : List Char × List Char :=
  (cs.takeWhile fun c => !p c, cs.dropWhile fun c => !p c)

/-- A URL with the fragment that is left after everything else, which starts with a number sign if
there is one. -/
def withFragment (u : Url) (cs : List Char) : Url :=
  match next? cs with
  | some ('#', cs) =>
    { u with fragment? := some (String.ofList (escape inFragment (significant cs))) }
  | _ => { u with fragment? := none }

/-- A URL with the query and the fragment that are left after the path. -/
def withQuery (u : Url) (cs : List Char) : Url :=
  match next? cs with
  | some ('?', cs) =>
    let (query, rest) := cut (· = '#') cs
    let query := escape (inQuery u.schemeClass.isFixed) (significant query)
    { u with query? := some (String.ofList query) }.withFragment rest
  | _ => { u with query? := none }.withFragment cs

/-- A URL whose path is extended by the front of the characters that are left. -/
def extended (u : Url) (cs : List Char) : Url × Bool :=
  let (front, rest) := cut (fun c => c = '?' || c = '#') cs
  let (path, keepsHost) := extendPath u.schemeClass u.path front
  ({ u with path }.withQuery rest, keepsHost)

/-- A URL with the path, query and fragment that follow its authority. -/
def withPath (u : Url) (cs : List Char) : Url × Bool :=
  let s := u.schemeClass
  match next? cs with
  | some (c, rest) =>
    if s.isFixed then
      -- The path has its first slash already, whether the text has one or not.
      if isSeparator s c then { u with path := ['/'] }.extended rest
      else { u with path := ['/'] }.extended cs
    else if c = '?' || c = '#' then (u.withQuery cs, true)
    else if c = '/' then u.extended cs
    else { u with path := ['/'] }.extended cs
  | none => ({ u with path := if s.isFixed then ['/'] else [] }.withQuery [], true)

/-- The canonical text of the user before a host, which ends with an at sign. Neither a name nor a
password leaves no text. -/
def userText (cs : List Char) : String :=
  let (name, rest) := cut (· = ':') cs
  let password := rest.drop 1
  if name.isEmpty && password.isEmpty then ""
  else
    String.ofList (escape inUserinfo name ++
      (if password.isEmpty then [] else ':' :: escape inUserinfo password) ++ ['@'])

/-- The port that goes without saying under a scheme. -/
def defaultPort? (scheme : String) : Option Nat :=
  [("http", 80), ("ws", 80), ("https", 443), ("wss", 443), ("ftp", 21)].lookup scheme

/-- The canonical text of a port after its colon, empty for the one that goes without saying, and
what follows its digits. Under every scheme a backslash ends a port. -/
def portText? (scheme : String) (cs : List Char) : Option (String × List Char) :=
  let (digits, rest) := cut (fun c => !Text.isDigit c) cs
  if !rest.head?.all (· = '\\') then none
  else if digits.isEmpty then some ("", rest)
  else
    let n := Text.naturalFrom 0 digits
    if 65535 < n then none
    else if defaultPort? scheme = some n then some ("", rest)
    else some (":" ++ toString n, rest)

/-- The place of the colon between host and port; one within brackets does not count. -/
def cutPort (inside : Bool) : List Char → List Char × Option (List Char)
  | [] => ([], none)
  | c :: cs =>
    if c = ':' && !inside then ([], some cs)
    else
      let (host, port) := cutPort (if c = '[' then true else if c = ']' then false else inside) cs
      (c :: host, port)

/-- The canonical text of host and port, and what follows the port. -/
def hostText? (scheme : String) (cs : List Char) : Option (String × List Char) := do
  let (host, port?) := cutPort false cs
  let isFixed := (SchemeClass.of scheme).isFixed
  if host.isEmpty then
    if isFixed || port?.isSome then none else some ("", [])
  else
    let host ← if isFixed then domainText? host else opaqueText? host
    let (port, rest) ← portText? scheme (port?.getD [])
    return (host ++ port, rest)

/-- Characters cut at the last at sign, if there is one. -/
def cutUser (cs : List Char) : Option (List Char) × List Char :=
  if cs.contains '@' then
    (some (cs.reverse.dropWhile (· ≠ '@')).tail.reverse, (cs.reverse.takeWhile (· ≠ '@')).reverse)
  else (none, cs)

/-- The URL with a scheme, from the characters after two slashes. -/
def afterSlashes? (scheme : String) (cs : List Char) : Option Url := do
  let s := SchemeClass.of scheme
  let (authority, rest) := cut (fun c => isSeparator s c || c = '?' || c = '#') cs
  let (user?, host) := cutUser (significant authority)
  -- An at sign alone stands for no user, and is an error before anything but the end.
  if user? = some [] && host.isEmpty && !rest.isEmpty then none
  else
    let userText := (user?.map userText).getD ""
    let (hostText, more) ← hostText? scheme host
    -- A user without a host is refused under every scheme.
    if hostText.isEmpty && !userText.isEmpty then none
    else return ((bare scheme (some (userText ++ hostText)) []).withPath (more ++ rest)).1

/-! ### The scheme `file` -/

/-- A URL with the scheme `file`. -/
def ofFile (host : String) (path : List Char) : Url :=
  bare "file" (some host) path

/-- The URL of a file from the characters after two slashes. -/
def fileAfterSlashes? (cs : List Char) : Option Url := do
  let (front, rest) := cut endsDrive cs
  let host := significant front
  if isDrive host then return ((ofFile "" ['/']).extended cs).1
  else
    let hostText ← if host.isEmpty then some "" else domainText? host
    -- The device itself has no name in the URL of a file.
    if hostText.isEmpty || hostText == "localhost" then
      return ((ofFile "" ['/']).extended rest).1
    else
      let (u, keepsHost) := (ofFile hostText []).withPath rest
      return if keepsHost then u else { u with authority? := some "" }

/-- The host and the start of the path that a reference with one slash takes from a base. -/
def fileRoot (base? : Option Url) (cs : List Char) : Url :=
  match base? with
  | none => ofFile "" []
  | some base =>
    if startsWithDrive (significant cs) then ofFile "" []
    else
      let first := (base.path.drop 1).takeWhile (· ≠ '/')
      -- A reference from the root of a drive stays on that drive.
      if isCanonicalDrive first then ofFile "" ('/' :: first)
      else ofFile (base.authority?.getD "") []

/-- The URL of a file from the characters after its scheme, or from a reference. -/
def parseFile? (base? : Option Url) (cs : List Char) : Option Url :=
  match next? cs, base? with
  | some (c, rest), _ =>
    if isSeparator .file c then
      match next? rest with
      | some (d, more) =>
        if isSeparator .file d then fileAfterSlashes? more
        else some ((fileRoot base? rest).extended cs).1
      | none => some ((fileRoot base? rest).extended cs).1
    else
      match base? with
      | none => some ((ofFile "" ['/']).extended cs).1
      | some base =>
        if c = '?' then some (base.withQuery cs)
        else if c = '#' then some (base.withFragment cs)
        else if startsWithDrive (significant cs) then some ((ofFile "" ['/']).extended cs).1
        else
          let path := (dropLastSegment .file base.path.reverse).reverse
          some ({ base with path }.extended cs).1
  | none, some base => some { base with fragment? := none }
  | none, none => some (ofFile "" ['/'])

/-! ### References -/

/-- The number of slashes, of either kind, at the front, and what follows them. -/
def cutSlashes : List Char → Nat × List Char
  | [] => (0, [])
  | c :: cs =>
    if isBreak c then cutSlashes cs
    else if c = '/' || c = '\\' then
      let (n, rest) := cutSlashes cs
      (n + 1, rest)
    else (0, c :: cs)

/-- What follows two slashes at the front. -/
def afterTwoSlashes? (cs : List Char) : Option (List Char) :=
  match next? cs with
  | some ('/', cs) =>
    match next? cs with
    | some ('/', cs) => some cs
    | _ => none
  | _ => none

/-- The URL of a reference without a scheme. -/
def parseRelative? (base : Url) (cs : List Char) : Option Url :=
  match next? cs with
  | none => some { base with fragment? := none }
  | some (c, rest) =>
    if c = '?' then some (base.withQuery cs)
    else if c = '#' then some (base.withFragment cs)
    else if c = '/' || c = '\\' then
      let (slashes, more) := cutSlashes cs
      if 2 ≤ slashes then afterSlashes? base.scheme ((afterTwoSlashes? cs).getD more)
      else some ({ base with path := ['/'] }.extended rest).1
    else
      let path := (dropLastSegment base.schemeClass base.path.reverse).reverse
      let path := if path.isEmpty then ['/'] else path
      some ({ base with path }.extended cs).1

/-- The URL with a scheme, from the characters after the colon. -/
def parseAfterScheme? (base? : Option Url) (scheme : String) (cs : List Char) : Option Url :=
  let same? := base?.filter fun base => base.scheme == scheme
  match SchemeClass.of scheme with
  | .file => parseFile? same? cs
  | .special =>
    let (slashes, rest) := cutSlashes cs
    match same? with
    | some base =>
      -- A scheme that the base has too says nothing, unless a host follows it.
      if slashes < 2 then parseRelative? base cs
      -- Any number of slashes of either kind stands for two.
      else afterSlashes? scheme rest
    | none => afterSlashes? scheme rest
  | .other =>
    match afterTwoSlashes? cs with
    | some rest => afterSlashes? scheme rest
    | none =>
      match next? cs with
      | some ('/', rest) => some ((bare scheme none ['/']).extended rest).1
      | _ =>
        let (front, rest) := cut (fun c => c = '?' || c = '#') cs
        some ((bare scheme none (escape isControl (significant front))).withQuery rest)

/-- The scheme at the front and the characters after its colon. -/
def cutScheme? (cs : List Char) : Option (String × List Char) :=
  let (front, rest) := cut (· = ':') cs
  match significant front, rest with
  | c :: front, _ :: rest =>
    if c.isAlpha && front.all fun c => c.isAlphanum || ['+', '-', '.'].contains c then
      some (String.ofList ((c :: front).map Char.toLower), rest)
    else none
  | _, _ => none

/-- A text without the control characters and spaces at its ends. -/
def trimControls (text : String) : List Char :=
  let isEdge := fun (c : Char) => c.toNat ≤ 0x20
  Text.dropEndWhile isEdge (text.toList.dropWhile isEdge)

/-- The URL of a text, relative to a base if there is one. -/
def parse? (base? : Option Url) (text : String) : Option Url :=
  let cs := trimControls text
  match cutScheme? cs, base? with
  | some (scheme, rest), _ => parseAfterScheme? base? scheme rest
  | none, none => none
  | none, some base =>
    if (next? cs).any fun (c, _) => c = '#' then some (base.withFragment cs)
    else if base.isOpaque then none
    else if base.schemeClass = .file then parseFile? (some base) cs
    else parseRelative? base cs

/-- The text of a reference, seen from a base: a reference that is a URL by itself stays as it is,
and so does one that leads nowhere. -/
def resolve (base reference : String) : String :=
  let reference := Text.trim reference
  match parse? none reference with
  | some _ => reference
  | none =>
    match (parse? none base).bind fun base => parse? (some base) reference with
    | some u => u.render
    | none => reference

end Url

end ConferenceSync
