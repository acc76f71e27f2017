import ConferenceSync.Url.Escape

/-!
# Paths

The path of a URL is built segment by segment. A segment of one dot stands for nothing, one of two
dots takes the segment before it away. Under the scheme `file` the letter of a drive is never
taken away, and a path starts with exactly one slash.

## Main definitions

* `SchemeClass` — what a scheme says about the syntax of its URLs
* `significant`, `next?` — the characters that count, all or the next one
* `extendPath` — a path with further segments
* `dropLastSegment` — a path up to its last slash
-/

namespace ConferenceSync.Url

/-- What a scheme says about the syntax of its URLs: `file`, another scheme with a fixed syntax,
such as `https`, or any other. -/
inductive SchemeClass where
  | file
  | special
  | other
  deriving DecidableEq, Repr

/-- The syntax of a scheme. -/
def SchemeClass.of (scheme : String) : SchemeClass :=
  if scheme == "file" then .file
  else if ["http", "https", "ws", "wss", "ftp"].contains scheme then .special
  else .other

/-- Whether the syntax is fixed, so that a backslash counts as a slash. -/
def SchemeClass.isFixed (s : SchemeClass) : Bool := s != .other

/-- Whether a character ends a segment. -/
def isSeparator (s : SchemeClass) (c : Char) : Bool := c = '/' || (s.isFixed && c = '\\')

/-! ### Breaks -/

/-- Whether a character is a tab or a line break. These do not count in a URL. -/
def isBreak (c : Char) : Bool := c = '\t' || c = '\n' || c = '\r'

/-- The characters that count. -/
def significant (cs : List Char) : List Char := cs.filter fun c => !isBreak c

/-- The next character that counts, and what follows it. -/
def next? : List Char → Option (Char × List Char)
  | [] => none
  | c :: cs => if isBreak c then next? cs else some (c, cs)

/-! ### Drives -/

/-- Whether a character may follow the letter of a drive. -/
def endsDrive (c : Char) : Bool := ['/', '\\', '?', '#'].contains c

/-- Whether characters start with the letter of a drive, as a whole segment. -/
def startsWithDrive : List Char → Bool
  | a :: b :: rest => a.isAlpha && (b = ':' || b = '|') && (rest.head?.all endsDrive)
  | _ => false

/-- Whether a segment is the letter of a drive. -/
def isDrive (cs : List Char) : Bool := cs.length = 2 && startsWithDrive cs

/-- Whether a segment is the letter of a drive with a colon. -/
def isCanonicalDrive (cs : List Char) : Bool := isDrive cs && cs[1]? = some ':'

/-- Whether a break parts the letter of a drive from the rest of a segment. -/
def partsDrive (cs : List Char) : Bool :=
  match next? cs with
  | none => false
  | some (a, rest) =>
    match next? rest with
    | none => false
    | some (b, rest) => a.isAlpha && b = ':' && rest.head?.any isBreak && (next? rest).isSome

/-! ### Segments

While a path is built it is kept in reverse order. -/

/-- Whether a path is the letter of a drive and nothing else. -/
def isDriveAlone : List Char → Bool
  | [':', a, '/'] => a.isAlpha
  | _ => false

/-- The characters after the last slash. -/
def lastSegment (back : List Char) : List Char :=
  (back.takeWhile (· ≠ '/')).reverse

/-- A path up to its last slash. The letter of a drive is kept. -/
def dropLastSegment (s : SchemeClass) (back : List Char) : List Char :=
  if s = .file && isCanonicalDrive (lastSegment back) then back
  else back.dropWhile (· ≠ '/')

/-- Whether a path ends with a slash. -/
def endsWithSlash (back : List Char) : Bool := back.head? = some '/'

/-- Whether the slash at the end of a path may be taken away: it is not the only one, and does not
follow the letter of a drive. -/
def canDropSlash (back : List Char) : Bool :=
  back.tail.contains '/' && !startsWithDrive (lastSegment back.tail ++ ['/'])

/-- Whether a segment stands for one dot. -/
def isDot (segment : List Char) : Bool :=
  [".", "%2e"].contains (String.ofList (segment.map Char.toLower))

/-- Whether a segment stands for two dots. -/
def isDotDot (segment : List Char) : Bool :=
  ["..", ".%2e", "%2e.", "%2e%2e"].contains (String.ofList (segment.map Char.toLower))

/-- A path so far, in reverse order, and whether the URL keeps its host. -/
structure Building where
  back : List Char
  keepsHost : Bool

/-- A path that ends with a slash. -/
def Building.slashed (b : Building) : Building :=
  { b with back := if endsWithSlash b.back then b.back else '/' :: b.back }

/-- A path with further characters. -/
def Building.append (b : Building) (cs : List Char) : Building :=
  { b with back := cs.reverseAux b.back }

/-- A path without the segment before the last slash. The slash belongs to the segment before it,
which is taken away with it. -/
def Building.up (s : SchemeClass) (b : Building) : Building :=
  let back := if endsWithSlash b.back && canDropSlash b.back then b.back.tail else b.back
  { b with back := dropLastSegment s back }

/-- A path with a segment that stands for itself or for dots. -/
def placeSegment (s : SchemeClass) (b : Building) (segment : List Char) (slash : Bool) :
    Building :=
  if isDotDot segment then
    if slash then (b.up s).slashed else b.up s
  else if isDot segment then b.slashed
  else
    let slashes := if slash then ['/'] else []
    -- The letter of a drive at the start of the path takes the place of a host.
    if s = .file && b.back = ['/'] && isDrive segment then
      { b.append (segment.take 1 ++ [':'] ++ slashes) with keepsHost := false }
    else b.append (segment ++ slashes)

/-- A path with one segment more, which is followed by a slash or ends the path. A segment that
follows the letter of a drive starts with a slash. -/
def addSegment (s : SchemeClass) (b : Building) (cs : List Char) (slash : Bool) : Building :=
  let segment := escape inPath (significant cs)
  if s = .file && isDriveAlone b.back && !segment.isEmpty then
    placeSegment s (b.append ['/']) segment slash
  else if s = .file && b.back = ['/'] && partsDrive cs then
    let slashes := if slash then ['/'] else []
    b.append (segment.take 2 ++ ['/'] ++ segment.drop 2 ++ slashes)
  else placeSegment s b segment slash

/-- A path with the segments of characters that hold neither a question mark nor a number sign;
`segment` holds the characters of the first segment so far, in reverse order. -/
def addSegments (s : SchemeClass) (b : Building) (segment : List Char) : List Char → Building
  | [] => addSegment s b segment.reverse false
  | c :: cs =>
    if isSeparator s c then addSegments s (addSegment s b segment.reverse true) [] cs
    else addSegments s b (c :: segment) cs

/-- A path with further segments, and whether the URL keeps its host. -/
def extendPath (s : SchemeClass) (path cs : List Char) : List Char × Bool :=
  let b := addSegments s ⟨path.reverse, true⟩ [] cs
  let path := b.back.reverse
  (if s = .file then '/' :: path.dropWhile (· = '/') else path, b.keepsHost)

end ConferenceSync.Url
