import ConferenceSync.Json.Reader

/-!
# Manifests

The manifest names the data files of the current data set and the format that they are in. It is
an object with the members `format` and `data_files`, or an array with these two values; either
may be missing. A manifest is read straight from its text, so a member of the wrong shape is a
fault even if the text is no JSON further on, and what stands under other keys is only skimmed.

## Main definitions

* `Manifest` — the type
* `Manifest.ofText` — the manifest of a text
-/

namespace ConferenceSync

/-- A list of data files: the format that they have, and references to them. -/
structure Manifest where
  format : String
  files : List String
  deriving DecidableEq, Repr

namespace Manifest

open Json

/-- The format of the data files that this program reads. -/
def knownFormat : String := "iosched-json-v1"

/-- Reads a text. -/
def readText (cs : List Char) : Reading String :=
  match skipBlanks cs with
  | '"' :: rest => readString .full rest
  | rest => .error (mismatch rest)

/-- Reads the texts of an array from one of them on; `acc` holds the texts before it, in reverse
order. Every text takes characters off, so their number is fuel enough. -/
def readTextsFrom : Nat → List String → List Char → Reading (List String)
  | 0, _, _ => .error .truncated
  | fuel + 1, acc, cs =>
    match readText cs with
    | .error e => .error e
    | .ok (s, rest) =>
      match skipBlanks rest with
      | [] => .error .truncated
      | ']' :: rest => .ok ((s :: acc).reverse, rest)
      | ',' :: rest =>
        -- A comma has to be followed by one more text.
        match skipBlanks rest with
        | [] => .error .truncated
        | ']' :: _ => .error .malformed
        | rest => readTextsFrom fuel (s :: acc) rest
      | _ => .error .malformed

/-- Reads an array of texts; `null` stands for the empty one. -/
def readFiles (cs : List Char) : Reading (List String) :=
  match skipBlanks cs with
  | 'n' :: rest => (readName ['u', 'l', 'l'] rest).map fun rest => ([], rest)
  | '[' :: rest =>
    match skipBlanks rest with
    | [] => .error .truncated
    | ']' :: rest => .ok ([], rest)
    | rest => readTextsFrom rest.length [] rest
  | rest => .error (mismatch rest)

/-- The members that have been read, as far as they have. -/
structure Partial where
  format? : Option String
  files? : Option (List String)

/-- The manifest with what is missing left empty. -/
def Partial.complete (p : Partial) : Manifest :=
  ⟨p.format?.getD "", p.files?.getD []⟩

/-- Reads the value of a member. A second value for a member is refused at its key. -/
def readMember (key : String) (p : Partial) (cs : List Char) : Except Fault (Partial × List Char) :=
  if key == "format" then
    -- The key alone is enough to refuse the text; its value is not looked at.
    if p.format?.isSome then .error .mismatched
    else do
      let rest ← skipColon cs
      (readText rest).map fun (s, rest) => (⟨some s, p.files?⟩, rest)
  else if key == "data_files" then
    if p.files?.isSome then .error .mismatched
    else do
      let rest ← skipColon cs
      (readFiles rest).map fun (files, rest) => (⟨p.format?, some files⟩, rest)
  else do
    let rest ← skipColon cs
    (skimValue rest).map fun rest => (p, rest)
where
  -- The characters after the colon that follows a key.
  skipColon (cs : List Char) : Except Fault (List Char) :=
    match skipBlanks cs with
    | [] => .error .truncated
    | ':' :: rest => .ok rest
    | _ => .error .malformed

/-- Reads the members of an object from a key on. Every member takes characters off, so their
number is fuel enough. -/
def readMembers : Nat → Partial → List Char → Except Fault (Partial × List Char)
  | 0, _, _ => .error .truncated
  | fuel + 1, p, cs =>
    match cs with
    | '"' :: rest => do
      let (key, rest) ← readString .full rest
      let (p, rest) ← readMember key p rest
      match skipBlanks rest with
      | [] => .error .truncated
      | '\x7d' :: rest => .ok (p, rest)
      | ',' :: rest =>
        match skipBlanks rest with
        | [] => .error .truncated
        | rest => readMembers fuel p rest
      | _ => .error .malformed
    | _ => .error .malformed

/-- The characters after the end of an array whose wanted items have all been read. -/
def endArray (cs : List Char) : Except Fault (List Char) :=
  match skipBlanks cs with
  | [] => .error .truncated
  | ']' :: rest => .ok rest
  | _ => .error .malformed

/-- Reads the array form after its bracket. -/
def readArray (cs : List Char) : Except Fault (Partial × List Char) :=
  match skipBlanks cs with
  | [] => .error .truncated
  | ']' :: rest => .ok (⟨none, none⟩, rest)
  | rest => do
    let (format, rest) ← readText rest
    match skipBlanks rest with
    | [] => .error .truncated
    | ']' :: rest => .ok (⟨some format, none⟩, rest)
    | ',' :: rest =>
      match skipBlanks rest with
      | [] => .error .truncated
      | ']' :: _ => .error .malformed
      | rest =>
        let (files, rest) ← readFiles rest
        let rest ← endArray rest
        .ok (⟨some format, some files⟩, rest)
    | _ => .error .malformed

/-- Reads the object form after its brace. -/
def readObject (cs : List Char) : Except Fault (Partial × List Char) :=
  match skipBlanks cs with
  | [] => .error .truncated
  | '\x7d' :: rest => .ok (⟨none, none⟩, rest)
  | rest => readMembers rest.length ⟨none, none⟩ rest

/-- The manifest of a text. -/
def ofText (text : String) : Except Fault Manifest :=
  match skipBlanks text.toList with
  | '[' :: rest => do
    let (p, rest) ← readArray rest
    endText p.complete rest
  | '\x7b' :: rest => do
    let (p, rest) ← readObject rest
    endText p.complete rest
  | rest => .error (mismatch rest)

end Manifest

end ConferenceSync
