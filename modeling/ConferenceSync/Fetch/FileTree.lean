import ConferenceSync.Dict
import ConferenceSync.Error
import ConferenceSync.Text.Split

/-!
# Trees of files

A tree of directories, each of which holds files and other directories under their names. A path
leads through it name by name, from the root if it starts with a slash and else from a directory
where it starts. One dot stays in a directory, and two dots lead back to the directory above.

## Main definitions

* `FileTree` — the type
* `FileTree.target` — where a path leads
* `FileTree.read`, `FileTree.write`, `FileTree.remove` — the operations on a file
* `FileTree.makeDirectory` — a directory with all directories on the way to it

## Main results

* `FileTree.target_of_isPlainName` — a name without dots and slashes leads to an entry of the
  directory where it starts
* `FileTree.read_of_isPlainName`, `FileTree.write_of_isPlainName`,
  `FileTree.remove_of_isPlainName` — under such names a directory is a dictionary of its entries
-/

namespace ConferenceSync

/-- What a name stands for in a directory. -/
inductive FileNode where
  | file (octets : List UInt8)
  | directory
  deriving DecidableEq, Repr

/-- A place in a tree: the names on the way to it from the root. -/
abbrev Place := List String

/-- The text of a place, each of its names after a slash. -/
def placeText (place : Place) : String := String.join (place.map ("/" ++ ·))

/-- A tree of files: what each directory holds, under the text of its place. -/
structure FileTree where
  directories : Dict (Dict FileNode)

/-! ### Paths -/

/-- The names in a path. Several slashes count as one. -/
def pathNames (path : String) : List String :=
  ((Text.splitAt '/' path.toList).filter fun name => !name.isEmpty).map String.ofList

/-- The name of the file that a path leads to, whatever the tree. Dots that lead back leave it
open. -/
def fileName? (path : String) : Option String :=
  ((pathNames path).filter (· ≠ ".")).getLast?.filter (· ≠ "..")

/-- Whether a path starts at the root. -/
def isAbsolute (path : String) : Bool := path.toList.head? = some '/'

/-- Whether a slash ends a path. -/
def isSlashed (path : String) : Bool := path.toList.getLast? = some '/'

/-- The number of octets that a name may have. -/
def longestName : Nat := 255

/-- The number of octets that a path from the root may have. -/
def longestPath : Nat := 4095

/-- Where a path leads: to a directory that is there, or to a name in one. A slash may follow. -/
inductive Target where
  | directory
  | entry (place : Place) (name : String) (slashed : Bool)
  deriving DecidableEq, Repr

namespace FileTree

/-- What the directory at a place holds, if there is one. -/
def entries? (t : FileTree) (place : Place) : Option (Dict FileNode) :=
  t.directories.get? (placeText place)

/-- What a name stands for in the directory at a place. -/
def node? (t : FileTree) (place : Place) (name : String) : Option FileNode :=
  (t.entries? place).bind (·.get? name)

/-- The tree with other entries in the directory at a place. -/
def change (t : FileTree) (place : Place) (f : Dict FileNode → Dict FileNode) : FileTree :=
  ⟨t.directories.insert (placeText place) (f ((t.entries? place).getD .empty))⟩

/-- Makes directories one below the other. A file in the way ends it. -/
def makeDirectory (t : FileTree) (place : Place) : List String → FileTree
  | [] => t.change place id
  | name :: rest =>
    if name = "." then makeDirectory t place rest
    else if name = ".." then makeDirectory t place.dropLast rest
    else
      match t.node? place name with
      | some (.file _) => t
      | _ =>
        makeDirectory (t.change place (·.insert name .directory)) (place ++ [name]) rest

/-- The tree of directories one below the other, and nothing else. -/
def ofPlace (place : Place) : FileTree := makeDirectory ⟨.empty⟩ [] place

/-- The place that names lead to from a place where a directory is. -/
def walk (t : FileTree) (place : Place) : List String → Except FileCause Place
  | [] => .ok place
  | name :: rest =>
    if name = "." then walk t place rest
    else if name = ".." then walk t place.dropLast rest
    else if longestName < name.utf8ByteSize then .error .nameTooLong
    else
      match t.node? place name with
      | none => .error .missing
      | some (.file _) => .error .notDirectory
      | some .directory => walk t (place ++ [name]) rest

/-- The number of octets of a path from the root. -/
def fullSize (start : Place) (path : String) : Nat :=
  if isAbsolute path then path.utf8ByteSize
  else (placeText start).utf8ByteSize + 1 + path.utf8ByteSize

/-- Where a path leads from a place. All directories on the way have to be there. -/
def target (t : FileTree) (start : Place) (path : String) : Except FileCause Target :=
  if path.toList.contains '\x00' then .error .nulInPath
  else if longestPath < fullSize start path then .error .nameTooLong
  else
    let start := if isAbsolute path then [] else start
    if (t.entries? start).isNone then .error .missing
    else
      let names := pathNames path
      match names.getLast? with
      | none => .ok .directory
      | some last =>
        (t.walk start names.dropLast).map fun place =>
          if last = "." || last = ".." then .directory
          else .entry place last (isSlashed path)

/-- What a name stands for in the directory at a place, or why it stands for nothing. -/
def find (t : FileTree) (place : Place) (name : String) : Except FileCause FileNode :=
  if longestName < name.utf8ByteSize then .error .nameTooLong
  else
    match t.node? place name with
    | some node => .ok node
    | none => .error .missing

/-- The octets of a file. -/
def read (t : FileTree) (start : Place) (path : String) : Except FileCause (List UInt8) :=
  match t.target start path with
  | .error cause => .error cause
  | .ok .directory => .error .directory
  | .ok (.entry place name slashed) =>
    match t.find place name with
    | .error cause => .error cause
    | .ok .directory => .error .directory
    | .ok (.file octets) => if slashed then .error .notDirectory else .ok octets

/-- The tree with octets in a file, which is made if it is not there. -/
def write (t : FileTree) (start : Place) (path : String) (octets : List UInt8) :
    Except FileCause FileTree :=
  match t.target start path with
  | .error cause => .error cause
  | .ok .directory => .error .directory
  | .ok (.entry place name slashed) =>
    if slashed then .error .directory
    else
      match t.find place name with
      | .error .missing => .ok (t.change place (·.insert name (.file octets)))
      | .error cause => .error cause
      | .ok .directory => .error .directory
      | .ok (.file _) => .ok (t.change place (·.insert name (.file octets)))

/-- The tree without a file. -/
def remove (t : FileTree) (start : Place) (path : String) : Except FileCause FileTree :=
  match t.target start path with
  | .error cause => .error cause
  | .ok .directory => .error .directory
  | .ok (.entry place name slashed) =>
    match t.find place name with
    | .error cause => .error cause
    | .ok .directory => .error .directory
    | .ok (.file _) =>
      if slashed then .error .notDirectory else .ok (t.change place (·.erase name))

/-! ### Plain names -/

/-- Whether a path is a name: neither empty nor dots, without slashes and NULs, and not too
long. -/
def isPlainName (name : String) : Bool :=
  name ≠ "" && name ≠ "." && name ≠ ".." && !name.toList.contains '/' &&
    !name.toList.contains '\x00' && name.utf8ByteSize ≤ longestName

variable {t : FileTree} {start : Place} {name : String}

theorem pathNames_of_isPlainName (h : isPlainName name) : pathNames name = [name] := by
  simp only [isPlainName, Bool.and_eq_true, Bool.not_eq_true', List.contains_eq_mem,
    decide_eq_false_iff_not, decide_eq_true_eq] at h
  obtain ⟨⟨⟨⟨⟨nonempty, -⟩, -⟩, noSlash⟩, -⟩, -⟩ := h
  have : name.toList.isEmpty = false := by
    simpa [List.isEmpty_eq_false_iff, String.toList_eq_nil_iff] using nonempty
  simp [pathNames, Text.splitAt_of_not_mem noSlash, this]

/-- A plain name leads to an entry of the directory where it starts, if that is there. -/
theorem target_of_isPlainName (h : isPlainName name)
    (room : (placeText start).utf8ByteSize + 1 + longestName ≤ longestPath) :
    t.target start name =
      if (t.entries? start).isNone then .error .missing else .ok (.entry start name false) := by
  have names := pathNames_of_isPlainName h
  simp only [isPlainName, Bool.and_eq_true, Bool.not_eq_true', List.contains_eq_mem,
    decide_eq_false_iff_not, decide_eq_true_eq] at h
  obtain ⟨⟨⟨⟨⟨-, noDot⟩, noDots⟩, noSlash⟩, noNul⟩, short⟩ := h
  have relative : isAbsolute name = false := by
    simp only [isAbsolute, decide_eq_false_iff_not]
    exact fun hs => noSlash (List.mem_of_head? hs)
  have open_ : isSlashed name = false := by
    simp only [isSlashed, decide_eq_false_iff_not]
    exact fun hs => noSlash (List.mem_of_getLast? hs)
  have fits : ¬ longestPath < fullSize start name := by
    simp only [fullSize, relative, Bool.false_eq_true, ↓reduceIte]
    omega
  simp [target, noNul, fits, relative, names, walk, noDot, noDots, open_, Except.map]

theorem find_of_isPlainName (h : isPlainName name) :
    t.find start name =
      match t.node? start name with
      | some node => .ok node
      | none => .error .missing := by
  simp only [isPlainName, Bool.and_eq_true, decide_eq_true_eq] at h
  rw [find, if_neg (by omega)]

/-- Under a plain name a file of the directory is read. -/
theorem read_of_isPlainName (h : isPlainName name)
    (room : (placeText start).utf8ByteSize + 1 + longestName ≤ longestPath) :
    t.read start name =
      match t.node? start name with
      | none => .error .missing
      | some .directory => .error .directory
      | some (.file octets) => .ok octets := by
  rw [read, target_of_isPlainName h room]
  cases there : t.entries? start with
  | none => simp [node?, there]
  | some entries =>
    simp only [find_of_isPlainName h, Option.isNone_some, Bool.false_eq_true, ↓reduceIte]
    cases t.node? start name with
    | none => rfl
    | some node => cases node <;> rfl

/-- Under a plain name a file of the directory is written. -/
theorem write_of_isPlainName (h : isPlainName name) (there : (t.entries? start).isSome)
    (room : (placeText start).utf8ByteSize + 1 + longestName ≤ longestPath)
    (octets : List UInt8) :
    t.write start name octets =
      if t.node? start name = some .directory then .error .directory
      else .ok (t.change start (·.insert name (.file octets))) := by
  rw [write, target_of_isPlainName h room,
    if_neg (by simpa [Option.isSome_iff_ne_none] using there)]
  simp only [find_of_isPlainName h]
  cases t.node? start name with
  | none => rfl
  | some node => cases node <;> rfl

/-- Under a plain name a file of the directory is removed. -/
theorem remove_of_isPlainName (h : isPlainName name)
    (room : (placeText start).utf8ByteSize + 1 + longestName ≤ longestPath) :
    t.remove start name =
      match t.node? start name with
      | none => .error .missing
      | some .directory => .error .directory
      | some (.file _) => .ok (t.change start (·.erase name)) := by
  rw [remove, target_of_isPlainName h room]
  cases there : t.entries? start with
  | none => simp [node?, there]
  | some entries =>
    simp only [find_of_isPlainName h, Option.isNone_some, Bool.false_eq_true, ↓reduceIte]
    cases t.node? start name with
    | none => rfl
    | some node => cases node <;> rfl

/-- A changed directory holds what it was changed to. -/
@[simp] theorem entries?_change (t : FileTree) (place : Place) (f : Dict FileNode → Dict FileNode) :
    (t.change place f).entries? place = some (f ((t.entries? place).getD .empty)) := by
  simp [change, entries?, Dict.get?_insert]

/-- A change of one directory leaves every other one alone. -/
theorem entries?_change_of_ne {place other : Place} (h : placeText other ≠ placeText place)
    (f : Dict FileNode → Dict FileNode) : (t.change place f).entries? other = t.entries? other := by
  simp [change, entries?, Dict.get?_insert, h.symm]

end FileTree

end ConferenceSync
