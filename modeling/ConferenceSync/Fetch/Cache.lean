import ConferenceSync.Dict
import ConferenceSync.Digest.Fingerprint
import ConferenceSync.Error
import ConferenceSync.Fetch.Body
import ConferenceSync.Fetch.FileTree

/-!
# The cache of downloaded files

Downloaded files are kept as texts under keys, either in memory or in a directory on a disk, where
a key is a path from that directory. The directory is made when the first file is put into it. It
may hold other files too; only names that end in `.json` are listed as keys. A file that is not
UTF-8, or a directory where a file should be, cannot be read.

## Main definitions

* `Cache` — the type, with `Cache.inMemory` and `Cache.onDisk`
* `Cache.get`, `Cache.put`, `Cache.keys`, `Cache.delete` — the operations
* `Cache.place` — puts a foreign file or directory beside the kept files

## Main results

* `Cache.put_ofTexts`, `Cache.keys_ofTexts`, `Cache.delete_ofTexts` — a cache in memory that denies
  nothing is the dictionary of its texts
* `Cache.put_ofTree` — under a plain name a text that is kept on a disk is a file with its octets
-/

namespace ConferenceSync

/-- What a cache holds: texts in memory, or the files of a disk. -/
inductive CacheContent where
  | memory (texts : Dict String)
  | disk (tree : FileTree)

/-- The operations of a cache. -/
inductive CacheOperation where
  | get
  | put
  | keys
  | delete
  deriving DecidableEq, Repr

/-- A cache, with the operations that it denies. -/
structure Cache where
  content : CacheContent
  denied : List CacheOperation

namespace Cache

/-- Where the directory of a cache on a disk is, above its own name. -/
def home : Place := ["tmp", "conference"]

/-- The directory of a cache on a disk. -/
def directory : Place := home ++ ["cache"]

/-- The path from the root that a key stands for on a disk. -/
def pathOf (key : String) : String :=
  if isAbsolute key then key else placeText directory ++ "/" ++ key

/-- A cache in memory that denies nothing. -/
def ofTexts (texts : Dict String) : Cache := ⟨.memory texts, []⟩

/-- A cache on a disk that denies nothing. -/
def ofTree (tree : FileTree) : Cache := ⟨.disk tree, []⟩

/-- The empty cache in memory. -/
def inMemory : Cache := ofTexts .empty

/-- The cache in a directory that has not been made. -/
def onDisk : Cache := ofTree (.ofPlace home)

/-- Whether a name in a directory is the key of a kept file. -/
def isKey (name : String) : Bool :=
  ".json".toList.isSuffixOf name.toList

/-- The files of a disk with the directory of the cache. -/
def prepare (tree : FileTree) : FileTree := tree.makeDirectory [] directory

/-- The text under a key. -/
def get (c : Cache) (key : String) : Except SyncError (Option String) :=
  if c.denied.contains .get then .error (.file key .denied)
  else
    match c.content with
    | .memory texts => .ok (texts.get? key)
    | .disk tree =>
      match tree.read directory key with
      | .error .missing => .ok none
      | .error cause => .error (.file (pathOf key) cause)
      | .ok octets =>
        match Fetch.textOfOctets? octets with
        | some text => .ok (some text)
        | none => .error (.file (pathOf key) .notText)

/-- Puts a text under a key. The directory is made even if the text cannot be put into it. -/
def put (c : Cache) (key text : String) : Except SyncError Unit × Cache :=
  if c.denied.contains .put then (.error (.file key .denied), c)
  else
    match c.content with
    | .memory texts => (.ok (), { c with content := .memory (texts.insert key text) })
    | .disk tree =>
      let tree := prepare tree
      match tree.write directory key (Digest.octets text) with
      | .error cause => (.error (.file (pathOf key) cause), { c with content := .disk tree })
      | .ok tree => (.ok (), { c with content := .disk tree })

/-- The keys in ascending order. -/
def keys (c : Cache) : Except SyncError (List String) :=
  if c.denied.contains .keys then .error (.file "keys" .denied)
  else
    match c.content with
    | .memory texts => .ok texts.keys
    | .disk tree => .ok (((tree.entries? directory).getD .empty).keys.filter isKey)

/-- Removes a key. A file that is not there need not be removed. -/
def delete (c : Cache) (key : String) : Except SyncError Unit × Cache :=
  if c.denied.contains .delete then (.error (.file key .denied), c)
  else
    match c.content with
    | .memory texts => (.ok (), { c with content := .memory (texts.erase key) })
    | .disk tree =>
      match tree.remove directory key with
      | .error .missing => (.ok (), c)
      | .error cause => (.error (.file (pathOf key) cause), c)
      | .ok tree => (.ok (), { c with content := .disk tree })

/-- The cache with a file or a directory put into its directory by another program. -/
def place (c : Cache) (name : String) (node : FileNode) : Cache :=
  match c.content with
  | .memory _ => c
  | .disk tree =>
    let tree := prepare tree
    let tree := match node with
      | .directory => tree.makeDirectory directory (pathNames name)
      | .file octets => (tree.write directory name octets).toOption.getD tree
    { c with content := .disk tree }

/-! ### The texts of a cache -/

section Texts

variable (texts : Dict String) (key text : String)

@[simp] theorem put_ofTexts :
    (ofTexts texts).put key text = (.ok (), ofTexts (texts.insert key text)) := rfl

@[simp] theorem keys_ofTexts : (ofTexts texts).keys = .ok texts.keys := rfl

@[simp] theorem delete_ofTexts :
    (ofTexts texts).delete key = (.ok (), ofTexts (texts.erase key)) := rfl

end Texts

/-- A text is what its octets stand for. -/
theorem textOfOctets?_octets (text : String) :
    Fetch.textOfOctets? (Digest.octets text) = some text := by
  have valid := text.isValidUTF8
  simp only [Fetch.textOfOctets?, Digest.octets, Array.toArray_toList, String.fromUTF8?,
    String.toUTF8_eq_toByteArray, valid, ↓reduceDIte]
  rfl

theorem placeText_directory : placeText directory = "/tmp/conference/cache" := by decide +kernel

/-- There is room for every name in a path from the directory of a cache. -/
theorem room_directory :
    (placeText directory).utf8ByteSize + 1 + longestName ≤ longestPath := by
  rw [placeText_directory]
  decide +kernel

/-- Where there is no directory under a plain name, a text is kept as a file. -/
theorem put_ofTree {tree : FileTree} {key : String} (plain : FileTree.isPlainName key)
    (there : ((prepare tree).entries? directory).isSome) (text : String)
    (free : (prepare tree).node? directory key ≠ some .directory) :
    (ofTree tree).put key text =
      (.ok (), ofTree ((prepare tree).change directory
        (·.insert key (.file (Digest.octets text))))) := by
  simp only [put, ofTree, List.contains_nil, Bool.false_eq_true, ↓reduceIte,
    FileTree.write_of_isPlainName plain there room_directory, free]

end Cache

end ConferenceSync
