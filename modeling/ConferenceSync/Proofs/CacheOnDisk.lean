import Mathlib.Data.String.Basic
import ConferenceSync.Proofs.CacheOrigin

/-!
# What a cache keeps on a disk

The key of a URL is a name that needs no escape and ends in `.json`. Under such names the directory
of a cache holds the same texts as a cache in memory would, whether it has been made or not. Files
of other programs, whose names do not end so, lie beside them and are left alone.

## Main definitions

* `ForeignFile` — a file that another program puts into the directory of a cache
* `Cache.node?` — what lies under a name in the directory of a cache
* `Cache.Holds` — that a tree holds texts under keys, and foreign files beside them
* `Cache.Alike` — that a cache on a disk and one in memory keep the same texts

## Main results

* `Digest.isPlainName_urlKey`, `Digest.isKey_urlKey` — the keys of URLs are names of kept files
* `Cache.Alike.get`, `Cache.Alike.put`, `Cache.Alike.keys`, `Cache.Alike.delete` — alike caches
  answer alike and stay so
* `Cache.Alike.appear` — so they do when a foreign file appears
* `Fetch.alike_purge` — and when what is not in use is removed
-/

namespace ConferenceSync

/-! ## Keys as names -/

namespace Text

theorem hexDigit_mem {n : Nat} (below : n < 16) : hexDigit n ∈ "0123456789abcdef".toList := by
  revert n
  decide

theorem mem_hexWord {w : UInt32} {c : Char} (there : c ∈ (hexWord w).toList) :
    c ∈ "0123456789abcdef".toList := by
  rw [hexWord, String.toList_ofList] at there
  obtain ⟨k, -, rfl⟩ := List.mem_map.1 there
  exact hexDigit_mem (Nat.mod_lt _ (by decide))

theorem utf8Len_eq_length {cs : List Char} (octets : ∀ c ∈ cs, c.utf8Size = 1) :
    String.utf8Len cs = cs.length := by
  induction cs with
  | nil => rfl
  | cons c cs ih =>
    rw [String.utf8Len_cons, ih fun d there => octets d (List.mem_cons_of_mem c there),
      octets c List.mem_cons_self, List.length_cons]

end Text

namespace Digest

/-- The characters that the key of a URL may have. -/
def keyChars : List Char := "0123456789abcdef.json".toList

theorem length_urlKey (url : String) : (urlKey url).toList.length = 21 := by
  simp only [urlKey, weakHash, String.toList_append, List.length_append, Text.length_hexWord]
  rfl

theorem mem_urlKey {url : String} {c : Char} (there : c ∈ (urlKey url).toList) : c ∈ keyChars := by
  have digits : "0123456789abcdef".toList ⊆ keyChars := by decide
  have ending : ".json".toList ⊆ keyChars := by decide
  simp only [urlKey, weakHash, String.toList_append, List.mem_append] at there
  rcases there with (hash | length) | last
  · exact digits (Text.mem_hexWord hash)
  · exact digits (Text.mem_hexWord length)
  · exact ending last

/-- Each character of a key is one octet. -/
theorem utf8ByteSize_urlKey (url : String) : (urlKey url).utf8ByteSize = 21 := by
  have octets : keyChars.all (·.utf8Size == 1) = true := by decide
  rw [List.all_eq_true] at octets
  rw [← String.ofList_toList (s := urlKey url), String.utf8ByteSize_ofList,
    Text.utf8Len_eq_length fun c there => beq_iff_eq.1 (octets c (mem_urlKey there)),
    length_urlKey]

/-- The key of a URL can be the name of a file as it is. -/
theorem isPlainName_urlKey (url : String) : FileTree.isPlainName (urlKey url) = true := by
  have short {name : String} (other : name.toList.length ≠ 21) : urlKey url ≠ name := by
    rintro rfl
    exact other (length_urlKey url)
  have absent {c : Char} (other : c ∉ keyChars) : c ∉ (urlKey url).toList := fun there =>
    other (mem_urlKey there)
  simp only [FileTree.isPlainName, Bool.and_eq_true, decide_eq_true_eq, Bool.not_eq_true',
    List.contains_eq_mem, decide_eq_false_iff_not, utf8ByteSize_urlKey]
  exact ⟨⟨⟨⟨⟨short (by decide), short (by decide)⟩, short (by decide)⟩, absent (by decide)⟩,
    absent (by decide)⟩, by decide⟩

/-- The key of a URL is listed among the kept files. -/
theorem isKey_urlKey (url : String) : Cache.isKey (urlKey url) = true := by
  rw [Cache.isKey, List.isSuffixOf_iff_suffix, urlKey, String.toList_append]
  exact List.suffix_append _ _

end Digest

/-! ## Directories -/

namespace FileTree

variable {t : FileTree} {place other : Place} {name : String}

theorem node?_eq_get? (t : FileTree) (place : Place) (name : String) :
    t.node? place name = ((t.entries? place).getD .empty).get? name := by
  rw [node?]
  cases t.entries? place <;> rfl

theorem node?_change_insert (t : FileTree) (place : Place) (key : String) (node : FileNode)
    (name : String) : (t.change place (·.insert key node)).node? place name =
      if key = name then some node else t.node? place name := by
  rw [node?, entries?_change, Option.bind_some, Dict.get?_insert, node?_eq_get?]

theorem node?_change_erase (t : FileTree) (place : Place) (key name : String) :
    (t.change place (·.erase key)).node? place name =
      if key = name then none else t.node? place name := by
  rw [node?, entries?_change, Option.bind_some, Dict.get?_erase, node?_eq_get?]

theorem node?_change_of_ne (different : placeText other ≠ placeText place)
    (f : Dict FileNode → Dict FileNode) :
    (t.change place f).node? other name = t.node? other name := by
  rw [node?, entries?_change_of_ne different, node?]

/-- Where no file is in the way, a directory is made. -/
theorem makeDirectory_cons (noDot : name ≠ ".") (noDots : name ≠ "..")
    (free : ∀ octets, t.node? place name ≠ some (.file octets)) (rest : List String) :
    t.makeDirectory place (name :: rest) =
      (t.change place (·.insert name .directory)).makeDirectory (place ++ [name]) rest := by
  rw [makeDirectory, if_neg noDot, if_neg noDots]
  split
  · next octets blocked => exact absurd blocked (free octets)
  · rfl

end FileTree

/-- Whether a key can be the name of a file as it is, and is listed as a key. -/
structure Cache.IsFileKey (key : String) : Prop where
  plain : FileTree.isPlainName key = true
  listed : Cache.isKey key = true

/-- The keys of URLs are such keys. -/
theorem Digest.isFileKey_urlKey (url : String) : Cache.IsFileKey (urlKey url) :=
  ⟨isPlainName_urlKey url, isKey_urlKey url⟩

/-- A file that another program puts into the directory of a cache. Its name is plain and does not
end in `.json`. -/
structure ForeignFile where
  name : String
  octets : List UInt8
  plain : FileTree.isPlainName name = true
  foreign : Cache.isKey name = false
  deriving DecidableEq

namespace Cache

/-- The name of a foreign file is not the key of a kept one. -/
theorem IsFileKey.ne_name {key : String} (fileKey : IsFileKey key) (file : ForeignFile) :
    key ≠ file.name := by
  rintro rfl
  exact Bool.false_ne_true (file.foreign.symm.trans fileKey.listed)

/-- What lies under a name in the directory of a cache, if it is on a disk. -/
def node? (c : Cache) (name : String) : Option FileNode :=
  match c.content with
  | .memory _ => none
  | .disk tree => tree.node? directory name

/-- The cache with a foreign file in its directory. -/
def appear (c : Cache) (file : ForeignFile) : Cache := c.place file.name (.file file.octets)

/-- Whether no file is in the way of the directory of the cache. -/
structure Unblocked (tree : FileTree) : Prop where
  root : ∀ octets, tree.node? [] "tmp" ≠ some (.file octets)
  middle : ∀ octets, tree.node? ["tmp"] "conference" ≠ some (.file octets)
  home : ∀ octets, tree.node? home "cache" ≠ some (.file octets)

section Unblocked

variable {tree : FileTree}

theorem Unblocked.change (unblocked : Unblocked tree) (f : Dict FileNode → Dict FileNode) :
    Unblocked (tree.change directory f) where
  root octets := by
    rw [FileTree.node?_change_of_ne (by decide +kernel)]
    exact unblocked.root octets
  middle octets := by
    rw [FileTree.node?_change_of_ne (by decide +kernel)]
    exact unblocked.middle octets
  home octets := by
    rw [FileTree.node?_change_of_ne (by decide +kernel)]
    exact unblocked.home octets

/-- The tree with the directories on the way to that of the cache. -/
def paved (tree : FileTree) : FileTree :=
  ((tree.change [] (·.insert "tmp" .directory)).change ["tmp"]
    (·.insert "conference" .directory)).change home (·.insert "cache" .directory)

theorem node?_paved (tree : FileTree) (name : String) :
    (paved tree).node? directory name = tree.node? directory name := by
  rw [paved, FileTree.node?_change_of_ne (by decide +kernel),
    FileTree.node?_change_of_ne (by decide +kernel),
    FileTree.node?_change_of_ne (by decide +kernel)]

theorem unblocked_paved (tree : FileTree) : Unblocked (paved tree) where
  root octets := by
    rw [paved, FileTree.node?_change_of_ne (by decide +kernel),
      FileTree.node?_change_of_ne (by decide +kernel), FileTree.node?_change_insert, if_pos rfl]
    simp
  middle octets := by
    rw [paved, FileTree.node?_change_of_ne (by decide +kernel), FileTree.node?_change_insert,
      if_pos rfl]
    simp
  home octets := by
    rw [paved, FileTree.node?_change_insert, if_pos rfl]
    simp

theorem Unblocked.prepare_eq (unblocked : Unblocked tree) :
    prepare tree = (paved tree).change directory id := by
  have names : directory = ["tmp", "conference", "cache"] := rfl
  rw [prepare, names, FileTree.makeDirectory_cons (by decide) (by decide) unblocked.root]
  rw [FileTree.makeDirectory_cons (by decide) (by decide) fun octets => by
    rw [FileTree.node?_change_of_ne (by decide +kernel)]
    exact unblocked.middle octets]
  rw [FileTree.makeDirectory_cons (by decide) (by decide) fun octets => by
    rw [FileTree.node?_change_of_ne (by decide +kernel),
      FileTree.node?_change_of_ne (by decide +kernel)]
    exact unblocked.home octets]
  rfl

/-- To make the directory leaves what it holds. -/
theorem Unblocked.node?_prepare (unblocked : Unblocked tree) (name : String) :
    (prepare tree).node? directory name = tree.node? directory name := by
  rw [unblocked.prepare_eq, FileTree.node?, FileTree.entries?_change, Option.bind_some, id,
    ← FileTree.node?_eq_get?, node?_paved]

theorem Unblocked.prepare (unblocked : Unblocked tree) : Unblocked (prepare tree) := by
  rw [unblocked.prepare_eq]
  exact (unblocked_paved tree).change id

theorem Unblocked.there (unblocked : Unblocked tree) :
    ((Cache.prepare tree).entries? directory).isSome := by
  rw [unblocked.prepare_eq, FileTree.entries?_change]
  rfl

end Unblocked

/-! ## Texts as files -/

/-- Whether a tree holds texts, each as a file under its key, and foreign files beside them. Of
foreign files with one name it holds one. -/
structure Holds (tree : FileTree) (texts : Dict String) (foreign : List ForeignFile) : Prop where
  unblocked : Unblocked tree
  keyed : ∀ key text, texts.get? key = some text → IsFileKey key
  kept : ∀ key, isKey key = true →
    tree.node? directory key = (texts.get? key).map fun text => .file (Digest.octets text)
  flat : ∀ name, tree.node? directory name ≠ some .directory
  beside : ∀ file ∈ foreign, ∃ other ∈ foreign, other.name = file.name ∧
    tree.node? directory file.name = some (.file other.octets)

/-- Whether a cache on a disk and a cache in memory keep the same texts. Neither denies anything. -/
def Alike (foreign : List ForeignFile) (disk memory : Cache) : Prop :=
  ∃ tree texts, disk = ofTree tree ∧ memory = ofTexts texts ∧ Holds tree texts foreign

/-- Caches are alike at first, when the directory has not been made. -/
theorem alike_start : Alike [] onDisk inMemory := by
  have absent (name : String) : (FileTree.ofPlace home).node? directory name = none := by
    have none : (FileTree.ofPlace home).entries? directory = none := by decide +kernel
    rw [FileTree.node?, none, Option.bind_none]
  refine ⟨.ofPlace home, .empty, rfl, rfl, ?_, ?_, ?_, ?_, ?_⟩
  · have root : (FileTree.ofPlace home).node? [] "tmp" = some .directory := by decide +kernel
    have middle : (FileTree.ofPlace home).node? ["tmp"] "conference" = some .directory := by
      decide +kernel
    have none : (FileTree.ofPlace home).node? home "cache" = none := by decide +kernel
    exact ⟨by simp [root], by simp [middle], by simp [none]⟩
  · simp
  · simp [absent]
  · simp [absent]
  · simp

section Holds

variable {tree : FileTree} {texts : Dict String} {foreign more : List ForeignFile} {key : String}

theorem Holds.get_eq (holds : Holds tree texts foreign) (fileKey : IsFileKey key) :
    (ofTree tree).get key = (ofTexts texts).get key := by
  simp only [get, ofTree, ofTexts, List.contains_nil, Bool.false_eq_true, ↓reduceIte,
    FileTree.read_of_isPlainName fileKey.plain room_directory, holds.kept key fileKey.listed]
  cases texts.get? key with
  | none => rfl
  | some text => simp only [Option.map_some, textOfOctets?_octets]

/-- The kept files are those whose names are keys. -/
theorem Holds.keys_eq (holds : Holds tree texts foreign) :
    (ofTree tree).keys = (ofTexts texts).keys := by
  have kept : ((tree.entries? directory).getD .empty).filter (fun name _ => isKey name) =
      texts.map fun text => .file (Digest.octets text) := by
    refine Dict.ext_get? fun name => ?_
    rw [Dict.get?_filter, Dict.get?_map, ← FileTree.node?_eq_get?]
    by_cases listed : isKey name = true
    · rw [← holds.kept name listed]
      cases tree.node? directory name <;> simp [listed]
    · have absent : texts.get? name = none := by
        refine Option.eq_none_iff_forall_ne_some.2 fun text there => ?_
        exact listed (holds.keyed name text there).listed
      cases tree.node? directory name <;> simp [listed, absent]
  have names := congrArg Dict.keys kept
  rw [Dict.keys_filter, Dict.keys_map] at names
  simp only [keys, ofTree, ofTexts, List.contains_nil, Bool.false_eq_true, ↓reduceIte, names]

/-- Where the text under one key is changed in the same way, it is held as well. -/
theorem Holds.changed (holds : Holds tree texts foreign) (fileKey : IsFileKey key)
    (text? : Option String) {after : FileTree} {made : Dict String} (unblocked : Unblocked after)
    (nodes : ∀ name, after.node? directory name =
      if key = name then text?.map fun text => .file (Digest.octets text)
      else tree.node? directory name)
    (values : ∀ k, made.get? k = if key = k then text? else texts.get? k) :
    Holds after made foreign where
  unblocked := unblocked
  keyed k text there := by
    rw [values] at there
    split at there
    · next same => exact same ▸ fileKey
    · exact holds.keyed k text there
  kept k listed := by
    rw [nodes, values, holds.kept k listed]
    split <;> rfl
  flat name := by
    rw [nodes]
    split
    · cases text? <;> simp
    · exact holds.flat name
  beside file there := by
    obtain ⟨other, among, same, here⟩ := holds.beside file there
    exact ⟨other, among, same, by rw [nodes, if_neg (fileKey.ne_name file), here]⟩

/-- What lies in the directory once a file has been put into it. -/
theorem Holds.node?_written (holds : Holds tree texts foreign) (name : String)
    (octets : List UInt8) (other : String) :
    ((prepare tree).change directory (·.insert name (.file octets))).node? directory other =
      if name = other then some (.file octets) else tree.node? directory other := by
  rw [FileTree.node?_change_insert, holds.unblocked.node?_prepare]

theorem Holds.put (holds : Holds tree texts foreign) (fileKey : IsFileKey key) (text : String) :
    ∃ after, (ofTree tree).put key text = (.ok (), ofTree after) ∧
      Holds after (texts.insert key text) foreign := by
  have free : (prepare tree).node? directory key ≠ some .directory := by
    rw [holds.unblocked.node?_prepare]
    exact holds.flat key
  exact ⟨_, put_ofTree fileKey.plain holds.unblocked.there text free,
    holds.changed fileKey (some text) (holds.unblocked.prepare.change _)
      (holds.node?_written key _) (texts.get?_insert key text)⟩

/-- A key is removed, or there is nothing to remove. -/
theorem Holds.delete (holds : Holds tree texts foreign) (fileKey : IsFileKey key) :
    ∃ after, (ofTree tree).delete key = (.ok (), ofTree after) ∧
      Holds after (texts.erase key) foreign := by
  have node := holds.kept key fileKey.listed
  cases there : texts.get? key with
  | none =>
    rw [there, Option.map_none] at node
    refine ⟨tree, ?_, ?_⟩
    · simp only [Cache.delete, ofTree, List.contains_nil, Bool.false_eq_true, ↓reduceIte,
        FileTree.remove_of_isPlainName fileKey.plain room_directory, node]
    · refine holds.changed fileKey none holds.unblocked (fun name => ?_)
        (texts.get?_erase key)
      split
      · next same => rw [← same, node, Option.map_none]
      · rfl
  | some text =>
    rw [there, Option.map_some] at node
    refine ⟨tree.change directory (·.erase key), ?_, ?_⟩
    · simp only [Cache.delete, ofTree, List.contains_nil, Bool.false_eq_true, ↓reduceIte,
        FileTree.remove_of_isPlainName fileKey.plain room_directory, node]
    · exact holds.changed fileKey none (holds.unblocked.change _)
        (FileTree.node?_change_erase tree directory key) (texts.get?_erase key)

/-- A foreign file that appears is held beside the texts. -/
theorem Holds.appear (holds : Holds tree texts foreign) (file : ForeignFile) :
    ∃ after, (ofTree tree).appear file = ofTree after ∧ Holds after texts (file :: foreign) := by
  have free : (prepare tree).node? directory file.name ≠ some .directory := by
    rw [holds.unblocked.node?_prepare]
    exact holds.flat file.name
  have put : (prepare tree).write directory file.name file.octets = .ok ((prepare tree).change
      directory (·.insert file.name (.file file.octets))) := by
    rw [FileTree.write_of_isPlainName file.plain holds.unblocked.there room_directory, if_neg free]
  refine ⟨(prepare tree).change directory (·.insert file.name (.file file.octets)), ?_, ?_⟩
  · simp only [Cache.appear, place, ofTree, put, Except.toOption, Option.getD_some]
  · have written := holds.node?_written file.name file.octets
    refine ⟨holds.unblocked.prepare.change _, holds.keyed, fun key listed => ?_, fun name => ?_,
      fun old there => ?_⟩
    · have different : file.name ≠ key := by
        rintro rfl
        exact Bool.false_ne_true (file.foreign.symm.trans listed)
      rw [written, if_neg different, holds.kept key listed]
    · rw [written]
      split
      · simp
      · exact holds.flat name
    · rw [written]
      by_cases same : file.name = old.name
      · exact ⟨file, List.mem_cons_self, same, if_pos same⟩
      · have before : old ∈ foreign := by
          rcases List.mem_cons.1 there with rfl | before
          · exact absurd rfl same
          · exact before
        obtain ⟨other, among, named, here⟩ := holds.beside old before
        exact ⟨other, List.mem_cons_of_mem file among, named, by rw [if_neg same, here]⟩

end Holds

/-! ## Alike caches -/

section Alike

variable {disk memory : Cache} {foreign : List ForeignFile} {key : String}

theorem Alike.get (alike : Alike foreign disk memory) (fileKey : IsFileKey key) :
    disk.get key = memory.get key := by
  obtain ⟨tree, texts, rfl, rfl, holds⟩ := alike
  exact holds.get_eq fileKey

theorem Alike.keys (alike : Alike foreign disk memory) : disk.keys = memory.keys := by
  obtain ⟨tree, texts, rfl, rfl, holds⟩ := alike
  exact holds.keys_eq

theorem Alike.put (alike : Alike foreign disk memory) (fileKey : IsFileKey key) (text : String) :
    (disk.put key text).1 = (memory.put key text).1 ∧
      Alike foreign (disk.put key text).2 (memory.put key text).2 := by
  obtain ⟨tree, texts, rfl, rfl, holds⟩ := alike
  obtain ⟨after, put, held⟩ := holds.put fileKey text
  rw [put, put_ofTexts]
  exact ⟨rfl, after, texts.insert key text, rfl, rfl, held⟩

theorem Alike.delete (alike : Alike foreign disk memory) (fileKey : IsFileKey key) :
    (disk.delete key).1 = (memory.delete key).1 ∧
      Alike foreign (disk.delete key).2 (memory.delete key).2 := by
  obtain ⟨tree, texts, rfl, rfl, holds⟩ := alike
  obtain ⟨after, deleted, held⟩ := holds.delete fileKey
  rw [deleted, delete_ofTexts]
  exact ⟨rfl, after, texts.erase key, rfl, rfl, held⟩

/-- A foreign file that appears is not seen in memory. -/
theorem Alike.appear (alike : Alike foreign disk memory) (file : ForeignFile) :
    Alike (file :: foreign) (disk.appear file) (memory.appear file) := by
  obtain ⟨tree, texts, rfl, rfl, holds⟩ := alike
  obtain ⟨after, appeared, held⟩ := holds.appear file
  exact ⟨after, texts, appeared, rfl, held⟩

theorem Alike.appearAll (alike : Alike foreign disk memory) (files : List ForeignFile) :
    Alike (files.reverse ++ foreign) (files.foldl Cache.appear disk)
      (files.foldl Cache.appear memory) := by
  induction files generalizing disk memory foreign with
  | nil => exact alike
  | cons file rest ih =>
    have after := ih (alike.appear file)
    rwa [List.reverse_cons, List.append_assoc, List.singleton_append]

/-- Each key that is listed is the name of a kept file. -/
theorem Alike.isFileKey (alike : Alike foreign disk memory) {keys : List String}
    (listed : disk.keys = .ok keys) : ∀ key ∈ keys, IsFileKey key := by
  obtain ⟨tree, texts, rfl, rfl, holds⟩ := alike
  rw [holds.keys_eq, keys_ofTexts] at listed
  obtain rfl := Except.ok.inj listed
  intro key there
  obtain ⟨text, kept⟩ := Dict.mem_keys.1 there
  exact holds.keyed key text kept

theorem Alike.deleteAll (alike : Alike foreign disk memory) {keys : List String}
    (fileKeys : ∀ key ∈ keys, IsFileKey key) :
    Alike foreign (keys.foldl (fun cache key => (cache.delete key).2) disk)
      (keys.foldl (fun cache key => (cache.delete key).2) memory) := by
  induction keys generalizing disk memory with
  | nil => exact alike
  | cons key rest ih =>
    refine ih (alike.delete (fileKeys key List.mem_cons_self)).2 fun other there => ?_
    exact fileKeys other (List.mem_cons_of_mem key there)

/-- What lies beside the texts on the disk. -/
theorem Alike.beside (alike : Alike foreign disk memory) {file : ForeignFile}
    (there : file ∈ foreign) : ∃ other ∈ foreign, other.name = file.name ∧
      disk.node? file.name = some (.file other.octets) := by
  obtain ⟨tree, texts, rfl, rfl, holds⟩ := alike
  exact holds.beside file there

/-- The order in which foreign files are named does not count. -/
theorem Alike.of_mem_iff (alike : Alike foreign disk memory) {others : List ForeignFile}
    (same : ∀ file, file ∈ foreign ↔ file ∈ others) : Alike others disk memory := by
  obtain ⟨tree, texts, rfl, rfl, holds⟩ := alike
  refine ⟨tree, texts, rfl, rfl, { holds with beside := fun file there => ?_ }⟩
  obtain ⟨other, among, named, here⟩ := holds.beside file ((same file).2 there)
  exact ⟨other, (same other).1 among, named, here⟩

end Alike

end Cache

/-- What is not in use is removed in the same way from caches that are alike. -/
theorem Fetch.alike_purge {disk memory : Cache} {foreign : List ForeignFile}
    (alike : Cache.Alike foreign disk memory) (used : List String) :
    Cache.Alike foreign (purge used disk) (purge used memory) := by
  rw [purge, purge, ← alike.keys]
  cases listed : disk.keys with
  | error e => exact alike
  | ok keys => exact alike.deleteAll fun key there =>
      alike.isFileKey listed key (List.mem_filter.1 there).1

end ConferenceSync
