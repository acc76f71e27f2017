import ConferenceSync.Proofs.Chronicle
import ConferenceSync.Proofs.Dict
import ConferenceSync.Proofs.FetchRun
import ConferenceSync.Proofs.Rendering

/-!
# Where the texts of files come from

A file that a cycle gives has a text that the server has sent, now or in an earlier cycle. If it
was asked for, it was sent for the URL of the file. If it was in the cache, it was sent for a URL
with the same key, and keys do not tell all URLs apart: they are made of a hash and a length.

## Main definitions

* `Digest.SameKey` — that two URLs have the same hash and the same length
* `Environment.LeavesCache` — that asking the server leaves the cache alone
* `Fetch.StemsFrom` — that a text was sent for a URL
* `Fetch.Traced` — that every text in a cache in memory was sent for a URL with its key
* `Fetch.afterCycles` — the world after cycles, one after another

## Main results

* `Digest.urlKey_eq_iff` — when two URLs have the same key
* `Fetch.traced_fetchFile`, `Fetch.traced_fetchIfNewer` — a cache stays one whose texts were sent
* `Fetch.files_stem_from_alike_urls` — where the texts of files come from
* `Fetch.not_all_files_stem_from_their_urls` — they need not come from the URLs of the files
-/

namespace ConferenceSync

/-! ## Keys -/

namespace Text

theorem hexWord_injective : Function.Injective hexWord := by
  intro a b same
  have digits := String.ofList_injective same
  have nibble : ∀ k ∈ [28, 24, 20, 16, 12, 8, 4, 0],
      a.toNat / 2 ^ k % 16 = b.toNat / 2 ^ k % 16 := by
    intro k listed
    have values := congrArg hexValue? (List.map_inj_left.1 digits k listed)
    rw [hexValue?_hexDigit (Nat.mod_lt _ (by decide)),
      hexValue?_hexDigit (Nat.mod_lt _ (by decide)), Nat.shiftRight_eq_div_pow,
      Nat.shiftRight_eq_div_pow] at values
    exact Option.some.inj values
  -- The digits below one digit are settled by those above it and that digit.
  have below {k : Nat} (above : a.toNat / 2 ^ (k + 4) = b.toNat / 2 ^ (k + 4))
      (listed : k ∈ [28, 24, 20, 16, 12, 8, 4, 0]) : a.toNat / 2 ^ k = b.toNat / 2 ^ k := by
    have digit := nibble k listed
    rw [Nat.pow_add, ← Nat.div_div_eq_div_mul, ← Nat.div_div_eq_div_mul] at above
    omega
  have top : a.toNat / 2 ^ (28 + 4) = b.toNat / 2 ^ (28 + 4) := by
    rw [Nat.div_eq_of_lt a.toNat_lt, Nat.div_eq_of_lt b.toNat_lt]
  have high : a.toNat / 2 ^ 16 = b.toNat / 2 ^ 16 :=
    below (below (below (below top (by decide)) (by decide)) (by decide)) (by decide)
  have low : a.toNat / 2 ^ 0 = b.toNat / 2 ^ 0 :=
    below (below (below (below high (by decide)) (by decide)) (by decide)) (by decide)
  exact UInt32.toNat_inj.1 (by simpa using low)

theorem length_hexWord (w : UInt32) : (hexWord w).toList.length = 8 := by
  rw [hexWord, String.toList_ofList, List.length_map]
  rfl

end Text

namespace Digest

/-- Whether two URLs have the same hash and the same length but for blanks around them. -/
def SameKey (a b : String) : Prop :=
  unitsHash (Text.units16 (Text.trim a)) = unitsHash (Text.units16 (Text.trim b)) ∧
    UInt32.ofNat (Text.trim a).utf8ByteSize = UInt32.ofNat (Text.trim b).utf8ByteSize

/-- The key of a URL is its hash and its length. -/
theorem urlKey_eq_iff {a b : String} : urlKey a = urlKey b ↔ SameKey a b := by
  constructor
  · intro same
    have lists := congrArg String.toList same
    simp only [urlKey, weakHash, String.toList_append] at lists
    have words := List.append_cancel_right lists
    obtain ⟨hash, length⟩ := List.append_inj words
      ((Text.length_hexWord _).trans (Text.length_hexWord _).symm)
    exact ⟨Text.hexWord_injective (String.toList_inj.1 hash),
      Text.hexWord_injective (String.toList_inj.1 length)⟩
  · rintro ⟨hash, length⟩
    rw [urlKey, urlKey, weakHash, weakHash, hash, length]

end Digest

/-! ## Tracing the texts of a cache -/

variable {σ : Type}

/-- Whether asking the server leaves the cache of the device alone. -/
def Environment.LeavesCache (env : Environment σ) : Prop :=
  ∀ url since? w, ((env.get url since?).run.run w).2.device.cache = w.device.cache

namespace Fetch

/-- Whether a text was sent for a URL, with the status of success. -/
def StemsFrom (log : List (String × Response)) (url text : String) : Prop :=
  ∃ response, (url, response) ∈ log ∧ response.status = 200 ∧ decodeBody response.body = .ok text

/-- Whether the cache is one in memory that denies nothing, and each of its texts was sent for a URL
with its key. -/
def Traced (w : World (σ × List (String × Response))) : Prop :=
  ∃ texts, w.device.cache = .ofTexts texts ∧
    ∀ key text, texts.get? key = some text →
      ∃ url, Digest.urlKey url = key ∧ StemsFrom w.outside.2 url text

/-- Whether the text of a file was sent for its URL or, if the file was in the cache, for a URL with
the same key. -/
def FileTraced (log : List (String × Response)) (file : DataFile) : Prop :=
  ∃ url, StemsFrom log url file.body ∧
    (url = file.url ∨ file.fromCache = true ∧ Digest.SameKey url file.url)

section Trace

variable {env : Environment σ} {w after : World (σ × List (String × Response))}
  {log more : List (String × Response)} {url text : String}

theorem StemsFrom.mono (stems : StemsFrom log url text) (grown : log ⊆ more) :
    StemsFrom more url text := by
  obtain ⟨response, recorded, success, decoded⟩ := stems
  exact ⟨response, grown recorded, success, decoded⟩

theorem FileTraced.mono {file : DataFile} (traced : FileTraced log file) (grown : log ⊆ more) :
    FileTraced more file := by
  obtain ⟨url, stems, alike⟩ := traced
  exact ⟨url, stems.mono grown, alike⟩

/-- A file has a text that was sent with the status of success. -/
theorem stemsFrom_of_fileOf {response : Response} (recorded : (url, response) ∈ log)
    (read : fileOf url response = .ok text) : StemsFrom log url text := by
  unfold fileOf at read
  split at read
  · exact absurd read (by simp)
  · next success =>
    refine ⟨response, recorded, Decidable.not_not.1 success, ?_⟩
    cases decoded : decodeBody response.body with
    | error fault => simp [decoded] at read
    | ok body =>
      rw [decoded] at read
      dsimp only at read
      split at read
      · exact absurd read (by simp)
      · exact congrArg Except.ok (Except.ok.inj read)

/-- Asking the server adds to the record and leaves the cache alone. -/
theorem traced_get (leaves : env.LeavesCache) (traced : Traced w) (url : String)
    (since? : Option String) :
    let run := (env.recordingResponses.get url since?).run.run w
    Traced run.2 ∧ w.outside.2 ⊆ run.2.outside.2 ∧
      ∀ response, run.1 = .ok response → (url, response) ∈ run.2.outside.2 := by
  obtain ⟨texts, cache, sent⟩ := traced
  have kept := leaves url since? ⟨w.device, w.outside.1⟩
  rw [Environment.run_get_recordingResponses]
  cases asked : (env.get url since?).run.run ⟨w.device, w.outside.1⟩ with
  | mk answer after =>
    rw [asked] at kept
    refine ⟨⟨texts, kept.trans cache, fun key text there => ?_⟩, List.subset_append_left .., ?_⟩
    · obtain ⟨url, same, stems⟩ := sent key text there
      exact ⟨url, same, stems.mono (List.subset_append_left ..)⟩
    · rintro response rfl
      exact List.mem_append_right _ List.mem_cons_self

/-- A text that was sent for a URL may be kept under its key. -/
theorem Traced.put (traced : Traced w) (stems : StemsFrom w.outside.2 url text) :
    Traced (w.mapCache fun c => (c.put (Digest.urlKey url) text).2) := by
  obtain ⟨texts, cache, sent⟩ := traced
  refine ⟨texts.insert (Digest.urlKey url) text, ?_, fun key other there => ?_⟩
  · rw [World.mapCache, cache]
    rfl
  · rw [Dict.get?_insert] at there
    by_cases here : Digest.urlKey url = key
    · rw [if_pos here] at there
      obtain rfl := Option.some.inj there
      exact ⟨url, here, stems⟩
    · rw [if_neg here] at there
      exact sent key other there

theorem purge_ofTexts (used : List String) (texts : Dict String) :
    purge used (.ofTexts texts) =
      .ofTexts (texts.eraseAll (texts.keys.filter fun key => !used.contains key)) := by
  have each (keys : List String) (texts : Dict String) :
      keys.foldl (fun cache key => (cache.delete key).2) (.ofTexts texts) =
        Cache.ofTexts (texts.eraseAll keys) := by
    induction keys generalizing texts with
    | nil => rfl
    | cons key rest ih => exact ih (texts.erase key)
  exact each _ texts

/-- What is removed from the cache need not be traced any more. -/
theorem Traced.purge (traced : Traced w) (used : List String) :
    Traced (w.mapCache (Fetch.purge used)) := by
  obtain ⟨texts, cache, sent⟩ := traced
  refine ⟨_, (congrArg (Fetch.purge used) cache).trans (purge_ofTexts used texts), ?_⟩
  intro key text there
  rw [Dict.get?_eraseAll] at there
  split at there
  · simp at there
  · exact sent key text there

/-! ## What a cycle preserves -/

/-- A file is traced, whether it was in the cache or not, and the cache stays traced. -/
theorem traced_fetchFile (leaves : env.LeavesCache) (traced : Traced w) (url : String) :
    let run := (fetchFile env.recordingResponses url).run.run w
    Traced run.2 ∧ w.outside.2 ⊆ run.2.outside.2 ∧
      ∀ file, run.1 = .ok file → FileTraced run.2.outside.2 file := by
  rw [run_fetchFile]
  cases held : w.device.cache.text? (Digest.urlKey url) with
  | some body =>
    refine ⟨traced, List.Subset.refl _, ?_⟩
    rintro _ ⟨⟩
    obtain ⟨texts, cache, sent⟩ := traced
    rw [cache] at held
    obtain ⟨other, same, stems⟩ := sent _ body held
    exact ⟨other, stems, .inr ⟨rfl, Digest.urlKey_eq_iff.1 same⟩⟩
  | none =>
    have asked := traced_get leaves traced url none
    dsimp only at asked ⊢
    cases answered : (env.recordingResponses.get url none).run.run w with
    | mk answer after =>
      rw [answered] at asked
      obtain ⟨stays, grown, recorded⟩ := asked
      cases answer with
      | error e => exact ⟨stays, grown, by simp⟩
      | ok response =>
        dsimp only
        cases read : fileOf url response with
        | error e => exact ⟨stays, grown, by simp⟩
        | ok body =>
          have stems := stemsFrom_of_fileOf (recorded response rfl) read
          refine ⟨stays.put stems, grown, ?_⟩
          rintro _ ⟨⟩
          exact ⟨url, stems, .inl rfl⟩

/-- Files are traced one after another. -/
theorem traced_fetchFiles (leaves : env.LeavesCache) (traced : Traced w) (urls : List String) :
    let run := (fetchFiles env.recordingResponses urls).run.run w
    Traced run.2 ∧ w.outside.2 ⊆ run.2.outside.2 ∧
      ∀ files, run.1 = .ok files → ∀ file ∈ files, FileTraced run.2.outside.2 file := by
  induction urls generalizing w with
  | nil =>
    refine ⟨traced, List.Subset.refl _, ?_⟩
    rintro _ ⟨⟩
    simp
  | cons url rest ih =>
    have first := traced_fetchFile leaves traced url
    rw [run_fetchFiles_cons]
    dsimp only at first ⊢
    cases fetched : (fetchFile env.recordingResponses url).run.run w with
    | mk result after =>
      rw [fetched] at first
      obtain ⟨stays, grown, own⟩ := first
      cases result with
      | error e => exact ⟨stays, grown, by simp⟩
      | ok file =>
        have others := ih stays
        dsimp only at others ⊢
        cases read : (fetchFiles env.recordingResponses rest).run.run after with
        | mk result last =>
          rw [read] at others
          obtain ⟨staysLast, grownLast, rest⟩ := others
          have grownAll := List.Subset.trans grown grownLast
          cases result with
          | error e => exact ⟨staysLast, grownAll, by simp⟩
          | ok files =>
            refine ⟨staysLast, grownAll, ?_⟩
            rintro _ ⟨⟩
            rw [List.forall_mem_cons]
            exact ⟨(own file rfl).mono grownLast, rest files rfl⟩

/-- The files that a cycle gives, none if it fails or if nothing is newer. -/
def filesGiven : Except SyncError (Option Fetched) → List DataFile
  | .ok (some fetched) => fetched.files
  | _ => []

/-- The files that a cycle gives are traced, and the cache stays traced however the cycle ends. -/
theorem traced_fetchIfNewer (leaves : env.LeavesCache) (traced : Traced w) (settings : Settings)
    (reference? : Option String) :
    let run := (fetchIfNewer env.recordingResponses settings reference?).run.run w
    Traced run.2 ∧ w.outside.2 ⊆ run.2.outside.2 ∧
      ∀ file ∈ filesGiven run.1, FileTraced run.2.outside.2 file := by
  have asked := traced_get leaves traced settings.effectiveUrl
    (reference?.bind Time.normalizeHttpDate?)
  rw [run_fetchIfNewer]
  dsimp only at asked ⊢
  cases answered : (env.recordingResponses.get settings.effectiveUrl
      (reference?.bind Time.normalizeHttpDate?)).run.run w with
  | mk answer after =>
    rw [answered] at asked
    obtain ⟨stays, grown, -⟩ := asked
    cases answer with
    | error e => exact ⟨stays, grown, by simp [filesGiven]⟩
    | ok response =>
      dsimp only
      split
      · exact ⟨stays, grown, by simp [filesGiven]⟩
      · split
        · exact ⟨stays, grown, by simp [filesGiven]⟩
        · cases manifestOf settings.expectedFormat settings.effectiveUrl response with
          | error e => exact ⟨stays, grown, by simp [filesGiven]⟩
          | ok manifest =>
            have files := traced_fetchFiles leaves stays (fileUrls settings manifest)
            dsimp only at files ⊢
            cases read : (fetchFiles env.recordingResponses
                (fileUrls settings manifest)).run.run after with
            | mk result last =>
              rw [read] at files
              obtain ⟨staysLast, grownLast, own⟩ := files
              have grownAll := List.Subset.trans grown grownLast
              cases result with
              | error e => exact ⟨staysLast, grownAll, by simp [filesGiven]⟩
              | ok files => exact ⟨staysLast.purge _, grownAll, own files rfl⟩

end Trace

/-! ## Cycles, one after another -/

/-- The world after cycles, each with its settings and its reference date, however they end. -/
def afterCycles (env : Environment σ) (cycles : List (Settings × Option String)) (w : World σ) :
    World σ :=
  cycles.foldl (fun w cycle => ((fetchIfNewer env cycle.1 cycle.2).run.run w).2) w

theorem traced_afterCycles {env : Environment σ} (leaves : env.LeavesCache)
    {w : World (σ × List (String × Response))} (traced : Traced w)
    (cycles : List (Settings × Option String)) :
    Traced (afterCycles env.recordingResponses cycles w) := by
  induction cycles generalizing w with
  | nil => exact traced
  | cons cycle rest ih => exact ih (traced_fetchIfNewer leaves traced cycle.1 cycle.2).1

/-- Whatever cycles came before on a cache that was empty: each file that a cycle gives has a text
that the server has sent, in this cycle or an earlier one, for the URL of the file or, if the file
was in the cache, for a URL with the same hash and the same length. -/
theorem files_stem_from_alike_urls (env : Environment σ) (leaves : env.LeavesCache)
    (cycles : List (Settings × Option String)) (settings : Settings) (reference? : Option String)
    (device : Device) (outside : σ) (empty : device.cache = .inMemory) :
    let before := afterCycles env.recordingResponses cycles ⟨device, (outside, [])⟩
    let run := (fetchIfNewer env.recordingResponses settings reference?).run.run before
    ∀ file ∈ filesGiven run.1, ∃ url, StemsFrom run.2.outside.2 url file.body ∧
      (url = file.url ∨ file.fromCache = true ∧ Digest.SameKey url file.url) := by
  have start : Traced (⟨device, (outside, [])⟩ : World (σ × List (String × Response))) :=
    ⟨.empty, empty, by simp⟩
  have before := traced_afterCycles leaves start cycles
  exact (traced_fetchIfNewer leaves before settings reference?).2.2

/-! ## Two URLs with one key -/

/-- The response of a server with texts under URLs. -/
def pageOf (pages : List (String × String)) (url : String) : Response :=
  match pages.lookup url with
  | some text => ⟨200, Digest.octets text, none⟩
  | none => ⟨404, [], none⟩

/-- A server with texts under URLs, and nobody who observes. -/
def serving (pages : List (String × String)) : Environment Unit :=
  { Environment.silent with get := fun url _ => return pageOf pages url }

theorem leavesCache_serving (pages : List (String × String)) : (serving pages).LeavesCache :=
  fun _ _ _ => rfl

/-- A manifest that names two files, whose URLs have the same hash and the same length. -/
def alikePages : List (String × String) :=
  [("https://conf.example/manifest.json",
      "\x7b\"format\":\"iosched-json-v1\",\"data_files\":[\"Aa.json\",\"BB.json\"]\x7d"),
    ("https://conf.example/Aa.json", "\x7b\"rooms\":[]\x7d"),
    ("https://conf.example/BB.json", "\x7b\"tags\":[]\x7d")]

/-- What a cycle gives that asks for this manifest with an empty cache. -/
def alikeRun : Except SyncError (Option Fetched) × World (Unit × List (String × Response)) :=
  (fetchIfNewer (serving alikePages).recordingResponses
    (.standard "https://conf.example/manifest.json") none).run.run
    ⟨.start .initial .inMemory, ((), [])⟩

/-- The second file, with the text of the first. -/
def secondFile : DataFile := ⟨"https://conf.example/BB.json", "\x7b\"rooms\":[]\x7d", true⟩

/-- The cycle gives both files, but the server is never asked for the second. -/
theorem outcome_alikeRun :
    secondFile ∈ filesGiven alikeRun.1 ∧
      alikeRun.2.outside.2.map Prod.fst =
        ["https://conf.example/manifest.json", "https://conf.example/Aa.json"] := by
  decide +kernel

/-- That the text of a file in the cache was sent for the file's own URL is not so in general. -/
theorem not_all_files_stem_from_their_urls :
    ¬∀ env : Environment Unit, env.LeavesCache →
      ∀ (cycles : List (Settings × Option String)) (settings : Settings)
        (reference? : Option String) (device : Device), device.cache = .inMemory →
        let before := afterCycles env.recordingResponses cycles ⟨device, ((), [])⟩
        let run := (fetchIfNewer env.recordingResponses settings reference?).run.run before
        ∀ file ∈ filesGiven run.1, StemsFrom run.2.outside.2 file.url file.body := by
  intro all
  have own := all (serving alikePages) (leavesCache_serving alikePages) []
    (.standard "https://conf.example/manifest.json") none (.start .initial .inMemory) rfl
  obtain ⟨response, recorded, -⟩ := own secondFile outcome_alikeRun.1
  have asked : secondFile.url ∈ alikeRun.2.outside.2.map Prod.fst :=
    List.mem_map_of_mem recorded
  rw [outcome_alikeRun.2] at asked
  exact absurd asked (by decide)

/-- The text of the second file was sent for another URL with the same hash and the same length. -/
theorem files_stem_from_alike_urls_two_files :
    secondFile ∈ filesGiven alikeRun.1 ∧
      ∃ url, StemsFrom alikeRun.2.outside.2 url secondFile.body ∧
        (url = secondFile.url ∨
          secondFile.fromCache = true ∧ Digest.SameKey url secondFile.url) :=
  ⟨outcome_alikeRun.1,
    files_stem_from_alike_urls (serving alikePages) (leavesCache_serving alikePages) []
      (.standard "https://conf.example/manifest.json") none (.start .initial .inMemory) () rfl
      secondFile outcome_alikeRun.1⟩

end Fetch

end ConferenceSync
