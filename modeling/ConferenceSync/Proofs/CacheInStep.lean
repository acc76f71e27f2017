import ConferenceSync.Proofs.CacheOrigin
import ConferenceSync.Proofs.Transcript

/-!
# The cache in step with the manifest

What a cycle of the download does to a cache in memory. The files of a manifest are gathered one
after another: a file whose key is held is taken from the cache, any other is asked for and kept,
until one is not delivered. As a key that is held is not asked for, nothing that is held is ever
overwritten. If all files have been gathered, what the manifest does not name is removed.

## Main definitions

* `Ask.Delivers` — that the answer to a request is a text
* `Fetch.Gathered` — how files are gathered, as a relation between what is held before, the
  requests, the files and what is held after
* `Fetch.Stopped` — how the gathering ends at a file that is not delivered

## Main results

* `Fetch.run_fetchFiles_cases`, `Fetch.run_fetchIfNewer_cases` — what a cycle can do
* `Fetch.Gathered.get?_of_mem`, `Fetch.Gathered.origin`, `Fetch.Gathered.fromCache_iff` — the files
  and the texts that have been gathered
* `Fetch.cache_in_step_with_manifest` — the cache after a cycle, however it ends
-/

namespace ConferenceSync

variable {σ : Type}

/-- Whether a request has been answered with a text: with the status of success and a body that
stands for the text, which is not blank. -/
def Ask.Delivers (ask : Ask) (text : String) : Prop :=
  ∃ response, ask.answer = .ok response ∧ response.status = 200 ∧
    Fetch.decodeBody response.body = .ok text ∧ Text.isBlankText text = false

/-- Whether a request for the manifest has been answered with one of the expected format. -/
def Ask.GivesManifest (ask : Ask) (settings : Fetch.Settings) (response : Response)
    (manifest : Manifest) : Prop :=
  ask.answer = .ok response ∧ response.status = 200 ∧
    Fetch.manifestOf settings.expectedFormat settings.effectiveUrl response = .ok manifest

namespace Fetch

/-- The text of a file is that of a body with the status of success, unless it is blank. -/
theorem fileOf_eq_ok_iff {url text : String} {response : Response} :
    fileOf url response = .ok text ↔
      response.status = 200 ∧ decodeBody response.body = .ok text ∧
        Text.isBlankText text = false := by
  unfold fileOf
  by_cases success : response.status = 200
  · rw [if_neg (Decidable.not_not.2 success)]
    cases decodeBody response.body with
    | error fault => simp
    | ok body =>
      dsimp only
      by_cases blank : Text.isBlankText body = true
      · rw [if_pos blank]
        constructor
        · rintro ⟨⟩
        · rintro ⟨-, ⟨⟩, fine⟩
          exact absurd (blank.symm.trans fine) (by simp)
      · rw [if_neg blank]
        constructor
        · rintro ⟨⟩
          exact ⟨success, rfl, eq_false_of_ne_true blank⟩
        · rintro ⟨-, ⟨⟩, -⟩
          rfl
  · simp [success]

/-- A request for a file delivers its text. -/
theorem delivers_iff {url text : String} {since? : Option String}
    {answer : Except SyncError Response} :
    Ask.Delivers ⟨url, since?, answer⟩ text ↔
      ∃ response, answer = .ok response ∧ fileOf url response = .ok text := by
  simp only [Ask.Delivers, fileOf_eq_ok_iff]

/-! ## Gathering files -/

/-- How files are gathered from the texts that are held and by requests, and what is held after
that. -/
inductive Gathered : Dict String → List String → List Ask → List DataFile → Dict String → Prop where
  | nil {texts : Dict String} : Gathered texts [] [] [] texts
  | held {texts after : Dict String} {url body : String} {urls : List String} {asks : List Ask}
      {files : List DataFile} (there : texts.get? (Digest.urlKey url) = some body)
      (others : Gathered texts urls asks files after) :
      Gathered texts (url :: urls) asks (⟨url, body, true⟩ :: files) after
  | sent {texts after : Dict String} {url body : String} {urls : List String} {asks : List Ask}
      {files : List DataFile} {answer : Except SyncError Response}
      (absent : texts.get? (Digest.urlKey url) = none)
      (delivered : Ask.Delivers ⟨url, none, answer⟩ body)
      (others : Gathered (texts.insert (Digest.urlKey url) body) urls asks files after) :
      Gathered texts (url :: urls) (⟨url, none, answer⟩ :: asks) (⟨url, body, false⟩ :: files) after

/-- How the gathering of files stops: some of them are gathered, and the next one is neither held
nor delivered. -/
def Stopped (texts : Dict String) (urls : List String) (asks : List Ask) (after : Dict String) :
    Prop :=
  ∃ done url rest served files answer, urls = done ++ url :: rest ∧
    Gathered texts done served files after ∧ after.get? (Digest.urlKey url) = none ∧
    (∀ text, ¬Ask.Delivers ⟨url, none, answer⟩ text) ∧ asks = served ++ [⟨url, none, answer⟩]

section Gathered

variable {texts after : Dict String} {urls : List String} {asks : List Ask}
  {files : List DataFile} {key text : String} {file : DataFile}

/-- There is one file for each URL, in their order. -/
theorem Gathered.map_url (gathered : Gathered texts urls asks files after) :
    files.map DataFile.url = urls := by
  induction gathered with
  | nil => rfl
  | held there others ih => rw [List.map_cons, ih]
  | sent absent delivered others ih => rw [List.map_cons, ih]

/-- There is one request for each file that is not held, in their order and without a date. -/
theorem Gathered.map_asks (gathered : Gathered texts urls asks files after) :
    asks.map (fun ask => (ask.url, ask.since?)) =
      (files.filter fun file => !file.fromCache).map fun file => (file.url, none) := by
  induction gathered with
  | nil => rfl
  | held there others ih => exact ih
  | sent absent delivered others ih =>
    rw [List.map_cons, ih]
    rfl

theorem Gathered.url_mem (gathered : Gathered texts urls asks files after) {ask : Ask}
    (asked : ask ∈ asks) : ask.url ∈ urls := by
  have listed := List.mem_map_of_mem (f := fun ask : Ask => (ask.url, ask.since?)) asked
  rw [gathered.map_asks] at listed
  obtain ⟨file, there, same⟩ := List.mem_map.1 listed
  obtain ⟨url, -⟩ := Prod.mk.inj same
  rw [← gathered.map_url, ← url]
  exact List.mem_map_of_mem (List.mem_filter.1 there).1

/-- What is held stays as it is. -/
theorem Gathered.get?_mono (gathered : Gathered texts urls asks files after)
    (there : texts.get? key = some text) : after.get? key = some text := by
  induction gathered with
  | nil => exact there
  | held _ others ih => exact ih there
  | sent absent delivered others ih =>
    refine ih ?_
    rw [Dict.get?_insert, if_neg, there]
    rintro rfl
    rw [absent] at there
    cases there

/-- Each file has the text that is held under its key in the end. -/
theorem Gathered.get?_of_mem (gathered : Gathered texts urls asks files after)
    (listed : file ∈ files) : after.get? (Digest.urlKey file.url) = some file.body := by
  induction gathered with
  | nil => cases listed
  | held there others ih =>
    rcases List.mem_cons.1 listed with rfl | listed
    · exact others.get?_mono there
    · exact ih listed
  | sent absent delivered others ih =>
    rcases List.mem_cons.1 listed with rfl | listed
    · exact others.get?_mono (by rw [Dict.get?_insert, if_pos rfl])
    · exact ih listed

/-- What is held in the end was held before or has been delivered. -/
theorem Gathered.origin (gathered : Gathered texts urls asks files after)
    (there : after.get? key = some text) :
    texts.get? key = some text ∨
      ∃ ask ∈ asks, Digest.urlKey ask.url = key ∧ ask.Delivers text := by
  induction gathered with
  | nil => exact .inl there
  | held _ others ih => exact ih there
  | sent absent delivered others ih =>
    rcases ih there with before | ⟨ask, listed, sent⟩
    · rw [Dict.get?_insert] at before
      split at before
      · next same =>
        obtain rfl := Option.some.inj before
        exact .inr ⟨_, List.mem_cons_self, same, delivered⟩
      · exact .inl before
    · exact .inr ⟨ask, List.mem_cons_of_mem _ listed, sent⟩

/-- A file counts as held if its key was held before or is that of an earlier file. -/
theorem Gathered.fromCache_iff (gathered : Gathered texts urls asks files after)
    {earlier later : List DataFile} (split : files = earlier ++ file :: later) :
    file.fromCache = true ↔
      texts.contains (Digest.urlKey file.url) = true ∨
        ∃ other ∈ earlier, Digest.urlKey other.url = Digest.urlKey file.url := by
  induction gathered generalizing earlier with
  | nil => simp at split
  | held there others ih =>
    cases earlier with
    | nil =>
      obtain ⟨rfl, -⟩ := List.cons.inj split
      simp [Dict.contains, there]
    | cons first earlier =>
      obtain ⟨rfl, tail⟩ := List.cons.inj split
      rw [ih tail]
      constructor
      · rintro (held | ⟨other, listed, same⟩)
        · exact .inl held
        · exact .inr ⟨other, List.mem_cons_of_mem _ listed, same⟩
      · rintro (held | ⟨other, listed, same⟩)
        · exact .inl held
        · rcases List.mem_cons.1 listed with rfl | listed
          · refine .inl ?_
            rw [← same, Dict.contains_iff]
            exact ⟨_, there⟩
          · exact .inr ⟨other, listed, same⟩
  | sent absent delivered others ih =>
    cases earlier with
    | nil =>
      obtain ⟨rfl, -⟩ := List.cons.inj split
      simp [Dict.contains, absent]
    | cons first earlier =>
      obtain ⟨rfl, tail⟩ := List.cons.inj split
      rw [ih tail, Dict.contains, Dict.get?_insert]
      simp only [List.mem_cons, exists_eq_or_imp]
      split
      · next same => simp [same]
      · next different => simp [different, Dict.contains]

theorem Stopped.get?_mono (stopped : Stopped texts urls asks after)
    (there : texts.get? key = some text) : after.get? key = some text := by
  obtain ⟨done, url, rest, served, files, answer, -, gathered, -⟩ := stopped
  exact gathered.get?_mono there

/-- What is held when the gathering has stopped was held before or has been delivered. -/
theorem Stopped.origin (stopped : Stopped texts urls asks after)
    (there : after.get? key = some text) :
    texts.get? key = some text ∨
      ∃ ask ∈ asks, Digest.urlKey ask.url = key ∧ ask.Delivers text ∧ ask.url ∈ urls := by
  obtain ⟨done, url, rest, served, files, answer, rfl, gathered, -, -, rfl⟩ := stopped
  refine (gathered.origin there).imp_right ?_
  rintro ⟨ask, asked, same, delivered⟩
  exact ⟨ask, List.mem_append_left _ asked, same, delivered,
    List.mem_append_left _ (gathered.url_mem asked)⟩

end Gathered

/-! ## What a cycle can do -/

section Run

variable {env : Environment σ} {w : World (σ × Transcript)} {texts : Dict String}

/-- A file is held, or it is delivered and kept, or it is neither and nothing is kept. -/
theorem run_fetchFile_cases (leaves : env.LeavesCache) (cache : w.device.cache = .ofTexts texts)
    (url : String) :
    let run := (fetchFile env.transcribed url).run.run w
    (∃ body, texts.get? (Digest.urlKey url) = some body ∧ run = (.ok ⟨url, body, true⟩, w)) ∨
      texts.get? (Digest.urlKey url) = none ∧ ∃ answer,
        run.2.asks = w.asks ++ [⟨url, none, answer⟩] ∧
        ((∃ body, Ask.Delivers ⟨url, none, answer⟩ body ∧ run.1 = .ok ⟨url, body, false⟩ ∧
            run.2.device.cache = .ofTexts (texts.insert (Digest.urlKey url) body)) ∨
          (∀ body, ¬Ask.Delivers ⟨url, none, answer⟩ body) ∧ (∃ e, run.1 = .error e) ∧
            run.2.device.cache = .ofTexts texts) := by
  have looked : w.device.cache.text? (Digest.urlKey url) = texts.get? (Digest.urlKey url) := by
    rw [cache]
    rfl
  have kept := (leaves url none w.forget).trans cache
  rw [run_fetchFile, looked, Environment.run_get_transcribed]
  cases texts.get? (Digest.urlKey url) with
  | some body => exact .inl ⟨body, rfl, rfl⟩
  | none =>
    refine .inr ⟨rfl, ?_⟩
    cases answered : (env.get url none).run.run w.forget with
    | mk answer after =>
      rw [answered] at kept
      refine ⟨answer, ?_, ?_⟩
      · cases answer with
        | error e => exact Transcript.asks_append _ _
        | ok response =>
          dsimp only
          cases fileOf url response with
          | error e => exact Transcript.asks_append _ _
          | ok body => exact Transcript.asks_append _ _
      · simp only [delivers_iff]
        cases answer with
        | error e => exact .inr ⟨by simp, ⟨e, rfl⟩, kept⟩
        | ok response =>
          dsimp only
          cases read : fileOf url response with
          | error e => exact .inr ⟨by simp [read], ⟨e, rfl⟩, kept⟩
          | ok body =>
            refine .inl ⟨body, ⟨response, rfl, read⟩, rfl, ?_⟩
            exact congrArg (fun c : Cache => (c.put (Digest.urlKey url) body).2) kept

/-- The files are gathered, or the gathering stops. -/
theorem run_fetchFiles_cases (leaves : env.LeavesCache) (cache : w.device.cache = .ofTexts texts)
    (urls : List String) :
    let run := (fetchFiles env.transcribed urls).run.run w
    ∃ asks after, run.2.asks = w.asks ++ asks ∧ run.2.device.cache = .ofTexts after ∧
      ((∃ files, run.1 = .ok files ∧ Gathered texts urls asks files after) ∨
        (∃ e, run.1 = .error e) ∧ Stopped texts urls asks after) := by
  induction urls generalizing w texts with
  | nil => exact ⟨[], texts, (List.append_nil _).symm, cache, .inl ⟨[], rfl, .nil⟩⟩
  | cons url rest ih =>
    have first := run_fetchFile_cases leaves cache url
    rw [run_fetchFiles_cons]
    dsimp only at first ⊢
    cases fetched : (fetchFile env.transcribed url).run.run w with
    | mk result next =>
      rw [fetched] at first
      rcases first with ⟨body, there, same⟩ |
        ⟨absent, answer, asked, ⟨body, delivered, given, kept⟩ | ⟨undelivered, ⟨e, failed⟩, kept⟩⟩
      · obtain ⟨rfl, rfl⟩ := Prod.mk.inj same
        obtain ⟨asks, after, noted, held, others⟩ := ih cache
        dsimp only
        cases read : (fetchFiles env.transcribed rest).run.run next with
        | mk result last =>
          rw [read] at noted held others
          rcases others with ⟨files, rfl, gathered⟩ | ⟨⟨e, rfl⟩, stopped⟩
          · exact ⟨asks, after, noted, held, .inl ⟨_, rfl, .held there gathered⟩⟩
          · obtain ⟨done, stop, later, served, files, answer, rfl, gathered, stops⟩ := stopped
            exact ⟨asks, after, noted, held, .inr ⟨⟨e, rfl⟩,
              url :: done, stop, later, served, _, answer, rfl, .held there gathered, stops⟩⟩
      · obtain rfl : result = _ := given
        obtain ⟨asks, after, noted, held, others⟩ := ih kept
        rw [asked, List.append_assoc] at noted
        dsimp only
        cases read : (fetchFiles env.transcribed rest).run.run next with
        | mk result last =>
          rw [read] at noted held others
          rcases others with ⟨files, rfl, gathered⟩ | ⟨⟨e, rfl⟩, stopped⟩
          · exact ⟨_, after, noted, held, .inl ⟨_, rfl, .sent absent delivered gathered⟩⟩
          · obtain ⟨done, stop, later, served, files, last, rfl, gathered, free, stops, rfl⟩ :=
              stopped
            exact ⟨_, after, noted, held, .inr ⟨⟨e, rfl⟩, url :: done, stop, later, _, _, last, rfl,
              .sent absent delivered gathered, free, stops, rfl⟩⟩
      · obtain rfl : result = _ := failed
        exact ⟨_, texts, asked, kept, .inr ⟨⟨e, rfl⟩,
          [], url, rest, [], [], answer, rfl, .nil, absent, undelivered, rfl⟩⟩

/-- What is in use stays, and all else goes. -/
theorem get?_purged (held : Dict String) (used : List String) (key : String) :
    (held.eraseAll (held.keys.filter fun key => !used.contains key)).get? key =
      if key ∈ used then held.get? key else none := by
  rw [Dict.get?_eraseAll]
  have gone_iff : key ∈ held.keys.filter (fun key => !used.contains key) ↔
      (∃ text, held.get? key = some text) ∧ key ∉ used := by
    simp [Dict.mem_keys]
  by_cases inUse : key ∈ used
  · rw [if_neg fun gone => (gone_iff.1 gone).2 inUse, if_pos inUse]
  · rw [if_neg inUse]
    split
    · rfl
    · next kept =>
      rw [Option.eq_none_iff_forall_ne_some]
      exact fun text there => kept (gone_iff.2 ⟨⟨text, there⟩, inUse⟩)

/-- A cycle ends with the manifest, or its files are gathered and what it does not name is removed,
or the gathering stops. -/
theorem run_fetchIfNewer_cases (leaves : env.LeavesCache)
    (cache : w.device.cache = .ofTexts texts) (settings : Settings) (reference? : Option String) :
    let run := (fetchIfNewer env.transcribed settings reference?).run.run w
    ∃ answer asks after,
      let ask : Ask := ⟨settings.effectiveUrl, reference?.bind Time.normalizeHttpDate?, answer⟩
      run.2.asks = w.asks ++ ask :: asks ∧ run.2.device.cache = .ofTexts after ∧
      ((∀ response manifest, ¬ask.GivesManifest settings response manifest) ∧
          (∀ fetched, run.1 ≠ .ok (some fetched)) ∧ asks = [] ∧ after = texts ∨
        ∃ response manifest, ask.GivesManifest settings response manifest ∧
          ((∃ files held, Gathered texts (fileUrls settings manifest) asks files held ∧
              run.1 = .ok (some ⟨files, response.lastModified?.bind Time.normalizeHttpDate?⟩) ∧
              ∀ key, after.get? key =
                if key ∈ (fileUrls settings manifest).map Digest.urlKey then held.get? key
                else none) ∨
            (∃ e, run.1 = .error e) ∧ Stopped texts (fileUrls settings manifest) asks after)) := by
  have kept := (leaves settings.effectiveUrl (reference?.bind Time.normalizeHttpDate?)
    w.forget).trans cache
  rw [run_fetchIfNewer, Environment.run_get_transcribed]
  cases answered : (env.get settings.effectiveUrl
      (reference?.bind Time.normalizeHttpDate?)).run.run w.forget with
  | mk answer after =>
    rw [answered] at kept
    refine ⟨answer, ?_⟩
    cases answer with
    | error e =>
      exact ⟨[], texts, Transcript.asks_append .., kept,
        .inl ⟨by simp [Ask.GivesManifest], by simp, rfl, rfl⟩⟩
    | ok response =>
      dsimp only
      by_cases unchanged : response.status = 304
      · rw [if_pos unchanged]
        refine ⟨[], texts, Transcript.asks_append .., kept, .inl ⟨?_, by simp, rfl, rfl⟩⟩
        rintro _ manifest ⟨⟨⟩, success, -⟩
        exact absurd (unchanged.symm.trans success) (by decide)
      · rw [if_neg unchanged]
        by_cases refused : response.status ≠ 200
        · rw [if_pos refused]
          refine ⟨[], texts, Transcript.asks_append .., kept, .inl ⟨?_, by simp, rfl, rfl⟩⟩
          rintro _ manifest ⟨⟨⟩, success, -⟩
          exact refused success
        · rw [if_neg refused]
          cases read : manifestOf settings.expectedFormat settings.effectiveUrl response with
          | error e =>
            refine ⟨[], texts, Transcript.asks_append .., kept, .inl ⟨?_, by simp, rfl, rfl⟩⟩
            rintro _ manifest ⟨⟨⟩, -, named⟩
            exact absurd (read.symm.trans named) (by simp)
          | ok manifest =>
            have gives : Ask.GivesManifest
                ⟨settings.effectiveUrl, reference?.bind Time.normalizeHttpDate?, .ok response⟩
                settings response manifest := ⟨rfl, Decidable.not_not.1 refused, read⟩
            have given := run_fetchFiles_cases (w := ⟨after.device, (after.outside, w.outside.2 ++
              [.asked ⟨settings.effectiveUrl, reference?.bind Time.normalizeHttpDate?,
                .ok response⟩])⟩) leaves kept (fileUrls settings manifest)
            dsimp only at given ⊢
            obtain ⟨asks, held, noted, cache, ends⟩ := given
            have noted := noted.trans (congrArg (· ++ asks) (Transcript.asks_append ..))
            rw [List.append_assoc] at noted
            cases ran : (fetchFiles env.transcribed (fileUrls settings manifest)).run.run
                ⟨after.device, (after.outside, w.outside.2 ++ [.asked ⟨settings.effectiveUrl,
                  reference?.bind Time.normalizeHttpDate?, .ok response⟩])⟩ with
            | mk result last =>
              rw [ran] at noted cache ends
              rcases ends with ⟨files, rfl, gathered⟩ | ⟨⟨e, rfl⟩, stopped⟩
              · refine ⟨asks, _, noted, (congrArg (purge _) cache).trans (purge_ofTexts ..),
                  .inr ⟨response, manifest, gives, .inl ⟨files, held, gathered, rfl, ?_⟩⟩⟩
                exact get?_purged held _
              · exact ⟨asks, held, noted, cache,
                  .inr ⟨response, manifest, gives, .inr ⟨⟨e, rfl⟩, stopped⟩⟩⟩

end Run

/-! ## The cache after a cycle -/

/-- What a cycle that succeeds has to do with its manifest: what was held before, the URLs of the
files, the requests for files, the files that are given, and what is held after. A file counts as
held if its key was held before or is that of an earlier file. -/
structure InStep (before : Dict String) (urls : List String) (asks : List Ask)
    (files : List DataFile) (after : Dict String) : Prop where
  inOrder : files.map DataFile.url = urls
  held : ∀ file ∈ files, after.get? (Digest.urlKey file.url) = some file.body
  keys : ∀ key, key ∈ after.keys ↔ key ∈ urls.map Digest.urlKey
  fromCache : ∀ earlier file later, files = earlier ++ file :: later →
    (file.fromCache = true ↔ Digest.urlKey file.url ∈ before.keys ∨
      ∃ other ∈ earlier, Digest.urlKey other.url = Digest.urlKey file.url)
  requests : asks.map (fun ask => (ask.url, ask.since?)) =
    (files.filter fun file => !file.fromCache).map fun file => (file.url, none)

/-- Files that have been gathered are in step with what is held once all else is removed. -/
theorem Gathered.inStep {texts held after : Dict String} {urls : List String} {asks : List Ask}
    {files : List DataFile} (gathered : Gathered texts urls asks files held)
    (purged : ∀ key,
      after.get? key = if key ∈ urls.map Digest.urlKey then held.get? key else none) :
    InStep texts urls asks files after where
  inOrder := gathered.map_url
  held file listed := by
    have used : Digest.urlKey file.url ∈ urls.map Digest.urlKey := by
      rw [← gathered.map_url]
      exact List.mem_map_of_mem (List.mem_map_of_mem listed)
    rw [purged, if_pos used, gathered.get?_of_mem listed]
  keys key := by
    rw [Dict.mem_keys, purged]
    constructor
    · rintro ⟨text, there⟩
      split at there
      · next used => exact used
      · cases there
    · intro used
      obtain ⟨url, listed, rfl⟩ := List.mem_map.1 used
      rw [← gathered.map_url] at listed
      obtain ⟨file, given, rfl⟩ := List.mem_map.1 listed
      exact ⟨file.body, by rw [if_pos used, gathered.get?_of_mem given]⟩
  fromCache earlier file later split := by
    rw [gathered.fromCache_iff split, Dict.contains_iff, Dict.mem_keys]
  requests := gathered.map_asks

/-- A cycle that succeeds leaves the cache in step with its manifest. Any other cycle leaves alone
what is held, and adds at most the texts of files of its manifest that have been delivered. -/
theorem cache_in_step_with_manifest (env : Environment σ) (leaves : env.LeavesCache)
    (settings : Settings) (reference? : Option String) (device : Device) (outside : σ)
    (texts : Dict String) (memory : device.cache = .ofTexts texts) :
    let run := (fetchIfNewer env.transcribed settings reference?).run.run ⟨device, (outside, [])⟩
    ∃ answer asks after,
      let ask : Ask := ⟨settings.effectiveUrl, reference?.bind Time.normalizeHttpDate?, answer⟩
      run.2.asks = ask :: asks ∧ run.2.device.cache = .ofTexts after ∧
      (∀ fetched, run.1 = .ok (some fetched) →
        ∃ response manifest, ask.GivesManifest settings response manifest ∧
          InStep texts (fileUrls settings manifest) asks fetched.files after) ∧
      ((∀ fetched, run.1 ≠ .ok (some fetched)) →
        (∀ key text, texts.get? key = some text → after.get? key = some text) ∧
        ∀ key text, after.get? key = some text →
          texts.get? key = some text ∨
            ∃ response manifest sent, ask.GivesManifest settings response manifest ∧
              sent ∈ asks ∧ sent.url ∈ fileUrls settings manifest ∧
              Digest.urlKey sent.url = key ∧ sent.Delivers text) := by
  intro run
  obtain ⟨answer, asks, after, noted, cache, ends⟩ := run_fetchIfNewer_cases
    (w := (⟨device, (outside, [])⟩ : World (σ × Transcript))) leaves memory settings reference?
  refine ⟨answer, asks, after, noted, cache, ?_⟩
  rcases ends with ⟨-, unfinished, rfl, rfl⟩ |
    ⟨response, manifest, gives, ⟨files, held, gathered, given, purged⟩ | ⟨⟨e, failed⟩, stopped⟩⟩
  · exact ⟨fun fetched given => absurd given (unfinished fetched),
      fun _ => ⟨fun _ _ there => there, fun _ _ there => .inl there⟩⟩
  · refine ⟨fun fetched same => ?_, fun unfinished => absurd given (unfinished _)⟩
    obtain rfl := Option.some.inj (Except.ok.inj (given.symm.trans same))
    exact ⟨response, manifest, gives, gathered.inStep purged⟩
  · refine ⟨fun fetched given => absurd (failed.symm.trans given) (by simp), fun _ =>
      ⟨fun key text => stopped.get?_mono, fun key text there => ?_⟩⟩
    refine (stopped.origin there).imp_right ?_
    rintro ⟨sent, asked, same, delivered, listed⟩
    exact ⟨response, manifest, sent, gives, asked, listed, same, delivered⟩

/-- A text that the manifest does not name is removed, and of two files with one key only the first
is asked for. -/
theorem cache_in_step_with_manifest_old_text :
    let texts : Dict String := Dict.empty.insert "old.json" "\x7b\x7d"
    let run := (fetchIfNewer (serving alikePages).transcribed
      (.standard "https://conf.example/manifest.json") none).run.run
      ⟨.start .initial (.ofTexts texts), ((), [])⟩
    ∃ after, run.2.device.cache = .ofTexts after ∧ "old.json" ∉ after.keys ∧
      after.get? (Digest.urlKey secondFile.url) = some secondFile.body := by
  intro texts run
  obtain ⟨answer, asks, after, -, cache, inStep, -⟩ := cache_in_step_with_manifest
    (serving alikePages) (leavesCache_serving alikePages)
    (.standard "https://conf.example/manifest.json") none (.start .initial (.ofTexts texts)) ()
    texts rfl
  have given : secondFile ∈ filesGiven run.1 := by decide +kernel
  have named : "old.json" ∉ (filesGiven run.1).map fun file => Digest.urlKey file.url := by
    decide +kernel
  cases result : run.1 with
  | error e => simp [result, filesGiven] at given
  | ok fetched? =>
    cases fetched? with
    | none => simp [result, filesGiven] at given
    | some fetched =>
      rw [result] at given named
      obtain ⟨response, manifest, -, step⟩ := inStep fetched result
      refine ⟨after, cache, fun there => named ?_, step.held secondFile given⟩
      rw [step.keys, ← step.inOrder, List.map_map] at there
      exact there

end Fetch

end ConferenceSync
