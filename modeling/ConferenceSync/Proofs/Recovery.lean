import ConferenceSync.Proofs.CacheInStep
import ConferenceSync.Proofs.PassRun
import ConferenceSync.Proofs.Turns

/-!
# Recovery from earlier downloads

A pass that the server answers as it should can still fail: not every text that comes with the
status of success is that of a data file, and a text is put into the cache before it is read. As
long as a manifest names a file with such a text, the file is not asked for again, and passes fail.
There is no other way in which earlier passes could make a pass fail that nothing else hinders.

## Main definitions

* `IsDataFile` — that a text is that of a data file
* `Ask.DeliversDataFile` — that the answer to a request is such a text
* `Sync.AllDelivered` — that every text in a cache in memory has been delivered
* `Sync.Available` — that a pass is neither cancelled nor kept from the database

## Main results

* `Sync.dataOf_cases` — a data set can be read if every file is a data file
* `Sync.allDelivered_afterTurns` — no turn puts a text into the cache that has not been delivered
* `Sync.updated_iff_cached_are_data_files` — when a pass that is answered as it should be updates
  the data of the conference
* `Sync.not_updated_after_every_history` — there is a history after which it does not
-/

namespace ConferenceSync

variable {σ : Type}

/-! ## Data files -/

/-- Whether a text is that of a data file, a JSON object. -/
def IsDataFile (text : String) : Prop := ∃ members, Json.objectOfText text = .ok members

/-- A data file is not blank. -/
theorem IsDataFile.isBlankText_eq_false {text : String} (fine : IsDataFile text) :
    Text.isBlankText text = false := by
  obtain ⟨members, read⟩ := fine
  unfold Json.objectOfText at read
  split at read
  · next rest chars =>
    have listed : '\x7b' ∈ text.toList := by
      have there : '\x7b' ∈ Json.skipBlanks text.toList := by simp [chars]
      exact (List.dropWhile_sublist _).mem there
    rw [Text.isBlankText, ← Bool.not_eq_true, List.all_eq_true]
    exact fun blank => absurd (blank _ listed) (by decide)
  · cases read

/-- Whether a request has been answered with a data file and the status of success. -/
def Ask.DeliversDataFile (ask : Ask) : Prop :=
  ∃ response text, ask.answer = .ok response ∧ response.status = 200 ∧
    Fetch.decodeBody response.body = .ok text ∧ IsDataFile text

theorem Ask.DeliversDataFile.exists_delivers {ask : Ask} (fine : ask.DeliversDataFile) :
    ∃ text, ask.Delivers text ∧ IsDataFile text := by
  obtain ⟨response, text, answer, success, decoded, fine⟩ := fine
  exact ⟨text, ⟨response, answer, success, decoded, fine.isBlankText_eq_false⟩, fine⟩

/-- A request delivers one text only. -/
theorem Ask.Delivers.unique {ask : Ask} {a b : String} (first : ask.Delivers a)
    (second : ask.Delivers b) : a = b := by
  obtain ⟨response, answer, -, decoded, -⟩ := first
  obtain ⟨other, answer', -, decoded', -⟩ := second
  obtain rfl := Except.ok.inj (answer.symm.trans answer')
  exact Except.ok.inj (decoded.symm.trans decoded')

namespace Sync

/-- A data set can be read from files that are all data files; any other is the reason why it cannot
be. -/
theorem dataOf_cases (files : List Fetch.DataFile) :
    (∀ file ∈ files, IsDataFile file.body) ∧
        dataOf files = .ok (DataSet.empty.addEach (files.map fun file => (file.url, file.body))).1 ∨
      ∃ file ∈ files, ∃ fault, Json.objectOfText file.body = .error fault ∧
        dataOf files = .error (.unreadable ("data file " ++ file.url) fault) := by
  rw [dataOf]
  generalize DataSet.empty = data
  induction files generalizing data with
  | nil => exact .inl ⟨by simp, rfl⟩
  | cons file rest ih =>
    rw [List.map_cons, DataSet.addAll, DataSet.addEach, DataSet.add]
    cases read : Json.objectOfText file.body with
    | error fault => exact .inr ⟨file, List.mem_cons_self, fault, read, rfl⟩
    | ok members =>
      rcases ih (data.addMembers members) with ⟨fine, same⟩ | ⟨other, listed, fault, bad, failed⟩
      · exact .inl ⟨List.forall_mem_cons.2 ⟨⟨members, read⟩, fine⟩, same⟩
      · exact .inr ⟨other, List.mem_cons_of_mem file listed, fault, bad, failed⟩

/-! ## What earlier passes leave in the cache -/

/-- Whether the cache is one in memory, and each of its texts has been delivered for a URL with its
key. -/
def AllDelivered (cache : Cache) (asks : List Ask) : Prop :=
  ∃ texts, cache = .ofTexts texts ∧
    ∀ key text, texts.get? key = some text →
      ∃ ask ∈ asks, Digest.urlKey ask.url = key ∧ ask.Delivers text

/-- A cycle of the download puts only texts into the cache that it has been delivered. -/
theorem allDelivered_fetchIfNewer {env : Environment σ} (leaves : env.LeavesCache)
    (settings : Fetch.Settings) (reference? : Option String) :
    (Fetch.fetchIfNewer env.transcribed settings reference?).run.Preserves
      fun w => AllDelivered w.device.cache w.asks := by
  rintro w ⟨texts, memory, delivered⟩
  obtain ⟨answer, asks, after, noted, cache, ends⟩ :=
    Fetch.run_fetchIfNewer_cases leaves memory settings reference?
  refine ⟨after, cache, fun key text there => ?_⟩
  have before (held : texts.get? key = some text) :
      ∃ ask ∈ ((Fetch.fetchIfNewer env.transcribed settings reference?).run.run w).2.asks,
        Digest.urlKey ask.url = key ∧ ask.Delivers text := by
    obtain ⟨ask, listed, served⟩ := delivered key text held
    exact ⟨ask, noted ▸ List.mem_append_left _ listed, served⟩
  have now {ask : Ask} (sent : ask ∈ asks) :
      ask ∈ ((Fetch.fetchIfNewer env.transcribed settings reference?).run.run w).2.asks :=
    noted ▸ List.mem_append_right _ (List.mem_cons_of_mem _ sent)
  rcases ends with ⟨-, -, -, rfl⟩ |
    ⟨response, manifest, -, ⟨files, held, gathered, -, purged⟩ | ⟨-, stopped⟩⟩
  · exact before there
  · rw [purged] at there
    split at there
    · rcases gathered.origin there with old | ⟨ask, sent, served⟩
      · exact before old
      · exact ⟨ask, now sent, served⟩
    · cases there
  · rcases stopped.origin there with old | ⟨ask, sent, same, served, -⟩
    · exact before old
    · exact ⟨ask, now sent, same, served⟩

theorem leavesCache_of_keeps {env : Environment σ} (keeps : env.Keeps Device.cache) :
    env.LeavesCache :=
  fun url since? w => (keeps w.device.cache).get url since? w rfl

/-- No turn puts a text into the cache that has not been delivered. -/
theorem allDelivered_afterTurns {env : Environment σ} (keeps : env.Keeps Device.cache)
    (observers : env.ObserversKeep Device.cache) (turns : List Turn) {w : World (σ × Transcript)}
    (held : AllDelivered w.device.cache w.asks) :
    AllDelivered (afterTurns env.transcribed turns w).device.cache
      (afterTurns env.transcribed turns w).asks :=
  preserves_afterTurns (P := fun w => AllDelivered w.device.cache w.asks)
    (preserves_take
      (outlasts_aside (σ := σ × Transcript) fun cache outside =>
        AllDelivered cache (Transcript.asks outside.2))
      (keeps.othersPreserve_asks AllDelivered) (observers.observersPreserve_asks AllDelivered)
      (allDelivered_fetchIfNewer (leavesCache_of_keeps keeps))
      (fun _ held => held) fun _ held => held) turns held

/-! ## A pass that is answered as it should be -/

/-- Whether nothing in the database hinders a pass, and it is not cancelled. -/
structure Available (db : Database) (cancelRequested : Bool) : Prop where
  whole : db.Whole
  answers : db.answers = true
  wanted : cancelRequested = false

theorem Available.withoutIndex_iff {db : Database} {cancelRequested : Bool} :
    Available db.withoutIndex cancelRequested ↔ Available db cancelRequested := by
  constructor
  · rintro ⟨⟨isOpen, rows, links⟩, answers, wanted⟩
    exact ⟨⟨isOpen, rows, links⟩, answers, wanted⟩
  · rintro ⟨⟨isOpen, rows, links⟩, answers, wanted⟩
    exact ⟨⟨isOpen, rows, links⟩, answers, wanted⟩

/-- A pass does not make itself unavailable. -/
theorem outlasts_available (Q : Cache → σ → Prop) :
    Outlasts fun w : World σ => Available w.device.db w.device.cancelRequested ∧
      Q w.device.cache w.outside where
  commit w batch db made held := by
    refine ⟨?_, held.2⟩
    rcases w.device.db.commit_cases held.1.whole.isOpen batch with
      ⟨-, other, done, rewritten⟩ | ⟨-, e, failed⟩
    · obtain rfl := Except.ok.inj (made.symm.trans done)
      exact ⟨rewritten.whole held.1.whole, (Database.answers_commit made).trans held.1.answers,
        held.1.wanted⟩
    · exact absurd (made.symm.trans failed) (by simp)
  set w key value db written held := by
    obtain ⟨answers, rfl⟩ := Metadata.set_eq_ok_iff.1 written
    refine ⟨⟨⟨held.1.whole.isOpen, held.1.whole.rows, held.1.whole.links⟩, ?_, held.1.wanted⟩,
      held.2⟩
    simpa [Database.answers, World.setDb] using answers
  phase _ _ held := held
  running _ _ held := held
  cancel _ held := ⟨⟨held.1.whole, held.1.answers, rfl⟩, held.2⟩

/-- Nothing keeps files that are all data files from being written. -/
theorem updated_of_dataFiles {env : Environment σ} {settings : Settings} {w : World σ}
    {fetched : Fetch.Fetched} (observers : env.ObserversKeep fun d => d.db.answers)
    (available : Available w.device.db w.device.cancelRequested) {data : DataSet}
    (read : dataOf fetched.files = .ok data)
    (same : data =
      (DataSet.empty.addEach (fetched.files.map fun file => (file.url, file.body))).1) :
    ∃ applied stats, ((importFetched env settings fetched).run.run w).1 =
      .ok (.updated applied stats) := by
  let p : Import.Pass := ⟨settings.rules, .incremental,
    fetched.files.map fun file => (file.url, file.body), []⟩
  have plans : p.plan w.device.db = data.planFor settings.rules .incremental w.device.db := by
    rw [same]
    exact p.plan_eq_planFor w.device.db rfl
  obtain ⟨made, committed, -⟩ := Database.exists_importPass available.whole p
  rw [Database.importPass, plans] at committed
  rw [run_importFetched, read]
  dsimp only
  rw [if_neg (by simp [available.wanted]), committed]
  generalize data.planFor settings.rules .incremental w.device.db = plan at committed ⊢
  have told := answers_announced observers plan.batch (w := w)
    ((Database.answers_commit committed).trans available.answers)
  obtain ⟨kept, dated, -⟩ := exists_dated told fetched.timestamp?
  dsimp only
  rw [dated]
  exact ⟨_, _, rfl⟩

/-- A cycle that is answered with a manifest, and with a data file for each file that it asks for,
gathers all files of the manifest. -/
theorem gathered_of_delivered {env : Environment σ} (leaves : env.LeavesCache)
    {w : World (σ × Transcript)} {texts : Dict String} (memory : w.device.cache = .ofTexts texts)
    {settings : Fetch.Settings} {reference? : Option String} {ask : Ask} {asks : List Ask}
    {response : Response} {manifest : Manifest}
    (asked : ((Fetch.fetchIfNewer env.transcribed settings reference?).run.run w).2.asks =
      w.asks ++ ask :: asks)
    (given : ask.GivesManifest settings response manifest)
    (delivered : ∀ other ∈ asks, other.DeliversDataFile) :
    ∃ fetched held, ((Fetch.fetchIfNewer env.transcribed settings reference?).run.run w).1 =
        .ok (some fetched) ∧
      Fetch.Gathered texts (Fetch.fileUrls settings manifest) asks fetched.files held := by
  obtain ⟨answer, noted, after, same, -, ends⟩ :=
    Fetch.run_fetchIfNewer_cases leaves memory settings reference?
  obtain ⟨rfl, rfl⟩ := List.cons.inj (List.append_cancel_left (asked.symm.trans same))
  rcases ends with ⟨none, -, -, -⟩ | ⟨response', manifest', given', ends⟩
  · exact absurd given (none response manifest)
  · obtain rfl := Except.ok.inj (given.1.symm.trans given'.1)
    obtain rfl := Except.ok.inj (given.2.2.symm.trans given'.2.2)
    rcases ends with ⟨files, held, gathered, gives, -⟩ |
      ⟨-, done, url, rest, served, files, answer, -, -, -, undelivered, rfl⟩
    · exact ⟨_, held, gives, gathered⟩
    · obtain ⟨text, served, -⟩ := (delivered _ (List.mem_append_right _
        List.mem_cons_self)).exists_delivers
      exact absurd served (undelivered text)

/-- Files that have been gathered were held or delivered, each under the key of its URL. -/
theorem gathered_body {texts held : Dict String} {urls : List String} {asks : List Ask}
    {files : List Fetch.DataFile} (gathered : Fetch.Gathered texts urls asks files held)
    (delivered : ∀ ask ∈ asks, ask.DeliversDataFile) {file : Fetch.DataFile}
    (listed : file ∈ files) :
    texts.get? (Digest.urlKey file.url) = some file.body ∨ IsDataFile file.body := by
  refine (gathered.origin (gathered.get?_of_mem listed)).imp_right ?_
  rintro ⟨ask, sent, -, body⟩
  obtain ⟨text, served, fine⟩ := (delivered ask sent).exists_delivers
  rwa [body.unique served]

/-- The data of a conference are updated by what is delivered, unless a text that is held for a file
of the manifest is not that of a data file. -/
theorem updateConference_of_delivered {env : Environment σ} (leaves : env.LeavesCache)
    (server : env.transcribed.Preserves fun w => Available w.device.db w.device.cancelRequested)
    (observers : env.transcribed.ObserversKeep fun d => d.db.answers) {settings : Settings}
    {w : World (σ × Transcript)} {texts : Dict String}
    (available : Available w.device.db w.device.cancelRequested)
    (memory : w.device.cache = .ofTexts texts) {reference? : Option String} {ask : Ask}
    {asks : List Ask} {response : Response} {manifest : Manifest}
    (reference : Metadata.lastDataTimestamp? w.device.db = .ok reference?)
    (asked : ((Fetch.fetchIfNewer env.transcribed settings.fetch reference?).run.run w).2.asks =
      w.asks ++ ask :: asks)
    (given : ask.GivesManifest settings.fetch response manifest)
    (delivered : ∀ other ∈ asks, other.DeliversDataFile) :
    let result := ((updateConference env.transcribed settings).run.run w).1
    (∃ applied stats, result = .ok (.updated applied stats)) ∧
        (∀ url ∈ Fetch.fileUrls settings.fetch manifest, ∀ text,
          texts.get? (Digest.urlKey url) = some text → IsDataFile text) ∨
      ∃ url ∈ Fetch.fileUrls settings.fetch manifest, ∃ text fault,
        texts.get? (Digest.urlKey url) = some text ∧ Json.objectOfText text = .error fault ∧
          result = .error (.unreadable ("data file " ++ url) fault) := by
  obtain ⟨fetched, held, gives, gathered⟩ :=
    gathered_of_delivered leaves memory asked given delivered
  have still := Fetch.preserves_fetchIfNewer server.get (fun _ _ held => held) settings.fetch
    reference? w available
  rw [run_updateConference, reference]
  dsimp only
  cases cycle : (Fetch.fetchIfNewer env.transcribed settings.fetch reference?).run.run w with
  | mk result next =>
    rw [cycle] at gives still
    dsimp only at gives
    subst gives
    dsimp only
    have listed {file : Fetch.DataFile} (there : file ∈ fetched.files) :
        file.url ∈ Fetch.fileUrls settings.fetch manifest :=
      gathered.map_url ▸ List.mem_map_of_mem there
    -- What has just been delivered is fine, so a file that cannot be read has been in the cache.
    rcases dataOf_cases fetched.files with ⟨fine, read⟩ | ⟨file, there, fault, bad, failed⟩
    · refine .inl ⟨updated_of_dataFiles observers still read rfl, fun url named text cached => ?_⟩
      rw [← gathered.map_url] at named
      obtain ⟨file, there, rfl⟩ := List.mem_map.1 named
      have body := (gathered.get?_mono cached).symm.trans (gathered.get?_of_mem there)
      exact Option.some.inj body ▸ fine file there
    · refine .inr ⟨file.url, listed there, file.body, fault, ?_, bad, ?_⟩
      · refine (gathered_body gathered delivered there).resolve_right ?_
        rintro ⟨members, read⟩
        exact absurd (bad.symm.trans read) (by simp)
      · rw [run_importFetched, failed]

/-- Whatever happened before on a device whose cache was empty: a pass that is available and that is
answered with a manifest and, for each file that it asks for, with a data file, updates the data of
the conference if and only if no text that is held for a file of the manifest is anything but that
of a data file. Otherwise it fails because of such a text, which has been delivered before. -/
theorem updated_iff_cached_are_data_files (past last : Environment σ)
    (pastKeeps : past.Keeps Device.cache) (pastObservers : past.ObserversKeep Device.cache)
    (lastKeeps : last.Keeps fun d => (d.db.withoutIndex, d.cache, d.cancelRequested))
    (lastObservers : last.ObserversKeep fun d => (d.db.withoutIndex, d.cache, d.cancelRequested))
    (turns : List Turn) (db : Database) (outside : σ) (settings : Settings) (trigger : Trigger)
    (before after : World (σ × Transcript)) (report : Report) (ask : Ask) (asks : List Ask)
    (response : Response) (manifest : Manifest)
    (reached : afterTurns past.transcribed turns ⟨.start db .inMemory, (outside, [])⟩ = before)
    (available : Available before.device.db before.device.cancelRequested)
    (made : (sync last.transcribed settings trigger).run.run before = (.ok report, after))
    (asked : after.asks = before.asks ++ ask :: asks)
    (given : ask.GivesManifest settings.fetch response manifest)
    (delivered : ∀ other ∈ asks, other.DeliversDataFile) :
    ∃ texts, before.device.cache = .ofTexts texts ∧
      (∀ key text, texts.get? key = some text →
        ∃ earlier ∈ before.asks, Digest.urlKey earlier.url = key ∧ earlier.Delivers text) ∧
      ((∃ applied stats, report.conference = .updated applied stats) ↔
        ∀ url ∈ Fetch.fileUrls settings.fetch manifest, ∀ text,
          texts.get? (Digest.urlKey url) = some text → IsDataFile text) ∧
      ((∀ applied stats, report.conference ≠ .updated applied stats) →
        ∃ url ∈ Fetch.fileUrls settings.fetch manifest, ∃ text fault,
          texts.get? (Digest.urlKey url) = some text ∧ Json.objectOfText text = .error fault ∧
            report.conference = .failed (.unreadable ("data file " ++ url) fault)) := by
  obtain ⟨texts, memory, sent⟩ := allDelivered_afterTurns pastKeeps pastObservers turns
    (w := ⟨.start db .inMemory, (outside, [])⟩) ⟨.empty, rfl, by simp⟩
  rw [reached] at memory sent
  have others (Q : Database → Cache → Bool → Prop) :
      last.transcribed.Preserves fun w =>
        Q w.device.db.withoutIndex w.device.cache w.device.cancelRequested :=
    lastKeeps.transcribed.preserves fun part => Q part.1 part.2.1 part.2.2
  have hearing (Q : Database → Cache → Bool → Prop) :
      last.transcribed.ObserversPreserve fun w =>
        Q w.device.db.withoutIndex w.device.cache w.device.cancelRequested :=
    lastObservers.transcribed.preserves fun part => Q part.1 part.2.1 part.2.2
  have othersFit := others fun db cache cancelled =>
    Available db cancelled ∧ cache = .ofTexts texts
  have hearingFit := hearing fun db cache cancelled =>
    Available db cancelled ∧ cache = .ofTexts texts
  have othersAvailable := others fun db _ cancelled => Available db cancelled
  simp only [Available.withoutIndex_iff] at othersFit hearingFit othersAvailable
  have ready := preserves_begun (outlasts_available fun cache _ => cache = .ofTexts texts)
    othersFit.toOthersPreserve hearingFit settings (w := claimed before) ⟨available, memory⟩
  have unasked : (begun last.transcribed settings (claimed before)).asks = before.asks :=
    asks_begun last settings (claimed before)
  obtain ⟨reference?, reference⟩ : ∃ reference?, Metadata.lastDataTimestamp?
      (begun last.transcribed settings (claimed before)).device.db = .ok reference? :=
    ⟨_, Metadata.lastDataTimestamp?_eq_ok_iff.2 ⟨ready.1.answers, rfl⟩⟩
  rw [asks_of_sync made reference, ← unasked] at asked
  refine ⟨texts, memory, sent, ?_⟩
  rw [conference_of_sync made]
  rcases updateConference_of_delivered
      (leavesCache_of_keeps fun v => lastKeeps.preserves fun part => part.2.1 = v)
      othersAvailable (fun v => hearing fun db _ _ => db.answers = v) ready.1 ready.2 reference
      asked given delivered with
    ⟨⟨applied, stats, updated⟩, fine⟩ | ⟨url, named, text, fault, cached, bad, failed⟩
  · rw [updated]
    exact ⟨⟨fun _ => fine, fun _ => ⟨applied, stats, rfl⟩⟩, fun none => absurd rfl (none _ _)⟩
  · rw [failed]
    refine ⟨⟨fun updated => ?_, fun fine => ?_⟩,
      fun _ => ⟨url, named, text, fault, cached, bad, rfl⟩⟩
    · obtain ⟨_, _, updated⟩ := updated
      cases updated
    · obtain ⟨members, read⟩ := fine url named text cached
      exact absurd (bad.symm.trans read) (by simp)

/-! ## A login page -/

deriving instance DecidableEq for Ask

/-- A server that answers the request for the file with a page to log in. -/
def loginServing : Environment Unit := indexedServing (roomPages "<html>Please log in</html>")

/-- A server that answers it with a data file. -/
def roomServing : Environment Unit := indexedServing (roomPages "\x7b\"rooms\":[]\x7d")

/-- The world after a pass that has been given the page. -/
def afterLogin : World (Unit × Transcript) :=
  afterTurns loginServing.transcribed [.pass plainSettings .manual]
    ⟨.start .initial .inMemory, ((), [])⟩

/-- The request for the manifest in the next pass. -/
def roomAsk : Ask :=
  ⟨"https://conf.example/manifest.json", none,
    .ok (Fetch.pageOf (roomPages "\x7b\"rooms\":[]\x7d") "https://conf.example/manifest.json")⟩

theorem givesManifest_roomAsk :
    roomAsk.GivesManifest plainSettings.fetch
      (Fetch.pageOf (roomPages "\x7b\"rooms\":[]\x7d") "https://conf.example/manifest.json")
      ⟨"iosched-json-v1", ["rooms.json"]⟩ :=
  ⟨rfl, by decide +kernel, by decide +kernel⟩

/-- The next pass, which would be given the data file. -/
def retriedPass : Report × World (Unit × Transcript) :=
  (pass roomServing.transcribed plainSettings .manual).run (claimed afterLogin)

/-- Nothing hinders the next pass, but it asks only for the manifest and fails, since it finds the
page in the cache. -/
theorem outcome_retriedPass :
    (afterLogin.device.running = false ∧ afterLogin.device.cancelRequested = false) ∧
      (afterLogin.device.db.closed = false ∧ afterLogin.device.db.answers = true) ∧
      (∀ table ∈ Table.all, (afterLogin.device.db.tables.get table).isSome) ∧
      (∀ link ∈ LinkTable.all, (afterLogin.device.db.links? link).isSome) ∧
      retriedPass.2.asks = afterLogin.asks ++ [roomAsk] ∧
      retriedPass.1.conference =
        .failed (.unreadable "data file https://conf.example/rooms.json" .malformed) := by
  decide +kernel

theorem available_afterLogin :
    Available afterLogin.device.db afterLogin.device.cancelRequested := by
  obtain ⟨⟨-, wanted⟩, ⟨isOpen, answers⟩, rows, links, -, -⟩ := outcome_retriedPass
  exact ⟨⟨isOpen, fun table => rows table table.mem_all,
    fun link => links link (by cases link <;> decide)⟩, answers, wanted⟩

theorem sync_afterLogin :
    ∃ report after,
      (sync roomServing.transcribed plainSettings .manual).run.run afterLogin =
          (.ok report, after) ∧
        after.asks = afterLogin.asks ++ [roomAsk] ∧
          report.conference =
            .failed (.unreadable "data file https://conf.example/rooms.json" .malformed) := by
  obtain ⟨⟨idle, -⟩, -, -, -, asked, failed⟩ := outcome_retriedPass
  obtain ⟨after, made, same⟩ := exists_sync_of_idle roomServing plainSettings .manual idle
  rw [← retriedPass] at made same
  exact ⟨_, after, made, same.trans asked, failed⟩

/-- Not every pass that is available and that is answered with a manifest and, for each file that it
asks for, with a data file updates the data of the conference: after a page to log in it fails. -/
theorem not_updated_after_every_history :
    ¬ ∀ (past last : Environment Unit),
      past.Keeps Device.cache → past.ObserversKeep Device.cache →
      (last.Keeps fun d => (d.db.withoutIndex, d.cache, d.cancelRequested)) →
      (last.ObserversKeep fun d => (d.db.withoutIndex, d.cache, d.cancelRequested)) →
      ∀ (turns : List Turn) (db : Database) (settings : Settings) (trigger : Trigger)
        (before after : World (Unit × Transcript)) (report : Report) (ask : Ask) (asks : List Ask)
        (response : Response) (manifest : Manifest),
        afterTurns past.transcribed turns ⟨.start db .inMemory, ((), [])⟩ = before →
        Available before.device.db before.device.cancelRequested →
        (sync last.transcribed settings trigger).run.run before = (.ok report, after) →
        after.asks = before.asks ++ ask :: asks →
        ask.GivesManifest settings.fetch response manifest →
        (∀ other ∈ asks, other.DeliversDataFile) →
        ∃ applied stats, report.conference = .updated applied stats := by
  intro always
  obtain ⟨report, after, made, asked, failed⟩ := sync_afterLogin
  obtain ⟨_, _, updated⟩ := always loginServing roomServing (keeps_indexedServing _ _)
    (observersKeep_indexedServing _ fun _ _ _ _ => rfl) (keeps_indexedServing _ _)
    (observersKeep_indexedServing _ fun _ _ _ same => by simp [same]) [.pass plainSettings .manual]
    .initial plainSettings .manual afterLogin after report roomAsk [] _ _ rfl
    available_afterLogin made asked givesManifest_roomAsk (by simp)
  cases failed.symm.trans updated

/-- The pass fails because of the page, which has been delivered before. -/
theorem updated_iff_cached_are_data_files_login_page :
    ∃ texts text ask, afterLogin.device.cache = .ofTexts texts ∧
      texts.get? (Digest.urlKey "https://conf.example/rooms.json") = some text ∧
        ¬ IsDataFile text ∧ ask ∈ afterLogin.asks ∧ ask.Delivers text := by
  obtain ⟨report, after, made, asked, failed⟩ := sync_afterLogin
  obtain ⟨texts, memory, sent, -, why⟩ := updated_iff_cached_are_data_files loginServing roomServing
    (keeps_indexedServing _ _) (observersKeep_indexedServing _ fun _ _ _ _ => rfl)
    (keeps_indexedServing _ _) (observersKeep_indexedServing _ fun _ _ _ same => by simp [same])
    [.pass plainSettings .manual] .initial () plainSettings .manual afterLogin after report roomAsk
    [] _ _ rfl available_afterLogin made asked givesManifest_roomAsk (by simp)
  obtain ⟨url, named, text, fault, cached, bad, -⟩ := why fun _ _ updated => by
    cases failed.symm.trans updated
  obtain ⟨ask, earlier, -, served⟩ := sent _ _ cached
  have urls : Fetch.fileUrls plainSettings.fetch ⟨"iosched-json-v1", ["rooms.json"]⟩ =
      ["https://conf.example/rooms.json"] := by decide +kernel
  obtain rfl := List.mem_singleton.1 (urls ▸ named)
  refine ⟨texts, text, ask, memory, cached, ?_, earlier, served⟩
  rintro ⟨members, read⟩
  cases bad.symm.trans read

end Sync

end ConferenceSync
