import ConferenceSync.Proofs.HttpDates
import ConferenceSync.Proofs.Turns

/-!
# Conditional requests

The server is asked for a manifest that has changed since a certain date. That is the date of the
data set that was written last, of those that came with a date at all: a data set without one leaves
the date of an earlier one in place.

## Main definitions

* `Ask.date?` — the date that comes with the answer to a request
* `Sync.Dated` — that a database answers, and which date it keeps
* `Sync.Turn.dates`, `Sync.datesAfter` — the dates of the data sets that have been written
* `Sync.lastDate` — the last one of dates

## Main results

* `Fetch.exists_ask_of_fetchIfNewer` — what a cycle of the download asks first
* `Sync.dated_take` — a turn keeps the date of what it writes
* `Sync.manifest_asked_since_last_date` — since when a manifest is asked for to have changed
* `Sync.not_asked_since_last_data_set` — that is not always the date of the last data set
-/

namespace ConferenceSync

variable {σ : Type}

/-- The date that comes with the answer to a request, in its written form, if there is one. -/
def Ask.date? (ask : Ask) : Option String :=
  match ask.answer with
  | .ok response => response.lastModified?.bind Time.normalizeHttpDate?
  | .error _ => none

namespace Fetch

/-- A cycle asks for the manifest first, and if it has changed since the date from which the cycle
starts. What the cycle gives has the date of the answer. -/
theorem exists_ask_of_fetchIfNewer (env : Environment σ) (settings : Settings)
    (reference? : Option String) (w : World (σ × Transcript)) :
    let run := (fetchIfNewer env.transcribed settings reference?).run.run w
    ∃ ask, w.asks ++ [ask] <+: run.2.asks ∧ ask.url = settings.effectiveUrl ∧
      ask.since? = reference?.bind Time.normalizeHttpDate? ∧
      ∀ fetched, run.1 = .ok (some fetched) → fetched.timestamp? = ask.date? := by
  let since? := reference?.bind Time.normalizeHttpDate?
  let answer := ((env.get settings.effectiveUrl since?).run.run w.forget).1
  have noted (url : String) (since? : Option String) (w : World (σ × Transcript)) :
      ((env.transcribed.get url since?).run.run w).2.asks =
        w.asks ++ [⟨url, since?, ((env.get url since?).run.run w.forget).1⟩] :=
    Transcript.asks_append ..
  refine ⟨⟨settings.effectiveUrl, since?, answer⟩, ?_, rfl, rfl, fun fetched given => ?_⟩
  · refine holds_after_fetchIfNewer (P := fun after => _ <+: after.asks)
      (fun url since? v held => ?_) (fun _ _ held => held) ?_
    · exact held.trans ((noted url since? v).symm ▸ List.prefix_append _ _)
    · exact (noted settings.effectiveUrl since? w).symm ▸ List.prefix_rfl
  · have cycle : (fetchIfNewer env.transcribed settings reference?).run.run w =
        (.ok (some fetched), _) := Prod.ext given rfl
    obtain ⟨response, after, -, answered, -, -, date⟩ := exists_response_of_fetchIfNewer cycle
    have answer : answer = .ok response := congrArg Prod.fst answered
    rw [date, Ask.date?]
    dsimp only
    rw [answer]

end Fetch

namespace Sync

/-! ## The date that is kept -/

/-- Whether a database answers, and which date it keeps. -/
def Dated (date? : Option String) (w : World σ) : Prop :=
  w.device.db.answers = true ∧ w.device.db.storedDate? = date?

variable {date? : Option String}

theorem Dated.set {w : World σ} {key value : String} {db : Database}
    (written : Metadata.set w.device.db key value = .ok db) (held : Dated date? w) :
    Dated (if key = Metadata.dataTimestampKey then some value else date?) (w.setDb db) := by
  obtain ⟨answers, rfl⟩ := Metadata.set_eq_ok_iff.1 written
  obtain ⟨rows, read⟩ := Database.answers_iff.1 answers
  have there := (Metadata.metadataRows_eq_ok_iff.1 read).2
  refine ⟨by simpa [Database.answers, World.setDb, there] using answers, ?_⟩
  have before := held.2
  rw [Database.storedDate?, there] at before
  simp only [World.setDb, Database.storedDate?, there, Option.map_some, Option.bind_some,
    Dict.get?_insert, eq_comm (a := key)]
  split
  · rfl
  · exact before

theorem Dated.set_of_ne {w : World σ} {key value : String} {db : Database}
    (other : key ≠ Metadata.dataTimestampKey)
    (written : Metadata.set w.device.db key value = .ok db) (held : Dated date? w) :
    Dated date? (w.setDb db) := by
  have after := held.set written
  rwa [if_neg other] at after

theorem ignoresProgress_dated (date? : Option String) :
    IgnoresProgress (Dated date? : World σ → Prop) where
  phase _ _ held := held
  cancel _ held := held
  number _ _ _ _ other written held := held.set_of_ne other written

theorem Dated.commit {w : World σ} {batch : Batch} {made : Database}
    (committed : w.device.db.commit batch = .ok made) (held : Dated date? w) :
    Dated date? (w.setDb made) :=
  ⟨(Database.answers_commit committed).trans held.1,
    (Database.storedDate?_commit committed).trans held.2⟩

/-- The last one of the dates of data sets, of which some came without one. -/
def lastDate (dates : List (Option String)) : Option String := (dates.filterMap id).getLast?

theorem lastDate_append (dates more : List (Option String)) :
    lastDate (dates ++ more) = (lastDate more).or (lastDate dates) := by
  rw [lastDate, List.filterMap_append, List.getLast?_append]
  rfl

theorem lastDate_singleton (date? : Option String) : lastDate [date?] = date? := by
  cases date? <;> rfl

/-! ## What a pass keeps -/

section Pass

variable {env : Environment σ} (settings : Settings)
  (keeps : env.Keeps fun d => (d.db.answers, d.db.storedDate?))
  (observers : env.ObserversKeep fun d => (d.db.answers, d.db.storedDate?))

include keeps in
theorem preserves_dated (date? : Option String) : env.Preserves (Dated date?) :=
  keeps.preserves fun part => part.1 = true ∧ part.2 = date?

include observers in
theorem Dated.announced {w : World σ} {batch : Batch} {made : Database}
    (committed : w.device.db.commit batch = .ok made) (held : Dated date? w) :
    Dated date? (announced env w batch made) :=
  preserves_announce (observers.preserves fun part => part.1 = true ∧ part.2 = date?) _
    (w.setDb made) (held.commit committed)

/-- The date of the seed if it is imported. -/
def importedDates (env : Environment σ) (settings : Settings) (w : World σ) :
    List (Option String) :=
  match settings.seed?, ((importSeed env settings).run.run w).1 with
  | some seed, .ok () => [some seed.timestamp]
  | _, _ => []

include observers in
theorem dated_importSeed {w : World σ} (held : Dated date? w) :
    Dated ((lastDate (importedDates env settings w)).or date?)
      ((importSeed env settings).run.run w).2 := by
  rw [importedDates]
  cases given : settings.seed? with
  | none =>
    rw [importSeed, given]
    exact held
  | some seed =>
    rw [run_importSeed env settings w given]
    cases dataOfSeed seed with
    | error e => exact held
    | ok data =>
      dsimp only
      cases committed : w.device.db.commit
          (data.planFor settings.rules .full w.device.db).batch with
      | error e => exact held
      | ok made =>
        have told := held.announced observers committed
        obtain ⟨db, dated, date, -, answers⟩ := exists_dated told.1 (some seed.timestamp)
        change Metadata.setLastDataTimestamp _ _ = _ at dated
        dsimp only
        rw [dated]
        exact ⟨answers, date⟩

/-- The dates of the data sets that a pass writes before it turns to the data of the conference. -/
def seedDates (env : Environment σ) (settings : Settings) (w : World σ) : List (Option String) :=
  if seedDone w.device.db then []
  else importedDates env settings ((Action.enter env .bootstrapping).run w).2

include keeps observers in
theorem dated_begun {w : World σ} (held : Dated date? w) :
    Dated ((lastDate (seedDates env settings w)).or date?) (begun env settings w) := by
  have others (date? : Option String) := (preserves_dated keeps date?).toOthersPreserve
  refine preserves_beginStep (ignoresProgress_dated _) (others _) _ ?_
  rw [seeded, seedDates]
  split
  · exact held
  · have entered := preserves_enter (ignoresProgress_dated date?) (others _) .bootstrapping w held
    have imported := dated_importSeed settings observers entered
    have other : Metadata.bootstrapKey ≠ Metadata.dataTimestampKey := by decide
    exact (Action.Preserves.bind (Attempt.preserves_ignored (Attempt.preserves_write
      fun _ _ held written => held.set_of_ne other written)) fun _ =>
        preserves_enter (ignoresProgress_dated _) (others _) .idle) _ imported

include keeps observers in
/-- To bring the data of the conference up to date keeps the date of what is written. -/
theorem dated_updateConference {w : World σ} (held : Dated date? w) :
    let run := (updateConference env settings).run.run w
    ((∀ applied stats, run.1 ≠ .ok (.updated applied stats)) ∧ Dated date? run.2) ∨
      ∃ reference? fetched next, Metadata.lastDataTimestamp? w.device.db = .ok reference? ∧
        (Fetch.fetchIfNewer env settings.fetch reference?).run.run w = (.ok (some fetched), next) ∧
        (∃ applied stats, run.1 = .ok (.updated applied stats)) ∧
          Dated (fetched.timestamp?.or date?) run.2 := by
  have cycle (reference? : Option String) := Fetch.preserves_fetchIfNewer
    (preserves_dated keeps date?).get (fun _ _ same => same) settings.fetch reference? w held
  rcases run_updateConference_cases env settings w
      (fun v => keeps.preserves fun part => part.1 = v)
      (fun v => observers.preserves fun part => part.1 = v) with
    ⟨none, same | ⟨reference?, same⟩⟩ |
    ⟨reference?, fetched, next, data, made, kept, updates, same⟩
  · rw [← same] at held
    exact .inl ⟨none, held⟩
  · have after := cycle reference?
    rw [← same] at after
    exact .inl ⟨none, after⟩
  · refine .inr ⟨reference?, fetched, next, updates.reference, updates.cycle, ?_⟩
    dsimp only at same ⊢
    rw [same]
    refine ⟨⟨_, _, rfl⟩, ?_⟩
    have before : Dated date? next := by
      have after := cycle reference?
      rwa [updates.cycle] at after
    have told := before.announced observers updates.committed
    obtain ⟨db, dated, date, -, answers⟩ := exists_dated told.1 fetched.timestamp?
    obtain rfl := Except.ok.inj (dated.symm.trans updates.dated)
    exact ⟨answers, told.2 ▸ date⟩

end Pass

/-! ## What turns keep -/

section Turns

variable {env : Environment σ}
  (keeps : env.Keeps fun d => (d.db.answers, d.db.storedDate?))
  (observers : env.ObserversKeep fun d => (d.db.answers, d.db.storedDate?))

/-- The date of the data set that a pass writes once it has turned to the data of the conference. It
comes with the answer to the first request. -/
def updateDates (report : Report) (asks : List Ask) : List (Option String) :=
  match report.conference with
  | .updated _ _ => [asks.head?.bind Ask.date?]
  | _ => []

theorem updateDates_of_updated {report : Report} {applied : Nat} {stats : Import.Stats}
    {asks after : List Ask} {ask : Ask} (updated : report.conference = .updated applied stats)
    (first : asks ++ [ask] <+: after) :
    updateDates report (after.drop asks.length) = [ask.date?] := by
  obtain ⟨rest, rfl⟩ := first
  rw [updateDates, updated, List.append_assoc, List.drop_left]
  rfl

theorem updateDates_of_not_updated {report : Report} (asks : List Ask)
    (none : ∀ applied stats, report.conference ≠ .updated applied stats) :
    updateDates report asks = [] := by
  rw [updateDates]
  split
  · next updated => exact absurd updated (none _ _)
  · rfl

/-- The dates of the data sets that a turn writes, one after another. -/
def Turn.dates (env : Environment σ) (turn : Turn) (w : World (σ × Transcript)) :
    List (Option String) :=
  match turn with
  | pass settings trigger =>
    match (sync env.transcribed settings trigger).run.run w with
    | (.ok report, after) =>
      seedDates env.transcribed settings (claimed w) ++
        updateDates report (after.asks.drop w.asks.length)
    | (.error _, _) => []
  | cancel | look | restart => []

/-- The dates of the data sets that turns write, one after another. -/
def datesAfter (env : Environment σ) : List Turn → World (σ × Transcript) → List (Option String)
  | [], _ => []
  | turn :: turns, w =>
    turn.dates env w ++ datesAfter env turns ((turn.take env.transcribed).run w).2

include keeps observers in
/-- A pass that is made asks for the manifest first, since the date that is kept once the seed has
been taken care of. It keeps the date of what it writes. -/
theorem exists_ask_of_sync {settings : Settings} {trigger : Trigger} {report : Report}
    {w after : World (σ × Transcript)} (held : Dated date? w)
    (made : (sync env.transcribed settings trigger).run.run w = (.ok report, after)) :
    let seeds := lastDate (seedDates env.transcribed settings (claimed w))
    ∃ ask, w.asks ++ [ask] <+: after.asks ∧ ask.url = settings.fetch.effectiveUrl ∧
      ask.since? = (seeds.or date?).bind Time.normalizeHttpDate? ∧
      Dated ((lastDate (updateDates report (after.asks.drop w.asks.length))).or (seeds.or date?))
        after := by
  intro seeds
  have start := dated_begun settings keeps.transcribed observers.transcribed (w := claimed w) held
  -- A blank date is not read, but it would not be sent either.
  have reference := Metadata.lastDataTimestamp?_eq_ok_iff.2 ⟨start.1, rfl⟩
  have asks := asks_of_sync made reference
  obtain ⟨ask, first, url, since, date⟩ := Fetch.exists_ask_of_fetchIfNewer env settings.fetch
    ((begun env.transcribed settings (claimed w)).device.db.storedDate?.filter
      fun s => !Text.isBlankText s) (begun env.transcribed settings (claimed w))
  rw [← asks, asks_begun] at first
  change w.asks ++ [ask] <+: after.asks at first
  refine ⟨ask, first, url, ?_, ?_⟩
  · rw [since, start.2, Time.bind_normalizeHttpDate?_filter]
  · refine holds_after_sync (ignoresProgress_dated _) (fun _ _ held => held)
      (preserves_dated keeps.transcribed _).toOthersPreserve made ?_
    have outcome := conference_of_sync made
    rcases dated_updateConference settings keeps.transcribed observers.transcribed start with
      ⟨none, kept⟩ | ⟨reference?, fetched, next, read, cycle, ⟨applied, stats, updated⟩, kept⟩
    · rw [updateDates_of_not_updated _ fun applied stats updated =>
        none applied stats (outcomeOf_eq_updated_iff.1 (outcome.symm.trans updated))]
      exact kept
    · obtain rfl := Except.ok.inj (read.symm.trans reference)
      rw [updateDates_of_updated (outcome.trans (outcomeOf_eq_updated_iff.2 updated)) first,
        lastDate_singleton, ← date fetched (congrArg Prod.fst cycle)]
      exact kept

include keeps observers in
/-- A turn keeps the date of what it writes. -/
theorem dated_take (turn : Turn) {w : World (σ × Transcript)} (held : Dated date? w) :
    Dated ((lastDate (turn.dates env w)).or date?) ((turn.take env.transcribed).run w).2 := by
  cases turn with
  | pass settings trigger =>
    rw [run_take_pass, Turn.dates]
    cases made : (sync env.transcribed settings trigger).run.run w with
    | mk result after =>
      cases result with
      | ok report =>
        obtain ⟨ask, -, -, -, kept⟩ := exists_ask_of_sync keeps observers held made
        dsimp only
        rw [lastDate_append, Option.or_assoc]
        exact kept
      | error e =>
        obtain rfl := eq_of_sync_eq_error made
        exact held
  | cancel => exact held
  | look =>
    exact preserves_look (ignoresProgress_dated _)
      (preserves_dated keeps.transcribed _).toOthersPreserve w held
  | restart => exact held

include keeps observers in
/-- Turns keep the date of what is written last, of what comes with a date. -/
theorem dated_afterTurns (turns : List Turn) {w : World (σ × Transcript)} (held : Dated date? w) :
    Dated ((lastDate (datesAfter env turns w)).or date?) (afterTurns env.transcribed turns w) := by
  -- The date that is kept is the start from which the next turn goes on.
  induction turns generalizing w date? with
  | nil => exact held
  | cons turn rest ih =>
    rw [datesAfter, lastDate_append, Option.or_assoc]
    exact ih (dated_take keeps observers turn held)

end Turns

/-- Whatever happened before: a pass that is made asks for the manifest first, if it has changed
since the date of the data set that was written last, the seed of the pass included, of those that
came with a date. A date in its written form, with a year of 0 to 9999, is sent as it is. -/
theorem manifest_asked_since_last_date (env : Environment σ)
    (keeps : env.Keeps fun d => (d.db.answers, d.db.storedDate?))
    (observers : env.ObserversKeep fun d => (d.db.answers, d.db.storedDate?)) (turns : List Turn)
    (settings : Settings) (trigger : Trigger) (start before after : World (σ × Transcript))
    (report : Report) (answers : start.device.db.answers = true)
    (unwritten : start.device.db.storedDate? = none)
    (reached : afterTurns env.transcribed turns start = before)
    (made : (sync env.transcribed settings trigger).run.run before = (.ok report, after)) :
    let last := lastDate
      (datesAfter env turns start ++ seedDates env.transcribed settings (claimed before))
    ∃ ask, before.asks ++ [ask] <+: after.asks ∧ ask.url = settings.fetch.effectiveUrl ∧
      ask.since? = last.bind Time.normalizeHttpDate? ∧
      ∀ x date, last = some date → Time.normalizeHttpDate? x = some date → date.length = 29 →
        ask.since? = some date := by
  have held := dated_afterTurns keeps observers turns (w := start) ⟨answers, unwritten⟩
  rw [reached, Option.or_none] at held
  obtain ⟨ask, first, url, since, -⟩ := exists_ask_of_sync keeps observers held made
  rw [← lastDate_append] at since
  refine ⟨ask, first, url, since, fun x date last normal written => ?_⟩
  rw [since, last, Option.bind_some, Time.normalizeHttpDate?_idem normal written]

/-! ## A data set without a date -/

/-- What a server gives under a URL that names a date only if it is asked without one. -/
def datedOncePage (url : String) (since? : Option String) : Response :=
  { Fetch.pageOf (roomPages "\x7b\"rooms\":[]\x7d") url with
    lastModified? := if since?.isNone then some "Sun, 06 Nov 1994 08:49:37 GMT" else none }

/-- That server. -/
def datedOnce : Environment Unit :=
  { indexedServing [] with get := fun url since? => return datedOncePage url since? }

theorem keeps_datedOnce : datedOnce.Keeps fun d => (d.db.answers, d.db.storedDate?) := fun v =>
  { keeps_indexedServing [] (fun d => (d.db.answers, d.db.storedDate?)) v with
    get := fun _ _ _ held => held }

theorem observersKeep_datedOnce :
    datedOnce.ObserversKeep fun d => (d.db.answers, d.db.storedDate?) := by
  have kept : (indexedServing []).ObserversKeep fun d => (d.db.answers, d.db.storedDate?) :=
    observersKeep_indexedServing [] fun d db _ same => by
      show (db.withoutIndex.answers, db.withoutIndex.storedDate?) = _
      rw [same]
      rfl
  exact kept

/-- Two passes. -/
def twoPasses : List Turn := [.pass plainSettings .manual, .pass plainSettings .manual]

/-- The world after them. -/
def afterTwoPasses : World (Unit × Transcript) :=
  afterTurns datedOnce.transcribed twoPasses ⟨.start .initial .inMemory, ((), [])⟩

/-- The pass after them. -/
def thirdPass : Report × World (Unit × Transcript) :=
  (pass datedOnce.transcribed plainSettings .manual).run (claimed afterTwoPasses)

/-- The first pass writes a data set with a date and the second one a data set without. The third
pass sends the date of the first one. -/
theorem outcome_twoPasses :
    afterTwoPasses.device.running = false ∧
      datesAfter datedOnce twoPasses ⟨.start .initial .inMemory, ((), [])⟩ ++
          seedDates datedOnce.transcribed plainSettings (claimed afterTwoPasses) =
        [some "Sun, 06 Nov 1994 08:49:37 GMT", none] ∧
      (thirdPass.2.asks.drop afterTwoPasses.asks.length).map Ask.since? =
        [some "Sun, 06 Nov 1994 08:49:37 GMT"] := by
  decide +kernel

theorem sync_afterTwoPasses :
    ∃ report after,
      (sync datedOnce.transcribed plainSettings .manual).run.run afterTwoPasses =
          (.ok report, after) ∧
        (after.asks.drop afterTwoPasses.asks.length).map Ask.since? =
          [some "Sun, 06 Nov 1994 08:49:37 GMT"] := by
  obtain ⟨idle, -, sent⟩ := outcome_twoPasses
  obtain ⟨after, made, same⟩ := exists_sync_of_idle datedOnce plainSettings .manual idle
  rw [← thirdPass] at made same
  refine ⟨_, after, made, ?_⟩
  rw [same]
  exact sent

/-- Not every pass asks for a manifest that has changed since the date of the data set that was
written last: if that has none, the date of an earlier one is sent. -/
theorem not_asked_since_last_data_set :
    ¬ ∀ env : Environment Unit, (env.Keeps fun d => (d.db.answers, d.db.storedDate?)) →
      (env.ObserversKeep fun d => (d.db.answers, d.db.storedDate?)) →
      ∀ (turns : List Turn) (settings : Settings) (trigger : Trigger)
        (start before after : World (Unit × Transcript)) (report : Report),
        start.device.db.answers = true → start.device.db.storedDate? = none →
        afterTurns env.transcribed turns start = before →
        (sync env.transcribed settings trigger).run.run before = (.ok report, after) →
        let dates :=
          datesAfter env turns start ++ seedDates env.transcribed settings (claimed before)
        ∃ ask, before.asks ++ [ask] <+: after.asks ∧ ask.url = settings.fetch.effectiveUrl ∧
          ask.since? = dates.getLast?.join.bind Time.normalizeHttpDate? := by
  intro always
  obtain ⟨report, after, made, sent⟩ := sync_afterTwoPasses
  obtain ⟨ask, ⟨more, sum⟩, -, since⟩ := always datedOnce keeps_datedOnce observersKeep_datedOnce
    twoPasses plainSettings .manual ⟨.start .initial .inMemory, ((), [])⟩ afterTwoPasses after
    report rfl rfl rfl made
  rw [outcome_twoPasses.2.1] at since
  rw [← sum, List.append_assoc, List.drop_left] at sent
  cases since.symm.trans (List.cons.inj sent).1

/-- The pass sends the date of the first data set as it is. -/
theorem manifest_asked_since_last_date_two_passes :
    ∃ report after ask,
      (sync datedOnce.transcribed plainSettings .manual).run.run afterTwoPasses =
          (.ok report, after) ∧
        afterTwoPasses.asks ++ [ask] <+: after.asks ∧
          ask.since? = some "Sun, 06 Nov 1994 08:49:37 GMT" := by
  obtain ⟨report, after, made, -⟩ := sync_afterTwoPasses
  obtain ⟨ask, first, -, -, sent⟩ := manifest_asked_since_last_date datedOnce keeps_datedOnce
    observersKeep_datedOnce twoPasses plainSettings .manual
    ⟨.start .initial .inMemory, ((), [])⟩ afterTwoPasses after report rfl rfl rfl made
  rw [outcome_twoPasses.2.1] at sent
  exact ⟨report, after, ask, made, first,
    sent "Sun, 06 Nov 1994 08:49:37 GMT" _ rfl (by decide +kernel) rfl⟩

end Sync

end ConferenceSync
