import ConferenceSync.Proofs.CacheOnDisk
import ConferenceSync.Proofs.Transcript

/-!
# A cache on a disk in place of one in memory

Whatever is done with the keys of URLs, a cache on a disk gives the answers that a cache in memory
gives, from a directory that has not been made on. So a cycle of the download gives the same result
with either, and asks the server for the same. Other programs may put files into the directory at
any time, also while the server is answering: none of these is ever removed.

## Main definitions

* `Environment.SparesCache` — that the server does nothing to the cache, but foreign files may
  appear while it answers
* `World.Alike` — that two worlds differ in alike caches only
* `Action.Agrees` — that an action gives the same result in alike worlds, and keeps them alike
* `CacheStep`, `afterSteps` — what is done with a cache, step by step, with the answers

## Main results

* `Action.Agrees.bind`, `Attempt.agrees_bind` — steps one after another
* `Fetch.agrees_fetchFile`, `Fetch.agrees_fetchFiles`, `Fetch.agrees_fetchIfNewer` — a cycle of the
  download, part by part
* `disk_and_memory_interchangeable` — the same answers and requests with either cache, and every
  foreign file stays
-/

namespace ConferenceSync

variable {σ α β : Type} {visitors : σ → List ForeignFile}

/-! ## Alike worlds -/

/-- The world with another cache. -/
def World.withCache (w : World σ) (cache : Cache) : World σ := w.mapCache fun _ => cache

/-- Whether a request to the server is answered and leads to the same world whatever the cache is,
but for foreign files that appear in it. The outside knows all that have appeared so far. -/
def Environment.SparesCache (env : Environment σ) (visitors : σ → List ForeignFile) : Prop :=
  ∀ url since? (w : World σ), ∃ (answer : Except SyncError Response) (after : World σ)
    (files : List ForeignFile),
    visitors after.outside = visitors w.outside ++ files ∧
      ∀ cache, (env.get url since?).run.run (w.withCache cache) =
        (answer, after.withCache (files.foldl Cache.appear cache))

/-- To note what the server answers does not concern the cache. -/
theorem Environment.SparesCache.transcribed {env : Environment σ}
    (spares : env.SparesCache visitors) :
    env.transcribed.SparesCache fun outside => visitors outside.1 := by
  intro url since? w
  obtain ⟨answer, after, files, grown, answered⟩ := spares url since? w.forget
  refine ⟨answer, ⟨after.device, (after.outside, w.outside.2 ++ [.asked ⟨url, since?, answer⟩])⟩,
    files, grown, fun cache => ?_⟩
  have forgotten : (w.withCache cache).forget = w.forget.withCache cache := rfl
  rw [run_get_transcribed, forgotten, answered cache]
  rfl

/-- Whether two worlds are the same but for a cache on a disk and one in memory, which are alike.
Beside the texts lie the files of the outside and the other ones. -/
structure World.Alike (visitors : σ → List ForeignFile) (others : List ForeignFile)
    (v w : World σ) : Prop where
  same : v.withCache w.device.cache = w
  caches : Cache.Alike (others ++ visitors w.outside) v.device.cache w.device.cache

/-- Whether an action gives the same result in alike worlds and leads to alike worlds. -/
def Action.Agrees (visitors : σ → List ForeignFile) (action : Action σ α) : Prop :=
  ∀ others v w, World.Alike visitors others v w →
    (action.run v).1 = (action.run w).1 ∧
      World.Alike visitors others (action.run v).2 (action.run w).2

section Alike

variable {v w : World σ} {others : List ForeignFile}

theorem World.Alike.outside (alike : World.Alike visitors others v w) : v.outside = w.outside := by
  rw [← alike.same]
  rfl

theorem World.Alike.withCache (alike : World.Alike visitors others v w) {disk memory : Cache}
    {all : List ForeignFile} (caches : Cache.Alike (all ++ visitors w.outside) disk memory) :
    World.Alike visitors all (v.withCache disk) (w.withCache memory) where
  same := congrArg (·.withCache memory) alike.same
  caches := caches

theorem World.Alike.of_mem_iff (alike : World.Alike visitors others v w) {all : List ForeignFile}
    (same : ∀ file, file ∈ others ↔ file ∈ all) : World.Alike visitors all v w where
  same := alike.same
  caches := alike.caches.of_mem_iff fun file => by
    rw [List.mem_append, List.mem_append, same]

theorem World.Alike.of_withCache {disk memory : Cache}
    (caches : Cache.Alike (others ++ visitors w.outside) disk memory) :
    World.Alike visitors others (w.withCache disk) (w.withCache memory) :=
  ⟨rfl, caches⟩

end Alike

/-! ## Steps that agree -/

namespace Action

theorem agrees_pure (a : α) : (pure a : Action σ α).Agrees visitors :=
  fun _ _ _ alike => ⟨rfl, alike⟩

theorem Agrees.bind {action : Action σ α} {next : α → Action σ β} (first : action.Agrees visitors)
    (rest : ∀ a, (next a).Agrees visitors) : (action >>= next).Agrees visitors := by
  intro others v w alike
  obtain ⟨same, between⟩ := first others v w alike
  have last := rest (action.run v).1 others _ _ between
  rw [StateT.run_bind, StateT.run_bind]
  change ((next (action.run v).1).run (action.run v).2).1 =
      ((next (action.run w).1).run (action.run w).2).1 ∧
    World.Alike visitors others ((next (action.run v).1).run (action.run v).2).2
      ((next (action.run w).1).run (action.run w).2).2
  rw [← same]
  exact last

/-- What is read from alike caches is the same. -/
theorem agrees_read {f : Device → α}
    (same : ∀ (foreign : List ForeignFile) (d : Device) (disk memory : Cache),
      Cache.Alike foreign disk memory →
        f { d with cache := disk } = f { d with cache := memory }) :
    (read f : Action σ α).Agrees visitors := by
  intro others v w alike
  have device : w.device = { v.device with cache := w.device.cache } :=
    (congrArg World.device alike.same).symm
  refine ⟨?_, alike⟩
  rw [run_read, run_read, device]
  exact same _ v.device v.device.cache w.device.cache alike.caches

/-- Alike caches that are changed in the same way stay alike. -/
theorem agrees_change {f : Cache → Cache}
    (keeps : ∀ (foreign : List ForeignFile) (disk memory : Cache),
      Cache.Alike foreign disk memory → Cache.Alike foreign (f disk) (f memory)) :
    (change fun d => { d with cache := f d.cache } : Action σ Unit).Agrees visitors := by
  intro others v w alike
  exact ⟨rfl, alike.withCache (keeps _ _ _ alike.caches)⟩

end Action

namespace Attempt

theorem agrees_bind {attempt : Attempt σ α} {next : α → Attempt σ β}
    (first : attempt.run.Agrees visitors) (rest : ∀ a, (next a).run.Agrees visitors) :
    (attempt >>= next).run.Agrees visitors := by
  rw [ExceptT.run_bind]
  refine first.bind fun result => ?_
  cases result with
  | ok a => exact rest a
  | error e => exact Action.agrees_pure _

theorem agrees_lift {action : Action σ α} (agrees : action.Agrees visitors) :
    (ExceptT.lift action : Attempt σ α).run.Agrees visitors :=
  agrees.bind fun a => Action.agrees_pure (.ok a : Except SyncError α)

end Attempt

/-- A request to a server that spares the cache is answered alike in alike worlds. -/
theorem Environment.SparesCache.agrees_get {env : Environment σ} (spares : env.SparesCache visitors)
    (url : String) (since? : Option String) : (env.get url since?).run.Agrees visitors := by
  intro others v w alike
  obtain ⟨answer, after, files, grown, answered⟩ := spares url since? v
  have onDisk := answered v.device.cache
  have inMemory := answered w.device.cache
  rw [alike.same] at inMemory
  change (env.get url since?).run.run v = _ at onDisk
  rw [onDisk, inMemory]
  refine ⟨rfl, .of_withCache ?_⟩
  rw [grown, alike.outside]
  refine (alike.caches.appearAll files).of_mem_iff fun file => ?_
  simp only [List.mem_append, List.mem_reverse]
  tauto

/-! ## A cycle of the download -/

namespace Fetch

variable {env : Environment σ} (spares : env.SparesCache visitors)

theorem agrees_cached (url : String) :
    (cached (Digest.urlKey url) : Action σ (Option String)).Agrees visitors := by
  refine Action.agrees_read fun foreign d disk memory alike => ?_
  dsimp only
  rw [alike.get (Digest.isFileKey_urlKey url)]

include spares

theorem agrees_fetchFile (url : String) : (fetchFile env url).run.Agrees visitors := by
  refine Attempt.agrees_bind (Attempt.agrees_lift (agrees_cached url)) fun text? => ?_
  cases text? with
  | some body => exact Action.agrees_pure _
  | none =>
    refine Attempt.agrees_bind (spares.agrees_get url none) fun response => ?_
    refine Attempt.agrees_bind (Action.agrees_pure _) fun body => ?_
    refine Attempt.agrees_bind (Attempt.agrees_lift ?_) fun _ => Action.agrees_pure _
    exact Action.agrees_change fun foreign disk memory alike =>
      (alike.put (Digest.isFileKey_urlKey url) body).2

theorem agrees_fetchFiles (urls : List String) : (fetchFiles env urls).run.Agrees visitors := by
  induction urls with
  | nil => exact Action.agrees_pure _
  | cons url rest ih =>
    refine Attempt.agrees_bind (agrees_fetchFile spares url) fun _ => ?_
    exact Attempt.agrees_bind ih fun _ => Action.agrees_pure _

/-- A cycle gives the same result and leads to alike worlds. -/
theorem agrees_fetchIfNewer (settings : Settings) (reference? : Option String) :
    (fetchIfNewer env settings reference?).run.Agrees visitors := by
  refine Attempt.agrees_bind (spares.agrees_get _ _) fun response => ?_
  split
  · exact Action.agrees_pure _
  · split
    · exact Action.agrees_pure _
    · refine Attempt.agrees_bind (Action.agrees_pure _) fun manifest => ?_
      refine Attempt.agrees_bind (agrees_fetchFiles spares _) fun files => ?_
      refine Attempt.agrees_bind (Attempt.agrees_lift ?_) fun _ => Action.agrees_pure _
      exact Action.agrees_change fun foreign disk memory alike => alike_purge alike _

end Fetch

/-! ## Step by step -/

/-- What is done with a cache under the keys of URLs, or beside it by another program. A cycle of
the download is made since a reference date, if there is one. -/
inductive CacheStep where
  | get (url : String)
  | put (url text : String)
  | keys
  | delete (url : String)
  | appear (file : ForeignFile)
  | cycle (settings : Fetch.Settings) (reference? : Option String)

/-- What a step gives: nothing, where another program has acted. -/
inductive CacheAnswer where
  | text (result : Except SyncError (Option String))
  | changed (result : Except SyncError Unit)
  | keys (result : Except SyncError (List String))
  | fetched (result : Except SyncError (Option Fetch.Fetched))
  | nothing
  deriving DecidableEq

/-- Does something with the cache, and gives what that gives. -/
def Action.onCache (f : Cache → α × Cache) : Action σ α := fun w =>
  ((f w.device.cache).1, w.withCache (f w.device.cache).2)

/-- Takes a step. -/
def CacheStep.take (env : Environment σ) : CacheStep → Action σ CacheAnswer
  | get url => .onCache fun cache => (.text (cache.get (Digest.urlKey url)), cache)
  | put url text => .onCache fun cache =>
    let (result, after) := cache.put (Digest.urlKey url) text
    (.changed result, after)
  | keys => .onCache fun cache => (.keys cache.keys, cache)
  | delete url => .onCache fun cache =>
    let (result, after) := cache.delete (Digest.urlKey url)
    (.changed result, after)
  | appear file => .onCache fun cache => (.nothing, cache.appear file)
  | cycle settings reference? => do
    let result ← (Fetch.fetchIfNewer env settings reference?).run
    return .fetched result

/-- The foreign files that appear in a step, beside those that appear while the server answers. -/
def CacheStep.appeared : CacheStep → List ForeignFile
  | appear file => [file]
  | _ => []

/-- A device with a cache, where nothing has passed between the program and the outside yet. -/
def beforeSteps (device : Device) (outside : σ) (cache : Cache) : World (σ × Transcript) :=
  ⟨{ device with cache }, (outside, [])⟩

/-- The answers to steps, one after another, and the world after them. -/
def afterSteps (env : Environment σ) : List CacheStep → World σ → List CacheAnswer × World σ
  | [], w => ([], w)
  | step :: rest, w =>
    let (answer, after) := (step.take env).run w
    let (answers, last) := afterSteps env rest after
    (answer :: answers, last)

section Steps

variable {env : Environment σ} (spares : env.SparesCache visitors) {v w : World σ}
  {others : List ForeignFile}

theorem World.Alike.onCache (alike : World.Alike visitors others v w) {f : Cache → α × Cache}
    (files : List ForeignFile) (step : ∀ {foreign : List ForeignFile} {disk memory : Cache},
      Cache.Alike foreign disk memory → (f disk).1 = (f memory).1 ∧
        Cache.Alike (files ++ foreign) (f disk).2 (f memory).2) :
    ((Action.onCache f).run v).1 = ((Action.onCache f).run w).1 ∧
      World.Alike visitors (files ++ others) ((Action.onCache f).run v).2
        ((Action.onCache f).run w).2 := by
  obtain ⟨same, after⟩ := step alike.caches
  rw [← List.append_assoc] at after
  exact ⟨same, alike.withCache after⟩

include spares

/-- A step gives the same answer in alike worlds and leads to alike worlds, in whose caches the
foreign file lies that appears in it. -/
theorem World.Alike.take (alike : World.Alike visitors others v w) (step : CacheStep) :
    ((step.take env).run v).1 = ((step.take env).run w).1 ∧
      World.Alike visitors (step.appeared ++ others) ((step.take env).run v).2
        ((step.take env).run w).2 := by
  cases step with
  | get url =>
    rw [CacheStep.take]
    refine alike.onCache [] ?_
    intro foreign disk memory caches
    exact ⟨congrArg CacheAnswer.text (caches.get (Digest.isFileKey_urlKey url)), caches⟩
  | put url text =>
    refine alike.onCache [] ?_
    intro foreign disk memory caches
    obtain ⟨same, after⟩ := caches.put (Digest.isFileKey_urlKey url) text
    exact ⟨congrArg CacheAnswer.changed same, after⟩
  | keys =>
    rw [CacheStep.take]
    refine alike.onCache [] ?_
    intro foreign disk memory caches
    exact ⟨congrArg CacheAnswer.keys caches.keys, caches⟩
  | delete url =>
    refine alike.onCache [] ?_
    intro foreign disk memory caches
    obtain ⟨same, after⟩ := caches.delete (Digest.isFileKey_urlKey url)
    exact ⟨congrArg CacheAnswer.changed same, after⟩
  | appear file =>
    refine alike.onCache [file] ?_
    intro foreign disk memory caches
    exact ⟨rfl, caches.appear file⟩
  | cycle settings reference? =>
    have agrees := (Fetch.agrees_fetchIfNewer spares settings reference?).bind fun result =>
      Action.agrees_pure (CacheAnswer.fetched result)
    exact agrees others v w alike

/-- Steps give the same answers in alike worlds and lead to alike worlds. -/
theorem World.Alike.takeAll (alike : World.Alike visitors others v w) (steps : List CacheStep) :
    (afterSteps env steps v).1 = (afterSteps env steps w).1 ∧
      World.Alike visitors (steps.flatMap CacheStep.appeared ++ others) (afterSteps env steps v).2
        (afterSteps env steps w).2 := by
  -- On the steps; that the worlds are alike is what each of them leaves.
  induction steps generalizing v w others with
  | nil => exact ⟨rfl, alike⟩
  | cons step rest ih =>
    obtain ⟨answer, between⟩ := alike.take spares step
    obtain ⟨answers, last⟩ := ih between
    refine ⟨congrArg₂ List.cons answer answers, last.of_mem_iff fun file => ?_⟩
    simp only [List.flatMap_cons, List.mem_append]
    tauto

end Steps

/-- A cache on a disk, whose directory has not been made at first, and an empty cache in memory are
interchangeable. Whatever is read, put, listed and removed under the keys of URLs, whatever cycles
of the download are made and whatever foreign files appear: each step gives the same answer with
either cache, and the server is asked the same. Every foreign file that has appeared is still there
in the end, with the octets of one of its name. -/
theorem disk_and_memory_interchangeable (env : Environment σ) (visitors : σ → List ForeignFile)
    (spares : env.SparesCache visitors) (device : Device) (outside : σ)
    (nobody : visitors outside = []) (steps : List CacheStep) :
    let onDisk := afterSteps env.transcribed steps (beforeSteps device outside .onDisk)
    let inMemory := afterSteps env.transcribed steps (beforeSteps device outside .inMemory)
    let foreign := steps.flatMap CacheStep.appeared ++ visitors onDisk.2.outside.1
    onDisk.1 = inMemory.1 ∧ onDisk.2.asks = inMemory.2.asks ∧
      ∀ file ∈ foreign, ∃ other ∈ foreign, other.name = file.name ∧
        onDisk.2.device.cache.node? file.name = some (.file other.octets) := by
  intro onDisk inMemory foreign
  have alike : World.Alike (fun outside => visitors outside.1) []
      (beforeSteps device outside .onDisk) (beforeSteps device outside .inMemory) := by
    refine ⟨rfl, ?_⟩
    rw [List.nil_append]
    exact nobody.symm ▸ Cache.alike_start
  obtain ⟨answers, after⟩ := alike.takeAll spares.transcribed steps
  have asks : onDisk.2.asks = inMemory.2.asks :=
    congrArg (fun outside : σ × Transcript => Transcript.asks outside.2) after.outside
  refine ⟨answers, asks, fun file there => ?_⟩
  rw [List.append_nil] at after
  have caches := after.caches
  rw [← after.outside] at caches
  exact caches.beside there

/-! ## A file that appears while the server answers -/

/-- A file with notes. -/
def notesFile : ForeignFile :=
  ⟨"notes.txt", Digest.octets "seen", by decide +kernel, by decide +kernel⟩

/-- A server with texts under URLs. Whenever it is asked, notes are put into the directory of the
cache. -/
def visitedServing (pages : List (String × String)) : Environment (Unit × List ForeignFile) :=
  { (Fetch.serving pages).beside with get := fun url since? => do
      (Action.onCache fun cache => ((), cache.appear notesFile) :
        Action (Unit × List ForeignFile) Unit)
      (Action.record notesFile : Action (Unit × List ForeignFile) Unit)
      (Fetch.serving pages).beside.get url since? }

theorem sparesCache_visitedServing (pages : List (String × String)) :
    (visitedServing pages).SparesCache Prod.snd := by
  intro url since? w
  exact ⟨.ok (Fetch.pageOf pages url), ⟨w.device, (w.outside.1, w.outside.2 ++ [notesFile])⟩,
    [notesFile], rfl, fun cache => rfl⟩

/-- Notes appear and a text is put beside them. Then a cycle is made for a manifest that does not
name it. -/
def visitedSteps : List CacheStep :=
  [.keys, .delete "https://conf.example/Aa.json", .appear notesFile,
    .put "https://conf.example/old.json" "\x7b\x7d",
    .cycle (.standard "https://conf.example/manifest.json") none, .keys,
    .get "https://conf.example/BB.json", .get "https://conf.example/old.json"]

/-- The answers to these steps, taken with a cache, and the world after them. -/
def afterVisit (cache : Cache) :
    List CacheAnswer × World ((Unit × List ForeignFile) × Transcript) :=
  afterSteps (visitedServing Fetch.alikePages).transcribed visitedSteps
    (beforeSteps (.start .initial .inMemory) ((), []) cache)

/-- In memory the cycle removes the text and keeps the one that it has fetched. -/
theorem outcome_afterVisit :
    (afterVisit .inMemory).1.drop 5 =
        [.keys (.ok ["37c47cb60000001c.json"]), .text (.ok (some "\x7b\"rooms\":[]\x7d")),
          .text (.ok none)] ∧
      (afterVisit .inMemory).2.asks.map Ask.url =
        ["https://conf.example/manifest.json", "https://conf.example/Aa.json"] := by
  decide +kernel

/-- It does so on a disk, where the notes are left. -/
theorem disk_and_memory_interchangeable_visited :
    (afterVisit .onDisk).1.drop 5 =
        [.keys (.ok ["37c47cb60000001c.json"]), .text (.ok (some "\x7b\"rooms\":[]\x7d")),
          .text (.ok none)] ∧
      (afterVisit .onDisk).2.asks.map Ask.url =
        ["https://conf.example/manifest.json", "https://conf.example/Aa.json"] ∧
      ∃ octets, (afterVisit .onDisk).2.device.cache.node? "notes.txt" = some (.file octets) := by
  obtain ⟨answers, asked⟩ := outcome_afterVisit
  obtain ⟨same, asks, beside⟩ := disk_and_memory_interchangeable
    (visitedServing Fetch.alikePages) Prod.snd (sparesCache_visitedServing Fetch.alikePages)
    (.start .initial .inMemory) ((), []) rfl visitedSteps
  have appeared : visitedSteps.flatMap CacheStep.appeared = [notesFile] := rfl
  rw [appeared] at beside
  obtain ⟨other, -, -, here⟩ := beside notesFile (List.mem_append_left _ List.mem_cons_self)
  unfold afterVisit at answers asked ⊢
  rw [same, asks]
  exact ⟨answers, asked, other.octets, here⟩

end ConferenceSync
