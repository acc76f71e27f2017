import ConferenceSync.Proofs.StoreEvents

/-!
# The index for searches mirrors the sessions

The index is made anew by an observer, after a batch has been made. So it is out of date between a
batch and its notices; but a batch that concerns sessions gives a notice that makes the observer
act, on whosever behalf it is made, and a batch that is refused gives none and changes nothing.
Whatever happens to a store that such an observer observes, afterwards the index holds one text for
each session and no other.

## Main definitions

* `SearchTables`, `Database.searchTables` — what of a database a search depends on
* `SearchTables.Ready`, `SearchTables.UpToDate` — that the index can be made anew, and that it holds
  the texts of the sessions
* `Environment.KeepsIndex` — that the observer is there, and that nobody else changes what a search
  depends on

## Main results

* `exists_affecting_notice` — a batch that concerns sessions gives a notice that concerns the index
* `leads_announce` — with such a notice the index is brought up to date
* `preserves_upToDate_commitBatch` — so it is by a batch with its notices
* `index_mirrors_sessions` — whatever happens, the index mirrors the sessions
-/

namespace ConferenceSync

variable {σ α : Type}

/-! ## What a search depends on -/

/-- What of a database a search for sessions depends on. -/
structure SearchTables where
  closed : Bool
  sessions : Option (Dict (StoredRow .sessions))
  index : Option (Dict String)

/-- What of a database a search depends on. -/
def Database.searchTables (db : Database) : SearchTables :=
  ⟨db.closed, db.tables.get .sessions, db.searchIndex⟩

namespace SearchTables

/-- Whether the index can be made anew. -/
structure Ready (t : SearchTables) : Prop where
  isOpen : t.closed = false
  sessions : t.sessions.isSome = true
  index : t.index.isSome = true

/-- Whether the index holds the text of each session, and no other. -/
def UpToDate (t : SearchTables) : Prop :=
  t.closed = false ∧ ∃ sessions, t.sessions = some sessions ∧
    t.index = some (sessions.map fun row => searchText row.columns)

theorem UpToDate.ready {t : SearchTables} (upToDate : t.UpToDate) : t.Ready := by
  obtain ⟨isOpen, sessions, stored, indexed⟩ := upToDate
  exact ⟨isOpen, by rw [stored]; rfl, by rw [indexed]; rfl⟩

end SearchTables

open SearchTables

theorem upToDate_initial : Database.initial.searchTables.UpToDate := ⟨rfl, .empty, rfl, rfl⟩

theorem rebuildSearchIndex_eq {db : Database} {sessions : Dict (StoredRow .sessions)}
    {texts : Dict String} (rows : db.rows .sessions = .ok sessions)
    (old : db.searchRows = .ok texts) :
    db.rebuildSearchIndex =
      .ok ({ db with searchIndex := some (sessions.map fun row => searchText row.columns) },
        sessions.size) := by
  have isOpen : db.closed = false := (Database.need_eq_ok_iff.1 old).1
  rw [Database.rebuildSearchIndex, if_neg (by rw [isOpen]; exact Bool.false_ne_true), old, rows]
  rfl

/-- If the index can be made anew, it is. -/
theorem upToDate_rebuildIndex {w : World σ} (ready : w.device.db.searchTables.Ready) :
    ((rebuildIndex : Action σ Unit).run w).2.device.db.searchTables.UpToDate := by
  obtain ⟨sessions, stored⟩ := Option.isSome_iff_exists.1 ready.sessions
  obtain ⟨texts, indexed⟩ := Option.isSome_iff_exists.1 ready.index
  have rows : w.device.db.rows .sessions = .ok sessions :=
    Database.rows_eq_ok_iff.2 ⟨ready.isOpen, stored⟩
  have old : w.device.db.searchRows = .ok texts :=
    Database.need_eq_ok_iff.2 ⟨ready.isOpen, indexed⟩
  rw [rebuildIndex, Action.run_change, rebuildSearchIndex_eq rows old]
  exact ⟨ready.isOpen, sessions, stored, rfl⟩

/-! ## Notices -/

/-- Whether a notice concerns the index. -/
def Notice.affectsIndex : Notice → Bool
  | .batch paths => paths.any ConferenceSync.affectsIndex
  | .change path => ConferenceSync.affectsIndex path

theorem hear_indexUpdater (notice : Notice) :
    (indexUpdater : Observer σ).hear notice =
      if notice.affectsIndex then rebuildIndex else pure () := by
  cases notice <;> rfl

/-- A batch that concerns sessions gives a notice that concerns the index, on whosever behalf it is
made. -/
theorem exists_affecting_notice {batch : Batch} {m : Mutation} (listed : m ∈ batch)
    (sessions : m.kind = .sessions) (origin : Origin) :
    ∃ notice ∈ notices origin batch, notice.affectsIndex = true := by
  have some : batch.isEmpty = false := by
    cases batch with
    | nil => exact absurd listed List.not_mem_nil
    | cons _ _ => rfl
  have affects : affectsIndex (Kind.path .sessions) = true := by decide
  cases origin with
  | sync =>
    refine ⟨.batch (batch.kindsTouched.map Kind.path), by simp [notices, some], ?_⟩
    refine List.any_eq_true.2 ⟨Kind.path .sessions, ?_, affects⟩
    exact List.mem_map_of_mem (Batch.mem_kindsTouched.2 ⟨m, listed, sessions⟩)
  | caller =>
    refine ⟨.change m.kind.path, ?_, by rw [sessions]; exact affects⟩
    rw [notices, some]
    exact List.mem_map_of_mem listed

/-- A batch that does not concern sessions leaves their rows as they are. -/
theorem rows_sessions_afterAll {c : Contents} {batch : Batch}
    (others : ∀ m ∈ batch, m.kind ≠ .sessions) :
    (c.afterAll batch).rows .sessions = c.rows .sessions := by
  induction batch generalizing c with
  | nil => rfl
  | cons m rest ih =>
    have first : (c.apply m).rows .sessions = c.rows .sessions := by
      have other := others m List.mem_cons_self
      have apart {table : Table} (kind : table.kind ≠ .sessions) : Table.sessions ≠ table :=
        fun same => kind (same ▸ rfl)
      cases m with
      | deleteAll table => exact Contents.rows_setRows_of_ne _ (apart other)
      | deleteById table id => exact Contents.rows_setRows_of_ne _ (apart other)
      | insert row => exact Contents.rows_setRows_of_ne _ (apart other)
      | update row => exact Contents.rows_setRows_of_ne _ (apart other)
      | deleteAllLinks | deleteLinks | insertLink => exact absurd rfl other
    exact (ih fun m listed => others m (List.mem_cons_of_mem _ listed)).trans first

/-- If one of several steps leads from `R` to `P`, and no step leaves either, all of them together
lead from `R` to `P`. -/
theorem leads_forM {R P : World σ → Prop} {actions : α → Action σ Unit} {l : List α}
    (keep : ∀ a ∈ l, (actions a).Preserves R) (stay : ∀ a ∈ l, (actions a).Preserves P)
    (arrive : ∃ a ∈ l, ∀ w, R w → P ((actions a).run w).2) {w : World σ} (start : R w) :
    P ((l.forM actions).run w).2 := by
  induction l generalizing w with
  | nil =>
    obtain ⟨_, none, -⟩ := arrive
    exact absurd none List.not_mem_nil
  | cons a rest ih =>
    obtain ⟨b, listed, leads⟩ := arrive
    have stays := fun c (later : c ∈ rest) => stay c (List.mem_cons_of_mem a later)
    rcases List.mem_cons.1 listed with rfl | later
    · exact preserves_forM stays _ (leads w start)
    · exact ih (fun c later => keep c (List.mem_cons_of_mem a later)) stays ⟨b, later, leads⟩
        (keep a List.mem_cons_self w start)

/-! ## A store that is observed -/

/-- Whether the observer that keeps the index is among those of an environment, and nobody else
changes what a search depends on. -/
structure Environment.KeepsIndex (env : Environment σ) : Prop where
  registered : indexUpdater ∈ env.observers
  observers : ∀ observer ∈ env.observers, observer = indexUpdater ∨
    ∀ notice v, (observer.hear notice).Preserves fun w => w.device.db.searchTables = v
  parts : env.Keeps fun d => d.db.searchTables

section KeepsIndex

variable {env : Environment σ} (keeps : env.KeepsIndex)

/-- To make the index anew takes away nothing of what a search depends on. -/
theorem preserves_hear_of_ready (notice : Notice) {Q : SearchTables → Prop}
    (ready : ∀ t, Q t → t.Ready) (upToDate : ∀ t, t.UpToDate → Q t) :
    ((indexUpdater : Observer σ).hear notice).Preserves fun w => Q w.device.db.searchTables := by
  intro w held
  rw [hear_indexUpdater]
  split
  · exact upToDate _ (upToDate_rebuildIndex (ready _ held))
  · exact held

include keeps

/-- No observer takes away what the index is made of, nor what it holds once it is up to date. -/
theorem observersPreserve_searchTables {Q : SearchTables → Prop} (ready : ∀ t, Q t → t.Ready)
    (upToDate : ∀ t, t.UpToDate → Q t) :
    env.ObserversPreserve fun w => Q w.device.db.searchTables := by
  intro observer listed notice
  rcases keeps.observers observer listed with rfl | aside
  · exact preserves_hear_of_ready notice ready upToDate
  · intro w held
    rw [aside notice _ w rfl]
    exact held

/-- A notice that concerns the index leads to one that is up to date. -/
theorem leads_announce {notices : List Notice}
    (affected : ∃ notice ∈ notices, notice.affectsIndex = true) {w : World σ}
    (ready : w.device.db.searchTables.Ready) :
    ((announce env.observers notices).run w).2.device.db.searchTables.UpToDate := by
  have keep := observersPreserve_searchTables keeps (Q := Ready) (fun _ => id)
    fun _ => UpToDate.ready
  have stay := observersPreserve_searchTables keeps (Q := UpToDate) (fun _ => UpToDate.ready)
    fun _ => id
  obtain ⟨notice, given, affects⟩ := affected
  refine leads_forM (R := fun w => w.device.db.searchTables.Ready)
    (P := fun w => w.device.db.searchTables.UpToDate)
    (fun notice _ => preserves_forM fun observer listed => keep observer listed notice)
    (fun notice _ => preserves_forM fun observer listed => stay observer listed notice)
    ⟨notice, given, fun w ready => ?_⟩ ready
  refine leads_forM (R := fun w => w.device.db.searchTables.Ready)
    (P := fun w => w.device.db.searchTables.UpToDate)
    (fun observer listed => keep observer listed notice)
    (fun observer listed => stay observer listed notice)
    ⟨indexUpdater, keeps.registered, fun w ready => ?_⟩ ready
  rw [hear_indexUpdater, if_pos affects]
  exact upToDate_rebuildIndex ready

/-- After a batch with its notices the index is up to date if it was before. -/
theorem preserves_upToDate_commitBatch (origin : Origin) (batch : Batch) :
    (commitBatch env origin batch).run.Preserves fun w =>
      w.device.db.searchTables.UpToDate := by
  intro w upToDate
  obtain ⟨isOpen, sessions, stored, indexed⟩ := upToDate
  change w.device.db.tables.get .sessions = some sessions at stored
  rcases w.device.db.commit_cases isOpen batch with ⟨-, made, done, rewritten⟩ | ⟨-, e, failed⟩
  · rw [run_commitBatch_of_ok env origin done]
    have now : made.tables.get .sessions =
        some ((w.device.db.contents.afterAll batch).rows .sessions) :=
      rewritten.tables_eq (Option.isSome_iff_exists.2 ⟨sessions, stored⟩)
    have index : made.searchIndex = some (sessions.map fun row => searchText row.columns) :=
      rewritten.aside.searchIndex.trans indexed
    by_cases concerned : ∃ m ∈ batch, m.kind = .sessions
    · obtain ⟨m, listed, kind⟩ := concerned
      exact leads_announce keeps (exists_affecting_notice listed kind origin)
        ⟨rewritten.closed_eq_false isOpen, Option.isSome_iff_exists.2 ⟨_, now⟩,
          Option.isSome_iff_exists.2 ⟨_, index⟩⟩
    · rw [rows_sessions_afterAll fun m listed kind => concerned ⟨m, listed, kind⟩,
        Database.rows_contents_of_tables stored] at now
      exact preserves_announce (observersPreserve_searchTables keeps (Q := UpToDate)
        (fun _ => UpToDate.ready) fun _ => id) _ _
        ⟨rewritten.closed_eq_false isOpen, sessions, now, index⟩
  · rw [run_commitBatch_of_error env origin failed]
    exact ⟨isOpen, sessions, stored, indexed⟩

/-- Whatever happens to a store, the index is up to date afterwards if it was before. -/
theorem upToDate_afterEvents (events : List StoreEvent) {w : World σ}
    (upToDate : w.device.db.searchTables.UpToDate) :
    (afterEvents env events w).device.db.searchTables.UpToDate := by
  refine holds_after_events (fun db _ => db.searchTables.UpToDate)
    (preserves_upToDate_commitBatch keeps) ?_
    (fun w held => upToDate_rebuildIndex (UpToDate.ready held))
    (keeps.parts.preserves UpToDate) events upToDate
  intro db outside key value after written held
  obtain ⟨-, rfl⟩ := Metadata.set_eq_ok_iff.1 written
  exact held

end KeepsIndex

/-! ## What the index holds -/

/-- The text of a session is what is said about it, with single blanks between the parts and in
place of the commas between tags, in lower case as far as its letters are ASCII. -/
theorem searchText_eq (s : SessionColumns) :
    searchText s = Text.lowerAscii (s.title ++ " " ++ s.description ++ " " ++ s.speakerNames ++ " "
      ++ s.hashtag ++ " " ++ s.tags.map fun c => if c = ',' then ' ' else c) := by
  have tags : String.ofList (s.tags.toList.map fun c => if c = ',' then ' ' else c) =
      s.tags.map fun c => if c = ',' then ' ' else c := by
    apply String.toList_injective
    rw [String.toList_map, String.toList_ofList]
  rw [searchText, tags]
  rfl

/-- A server, with nobody but the observer that keeps the index. -/
theorem keepsIndex_indexedServing (pages : List (String × String)) :
    (Sync.indexedServing pages).KeepsIndex where
  registered := List.mem_singleton_self _
  observers _ listed := .inl (List.mem_singleton.1 listed)
  parts := Sync.keeps_indexedServing pages _

/-- Whatever happens to a store from the empty database on, batches on whosever behalf, made or
refused, imports and passes, the index for searches has a text for each session that is stored and
no other, and it is what is said about the session as it is stored. -/
theorem index_mirrors_sessions {env : Environment σ} (keeps : env.KeepsIndex)
    (events : List StoreEvent) {w : World σ} (start : w.device.db = .initial) :
    let db := (afterEvents env events w).device.db
    ∃ sessions index, db.rows .sessions = .ok sessions ∧ db.searchRows = .ok index ∧
      index.keys = sessions.keys ∧
      ∀ id row, sessions.get? id = some row → index.get? id = some (Text.lowerAscii
        (row.columns.title ++ " " ++ row.columns.description ++ " " ++ row.columns.speakerNames
          ++ " " ++ row.columns.hashtag ++ " "
          ++ row.columns.tags.map fun c => if c = ',' then ' ' else c)) := by
  intro db
  have first : w.device.db.searchTables.UpToDate := start ▸ upToDate_initial
  obtain ⟨isOpen, sessions, stored, indexed⟩ := upToDate_afterEvents keeps events first
  refine ⟨sessions, _, Database.rows_eq_ok_iff.2 ⟨isOpen, stored⟩,
    Database.need_eq_ok_iff.2 ⟨isOpen, indexed⟩, ?_, fun id row there => ?_⟩
  · exact Dict.keys_map _ sessions
  · rw [Dict.get?_map, there, Option.map_some, searchText_eq]

/-- A file with a talk is imported, a batch that would remove it is refused, and a pass finds no
server: the talk is there, and so is its text. -/
theorem index_mirrors_sessions_refused_removal :
    let talk : StoreEvent := .bring .standard .incremental .caller [("talk.json",
      "\x7b\"sessions\":[\x7b\"id\":\"s1\",\"title\":\"Opening\",\"tags\":[\"A\",\"B\"]\x7d]\x7d")]
    let removal : StoreEvent := .apply .sync
      [.deleteAll .sessions, .insertLink .tags "s1" "A11Y", .insertLink .tags "s1" "A11Y"]
    let events := [talk, removal, .turn (.pass Sync.plainSettings .manual)]
    let start : World Unit := ⟨.start .initial .inMemory, ()⟩
    let db := (afterEvents (Sync.indexedServing []) events start).device.db
    ∃ sessions index, db.rows .sessions = .ok sessions ∧ db.searchRows = .ok index ∧
      sessions.keys = ["s1"] ∧ index.get? "s1" = some "opening    a b" := by
  intro talk removal events start db
  have held : db.searchIndex.map Dict.entries = some [("s1", "opening    a b")] := by
    decide +kernel
  obtain ⟨sessions, index, stored, indexed, keys, -⟩ :=
    index_mirrors_sessions (keepsIndex_indexedServing []) events (w := start) rfl
  have found : db.searchIndex = some index := (Database.need_eq_ok_iff.1 indexed).2
  rw [found, Option.map_some, Option.some.injEq] at held
  refine ⟨sessions, index, stored, indexed, ?_, ?_⟩
  · rw [← keys, Dict.keys, held]
    rfl
  · rw [Dict.get?, held]
    rfl

end ConferenceSync
