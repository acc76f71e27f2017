import Mathlib.Data.List.Induction
import ConferenceSync.Proofs.Queries
import ConferenceSync.Proofs.StoreEvents
import ConferenceSync.Store.Schedule

/-!
# The attendee's schedule outlasts everything

An attendee marks sessions at any time: between what happens to the store, and while a pass is
waiting for something. Neither batches, made or refused, nor imports, passes and new indexes touch
the marks. So whether a session is in the schedule is what its last mark says, whether or not the
session is stored at the moment; and the sessions in the schedule are those of the stored ones, in
the order in which they start.

Whether a session is in the schedule and which sessions are is read in two ways, from any mark but 0
and from the mark 1. Both agree because no other mark is ever made.

## Main definitions

* `Mark`, `Mark.make` — a session is put into the schedule or taken out, which is noted
* `Environment.attended` — an environment in which an attendee makes marks whenever the outside is
  turned to
* `ScheduleEvent` — what may happen to a store with an attendee
* `markedLast` — what the last mark of a session says
* `ScheduleTables.Noted` — that the stored marks are those that have been noted

## Main results

* `preserves_attended` — what outlasts marks is preserved by what the outside does meanwhile
* `noted_after_events` — the stored marks are those that have been noted, whatever happens
* `marks_sublist_noted`, `marks_eq_noted` — which marks have been noted
* `schedule_outlasts_everything` — the schedule and both ways to read it
-/

namespace ConferenceSync

variable {σ α β : Type}

/-! ## Marks -/

/-- A session, which need not be stored, is put into the schedule or taken out. -/
structure Mark where
  sessionId : String
  inSchedule : Bool
  deriving DecidableEq, Repr

/-- Makes a mark, and notes it whether it can be stored or not. -/
def Mark.make (mark : Mark) : Action (σ × List Mark) Unit := fun w =>
  let db :=
    match w.device.db.setInSchedule mark.sessionId mark.inSchedule with
    | .ok db => db
    | .error _ => w.device.db
  ((), ⟨{ w.device with db }, (w.outside.1, w.outside.2 ++ [mark])⟩)

/-- What the last mark of a session says. A session without a mark is not in the schedule. -/
def markedLast (marks : List Mark) (sessionId : String) : Bool :=
  match (marks.filter fun mark => mark.sessionId = sessionId).getLast? with
  | some mark => mark.inSchedule
  | none => false

/-! ## An attendee -/

/-- What an attendee does when the outside is turned to: makes some marks, which depends on the
state of the outside and may change it. -/
abbrev Attendee (σ : Type) := σ → List Mark × σ

/-- Lets an attendee make marks. -/
def Attendee.act (attendee : Attendee σ) : Action (σ × List Mark) Unit := fun w =>
  let (marks, outside) := attendee w.outside.1
  (marks.forM Mark.make).run ⟨w.device, (outside, w.outside.2)⟩

/-- An action before which an attendee makes marks. -/
def Action.attended (attendee : Attendee σ) (action : Action σ α) : Action (σ × List Mark) α := do
  attendee.act
  action.beside

/-- An attempt before which an attendee makes marks. -/
def Attempt.attended (attendee : Attendee σ) (attempt : Attempt σ α) :
    Attempt (σ × List Mark) α :=
  ExceptT.mk (Action.attended attendee attempt.run)

/-- An observer before whom an attendee makes marks. -/
def Observer.attended (attendee : Attendee σ) (observer : Observer σ) :
    Observer (σ × List Mark) where
  onChange path := (observer.onChange path).attended attendee
  onBatch paths := (observer.onBatch paths).attended attendee

/-- The environment in which an attendee makes marks whenever the outside is turned to. -/
def Environment.attended (env : Environment σ) (attendee : Attendee σ) :
    Environment (σ × List Mark) where
  get url since? := (env.get url since?).attended attendee
  syncUser := env.syncUser.attended attendee
  refreshToken := env.refreshToken.attended attendee
  sendFeedback := env.sendFeedback.attended attendee
  now := env.now.attended attendee
  publish phase := (env.publish phase).attended attendee
  observers := env.observers.map (Observer.attended attendee)

section Attended

variable {part : Device → β} {Q : β → List Mark → Prop} {attendee : Attendee σ}
  (make : ∀ outside, ∀ mark ∈ (attendee outside).1,
    mark.make.Preserves fun w : World (σ × List Mark) => Q (part w.device) w.outside.2)

include make

/-- What is preserved by each mark that an attendee may make is preserved by all of them. -/
theorem preserves_act : attendee.act.Preserves fun w => Q (part w.device) w.outside.2 := by
  intro w held
  exact preserves_forM (make w.outside.1)
    ⟨w.device, ((attendee w.outside.1).2, w.outside.2)⟩ held

/-- What outlasts marks is preserved by an action before which marks are made, if that leaves the
part of the device alone. -/
theorem preserves_attended {action : Action σ α}
    (keeps : ∀ v, action.Preserves fun w => part w.device = v) :
    (action.attended attendee).Preserves fun w => Q (part w.device) w.outside.2 := by
  refine (preserves_act make).bind fun _ w held => ?_
  have kept : part (action.run w.forget).2.device = part w.device := keeps _ w.forget rfl
  show Q (part (action.run w.forget).2.device) w.outside.2
  rw [kept]
  exact held

variable {env : Environment σ}

theorem Environment.Keeps.attended (keeps : env.Keeps part) :
    (env.attended attendee).Preserves fun w => Q (part w.device) w.outside.2 where
  get url since? := preserves_attended make fun v => (keeps v).get url since?
  syncUser := preserves_attended make fun v => (keeps v).syncUser
  refreshToken := preserves_attended make fun v => (keeps v).refreshToken
  sendFeedback := preserves_attended make fun v => (keeps v).sendFeedback
  now := preserves_attended make fun v => (keeps v).now
  publish phase := preserves_attended make fun v => (keeps v).publish phase

theorem Environment.ObserversKeep.attended (keeps : env.ObserversKeep part) :
    (env.attended attendee).ObserversPreserve fun w => Q (part w.device) w.outside.2 := by
  intro observer listed notice
  obtain ⟨own, there, rfl⟩ := List.mem_map.1 listed
  cases notice with
  | batch paths => exact preserves_attended make fun v => keeps v own there (.batch paths)
  | change path => exact preserves_attended make fun v => keeps v own there (.change path)

end Attended

/-! ## What is stored -/

/-- What of a database the attendee's schedule depends on. -/
structure ScheduleTables where
  closed : Bool
  sessions : Option (Dict (StoredRow .sessions))
  marks : Option (Dict Int)

/-- What of a database the attendee's schedule depends on. -/
def Database.scheduleTables (db : Database) : ScheduleTables :=
  ⟨db.closed, db.tables.get .sessions, db.schedule⟩

/-- The marks as they are stored: of two marks of a session the later one counts. -/
def storedMarks (marks : List Mark) : Dict Int :=
  .ofList (marks.map fun mark => (mark.sessionId, scheduleMark mark.inSchedule))

theorem storedMarks_append_singleton (marks : List Mark) (mark : Mark) :
    storedMarks (marks ++ [mark]) =
      (storedMarks marks).insert mark.sessionId (scheduleMark mark.inSchedule) := by
  simp [storedMarks, Dict.ofList]

/-- What is stored of a session is its last mark. -/
theorem get?_storedMarks (marks : List Mark) (id : String) :
    (storedMarks marks).get? id =
      ((marks.filter fun mark => mark.sessionId = id).getLast?).map
        fun mark => scheduleMark mark.inSchedule := by
  -- On the marks from the last one backwards: either it is about the session, or it does not count.
  induction marks using List.reverseRecOn with
  | nil => rfl
  | append_singleton marks mark ih =>
    rw [storedMarks_append_singleton, Dict.get?_insert, List.filter_append]
    by_cases about : mark.sessionId = id
    · simp [about]
    · simp [about, ih]

namespace ScheduleTables

/-- Whether the last mark of each session is stored and nothing else, and sessions lie under their
ids. -/
structure Noted (t : ScheduleTables) (marks : List Mark) : Prop where
  isOpen : t.closed = false
  sessions : ∃ rows, t.sessions = some rows ∧ Keyed rows
  marks : t.marks = some (storedMarks marks)

end ScheduleTables

open ScheduleTables

theorem noted_initial : Database.initial.scheduleTables.Noted [] where
  isOpen := rfl
  sessions := ⟨.empty, rfl, keyed_empty⟩
  marks := rfl

/-- A mark can be stored as long as the marks before it are. -/
theorem noted_make (mark : Mark) :
    mark.make.Preserves fun w : World (σ × List Mark) =>
      w.device.db.scheduleTables.Noted w.outside.2 := by
  intro w noted
  have rows : w.device.db.scheduleRows = .ok (storedMarks w.outside.2) :=
    Database.need_eq_ok_iff.2 ⟨noted.isOpen, noted.marks⟩
  have stored : w.device.db.setInSchedule mark.sessionId mark.inSchedule =
      .ok { w.device.db with schedule := some (storedMarks (w.outside.2 ++ [mark])) } := by
    rw [Database.setInSchedule, rows, storedMarks_append_singleton]
    rfl
  have made : (mark.make.run w).2 = ⟨{ w.device with
      db := { w.device.db with schedule := some (storedMarks (w.outside.2 ++ [mark])) } },
      (w.outside.1, w.outside.2 ++ [mark])⟩ := by
    show (mark.make w).2 = _
    rw [Mark.make, stored]
  rw [made]
  exact ⟨noted.isOpen, noted.sessions, rfl⟩

/-- A batch touches no mark. -/
theorem noted_commit {db after : Database} {marks : List Mark} {batch : Batch}
    (made : db.commit batch = .ok after) (noted : db.scheduleTables.Noted marks) :
    after.scheduleTables.Noted marks := by
  obtain ⟨rows, stored, keyed⟩ := noted.sessions
  rcases db.commit_cases noted.isOpen batch with ⟨-, other, done, rewritten⟩ | ⟨-, e, failed⟩
  · obtain rfl := Except.ok.inj (made.symm.trans done)
    have there : db.has (.records .sessions) = true :=
      Option.isSome_iff_exists.2 ⟨rows, stored⟩
    have before : db.contents.rows .sessions = rows := Database.rows_contents_of_tables stored
    refine ⟨rewritten.closed_eq_false noted.isOpen, ⟨_, rewritten.tables_eq there, ?_⟩,
      rewritten.aside.schedule.trans noted.marks⟩
    exact keyed_rows_afterAll (before ▸ keyed) batch
  · exact absurd (made.symm.trans failed) (by simp)

/-- To make the index for searches anew touches nothing that the schedule depends on. -/
theorem scheduleTables_rebuildIndex (w : World σ) :
    ((rebuildIndex : Action σ Unit).run w).2.device.db.scheduleTables =
      w.device.db.scheduleTables := by
  refine @preserves_rebuildIndex σ _ (fun d => d.db.scheduleTables) (fun d db _ same => ?_) _ w rfl
  show db.withoutIndex.scheduleTables = d.db.withoutIndex.scheduleTables
  rw [same]

/-! ## A store with an attendee -/

/-- What may happen to a store with an attendee, who may make marks while something else happens as
well. -/
inductive ScheduleEvent where
  | mark (mark : Mark)
  | store (event : StoreEvent)

/-- The mark that an event is. -/
def ScheduleEvent.mark? : ScheduleEvent → Option Mark
  | mark made => some made
  | store _ => none

/-- Lets an event happen. -/
def ScheduleEvent.happen (env : Environment (σ × List Mark)) :
    ScheduleEvent → Action (σ × List Mark) Unit
  | mark made => made.make
  | store event => event.happen env

/-- The world after events, one after another. -/
def afterScheduleEvents (env : Environment (σ × List Mark)) (events : List ScheduleEvent)
    (w : World (σ × List Mark)) : World (σ × List Mark) :=
  events.foldl (fun w event => ((event.happen env).run w).2) w

section Events

variable {env : Environment σ} (keeps : env.Keeps fun d => d.db.scheduleTables)
  (observers : env.ObserversKeep fun d => d.db.scheduleTables) (attendee : Attendee σ)

include keeps observers

/-- Whatever happens to the store, the stored marks stay those that have been noted. -/
theorem noted_happen (event : StoreEvent) :
    (event.happen (env.attended attendee)).Preserves fun w =>
      w.device.db.scheduleTables.Noted w.outside.2 := by
  have hearing := observers.attended fun outside mark (_ : mark ∈ (attendee outside).1) =>
    noted_make mark
  have parts := keeps.attended fun outside mark (_ : mark ∈ (attendee outside).1) => noted_make mark
  refine StoreEvent.preserves_happen
    (fun db (outside : σ × List Mark) => db.scheduleTables.Noted outside.2)
    (fun origin batch => ?_) ?_ ?_ parts event
  · exact preserves_commitBatch hearing origin fun w db noted made => noted_commit made noted
  · intro db outside key value after written noted
    obtain ⟨-, rfl⟩ := Metadata.set_eq_ok_iff.1 written
    exact noted
  · intro w noted
    rw [scheduleTables_rebuildIndex]
    exact noted

/-- Whatever happens to the store, only the attendee adds to the marks that have been noted. -/
theorem marks_happen {R : List Mark → Prop}
    (grow : ∀ outside, ∀ mark ∈ (attendee outside).1, ∀ marks, R marks → R (marks ++ [mark]))
    (event : StoreEvent) :
    (event.happen (env.attended attendee)).Preserves fun w => R w.outside.2 := by
  have make : ∀ outside, ∀ mark ∈ (attendee outside).1,
      mark.make.Preserves fun w : World (σ × List Mark) => R w.outside.2 :=
    fun outside mark made w held => grow outside mark made w.outside.2 held
  have hearing := observers.attended (Q := fun _ => R) make
  have parts := keeps.attended (Q := fun _ => R) make
  refine StoreEvent.preserves_happen (fun _ (outside : σ × List Mark) => R outside.2)
    (fun origin batch => ?_) (fun _ _ _ _ _ _ held => held) (fun _ held => held) parts event
  exact preserves_commitBatch hearing origin fun _ _ held _ => held

/-- The stored marks are those that have been noted, whatever happens. -/
theorem noted_after_events (events : List ScheduleEvent) {w : World (σ × List Mark)}
    (noted : w.device.db.scheduleTables.Noted w.outside.2) :
    (afterScheduleEvents (env.attended attendee) events w).device.db.scheduleTables.Noted
      (afterScheduleEvents (env.attended attendee) events w).outside.2 := by
  induction events generalizing w with
  | nil => exact noted
  | cons event rest ih =>
    cases event with
    | mark mark => exact ih (noted_make mark w noted)
    | store event => exact ih (noted_happen keeps observers attendee event w noted)

/-- The marks between what happens to the store are among those that are noted, in their order. -/
theorem marks_sublist_noted (events : List ScheduleEvent) {w : World (σ × List Mark)}
    {seen : List Mark} (noted : seen.Sublist w.outside.2) :
    (seen ++ events.filterMap ScheduleEvent.mark?).Sublist
      (afterScheduleEvents (env.attended attendee) events w).outside.2 := by
  induction events generalizing w seen with
  | nil =>
    rw [List.filterMap_nil, List.append_nil]
    exact noted
  | cons event rest ih =>
    cases event with
    | mark mark =>
      have grown : (seen ++ [mark]).Sublist (mark.make.run w).2.outside.2 :=
        noted.append (.refl [mark])
      have later := ih grown
      rwa [List.append_assoc] at later
    | store event =>
      have kept := marks_happen (R := (seen.Sublist ·)) keeps observers attendee
        (fun _ mark _ marks held => held.trans (List.sublist_append_left marks [mark])) event w
      exact ih (kept noted)

/-- While the attendee makes none meanwhile, there are no other marks. -/
theorem marks_eq_noted (idle : ∀ outside, (attendee outside).1 = []) (events : List ScheduleEvent)
    (w : World (σ × List Mark)) :
    (afterScheduleEvents (env.attended attendee) events w).outside.2 =
      w.outside.2 ++ events.filterMap ScheduleEvent.mark? := by
  induction events generalizing w with
  | nil => exact (List.append_nil _).symm
  | cons event rest ih =>
    cases event with
    | mark mark =>
      have later := ih (mark.make.run w).2
      rwa [show (mark.make.run w).2.outside.2 = w.outside.2 ++ [mark] from rfl,
        List.append_assoc] at later
    | store event =>
      have none : ∀ outside, ∀ mark ∈ (attendee outside).1, ∀ marks, marks = w.outside.2 →
          marks ++ [mark] = w.outside.2 := by
        intro outside mark made
        rw [idle outside] at made
        exact absurd made List.not_mem_nil
      have kept := marks_happen (R := (· = w.outside.2)) keeps observers attendee none event w rfl
      exact (ih _).trans (congrArg (· ++ _) kept)

end Events

/-! ## Reading the schedule -/

section Reading

variable {db : Database} {marks : List Mark}

/-- A session is in the schedule if its last mark says so. -/
theorem isInSchedule_of_noted (noted : db.scheduleTables.Noted marks) (id : String) :
    Query.isInSchedule db id = .ok (markedLast marks id) := by
  have rows : db.scheduleRows = .ok (storedMarks marks) :=
    Database.need_eq_ok_iff.2 ⟨noted.isOpen, noted.marks⟩
  simp only [Query.isInSchedule, rows, Except.map, orFailed, get?_storedMarks, markedLast]
  cases (marks.filter fun mark => mark.sessionId = id).getLast? with
  | none => rfl
  | some mark => cases inSchedule : mark.inSchedule <;> simp [scheduleMark, inSchedule]

/-- The mark 1 is stored of those sessions whose last mark puts them into the schedule. -/
theorem get?_storedMarks_eq_one_iff (marks : List Mark) (id : String) :
    (storedMarks marks).get? id = some 1 ↔ markedLast marks id = true := by
  rw [get?_storedMarks, markedLast]
  cases (marks.filter fun mark => mark.sessionId = id).getLast? with
  | none => simp
  | some mark => cases inSchedule : mark.inSchedule <;> simp [scheduleMark, inSchedule]

/-- The sessions in the schedule are the stored ones whose last mark says so, each once, in the
order in which they start. -/
theorem mySchedule_of_noted (noted : db.scheduleTables.Noted marks) :
    ∃ found sessions, Query.mySchedule db = .ok found ∧ db.rows .sessions = .ok sessions ∧
      (found.map fun row => row.columns.id).Nodup ∧
      (∀ row, row ∈ found ↔
        (∃ id, sessions.get? id = some row) ∧ markedLast marks row.columns.id = true) ∧
      found.Pairwise fun a b => (Query.byStart a.columns b.columns).isLE = true := by
  obtain ⟨sessions, stored, keyed⟩ := noted.sessions
  have rows : db.rows .sessions = .ok sessions :=
    Database.rows_eq_ok_iff.2 ⟨noted.isOpen, stored⟩
  have kept : db.scheduleRows = .ok (storedMarks marks) :=
    Database.need_eq_ok_iff.2 ⟨noted.isOpen, noted.marks⟩
  let chosen := sessions.filter fun id _ => (storedMarks marks).get? id == some 1
  have get?_chosen (id : String) (row : StoredRow .sessions) : chosen.get? id = some row ↔
      sessions.get? id = some row ∧ markedLast marks id = true := by
    rw [Dict.get?_filter, Option.filter_eq_some_iff, beq_iff_eq, get?_storedMarks_eq_one_iff]
  have found : Query.mySchedule db = .ok (Query.inOrder Query.byStart chosen) := by
    rw [Query.mySchedule, rows, kept]
    rfl
  refine ⟨_, sessions, found, rows, ?_, fun row => ?_, Query.pairwise_inOrder⟩
  · exact Query.nodup_inOrder fun id row there => keyed id row ((get?_chosen id row).1 there).1
  · -- A stored session lies under its id, so it does not matter by which of the two it is chosen.
    rw [Query.mem_inOrder]
    constructor
    · rintro ⟨id, there⟩
      obtain ⟨lies, last⟩ := (get?_chosen id row).1 there
      obtain rfl := keyed id row lies
      exact ⟨⟨_, lies⟩, last⟩
    · rintro ⟨⟨id, lies⟩, last⟩
      obtain rfl := keyed id row lies
      exact ⟨_, (get?_chosen _ row).2 ⟨lies, last⟩⟩

end Reading

/-- Whatever happens to a store from the empty database on, batches, made or refused, imports,
passes and new indexes, and whenever an attendee makes marks between or meanwhile: a session is in
the schedule if its last mark says so, whether it is stored or not; and the schedule lists the
stored sessions that are in it, each once, by start and title. The marks are those between what
happens to the store, with those that the attendee makes meanwhile, if any. -/
theorem schedule_outlasts_everything {env : Environment σ}
    (keeps : env.Keeps fun d => d.db.scheduleTables)
    (observers : env.ObserversKeep fun d => d.db.scheduleTables) (attendee : Attendee σ)
    (events : List ScheduleEvent) {w : World (σ × List Mark)} (start : w.device.db = .initial)
    (unmarked : w.outside.2 = []) :
    let after := afterScheduleEvents (env.attended attendee) events w
    let db := after.device.db
    let marks := after.outside.2
    (events.filterMap ScheduleEvent.mark?).Sublist marks ∧
      ((∀ outside, (attendee outside).1 = []) → marks = events.filterMap ScheduleEvent.mark?) ∧
      (∀ id, Query.isInSchedule db id = .ok (markedLast marks id)) ∧
      ∃ found sessions, Query.mySchedule db = .ok found ∧ db.rows .sessions = .ok sessions ∧
        (found.map fun row => row.columns.id).Nodup ∧
        (∀ row, row ∈ found ↔ (∃ id, sessions.get? id = some row) ∧
          Query.isInSchedule db row.columns.id = .ok true) ∧
        found.Pairwise fun a b => a.columns.startMillis < b.columns.startMillis ∨
          a.columns.startMillis = b.columns.startMillis ∧ a.columns.title ≤ b.columns.title := by
  intro after db marks
  have noted : db.scheduleTables.Noted marks := by
    refine noted_after_events keeps observers attendee events ?_
    rw [start, unmarked]
    exact noted_initial
  have listed := marks_sublist_noted keeps observers attendee events (List.nil_sublist w.outside.2)
  have alone (idle : ∀ outside, (attendee outside).1 = []) :
      marks = events.filterMap ScheduleEvent.mark? := by
    have all := marks_eq_noted keeps observers attendee idle events w
    rwa [unmarked, List.nil_append] at all
  have each := isInSchedule_of_noted noted
  obtain ⟨found, sessions, answered, rows, once, chosen, sorted⟩ := mySchedule_of_noted noted
  refine ⟨listed, alone, each, found, sessions, answered, rows, once, fun row => ?_, ?_⟩
  · rw [chosen, each, Except.ok.injEq]
  · exact sorted.imp fun {a b} before => (Query.isLE_byStart_iff a.columns b.columns).1 before

/-- Who keeps the index for searches leaves alone what the schedule depends on. -/
theorem observersKeep_scheduleTables (pages : List (String × String)) :
    (Sync.indexedServing pages).ObserversKeep fun d => d.db.scheduleTables := by
  refine Sync.observersKeep_indexedServing pages fun d db _ same => ?_
  show db.withoutIndex.scheduleTables = d.db.withoutIndex.scheduleTables
  rw [same]

/-- While a talk is imported an attendee puts it into the schedule. It stays there when all sessions
are removed, and then another one is taken out that was never stored. -/
theorem schedule_outlasts_everything_removed_session :
    let attendee : Attendee Unit := fun _ => ([⟨"s1", true⟩], ())
    let talk : StoreEvent := .bring .standard .full .caller [("talk.json",
      "\x7b\"sessions\":[\x7b\"id\":\"s1\",\"title\":\"Opening\"\x7d]\x7d")]
    let removal : StoreEvent := .apply .sync [.deleteAll .sessions]
    let events := [.mark ⟨"s2", true⟩, .store talk, .store removal, .mark ⟨"s2", false⟩]
    let start : World (Unit × List Mark) := ⟨.start .initial .inMemory, ((), [])⟩
    let after := afterScheduleEvents ((Sync.indexedServing []).attended attendee) events start
    Query.isInSchedule after.device.db "s1" = .ok true ∧
      Query.isInSchedule after.device.db "s2" = .ok false := by
  intro attendee talk removal events start after
  have marks : after.outside.2 =
      ⟨"s2", true⟩ :: List.replicate 5 ⟨"s1", true⟩ ++ [⟨"s2", false⟩] := by
    decide +kernel
  obtain ⟨-, -, each, -⟩ := schedule_outlasts_everything (Sync.keeps_indexedServing [] _)
    (observersKeep_scheduleTables []) attendee events (w := start) rfl rfl
  have first : markedLast after.outside.2 "s1" = true := by
    rw [marks]
    decide +kernel
  have second : markedLast after.outside.2 "s2" = false := by
    rw [marks]
    decide +kernel
  exact ⟨(each "s1").trans (congrArg Except.ok first),
    (each "s2").trans (congrArg Except.ok second)⟩

end ConferenceSync
