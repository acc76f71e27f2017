import ConferenceSync.Proofs.DerivedColumns

/-!
# What an import of all kinds heals

The columns of a session that follow from other records are written together with its row. A row is
written by an import only if the session itself, or something that it refers to, changes in that
same import. So columns that an earlier import without all three kinds has left behind stay as they
are for as long as nothing around the session changes.

## Main definitions

* `Import.Healed` — that the columns of all stored sessions follow from the files of an import
* `Import.Pass.AllOrNone` — that an import brings tags, speakers and sessions together or not at all

## Main results

* `Import.healed_iff_of_complete_import` — which sessions an import of all kinds heals, and when
  these are all
* `Import.not_healed_by_every_complete_import` — an import of all kinds need not heal all sessions
-/

namespace ConferenceSync.Import

open Agenda

/-- Whether the columns of every stored session follow from the speakers and tags in the files of
one import. -/
def Healed (p : Pass) (c : Contents) : Prop :=
  ∀ id (row : StoredRow .sessions), (c.rows .sessions).get? id = some row →
    ∃ s, Dict.get? (p.records .sessions) id = some s ∧
      FollowsFrom p.rules p.references s row.columns

/-- Whether an import brings tags, speakers and sessions together or none of them. -/
def Pass.AllOrNone (p : Pass) : Prop :=
  p.Brings .tags ∧ p.Brings .speakers ∧ p.Brings .sessions ∨
    ¬p.Brings .tags ∧ ¬p.Brings .speakers ∧ ¬p.Brings .sessions

section Histories

variable {passes : List Pass} {p : Pass} {c : Contents} {rules : GroupingRules}

/-- An import of other kinds changes nothing that matters here. -/
theorem DerivedAgree.after_of_none (agree : DerivedAgree rules passes c) (tags : ¬p.Brings .tags)
    (speakers : ¬p.Brings .speakers) (sessions : ¬p.Brings .sessions) :
    DerivedAgree rules (passes ++ [p]) (p.after c) := by
  have kept (table : Table) (absent : ¬p.Brings table.kind) :
      (p.after c).rows table = c.rows table := Pass.rows_after_of_not_brings absent
  have references : (p.after c).references = c.references := by
    rw [Contents.references, Contents.references, kept .tags tags,
      kept .speakers speakers]
  have last : lastRecords (passes ++ [p]) .sessions = lastRecords passes .sessions := by
    rw [lastRecords_append_singleton]
    exact if_neg sessions
  intro id row stored
  rw [kept .sessions sessions] at stored
  rw [references, last]
  exact agree id row stored

/-- If each import brings all three kinds or none, the columns of all sessions follow from what is
stored. -/
theorem derivedAgree_of_allOrNone {db : Database}
    (reached : Database.initial.importPasses passes = .ok db) (separated : Separated passes)
    (balanced : ∀ q ∈ passes, q.rules = rules ∧ q.unreadable = [] ∧ q.AllOrNone) :
    DerivedAgree rules passes db.contents := by
  induction passes using List.reverseRecOn generalizing db with
  | nil =>
    obtain rfl := Except.ok.inj reached
    exact derivedAgree_initial rules
  | append_singleton passes p ih =>
    obtain ⟨before, first, last⟩ := Database.exists_of_importPasses_append reached
    obtain ⟨whole, reflects⟩ := reflects_of_importPasses first separated.of_append
    have agree := ih first separated.of_append fun q listed =>
      balanced q (List.mem_append_left _ listed)
    obtain ⟨rfl, readable, all | none⟩ := balanced p (by simp)
    · rw [(whole.importPass last).2]
      exact agree.after reflects separated readable all.1 all.2.1 all.2.2
    · rw [(whole.importPass last).2]
      exact agree.after_of_none none.1 none.2.1 none.2.2

end Histories

section Rows

variable {p : Pass} {c : Contents}

/-- Each row of a session is that of a record that is written, or the one that was there. -/
theorem Pass.rows_after_sessions_cases (sessions : p.Brings .sessions) {id : String}
    {row : StoredRow .sessions} (stored : ((p.after c).rows .sessions).get? id = some row) :
    ∃ s, Dict.get? (p.records .sessions) id = some s ∧
      (p.writes c .sessions id s = true → FollowsFrom p.rules p.references s row.columns) ∧
      (p.writes c .sessions id s = false → (c.rows .sessions).get? id = some row) := by
  have rows := Pass.get?_rows_after_sessions (c := c) sessions id
  rw [stored, eq_comm, Option.map_eq_some_iff] at rows
  obtain ⟨s, there, same⟩ := rows
  refine ⟨s, there, fun written => ?_, fun kept => ?_⟩
  · rw [written, if_pos rfl] at same
    rw [← same]
    exact Pass.followsFrom_of_records there
  · obtain ⟨old, before, after⟩ := Pass.get?_rows_after_of_not_writes sessions there kept
    rw [← stored, after, before]

/-- All sessions are healed just if those that are left alone were right before. -/
theorem healed_after_iff (sessions : p.Brings .sessions) :
    Healed p (p.after c) ↔ ∀ id s, Dict.get? (p.records .sessions) id = some s →
      p.writes c .sessions id s = false →
        ∃ row, (c.rows .sessions).get? id = some row ∧
          FollowsFrom p.rules p.references s row.columns := by
  constructor
  · intro healed id s there kept
    obtain ⟨row, before, after⟩ := Pass.get?_rows_after_of_not_writes sessions there kept
    obtain ⟨record, own, follows⟩ := healed id row after
    obtain rfl := Option.some.inj (there.symm.trans own)
    exact ⟨row, before, follows⟩
  · intro right id row stored
    obtain ⟨s, there, written, kept⟩ := Pass.rows_after_sessions_cases sessions stored
    refine ⟨s, there, ?_⟩
    cases writes : p.writes c .sessions id s with
    | true => exact written writes
    | false =>
      obtain ⟨old, before, follows⟩ := right id s there writes
      obtain rfl := Option.some.inj (before.symm.trans (kept writes))
      exact follows

end Rows

/-- An import of tags, speakers and sessions heals the sessions that it writes, those included that
refer to a speaker or tag which it reports as changed; every other session keeps its row. So all are
healed just if those that are left alone were right before, which they were if every import before
brought all three kinds or none. -/
theorem healed_iff_of_complete_import {passes : List Pass} {p : Pass} {db : Database}
    (reached : Database.initial.importPasses passes = .ok db) (tags : p.Brings .tags)
    (speakers : p.Brings .speakers) (sessions : p.Brings .sessions) :
    ∃ after, db.importPass p = .ok after ∧ after.Whole ∧
      (∀ id row, (after.contents.rows .sessions).get? id = some row →
        ∃ s, Dict.get? (p.records .sessions) id = some s ∧
          (p.writes db.contents .sessions id s = true →
            FollowsFrom p.rules p.references s row.columns) ∧
          (p.writes db.contents .sessions id s = false →
            (db.contents.rows .sessions).get? id = some row)) ∧
      (Healed p after.contents ↔ ∀ id s, Dict.get? (p.records .sessions) id = some s →
        p.writes db.contents .sessions id s = false →
          ∃ row, (db.contents.rows .sessions).get? id = some row ∧
            FollowsFrom p.rules p.references s row.columns) ∧
      (Separated (passes ++ [p]) → p.unreadable = [] →
        (∀ q ∈ passes, q.rules = p.rules ∧ q.unreadable = [] ∧ q.AllOrNone) →
          Healed p after.contents) := by
  have whole := Database.whole_initial.importPasses reached
  obtain ⟨after, imported, wholeAfter, contents⟩ := Database.exists_importPass whole p
  refine ⟨after, imported, wholeAfter, ?_⟩
  rw [contents]
  refine ⟨fun id row => Pass.rows_after_sessions_cases sessions, healed_after_iff sessions, ?_⟩
  intro separated readable balanced id row stored
  have agree := derivedAgree_of_allOrNone reached separated.of_append balanced
  have reflects := (reflects_of_importPasses reached separated.of_append).2
  obtain ⟨s, there, follows⟩ :=
    agree.after reflects separated readable tags speakers sessions id row stored
  rw [lastRecords_of_brings .sessions sessions] at there
  rw [reflects.references_after separated tags speakers] at follows
  exact ⟨s, there, follows⟩

/-! ## A session that came before its speaker -/

/-- An import of a session alone, whose speaker is not known yet. -/
def sessionFirst : Pass where
  rules := .standard
  mode := .incremental
  files := [("sessions.json",
    "\x7b\"sessions\":[\x7b\"id\":\"s1\",\"speakers\":[\"ada\"]\x7d]\x7d")]
  unreadable := []

/-- An import of the speaker alone. -/
def speakerLater : Pass where
  rules := .standard
  mode := .incremental
  files := [("speakers.json", "\x7b\"speakers\":[\x7b\"id\":\"ada\",\"name\":\"Ada\"\x7d]\x7d")]
  unreadable := []

/-- After both have been imported apart, what an import of both leaves alone decides; after they
have been imported together, all is healed when the speaker goes. -/
theorem healed_iff_of_complete_import_known_speaker :
    ∃ db after, Database.initial.importPasses [sessionFirst, speakerLater] = .ok db ∧
      knownSpeaker.Brings .tags ∧ knownSpeaker.Brings .speakers ∧ knownSpeaker.Brings .sessions ∧
      db.importPass knownSpeaker = .ok after ∧
      (Healed knownSpeaker after.contents ↔
        ∀ id s, Dict.get? (knownSpeaker.records .sessions) id = some s →
          knownSpeaker.writes db.contents .sessions id s = false →
            ∃ row, (db.contents.rows .sessions).get? id = some row ∧
              FollowsFrom knownSpeaker.rules knownSpeaker.references s row.columns) ∧
      ∃ together removed, Database.initial.importPasses [knownSpeaker] = .ok together ∧
        Separated ([knownSpeaker] ++ [unknownSpeaker]) ∧ knownSpeaker.AllOrNone ∧
        together.importPass unknownSpeaker = .ok removed ∧
        Healed unknownSpeaker removed.contents := by
  obtain ⟨tags, speakers, sessions⟩ := brings_knownSpeaker
  obtain ⟨db, reached, -⟩ :=
    Database.exists_importPasses Database.whole_initial [sessionFirst, speakerLater]
  obtain ⟨after, imported, -, -, healed, -⟩ :=
    healed_iff_of_complete_import reached tags speakers sessions
  have balanced : knownSpeaker.AllOrNone := .inl brings_knownSpeaker
  obtain ⟨noTags, noSpeakers, noSessions⟩ := brings_unknownSpeaker
  obtain ⟨together, reachedTogether, -⟩ :=
    Database.exists_importPasses Database.whole_initial [knownSpeaker]
  obtain ⟨removed, importedRemoved, -, -, -, all⟩ :=
    healed_iff_of_complete_import reachedTogether noTags noSpeakers noSessions
  refine ⟨db, after, reached, tags, speakers, sessions, imported, healed, together, removed,
    reachedTogether, separated_knownSpeaker, balanced, importedRemoved,
    all separated_knownSpeaker rfl fun q listed => ?_⟩
  rw [List.mem_singleton.1 listed]
  exact ⟨rfl, rfl, balanced⟩

/-- The session is stored without names, which the speaker after it does not change. -/
theorem get?_sessions_after_speakerLater :
    Dict.get? ((speakerLater.after (sessionFirst.after Database.initial.contents)).rows .sessions)
      "s1" = some (.of .sessions talk) := by
  have noSessions : ¬speakerLater.Brings .sessions := by decide +kernel
  have record : Dict.get? (sessionFirst.records .sessions) "s1" = some talk := by decide +kernel
  rw [Pass.rows_after_of_not_brings noSessions,
    Pass.get?_rows_after_of_absent (by decide +kernel) (Database.get?_rows_initial _ _), record]
  rfl

theorem get?_speakers_after_speakerLater :
    Dict.get? ((speakerLater.after (sessionFirst.after Database.initial.contents)).rows .speakers)
      "ada" = some (.of .speakers ada) := by
  have noSpeakers : ¬sessionFirst.Brings .speakers := by decide +kernel
  have record : Dict.get? (speakerLater.records .speakers) "ada" = some ada := by decide +kernel
  have absent : Dict.get? ((sessionFirst.after Database.initial.contents).rows .speakers) "ada" =
      none := by
    rw [Pass.rows_after_of_not_brings noSpeakers, Database.get?_rows_initial]
  rw [Pass.get?_rows_after_of_absent (by decide +kernel) absent, record]
  rfl

/-- Once both are stored, an import of both finds them unchanged. -/
theorem get?_sessions_after_known_again :
    Dict.get? ((knownSpeaker.after
      (speakerLater.after (sessionFirst.after Database.initial.contents))).rows .sessions) "s1" =
        some (.of .sessions talk) := by
  obtain ⟨tags, speakers, sessions⟩ := brings_knownSpeaker
  have used (table : Table) : knownSpeaker.Compares table := ⟨by decide, List.not_mem_nil⟩
  have kept : knownSpeaker.writes
      (speakerLater.after (sessionFirst.after Database.initial.contents)) .sessions "s1"
        { talk with speakerNames := "Ada" } = false := by
    refine Pass.writes_sessions_eq_false_iff.2 ⟨?_, ?_, fun i listed => ?_⟩
    · have same := Pass.not_mem_touched_of_stored (used .sessions) sessions_knownSpeaker
        get?_sessions_after_speakerLater rfl
      exact fun written => same (List.mem_append_left _ written)
    · intro i listed
      obtain rfl := List.mem_singleton.1 listed
      rw [Pass.touched_of_brings .speakers speakers]
      exact Pass.not_mem_touched_of_stored (used .speakers) speakers_knownSpeaker
        get?_speakers_after_speakerLater rfl
    · simp [talk] at listed
  obtain ⟨row, before, stays⟩ :=
    Pass.get?_rows_after_of_not_writes sessions sessions_knownSpeaker kept
  rw [stays, ← before, get?_sessions_after_speakerLater]

/-- An import of all three kinds does not heal every session, whatever was imported before: a
session that was imported before its speaker keeps its empty names, since neither of the two changes
any more. -/
theorem not_healed_by_every_complete_import :
    ¬∀ (passes : List Pass) (p : Pass) (db after : Database),
      (∀ q ∈ passes, q.rules = p.rules ∧ q.mode = .incremental ∧ q.unreadable = []) →
      Database.initial.importPasses passes = .ok db → p.mode = .incremental → p.unreadable = [] →
      p.Brings .tags → p.Brings .speakers → p.Brings .sessions →
      db.importPass p = .ok after → Healed p after.contents := by
  intro always
  obtain ⟨first, importedFirst, wholeFirst, contentsFirst⟩ :=
    Database.exists_importPass Database.whole_initial sessionFirst
  obtain ⟨db, importedLater, whole, contents⟩ :=
    Database.exists_importPass wholeFirst speakerLater
  obtain ⟨after, imported, -, contentsAfter⟩ := Database.exists_importPass whole knownSpeaker
  have reached : Database.initial.importPasses [sessionFirst, speakerLater] = .ok db := by
    simp only [Database.importPasses, importedFirst, importedLater]
  obtain ⟨tags, speakers, sessions⟩ := brings_knownSpeaker
  have healed := always [sessionFirst, speakerLater] knownSpeaker db after (by decide) reached rfl
    rfl tags speakers sessions imported
  rw [contentsAfter, contents, contentsFirst] at healed
  obtain ⟨s, own, names, -⟩ := healed "s1" _ get?_sessions_after_known_again
  obtain rfl := Option.some.inj (sessions_knownSpeaker.symm.trans own)
  have right := (Pass.followsFrom_of_records sessions_knownSpeaker).1
  exact absurd (names.trans right.symm) (by decide)

end ConferenceSync.Import
