import ConferenceSync.Proofs.ImportRun

/-!
# The columns of sessions that follow from other records

The names of a session's speakers and its group follow from the speakers and tags that it refers to
and are no part of its fingerprint. An import that brings all three kinds, and can read all indexes,
writes a session anew if any of its references changes, is new or goes, so the columns agree with
what is stored whenever they did so before.

## Main definitions

* `Contents.references` — the speakers and tags that are stored
* `Import.FollowsFrom` — that the columns of a session follow from given speakers and tags
* `Import.DerivedAgree` — that the columns of all stored sessions follow from what is stored
* `Import.Pass.KeepsRight` — that the sessions which an import leaves alone need no change

## Main results

* `Import.Reflects.get?_of_not_touched` — a record that is not reported as changed is stored as it
  is in the files
* `Import.Reflects.keepsRight` — an import that uses the indexes of speakers and tags leaves no
  session alone that needs a change
* `Import.derivedAgree_of_complete_import` — imports of all three kinds preserve the agreement
-/

namespace ConferenceSync

open Agenda

/-- The speakers and tags that are stored. -/
def Contents.references (c : Contents) : References where
  tags := (c.rows .tags).map StoredRow.columns
  speakers := (c.rows .speakers).map StoredRow.columns

namespace Agenda.References

variable {a b : References} {ids : List String}

/-- Names depend on the speakers that are referred to alone. -/
theorem speakerNames_congr (same : ∀ id ∈ ids, a.speakers.get? id = b.speakers.get? id) :
    a.speakerNames ids = b.speakerNames ids := by
  have names : ids.filterMap (fun id => (a.speakers.get? id).map Speaker.name) =
      ids.filterMap fun id => (b.speakers.get? id).map Speaker.name :=
    List.filterMap_congr fun id listed => by rw [same id listed]
  rw [speakerNames, speakerNames, names]

/-- The group depends on the tags that are referred to alone. -/
theorem groupingOrder_congr (rules : GroupingRules)
    (same : ∀ id ∈ ids, a.tags.get? id = b.tags.get? id) :
    a.groupingOrder rules ids = b.groupingOrder rules ids := by
  have orders : a.groupOrders rules ids = b.groupOrders rules ids :=
    List.filterMap_congr fun id listed => by rw [same id listed]
  rw [groupingOrder, groupingOrder, orders]

end Agenda.References

namespace Import

/-- Whether the columns of a session follow from given speakers and tags. -/
def FollowsFrom (rules : GroupingRules) (references : References) (s : Session)
    (columns : SessionColumns) : Prop :=
  columns.speakerNames = references.speakerNames s.speakers ∧
    columns.groupingOrder = references.groupingOrder rules s.tags

/-- Whether the columns of every stored session follow, by the references that were imported for it
last, from the speakers and tags that are stored. -/
def DerivedAgree (rules : GroupingRules) (passes : List Pass) (c : Contents) : Prop :=
  ∀ id (row : StoredRow .sessions), (c.rows .sessions).get? id = some row →
    ∃ s, Dict.get? (lastRecords passes .sessions) id = some s ∧
      FollowsFrom rules c.references s row.columns

/-- Whether each session that an import leaves alone has the same names and the same group by what
was stored as by the files. -/
def Pass.KeepsRight (p : Pass) (c : Contents) : Prop :=
  ∀ id s, Dict.get? (p.records .sessions) id = some s → p.writes c .sessions id s = false →
    c.references.speakerNames s.speakers = p.references.speakerNames s.speakers ∧
      c.references.groupingOrder p.rules s.tags = p.references.groupingOrder p.rules s.tags

/-- Only the references of a session count. -/
theorem FollowsFrom.of_forget_eq {rules : GroupingRules} {references : References} {s t : Session}
    {columns : SessionColumns} (follows : FollowsFrom rules references s columns)
    (same : Table.forget .sessions s = Table.forget .sessions t) :
    FollowsFrom rules references t columns := by
  have targets (link : LinkTable) : s.targets link = t.targets link := by
    rw [← Table.targets_forget, same, Table.targets_forget]
  have speakers : s.speakers = t.speakers := targets .speakers
  have tags : s.tags = t.tags := targets .tags
  rw [FollowsFrom] at follows ⊢
  rwa [speakers, tags] at follows

section Step

variable {passes : List Pass} {p : Pass} {c : Contents} {table : Table} {id : String} {s : Session}
  {rules : GroupingRules}

/-! ## Stored references -/

theorem Reflects.columns_eq (reflects : Reflects passes c) (table : Table) (id : String) :
    ((c.rows table).get? id).map (fun row => table.withoutDerived row.columns) =
      ((lastRecords passes table).get? id).map fun record =>
        table.columnsOf (table.forget record) := by
  have same := congrArg (Option.map StoredRow.columns) (reflects.rows table id)
  rw [Option.map_map, Option.map_map] at same
  refine same.trans (Option.map_congr fun record _ => ?_)
  exact Table.withoutDerived_columnsOf record

/-- The speakers and tags that are stored are those that were imported last. -/
theorem Reflects.references_eq (reflects : Reflects passes c) :
    c.references = ⟨lastRecords passes .tags, lastRecords passes .speakers⟩ := by
  have tags : (c.rows .tags).map StoredRow.columns = lastRecords passes .tags := by
    apply Dict.ext_get?
    intro id
    rw [Dict.get?_map]
    exact (reflects.columns_eq .tags id).trans Option.map_id'
  have speakers : (c.rows .speakers).map StoredRow.columns = lastRecords passes .speakers := by
    apply Dict.ext_get?
    intro id
    rw [Dict.get?_map]
    exact (reflects.columns_eq .speakers id).trans Option.map_id'
  rw [Contents.references, tags, speakers]

/-- A record that is not reported as changed is stored as it is in the files. -/
theorem Reflects.get?_of_not_touched (reflects : Reflects passes c)
    (separated : Separated (passes ++ [p])) (table : Table) (brings : p.Brings table.kind)
    (used : p.Compares table) (kept : id ∉ p.touched c table) :
    ((lastRecords passes table).get? id).map table.forget =
      ((p.records table).get? id).map table.forget := by
  rw [Pass.touched_of_brings table brings, TableDiff.touched, List.mem_append, not_or] at kept
  cases there : (p.records table).get? id with
  | none =>
    cases held : (lastRecords passes table).get? id with
    | none => rfl
    | some before =>
      obtain ⟨row, stored⟩ := reflects.exists_row held
      exact absurd (Pass.mem_deleted.2 ⟨there, used, row, stored⟩) kept.2
  | some record =>
    obtain ⟨-, -, -, -, before, held, same⟩ := reflects.of_not_written separated there kept.1
    rw [held, Option.map_some, Option.map_some, same]

/-! ## Stored sessions -/

/-- A session is left alone if its own row is, and nothing that it refers to is reported as
changed. -/
theorem Pass.writes_sessions_eq_false_iff :
    p.writes c .sessions id s = false ↔ id ∉ (p.diff c .sessions).written ∧
      (∀ i ∈ s.speakers, i ∉ p.touched c .speakers) ∧ ∀ i ∈ s.tags, i ∉ p.touched c .tags := by
  simp [Pass.writes, Pass.follows, ChangedReferences.touch, Pass.changed]

/-- The row of a session after an import that brings sessions. -/
theorem Pass.get?_rows_after_sessions (brings : p.Brings .sessions) (id : String) :
    ((p.after c).rows .sessions).get? id =
      (Dict.get? (p.records .sessions) id).map fun s =>
        if p.writes c .sessions id s then .of .sessions s
        else ((c.rows .sessions).get? id).getD (.of .sessions s) := by
  show ((if p.Brings .sessions then p.rowsAfter c .sessions else c.rows .sessions).get? id) = _
  rw [if_pos brings, Pass.rowsAfter, Pass.settle, Dict.get?_mapKeyed]

/-- The row of a session that is written follows from the speakers and tags in the files. -/
theorem Pass.followsFrom_of_records (there : Dict.get? (p.records .sessions) id = some s) :
    FollowsFrom p.rules p.references s (SessionColumns.of s) :=
  DataSet.withReferences_of_records there

/-- A session that is left alone keeps its row. -/
theorem Pass.get?_rows_after_of_not_writes (brings : p.Brings .sessions)
    (there : Dict.get? (p.records .sessions) id = some s)
    (kept : p.writes c .sessions id s = false) :
    ∃ row, (c.rows .sessions).get? id = some row ∧
      ((p.after c).rows .sessions).get? id = some row := by
  obtain ⟨-, row, stored, -⟩ :=
    exists_of_not_mem_written there (writes_sessions_eq_false_iff.1 kept).1
  refine ⟨row, stored, ?_⟩
  rw [get?_rows_after_sessions brings, there, Option.map_some, kept, stored]
  rfl

/-- If the columns of all sessions followed from what was stored, those of a session that is left
alone still do. -/
theorem Reflects.followsFrom_of_not_writes (reflects : Reflects passes c)
    (separated : Separated (passes ++ [p])) (agree : DerivedAgree rules passes c)
    (there : Dict.get? (p.records .sessions) id = some s)
    (kept : p.writes c .sessions id s = false) :
    p.Compares .sessions ∧ ∃ row, (c.rows .sessions).get? id = some row ∧
      FollowsFrom rules c.references s row.columns := by
  obtain ⟨used, row, stored, -, before, held, same⟩ :=
    reflects.of_not_written separated there (Pass.writes_sessions_eq_false_iff.1 kept).1
  obtain ⟨imported, last, follows⟩ := agree id row stored
  obtain rfl := Option.some.inj (held.symm.trans last)
  exact ⟨used, row, stored, follows.of_forget_eq same⟩

/-! ## Imports of all three kinds -/

/-- The speakers and tags that are stored after an import that brings both are those in the
files. -/
theorem Reflects.references_after (reflects : Reflects passes c)
    (separated : Separated (passes ++ [p])) (tags : p.Brings .tags)
    (speakers : p.Brings .speakers) :
    (p.after c).references = p.references := by
  have last := (reflects.after separated).references_eq
  rwa [lastRecords_of_brings .tags tags,
    lastRecords_of_brings .speakers speakers] at last

/-- What a session refers to is stored as it is in the files, if it is not reported as changed. -/
theorem Reflects.references_of_not_touched (reflects : Reflects passes c)
    (separated : Separated (passes ++ [p])) (usedTags : p.Compares .tags)
    (usedSpeakers : p.Compares .speakers) (tags : p.Brings .tags) (speakers : p.Brings .speakers) :
    (∀ i, i ∉ p.touched c .speakers →
      c.references.speakers.get? i = p.references.speakers.get? i) ∧
    ∀ i, i ∉ p.touched c .tags → c.references.tags.get? i = p.references.tags.get? i := by
  rw [reflects.references_eq]
  constructor
  · intro i kept
    have same := reflects.get?_of_not_touched separated .speakers speakers usedSpeakers kept
    exact (Option.map_id'.symm.trans same).trans Option.map_id'
  · intro i kept
    have same := reflects.get?_of_not_touched separated .tags tags usedTags kept
    exact (Option.map_id'.symm.trans same).trans Option.map_id'

/-- Sessions that are left alone need no change if the indexes of speakers and tags are used. -/
theorem Reflects.keepsRight (reflects : Reflects passes c) (separated : Separated (passes ++ [p]))
    (tags : p.Brings .tags) (speakers : p.Brings .speakers)
    (readable : Table.sessions ∈ p.unreadable ∨
      Table.speakers ∉ p.unreadable ∧ Table.tags ∉ p.unreadable) : p.KeepsRight c := by
  intro id s there kept
  obtain ⟨unwritten, apartSpeakers, apartTags⟩ := Pass.writes_sessions_eq_false_iff.1 kept
  obtain ⟨used, -⟩ := Pass.exists_of_not_mem_written there unwritten
  rcases readable with unread | ⟨readSpeakers, readTags⟩
  · exact absurd unread used.2
  · obtain ⟨sameSpeakers, sameTags⟩ := reflects.references_of_not_touched separated
      ⟨used.1, readTags⟩ ⟨used.1, readSpeakers⟩ tags speakers
    exact ⟨References.speakerNames_congr fun i listed => sameSpeakers i (apartSpeakers i listed),
      References.groupingOrder_congr p.rules fun i listed => sameTags i (apartTags i listed)⟩

/-- If sessions followed from what was stored, those of an import that keeps the right ones follow
from the files. -/
theorem Reflects.followsFrom_of_keepsRight (reflects : Reflects passes c)
    (separated : Separated (passes ++ [p])) (agree : DerivedAgree p.rules passes c)
    (sessions : p.Brings .sessions) (right : p.KeepsRight c) {id : String} {s : Session}
    (there : Dict.get? (p.records .sessions) id = some s) :
    ∃ row, ((p.after c).rows .sessions).get? id = some row ∧
      FollowsFrom p.rules p.references s row.columns := by
  cases kept : p.writes c .sessions id s with
  | true =>
    refine ⟨.of .sessions s, ?_, Pass.followsFrom_of_records there⟩
    rw [Pass.get?_rows_after_sessions sessions, there, Option.map_some, kept, if_pos rfl]
  | false =>
    obtain ⟨row, before, after⟩ := Pass.get?_rows_after_of_not_writes sessions there kept
    obtain ⟨-, old, stored, follows⟩ :=
      reflects.followsFrom_of_not_writes separated agree there kept
    obtain rfl := Option.some.inj (before.symm.trans stored)
    obtain ⟨names, group⟩ := right id s there kept
    exact ⟨row, after, follows.1.trans names, follows.2.trans group⟩

/-- An import that can read all indexes and brings tags, speakers and sessions leads from sessions
that follow from what is stored to such sessions. -/
theorem DerivedAgree.after (agree : DerivedAgree p.rules passes c) (reflects : Reflects passes c)
    (separated : Separated (passes ++ [p])) (readable : p.unreadable = []) (tags : p.Brings .tags)
    (speakers : p.Brings .speakers) (sessions : p.Brings .sessions) :
    DerivedAgree p.rules (passes ++ [p]) (p.after c) := by
  have right := reflects.keepsRight separated tags speakers (.inr (by simp [readable]))
  intro id row stored
  rw [lastRecords_of_brings .sessions sessions,
    reflects.references_after separated tags speakers]
  have rows := Pass.get?_rows_after_sessions (c := c) sessions id
  rw [stored, eq_comm, Option.map_eq_some_iff] at rows
  obtain ⟨s, there, -⟩ := rows
  obtain ⟨own, after, follows⟩ :=
    reflects.followsFrom_of_keepsRight separated agree sessions right there
  obtain rfl := Option.some.inj (stored.symm.trans after)
  exact ⟨s, there, follows⟩

end Step

/-- Imports that can read all indexes and bring tags, speakers and sessions preserve the agreement
of the columns of sessions with what is stored. -/
theorem derivedAgree_of_complete_import {passes : List Pass} {p : Pass} {db : Database}
    (reached : Database.initial.importPasses passes = .ok db)
    (separated : Separated (passes ++ [p])) (agree : DerivedAgree p.rules passes db.contents)
    (readable : p.unreadable = []) (tags : p.Brings .tags) (speakers : p.Brings .speakers)
    (sessions : p.Brings .sessions) :
    ∃ after, db.importPass p = .ok after ∧ after.Whole ∧
      DerivedAgree p.rules (passes ++ [p]) after.contents := by
  obtain ⟨whole, reflects⟩ := reflects_of_importPasses reached separated.of_append
  obtain ⟨after, imported, wholeAfter, contents⟩ := Database.exists_importPass whole p
  refine ⟨after, imported, wholeAfter, ?_⟩
  rw [contents]
  exact agree.after reflects separated readable tags speakers sessions

theorem derivedAgree_initial (rules : GroupingRules) :
    DerivedAgree rules [] Database.initial.contents := by
  intro id row stored
  rw [Database.get?_rows_initial] at stored
  simp at stored

/-- After a first import of all three kinds the columns of sessions follow from what is stored. -/
theorem exists_derivedAgree (p : Pass) (tags : p.Brings .tags) (speakers : p.Brings .speakers)
    (sessions : p.Brings .sessions) :
    ∃ db, Database.initial.importPasses [p] = .ok db ∧ db.Whole ∧
      db.contents = p.after Database.initial.contents ∧ DerivedAgree p.rules [p] db.contents := by
  obtain ⟨db, reached, whole⟩ := Database.exists_importPasses Database.whole_initial [p]
  obtain ⟨first, empty, made⟩ := @Database.exists_of_importPasses_append _ _ [] _ reached
  obtain rfl : Database.initial = first := Except.ok.inj empty
  have contents := (Database.whole_initial.importPass made).2
  refine ⟨db, reached, whole, contents, ?_⟩
  have rows (table : Table) (brings : p.Brings table.kind) (id : String) :
      ((p.after Database.initial.contents).rows table).get? id =
        ((p.records table).get? id).map (.of table) :=
    Pass.get?_rows_after_of_absent brings (Database.get?_rows_initial table id)
  -- All records are new, so what is stored is what is in the files.
  have references : (p.after Database.initial.contents).references = p.references := by
    rw [Contents.references, Pass.references]
    congr 1 <;> apply Dict.ext_get? <;> intro id
    · rw [Dict.get?_map, rows .tags tags, Option.map_map]
      exact Option.map_id'
    · rw [Dict.get?_map, rows .speakers speakers, Option.map_map]
      exact Option.map_id'
  rw [contents]
  intro id row stored
  rw [rows .sessions sessions, Option.map_eq_some_iff] at stored
  obtain ⟨s, there, rfl⟩ := stored
  refine ⟨s, ?_, ?_⟩
  · have last : lastRecords ([] ++ [p]) .sessions = p.records .sessions :=
      lastRecords_of_brings .sessions sessions
    rw [← there, ← last]
    rfl
  · rw [references]
    exact Pass.followsFrom_of_records there

/-! ## A session and its speaker -/

/-- The speaker of the imports below. -/
def ada : Speaker := ⟨"ada", "Ada", "", "", "", "", ""⟩

/-- The session of the imports below, as it is if the speaker is not known. -/
def talk : Session where
  id := "s1"
  title := ""
  description := ""
  url := ""
  startMillis := 0
  endMillis := 0
  roomId := ""
  tags := []
  mainTag := ""
  hashtag := ""
  speakers := ["ada"]
  isLivestream := false
  youtubeUrl := ""
  captionsUrl := ""
  photoUrl := ""
  color := 0
  relatedContent := ""
  speakerNames := ""
  groupingOrder := ungroupedOrder

/-- An import of the session, of its speaker and of no tags. -/
def knownSpeaker : Pass where
  rules := .standard
  mode := .incremental
  files := [("all.json", "\x7b\"tags\":[]," ++
    "\"speakers\":[\x7b\"id\":\"ada\",\"name\":\"Ada\"\x7d]," ++
    "\"sessions\":[\x7b\"id\":\"s1\",\"speakers\":[\"ada\"]\x7d]\x7d")]
  unreadable := []

/-- An import of the session, of no speakers and of no tags. -/
def unknownSpeaker : Pass where
  rules := .standard
  mode := .incremental
  files := [("all.json", "\x7b\"tags\":[],\"speakers\":[]," ++
    "\"sessions\":[\x7b\"id\":\"s1\",\"speakers\":[\"ada\"]\x7d]\x7d")]
  unreadable := []

theorem files_knownSpeaker :
    (knownSpeaker.Brings .tags ∧ knownSpeaker.Brings .speakers ∧ knownSpeaker.Brings .sessions) ∧
      Dict.get? (knownSpeaker.records .speakers) "ada" = some ada ∧
      Dict.get? (knownSpeaker.records .sessions) "s1" =
        some { talk with speakerNames := "Ada" } := by
  decide +kernel

theorem files_unknownSpeaker :
    (unknownSpeaker.Brings .tags ∧ unknownSpeaker.Brings .speakers ∧
        unknownSpeaker.Brings .sessions) ∧
      Dict.get? (unknownSpeaker.records .speakers) "ada" = none ∧
      Dict.get? (unknownSpeaker.records .sessions) "s1" = some talk := by
  decide +kernel

theorem brings_knownSpeaker : knownSpeaker.Brings .tags ∧ knownSpeaker.Brings .speakers ∧
    knownSpeaker.Brings .sessions := files_knownSpeaker.1

theorem brings_unknownSpeaker : unknownSpeaker.Brings .tags ∧ unknownSpeaker.Brings .speakers ∧
    unknownSpeaker.Brings .sessions := files_unknownSpeaker.1

theorem speakers_knownSpeaker : Dict.get? (knownSpeaker.records .speakers) "ada" = some ada :=
  files_knownSpeaker.2.1

theorem speakers_unknownSpeaker : Dict.get? (unknownSpeaker.records .speakers) "ada" = none :=
  files_unknownSpeaker.2.1

theorem sessions_knownSpeaker : Dict.get? (knownSpeaker.records .sessions) "s1" =
    some { talk with speakerNames := "Ada" } := files_knownSpeaker.2.2

theorem sessions_unknownSpeaker :
    Dict.get? (unknownSpeaker.records .sessions) "s1" = some talk := files_unknownSpeaker.2.2

set_option maxRecDepth 2000 in
/-- The speaker and the session have different fingerprints, and nothing else is rendered. -/
theorem separated_knownSpeaker : Separated ([knownSpeaker] ++ [unknownSpeaker]) := by
  have either : ∀ a ∈ [knownSpeaker, unknownSpeaker].flatMap Pass.renderings,
      a = Digest.canonical (Table.fieldsOf .speakers ada) ∨
        a = Digest.canonical (Table.fieldsOf .sessions talk) := by
    decide +kernel
  have apart : Digest.Blake3.digest (Digest.canonical (Table.fieldsOf .speakers ada)) ≠
      Digest.Blake3.digest (Digest.canonical (Table.fieldsOf .sessions talk)) := by
    decide +kernel
  exact separated_of_pair either apart (by decide +kernel)

theorem get?_sessions_after_knownSpeaker :
    Dict.get? ((knownSpeaker.after Database.initial.contents).rows .sessions) "s1" =
      some (.of .sessions { talk with speakerNames := "Ada" }) := by
  rw [Pass.get?_rows_after_of_absent brings_knownSpeaker.2.2 (Database.get?_rows_initial _ _),
    sessions_knownSpeaker]
  rfl

theorem get?_speakers_after_knownSpeaker :
    Dict.get? ((knownSpeaker.after Database.initial.contents).rows .speakers) "ada" =
      some (.of .speakers ada) := by
  rw [Pass.get?_rows_after_of_absent brings_knownSpeaker.2.1 (Database.get?_rows_initial _ _),
    speakers_knownSpeaker]
  rfl

/-- The session does not change, but its speaker is reported as removed. -/
theorem get?_sessions_after_unknownSpeaker :
    Dict.get? ((unknownSpeaker.after
      (knownSpeaker.after Database.initial.contents)).rows .sessions) "s1" =
        some (.of .sessions talk) := by
  obtain ⟨-, speakers, sessions⟩ := brings_unknownSpeaker
  have reported : "ada" ∈
      unknownSpeaker.touched (knownSpeaker.after Database.initial.contents) .speakers := by
    rw [Pass.touched_of_brings .speakers speakers]
    exact List.mem_append_right _ (Pass.mem_deleted.2
      ⟨speakers_unknownSpeaker, ⟨by decide, by decide⟩, _, get?_speakers_after_knownSpeaker⟩)
  have written : unknownSpeaker.writes (knownSpeaker.after Database.initial.contents) .sessions
      "s1" talk = true := by
    by_contra kept
    exact (Pass.writes_sessions_eq_false_iff.1 (Bool.eq_false_iff.2 kept)).2.1 "ada"
      (List.mem_singleton_self _) reported
  rw [Pass.get?_rows_after_sessions sessions, sessions_unknownSpeaker, Option.map_some,
    if_pos written]

/-- When the speaker of a session goes, the name in its row goes as well. -/
theorem derivedAgree_of_complete_import_removed_speaker :
    ∃ db after, Database.initial.importPasses [knownSpeaker] = .ok db ∧
      Separated ([knownSpeaker] ++ [unknownSpeaker]) ∧
      DerivedAgree .standard [knownSpeaker] db.contents ∧
      db.importPass unknownSpeaker = .ok after ∧
      DerivedAgree .standard ([knownSpeaker] ++ [unknownSpeaker]) after.contents ∧
      Dict.get? (db.contents.rows .sessions) "s1" =
        some (.of .sessions { talk with speakerNames := "Ada" }) ∧
      Dict.get? (after.contents.rows .sessions) "s1" = some (.of .sessions talk) := by
  obtain ⟨tagsKnown, speakersKnown, sessionsKnown⟩ := brings_knownSpeaker
  obtain ⟨tags, speakers, sessions⟩ := brings_unknownSpeaker
  obtain ⟨db, reached, whole, contents, agree⟩ :=
    exists_derivedAgree knownSpeaker tagsKnown speakersKnown sessionsKnown
  obtain ⟨after, imported, -, agreeAfter⟩ :=
    derivedAgree_of_complete_import reached separated_knownSpeaker agree rfl tags speakers sessions
  refine ⟨db, after, reached, separated_knownSpeaker, agree, imported, agreeAfter, ?_, ?_⟩
  · rw [contents, get?_sessions_after_knownSpeaker]
  · rw [(whole.importPass imported).2, contents, get?_sessions_after_unknownSpeaker]

end Import

end ConferenceSync
