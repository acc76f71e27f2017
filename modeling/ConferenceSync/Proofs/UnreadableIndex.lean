import ConferenceSync.Proofs.DerivedColumns
import ConferenceSync.Proofs.Reload

/-!
# Imports that cannot read an index

A table whose index cannot be read is loaded anew, and then no row of it is reported as removed. So
a session that does not change, and whose speakers or tags have all gone from the files, is left
alone although its columns should change. Apart from such sessions an import leaves the same rows
and links, whichever indexes it can read.

## Main results

* `Import.unreadable_agrees_iff` — when an import leaves what it would leave if it could read all
  indexes
* `Import.unreadable_keeps_name_of_removed_speaker` — that it need not
-/

namespace ConferenceSync

open Agenda

/-! ## Rows and their derived columns -/

/-- Rows of sessions are the same if they are so apart from the derived columns, and in those. -/
theorem StoredRow.eq_of_withoutDerived {a b : StoredRow .sessions}
    (same : a.withoutDerived = b.withoutDerived)
    (names : a.columns.speakerNames = b.columns.speakerNames)
    (group : a.columns.groupingOrder = b.columns.groupingOrder) : a = b := by
  obtain ⟨⟨⟩, _⟩ := a
  obtain ⟨⟨⟩, _⟩ := b
  simp_all [StoredRow.withoutDerived, Table.withoutDerived]

/-- Only rows of sessions have derived columns. -/
theorem Dict.map_withoutDerived_of_ne {table : Table} (other : table ≠ .sessions)
    (rows : Dict (StoredRow table)) : rows.map StoredRow.withoutDerived = rows := by
  apply Dict.ext_get?
  intro id
  rw [Dict.get?_map]
  cases table with
  | sessions => exact absurd rfl other
  | _ => exact Option.map_id'

namespace Import

section Agreement

variable {passes : List Pass} {p q : Pass} {c : Contents}

/-- An import whose sessions follow from the files keeps the right ones. -/
theorem Reflects.keepsRight_of_followsFrom (reflects : Reflects passes c)
    (separated : Separated (passes ++ [p])) (agree : DerivedAgree p.rules passes c)
    (sessions : p.Brings .sessions)
    (follows : ∀ id s, Dict.get? (p.records .sessions) id = some s →
      ∃ row, ((p.after c).rows .sessions).get? id = some row ∧
        FollowsFrom p.rules p.references s row.columns) : p.KeepsRight c := by
  intro id s there kept
  obtain ⟨row, before, after⟩ := Pass.get?_rows_after_of_not_writes sessions there kept
  obtain ⟨-, old, stored, byStored⟩ :=
    reflects.followsFrom_of_not_writes separated agree there kept
  obtain rfl := Option.some.inj (before.symm.trans stored)
  obtain ⟨last, own, byFiles⟩ := follows id s there
  obtain rfl := Option.some.inj (after.symm.trans own)
  exact ⟨byStored.1.symm.trans byFiles.1, byStored.2.symm.trans byFiles.2⟩

/-- Two imports of the same files leave the same rows of sessions if their columns follow from the
files after both. -/
theorem Reflects.rows_sessions_eq (reflects : Reflects passes c)
    (separated : Separated (passes ++ [p])) (files : p.files = q.files) (rules : p.rules = q.rules)
    (sessions : p.Brings .sessions)
    (first : ∀ id s, Dict.get? (p.records .sessions) id = some s →
      ∃ row, ((p.after c).rows .sessions).get? id = some row ∧
        FollowsFrom p.rules p.references s row.columns)
    (second : ∀ id s, Dict.get? (p.records .sessions) id = some s →
      ∃ row, ((q.after c).rows .sessions).get? id = some row ∧
        FollowsFrom p.rules p.references s row.columns) :
    (p.after c).rows .sessions = (q.after c).rows .sessions := by
  have sessionsQ : q.Brings .sessions := (brings_congr files .sessions).1 sessions
  have same := (reflects.after separated).rows_eq (reflects.after (separated.congr files rules))
    .sessions (by
      rw [lastRecords_of_brings .sessions sessions, lastRecords_of_brings .sessions sessionsQ,
        records_congr files rules])
  apply Dict.ext_get?
  intro id
  cases there : Dict.get? (p.records .sessions) id with
  | none =>
    rw [Pass.get?_rows_after_sessions sessions, Pass.get?_rows_after_sessions sessionsQ,
      ← records_congr files rules, there]
    rfl
  | some s =>
    obtain ⟨a, storedA, namesA, groupA⟩ := first id s there
    obtain ⟨b, storedB, namesB, groupB⟩ := second id s there
    have rows := congrArg (Dict.get? · id) same
    simp only [Dict.get?_map, storedA, storedB, Option.map_some, Option.some.injEq] at rows
    rw [storedA, storedB, StoredRow.eq_of_withoutDerived rows (namesA.trans namesB.symm)
      (groupA.trans groupB.symm)]

end Agreement

/-- An import that cannot read some indexes leaves the rows and links of the one that reads all of
them just if the sessions that it leaves alone need no change. They do not if the index of sessions
cannot be read either, or if those of speakers and tags can. -/
theorem unreadable_agrees_iff {passes : List Pass} {p : Pass} {db : Database}
    {failing : List Table} (reached : Database.initial.importPasses passes = .ok db)
    (separated : Separated (passes ++ [p])) (agree : DerivedAgree p.rules passes db.contents)
    (readable : p.unreadable = []) (tags : p.Brings .tags) (speakers : p.Brings .speakers)
    (sessions : p.Brings .sessions) :
    ∃ a b, db.importPass { p with unreadable := failing } = .ok a ∧ db.importPass p = .ok b ∧
      a.Whole ∧ b.Whole ∧
      (((∀ table, a.contents.rows table = b.contents.rows table) ∧
          ∀ link, (a.contents.links link).Perm (b.contents.links link)) ↔
        Pass.KeepsRight { p with unreadable := failing } db.contents) ∧
      (Table.sessions ∈ failing ∨ Table.speakers ∉ failing ∧ Table.tags ∉ failing →
        Pass.KeepsRight { p with unreadable := failing } db.contents) := by
  obtain ⟨whole, reflects⟩ := reflects_of_importPasses reached separated.of_append
  have apart : Separated (passes ++ [{ p with unreadable := failing }]) := separated.congr rfl rfl
  obtain ⟨a, importedA, wholeA, contentsA⟩ :=
    Database.exists_importPass whole { p with unreadable := failing }
  obtain ⟨b, importedB, wholeB, contentsB⟩ := Database.exists_importPass whole p
  refine ⟨a, b, importedA, importedB, wholeA, wholeB, ?_, ?_⟩
  · rw [contentsA, contentsB]
    have rightB := reflects.keepsRight separated tags speakers (.inr (by simp [readable]))
    have followB := fun id s =>
      @Reflects.followsFrom_of_keepsRight _ _ _ reflects separated agree sessions rightB id s
    constructor
    · rintro ⟨rows, -⟩
      refine reflects.keepsRight_of_followsFrom apart agree sessions fun id s there => ?_
      obtain ⟨row, after, follows⟩ := followB id s there
      exact ⟨row, (congrArg (Dict.get? · id) (rows .sessions)).trans after, follows⟩
    · intro rightA
      have last (table : Table) : lastRecords (passes ++ [{ p with unreadable := failing }]) table =
          lastRecords (passes ++ [p]) table := by
        rw [lastRecords_append_singleton, lastRecords_append_singleton]
        rfl
      have reflectsA := reflects.after apart
      have reflectsB := reflects.after separated
      refine ⟨fun table => ?_, reflectsA.links_perm reflectsB (last .sessions)⟩
      by_cases derived : table = .sessions
      · subst derived
        exact reflects.rows_sessions_eq apart rfl rfl sessions
          (fun id s there =>
            reflects.followsFrom_of_keepsRight apart agree sessions rightA there)
          followB
      · have rows := reflectsA.rows_eq reflectsB table (last table)
        rwa [Dict.map_withoutDerived_of_ne derived, Dict.map_withoutDerived_of_ne derived] at rows
  · exact fun used => reflects.keepsRight apart tags speakers used

/-! ## A speaker that goes -/

/-- The import of the session and of no speakers, if the index of speakers cannot be read. -/
def unreadSpeakers : Pass := { unknownSpeaker with unreadable := [.speakers] }

/-- When a speaker goes, an import that can read neither the index of speakers nor that of sessions
leaves what one that reads all indexes leaves. If it can read that of sessions, it does so just if
the sessions that it leaves alone need no change. -/
theorem unreadable_agrees_iff_removed_speaker :
    ∃ db a b, Database.initial.importPasses [knownSpeaker] = .ok db ∧
      Separated ([knownSpeaker] ++ [unknownSpeaker]) ∧
      DerivedAgree unknownSpeaker.rules [knownSpeaker] db.contents ∧
      db.importPass unreadSpeakers = .ok a ∧ db.importPass unknownSpeaker = .ok b ∧
      (((∀ table, a.contents.rows table = b.contents.rows table) ∧
          ∀ link, (a.contents.links link).Perm (b.contents.links link)) ↔
        Pass.KeepsRight unreadSpeakers db.contents) ∧
      ∃ c, db.importPass { unknownSpeaker with unreadable := [.speakers, .sessions] } = .ok c ∧
        ((∀ table, c.contents.rows table = b.contents.rows table) ∧
          ∀ link, (c.contents.links link).Perm (b.contents.links link)) := by
  obtain ⟨tagsKnown, speakersKnown, sessionsKnown⟩ := brings_knownSpeaker
  obtain ⟨tags, speakers, sessions⟩ := brings_unknownSpeaker
  obtain ⟨db, reached, -, -, agree⟩ :=
    exists_derivedAgree knownSpeaker tagsKnown speakersKnown sessionsKnown
  obtain ⟨a, b, importedA, importedB, -, -, same, -⟩ := @unreadable_agrees_iff _ _ _ [.speakers]
    reached separated_knownSpeaker agree rfl tags speakers sessions
  obtain ⟨c, b', importedC, importedB', -, -, sameC, right⟩ := @unreadable_agrees_iff _ _ _
    [.speakers, .sessions] reached separated_knownSpeaker agree rfl tags speakers sessions
  obtain rfl := Except.ok.inj (importedB.symm.trans importedB')
  exact ⟨db, a, b, reached, separated_knownSpeaker, agree, importedA, importedB, same, c,
    importedC, sameC.2 (right (.inl (by decide)))⟩

/-- The table of speakers is loaded anew, nobody is reported as removed, and the session is left
alone. -/
theorem get?_sessions_after_unreadSpeakers :
    Dict.get? ((unreadSpeakers.after
      (knownSpeaker.after Database.initial.contents)).rows .sessions) "s1" =
        some (.of .sessions { talk with speakerNames := "Ada" }) := by
  obtain ⟨-, speakers, sessions⟩ := brings_unknownSpeaker
  have brings : unreadSpeakers.Brings .speakers := speakers
  have record : Dict.get? (unreadSpeakers.records .sessions) "s1" = some talk :=
    sessions_unknownSpeaker
  have unreported : "ada" ∉
      unreadSpeakers.touched (knownSpeaker.after Database.initial.contents) .speakers := by
    rw [Pass.touched_of_brings .speakers brings, TableDiff.touched, List.mem_append, not_or]
    refine ⟨fun written => ?_, fun deleted => ?_⟩
    · obtain ⟨record, there⟩ := Pass.exists_of_mem_written written
      exact absurd (speakers_unknownSpeaker.symm.trans there) (by simp)
    · obtain ⟨-, compares, -⟩ := Pass.mem_deleted.1 deleted
      exact compares.2 (List.mem_singleton_self _)
  have unchanged := Pass.not_mem_touched_of_stored (p := unreadSpeakers) ⟨by decide, by decide⟩
    record get?_sessions_after_knownSpeaker rfl
  have kept : unreadSpeakers.writes (knownSpeaker.after Database.initial.contents) .sessions "s1"
      talk = false := by
    refine Pass.writes_sessions_eq_false_iff.2
      ⟨fun written => unchanged (List.mem_append_left _ written), fun i listed => ?_,
        by simp [talk]⟩
    rwa [List.mem_singleton.1 listed]
  obtain ⟨row, before, after⟩ :=
    Pass.get?_rows_after_of_not_writes (p := unreadSpeakers) sessions record kept
  rw [after, ← before, get?_sessions_after_knownSpeaker]

/-- When the speaker of a session goes, an import that cannot read the index of speakers keeps the
name in the session, where an import that reads it takes the name away. -/
theorem unreadable_keeps_name_of_removed_speaker :
    ∃ db a b, Database.initial.importPasses [knownSpeaker] = .ok db ∧
      Separated ([knownSpeaker] ++ [unknownSpeaker]) ∧
      DerivedAgree unknownSpeaker.rules [knownSpeaker] db.contents ∧
      db.importPass unreadSpeakers = .ok a ∧ db.importPass unknownSpeaker = .ok b ∧
      (Dict.get? (a.contents.rows .sessions) "s1").map (fun row => row.columns.speakerNames) =
        some "Ada" ∧
      (Dict.get? (b.contents.rows .sessions) "s1").map (fun row => row.columns.speakerNames) =
        some "" := by
  obtain ⟨tagsKnown, speakersKnown, sessionsKnown⟩ := brings_knownSpeaker
  obtain ⟨db, reached, whole, contents, agree⟩ :=
    exists_derivedAgree knownSpeaker tagsKnown speakersKnown sessionsKnown
  obtain ⟨a, importedA, -, contentsA⟩ := Database.exists_importPass whole unreadSpeakers
  obtain ⟨b, importedB, -, contentsB⟩ := Database.exists_importPass whole unknownSpeaker
  refine ⟨db, a, b, reached, separated_knownSpeaker, agree, importedA, importedB, ?_, ?_⟩
  · rw [contentsA, contents, get?_sessions_after_unreadSpeakers]
    rfl
  · rw [contentsB, contents, get?_sessions_after_unknownSpeaker]
    rfl

end Import

end ConferenceSync
