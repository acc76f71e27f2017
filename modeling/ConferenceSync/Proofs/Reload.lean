import ConferenceSync.Proofs.ImportRun

/-!
# Incremental imports and loading anew

An import that compares the data files with what is stored writes only what has changed. Whatever
was imported before, it leaves the rows and the links that it would leave if it wiped the tables of
the kinds in the files and loaded them anew, and neither of the two touches other kinds.

## Main definitions

* `Import.AgreeOn` — that two databases hold the same of what is in the files, and the rest of a
  third

## Main results

* `Import.incremental_agrees_with_reload` — the two ways to import agree on every database that
  imports lead to
-/

namespace ConferenceSync.Import

open Agenda

/-- Whether two databases that are made from a third agree on the kinds of an import, but for the
columns of sessions that follow from other records, and hold what the third does of all others. -/
structure AgreeOn (p : Pass) (db a b : Database) : Prop where
  rows : ∀ table, p.Brings table.kind →
    (a.contents.rows table).map StoredRow.withoutDerived =
      (b.contents.rows table).map StoredRow.withoutDerived
  links : p.Brings .sessions → ∀ link, (a.contents.links link).Perm (b.contents.links link)
  otherRows : ∀ table, ¬p.Brings table.kind →
    a.tables.get table = db.tables.get table ∧ b.tables.get table = db.tables.get table
  otherLinks : ¬p.Brings .sessions → ∀ link, a.links? link = db.links? link ∧
    b.links? link = db.links? link

section Agree

variable {passes : List Pass} {p q : Pass} {c d : Contents} {db : Database}

theorem brings_congr (files : p.files = q.files) (kind : Kind) : p.Brings kind ↔ q.Brings kind := by
  rw [Pass.Brings, Pass.Brings, Pass.data, Pass.data, files]

theorem records_congr (files : p.files = q.files) (rules : p.rules = q.rules) (table : Table) :
    p.records table = q.records table := by
  rw [Pass.records, Pass.records, Pass.data, Pass.data, files, rules]

/-- Imports of the same files are told apart by fingerprints alike. -/
theorem Separated.congr (separated : Separated (passes ++ [p])) (files : p.files = q.files)
    (rules : p.rules = q.rules) : Separated (passes ++ [q]) := by
  have records : p.records = q.records := funext (records_congr files rules)
  have renderings : p.renderings = q.renderings := by
    rw [Pass.renderings, Pass.renderings, records]
  have fits : p.Fits ↔ q.Fits := by rw [Pass.Fits, Pass.Fits, records]
  refine ⟨?_, fun r there => ?_⟩
  · have apart := separated.apart
    simp only [List.flatMap_append, List.flatMap_singleton, renderings] at apart ⊢
    exact apart
  · rcases List.mem_append.1 there with before | last
    · exact separated.fits r (List.mem_append_left _ before)
    · rw [List.mem_singleton.1 last]
      exact fits.1 (separated.fits p (by simp))

/-- Contents that reflect the same records have the same rows. -/
theorem Reflects.rows_eq {more : List Pass} (first : Reflects passes c) (second : Reflects more d)
    (table : Table) (same : lastRecords passes table = lastRecords more table) :
    (c.rows table).map StoredRow.withoutDerived = (d.rows table).map StoredRow.withoutDerived := by
  apply Dict.ext_get?
  intro id
  rw [Dict.get?_map, Dict.get?_map, first.rows, second.rows, same]

/-- Contents that reflect the same sessions have the same links. -/
theorem Reflects.links_perm {more : List Pass} (first : Reflects passes c)
    (second : Reflects more d) (same : lastRecords passes .sessions = lastRecords more .sessions)
    (link : LinkTable) : (c.links link).Perm (d.links link) := by
  rw [List.perm_ext_iff_of_nodup (first.nodup link) (second.nodup link)]
  intro l
  rw [first.links, second.links, same]

theorem get_tables_of_not_brings {after : Database} (whole : db.Whole) (wholeAfter : after.Whole)
    (contents : after.contents = p.after db.contents) {table : Table}
    (absent : ¬p.Brings table.kind) : after.tables.get table = db.tables.get table := by
  rw [whole.tables_eq, wholeAfter.tables_eq, contents]
  exact congrArg some (if_neg absent)

theorem links?_of_not_brings {after : Database} (whole : db.Whole) (wholeAfter : after.Whole)
    (contents : after.contents = p.after db.contents) (link : LinkTable)
    (absent : ¬p.Brings .sessions) : after.links? link = db.links? link := by
  rw [whole.links?_eq, wholeAfter.links?_eq, contents]
  exact congrArg some (if_neg absent)

end Agree

/-- On every database that imports lead to, importing data files by comparison leaves what loading
them anew leaves, and both leave all other kinds alone. -/
theorem incremental_agrees_with_reload {passes : List Pass} {db : Database} {rules : GroupingRules}
    {files : List (String × String)} (reached : Database.initial.importPasses passes = .ok db)
    (separated : Separated (passes ++ [⟨rules, .incremental, files, []⟩])) :
    ∃ step reload, db.importPass ⟨rules, .incremental, files, []⟩ = .ok step ∧
      db.importPass ⟨rules, .full, files, []⟩ = .ok reload ∧ step.Whole ∧ reload.Whole ∧
      AgreeOn ⟨rules, .incremental, files, []⟩ db step reload := by
  obtain ⟨whole, reflects⟩ := reflects_of_importPasses reached separated.of_append
  obtain ⟨step, stepped, stepWhole, stepContents⟩ :=
    Database.exists_importPass whole ⟨rules, .incremental, files, []⟩
  obtain ⟨reload, reloaded, reloadWhole, reloadContents⟩ :=
    Database.exists_importPass whole ⟨rules, .full, files, []⟩
  refine ⟨step, reload, stepped, reloaded, stepWhole, reloadWhole, ?_⟩
  have stepReflects := reflects.after separated
  have reloadReflects := reflects.after (separated.congr (q := ⟨rules, .full, files, []⟩) rfl rfl)
  rw [← stepContents] at stepReflects
  rw [← reloadContents] at reloadReflects
  have last (table : Table) : lastRecords (passes ++ [⟨rules, .incremental, files, []⟩]) table =
      lastRecords (passes ++ [⟨rules, .full, files, []⟩]) table := by
    rw [lastRecords_append_singleton, lastRecords_append_singleton]
    rfl
  exact {
    rows := fun table _ => stepReflects.rows_eq reloadReflects table (last table)
    links := fun _ => stepReflects.links_perm reloadReflects (last .sessions)
    otherRows := fun table absent =>
      ⟨get_tables_of_not_brings whole stepWhole stepContents absent,
        get_tables_of_not_brings whole reloadWhole reloadContents absent⟩
    otherLinks := fun absent link =>
      ⟨links?_of_not_brings whole stepWhole stepContents link absent,
        links?_of_not_brings whole reloadWhole reloadContents link absent⟩ }

/-! ## An import that removes a session -/

/-- A file with one session, which has a speaker. -/
def oneSession : String × String :=
  ("one.json", "\x7b\"sessions\":[\x7b\"id\":\"s1\",\"speakers\":[\"ada\"]\x7d]\x7d")

/-- A file without any sessions. -/
def noSessions : String × String := ("none.json", "\x7b\"sessions\":[]\x7d")

/-- A session that is no longer in the files is removed either way. -/
theorem incremental_agrees_with_reload_removed_session :
    ∃ db step reload,
      Database.initial.importPasses [⟨.standard, .full, [oneSession], []⟩] = .ok db ∧
      Separated ([⟨.standard, .full, [oneSession], []⟩] ++
        [⟨.standard, .incremental, [noSessions], []⟩]) ∧
      db.importPass ⟨.standard, .incremental, [noSessions], []⟩ = .ok step ∧
      db.importPass ⟨.standard, .full, [noSessions], []⟩ = .ok reload ∧
      AgreeOn ⟨.standard, .incremental, [noSessions], []⟩ db step reload := by
  have separated : Separated ([⟨.standard, .full, [oneSession], []⟩] ++
      [⟨.standard, .incremental, [noSessions], []⟩]) :=
    separated_of_alike (by decide +kernel) (by decide +kernel)
  obtain ⟨db, reached, -⟩ := Database.exists_importPasses Database.whole_initial
    [⟨.standard, .full, [oneSession], []⟩]
  obtain ⟨step, reload, stepped, reloaded, -, -, agree⟩ :=
    incremental_agrees_with_reload reached separated
  exact ⟨db, step, reload, reached, separated, stepped, reloaded, agree⟩

end ConferenceSync.Import
