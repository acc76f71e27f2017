import ConferenceSync.Proofs.LinkRun
import ConferenceSync.Proofs.TableRun

/-!
# The plan of an import does what it should

The batch of a plan is run on contents kind by kind, and the parts of different kinds do not disturb
each other. So a plan that is made for a database is committed, and a run of imports cannot fail.

## Main results

* `Import.Pass.runs_plan` — the whole batch leads to the contents `Import.Pass.after`
* `Database.exists_importPass` — an import into a database that misses no table succeeds
* `Database.exists_importPasses` — so does one import after another
-/

namespace ConferenceSync

open Agenda

namespace Import.Pass

variable {p : Pass} {c : Contents} {table : Table}

/-! ## Kinds -/

/-- The contents after the part of an import that is about some kinds. -/
def afterKinds (p : Pass) (c : Contents) (kinds : List Kind) : Contents where
  rows table := if table.kind ∈ kinds then p.rowsAfter c table else c.rows table
  links link := if Kind.sessions ∈ kinds then p.linksAfter c link else c.links link

theorem afterKinds_nil : p.afterKinds c [] = c := by
  ext1 <;> simp [afterKinds]

theorem afterKinds_present : p.afterKinds c p.data.present = p.after c := rfl

/-- Only sessions are written just to follow. -/
theorem rowsAfter_of_ne (other : table ≠ .sessions) :
    p.rowsAfter c table =
      settle (c.rows table) (p.records table) fun id _ => (p.diff c table).written.contains id := by
  cases table with
  | sessions => exact absurd rfl other
  | _ =>
    rw [rowsAfter]
    congr 1
    funext id record
    exact Bool.or_false _

/-- The tables of a kind that is not the sessions' are brought up to date one by one. -/
theorem runs_tables {d : Contents} {tables : List Table} (once : tables.Nodup)
    (others : Table.sessions ∉ tables) (same : ∀ table ∈ tables, d.rows table = c.rows table) :
    d.Runs (tables.flatMap fun table => tableMutations (p.records table) (p.diff c table))
      { d with
        rows := fun table => if table ∈ tables then p.rowsAfter c table else d.rows table } := by
  induction tables generalizing d with
  | nil => exact Contents.runs_nil.2 (by simp)
  | cons table rest ih =>
    rw [List.nodup_cons] at once
    rw [List.mem_cons, not_or] at others
    have first := runs_table (p := p) (same table List.mem_cons_self)
    rw [← rowsAfter_of_ne (Ne.symm others.1)] at first
    have tail := ih (d := d.setRows table (p.rowsAfter c table)) once.2 others.2
      fun later listed => by
        have apart : later ≠ table := fun h => once.1 (h ▸ listed)
        rw [Contents.rows_setRows_of_ne _ apart]
        exact same later (List.mem_cons_of_mem _ listed)
    refine (first.append tail).congr ?_
    ext1 key
    · show (if key ∈ rest then _ else _) = if key ∈ table :: rest then _ else _
      by_cases here : key = table
      · subst here
        simp [once.1]
      · rw [Contents.rows_setRows_of_ne _ here]
        simp [here]
    · rfl

theorem kindMutations_of_ne {d : DataSet} {records : PerTable fun table => Dict table.Record}
    {diffs : PerTable fun _ => TableDiff} {kind : Kind} (other : kind ≠ .sessions) :
    d.kindMutations records diffs kind =
      kind.tables.flatMap fun table => tableMutations (records.get table) (diffs.get table) := by
  cases kind with
  | sessions => exact absurd rfl other
  | _ => rfl

theorem mem_tables_iff {kind : Kind} : table ∈ kind.tables ↔ table.kind = kind := by
  cases kind <;> cases table <;> decide

theorem rows_afterKinds_of_fresh {kinds : List Kind} (fresh : table.kind ∉ kinds) :
    (p.afterKinds c kinds).rows table = c.rows table := if_neg fresh

theorem kind_eq_sessions_iff : table.kind = .sessions ↔ table = .sessions := by
  cases table <;> decide

/-- The references that a plan finds changed are those that the import reports. -/
theorem touchedIds_eq_changed (p : Pass) (c : Contents) :
    (⟨p.data.touchedIds (.ofFn (p.diff c)) .speakers,
      p.data.touchedIds (.ofFn (p.diff c)) .tags⟩ : ChangedReferences) = p.changed c := by
  simp only [DataSet.touchedIds, Pass.changed, touched, Brings, PerTable.get_ofFn,
    List.contains_iff_mem]
  congr

/-- The part of an import that is about sessions: their rows, those that follow, their links. -/
theorem runs_kind_sessions {kinds : List Kind} (fresh : Kind.sessions ∉ kinds) :
    (p.afterKinds c kinds).Runs
      (p.data.kindMutations (.ofFn p.records) (.ofFn (p.diff c)) .sessions)
      (p.afterKinds c (kinds ++ [.sessions])) := by
  have before : (p.afterKinds c kinds).rows .sessions = c.rows .sessions :=
    rows_afterKinds_of_fresh fresh
  have rows := runs_table (p := p) before
  have refreshed := runs_refresh (p := p) (c := c)
    (d := (p.afterKinds c kinds).setRows .sessions (settle (c.rows .sessions)
      (p.records .sessions) fun id _ => (p.diff c .sessions).written.contains id))
    (Contents.rows_setRows_self _)
  rw [Contents.setRows_setRows] at refreshed
  have links := runs_links (p := p) (c := c)
    (d := (p.afterKinds c kinds).setRows .sessions (p.rowsAfter c .sessions))
    (by
      funext link
      exact if_neg fresh)
  have all := (rows.append refreshed).append links
  rw [← touchedIds_eq_changed] at all
  refine all.congr ?_
  ext1 key
  · show ((p.afterKinds c kinds).setRows .sessions (p.rowsAfter c .sessions)).rows key =
      if key.kind ∈ kinds ++ [Kind.sessions] then _ else _
    by_cases here : key = .sessions
    · subst here
      simp [Table.kind]
    · rw [Contents.rows_setRows_of_ne _ here]
      simp [afterKinds, kind_eq_sessions_iff, here]
  · simp [afterKinds]

/-- The part of an import that is about another kind: the rows of its tables. -/
theorem runs_kind_of_ne {kinds : List Kind} {kind : Kind} (fresh : kind ∉ kinds)
    (other : kind ≠ .sessions) :
    (p.afterKinds c kinds).Runs
      (p.data.kindMutations (.ofFn p.records) (.ofFn (p.diff c)) kind)
      (p.afterKinds c (kinds ++ [kind])) := by
  rw [kindMutations_of_ne other]
  simp only [PerTable.get_ofFn]
  have tables := runs_tables (p := p) (c := c) (d := p.afterKinds c kinds)
    (by cases kind <;> decide : kind.tables.Nodup)
    (fun listed => other (mem_tables_iff.1 listed).symm)
    (fun table listed => rows_afterKinds_of_fresh (mem_tables_iff.1 listed ▸ fresh))
  refine tables.congr ?_
  ext1 key
  · by_cases here : key.kind = kind <;> simp [afterKinds, mem_tables_iff, here]
  · simp [afterKinds, Ne.symm other]

/-- Kinds are treated one after another, and each finds its tables as they were. -/
theorem runs_kinds {kinds rest : List Kind} (once : (kinds ++ rest).Nodup) :
    (p.afterKinds c kinds).Runs
      (rest.flatMap (p.data.kindMutations (.ofFn p.records) (.ofFn (p.diff c))))
      (p.afterKinds c (kinds ++ rest)) := by
  induction rest generalizing kinds with
  | nil => exact Contents.runs_nil.2 (by rw [List.append_nil])
  | cons kind rest ih =>
    have fresh : kind ∉ kinds := fun there =>
      (List.nodup_append.1 once).2.2 kind there kind List.mem_cons_self rfl
    have tail := @ih (kinds ++ [kind]) (by simpa using once)
    rw [List.append_assoc] at tail
    refine Contents.Runs.append ?_ tail
    by_cases sessions : kind = .sessions
    · subst sessions
      exact runs_kind_sessions fresh
    · exact runs_kind_of_ne fresh sessions

/-! ## The whole -/

/-- The plan compares the records with the rows that are stored. -/
theorem batch_plan {db : Database} (whole : db.Whole) :
    (p.plan db).batch =
      p.data.present.flatMap
        (p.data.kindMutations (.ofFn p.records) (.ofFn (p.diff db.contents))) := by
  have diffs : (PerTable.ofFn fun table =>
      compare (fingerprints ((PerTable.ofFn (F := fun table => Dict table.Record)
        (p.data.records p.rules)).get table))
        (if p.mode = .full then none else p.index? db table)) =
      PerTable.ofFn (p.diff db.contents) := by
    refine PerTable.ext_get fun table => ?_
    rw [PerTable.get_ofFn, PerTable.get_ofFn, PerTable.get_ofFn, Pass.diff, usedIndex?, index?,
      whole.fingerprints_eq_ok]
    congr 1
    by_cases anew : p.mode = .full <;> simp [anew, Except.toOption]
  rw [Pass.plan, DataSet.plan, diffs]
  rfl

theorem nodup_present (d : DataSet) : d.present.Nodup :=
  List.filter_sublist.nodup (by decide : Kind.importOrder.Nodup)

/-- The batch of an import leads to the contents after it. -/
theorem runs_plan {db : Database} (whole : db.Whole) :
    db.contents.Runs (p.plan db).batch (p.after db.contents) := by
  have once : ([] ++ p.data.present).Nodup := nodup_present p.data
  have runs := runs_kinds (p := p) (c := db.contents) once
  rwa [afterKinds_nil, List.nil_append, afterKinds_present, ← batch_plan whole] at runs

end Import.Pass

namespace Database

/-- An import into a database that misses no table succeeds. -/
theorem exists_importPass {db : Database} (whole : db.Whole) (p : Import.Pass) :
    ∃ after, db.importPass p = .ok after ∧ after.Whole ∧ after.contents = p.after db.contents :=
  exists_commit_of_runs whole (Import.Pass.runs_plan whole)

/-- An import into a database that misses no table, if it is known to succeed. -/
theorem Whole.importPass {db after : Database} (whole : db.Whole) {p : Import.Pass}
    (done : db.importPass p = .ok after) :
    after.Whole ∧ after.contents = p.after db.contents := by
  obtain ⟨other, made, rest⟩ := exists_importPass whole p
  obtain rfl := Except.ok.inj (done.symm.trans made)
  exact rest

/-! ## Several imports -/

/-- The last import of a run starts from what the others lead to. -/
theorem exists_of_importPasses_append {db after : Database} {passes : List Import.Pass}
    {p : Import.Pass} (reached : db.importPasses (passes ++ [p]) = .ok after) :
    ∃ before, db.importPasses passes = .ok before ∧ before.importPass p = .ok after := by
  induction passes generalizing db with
  | nil =>
    rw [List.nil_append, importPasses] at reached
    split at reached
    · next made => exact ⟨db, rfl, made.trans reached⟩
    · simp at reached
  | cons q rest ih =>
    rw [List.cons_append, importPasses] at reached
    split at reached
    · next next made =>
      obtain ⟨before, first, last⟩ := ih reached
      exact ⟨before, by rw [importPasses, made]; exact first, last⟩
    · simp at reached

/-- Imports into a database that misses no table all succeed. -/
theorem exists_importPasses {db : Database} (whole : db.Whole) (passes : List Import.Pass) :
    ∃ after, db.importPasses passes = .ok after ∧ after.Whole := by
  induction passes generalizing db with
  | nil => exact ⟨db, rfl, whole⟩
  | cons p rest ih =>
    obtain ⟨next, made, nextWhole, -⟩ := exists_importPass whole p
    rw [importPasses, made]
    exact ih nextWhole

theorem Whole.importPasses {db after : Database} (whole : db.Whole) {passes : List Import.Pass}
    (reached : db.importPasses passes = .ok after) : after.Whole := by
  obtain ⟨other, made, otherWhole⟩ := exists_importPasses whole passes
  obtain rfl := Except.ok.inj (reached.symm.trans made)
  exact otherWhole

end Database

end ConferenceSync
