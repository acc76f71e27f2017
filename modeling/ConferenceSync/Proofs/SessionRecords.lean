import ConferenceSync.Import.DataSet
import ConferenceSync.Proofs.Dict

/-!
# The session records of a data set

A session lists each speaker and each tag once, and the fields that follow from what it refers to
are those of the data set's own speakers and tags.

## Main results

* `DataSet.idOf_of_records` — a record is kept under its id
* `DataSet.nodup_targets_of_records` — a session refers to nothing twice
* `DataSet.withReferences_of_records` — a session's names and group follow from the data set
-/

namespace ConferenceSync

open Agenda

/-- The ids that a session refers to in a table of links. -/
def Agenda.Session.targets (s : Session) : LinkTable → List String
  | .speakers => s.speakers
  | .tags => s.tags

namespace Agenda

theorem nodup_distinctIds (ids : List String) : (distinctIds ids).Nodup := by
  have keep : ∀ (rest kept : List String), kept.Nodup →
      (rest.foldl (fun kept id =>
        if id == "" || kept.contains id then kept else kept ++ [id]) kept).Nodup := by
    intro rest
    induction rest with
    | nil => exact fun _ nodup => nodup
    | cons id rest ih =>
      intro kept nodup
      refine ih _ ?_
      show (if (id == "" || kept.contains id) = true then kept else kept ++ [id]).Nodup
      split
      · exact nodup
      · next new =>
        have absent : id ∉ kept := fun there => new (by simp [there])
        refine List.nodup_append.2 ⟨nodup, by simp, fun a there b last same => ?_⟩
        rw [List.mem_singleton.1 last] at same
        exact absent (same ▸ there)
  exact keep _ _ .nil

theorem nodup_targets_of_ofJson? {value : Json} {s : Session}
    (read : Session.ofJson? value = some s) (link : LinkTable) : (s.targets link).Nodup := by
  iterate 5 obtain ⟨_, -, read⟩ := Option.bind_eq_some_iff.1 read
  obtain ⟨tags, -, read⟩ := Option.bind_eq_some_iff.1 read
  iterate 2 obtain ⟨_, -, read⟩ := Option.bind_eq_some_iff.1 read
  obtain ⟨speakers, -, read⟩ := Option.bind_eq_some_iff.1 read
  iterate 7 obtain ⟨_, -, read⟩ := Option.bind_eq_some_iff.1 read
  obtain rfl := Option.some.inj read
  cases link
  · exact nodup_distinctIds speakers
  · exact nodup_distinctIds tags

end Agenda

namespace DataSet

variable {rules : GroupingRules} {d : DataSet} {table : Table} {id : String}

/-- A record is kept under its id. -/
theorem idOf_of_records {record : table.Record}
    (there : (d.records rules table).get? id = some record) : table.idOf record = id :=
  id_of_mem_byId there

/-- A session is one that was read, with the fields that follow from the data set. -/
theorem exists_of_sessions {s : Session}
    (there : Dict.get? (d.records rules .sessions) id = some s) :
    ∃ value base, Session.ofJson? value = some base ∧
      s = base.withReferences rules (referencesOf d.sections) := by
  have listed := Dict.mem_of_get?_ofList there
  simp only [List.mem_map, Prod.mk.injEq] at listed
  obtain ⟨_, read, -, rfl⟩ := listed
  simp only [readRecords, readItems, List.mem_map, List.mem_flatMap, List.mem_filterMap] at read
  obtain ⟨base, ⟨_, _, value, _, parsed⟩, rfl⟩ := read
  exact ⟨value, base, parsed, rfl⟩

/-- A session refers to nothing twice. -/
theorem nodup_targets_of_records {s : Session}
    (there : Dict.get? (d.records rules .sessions) id = some s) (link : LinkTable) :
    (s.targets link).Nodup := by
  obtain ⟨value, base, read, rfl⟩ := exists_of_sessions there
  have nodup := nodup_targets_of_ofJson? read link
  cases link <;> exact nodup

/-- The names of a session's speakers and its group follow from the data set. -/
theorem withReferences_of_records {s : Session}
    (there : Dict.get? (d.records rules .sessions) id = some s) :
    s.speakerNames = (referencesOf d.sections).speakerNames s.speakers ∧
      s.groupingOrder = (referencesOf d.sections).groupingOrder rules s.tags := by
  obtain ⟨value, base, -, rfl⟩ := exists_of_sessions there
  exact ⟨rfl, rfl⟩

end DataSet

end ConferenceSync
