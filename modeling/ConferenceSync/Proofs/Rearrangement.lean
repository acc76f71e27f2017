import Mathlib.Data.List.Perm.Basic
import ConferenceSync.Import.Plan
import ConferenceSync.Proofs.Elements

/-!
# Data that is cut into files another way

A plan is made from the elements of the array sections and from the sections of the map. Where an
array is cut or joined, and in which files its parts are, does not matter. If in addition no two
records of a table have the same id, the order of the elements and of the files does not matter
either.

## Main definitions

* `DataSet.SameElements` — that two data sets have the same elements in the same order
* `DataSet.Rearranges` — that they have the same elements in any order
* `DataSet.Distinct` — that no two records of a table have the same id

## Main results

* `DataSet.plan_eq_of_sameElements`, `DataSet.plan_eq_of_rearranges` — the plans are the same
* `DataSet.rearranges_of_perm` — data files in another order
* `last_usable_element_wins` — what is kept of elements, and the plans that follow from it
-/

namespace ConferenceSync

open Agenda Import

namespace DataSet

variable {rules : GroupingRules} {d more : DataSet} {table : Table} {mode : Mode}
  {index? : Table → Option Index}

/-- Whether data sets have the same elements in the same order, and the same sections of the map,
which are no arrays. -/
structure SameElements (d more : DataSet) : Prop where
  present : d.present = more.present
  elements : ∀ kind ≠ .map, d.elements kind = more.elements kind
  map : d.sections .map = more.sections .map

/-- Whether data sets have the same elements in any order, and the same sections of the map in any
order. -/
structure Rearranges (d more : DataSet) : Prop where
  present : d.present = more.present
  elements : ∀ kind ≠ .map, (d.elements kind).Perm (more.elements kind)
  map : (d.sections .map).Perm (more.sections .map)

/-- Whether no two records of a table have the same id. -/
def Distinct (rules : GroupingRules) (d : DataSet) : Prop :=
  ∀ table : Table, ((readRecords rules d.sections table).map table.idOf).Nodup

/-! ## Plans -/

/-- A plan is made from the records and the kinds that are present. -/
theorem plan_congr (present : d.present = more.present)
    (records : ∀ table, d.records rules table = more.records rules table) :
    d.plan rules mode index? = more.plan rules mode index? := by
  have same : (d.records rules : (table : Table) → Dict table.Record) = more.records rules :=
    funext records
  -- Besides records and comparisons, the mutations of sessions depend on what is present.
  have kinds : d.kindMutations = more.kindMutations := by
    funext records diffs kind
    cases kind <;> simp only [kindMutations, touchedIds, present]
  rw [plan, plan, present, same, kinds]

/-- Sessions see the speakers and tags of their data set. -/
theorem referencesOf_congr (same : d.records rules .tags = more.records rules .tags ∧
    d.records rules .speakers = more.records rules .speakers) :
    referencesOf d.sections = referencesOf more.sections :=
  congrArg₂ References.mk same.1 same.2

/-- The records of tables other than that of the sessions do not depend on references. -/
theorem ofElement?_congr {a b : References} (same : table = .sessions → a = b) :
    table.ofElement? rules a = table.ofElement? rules b := by
  cases table <;> first | rfl | rw [same rfl]

/-- What holds of the other tables, and of sessions if of their speakers and tags, holds of all. -/
theorem forall_of_sessions_last {p : Table → Prop}
    (step : ∀ table, (table = .sessions → p .tags ∧ p .speakers) → p table) (table : Table) :
    p table := by
  have others : ∀ table ≠ .sessions, p table := fun table other =>
    step table fun same => absurd same other
  exact step table fun _ => ⟨others .tags (by decide), others .speakers (by decide)⟩

theorem readRecords_eq_of_sameElements (same : d.SameElements more)
    (references : table = .sessions → referencesOf d.sections = referencesOf more.sections) :
    readRecords rules d.sections table = readRecords rules more.sections table := by
  by_cases map : table.kind = .map
  · cases table <;> first | exact absurd map (by decide) | rw [readRecords, readRecords, same.map]
  · rw [readRecords_eq map, readRecords_eq map, same.elements _ map, ofElement?_congr references]

/-- Where arrays are cut or joined does not matter. -/
theorem plan_eq_of_sameElements (same : d.SameElements more) :
    d.plan rules mode index? = more.plan rules mode index? := by
  refine plan_congr same.present (forall_of_sessions_last fun table references => ?_)
  exact congrArg table.byId <|
    readRecords_eq_of_sameElements same fun sessions => referencesOf_congr (references sessions)

theorem readRecords_perm_of_rearranges (same : d.Rearranges more)
    (references : table = .sessions → referencesOf d.sections = referencesOf more.sections) :
    (readRecords rules d.sections table).Perm (readRecords rules more.sections table) := by
  by_cases map : table.kind = .map
  · cases table <;> first | exact absurd map (by decide) | exact same.map.flatMap_right _
  · rw [readRecords_eq map, readRecords_eq map, ofElement?_congr references]
    exact (same.elements _ map).filterMap _

/-- If no two records of a table have the same id, the order of the elements does not matter. -/
theorem plan_eq_of_rearranges (distinct : d.Distinct rules) (same : d.Rearranges more) :
    d.plan rules mode index? = more.plan rules mode index? := by
  refine plan_congr same.present (forall_of_sessions_last fun table references => ?_)
  have perm : (readRecords rules d.sections table).Perm (readRecords rules more.sections table) :=
    readRecords_perm_of_rearranges same fun sessions => referencesOf_congr (references sessions)
  refine Dict.ofList_perm ?_ (perm.map _)
  simpa [Function.comp_def] using distinct table

/-! ## Data files -/

/-- The sections of a data file, none if it cannot be read. -/
def partsOfFile (file : String × String) : List (Kind × Json) :=
  match Json.objectOfText file.2 with
  | .ok members => partsOf members
  | .error _ => []

theorem parts_addEach (d : DataSet) (files : List (String × String)) :
    (d.addEach files).1.parts = d.parts ++ files.flatMap partsOfFile := by
  induction files generalizing d with
  | nil => simp [addEach]
  | cons file rest ih =>
    rw [List.flatMap_cons, partsOfFile, addEach, add]
    cases Json.objectOfText file.2 with
    | error fault => exact ih d
    | ok members => simp only [ih, addMembers, List.append_assoc]

/-- The sections of data files come in the order of the files. -/
theorem rearranges_of_perm (perm : d.parts.Perm more.parts) : d.Rearranges more := by
  have sections (kind : Kind) : (d.sections kind).Perm (more.sections kind) :=
    (perm.filter _).map _
  exact {
    present := List.filter_congr fun kind _ => perm.any_eq
    elements := fun kind _ => (sections kind).flatMap_right _
    map := sections .map }

/-- An array that is cut in two, the second part moving behind sections of other kinds. -/
theorem sameElements_cut {kind : Kind} (array : kind ≠ .map)
    (before between after : List (Kind × Json)) (others : ∀ part ∈ between, part.1 ≠ kind)
    (xs ys : List Json) (files moreFiles : Nat) :
    SameElements
      ⟨before ++ (kind, .array (xs ++ ys)) :: between ++ after, files⟩
      ⟨before ++ (kind, .array xs) :: between ++ (kind, .array ys) :: after, moreFiles⟩ := by
  have none : between.filter (fun part => part.1 = kind) = [] :=
    List.filter_eq_nil_iff.2 fun part there => by simpa using others part there
  refine ⟨?_, fun other _ => ?_, ?_⟩
  · refine List.filter_congr fun other _ => ?_
    by_cases same : kind = other <;> simp [same]
  · by_cases same : kind = other
    · subst same
      simp [elements, sections, none, Json.items]
    · simp [elements, sections, same]
  · simp [sections, array]

end DataSet

/-- Of the elements with one id the last usable one is kept, whatever the others are, so plans do
not depend on where arrays are cut. If no two records of a table have the same id, they do not
depend on the order of the elements or of the data files either. -/
theorem last_usable_element_wins (rules : GroupingRules) :
    (∀ table : Table, table.kind ≠ .map → ∀ references parts,
      table.KeepsLast rules references parts) ∧
    (∀ d : DataSet, ∀ table : Table, table.kind ≠ .map → d.records rules table =
      table.ofSections rules (referencesOf d.sections) (d.sections table.kind)) ∧
    (∀ d more : DataSet, d.SameElements more → ∀ mode index?,
      d.plan rules mode index? = more.plan rules mode index?) ∧
    (∀ d more : DataSet, d.Distinct rules → d.Rearranges more → ∀ mode index?,
      d.plan rules mode index? = more.plan rules mode index?) ∧
    ∀ files more : List (String × String), files.Perm more →
      (DataSet.empty.addEach files).1.Distinct rules → ∀ mode index?,
      (DataSet.empty.addEach files).1.plan rules mode index? =
        (DataSet.empty.addEach more).1.plan rules mode index? := by
  refine ⟨fun table _ => table.keepsLast rules, fun _ _ => DataSet.records_eq_ofSections,
    fun _ _ same _ _ => DataSet.plan_eq_of_sameElements same,
    fun _ _ distinct same _ _ => DataSet.plan_eq_of_rearranges distinct same,
    fun files more perm distinct mode index? => ?_⟩
  refine DataSet.plan_eq_of_rearranges distinct (DataSet.rearranges_of_perm ?_)
  rw [DataSet.parts_addEach, DataSet.parts_addEach]
  exact (perm.flatMap_right _).append_left _

/-- The element of a room without a floor. -/
def roomElement (id name : String) : Json := .object [("id", .string id), ("name", .string name)]

/-- Two rooms in one array, with an element between them that is no room. -/
def joinedRooms : DataSet :=
  ⟨[(.rooms, .array ([roomElement "hall" "Hall", .null] ++ [roomElement "attic" "Attic"])),
    (.tags, .array [])], 1⟩

/-- The same rooms in two arrays. -/
def cutRooms : DataSet :=
  ⟨[(.rooms, .array [roomElement "hall" "Hall", .null]), (.tags, .array []),
    (.rooms, .array [roomElement "attic" "Attic"])], 2⟩

/-- The same arrays the other way round. -/
def turnedRooms : DataSet :=
  ⟨[(.rooms, .array [roomElement "attic" "Attic"]), (.tags, .array []),
    (.rooms, .array [roomElement "hall" "Hall", .null])], 2⟩

/-- Two sections with the same room, and one between them that is no array. -/
def doubledHall : List Json :=
  [.array [roomElement "hall" "Old hall"], .null, .array [roomElement "hall" "Hall", .null]]

/-- Two files with one room each. -/
def roomFiles : List (String × String) :=
  [("hall.json", "\x7b\"rooms\":[\x7b\"id\":\"hall\"\x7d]\x7d"),
    ("attic.json", "\x7b\"rooms\":[\x7b\"id\":\"attic\"\x7d]\x7d")]

/-- Of two rooms with one id the later one is kept. Rooms in one array or two, either way round, and
in files in any order, have the same plan. -/
theorem last_usable_element_wins_rooms :
    (Table.rooms.ofSections .standard ⟨.empty, .empty⟩ doubledHall).get? "hall" =
      some ⟨"hall", "Hall", ""⟩ ∧
    joinedRooms.records .standard .rooms = Table.rooms.ofSections .standard
      (referencesOf joinedRooms.sections) (joinedRooms.sections .rooms) ∧
    joinedRooms.plan .standard .incremental (fun _ => none) =
      cutRooms.plan .standard .incremental (fun _ => none) ∧
    cutRooms.plan .standard .incremental (fun _ => none) =
      turnedRooms.plan .standard .incremental (fun _ => none) ∧
    (DataSet.empty.addEach roomFiles).1.plan .standard .incremental (fun _ => none) =
      (DataSet.empty.addEach roomFiles.reverse).1.plan .standard .incremental (fun _ => none) := by
  obtain ⟨keeps, records, cut, turned, files⟩ := last_usable_element_wins .standard
  refine ⟨?_, records joinedRooms .rooms (by decide), cut _ _ ?_ _ _, turned _ _ ?_ ?_ _ _,
    files _ _ (List.reverse_perm _).symm ?_ _ _⟩
  · refine ((keeps .rooms (by decide) _ _).get?_iff _ _).2
      ⟨[roomElement "hall" "Old hall"], roomElement "hall" "Hall", [.null], rfl, ?_, rfl, ?_⟩
    · decide +kernel
    · simp [Table.ofElement?, Room.ofJson?, Json.fields?]
  · exact DataSet.sameElements_cut (by decide : Kind.rooms ≠ .map) [] [(.tags, .array [])] []
      (by simp) _ _ _ _
  · intro table
    cases table <;> decide +kernel
  · exact DataSet.rearranges_of_perm (List.reverse_perm _).symm
  · intro table
    cases table <;> decide +kernel

end ConferenceSync
