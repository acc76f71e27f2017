import Mathlib.Data.List.Perm.Subperm
import ConferenceSync.Proofs.Queries

/-!
# Sessions by their tags

A selection of tags asks for sessions that have one of the selected tags in every category that the
selection concerns. What is compared are two numbers: of the categories of the selected tags, and of
those among them in which a session has a selected tag. The latter categories are some of the former
ones, so there are as many of them only if there is none that the session misses. Ids that are
selected twice, that are those of no tag, or that a session is linked to without there being such a
tag, belong to no category and count on neither side.

## Main definitions

* `Query.Meets` — that a session has a selected tag in every category of a selection

## Main results

* `Query.mem_categoriesOf`, `Query.nodup_categoriesOf` — the categories of a selection, each once
* `Query.categories_le_iff_meets` — comparing the numbers is comparing the categories
* `Query.sessions_meet_selection` — what a selection gives, in which order
-/

namespace ConferenceSync

open Agenda

namespace Query

/-! ## Categories -/

section Categories

variable {tags : Dict (StoredRow .tags)} {selected other : String → Bool} {category : String}

theorem nodup_eraseDups (l : List String) : l.eraseDups.Nodup := by
  cases l with
  | nil => simp
  | cons a rest =>
    rw [List.eraseDups_cons, List.nodup_cons]
    exact ⟨by simp, nodup_eraseDups _⟩
termination_by l.length
decreasing_by exact Nat.lt_succ_of_le (List.length_filter_le _ _)

/-- The categories of a selection are those of the selected tags that are stored. -/
theorem mem_categoriesOf : category ∈ categoriesOf tags selected ↔
    ∃ id row, tags.get? id = some row ∧ selected id = true ∧
      Tag.category row.columns = category := by
  rw [categoriesOf, List.mem_eraseDups, List.mem_map]
  simp only [Dict.values, List.mem_map, Dict.filter, List.mem_filter, Prod.exists,
    ← Dict.get?_eq_some_iff]
  constructor
  · rintro ⟨_, ⟨id, row, ⟨there, chosen⟩, rfl⟩, named⟩
    exact ⟨id, row, there, chosen, named⟩
  · rintro ⟨id, row, there, chosen, named⟩
    exact ⟨row, ⟨id, row, ⟨there, chosen⟩, rfl⟩, named⟩

theorem nodup_categoriesOf : (categoriesOf tags selected).Nodup := nodup_eraseDups _

theorem categoriesOf_subset (fewer : ∀ id, other id = true → selected id = true) :
    categoriesOf tags other ⊆ categoriesOf tags selected := by
  intro category there
  obtain ⟨id, row, stored, chosen, named⟩ := mem_categoriesOf.1 there
  exact mem_categoriesOf.2 ⟨id, row, stored, fewer id chosen, named⟩

/-- If a selection is part of another one, it has as many categories only if it has the same. -/
theorem length_categoriesOf_le_iff (fewer : ∀ id, other id = true → selected id = true) :
    (categoriesOf tags selected).length ≤ (categoriesOf tags other).length ↔
      categoriesOf tags selected ⊆ categoriesOf tags other := by
  constructor
  · intro many
    have part : (categoriesOf tags other).Subperm (categoriesOf tags selected) :=
      nodup_categoriesOf.subperm (categoriesOf_subset fewer)
    exact (part.perm_of_length_le many).symm.subset
  · intro covered
    exact (nodup_categoriesOf.subperm covered).length_le

end Categories

/-! ## Selections -/

/-- Whether a session has a selected tag in every category of the selected tags that are stored, of
which there has to be one. -/
structure Meets (tags : Dict (StoredRow .tags)) (links : List Link) (tagIds : List String)
    (sessionId : String) : Prop where
  known : ∃ id ∈ tagIds, ∃ row, tags.get? id = some row
  covered : ∀ id ∈ tagIds, ∀ row, tags.get? id = some row →
    ∃ own ∈ tagIds, ∃ tag, tags.get? own = some tag ∧
      Tag.category tag.columns = Tag.category row.columns ∧ ⟨sessionId, own⟩ ∈ links

section Selections

variable {tags : Dict (StoredRow .tags)} {links : List Link} {tagIds : List String}
  {sessionId : String}

/-- Comparing the numbers of categories is comparing the categories. A selection in which no tag is
stored counts as one category, which no session has. -/
theorem categories_le_iff_meets :
    max 1 (categoriesOf tags tagIds.contains).length ≤
        (categoriesOf tags fun id => tagIds.contains id && links.contains ⟨sessionId, id⟩).length ↔
      Meets tags links tagIds sessionId := by
  have fewer (id : String)
      (chosen : (tagIds.contains id && links.contains ⟨sessionId, id⟩) = true) :
      tagIds.contains id = true := (Bool.and_eq_true_iff.1 chosen).1
  rw [max_le_iff, length_categoriesOf_le_iff fewer]
  constructor
  · rintro ⟨some, all⟩
    obtain ⟨category, there⟩ := List.exists_mem_of_length_pos some
    obtain ⟨id, row, stored, chosen, -⟩ := mem_categoriesOf.1 there
    refine ⟨⟨id, List.contains_iff_mem.1 (fewer id chosen), row, stored⟩, ?_⟩
    intro id listed row stored
    have own := all (mem_categoriesOf.2 ⟨id, row, stored, List.contains_iff_mem.2 listed, rfl⟩)
    obtain ⟨own, tag, known, chosen, named⟩ := mem_categoriesOf.1 own
    rw [Bool.and_eq_true_iff, List.contains_iff_mem, List.contains_iff_mem] at chosen
    exact ⟨own, chosen.1, tag, known, named, chosen.2⟩
  · rintro ⟨⟨id, listed, row, stored⟩, covered⟩
    have all : categoriesOf tags tagIds.contains ⊆
        categoriesOf tags fun id => tagIds.contains id && links.contains ⟨sessionId, id⟩ := by
      intro category there
      obtain ⟨id, row, stored, chosen, rfl⟩ := mem_categoriesOf.1 there
      obtain ⟨own, selected, tag, known, named, linked⟩ :=
        covered id (List.contains_iff_mem.1 chosen) row stored
      refine mem_categoriesOf.2 ⟨own, tag, known, ?_, named⟩
      rw [Bool.and_eq_true_iff, List.contains_iff_mem, List.contains_iff_mem]
      exact ⟨selected, linked⟩
    have some : Tag.category row.columns ∈ categoriesOf tags tagIds.contains :=
      mem_categoriesOf.2 ⟨id, row, stored, List.contains_iff_mem.2 listed, rfl⟩
    exact ⟨List.length_pos_of_mem (all some), all⟩

end Selections

/-! ## The order of the agenda -/

instance : Std.TransCmp byAgenda :=
  inferInstanceAs <| Std.TransCmp <|
    compareLex (compareOn SessionColumns.startMillis)
      (compareLex (compareOn SessionColumns.groupingOrder) (compareOn SessionColumns.title))

/-- Of two sessions the one that starts first comes first; of two that start together, the one whose
group does; and of two in one group, the one whose title does. -/
theorem isLE_byAgenda_iff (a b : SessionColumns) :
    (byAgenda a b).isLE = true ↔
      a.startMillis < b.startMillis ∨ a.startMillis = b.startMillis ∧
        (a.groupingOrder < b.groupingOrder ∨
          a.groupingOrder = b.groupingOrder ∧ a.title ≤ b.title) := by
  rw [byAgenda, Ordering.isLE_then_iff_or, compare_lt_iff_lt, compare_eq_iff_eq,
    Ordering.isLE_then_iff_or, compare_lt_iff_lt, compare_eq_iff_eq, isLE_compare_text_iff]

/-! ## What a selection gives -/

section Answer

variable {db : Database} {sessions : Dict (StoredRow .sessions)} {links : List Link}
  {tags : Dict (StoredRow .tags)} {tagIds : List String}

/-- Without a selection all sessions are listed. -/
theorem sessionsWithTags_nil (stored : db.rows .sessions = .ok sessions) :
    sessionsWithTags db [] = .ok (inOrder byAgenda sessions) := by
  rw [sessionsWithTags, if_pos List.isEmpty_nil, Query.sessions, list, stored]
  rfl

/-- With a selection those are listed that have enough categories. -/
theorem sessionsWithTags_of_ne_nil (stored : db.rows .sessions = .ok sessions)
    (linked : db.links .tags = .ok links) (known : db.rows .tags = .ok tags) (some : tagIds ≠ [])
    (few : tagIds.length < mostParameters) :
    sessionsWithTags db tagIds = .ok (inOrder byAgenda (sessions.filter fun id _ =>
      max 1 (categoriesOf tags tagIds.contains).length ≤
        (categoriesOf tags fun tagId =>
          tagIds.contains tagId && links.contains ⟨id, tagId⟩).length)) := by
  have nonempty : ¬tagIds.isEmpty = true := fun none => some (List.isEmpty_iff.1 none)
  have inUse : categoriesInUse db tagIds =
      .ok (max 1 (categoriesOf tags tagIds.contains).length) := by
    rw [categoriesInUse, if_neg nonempty, if_neg (by omega), known]
    rfl
  rw [sessionsWithTags, if_neg nonempty, inUse]
  simp only [if_neg (show ¬mostParameters < tagIds.length + 1 by omega), stored, linked, known]
  rfl

/-- The sessions that are listed for a selection, or without one, are those that meet it. -/
theorem get?_listed_iff (stored : db.rows .sessions = .ok sessions)
    (linked : db.links .tags = .ok links) (known : db.rows .tags = .ok tags)
    (few : tagIds.length < mostParameters) :
    ∃ listed : Dict (StoredRow .sessions),
      sessionsWithTags db tagIds = .ok (inOrder byAgenda listed) ∧
      ∀ id row, listed.get? id = some row ↔
        sessions.get? id = some row ∧ (tagIds = [] ∨ Meets tags links tagIds id) := by
  by_cases none : tagIds = []
  · subst none
    exact ⟨sessions, sessionsWithTags_nil stored, fun id row => by simp⟩
  · refine ⟨_, sessionsWithTags_of_ne_nil stored linked known none few, fun id row => ?_⟩
    rw [Dict.get?_filter, Option.filter_eq_some_iff, decide_eq_true_iff, categories_le_iff_meets]
    simp only [none, false_or]

end Answer

/-- Whatever sessions, tags and links are stored, a selection of tags gives the stored sessions that
have one of the selected tags in every category of those that are stored, if any is; and without a
selection it gives all stored sessions. Each is listed once, by start, group and title. The tags of
a selection are parameters of a statement, with their number of categories as one more. -/
theorem sessions_meet_selection {db : Database} {sessions : Dict (StoredRow .sessions)}
    {links : List Link} {tags : Dict (StoredRow .tags)}
    (stored : db.rows .sessions = .ok sessions) (keyed : Keyed sessions)
    (linked : db.links .tags = .ok links) (known : db.rows .tags = .ok tags)
    {tagIds : List String} (few : tagIds.length < mostParameters) :
    ∃ found, sessionsWithTags db tagIds = .ok found ∧ (found.map StoredRow.id).Nodup ∧
      (∀ row, row ∈ found ↔ sessions.get? row.id = some row ∧ (tagIds = [] ∨
        (∃ id ∈ tagIds, ∃ tag, tags.get? id = some tag) ∧
        ∀ id ∈ tagIds, ∀ tag, tags.get? id = some tag →
          ∃ own ∈ tagIds, ∃ other, tags.get? own = some other ∧
            Tag.category other.columns = Tag.category tag.columns ∧ ⟨row.id, own⟩ ∈ links)) ∧
      found.Pairwise fun a b => a.columns.startMillis < b.columns.startMillis ∨
        a.columns.startMillis = b.columns.startMillis ∧
          (a.columns.groupingOrder < b.columns.groupingOrder ∨
            a.columns.groupingOrder = b.columns.groupingOrder ∧
              a.columns.title ≤ b.columns.title) := by
  obtain ⟨listed, answered, get?_listed⟩ := get?_listed_iff stored linked known few
  have keyedListed : Keyed listed := fun id row there =>
    keyed id row ((get?_listed id row).1 there).1
  refine ⟨_, answered, nodup_inOrder keyedListed, fun row => ?_, ?_⟩
  · have lies : row ∈ inOrder byAgenda listed ↔ listed.get? row.id = some row := by
      rw [mem_inOrder]
      constructor
      · rintro ⟨id, there⟩
        rwa [keyedListed id row there]
      · exact fun there => ⟨row.id, there⟩
    have meets : Meets tags links tagIds row.id ↔ _ :=
      ⟨fun m => And.intro m.known m.covered, fun m => ⟨m.1, m.2⟩⟩
    rw [lies, get?_listed, meets]
  · have sorted : (inOrder byAgenda listed).Pairwise fun a b =>
        (byAgenda a.columns b.columns).isLE = true := pairwise_inOrder
    exact sorted.imp fun {a b} before => (isLE_byAgenda_iff a.columns b.columns).1 before

/-! ## A selection with an unknown tag -/

/-- The row of a tag of a category. -/
def tagIn (category id : String) : StoredRow .tags := ⟨⟨id, category, "", 0, "", 0, ""⟩, ""⟩

/-- In a store with two topics and a type, and with links that lead nowhere or from nowhere, both
topics and the type are selected, one of them twice, and a tag that is not stored: the session with
a topic and the type is found, and not the one that has the unknown tag instead of the type. -/
theorem sessions_meet_selection_unknown_tag :
    let tags := .ofList [("WEB", tagIn "TOPIC" "WEB"), ("APPS", tagIn "TOPIC" "APPS"),
      ("TALK", tagIn "TYPE" "TALK")]
    let sessions := .ofList [("s1", titled "s1" "Pages"), ("s3", titled "s3" "Lunch")]
    let links := [⟨"s1", "WEB"⟩, ⟨"s1", "TALK"⟩, ⟨"s3", "WEB"⟩, ⟨"s3", "GONE"⟩, ⟨"s4", "WEB"⟩]
    let db :=
      ((Database.initial.setRows .tags tags).setRows .sessions sessions).setLinks .tags links
    let tagIds := ["WEB", "GONE", "TALK", "APPS", "WEB"]
    Keyed sessions ∧ tagIds.length < mostParameters ∧
      ∃ found, sessionsWithTags db tagIds = .ok found ∧
        titled "s1" "Pages" ∈ found ∧ titled "s3" "Lunch" ∉ found := by
  intro tags sessions links db tagIds
  have keyed : Keyed sessions := keyed_iff.2 (by decide +kernel)
  have few : tagIds.length < mostParameters := by decide
  have stored : db.rows .sessions = .ok sessions := rfl
  have linked : db.links .tags = .ok links := rfl
  have known : db.rows .tags = .ok tags := rfl
  obtain ⟨found, answered, -, chosen, -⟩ := sessions_meet_selection stored keyed linked known few
  refine ⟨keyed, few, found, answered, ?_, fun there => ?_⟩
  · have meets : Meets tags links tagIds "s1" := categories_le_iff_meets.1 (by decide +kernel)
    exact (chosen _).2 ⟨by decide +kernel, .inr ⟨meets.known, meets.covered⟩⟩
  · obtain none | ⟨known, covered⟩ := ((chosen _).1 there).2
    · exact absurd none (by decide)
    · have meets : Meets tags links tagIds "s3" := ⟨known, covered⟩
      exact absurd (categories_le_iff_meets.2 meets) (by decide +kernel)

end Query

end ConferenceSync
