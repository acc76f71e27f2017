import Mathlib.Data.Bool.AllAny
import ConferenceSync.Proofs.Patterns
import ConferenceSync.Proofs.Queries
import ConferenceSync.Proofs.SearchIndex

/-!
# What a search finds

A query without the blanks around it is put into lower case and compared as a pattern. So it finds
more than the texts that contain it: characters that are special in patterns stand for others. And
it finds less than the sessions that mention it: in the query all letters are put into lower case,
in the texts and in the comparison those of the ASCII range alone. A letter that is changed in the
query only is not in the text, and as lower cases do not change again, no other letter of the text
can make up for it. This is all there is to it: a query without special characters finds texts that
contain it, and one without such letters finds all sessions that mention it.

## Main definitions

* `Query.needle` — what is looked for in the texts
* `SessionColumns.Mentions` — that a text is in what is said about a session
* `indexed` — a database with sessions and texts for them

## Main results

* `Query.mem_of_search`, `Query.search_of_short` — what is found in the texts that are there
* `Query.search_upToDate` — what is found if the texts are those of the sessions
* `Query.search_is_literal_iff` — the queries that find what contains them
* `Query.search_finds_mentions_iff` — the queries that find all that mentions them
-/

namespace ConferenceSync

open Text

/-! ## Sessions and their texts -/

/-- Whether a text is in what is said about a session, its tags aside. -/
def SessionColumns.Mentions (s : SessionColumns) (text : String) : Prop :=
  text.toList <:+: s.title.toList ∨ text.toList <:+: s.description.toList ∨
    text.toList <:+: s.speakerNames.toList ∨ text.toList <:+: s.hashtag.toList

/-- What a session mentions is in its text, with letters of the ASCII range in lower case. -/
theorem SessionColumns.Mentions.isInfix {s : SessionColumns} {text : String}
    (mentions : s.Mentions text) :
    text.toList.map lowerAsciiChar <:+: (searchText s).toList := by
  have front {part a : List Char} (b : List Char) (inside : part <:+: a) : part <:+: a ++ b :=
    inside.trans (List.prefix_append a b).isInfix
  have back {part b : List Char} (a : List Char) (inside : part <:+: b) : part <:+: a ++ b :=
    inside.trans (List.suffix_append a b).isInfix
  rw [searchText_eq, lowerAscii, String.toList_map]
  refine List.IsInfix.map _ ?_
  simp only [String.toList_append, List.append_assoc]
  rcases mentions with title | description | speakers | hashtag
  · exact front _ title
  · exact back _ (back _ (front _ description))
  · exact back _ (back _ (back _ (back _ (front _ speakers))))
  · exact back _ (back _ (back _ (back _ (back _ (back _ (front _ hashtag))))))

/-- The text of a session with nothing but a title. -/
theorem toList_searchText_titled (id title : String) :
    (searchText (titled id title).columns).toList =
      title.toList.map lowerAsciiChar ++ [' ', ' ', ' ', ' '] := by
  have blank : lowerAsciiChar ' ' = ' ' := by decide
  rw [searchText_eq, lowerAscii, String.toList_map]
  simp [titled, SessionColumns.of, blank]

/-- A database with sessions and texts for them. -/
def indexed (sessions : Dict (StoredRow .sessions)) (texts : Dict String) : Database :=
  { Database.initial.setRows .sessions sessions with searchIndex := some texts }

section Indexed

variable {sessions : Dict (StoredRow .sessions)} {texts : Dict String}

theorem rows_indexed : (indexed sessions texts).rows .sessions = .ok sessions := rfl

theorem searchRows_indexed : (indexed sessions texts).searchRows = .ok texts := rfl

theorem upToDate_indexed :
    (indexed sessions (sessions.map fun row => searchText row.columns)).searchTables.UpToDate :=
  ⟨rfl, sessions, rfl, rfl⟩

end Indexed

namespace Query

/-! ## What is found -/

/-- What is looked for in the texts: a query without the blanks around it, in lower case. -/
def needle (query : String) : String := lower (trim query)

section Found

variable {db : Database} {query : String} {sessions : Dict (StoredRow .sessions)}
  {index : Dict String}

theorem needle_eq_empty_iff : needle query = "" ↔ trim query = "" := by
  rw [← String.toList_inj, needle, toList_lower, ← String.toList_inj]
  exact lowerAfter_eq_nil_iff

theorem needle_ne_empty (nonblank : trim query ≠ "") : ¬(needle query == "") = true := by
  rw [beq_iff_eq, needle_eq_empty_iff]
  exact nonblank

/-- A query that is not blank is looked for unless its pattern is too long to be compared with the
texts that are there. -/
theorem search_eq (nonblank : trim query ≠ "") (stored : db.rows .sessions = .ok sessions)
    (texts : db.searchRows = .ok index) :
    search db query =
      if longestPattern < (needle query).utf8ByteSize + 2 && !index.isEmpty then
        .error ⟨"failed to search sessions", .patternTooLong⟩
      else
        .ok (inOrder byStart (sessions.filter fun id _ =>
          (index.get? id).any (occursLike (needle query)))) := by
  have other := needle_ne_empty nonblank
  rw [search, ← needle, if_neg other, stored, texts]
  by_cases long : (longestPattern < (needle query).utf8ByteSize + 2 && !index.isEmpty) = true
  · rw [if_pos long]
    simp only [bind, Except.bind, if_pos long]
    rfl
  · rw [if_neg long]
    simp only [bind, Except.bind, if_neg long]
    rfl

/-- What is found are the sessions in whose texts the pattern occurs. -/
theorem mem_found_iff {needle : String} {row : StoredRow .sessions} :
    row ∈ inOrder byStart (sessions.filter fun id _ => (index.get? id).any (occursLike needle)) ↔
      ∃ id body, sessions.get? id = some row ∧ index.get? id = some body ∧ Occurs needle body := by
  simp only [mem_inOrder, Dict.get?_filter, Option.filter_eq_some_iff, Option.any_eq_true,
    occursLike_iff]
  constructor
  · rintro ⟨id, there, body, text, occurs⟩
    exact ⟨id, body, there, text, occurs⟩
  · rintro ⟨id, body, there, text, occurs⟩
    exact ⟨id, there, body, text, occurs⟩

/-- What a search finds are sessions in whose texts the query occurs as a pattern, and all of these;
it finds something only if the pattern is not too long. -/
theorem mem_of_search (nonblank : trim query ≠ "") {found : List (StoredRow .sessions)}
    (searched : search db query = .ok found) :
    ∃ sessions index, db.rows .sessions = .ok sessions ∧ db.searchRows = .ok index ∧
      (found ≠ [] → (needle query).utf8ByteSize + 2 ≤ longestPattern) ∧
      ∀ row, row ∈ found ↔ ∃ id body, sessions.get? id = some row ∧ index.get? id = some body ∧
        Occurs (needle query) body := by
  have other := needle_ne_empty nonblank
  cases stored : db.rows .sessions with
  | error cause =>
    rw [search, ← needle, if_neg other, stored] at searched
    exact absurd searched nofun
  | ok sessions =>
    cases texts : db.searchRows with
    | error cause =>
      rw [search, ← needle, if_neg other, stored, texts] at searched
      exact absurd searched nofun
    | ok index =>
      rw [search_eq nonblank stored texts] at searched
      split at searched
      · exact absurd searched nofun
      · next short =>
        obtain rfl := Except.ok.inj searched
        refine ⟨sessions, index, rfl, rfl, fun some => ?_, fun row => mem_found_iff⟩
        obtain ⟨row, there⟩ := List.exists_mem_of_ne_nil _ some
        obtain ⟨id, body, -, text, -⟩ := mem_found_iff.1 there
        by_contra long
        refine short (Bool.and_eq_true_iff.2 ⟨decide_eq_true (by omega), ?_⟩)
        rw [Bool.not_eq_true', ← Bool.not_eq_true, Dict.isEmpty_iff]
        intro none
        rw [none id] at text
        exact absurd text nofun

/-- A query that is neither blank nor too long is looked for. -/
theorem search_of_short (nonblank : trim query ≠ "")
    (short : (needle query).utf8ByteSize + 2 ≤ longestPattern)
    (stored : db.rows .sessions = .ok sessions) (texts : db.searchRows = .ok index) :
    ∃ found, search db query = .ok found ∧
      ∀ row, row ∈ found ↔ ∃ id body, sessions.get? id = some row ∧ index.get? id = some body ∧
        Occurs (needle query) body := by
  refine ⟨_, ?_, fun row => mem_found_iff⟩
  rw [search_eq nonblank stored texts, if_neg]
  rw [Bool.and_eq_true_iff, decide_eq_true_iff]
  omega

/-- If the texts are those of the sessions, a session is found by what is said about it. -/
theorem search_upToDate (nonblank : trim query ≠ "")
    (short : (needle query).utf8ByteSize + 2 ≤ longestPattern)
    (upToDate : db.searchTables.UpToDate) (stored : db.rows .sessions = .ok sessions) :
    ∃ found, search db query = .ok found ∧
      ∀ row, row ∈ found ↔ (∃ id, sessions.get? id = some row) ∧
        Occurs (needle query) (searchText row.columns) := by
  obtain ⟨isOpen, own, there, texts⟩ := upToDate
  obtain rfl : own = sessions :=
    Option.some.inj (there.symm.trans (Database.rows_eq_ok_iff.1 stored).2)
  obtain ⟨found, searched, mem_found⟩ :=
    search_of_short nonblank short stored (Database.need_eq_ok_iff.2 ⟨isOpen, texts⟩)
  refine ⟨found, searched, fun row => ?_⟩
  rw [mem_found]
  constructor
  · rintro ⟨id, body, there, text, occurs⟩
    rw [Dict.get?_map, there] at text
    obtain rfl := Option.some.inj text
    exact ⟨⟨id, there⟩, occurs⟩
  · rintro ⟨⟨id, there⟩, occurs⟩
    exact ⟨id, _, there, by rw [Dict.get?_map, there]; rfl, occurs⟩

end Found

/-! ## Queries that find what contains them -/

/-- A search finds the sessions in whose texts the query occurs as a pattern. That it finds only
texts that contain the query holds for the queries whose characters are all literal in patterns, and
for those that are too long to be looked for, but for no other. -/
theorem search_is_literal_iff {query : String} (nonblank : trim query ≠ "") :
    (∀ db found, search db query = .ok found →
      ∃ sessions index, db.rows .sessions = .ok sessions ∧ db.searchRows = .ok index ∧
        ∀ row, row ∈ found ↔ ∃ id body, sessions.get? id = some row ∧ index.get? id = some body ∧
          Occurs (lower (trim query)) body) ∧
    ((∀ db sessions index found, db.rows .sessions = .ok sessions → db.searchRows = .ok index →
        search db query = .ok found →
        ∀ row ∈ found, ∃ id body, sessions.get? id = some row ∧ index.get? id = some body ∧
          Contains body (lower (trim query))) ↔
      longestPattern < (lower (trim query)).utf8ByteSize + 2 ∨
        ∀ c ∈ (lower (trim query)).toList, IsLiteral c) := by
  rw [← needle]
  refine ⟨fun db found searched => ?_, fun contained => ?_, fun literal => ?_⟩
  · obtain ⟨sessions, index, stored, texts, -, mem_found⟩ := mem_of_search nonblank searched
    exact ⟨sessions, index, stored, texts, mem_found⟩
  · by_cases short : (needle query).utf8ByteSize + 2 ≤ longestPattern
    · refine .inr (contains_of_occurs_iff.1 fun body occurs => ?_)
      let sessions : Dict (StoredRow .sessions) := Dict.empty.insert "s1" (titled "s1" "")
      let texts := Dict.empty.insert "s1" body
      have stored : (indexed sessions texts).rows .sessions = .ok sessions := rows_indexed
      have known : (indexed sessions texts).searchRows = .ok texts := searchRows_indexed
      obtain ⟨found, searched, mem_found⟩ := search_of_short nonblank short stored known
      have listed : titled "s1" "" ∈ found :=
        (mem_found _).2 ⟨"s1", body, Dict.get?_insert_empty_iff.2 ⟨rfl, rfl⟩,
          Dict.get?_insert_empty_iff.2 ⟨rfl, rfl⟩, occurs⟩
      obtain ⟨id, own, -, text, contains⟩ :=
        contained _ sessions texts found stored known searched _ listed
      obtain ⟨-, rfl⟩ := Dict.get?_insert_empty_iff.1 text
      exact contains
    · exact .inl (by omega)
  · intro db sessions index found stored texts searched row listed
    obtain ⟨_, _, sameRows, sameTexts, short, mem_found⟩ := mem_of_search nonblank searched
    obtain rfl := Except.ok.inj (stored.symm.trans sameRows)
    obtain rfl := Except.ok.inj (texts.symm.trans sameTexts)
    obtain ⟨id, body, there, text, occurs⟩ := (mem_found row).1 listed
    rcases literal with long | literal
    · have := short (List.ne_nil_of_mem listed)
      omega
    · exact ⟨id, body, there, text, occurs.contains literal⟩

/-- In a store with a talk on Chrome and one on maps, a query in capitals with blanks around it
finds the former; all its characters are literal, so whatever it finds has a text with the word. -/
theorem search_is_literal_iff_capitals :
    let sessions : Dict (StoredRow .sessions) :=
      .ofList [("s1", titled "s1" "Chrome"), ("s2", titled "s2" "Maps")]
    let index := sessions.map fun row => searchText row.columns
    let db := indexed sessions index
    trim " CHROME " ≠ "" ∧ ∃ found, search db " CHROME " = .ok found ∧
      titled "s1" "Chrome" ∈ found ∧
      ∀ row ∈ found, ∃ id body, sessions.get? id = some row ∧ index.get? id = some body ∧
        Contains body (lower (trim " CHROME ")) := by
  intro sessions index db
  have nonblank : trim " CHROME " ≠ "" := by decide +kernel
  have short : (needle " CHROME ").utf8ByteSize + 2 ≤ longestPattern := by decide +kernel
  have literal : ∀ c ∈ (lower (trim " CHROME ")).toList, IsLiteral c :=
    List.all_iff_forall_prop.1 (by decide +kernel)
  have stored : db.rows .sessions = .ok sessions := rows_indexed
  have texts : db.searchRows = .ok index := searchRows_indexed
  obtain ⟨found, searched, mem_found⟩ := search_upToDate nonblank short upToDate_indexed stored
  refine ⟨nonblank, found, searched, (mem_found _).2 ⟨⟨"s1", by decide +kernel⟩, ?_⟩, ?_⟩
  · exact occursLike_iff.1 (by decide +kernel)
  · exact (search_is_literal_iff nonblank).2.2 (.inr literal) db sessions index found stored texts
      searched

/-- The underscore of a query stands for any one character, so a session is found in whose text
there is none. -/
theorem search_finds_other_than_the_query :
    let sessions : Dict (StoredRow .sessions) := Dict.empty.insert "s1" (titled "s1" "axb")
    let index := sessions.map fun row => searchText row.columns
    let db := indexed sessions index
    trim "a_b" ≠ "" ∧ db.searchTables.UpToDate ∧ db.rows .sessions = .ok sessions ∧
      db.searchRows = .ok index ∧ ∃ found, search db "a_b" = .ok found ∧
        titled "s1" "axb" ∈ found ∧
        ¬∃ id body, sessions.get? id = some (titled "s1" "axb") ∧ index.get? id = some body ∧
          Contains body (lower (trim "a_b")) := by
  intro sessions index db
  have nonblank : trim "a_b" ≠ "" := by decide +kernel
  have short : (needle "a_b").utf8ByteSize + 2 ≤ longestPattern := by decide +kernel
  have stored : db.rows .sessions = .ok sessions := rows_indexed
  obtain ⟨found, searched, mem_found⟩ := search_upToDate nonblank short upToDate_indexed stored
  refine ⟨nonblank, upToDate_indexed, stored, searchRows_indexed, found, searched, ?_, ?_⟩
  · refine (mem_found _).2 ⟨⟨"s1", Dict.get?_insert_empty_iff.2 ⟨rfl, rfl⟩⟩, ?_⟩
    exact occursLike_iff.1 (by decide +kernel)
  · rintro ⟨id, body, there, text, contains⟩
    obtain ⟨rfl, -⟩ := Dict.get?_insert_empty_iff.1 there
    have own : index.get? "s1" = some (searchText (titled "s1" "axb").columns) := by decide +kernel
    rw [own] at text
    obtain rfl := Option.some.inj text
    have underscore := contains.subset (a := '_') (by decide +kernel)
    exact absurd underscore (by decide +kernel)

/-! ## Queries that find what mentions them -/

/-- A title with a letter that has another lower case beyond the ASCII range does not occur in the
text of a session with nothing but this title. -/
theorem not_occurs_of_not_lowersAlike {title : String} (id : String)
    (unlike : ∃ c ∈ title.toList, ¬LowersAlike c) (noNul : '\x00' ∉ title.toList) :
    ¬Occurs (lower title) (searchText (titled id title).columns) := by
  intro occurs
  -- A character that is there more often when all letters are put into lower case.
  obtain ⟨d, -, image, more⟩ := exists_count_lt unlike []
  have large := image.1
  have apart {c : Char} (small : c.toNat < 97) : d ≠ c := by
    rintro rfl
    omega
  have noneInNeedle : '\x00' ∉ (lower title).toList := by
    rw [toList_lower]
    intro there
    obtain ⟨-, own | image⟩ := isLowered_of_mem_lowerAfter there
    · exact noNul own
    · exact absurd image (by decide)
  have lowered : ∀ c ∈ (lower title).toList, lowerAsciiChar c = c := by
    rw [toList_lower]
    exact fun c there => (isLowered_of_mem_lowerAfter there).1.lowerAsciiChar_eq
  have text := toList_searchText_titled id title
  have kept : ∀ c ∈ (searchText (titled id title).columns).toList, lowerAsciiChar c = c := by
    rw [searchText_eq, lowerAscii, String.toList_map]
    rintro c there
    obtain ⟨own, -, rfl⟩ := List.mem_map.1 there
    exact lowerAsciiChar_lowerAsciiChar own
  have blanks : [' ', ' ', ' ', ' '].count d = 0 :=
    List.count_eq_zero.2 (by simp [apart (show ' '.toNat < 97 by decide)])
  have count := occurs.count_le noneInNeedle (apart (by decide)) (apart (by decide))
  rw [count_map_comparedChar lowered image.2, count_map_comparedChar kept image.2, text,
    List.count_append, blanks, toList_lower] at count
  omega

/-- If the texts are those of the sessions, a query finds every session that mentions it, whatever
is stored, exactly if beyond the ASCII range its characters are their own lower case: then it comes
out as the texts do. -/
theorem search_finds_mentions_iff {query : String} (nonblank : trim query ≠ "")
    (noNul : '\x00' ∉ (trim query).toList)
    (short : (lower (trim query)).utf8ByteSize + 2 ≤ longestPattern) :
    (∀ db sessions id row, db.searchTables.UpToDate → db.rows .sessions = .ok sessions →
        sessions.get? id = some row → '\x00' ∉ (searchText row.columns).toList →
        row.columns.Mentions (trim query) →
        ∃ found, search db query = .ok found ∧ row ∈ found) ↔
      ∀ c ∈ (trim query).toList, 128 ≤ c.toNat → lowerChar c = [c] := by
  rw [← needle] at short
  constructor
  · intro finds
    by_contra! different
    obtain ⟨c, there, large, other⟩ := different
    have unlike : ∃ c ∈ (trim query).toList, ¬LowersAlike c :=
      ⟨c, there, fun alike => other (alike large)⟩
    let row := titled "s1" (trim query)
    let sessions : Dict (StoredRow .sessions) := Dict.empty.insert "s1" row
    let index := sessions.map fun row => searchText row.columns
    have stored : (indexed sessions index).rows .sessions = .ok sessions := rows_indexed
    have whole : '\x00' ∉ (searchText row.columns).toList := by
      rw [toList_searchText_titled, List.mem_append, List.mem_map]
      rintro (⟨c, there, same⟩ | blank)
      · rcases lowerAsciiChar_cases c with ⟨low, -, value⟩ | ⟨-, own⟩
        · have zero : '\x00'.toNat = 0 := rfl
          rw [same] at value
          omega
        · exact noNul (own.symm.trans same ▸ there)
      · exact absurd blank (by decide)
    obtain ⟨found, searched, listed⟩ := finds _ sessions "s1" row upToDate_indexed stored
      (Dict.get?_insert_empty_iff.2 ⟨rfl, rfl⟩) whole (.inl (List.infix_refl _))
    obtain ⟨found', searched', mem_found⟩ :=
      search_upToDate nonblank short upToDate_indexed stored
    obtain rfl := Except.ok.inj (searched.symm.trans searched')
    exact not_occurs_of_not_lowersAlike "s1" unlike noNul ((mem_found row).1 listed).2
  · intro alike db sessions id row upToDate stored there whole mentions
    obtain ⟨found, searched, mem_found⟩ := search_upToDate nonblank short upToDate stored
    refine ⟨found, searched, (mem_found row).2 ⟨⟨id, there⟩, occurs_of_isInfix ?_ whole⟩⟩
    rw [needle, toList_lower, lowerAfter_eq_map alike]
    exact mentions.isInfix

/-- A session that is called by the name of a speaker is found by the start of it, in which the one
letter beyond the ASCII range is a small one. -/
theorem search_finds_mentions_iff_name :
    let row := titled "s1" "Señora Lovelace"
    let sessions : Dict (StoredRow .sessions) := Dict.empty.insert "s1" row
    let db := indexed sessions (sessions.map fun row => searchText row.columns)
    trim " Señora L" ≠ "" ∧ '\x00' ∉ (trim " Señora L").toList ∧
      (lower (trim " Señora L")).utf8ByteSize + 2 ≤ longestPattern ∧
      db.searchTables.UpToDate ∧ db.rows .sessions = .ok sessions ∧
      row.columns.Mentions (trim " Señora L") ∧
      ∃ found, search db " Señora L" = .ok found ∧ row ∈ found := by
  intro row sessions db
  have nonblank : trim " Señora L" ≠ "" := by decide +kernel
  have noNul : '\x00' ∉ (trim " Señora L").toList := by decide +kernel
  have short : (lower (trim " Señora L")).utf8ByteSize + 2 ≤ longestPattern := by decide +kernel
  have alike : ∀ c ∈ (trim " Señora L").toList, LowersAlike c :=
    List.all_iff_forall_prop.1 (by decide +kernel)
  have mentions : row.columns.Mentions (trim " Señora L") :=
    .inl ⟨[], "ovelace".toList, by decide +kernel⟩
  have stored : db.rows .sessions = .ok sessions := rows_indexed
  refine ⟨nonblank, noNul, short, upToDate_indexed, stored, mentions, ?_⟩
  exact (search_finds_mentions_iff nonblank noNul short).2 alike db sessions "s1" row
    upToDate_indexed stored (Dict.get?_insert_empty_iff.2 ⟨rfl, rfl⟩) (by decide +kernel) mentions

/-- A session is not found by its own title: in the query the first letter is put into lower case,
and in the text it is not. -/
theorem search_misses_own_title :
    let row := titled "s1" "Über uns"
    let sessions : Dict (StoredRow .sessions) := Dict.empty.insert "s1" row
    let db := indexed sessions (sessions.map fun row => searchText row.columns)
    trim "Über uns" ≠ "" ∧ '\x00' ∉ (trim "Über uns").toList ∧
      (lower (trim "Über uns")).utf8ByteSize + 2 ≤ longestPattern ∧
      db.searchTables.UpToDate ∧ db.rows .sessions = .ok sessions ∧
      sessions.get? "s1" = some row ∧ '\x00' ∉ (searchText row.columns).toList ∧
      row.columns.Mentions (trim "Über uns") ∧
      ¬∃ found, search db "Über uns" = .ok found ∧ row ∈ found := by
  intro row sessions db
  have nonblank : trim "Über uns" ≠ "" := by decide +kernel
  have short : (needle "Über uns").utf8ByteSize + 2 ≤ longestPattern := by decide +kernel
  have own : trim "Über uns" = "Über uns" := by decide +kernel
  have stored : db.rows .sessions = .ok sessions := rows_indexed
  refine ⟨nonblank, by decide +kernel, short, upToDate_indexed, stored,
    Dict.get?_insert_empty_iff.2 ⟨rfl, rfl⟩, by decide +kernel, .inl ?_, ?_⟩
  · rw [own]
    exact List.infix_refl _
  · rintro ⟨found, searched, listed⟩
    obtain ⟨found', searched', mem_found⟩ :=
      search_upToDate nonblank short upToDate_indexed stored
    obtain rfl := Except.ok.inj (searched.symm.trans searched')
    exact absurd (occursLike_iff.2 ((mem_found row).1 listed).2) (by decide +kernel)

end Query

end ConferenceSync
