import ConferenceSync.Agenda.Kind

/-!
# Families over the tables

One value for each table, whose type may depend on the table.

## Main definitions

* `PerTable` — the type
* `PerTable.get`, `PerTable.set`, `PerTable.ofFn` — reading, writing and tabulating

## Main results

* `PerTable.get_set_self`, `PerTable.get_set_of_ne`, `PerTable.get_ofFn`, `PerTable.ext_get`
-/

namespace ConferenceSync

/-- One value for each table. -/
@[ext] structure PerTable (F : Table → Type) where
  rooms : F .rooms
  blocks : F .blocks
  tags : F .tags
  speakers : F .speakers
  sessions : F .sessions
  searchSuggestions : F .searchSuggestions
  mapMarkers : F .mapMarkers
  mapTiles : F .mapTiles
  hashtags : F .hashtags
  videos : F .videos

namespace PerTable

variable {F : Table → Type}

/-- The value for a table. -/
def get (p : PerTable F) : (table : Table) → F table
  | .rooms => p.rooms
  | .blocks => p.blocks
  | .tags => p.tags
  | .speakers => p.speakers
  | .sessions => p.sessions
  | .searchSuggestions => p.searchSuggestions
  | .mapMarkers => p.mapMarkers
  | .mapTiles => p.mapTiles
  | .hashtags => p.hashtags
  | .videos => p.videos

/-- The family with another value for a table. -/
def set (p : PerTable F) : (table : Table) → F table → PerTable F
  | .rooms, v => { p with rooms := v }
  | .blocks, v => { p with blocks := v }
  | .tags, v => { p with tags := v }
  | .speakers, v => { p with speakers := v }
  | .sessions, v => { p with sessions := v }
  | .searchSuggestions, v => { p with searchSuggestions := v }
  | .mapMarkers, v => { p with mapMarkers := v }
  | .mapTiles, v => { p with mapTiles := v }
  | .hashtags, v => { p with hashtags := v }
  | .videos, v => { p with videos := v }

/-- The family of the values of a function. -/
def ofFn (f : (table : Table) → F table) : PerTable F where
  rooms := f .rooms
  blocks := f .blocks
  tags := f .tags
  speakers := f .speakers
  sessions := f .sessions
  searchSuggestions := f .searchSuggestions
  mapMarkers := f .mapMarkers
  mapTiles := f .mapTiles
  hashtags := f .hashtags
  videos := f .videos

@[simp] theorem get_ofFn (f : (table : Table) → F table) (table : Table) :
    (ofFn f).get table = f table := by
  cases table <;> rfl

@[simp] theorem get_set_self (p : PerTable F) (table : Table) (v : F table) :
    (p.set table v).get table = v := by
  cases table <;> rfl

@[simp] theorem get_set_of_ne (p : PerTable F) {table other : Table} (v : F table)
    (h : table ≠ other) : (p.set table v).get other = p.get other := by
  cases table <;> cases other <;> first | rfl | exact absurd rfl h

/-- Families with the same value for every table are equal. -/
theorem ext_get {p q : PerTable F} (h : ∀ table, p.get table = q.get table) : p = q :=
  PerTable.ext (h .rooms) (h .blocks) (h .tags) (h .speakers) (h .sessions)
    (h .searchSuggestions) (h .mapMarkers) (h .mapTiles) (h .hashtags) (h .videos)

end PerTable

end ConferenceSync
