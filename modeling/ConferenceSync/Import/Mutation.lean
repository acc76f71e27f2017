import ConferenceSync.Agenda.Record

/-!
# Mutations

A mutation is one change of the tables. A batch is a list of mutations that are made together, in
their order.

## Main definitions

* `Mutation`, `Batch` — the types
* `Mutation.kind` — the kind of data that a mutation changes
* `Batch.kindsTouched` — the kinds of a batch, in the order of import
-/

namespace ConferenceSync

/-- One change of the tables. A row or link that is inserted must not be there yet, and a row that
is updated replaces the one that has its id. -/
inductive Mutation where
  | deleteAll (table : Table)
  | deleteById (table : Table) (id : String)
  | insert (row : Row)
  | update (row : Row)
  | deleteAllLinks (link : LinkTable)
  | deleteLinks (link : LinkTable) (sessionId : String)
  | insertLink (link : LinkTable) (sessionId targetId : String)
  deriving Repr

/-- Mutations that are made together. -/
abbrev Batch := List Mutation

namespace Mutation

/-- The kind of data that the mutation changes. Links belong to sessions. -/
def kind : Mutation → Kind
  | deleteAll table => table.kind
  | deleteById table _ => table.kind
  | insert row => row.table.kind
  | update row => row.table.kind
  | _ => .sessions

/-- Whether the mutation changes links. -/
def isLink : Mutation → Bool
  | deleteAllLinks _ => true
  | deleteLinks _ _ => true
  | insertLink _ _ _ => true
  | _ => false

end Mutation

namespace Batch

/-- The kinds of data that the batch changes, in the order of import. -/
def kindsTouched (batch : Batch) : List Kind :=
  Kind.importOrder.filter fun kind => batch.any fun m => m.kind = kind

/-- The number of mutations of records. -/
def entityCount (batch : Batch) : Nat :=
  batch.countP fun m => !m.isLink

/-- The number of mutations of links. -/
def linkCount (batch : Batch) : Nat :=
  batch.countP Mutation.isLink

theorem mem_kindsTouched {batch : Batch} {kind : Kind} :
    kind ∈ batch.kindsTouched ↔ ∃ m ∈ batch, m.kind = kind := by
  simp [kindsTouched, Kind.mem_importOrder]

end Batch

end ConferenceSync
