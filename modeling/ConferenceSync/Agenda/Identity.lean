import ConferenceSync.Text.Slug

/-!
# Ids of records

A record goes by the id that the data gives, without blanks at its ends. If that leaves nothing,
it goes by the slug of another of its texts.

## Main definitions

* `resolveId?` — the id of a record, if it has a usable one

## Main results

* `resolveId?_ne_empty` — an id is never empty
-/

namespace ConferenceSync.Agenda

/-- The id of a record from the id that the data gives and from texts that may stand in for it. -/
def resolveId? (id : String) (substitutes : List String) : Option String :=
  if Text.trim id != "" then some (Text.trim id)
  else (substitutes.map Text.slug).find? (· != "")

theorem resolveId?_ne_empty {id : String} {substitutes : List String} {s : String}
    (h : resolveId? id substitutes = some s) : s ≠ "" := by
  unfold resolveId? at h
  split at h
  · next given => obtain rfl := Option.some.inj h; simpa using given
  · simpa using List.find?_some h

end ConferenceSync.Agenda
