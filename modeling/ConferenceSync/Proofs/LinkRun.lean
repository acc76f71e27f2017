import Mathlib.Data.List.Basic
import ConferenceSync.Proofs.PassEffect

/-!
# Writing and removing the links of sessions

The links of a session that is written are removed and added anew, one session after another; those
of a session that is gone are removed. An id that is written is not removed, so the links that have
just been added stay.

## Main definitions

* `Import.Pass.withoutLinksOf`, `Import.Pass.withLinksOf` — the contents without the links of some
  sessions, and with them

## Main results

* `Import.Pass.runs_links` — the mutations of links lead to the links after the import
-/

namespace ConferenceSync

open Agenda

namespace Import.Pass

variable {p : Pass} {c : Contents}

/-- Contents with the links of some sessions taken out. -/
def withoutLinksOf (c : Contents) (ids : List String) : Contents :=
  { c with links := fun link => (c.links link).filter fun l => !ids.contains l.sessionId }

/-- Contents with the links of some sessions added. -/
def withLinksOf (c : Contents) (sessions : Dict Session) (ids : List String) : Contents :=
  { c with
    links := fun link => c.links link ++
      ids.flatMap fun id => sessionLinksIn link id (sessions.get? id) }

theorem sessionId_of_mem_sessionLinksIn {link : LinkTable} {id : String} {s? : Option Session}
    {l : Link} (there : l ∈ sessionLinksIn link id s?) : l.sessionId = id := by
  cases s? with
  | none => simp [sessionLinksIn] at there
  | some s =>
    obtain ⟨target, -, rfl⟩ := List.mem_map.1 there
    rfl

/-- Links of other sessions stay when those of some sessions are taken out. -/
theorem filter_sessionLinks (link : LinkTable) (sessions : Dict Session) {ids gone : List String}
    (apart : ∀ id ∈ ids, id ∉ gone) :
    ((ids.flatMap fun id => sessionLinksIn link id (sessions.get? id)).filter
        fun l => !gone.contains l.sessionId) =
      ids.flatMap fun id => sessionLinksIn link id (sessions.get? id) := by
  refine List.filter_eq_self.2 fun l there => ?_
  obtain ⟨id, listed, there⟩ := List.mem_flatMap.1 there
  rw [sessionId_of_mem_sessionLinksIn there]
  simp [apart id listed]

theorem runs_unlink (id : String) : c.Runs (unlink id) (withoutLinksOf c [id]) := by
  refine ⟨trivial, trivial, ?_⟩
  ext1 link
  · rfl
  · cases link <;>
      simp [withoutLinksOf, Contents.apply, Contents.setLinks, Function.update, bne, beq_eq_decide]

theorem runs_insertLinks (link : LinkTable) {id : String} {targets : List String}
    (once : targets.Nodup) (fresh : ∀ l ∈ c.links link, l.sessionId ≠ id) :
    c.Runs (targets.map (.insertLink link id))
      (c.setLinks link (c.links link ++ targets.map (Link.mk id))) := by
  suffices step : ∀ (added rest : List String), (added ++ rest).Nodup →
      (c.setLinks link (c.links link ++ added.map (Link.mk id))).Runs
        (rest.map (.insertLink link id))
        (c.setLinks link (c.links link ++ (added ++ rest).map (Link.mk id))) by
    have runs := step [] targets once
    simpa [Contents.setLinks] using runs
  intro added rest
  induction rest generalizing added with
  | nil => simp
  | cons target rest ih =>
    intro once
    refine ⟨?_, ?_⟩
    · show (⟨id, target⟩ : Link) ∉ (c.setLinks link _).links link
      rw [Contents.links_setLinks_self, List.mem_append, List.mem_map]
      rintro (old | ⟨other, before, same⟩)
      · exact fresh _ old rfl
      · obtain rfl : other = target := by simpa using same
        exact (List.nodup_append.1 once).2.2 other before other List.mem_cons_self rfl
    · have next := ih (added ++ [target]) (by simpa using once)
      simpa [Contents.apply, Contents.setLinks] using next

theorem runs_relink {sessions : Dict Session} {id : String} {s : Session}
    (there : sessions.get? id = some s) (once : ∀ link, (s.targets link).Nodup)
    (fresh : ∀ link, ∀ l ∈ c.links link, l.sessionId ≠ id) :
    c.Runs (relink id s) (withLinksOf c sessions [id]) := by
  have speakers := runs_insertLinks .speakers (once .speakers) (fresh .speakers)
  have tags := runs_insertLinks .tags (once .tags)
    (c := c.setLinks .speakers (c.links .speakers ++ (s.targets .speakers).map (Link.mk id))) (by
      rw [Contents.links_setLinks_of_ne _ (by decide)]
      exact fresh .tags)
  have both := speakers.append tags
  refine both.congr ?_
  ext1 link
  · rfl
  · cases link <;> simp [withLinksOf, sessionLinksIn, there, Contents.setLinks, Function.update]

/-- A session gets its links anew. If all links have just been removed, it has none left. -/
theorem runs_linksOf {sessions : Dict Session} (full : Bool) {id : String} {s : Session}
    (there : sessions.get? id = some s) (once : ∀ link, (s.targets link).Nodup)
    (fresh : full = true → ∀ link, ∀ l ∈ c.links link, l.sessionId ≠ id) :
    c.Runs (sessionLinks sessions full id) (withLinksOf (withoutLinksOf c [id]) sessions [id]) := by
  have cleared : c.Runs (if full then [] else unlink id) (withoutLinksOf c [id]) := by
    cases full with
    | false => exact runs_unlink id
    | true =>
      refine Contents.runs_nil.2 ?_
      ext1 link
      · rfl
      · refine List.filter_eq_self.2 fun l old => ?_
        simp [fresh rfl link l old]
  rw [sessionLinks, there]
  refine cleared.append (runs_relink there once fun link l old => ?_)
  simpa using (List.mem_filter.1 old).2

/-- Sessions get their links anew, one after another. -/
theorem runs_sessionLinks {sessions : Dict Session} (full : Bool) {ids : List String}
    (once : ids.Nodup) (there : ∀ id ∈ ids, ∃ s, sessions.get? id = some s)
    (targets : ∀ id s, sessions.get? id = some s → ∀ link, (s.targets link).Nodup)
    (fresh : full = true → ∀ link, ∀ l ∈ c.links link, l.sessionId ∉ ids) :
    c.Runs (ids.flatMap (sessionLinks sessions full))
      (withLinksOf (withoutLinksOf c ids) sessions ids) := by
  induction ids generalizing c with
  | nil =>
    refine (Contents.runs_nil.2 ?_)
    ext1 link <;> simp [withLinksOf, withoutLinksOf]
  | cons id rest ih =>
    obtain ⟨s, found⟩ := there id List.mem_cons_self
    rw [List.nodup_cons] at once
    have first : c.Runs (sessionLinks sessions full id)
        (withLinksOf (withoutLinksOf c [id]) sessions [id]) := by
      refine runs_linksOf full found (targets id s found) fun anew link l old same => ?_
      exact fresh anew link l old (List.mem_cons.2 (.inl same))
    have tail := ih (c := withLinksOf (withoutLinksOf c [id]) sessions [id]) once.2
      (fun k listed => there k (List.mem_cons_of_mem _ listed))
      (fun anew link l old => by
        rcases List.mem_append.1 old with old | new
        · have other := fresh anew link l (List.mem_filter.1 old).1
          simp only [List.mem_cons, not_or] at other
          exact other.2
        · rw [List.flatMap_singleton] at new
          rw [sessionId_of_mem_sessionLinksIn new]
          exact once.1)
    rw [List.flatMap_cons]
    refine (first.append tail).congr ?_
    ext1 link
    · rfl
    · have own := filter_sessionLinks link sessions (List.forall_mem_singleton.2 once.1)
      simp only [withLinksOf, withoutLinksOf, List.filter_append, List.filter_filter, own]
      simp [Bool.and_comm]

theorem runs_unlinks (ids : List String) : c.Runs (ids.flatMap unlink) (withoutLinksOf c ids) := by
  induction ids generalizing c with
  | nil =>
    refine Contents.runs_nil.2 ?_
    ext1 link <;> simp [withoutLinksOf]
  | cons id rest ih =>
    have all := (runs_unlink id).append (ih (c := withoutLinksOf c [id]))
    rw [List.flatMap_cons]
    refine all.congr ?_
    ext1 link
    · rfl
    · simp [withoutLinksOf, List.filter_filter, Bool.and_comm]

/-- The links of an import lead to `Pass.linksAfter`. -/
theorem runs_links {d : Contents} (same : d.links = c.links) :
    d.Runs (linkMutations (p.records .sessions) (p.diff c .sessions))
      { d with links := p.linksAfter c } := by
  have first : d.Runs (if (p.diff c .sessions).full then LinkTable.all.map .deleteAllLinks else [])
      { d with links := fun link => if (p.diff c .sessions).full then [] else c.links link } := by
    split
    · refine ⟨trivial, trivial, ?_⟩
      ext1 link
      · rfl
      · cases link <;> rfl
    · exact Contents.runs_nil.2 (by rw [← same])
  have once : (p.diff c .sessions).written.Nodup := nodup_written_compare
  have second := runs_sessionLinks (p.diff c .sessions).full
    (c := { d with links := fun link => if (p.diff c .sessions).full then [] else c.links link })
    once (fun _ => exists_of_mem_written) (fun _ _ there => DataSet.nodup_targets_of_records there)
    (fun full link l old => by simp [full] at old)
  refine ((first.append second).append (runs_unlinks _)).congr ?_
  ext1 link
  · rfl
  · -- A session that is written is not removed, so its new links stay.
    have own := filter_sessionLinks link (p.records .sessions)
      fun id (written : id ∈ (p.diff c .sessions).written)
          (gone : id ∈ (p.diff c .sessions).deleted) => by
        obtain ⟨s, there⟩ := exists_of_mem_written written
        rw [(mem_deleted.1 gone).1] at there
        simp at there
    show List.filter _ (_ ++ _) = p.linksAfter c link
    rw [List.filter_append]
    refine (congrArg (List.filter _ _ ++ ·) own).trans ?_
    rw [linksAfter]
    congr 1
    show List.filter _ (List.filter _ (if _ then _ else _)) = _
    split
    · rfl
    · rw [List.filter_filter]
      refine List.filter_congr fun l _ => ?_
      simp [Bool.and_comm]

end Import.Pass

end ConferenceSync
