import ConferenceSync.Proofs.AllOrNothing
import ConferenceSync.Proofs.FetchRun
import ConferenceSync.Proofs.Transcript

/-!
# What is preserved

A property of worlds is preserved by what is done step after step if it is preserved by each step.
Of the parts of an environment it has to be assumed what they preserve, as nothing else is known
about them; mostly that is that some part of the device is left alone.

## Main definitions

* `Action.Preserves` — that an action preserves a property of worlds
* `Environment.Preserves`, `Environment.ObserversPreserve` — that the parts of an environment do
* `Environment.Keeps`, `Environment.ObserversKeep` — that they leave a part of the device alone
* `Database.withoutIndex` — a database without the index for searches

## Main results

* `Action.Preserves.bind`, `Attempt.preserves_bind` — steps one after another
* `Environment.Mirrors.preserves`, `Environment.Mirrors.keeps` — what is preserved is preserved
  beside something as well
* `preserves_commitBatch`, `Fetch.preserves_fetchIfNewer` — what writing a batch and a cycle of the
  download preserve
* `preserves_hear_indexUpdater` — the index for searches is all that its observer changes
-/

namespace ConferenceSync

variable {σ α β : Type} {P : World σ → Prop}

/-- Whether an action preserves a property of worlds. -/
def Action.Preserves (P : World σ → Prop) (action : Action σ α) : Prop :=
  ∀ w, P w → P (action.run w).2

/-- The world with another database. -/
def World.setDb (w : World σ) (db : Database) : World σ :=
  { w with device := { w.device with db := db } }

/-! ## The parts of an environment -/

namespace Environment

variable {env : Environment σ}

/-- Whether the account, the clock and those who hear where the synchronization stands preserve a
property of worlds. -/
structure OthersPreserve (env : Environment σ) (P : World σ → Prop) : Prop where
  syncUser : env.syncUser.run.Preserves P
  refreshToken : env.refreshToken.run.Preserves P
  sendFeedback : env.sendFeedback.run.Preserves P
  now : env.now.Preserves P
  publish : ∀ phase, (env.publish phase).Preserves P

/-- Whether all parts of an environment but the observers preserve a property of worlds. -/
structure Preserves (env : Environment σ) (P : World σ → Prop) : Prop
    extends env.OthersPreserve P where
  get : ∀ url since?, (env.get url since?).run.Preserves P

/-- Whether the observers preserve a property of worlds. -/
def ObserversPreserve (env : Environment σ) (P : World σ → Prop) : Prop :=
  ∀ observer ∈ env.observers, ∀ notice, (observer.hear notice).Preserves P

/-- Whether all parts of an environment but the observers leave a part of the device alone. -/
def Keeps (env : Environment σ) (part : Device → β) : Prop :=
  ∀ v, env.Preserves fun w => part w.device = v

/-- Whether the observers leave a part of the device alone. -/
def ObserversKeep (env : Environment σ) (part : Device → β) : Prop :=
  ∀ v, env.ObserversPreserve fun w => part w.device = v

end Environment

/-! ## Steps -/

namespace Action

variable {action : Action σ α}

/-- What leaves a part of the device alone preserves every property of that part. -/
theorem preserves_of_keeps {part : Device → β}
    (keeps : ∀ v, action.Preserves fun w => part w.device = v) (Q : β → Prop) :
    action.Preserves fun w => Q (part w.device) := by
  intro w held
  rw [keeps _ w rfl]
  exact held

theorem preserves_pure (a : α) : (pure a : Action σ α).Preserves P := fun _ held => held

theorem preserves_read (f : Device → α) : (read f : Action σ α).Preserves P := fun _ held => held

theorem Preserves.bind {next : α → Action σ β} (first : action.Preserves P)
    (others : ∀ a, (next a).Preserves P) : (action >>= next).Preserves P :=
  fun w held => others _ _ (first w held)

end Action

namespace Attempt

variable {attempt : Attempt σ α}

theorem preserves_bind {next : α → Attempt σ β} (first : attempt.run.Preserves P)
    (others : ∀ a, (next a).run.Preserves P) : (attempt >>= next).run.Preserves P := by
  intro w held
  have step := first w held
  cases made : attempt.run.run w with
  | mk result after =>
    rw [made] at step
    cases result with
    | error e =>
      rw [run_bind_of_error made]
      exact step
    | ok a =>
      rw [run_bind_of_ok made]
      exact others a after step

theorem preserves_lift {action : Action σ α} (preserves : action.Preserves P) :
    (ExceptT.lift action : Attempt σ α).run.Preserves P := preserves

theorem preserves_liftExcept (result : Except SyncError α) :
    (liftM result : Attempt σ α).run.Preserves P := fun _ held => held

theorem preserves_ignored (preserves : attempt.run.Preserves P) : attempt.ignored.Preserves P :=
  preserves

/-- Writing to the database preserves what holds of the world with the database that is written. -/
theorem preserves_write {f : Database → Except SyncError Database}
    (written : ∀ w db, P w → f w.device.db = .ok db → P (w.setDb db)) :
    (write f).run.Preserves P := by
  intro w held
  cases made : f w.device.db with
  | ok db =>
    rw [run_write_of_ok made]
    exact written w db held made
  | error e =>
    rw [run_write_of_error made]
    exact held

end Attempt

namespace Environment

variable {env : Environment σ} {part : Device → β}

theorem Keeps.preserves (keeps : env.Keeps part) (Q : β → Prop) :
    env.Preserves fun w => Q (part w.device) where
  get url since? := Action.preserves_of_keeps (fun v => (keeps v).get url since?) Q
  syncUser := Action.preserves_of_keeps (fun v => (keeps v).syncUser) Q
  refreshToken := Action.preserves_of_keeps (fun v => (keeps v).refreshToken) Q
  sendFeedback := Action.preserves_of_keeps (fun v => (keeps v).sendFeedback) Q
  now := Action.preserves_of_keeps (fun v => (keeps v).now) Q
  publish phase := Action.preserves_of_keeps (fun v => (keeps v).publish phase) Q

theorem ObserversKeep.preserves (keeps : env.ObserversKeep part) (Q : β → Prop) :
    env.ObserversPreserve fun w => Q (part w.device) := fun observer listed notice =>
  Action.preserves_of_keeps (fun v => keeps v observer listed notice) Q

end Environment

/-! ## Notices -/

section Notices

variable {env : Environment σ}

theorem preserves_forM {actions : α → Action σ Unit} {l : List α}
    (each : ∀ a ∈ l, (actions a).Preserves P) : (l.forM actions).Preserves P := by
  induction l with
  | nil => exact Action.preserves_pure ()
  | cons a rest ih =>
    exact (each a List.mem_cons_self).bind fun _ =>
      ih fun other listed => each other (List.mem_cons_of_mem a listed)

/-- Giving notice preserves what the observers preserve. -/
theorem preserves_announce (observers : env.ObserversPreserve P) (notices : List Notice) :
    (announce env.observers notices).Preserves P :=
  preserves_forM fun notice _ => preserves_forM fun observer listed =>
    observers observer listed notice

/-- Writing a batch preserves what the observers preserve and what holds of the world with the
database that is written. -/
theorem preserves_commitBatch (observers : env.ObserversPreserve P) (origin : Origin)
    {batch : Batch} (written : ∀ w db, P w → w.device.db.commit batch = .ok db → P (w.setDb db)) :
    (commitBatch env origin batch).run.Preserves P :=
  Attempt.preserves_bind (Attempt.preserves_write written) fun _ =>
    Attempt.preserves_bind (Attempt.preserves_lift (preserves_announce observers _)) fun _ =>
      fun _ held => held

end Notices

/-- The database without the index for searches. -/
def Database.withoutIndex (db : Database) : Database := { db with searchIndex := none }

theorem Database.withoutIndex_rebuildSearchIndex {db after : Database} {size : Nat}
    (rebuilt : db.rebuildSearchIndex = .ok (after, size)) :
    after.withoutIndex = db.withoutIndex := by
  unfold Database.rebuildSearchIndex at rebuilt
  split at rebuilt
  · cases rebuilt
  · split at rebuilt
    · cases rebuilt
    · cases rows : db.rows .sessions with
      | error cause =>
        rw [rows] at rebuilt
        cases rebuilt
      | ok sessions =>
        rw [rows] at rebuilt
        cases rebuilt
        rfl

/-- To make the index for searches anew leaves alone what does not depend on it. -/
theorem preserves_rebuildIndex {part : Device → β}
    (same : ∀ d db rebuilds, db.withoutIndex = d.db.withoutIndex →
      part { d with db, rebuilds } = part d) (v : β) :
    (rebuildIndex : Action σ Unit).Preserves fun w => part w.device = v := by
  intro w held
  rw [rebuildIndex, Action.run_change]
  refine (same w.device _ _ ?_).trans held
  cases rebuilt : w.device.db.rebuildSearchIndex with
  | error e => rfl
  | ok result => exact Database.withoutIndex_rebuildSearchIndex rebuilt

/-- So does the observer that keeps the index. -/
theorem preserves_hear_indexUpdater {part : Device → β}
    (same : ∀ d db rebuilds, db.withoutIndex = d.db.withoutIndex →
      part { d with db, rebuilds } = part d) (notice : Notice) (v : β) :
    ((indexUpdater : Observer σ).hear notice).Preserves fun w => part w.device = v := by
  have rebuilding := preserves_rebuildIndex (σ := σ) same v
  cases notice with
  | batch paths =>
    dsimp only [Observer.hear, indexUpdater]
    split
    · exact rebuilding
    · exact Action.preserves_pure ()
  | change path =>
    dsimp only [Observer.hear, indexUpdater]
    split
    · exact rebuilding
    · exact Action.preserves_pure ()

/-! ## A cycle of the download -/

namespace Fetch

variable {env : Environment σ}

/-- A file that is fetched preserves what the server preserves, if that is nothing about the
cache. -/
theorem preserves_fetchFile (get : ∀ url since?, (env.get url since?).run.Preserves P)
    (cache : ∀ w f, P w → P (w.mapCache f)) (url : String) :
    (fetchFile env url).run.Preserves P := by
  intro w held
  rw [run_fetchFile]
  have asked := get url none w held
  split
  · exact held
  · cases answered : (env.get url none).run.run w with
    | mk answer after =>
      rw [answered] at asked
      cases answer with
      | error e => exact asked
      | ok response =>
        dsimp only
        cases fileOf url response with
        | error e => exact asked
        | ok body => exact cache after (fun c => (c.put (Digest.urlKey url) body).2) asked

theorem preserves_fetchFiles (get : ∀ url since?, (env.get url since?).run.Preserves P)
    (cache : ∀ w f, P w → P (w.mapCache f)) (urls : List String) :
    (fetchFiles env urls).run.Preserves P := by
  induction urls with
  | nil => exact Action.preserves_pure _
  | cons url rest ih =>
    exact Attempt.preserves_bind (preserves_fetchFile get cache url) fun _ =>
      Attempt.preserves_bind ih fun _ => Action.preserves_pure _

/-- What holds once the manifest has been asked for holds at the end of a cycle, if the server
preserves it and it is nothing about the cache. -/
theorem holds_after_fetchIfNewer (get : ∀ url since?, (env.get url since?).run.Preserves P)
    (cache : ∀ w f, P w → P (w.mapCache f)) {settings : Settings} {reference? : Option String}
    {w : World σ} (asked : P ((env.get settings.effectiveUrl
      (reference?.bind Time.normalizeHttpDate?)).run.run w).2) :
    P ((fetchIfNewer env settings reference?).run.run w).2 := by
  rw [run_fetchIfNewer]
  cases answered : (env.get settings.effectiveUrl
      (reference?.bind Time.normalizeHttpDate?)).run.run w with
  | mk answer after =>
    rw [answered] at asked
    cases answer with
    | error e => exact asked
    | ok response =>
      dsimp only
      split
      · exact asked
      · split
        · exact asked
        · cases manifestOf settings.expectedFormat settings.effectiveUrl response with
          | error e => exact asked
          | ok manifest =>
            have files := preserves_fetchFiles get cache (fileUrls settings manifest) after asked
            dsimp only
            cases read : (fetchFiles env (fileUrls settings manifest)).run.run after with
            | mk result last =>
              rw [read] at files
              cases result with
              | error e => exact files
              | ok files' => exact cache last _ files

/-- A cycle preserves what the server preserves, if that is nothing about the cache. -/
theorem preserves_fetchIfNewer (get : ∀ url since?, (env.get url since?).run.Preserves P)
    (cache : ∀ w f, P w → P (w.mapCache f)) (settings : Settings) (reference? : Option String) :
    (fetchIfNewer env settings reference?).run.Preserves P := fun w held =>
  holds_after_fetchIfNewer get cache (get _ _ w held)

end Fetch

/-! ## Beside something -/

section Mirrors

variable {ε : Type} {watched : Environment (σ × ε)} {env : Environment σ} {Q : Device → Prop}
  {part : Device → β}

theorem Action.Mirrors.preserves {other : Action (σ × ε) α} {action : Action σ α}
    (mirrors : other.Mirrors action) (preserves : action.Preserves fun w => Q w.device) :
    other.Preserves fun w => Q w.device := by
  intro w held
  have there := preserves w.forget held
  rw [mirrors w] at there
  exact there

namespace Environment.Mirrors

variable (mirrors : watched.Mirrors env)

include mirrors

/-- A property of devices that is preserved is preserved beside something as well. -/
theorem preserves (preserves : env.Preserves fun w => Q w.device) :
    watched.Preserves fun w => Q w.device where
  get url since? := (mirrors.get url since?).preserves (preserves.get url since?)
  syncUser := mirrors.syncUser.preserves preserves.syncUser
  refreshToken := mirrors.refreshToken.preserves preserves.refreshToken
  sendFeedback := mirrors.sendFeedback.preserves preserves.sendFeedback
  now := mirrors.now.preserves preserves.now
  publish phase := (mirrors.publish phase).preserves (preserves.publish phase)

theorem keeps (keeps : env.Keeps part) : watched.Keeps part := fun v =>
  mirrors.preserves (Q := fun d => part d = v) (keeps v)

theorem observersPreserve (preserves : env.ObserversPreserve fun w => Q w.device) :
    watched.ObserversPreserve fun w => Q w.device := by
  have same := mirrors.observers
  rw [Environment.ObserversPreserve] at preserves ⊢
  revert preserves
  generalize watched.observers = others, env.observers = observers at same ⊢
  intro preserves
  induction same with
  | nil => exact fun _ none => absurd none List.not_mem_nil
  | cons first _ ih =>
    intro observer listed notice
    rcases List.mem_cons.1 listed with rfl | later
    · exact (first notice).preserves (preserves _ List.mem_cons_self notice)
    · exact ih (fun own there => preserves own (List.mem_cons_of_mem _ there)) observer later notice

theorem observersKeep (keeps : env.ObserversKeep part) : watched.ObserversKeep part := fun v =>
  mirrors.observersPreserve (Q := fun d => part d = v) (keeps v)

end Environment.Mirrors

end Mirrors

/-! ## Beside a transcript -/

section Transcribed

variable {env : Environment σ}

theorem Environment.Keeps.transcribed {part : Device → β} (keeps : env.Keeps part) :
    env.transcribed.Keeps part := env.mirrors_transcribed.keeps keeps

theorem Environment.exists_of_mem_observers_transcribed {observer : Observer (σ × Transcript)}
    (listed : observer ∈ env.transcribed.observers) :
    ∃ own ∈ env.observers, ∃ number, observer = own.noting number := by
  obtain ⟨number, bound, rfl⟩ := List.mem_mapIdx.1 listed
  exact ⟨_, List.getElem_mem bound, number, rfl⟩

theorem Environment.ObserversKeep.transcribed {part : Device → β} (keeps : env.ObserversKeep part) :
    env.transcribed.ObserversKeep part := env.mirrors_transcribed.observersKeep keeps

/-- To note what is not picked out leaves alone what is picked out of a transcript. -/
theorem Action.preserves_noting {entry : α → Entry} {pick : Entry → Option β}
    (other : ∀ a, pick (entry a) = none) (action : Action σ α) (picked : List β) :
    (action.noting entry).Preserves fun w => w.outside.2.filterMap pick = picked := by
  intro w held
  rw [run_noting]
  refine List.filterMap_append.trans ?_
  rw [held, List.filterMap_cons, other, List.filterMap_nil, List.append_nil]

/-- Only the server adds requests to a transcript. -/
theorem Environment.othersPreserve_asks (env : Environment σ) (asks : List Ask) :
    env.transcribed.OthersPreserve fun w => w.asks = asks where
  syncUser := Action.preserves_noting (fun _ => rfl) _ asks
  refreshToken := Action.preserves_noting (fun _ => rfl) _ asks
  sendFeedback := Action.preserves_noting (fun _ => rfl) _ asks
  now _ held := held
  publish _ := Action.preserves_noting (fun _ => rfl) _ asks

theorem Environment.observersPreserve_asks (env : Environment σ) (asks : List Ask) :
    env.transcribed.ObserversPreserve fun w => w.asks = asks := by
  intro observer listed notice
  obtain ⟨own, -, number, rfl⟩ := exists_of_mem_observers_transcribed listed
  cases notice with
  | batch paths => exact Action.preserves_noting (fun _ => rfl) _ asks
  | change path => exact Action.preserves_noting (fun _ => rfl) _ asks

/-- What leaves two things alone preserves every property of them. -/
theorem Action.preserves_both {γ : Type} {action : Action σ α} {f : World σ → β} {g : World σ → γ}
    (first : ∀ v, action.Preserves fun w => f w = v)
    (second : ∀ v, action.Preserves fun w => g w = v) (Q : β → γ → Prop) :
    action.Preserves fun w => Q (f w) (g w) := by
  intro w held
  rw [first _ w rfl, second _ w rfl]
  exact held

/-- What is said about a part of the device that is left alone, and about requests, is preserved by
all but the server and the observers. -/
theorem Environment.Keeps.othersPreserve_asks {part : Device → β} (keeps : env.Keeps part)
    (Q : β → List Ask → Prop) :
    env.transcribed.OthersPreserve fun w => Q (part w.device) w.asks where
  syncUser := Action.preserves_both (fun v => (keeps.transcribed v).syncUser)
    (fun v => (env.othersPreserve_asks v).syncUser) Q
  refreshToken := Action.preserves_both (fun v => (keeps.transcribed v).refreshToken)
    (fun v => (env.othersPreserve_asks v).refreshToken) Q
  sendFeedback := Action.preserves_both (fun v => (keeps.transcribed v).sendFeedback)
    (fun v => (env.othersPreserve_asks v).sendFeedback) Q
  now := Action.preserves_both (fun v => (keeps.transcribed v).now)
    (fun v => (env.othersPreserve_asks v).now) Q
  publish phase := Action.preserves_both (fun v => (keeps.transcribed v).publish phase)
    (fun v => (env.othersPreserve_asks v).publish phase) Q

theorem Environment.ObserversKeep.observersPreserve_asks {part : Device → β}
    (keeps : env.ObserversKeep part) (Q : β → List Ask → Prop) :
    env.transcribed.ObserversPreserve fun w => Q (part w.device) w.asks :=
  fun observer listed notice =>
    Action.preserves_both (fun v => keeps.transcribed v observer listed notice)
      (fun v => env.observersPreserve_asks v observer listed notice) Q

/-- Only observers hear of anything. -/
theorem Environment.preserves_hearings (env : Environment σ) (hearings : List Hearing) :
    env.transcribed.Preserves fun w => w.hearings = hearings where
  get _ _ := Action.preserves_noting (fun _ => rfl) _ hearings
  syncUser := Action.preserves_noting (fun _ => rfl) _ hearings
  refreshToken := Action.preserves_noting (fun _ => rfl) _ hearings
  sendFeedback := Action.preserves_noting (fun _ => rfl) _ hearings
  now _ held := held
  publish _ := Action.preserves_noting (fun _ => rfl) _ hearings

end Transcribed

end ConferenceSync
