import ConferenceSync.Proofs.Preservation

/-!
# Moments

The outside may act on the device whenever the program turns to it: when it asks the server or the
account, reads the clock, publishes a phase, or lets an observer hear of something. To say what
happens at these moments, and what the program itself does from one to the next, an environment is
run beside a course of them, in which each call is noted with the device before and after it.

## Main definitions

* `Call`, `Moment`, `Course` — what passes between the program and the outside, and when
* `Environment.watched` — an environment beside a course
* `LeavesAlone` — that the program itself leaves a part of the device alone along a course
* `Along` — the course that leads from one world to another
* `Action.Follows` — the calls that are made while something is done
* `Since` — that there have only been calls of one kind since a world
* `Steady` — that at each moment since a course the outside has preserved a property

## Main results

* `Action.Follows.bind` — calls that are made one step after another
* `Environment.mirrors_watched` — to note the moments changes nothing
* `Fetch.since_fetchIfNewer` — a cycle of the download consists of requests
-/

namespace ConferenceSync

variable {σ α β γ : Type}

/-! ## The course of things -/

/-- What passes between the program and the outside at a moment: an answer or a message, or the
time. -/
inductive Call where
  | noted (entry : Entry)
  | timed (time : Int)

namespace Call

/-- The phase that a call publishes. -/
def phase? : Call → Option Phase
  | noted (.published phase) => some phase
  | _ => none

/-- The time that the clock has shown. -/
def time? : Call → Option Int
  | timed time => some time
  | _ => none

/-- What the account has answered for the attendee's data. -/
def userAnswer? : Call → Option (Except SyncError Unit)
  | noted (.userSynced answer) => some answer
  | _ => none

/-- Whether a call is a request to the server. -/
def IsRequest (call : Call) : Prop := ∃ ask, call = noted (.asked ask)

/-- Whether an observer hears of something. -/
def IsHearing (call : Call) : Prop := ∃ hearing, call = noted (.heard hearing)

theorem IsRequest.phase?_eq_none {call : Call} (request : call.IsRequest) :
    call.phase? = none := by
  obtain ⟨ask, rfl⟩ := request
  rfl

theorem IsHearing.phase?_eq_none {call : Call} (hearing : call.IsHearing) :
    call.phase? = none := by
  obtain ⟨hearing, rfl⟩ := hearing
  rfl

end Call

/-- A moment at which the program has turned to the outside, with the device before and after it. -/
structure Moment where
  call : Call
  before : Device
  after : Device

/-- Moments, one after another. -/
abbrev Course := List Moment

/-- What has passed between the program and the outside. -/
def Course.calls (course : Course) : List Call := course.map Moment.call

@[simp] theorem Course.calls_append (course rest : Course) :
    Course.calls (course ++ rest) = course.calls ++ rest.calls := List.map_append

/-- The moments that a world has a course of. -/
def World.course (w : World (σ × Course)) : Course := w.outside.2

/-- An action beside a course, in which it is a moment. -/
def Action.watching (call : α → Call) (action : Action σ α) : Action (σ × Course) α := fun w =>
  let (a, after) := action.run w.forget
  (a, ⟨after.device, (after.outside, w.course ++ [⟨call a, w.device, after.device⟩])⟩)

/-- An attempt beside a course, in which it is a moment. -/
def Attempt.watching (call : Except SyncError α → Call) (attempt : Attempt σ α) :
    Attempt (σ × Course) α :=
  ExceptT.mk (Action.watching call attempt.run)

/-- The observer with a number, beside a course in which what it hears is a moment. -/
def Observer.watching (observer : Observer σ) (number : Nat) : Observer (σ × Course) where
  onChange path :=
    (observer.onChange path).watching fun _ => .noted (.heard ⟨number, .change path⟩)
  onBatch paths :=
    (observer.onBatch paths).watching fun _ => .noted (.heard ⟨number, .batch paths⟩)

/-- The environment beside a course. -/
def Environment.watched (env : Environment σ) : Environment (σ × Course) where
  get url since? :=
    (env.get url since?).watching fun answer => .noted (.asked ⟨url, since?, answer⟩)
  syncUser := env.syncUser.watching fun answer => .noted (.userSynced answer)
  refreshToken := env.refreshToken.watching fun answer => .noted (.tokenRefreshed answer)
  sendFeedback := env.sendFeedback.watching fun answer => .noted (.feedbackSent answer)
  now := env.now.watching .timed
  publish phase := (env.publish phase).watching fun _ => .noted (.published phase)
  observers := env.observers.mapIdx fun number observer => observer.watching number

/-- To note when the program turns to the outside changes nothing. -/
theorem Environment.mirrors_watched (env : Environment σ) : env.watched.Mirrors env where
  get _ _ _ := rfl
  syncUser _ := rfl
  refreshToken _ := rfl
  sendFeedback _ := rfl
  now _ := rfl
  publish _ _ := rfl
  observers :=
    mirrors_mapIdx (fun _ _ notice => by cases notice <;> exact fun _ => rfl) env.observers

/-! ## What the program does between moments -/

section LeavesAlone

variable {part : Device → β} {start finish other : Device} {course rest : Course}

/-- Whether the program itself leaves a part of the device alone from one state of the device to
another, and changes the phase only to publish it. In the moments of the course between them the
outside may do anything. -/
def LeavesAlone (part : Device → β) (start : Device) : Course → Device → Prop
  | [], finish => part finish = part start ∧ finish.phase = start.phase
  | moment :: rest, finish =>
    (part moment.before = part start ∧
        moment.before.phase = moment.call.phase?.getD start.phase) ∧
      LeavesAlone part moment.after rest finish

namespace LeavesAlone

theorem refl (part : Device → β) (start : Device) : LeavesAlone part start [] start := ⟨rfl, rfl⟩

theorem of_start (leaves : LeavesAlone part start course finish)
    (same : part start = part other) (phase : start.phase = other.phase) :
    LeavesAlone part other course finish := by
  cases course with
  | nil => exact ⟨leaves.1.trans same, leaves.2.trans phase⟩
  | cons moment rest => exact ⟨⟨leaves.1.1.trans same, phase ▸ leaves.1.2⟩, leaves.2⟩

theorem of_finish (leaves : LeavesAlone part start course finish)
    (same : part other = part finish) (phase : other.phase = finish.phase) :
    LeavesAlone part start course other := by
  induction course generalizing start with
  | nil => exact ⟨same.trans leaves.1, phase.trans leaves.2⟩
  | cons moment rest ih => exact ⟨leaves.1, ih leaves.2⟩

theorem trans (leaves : LeavesAlone part start course other)
    (goesOn : LeavesAlone part other rest finish) :
    LeavesAlone part start (course ++ rest) finish := by
  induction course generalizing start with
  | nil => exact goesOn.of_start leaves.1 leaves.2
  | cons moment more ih => exact ⟨leaves.1, ih leaves.2⟩

/-- What a part leaves alone, a part of it does. -/
theorem map (leaves : LeavesAlone part start course finish) (f : β → γ) :
    LeavesAlone (fun d => f (part d)) start course finish := by
  induction course generalizing start with
  | nil => exact ⟨congrArg f leaves.1, leaves.2⟩
  | cons moment rest ih => exact ⟨⟨congrArg f leaves.1.1, leaves.1.2⟩, ih leaves.2⟩

end LeavesAlone

/-- Whether a course leads from one world to another, and the program itself leaves a part of the
device alone along it. -/
structure Along (part : Device → β) (w : World (σ × Course)) (course : Course)
    (after : World (σ × Course)) : Prop where
  grows : after.course = w.course ++ course
  leaves : LeavesAlone part w.device course after.device

namespace Along

variable {w next after : World (σ × Course)}

theorem refl (part : Device → β) (w : World (σ × Course)) : Along part w [] w :=
  ⟨(List.append_nil _).symm, .refl part w.device⟩

/-- What the program does to the device without the outside is no moment. -/
theorem of_device {d : Device} (same : part d = part w.device) (phase : d.phase = w.device.phase) :
    Along part w [] { w with device := d } :=
  ⟨(List.append_nil _).symm, same, phase⟩

theorem trans (first : Along part w course next) (second : Along part next rest after) :
    Along part w (course ++ rest) after :=
  ⟨by rw [second.grows, first.grows, List.append_assoc], first.leaves.trans second.leaves⟩

end Along

end LeavesAlone

/-! ## The calls of an action -/

namespace Action

variable {part : Device → β} {action : Action (σ × Course) α}

/-- Whether all that passes between the program and the outside while something is done, and the
result of that, are of a shape, and the program itself leaves a part of the device alone. -/
def Follows (part : Device → β) (shape : α → List Call → Prop) (action : Action (σ × Course) α) :
    Prop :=
  ∀ w, ∃ course, Along part w course (action.run w).2 ∧ shape (action.run w).1 course.calls

theorem Follows.mono {shape other : α → List Call → Prop} (follows : action.Follows part shape)
    (weaker : ∀ a calls, shape a calls → other a calls) : action.Follows part other := by
  intro w
  obtain ⟨course, along, shaped⟩ := follows w
  exact ⟨course, along, weaker _ _ shaped⟩

theorem follows_pure (a : α) :
    (pure a : Action (σ × Course) α).Follows part fun result calls => result = a ∧ calls = [] :=
  fun w => ⟨[], .refl part w, rfl, rfl⟩

theorem Follows.bind {shape : α → List Call → Prop} {other : α → γ → List Call → Prop}
    {next : α → Action (σ × Course) γ} (first : action.Follows part shape)
    (others : ∀ a, (next a).Follows part (other a)) :
    (action >>= next).Follows part fun c calls =>
      ∃ a front back, calls = front ++ back ∧ shape a front ∧ other a c back := by
  intro w
  obtain ⟨course, along, shaped⟩ := first w
  obtain ⟨rest, goesOn, shaped'⟩ := others (action.run w).1 (action.run w).2
  exact ⟨course ++ rest, along.trans goesOn, (action.run w).1, course.calls, rest.calls,
    Course.calls_append .., shaped, shaped'⟩

/-- To turn to the outside is one moment. -/
theorem follows_watching {call : α → Call} (silent : ∀ a, (call a).phase? = none)
    (action : Action σ α) :
    (action.watching call).Follows part fun a calls => calls = [call a] := by
  intro w
  refine ⟨[⟨call (action.run w.forget).1, w.device, (action.run w.forget).2.device⟩], ⟨rfl, ?_⟩,
    rfl⟩
  exact ⟨⟨rfl, by rw [silent]; rfl⟩, rfl, rfl⟩

/-- To move to a phase is one moment, in which the phase is published. -/
theorem follows_enter (ignores : ∀ d phase, part { d with phase } = part d)
    (env : Environment σ) (phase : Phase) :
    (enter env.watched phase).Follows part fun _ calls => calls = [.noted (.published phase)] := by
  intro w
  let moved : Device := { w.device with phase }
  let after := ((env.publish phase).run ⟨moved, w.outside.1⟩).2
  exact ⟨[⟨.noted (.published phase), moved, after.device⟩],
    ⟨rfl, ⟨ignores w.device phase, rfl⟩, rfl, rfl⟩, rfl⟩

end Action

/-! ## Moments of one kind -/

section Since

variable {part : Device → β} {kind : Call → Prop}

/-- Whether since a world there have only been moments of one kind, and the program itself has left
a part of the device alone. -/
def Since (part : Device → β) (kind : Call → Prop) (start w : World (σ × Course)) : Prop :=
  ∃ course, Along part start course w ∧ ∀ moment ∈ course, kind moment.call

theorem Since.refl (part : Device → β) (kind : Call → Prop) (w : World (σ × Course)) :
    Since part kind w w := ⟨[], .refl part w, by simp⟩

/-- What the program does to the device without the outside is no moment. -/
theorem Since.of_device {start w : World (σ × Course)} (since : Since part kind start w)
    {d : Device} (same : part d = part w.device) (phase : d.phase = w.device.phase) :
    Since part kind start { w with device := d } := by
  obtain ⟨course, along, all⟩ := since
  exact ⟨course, ⟨along.grows, along.leaves.of_finish same phase⟩, all⟩

theorem Action.preserves_since_watching (call : α → Call) (kinds : ∀ a, kind (call a))
    (silent : ∀ a, (call a).phase? = none) (action : Action σ α) (start : World (σ × Course)) :
    (action.watching call).Preserves (Since part kind start) := by
  rintro w ⟨course, along, all⟩
  have watched : (action.watching call).Follows part _ := follows_watching silent action
  obtain ⟨moment, next, shaped⟩ := watched w
  refine ⟨course ++ moment, along.trans next, fun m listed => ?_⟩
  rcases List.mem_append.1 listed with earlier | last
  · exact all m earlier
  · have there : m.call ∈ Course.calls moment := List.mem_map_of_mem last
    rw [shaped] at there
    exact List.mem_singleton.1 there ▸ kinds _

/-- What preserves that there have only been moments of one kind consists of such moments. -/
theorem Action.follows_of_preserves_since {action : Action (σ × Course) α}
    (preserves : ∀ start, action.Preserves (Since part kind start)) :
    action.Follows part fun _ calls => ∀ call ∈ calls, kind call := by
  intro w
  obtain ⟨course, along, all⟩ := preserves w w (.refl part kind w)
  exact ⟨course, along, List.forall_mem_map.2 all⟩

theorem Environment.preserves_since_get (env : Environment σ) (start : World (σ × Course))
    (url : String) (since? : Option String) :
    (env.watched.get url since?).run.Preserves (Since part Call.IsRequest start) :=
  Action.preserves_since_watching (fun answer => .noted (.asked ⟨url, since?, answer⟩))
    (fun _ => ⟨_, rfl⟩) (fun _ => rfl) _ start

theorem Environment.exists_of_mem_observers_watched {env : Environment σ}
    {observer : Observer (σ × Course)} (listed : observer ∈ env.watched.observers) :
    ∃ own ∈ env.observers, ∃ number, observer = own.watching number := by
  obtain ⟨number, bound, rfl⟩ := List.mem_mapIdx.1 listed
  exact ⟨_, List.getElem_mem bound, number, rfl⟩

theorem Environment.observersPreserve_since (env : Environment σ) (start : World (σ × Course)) :
    env.watched.ObserversPreserve (Since part Call.IsHearing start) := by
  intro observer listed notice
  obtain ⟨own, -, number, rfl⟩ := exists_of_mem_observers_watched listed
  cases notice with
  | batch paths =>
    exact Action.preserves_since_watching (fun _ => .noted (.heard ⟨number, .batch paths⟩))
      (fun _ => ⟨_, rfl⟩) (fun _ => rfl) _ start
  | change path =>
    exact Action.preserves_since_watching (fun _ => .noted (.heard ⟨number, .change path⟩))
      (fun _ => ⟨_, rfl⟩) (fun _ => rfl) _ start

/-- A cycle of the download consists of requests. -/
theorem Fetch.since_fetchIfNewer (cache : ∀ d cache, part { d with cache } = part d)
    (env : Environment σ) (settings : Settings) (reference? : Option String)
    (w : World (σ × Course)) :
    Since part Call.IsRequest w
      ((Fetch.fetchIfNewer env.watched settings reference?).run.run w).2 :=
  Fetch.preserves_fetchIfNewer (env.preserves_since_get w)
    (fun w f since => since.of_device (cache w.device (f w.device.cache)) rfl) settings reference? w
    (.refl part _ w)

end Since

/-! ## What is preserved -/

section Watched

variable {env : Environment σ} {Q : Device → Prop} {part : Device → β}

/-- Whether since a course all moments have been such that a property of devices holds after them if
it holds before. -/
def Steady (Q : Device → Prop) (base : Course) (w : World (σ × Course)) : Prop :=
  ∃ own, w.course = base ++ own ∧ ∀ moment ∈ own, Q moment.before → Q moment.after

theorem Action.preserves_steady {action : Action σ α} (call : α → Call)
    (preserves : action.Preserves fun w => Q w.device) (base : Course) :
    (action.watching call).Preserves (Steady Q base) := by
  rintro w ⟨own, grown, steady⟩
  refine ⟨own ++ [⟨call (action.run w.forget).1, w.device, (action.run w.forget).2.device⟩], ?_,
    fun moment listed => ?_⟩
  · rw [← List.append_assoc, ← grown]
    rfl
  · rcases List.mem_append.1 listed with earlier | last
    · exact steady moment earlier
    · obtain rfl := List.mem_singleton.1 last
      exact preserves w.forget

/-- What the outside preserves, it preserves at each moment. -/
theorem Environment.Preserves.steady (preserves : env.Preserves fun w => Q w.device)
    (base : Course) : env.watched.Preserves (Steady Q base) where
  get url since? := Action.preserves_steady (fun answer => .noted (.asked ⟨url, since?, answer⟩))
    (preserves.get url since?) base
  syncUser := Action.preserves_steady (fun answer => .noted (.userSynced answer))
    preserves.syncUser base
  refreshToken := Action.preserves_steady (fun answer => .noted (.tokenRefreshed answer))
    preserves.refreshToken base
  sendFeedback := Action.preserves_steady (fun answer => .noted (.feedbackSent answer))
    preserves.sendFeedback base
  now := Action.preserves_steady .timed preserves.now base
  publish phase := Action.preserves_steady (fun _ => .noted (.published phase))
    (preserves.publish phase) base

theorem Environment.ObserversPreserve.steady (preserves : env.ObserversPreserve fun w => Q w.device)
    (base : Course) : env.watched.ObserversPreserve (Steady Q base) := by
  intro observer listed notice
  obtain ⟨own, there, number, rfl⟩ := exists_of_mem_observers_watched listed
  cases notice with
  | batch paths =>
    exact Action.preserves_steady (fun _ => .noted (.heard ⟨number, .batch paths⟩))
      (preserves own there (.batch paths)) base
  | change path =>
    exact Action.preserves_steady (fun _ => .noted (.heard ⟨number, .change path⟩))
      (preserves own there (.change path)) base

end Watched

end ConferenceSync
