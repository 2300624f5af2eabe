import EndpointUri.Editor.Batch
import EndpointUri.Proofs.ServiceSessions

/-!
Tasks that run side by side at a service are a session: each begins with moves of its own, in order,
and after that there are finishing steps only. They are all served, since each load that ends takes one
call at least out of the line.
Afterwards the service rests as it did before, so batch after batch is answered.
-/
namespace EndpointUri

/-! ### The line of a handle -/

namespace Handle

variable {h handle : Handle} {id : CallId}

/-- Where calls wait, one of them loads, and the catalog is not there. -/
structure Orderly (h : Handle) : Prop where
  loads : h.loading = none → h.waiting = []
  unloaded : h.line ≠ [] → h.loaded = none

theorem orderly_of_idle (idle : h.line = []) : h.Orderly :=
  ⟨fun _ => (List.append_eq_nil_iff.mp idle).2, fun busy => absurd idle busy⟩

/-- What a call may be given: the catalog that is there, or else the result of a load. -/
def MayGive (h : Handle) (outcome : Except CatalogError Catalog) : Prop :=
  match h.loaded with
  | some catalog => outcome = .ok catalog
  | none => ∃ number, outcome = (h.source number).value

theorem mayGive_loaded {catalog : Catalog} (loaded : h.loaded = some catalog)
    {outcome : Except CatalogError Catalog} : h.MayGive outcome ↔ outcome = .ok catalog := by
  simp [MayGive, loaded]

theorem mayGive_unloaded (unloaded : h.loaded = none) {outcome : Except CatalogError Catalog} :
    h.MayGive outcome ↔ ∃ number, outcome = (h.source number).value := by
  simp [MayGive, unloaded]

theorem exists_mayGive (h : Handle) : ∃ outcome, h.MayGive outcome := by
  cases loaded : h.loaded with
  | some catalog => exact ⟨_, (mayGive_loaded loaded).mpr rfl⟩
  | none => exact ⟨_, (mayGive_unloaded loaded).mpr ⟨0, rfl⟩⟩

theorem request_unloaded (unloaded : h.loaded = none) (id : CallId) :
    (h.request id).value.2 = none := by
  simp only [request, unloaded]
  split <;> rfl

/-- A call that is not served at once goes to the end of the line. -/
theorem line_request (orderly : h.Orderly) (asked : (h.request id).value = (handle, none)) :
    handle.line = h.line ++ [id] ∧ handle.Orderly ∧
      ∀ outcome, handle.MayGive outcome → h.MayGive outcome := by
  cases loaded : h.loaded with
  | some catalog =>
    rw [request_loaded loaded] at asked
    simp at asked
  | none =>
    by_cases free : h.loading = none
    · have empty := orderly.loads free
      rw [request_free loaded free empty] at asked
      obtain rfl := (Prod.mk.inj asked).1
      exact ⟨by simp [line, free, empty], ⟨by simp, fun _ => loaded⟩, fun _ given => given⟩
    · rw [request_busy loaded (fun idle => free idle.1)] at asked
      obtain rfl := (Prod.mk.inj asked).1
      exact ⟨by simp [line], ⟨by simp [free], fun _ => loaded⟩, fun _ given => given⟩

/-- When the load in flight ends, the calls it serves are the first in line, and there is one of them
unless the line is empty. Whoever is left in line finds no catalog. -/
theorem line_settle (orderly : h.Orderly) :
    let settled := h.settle.value
    h.line = settled.2.map Prod.fst ++ settled.1.line ∧ (h.line ≠ [] → settled.2 ≠ []) ∧
      settled.1.loading = none ∧ (settled.1.line ≠ [] → settled.1.loaded = none) ∧
      (∀ entry ∈ settled.2, h.MayGive entry.2) ∧
      ∀ outcome, settled.1.MayGive outcome → h.MayGive outcome := by
  cases loading : h.loading with
  | none =>
    have empty := orderly.loads loading
    simp [settle, loading, empty, line]
  | some id =>
    have began : h.line = id :: h.waiting := by simp [line, loading]
    have unloaded : h.loaded = none := orderly.unloaded (by simp [began])
    have given : h.MayGive (h.source (h.loads - 1)).value := (mayGive_unloaded unloaded).mpr ⟨_, rfl⟩
    cases found : (h.source (h.loads - 1)).value with
    | ok catalog =>
      rw [found] at given
      rw [settle_ok loading found, began]
      refine ⟨by simp [line, Function.comp_def], by simp, rfl, by simp [line], ?_, ?_⟩
      · intro entry member
        obtain ⟨waiter, -, rfl⟩ := List.mem_map.mp member
        exact given
      · intro outcome isGiven
        rw [(mayGive_loaded rfl).mp isGiven]
        exact given
    | error fault =>
      rw [found] at given
      rw [settle_error loading found, began]
      exact ⟨by simp [line], by simp, rfl, fun _ => unloaded, by simpa using given,
        fun _ given => given⟩

theorem line_promote (free : h.loading = none) (unloaded : h.line ≠ [] → h.loaded = none) :
    h.promote.value.line = h.line ∧ h.promote.value.Orderly ∧
      ∀ outcome, h.promote.value.MayGive outcome → h.MayGive outcome := by
  cases waiting : h.waiting with
  | nil =>
    have same : h.promote.value = h := by simp [promote, free, waiting]
    rw [same]
    exact ⟨rfl, ⟨fun _ => waiting, unloaded⟩, fun _ given => given⟩
  | cons next rest =>
    have noCatalog := unloaded (by simp [line, free, waiting])
    rw [promote_next free waiting]
    exact ⟨by simp [line, free, waiting], ⟨by simp, fun _ => noCatalog⟩, fun _ given => given⟩

end Handle

/-! ### Tasks as calls of a session -/

/-- A document of which no URI is known. -/
def Occurrence.blank (document : String) : Occurrence := ⟨document, "", 0, ""⟩

/-- How a task that has begun looks among the calls of a session. A completion is a call; a request
that is started by hand is a call that stays pending. -/
inductive Task.Looks : Task → Progress → Option (Call × Option Answer) → Prop
  | waiting {id : RequestId} {occurrence : Occurrence} {cursor : Nat}
      (needs : (Call.started id occurrence cursor).request.items? = none) :
    Looks (.completion occurrence cursor) (.waits (Call.started id occurrence cursor))
      (some (Call.started id occurrence cursor, none))
  | answered (id : RequestId) (occurrence : Occurrence) (cursor : Nat) (answer : Answer) :
    Looks (.completion occurrence cursor) (.ended (.answer answer))
      (some (Call.started id occurrence cursor, some answer))
  | started (id : RequestId) (document : String) :
    Looks (.start document) (.ended (.started id)) (some (Call.started id (.blank document) 0, none))
  | told (document : String) (id : RequestId) (yes : Bool) :
    Looks (.active document id) (.ended (.active yes)) none
  | finished (document : String) (id : RequestId) :
    Looks (.finish document id) (.ended .nothing) none
  | cancelled (document : String) : Looks (.cancel document) (.ended .nothing) none

/-- The moves that a task makes at its beginning, where each call that finishes has been given an
outcome. To finish a request by hand is to cancel its document, unless it is not the newest there. -/
inductive Task.Makes (given : Except CatalogError Catalog → Prop) : Task → List Move → Prop
  | asks (occurrence : Occurrence) (cursor : Nat) :
    Makes given (.completion occurrence cursor) [.start occurrence cursor]
  | completes (occurrence : Occurrence) (cursor number : Nat)
      {outcome : Except CatalogError Catalog} (isGiven : given outcome) :
    Makes given (.completion occurrence cursor) [.start occurrence cursor, .finish number outcome]
  | opens (document : String) : Makes given (.start document) [.start (.blank document) 0]
  | tells (document : String) (id : RequestId) : Makes given (.active document id) []
  | finishes (document : String) (id : RequestId) :
    Makes given (.finish document id) [.cancel document]
  | passes (document : String) (id : RequestId) : Makes given (.finish document id) []
  | cancels (document : String) : Makes given (.cancel document) [.cancel document]

/-- The task is about the document, and not only a question. -/
def Task.Concerns (document : String) : Task → Prop
  | .completion occurrence _ => occurrence.document = document
  | .start other => other = document
  | .active _ _ => False
  | .finish other _ => other = document
  | .cancel other => other = document

section Makes

variable {given : Except CatalogError Catalog → Prop} {task : Task} {moves : List Move}

theorem Task.Makes.isGiven (makes : task.Makes given moves) {number : Nat}
    {outcome : Except CatalogError Catalog} (member : .finish number outcome ∈ moves) :
    given outcome := by
  cases makes with
  | completes _ _ _ isGiven =>
    obtain ⟨-, rfl⟩ : _ ∧ outcome = _ := by simpa using member
    exact isGiven
  | _ => simp at member

theorem Task.Makes.concerns (makes : task.Makes given moves) {move : Move} {document : String}
    (member : move ∈ moves) (disturbs : move.Disturbs document) : task.Concerns document := by
  cases makes with
  | completes =>
    rcases List.mem_pair.mp member with rfl | rfl
    · exact disturbs
    · exact disturbs.elim
  | tells => simp at member
  | passes => simp at member
  | _ =>
    obtain rfl := List.mem_singleton.mp member
    exact disturbs

/-- A completion starts a call, and disturbs nobody afterwards. -/
theorem Task.Makes.exists_start {occurrence : Occurrence} {cursor : Nat}
    (makes : (Task.completion occurrence cursor).Makes given moves) :
    ∃ rest, moves = .start occurrence cursor :: rest ∧
      ∀ move ∈ rest, ∀ document, ¬ move.Disturbs document := by
  cases makes with
  | asks => exact ⟨[], rfl, by simp⟩
  | completes => exact ⟨_, rfl, by simp [Move.Disturbs]⟩

theorem Task.Makes.starts_eq {progress : Progress} {call? : Option (Call × Option Answer)}
    (makes : task.Makes given moves) (looks : task.Looks progress call?) :
    starts moves = call?.toList.length := by
  cases makes <;> cases looks <;> rfl

end Makes

/-- A task on its way, with the moves it began with and the call that it is. -/
structure TaskState (given : Except CatalogError Catalog → Prop) where
  task : Task
  moves : List Move
  makes : task.Makes given moves
  progress : Progress
  call? : Option (Call × Option Answer)
  looks : task.Looks progress call?

namespace TaskState

variable {given : Except CatalogError Catalog → Prop} {states : List (TaskState given)}
  {state : TaskState given} {place number : Nat}

/-- What does not change on the way. -/
def origin (state : TaskState given) : Task × List Move := (state.task, state.moves)

def Waits (states : List (TaskState given)) (number : Nat) : Prop :=
  ∃ state call, states[number]? = some state ∧ state.progress = .waits call

theorem Waits.of_append (waits : Waits (states ++ [state]) number) :
    Waits states number ∨ number = states.length ∧ ∃ call, state.progress = .waits call := by
  obtain ⟨found, call, place, progress⟩ := waits
  rcases Nat.lt_or_ge number states.length with old | fresh
  · rw [List.getElem?_append_left old] at place
    exact .inl ⟨found, call, place, progress⟩
  · obtain ⟨bound, -⟩ := List.getElem?_eq_some_iff.mp place
    rw [List.length_append, List.length_singleton] at bound
    obtain rfl : number = states.length := by omega
    rw [List.getElem?_concat_length] at place
    obtain rfl := Option.some.inj place
    exact .inr ⟨rfl, call, progress⟩

theorem Waits.of_set (ended : ∀ call, state.progress ≠ .waits call)
    (waits : Waits (states.set place state) number) :
    Waits states number ∧ number ≠ place := by
  obtain ⟨found, call, isFound, progress⟩ := waits
  by_cases same : place = number
  · subst same
    obtain ⟨bound, -⟩ := List.getElem?_eq_some_iff.mp isFound
    rw [List.length_set] at bound
    rw [List.getElem?_set_self bound] at isFound
    obtain rfl := Option.some.inj isFound
    exact absurd progress (ended call)
  · rw [List.getElem?_set_ne same] at isFound
    exact ⟨⟨found, call, isFound, progress⟩, Ne.symm same⟩

end TaskState

namespace Service

variable {s : Service} {before session : Session} {given : Except CatalogError Catalog → Prop}
  {states : List (TaskState given)} {number : Nat}

/-- The session has the tracker and the settings of the service, and the calls that the tasks are after
those that it began with. -/
structure Mirrors (before session : Session) (s : Service) (states : List (TaskState given)) :
    Prop where
  tracker : session.service.tracker = s.tracker
  settings : session.service.settings = s.settings
  calls : session.calls = before.calls ++ states.filterMap (·.call?)

/-- Every task that waits is in line, and there is nothing else to be given. -/
structure Accounted (h : Handle) (states : List (TaskState given)) : Prop where
  line : ∀ number, TaskState.Waits states number → number ∈ h.line
  orderly : h.Orderly
  gives : ∀ outcome, h.MayGive outcome → given outcome

/-- All that a completion can do when it begins: it finishes with an outcome that the handle may give,
or it goes in line. -/
theorem begin_completion (s : Service) (number : CallId) (occurrence : Occurrence) (cursor : Nat) :
    let call := Call.started (s.tracker.issued + 1) occurrence cursor
    let started : Service := { s with tracker := (s.tracker.start occurrence.document).1 }
    let begun := (s.begin number (.completion occurrence cursor)).value
    (∃ outcome, s.handle.MayGive outcome ∧
      begun = ((started.finishing call outcome).value.1,
        .ended (.answer (started.finishing call outcome).value.2))) ∨
    ∃ handle, (s.handle.request number).value = (handle, none) ∧ call.request.items? = none ∧
      begun = ({ started with handle }, .waits call) := by
  intro call started begun
  have value : (s.start occurrence cursor).value = (started, call) := start_value s occurrence cursor
  cases items : call.request.items? with
  | some candidates =>
    -- Any outcome will do, since the items are there without one.
    obtain ⟨outcome, isGiven⟩ := s.handle.exists_mayGive
    refine .inl ⟨outcome, isGiven, ?_⟩
    simp [begun, begin, value, items, finishing]
  | none =>
    cases loaded : s.handle.loaded with
    | some catalog =>
      refine .inl ⟨.ok catalog, (Handle.mayGive_loaded loaded).mpr rfl, ?_⟩
      simp [begun, begin, value, items, finishing, Handle.request_loaded loaded, started]
    | none =>
      have unserved := Handle.request_unloaded loaded number
      refine .inr ⟨(s.handle.request number).value.1, Prod.ext rfl unserved, rfl, ?_⟩
      simp [begun, begin, value, items, unserved, started]

/-! ### Tasks begin -/

theorem Accounted.append_ended {h : Handle} (accounted : Accounted h states) {state : TaskState given}
    (ended : ∀ call, state.progress ≠ .waits call) : Accounted h (states ++ [state]) := by
  refine ⟨?_, accounted.orderly, accounted.gives⟩
  intro number waits
  rcases waits.of_append with old | ⟨-, call, progress⟩
  · exact accounted.line number old
  · exact absurd progress (ended call)

theorem Accounted.append_waiting {h handle : Handle} (accounted : Accounted h states)
    (asked : (h.request states.length).value = (handle, none)) (state : TaskState given) :
    Accounted handle (states ++ [state]) := by
  obtain ⟨line, orderly, gives⟩ := Handle.line_request accounted.orderly asked
  refine ⟨?_, orderly, fun outcome isGiven => accounted.gives outcome (gives outcome isGiven)⟩
  intro number waits
  rw [line]
  rcases waits.of_append with old | ⟨rfl, -⟩
  · exact List.mem_append_left _ (accounted.line number old)
  · exact List.mem_append_right _ (List.mem_singleton_self _)

theorem Mirrors.start (mirrors : Mirrors before session s states) {occurrence : Occurrence}
    {cursor : Nat} {state : TaskState given}
    (call : state.call? = some (Call.started (s.tracker.issued + 1) occurrence cursor, none))
    (handle : Handle) :
    Mirrors before (session.run [.start occurrence cursor])
      ⟨handle, s.settings, (s.tracker.start occurrence.document).1⟩ (states ++ [state]) := by
  rw [Session.run_cons, Session.run_nil, Session.step_start]
  refine ⟨?_, mirrors.settings, ?_⟩
  · rw [mirrors.tracker]
  · simp [mirrors.calls, mirrors.tracker, call]

/-- A completion that finishes as soon as it has started. -/
theorem Mirrors.complete (mirrors : Mirrors before session s states) (occurrence : Occurrence)
    (cursor : Nat) (outcome : Except CatalogError Catalog) :
    let call := Call.started (s.tracker.issued + 1) occurrence cursor
    let ended := (finishing { s with tracker := (s.tracker.start occurrence.document).1 } call
      outcome).value
    ∀ state : TaskState given, state.call? = some (call, some ended.2) →
      Mirrors before (session.run [.start occurrence cursor, .finish session.calls.length outcome])
        ended.1 (states ++ [state]) := by
  intro call ended state isCall
  have started : session.step (.start occurrence cursor) =
      ⟨{ session.service with tracker := (s.tracker.start occurrence.document).1 },
        session.calls ++ [(call, none)]⟩ := by
    rw [Session.step_start, mirrors.tracker]
  have finished := Session.step_finish_as (session.step (.start occurrence cursor))
    { s with tracker := (s.tracker.start occurrence.document).1 } (by rw [started])
    (by rw [started]; exact mirrors.settings)
    (by rw [started]; exact List.getElem?_concat_length) outcome
  rw [Session.run_cons, Session.run_cons, Session.run_nil, finished, started]
  refine ⟨rfl, ?_, ?_⟩
  · rw [finishing_service]
    exact mirrors.settings
  · simp [mirrors.calls, isCall, ended]

/-- A task begins with its moves, and goes in line if it waits. -/
theorem Mirrors.begin (mirrors : Mirrors before session s states)
    (accounted : Accounted s.handle states) (task : Task) :
    let begun := (s.begin states.length task).value
    ∃ state : TaskState given, state.task = task ∧ state.progress = begun.2 ∧
      Mirrors before (session.run state.moves) begun.1 (states ++ [state]) ∧
      Accounted begun.1.handle (states ++ [state]) ∧
      begun.1.handle.line.length ≤ s.handle.line.length + 1 := by
  cases task with
  | completion occurrence cursor =>
    rcases s.begin_completion states.length occurrence cursor with
      ⟨outcome, isGiven, value⟩ | ⟨handle, asked, needs, value⟩
    · rw [value]
      refine ⟨⟨_, _, .completes occurrence cursor _ (accounted.gives outcome isGiven), _, _,
        .answered _ occurrence cursor _⟩, rfl, rfl, mirrors.complete occurrence cursor outcome _ rfl,
        ?_, ?_⟩
      · rw [finishing_service]
        exact accounted.append_ended (by simp)
      · rw [finishing_service]
        exact Nat.le_succ _
    · rw [value]
      refine ⟨⟨_, _, .asks occurrence cursor, _, _, .waiting needs⟩, rfl, rfl,
        mirrors.start rfl handle, accounted.append_waiting asked _, ?_⟩
      rw [(Handle.line_request accounted.orderly asked).1]
      simp
  | start document =>
    exact ⟨⟨_, _, .opens document, _, _, .started _ document⟩, rfl, rfl, mirrors.start rfl s.handle,
      accounted.append_ended (by simp), Nat.le_succ _⟩
  | active document id =>
    refine ⟨⟨_, _, .tells document id, _, _, .told document id _⟩, rfl, rfl, ?_,
      accounted.append_ended (by simp), Nat.le_succ _⟩
    exact ⟨mirrors.tracker, mirrors.settings, by simp [mirrors.calls]⟩
  | finish document id =>
    by_cases active : s.tracker.isActive document id
    · refine ⟨⟨_, _, .finishes document id, _, _, .finished document id⟩, rfl, rfl, ?_,
        accounted.append_ended (by simp), Nat.le_succ _⟩
      refine ⟨?_, mirrors.settings, by simp [Session.step, mirrors.calls]⟩
      simp [Service.begin, Session.step, Tracker.finish, Tracker.cancel, active, mirrors.tracker]
    · refine ⟨⟨_, _, .passes document id, _, _, .finished document id⟩, rfl, rfl, ?_,
        accounted.append_ended (by simp), Nat.le_succ _⟩
      refine ⟨?_, mirrors.settings, by simp [mirrors.calls]⟩
      simp [Service.begin, Tracker.finish, active, mirrors.tracker]
  | cancel document =>
    refine ⟨⟨_, _, .cancels document, _, _, .cancelled document⟩, rfl, rfl, ?_,
      accounted.append_ended (by simp), Nat.le_succ _⟩
    refine ⟨?_, mirrors.settings, by simp [Session.step, mirrors.calls]⟩
    simp [Service.begin, Session.step, mirrors.tracker]

theorem Mirrors.beginAll (mirrors : Mirrors before session s states)
    (accounted : Accounted s.handle states) (tasks : List Task) :
    let begun := (s.beginAll states.length tasks).value
    ∃ more : List (TaskState given), more.map (·.task) = tasks ∧ more.map (·.progress) = begun.2 ∧
      Mirrors before (session.run (more.flatMap (·.moves))) begun.1 (states ++ more) ∧
      Accounted begun.1.handle (states ++ more) ∧
      begun.1.handle.line.length ≤ s.handle.line.length + tasks.length := by
  induction tasks generalizing s session states with
  | nil =>
    refine ⟨[], rfl, rfl, ?_, ?_, Nat.le_refl _⟩
    · rw [List.append_nil]
      exact mirrors
    · rw [List.append_nil]
      exact accounted
  | cons task rest ih =>
    obtain ⟨state, isTask, progress, mirrors₁, accounted₁, length₁⟩ := mirrors.begin accounted task
    obtain ⟨more, tasks, progressAll, mirrors₂, accounted₂, length₂⟩ := ih mirrors₁ accounted₁
    rw [List.length_append, List.length_singleton] at progressAll mirrors₂ accounted₂ length₂
    refine ⟨state :: more, ?_, ?_, ?_, ?_, ?_⟩
    · rw [List.map_cons, isTask, tasks]
    · simp [Service.beginAll, progress, progressAll]
    · simpa [Service.beginAll] using mirrors₂
    · simpa [Service.beginAll] using accounted₂
    · simp only [Service.beginAll, Logged.value_bind, Logged.value_pure, List.length_cons]
      omega

/-! ### Loads end -/

/-- Every move is the finishing step of a call that has been given an outcome. -/
def Finishes (given : Except CatalogError Catalog → Prop) (moves : List Move) : Prop :=
  ∀ move ∈ moves, ∃ number outcome, given outcome ∧ move = .finish number outcome

/-- The tasks have gone on to these states, and the session followed them by finishing steps. -/
structure Continues (before session : Session) (states : List (TaskState given))
    (next : Service × List Progress) (late : List Move) (after : List (TaskState given)) : Prop where
  finishes : Finishes given late
  origins : after.map (·.origin) = states.map (·.origin)
  progress : after.map (·.progress) = next.2
  mirrors : Mirrors before (session.run late) next.1 after

theorem Continues.nil (mirrors : Mirrors before session s states) :
    Continues before session states (s, states.map (·.progress)) [] states :=
  ⟨by simp [Finishes], rfl, rfl, mirrors⟩

theorem Continues.append {next last : Service × List Progress} {late later : List Move}
    {after final : List (TaskState given)} (first : Continues before session states next late after)
    (second : Continues before (session.run late) after last later final) :
    Continues before session states last (late ++ later) final := by
  refine ⟨?_, second.origins.trans first.origins, second.progress, ?_⟩
  · intro move member
    rcases List.mem_append.mp member with early | afterwards
    · exact first.finishes move early
    · exact second.finishes move afterwards
  · rw [Session.run_append]
    exact second.mirrors

/-- A task that waits ends with a finishing step. -/
theorem Mirrors.conclude (mirrors : Mirrors before session s states) {state : TaskState given}
    {call : Call} (found : states[number]? = some state) (waits : state.progress = .waits call)
    {outcome : Except CatalogError Catalog} (isGiven : given outcome) :
    let ended := (s.conclude call outcome).value
    ended.1.handle = s.handle ∧
      ∃ (late : List Move) (state' : TaskState given), state'.progress = .ended (.answer ended.2) ∧
        Continues before session states
          (ended.1, (states.map (·.progress)).set number (.ended (.answer ended.2))) late
          (states.set number state') := by
  obtain ⟨task, moves, makes, progress, call?, looks⟩ := state
  cases looks with
  | @waiting id occurrence cursor needs =>
    obtain rfl := Progress.waits.inj waits
    obtain ⟨k, place, set⟩ := exists_place_filterMap (f := (·.call?)) found rfl
    have conclude : s.conclude (Call.started id occurrence cursor) outcome =
        s.finishing (Call.started id occurrence cursor) outcome := by
      rw [finishing, needs]
    have pending : session.calls[before.calls.length + k]? =
        some (Call.started id occurrence cursor, none) := by
      rw [mirrors.calls, List.getElem?_append_right (Nat.le_add_right _ _), Nat.add_sub_cancel_left]
      exact place
    rw [conclude]
    refine ⟨by rw [finishing_service], [.finish (before.calls.length + k) outcome],
      ⟨_, moves, makes, _, _, .answered id occurrence cursor _⟩, rfl, ?_, map_set_of_eq found rfl,
      List.map_set, ?_⟩
    · intro move member
      obtain rfl := List.mem_singleton.mp member
      exact ⟨_, outcome, isGiven, rfl⟩
    · rw [Session.run_cons, Session.run_nil,
        session.step_finish_as s mirrors.tracker mirrors.settings pending]
      refine ⟨rfl, ?_, ?_⟩
      · rw [finishing_service]
        exact mirrors.settings
      · rw [set _ _ rfl, mirrors.calls, List.set_append_right _ _ (Nat.le_add_right _ _),
          Nat.add_sub_cancel_left]
  | _ => simp at waits

theorem concludeAll_waiting {tasks : List Progress} {call : Call}
    (waits : tasks[number]? = some (.waits call)) (outcome : Except CatalogError Catalog)
    (served : List (CallId × Except CatalogError Catalog)) :
    (s.concludeAll tasks ((number, outcome) :: served)).value =
      ((s.conclude call outcome).value.1.concludeAll
        (tasks.set number (.ended (.answer (s.conclude call outcome).value.2))) served).value := by
  simp [concludeAll, waits]

theorem concludeAll_other {tasks : List Progress} (other : ∀ call, tasks[number]? ≠ some (.waits call))
    (outcome : Except CatalogError Catalog)
    (served : List (CallId × Except CatalogError Catalog)) :
    s.concludeAll tasks ((number, outcome) :: served) = s.concludeAll tasks served := by
  rw [concludeAll]
  split
  next call waits => exact absurd waits (other call)
  next => rfl

/-- After a load the tasks that it has served do not wait any more. -/
theorem Mirrors.concludeAll (mirrors : Mirrors before session s states)
    {served : List (CallId × Except CatalogError Catalog)} (isGiven : ∀ entry ∈ served, given entry.2) :
    let concluded := (s.concludeAll (states.map (·.progress)) served).value
    concluded.1.handle = s.handle ∧
      ∃ late after, Continues before session states concluded late after ∧
        ∀ number, TaskState.Waits after number →
          TaskState.Waits states number ∧ number ∉ served.map Prod.fst := by
  induction served generalizing s session states with
  | nil =>
    refine ⟨rfl, [], states, .nil mirrors, ?_⟩
    intro number waits
    exact ⟨waits, List.not_mem_nil⟩
  | cons entry rest ih =>
    obtain ⟨first, outcome⟩ := entry
    obtain ⟨givenFirst, givenRest⟩ := List.forall_mem_cons.mp isGiven
    by_cases waits : TaskState.Waits states first
    · obtain ⟨state, call, found, progress⟩ := waits
      have place : (states.map (·.progress))[first]? = some (.waits call) := by
        rw [List.getElem?_map, found, Option.map_some, progress]
      obtain ⟨handle, late, state', ended, continues⟩ := mirrors.conclude found progress givenFirst
      obtain ⟨handle', later, after, continues', waiting⟩ := ih continues.mirrors givenRest
      rw [continues.progress] at handle' continues'
      rw [concludeAll_waiting place]
      refine ⟨handle'.trans handle, late ++ later, after, continues.append continues', ?_⟩
      intro number waitingStill
      obtain ⟨changed, unserved⟩ := waiting number waitingStill
      obtain ⟨old, other⟩ := changed.of_set (by simp [ended])
      exact ⟨old, by simp [other, unserved]⟩
    · have other : ∀ call, (states.map (·.progress))[first]? ≠ some (.waits call) := by
        intro call place
        rw [List.getElem?_map, Option.map_eq_some_iff] at place
        obtain ⟨state, found, progress⟩ := place
        exact waits ⟨state, call, found, progress⟩
      obtain ⟨handle, late, after, continues, waiting⟩ := ih mirrors givenRest
      rw [concludeAll_other other]
      refine ⟨handle, late, after, continues, ?_⟩
      intro number waitingStill
      obtain ⟨old, unserved⟩ := waiting number waitingStill
      refine ⟨old, ?_⟩
      rw [List.map_cons, List.mem_cons]
      rintro (rfl | served)
      · exact waits old
      · exact unserved served

/-- A load ends, the tasks that it serves end, and the next load begins. -/
def round (s : Service) (tasks : List Progress) : Service × List Progress :=
  let settled := s.handle.settle.value
  let concluded := (concludeAll { s with handle := settled.1 } tasks settled.2).value
  ({ concluded.1 with handle := concluded.1.handle.promote.value }, concluded.2)

theorem drain_round (s : Service) (tasks : List Progress) (rounds : Nat) :
    (s.drain tasks (rounds + 1)).value = ((s.round tasks).1.drain (s.round tasks).2 rounds).value := rfl

/-- A round makes the line shorter, if anybody is in it. -/
theorem Mirrors.round (mirrors : Mirrors before session s states)
    (accounted : Accounted s.handle states) :
    let next := s.round (states.map (·.progress))
    ∃ late after, Continues before session states next late after ∧
      Accounted next.1.handle after ∧ next.1.handle.line.length ≤ s.handle.line.length - 1 := by
  intro next
  obtain ⟨line, progresses, free, unloaded, gives, settledGives⟩ :=
    Handle.line_settle accounted.orderly
  obtain ⟨sameLine, orderly, promotedGives⟩ := Handle.line_promote free unloaded
  have settled : Mirrors before session { s with handle := s.handle.settle.value.1 } states :=
    ⟨mirrors.tracker, mirrors.settings, mirrors.calls⟩
  obtain ⟨handle, late, after, continues, waits⟩ :=
    settled.concludeAll fun entry member => accounted.gives _ (gives entry member)
  have promoted : next.1.handle = s.handle.settle.value.1.promote.value :=
    congrArg (fun h : Handle => h.promote.value) handle
  refine ⟨late, after, ⟨continues.finishes, continues.origins, continues.progress,
    continues.mirrors.tracker, continues.mirrors.settings, continues.mirrors.calls⟩, ?_, ?_⟩
  · rw [promoted]
    refine ⟨?_, orderly, fun outcome isGiven =>
      accounted.gives outcome (settledGives outcome (promotedGives outcome isGiven))⟩
    intro number waiting
    obtain ⟨old, unserved⟩ := waits number waiting
    have member := accounted.line number old
    rw [line, List.mem_append] at member
    rw [sameLine]
    exact member.resolve_left unserved
  · have length := congrArg List.length line
    rw [List.length_append, List.length_map] at length
    rw [promoted, sameLine]
    by_cases empty : s.handle.line = []
    · rw [empty, List.length_nil] at length
      omega
    · have served := List.length_pos_of_ne_nil (progresses empty)
      omega

/-- With as many rounds as calls in line, loads end until nobody is in line. -/
theorem Mirrors.drain (mirrors : Mirrors before session s states)
    (accounted : Accounted s.handle states) {rounds : Nat}
    (enough : s.handle.line.length ≤ rounds) :
    let drained := (s.drain (states.map (·.progress)) rounds).value
    ∃ late after, Continues before session states drained late after ∧
      Accounted drained.1.handle after ∧ drained.1.handle.line = [] := by
  induction rounds generalizing s session states with
  | zero =>
    exact ⟨[], states, .nil mirrors, accounted,
      List.eq_nil_of_length_eq_zero (Nat.le_zero.mp enough)⟩
  | succ rounds ih =>
    obtain ⟨late, after, continues, accounted', shorter⟩ := mirrors.round accounted
    obtain ⟨later, last, continues', rest⟩ := ih continues.mirrors accounted' (by omega)
    rw [continues.progress] at continues' rest
    rw [drain_round]
    exact ⟨late ++ later, last, continues.append continues', rest⟩

/-! ### Whole batches -/

theorem map_ended_results (nobody : ∀ number, ¬ TaskState.Waits states number) :
    ((states.map (·.progress)).filterMap Progress.result?).map .ended = states.map (·.progress) := by
  have ended : ∀ state ∈ states, ∃ result, state.progress = .ended result := by
    intro state member
    obtain ⟨number, found⟩ := List.mem_iff_getElem?.mp member
    cases progress : state.progress with
    | ended result => exact ⟨result, rfl⟩
    | waits call => exact absurd ⟨state, call, found, progress⟩ (nobody number)
  clear nobody
  induction states with
  | nil => rfl
  | cons state rest ih =>
    obtain ⟨⟨result, progress⟩, later⟩ := List.forall_mem_cons.mp ended
    simpa [progress, Progress.result?] using ih later

/-- Tasks side by side, where the handle serves nobody else, are a session: each task begins with its
moves, in order, and then calls finish. Every task ends, again nobody is in line, and there is nothing
new to be given. -/
theorem exists_session_runAll (before : Session) (tracker : before.service.tracker = s.tracker)
    (settings : before.service.settings = s.settings) (idle : s.handle.line = [])
    (tasks : List Task) :
    let ran := (s.runAll tasks).value
    ∃ (states : List (TaskState s.handle.MayGive)) (late : List Move),
      states.map (·.task) = tasks ∧ states.map (·.progress) = ran.2.map .ended ∧
      Finishes s.handle.MayGive late ∧
      Mirrors before (before.run (states.flatMap (·.moves) ++ late)) ran.1 states ∧
      ran.1.handle.line = [] ∧
      ∀ outcome, ran.1.handle.MayGive outcome → s.handle.MayGive outcome := by
  have mirrors : Mirrors before before s ([] : List (TaskState s.handle.MayGive)) :=
    ⟨tracker, settings, by simp⟩
  have accounted : Accounted s.handle ([] : List (TaskState s.handle.MayGive)) := by
    refine ⟨?_, Handle.orderly_of_idle idle, fun _ isGiven => isGiven⟩
    rintro number ⟨state, call, found, -⟩
    simp at found
  obtain ⟨states, begunTasks, begunProgress, begun, accounted₁, length⟩ :=
    mirrors.beginAll accounted tasks
  simp only [List.length_nil, List.nil_append] at begunProgress begun accounted₁
  simp only [List.length_nil, idle, Nat.zero_add] at length
  obtain ⟨late, after, continues, accounted₂, empty⟩ := begun.drain accounted₁ length
  rw [begunProgress] at continues empty accounted₂
  have nobody : ∀ number, ¬ TaskState.Waits after number := by
    intro number waits
    have member := accounted₂.line number waits
    rw [empty] at member
    exact List.not_mem_nil member
  have results := map_ended_results nobody
  rw [continues.progress] at results
  have sameTasks := congrArg (List.map Prod.fst) continues.origins
  have sameMoves := congrArg (List.flatMap Prod.snd) continues.origins
  simp only [List.map_map, List.flatMap_map] at sameTasks sameMoves
  refine ⟨after, late, sameTasks.trans begunTasks, continues.progress.trans results.symm,
    continues.finishes, ?_, empty, accounted₂.gives⟩
  have moves : after.flatMap (·.moves) = states.flatMap (·.moves) := sameMoves
  rw [Session.run_append, moves]
  exact continues.mirrors

/-- When its batch is over, a completion is an answered call. -/
theorem exists_answered {results : List TaskResult} {occurrence : Occurrence} {cursor : Nat}
    (isTask : (states.map (·.task))[number]? = some (.completion occurrence cursor))
    (progress : states.map (·.progress) = results.map .ended) :
    ∃ id answer state, results[number]? = some (.answer answer) ∧ states[number]? = some state ∧
      state.task = .completion occurrence cursor ∧
      state.call? = some (Call.started id occurrence cursor, some answer) := by
  rw [List.getElem?_map] at isTask
  obtain ⟨state, found, task⟩ := Option.map_eq_some_iff.mp isTask
  have place := congrArg (·[number]?) progress
  simp only [List.getElem?_map, found, Option.map_some] at place
  obtain ⟨result, isResult, ended⟩ := Option.map_eq_some_iff.mp place.symm
  have looks := state.looks
  rw [task, ← ended] at looks
  generalize isCall : state.call? = call? at looks
  cases looks with
  | answered id _ _ answer => exact ⟨id, answer, state, isResult, found, task, isCall⟩

/-- An answer comes from an outcome that the handle may give. -/
theorem exists_outcome_of_answer (idle : s.handle.line = []) {tasks : List Task}
    {occurrence : Occurrence} {cursor : Nat}
    (isTask : tasks[number]? = some (.completion occurrence cursor)) :
    ∃ given, (s.runAll tasks).value.2[number]? = some (.answer given) ∧
      (given ≠ .superseded → ∃ id outcome, s.handle.MayGive outcome ∧
        given = answer s.settings (Call.started id occurrence cursor)
          (result (Call.started id occurrence cursor) outcome)) := by
  obtain ⟨states, late, rfl, progress, finishes, mirrors, -⟩ :=
    exists_session_runAll ⟨s, []⟩ rfl rfl idle tasks
  obtain ⟨id, given, state, isResult, found, -, isCall⟩ := exists_answered isTask progress
  have isGiven : ∀ number outcome, .finish number outcome ∈ states.flatMap (·.moves) ++ late →
      s.handle.MayGive outcome := by
    intro number outcome member
    rcases List.mem_append.mp member with own | finishing
    · obtain ⟨state, -, made⟩ := List.mem_flatMap.mp own
      exact state.makes.isGiven made
    · obtain ⟨_, _, isGiven, same⟩ := finishes _ finishing
      obtain ⟨-, rfl⟩ := Move.finish.inj same
      exact isGiven
  have none : ∀ entry ∈ ([] : List (Call × Option Answer)),
      Session.Explained s.handle.MayGive s.settings entry := by
    intro entry member
    exact absurd member List.not_mem_nil
  have explained : ∀ entry ∈ (Session.run ⟨s, []⟩ (states.flatMap (·.moves) ++ late)).calls,
      Session.Explained s.handle.MayGive s.settings entry := Session.explained_run isGiven none
  rw [mirrors.calls] at explained
  have member : (Call.started id occurrence cursor, some given) ∈ states.filterMap (·.call?) :=
    List.mem_filterMap.mpr ⟨state, List.mem_of_getElem? found, isCall⟩
  refine ⟨given, isResult, fun answered => ?_⟩
  obtain ⟨outcome, mayGive, same⟩ := explained _ (List.mem_append_right _ member) given rfl answered
  exact ⟨id, outcome, mayGive, same⟩

theorem starts_flatMap (states : List (TaskState given)) :
    starts (states.flatMap (·.moves)) = (states.filterMap (·.call?)).length := by
  induction states with
  | nil => rfl
  | cons state rest ih =>
    have count := state.makes.starts_eq state.looks
    rw [starts] at count ih ⊢
    rw [List.flatMap_cons, List.countP_append, count, ih]
    cases call : state.call? <;> simp [call, Nat.add_comm]

/-- A completion is superseded only by a later task that is about its document. -/
theorem exists_concerns (valid : before.Invariant) (tracker : before.service.tracker = s.tracker)
    (settings : before.service.settings = s.settings) (idle : s.handle.line = [])
    {tasks : List Task} {occurrence : Occurrence} {cursor : Nat}
    (isTask : tasks[number]? = some (.completion occurrence cursor))
    (superseded : (s.runAll tasks).value.2[number]? = some (.answer .superseded)) :
    ∃ task ∈ tasks.drop (number + 1), task.Concerns occurrence.document := by
  obtain ⟨states, late, rfl, progress, finishes, mirrors, -⟩ :=
    exists_session_runAll before tracker settings idle tasks
  obtain ⟨id, given, state, isResult, found, task, isCall⟩ := exists_answered isTask progress
  obtain rfl : given = .superseded := by simpa [isResult] using superseded
  obtain ⟨rest, moves, undisturbing⟩ := (task ▸ state.makes).exists_start
  obtain ⟨first, last, rfl, rfl⟩ : ∃ first last, states = first ++ state :: last ∧
      first.length = number := by
    obtain ⟨bound, rfl⟩ := List.getElem?_eq_some_iff.mp found
    exact ⟨states.take number, states.drop (number + 1), by simp, by simp [Nat.le_of_lt bound]⟩
  -- The session splits where the call starts.
  have validFirst := valid.run (first.flatMap (·.moves))
  have size := before.length_run (first.flatMap (·.moves))
  have ended : (before.run ((first ++ state :: last).flatMap (·.moves) ++ late)).calls[
      (before.run (first.flatMap (·.moves))).calls.length]? =
        some (Call.started id occurrence cursor, some .superseded) := by
    rw [mirrors.calls, size, starts_flatMap, List.getElem?_append_right (Nat.le_add_right _ _),
      Nat.add_sub_cancel_left, List.filterMap_append, List.getElem?_append_right (Nat.le_refl _),
      Nat.sub_self, List.filterMap_cons_some isCall]
    rfl
  have whole : (first ++ state :: last).flatMap (·.moves) ++ late = first.flatMap (·.moves) ++
      .start occurrence cursor :: (rest ++ (last.flatMap (·.moves) ++ late)) := by
    simp [moves]
  rw [whole, Session.run_append, Session.run_cons] at ended
  obtain ⟨pending, newest⟩ := validFirst.started occurrence cursor
  obtain ⟨move, member, disturbs⟩ :=
    (validFirst.start occurrence cursor).exists_disturbs pending newest ended
  have drop : (List.map (·.task) (first ++ state :: last)).drop (first.length + 1) =
      last.map (·.task) := by
    rw [List.append_cons, List.map_append]
    exact List.drop_left' (by simp)
  rw [drop]
  rcases List.mem_append.mp member with own | later
  · exact absurd disturbs (undisturbing move own _)
  · rcases List.mem_append.mp later with other | finishing
    · obtain ⟨state, isLater, made⟩ := List.mem_flatMap.mp other
      exact ⟨state.task, List.mem_map_of_mem isLater, state.makes.concerns made disturbs⟩
    · obtain ⟨_, _, -, rfl⟩ := finishes move finishing
      exact disturbs.elim

/-! ### Batch after batch -/

/-- The results of a batch. Each task has one. A completion is superseded only by a later task about its
document; else it gets the answer it gets alone. -/
structure AnsweredAlone (catalog : Catalog) (settings : Settings) (tasks : List Task)
    (results : List TaskResult) : Prop where
  all : results.length = tasks.length
  completion : ∀ (number : Nat) (occurrence : Occurrence) (cursor : Nat),
    tasks[number]? = some (.completion occurrence cursor) →
    ∃ answer, results[number]? = some (.answer answer) ∧
      (answer = .superseded →
        ∃ task ∈ tasks.drop (number + 1), task.Concerns occurrence.document) ∧
      (answer ≠ .superseded → answer = lone catalog settings occurrence cursor)

/-- Between batches: the tracker is that of a session, nobody is in line, and nothing but the catalog
can be given. -/
structure Rests (catalog : Catalog) (s : Service) : Prop where
  session : ∃ before : Session, before.Invariant ∧ before.service.tracker = s.tracker ∧
    before.service.settings = s.settings
  idle : s.handle.line = []
  gives : ∀ outcome, s.handle.MayGive outcome → outcome = .ok catalog

theorem rests_new {handle : Handle} {catalog : Catalog} (idle : handle.line = [])
    (gives : ∀ outcome, handle.MayGive outcome → outcome = .ok catalog) (settings : Settings) :
    (new handle settings).Rests catalog :=
  ⟨⟨_, Session.invariant_new handle settings, rfl, rfl⟩, idle, gives⟩

theorem Rests.answeredAlone {catalog : Catalog} (rests : s.Rests catalog) (tasks : List Task) :
    AnsweredAlone catalog s.settings tasks (s.runAll tasks).value.2 := by
  obtain ⟨before, valid, tracker, settings⟩ := rests.session
  refine ⟨?_, ?_⟩
  · obtain ⟨states, late, rfl, progress, -⟩ :=
      exists_session_runAll before tracker settings rests.idle tasks
    have length := congrArg List.length progress
    simpa using length.symm
  · intro number occurrence cursor isTask
    obtain ⟨answer, isResult, answered⟩ := exists_outcome_of_answer rests.idle isTask
    refine ⟨answer, isResult, ?_, ?_⟩
    · rintro rfl
      exact exists_concerns valid tracker settings rests.idle isTask isResult
    · intro notSuperseded
      obtain ⟨id, outcome, given, same⟩ := answered notSuperseded
      rw [rests.gives outcome given] at same
      exact same.trans (lone_eq catalog s.settings id occurrence occurrence.document cursor).symm

theorem Rests.runAll {catalog : Catalog} (rests : s.Rests catalog) (tasks : List Task) :
    (s.runAll tasks).value.1.settings = s.settings ∧ (s.runAll tasks).value.1.Rests catalog := by
  obtain ⟨before, valid, tracker, settings⟩ := rests.session
  obtain ⟨states, late, -, -, -, mirrors, idle, gives⟩ :=
    exists_session_runAll before tracker settings rests.idle tasks
  have same := mirrors.settings
  rw [Session.settings_run, settings] at same
  exact ⟨same.symm, ⟨_, valid.run _, mirrors.tracker, mirrors.settings⟩, idle,
    fun outcome isGiven => rests.gives outcome (gives outcome isGiven)⟩

def runBatches (s : Service) : List (List Task) → List (List TaskResult)
  | [] => []
  | tasks :: rest => (s.runAll tasks).value.2 :: (s.runAll tasks).value.1.runBatches rest

/-- Batches of tasks, one after the other, at a new service whose handle serves nobody else and gives
one catalog, be it there from the start or the result of every load. -/
theorem batches_are_answered_alone {handle : Handle} {catalog : Catalog} (idle : handle.line = [])
    (gives : ∀ outcome, handle.MayGive outcome → outcome = .ok catalog) (settings : Settings)
    (batches : List (List Task)) :
    List.Forall₂ (AnsweredAlone catalog settings) batches
      ((new handle settings).runBatches batches) := by
  have rests := rests_new idle gives settings
  have same : (new handle settings).settings = settings := rfl
  generalize new handle settings = s at rests same
  induction batches generalizing s with
  | nil => exact .nil
  | cons tasks rest ih =>
    obtain ⟨unchanged, next⟩ := rests.runAll tasks
    exact .cons (same ▸ rests.answeredAlone tasks) (ih _ next (unchanged.trans same))

end Service

end EndpointUri
