import EndpointUri.Proofs.Interleaving

/-!
Services that share one handle, each seen by itself. What happens at one of them is a session, so what
holds of every session holds of it. An answer in a session comes from an outcome that was given to the
call, and a call is superseded by a move.
-/
namespace EndpointUri

/-! ### What is kept of a list -/

section Kept

variable {α β : Type} {f : α → Option β} {xs : List α} {n : Nat} {x : α}

/-- A kept item has a place among the kept, and a change at the one place is a change at the other. -/
theorem exists_place_filterMap {b : β} (found : xs[n]? = some x) (kept : f x = some b) :
    ∃ k, (xs.filterMap f)[k]? = some b ∧
      ∀ y c, f y = some c → (xs.set n y).filterMap f = (xs.filterMap f).set k c := by
  induction xs generalizing n with
  | nil => simp at found
  | cons first rest ih =>
    cases n with
    | zero =>
      obtain rfl : first = x := by simpa using found
      refine ⟨0, by simp [kept], ?_⟩
      intro y c changed
      simp [kept, changed]
    | succ n =>
      obtain ⟨k, place, set⟩ := ih (by simpa using found)
      cases skipped : f first with
      | none => exact ⟨k, by simpa [skipped] using place, by simpa [skipped] using set⟩
      | some b' => exact ⟨k + 1, by simpa [skipped] using place, by simpa [skipped] using set⟩

theorem filterMap_set_of_eq {y : α} (found : xs[n]? = some x) (same : f y = f x) :
    (xs.set n y).filterMap f = xs.filterMap f := by
  have kept := congrArg (List.filterMap id) (map_set_of_eq found same)
  simpa [List.filterMap_map] using kept

end Kept

/-! ### Finishing steps -/

theorem Service.finishing_service (s : Service) (call : Call) (outcome : Except CatalogError Catalog) :
    (s.finishing call outcome).value.1 =
      { s with tracker := s.tracker.finish call.occurrence.document call.id } := by
  rw [finishing_value, finish_value]

/-- A session with the tracker and the settings of a service finishes a call as the service does. -/
theorem Session.step_finish_as (session : Session) (s : Service)
    (tracker : session.service.tracker = s.tracker)
    (settings : session.service.settings = s.settings) {number : Nat} {call : Call}
    (pending : session.calls[number]? = some (call, none)) (outcome : Except CatalogError Catalog) :
    session.step (.finish number outcome) =
      ⟨{ session.service with tracker := (s.finishing call outcome).value.1.tracker },
        session.calls.set number (call, some (s.finishing call outcome).value.2)⟩ := by
  rw [step_finish_pending pending, newest, tracker, settings, Service.finishing_value,
    Service.finish_value]

/-! ### How calls of a session end -/

namespace Session

variable {session : Session} {given : Except CatalogError Catalog → Prop} {number : Nat}
  {call ended : Call} {moves : List Move}

/-- The call is answered only if it was superseded or was given an outcome. -/
def Explained (given : Except CatalogError Catalog → Prop) (settings : Settings)
    (entry : Call × Option Answer) : Prop :=
  ∀ answer ∈ entry.2, answer ≠ .superseded → ∃ outcome, given outcome ∧
    answer = Service.answer settings entry.1 (Service.result entry.1 outcome)

theorem explained_step {move : Move} (isGiven : ∀ number outcome, move = .finish number outcome →
      given outcome)
    (explained : ∀ entry ∈ session.calls, Explained given session.service.settings entry) :
    ∀ entry ∈ (session.step move).calls, Explained given session.service.settings entry := by
  intro entry member
  cases move with
  | start occurrence cursor =>
    rw [step_start] at member
    rcases List.mem_append.mp member with old | new
    · exact explained entry old
    · obtain rfl := List.mem_singleton.mp new
      simp [Explained]
  | finish number outcome =>
    rcases session.pending_or_other number with ⟨call, pending⟩ | notPending
    · rw [step_finish_pending pending] at member
      rcases List.mem_or_eq_of_mem_set member with old | rfl
      · exact explained entry old
      · rintro answer isAnswer answered
        obtain rfl := Option.some.inj isAnswer
        split at answered
        next newest => exact ⟨outcome, isGiven number outcome rfl, if_pos newest⟩
        next => exact absurd rfl answered
    · rw [step_finish_other notPending] at member
      exact explained entry member
  | cancel document => exact explained entry member

theorem explained_run (isGiven : ∀ number outcome, .finish number outcome ∈ moves → given outcome)
    (explained : ∀ entry ∈ session.calls, Explained given session.service.settings entry) :
    ∀ entry ∈ (session.run moves).calls, Explained given session.service.settings entry := by
  induction moves generalizing session with
  | nil => exact explained
  | cons move rest ih =>
    have next : ∀ entry ∈ (session.step move).calls,
        Explained given session.service.settings entry := by
      refine explained_step ?_ explained
      rintro number outcome rfl
      exact isGiven number outcome List.mem_cons_self
    rw [run_cons, ← settings_step session move]
    apply ih
    · intro number outcome member
      exact isGiven number outcome (List.mem_cons_of_mem _ member)
    · rw [settings_step]
      exact next

/-- A call that was the newest of its document is superseded by some move. -/
theorem Invariant.exists_disturbs (valid : session.Invariant)
    (pending : session.calls[number]? = some (call, none))
    (newest : session.newest call.occurrence.document = some call.id)
    (superseded : (session.run moves).calls[number]? = some (ended, some .superseded)) :
    ∃ move ∈ moves, move.Disturbs call.occurrence.document := by
  induction moves generalizing session with
  | nil =>
    rw [run_nil, pending] at superseded
    simp at superseded
  | cons move rest ih =>
    by_cases own : ∃ outcome, move = .finish number outcome
    · obtain ⟨outcome, rfl⟩ := own
      obtain ⟨bound, -⟩ := List.getElem?_eq_some_iff.mp pending
      have answered := List.getElem?_set_self (a := (call, some (Service.answer
        session.service.settings call (Service.result call outcome)))) bound
      have step := step_finish_pending pending outcome
      rw [if_pos newest] at step
      have final := getElem?_run_answered ((congrArg (·.calls[number]?) step).trans answered) rest
      rw [run_cons, final, Option.some.injEq, Prod.mk.injEq, Option.some.injEq] at superseded
      exact absurd superseded.2 (Service.answer_ne_superseded _ _ _)
    · have other : ∀ outcome, move ≠ .finish number outcome := fun outcome same =>
        own ⟨outcome, same⟩
      by_cases disturbs : move.Disturbs call.occurrence.document
      · exact ⟨move, List.mem_cons_self, disturbs⟩
      · obtain ⟨later, member, disturbsLater⟩ := ih (valid.step move)
          (getElem?_step_pending pending other)
          ((valid.newest_step pending other).mpr ⟨newest, disturbs⟩) superseded
        exact ⟨later, List.mem_cons_of_mem _ member, disturbsLater⟩

end Session

/-! ### Services on one handle -/

/-- The call and its answer, if it is a call of this client. -/
def Attempt.of? {ι : Type} [DecidableEq ι] (client : ι) (attempt : Attempt ι) :
    Option (Call × Option Answer) :=
  if attempt.client = client then some (attempt.call, attempt.answer) else none

namespace SharedServices

variable {ι : Type} {settings : ι → Settings} {s t : SharedServices ι} {move : SharedMove ι}
  {client : ι} {session : Session}

/-- Whatever a call has waited for, it ends with the finishing step of a session. -/
theorem exists_outcome {attempt : Attempt ι} {ending : Logged (Service × Answer)}
    (ends : s.ending? settings attempt = some ending) :
    ∃ outcome, ending = (s.service settings attempt.client).finishing attempt.call outcome := by
  unfold ending? at ends
  unfold Service.finishing
  cases items : attempt.call.request.items? with
  | some candidates =>
    rw [items] at ends
    exact ⟨.error (.unavailable ""), (Option.some.inj ends).symm⟩
  | none =>
    rw [items] at ends
    obtain ⟨outcome, -, same⟩ := Option.map_eq_some_iff.mp ends
    exact ⟨outcome, same.symm⟩

variable [DecidableEq ι]

/-- The session has the tracker, the settings and the calls of one of the services. -/
structure Mirrors (settings : ι → Settings) (s : SharedServices ι) (client : ι) (session : Session) :
    Prop where
  tracker : session.service.tracker = s.tracker client
  settings : session.service.settings = settings client
  calls : session.calls = s.calls.filterMap (Attempt.of? client)

/-- A move of some service is no move or one move of the session. -/
theorem Effect.exists_moves (effect : Effect settings s move t)
    (mirrors : s.Mirrors settings client session) :
    ∃ moves, t.Mirrors settings client (session.run moves) := by
  cases effect with
  | started other occurrence cursor =>
    by_cases same : other = client
    · subst same
      refine ⟨[.start occurrence cursor], ?_, mirrors.settings, ?_⟩
      · simp [Session.step_start, mirrors.tracker]
      · simp [Session.step_start, mirrors.calls, mirrors.tracker, Attempt.of?]
    · refine ⟨[], ?_, mirrors.settings, ?_⟩
      · simp [mirrors.tracker, Function.update_of_ne (Ne.symm same)]
      · simp [mirrors.calls, Attempt.of?, same]
  | asked found =>
    refine ⟨[], mirrors.tracker, mirrors.settings,
      mirrors.calls.trans (filterMap_set_of_eq found ?_).symm⟩
    rfl
  | wentOn => exact ⟨[], mirrors.tracker, mirrors.settings, mirrors.calls⟩
  | @finished number attempt ending found pending ends =>
    obtain ⟨outcome, rfl⟩ := exists_outcome ends
    by_cases same : attempt.client = client
    · subst same
      obtain ⟨k, place, set⟩ := exists_place_filterMap (f := Attempt.of? attempt.client) found
        (if_pos rfl)
      rw [← mirrors.calls, pending] at place
      have ended := set { attempt with
        answer := some ((s.service settings attempt.client).finishing attempt.call outcome).value.2 }
        _ (if_pos rfl)
      refine ⟨[.finish k outcome], ?_⟩
      rw [Session.run_cons, Session.run_nil, session.step_finish_as
        (s.service settings attempt.client) mirrors.tracker mirrors.settings place]
      refine ⟨by simp, mirrors.settings, Eq.trans ?_ ended.symm⟩
      rw [mirrors.calls]
    · have other : Attempt.of? client attempt = none := if_neg same
      refine ⟨[], ?_, mirrors.settings,
        mirrors.calls.trans (filterMap_set_of_eq found ?_).symm⟩
      · simp [mirrors.tracker, Function.update_of_ne (Ne.symm same)]
      · exact (if_neg same).trans other.symm
  | cancelled other document =>
    by_cases same : other = client
    · subst same
      exact ⟨[.cancel document], by simp [Session.step, mirrors.tracker], mirrors.settings,
        mirrors.calls⟩
    · exact ⟨[], by simp [mirrors.tracker, Function.update_of_ne (Ne.symm same)], mirrors.settings,
        mirrors.calls⟩
  | nothing => exact ⟨[], mirrors⟩

theorem Mirrors.exists_run (mirrors : s.Mirrors settings client session)
    (moves : List (SharedMove ι)) :
    ∃ own, (s.run settings moves).Mirrors settings client (session.run own) := by
  induction moves generalizing s session with
  | nil => exact ⟨[], mirrors⟩
  | cons move rest ih =>
    obtain ⟨first, next⟩ := (step_effect settings s move).exists_moves mirrors
    obtain ⟨later, last⟩ := ih next
    refine ⟨first ++ later, ?_⟩
    rw [Session.run_append]
    exact last

/-- However services on one handle interleave, each of them goes through a session. -/
theorem exists_session (settings : ι → Settings) (source : Nat → Load)
    (moves : List (SharedMove ι)) (client : ι) (handle : Handle) :
    ∃ own, ((ofSource source).run settings moves).Mirrors settings client
      ((Session.new handle (settings client)).run own) := by
  have begins : (ofSource source).Mirrors settings client (Session.new handle (settings client)) :=
    ⟨rfl, rfl, rfl⟩
  exact begins.exists_run moves

end SharedServices

end EndpointUri
