import EndpointUri.Proofs.SharedLoad
import EndpointUri.Proofs.Supersession
import Mathlib.Logic.Function.Basic

/-!
Services that share one handle. Their calls start, ask the handle, wait for its load and finish in
any order, with cancellations in between. When every load gives the same catalog, a call that is
answered gets the answer it gets with nothing around it.
-/
namespace EndpointUri

/-! ### A call alone -/

namespace Service

/-- The answer to a call on a new service that has its catalog, with nothing around the call. -/
def lone (catalog : Catalog) (settings : Settings) (occurrence : Occurrence) (cursor : Nat) :
    Answer :=
  ((new (Handle.ready catalog) settings).completion occurrence cursor).value.2

/-- Neither the number of a call nor the address of its document shows in the answer. -/
theorem answer_started_congr (settings : Settings) (id other : RequestId) (occurrence : Occurrence)
    (document : String) (cursor : Nat) (outcome : Except CatalogError Catalog) :
    let call := Call.started id occurrence cursor
    let call' := Call.started other { occurrence with document } cursor
    answer settings call (result call outcome) = answer settings call' (result call' outcome) := by
  intro call call'
  rw [result_started, result_started]
  rfl

theorem lone_eq (catalog : Catalog) (settings : Settings) (id : RequestId) (occurrence : Occurrence)
    (document : String) (cursor : Nat) :
    let call := Call.started id occurrence cursor
    lone catalog settings { occurrence with document } cursor =
      answer settings call (result call (.ok catalog)) := by
  intro call
  have alone := (completion_eq_complete (new (Handle.ready catalog) settings)
    { occurrence with document } cursor).2
  refine alone.trans ?_
  rw [answer_started_congr settings id 1 occurrence document cursor (.ok catalog)]
  exact congrArg (answer settings _)
    (complete_eq_result (Handle.ready catalog) 1 { occurrence with document } cursor)

end Service

/-! ### A source that always succeeds -/

namespace SharedHandle

variable {source : Nat → Load} {catalog : Catalog} {s : SharedHandle}

theorem Valid.results_ok (valid : s.Valid source)
    (always : ∀ number, (source number).value = .ok catalog)
    {entry : CallId × Except CatalogError Catalog} (member : entry ∈ s.results) :
    entry.2 = .ok catalog := by
  obtain ⟨id, outcome⟩ := entry
  cases outcome with
  | ok found =>
    have loaded := valid.loaded_of_ok member
    obtain ⟨number, -, first, -⟩ := valid.firstSuccess loaded
    rw [always] at first
    exact first.symm
  | error fault =>
    obtain ⟨number, place⟩ := List.mem_iff_getElem?.mp (valid.error_mem_ended member)
    have failed := valid.outcome place
    rw [always] at failed
    contradiction

theorem calls_step_call (s : SharedHandle) : (s.step .call).calls = s.calls + 1 := rfl

theorem calls_step_resume (s : SharedHandle) (id : CallId) :
    (s.step (.resume id)).calls = s.calls := by
  have effect := step_effect s (.resume id)
  generalize s.step (.resume id) = t at effect
  cases effect <;> rfl

/-- With no load in flight and nobody in line, every call has its result. -/
theorem Valid.served_of_idle (valid : s.Valid source) (free : s.handle.loading = none)
    (empty : s.handle.waiting = []) {id : CallId} (asked : id < s.calls) :
    ∃ entry ∈ s.results, entry.1 = id := by
  have accounted := valid.accounted
  simp only [free, empty, Option.toList_none, List.append_nil] at accounted
  exact List.mem_map.mp (accounted.symm.subset (List.mem_range.mpr asked))

theorem step_resume_loading (always : ∀ number, (s.handle.source number).value = .ok catalog)
    {id : CallId} (loading : s.handle.loading = some id) :
    let t := s.step (.resume id)
    t.handle.loading = none ∧ t.handle.waiting = [] ∧ t.calls = s.calls := by
  intro t
  have settled := Handle.settle_ok loading (always _)
  simp [t, step, loading, settled]

theorem step_resume_next {id : CallId} {rest : List CallId} (free : s.handle.loading = none)
    (line : s.handle.waiting = id :: rest) :
    let t := s.step (.resume id)
    t.handle.loading = some id ∧ t.handle.source = s.handle.source ∧ t.calls = s.calls := by
  intro t
  have promoted := Handle.promote_next free line
  simp [t, step, free, line, promoted]

/-- The calls that have asked can all be served by going on with those that ask. -/
theorem Valid.exists_idle (valid : s.Valid source)
    (always : ∀ number, (source number).value = .ok catalog) :
    ∃ ids : List CallId,
      let t := s.run (ids.map .resume)
      t.handle.loading = none ∧ t.handle.waiting = [] ∧ t.calls = s.calls := by
  obtain rfl := valid.source_eq
  cases loading : s.handle.loading with
  | some id => exact ⟨[id], step_resume_loading always loading⟩
  | none =>
    cases line : s.handle.waiting with
    | nil => exact ⟨[], loading, line, rfl⟩
    | cons id rest =>
      -- The first in line begins a load of its own, which then serves everybody.
      obtain ⟨began, source, calls⟩ := step_resume_next loading line
      rw [← source] at always
      obtain ⟨free, empty, same⟩ := step_resume_loading always began
      exact ⟨[id, id], free, empty, same.trans calls⟩

end SharedHandle

/-! ### Services on one handle -/

theorem map_set_of_eq {α β : Type} {f : α → β} {xs : List α} {n : Nat} {x y : α}
    (found : xs[n]? = some x) (same : f y = f x) : (xs.set n y).map f = xs.map f := by
  obtain ⟨bound, rfl⟩ := List.getElem?_eq_some_iff.mp found
  rw [List.map_set, same, ← List.map_set, List.set_getElem_self]

structure Attempt (ι : Type) where
  client : ι
  cursor : Nat
  call : Call
  ticket : Option CallId
  answer : Option Answer

/-- What may happen. Calls and the numbers on the handle both count from zero. -/
inductive SharedMove (ι : Type) where
  | start (client : ι) (occurrence : Occurrence) (cursor : Nat)
  | ask (number : Nat)
  | goOn (id : CallId)
  | finish (number : Nat)
  | cancel (client : ι) (document : String)

def Attempt.asked {ι : Type} (attempt : Attempt ι) : ι × Occurrence × Nat :=
  (attempt.client, attempt.call.occurrence, attempt.cursor)

def SharedMove.asked? {ι : Type} : SharedMove ι → Option (ι × Occurrence × Nat)
  | .start client occurrence cursor => some (client, occurrence, cursor)
  | _ => none

/-- The services have a tracker each, and one handle for all. -/
structure SharedServices (ι : Type) where
  shared : SharedHandle
  tracker : ι → Tracker
  calls : List (Attempt ι)

namespace SharedServices

variable {ι : Type}

def ofSource (source : Nat → Load) : SharedServices ι :=
  ⟨SharedHandle.ofSource source, fun _ => Tracker.empty, []⟩

def service (settings : ι → Settings) (s : SharedServices ι) (client : ι) : Service :=
  ⟨s.shared.handle, settings client, s.tracker client⟩

def newest (s : SharedServices ι) (client : ι) (document : String) : Option RequestId :=
  (s.tracker client).newest[document]?

/-- The finishing step of a call. There is none before the handle has served it, unless its cursor
was out of range. -/
def ending? (settings : ι → Settings) (s : SharedServices ι) (attempt : Attempt ι) :
    Option (Logged (Service × Answer)) :=
  let service := s.service settings attempt.client
  match attempt.call.request.items? with
  | some items => some (service.finish attempt.call (.ok items))
  | none => (attempt.ticket.bind fun id => s.shared.results.lookup id).map
      (service.conclude attempt.call)

section Moves

variable [DecidableEq ι] (settings : ι → Settings)

def step (s : SharedServices ι) : SharedMove ι → SharedServices ι
  | .start client occurrence cursor =>
    let (service, call) := ((s.service settings client).start occurrence cursor).value
    { s with
      tracker := Function.update s.tracker client service.tracker
      calls := s.calls ++ [⟨client, cursor, call, none, none⟩] }
  | .ask number =>
    match s.calls[number]? with
    | some attempt =>
      if attempt.call.request.items? = none ∧ attempt.ticket = none then
        { s with
          shared := s.shared.step .call
          calls := s.calls.set number { attempt with ticket := some s.shared.calls } }
      else s
    | none => s
  | .goOn id => { s with shared := s.shared.step (.resume id) }
  | .finish number =>
    match s.calls[number]? with
    | some attempt =>
      match attempt.answer, s.ending? settings attempt with
      | none, some ending =>
        { s with
          tracker := Function.update s.tracker attempt.client ending.value.1.tracker
          calls := s.calls.set number { attempt with answer := some ending.value.2 } }
      | _, _ => s
    | none => s
  | .cancel client document =>
    { s with tracker := Function.update s.tracker client ((s.tracker client).cancel document) }

def run (s : SharedServices ι) (moves : List (SharedMove ι)) : SharedServices ι :=
  moves.foldl (step settings) s

/-! ### One move -/

/-- All that one move can do. -/
inductive Effect (s : SharedServices ι) : SharedMove ι → SharedServices ι → Prop
  | started (client : ι) (occurrence : Occurrence) (cursor : Nat) :
    Effect s (.start client occurrence cursor)
      { s with
        tracker := Function.update s.tracker client ((s.tracker client).start occurrence.document).1
        calls := s.calls ++ [⟨client, cursor,
          Call.started ((s.tracker client).issued + 1) occurrence cursor, none, none⟩] }
  | asked {number : Nat} {attempt : Attempt ι} (found : s.calls[number]? = some attempt)
      (waits : attempt.call.request.items? = none) (unasked : attempt.ticket = none) :
    Effect s (.ask number)
      { s with
        shared := s.shared.step .call
        calls := s.calls.set number { attempt with ticket := some s.shared.calls } }
  | wentOn (id : CallId) : Effect s (.goOn id) { s with shared := s.shared.step (.resume id) }
  | finished {number : Nat} {attempt : Attempt ι} {ending : Logged (Service × Answer)}
      (found : s.calls[number]? = some attempt) (pending : attempt.answer = none)
      (ends : s.ending? settings attempt = some ending) :
    Effect s (.finish number)
      { s with
        tracker := Function.update s.tracker attempt.client ending.value.1.tracker
        calls := s.calls.set number { attempt with answer := some ending.value.2 } }
  | cancelled (client : ι) (document : String) :
    Effect s (.cancel client document)
      { s with tracker := Function.update s.tracker client ((s.tracker client).cancel document) }
  | nothing {move : SharedMove ι} (silent : move.asked? = none) : Effect s move s

variable {settings} {s t : SharedServices ι} {move : SharedMove ι} {number : Nat}
  {attempt : Attempt ι}

variable (settings) in
theorem step_ask (found : s.calls[number]? = some attempt)
    (waits : attempt.call.request.items? = none) (unasked : attempt.ticket = none) :
    s.step settings (.ask number) =
      { s with
        shared := s.shared.step .call
        calls := s.calls.set number { attempt with ticket := some s.shared.calls } } := by
  simp [step, found, waits, unasked]

theorem step_ask_nothing (found : s.calls[number]? = some attempt)
    (served : ¬ (attempt.call.request.items? = none ∧ attempt.ticket = none)) :
    s.step settings (.ask number) = s := by
  simp only [step, found]
  rw [if_neg served]

theorem step_finish (found : s.calls[number]? = some attempt) (pending : attempt.answer = none)
    {ending : Logged (Service × Answer)} (ends : s.ending? settings attempt = some ending) :
    s.step settings (.finish number) =
      { s with
        tracker := Function.update s.tracker attempt.client ending.value.1.tracker
        calls := s.calls.set number { attempt with answer := some ending.value.2 } } := by
  simp [step, found, pending, ends]

variable (settings) in
theorem step_effect (s : SharedServices ι) (move : SharedMove ι) :
    Effect settings s move (s.step settings move) := by
  cases move with
  | start client occurrence cursor =>
    rw [step, Service.start_value]
    exact .started client occurrence cursor
  | ask number =>
    cases found : s.calls[number]? with
    | none => simpa [step, found] using Effect.nothing rfl
    | some attempt =>
      by_cases waits : attempt.call.request.items? = none ∧ attempt.ticket = none
      · rw [step_ask settings found waits.1 waits.2]
        exact .asked found waits.1 waits.2
      · rw [step_ask_nothing found waits]
        exact .nothing rfl
  | goOn id => exact .wentOn id
  | finish number =>
    cases found : s.calls[number]? with
    | none => simpa [step, found] using Effect.nothing rfl
    | some attempt =>
      cases pending : attempt.answer with
      | some answer => simpa [step, found, pending] using Effect.nothing rfl
      | none =>
        cases ends : s.ending? settings attempt with
        | none => simpa [step, found, pending, ends] using Effect.nothing rfl
        | some ending =>
          rw [step_finish found pending ends]
          exact .finished found pending ends
  | cancel client document => exact .cancelled client document

theorem Effect.asked_eq (effect : Effect settings s move t) :
    t.calls.map Attempt.asked = s.calls.map Attempt.asked ++ move.asked?.toList := by
  cases effect with
  | started => simp [Attempt.asked, SharedMove.asked?]
  | asked found =>
    refine (map_set_of_eq found ?_).trans (List.append_nil _).symm
    rfl
  | wentOn => exact (List.append_nil _).symm
  | finished found =>
    refine (map_set_of_eq found ?_).trans (List.append_nil _).symm
    rfl
  | cancelled => exact (List.append_nil _).symm
  | nothing silent => rw [silent, Option.toList_none, List.append_nil]

theorem asked_run (s : SharedServices ι) (moves : List (SharedMove ι)) :
    (s.run settings moves).calls.map Attempt.asked =
      s.calls.map Attempt.asked ++ moves.filterMap SharedMove.asked? := by
  induction moves generalizing s with
  | nil => exact (List.append_nil _).symm
  | cons move rest ih =>
    have first := (step_effect settings s move).asked_eq
    have later := ih (s.step settings move)
    rw [first, List.append_assoc] at later
    refine later.trans ?_
    cases asked : move.asked? <;> simp [asked]

end Moves

/-! ### What holds of every call -/

/-- A call is as it started, has asked the handle if it has a ticket, and if it is answered, then as
it would be alone. -/
structure Sound (settings : ι → Settings) (catalog : Catalog) (asked : Nat) (attempt : Attempt ι) :
    Prop where
  started : attempt.call = Call.started attempt.call.id attempt.call.occurrence attempt.cursor
  ticket : ∀ id ∈ attempt.ticket, id < asked
  answer : ∀ answer ∈ attempt.answer, answer ≠ .superseded → ∀ document,
    answer = Service.lone catalog (settings attempt.client)
      { attempt.call.occurrence with document } attempt.cursor

structure Invariant (settings : ι → Settings) (source : Nat → Load) (catalog : Catalog)
    (s : SharedServices ι) : Prop where
  shared : s.shared.Valid source
  sound : ∀ attempt ∈ s.calls, Sound settings catalog s.shared.calls attempt

variable {settings : ι → Settings} {source : Nat → Load} {catalog : Catalog}
  {s : SharedServices ι} {number : Nat} {attempt : Attempt ι}

theorem Sound.mono {asked more : Nat} (sound : Sound settings catalog asked attempt)
    (le : asked ≤ more) : Sound settings catalog more attempt :=
  ⟨sound.started, fun id member => Nat.lt_of_lt_of_le (sound.ticket id member) le, sound.answer⟩

theorem invariant_ofSource (settings : ι → Settings) (source : Nat → Load) :
    (ofSource source).Invariant settings source catalog := by
  refine ⟨SharedHandle.valid_ofSource source, ?_⟩
  intro attempt member
  simp [ofSource] at member

/-- Whatever a call waited for, it finishes with the catalog. -/
theorem Invariant.ending_value (valid : s.Invariant settings source catalog)
    (always : ∀ number, (source number).value = .ok catalog)
    {ending : Logged (Service × Answer)} (ends : s.ending? settings attempt = some ending) :
    ending.value = ((s.service settings attempt.client).finish attempt.call
      (Service.result attempt.call (.ok catalog))).value := by
  unfold ending? at ends
  cases items : attempt.call.request.items? with
  | some candidates =>
    rw [items] at ends
    obtain rfl := Option.some.inj ends
    rw [Service.result, items]
  | none =>
    rw [items] at ends
    obtain ⟨outcome, known, rfl⟩ := Option.map_eq_some_iff.mp ends
    obtain ⟨id, -, found⟩ := Option.bind_eq_some_iff.mp known
    obtain ⟨before, after, results, -⟩ := List.lookup_eq_some_iff.mp found
    have member : (id, outcome) ∈ s.shared.results := by simp [results]
    obtain rfl := valid.shared.results_ok always member
    rw [Service.result, items]
    rfl

theorem Invariant.ending_answer (valid : s.Invariant settings source catalog)
    (always : ∀ number, (source number).value = .ok catalog) (member : attempt ∈ s.calls)
    {ending : Logged (Service × Answer)} (ends : s.ending? settings attempt = some ending)
    (document : String) :
    ending.value.2 =
      if s.newest attempt.client attempt.call.occurrence.document = some attempt.call.id then
        Service.lone catalog (settings attempt.client) { attempt.call.occurrence with document }
          attempt.cursor
      else .superseded := by
  rw [valid.ending_value always ends, Service.finish_value, Service.lone_eq catalog _
    attempt.call.id, ← (valid.sound attempt member).started]
  rfl

/-- Once it has asked, a call can finish when the calls on the handle go on. -/
theorem Invariant.exists_ending (valid : s.Invariant settings source catalog)
    (always : ∀ number, (source number).value = .ok catalog) (member : attempt ∈ s.calls)
    (asked : attempt.call.request.items? = none → attempt.ticket ≠ none) :
    ∃ ids : List CallId,
      (ending? settings { s with shared := s.shared.run (ids.map .resume) } attempt).isSome := by
  unfold ending?
  cases items : attempt.call.request.items? with
  | some candidates => exact ⟨[], rfl⟩
  | none =>
    obtain ⟨id, ticket⟩ := Option.ne_none_iff_exists'.mp (asked items)
    obtain ⟨ids, free, empty, calls⟩ := valid.shared.exists_idle always
    have early : id < s.shared.calls := (valid.sound attempt member).ticket id ticket
    obtain ⟨entry, served, same⟩ :=
      (valid.shared.run (ids.map .resume)).served_of_idle free empty (calls.symm ▸ early)
    have known : ((s.shared.run (ids.map .resume)).results.lookup id).isSome = true :=
      List.lookup_isSome_iff.mpr ⟨entry, served, by simp [same]⟩
    exact ⟨ids, by simpa [ticket] using known⟩

/-! ### Every run -/

section Runs

variable [DecidableEq ι] {t : SharedServices ι} {move : SharedMove ι}

theorem Effect.invariant (effect : Effect settings s move t)
    (valid : s.Invariant settings source catalog)
    (always : ∀ number, (source number).value = .ok catalog) :
    t.Invariant settings source catalog := by
  cases effect with
  | started client occurrence cursor =>
    refine ⟨valid.shared, ?_⟩
    intro attempt member
    rcases List.mem_append.mp member with old | new
    · exact valid.sound attempt old
    · obtain rfl := List.mem_singleton.mp new
      exact ⟨rfl, by simp, by simp⟩
  | @asked number asking found waits unasked =>
    refine ⟨(SharedHandle.step_effect s.shared .call).valid valid.shared, ?_⟩
    intro attempt member
    rw [SharedHandle.calls_step_call]
    rcases List.mem_or_eq_of_mem_set member with old | rfl
    · exact (valid.sound attempt old).mono (Nat.le_succ _)
    · obtain ⟨started, -, answer⟩ := valid.sound asking (List.mem_of_getElem? found)
      refine ⟨started, ?_, answer⟩
      intro id ticket
      obtain rfl := Option.some.inj ticket
      exact Nat.lt_succ_self _
  | wentOn id =>
    refine ⟨(SharedHandle.step_effect s.shared (.resume id)).valid valid.shared, ?_⟩
    rw [SharedHandle.calls_step_resume]
    exact valid.sound
  | @finished number ended ending found pending ends =>
    refine ⟨valid.shared, ?_⟩
    intro attempt member
    rcases List.mem_or_eq_of_mem_set member with old | rfl
    · exact valid.sound attempt old
    · have known := List.mem_of_getElem? found
      obtain ⟨started, ticket, -⟩ := valid.sound ended known
      refine ⟨started, ticket, ?_⟩
      intro answer given answered document
      obtain rfl := Option.some.inj given
      have value := valid.ending_answer always known ends document
      split at value
      · exact value
      · exact absurd value answered
  | cancelled => exact ⟨valid.shared, valid.sound⟩
  | nothing => exact valid

theorem Invariant.run (valid : s.Invariant settings source catalog)
    (always : ∀ number, (source number).value = .ok catalog) (moves : List (SharedMove ι)) :
    (s.run settings moves).Invariant settings source catalog := by
  induction moves generalizing s with
  | nil => exact valid
  | cons move rest ih => exact ih ((step_effect settings s move).invariant valid always)

/-! ### Every call can finish -/

theorem run_append (s : SharedServices ι) (first second : List (SharedMove ι)) :
    s.run settings (first ++ second) = (s.run settings first).run settings second :=
  List.foldl_append

theorem run_goOn (s : SharedServices ι) (ids : List CallId) :
    s.run settings (ids.map .goOn) = { s with shared := s.shared.run (ids.map .resume) } := by
  induction ids generalizing s with
  | nil => rfl
  | cons id rest ih => exact ih _

variable (settings) in
/-- A call that needs the catalog has asked for it after one more move. -/
theorem exists_asked (found : s.calls[number]? = some attempt) :
    ∃ (asking : List (SharedMove ι)) (ticket : Option CallId),
      let t := s.run settings asking
      t.calls[number]? = some { attempt with ticket } ∧ t.tracker = s.tracker ∧
        (attempt.call.request.items? = none → ticket ≠ none) := by
  by_cases needs : attempt.call.request.items? = none ∧ attempt.ticket = none
  · obtain ⟨bound, -⟩ := List.getElem?_eq_some_iff.mp found
    have asked := step_ask settings found needs.1 needs.2
    refine ⟨[.ask number], some s.shared.calls, ?_, ?_, by simp⟩
    · exact (congrArg (·.calls[number]?) asked).trans (List.getElem?_set_self bound)
    · exact congrArg (·.tracker) asked
  · refine ⟨[], attempt.ticket, found, rfl, ?_⟩
    intro waits unasked
    exact needs ⟨waits, unasked⟩

theorem Invariant.exists_answer (valid : s.Invariant settings source catalog)
    (always : ∀ number, (source number).value = .ok catalog)
    (found : s.calls[number]? = some attempt) (pending : attempt.answer = none) :
    ∃ (later : List (SharedMove ι)) (ended : Attempt ι) (answer : Answer),
      (s.run settings later).calls[number]? = some ended ∧ ended.asked = attempt.asked ∧
      ended.answer = some answer ∧
      (s.newest attempt.client attempt.call.occurrence.document = some attempt.call.id →
        answer = Service.lone catalog (settings attempt.client) attempt.call.occurrence
          attempt.cursor) := by
  obtain ⟨asking, ticket, foundAsked, tracker, asked⟩ := exists_asked settings found
  have validAsked := valid.run always asking
  obtain ⟨ids, known⟩ :=
    validAsked.exists_ending always (List.mem_of_getElem? foundAsked) asked
  obtain ⟨ending, ends⟩ := Option.isSome_iff_exists.mp known
  have validServed := validAsked.run always (ids.map .goOn)
  rw [run_goOn] at validServed
  have value := validServed.ending_answer always (List.mem_of_getElem? foundAsked) ends
    attempt.call.occurrence.document
  refine ⟨asking ++ (ids.map .goOn ++ [.finish number]),
    { attempt with ticket, answer := some ending.value.2 }, ending.value.2, ?_, rfl, rfl, ?_⟩
  · obtain ⟨bound, -⟩ := List.getElem?_eq_some_iff.mp foundAsked
    have finished := step_finish (s := { s.run settings asking with
      shared := (s.run settings asking).shared.run (ids.map .resume) }) foundAsked pending ends
    rw [run_append, run_append, run_goOn]
    exact (congrArg (·.calls[number]?) finished).trans (List.getElem?_set_self bound)
  · intro newest
    refine value.trans (if_pos ?_)
    rw [← newest, SharedServices.newest, SharedServices.newest, tracker]

end Runs

end SharedServices

/-- Services on one handle, with what happens at them in any order, when every load gives the same
catalog. The calls are those that the moves start. A call that is answered gets the answer it gets
alone, whatever the address of its document. A pending call can always be answered, and if it is the
newest of its document, it then gets that answer. So two runs that have a call in common, and
otherwise any calls and any order, answer it alike. -/
theorem answers_do_not_depend_on_interleaving {ι : Type} [DecidableEq ι] {source : Nat → Load}
    {catalog : Catalog} (always : ∀ number, (source number).value = .ok catalog)
    (settings : ι → Settings) (moves : List (SharedMove ι)) :
    let s := (SharedServices.ofSource source).run settings moves
    s.calls.map Attempt.asked = moves.filterMap SharedMove.asked? ∧
    (∀ attempt ∈ s.calls, ∀ answer ∈ attempt.answer, answer ≠ .superseded → ∀ document,
      answer = Service.lone catalog (settings attempt.client)
        { attempt.call.occurrence with document } attempt.cursor) ∧
    (∀ (number : Nat) (attempt : Attempt ι),
      s.calls[number]? = some attempt → attempt.answer = none →
      ∃ (later : List (SharedMove ι)) (ended : Attempt ι) (answer : Answer),
        (s.run settings later).calls[number]? = some ended ∧ ended.asked = attempt.asked ∧
        ended.answer = some answer ∧
        (s.newest attempt.client attempt.call.occurrence.document = some attempt.call.id →
          answer = Service.lone catalog (settings attempt.client) attempt.call.occurrence
            attempt.cursor)) ∧
    ∀ (κ : Type) [DecidableEq κ] (source' : Nat → Load),
      (∀ number, (source' number).value = .ok catalog) →
      ∀ (settings' : κ → Settings) (moves' : List (SharedMove κ)),
      ∀ first ∈ s.calls,
      ∀ second ∈ ((SharedServices.ofSource source').run settings' moves').calls,
        settings first.client = settings' second.client → first.cursor = second.cursor →
        first.call.occurrence =
          { second.call.occurrence with document := first.call.occurrence.document } →
        ∀ answer ∈ first.answer, ∀ answer' ∈ second.answer,
          answer ≠ .superseded → answer' ≠ .superseded → answer = answer' := by
  intro s
  have valid := (SharedServices.invariant_ofSource settings source).run always moves
  refine ⟨SharedServices.asked_run _ moves,
    fun attempt member => (valid.sound attempt member).answer,
    fun number attempt => valid.exists_answer always, ?_⟩
  intro κ _ source' always' settings' moves' first firstKnown second secondKnown sameSettings
    sameCursor sameOccurrence answer given answer' given' answered answered'
  have valid' :=
    (SharedServices.invariant_ofSource settings' source').run always' moves'
  have left := (valid.sound first firstKnown).answer answer given answered
    first.call.occurrence.document
  have right := (valid'.sound second secondKnown).answer answer' given' answered'
    first.call.occurrence.document
  rw [left, right, sameSettings, sameCursor, ← sameOccurrence]

/-- Two services and three calls: the load of the second call serves the first too, the third call
supersedes the second, and the first finishes last. Elsewhere the third call has nothing around it. -/
theorem answers_do_not_depend_on_interleaving_overlapping :
    let catalog := Catalog.ofModels [⟨"timer", none, none⟩, ⟨"kafka", none, none⟩]
    let source : Nat → Load := fun _ => return .ok catalog
    let near : Occurrence := ⟨"a.xml", "ti:x", 0, "ti:x"⟩
    let far : Occurrence := ⟨"b.xml", "a ka:x", 2, "ka:x"⟩
    let moved : Occurrence := ⟨"c.xml", "a ka:x", 2, "ka:x"⟩
    let moves : List (SharedMove Bool) := [.start false near 1, .start true far 3, .ask 1, .ask 0,
      .start true far 4, .goOn 0, .finish 1, .ask 2, .finish 2, .finish 0]
    let moves' : List (SharedMove Unit) := [.start () moved 4, .ask 0, .goOn 0, .finish 0]
    let s := (SharedServices.ofSource source).run (fun _ => Settings.default) moves
    let t := (SharedServices.ofSource source).run (fun _ => Settings.default) moves'
    ∃ first third, s.calls.map (·.answer) = [some first, some .superseded, some third] ∧
      first = Service.lone catalog Settings.default near 1 ∧
      t.calls.map (·.answer) = [some third] := by
  intro catalog source near far moved moves moves' s t
  have waits₁ : (Call.started 1 near 1).request.items? = none := by decide
  have waits₂ : (Call.started 1 far 3).request.items? = none := by decide
  have waits₃ : (Call.started 2 far 4).request.items? = none := by decide
  have waits : (Call.started 1 moved 4).request.items? = none := by decide
  let given (call : Call) :=
    Service.answer Settings.default call (call.request.resume (.ok catalog)).value
  let first : Attempt Bool :=
    ⟨false, 1, Call.started 1 near 1, some 1, some (given (Call.started 1 near 1))⟩
  let second : Attempt Bool := ⟨true, 3, Call.started 1 far 3, some 0, some .superseded⟩
  let third : Attempt Bool :=
    ⟨true, 4, Call.started 2 far 4, some 2, some (given (Call.started 2 far 4))⟩
  let alone : Attempt Unit :=
    ⟨(), 4, Call.started 1 moved 4, some 0, some (given (Call.started 1 moved 4))⟩
  have calls : s.calls = [first, second, third] := by
    simp [s, moves, SharedServices.run, SharedServices.step, SharedServices.ofSource,
      Service.start_value, SharedServices.service, waits₁, waits₂, waits₃, Tracker.empty, Tracker.start,
      SharedHandle.step, SharedHandle.ofSource, Handle.ofSource, Handle.request, Handle.beginLoad,
      Handle.settle, source, SharedServices.ending?, List.lookup_cons, Service.conclude,
      Service.finish_value, Tracker.newest_finish_eq_some_iff, first, second, third, given]
  have calls' : t.calls = [alone] := by
    simp [t, moves', SharedServices.run, SharedServices.step, SharedServices.ofSource,
      Service.start_value, SharedServices.service, waits, Tracker.empty, Tracker.start,
      SharedHandle.step, SharedHandle.ofSource, Handle.ofSource, Handle.request, Handle.beginLoad,
      Handle.settle, source, SharedServices.ending?, List.lookup_cons, Service.conclude,
      Service.finish_value, alone, given]
  have firstKnown : first ∈ s.calls := by simp [calls]
  have thirdKnown : third ∈ s.calls := by simp [calls]
  have aloneKnown : alone ∈ t.calls := by simp [calls']
  have answered (call : Call) : given call ≠ .superseded := Service.answer_ne_superseded _ _ _
  have always : ∀ number, (source number).value = .ok catalog := fun _ => rfl
  obtain ⟨-, answers, -, runs⟩ :=
    answers_do_not_depend_on_interleaving always (fun _ => Settings.default) moves
  have same : given third.call = given alone.call :=
    runs Unit source always (fun _ => Settings.default) moves' third thirdKnown alone
      aloneKnown rfl rfl rfl _ rfl _ rfl (answered _) (answered _)
  refine ⟨given first.call, given third.call, ?_, ?_, ?_⟩
  · simp [calls, first, second, third]
  · exact answers first firstKnown _ rfl (answered _) near.document
  · simp [calls', same, alone]

end EndpointUri
