import EndpointUri.Editor.Service
import EndpointUri.Proofs.Candidates
import EndpointUri.Proofs.RequestRuns

/-!
Calls of a completion service in any interleaving. The steps of all calls and the cancellations
form one sequence of moves; the newest call of a document is the only one that is answered, and
the tracker knows no call that has finished.
-/
namespace EndpointUri

/-! ### The tracker, one document at a time -/

namespace Tracker

theorem isActive_iff {t : Tracker} {document : String} {id : RequestId} :
    t.isActive document id = true ↔ t.newest[document]? = some id := by
  simp [isActive]

theorem newest_start (t : Tracker) (document other : String) :
    (t.start document).1.newest[other]? =
      if document = other then some (t.issued + 1) else t.newest[other]? := by
  simp [start, Std.HashMap.getElem?_insert]

theorem newest_cancel (t : Tracker) (document other : String) :
    (t.cancel document).newest[other]? = if document = other then none else t.newest[other]? := by
  simp [cancel, Std.HashMap.getElem?_erase]

/-- A finished request is forgotten, and nothing else is. -/
theorem newest_finish_eq_some_iff (t : Tracker) (document other : String) (id newest : RequestId) :
    (t.finish document id).newest[other]? = some newest ↔
      t.newest[other]? = some newest ∧ ¬ (document = other ∧ id = newest) := by
  unfold finish
  by_cases active : t.isActive document id
  · have known := isActive_iff.mp active
    rw [if_pos active]
    by_cases same : document = other
    · subst same
      simp [known]
    · simp [Std.HashMap.getElem?_erase, same]
  · have unknown : t.newest[document]? ≠ some id := fun known => active (isActive_iff.mpr known)
    rw [if_neg active]
    constructor
    · intro found
      refine ⟨found, ?_⟩
      rintro ⟨rfl, rfl⟩
      exact unknown found
    · exact fun found => found.1

@[simp] theorem issued_finish (t : Tracker) (document : String) (id : RequestId) :
    (t.finish document id).issued = t.issued := by
  unfold finish
  split <;> rfl

end Tracker

/-! ### One call -/

/-- The URI can be addressed where it stands, as it can wherever it stands inside its document. -/
def Occurrence.Addressable (occurrence : Occurrence) : Prop :=
  occurrence.uriOffset + Text.byteLength occurrence.uriText.toList < Text.offsetLimit

instance (occurrence : Occurrence) : Decidable occurrence.Addressable :=
  inferInstanceAs (Decidable (_ < _))

def Call.started (id : RequestId) (occurrence : Occurrence) (cursor : Nat) : Call :=
  ⟨id, occurrence, (Request.new (SchemePath.ofText occurrence.uriText)
    (Service.positionOf occurrence cursor)).runUntilCatalog⟩

@[simp] theorem Call.id_started (id : RequestId) (occurrence : Occurrence) (cursor : Nat) :
    (Call.started id occurrence cursor).id = id := rfl

@[simp] theorem Call.occurrence_started (id : RequestId) (occurrence : Occurrence) (cursor : Nat) :
    (Call.started id occurrence cursor).occurrence = occurrence := rfl

namespace Service

/-- What a call found, when the catalog it waited for is known. -/
def result (call : Call) (outcome : Except CatalogError Catalog) :
    Except CatalogError (List Candidate) :=
  match call.request.items? with
  | some items => .ok items
  | none => (call.request.resume outcome).value

/-- The finishing step of a call. A call that was out of range has its items already. -/
def finishing (s : Service) (call : Call) (outcome : Except CatalogError Catalog) :
    Logged (Service × Answer) :=
  match call.request.items? with
  | some items => s.finish call (.ok items)
  | none => s.conclude call outcome

/-- The answer to a call that is still the newest. An error of the catalog gives no items. -/
def answer (settings : Settings) (call : Call) (result : Except CatalogError (List Candidate)) :
    Answer :=
  match CompletionItem.ofCandidates? call.occurrence.documentText call.occurrence.uriOffset
    settings.includeDeprecated (result.toOption.getD []) with
  | some items => .items items
  | none => .pastLastOffset

theorem start_value (s : Service) (occurrence : Occurrence) (cursor : Nat) :
    (s.start occurrence cursor).value =
      ({ s with tracker := (s.tracker.start occurrence.document).1 },
        Call.started (s.tracker.issued + 1) occurrence cursor) := by
  have parsed : (Uri.parseLogged occurrence.uriText).value = Uri.parse occurrence.uriText := rfl
  rw [start, Logged.value_bind, Logged.value_bind, parsed, Uri.parse_schemePath]
  rfl

theorem finish_value (s : Service) (call : Call) (result : Except CatalogError (List Candidate)) :
    (s.finish call result).value =
      ({ s with tracker := s.tracker.finish call.occurrence.document call.id },
        if s.tracker.newest[call.occurrence.document]? = some call.id then
          answer s.settings call result
        else .superseded) := by
  by_cases active : s.tracker.isActive call.occurrence.document call.id
  · rw [if_pos (Tracker.isActive_iff.mp active)]
    have kept : ¬ (!s.tracker.isActive call.occurrence.document call.id) = true := by simp [active]
    dsimp only [finish]
    rw [if_neg kept]
    cases result <;> rfl
  · rw [if_neg (fun newest => active (Tracker.isActive_iff.mpr newest))]
    simp [finish, active, Tracker.finish]

theorem finishing_value (s : Service) (call : Call) (outcome : Except CatalogError Catalog) :
    (s.finishing call outcome).value = (s.finish call (result call outcome)).value := by
  unfold finishing result
  split <;> rfl

/-- A call with no other call around it is its two steps. -/
theorem completion_value (s : Service) (occurrence : Occurrence) (cursor : Nat) :
    ∃ handle outcome, (s.completion occurrence cursor).value =
      (finishing { (s.start occurrence cursor).value.1 with handle }
        (s.start occurrence cursor).value.2 outcome).value := by
  unfold completion finishing
  rw [Logged.value_bind]
  split
  next started call same =>
    rw [same]
    cases call.request.items? with
    | some items => exact ⟨started.handle, .error (.unavailable ""), rfl⟩
    | none => exact ⟨_, _, rfl⟩

/-- A call that has just started finishes with its answer, whatever handle the service has by then. -/
theorem finish_started (s : Service) (handle : Handle) (occurrence : Occurrence) (cursor : Nat)
    (result : Except CatalogError (List Candidate)) :
    let call := Call.started (s.tracker.issued + 1) occurrence cursor
    let ended := (finish ⟨handle, s.settings, (s.tracker.start occurrence.document).1⟩ call
      result).value
    ended.1.handle = handle ∧ ended.2 = answer s.settings call result := by
  intro call ended
  have newest : (s.tracker.start occurrence.document).1.newest[occurrence.document]? =
      some (s.tracker.issued + 1) := by
    rw [Tracker.newest_start, if_pos rfl]
  have value := finish_value ⟨handle, s.settings, (s.tracker.start occurrence.document).1⟩ call result
  exact ⟨congrArg (·.1.handle) value, (congrArg Prod.snd value).trans (if_pos newest)⟩

/-- A call with no other call around it is a completion on the handle of its service. -/
theorem completion_eq_complete (s : Service) (occurrence : Occurrence) (cursor : Nat) :
    let completed := (complete s.handle (SchemePath.ofText occurrence.uriText)
      (positionOf occurrence cursor)).value
    (s.completion occurrence cursor).value.1.handle = completed.1 ∧
      (s.completion occurrence cursor).value.2 =
        answer s.settings (Call.started (s.tracker.issued + 1) occurrence cursor) completed.2 := by
  have request : (Call.started (s.tracker.issued + 1) occurrence cursor).request =
      ⟨SchemePath.ofText occurrence.uriText, positionOf occurrence cursor,
        if (SchemePath.ofText occurrence.uriText).span.touches (positionOf occurrence cursor) then
          .awaitingCatalog else .done []⟩ :=
    Request.runUntilCatalog_new _ _
  unfold completion
  rw [complete_value, Logged.value_bind, start_value]
  by_cases inside :
      (SchemePath.ofText occurrence.uriText).span.touches (positionOf occurrence cursor)
  · rw [if_pos inside] at request ⊢
    have waits : (Call.started (s.tracker.issued + 1) occurrence cursor).request.items? = none := by
      rw [request]
      rfl
    simp only [waits]
    obtain ⟨handle, ended⟩ := finish_started s s.handle.get.value.1 occurrence cursor
      ((Call.started (s.tracker.issued + 1) occurrence cursor).request.resume
        s.handle.get.value.2).value
    refine ⟨handle, ended.trans (congrArg (answer _ _) ?_)⟩
    rw [request]
    exact Request.resume_value rfl _
  · rw [if_neg inside] at request ⊢
    have done : (Call.started (s.tracker.issued + 1) occurrence cursor).request.items? = some [] := by
      rw [request]
      rfl
    simp only [done]
    exact finish_started s s.handle occurrence cursor (.ok [])

theorem result_started (id : RequestId) (occurrence : Occurrence) (cursor : Nat)
    (outcome : Except CatalogError Catalog) :
    let region := SchemePath.ofText occurrence.uriText
    let position := positionOf occurrence cursor
    result (Call.started id occurrence cursor) outcome =
      if region.span.touches position then do
        let catalog ← outcome
        let candidates ← generate catalog region.scheme
        return applyFilter (typedFilter region.scheme position) candidates
      else .ok [] := by
  intro region position
  have request : (Call.started id occurrence cursor).request =
      ⟨region, position, if region.span.touches position then .awaitingCatalog else .done []⟩ :=
    Request.runUntilCatalog_new region position
  by_cases inside : region.span.touches position
  · rw [if_pos inside] at request ⊢
    rw [result, request]
    exact Request.resume_value rfl outcome
  · rw [if_neg inside] at request ⊢
    rw [result, request]
    rfl

/-- A completion on a handle finds what a waiting call finds in the catalog of that handle. -/
theorem complete_eq_result (handle : Handle) (id : RequestId) (occurrence : Occurrence)
    (cursor : Nat) :
    (complete handle (SchemePath.ofText occurrence.uriText)
      (positionOf occurrence cursor)).value.2 =
      result (Call.started id occurrence cursor) handle.get.value.2 := by
  rw [complete_value, result_started]
  split <;> rfl

theorem answer_ne_superseded (settings : Settings) (call : Call)
    (result : Except CatalogError (List Candidate)) : answer settings call result ≠ .superseded := by
  unfold answer
  split <;> simp

theorem replaceRange_of_result (id : RequestId) (occurrence : Occurrence) (cursor : Nat)
    (outcome : Except CatalogError Catalog) :
    ∀ candidate ∈ (result (Call.started id occurrence cursor) outcome).toOption.getD [],
      candidate.replaceRange = (SchemePath.ofText occurrence.uriText).scheme.span := by
  intro candidate member
  rw [result_started] at member
  split at member
  next =>
    cases outcome with
    | error fault => simp [bind, Except.bind, Except.toOption] at member
    | ok catalog =>
      cases made : generate catalog (SchemePath.ofText occurrence.uriText).scheme with
      | error fault => simp [made, bind, Except.bind, Except.toOption] at member
      | ok candidates =>
        apply replaceRange_of_generate made
        simp only [made, bind, Except.bind, pure, Except.pure, Except.toOption,
          Option.getD_some] at member
        exact List.mem_of_mem_filter member
  next => simp [Except.toOption] at member

/-- A call for a URI that can be addressed is always given items, if only an empty list. -/
theorem answer_eq_items (settings : Settings) (id : RequestId) {occurrence : Occurrence}
    (addressable : occurrence.Addressable) (cursor : Nat)
    (outcome : Except CatalogError Catalog) :
    ∃ items, answer settings (Call.started id occurrence cursor)
      (result (Call.started id occurrence cursor) outcome) = .items items := by
  obtain ⟨start, stop⟩ := SchemePath.scheme_span_ofText occurrence.uriText
  unfold Occurrence.Addressable at addressable
  have made := CompletionItem.isSome_ofCandidates? occurrence.documentText
    settings.includeDeprecated (replaceRange_of_result id occurrence cursor outcome)
    (by omega) (by omega : _ + occurrence.uriOffset < _)
  obtain ⟨items, same⟩ := Option.isSome_iff_exists.mp made
  exact ⟨items, by rw [answer, Call.occurrence_started, same]⟩

end Service

/-! ### Many calls -/

/-- What may happen at a service: the two steps of each call, and cancellations. -/
inductive Move where
  | start (occurrence : Occurrence) (cursor : Nat)
  | finish (number : Nat) (outcome : Except CatalogError Catalog)
  | cancel (document : String)

namespace Move

def isStart : Move → Bool
  | .start .. => true
  | _ => false

/-- The move takes a document away from the call that is the newest for it. -/
def Disturbs (document : String) : Move → Prop
  | .start occurrence _ => occurrence.document = document
  | .cancel other => other = document
  | .finish .. => False

instance (document : String) : (move : Move) → Decidable (move.Disturbs document)
  | .start occurrence _ => inferInstanceAs (Decidable (occurrence.document = document))
  | .cancel other => inferInstanceAs (Decidable (other = document))
  | .finish .. => inferInstanceAs (Decidable False)

end Move

def starts (moves : List Move) : Nat := moves.countP Move.isStart

/-- A service and its calls in the order in which they started; a pending call has no answer. -/
structure Session where
  service : Service
  calls : List (Call × Option Answer)

namespace Session

def new (handle : Handle) (settings : Settings) : Session := ⟨Service.new handle settings, []⟩

def newest (s : Session) (document : String) : Option RequestId :=
  s.service.tracker.newest[document]?

/-- Calls are numbered from zero. Only a pending call has a finishing step. -/
def step (s : Session) : Move → Session
  | .start occurrence cursor =>
    let (service, call) := (s.service.start occurrence cursor).value
    ⟨service, s.calls ++ [(call, none)]⟩
  | .finish number outcome =>
    match s.calls[number]? with
    | some (call, none) =>
      let (service, answer) := (s.service.finishing call outcome).value
      ⟨service, s.calls.set number (call, some answer)⟩
    | _ => s
  | .cancel document =>
    { s with service.tracker := s.service.tracker.cancel document }

def run (s : Session) (moves : List Move) : Session := moves.foldl step s

@[simp] theorem run_nil (s : Session) : s.run [] = s := rfl

@[simp] theorem run_cons (s : Session) (move : Move) (rest : List Move) :
    s.run (move :: rest) = (s.step move).run rest := rfl

@[simp] theorem run_append (s : Session) (first second : List Move) :
    s.run (first ++ second) = (s.run first).run second := List.foldl_append

/-! ### One move -/

variable {s : Session} {number : Nat} {call : Call} {answer : Option Answer}

theorem step_start (s : Session) (occurrence : Occurrence) (cursor : Nat) :
    s.step (.start occurrence cursor) =
      ⟨{ s.service with tracker := (s.service.tracker.start occurrence.document).1 },
        s.calls ++ [(Call.started (s.service.tracker.issued + 1) occurrence cursor, none)]⟩ := by
  rw [step, Service.start_value]

theorem step_finish_pending (pending : s.calls[number]? = some (call, none))
    (outcome : Except CatalogError Catalog) :
    s.step (.finish number outcome) =
      ⟨{ s.service with
          tracker := s.service.tracker.finish call.occurrence.document call.id },
        s.calls.set number (call, some (
          if s.newest call.occurrence.document = some call.id then
            Service.answer s.service.settings call (Service.result call outcome)
          else .superseded))⟩ := by
  simp only [step, pending, Service.finishing_value, Service.finish_value]
  rfl

theorem step_finish_other (other : ∀ call, s.calls[number]? ≠ some (call, none))
    (outcome : Except CatalogError Catalog) : s.step (.finish number outcome) = s := by
  rw [step]
  split
  next call pending => exact absurd pending (other call)
  next => rfl

theorem pending_or_other (s : Session) (number : Nat) :
    (∃ call, s.calls[number]? = some (call, none)) ∨
      ∀ call, s.calls[number]? ≠ some (call, none) := by
  by_cases pending : ∃ call, s.calls[number]? = some (call, none)
  · exact Or.inl pending
  · exact Or.inr fun call found => pending ⟨call, found⟩

theorem getElem?_step_start (found : s.calls[number]? = some (call, answer))
    (occurrence : Occurrence) (cursor : Nat) :
    (s.step (.start occurrence cursor)).calls[number]? = some (call, answer) := by
  obtain ⟨bound, -⟩ := List.getElem?_eq_some_iff.mp found
  rw [step_start, List.getElem?_append_left bound, found]

/-- Only a call's own finishing step answers it. -/
theorem getElem?_step_finish (found : s.calls[number]? = some (call, answer)) {other : Nat}
    (different : other ≠ number) (outcome : Except CatalogError Catalog) :
    (s.step (.finish other outcome)).calls[number]? = some (call, answer) := by
  rcases s.pending_or_other other with ⟨call', pending⟩ | notPending
  · rw [step_finish_pending pending, List.getElem?_set_ne different, found]
  · rw [step_finish_other notPending, found]

@[simp] theorem settings_step (s : Session) (move : Move) :
    (s.step move).service.settings = s.service.settings := by
  cases move with
  | start => rfl
  | finish number outcome =>
    rcases s.pending_or_other number with ⟨call, pending⟩ | notPending
    · rw [step_finish_pending pending]
    · rw [step_finish_other notPending]
  | cancel => rfl

theorem length_step (s : Session) (move : Move) :
    (s.step move).calls.length = s.calls.length + starts [move] := by
  cases move with
  | start occurrence cursor => simp [step_start, starts, Move.isStart]
  | finish number outcome =>
    rcases s.pending_or_other number with ⟨call, pending⟩ | notPending
    · simp [step_finish_pending pending, starts, Move.isStart]
    · simp [step_finish_other notPending, starts, Move.isStart]
  | cancel => simp [step, starts, Move.isStart]

theorem settings_run (s : Session) (moves : List Move) :
    (s.run moves).service.settings = s.service.settings := by
  induction moves generalizing s with
  | nil => rfl
  | cons move rest ih => rw [run_cons, ih, settings_step]

theorem length_run (s : Session) (moves : List Move) :
    (s.run moves).calls.length = s.calls.length + starts moves := by
  induction moves generalizing s with
  | nil => rfl
  | cons move rest ih =>
    rw [run_cons, ih, length_step, starts, starts, starts, List.countP_cons, List.countP_cons,
      List.countP_nil]
    omega

theorem length_run_new (handle : Handle) (settings : Settings) (moves : List Move) :
    ((new handle settings).run moves).calls.length = starts moves := by
  rw [length_run]
  exact Nat.zero_add _

/-- An answer is final. -/
theorem getElem?_run_answered {given : Answer} (found : s.calls[number]? = some (call, some given))
    (moves : List Move) : (s.run moves).calls[number]? = some (call, some given) := by
  induction moves generalizing s with
  | nil => exact found
  | cons move rest ih =>
    apply ih
    cases move with
    | start occurrence cursor => exact getElem?_step_start found occurrence cursor
    | finish other outcome =>
      by_cases same : other = number
      · subst same
        rw [step_finish_other (by simp [found]), found]
      · exact getElem?_step_finish found same outcome
    | cancel document => exact found

/-! ### The tracker knows pending calls only -/

/-- The tracker numbers the calls, and knows only pending ones. -/
structure Invariant (s : Session) : Prop where
  issued : s.service.tracker.issued = s.calls.length
  numbered : ∀ (number : Nat) (call : Call) (answer : Option Answer),
    s.calls[number]? = some (call, answer) → call.id = number + 1
  pending : ∀ document id, s.newest document = some id → ∃ (number : Nat) (call : Call),
    s.calls[number]? = some (call, none) ∧ call.occurrence.document = document ∧ call.id = id

theorem invariant_new (handle : Handle) (settings : Settings) : (new handle settings).Invariant := by
  refine ⟨rfl, ?_, ?_⟩
  · intro number call answer found
    simp [new] at found
  · intro document id known
    simp [newest, new, Service.new, Tracker.empty] at known

theorem Invariant.start (valid : s.Invariant) (occurrence : Occurrence) (cursor : Nat) :
    (s.step (.start occurrence cursor)).Invariant := by
  rw [step_start]
  refine ⟨?_, ?_, ?_⟩
  · simp [Tracker.start, valid.issued]
  · intro number call answer found
    rcases Nat.lt_or_ge number s.calls.length with old | fresh
    · rw [List.getElem?_append_left old] at found
      exact valid.numbered number call answer found
    · obtain ⟨bound, -⟩ := List.getElem?_eq_some_iff.mp found
      have last : number = s.calls.length := by
        simp only [List.length_append, List.length_singleton] at bound
        omega
      subst last
      rw [List.getElem?_concat_length] at found
      cases found
      rw [Call.id_started, valid.issued]
  · intro document id known
    rw [newest, Tracker.newest_start] at known
    split at known
    next same =>
      cases known
      exact ⟨s.calls.length, _, List.getElem?_concat_length, same, rfl⟩
    next =>
      obtain ⟨number, call, found, rest⟩ := valid.pending document id known
      exact ⟨number, call, getElem?_step_start found occurrence cursor, rest⟩

theorem Invariant.finish (valid : s.Invariant) (number : Nat)
    (outcome : Except CatalogError Catalog) : (s.step (.finish number outcome)).Invariant := by
  rcases s.pending_or_other number with ⟨call, pending⟩ | notPending
  · rw [step_finish_pending pending]
    refine ⟨?_, ?_, ?_⟩
    · simp [valid.issued]
    · intro other call' answer found
      by_cases same : number = other
      · subst same
        have bound := (List.getElem?_eq_some_iff.mp pending).1
        rw [List.getElem?_set_self bound] at found
        cases found
        exact valid.numbered number call none pending
      · rw [List.getElem?_set_ne same] at found
        exact valid.numbered other call' answer found
    · intro document id known
      rw [newest, Tracker.newest_finish_eq_some_iff] at known
      obtain ⟨known, kept⟩ := known
      obtain ⟨other, call', found, rest⟩ := valid.pending document id known
      -- The entry that is left is not that of the finished call, so its own call is still pending.
      have different : number ≠ other := by
        rintro rfl
        rw [pending] at found
        cases found
        exact kept rest
      exact ⟨other, call', by rw [List.getElem?_set_ne different, found], rest⟩
  · rw [step_finish_other notPending]
    exact valid

theorem Invariant.cancel (valid : s.Invariant) (document : String) :
    (s.step (.cancel document)).Invariant := by
  refine ⟨valid.issued, valid.numbered, ?_⟩
  intro other id known
  rw [newest, step, Tracker.newest_cancel] at known
  split at known
  next => contradiction
  next => exact valid.pending other id known

theorem Invariant.step (valid : s.Invariant) (move : Move) : (s.step move).Invariant := by
  cases move with
  | start occurrence cursor => exact valid.start occurrence cursor
  | finish number outcome => exact valid.finish number outcome
  | cancel document => exact valid.cancel document

theorem Invariant.run (valid : s.Invariant) (moves : List Move) : (s.run moves).Invariant := by
  induction moves generalizing s with
  | nil => exact valid
  | cons move rest ih => exact ih (valid.step move)

/-- With no call pending there is nothing left to know. -/
theorem Invariant.isEmpty (valid : s.Invariant) (idle : ∀ entry ∈ s.calls, entry.2 ≠ none) :
    s.service.tracker.newest.isEmpty = true := by
  rw [Std.HashMap.isEmpty_iff_forall_not_mem]
  intro document known
  obtain ⟨id, newest⟩ := Option.isSome_iff_exists.mp (Std.HashMap.isSome_getElem?_iff_mem.mpr known)
  obtain ⟨number, call, pending, -⟩ := valid.pending document id newest
  exact idle _ (List.mem_of_getElem? pending) rfl

/-! ### Who is the newest -/

theorem Invariant.id_le_issued (valid : s.Invariant)
    (found : s.calls[number]? = some (call, answer)) : call.id ≤ s.service.tracker.issued := by
  obtain ⟨bound, -⟩ := List.getElem?_eq_some_iff.mp found
  rw [valid.issued, valid.numbered number call answer found]
  exact bound

/-- A pending call stays the newest of its document until another move takes the document away. -/
theorem Invariant.newest_step (valid : s.Invariant) (pending : s.calls[number]? = some (call, none))
    {move : Move} (other : ∀ outcome, move ≠ .finish number outcome) :
    (s.step move).newest call.occurrence.document = some call.id ↔
      s.newest call.occurrence.document = some call.id ∧
        ¬ move.Disturbs call.occurrence.document := by
  cases move with
  | start occurrence cursor =>
    have old := valid.id_le_issued pending
    rw [newest, step_start, Tracker.newest_start, Move.Disturbs, ← newest]
    by_cases same : occurrence.document = call.occurrence.document
    · simp only [same, if_true, not_true, and_false, iff_false, Option.some.injEq]
      exact Nat.ne_of_gt (Nat.lt_succ_of_le old)
    · simp [same]
  | finish number' outcome =>
    rcases s.pending_or_other number' with ⟨call', pending'⟩ | notPending
    · rw [newest, step_finish_pending pending', Tracker.newest_finish_eq_some_iff, ← newest,
        Move.Disturbs]
      -- Two pending calls differ in their numbers, so the other one leaves the entry alone.
      have different : call'.id ≠ call.id := by
        rw [valid.numbered _ _ _ pending', valid.numbered _ _ _ pending]
        rintro same
        exact other outcome (by rw [Nat.succ.inj same])
      simp [different]
    · simp [step_finish_other notPending, Move.Disturbs]
  | cancel document =>
    rw [newest, Session.step, Tracker.newest_cancel, Move.Disturbs, ← newest]
    by_cases same : document = call.occurrence.document <;> simp [same]

theorem getElem?_step_pending (pending : s.calls[number]? = some (call, none))
    {move : Move} (other : ∀ outcome, move ≠ .finish number outcome) :
    (s.step move).calls[number]? = some (call, none) := by
  cases move with
  | start occurrence cursor => exact getElem?_step_start pending occurrence cursor
  | finish number' outcome =>
    apply getElem?_step_finish pending
    rintro rfl
    exact other outcome rfl
  | cancel document => exact pending

/-- No move of these is the finishing step of the call. -/
def Unfinished (number : Nat) (moves : List Move) : Prop :=
  ∀ move ∈ moves, ∀ outcome, move ≠ .finish number outcome

theorem Invariant.newest_run (valid : s.Invariant) (pending : s.calls[number]? = some (call, none))
    {moves : List Move} (unfinished : Unfinished number moves) :
    (s.run moves).calls[number]? = some (call, none) ∧
      ((s.run moves).newest call.occurrence.document = some call.id ↔
        s.newest call.occurrence.document = some call.id ∧
          ∀ move ∈ moves, ¬ move.Disturbs call.occurrence.document) := by
  induction moves generalizing s with
  | nil => simpa using pending
  | cons move rest ih =>
    obtain ⟨first, later⟩ := List.forall_mem_cons.mp unfinished
    obtain ⟨kept, newest⟩ := ih (valid.step move) (getElem?_step_pending pending first) later
    refine ⟨kept, ?_⟩
    rw [run_cons, newest, valid.newest_step pending first, List.forall_mem_cons, and_assoc]

theorem Invariant.started (valid : s.Invariant) (occurrence : Occurrence) (cursor : Nat) :
    (s.step (.start occurrence cursor)).calls[s.calls.length]? =
        some (Call.started (s.calls.length + 1) occurrence cursor, none) ∧
      (s.step (.start occurrence cursor)).newest occurrence.document =
        some (s.calls.length + 1) := by
  rw [newest, step_start, valid.issued, Tracker.newest_start, valid.issued]
  exact ⟨List.getElem?_concat_length, if_pos rfl⟩

/-- How a call ends, whatever happens between its two steps and afterwards. -/
theorem Invariant.answer_of_call (valid : s.Invariant) (occurrence : Occurrence) (cursor : Nat)
    {between : List Move} (unfinished : Unfinished s.calls.length between)
    (outcome : Except CatalogError Catalog) (after : List Move) :
    let call := Call.started (s.calls.length + 1) occurrence cursor
    ((s.step (.start occurrence cursor)).run
        (between ++ .finish s.calls.length outcome :: after)).calls[s.calls.length]? =
      some (call, some (if ∀ move ∈ between, ¬ move.Disturbs occurrence.document then
        Service.answer s.service.settings call (Service.result call outcome) else .superseded)) := by
  intro call
  obtain ⟨pending, newest⟩ := valid.started occurrence cursor
  obtain ⟨kept, active⟩ := (valid.start occurrence cursor).newest_run pending unfinished
  obtain ⟨bound, -⟩ := List.getElem?_eq_some_iff.mp kept
  rw [Call.occurrence_started, Call.id_started, newest, eq_self, true_and] at active
  rw [run_append, run_cons]
  apply getElem?_run_answered
  rw [step_finish_pending kept, List.getElem?_set_self bound, settings_run, settings_step]
  simp only [Call.occurrence_started, Call.id_started, active]
  rfl

end Session

/-- Any calls for any documents in any order, with cancellations in between. A call that starts and
later finishes is answered exactly when, in between, no other call for its document started and the
document was not cancelled. The tracker knows pending calls only, each under its own document, so it
is empty when none is pending; the numbers it gives out fit a word as long as the starts do. A call
with nothing around it is its two steps, one right after the other. -/
theorem newest_call_is_answered (handle : Handle) (settings : Settings) :
    (∀ before between after occurrence cursor outcome,
      Session.Unfinished (starts before) between →
      ∃ call answer,
        ((Session.new handle settings).run (before ++ .start occurrence cursor ::
          (between ++ .finish (starts before) outcome :: after))).calls[starts before]? =
            some (call, some answer) ∧
        call.occurrence = occurrence ∧
        (answer = .superseded ↔ ∃ move ∈ between, move.Disturbs occurrence.document) ∧
        (occurrence.Addressable → ((∃ items, answer = .items items) ↔
          ∀ move ∈ between, ¬ move.Disturbs occurrence.document))) ∧
    (∀ moves,
      let s := (Session.new handle settings).run moves
      (∀ document id, s.service.tracker.newest[document]? = some id →
        ∃ (number : Nat) (call : Call), s.calls[number]? = some (call, none) ∧
          call.occurrence.document = document ∧ call.id = id) ∧
      ((∀ entry ∈ s.calls, entry.2 ≠ none) → s.service.tracker.newest.isEmpty = true) ∧
      (starts moves < UInt64.size → ∀ entry ∈ s.calls, entry.1.id < UInt64.size)) ∧
    (∀ (s : Service) occurrence cursor, ∃ handle outcome,
      (s.completion occurrence cursor).value =
        (Service.finishing { (s.start occurrence cursor).value.1 with handle }
          (s.start occurrence cursor).value.2 outcome).value) := by
  refine ⟨?_, ?_, Service.completion_value⟩
  · intro before between after occurrence cursor outcome unfinished
    have valid := (Session.invariant_new handle settings).run before
    have size := Session.length_run_new handle settings before
    rw [← size] at unfinished
    have ends := valid.answer_of_call occurrence cursor unfinished outcome after
    rw [Session.run_append, Session.run_cons, ← size]
    by_cases quiet : ∀ move ∈ between, ¬ move.Disturbs occurrence.document
    · simp only [if_pos quiet] at ends
      refine ⟨_, _, ends, rfl, ?_, fun addressable => ?_⟩
      · refine iff_of_false (Service.answer_ne_superseded _ _ _) ?_
        rintro ⟨move, member, disturbs⟩
        exact quiet move member disturbs
      · exact iff_of_true (Service.answer_eq_items _ _ addressable _ _) quiet
    · simp only [if_neg quiet] at ends
      refine ⟨_, _, ends, rfl, iff_of_true rfl (by simpa using quiet), fun _ => ?_⟩
      exact iff_of_false (by simp) quiet
  · intro moves s
    have valid : s.Invariant := (Session.invariant_new handle settings).run moves
    refine ⟨valid.pending, valid.isEmpty, ?_⟩
    rintro few ⟨call, answer⟩ member
    obtain ⟨number, found⟩ := List.mem_iff_getElem?.mp member
    calc call.id ≤ s.service.tracker.issued := valid.id_le_issued found
      _ = s.calls.length := valid.issued
      _ = starts moves := Session.length_run_new handle settings moves
      _ < UInt64.size := few

/-- Two calls for one document overlap, and a call for another document is cancelled: the second call
is answered although its catalog failed, the other two are not, and the tracker ends up empty. -/
theorem newest_call_is_answered_overlapping :
    let first : Occurrence := ⟨"a.xml", "ti:x", 0, "ti:x"⟩
    let other : Occurrence := ⟨"b.xml", "ti:x", 0, "ti:x"⟩
    let found : Except CatalogError Catalog := .ok (Catalog.ofModels [])
    let failed : Except CatalogError Catalog := .error (.unavailable "gone")
    let moves : List Move := [.start first 1, .start other 0, .start first 2, .finish 0 found,
      .cancel "b.xml", .finish 2 failed, .finish 1 found]
    let s := (Session.new (Handle.ready (Catalog.ofModels [])) Settings.default).run moves
    (∃ call, s.calls[0]? = some (call, some .superseded)) ∧
      (∃ call, s.calls[1]? = some (call, some .superseded)) ∧
      (∃ call items, s.calls[2]? = some (call, some (.items items))) ∧
      s.service.tracker.newest.isEmpty = true ∧ ∀ entry ∈ s.calls, entry.1.id < UInt64.size := by
  intro first other found failed moves
  dsimp only
  obtain ⟨calls, states, -⟩ :=
    newest_call_is_answered (Handle.ready (Catalog.ofModels [])) Settings.default
  obtain ⟨call₀, answer₀, ends₀, -, late₀, -⟩ := calls [] [.start other 0, .start first 2]
    [.cancel "b.xml", .finish 2 failed, .finish 1 found] first 1 found (by simp [Session.Unfinished])
  obtain ⟨call₁, answer₁, ends₁, -, late₁, -⟩ := calls [.start first 1]
    [.start first 2, .finish 0 found, .cancel "b.xml", .finish 2 failed] [] other 0 found
    (by simp [Session.Unfinished, starts, Move.isStart])
  obtain ⟨call₂, answer₂, ends₂, -, -, newest₂⟩ := calls [.start first 1, .start other 0]
    [.finish 0 found, .cancel "b.xml"] [.finish 1 found] first 2 failed
    (by simp [Session.Unfinished, starts, List.countP_cons, Move.isStart])
  obtain rfl : answer₀ = .superseded := late₀.mpr ⟨.start first 2, by simp, rfl⟩
  obtain rfl : answer₁ = .superseded := late₁.mpr ⟨.cancel "b.xml", by simp, rfl⟩
  obtain ⟨items, rfl⟩ := (newest₂ (by decide)).mpr (by simp [Move.Disturbs, first])
  obtain ⟨-, idle, numbers⟩ := states moves
  refine ⟨⟨call₀, ends₀⟩, ⟨call₁, ends₁⟩, ⟨call₂, items, ends₂⟩, idle ?_, numbers (by decide)⟩
  rintro ⟨call, answer⟩ member
  obtain ⟨number, found⟩ := List.mem_iff_getElem?.mp member
  obtain ⟨bound, -⟩ := List.getElem?_eq_some_iff.mp found
  rw [Session.length_run_new] at bound
  have few : number < 3 := bound
  obtain rfl | rfl | rfl : number = 0 ∨ number = 1 ∨ number = 2 := by omega
  · cases found.symm.trans ends₀
    simp
  · cases found.symm.trans ends₁
    simp
  · cases found.symm.trans ends₂
    simp

end EndpointUri
