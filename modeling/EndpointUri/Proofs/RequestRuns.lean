import EndpointUri.Completion.Request
import EndpointUri.Uri.Node
import Mathlib.Data.List.Induction

/-!
Whole runs of a completion request. Catalogs may come at any time and may fail; what the request
ends with depends only on the cursor and on the first catalog that served it while it waited.
-/
namespace EndpointUri

inductive Operation where
  | step (catalog : Option Catalog)
  | runUntilCatalog

namespace Request

def perform (r : Request) : Operation → Request × Option CatalogError
  | .step catalog => r.step catalog
  | .runUntilCatalog => (r.runUntilCatalog, none)

/-- The request after all operations, whatever errors they gave. -/
def performAll (r : Request) (operations : List Operation) : Request :=
  operations.foldl (fun r operation => (r.perform operation).1) r

@[simp] theorem performAll_nil (r : Request) : r.performAll [] = r := rfl

@[simp] theorem performAll_cons (r : Request) (operation : Operation) (rest : List Operation) :
    r.performAll (operation :: rest) = (r.perform operation).1.performAll rest := rfl

@[simp] theorem performAll_append (r : Request) (first second : List Operation) :
    r.performAll (first ++ second) = (r.performAll first).performAll second :=
  List.foldl_append

/-! ### The loop that needs no catalog -/

/-- The loop stops here: the request is done or waits for a catalog. -/
def Settled (r : Request) : Prop := r.isDone = true ∨ r.state = .awaitingCatalog

def stepsLeft (r : Request) : Nat :=
  match r.state with
  | .start => if r.inRange then 1 else 2
  | .outOfRange | .filtering _ => 1
  | .awaitingCatalog | .done _ => 0

theorem stepsLeft_eq_zero_iff (r : Request) : r.stepsLeft = 0 ↔ r.Settled := by
  obtain ⟨region, offset, state⟩ := r
  cases state with
  | start => by_cases inside : inRange ⟨region, offset, .start⟩ <;>
      simp [stepsLeft, Settled, isDone, inside]
  | _ => simp [stepsLeft, Settled, isDone]

theorem stepsLeft_le_rank (r : Request) : r.stepsLeft ≤ r.state.rank := by
  obtain ⟨region, offset, state⟩ := r
  cases state with
  | start => by_cases inside : inRange ⟨region, offset, .start⟩ <;>
      simp [stepsLeft, RequestState.rank, inside]
  | _ => simp [stepsLeft, RequestState.rank]

theorem step_none_error (r : Request) : (r.step none).2 = none := by
  obtain ⟨region, offset, state⟩ := r
  cases state <;> rfl

theorem stepsLeft_step_none (r : Request) : (r.step none).1.stepsLeft = r.stepsLeft - 1 := by
  obtain ⟨region, offset, state⟩ := r
  cases state with
  | start => by_cases inside : inRange ⟨region, offset, .start⟩ <;> simp [step, stepsLeft, inside]
  | _ => rfl

theorem stepsLeft_stepTimes (count : Nat) (r : Request) :
    (stepTimes count r).stepsLeft = r.stepsLeft - count := by
  induction count generalizing r with
  | zero => rfl
  | succ count ih =>
    rw [stepTimes, ih, stepsLeft_step_none]
    omega

theorem Settled.step_none {r : Request} (settled : r.Settled) : (r.step none).1 = r := by
  obtain ⟨region, offset, state⟩ := r
  cases state <;> first | rfl | simp [Settled, isDone] at settled

theorem Settled.stepTimes {r : Request} (settled : r.Settled) (count : Nat) :
    Request.stepTimes count r = r := by
  induction count with
  | zero => rfl
  | succ count ih => rw [Request.stepTimes, settled.step_none, ih]

theorem stepTimes_add (first second : Nat) (r : Request) :
    stepTimes (first + second) r = stepTimes second (stepTimes first r) := by
  induction first generalizing r with
  | zero => rw [Nat.zero_add, stepTimes]
  | succ first ih => rw [Nat.succ_add, stepTimes, ih, stepTimes]

/-- The loop stops after at most two steps, each of them needed and none of them failing. -/
theorem runUntilCatalog_is_loop (r : Request) :
    ∃ count ≤ 2, r.runUntilCatalog = stepTimes count r ∧ r.runUntilCatalog.Settled ∧
      ∀ earlier < count, ¬ (stepTimes earlier r).Settled ∧
        ((stepTimes earlier r).step none).2 = none := by
  have settled : (stepTimes r.stepsLeft r).Settled := by
    rw [← stepsLeft_eq_zero_iff, stepsLeft_stepTimes, Nat.sub_self]
  have bound := stepsLeft_le_rank r
  have same : r.runUntilCatalog = stepTimes r.stepsLeft r := by
    rw [runUntilCatalog, ← Nat.add_sub_cancel' bound, stepTimes_add, settled.stepTimes]
  refine ⟨r.stepsLeft, ?_, same, same ▸ settled, ?_⟩
  · have most : r.state.rank ≤ 2 := by cases r.state <;> simp [RequestState.rank]
    omega
  · intro earlier before
    refine ⟨?_, step_none_error _⟩
    rw [← stepsLeft_eq_zero_iff, stepsLeft_stepTimes]
    omega

/-! ### One operation -/

theorem step_frame (r : Request) (catalog : Option Catalog) :
    (r.step catalog).1.region = r.region ∧ (r.step catalog).1.offset = r.offset := by
  unfold step
  split
  case h_3 =>
    split
    · exact ⟨rfl, rfl⟩
    · split <;> exact ⟨rfl, rfl⟩
  all_goals exact ⟨rfl, rfl⟩

theorem stepTimes_frame (count : Nat) (r : Request) :
    (stepTimes count r).region = r.region ∧ (stepTimes count r).offset = r.offset := by
  induction count generalizing r with
  | zero => exact ⟨rfl, rfl⟩
  | succ count ih =>
    obtain ⟨region, offset⟩ := step_frame r none
    rw [stepTimes, (ih _).1, (ih _).2, region, offset]
    exact ⟨rfl, rfl⟩

theorem perform_frame (r : Request) (operation : Operation) :
    (r.perform operation).1.region = r.region ∧ (r.perform operation).1.offset = r.offset := by
  cases operation with
  | step catalog => exact step_frame r catalog
  | runUntilCatalog => exact stepTimes_frame _ r

theorem performAll_frame (r : Request) (operations : List Operation) :
    (r.performAll operations).region = r.region ∧ (r.performAll operations).offset = r.offset := by
  induction operations generalizing r with
  | nil => exact ⟨rfl, rfl⟩
  | cons operation rest ih =>
    obtain ⟨region, offset⟩ := perform_frame r operation
    rw [performAll_cons, (ih _).1, (ih _).2, region, offset]
    exact ⟨rfl, rfl⟩

/-- Only a catalog that fails while the request waits for one gives an error. -/
theorem perform_error_iff (r : Request) (operation : Operation) (fault : CatalogError) :
    (r.perform operation).2 = some fault ↔
      r.state = .awaitingCatalog ∧ ∃ catalog, operation = .step (some catalog) ∧
        generate catalog r.region.scheme = .error fault := by
  obtain ⟨region, offset, state⟩ := r
  cases operation with
  | runUntilCatalog => simp [perform]
  | step catalog =>
    cases state with
    | awaitingCatalog =>
      cases catalog with
      | none => simp [perform, step]
      | some catalog =>
        cases made : generate catalog region.scheme <;> simp [perform, step, made]
    | _ => simp [perform, step]

theorem perform_start {r : Request} (state : r.state = .start) (operation : Operation) :
    if r.inRange then (r.perform operation).1.state = .awaitingCatalog
    else (r.perform operation).1.state = .outOfRange ∨ (r.perform operation).1.state = .done [] := by
  obtain ⟨region, offset, _⟩ := r
  cases state
  by_cases inside : inRange ⟨region, offset, .start⟩ <;> cases operation <;>
    simp [perform, step, runUntilCatalog, RequestState.rank, stepTimes, inside]

theorem perform_outOfRange {r : Request} (state : r.state = .outOfRange) (operation : Operation) :
    (r.perform operation).1.state = .done [] := by
  obtain ⟨region, offset, _⟩ := r
  cases state
  cases operation <;> rfl

/-- A waiting request goes on waiting unless it is given a catalog that does not fail. -/
theorem perform_awaiting {r : Request} (state : r.state = .awaitingCatalog)
    (operation : Operation) :
    (r.perform operation).1 = r ∧ (∀ catalog, operation = .step (some catalog) →
        ∃ fault, generate catalog r.region.scheme = .error fault) ∨
      ∃ catalog candidates, operation = .step (some catalog) ∧
        generate catalog r.region.scheme = .ok candidates ∧
        (r.perform operation).1.state = .filtering candidates := by
  obtain ⟨region, offset, _⟩ := r
  cases state
  cases operation with
  | runUntilCatalog => exact Or.inl ⟨rfl, by simp⟩
  | step catalog =>
    cases catalog with
    | none => exact Or.inl ⟨rfl, by simp⟩
    | some catalog =>
      cases made : generate catalog region.scheme with
      | error fault =>
        refine Or.inl ⟨by simp [perform, step, made], ?_⟩
        rintro _ ⟨⟩
        exact ⟨fault, made⟩
      | ok candidates =>
        exact Or.inr ⟨catalog, candidates, rfl, made, by simp [perform, step, made]⟩

theorem perform_filtering {r : Request} {candidates : List Candidate}
    (state : r.state = .filtering candidates) (operation : Operation) :
    (r.perform operation).1.state = .done (applyFilter r.filter candidates) := by
  obtain ⟨region, offset, _⟩ := r
  cases state
  cases operation <;> rfl

theorem perform_done {r : Request} {items : List Candidate} (state : r.state = .done items)
    (operation : Operation) : (r.perform operation).1 = r := by
  obtain ⟨region, offset, _⟩ := r
  cases state
  cases operation <;> rfl

theorem performAll_done {r : Request} {items : List Candidate} (state : r.state = .done items)
    (operations : List Operation) : r.performAll operations = r := by
  induction operations with
  | nil => rfl
  | cons operation rest ih => rw [performAll_cons, perform_done state, ih]

theorem performAll_filtering {r : Request} {candidates : List Candidate}
    (state : r.state = .filtering candidates) (operation : Operation) (rest : List Operation) :
    (r.performAll (operation :: rest)).state = .done (applyFilter r.filter candidates) := by
  have done := perform_filtering state operation
  rw [performAll_cons, performAll_done done, done]

/-! ### Histories -/

/-- No catalog that came while the request waited was of use. -/
def Unserved (r : Request) (operations : List Operation) : Prop :=
  ∀ before catalog after, operations = before ++ .step (some catalog) :: after →
    (r.performAll before).state = .awaitingCatalog →
    ∃ fault, generate catalog r.region.scheme = .error fault

/-- The candidates come from the first catalog that was of use while the request waited. -/
def FirstServed (r : Request) (operations : List Operation) (candidates : List Candidate) : Prop :=
  ∃ before catalog after, operations = before ++ .step (some catalog) :: after ∧
    (r.performAll before).state = .awaitingCatalog ∧ r.Unserved before ∧
    generate catalog r.region.scheme = .ok candidates

theorem FirstServed.append {r : Request} {operations : List Operation} {candidates : List Candidate}
    (served : r.FirstServed operations candidates) (more : List Operation) :
    r.FirstServed (operations ++ more) candidates := by
  obtain ⟨before, catalog, after, rfl, rest⟩ := served
  exact ⟨before, catalog, after ++ more, by simp, rest⟩

theorem Unserved.snoc {r : Request} {operations : List Operation} (unserved : r.Unserved operations)
    {operation : Operation}
    (useless : (r.performAll operations).state = .awaitingCatalog →
      ∀ catalog, operation = .step (some catalog) →
        ∃ fault, generate catalog r.region.scheme = .error fault) :
    r.Unserved (operations ++ [operation]) := by
  intro before catalog after split waits
  rcases List.eq_nil_or_concat after with rfl | ⟨front, last, rfl⟩
  · obtain ⟨rfl, same⟩ := List.append_inj' split rfl
    exact useless waits catalog (List.cons.inj same).1
  · have shape : operations ++ [operation] = (before ++ .step (some catalog) :: front) ++ [last] := by
      simp [split]
    exact unserved before catalog front (List.append_inj' shape rfl).1 waits

/-- What the history says about each state a request can be in. -/
def Explained (r : Request) (operations : List Operation) : Prop :=
  match (r.performAll operations).state with
  | .start => r.Unserved operations
  | .outOfRange => r.inRange = false
  | .awaitingCatalog => r.inRange = true ∧ r.Unserved operations
  | .filtering candidates => r.inRange = true ∧ r.FirstServed operations candidates
  | .done items =>
    r.inRange = true ∧ (∃ candidates, r.FirstServed operations candidates ∧
      items = applyFilter r.filter candidates) ∨
    r.inRange = false ∧ items = []

theorem performAll_inRange (r : Request) (operations : List Operation) :
    (r.performAll operations).inRange = r.inRange := by
  obtain ⟨region, offset⟩ := performAll_frame r operations
  rw [inRange, inRange, region, offset]

theorem performAll_filter (r : Request) (operations : List Operation) :
    (r.performAll operations).filter = r.filter := by
  obtain ⟨region, offset⟩ := performAll_frame r operations
  rw [filter, filter, region, offset]

theorem Explained.of_awaiting {r : Request} {operations : List Operation}
    (explained : r.Explained operations)
    (waits : (r.performAll operations).state = .awaitingCatalog) :
    r.inRange = true ∧ r.Unserved operations := by
  simpa only [Explained, waits] using explained

theorem Explained.of_filtering {r : Request} {operations : List Operation}
    (explained : r.Explained operations) {candidates : List Candidate}
    (filters : (r.performAll operations).state = .filtering candidates) :
    r.inRange = true ∧ r.FirstServed operations candidates := by
  simpa only [Explained, filters] using explained

theorem Explained.of_done {r : Request} {operations : List Operation}
    (explained : r.Explained operations) {items : List Candidate}
    (done : (r.performAll operations).state = .done items) :
    r.inRange = true ∧ (∃ candidates, r.FirstServed operations candidates ∧
        items = applyFilter r.filter candidates) ∨
      r.inRange = false ∧ items = [] := by
  simpa only [Explained, done] using explained

/-- One more operation keeps the history in step with the state. -/
theorem Explained.snoc {r : Request} {operations : List Operation} (explained : r.Explained operations)
    (operation : Operation) : r.Explained (operations ++ [operation]) := by
  obtain ⟨region, -⟩ := performAll_frame r operations
  unfold Explained at explained ⊢
  rw [performAll_append, performAll_cons, performAll_nil]
  cases state : (r.performAll operations).state with
  | start =>
    simp only [state] at explained
    have next := perform_start state operation
    rw [performAll_inRange] at next
    by_cases inside : r.inRange
    · rw [if_pos inside] at next
      rw [next]
      -- Whatever the operation brings comes before the wait begins.
      exact ⟨inside, explained.snoc fun waits => by simp [state] at waits⟩
    · rw [if_neg inside] at next
      have outside : r.inRange = false := Bool.eq_false_iff.mpr inside
      rcases next with next | next <;> rw [next]
      · exact outside
      · exact Or.inr ⟨outside, rfl⟩
  | outOfRange =>
    simp only [state] at explained
    rw [perform_outOfRange state]
    exact Or.inr ⟨explained, rfl⟩
  | awaitingCatalog =>
    simp only [state] at explained
    obtain ⟨inside, unserved⟩ := explained
    rcases perform_awaiting state operation with
      ⟨same, useless⟩ | ⟨catalog, candidates, rfl, made, next⟩
    · rw [same, state]
      rw [region] at useless
      exact ⟨inside, unserved.snoc fun _ => useless⟩
    · rw [next]
      rw [region] at made
      exact ⟨inside, operations, catalog, [], rfl, state, unserved, made⟩
  | filtering candidates =>
    simp only [state] at explained
    rw [perform_filtering state, performAll_filter]
    exact Or.inl ⟨explained.1, candidates, explained.2.append _, rfl⟩
  | done items =>
    simp only [state] at explained
    rw [perform_done state, state]
    rcases explained with ⟨inside, candidates, served, same⟩ | outside
    · exact Or.inl ⟨inside, candidates, served.append _, same⟩
    · exact Or.inr outside

theorem explained_new (region : SchemePath) (offset : Nat) (operations : List Operation) :
    (new region offset).Explained operations := by
  induction operations using List.reverseRecOn with
  | nil =>
    intro before catalog after split
    simp at split
  | append_singleton operations operation ih => exact ih.snoc operation

theorem FirstServed.state {r : Request} {operations : List Operation} {candidates : List Candidate}
    (served : r.FirstServed operations candidates) :
    (r.performAll operations).state = .filtering candidates ∨
      (r.performAll operations).state = .done (applyFilter r.filter candidates) := by
  obtain ⟨before, catalog, after, rfl, waits, -, made⟩ := served
  obtain ⟨region, -⟩ := performAll_frame r before
  rcases perform_awaiting waits (.step (some catalog)) with
    ⟨-, useless⟩ | ⟨_, given, same, made', next⟩
  · obtain ⟨fault, failed⟩ := useless catalog rfl
    rw [region, made] at failed
    contradiction
  cases same
  rw [region, made] at made'
  cases made'
  have filters : (r.performAll (before ++ [.step (some catalog)])).state = .filtering candidates := by
    rw [performAll_append]
    exact next
  rw [List.append_cons, performAll_append]
  cases after with
  | nil => exact Or.inl filters
  | cons operation rest =>
    rw [performAll_filtering filters, performAll_filter]
    exact Or.inr rfl

/-- One operation later a served request is done, and it stays so. -/
theorem FirstServed.done {r : Request} {operations : List Operation} {candidates : List Candidate}
    (served : r.FirstServed operations candidates) (operation : Operation)
    (more : List Operation) :
    (r.performAll (operations ++ operation :: more)).state =
      .done (applyFilter r.filter candidates) := by
  rw [performAll_append]
  rcases served.state with filters | done
  · rw [performAll_filtering filters, performAll_filter]
  · rw [performAll_done done, done]

/-! ### Requests of a call -/

theorem runUntilCatalog_new (region : SchemePath) (offset : Nat) :
    (new region offset).runUntilCatalog =
      ⟨region, offset, if region.span.touches offset then .awaitingCatalog else .done []⟩ := by
  by_cases inside : region.span.touches offset <;>
    simp [new, runUntilCatalog, RequestState.rank, stepTimes, step, inRange, inside]

/-- The catalog a request waited for decides its result at once. -/
theorem resume_value {r : Request} (waits : r.state = .awaitingCatalog)
    (outcome : Except CatalogError Catalog) :
    (r.resume outcome).value = do
      let catalog ← outcome
      let candidates ← generate catalog r.region.scheme
      return applyFilter r.filter candidates := by
  obtain ⟨region, offset, _⟩ := r
  cases waits
  cases outcome with
  | error fault => rfl
  | ok catalog =>
    cases made : generate catalog region.scheme <;>
      simp [resume, stepLogged, step, made, runLogged, runUntilCatalog, RequestState.rank, stepTimes,
        items?, filter, bind, Except.bind, pure, Except.pure]

end Request

section Completion

variable {m : Type → Type} [Monad m] {σ β : Type} (idle : σ)
  (ask : m (Logged (σ × Except CatalogError Catalog)))
  (use : Logged (σ × Except CatalogError (List Candidate)) → β) {region : SchemePath} {offset : Nat}

/-- Out of range the result is there without any effect. -/
theorem completeWith_outside (outside : region.span.touches offset = false) :
    completeWith idle ask use region offset = pure (use (pure (idle, .ok []))) := by
  have done : (Request.new region offset).runLogged = ⟨⟨region, offset, .done []⟩, []⟩ := by
    refine Logged.ext ((Request.runUntilCatalog_new region offset).trans ?_) rfl
    rw [outside]
    rfl
  rw [completeWith, done]
  rfl

theorem completeWith_inside (inside : region.span.touches offset = true) :
    completeWith idle ask use region offset = do
      let asked ← ask
      return use do
        let (state, outcome) ← asked
        let result ← Request.resume ⟨region, offset, .awaitingCatalog⟩ outcome
        return (state, result) := by
  have waits : (Request.new region offset).runLogged = ⟨⟨region, offset, .awaitingCatalog⟩, []⟩ := by
    refine Logged.ext ((Request.runUntilCatalog_new region offset).trans ?_) rfl
    rw [inside]
    rfl
  rw [completeWith, waits]
  rfl

end Completion

/-- A completion asks the handle only in range, and then keeps what fits of the catalog it got. -/
theorem complete_value (handle : Handle) (region : SchemePath) (offset : Nat) :
    (complete handle region offset).value =
      if region.span.touches offset then
        (handle.get.value.1, do
          let catalog ← handle.get.value.2
          let candidates ← generate catalog region.scheme
          return applyFilter (typedFilter region.scheme offset) candidates)
      else (handle, .ok []) := by
  by_cases inside : region.span.touches offset = true
  · rw [complete, completeWith_inside _ _ _ inside, if_pos inside]
    exact congrArg (Prod.mk _) (Request.resume_value rfl _)
  · rw [complete, completeWith_outside _ _ _ (Bool.eq_false_iff.mpr inside), if_neg inside]
    rfl

/-- Over all runs of a request for a text and an offset: an error leaves a waiting request as it was
and comes at no other time; a finished request keeps its items; a request is served only in range
and then ends with what fits of the first catalog that was of use; out of range it ends with
nothing; and the steps that need no catalog come to an end. -/
theorem request_over_whole_runs (text : String) (offset : Nat) :
    let region := SchemePath.ofText text
    let request := Request.new region offset
    let items := applyFilter (typedFilter region.scheme offset)
    (∀ operations operation fault,
      ((request.performAll operations).perform operation).2 = some fault →
        (request.performAll operations).state = .awaitingCatalog ∧
        ((request.performAll operations).perform operation).1 = request.performAll operations) ∧
    (∀ operations more finished, (request.performAll operations).state = .done finished →
      (request.performAll (operations ++ more)).state = .done finished) ∧
    (∀ operations candidates, (request.performAll operations).state = .filtering candidates →
      region.span.touches offset = true ∧ request.FirstServed operations candidates) ∧
    (∀ operations finished, region.span.touches offset = true →
      (request.performAll operations).state = .done finished →
        ∃ candidates, request.FirstServed operations candidates ∧ finished = items candidates) ∧
    (∀ operations candidates, request.FirstServed operations candidates →
      region.span.touches offset = true ∧
      ((request.performAll operations).state = .filtering candidates ∨
        (request.performAll operations).state = .done (items candidates)) ∧
      ∀ operation more, (request.performAll (operations ++ operation :: more)).state =
        .done (items candidates)) ∧
    (region.span.touches offset = false → ∀ operations finished,
      (request.performAll operations).state = .done finished → finished = []) ∧
    (∀ operations, ∃ count ≤ 2,
      let reached := request.performAll operations
      reached.runUntilCatalog = Request.stepTimes count reached ∧
      reached.runUntilCatalog.Settled ∧
      ∀ earlier < count, ¬ (Request.stepTimes earlier reached).Settled ∧
        ((Request.stepTimes earlier reached).step none).2 = none) := by
  intro region request items
  refine ⟨?_, ?_, ?_, ?_, ?_, ?_, fun operations => Request.runUntilCatalog_is_loop _⟩
  · intro operations operation fault failed
    obtain ⟨waits, catalog, rfl, made⟩ := (Request.perform_error_iff _ _ _).mp failed
    refine ⟨waits, ?_⟩
    rcases Request.perform_awaiting waits (.step (some catalog)) with
      ⟨same, -⟩ | ⟨_, _, same, ok, -⟩
    · exact same
    · cases same
      rw [made] at ok
      contradiction
  · intro operations more finished done
    rw [Request.performAll_append, Request.performAll_done done, done]
  · intro operations candidates filters
    exact (Request.explained_new region offset operations).of_filtering filters
  · intro operations finished inside done
    rcases (Request.explained_new region offset operations).of_done done with
      ⟨-, served⟩ | ⟨outside, -⟩
    · exact served
    · have touched : request.inRange = true := inside
      rw [outside] at touched
      contradiction
  · intro operations candidates served
    refine ⟨?_, served.state, served.done⟩
    obtain ⟨before, _, _, -, waits, -⟩ := served
    exact ((Request.explained_new region offset before).of_awaiting waits).1
  · intro outside operations finished done
    rcases (Request.explained_new region offset operations).of_done done with
      ⟨inside, -⟩ | ⟨-, empty⟩
    · have untouched : request.inRange = false := outside
      rw [inside] at untouched
      contradiction
    · exact empty

/-- A catalog that fails and a step without one change nothing; the first catalog that serves decides,
also against those after it. Past the path the same catalogs are of no use. -/
theorem request_over_whole_runs_second_catalog :
    let failing : Catalog := ⟨["x"], fun name => .error (.componentNotFound name)⟩
    let serving := Catalog.ofModels [⟨"timer", none, none⟩, ⟨"ahc", none, none⟩]
    let request := Request.new (SchemePath.ofText "ti:x") 2
    let waiting := [.runUntilCatalog, .step (some failing), .step none]
    let outside := Request.new (SchemePath.ofText "ti:x?k") 6
    ((request.performAll waiting).perform (.step (some failing))).1 = request.performAll waiting ∧
      (request.performAll (waiting ++ .step (some serving) :: [.step (some failing)])).state =
        .done [⟨"timer", none, false, ⟨0, 2⟩⟩] ∧
      (outside.performAll waiting).isDone = true ∧
      ∀ finished, (outside.performAll waiting).state = .done finished → finished = [] := by
  intro failing serving request waiting outside
  have waits : (request.performAll waiting).state = .awaitingCatalog := by decide
  have served : request.FirstServed (waiting ++ [.step (some serving)])
      [⟨"timer", none, false, ⟨0, 2⟩⟩, ⟨"ahc", none, false, ⟨0, 2⟩⟩] :=
    ⟨waiting, serving, [], rfl, waits,
      ((Request.explained_new _ _ waiting).of_awaiting waits).2, by rfl⟩
  obtain ⟨failure, -, -, -, first, -⟩ := request_over_whole_runs "ti:x" 2
  obtain ⟨-, -, -, -, -, outOfRange, -⟩ := request_over_whole_runs "ti:x?k" 6
  refine ⟨?_, ?_, by decide, outOfRange (by decide) waiting⟩
  · exact (failure waiting _ (.componentNotFound "x") (by decide)).2
  · exact ((first _ _ served).2.2 (.step (some failing)) []).trans (by decide)

end EndpointUri
