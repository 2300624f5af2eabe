import EndpointUri.Catalog.Handle
import EndpointUri.Completion.Candidate

/-!
A completion request runs in small steps: it checks that the cursor is on the scheme or the path,
waits for a catalog, takes its candidates, and keeps those that fit. Only the wait needs a catalog,
so a cursor elsewhere is answered without one.
-/
namespace EndpointUri

inductive RequestState where
  | start
  | outOfRange
  | awaitingCatalog
  | filtering (candidates : List Candidate)
  | done (items : List Candidate)
  deriving DecidableEq, Repr

/-- Steps that are left before the request waits or is done. -/
def RequestState.rank : RequestState → Nat
  | start => 2
  | outOfRange => 1
  | awaitingCatalog => 0
  | filtering _ => 1
  | done _ => 0

structure Request where
  region : SchemePath
  offset : Nat
  state : RequestState
  deriving DecidableEq, Repr

namespace Request

def new (region : SchemePath) (offset : Nat) : Request := ⟨region, offset, .start⟩

def inRange (r : Request) : Bool := r.region.span.touches r.offset

def isDone (r : Request) : Bool :=
  match r.state with
  | .done _ => true
  | _ => false

def items? (r : Request) : Option (List Candidate) :=
  match r.state with
  | .done items => some items
  | _ => none

def filter (r : Request) : Option String := typedFilter r.region.scheme r.offset

/-- One step, and the error if the catalog fails. -/
def step (r : Request) (catalog : Option Catalog) : Request × Option CatalogError :=
  match r.state with
  | .start => ({ r with state := if r.inRange then .awaitingCatalog else .outOfRange }, none)
  | .outOfRange => ({ r with state := .done [] }, none)
  | .awaitingCatalog =>
    match catalog with
    | none => (r, none)
    | some catalog =>
      match generate catalog r.region.scheme with
      | .ok candidates => ({ r with state := .filtering candidates }, none)
      | .error fault => (r, some fault)
  | .filtering candidates => ({ r with state := .done (applyFilter r.filter candidates) }, none)
  | .done _ => (r, none)

/-- What the next step reports: the filtering step says what it filters by. -/
def stepRecords (r : Request) : List Record :=
  match r.state with
  | .filtering candidates =>
    [⟨.debug, .completion, "filtering " ++ Nat.repr candidates.length ++ " candidates at " ++
      Nat.repr r.offset ++ " (" ++ (r.region.resolve r.offset).kind ++ ") with " ++
      Text.quotedOption r.filter⟩]
  | _ => []

def stepTimes : Nat → Request → Request
  | 0, r => r
  | n + 1, r => stepTimes n (r.step none).1

/-- All steps that need no catalog: afterwards the request waits for one or is done. -/
def runUntilCatalog (r : Request) : Request := stepTimes r.state.rank r

@[simp] theorem rank_runUntilCatalog (r : Request) : r.runUntilCatalog.state.rank = 0 := by
  obtain ⟨region, offset, state⟩ := r
  cases state with
  | start =>
    by_cases h : region.span.touches offset <;>
      simp [runUntilCatalog, stepTimes, step, RequestState.rank, inRange, h]
  | _ => simp [runUntilCatalog, stepTimes, step, RequestState.rank]

def stepLogged (r : Request) (catalog : Option Catalog) :
    Logged (Request × Option CatalogError) :=
  ⟨r.step catalog, r.stepRecords⟩

/-- The steps without a catalog, reporting. Only the first of them can be the filtering step. -/
def runLogged (r : Request) : Logged Request := ⟨r.runUntilCatalog, r.stepRecords⟩

/-- Carries a waiting request to its end with the catalog it waited for. -/
def resume (r : Request) (outcome : Except CatalogError Catalog) :
    Logged (Except CatalogError (List Candidate)) :=
  match outcome with
  | .error fault => return .error fault
  | .ok catalog => do
    let (r, failure) ← r.stepLogged (some catalog)
    match failure with
    | some fault => return .error fault
    | none =>
      let r ← r.runLogged
      return .ok (r.items?.getD [])

end Request

/-- A completion from start to end, and what is made of its result. The one who has the catalog is
asked only when the cursor is in range, and otherwise stays in the state `idle`. -/
def completeWith {m : Type → Type} [Monad m] {σ β : Type} (idle : σ)
    (ask : m (Logged (σ × Except CatalogError Catalog)))
    (use : Logged (σ × Except CatalogError (List Candidate)) → β) (region : SchemePath)
    (offset : Nat) : m β :=
  let started := (Request.new region offset).runLogged
  match started.value.items? with
  | some items => return use ((fun _ => (idle, .ok items)) <$> started)
  | none => do
    let asked ← ask
    return use do
      let request ← started
      let (state, outcome) ← asked
      let result ← request.resume outcome
      return (state, result)

def complete (handle : Handle) (region : SchemePath) (offset : Nat) :
    Logged (Handle × Except CatalogError (List Candidate)) :=
  Id.run (completeWith handle (pure handle.get) id region offset)

end EndpointUri
