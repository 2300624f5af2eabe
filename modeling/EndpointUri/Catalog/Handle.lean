import EndpointUri.Catalog.Model
import EndpointUri.Journal

/-!
A handle loads its catalog when the first call asks for it and keeps it from then on. One load
runs at a time; calls that come meanwhile wait in line. After a failed load only its own caller
gets the error, and the next in line loads again.
-/
namespace EndpointUri

abbrev Load := Logged (Except CatalogError Catalog)

abbrev CallId := Nat

structure Handle where
  /-- The result of each load, by the number of loads begun before it. -/
  source : Nat → Load
  loaded : Option Catalog
  loads : Nat
  loading : Option CallId
  /-- The calls in line, first come first. -/
  waiting : List CallId

namespace Handle

def ofSource (source : Nat → Load) : Handle := ⟨source, none, 0, none, []⟩

def ready (catalog : Catalog) : Handle :=
  ⟨fun _ => return .error (.unavailable "catalog already loaded"), some catalog, 0, none, []⟩

def isLoaded (h : Handle) : Bool := h.loaded.isSome

def describe (h : Handle) : String :=
  "CatalogHandle \x7b loaded: " ++ (if h.isLoaded then "true" else "false") ++ ", .. \x7d"

def beginLoad (h : Handle) (id : CallId) : Logged Handle := do
  Logged.log .debug .catalog "Loading component catalog"
  return { h with loads := h.loads + 1, loading := some id }

/-- A call arrives. It is served at once if the catalog is there; else it loads, or waits behind
those that came before. -/
def request (h : Handle) (id : CallId) : Logged (Handle × Option Catalog) :=
  match h.loaded with
  | some catalog => return (h, some catalog)
  | none =>
    if h.loading.isNone && h.waiting.isEmpty then do
      let h ← h.beginLoad id
      return (h, none)
    else return ({ h with waiting := h.waiting ++ [id] }, none)

/-- The load in flight ends. Success serves its caller and everyone in line, failure its caller
alone. -/
def settle (h : Handle) : Logged (Handle × List (CallId × Except CatalogError Catalog)) :=
  match h.loading with
  | none => return (h, [])
  | some id => do
    match ← h.source (h.loads - 1) with
    | .ok catalog =>
      return ({ h with loaded := some catalog, loading := none, waiting := [] },
        (id :: h.waiting).map fun waiter => (waiter, .ok catalog))
    | .error fault =>
      Logged.log .warn .catalog ("Catalog load failed: " ++ fault.message)
      return ({ h with loading := none }, [(id, .error fault)])

/-- The next in line begins a load, when none is in flight. -/
def promote (h : Handle) : Logged Handle :=
  match h.loading, h.waiting with
  | none, id :: rest => Handle.beginLoad { h with waiting := rest } id
  | _, _ => return h

/-- A call with no other call around it. -/
def get (h : Handle) : Logged (Handle × Except CatalogError Catalog) := do
  let (h, served) ← h.request 0
  match served with
  | some catalog => return (h, .ok catalog)
  | none =>
    let (h, outcomes) ← h.settle
    match outcomes with
    | (_, outcome) :: _ => return (h, outcome)
    | [] => return (h, .error (.unavailable "no load in flight"))

/-- Lets loads end one after the other until nobody is served any more. Each failed load takes one
call out of the line, so the line's length bounds the rounds. -/
def drain (h : Handle) : Nat → Logged (Handle × List (CallId × Except CatalogError Catalog))
  | 0 => return (h, [])
  | rounds + 1 => do
    let (h, served) ← h.settle
    let h ← h.promote
    let (h, more) ← h.drain rounds
    return (h, served ++ more)

def requestAll (h : Handle) : List CallId → Logged (Handle × List (CallId × Catalog))
  | [] => return (h, [])
  | id :: ids => do
    let (h, served) ← h.request id
    let (h, more) ← h.requestAll ids
    return (h, (served.map (id, ·)).toList ++ more)

/-- As many calls at once; the results are in the order of the calls. -/
def getAll (h : Handle) (count : Nat) : Logged (Handle × List (Except CatalogError Catalog)) := do
  let (h, atOnce) ← h.requestAll (List.range count)
  let (h, later) ← h.drain (h.waiting.length + 1)
  return (h, atOnce.map (.ok ·.2) ++ later.map (·.2))

end Handle
end EndpointUri
