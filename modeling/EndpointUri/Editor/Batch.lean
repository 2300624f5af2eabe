import EndpointUri.Editor.Service

/-!
Tasks of a service that run side by side on one thread. All start in order, each up to its end or
to the wait for the catalog; then loads end one after the other, and the calls they serve finish
before the next load begins.
-/
namespace EndpointUri

inductive Task where
  | completion (occurrence : Occurrence) (cursor : Nat)
  | start (document : String)
  | active (document : String) (id : RequestId)
  | finish (document : String) (id : RequestId)
  | cancel (document : String)

inductive TaskResult where
  | answer (answer : Answer)
  | started (id : RequestId)
  | active (yes : Bool)
  | nothing

/-- A task has ended, or it is a call that waits. -/
inductive Progress where
  | ended (result : TaskResult)
  | waits (call : Call)

def Progress.result? : Progress → Option TaskResult
  | ended result => some result
  | waits _ => none

namespace Service

def begin (s : Service) (number : CallId) : Task → Logged (Service × Progress)
  | .completion occurrence cursor => do
    let (s, call) ← s.start occurrence cursor
    match call.request.items? with
    | some items =>
      let (s, answer) ← s.finish call (.ok items)
      return (s, .ended (.answer answer))
    | none =>
      let (handle, served) ← s.handle.request number
      let s := { s with handle }
      match served with
      | some catalog =>
        let (s, answer) ← s.conclude call (.ok catalog)
        return (s, .ended (.answer answer))
      | none => return (s, .waits call)
  | .start document =>
    let (tracker, id) := s.tracker.start document
    return ({ s with tracker }, .ended (.started id))
  | .active document id => return (s, .ended (.active (s.tracker.isActive document id)))
  | .finish document id =>
    return ({ s with tracker := s.tracker.finish document id }, .ended .nothing)
  | .cancel document => return ({ s with tracker := s.tracker.cancel document }, .ended .nothing)

def beginAll (s : Service) (number : CallId) : List Task → Logged (Service × List Progress)
  | [] => return (s, [])
  | task :: tasks => do
    let (s, progress) ← s.begin number task
    let (s, more) ← s.beginAll (number + 1) tasks
    return (s, progress :: more)

/-- Finishes the waiting calls that a load has served, in the order served. -/
def concludeAll (s : Service) (tasks : List Progress) :
    List (CallId × Except CatalogError Catalog) → Logged (Service × List Progress)
  | [] => return (s, tasks)
  | (number, outcome) :: served =>
    match tasks[number]? with
    | some (.waits call) => do
      let (s, answer) ← s.conclude call outcome
      s.concludeAll (tasks.set number (.ended (.answer answer))) served
    | _ => s.concludeAll tasks served

/-- Lets loads end until nobody waits. Each round serves at least one waiting call. -/
def drain (s : Service) (tasks : List Progress) : Nat → Logged (Service × List Progress)
  | 0 => return (s, tasks)
  | rounds + 1 => do
    let (handle, served) ← s.handle.settle
    let (s, tasks) ← concludeAll { s with handle } tasks served
    let handle ← s.handle.promote
    drain { s with handle } tasks rounds

/-- Runs tasks side by side; the results are in the order of the tasks. -/
def runAll (s : Service) (tasks : List Task) : Logged (Service × List TaskResult) := do
  let (s, progress) ← s.beginAll 0 tasks
  let (s, progress) ← s.drain progress tasks.length
  return (s, progress.filterMap Progress.result?)

end Service
end EndpointUri
