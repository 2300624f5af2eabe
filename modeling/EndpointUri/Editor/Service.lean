import Std.Data.HashMap
import EndpointUri.Catalog.Index
import EndpointUri.Completion.Request
import EndpointUri.Editor.Item
import EndpointUri.Settings.Layer

/-!
The completion service of an editor. A call starts, perhaps waits for the catalog, and finishes;
between its steps other calls may go on. A tracker knows the newest call of each document; a call that
was superseded meanwhile has no answer. A catalog that fails gives an empty answer and a warning.
-/
namespace EndpointUri

abbrev RequestId := Nat

structure Tracker where
  /-- Number of requests started; they are numbered from one. -/
  issued : Nat
  newest : Std.HashMap String RequestId

namespace Tracker

def empty : Tracker := ⟨0, ∅⟩

/-- A new request for a document supersedes the one before. -/
def start (t : Tracker) (document : String) : Tracker × RequestId :=
  let id := t.issued + 1
  (⟨id, t.newest.insert document id⟩, id)

def isActive (t : Tracker) (document : String) (id : RequestId) : Bool :=
  t.newest[document]? == some id

/-- Forgets a request, if it is still the newest of its document. -/
def finish (t : Tracker) (document : String) (id : RequestId) : Tracker :=
  if t.isActive document id then { t with newest := t.newest.erase document } else t

def cancel (t : Tracker) (document : String) : Tracker :=
  { t with newest := t.newest.erase document }

end Tracker

/-- An endpoint URI inside a document. -/
structure Occurrence where
  /-- The address of the document. -/
  document : String
  documentText : String
  uriOffset : Nat
  uriText : String
  deriving DecidableEq, Repr

structure Service where
  handle : Handle
  settings : Settings
  tracker : Tracker

/-- A call that has started and not yet finished. -/
structure Call where
  id : RequestId
  occurrence : Occurrence
  request : Request
  deriving DecidableEq, Repr

/-- How a call ends. An edit may reach past the last offset only when the URI is not in the
document. -/
inductive Answer where
  | superseded
  | items (items : List CompletionItem)
  | pastLastOffset
  deriving DecidableEq, Repr

namespace Service

def new (handle : Handle) (settings : Settings) : Service := ⟨handle, settings, Tracker.empty⟩

/-- The loads of a service that reads its catalog from the path in its settings. Each looks the
path up anew. -/
def sourceOf (lookup : String → Except FileError FileNode) (settings : Settings) : Nat → Load :=
  match settings.catalogPath with
  | some path => fun _ => SchemaIndex.loadCatalog path (lookup path)
  | none => fun _ => return .error (.unavailable "no catalogPath configured")

def ofSettings (lookup : String → Except FileError FileNode) (settings : Settings) : Service :=
  new (Handle.ofSource (sourceOf lookup settings)) settings

/-- The cursor as an offset into the URI; before the URI it is out of every range. -/
def positionOf (occurrence : Occurrence) (cursor : Nat) : Nat :=
  if occurrence.uriOffset ≤ cursor then cursor - occurrence.uriOffset else Text.maxOffset

/-- Starts a call and runs it up to the point where it needs the catalog. -/
def start (s : Service) (occurrence : Occurrence) (cursor : Nat) : Logged (Service × Call) := do
  let (tracker, id) := s.tracker.start occurrence.document
  let uri ← Uri.parseLogged occurrence.uriText
  let request ← (Request.new uri.schemePath (positionOf occurrence cursor)).runLogged
  return ({ s with tracker }, ⟨id, occurrence, request⟩)

def finish (s : Service) (call : Call) (result : Except CatalogError (List Candidate)) :
    Logged (Service × Answer) := do
  let document := call.occurrence.document
  if !s.tracker.isActive document call.id then
    Logged.log .debug .completion ("Dropping superseded completion request " ++
      Nat.repr call.id ++ " for " ++ document)
    return (s, .superseded)
  else
    let s := { s with tracker := s.tracker.finish document call.id }
    let candidates ← match result with
      | .ok candidates => pure candidates
      | .error fault => do
        Logged.log .warn .completion
          ("Completion for " ++ document ++ " failed: " ++ fault.message)
        pure []
    let items? := CompletionItem.ofCandidates? call.occurrence.documentText
      call.occurrence.uriOffset s.settings.includeDeprecated candidates
    return (s, match items? with
      | some items => .items items
      | none => .pastLastOffset)

/-- Resumes a waiting call with the catalog it waited for, and finishes it. -/
def conclude (s : Service) (call : Call) (outcome : Except CatalogError Catalog) :
    Logged (Service × Answer) := do
  let result ← call.request.resume outcome
  s.finish call result

/-- A call with no other call around it. -/
def completion (s : Service) (occurrence : Occurrence) (cursor : Nat) :
    Logged (Service × Answer) := do
  let (s, call) ← s.start occurrence cursor
  match call.request.items? with
  | some items => s.finish call (.ok items)
  | none =>
    let (handle, outcome) ← s.handle.get
    conclude { s with handle } call outcome

end Service
end EndpointUri
