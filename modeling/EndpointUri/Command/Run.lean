import EndpointUri.Catalog.Index
import EndpointUri.Command.Arguments
import EndpointUri.Command.Print
import EndpointUri.Completion.Request
import EndpointUri.Editor.Item
import EndpointUri.Journal.Directive
import EndpointUri.Settings.Load
import EndpointUri.Text.ControlSequence
import EndpointUri.Uri.Node

/-!
Running a command: settings are loaded first, then the command works, and what it reports passes
the filter that settings and directives make. Files are looked up in any monad, so the same program
runs on the disk and on a tree in memory.
-/
namespace EndpointUri

structure Report where
  exitCode : Nat
  output : String
  errorOutput : String
  deriving DecidableEq, Repr

structure Surroundings where
  environment : Environment
  /-- Settings of the project are looked for here. -/
  workingDirectory : Option String
  directives : Option String

variable {m : Type → Type} [Monad m]

abbrev Lookup (m : Type → Type) := String → m (Except FileError FileNode)

namespace Settings

def placeAt (lookup : Lookup m) : Option String → m (Option Place)
  | none => return none
  | some path => return some ⟨path, .ofFound (← lookup path)⟩

def loadFrom (lookup : Lookup m) (environment : Environment) (root : Option String)
    (override : Option Json) : m Outcome := do
  let user ← placeAt lookup (userPath? environment)
  let project ← placeAt lookup (root.map projectPath)
  return load user project override

end Settings

namespace Command

def versionText : String := "camel-uri-ls 0.1.0\n"

def usageText : String :=
  "Usage: camel-uri-ls parse <URI>\n" ++
    "       camel-uri-ls complete <URI> --offset <OFFSET> [--catalog <CATALOG>]\n" ++
    "       camel-uri-ls --version\n"

/-- The end of a command: its output, or a message that says why there is none. -/
abbrev Ending := Except String String

def printed (json : Json) : Ending := .ok (json.pretty 0 ++ "\n")

def noCatalogMessage : String :=
  "no component catalog. Pass --catalog or set catalogPath in camel-uri-ls.toml."

/-- The command's own catalog path goes before that of the settings. -/
def catalogPath? (settings : Settings) (catalog : Option String) : Option String :=
  catalog.or settings.catalogPath

/-- Asks a new handle for the catalog at a path. Its load looks the path up. -/
def askPath (lookup : Lookup m) (path : String) :
    m (Logged (Option Handle × Except CatalogError Catalog)) := do
  let found ← lookup path
  let asked := (Handle.ofSource fun _ => SchemaIndex.loadCatalog path found).get
  return (fun (handle, outcome) => (some handle, outcome)) <$> asked

/-- Candidates are printed as a list; an error of the catalog is the command's own. -/
def ofOffered : Except CatalogError (List Candidate) → Ending
  | .ok candidates => printed (.array (candidates.map Candidate.toJson))
  | .error fault => .error fault.message

/-- The end of a completion: of its candidates those are offered that the settings leave. -/
def ofCompleted {σ : Type} (settings : Settings) (parsed : Logged Uri)
    (completed : Logged (σ × Except CatalogError (List Candidate))) : Logged Ending := do
  let _ ← parsed
  let (_, result) ← completed
  return ofOffered (result.map (·.filter (Candidate.offered settings.includeDeprecated)))

def perform (lookup : Lookup m) (settings : Settings) : Command → m (Logged Ending)
  | .version => return pure (.ok versionText)
  | .parse uri => return (fun uri => printed uri.toJson) <$> Uri.parseLogged uri
  | .complete uri offset catalog =>
    match catalogPath? settings catalog with
    | none => return pure (.error noCatalogMessage)
    | some path =>
      let parsed := Uri.parseLogged uri
      completeWith none (askPath lookup path) (ofCompleted settings parsed) parsed.value.schemePath
        offset

def journalFilter (settings : Settings) (directives : Option String) : JournalFilter :=
  let filter := JournalFilter.uniform settings.logLevel
  match directives with
  | some text => filter.add text
  | none => filter

/-- The report of an ending: shown records first, the message of a failure last. A control sequence
that a record leaves open takes the end of its line along, but never reaches the next record. -/
def report (filter : JournalFilter) (ending : Logged Ending) : Report :=
  let shown := (ending.records.filter filter.shows).map fun record => Text.plain (record.line ++ "\n")
  match ending.value with
  | .ok output => ⟨0, output, String.join shown⟩
  | .error message => ⟨1, "", String.join shown ++ "Error: " ++ message ++ "\n"⟩

def run (lookup : Lookup m) (here : Surroundings) (command : Command) : m Report := do
  let outcome ← Settings.loadFrom lookup here.environment here.workingDirectory none
  let ending ← perform lookup outcome.settings command
  let reported : Logged Ending := ⟨ending.value, outcome.events.map Event.record ++ ending.records⟩
  return report (journalFilter outcome.settings here.directives) reported

/-- Arguments that make no command end the run with code 2, without looking at any file; the
version needs no settings either. -/
def runArguments (lookup : Lookup m) (here : Surroundings) (arguments : List String) : m Report :=
  match ofArguments? arguments with
  | none => return ⟨2, "", usageText⟩
  | some .version => return ⟨0, versionText, ""⟩
  | some command => run lookup here command

end Command
end EndpointUri
