import Std.Data.HashMap
import EndpointUri.Catalog.Schema
import EndpointUri.File.Path
import EndpointUri.Journal
import EndpointUri.Json.Reader

/-!
The catalog of schema documents: the models in the order in which they came, and where the model
of each scheme stands among them. The first model of a scheme stays, later ones are passed over
with a warning.
-/
namespace EndpointUri

structure SchemaIndex where
  models : List ComponentModel
  positions : Std.HashMap String Nat

namespace SchemaIndex

def empty : SchemaIndex := ⟨[], ∅⟩

def size (index : SchemaIndex) : Nat := index.models.length

def isEmpty (index : SchemaIndex) : Bool := index.models.isEmpty

def lookup (index : SchemaIndex) (name : String) : Except CatalogError ComponentModel :=
  match index.positions[name]?.bind (index.models[·]?) with
  | some model => .ok model
  | none => .error (.componentNotFound name)

def toCatalog (index : SchemaIndex) : Catalog where
  names := index.models.map (·.scheme)
  model := index.lookup

def insert (index : SchemaIndex) (origin : String) (model : ComponentModel) :
    Logged SchemaIndex :=
  if index.positions.contains model.scheme then do
    Logged.log .warn .catalog
      ("Ignoring duplicate component '" ++ model.scheme ++ "' from " ++ origin)
    return index
  else
    return ⟨index.models ++ [model], index.positions.insert model.scheme index.models.length⟩

/-- Adds schemas up to the first that does not decode; those before it stay. -/
def addSchemas (origin : String) :
    SchemaIndex → List Json → Logged (SchemaIndex × Except CatalogError Unit)
  | index, [] => return (index, .ok ())
  | index, schema :: rest =>
    match ComponentModel.ofSchema schema with
    | .error fault => return (index, .error (.schema origin fault.message))
    | .ok model => do
      let index ← index.insert origin model
      addSchemas origin index rest

/-- A document is an array of schemas or a single one. -/
def schemasOf : Json → List Json
  | .array items => items
  | single => [single]

/-- Stands for what the reader itself says of text that is not JSON; its wording is not told here. -/
def syntaxFault : String := "<json syntax error>"

def addDocument (index : SchemaIndex) (origin text : String) :
    Logged (SchemaIndex × Except CatalogError Unit) :=
  match Json.parse text with
  | none => return (index, .error (.schema origin syntaxFault))
  | some document => addSchemas origin index (schemasOf document)

/-- A document on its own: there is no partial catalog. -/
def ofDocument (origin text : String) : Logged (Except CatalogError SchemaIndex) := do
  let (index, outcome) ← empty.addDocument origin text
  return outcome.map fun _ => index

/-- Adds files in the given order up to the first that cannot be read or does not decode. -/
def addFiles (directory : String) :
    SchemaIndex → List (String × FileNode) → Logged (Except CatalogError SchemaIndex)
  | index, [] => return .ok index
  | index, (name, node) :: rest =>
    match node.read with
    | .error cause => return .error (.file cause)
    | .ok text => do
      let (index, outcome) ← index.addDocument (Path.join directory name) text
      match outcome with
      | .error fault => return .error fault
      | .ok () => addFiles directory index rest

def isSchemaFile (name : String) : Bool := Path.extension? name == some "json"

/-- The schema files of a directory in the order of their names. -/
def schemaFiles (entries : List (String × FileNode)) : List (String × FileNode) :=
  (entries.filter fun (name, _) => isSchemaFile name).mergeSort fun a b => !decide (b.1 < a.1)

/-- The documents found at a path: a directory of schema files, or one file. -/
def readFrom (path : String) : Except FileError FileNode → Logged (Except CatalogError SchemaIndex)
  | .ok (.directory entries) => addFiles path empty (schemaFiles entries)
  | .ok file =>
    match file.read with
    | .error cause => return .error (.file cause)
    | .ok text => ofDocument path text
  | .error cause => return .error (.file cause)

def load (path : String) (found : Except FileError FileNode) :
    Logged (Except CatalogError SchemaIndex) := do
  match ← readFrom path found with
  | .error fault => return .error fault
  | .ok index =>
    Logged.log .info .catalog ("Loaded " ++ Nat.repr index.size ++ " components from " ++ path)
    return .ok index

def loadCatalog (path : String) (found : Except FileError FileNode) :
    Logged (Except CatalogError Catalog) := do
  return (← load path found).map toCatalog

end SchemaIndex
end EndpointUri
