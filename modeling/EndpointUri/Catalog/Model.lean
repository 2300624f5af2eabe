import EndpointUri.File.Node
import EndpointUri.Text.Word

/-!
Component catalogs: which schemes there are and what is known about each. A catalog may list a
name and still fail to give its model.
-/
namespace EndpointUri

inductive CatalogError where
  | unavailable (message : String)
  | componentNotFound (name : String)
  | schema (origin message : String)
  | file (cause : FileError)
  deriving DecidableEq, Repr

def CatalogError.message : CatalogError → String
  | unavailable message => "Catalog unavailable: " ++ message
  | componentNotFound name => "Component not found in catalog: " ++ name
  | schema origin message => "Invalid component schema " ++ origin ++ ": " ++ message
  | file cause => "IO error: " ++ cause.message

/-- The metadata of a component as the catalog reports it; the deprecation mark is raw text. -/
structure ComponentModel where
  scheme : String
  description : Option String
  deprecated : Option String
  deriving DecidableEq, Repr

inductive Deprecation where
  | deprecated
  | current
  | unrecognized
  deriving DecidableEq, Repr

/-- An absent mark reads as current, and the words count in either case. -/
def Deprecation.ofMark : Option String → Deprecation
  | none => current
  | some mark =>
    if Text.sameWord mark "true" then deprecated
    else if Text.sameWord mark "false" then current
    else unrecognized

/-- A mark that is not understood does not deprecate. -/
def Deprecation.isDeprecated (d : Deprecation) : Bool := d == deprecated

def ComponentModel.deprecation (model : ComponentModel) : Deprecation :=
  Deprecation.ofMark model.deprecated

structure Catalog where
  names : List String
  model : String → Except CatalogError ComponentModel

/-- The catalog of a list of models: a name gives the first model of that scheme. -/
def Catalog.ofModels (models : List ComponentModel) : Catalog where
  names := models.map (·.scheme)
  model name :=
    match models.find? (·.scheme == name) with
    | some model => .ok model
    | none => .error (.componentNotFound name)

end EndpointUri
