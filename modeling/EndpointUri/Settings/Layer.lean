import EndpointUri.Journal

/-!
Settings come in layers, each of which may set some of the fields. Layers merge with the later one
on top, and what no layer sets falls to a default.
-/
namespace EndpointUri

structure Layer where
  catalogPath : Option String
  includeDeprecated : Option Bool
  logLevel : Option String
  deriving DecidableEq, Repr

structure Settings where
  catalogPath : Option String
  includeDeprecated : Bool
  logLevel : Verbosity
  deriving DecidableEq, Repr

namespace Settings

def defaultIncludeDeprecated : Bool := true

def defaultLogLevel : Verbosity := .upTo .warn

def default : Settings := ⟨none, defaultIncludeDeprecated, defaultLogLevel⟩

/-- A level that is not known counts as the default level. -/
def ofLayer (layer : Layer) : Settings where
  catalogPath := layer.catalogPath
  includeDeprecated := layer.includeDeprecated.getD defaultIncludeDeprecated
  logLevel := (layer.logLevel.bind Verbosity.ofName?).getD defaultLogLevel

end Settings

namespace Layer

def defaults : Layer := ⟨none, some Settings.defaultIncludeDeprecated, some "warn"⟩

/-- Each field from the upper layer, or else from the lower. -/
def overlaid (lower upper : Layer) : Layer where
  catalogPath := upper.catalogPath.or lower.catalogPath
  includeDeprecated := upper.includeDeprecated.or lower.includeDeprecated
  logLevel := upper.logLevel.or lower.logLevel

def merge : Option Layer → Option Layer → Option Layer
  | none, none => none
  | some lower, none => some lower
  | none, some upper => some upper
  | some lower, some upper => some (lower.overlaid upper)

/-- All layers, lowest first. -/
def mergeAll : List (Option Layer) → Option Layer
  | [] => none
  | first :: rest => rest.foldl merge first

end Layer
end EndpointUri
