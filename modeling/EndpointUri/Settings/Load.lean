import EndpointUri.File.Path
import EndpointUri.Settings.Source

/-!
Loading settings from their layers: defaults, the user's file, the project's file, an override. A
layer that is broken is reported and left out.
-/
namespace EndpointUri

inductive ConfigFile where
  | absent
  | unreadable (cause : FileError)
  | text (contents : String)

/-- A place that cannot be reached counts as empty. -/
def ConfigFile.ofFound : Except FileError FileNode → ConfigFile
  | .error _ => .absent
  | .ok node =>
    match node.read with
    | .ok contents => .text contents
    | .error cause => .unreadable cause

inductive ConfigError where
  | unreadable (path : String) (cause : FileError)
  | malformed (path : String)
  deriving DecidableEq, Repr

/-- Stands for what the reader itself says of text that is no TOML or holds a value of the wrong type;
its wording is not told here. -/
def tomlFault : String := "<toml error>"

def ConfigError.message : ConfigError → String
  | unreadable path cause => "Failed to read " ++ path ++ ": " ++ cause.message
  | malformed path => "Failed to parse " ++ path ++ ": " ++ tomlFault

/-- The layer of a settings file that messages call `name`. -/
def ConfigFile.layer (name : String) : ConfigFile → Except ConfigError (Option Layer)
  | absent => .ok none
  | unreadable cause => .error (.unreadable name cause)
  | text contents =>
    match Layer.ofToml? contents with
    | some layer => .ok (some layer)
    | none => .error (.malformed name)

inductive EventKind where
  | info
  | warning
  deriving DecidableEq, Repr

structure Event where
  kind : EventKind
  message : String
  deriving DecidableEq, Repr

def Event.record (event : Event) : Record :=
  match event.kind with
  | .info => ⟨.info, .config, event.message⟩
  | .warning => ⟨.warn, .config, event.message⟩

structure Environment where
  xdgConfigHome : Option String
  home : Option String

namespace Settings

def directoryName : String := "camel-uri-ls"

def fileName : String := "camel-uri-ls.toml"

/-- The user's configuration directory. An empty variable counts as unset. -/
def configHome? (env : Environment) : Option String :=
  match env.xdgConfigHome with
  | some directory =>
    if directory.isEmpty then env.home.map (Path.join · ".config") else some directory
  | none => env.home.map (Path.join · ".config")

def userPath? (env : Environment) : Option String :=
  (configHome? env).map fun base => Path.join (Path.join base directoryName) fileName

def projectPath (root : String) : String := Path.join root fileName

structure Place where
  path : String
  file : ConfigFile

def userLayer : Option Place → Except ConfigError (Option Layer)
  | none => .ok none
  | some place => place.file.layer place.path

/-- A part of the layers: perhaps a layer, and what is to be told about it. -/
abbrev Contribution := Option Layer × List Event

def userContribution (place : Option Place) : Contribution :=
  match userLayer place with
  | .ok (some layer) => (some layer, [⟨.info, "Loaded user config"⟩])
  | .ok none => (none, [])
  | .error fault => (none, [⟨.warning, "Failed to load user config: " ++ fault.message⟩])

/-- A project file that is there is reported first, whatever it holds. -/
def projectContribution : Option Place → Contribution
  | none => (none, [])
  | some ⟨_, .absent⟩ => (none, [])
  | some place =>
    let found : Event := ⟨.info, "Found config file: " ++ place.path⟩
    match place.file.layer fileName with
    | .ok layer => (layer, [found])
    | .error fault => (none, [found, ⟨.warning, fault.message⟩])

def overrideContribution : Option Json → Contribution
  | none => (none, [])
  | some value =>
    match Layer.ofJson value with
    | .ok layer => (some layer, [])
    | .error fault =>
      (none, [⟨.warning, "Failed to parse override settings: " ++ fault.message⟩])

structure Outcome where
  settings : Settings
  events : List Event

def load (user project : Option Place) (override : Option Json) : Outcome :=
  let (userLayer, userEvents) := userContribution user
  let (projectLayer, projectEvents) := projectContribution project
  let (overrideLayer, overrideEvents) := overrideContribution override
  let merged := Layer.mergeAll [some Layer.defaults, userLayer, projectLayer, overrideLayer]
  ⟨(merged.map ofLayer).getD default, userEvents ++ projectEvents ++ overrideEvents⟩

end Settings
end EndpointUri
