import EndpointUri.Settings.Load
import Mathlib.Data.List.Forall2

/-!
Settings from layers of which some are broken. Each field comes from the uppermost layer that can
be read and sets it, and the events tell what became of each layer, from the lowest to the
uppermost.
-/
namespace EndpointUri

/-! ### Fields of merged layers -/

namespace Layer

variable {α : Type} {field : Layer → Option α}

/-- What the last layer that is there and sets the field sets it to. -/
def lastSet (field : Layer → Option α) (layers : List (Option Layer)) : Option α :=
  layers.reverse.findSome? (·.bind field)

/-- The upper of two layers is asked first. -/
def Overrides (field : Layer → Option α) : Prop :=
  ∀ lower upper : Layer, field (lower.overlaid upper) = (field upper).or (field lower)

theorem overrides_catalogPath : Overrides (·.catalogPath) := fun _ _ => rfl

theorem overrides_includeDeprecated : Overrides (·.includeDeprecated) := fun _ _ => rfl

theorem overrides_logLevel : Overrides (·.logLevel) := fun _ _ => rfl

theorem lastSet_cons (field : Layer → Option α) (first : Option Layer)
    (rest : List (Option Layer)) :
    lastSet field (first :: rest) = (lastSet field rest).or (first.bind field) := by
  rw [lastSet, lastSet, List.reverse_cons, List.findSome?_append, List.findSome?_singleton]

theorem merge_bind (overrides : Overrides field) (lower upper : Option Layer) :
    (merge lower upper).bind field = (upper.bind field).or (lower.bind field) := by
  cases lower with
  | none => cases upper <;> simp [merge]
  | some lower =>
    cases upper with
    | none => simp [merge]
    | some upper => exact overrides lower upper

theorem foldl_merge_bind (overrides : Overrides field) (first : Option Layer)
    (rest : List (Option Layer)) :
    (rest.foldl merge first).bind field = (lastSet field rest).or (first.bind field) := by
  induction rest generalizing first with
  | nil => rfl
  | cons next rest ih =>
    rw [List.foldl_cons, ih, merge_bind overrides, lastSet_cons, Option.or_assoc]

theorem mergeAll_bind (overrides : Overrides field) (layers : List (Option Layer)) :
    (mergeAll layers).bind field = lastSet field layers := by
  cases layers with
  | nil => rfl
  | cons first rest => rw [mergeAll, foldl_merge_bind overrides, lastSet_cons]

theorem merge_eq_none_iff (lower upper : Option Layer) :
    merge lower upper = none ↔ lower = none ∧ upper = none := by
  cases lower <;> cases upper <;> simp [merge]

theorem foldl_merge_eq_none_iff (first : Option Layer) (rest : List (Option Layer)) :
    rest.foldl merge first = none ↔ first = none ∧ ∀ layer ∈ rest, layer = none := by
  induction rest generalizing first with
  | nil => simp
  | cons next rest ih =>
    rw [List.foldl_cons, ih, merge_eq_none_iff, List.forall_mem_cons, and_assoc]

theorem mergeAll_defaults (rest : List (Option Layer)) :
    ∃ merged, mergeAll (some defaults :: rest) = some merged := by
  apply Option.ne_none_iff_exists'.mp
  intro nothing
  have absent := ((foldl_merge_eq_none_iff _ _).mp nothing).1
  contradiction

end Layer

/-! ### What becomes of a layer -/

inductive LayerState where
  | absent
  | broken
  | valid (layer : Layer)
  deriving DecidableEq

namespace LayerState

def layer? : LayerState → Option Layer
  | valid layer => some layer
  | _ => none

/-- A file that cannot be read, is malformed or has a field of the wrong type is broken. -/
def ofFile : ConfigFile → LayerState
  | .absent => absent
  | .unreadable _ => broken
  | .text contents =>
    match Layer.ofToml? contents with
    | some layer => valid layer
    | none => broken

def ofPlace : Option Settings.Place → LayerState
  | none => absent
  | some place => ofFile place.file

def ofOverride : Option Json → LayerState
  | none => absent
  | some value =>
    match Layer.ofJson value with
    | .ok layer => valid layer
    | .error _ => broken

/-- The layer is as it was, or it was broken and is left out. -/
inductive Spared : LayerState → LayerState → Prop
  | same (state : LayerState) : Spared state state
  | leftOut : Spared broken absent

theorem Spared.layer?_eq {state spared : LayerState} (h : state.Spared spared) :
    spared.layer? = state.layer? := by
  cases h <;> rfl

end LayerState

/-- The layers above the defaults, lowest first. -/
inductive LayerOrigin where
  | user
  | project
  | override

namespace LayerOrigin

/-- How the messages about a layer begin. -/
def leads : LayerOrigin → EventKind → List String
  | user, .info => ["Loaded user config"]
  | user, .warning => ["Failed to load user config: "]
  | project, .info => ["Found config file: "]
  | project, .warning =>
    ["Failed to read camel-uri-ls.toml: ", "Failed to parse camel-uri-ls.toml: "]
  | override, .info => []
  | override, .warning => ["Failed to parse override settings: "]

/-- The events that a layer gives. A broken layer gives one warning; a file of the project that is
there is told of before that. -/
def reports : LayerOrigin → LayerState → List EventKind
  | user, .valid _ => [.info]
  | user, .broken => [.warning]
  | project, .valid _ => [.info]
  | project, .broken => [.info, .warning]
  | override, .broken => [.warning]
  | _, _ => []

/-- The events are those of one layer, in order, and their messages are about that layer. -/
def Reported (origin : LayerOrigin) (state : LayerState) (events : List Event) : Prop :=
  List.Forall₂
    (fun kind event => event.kind = kind ∧
      ∃ lead ∈ origin.leads kind, ∃ rest, event.message = lead ++ rest)
    (origin.reports state) events

end LayerOrigin

/-! ### Each layer by itself -/

namespace Settings

open LayerState (ofFile ofPlace ofOverride)

theorem userContribution_spec (place : Option Place) :
    (userContribution place).1 = (ofPlace place).layer? ∧
      LayerOrigin.user.Reported (ofPlace place) (userContribution place).2 := by
  cases place with
  | none => exact ⟨rfl, .nil⟩
  | some place =>
    obtain ⟨path, file⟩ := place
    cases file with
    | absent => exact ⟨rfl, .nil⟩
    | unreadable cause =>
      exact ⟨rfl, .cons ⟨rfl, _, List.mem_singleton_self _, _, rfl⟩ .nil⟩
    | text contents =>
      cases decoded : Layer.ofToml? contents with
      | none =>
        simp only [userContribution, userLayer, ConfigFile.layer, ofPlace, ofFile, decoded]
        exact ⟨rfl, .cons ⟨rfl, _, List.mem_singleton_self _, _, rfl⟩ .nil⟩
      | some layer =>
        simp only [userContribution, userLayer, ConfigFile.layer, ofPlace, ofFile, decoded]
        exact ⟨rfl, .cons ⟨rfl, _, List.mem_singleton_self _, "", by simp⟩ .nil⟩

theorem projectContribution_spec (place : Option Place) :
    (projectContribution place).1 = (ofPlace place).layer? ∧
      LayerOrigin.project.Reported (ofPlace place) (projectContribution place).2 := by
  cases place with
  | none => exact ⟨rfl, .nil⟩
  | some place =>
    obtain ⟨path, file⟩ := place
    have found : ∃ lead ∈ LayerOrigin.project.leads .info, ∃ rest,
        "Found config file: " ++ path = lead ++ rest :=
      ⟨_, List.mem_singleton_self _, path, rfl⟩
    cases file with
    | absent => exact ⟨rfl, .nil⟩
    | unreadable cause =>
      exact ⟨rfl, .cons ⟨rfl, found⟩ (.cons ⟨rfl, _, List.mem_cons_self, cause.message, rfl⟩ .nil)⟩
    | text contents =>
      cases decoded : Layer.ofToml? contents with
      | none =>
        simp only [projectContribution, ConfigFile.layer, ofPlace, ofFile, decoded]
        exact ⟨rfl, .cons ⟨rfl, found⟩
          (.cons ⟨rfl, _, List.mem_cons_of_mem _ List.mem_cons_self, tomlFault, rfl⟩ .nil)⟩
      | some layer =>
        simp only [projectContribution, ConfigFile.layer, ofPlace, ofFile, decoded]
        exact ⟨rfl, .cons ⟨rfl, found⟩ .nil⟩

theorem overrideContribution_spec (override : Option Json) :
    (overrideContribution override).1 = (ofOverride override).layer? ∧
      LayerOrigin.override.Reported (ofOverride override) (overrideContribution override).2 := by
  cases override with
  | none => exact ⟨rfl, .nil⟩
  | some value =>
    cases decoded : Layer.ofJson value with
    | ok layer =>
      simp only [overrideContribution, ofOverride, decoded]
      exact ⟨rfl, .nil⟩
    | error fault =>
      simp only [overrideContribution, ofOverride, decoded]
      exact ⟨rfl, .cons ⟨rfl, _, List.mem_singleton_self _, _, rfl⟩ .nil⟩

/-! ### All layers together -/

/-- The settings that layers, lowest first, make over the defaults. A level that is not known is not
looked for further down. -/
def ofLayers (layers : List (Option Layer)) : Settings where
  catalogPath := Layer.lastSet (·.catalogPath) layers
  includeDeprecated := (Layer.lastSet (·.includeDeprecated) layers).getD true
  logLevel :=
    match Layer.lastSet (·.logLevel) layers with
    | some word => (Verbosity.ofName? word).getD (.upTo .warn)
    | none => .upTo .warn

/-- The last word decides the level, as the level that it names or, if it names none, as the
default. -/
theorem logLevel_ofLayers {layers : List (Option Layer)} {word : String}
    (last : Layer.lastSet (·.logLevel) layers = some word) :
    (∀ level : Verbosity, Text.sameWord word level.name = true →
      (ofLayers layers).logLevel = level) ∧
    ((∀ level : Verbosity, Text.sameWord word level.name = false) →
      (ofLayers layers).logLevel = .upTo .warn) := by
  have decided : (ofLayers layers).logLevel = (Verbosity.ofName? word).getD (.upTo .warn) := by
    simp only [ofLayers, last]
  rw [decided]
  constructor
  · intro level same
    rw [Verbosity.ofName?_eq_some_iff.mpr same]
    rfl
  · intro unknown
    cases known : Verbosity.ofName? word with
    | none => rfl
    | some level =>
      have same := Verbosity.ofName?_eq_some_iff.mp known
      rw [unknown level] at same
      contradiction

theorem ofLayer_mergeAll (layers : List (Option Layer)) :
    ((Layer.mergeAll (some Layer.defaults :: layers)).map ofLayer).getD default =
      ofLayers layers := by
  obtain ⟨merged, isMerged⟩ := Layer.mergeAll_defaults layers
  have catalogPath :=
    Layer.mergeAll_bind Layer.overrides_catalogPath (some Layer.defaults :: layers)
  have includeDeprecated :=
    Layer.mergeAll_bind Layer.overrides_includeDeprecated (some Layer.defaults :: layers)
  have logLevel := Layer.mergeAll_bind Layer.overrides_logLevel (some Layer.defaults :: layers)
  rw [isMerged, Layer.lastSet_cons, Option.bind_some] at catalogPath includeDeprecated logLevel
  have known : Verbosity.ofName? "warn" = some (.upTo .warn) := by decide
  rw [isMerged, Option.map_some, Option.getD_some, ofLayer, ofLayers, catalogPath,
    includeDeprecated, logLevel]
  refine congr (congrArg₂ Settings.mk ?_ ?_) ?_
  · exact Option.or_none
  · cases Layer.lastSet (·.includeDeprecated) layers <;> rfl
  · cases Layer.lastSet (·.logLevel) layers with
    | none => simp [Layer.defaults, known]
    | some word => rfl

theorem load_settings (user project : Option Place) (override : Option Json) :
    (load user project override).settings =
      ofLayers ([ofPlace user, ofPlace project, ofOverride override].map LayerState.layer?) := by
  have merged := ofLayer_mergeAll
    [(userContribution user).1, (projectContribution project).1, (overrideContribution override).1]
  have layers : [(userContribution user).1, (projectContribution project).1,
      (overrideContribution override).1] =
      [ofPlace user, ofPlace project, ofOverride override].map LayerState.layer? := by
    rw [(userContribution_spec user).1, (projectContribution_spec project).1,
      (overrideContribution_spec override).1]
    rfl
  exact merged.trans (congrArg ofLayers layers)

/-- However the layers stand, each field comes from the uppermost valid layer that sets it, the
level also where its name is not known. To leave a broken layer out changes nothing in the settings.
The events are those of the user's layer, then the project's, then the override's. -/
theorem uppermost_valid_layer_decides (user project : Option Place) (override : Option Json) :
    let outcome := load user project override
    outcome.settings =
        ofLayers ([ofPlace user, ofPlace project, ofOverride override].map LayerState.layer?) ∧
    (∀ user' project' override', (ofPlace user).Spared (ofPlace user') →
      (ofPlace project).Spared (ofPlace project') →
      (ofOverride override).Spared (ofOverride override') →
      (load user' project' override').settings = outcome.settings) ∧
    ∃ userEvents projectEvents overrideEvents,
      outcome.events = userEvents ++ projectEvents ++ overrideEvents ∧
      LayerOrigin.user.Reported (ofPlace user) userEvents ∧
      LayerOrigin.project.Reported (ofPlace project) projectEvents ∧
      LayerOrigin.override.Reported (ofOverride override) overrideEvents := by
  intro outcome
  refine ⟨load_settings user project override, ?_, ?_⟩
  · intro user' project' override' spared₁ spared₂ spared₃
    rw [load_settings, load_settings]
    simp only [List.map_cons, spared₁.layer?_eq, spared₂.layer?_eq, spared₃.layer?_eq]
  · exact ⟨_, _, _, rfl, (userContribution_spec user).2, (projectContribution_spec project).2,
      (overrideContribution_spec override).2⟩

/-- The user's level is known but the override's is not, and the project's file between them breaks
off: the level falls to the default, and all else comes from the user. An override with a known level
decides the level, and the flag if it has one; with no override the user's level stands. -/
theorem uppermost_valid_layer_decides_over_broken :
    let user : Option Place := some ⟨"u", .text "logLevel = 'debug'\ncatalogPath = '/c'"⟩
    let project : Option Place := some ⟨"p", .text "catalogPath = ["⟩
    let override : Option Json := some (.object [("logLevel", .string "chatty")])
    let full : Option Json :=
      some (.object [("logLevel", .string "Trace"), ("includeDeprecated", .bool false)])
    ofPlace project = .broken ∧
      (load user project override).settings = ⟨some "/c", true, .upTo .warn⟩ ∧
      (load user none override).settings = ⟨some "/c", true, .upTo .warn⟩ ∧
      (load user project override).events.map (·.kind) = [.info, .info, .warning] ∧
      (load user project full).settings = ⟨some "/c", false, .upTo .trace⟩ ∧
      (load user project none).settings = ⟨some "/c", true, .upTo .debug⟩ := by
  intro user project override full
  have broken : ofPlace project = .broken := by decide +kernel
  have ofUser : ofPlace user = .valid ⟨some "/c", none, some "debug"⟩ := by decide +kernel
  have above : ofOverride override = .valid ⟨none, none, some "chatty"⟩ := by decide
  have aboveAll : ofOverride full = .valid ⟨none, some false, some "Trace"⟩ := by decide
  have kinds : (load user project override).events.map (·.kind) = [.info, .info, .warning] := by
    decide +kernel
  obtain ⟨settings, spared, -⟩ := uppermost_valid_layer_decides user project override
  have withFull := (uppermost_valid_layer_decides user project full).1
  have without := (uppermost_valid_layer_decides user project none).1
  rw [broken, ofUser, above] at settings
  rw [broken, ofUser, aboveAll] at withFull
  rw [broken, ofUser] at without
  have omitted : (ofPlace project).Spared (ofPlace none) := by
    rw [broken]
    exact .leftOut
  have same := spared user none override (.same _) omitted (.same _)
  have value : ofLayers ([.valid ⟨some "/c", none, some "debug"⟩, .broken,
      .valid ⟨none, none, some "chatty"⟩].map LayerState.layer?) =
      ⟨some "/c", true, .upTo .warn⟩ := by decide
  exact ⟨broken, settings.trans value, (same.trans settings).trans value, kinds,
    withFull.trans (by decide), without.trans (by decide)⟩

end Settings
end EndpointUri
