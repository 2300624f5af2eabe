import EndpointUri.Json.Shape
import EndpointUri.Settings.Layer
import EndpointUri.Toml.Reader

/-!
Layers out of JSON values and TOML texts. A layer is read as a whole or not at all.
-/
namespace EndpointUri.Layer

open Json (Shaped)

/-- An object may leave fields out; an array may not. -/
def ofJson : Json → Shaped Layer
  | .object members => do
    let catalogPath ← Json.optionalMember members "catalogPath" Json.toPath
    let includeDeprecated ← Json.optionalMember members "includeDeprecated" Json.toBool
    let logLevel ← Json.optionalMember members "logLevel" Json.toText
    return ⟨catalogPath, includeDeprecated, logLevel⟩
  | .array items => do
    let field (index : Nat) : Shaped Json :=
      match items[index]? with
      | some item => .ok item
      | none => .error (.tooShort items.length "SettingsFile" 3)
    let catalogPath ← Json.toOptional Json.toPath (← field 0)
    let includeDeprecated ← Json.toOptional Json.toBool (← field 1)
    let logLevel ← Json.toOptional Json.toText (← field 2)
    Json.checkLength items 3
    return ⟨catalogPath, includeDeprecated, logLevel⟩
  | other => .error (.wrongType other (.record "SettingsFile"))

def tomlText? : Option Toml.Value → Option (Option String)
  | none => some none
  | some (.string s) => some (some s)
  | some _ => none

def tomlBool? : Option Toml.Value → Option (Option Bool)
  | none => some none
  | some (.boolean b) => some (some b)
  | some _ => none

/-- The fields of a document; other keys and tables are passed over. -/
def ofEntries? (entries : Toml.Entries) : Option Layer := do
  let catalogPath ← tomlText? (entries.get? "catalogPath")
  let includeDeprecated ← tomlBool? (entries.get? "includeDeprecated")
  let logLevel ← tomlText? (entries.get? "logLevel")
  return ⟨catalogPath, includeDeprecated, logLevel⟩

def ofToml? (text : String) : Option Layer := (Toml.parse text).bind ofEntries?

end EndpointUri.Layer
