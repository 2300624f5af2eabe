import EndpointUri.Catalog.Model
import EndpointUri.Json.Shape

/-!
Component schemas: a JSON record with the field `component`, which holds the fields `scheme`,
`description` and `deprecated`. Everything else in a schema is passed over.
-/
namespace EndpointUri.ComponentModel

open Json (ShapeError Shaped)

/-- A mark that is no string is kept as its compact text; null is no mark. -/
def rawMark : Json → Option String
  | .null => none
  | .string s => some s
  | other => some other.compact

/-- The inner record. Of its members the description is looked at before the scheme, since that is
their order by key; a mark is never wrong. -/
def ofComponent : Json → Shaped ComponentModel
  | .object members => do
    let description ← Json.optionalMember members "description" Json.toText
    let scheme? ← (Json.member? members "scheme").mapM Json.toText
    match scheme? with
    | some scheme =>
      return ⟨scheme, description, rawMark ((Json.member? members "deprecated").getD .null)⟩
    | none => .error (.missingField "scheme")
  | .array [] => .error (.tooShort 0 "SchemaComponent" 3)
  | .array (first :: rest) => do
    let scheme ← Json.toText first
    let description ← Json.toOptional Json.toText (rest.head?.getD .null)
    Json.checkLength (first :: rest) 3
    return ⟨scheme, description, rawMark (rest[1]?.getD .null)⟩
  | other => .error (.wrongType other (.record "SchemaComponent"))

def ofSchema : Json → Shaped ComponentModel
  | .object members =>
    match Json.member? members "component" with
    | some component => ofComponent component
    | none => .error (.missingField "component")
  | .array [] => .error (.tooShort 0 "ComponentSchema" 1)
  | .array (first :: rest) => do
    let model ← ofComponent first
    Json.checkLength (first :: rest) 1
    return model
  | other => .error (.wrongType other (.record "ComponentSchema"))

end EndpointUri.ComponentModel
