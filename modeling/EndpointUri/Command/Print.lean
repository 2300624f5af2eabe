import EndpointUri.Completion.Candidate
import EndpointUri.Json.Value

/-!
URIs and candidates as JSON, with their members in the order in which they are printed.
-/
namespace EndpointUri

def Json.ofNat (n : Nat) : Json := .number (.integer n)

def Json.ofOption {α : Type} (encode : α → Json) : Option α → Json
  | some a => encode a
  | none => .null

def Span.toJson (span : Span) : Json :=
  .object [("start", .ofNat span.start), ("end", .ofNat span.stop)]

def PathParam.toJson (param : PathParam) : Json :=
  .object [("value", .string param.text), ("span", param.span.toJson), ("index", .ofNat param.index)]

def QueryParam.toJson (param : QueryParam) : Json :=
  .object [("key", .string param.key.text), ("keySpan", param.key.span.toJson),
    ("value", .ofOption (fun value : Token => .string value.text) param.value),
    ("valueSpan", .ofOption (fun value : Token => value.span.toJson) param.value),
    ("span", param.span.toJson)]

def SchemePath.toJson (region : SchemePath) : Json :=
  .object [("span", region.span.toJson),
    ("component",
      .object [("name", .string region.scheme.text), ("span", region.scheme.span.toJson)]),
    ("pathParams", .array (region.params.map PathParam.toJson))]

def Uri.toJson (uri : Uri) : Json :=
  .object [("text", .string uri.text), ("componentAndPath", uri.schemePath.toJson),
    ("queryParams", .array (uri.query.map QueryParam.toJson))]

def Candidate.toJson (candidate : Candidate) : Json :=
  .object [("label", .string candidate.label),
    ("documentation", .ofOption .string candidate.documentation),
    ("deprecated", .bool candidate.deprecated),
    ("replaceRange", candidate.replaceRange.toJson)]

end EndpointUri
