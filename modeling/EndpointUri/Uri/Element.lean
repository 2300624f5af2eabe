import EndpointUri.Uri.Node

/-!
The element under a cursor: the most specific part of the URI that the cursor touches.
-/
namespace EndpointUri

inductive Element where
  | root (uri : Uri)
  | schemePath (region : SchemePath)
  | scheme (token : Token)
  | pathParam (param : PathParam)
  | queryParam (param : QueryParam)
  deriving DecidableEq, Repr

namespace Element

def span : Element → Span
  | root uri => uri.span
  | schemePath region => region.span
  | scheme token => token.span
  | pathParam param => param.span
  | queryParam param => param.span

def kind : Element → String
  | root _ => "root"
  | schemePath _ => "component-and-path"
  | scheme _ => "component"
  | pathParam _ => "path-param"
  | queryParam _ => "query-param"

end Element

/-- The scheme comes first, so a cursor on the colon still belongs to the scheme it ends. -/
def SchemePath.resolve (region : SchemePath) (position : Nat) : Element :=
  if region.scheme.span.touches position then .scheme region.scheme
  else match region.params.find? (·.span.touches position) with
    | some param => .pathParam param
    | none => .schemePath region

/-- Scheme and path first, then the query, and the whole URI where nothing is touched. -/
def Uri.elementAt (uri : Uri) (position : Nat) : Element :=
  if uri.schemePath.span.touches position then uri.schemePath.resolve position
  else match uri.query.find? (·.span.touches position) with
    | some param => .queryParam param
    | none => .root uri

end EndpointUri
