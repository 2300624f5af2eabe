import EndpointUri.Journal
import EndpointUri.Text.Quoted
import EndpointUri.Text.Span
import EndpointUri.Uri.Layout

/-!
The parts of an endpoint URI with their places. `Uri.parse` reads the layout of a text and walks
it with a running byte offset; it never fails.
-/
namespace EndpointUri

structure Token where
  text : String
  span : Span
  deriving DecidableEq, Repr

/-- A path parameter knows its place among the parameters, from zero. -/
structure PathParam extends Token where
  index : Nat
  deriving DecidableEq, Repr

/-- A query parameter. It has a value exactly when it has an equals sign. -/
structure QueryParam where
  key : Token
  value : Option Token
  span : Span
  deriving DecidableEq, Repr

/-- The scheme and the path after it, which ends where the query begins. -/
structure SchemePath where
  span : Span
  scheme : Token
  params : List PathParam
  deriving DecidableEq, Repr

/-- A text with a scheme separator has at least one path parameter. -/
def SchemePath.hasPath (region : SchemePath) : Bool := !region.params.isEmpty

structure Uri where
  text : String
  schemePath : SchemePath
  query : List QueryParam
  deriving DecidableEq, Repr

def Token.place (offset : Nat) (cs : List Char) : Token :=
  ⟨String.ofList cs, ⟨offset, offset + Text.byteLength cs⟩⟩

def PathParam.place (offset index : Nat) (cs : List Char) : PathParam :=
  { Token.place offset cs with index }

/-- Key and value are one byte apart. -/
def QueryParam.place (offset : Nat) (entry : Entry) : QueryParam :=
  { key := Token.place offset entry.key
    value := entry.value.map (Token.place (offset + Text.byteLength entry.key + 1))
    span := ⟨offset, offset + Text.byteLength entry.render⟩ }

/-- Every segment advances the offset by its length and one separator. -/
def placePath (offset index : Nat) (segment : List Char) :
    List (PathSeparator × List Char) → List PathParam
  | [] => [PathParam.place offset index segment]
  | (_, next) :: rest =>
    PathParam.place offset index segment ::
      placePath (offset + Text.byteLength segment + 1) (index + 1) next rest

/-- As for the path, but the separators differ in length. -/
def placeQuery (offset : Nat) (entry : Entry) :
    List (QuerySeparator × Entry) → List QueryParam
  | [] => [QueryParam.place offset entry]
  | (separator, next) :: rest =>
    QueryParam.place offset entry ::
      placeQuery (offset + Text.byteLength entry.render + Text.byteLength separator.chars) next rest

namespace Layout

def pathEnd : Layout → Nat
  | bare text => Text.byteLength text
  | full scheme path _ => Text.byteLength scheme + 1 + Text.byteLength (renderPath path)

def schemePath (layout : Layout) : SchemePath :=
  match layout with
  | bare text => ⟨⟨0, layout.pathEnd⟩, Token.place 0 text, []⟩
  | full scheme path _ =>
    ⟨⟨0, layout.pathEnd⟩, Token.place 0 scheme,
      placePath (Text.byteLength scheme + 1) 0 path.head path.tail⟩

/-- The query starts right after its question mark. -/
def queryParams (layout : Layout) : List QueryParam :=
  match layout with
  | full _ _ (some query) => placeQuery (layout.pathEnd + 1) query.head query.tail
  | _ => []

end Layout

def SchemePath.ofText (text : String) : SchemePath := (Layout.read text.toList).schemePath

namespace Uri

def parse (text : String) : Uri :=
  let layout := Layout.read text.toList
  ⟨text, layout.schemePath, layout.queryParams⟩

def parseLogged (text : String) : Logged Uri := do
  let uri := parse text
  Logged.log .trace .uri ("parsed " ++ Text.quoted text ++ ": " ++
    Nat.repr uri.schemePath.params.length ++ " path params, " ++
    Nat.repr uri.query.length ++ " query params")
  return uri

def span (uri : Uri) : Span := ⟨0, Text.byteLength uri.text.toList⟩

@[simp] theorem parse_text (text : String) : (parse text).text = text := rfl

@[simp] theorem parse_schemePath (text : String) :
    (parse text).schemePath = SchemePath.ofText text := rfl

end Uri
end EndpointUri
