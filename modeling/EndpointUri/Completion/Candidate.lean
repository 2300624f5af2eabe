import EndpointUri.Catalog.Model
import EndpointUri.Text.Word
import EndpointUri.Uri.Element

/-!
Completion candidates: one for each component of a catalog, each replacing the scheme. What was
typed left of the cursor selects among them.
-/
namespace EndpointUri

structure Candidate where
  label : String
  documentation : Option String
  deprecated : Bool
  replaceRange : Span
  deriving DecidableEq, Repr

namespace Candidate

def ofModel (range : Span) (model : ComponentModel) : Candidate :=
  ⟨model.scheme, model.description, model.deprecation.isDeprecated, range⟩

/-- The URI with the candidate accepted. The range is first cut down to the text; there is no
result when an end then lies inside a character. -/
def accept? (candidate : Candidate) (uri : String) : Option String := do
  let cs := uri.toList
  let length := Text.byteLength cs
  let start := min candidate.replaceRange.start length
  let stop := max start (min candidate.replaceRange.stop length)
  let (front, _) ← Text.cut? start cs
  let (_, back) ← Text.cut? stop cs
  return String.ofList (front ++ candidate.label.toList ++ back)

/-- Labels are compared with regard to case; without a filter everything fits. -/
def fits (filter : Option String) (candidate : Candidate) : Bool :=
  match filter with
  | none => true
  | some typed => typed.toList.isPrefixOf candidate.label.toList

end Candidate

/-- The candidates of a catalog in its order, or the error of the first model that is missing. -/
def generate (catalog : Catalog) (scheme : Token) : Except CatalogError (List Candidate) :=
  catalog.names.mapM fun name => (catalog.model name).map (Candidate.ofModel scheme.span)

/-- What was typed of the scheme. Nothing counts as typed at the very start or for a blank name;
a cursor past the name has typed the colon too, so `ahc` no longer finds `ahc-ws`. -/
def typedFilter (scheme : Token) (position : Nat) : Option String :=
  if Text.allBlank scheme.text || position == scheme.span.start then none
  else
    let name := scheme.text.toList
    let relative := position - scheme.span.start
    let typed := Text.takeBytes relative name
    some (String.ofList (if Text.byteLength name < relative then typed ++ [':'] else typed))

def applyFilter (filter : Option String) (candidates : List Candidate) : List Candidate :=
  candidates.filter (Candidate.fits filter)

end EndpointUri
