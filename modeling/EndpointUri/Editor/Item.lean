import EndpointUri.Completion.Candidate
import EndpointUri.Text.Position

/-!
Completion items, the form in which an editor takes candidates: the replaced span becomes a range
of lines and characters in the document that holds the URI.
-/
namespace EndpointUri

structure TextEdit where
  range : Range
  newText : String
  deriving DecidableEq, Repr

structure CompletionItem where
  label : String
  kind : Nat
  documentation : Option String
  deprecated : Bool
  tags : List Nat
  edit : TextEdit
  deriving DecidableEq, Repr

namespace CompletionItem

def moduleKind : Nat := 9

def deprecatedTag : Nat := 1

/-- The item of a candidate for a URI at a byte offset of the document. There is none when the
moved span reaches past the last offset. -/
def ofCandidate? (document : String) (uriOffset : Nat) (candidate : Candidate) :
    Option CompletionItem := do
  let span ← candidate.replaceRange.shift? uriOffset
  return {
    label := candidate.label
    kind := moduleKind
    documentation := candidate.documentation
    deprecated := candidate.deprecated
    tags := if candidate.deprecated then [deprecatedTag] else []
    edit := ⟨Range.ofSpan document span, candidate.label⟩ }

end CompletionItem

/-- Whether a candidate is offered: deprecated ones only when they are wanted. -/
def Candidate.offered (includeDeprecated : Bool) (candidate : Candidate) : Bool :=
  includeDeprecated || !candidate.deprecated

/-- The items of all candidates that are offered. No line index holds a document of `UInt32.size` bytes
or more, so what is said here of an editor is meant of shorter ones. -/
def CompletionItem.ofCandidates? (document : String) (uriOffset : Nat) (includeDeprecated : Bool)
    (candidates : List Candidate) : Option (List CompletionItem) :=
  (candidates.filter (Candidate.offered includeDeprecated)).mapM
    (CompletionItem.ofCandidate? document uriOffset)

end EndpointUri
