import EndpointUri.Proofs.Acceptance
import EndpointUri.Proofs.Positions
import EndpointUri.Proofs.RequestRuns

/-!
What an editor makes of a completion item. Its range, read in the document that holds the URI,
covers the scheme and nothing else, so the edited document holds the URI with the candidate
accepted.
-/
namespace EndpointUri

open Text (byteLength)

/-- The document as an editor leaves it: the new text stands between what lies before the range and
what lies after it. -/
def TextEdit.applyTo? (edit : TextEdit) (document : String) : Option String := do
  let (front, _) ← edit.range.start.cut? document.toList
  let (_, back) ← edit.range.stop.cut? document.toList
  return String.ofList front ++ edit.newText ++ String.ofList back

theorem TextEdit.applyTo?_piece {document : String} {front piece back : List Char}
    (split : document.toList = front ++ piece ++ back) (newText : String) :
    TextEdit.applyTo? ⟨⟨Position.after front, Position.after (front ++ piece)⟩, newText⟩ document =
      some (String.ofList front ++ newText ++ String.ofList back) := by
  have start := Position.cut?_after front (piece ++ back)
  have stop := Position.cut?_after (front ++ piece) back
  rw [← List.append_assoc, ← split] at start
  rw [← split] at stop
  simp [applyTo?, start, stop]

/-- The numbers of a range fit the words in which an editor is told them. -/
def Range.FitsWords (range : Range) : Prop :=
  ∀ p ∈ [range.start, range.stop], p.line < UInt32.size ∧ p.character < UInt32.size

theorem Range.fitsWords_after {xs ys : List Char} (left : byteLength xs < UInt32.size)
    (right : byteLength ys < UInt32.size) :
    Range.FitsWords ⟨Position.after xs, Position.after ys⟩ := by
  have first := Position.after_le xs
  have second := Position.after_le ys
  simp only [FitsWords, List.forall_mem_cons, List.not_mem_nil, false_implies, implies_true,
    and_true]
  omega

/-- The scheme is how the URI begins, and its span covers just that. -/
theorem SchemePath.scheme_front (uri : String) :
    (∃ back, uri.toList = (SchemePath.ofText uri).scheme.text.toList ++ back) ∧
      (SchemePath.ofText uri).scheme.span =
        ⟨0, byteLength (SchemePath.ofText uri).scheme.text.toList⟩ := by
  have tiles := Uri.tiles_parse uri
  have start := tiles.schemePath.schemeStart
  obtain ⟨stands, stop⟩ := Span.slice?_eq_some_iff.mp (tiles.slices _ List.mem_cons_self)
  rw [start] at stands
  rw [start, Nat.zero_add] at stop
  exact ⟨stands.toList_eq, congrArg₂ Span.mk start stop⟩

theorem Span.shift?_front {uriOffset size : Nat}
    (addressable : uriOffset + size < Text.offsetLimit) :
    Span.shift? ⟨0, size⟩ uriOffset = some ⟨uriOffset, uriOffset + size⟩ := by
  rw [shift?, if_pos ⟨by simp only; omega, by simp only; omega⟩, Nat.zero_add, Nat.add_comm size]

/-- The item of a candidate that replaces the front of a URI edits the document where the URI
begins. -/
theorem CompletionItem.edit_ofCandidate? (document : String) (uriOffset : Nat) {size : Nat}
    {candidate : Candidate} (range : candidate.replaceRange = ⟨0, size⟩)
    (addressable : uriOffset + size < Text.offsetLimit) :
    ∃ item, CompletionItem.ofCandidate? document uriOffset candidate = some item ∧
      item.edit = ⟨Range.ofSpan document ⟨uriOffset, uriOffset + size⟩, candidate.label⟩ := by
  simp [ofCandidate?, range, Span.shift?_front addressable]

/-- What the scheme of a URI covers in a document that holds the URI after `pre`. -/
def SchemePath.schemeIn (pre uri : String) : Span :=
  ⟨pre.utf8ByteSize, pre.utf8ByteSize + (SchemePath.ofText uri).scheme.text.utf8ByteSize⟩

section Document

variable (pre uri post : String)

/-- A document that holds a URI, divided at the ends of the scheme. -/
theorem document_split : ∃ back,
    uri.toList = (SchemePath.ofText uri).scheme.text.toList ++ back ∧
    (pre ++ uri ++ post).toList =
      pre.toList ++ (SchemePath.ofText uri).scheme.text.toList ++ (back ++ post.toList) ∧
    SchemePath.schemeIn pre uri = ⟨byteLength pre.toList,
      byteLength (pre.toList ++ (SchemePath.ofText uri).scheme.text.toList)⟩ := by
  obtain ⟨back, split⟩ := (SchemePath.scheme_front uri).1
  refine ⟨back, split, ?_, ?_⟩
  · rw [String.toList_append, String.toList_append]
    nth_rewrite 1 [split]
    simp
  · rw [SchemePath.schemeIn, Text.byteLength_append, Text.byteLength_toList,
      Text.byteLength_toList]

theorem slice?_schemeIn :
    (SchemePath.schemeIn pre uri).slice? (pre ++ uri ++ post) =
      some (SchemePath.ofText uri).scheme.text := by
  obtain ⟨back, -, whole, covered⟩ := document_split pre uri post
  rw [Span.slice?_eq_some_iff, covered, Text.byteLength_append]
  exact ⟨⟨pre.toList, _, whole, rfl⟩, rfl⟩

variable {pre uri post}

/-- The edit of a candidate that replaces the scheme, in the document and in the URI. -/
theorem Candidate.edit_in_document {candidate : Candidate}
    (short : (pre ++ uri ++ post).utf8ByteSize < UInt32.size)
    (range : candidate.replaceRange = (SchemePath.ofText uri).scheme.span) :
    ∃ item edited,
      CompletionItem.ofCandidate? (pre ++ uri ++ post) pre.utf8ByteSize candidate = some item ∧
      candidate.accept? uri = some edited ∧
      item.edit.range.span? (pre ++ uri ++ post) = some (SchemePath.schemeIn pre uri) ∧
      item.edit.applyTo? (pre ++ uri ++ post) = some (pre ++ edited ++ post) ∧
      item.edit.range.FitsWords := by
  obtain ⟨back, split, whole, covered⟩ := document_split pre uri post
  rw [(SchemePath.scheme_front uri).2] at range
  have size := congrArg byteLength whole
  rw [Text.byteLength_toList, Text.byteLength_append] at size
  have parts := Text.byteLength_append pre.toList (SchemePath.ofText uri).scheme.text.toList
  have front := Text.byteLength_toList pre
  have words : UInt32.size < Text.offsetLimit := by decide
  obtain ⟨item, isItem, edit⟩ := CompletionItem.edit_ofCandidate? (pre ++ uri ++ post)
    pre.utf8ByteSize range (by omega)
  rw [Text.byteLength_toList, ← SchemePath.schemeIn, covered, Range.ofSpan_piece whole] at edit
  refine ⟨item, _, isItem, Candidate.accept?_front split range, ?_, ?_, ?_⟩
  · rw [edit, covered]
    exact Range.span?_piece whole
  · rw [edit, TextEdit.applyTo?_piece whole]
    simp [String.append_assoc]
  · rw [edit]
    exact Range.fitsWords_after (by omega) (by omega)

end Document

/-- The editor's edit is the edit of the URI. For a URI anywhere in a document, and any candidate
offered for it, the item can be made and the candidate accepted. The item's range, as an editor
reads it, covers the scheme, and the edited document is the old one with the accepted URI in place
of the URI. -/
theorem editor_edit_is_model_edit (pre uri post : String) {catalog : Catalog}
    {candidates : List Candidate} {position : Nat}
    (short : (pre ++ uri ++ post).utf8ByteSize < UInt32.size)
    (made : generate catalog (SchemePath.ofText uri).scheme = .ok candidates)
    (inRange : (SchemePath.ofText uri).span.touches position = true) :
    (SchemePath.schemeIn pre uri).slice? (pre ++ uri ++ post) =
      some (SchemePath.ofText uri).scheme.text ∧
    ∃ items, (complete (Handle.ready catalog) (SchemePath.ofText uri) position).value.2 =
        .ok items ∧
      ∀ candidate ∈ items, ∃ item edited,
        CompletionItem.ofCandidate? (pre ++ uri ++ post) pre.utf8ByteSize candidate = some item ∧
        candidate.accept? uri = some edited ∧
        item.edit.range.span? (pre ++ uri ++ post) = some (SchemePath.schemeIn pre uri) ∧
        item.edit.applyTo? (pre ++ uri ++ post) = some (pre ++ edited ++ post) ∧
        item.edit.range.FitsWords := by
  refine ⟨slice?_schemeIn pre uri post, ?_⟩
  have served : (Handle.ready catalog).get.value.2 = .ok catalog := rfl
  rw [complete_value, if_pos inRange]
  simp only [served, made, bind, Except.bind, pure, Except.pure]
  refine ⟨_, rfl, fun candidate member => ?_⟩
  exact Candidate.edit_in_document short
    (replaceRange_of_generate made candidate (List.mem_of_mem_filter member))

/-- The URI stands after characters of two and of four bytes on the second line of its document, and
its scheme goes on to the third. -/
theorem editor_edit_is_model_edit_over_lines :
    let pre := "é\n😀'"
    let uri := "t\ni:x"
    let post := "'\n"
    let catalog := Catalog.ofModels [⟨"jms", none, none⟩, ⟨"timer", none, none⟩]
    let offered : Candidate := ⟨"timer", none, false, ⟨0, 3⟩⟩
    (pre ++ uri ++ post).utf8ByteSize < UInt32.size ∧
    generate catalog (SchemePath.ofText uri).scheme = .ok [⟨"jms", none, false, ⟨0, 3⟩⟩, offered] ∧
    (SchemePath.ofText uri).span.touches 1 = true ∧
    (complete (Handle.ready catalog) (SchemePath.ofText uri) 1).value.2 = .ok [offered] ∧
    ∃ item, CompletionItem.ofCandidate? (pre ++ uri ++ post) pre.utf8ByteSize offered = some item ∧
      item.edit.range = ⟨⟨1, 3⟩, ⟨2, 1⟩⟩ ∧
      item.edit.range.span? (pre ++ uri ++ post) = some ⟨8, 11⟩ ∧
      item.edit.applyTo? (pre ++ uri ++ post) = some "é\n😀'timer:x'\n" := by
  intro pre uri post catalog offered
  have short : (pre ++ uri ++ post).utf8ByteSize < UInt32.size := by decide
  have made : generate catalog (SchemePath.ofText uri).scheme =
      .ok [⟨"jms", none, false, ⟨0, 3⟩⟩, offered] := by decide
  have inRange : (SchemePath.ofText uri).span.touches 1 = true := by decide
  have offers : (complete (Handle.ready catalog) (SchemePath.ofText uri) 1).value.2 =
      .ok [offered] := by decide
  obtain ⟨-, items, completed, each⟩ := editor_edit_is_model_edit pre uri post short made inRange
  obtain rfl : [offered] = items := Except.ok.inj (offers.symm.trans completed)
  obtain ⟨item, edited, isItem, accepted, covers, applied, -⟩ := each offered List.mem_cons_self
  obtain rfl : "timer:x" = edited := by
    have becomes : offered.accept? uri = some "timer:x" := by decide
    exact Option.some.inj (becomes.symm.trans accepted)
  refine ⟨short, made, inRange, offers, item, isItem, ?_, covers.trans (by decide), applied⟩
  have range : (CompletionItem.ofCandidate? (pre ++ uri ++ post) pre.utf8ByteSize offered).map
      (·.edit.range) = some ⟨⟨1, 3⟩, ⟨2, 1⟩⟩ := by decide
  simpa [isItem] using range

end EndpointUri
