import EndpointUri.Editor.Item
import EndpointUri.Proofs.Tiling
import EndpointUri.Proofs.Traversal

/-!
Where candidates come from and when they can be handed to an editor. All of them replace the
scheme, which lies inside the URI, so the edit stays inside whatever document holds the URI.
-/
namespace EndpointUri

/-- Every candidate is the model of a listed name and replaces the scheme. -/
theorem mem_of_generate {catalog : Catalog} {scheme : Token} {candidates : List Candidate}
    (made : generate catalog scheme = .ok candidates) {candidate : Candidate}
    (member : candidate ∈ candidates) :
    ∃ name ∈ catalog.names, ∃ model, catalog.model name = .ok model ∧
      candidate = Candidate.ofModel scheme.span model := by
  obtain ⟨name, listed, found⟩ := mem_of_mapM_ok made candidate member
  cases known : catalog.model name with
  | error fault => simp [known, Except.map] at found
  | ok model =>
    simp only [known, Except.map, Except.ok.injEq] at found
    exact ⟨name, listed, model, known, found.symm⟩

theorem replaceRange_of_generate {catalog : Catalog} {scheme : Token} {candidates : List Candidate}
    (made : generate catalog scheme = .ok candidates) :
    ∀ candidate ∈ candidates, candidate.replaceRange = scheme.span := by
  intro candidate member
  obtain ⟨_, _, _, _, rfl⟩ := mem_of_generate made member
  rfl

/-- The scheme starts the URI and does not reach past it. -/
theorem SchemePath.scheme_span_ofText (text : String) :
    (SchemePath.ofText text).scheme.span.start = 0 ∧
      (SchemePath.ofText text).scheme.span.stop ≤ Text.byteLength text.toList := by
  have tiles := Uri.tiles_parse text
  have fits := Span.fits_of_slice? (tiles.slices _ List.mem_cons_self)
  exact ⟨tiles.schemePath.schemeStart, Text.byteLength_toList text ▸ fits.bounded⟩

/-- Candidates that replace a span which can be moved all become items. -/
theorem CompletionItem.isSome_ofCandidates? (document : String) {uriOffset : Nat}
    (includeDeprecated : Bool) {span : Span} {candidates : List Candidate}
    (ranges : ∀ candidate ∈ candidates, candidate.replaceRange = span)
    (ordered : span.start ≤ span.stop) (fits : span.stop + uriOffset < Text.offsetLimit) :
    (CompletionItem.ofCandidates? document uriOffset includeDeprecated candidates).isSome := by
  apply isSome_mapM
  intro candidate member
  have moved : span.shift? uriOffset = some ⟨span.start + uriOffset, span.stop + uriOffset⟩ := by
    rw [Span.shift?, if_pos ⟨by omega, fits⟩]
  simp [ofCandidate?, ranges candidate (List.mem_of_mem_filter member), moved]

end EndpointUri
