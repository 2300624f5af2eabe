import EndpointUri.Proofs.Candidates

/-!
Accepting a candidate. The label takes the place of the scheme and what follows the scheme is read
as before, only from another offset. A label that is empty or holds a colon is not read back as the
scheme when a path follows it.
-/
namespace EndpointUri

open Text (byteLength)

/-! ### Nodes that have moved -/

/-- Both ends are the same distance away from where they were. -/
structure Span.MovedBy (distance : Int) (old new : Span) : Prop where
  start : (new.start : Int) = old.start + distance
  stop : (new.stop : Int) = old.stop + distance

structure Token.MovedBy (distance : Int) (old new : Token) : Prop where
  text : new.text = old.text
  span : old.span.MovedBy distance new.span

structure PathParam.MovedBy (distance : Int) (old new : PathParam) : Prop where
  token : old.toToken.MovedBy distance new.toToken
  index : new.index = old.index

structure QueryParam.MovedBy (distance : Int) (old new : QueryParam) : Prop where
  key : old.key.MovedBy distance new.key
  value : Option.Rel (Token.MovedBy distance) old.value new.value
  span : old.span.MovedBy distance new.span

section Placed

variable {distance : Int} {offset offset' : Nat}

theorem Span.movedBy_place (moved : (offset' : Int) = offset + distance) (size : Nat) :
    Span.MovedBy distance ⟨offset, offset + size⟩ ⟨offset', offset' + size⟩ :=
  ⟨moved, by push_cast; omega⟩

theorem Token.movedBy_place (moved : (offset' : Int) = offset + distance) (cs : List Char) :
    (Token.place offset cs).MovedBy distance (Token.place offset' cs) :=
  ⟨rfl, Span.movedBy_place moved _⟩

theorem QueryParam.movedBy_place (moved : (offset' : Int) = offset + distance) (entry : Entry) :
    (QueryParam.place offset entry).MovedBy distance (QueryParam.place offset' entry) := by
  obtain ⟨key, value⟩ := entry
  refine ⟨Token.movedBy_place moved key, ?_, Span.movedBy_place moved _⟩
  cases value with
  | none => exact .none
  | some value => exact .some (Token.movedBy_place (by push_cast; omega) value)

theorem placePath_movedBy (moved : (offset' : Int) = offset + distance) (index : Nat)
    (segment : List Char) (tail : List (PathSeparator × List Char)) :
    List.Forall₂ (PathParam.MovedBy distance) (placePath offset index segment tail)
      (placePath offset' index segment tail) := by
  induction tail generalizing offset offset' index segment with
  | nil => exact .cons ⟨Token.movedBy_place moved segment, rfl⟩ .nil
  | cons pair rest ih =>
    exact .cons ⟨Token.movedBy_place moved segment, rfl⟩ (ih (by push_cast; omega) _ _)

theorem placeQuery_movedBy (moved : (offset' : Int) = offset + distance) (entry : Entry)
    (tail : List (QuerySeparator × Entry)) :
    List.Forall₂ (QueryParam.MovedBy distance) (placeQuery offset entry tail)
      (placeQuery offset' entry tail) := by
  induction tail generalizing offset offset' entry with
  | nil => exact .cons (QueryParam.movedBy_place moved entry) .nil
  | cons pair rest ih =>
    exact .cons (QueryParam.movedBy_place moved entry) (ih (by push_cast; omega) _)

end Placed

/-! ### Another scheme before the same rest -/

/-- How many bytes a text grows by when `label` takes the place of its scheme. -/
def Uri.growth (uri : Uri) (label : String) : Int :=
  (label.utf8ByteSize : Int) - uri.schemePath.scheme.text.utf8ByteSize

/-- The new URI has the scheme `label`; all that follows is what it was and has moved by as much as
the text has grown. -/
structure Uri.Rescheme (old : Uri) (label : String) (new : Uri) : Prop where
  scheme : new.schemePath.scheme = ⟨label, ⟨0, label.utf8ByteSize⟩⟩
  regionStart : new.schemePath.span.start = old.schemePath.span.start
  regionStop : (new.schemePath.span.stop : Int) = old.schemePath.span.stop + old.growth label
  params : List.Forall₂ (PathParam.MovedBy (old.growth label)) old.schemePath.params
    new.schemePath.params
  query : List.Forall₂ (QueryParam.MovedBy (old.growth label)) old.query new.query

namespace Layout

variable {scheme label : List Char} {path : Separated PathSeparator (List Char)}
  {query : Option (Separated QuerySeparator Entry)}

/-- The scheme stands before the colon, and what follows does not depend on it. -/
theorem render_full (path : Separated PathSeparator (List Char))
    (query : Option (Separated QuerySeparator Entry)) :
    ∃ rest, ∀ scheme, (full scheme path query).render = scheme ++ ':' :: rest := by
  cases query with
  | none => exact ⟨renderPath path, fun _ => rfl⟩
  | some run => exact ⟨renderPath path ++ '?' :: renderQuery run, fun _ => by simp [render]⟩

theorem Regular.withScheme (regular : Regular scheme path query) (nonempty : label ≠ [])
    (free : ':' ∉ label) : Regular label path query :=
  { regular with schemeNonempty := nonempty, schemeFree := free }

variable (scheme label path query) in
theorem movedBy_params :
    List.Forall₂ (PathParam.MovedBy ((byteLength label : Int) - byteLength scheme))
      (full scheme path query).schemePath.params (full label path query).schemePath.params :=
  placePath_movedBy (by push_cast; omega) _ _ _

variable (scheme label path query) in
theorem pathEnd_full :
    ((full label path query).pathEnd : Int) =
      (full scheme path query).pathEnd + ((byteLength label : Int) - byteLength scheme) := by
  simp only [pathEnd]
  push_cast
  omega

variable (scheme label path query) in
theorem movedBy_queryParams :
    List.Forall₂ (QueryParam.MovedBy ((byteLength label : Int) - byteLength scheme))
      (full scheme path query).queryParams (full label path query).queryParams := by
  cases query with
  | none => exact .nil
  | some run =>
    have ends := pathEnd_full scheme label path (some run)
    exact placeQuery_movedBy (by push_cast; omega) _ _

end Layout

namespace Uri

variable {scheme label : List Char} {path : Separated PathSeparator (List Char)}
  {query : Option (Separated QuerySeparator Entry)}

theorem parse_schemeless {text : String} (schemeless : Layout.Schemeless text.toList) :
    parse text = ⟨text, ⟨⟨0, text.utf8ByteSize⟩, ⟨text, ⟨0, text.utf8ByteSize⟩⟩, []⟩, []⟩ := by
  simp [parse, Layout.read_schemeless schemeless, Layout.schemePath, Layout.queryParams,
    Layout.pathEnd, Token.place, Text.byteLength_toList]

theorem parse_regular (regular : Layout.Regular scheme path query) :
    parse (String.ofList (Layout.full scheme path query).render) =
      ⟨String.ofList (Layout.full scheme path query).render,
        (Layout.full scheme path query).schemePath, (Layout.full scheme path query).queryParams⟩ := by
  simp [parse, Layout.read_render regular]

/-- Every text is without a scheme or is written from regular pieces. -/
theorem schemeless_or_regular (text : String) : Layout.Schemeless text.toList ∨
    ∃ scheme path query, Layout.Regular scheme path query ∧
      text = String.ofList (Layout.full scheme path query).render := by
  by_cases schemeless : Layout.Schemeless text.toList
  · exact Or.inl schemeless
  · obtain ⟨scheme, path, query, regular, written⟩ :=
      not_not.mp (mt Layout.not_exists_regular_iff.mp schemeless)
    exact Or.inr ⟨scheme, path, query, regular, by rw [written, String.ofList_toList]⟩

theorem rescheme_of_schemeless {text label : String} (schemeless : Layout.Schemeless text.toList)
    (free : ':' ∉ label.toList) : (parse text).Rescheme label (parse label) := by
  rw [parse_schemeless schemeless, parse_schemeless (Or.inl free)]
  refine ⟨rfl, rfl, ?_, .nil, .nil⟩
  simp only [growth]
  omega

theorem rescheme_of_regular (regular : Layout.Regular scheme path query) (nonempty : label ≠ [])
    (free : ':' ∉ label) :
    (parse (String.ofList (Layout.full scheme path query).render)).Rescheme (String.ofList label)
      (parse (String.ofList (Layout.full label path query).render)) := by
  have old := parse_regular regular
  have new := parse_regular (regular.withScheme nonempty free)
  have grows : (parse (String.ofList (Layout.full scheme path query).render)).growth
      (String.ofList label) = (byteLength label : Int) - byteLength scheme := by
    simp [old, growth, Layout.schemePath, Token.place, Text.utf8ByteSize_ofList]
  refine ⟨?_, ?_, ?_, ?_, ?_⟩
  · simp [new, Layout.schemePath, Token.place, Text.utf8ByteSize_ofList]
  · rw [old, new]
    rfl
  · rw [grows, old, new]
    exact Layout.pathEnd_full scheme label path query
  · rw [grows, old, new]
    exact Layout.movedBy_params scheme label path query
  · rw [grows, old, new]
    exact Layout.movedBy_queryParams scheme label path query

/-- The scheme that is read is the whole text, or it is not empty and has no colon. -/
theorem scheme_text_parse (text : String) : (parse text).schemePath.scheme.text = text ∨
    (parse text).schemePath.scheme.text ≠ "" ∧
      ':' ∉ (parse text).schemePath.scheme.text.toList := by
  rcases schemeless_or_regular text with schemeless | ⟨scheme, path, query, regular, rfl⟩
  · rw [parse_schemeless schemeless]
    exact Or.inl rfl
  · rw [parse_regular regular]
    refine Or.inr ⟨fun empty => regular.schemeNonempty ?_, ?_⟩
    · simpa [Layout.schemePath, Token.place] using congrArg String.toList empty
    · simpa [Layout.schemePath, Token.place] using regular.schemeFree

end Uri

/-! ### Accepting -/

/-- A label takes the place of the front that its candidate replaces. -/
theorem Candidate.accept?_front {candidate : Candidate} {uri : String} {front back : List Char}
    (split : uri.toList = front ++ back) (range : candidate.replaceRange = ⟨0, byteLength front⟩) :
    candidate.accept? uri = some (String.ofList (candidate.label.toList ++ back)) := by
  have whole := Text.cut?_append [] (front ++ back)
  have after := Text.cut?_append front back
  simp only [Text.byteLength_nil, List.nil_append] at whole
  simp [accept?, range, split, whole, after]

/-- A candidate of a URI without a scheme takes the place of the whole text. -/
theorem Candidate.accept?_schemeless {candidate : Candidate} {uri : String}
    (schemeless : Layout.Schemeless uri.toList)
    (range : candidate.replaceRange = (SchemePath.ofText uri).scheme.span) :
    candidate.accept? uri = some candidate.label := by
  have region : SchemePath.ofText uri =
      ⟨⟨0, uri.utf8ByteSize⟩, ⟨uri, ⟨0, uri.utf8ByteSize⟩⟩, []⟩ :=
    congrArg Uri.schemePath (Uri.parse_schemeless schemeless)
  rw [region, ← Text.byteLength_toList] at range
  rw [accept?_front (List.append_nil _).symm range, List.append_nil, String.ofList_toList]

theorem Candidate.accept?_regular {candidate : Candidate} {scheme : List Char}
    {path : Separated PathSeparator (List Char)} {query : Option (Separated QuerySeparator Entry)}
    (regular : Layout.Regular scheme path query)
    (range : candidate.replaceRange =
      (SchemePath.ofText (String.ofList (Layout.full scheme path query).render)).scheme.span) :
    candidate.accept? (String.ofList (Layout.full scheme path query).render) =
      some (String.ofList (Layout.full candidate.label.toList path query).render) := by
  have region : SchemePath.ofText (String.ofList (Layout.full scheme path query).render) =
      (Layout.full scheme path query).schemePath :=
    congrArg Uri.schemePath (Uri.parse_regular regular)
  have front : candidate.replaceRange = ⟨0, byteLength scheme⟩ := by
    rw [range, region]
    simp [Layout.schemePath, Token.place]
  obtain ⟨rest, written⟩ := Layout.render_full path query
  rw [written candidate.label.toList]
  exact accept?_front (by rw [String.toList_ofList, written]) front

/-- Accepting a candidate rewrites the scheme and nothing else. The edit is always possible. A label
that is not empty and has no colon becomes the scheme, and path and query stay as they were up to
their place; where there is a path no other label is read back as the scheme. -/
theorem accepting_rewrites_scheme_only {uri : String} {catalog : Catalog}
    {candidates : List Candidate}
    (made : generate catalog (SchemePath.ofText uri).scheme = .ok candidates)
    {candidate : Candidate} (member : candidate ∈ candidates) :
    ∃ edited, candidate.accept? uri = some edited ∧
      (candidate.label ≠ "" → ':' ∉ candidate.label.toList →
        (Uri.parse uri).Rescheme candidate.label (Uri.parse edited)) ∧
      ((Uri.parse uri).schemePath.params ≠ [] →
        candidate.label = "" ∨ ':' ∈ candidate.label.toList →
        (Uri.parse edited).schemePath.scheme.text ≠ candidate.label) := by
  have range := replaceRange_of_generate made candidate member
  rcases Uri.schemeless_or_regular uri with schemeless | ⟨scheme, path, query, regular, rfl⟩
  · refine ⟨candidate.label, Candidate.accept?_schemeless schemeless range, ?_, ?_⟩
    · intro _ free
      exact Uri.rescheme_of_schemeless schemeless free
    · intro hasPath
      rw [Uri.parse_schemeless schemeless] at hasPath
      exact absurd rfl hasPath
  · refine ⟨_, Candidate.accept?_regular regular range, ?_, ?_⟩
    · intro nonempty free
      have rescheme := Uri.rescheme_of_regular regular
        (mt String.toList_eq_nil_iff.mp nonempty) free
      rwa [String.ofList_toList] at rescheme
    · intro _ unreadable same
      rcases Uri.scheme_text_parse
        (String.ofList (Layout.full candidate.label.toList path query).render) with
        whole | ⟨nonempty, free⟩
      · obtain ⟨rest, written⟩ := Layout.render_full path query
        rw [same, written] at whole
        have longer := congrArg (List.length ∘ String.toList) whole
        simp at longer
      · rw [same] at nonempty free
        exact unreadable.elim nonempty free

/-- A longer label that holds the marks of path and query becomes the scheme; an empty label and one
with a colon do not. -/
theorem accepting_rewrites_scheme_only_with_marks :
    let uri := "é:a/b?k=v&amp;x"
    let catalog := Catalog.ofModels
      [⟨"t?&/=", none, none⟩, ⟨"", none, none⟩, ⟨"p:q", none, none⟩]
    let candidate : String → Candidate := fun label => ⟨label, none, false, ⟨0, 2⟩⟩
    generate catalog (SchemePath.ofText uri).scheme =
        .ok [candidate "t?&/=", candidate "", candidate "p:q"] ∧
      (∃ edited, (candidate "t?&/=").accept? uri = some edited ∧
        (Uri.parse uri).Rescheme "t?&/=" (Uri.parse edited)) ∧
      (∃ edited, (candidate "").accept? uri = some edited ∧
        (Uri.parse edited).schemePath.scheme.text ≠ "") ∧
      (∃ edited, (candidate "p:q").accept? uri = some edited ∧
        (Uri.parse edited).schemePath.scheme.text ≠ "p:q") := by
  intro uri catalog candidate
  have made : generate catalog (SchemePath.ofText uri).scheme =
      .ok [candidate "t?&/=", candidate "", candidate "p:q"] := by decide
  have hasPath : (Uri.parse uri).schemePath.params ≠ [] := by decide
  have listed (label : String) (among : label ∈ ["t?&/=", "", "p:q"]) :
      candidate label ∈ [candidate "t?&/=", candidate "", candidate "p:q"] :=
    List.mem_map_of_mem among
  obtain ⟨edited, accepted, rewritten, -⟩ :=
    accepting_rewrites_scheme_only made (listed "t?&/=" (by simp))
  obtain ⟨edited', accepted', -, unread⟩ :=
    accepting_rewrites_scheme_only made (listed "" (by simp))
  obtain ⟨edited'', accepted'', -, unread'⟩ :=
    accepting_rewrites_scheme_only made (listed "p:q" (by simp))
  exact ⟨made, ⟨edited, accepted, rewritten (by decide) (by decide)⟩,
    ⟨edited', accepted', unread hasPath (Or.inl rfl)⟩,
    ⟨edited'', accepted'', unread' hasPath (Or.inr (by decide))⟩⟩

end EndpointUri
