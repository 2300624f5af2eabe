import EndpointUri.Proofs.Narrowing
import EndpointUri.Proofs.Resolution

/-!
Completing once more after a candidate was accepted. The label is now the scheme, so at its end it is
offered again, and to accept it there changes nothing; all that is offered beside it goes on from it.
-/
namespace EndpointUri

open Text (byteLength)

/-- Every candidate of a completion comes from a model, and then no model is missing. -/
theorem mem_of_complete {handle : Handle} {catalog : Catalog} (ready : handle.loaded = some catalog)
    {region : SchemePath} {position : Nat} {items : List Candidate}
    (offered : (complete handle region position).value.2 = .ok items) {candidate : Candidate}
    (member : candidate ∈ items) :
    catalog.firstFault? = none ∧
      ∃ model ∈ catalog.models, candidate = Candidate.ofModel region.scheme.span model := by
  by_cases inside : region.span.touches position
  · cases fault : catalog.firstFault? with
    | some _ =>
      rw [complete_value, if_pos inside, Handle.get_loaded ready] at offered
      simp [generate_eq, fault, bind, Except.bind] at offered
    | none =>
      rw [complete_whole ready fault, if_pos inside, Except.ok.injEq] at offered
      rw [← offered, applyFilter, List.mem_filter, List.mem_map] at member
      obtain ⟨⟨model, listed, rfl⟩, -⟩ := member
      exact ⟨rfl, model, listed, rfl⟩
  · rw [complete_value, if_neg inside, Except.ok.injEq] at offered
    rw [← offered] at member
    exact absurd member List.not_mem_nil

/-- A label that can be a scheme stands where the scheme stood and is read as the scheme. -/
theorem Candidate.accept?_settles {candidate : Candidate} {uri : String}
    (range : candidate.replaceRange = (SchemePath.ofText uri).scheme.span)
    (nonempty : candidate.label ≠ "") (free : ':' ∉ candidate.label.toList) :
    ∃ edited back, candidate.accept? uri = some edited ∧
      edited.toList = candidate.label.toList ++ back ∧
      (SchemePath.ofText edited).scheme = Token.place 0 candidate.label.toList := by
  rcases SchemePath.scheme_cases uri with ⟨-, token, -⟩ | ⟨scheme, rest, split, -, -, token⟩
  · rw [token, Token.place, Nat.zero_add] at range
    refine ⟨_, [], accept?_front (List.append_nil _).symm range, String.toList_ofList, ?_⟩
    rw [List.append_nil, String.ofList_toList, SchemePath.ofText, Layout.read_schemeless (.inl free)]
    rfl
  · rw [token, Token.place, Nat.zero_add] at range
    refine ⟨_, _, accept?_front split range, String.toList_ofList, ?_⟩
    rw [SchemePath.ofText_marked String.toList_ofList (mt String.toList_eq_nil_iff.mp nonempty) free]
    rfl

/-- At the end of its scheme a URI is offered all that begins with the scheme, in place of it. -/
theorem complete_at_scheme_stop {handle : Handle} {catalog : Catalog}
    (ready : handle.loaded = some catalog) (whole : catalog.firstFault? = none) {uri : String}
    {name : List Char} (token : (SchemePath.ofText uri).scheme = Token.place 0 name) :
    (complete handle (SchemePath.ofText uri) (byteLength name)).value.2 =
      .ok ((catalog.models.map (Candidate.ofModel ⟨0, byteLength name⟩)).filter fun candidate =>
        Text.allBlank (String.ofList name) || name.isPrefixOf candidate.label.toList) := by
  have span : (SchemePath.ofText uri).scheme.span = ⟨0, byteLength name⟩ := by
    rw [token, Token.place, Nat.zero_add]
  have inside : (SchemePath.ofText uri).span.touches (byteLength name) = true := by
    rw [SchemePath.touches_ofText]
    have tiles := Uri.tiles_parse uri
    have le := tiles.schemePath.scheme_le tiles.pathParam_ordered
    rwa [Uri.parse_schemePath, span] at le
  rw [complete_whole ready whole, if_pos inside, applyFilter, span, token]
  exact congrArg (fun fits => Except.ok (List.filter fits _)) (funext (fits_atEnd name))

/-- Accepting a completion is a fixed point. A candidate whose label can be a scheme is offered again
at the end of its label, in place of just that label, so accepting it there changes nothing; unless the
label is blank, all labels offered there begin with it. -/
theorem accepting_is_fixed_point {uri : String} {position : Nat} {handle : Handle} {catalog : Catalog}
    (ready : handle.loaded = some catalog) {items : List Candidate}
    (offered : (complete handle (Uri.parse uri).schemePath position).value.2 = .ok items)
    {candidate : Candidate} (member : candidate ∈ items) (nonempty : candidate.label ≠ "")
    (free : ':' ∉ candidate.label.toList) :
    ∃ edited again, candidate.accept? uri = some edited ∧
      (complete handle (Uri.parse edited).schemePath candidate.label.utf8ByteSize).value.2 =
        .ok again ∧
      (∃ same ∈ again, same.label = candidate.label) ∧
      (∀ same ∈ again, same.label = candidate.label →
        same.replaceRange = ⟨0, candidate.label.utf8ByteSize⟩ ∧ same.accept? edited = some edited) ∧
      (Text.allBlank candidate.label = false →
        ∀ other ∈ again, candidate.label.toList <+: other.label.toList) := by
  obtain ⟨whole, model, listed, made⟩ := mem_of_complete ready offered member
  have label : model.scheme = candidate.label := by rw [made, Candidate.ofModel]
  have range : candidate.replaceRange = (SchemePath.ofText uri).scheme.span := by
    rw [made, Candidate.ofModel, Uri.parse_schemePath]
  obtain ⟨edited, back, accepted, split, token⟩ := candidate.accept?_settles range nonempty free
  have completed := complete_at_scheme_stop ready whole token
  rw [String.ofList_toList] at completed
  rw [← Text.byteLength_toList]
  refine ⟨edited, _, accepted, completed, ?_, ?_, ?_⟩
  · refine ⟨Candidate.ofModel _ model, List.mem_filter.mpr ⟨List.mem_map_of_mem listed, ?_⟩, label⟩
    rw [Candidate.ofModel, label, List.isPrefixOf_iff_prefix.mpr List.prefix_rfl, Bool.or_true]
  · intro same offeredAgain sameLabel
    obtain ⟨_, _, rfl⟩ := List.mem_map.mp (List.mem_of_mem_filter offeredAgain)
    refine ⟨rfl, ?_⟩
    rw [Candidate.accept?_front split rfl, sameLabel, ← split, String.ofList_toList]
  · intro lettered other offeredAgain
    obtain ⟨-, fits⟩ := List.mem_filter.mp offeredAgain
    rwa [lettered, Bool.false_or, List.isPrefixOf_iff_prefix] at fits

/-- The shorter of two names is accepted in front of path and query: both are offered again at its end,
and accepting it once more leaves the text as it is. -/
theorem accepting_is_fixed_point_before_path :
    let catalog := Catalog.ofModels [⟨"étés", none, none⟩, ⟨"jms", none, none⟩, ⟨"été", none, none⟩]
    let handle := Handle.ready catalog
    let offered (label : String) (size : Nat) : Candidate := ⟨label, none, false, ⟨0, size⟩⟩
    handle.loaded = some catalog ∧
      (complete handle (Uri.parse "é:a?k").schemePath 2).value.2 =
        .ok [offered "étés" 2, offered "été" 2] ∧
      (offered "été" 2).accept? "é:a?k" = some "été:a?k" ∧
      (complete handle (Uri.parse "été:a?k").schemePath 5).value.2 =
        .ok [offered "étés" 5, offered "été" 5] ∧
      (offered "été" 5).accept? "été:a?k" = some "été:a?k" ∧
      ∀ other ∈ [offered "étés" 5, offered "été" 5], "été".toList <+: other.label.toList := by
  intro catalog handle offered
  have ready : handle.loaded = some catalog := rfl
  have typed : (complete handle (Uri.parse "é:a?k").schemePath 2).value.2 =
      .ok [offered "étés" 2, offered "été" 2] := by decide
  have edit : (offered "été" 2).accept? "é:a?k" = some "été:a?k" := by decide
  have settled : (complete handle (Uri.parse "été:a?k").schemePath 5).value.2 =
      .ok [offered "étés" 5, offered "été" 5] := by decide
  have member : offered "été" 2 ∈ [offered "étés" 2, offered "été" 2] := by decide
  obtain ⟨edited, again, accepted, completed, -, fixed, begins⟩ :=
    accepting_is_fixed_point ready typed member (by decide) (by decide)
  obtain rfl := Option.some.inj (edit.symm.trans accepted)
  obtain rfl := Except.ok.inj (settled.symm.trans completed)
  exact ⟨ready, typed, edit, settled, (fixed (offered "été" 5) (by decide) rfl).2, begins (by decide)⟩

end EndpointUri
