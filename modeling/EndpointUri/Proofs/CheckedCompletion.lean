import EndpointUri.Proofs.Acceptance
import EndpointUri.Proofs.CheckedParse
import EndpointUri.Proofs.EditorEdit
import EndpointUri.Proofs.PositionOrder
import EndpointUri.Proofs.SchemaAgreement
import EndpointUri.Proofs.Supersession

/-!
A completion by offsets, from the text of the URI to the items of the editor. As in parsing, there
is no result where an offset would fall inside a character, below zero, past the text or past the
last offset, or an index past the models. For a URI in a document this never happens: the items are
those of the service.
-/
namespace EndpointUri
namespace Checked

open Text (Stands byteLength)

/-! ### What was typed -/

/-- What was typed of the scheme, as a slice of its name. -/
def typedFilter? (scheme : Token) (position : Nat) : Option (Option String) :=
  if Text.allBlank scheme.text || position == scheme.span.start then some none
  else do
    let relative := position - scheme.span.start
    let stop ← clamp? scheme.text relative
    let typed ← Span.slice? ⟨0, stop⟩ scheme.text
    return some (if byteLength scheme.text.toList < relative then typed.push ':' else typed)

theorem typedFilter?_eq (scheme : Token) (position : Nat) :
    typedFilter? scheme position = some (typedFilter scheme position) := by
  unfold typedFilter? typedFilter
  split
  · rfl
  · obtain ⟨back, split⟩ := Text.takeBytes_prefix (position - scheme.span.start) scheme.text.toList
    have stands : Stands scheme.text 0
        (Text.takeBytes (position - scheme.span.start) scheme.text.toList) :=
      ⟨[], back, by simp [split], rfl⟩
    have typed := slice?_eq stands (Nat.zero_add _)
    have past (cs : List Char) : (String.ofList cs).push ':' = String.ofList (cs ++ [':']) := by
      apply String.toList_injective
      simp
    simp only [clamp?, Text.clampBytes?_eq, Text.clamp, typed, past, Option.bind_eq_bind, Option.bind_some,
      Option.pure_def, ← apply_ite String.ofList]

/-! ### Items in a document -/

def item? (document : String) (uriOffset : Nat) (candidate : Candidate) :
    Option CompletionItem := do
  let span ← candidate.replaceRange.shift? uriOffset
  let start ← LineIndex.position? document span.start
  let stop ← LineIndex.position? document span.stop
  return {
    label := candidate.label
    kind := CompletionItem.moduleKind
    documentation := candidate.documentation
    deprecated := candidate.deprecated
    tags := if candidate.deprecated then [CompletionItem.deprecatedTag] else []
    edit := ⟨⟨start, stop⟩, candidate.label⟩ }

/-- A document whose size is no word of 32 bits has no line index. -/
def items? (document : String) (uriOffset : Nat) (includeDeprecated : Bool)
    (candidates : List Candidate) : Option (List CompletionItem) :=
  if byteLength document.toList < UInt32.size then
    (candidates.filter (Candidate.offered includeDeprecated)).mapM (item? document uriOffset)
  else none

variable {document : String}

theorem item?_eq (short : byteLength document.toList < UInt32.size) (uriOffset : Nat)
    (candidate : Candidate) :
    item? document uriOffset candidate =
      CompletionItem.ofCandidate? document uriOffset candidate := by
  have small : document.utf8ByteSize < UInt32.size := Text.byteLength_toList document ▸ short
  simp only [item?, CompletionItem.ofCandidate?, LineIndex.position?_eq_ofOffset small,
    Option.bind_eq_bind, Option.bind_some]
  rfl

theorem items?_eq (short : byteLength document.toList < UInt32.size) (uriOffset : Nat)
    (includeDeprecated : Bool) (candidates : List Candidate) :
    items? document uriOffset includeDeprecated candidates =
      CompletionItem.ofCandidates? document uriOffset includeDeprecated candidates := by
  have same : item? document uriOffset = CompletionItem.ofCandidate? document uriOffset :=
    funext (item?_eq short uriOffset)
  rw [items?, if_pos short, same]
  rfl

/-! ### The whole way -/

/-- The model at the position of a name; a position past the models has none. -/
def lookup? (index : SchemaIndex) (name : String) : Option (Except CatalogError ComponentModel) :=
  match index.positions[name]? with
  | some i => index.models[i]?.map .ok
  | none => some (.error (.componentNotFound name))

/-- The candidates for a cursor, when the catalog or its error is known. -/
def candidates? (region : SchemePath) (position : Nat) (outcome : Except CatalogError Catalog) :
    Option (Except CatalogError (List Candidate)) :=
  if region.span.touches position then
    match outcome >>= (generate · region.scheme) with
    | .error fault => return .error fault
    | .ok candidates => do
      let filter ← typedFilter? region.scheme position
      return .ok (applyFilter filter candidates)
  else return .ok []

def sub? (a b : Nat) : Option Nat := if b ≤ a then some (a - b) else none

def completion? (settings : Settings) (occurrence : Occurrence) (cursor : Nat)
    (outcome : Except CatalogError Catalog) : Option (List CompletionItem) := do
  let position := (sub? cursor occurrence.uriOffset).getD Text.maxOffset
  let uri ← parse? occurrence.uriText
  let result ← candidates? uri.schemePath position outcome
  items? occurrence.documentText occurrence.uriOffset settings.includeDeprecated
    (result.toOption.getD [])

theorem lookup?_eq {index : SchemaIndex} (agrees : index.Agrees) (name : String) :
    lookup? index name = some (index.lookup name) := by
  unfold lookup? SchemaIndex.lookup
  cases known : index.positions[name]? with
  | none => rfl
  | some i =>
    obtain ⟨model, found, -⟩ := (agrees name i).mp known
    simp [found]

theorem candidates?_eq (handle : Handle) (region : SchemePath) (position : Nat) :
    candidates? region position handle.get.value.2 =
      some (complete handle region position).value.2 := by
  rw [complete_value]
  simp only [candidates?, typedFilter?_eq, Option.bind_eq_bind, Option.bind_some]
  by_cases inside : region.span.touches position
  · rw [if_pos inside, if_pos inside]
    cases handle.get.value.2 with
    | error fault => rfl
    | ok catalog =>
      cases made : generate catalog region.scheme <;>
        simp [made, bind, Except.bind, pure, Except.pure]
  · rw [if_neg inside, if_neg inside]
    rfl

section Completed

variable {text : String} {handle : Handle} {position : Nat} {candidates : List Candidate}

theorem replaceRange_of_complete
    (completed : (complete handle (SchemePath.ofText text) position).value.2 = .ok candidates)
    {candidate : Candidate} (member : candidate ∈ candidates) :
    candidate.replaceRange = (SchemePath.ofText text).scheme.span := by
  have found := Service.complete_eq_result handle 0 ⟨"", "", 0, text⟩ position
  have range := Service.replaceRange_of_result 0 ⟨"", "", 0, text⟩ position handle.get.value.2
  rw [← found] at range
  simp only [Service.positionOf, Nat.zero_le, if_true, Nat.sub_zero, completed, Except.toOption,
    Option.getD_some] at range
  exact range candidate member

/-- Every candidate of a completion replaces the scheme, so it can be accepted. -/
theorem isSome_accept?
    (completed : (complete handle (SchemePath.ofText text) position).value.2 = .ok candidates)
    {candidate : Candidate} (member : candidate ∈ candidates) :
    (candidate.accept? text).isSome = true := by
  obtain ⟨⟨back, split⟩, span⟩ := SchemePath.scheme_front text
  rw [Candidate.accept?_front split ((replaceRange_of_complete completed member).trans span)]
  rfl

end Completed

/-- A cursor before the URI touches nothing. -/
theorem not_touches_maxOffset {text : String} (bound : byteLength text.toList < Text.maxOffset) :
    (SchemePath.ofText text).span.touches Text.maxOffset = false := by
  have fits := (Uri.tiles_parse text).fits (SchemePath.ofText text).span (by simp [Uri.spans])
  have stop := fits.bounded
  rw [← Text.byteLength_toList] at stop
  rw [Bool.eq_false_iff, Ne, Span.touches_iff]
  omega

variable {occurrence : Occurrence}

theorem completion?_eq
    (inside : occurrence.uriOffset + byteLength occurrence.uriText.toList ≤
      byteLength occurrence.documentText.toList)
    (short : byteLength occurrence.documentText.toList < UInt32.size) (s : Service) (cursor : Nat) :
    ∃ items, completion? s.settings occurrence cursor s.handle.get.value.2 = some items ∧
      (s.completion occurrence cursor).value.2 = .items items := by
  have words : UInt32.size ≤ Text.maxOffset := by decide
  have last : Text.maxOffset + 1 = Text.offsetLimit := rfl
  have addressable : occurrence.Addressable := by
    unfold Occurrence.Addressable
    omega
  obtain ⟨items, given⟩ := Service.answer_eq_items s.settings (s.tracker.issued + 1) addressable
    cursor s.handle.get.value.2
  rw [← Service.complete_eq_result] at given
  refine ⟨items, ?_, (s.completion_eq_complete occurrence cursor).2.trans given⟩
  have position : (sub? cursor occurrence.uriOffset).getD Text.maxOffset =
      Service.positionOf occurrence cursor := by
    unfold sub? Service.positionOf
    split <;> rfl
  have parsed := parse?_eq (by omega : byteLength occurrence.uriText.toList < Text.maxOffset)
  simp only [completion?, position, parsed, Uri.parse_schemePath, candidates?_eq, items?_eq short,
    Option.bind_eq_bind, Option.bind_some]
  rw [Service.answer] at given
  split at given
  next made =>
    cases given
    exact made
  next => contradiction

theorem completion_before
    (bound : byteLength occurrence.uriText.toList < Text.maxOffset) (s : Service) {cursor : Nat}
    (before : cursor < occurrence.uriOffset) :
    (s.completion occurrence cursor).value.2 = .items [] ∧
      (s.completion occurrence cursor).value.1.handle = s.handle := by
  have position : Service.positionOf occurrence cursor = Text.maxOffset :=
    if_neg (Nat.not_le_of_lt before)
  have outside := not_touches_maxOffset bound
  obtain ⟨handle, answer⟩ := s.completion_eq_complete occurrence cursor
  rw [position, complete_value, outside] at handle answer
  exact ⟨answer, handle⟩

end Checked

/-- Nothing goes wrong on the way from a URI to the items of its completions. A text that ends before
the last offset is parsed, and its scheme cut at any position; the candidates of a completion are
found, and each can be accepted. A catalog of documents never looks past its models. A URI in a
document with a size of 32 bits gets its items for any cursor, and for a cursor before the URI these
are none and the handle is not asked. -/
theorem completion_never_faults :
    (∀ text : String, Text.byteLength text.toList < Text.maxOffset →
      Checked.parse? text = some (Uri.parse text) ∧
      (∀ position, Checked.typedFilter? (Uri.parse text).schemePath.scheme position =
        some (typedFilter (Uri.parse text).schemePath.scheme position)) ∧
      ∀ (handle : Handle) (position : Nat),
        let completed := (complete handle (SchemePath.ofText text) position).value.2
        Checked.candidates? (Uri.parse text).schemePath position handle.get.value.2 =
          some completed ∧
        ∀ candidates, completed = .ok candidates →
          ∀ candidate ∈ candidates, (candidate.accept? text).isSome = true) ∧
    (∀ (documents : List (String × String)) (name : String),
      let index := SchemaIndex.empty.addAll documents
      Checked.lookup? index name = some (index.lookup name)) ∧
    ∀ (s : Service) (occurrence : Occurrence) (cursor : Nat),
      occurrence.uriOffset + Text.byteLength occurrence.uriText.toList ≤
        Text.byteLength occurrence.documentText.toList →
      Text.byteLength occurrence.documentText.toList < UInt32.size →
      (∃ items, Checked.completion? s.settings occurrence cursor s.handle.get.value.2 = some items ∧
        (s.completion occurrence cursor).value.2 = .items items) ∧
      (cursor < occurrence.uriOffset →
        (s.completion occurrence cursor).value.2 = .items [] ∧
          (s.completion occurrence cursor).value.1.handle = s.handle) := by
  refine ⟨?_, ?_, ?_⟩
  · intro text bound
    refine ⟨Checked.parse?_eq bound, Checked.typedFilter?_eq _, ?_⟩
    intro handle position completed
    refine ⟨Checked.candidates?_eq handle (SchemePath.ofText text) position, ?_⟩
    intro candidates found candidate member
    exact Checked.isSome_accept? found member
  · intro documents name index
    have represents := SchemaIndex.represents_empty.addAll documents
    exact Checked.lookup?_eq represents.agrees name
  · intro s occurrence cursor inside short
    have words : UInt32.size ≤ Text.maxOffset := by decide
    refine ⟨Checked.completion?_eq inside short s cursor, ?_⟩
    intro before
    exact Checked.completion_before (by omega) s before

/-- A cursor inside the first character of the URI, and one before the URI. -/
theorem completion_never_faults_inside_character :
    let uri := "é:/b?k=v&amp;x"
    let occurrence : Occurrence := ⟨"a.xml", "<u='é:/b?k=v&amp;x'/>", 4, uri⟩
    let handle := Handle.ready (Catalog.ofModels [⟨"été", none, none⟩])
    let s := Service.new handle Settings.default
    let candidate : Candidate := ⟨"été", none, false, ⟨0, 2⟩⟩
    Checked.parse? uri = some (Uri.parse uri) ∧
      (complete handle (SchemePath.ofText uri) 1).value.2 = .ok [candidate] ∧
      (candidate.accept? uri).isSome = true ∧
      (s.completion occurrence 5).value.2 =
        .items [⟨"été", 9, none, false, [], ⟨⟨⟨0, 4⟩, ⟨0, 5⟩⟩, "été"⟩⟩] ∧
      (s.completion occurrence 3).value.2 = .items [] := by
  intro uri occurrence handle s candidate
  obtain ⟨texts, -, calls⟩ := completion_never_faults
  obtain ⟨parsed, -, completions⟩ := texts uri (by decide)
  have completed : (complete handle (SchemePath.ofText uri) 1).value.2 = .ok [candidate] := by
    rw [complete_value]
    decide
  obtain ⟨⟨items, checked, answered⟩, -⟩ := calls s occurrence 5 (by decide) (by decide)
  have found : Checked.completion? s.settings occurrence 5 s.handle.get.value.2 =
      some [⟨"été", 9, none, false, [], ⟨⟨⟨0, 4⟩, ⟨0, 5⟩⟩, "été"⟩⟩] := by decide
  obtain rfl := Option.some.inj (checked.symm.trans found)
  exact ⟨parsed, completed, (completions handle 1).2 _ completed candidate (by simp), answered,
    ((calls s occurrence 3 (by decide) (by decide)).2 (by decide)).1⟩

end EndpointUri
