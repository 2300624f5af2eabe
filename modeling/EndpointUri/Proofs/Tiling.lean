import EndpointUri.Proofs.Boundary
import EndpointUri.Proofs.RoundTrip
import Mathlib.Data.List.Chain

/-!
The nodes of a parsed URI tile its text. Every node is the text at its span, and between two
neighbours stands exactly one separator, so the nodes and separators in order give the text back.
-/
namespace EndpointUri

open Text (Stands byteLength)

/-- `right` follows `left` with exactly `separator` between them. -/
structure Joined (text separator : String) (left right : Span) : Prop where
  start : right.start = left.stop + separator.utf8ByteSize
  between : Span.slice? ⟨left.stop, right.start⟩ text = some separator

theorem joined_of_stands {text : String} {separator : List Char} {left right : Span}
    (stands : Stands text left.stop separator)
    (start : right.start = left.stop + byteLength separator) :
    Joined text (String.ofList separator) left right := by
  refine ⟨by rw [Text.utf8ByteSize_ofList, start], ?_⟩
  rw [start]
  exact Span.slice?_of_stands stands

/-! ### Walking a run of items -/

namespace Separated

variable {σ α β : Type} {text : String}

/-- The items of a run placed one after the other, each with its offset and its number. -/
def walk (separator : σ → List Char) (item : α → List Char) (place : Nat → Nat → α → β)
    (offset index : Nat) (head : α) : List (σ × α) → List β
  | [] => [place offset index head]
  | (s, next) :: rest =>
    place offset index head :: walk separator item place
      (offset + byteLength (item head) + byteLength (separator s)) (index + 1) next rest

variable {separator : σ → List Char} {item : α → List Char} {place : Nat → Nat → α → β}

theorem stands_cons {offset : Nat} {head next : α} {s : σ} {rest : List (σ × α)}
    (stands : Stands text offset (render separator item ⟨head, (s, next) :: rest⟩)) :
    Stands text offset (item head) ∧
      Stands text (offset + byteLength (item head)) (separator s) ∧
      Stands text (offset + byteLength (item head) + byteLength (separator s))
        (render separator item ⟨next, rest⟩) := by
  rw [render_cons] at stands
  exact ⟨stands.left, stands.right.left, stands.right.right⟩

theorem forall_walk {P : β → Prop}
    (placed : ∀ offset index a, Stands text offset (item a) → P (place offset index a))
    {offset index : Nat} {head : α} {tail : List (σ × α)}
    (stands : Stands text offset (render separator item ⟨head, tail⟩)) :
    ∀ b ∈ walk separator item place offset index head tail, P b := by
  induction tail generalizing offset index head with
  | nil =>
    have here : Stands text offset (item head) := by simpa [render] using stands
    simpa [walk] using placed _ _ _ here
  | cons pair rest ih =>
    obtain ⟨here, -, later⟩ := stands_cons stands
    exact List.forall_mem_cons.mpr ⟨placed _ _ _ here, ih later⟩

theorem head?_walk (offset index : Nat) (head : α) (tail : List (σ × α)) :
    (walk separator item place offset index head tail).head? = some (place offset index head) := by
  cases tail <;> rfl

theorem isChain_walk {R : β → β → Prop}
    (joined : ∀ offset index a s b, Stands text (offset + byteLength (item a)) (separator s) →
      R (place offset index a)
        (place (offset + byteLength (item a) + byteLength (separator s)) (index + 1) b))
    {offset index : Nat} {head : α} {tail : List (σ × α)}
    (stands : Stands text offset (render separator item ⟨head, tail⟩)) :
    (walk separator item place offset index head tail).IsChain R := by
  induction tail generalizing offset index head with
  | nil => exact .singleton _
  | cons pair rest ih =>
    obtain ⟨s, next⟩ := pair
    obtain ⟨-, gap, later⟩ := stands_cons stands
    refine List.isChain_cons.mpr ⟨?_, ih later⟩
    rw [head?_walk]
    rintro _ ⟨⟩
    exact joined _ _ _ _ _ gap

theorem getLast?_walk {offset index : Nat} {head : α} {tail : List (σ × α)} {last : β}
    (found : last ∈ (walk separator item place offset index head tail).getLast?) :
    ∃ lastOffset lastIndex a, last = place lastOffset lastIndex a ∧
      lastOffset + byteLength (item a) =
        offset + byteLength (render separator item ⟨head, tail⟩) := by
  induction tail generalizing offset index head with
  | nil =>
    obtain rfl : place offset index head = last := by simpa [walk] using found
    exact ⟨offset, index, head, rfl, by simp [render]⟩
  | cons pair rest ih =>
    obtain ⟨s, next⟩ := pair
    have nonempty : walk separator item place
        (offset + byteLength (item head) + byteLength (separator s)) (index + 1) next rest ≠ [] := by
      cases rest <;> simp [walk]
    rw [walk, List.getLast?_cons_of_ne_nil nonempty] at found
    obtain ⟨lastOffset, lastIndex, a, same, stop⟩ := ih found
    refine ⟨lastOffset, lastIndex, a, same, ?_⟩
    rw [stop, render_cons, Text.byteLength_append, Text.byteLength_append]
    omega

end Separated

theorem byteLength_pathSeparator (separator : PathSeparator) : byteLength [separator.char] = 1 := by
  cases separator <;> rfl

theorem placePath_eq_walk (offset index : Nat) (segment : List Char)
    (tail : List (PathSeparator × List Char)) :
    placePath offset index segment tail =
      Separated.walk (fun separator => [separator.char]) id PathParam.place
        offset index segment tail := by
  induction tail generalizing offset index segment with
  | nil => rfl
  | cons pair rest ih => simp only [placePath, Separated.walk, id, byteLength_pathSeparator, ih]

theorem placeQuery_eq_walk (offset index : Nat) (entry : Entry)
    (tail : List (QuerySeparator × Entry)) :
    placeQuery offset entry tail =
      Separated.walk QuerySeparator.chars Entry.render (fun offset _ => QueryParam.place offset)
        offset index entry tail := by
  induction tail generalizing offset index entry with
  | nil => rfl
  | cons pair rest ih => simp only [placeQuery, Separated.walk, ih _ (index + 1)]

theorem placePath_indexes (offset index : Nat) (segment : List Char)
    (tail : List (PathSeparator × List Char)) :
    (placePath offset index segment tail).map (·.index) = List.range' index (tail.length + 1) := by
  induction tail generalizing offset index segment with
  | nil => rfl
  | cons pair rest ih =>
    obtain ⟨separator, next⟩ := pair
    rw [placePath, List.map_cons, ih, List.length_cons, List.range'_succ]
    rfl

/-! ### What tiling means -/

def QueryParam.tokens (param : QueryParam) : List Token := param.key :: param.value.toList

/-- The scheme, the path parameters, and the keys and values of the query, in order. -/
def Uri.tokens (uri : Uri) : List Token :=
  uri.schemePath.scheme ::
    (uri.schemePath.params.map (·.toToken) ++ uri.query.flatMap QueryParam.tokens)

def Uri.spans (uri : Uri) : List Span :=
  uri.span :: uri.schemePath.span :: (uri.tokens.map (·.span) ++ uri.query.map (·.span))

/-- The path parameters fill the region after the scheme and its colon. -/
structure SchemePath.Tiles (region : SchemePath) (text : String) : Prop where
  start : region.span.start = 0
  schemeStart : region.scheme.span.start = 0
  bare : region.params = [] → region.scheme.span.stop = region.span.stop
  first : ∀ param ∈ region.params.head?, Joined text ":" region.scheme.span param.span
  next : region.params.IsChain fun left right =>
    Joined text ":" left.span right.span ∨ Joined text "/" left.span right.span
  indexes : region.params.map (·.index) = List.range region.params.length
  last : ∀ param ∈ region.params.getLast?, param.span.stop = region.span.stop

/-- Key and value fill the entry up to the equals sign between them. -/
structure QueryParam.Tiles (param : QueryParam) (text : String) : Prop where
  start : param.key.span.start = param.span.start
  keyOnly : param.value = none → param.key.span.stop = param.span.stop
  keyValue : ∀ value ∈ param.value,
    Joined text "=" param.key.span value.span ∧ value.span.stop = param.span.stop

structure Uri.Tiles (uri : Uri) (text : String) : Prop where
  fits : ∀ span ∈ uri.spans, span.Fits text
  slices : ∀ token ∈ uri.tokens, token.span.slice? text = some token.text
  schemePath : uri.schemePath.Tiles text
  noQuery : uri.schemePath.span.stop = text.utf8ByteSize → uri.query = []
  first : uri.schemePath.span.stop < text.utf8ByteSize →
    ∃ param ∈ uri.query.head?, Joined text "?" uri.schemePath.span param.span
  next : uri.query.IsChain fun left right =>
    Joined text "&" left.span right.span ∨ Joined text "&amp;" left.span right.span
  last : ∀ param ∈ uri.query.getLast?, param.span.stop = text.utf8ByteSize
  entries : ∀ param ∈ uri.query, param.Tiles text

/-- The tokens from an offset on, each after the text between it and the one before. -/
def weave (text : String) : Nat → List Token → String
  | _, [] => ""
  | offset, token :: rest =>
    Span.slice ⟨offset, token.span.start⟩ text ++ token.text ++ weave text token.span.stop rest

/-! ### The parsed text tiles -/

theorem Token.slice?_place {text : String} {offset : Nat} {cs : List Char}
    (stands : Stands text offset cs) :
    (Token.place offset cs).span.slice? text = some (Token.place offset cs).text :=
  Span.slice?_of_stands stands

theorem QueryParam.tiles_place {text : String} {offset : Nat} {entry : Entry}
    (stands : Stands text offset entry.render) : (QueryParam.place offset entry).Tiles text := by
  obtain ⟨key, value⟩ := entry
  cases value with
  | none => exact ⟨rfl, fun _ => rfl, by simp [place]⟩
  | some value =>
    have marked : Stands text (offset + byteLength key) (['='] ++ value) := stands.right
    refine ⟨rfl, by simp [place], ?_⟩
    rintro _ ⟨⟩
    refine ⟨joined_of_stands marked.left rfl, ?_⟩
    change offset + byteLength key + 1 + byteLength value = offset + byteLength (key ++ '=' :: value)
    have equals : '='.utf8Size = 1 := rfl
    rw [Text.byteLength_append, Text.byteLength_cons]
    omega

theorem QueryParam.slices_place {text : String} {offset : Nat} {entry : Entry}
    (stands : Stands text offset entry.render) :
    ∀ token ∈ (QueryParam.place offset entry).tokens,
      token.span.slice? text = some token.text := by
  obtain ⟨key, value⟩ := entry
  cases value with
  | none =>
    have keyStands : Stands text offset key := stands
    exact List.forall_mem_singleton.mpr (Token.slice?_place keyStands)
  | some value =>
    have keyStands : Stands text offset key := stands.left
    have marked : Stands text (offset + byteLength key) (['='] ++ value) := stands.right
    exact List.forall_mem_cons.mpr ⟨Token.slice?_place keyStands,
      List.forall_mem_singleton.mpr (Token.slice?_place marked.right)⟩

namespace Layout

variable {text : String} {scheme : List Char} {path : Separated PathSeparator (List Char)}

theorem byteLength_region (query : Option (Separated QuerySeparator Entry)) :
    byteLength (scheme ++ ':' :: renderPath path) = (full scheme path query).pathEnd := by
  have colon : ':'.utf8Size = 1 := rfl
  simp only [pathEnd, Text.byteLength_append, Text.byteLength_cons]
  omega

theorem stands_region {query : Option (Separated QuerySeparator Entry)}
    (found : read text.toList = full scheme path query) :
    Stands text 0 (scheme ++ ':' :: renderPath path) := by
  have whole := Text.stands_self text
  rw [← render_read text.toList, found] at whole
  cases query with
  | none => exact whole
  | some run => exact whole.left

theorem stands_query {run : Separated QuerySeparator Entry}
    (found : read text.toList = full scheme path (some run)) :
    Stands text (full scheme path (some run)).pathEnd (['?'] ++ renderQuery run) := by
  have whole := Text.stands_self text
  rw [← render_read text.toList, found] at whole
  rw [← byteLength_region, ← Nat.zero_add (byteLength _)]
  exact whole.right

theorem size_without_query (found : read text.toList = full scheme path none) :
    text.utf8ByteSize = (full scheme path none).pathEnd := by
  rw [← Text.byteLength_toList, ← render_read text.toList, found, ← byteLength_region]
  rfl

theorem size_with_query {run : Separated QuerySeparator Entry}
    (found : read text.toList = full scheme path (some run)) :
    text.utf8ByteSize =
      (full scheme path (some run)).pathEnd + 1 + byteLength (renderQuery run) := by
  have question : '?'.utf8Size = 1 := rfl
  rw [← Text.byteLength_toList, ← render_read text.toList, found, ← byteLength_region, render,
    Text.byteLength_append, Text.byteLength_cons]
  omega

/-- Scheme and path are placed on a region that stands at the start of the text. -/
theorem tiles_schemePath (query : Option (Separated QuerySeparator Entry))
    (region : Stands text 0 (scheme ++ ':' :: renderPath path)) :
    (full scheme path query).schemePath.Tiles text := by
  have afterScheme : Stands text (byteLength scheme) ([':'] ++ renderPath path) := by
    simpa using region.right
  have pathStands : Stands text (byteLength scheme + 1) (renderPath path) := afterScheme.right
  obtain ⟨segment, tail⟩ := path
  have params : (full scheme ⟨segment, tail⟩ query).schemePath.params =
      placePath (byteLength scheme + 1) 0 segment tail := rfl
  refine ⟨rfl, rfl, ?_, ?_, ?_, ?_, ?_⟩ <;> rw [params]
  · intro empty
    have indexes := placePath_indexes (byteLength scheme + 1) 0 segment tail
    simp [empty] at indexes
  · rw [placePath_eq_walk, Separated.head?_walk]
    rintro _ ⟨⟩
    refine joined_of_stands ?_ ?_
    · simpa [schemePath, Token.place] using afterScheme.left
    · simp [schemePath, Token.place, PathParam.place]
      rfl
  · rw [placePath_eq_walk]
    refine Separated.isChain_walk ?_ pathStands
    intro offset index a separator b gap
    cases separator with
    | colon => exact Or.inl (joined_of_stands gap rfl)
    | slash => exact Or.inr (joined_of_stands gap rfl)
  · have indexes := placePath_indexes (byteLength scheme + 1) 0 segment tail
    have length := congrArg List.length indexes
    rw [List.length_map, List.length_range'] at length
    rw [indexes, length, List.range_eq_range']
  · intro param found
    rw [placePath_eq_walk] at found
    obtain ⟨lastOffset, lastIndex, last, rfl, stop⟩ := Separated.getLast?_walk found
    exact stop

theorem slices_schemePath (query : Option (Separated QuerySeparator Entry))
    (region : Stands text 0 (scheme ++ ':' :: renderPath path)) :
    let node := (full scheme path query).schemePath
    node.scheme.span.slice? text = some node.scheme.text ∧
      ∀ param ∈ node.params, param.span.slice? text = some param.text := by
  have afterScheme : Stands text (byteLength scheme) ([':'] ++ renderPath path) := by
    simpa using region.right
  refine ⟨Token.slice?_place region.left, ?_⟩
  simp only [schemePath, placePath_eq_walk]
  refine Separated.forall_walk ?_ afterScheme.right
  intro offset index segment (stands : Stands text offset segment)
  exact Token.slice?_place stands

/-- What holds of an entry placed where it stands holds of every parameter. -/
theorem forall_placeQuery {P : QueryParam → Prop}
    (placed : ∀ offset entry, Stands text offset entry.render → P (QueryParam.place offset entry))
    {offset : Nat} {run : Separated QuerySeparator Entry}
    (stands : Stands text offset (renderQuery run)) :
    ∀ param ∈ placeQuery offset run.head run.tail, P param := by
  rw [placeQuery_eq_walk offset 0]
  exact Separated.forall_walk (fun offset _ entry => placed offset entry) stands

theorem isChain_placeQuery {offset : Nat} {run : Separated QuerySeparator Entry}
    (stands : Stands text offset (renderQuery run)) :
    (placeQuery offset run.head run.tail).IsChain fun left right =>
      Joined text "&" left.span right.span ∨ Joined text "&amp;" left.span right.span := by
  rw [placeQuery_eq_walk offset 0]
  refine Separated.isChain_walk ?_ stands
  intro offset _ entry separator next gap
  cases separator with
  | plain => exact Or.inl (joined_of_stands gap rfl)
  | escaped => exact Or.inr (joined_of_stands gap rfl)

theorem getLast?_placeQuery {offset : Nat} {run : Separated QuerySeparator Entry}
    {last : QueryParam} (found : last ∈ (placeQuery offset run.head run.tail).getLast?) :
    last.span.stop = offset + byteLength (renderQuery run) := by
  rw [placeQuery_eq_walk offset 0] at found
  obtain ⟨lastOffset, _, entry, rfl, stop⟩ := Separated.getLast?_walk found
  exact stop

end Layout

namespace Uri

variable {text : String}

/-- A node whose slice is known fits, so only the wider spans are left to check. -/
theorem fits_of_slices {uri : Uri} (root : uri.span.Fits text) (region : uri.schemePath.span.Fits text)
    (slices : ∀ token ∈ uri.tokens, token.span.slice? text = some token.text)
    (entries : ∀ param ∈ uri.query, param.span.Fits text) :
    ∀ span ∈ uri.spans, span.Fits text := by
  simp only [spans, List.forall_mem_cons, List.forall_mem_append, List.forall_mem_map]
  exact ⟨root, region, fun token member => Span.fits_of_slice? (slices token member), entries⟩

theorem span_fits (text : String) : (parse text).span.Fits text := by
  simpa [span] using Span.fits_of_stands (Text.stands_self text)

theorem tiles_bare (bare : Layout.read text.toList = .bare text.toList) :
    (parse text).Tiles text := by
  have shape : parse text =
      ⟨text, ⟨⟨0, byteLength text.toList⟩, Token.place 0 text.toList, []⟩, []⟩ := by
    simp [parse, bare, Layout.schemePath, Layout.queryParams, Layout.pathEnd]
  have root := span_fits text
  rw [shape] at root ⊢
  have slices : ∀ token ∈ [Token.place 0 text.toList], token.span.slice? text = some token.text :=
    List.forall_mem_singleton.mpr (Token.slice?_place (Text.stands_self text))
  refine ⟨fits_of_slices root root slices (by simp), slices, ?_, fun _ => rfl, ?_, .nil,
    by simp, by simp⟩
  · exact ⟨rfl, rfl, fun _ => by simp [Token.place], by simp, .nil, rfl, by simp⟩
  · intro before
    simp [Text.byteLength_toList] at before

theorem forall_tokens {uri : Uri} {P : Token → Prop} :
    (∀ token ∈ uri.tokens, P token) ↔ P uri.schemePath.scheme ∧
      (∀ param ∈ uri.schemePath.params, P param.toToken) ∧
      ∀ param ∈ uri.query, ∀ token ∈ param.tokens, P token := by
  simp only [tokens, List.forall_mem_cons, List.forall_mem_append, List.forall_mem_map,
    List.forall_mem_flatMap]

theorem tiles_full {scheme : List Char} {path : Separated PathSeparator (List Char)}
    {query : Option (Separated QuerySeparator Entry)}
    (found : Layout.read text.toList = .full scheme path query) : (parse text).Tiles text := by
  have region := Layout.stands_region found
  have regionFits := Span.fits_of_stands region
  rw [Nat.zero_add, Layout.byteLength_region query] at regionFits
  have tiles := Layout.tiles_schemePath query region
  have slices := Layout.slices_schemePath query region
  have root := span_fits text
  have shape : parse text = ⟨text, (Layout.full scheme path query).schemePath,
      (Layout.full scheme path query).queryParams⟩ := by
    simp [parse, found]
  rw [shape] at root ⊢
  cases query with
  | none =>
    have all : ∀ token ∈ Uri.tokens ⟨text, (Layout.full scheme path none).schemePath, []⟩,
        token.span.slice? text = some token.text :=
      forall_tokens.mpr ⟨slices.1, slices.2, by simp⟩
    refine ⟨fits_of_slices root regionFits all (by simp [Layout.queryParams]), all, tiles,
      fun _ => rfl, ?_, .nil, by simp [Layout.queryParams], by simp [Layout.queryParams]⟩
    intro before
    rw [Layout.size_without_query found] at before
    exact absurd before (Nat.lt_irrefl _)
  | some run =>
    have size := Layout.size_with_query found
    have marked := Layout.stands_query found
    have entries : Stands text ((Layout.full scheme path (some run)).pathEnd + 1)
        (Layout.renderQuery run) := marked.right
    have all : ∀ token ∈ Uri.tokens ⟨text, (Layout.full scheme path (some run)).schemePath,
        (Layout.full scheme path (some run)).queryParams⟩,
        token.span.slice? text = some token.text :=
      forall_tokens.mpr ⟨slices.1, slices.2,
        Layout.forall_placeQuery (fun _ _ => QueryParam.slices_place) entries⟩
    refine ⟨fits_of_slices root regionFits all ?_, all, tiles, ?_, ?_,
      Layout.isChain_placeQuery entries, ?_,
      Layout.forall_placeQuery (fun _ _ => QueryParam.tiles_place) entries⟩
    · exact Layout.forall_placeQuery (fun _ _ => Span.fits_of_stands) entries
    · intro (ends : (Layout.full scheme path (some run)).pathEnd = _)
      omega
    · intro _
      refine ⟨QueryParam.place ((Layout.full scheme path (some run)).pathEnd + 1) run.head, ?_,
        joined_of_stands marked.left rfl⟩
      simp only [Layout.queryParams]
      rw [placeQuery_eq_walk _ 0, Separated.head?_walk]
      rfl
    · intro last member
      rw [Layout.getLast?_placeQuery member, size]

theorem tiles_parse (text : String) : (parse text).Tiles text := by
  cases found : Layout.read text.toList with
  | bare whole =>
    have same : (Layout.bare whole).render = text.toList := found ▸ Layout.render_read text.toList
    exact tiles_bare (found.trans (congrArg Layout.bare same))
  | full scheme path query => exact tiles_full found

end Uri

/-! ### Nodes and separators give the text back -/

/-- There is a text from one offset to the other, perhaps an empty one. -/
def Gap (text : String) (start stop : Nat) : Prop :=
  ∃ gap, Span.slice? ⟨start, stop⟩ text = some gap

/-- The tokens follow each other from one offset to the other, and each is the text at its span. -/
def Consecutive (text : String) : Nat → List Token → Nat → Prop
  | offset, [], stop => offset = stop
  | offset, token :: rest, stop => Gap text offset token.span.start ∧
    token.span.slice? text = some token.text ∧ Consecutive text token.span.stop rest stop

variable {text : String}

theorem Joined.gap {separator : String} {left right : Span}
    (joined : Joined text separator left right) : Gap text left.stop right.start :=
  ⟨separator, joined.between⟩

theorem gap_refl {offset : Nat} (boundary : Text.IsBoundary text offset) :
    Gap text offset offset := by
  obtain ⟨front, back, split, size⟩ := Text.isBoundary_iff.mp boundary
  exact ⟨"", Span.slice?_eq_some_iff.mpr ⟨⟨front, back, by simp [split], size⟩, rfl⟩⟩

theorem Consecutive.append {start middle stop : Nat} {xs ys : List Token}
    (first : Consecutive text start xs middle) (second : Consecutive text middle ys stop) :
    Consecutive text start (xs ++ ys) stop := by
  induction xs generalizing start with
  | nil =>
    obtain rfl : start = middle := first
    exact second
  | cons token rest ih => exact ⟨first.1, first.2.1, ih first.2.2⟩

/-- Nodes in a chain have consecutive tokens when each of them has. -/
theorem consecutive_flatMap {β : Type} (span : β → Span) {tokens : β → List Token} {nodes : List β}
    {start stop : Nat}
    (each : ∀ node ∈ nodes, ∀ offset, Gap text offset (span node).start →
      Consecutive text offset (tokens node) (span node).stop)
    (next : nodes.IsChain fun left right => Gap text (span left).stop (span right).start)
    (first : ∀ node ∈ nodes.head?, Gap text start (span node).start)
    (last : ∀ node ∈ nodes.getLast?, (span node).stop = stop)
    (empty : nodes = [] → start = stop) :
    Consecutive text start (nodes.flatMap tokens) stop := by
  induction nodes generalizing start with
  | nil => exact empty rfl
  | cons node rest ih =>
    rw [List.forall_mem_cons] at each
    rw [List.isChain_cons] at next
    rw [List.flatMap_cons]
    apply (each.1 start (first node rfl)).append
    refine ih each.2 next.2 next.1 (fun other member => last other ?_) ?_
    · rw [List.getLast?_cons, member]
      rfl
    · rintro rfl
      exact last node rfl

theorem QueryParam.consecutive {param : QueryParam} (tiles : param.Tiles text)
    (slices : ∀ token ∈ param.tokens, token.span.slice? text = some token.text) {offset : Nat}
    (gap : Gap text offset param.span.start) :
    Consecutive text offset param.tokens param.span.stop := by
  rw [← tiles.start] at gap
  cases value : param.value with
  | none =>
    simp only [tokens, value, Option.toList_none] at slices ⊢
    exact ⟨gap, slices _ List.mem_cons_self, tiles.keyOnly value⟩
  | some token =>
    obtain ⟨joined, stop⟩ := tiles.keyValue token value
    simp only [tokens, value, Option.toList_some] at slices ⊢
    exact ⟨gap, slices _ List.mem_cons_self, joined.gap, slices _ (by simp), stop⟩

theorem Uri.Tiles.consecutive {uri : Uri} (tiles : uri.Tiles text) :
    Consecutive text 0 uri.tokens text.utf8ByteSize := by
  obtain ⟨schemeSlice, paramSlices, querySlices⟩ := Uri.forall_tokens.mp tiles.slices
  have region := tiles.fits uri.schemePath.span (by simp [Uri.spans])
  have start : Gap text 0 uri.schemePath.scheme.span.start := by
    rw [tiles.schemePath.schemeStart, ← tiles.schemePath.start]
    exact gap_refl region.startBoundary
  refine ⟨start, schemeSlice, ?_⟩
  apply Consecutive.append
  · rw [List.map_eq_flatMap]
    refine consecutive_flatMap (fun param => param.span) ?_ ?_ ?_ tiles.schemePath.last
      tiles.schemePath.bare
    · exact fun param member offset gap => ⟨gap, paramSlices param member, rfl⟩
    · exact tiles.schemePath.next.imp fun _ _ joined => joined.elim Joined.gap Joined.gap
    · exact fun param member => (tiles.schemePath.first param member).gap
  · refine consecutive_flatMap (fun param => param.span) ?_ ?_ ?_ tiles.last ?_
    · exact fun param member offset gap =>
        QueryParam.consecutive (tiles.entries param member) (querySlices param member) gap
    · exact tiles.next.imp fun _ _ joined => joined.elim Joined.gap Joined.gap
    -- A region that ends before the text has a question mark after it; otherwise there is no query.
    · intro param member
      rcases Nat.lt_or_eq_of_le region.bounded with before | ends
      · obtain ⟨first, isFirst, joined⟩ := tiles.first before
        rw [Option.mem_unique member isFirst]
        exact joined.gap
      · rw [tiles.noQuery ends] at member
        contradiction
    · intro empty
      rcases Nat.lt_or_eq_of_le region.bounded with before | ends
      · obtain ⟨first, isFirst, -⟩ := tiles.first before
        rw [empty] at isFirst
        contradiction
      · exact ends

/-- Consecutive tokens and the texts between them stand in the text as one piece. -/
theorem Consecutive.stands_weave {start stop : Nat} {tokens : List Token}
    (consecutive : Consecutive text start tokens stop) (boundary : Text.IsBoundary text start) :
    Stands text start (weave text start tokens).toList ∧
      stop = start + byteLength (weave text start tokens).toList := by
  induction tokens generalizing start with
  | nil =>
    obtain rfl : start = stop := consecutive
    obtain ⟨front, back, split, size⟩ := Text.isBoundary_iff.mp boundary
    exact ⟨⟨front, back, by simp [weave, split], size⟩, rfl⟩
  | cons token rest ih =>
    obtain ⟨⟨gap, gapSlice⟩, tokenSlice, later⟩ := consecutive
    have gapText : Span.slice ⟨start, token.span.start⟩ text = gap := by
      rw [Span.slice, gapSlice, Option.getD_some]
    obtain ⟨gapStands, gapStop⟩ := Span.slice?_eq_some_iff.mp gapSlice
    obtain ⟨tokenStands, tokenStop⟩ := Span.slice?_eq_some_iff.mp tokenSlice
    obtain ⟨restStands, restStop⟩ := ih later (Span.fits_of_slice? tokenSlice).stopBoundary
    simp only [weave, gapText, String.toList_append, Text.byteLength_append]
    refine ⟨?_, by simp only at gapStop; omega⟩
    -- The gap, the token and what follows stand one after the other.
    rw [List.append_assoc]
    refine gapStands.append ?_
    rw [← gapStop]
    refine tokenStands.append ?_
    rw [← tokenStop]
    exact restStands

theorem Uri.Tiles.weave_tokens {uri : Uri} (tiles : uri.Tiles text) :
    weave text 0 uri.tokens = text := by
  have boundary : Text.IsBoundary text 0 := (Text.stands_self text).start_boundary
  obtain ⟨stands, size⟩ := tiles.consecutive.stands_weave boundary
  apply String.toList_injective
  exact stands.eq_toList (by omega)

/-- Parsing tiles every text: each node is the text at its span, neighbours are divided by exactly
one separator, and the nodes with what stands between them are the text again. -/
theorem parse_tiles_text (text : String) :
    (Uri.parse text).Tiles text ∧ weave text 0 (Uri.parse text).tokens = text :=
  ⟨Uri.tiles_parse text, (Uri.tiles_parse text).weave_tokens⟩

example : (Uri.parse "é:/b?k=v&amp;x").tokens.map (·.span) =
    [⟨0, 2⟩, ⟨3, 3⟩, ⟨4, 5⟩, ⟨6, 7⟩, ⟨8, 9⟩, ⟨14, 15⟩] := by decide

end EndpointUri
