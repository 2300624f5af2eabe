import EndpointUri.Completion.Request
import EndpointUri.Proofs.Tiling

/-!
Which part of a URI a cursor is on. Neighbouring nodes are at least one byte apart, so a cursor is
never on two of them. A separator of one byte leaves no place between its neighbours, so inside the
text only an escaped ampersand has places that belong to no node.
-/
namespace EndpointUri

/-! ### Nodes in a row -/

section Row

variable {β : Type} {span : β → Span} {nodes : List β} {position : Nat}

/-- None of the nodes is reversed, and each ends before the next begins. -/
structure InRow (span : β → Span) (nodes : List β) : Prop where
  ordered : ∀ node ∈ nodes, (span node).start ≤ (span node).stop
  apart : nodes.Pairwise fun left right => (span left).stop < (span right).start

/-- The cursor is on this node, and on the node of no other place in the list. -/
def OnlyTouched (span : β → Span) (nodes : List β) (position : Nat) (node : β) : Prop :=
  ∃ place : Nat, nodes[place]? = some node ∧ (span node).touches position = true ∧
    ∀ (other : Nat) (touched : β), nodes[other]? = some touched →
      (span touched).touches position = true → other = place

theorem InRow.of_chain (ordered : ∀ node ∈ nodes, (span node).start ≤ (span node).stop)
    (next : nodes.IsChain fun left right => (span left).stop < (span right).start) :
    InRow span nodes := by
  refine ⟨ordered, ?_⟩
  induction nodes with
  | nil => exact .nil
  | cons node rest ih =>
    rw [List.forall_mem_cons] at ordered
    rw [List.isChain_cons] at next
    have later := ih ordered.2 next.2
    refine List.pairwise_cons.mpr ⟨?_, later⟩
    intro other member
    cases rest with
    | nil => contradiction
    | cons neighbour more =>
      have first := next.1 neighbour rfl
      rcases List.mem_cons.mp member with rfl | member
      · exact first
      · have inner := ordered.2 neighbour List.mem_cons_self
        have beyond := (List.pairwise_cons.mp later).1 other member
        omega

/-- Whatever ends before the first node begins ends before every node. -/
theorem InRow.all_after (row : InRow span nodes) {offset : Nat}
    (first : ∀ node ∈ nodes.head?, offset < (span node).start) :
    ∀ node ∈ nodes, offset < (span node).start := by
  intro other member
  cases nodes with
  | nil => contradiction
  | cons node rest =>
    have before := first node rfl
    rcases List.mem_cons.mp member with rfl | member
    · exact before
    · have inner := row.ordered node List.mem_cons_self
      have beyond := (List.pairwise_cons.mp row.apart).1 other member
      omega

/-- Every node ends where the last one ends, or earlier. -/
theorem InRow.all_before (row : InRow span nodes) {last : β} (isLast : last ∈ nodes.getLast?) :
    ∀ node ∈ nodes, (span node).stop ≤ (span last).stop := by
  obtain ⟨front, rfl⟩ := List.getLast?_eq_some_iff.mp isLast
  obtain ⟨-, -, gaps⟩ := List.pairwise_append.mp row.apart
  have inner := row.ordered last (by simp)
  intro node member
  rcases List.mem_append.mp member with inFront | here
  · have gap := gaps node inFront last List.mem_cons_self
    omega
  · rw [List.mem_singleton.mp here]

theorem InRow.place_unique (row : InRow span nodes) {i j : Nat} {left right : β}
    (leftAt : nodes[i]? = some left) (rightAt : nodes[j]? = some right)
    (onLeft : (span left).touches position = true)
    (onRight : (span right).touches position = true) : i = j := by
  obtain ⟨leftBound, rfl⟩ := List.getElem?_eq_some_iff.mp leftAt
  obtain ⟨rightBound, rfl⟩ := List.getElem?_eq_some_iff.mp rightAt
  rw [Span.touches_iff] at onLeft onRight
  have apart := List.pairwise_iff_getElem.mp row.apart
  rcases Nat.lt_trichotomy i j with before | same | after
  · have gap := apart i j leftBound rightBound before
    omega
  · exact same
  · have gap := apart j i rightBound leftBound after
    omega

/-- The first node that a cursor is on is the only one. -/
theorem InRow.onlyTouched_of_find? (row : InRow span nodes) {node : β}
    (found : nodes.find? (fun node => (span node).touches position) = some node) :
    OnlyTouched span nodes position node := by
  have touched := List.find?_some found
  obtain ⟨place, here⟩ := List.mem_iff_getElem?.mp (List.mem_of_find?_eq_some found)
  refine ⟨place, here, touched, ?_⟩
  intro other another there alsoTouched
  exact row.place_unique there here alsoTouched touched

/-- A cursor between two neighbours is on no node. -/
theorem InRow.untouched_between (row : InRow span nodes) {left right : β}
    (neighbours : [left, right] <:+: nodes) (after : (span left).stop < position)
    (before : position < (span right).start) :
    ∀ node ∈ nodes, (span node).touches position = false := by
  obtain ⟨front, back, rfl⟩ := neighbours
  obtain ⟨frontApart, -, rightBack⟩ := List.pairwise_append.mp row.apart
  obtain ⟨-, -, frontLeft⟩ := List.pairwise_append.mp frontApart
  have leftOrdered := row.ordered left (by simp)
  have rightOrdered := row.ordered right (by simp)
  intro node member
  rw [Bool.eq_false_iff, ne_eq, Span.touches_iff]
  simp only [List.mem_append, List.mem_cons, List.not_mem_nil, or_false] at member
  rcases member with (inFront | rfl | rfl) | inBack
  · have gap := frontLeft node inFront left List.mem_cons_self
    omega
  · omega
  · omega
  · have gap := rightBack right (by simp) node inBack
    omega

/-- From the first node to the last, a cursor is on a node or between two neighbours. -/
theorem touched_or_between (span : β → Span) (nonempty : nodes ≠ [])
    (first : ∀ node ∈ nodes.head?, (span node).start ≤ position)
    (last : ∀ node ∈ nodes.getLast?, position ≤ (span node).stop) :
    (∃ node ∈ nodes, (span node).touches position = true) ∨
      ∃ left right, [left, right] <:+: nodes ∧ (span left).stop < position ∧
        position < (span right).start := by
  induction nodes with
  | nil => contradiction
  | cons node rest ih =>
    have started := first node rfl
    by_cases within : position ≤ (span node).stop
    · exact .inl ⟨node, List.mem_cons_self, (Span.touches_iff _ _).mpr ⟨started, within⟩⟩
    cases rest with
    | nil => exact absurd (last node rfl) within
    | cons neighbour more =>
      by_cases reached : (span neighbour).start ≤ position
      · rw [List.getLast?_cons_cons] at last
        have fromNeighbour : ∀ other ∈ (neighbour :: more).head?, (span other).start ≤ position := by
          rintro _ ⟨⟩
          exact reached
        rcases ih (List.cons_ne_nil _ _) fromNeighbour last with
          ⟨other, member, touched⟩ | ⟨left, right, neighbours, between⟩
        · exact .inl ⟨other, List.mem_cons_of_mem _ member, touched⟩
        · exact .inr ⟨left, right, List.infix_cons neighbours, between⟩
      · exact .inr ⟨node, neighbour, ⟨[], more, rfl⟩, by omega, by omega⟩

end Row

/-! ### Where a cursor stands -/

/-- The cursor is inside an escaped ampersand, one to four bytes after the entry before it. -/
def Uri.InsideEscape (uri : Uri) (position : Nat) : Prop :=
  ∃ left right, [left, right] <:+: uri.query ∧ Joined uri.text "&amp;" left.span right.span ∧
    left.span.stop + 1 ≤ position ∧ position ≤ left.span.stop + 4

/-- What a cursor is on, by where it stands. -/
inductive Uri.Located (uri : Uri) (position : Nat) : Element → Prop
  | scheme (within : position ≤ uri.schemePath.scheme.span.stop) :
      Located uri position (.scheme uri.schemePath.scheme)
  | pathParam {param : PathParam} (after : uri.schemePath.scheme.span.stop < position)
      (within : position ≤ uri.schemePath.span.stop)
      (only : OnlyTouched (fun param : PathParam => param.span) uri.schemePath.params position
        param) :
      Located uri position (.pathParam param)
  | queryParam {param : QueryParam} (after : uri.schemePath.span.stop < position)
      (within : position ≤ uri.text.utf8ByteSize)
      (only : OnlyTouched QueryParam.span uri.query position param) :
      Located uri position (.queryParam param)
  | root (after : uri.schemePath.span.stop < position)
      (outside : uri.text.utf8ByteSize < position ∨ uri.InsideEscape position)
      (untouched : ∀ param ∈ uri.query, param.span.touches position = false) :
      Located uri position (.root uri)

namespace SchemePath

variable {region : SchemePath} {text : String}

theorem Tiles.inRow (tiles : region.Tiles text)
    (ordered : ∀ param ∈ region.params, param.span.start ≤ param.span.stop) :
    InRow (fun param : PathParam => param.span) region.params := by
  refine .of_chain ordered (tiles.next.imp ?_)
  intro left right joined
  have gap : right.span.start = left.span.stop + 1 := joined.elim (·.start) (·.start)
  exact Nat.lt_of_lt_of_eq (Nat.lt_succ_self _) gap.symm

theorem Tiles.scheme_le (tiles : region.Tiles text)
    (ordered : ∀ param ∈ region.params, param.span.start ≤ param.span.stop) :
    region.scheme.span.stop ≤ region.span.stop := by
  by_cases empty : region.params = []
  · exact Nat.le_of_eq (tiles.bare empty)
  · have first : ∀ param ∈ region.params.head?, region.scheme.span.stop < param.span.start := by
      intro param member
      have gap : param.span.start = region.scheme.span.stop + 1 := (tiles.first param member).start
      omega
    have member := List.getLast_mem empty
    have after := (tiles.inRow ordered).all_after first _ member
    have inner := ordered _ member
    have stop := tiles.last _ (List.getLast?_eq_some_getLast empty)
    omega

/-- Past the scheme, every place of the region is on a path parameter: one byte of separator leaves
no place in between. -/
theorem Tiles.exists_touched (tiles : region.Tiles text) {position : Nat}
    (after : region.scheme.span.stop < position) (within : position ≤ region.span.stop) :
    ∃ param ∈ region.params, param.span.touches position = true := by
  have nonempty : region.params ≠ [] := by
    intro empty
    have same := tiles.bare empty
    omega
  have first : ∀ param ∈ region.params.head?, param.span.start ≤ position := by
    intro param member
    have gap : param.span.start = region.scheme.span.stop + 1 := (tiles.first param member).start
    omega
  have last : ∀ param ∈ region.params.getLast?, position ≤ param.span.stop := by
    intro param member
    have stop := tiles.last param member
    omega
  rcases touched_or_between (fun param : PathParam => param.span) nonempty first last with
    touched | ⟨left, right, neighbours, afterLeft, beforeRight⟩
  · exact touched
  · have joined := List.isChain_pair.mp <| List.IsChain.infix tiles.next neighbours
    have gap : right.span.start = left.span.stop + 1 := joined.elim (·.start) (·.start)
    omega

end SchemePath

namespace Uri

variable {uri : Uri} {text : String}

theorem Tiles.pathParam_ordered (tiles : uri.Tiles text) :
    ∀ param ∈ uri.schemePath.params, param.span.start ≤ param.span.stop := by
  intro param member
  obtain ⟨-, slices, -⟩ := forall_tokens.mp tiles.slices
  exact (Span.fits_of_slice? (slices param member)).ordered

theorem Tiles.queryParam_fits (tiles : uri.Tiles text) :
    ∀ param ∈ uri.query, param.span.Fits text := by
  intro param member
  apply tiles.fits
  simp only [spans, List.mem_cons, List.mem_append]
  exact .inr (.inr (.inr (List.mem_map_of_mem member)))

theorem Tiles.query_inRow (tiles : uri.Tiles text) : InRow QueryParam.span uri.query := by
  refine .of_chain (fun param member => (tiles.queryParam_fits param member).ordered)
    (tiles.next.imp ?_)
  rintro left right (joined | joined)
  · have gap : right.span.start = left.span.stop + 1 := joined.start
    omega
  · have gap : right.span.start = left.span.stop + 5 := joined.start
    omega

/-- All query parameters begin after the scheme and path. -/
theorem Tiles.query_after (tiles : uri.Tiles text) :
    ∀ param ∈ uri.query, uri.schemePath.span.stop < param.span.start := by
  apply tiles.query_inRow.all_after
  intro param isFirst
  have region := tiles.fits uri.schemePath.span (by simp [spans])
  rcases Nat.lt_or_eq_of_le region.bounded with before | ends
  · obtain ⟨first, alsoFirst, joined⟩ := tiles.first before
    have gap : first.span.start = uri.schemePath.span.stop + 1 := joined.start
    rw [Option.mem_unique isFirst alsoFirst]
    omega
  · rw [tiles.noQuery ends] at isFirst
    contradiction

/-- Past the path, every place of the text is on a query parameter or inside an escaped ampersand. -/
theorem Tiles.touched_or_escape (tiles : uri.Tiles text) (same : uri.text = text) {position : Nat}
    (after : uri.schemePath.span.stop < position) (within : position ≤ text.utf8ByteSize) :
    (∃ param ∈ uri.query, param.span.touches position = true) ∨ uri.InsideEscape position := by
  obtain ⟨first, isFirst, marked⟩ := tiles.first (Nat.lt_of_lt_of_le after within)
  have nonempty : uri.query ≠ [] := by
    intro empty
    rw [empty] at isFirst
    contradiction
  have fromFirst : ∀ param ∈ uri.query.head?, param.span.start ≤ position := by
    intro param member
    have gap : first.span.start = uri.schemePath.span.stop + 1 := marked.start
    rw [Option.mem_unique member isFirst]
    omega
  have toLast : ∀ param ∈ uri.query.getLast?, position ≤ param.span.stop := by
    intro param member
    rw [tiles.last param member]
    exact within
  rcases touched_or_between QueryParam.span nonempty fromFirst toLast with
    touched | ⟨left, right, neighbours, afterLeft, beforeRight⟩
  · exact .inl touched
  · rcases List.isChain_pair.mp <| List.IsChain.infix tiles.next neighbours with joined | joined
    · have gap : right.span.start = left.span.stop + 1 := joined.start
      omega
    · have gap : right.span.start = left.span.stop + 5 := joined.start
      exact .inr ⟨left, right, neighbours, same ▸ joined, by omega, by omega⟩

theorem Tiles.untouched_escape (tiles : uri.Tiles text) {position : Nat}
    (inside : uri.InsideEscape position) :
    ∀ param ∈ uri.query, param.span.touches position = false := by
  obtain ⟨left, right, neighbours, joined, after, before⟩ := inside
  have gap : right.span.start = left.span.stop + 5 := joined.start
  exact tiles.query_inRow.untouched_between neighbours (by omega) (by omega)

/-- In the region the element is a part of the region. -/
theorem Tiles.located_resolve (tiles : uri.Tiles text) {position : Nat}
    (within : position ≤ uri.schemePath.span.stop) :
    Located uri position (uri.schemePath.resolve position) := by
  have onScheme := Span.touches_iff_of_start tiles.schemePath.schemeStart position
  rw [SchemePath.resolve]
  by_cases early : position ≤ uri.schemePath.scheme.span.stop
  · rw [if_pos (onScheme.mpr early)]
    exact .scheme early
  · have after := Nat.lt_of_not_le early
    rw [if_neg (fun touched => early (onScheme.mp touched))]
    have touched := tiles.schemePath.exists_touched after within
    obtain ⟨param, found⟩ := Option.isSome_iff_exists.mp (List.find?_isSome.mpr touched)
    rw [found]
    exact .pathParam after within
      ((tiles.schemePath.inRow tiles.pathParam_ordered).onlyTouched_of_find? found)

theorem Tiles.located_elementAt (tiles : uri.Tiles text) (same : uri.text = text)
    (position : Nat) : Located uri position (uri.elementAt position) := by
  have onRegion := Span.touches_iff_of_start tiles.schemePath.start position
  rw [elementAt]
  by_cases early : position ≤ uri.schemePath.span.stop
  · rw [if_pos (onRegion.mpr early)]
    exact tiles.located_resolve early
  have after := Nat.lt_of_not_le early
  rw [if_neg (fun touched => early (onRegion.mp touched))]
  cases found : uri.query.find? (·.span.touches position) with
  | some param =>
    have touched := List.find?_some found
    have bounded := (tiles.queryParam_fits param (List.mem_of_find?_eq_some found)).bounded
    rw [Span.touches_iff] at touched
    exact .queryParam after (by rw [same]; omega) (tiles.query_inRow.onlyTouched_of_find? found)
  | none =>
    have untouched := List.find?_eq_none.mp found
    refine .root after ?_ (fun param member => Bool.eq_false_iff.mpr (untouched param member))
    by_cases within : position ≤ text.utf8ByteSize
    · rcases tiles.touched_or_escape same after within with ⟨param, member, touched⟩ | inside
      · exact absurd touched (untouched param member)
      · exact .inr inside
    · exact .inl (by rw [same]; omega)

/-! ### The borders -/

/-- How the places of a URI are divided among its parts. The borders that a cursor sees, those that
the region draws for itself, and those of a completion request are the same. -/
structure Resolves (uri : Uri) (position : Nat) : Prop where
  scheme : ∀ token, uri.elementAt position = .scheme token ↔
    token = uri.schemePath.scheme ∧ position ≤ uri.schemePath.scheme.span.stop
  pathParam : (∃ param, uri.elementAt position = .pathParam param) ↔
    uri.schemePath.scheme.span.stop < position ∧ position ≤ uri.schemePath.span.stop
  onlyPathParam : ∀ param, uri.elementAt position = .pathParam param →
    OnlyTouched (fun param : PathParam => param.span) uri.schemePath.params position param
  queryParam : (∃ param, uri.elementAt position = .queryParam param) ↔
    ∃ param ∈ uri.query, param.span.touches position = true
  onlyQueryParam : ∀ param, uri.elementAt position = .queryParam param →
    OnlyTouched QueryParam.span uri.query position param
  root : ∀ other, uri.elementAt position = .root other ↔
    other = uri ∧ (uri.text.utf8ByteSize < position ∨ uri.InsideEscape position)
  neverRegion : ∀ region, uri.elementAt position ≠ .schemePath region
  resolveWithin : position ≤ uri.schemePath.span.stop →
    uri.schemePath.resolve position = uri.elementAt position
  resolveBeyond : ∀ region, uri.schemePath.resolve position = .schemePath region ↔
    region = uri.schemePath ∧ uri.schemePath.span.stop < position
  awaitsCatalog : ∀ catalog,
    ((Request.new uri.schemePath position).step catalog).1.state = .awaitingCatalog ↔
      (∃ token, uri.elementAt position = .scheme token) ∨
        ∃ param, uri.elementAt position = .pathParam param

variable {position : Nat} {element : Element}

theorem Located.ne_schemePath (located : Located uri position element) (region : SchemePath) :
    element ≠ .schemePath region := by
  cases located <;> simp

theorem Located.onlyPathParam (located : Located uri position element) {param : PathParam}
    (same : element = .pathParam param) :
    OnlyTouched (fun param : PathParam => param.span) uri.schemePath.params position param := by
  cases located with
  | pathParam _ _ only =>
    cases same
    exact only
  | _ => contradiction

theorem Located.onlyQueryParam (located : Located uri position element) {param : QueryParam}
    (same : element = .queryParam param) : OnlyTouched QueryParam.span uri.query position param := by
  cases located with
  | queryParam _ _ only =>
    cases same
    exact only
  | _ => contradiction

theorem Tiles.scheme_iff (tiles : uri.Tiles text) (located : Located uri position element)
    (token : Token) : element = .scheme token ↔
      token = uri.schemePath.scheme ∧ position ≤ uri.schemePath.scheme.span.stop := by
  have order := tiles.schemePath.scheme_le tiles.pathParam_ordered
  cases located with
  | scheme within => simp [within, eq_comm]
  | pathParam after | queryParam after | root after =>
    simp only [reduceCtorEq, false_iff, not_and]
    intro _
    omega

theorem Tiles.pathParam_iff (tiles : uri.Tiles text) (located : Located uri position element) :
    (∃ param, element = .pathParam param) ↔
      uri.schemePath.scheme.span.stop < position ∧ position ≤ uri.schemePath.span.stop := by
  have order := tiles.schemePath.scheme_le tiles.pathParam_ordered
  cases located with
  | pathParam after within => simp [after, within]
  | scheme within =>
    simp only [reduceCtorEq, exists_false, false_iff]
    omega
  | queryParam after | root after =>
    simp only [reduceCtorEq, exists_false, false_iff]
    omega

theorem Tiles.queryParam_iff (tiles : uri.Tiles text) (located : Located uri position element) :
    (∃ param, element = .queryParam param) ↔
      ∃ param ∈ uri.query, param.span.touches position = true := by
  have order := tiles.schemePath.scheme_le tiles.pathParam_ordered
  have untouched (within : position ≤ uri.schemePath.span.stop) :
      ¬ ∃ param ∈ uri.query, param.span.touches position = true := by
    rintro ⟨param, member, touched⟩
    have after := tiles.query_after param member
    rw [Span.touches_iff] at touched
    omega
  cases located with
  | scheme within => simpa using untouched (by omega)
  | pathParam after within => simpa using untouched within
  | queryParam _ _ only =>
    obtain ⟨place, here, touched, -⟩ := only
    exact ⟨fun _ => ⟨_, List.mem_of_getElem? here, touched⟩, fun _ => ⟨_, rfl⟩⟩
  | root _ _ untouched => simpa using untouched

theorem Tiles.root_iff (tiles : uri.Tiles text) (same : uri.text = text)
    (located : Located uri position element) (other : Uri) : element = .root other ↔
      other = uri ∧ (uri.text.utf8ByteSize < position ∨ uri.InsideEscape position) := by
  have order := tiles.schemePath.scheme_le tiles.pathParam_ordered
  have bounded := (tiles.fits uri.schemePath.span (by simp [spans])).bounded
  rw [← same] at bounded
  have outside (within : position ≤ uri.schemePath.span.stop) :
      ¬ (uri.text.utf8ByteSize < position ∨ uri.InsideEscape position) := by
    rintro (past | ⟨left, right, neighbours, -, after, -⟩)
    · omega
    · have inQuery : left ∈ uri.query := neighbours.subset List.mem_cons_self
      have begins := tiles.query_after left inQuery
      have inner := (tiles.queryParam_fits left inQuery).ordered
      omega
  cases located with
  | scheme within => simpa using fun _ => outside (by omega)
  | pathParam after within => simpa using fun _ => outside within
  | queryParam after within only =>
    obtain ⟨place, here, touched, -⟩ := only
    simp only [reduceCtorEq, false_iff, not_and]
    rintro - (past | inside)
    · omega
    · have untouched := tiles.untouched_escape inside _ (List.mem_of_getElem? here)
      rw [touched] at untouched
      contradiction
  | root _ place => simp [place, eq_comm]

theorem Tiles.resolve_beyond (tiles : uri.Tiles text) (region : SchemePath) :
    uri.schemePath.resolve position = .schemePath region ↔
      region = uri.schemePath ∧ uri.schemePath.span.stop < position := by
  constructor
  · intro resolved
    by_cases within : position ≤ uri.schemePath.span.stop
    · exact absurd resolved ((tiles.located_resolve within).ne_schemePath region)
    · refine ⟨?_, by omega⟩
      rw [SchemePath.resolve] at resolved
      split at resolved
      · contradiction
      · split at resolved
        · contradiction
        · exact (Element.schemePath.inj resolved).symm
  · rintro ⟨rfl, beyond⟩
    have order := tiles.schemePath.scheme_le tiles.pathParam_ordered
    have row := tiles.schemePath.inRow tiles.pathParam_ordered
    have offScheme : ¬ uri.schemePath.scheme.span.touches position = true := by
      rw [Span.touches_iff]
      omega
    have offParams : uri.schemePath.params.find? (·.span.touches position) = none := by
      rw [List.find?_eq_none]
      intro param member
      have nonempty := List.ne_nil_of_mem member
      have isLast := List.getLast?_eq_some_getLast nonempty
      have stop := row.all_before isLast param member
      have last := tiles.schemePath.last _ isLast
      rw [Span.touches_iff]
      omega
    rw [SchemePath.resolve, if_neg offScheme, offParams]

theorem awaitsCatalog_iff (region : SchemePath) (position : Nat) (catalog : Option Catalog) :
    ((Request.new region position).step catalog).1.state = .awaitingCatalog ↔
      region.span.touches position = true := by
  by_cases inside : region.span.touches position <;>
    simp [Request.new, Request.step, Request.inRange, inside]

end Uri

/-- Every place of a text, and every place past it, is resolved, and no other way than this: up to its
end the scheme, then exactly one path parameter up to the end of the path, then the one query
parameter whose range holds the place, and the whole URI past the text and inside an escaped
ampersand. -/
theorem position_is_resolved (text : String) (position : Nat) :
    (Uri.parse text).Resolves position := by
  have tiles := Uri.tiles_parse text
  have located := tiles.located_elementAt rfl position
  have onRegion := Span.touches_iff_of_start tiles.schemePath.start position
  have order := tiles.schemePath.scheme_le tiles.pathParam_ordered
  refine
    { scheme := tiles.scheme_iff located
      pathParam := tiles.pathParam_iff located
      onlyPathParam := fun _ => located.onlyPathParam
      queryParam := tiles.queryParam_iff located
      onlyQueryParam := fun _ => located.onlyQueryParam
      root := tiles.root_iff rfl located
      neverRegion := located.ne_schemePath
      resolveWithin := ?_
      resolveBeyond := tiles.resolve_beyond
      awaitsCatalog := ?_ }
  · intro within
    rw [Uri.elementAt, if_pos (onRegion.mpr within)]
  · intro catalog
    rw [Uri.awaitsCatalog_iff, onRegion, tiles.pathParam_iff located]
    simp only [tiles.scheme_iff located, exists_eq_left]
    omega

example : (List.range 13).map (fun position => ((Uri.parse "a:/?x&amp;y").elementAt position).kind) =
    ["component", "component", "path-param", "path-param", "query-param", "query-param", "root",
      "root", "root", "root", "query-param", "query-param", "root"] := by decide

end EndpointUri
