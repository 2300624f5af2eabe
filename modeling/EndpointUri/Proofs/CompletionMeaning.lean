import EndpointUri.Proofs.CheckedCompletion

/-!
What a completion offers, said of the text of the URI. The filter is made from the name of the scheme,
cut and perhaps with a colon added; it always is the text left of the cursor, up to the colon that
ends the scheme. Only a name of white space filters nothing, and then the cursor may be in the path.
-/
namespace EndpointUri

open Text (byteLength)

/-! ### The text left of a cursor -/

namespace Text

theorem takeWhile_mark {mark : Char} {front : List Char} (free : mark ∉ front) (back : List Char) :
    (front ++ mark :: back).takeWhile (· != mark) = front := by
  rw [List.takeWhile_append_of_pos, List.takeWhile_cons_of_neg (by simp), List.append_nil]
  intro c member
  exact bne_iff_ne.mpr fun same => free (same ▸ member)

end Text

/-- Where the scheme's colon is: the first colon, unless the text begins with it. -/
def usableColon? (text : String) : Option Nat :=
  let front := text.toList.takeWhile (· != ':')
  if ':' ∈ text.toList ∧ front ≠ [] then some (byteLength front) else none

/-- Where the typed text ends: at the cursor, or at the start of the character that the cursor is in,
but no further than right after the scheme's colon. -/
def typedEnd (text : String) (position : Nat) : Nat :=
  match usableColon? text with
  | some colon => min (Text.clamp text position) (colon + 1)
  | none => Text.clamp text position

theorem usableColon?_schemeless {text : String} (schemeless : Layout.Schemeless text.toList) :
    usableColon? text = none := by
  have unusable : ¬ (':' ∈ text.toList ∧ text.toList.takeWhile (· != ':') ≠ []) := by
    rintro ⟨marked, nonempty⟩
    rcases schemeless with unmarked | leading
    · exact unmarked marked
    · obtain ⟨rest, starts⟩ := List.head?_eq_some_iff.mp leading
      rw [starts] at nonempty
      exact nonempty (List.takeWhile_cons_of_neg (by simp))
  exact if_neg unusable

section Marked

variable {text : String} {scheme rest : List Char}

theorem usableColon?_marked (split : text.toList = scheme ++ ':' :: rest) (nonempty : scheme ≠ [])
    (free : ':' ∉ scheme) : usableColon? text = some (byteLength scheme) := by
  have front : text.toList.takeWhile (· != ':') = scheme := by
    rw [split, Text.takeWhile_mark free]
  have usable : ':' ∈ text.toList ∧ text.toList.takeWhile (· != ':') ≠ [] := by
    rw [front, split]
    exact ⟨by simp, nonempty⟩
  rw [usableColon?, if_pos usable, front]

theorem slice?_typedEnd_schemeless (schemeless : Layout.Schemeless text.toList) (position : Nat) :
    Span.slice? ⟨0, typedEnd text position⟩ text =
      some (String.ofList (Text.takeBytes position text.toList)) := by
  rw [typedEnd, usableColon?_schemeless schemeless]
  exact Span.slice?_prefix (Text.takeBytes_prefix position text.toList)

/-- Up to the colon the typed text is the part of the name left of the cursor, and from there on it is
the name with its colon. -/
theorem slice?_typedEnd_marked (split : text.toList = scheme ++ ':' :: rest)
    (nonempty : scheme ≠ []) (free : ':' ∉ scheme) (position : Nat) :
    Span.slice? ⟨0, typedEnd text position⟩ text = some (String.ofList
      (if byteLength scheme < position then scheme ++ [':'] else Text.takeBytes position scheme)) := by
  have colon : byteLength (scheme ++ [':']) = byteLength scheme + 1 := Text.byteLength_append _ _
  by_cases past : byteLength scheme < position
  · have whole : text.toList = (scheme ++ [':']) ++ rest := by simp [split]
    have reached : byteLength (scheme ++ [':']) ≤ Text.clamp text position := by
      rw [Text.clamp, whole, Text.takeBytes_past (by omega),
        Text.byteLength_append (scheme ++ [':'])]
      exact Nat.le_add_right _ _
    have stop : typedEnd text position = byteLength (scheme ++ [':']) := by
      simp only [typedEnd, usableColon?_marked split nonempty free]
      omega
    rw [stop, if_pos past]
    exact Span.slice?_prefix ⟨rest, whole.symm⟩
  · have within : position ≤ byteLength scheme := Nat.le_of_not_lt past
    have clamped : Text.clamp text position = byteLength (Text.takeBytes position scheme) := by
      rw [Text.clamp, split, Text.takeBytes_front within]
    have stop : typedEnd text position = byteLength (Text.takeBytes position scheme) := by
      have le := Text.clamp_le text position
      simp only [typedEnd, usableColon?_marked split nonempty free]
      omega
    rw [stop, if_neg past]
    apply Span.slice?_prefix
    rw [split]
    exact (Text.takeBytes_prefix position scheme).trans (List.prefix_append _ _)

end Marked

/-- A text without a scheme is its own name; in any other the name stands before the colon. -/
theorem SchemePath.scheme_cases (text : String) :
    (Layout.Schemeless text.toList ∧
      (ofText text).scheme = Token.place 0 text.toList ∧
      (ofText text).span.stop = byteLength text.toList) ∨
    ∃ scheme rest, text.toList = scheme ++ ':' :: rest ∧ scheme ≠ [] ∧ ':' ∉ scheme ∧
      (ofText text).scheme = Token.place 0 scheme := by
  rcases Uri.schemeless_or_regular text with schemeless | ⟨scheme, path, query, regular, rfl⟩
  · have bare := Layout.read_schemeless schemeless
    exact .inl ⟨schemeless, by rw [ofText, bare]; rfl, by rw [ofText, bare]; rfl⟩
  · obtain ⟨rest, written⟩ := Layout.render_full path query
    refine .inr ⟨scheme, rest, ?_, regular.schemeNonempty, regular.schemeFree, ?_⟩
    · rw [String.toList_ofList, written]
    · exact congrArg (·.schemePath.scheme) (Uri.parse_regular regular)

theorem SchemePath.scheme_eq_place (uri : String) :
    (ofText uri).scheme = Token.place 0 (ofText uri).scheme.text.toList := by
  have span := (scheme_front uri).2
  rw [Token.place, String.ofList_toList, Nat.zero_add, ← span]

/-! ### What fits -/

/-- A name that is not blank lets pass what begins with its typed part, which the colon ends. -/
theorem fits_typedFilter (name : List Char) (position : Nat) (candidate : Candidate) :
    candidate.fits (typedFilter (Token.place 0 name) position) =
      (Text.allBlank (String.ofList name) ||
        (if byteLength name < position then name ++ [':']
          else Text.takeBytes position name).isPrefixOf candidate.label.toList) := by
  unfold typedFilter
  simp only [Token.place, Nat.sub_zero, String.toList_ofList]
  by_cases blank : Text.allBlank (String.ofList name)
  · simp [blank, Candidate.fits]
  by_cases start : position = 0
  · have nothing : Text.takeBytes 0 name = [] := Text.takeBytes_append [] name
    simp [start, nothing, Candidate.fits]
  · simp only [blank, start, beq_iff_eq, Bool.false_or, if_false, Candidate.fits,
      String.toList_ofList]
    by_cases past : byteLength name < position
    · rw [if_pos past, if_pos past, Text.takeBytes_all (Nat.le_of_lt past)]
    · rw [if_neg past, if_neg past]

/-- In range, what is filtered by is the text left of the cursor. -/
theorem fits_iff_typed {uri : String} {position : Nat}
    (within : position ≤ (SchemePath.ofText uri).span.stop) :
    ∃ typed, Span.slice? ⟨0, typedEnd uri position⟩ uri = some typed ∧ ∀ candidate : Candidate,
      candidate.fits (typedFilter (SchemePath.ofText uri).scheme position) =
        (Text.allBlank (SchemePath.ofText uri).scheme.text ||
          typed.toList.isPrefixOf candidate.label.toList) := by
  rcases SchemePath.scheme_cases uri with
    ⟨schemeless, token, stop⟩ | ⟨scheme, rest, split, nonempty, free, token⟩
  · refine ⟨_, slice?_typedEnd_schemeless schemeless position, fun candidate => ?_⟩
    have inside : ¬ byteLength uri.toList < position := by omega
    rw [token, fits_typedFilter, if_neg inside, String.toList_ofList]
    rfl
  · refine ⟨_, slice?_typedEnd_marked split nonempty free position, fun candidate => ?_⟩
    rw [token, fits_typedFilter, String.toList_ofList]
    rfl

/-! ### What a catalog holds -/

namespace Catalog

/-- The error of the first listed name that has no model. -/
def firstFault? (catalog : Catalog) : Option CatalogError :=
  catalog.names.findSome? fun name => errorOf? (catalog.model name)

/-- The models of the listed names in their order; a name listed twice gives its model twice. -/
def models (catalog : Catalog) : List ComponentModel :=
  catalog.names.filterMap fun name => (catalog.model name).toOption

end Catalog

theorem generate_eq (catalog : Catalog) (scheme : Token) :
    generate catalog scheme = catalog.firstFault?.elim
      (.ok (catalog.models.map (Candidate.ofModel scheme.span))) .error :=
  mapM_map_eq catalog.model (Candidate.ofModel scheme.span) catalog.names

theorem Handle.get_loaded {handle : Handle} {catalog : Catalog}
    (loaded : handle.loaded = some catalog) : handle.get.value = (handle, .ok catalog) := by
  simp [get, request, loaded]

/-- Out of range the handle is neither asked nor changed, and nothing is reported. -/
theorem complete_outside {region : SchemePath} {position : Nat}
    (outside : region.span.touches position = false) (handle : Handle) :
    complete handle region position = pure (handle, .ok []) := by
  rw [complete, completeWith_outside _ _ _ outside]
  rfl

theorem SchemePath.touches_ofText (text : String) (position : Nat) :
    (ofText text).span.touches position = true ↔ position ≤ (ofText text).span.stop :=
  Span.touches_iff_of_start (Uri.tiles_parse text).schemePath.start position

/-- Where candidates can be made no listed name lacks its model. -/
theorem Catalog.firstFault?_of_generate {catalog : Catalog} {scheme : Token}
    {candidates : List Candidate} (made : generate catalog scheme = .ok candidates) :
    catalog.firstFault? = none := by
  rw [generate_eq] at made
  cases fault : catalog.firstFault? with
  | none => rfl
  | some fault' =>
    rw [fault] at made
    contradiction

/-- A catalog that is there and lacks no model answers in range with what fits of its models. -/
theorem complete_whole {handle : Handle} {catalog : Catalog} (ready : handle.loaded = some catalog)
    (whole : catalog.firstFault? = none) (region : SchemePath) (position : Nat) :
    (complete handle region position).value.2 =
      .ok (if region.span.touches position then
        applyFilter (typedFilter region.scheme position)
          (catalog.models.map (Candidate.ofModel region.scheme.span))
      else []) := by
  rw [complete_value]
  by_cases inside : region.span.touches position
  · rw [if_pos inside, if_pos inside, Handle.get_loaded ready]
    simp only [generate_eq, whole, bind, Except.bind, pure, Except.pure, Option.elim]
  · rw [if_neg inside, if_neg inside]

/-- What a completion is, for every text, every cursor and every catalog that is there. Past the path it
is empty, and the request ends without a catalog. Elsewhere the first missing model is its error,
whatever was typed; without one it has the candidates of all names, in their order and each in place of
the scheme, whose labels begin with the text left of the cursor, or all of them where the scheme is
blank. -/
theorem completion_is_exact (uri : String) (position : Nat) {handle : Handle} {catalog : Catalog}
    (ready : handle.loaded = some catalog) :
    let region := (Uri.parse uri).schemePath
    (region.span.stop < position →
      (Request.new region position).runUntilCatalog.items? = some [] ∧
        ∀ other : Handle, complete other region position = pure (other, .ok [])) ∧
    (position ≤ region.span.stop → ∃ typed,
      Span.slice? ⟨0, typedEnd uri position⟩ uri = some typed ∧
      (complete handle region position).value = (handle,
        match catalog.firstFault? with
        | some fault => .error fault
        | none => .ok ((catalog.models.map (Candidate.ofModel region.scheme.span)).filter
            fun candidate => Text.allBlank region.scheme.text ||
              typed.toList.isPrefixOf candidate.label.toList))) := by
  dsimp only [Uri.parse_schemePath]
  constructor
  · intro past
    have outside : (SchemePath.ofText uri).span.touches position = false := by
      rw [Bool.eq_false_iff, ne_eq, SchemePath.touches_ofText]
      exact Nat.not_le_of_lt past
    refine ⟨?_, complete_outside outside⟩
    rw [Request.runUntilCatalog_new, outside]
    rfl
  · intro within
    obtain ⟨typed, left, fits⟩ := fits_iff_typed within
    have inside := (SchemePath.touches_ofText uri position).mpr within
    refine ⟨typed, left, ?_⟩
    rw [complete_value, if_pos inside, Handle.get_loaded ready]
    simp only [generate_eq, applyFilter, funext fits, bind, Except.bind, pure, Except.pure]
    cases catalog.firstFault? <;> rfl

/-- A cursor inside the first character has nothing to its left, so a model listed twice is offered twice
beside the other; after that character only its own two are, and past the path none. -/
theorem completion_is_exact_inside_character :
    let region := (Uri.parse "ét:x?k").schemePath
    let catalog := Catalog.ofModels [⟨"été", none, none⟩, ⟨"jms", none, none⟩, ⟨"été", none, none⟩]
    let handle := Handle.ready catalog
    let offered (label : String) : Candidate := ⟨label, none, false, ⟨0, 3⟩⟩
    handle.loaded = some catalog ∧
      (complete handle region 1).value.2 = .ok [offered "été", offered "jms", offered "été"] ∧
      (complete handle region 2).value.2 = .ok [offered "été", offered "été"] ∧
      (complete handle region 6).value.2 = .ok [] := by
  intro region catalog handle offered
  have ready : handle.loaded = some catalog := rfl
  obtain ⟨typed, left, inside⟩ := (completion_is_exact "ét:x?k" 1 ready).2 (by decide)
  obtain ⟨typed', left', after⟩ := (completion_is_exact "ét:x?k" 2 ready).2 (by decide)
  obtain ⟨-, past⟩ := (completion_is_exact "ét:x?k" 6 ready).1 (by decide)
  have nothing : Span.slice? ⟨0, typedEnd "ét:x?k" 1⟩ "ét:x?k" = some "" := by decide
  have first : Span.slice? ⟨0, typedEnd "ét:x?k" 2⟩ "ét:x?k" = some "é" := by decide
  obtain rfl := Option.some.inj (nothing.symm.trans left)
  obtain rfl := Option.some.inj (first.symm.trans left')
  refine ⟨ready, ?_, ?_, ?_⟩
  · exact (congrArg Prod.snd inside).trans (by decide)
  · exact (congrArg Prod.snd after).trans (by decide)
  · exact congrArg (·.value.2) (past handle)

/-! ### A cursor past the scheme -/

/-- Past a name that is not blank the colon counts as typed, so no label without a colon fits. -/
theorem not_fits_past {name : List Char} {position : Nat} (past : byteLength name < position)
    (lettered : Text.allBlank (String.ofList name) = false) {candidate : Candidate}
    (free : ':' ∉ candidate.label.toList) :
    candidate.fits (typedFilter (Token.place 0 name) position) = false := by
  rw [fits_typedFilter, lettered, if_pos past, Bool.false_or, Bool.eq_false_iff, ne_eq,
    List.isPrefixOf_iff_prefix]
  intro isPrefix
  exact free (isPrefix.subset (by simp))

theorem applyFilter_past {uri : String} {position : Nat}
    (past : (SchemePath.ofText uri).scheme.span.stop < position) {candidates : List Candidate}
    (free : ∀ candidate ∈ candidates, ':' ∉ candidate.label.toList) :
    applyFilter (typedFilter (SchemePath.ofText uri).scheme position) candidates =
      if Text.allBlank (SchemePath.ofText uri).scheme.text then candidates else [] := by
  obtain ⟨name, token⟩ : ∃ name, (SchemePath.ofText uri).scheme = Token.place 0 name :=
    ⟨_, SchemePath.scheme_eq_place uri⟩
  rw [token] at past ⊢
  have beyond : byteLength name < position := Nat.zero_add (byteLength name) ▸ past
  have text : (Token.place 0 name).text = String.ofList name := rfl
  rw [applyFilter, text]
  by_cases blank : Text.allBlank (String.ofList name)
  · rw [if_pos blank, List.filter_eq_self]
    intro candidate _
    rw [fits_typedFilter, blank, Bool.true_or]
  · rw [if_neg blank, List.filter_eq_nil_iff]
    intro candidate member
    rw [not_fits_past beyond (Bool.eq_false_iff.mpr blank) (free candidate member)]
    exact Bool.false_ne_true

/-- What schemes without a colon are offered to a cursor past the scheme: none, but for a blank scheme
with the cursor in its path, where the whole catalog is offered. -/
theorem past_scheme_only_blank_offers {uri : String} {catalog : Catalog}
    {candidates : List Candidate} {position : Nat}
    (made : generate catalog (SchemePath.ofText uri).scheme = .ok candidates)
    (free : ∀ name ∈ catalog.names, ∀ model, catalog.model name = .ok model →
      ':' ∉ model.scheme.toList)
    (past : (SchemePath.ofText uri).scheme.span.stop < position) :
    (complete (Handle.ready catalog) (Uri.parse uri).schemePath position).value.2 =
      .ok (if Text.allBlank (SchemePath.ofText uri).scheme.text = true ∧
        position ≤ (SchemePath.ofText uri).span.stop then candidates else []) := by
  have plain : ∀ candidate ∈ candidates, ':' ∉ candidate.label.toList := by
    intro candidate member
    obtain ⟨name, listed, model, known, rfl⟩ := mem_of_generate made member
    exact free name listed model known
  have loaded : (Handle.ready catalog).get.value.2 = .ok catalog := rfl
  rw [Uri.parse_schemePath, complete_value]
  by_cases within : position ≤ (SchemePath.ofText uri).span.stop
  · rw [if_pos ((SchemePath.touches_ofText uri position).mpr within), loaded]
    simp only [made, bind, Except.bind, pure, Except.pure, applyFilter_past past plain, within,
      and_true]
  · rw [if_neg (fun touched => within ((SchemePath.touches_ofText uri position).mp touched)),
      if_neg (fun both => within both.2)]

theorem past_scheme_only_blank_offers_both :
    let catalog := Catalog.ofModels [⟨"ahc", none, none⟩, ⟨"timer", none, none⟩]
    let offered (label : String) (size : Nat) : Candidate := ⟨label, none, false, ⟨0, size⟩⟩
    (∀ name ∈ catalog.names, ∀ model, catalog.model name = .ok model → ':' ∉ model.scheme.toList) ∧
      generate catalog (SchemePath.ofText " :x").scheme = .ok [offered "ahc" 1, offered "timer" 1] ∧
      (SchemePath.ofText " :x").scheme.span.stop < 3 ∧
      (complete (Handle.ready catalog) (Uri.parse " :x").schemePath 3).value.2 =
        .ok [offered "ahc" 1, offered "timer" 1] ∧
      generate catalog (SchemePath.ofText "ahc:x").scheme =
        .ok [offered "ahc" 3, offered "timer" 3] ∧
      (SchemePath.ofText "ahc:x").scheme.span.stop < 4 ∧
      (complete (Handle.ready catalog) (Uri.parse "ahc:x").schemePath 4).value.2 = .ok [] := by
  intro catalog offered
  have free : ∀ name ∈ catalog.names, ∀ model, catalog.model name = .ok model →
      ':' ∉ model.scheme.toList := by
    intro name listed model known
    rcases List.mem_pair.mp listed with rfl | rfl
    · obtain rfl : (⟨"ahc", none, none⟩ : ComponentModel) = model := Except.ok.inj known
      decide
    · obtain rfl : (⟨"timer", none, none⟩ : ComponentModel) = model := Except.ok.inj known
      decide
  have blank : generate catalog (SchemePath.ofText " :x").scheme =
      .ok [offered "ahc" 1, offered "timer" 1] := by decide
  have lettered : generate catalog (SchemePath.ofText "ahc:x").scheme =
      .ok [offered "ahc" 3, offered "timer" 3] := by decide
  refine ⟨free, blank, by decide, ?_, lettered, by decide, ?_⟩
  · exact (past_scheme_only_blank_offers blank free (by decide)).trans (by decide)
  · exact (past_scheme_only_blank_offers lettered free (by decide)).trans (by decide)

/-- It is not so that a cursor past the scheme is offered nothing. -/
theorem offered_past_blank_scheme :
    ¬ ∀ (uri : String) (catalog : Catalog) (candidates : List Candidate) (position : Nat),
      generate catalog (SchemePath.ofText uri).scheme = .ok candidates →
      (∀ name ∈ catalog.names, ∀ model, catalog.model name = .ok model →
        ':' ∉ model.scheme.toList) →
      (SchemePath.ofText uri).scheme.span.stop < position →
      (complete (Handle.ready catalog) (Uri.parse uri).schemePath position).value.2 = .ok [] := by
  intro nothing
  have free : ∀ name ∈ ["timer"], ∀ model,
      (Catalog.ofModels [⟨"timer", none, none⟩]).model name = .ok model →
        ':' ∉ model.scheme.toList := by
    intro name listed model known
    obtain rfl := List.mem_singleton.mp listed
    obtain rfl : (⟨"timer", none, none⟩ : ComponentModel) = model := Except.ok.inj known
    decide
  have empty := nothing " :x" (Catalog.ofModels [⟨"timer", none, none⟩])
    [⟨"timer", none, false, ⟨0, 1⟩⟩] 3 (by decide) free (by decide)
  have offered : (complete (Handle.ready (Catalog.ofModels [⟨"timer", none, none⟩]))
      (Uri.parse " :x").schemePath 3).value.2 = .ok [⟨"timer", none, false, ⟨0, 1⟩⟩] := by
    rw [complete_value]
    decide
  rw [offered] at empty
  contradiction

end EndpointUri
