import EndpointUri.Proofs.CompletionMeaning
import Mathlib.Data.List.Infix
import Mathlib.Data.List.TakeWhile

/-!
Completions only narrow. As the cursor moves right in a URI, or as more is typed at its end, the filter
grows at its end too, so what was once left out does not come back. The steps from a bare text to a
scheme with a path, and from a path to a query, keep this.
-/
namespace EndpointUri

open Text (byteLength)

/-! ### Filters that keep less -/

/-- Whatever fits the second filter fits the first. -/
def Narrows (wide narrow : Option String) : Prop :=
  ∀ candidate : Candidate, candidate.fits narrow = true → candidate.fits wide = true

namespace Narrows

variable {wide narrow : Option String}

theorem applyFilter_applyFilter (narrows : Narrows wide narrow) (candidates : List Candidate) :
    applyFilter narrow (applyFilter wide candidates) = applyFilter narrow candidates := by
  unfold applyFilter
  rw [List.filter_filter]
  apply List.filter_congr
  intro candidate _
  by_cases fits : candidate.fits narrow = true
  · rw [fits, narrows candidate fits]
    rfl
  · rw [Bool.eq_false_iff.mpr fits, Bool.false_and]

theorem sublist (narrows : Narrows wide narrow) (candidates : List Candidate) :
    (applyFilter narrow candidates).Sublist (applyFilter wide candidates) :=
  List.monotone_filter_right candidates narrows

/-- Of the same models fewer labels are left, whatever the candidates replace. -/
theorem labels_sublist (narrows : Narrows wide narrow) (models : List ComponentModel)
    (range range' : Span) :
    ((applyFilter narrow (models.map (Candidate.ofModel range'))).map (·.label)).Sublist
      ((applyFilter wide (models.map (Candidate.ofModel range))).map (·.label)) := by
  unfold applyFilter
  rw [List.filter_map, List.filter_map, List.map_map, List.map_map]
  apply List.Sublist.map
  apply List.monotone_filter_right
  intro model fits
  exact narrows (Candidate.ofModel range model) fits

end Narrows

/-! ### A cursor that moves right -/

/-- A name counts up to the cursor, and past its end with a colon; further right it counts for more. -/
theorem typed_mono (name : List Char) {p q : Nat} (le : p ≤ q) :
    (if byteLength name < p then name ++ [':'] else Text.takeBytes p name) <+:
      (if byteLength name < q then name ++ [':'] else Text.takeBytes q name) := by
  by_cases past : byteLength name < p
  · rw [if_pos past, if_pos (Nat.lt_of_lt_of_le past le)]
  · rw [if_neg past]
    by_cases later : byteLength name < q
    · rw [if_pos later]
      exact (Text.takeBytes_prefix p name).trans (List.prefix_append name [':'])
    · rw [if_neg later]
      exact Text.takeBytes_mono le name

theorem narrows_typedFilter (uri : String) {p q : Nat} (le : p ≤ q) :
    Narrows (typedFilter (SchemePath.ofText uri).scheme p)
      (typedFilter (SchemePath.ofText uri).scheme q) := by
  intro candidate
  rw [SchemePath.scheme_eq_place, fits_typedFilter, fits_typedFilter]
  simp only [Bool.or_eq_true, List.isPrefixOf_iff_prefix]
  exact Or.imp_right (typed_mono _ le).trans

/-- Filtering by what was typed up to a cursor, after filtering up to a cursor before it, is filtering
from scratch; so a candidate that is left out once stays out while the cursor moves right. For requests
on one URI this includes the cursor that leaves the path. -/
theorem filtering_is_incremental (uri : String) {p q : Nat} (le : p ≤ q) :
    (∀ candidates,
      applyFilter (typedFilter (SchemePath.ofText uri).scheme q)
          (applyFilter (typedFilter (SchemePath.ofText uri).scheme p) candidates) =
        applyFilter (typedFilter (SchemePath.ofText uri).scheme q) candidates) ∧
    (∀ candidates, ∀ candidate ∉ applyFilter (typedFilter (SchemePath.ofText uri).scheme p) candidates,
      candidate ∉ applyFilter (typedFilter (SchemePath.ofText uri).scheme q) candidates) ∧
    (∀ (handle : Handle) (catalog : Catalog), handle.loaded = some catalog →
      catalog.firstFault? = none → ∃ before after,
        (complete handle (Uri.parse uri).schemePath p).value.2 = .ok before ∧
        (complete handle (Uri.parse uri).schemePath q).value.2 = .ok after ∧
        after.Sublist before) := by
  have narrows := narrows_typedFilter uri le
  refine ⟨narrows.applyFilter_applyFilter, ?_, ?_⟩
  · intro candidates candidate out back
    exact out ((narrows.sublist candidates).subset back)
  · intro handle catalog ready whole
    refine ⟨_, _, complete_whole ready whole _ p, complete_whole ready whole _ q, ?_⟩
    rw [Uri.parse_schemePath]
    by_cases touched : (SchemePath.ofText uri).span.touches q
    · have before : (SchemePath.ofText uri).span.touches p = true := by
        rw [SchemePath.touches_ofText] at touched ⊢
        exact Nat.le_trans le touched
      rw [if_pos touched, if_pos before]
      exact narrows.sublist _
    · rw [if_neg touched]
      exact List.nil_sublist _

/-- A cursor inside the first character leaves all in; past the name only what begins with the name and
its colon is left, up to the greatest offset. -/
theorem filtering_is_incremental_over_colon :
    let region := (Uri.parse "é:x?k").schemePath
    let offered (label : String) : Candidate := ⟨label, none, false, ⟨0, 2⟩⟩
    let candidates := [offered "été", offered "é:b", offered "jms"]
    let catalog := Catalog.ofModels [⟨"été", none, none⟩, ⟨"é:b", none, none⟩, ⟨"jms", none, none⟩]
    1 ≤ Text.maxOffset ∧ 1 ≤ 3 ∧
      (Handle.ready catalog).loaded = some catalog ∧ catalog.firstFault? = none ∧
      applyFilter (typedFilter region.scheme 1) candidates = candidates ∧
      applyFilter (typedFilter region.scheme Text.maxOffset)
        (applyFilter (typedFilter region.scheme 1) candidates) = [offered "é:b"] ∧
      (complete (Handle.ready catalog) region 1).value.2 = .ok candidates ∧
      (complete (Handle.ready catalog) region 3).value.2 = .ok [offered "é:b"] ∧
      [offered "é:b"].Sublist candidates := by
  intro region offered candidates catalog
  have le : 1 ≤ Text.maxOffset := by decide
  have ready : (Handle.ready catalog).loaded = some catalog := rfl
  have whole : catalog.firstFault? = none := by decide
  have inside : (complete (Handle.ready catalog) region 1).value.2 = .ok candidates := by decide
  have past : (complete (Handle.ready catalog) region 3).value.2 = .ok [offered "é:b"] := by decide
  obtain ⟨again, -⟩ := filtering_is_incremental "é:x?k" le
  obtain ⟨-, -, narrows⟩ := filtering_is_incremental "é:x?k" (show 1 ≤ 3 by decide)
  obtain ⟨before, after, first, second, sublist⟩ := narrows _ catalog ready whole
  obtain rfl := Except.ok.inj (inside.symm.trans first)
  obtain rfl := Except.ok.inj (past.symm.trans second)
  exact ⟨le, by decide, ready, whole, by decide, (again candidates).trans (by decide), inside, past,
    sublist⟩

/-! ### A text that grows -/

theorem Text.takeWhile_unmarked {mark : Char} {cs : List Char} (free : mark ∉ cs) :
    cs.takeWhile (· != mark) = cs := by
  rw [List.takeWhile_eq_self_iff]
  intro c member
  exact bne_iff_ne.mpr fun same => free (same ▸ member)

namespace Layout

/-- The path ends at the first question mark, so a query does not change it. -/
theorem schemePath_readBody (scheme rest : List Char) :
    (readBody scheme rest).schemePath =
      (full scheme (readPath (rest.takeWhile (· != '?'))) none).schemePath := by
  unfold readBody
  split
  next path query split =>
    obtain ⟨rfl, free⟩ := splitFirst_eq_some split
    rw [Text.takeWhile_mark free]
    rfl
  next split =>
    rw [Text.takeWhile_unmarked (splitFirst_eq_none_iff.mp split)]

/-- A text without a scheme becomes part of the scheme when more text makes one. -/
theorem Schemeless.prefix_scheme {cs more scheme rest : List Char} (schemeless : Schemeless cs)
    (split : cs ++ more = scheme ++ ':' :: rest) (nonempty : scheme ≠ []) (free : ':' ∉ scheme) :
    cs <+: scheme := by
  have left : cs <+: cs ++ more := List.prefix_append cs more
  have right : scheme <+: cs ++ more := split ▸ List.prefix_append scheme (':' :: rest)
  rcases List.prefix_or_prefix_of_prefix left right with shorter | ⟨tail, rfl⟩
  · exact shorter
  · -- A longer `cs` would have the colon, and then it would have to begin with it.
    rw [List.append_assoc, List.append_cancel_left_eq] at split
    cases tail with
    | nil => rw [List.append_nil]
    | cons c tail =>
      obtain ⟨rfl, -⟩ := List.cons.inj split
      rcases schemeless with unmarked | leading
      · exact absurd (by simp) unmarked
      · rw [List.head?_append_of_ne_nil _ nonempty] at leading
        exact absurd (List.mem_of_mem_head? leading) free

end Layout

namespace SchemePath

variable {text : String} {scheme rest : List Char}

theorem ofText_marked (split : text.toList = scheme ++ ':' :: rest) (nonempty : scheme ≠ [])
    (free : ':' ∉ scheme) :
    ofText text = (Layout.full scheme (readPath (rest.takeWhile (· != '?'))) none).schemePath := by
  rw [ofText, split, Layout.read_scheme nonempty free, Layout.schemePath_readBody]

/-- A scheme that has its colon stays as it is. -/
theorem scheme_append (split : text.toList = scheme ++ ':' :: rest) (nonempty : scheme ≠ [])
    (free : ':' ∉ scheme) (more : String) :
    (ofText (text ++ more)).scheme = (ofText text).scheme := by
  have longer : (text ++ more).toList = scheme ++ ':' :: (rest ++ more.toList) := by simp [split]
  rw [ofText_marked longer nonempty free, ofText_marked split nonempty free]
  rfl

/-- A path that has its question mark stays as it is. -/
theorem ofText_append (ended : (ofText text).span.stop < byteLength text.toList) (more : String) :
    ofText (text ++ more) = ofText text := by
  rcases scheme_cases text with ⟨-, -, stop⟩ | ⟨scheme, rest, split, nonempty, free, -⟩
  · omega
  · have longer : (text ++ more).toList = scheme ++ ':' :: (rest ++ more.toList) := by simp [split]
    rw [ofText_marked longer nonempty free]
    rw [ofText_marked split nonempty free] at ended ⊢
    cases divided : splitFirst '?' rest with
    | none =>
      have unmarked := splitFirst_eq_none_iff.mp divided
      simp only [Layout.schemePath, Layout.pathEnd, Text.takeWhile_unmarked unmarked, split,
        render_readPath, Text.byteLength_append, Text.byteLength_cons] at ended
      have colon : ':'.utf8Size = 1 := rfl
      omega
    | some sides =>
      obtain ⟨path, query⟩ := sides
      obtain ⟨rfl, unmarked⟩ := splitFirst_eq_some divided
      rw [List.append_assoc, List.cons_append, Text.takeWhile_mark unmarked,
        Text.takeWhile_mark unmarked]

end SchemePath

/-- A cursor at the end of a name has typed all of it. -/
theorem fits_atEnd (name : List Char) (candidate : Candidate) :
    candidate.fits (typedFilter (Token.place 0 name) (byteLength name)) =
      (Text.allBlank (String.ofList name) || name.isPrefixOf candidate.label.toList) := by
  rw [fits_typedFilter, if_neg (Nat.lt_irrefl _), Text.takeBytes_all (Nat.le_refl _)]

theorem Text.allBlank_of_prefix {xs ys : List Char} (isPrefix : xs <+: ys)
    (blank : allBlank (String.ofList ys) = true) : allBlank (String.ofList xs) = true := by
  rw [allBlank_iff, String.toList_ofList] at blank ⊢
  intro c member
  exact blank c (isPrefix.subset member)

/-- More text at the end of a URI, with the cursor after it, narrows the filter. -/
theorem narrows_append (s t : String) :
    Narrows (typedFilter (SchemePath.ofText s).scheme (byteLength s.toList))
      (typedFilter (SchemePath.ofText (s ++ t)).scheme (byteLength (s ++ t).toList)) := by
  rcases SchemePath.scheme_cases s with
    ⟨schemeless, token, -⟩ | ⟨scheme, rest, split, nonempty, free, -⟩
  · -- All of `s` is typed, and it begins what is typed of the longer text, be that bare or not.
    have widens {name typed : List Char} (inName : s.toList <+: name) (inTyped : s.toList <+: typed)
        (candidate : Candidate) (fits : (Text.allBlank (String.ofList name) ||
          typed.isPrefixOf candidate.label.toList) = true) :
        candidate.fits (typedFilter (SchemePath.ofText s).scheme (byteLength s.toList)) = true := by
      rw [token, fits_atEnd]
      simp only [Bool.or_eq_true, List.isPrefixOf_iff_prefix] at fits ⊢
      exact fits.imp (Text.allBlank_of_prefix inName) inTyped.trans
    have start : s.toList <+: (s ++ t).toList := by simp
    intro candidate fits
    rcases SchemePath.scheme_cases (s ++ t) with
      ⟨-, longer, -⟩ | ⟨scheme, rest, split, nonempty, free, longer⟩
    · rw [longer, fits_atEnd] at fits
      exact widens start start candidate fits
    · have past : byteLength scheme < byteLength (s ++ t).toList := by
        rw [split, Text.byteLength_append, Text.byteLength_cons]
        have colon : ':'.utf8Size = 1 := rfl
        omega
      rw [longer, fits_typedFilter, if_pos past] at fits
      rw [String.toList_append] at split
      have inScheme := schemeless.prefix_scheme split nonempty free
      exact widens inScheme (inScheme.trans (List.prefix_append scheme [':'])) candidate fits
  · rw [SchemePath.scheme_append split nonempty free]
    apply narrows_typedFilter
    rw [String.toList_append, Text.byteLength_append]
    exact Nat.le_add_right _ _

/-- Typing on only narrows: the labels offered at the end of a longer text are some of those offered at
the end of its beginning, in the same order. -/
theorem typing_on_narrows (s t : String) {handle : Handle} {catalog : Catalog}
    (ready : handle.loaded = some catalog) {scheme : Token} {candidates : List Candidate}
    (made : generate catalog scheme = .ok candidates) :
    ∃ before after,
      (complete handle (Uri.parse s).schemePath s.utf8ByteSize).value.2 = .ok before ∧
      (complete handle (Uri.parse (s ++ t)).schemePath (s ++ t).utf8ByteSize).value.2 = .ok after ∧
      (after.map (·.label)).Sublist (before.map (·.label)) := by
  have whole := Catalog.firstFault?_of_generate made
  refine ⟨_, _, complete_whole ready whole _ _, complete_whole ready whole _ _, ?_⟩
  rw [Uri.parse_schemePath, Uri.parse_schemePath, ← Text.byteLength_toList, ← Text.byteLength_toList]
  by_cases touched : (SchemePath.ofText (s ++ t)).span.touches (byteLength (s ++ t).toList)
  · -- A path that ended in `s` ends at the same place in the longer text, before the cursor.
    have before : (SchemePath.ofText s).span.touches (byteLength s.toList) = true := by
      rw [SchemePath.touches_ofText] at touched ⊢
      rcases Nat.lt_or_ge (SchemePath.ofText s).span.stop (byteLength s.toList) with ended | within
      · rw [SchemePath.ofText_append ended, String.toList_append, Text.byteLength_append] at touched
        omega
      · exact within
    rw [if_pos touched, if_pos before]
    exact (narrows_append s t).labels_sublist _ _ _
  · rw [if_neg touched]
    exact List.nil_sublist _

/-- A blank offers everything; with a name after it, it is part of what was typed. -/
theorem typing_on_narrows_past_blank :
    let catalog := Catalog.ofModels [⟨"ahc", none, none⟩, ⟨" jms", none, none⟩]
    let offered (label : String) (size : Nat) : Candidate := ⟨label, none, false, ⟨0, size⟩⟩
    let atEnd (uri : String) :=
      (complete (Handle.ready catalog) (Uri.parse uri).schemePath uri.utf8ByteSize).value.2
    (Handle.ready catalog).loaded = some catalog ∧
      generate catalog (SchemePath.ofText "").scheme = .ok [offered "ahc" 0, offered " jms" 0] ∧
      atEnd " " = .ok [offered "ahc" 1, offered " jms" 1] ∧
      atEnd (" " ++ "jm") = .ok [offered " jms" 3] ∧
      [" jms"].Sublist ["ahc", " jms"] := by
  intro catalog offered atEnd
  have made : generate catalog (SchemePath.ofText "").scheme =
      .ok [offered "ahc" 0, offered " jms" 0] := by decide
  have blank : atEnd " " = .ok [offered "ahc" 1, offered " jms" 1] := by decide
  have named : atEnd (" " ++ "jm") = .ok [offered " jms" 3] := by decide
  have ready : (Handle.ready catalog).loaded = some catalog := rfl
  obtain ⟨before, after, first, second, narrows⟩ := typing_on_narrows " " "jm" ready made
  obtain rfl := Except.ok.inj (blank.symm.trans first)
  obtain rfl := Except.ok.inj (named.symm.trans second)
  exact ⟨ready, made, blank, named, narrows⟩

end EndpointUri
