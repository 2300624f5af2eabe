import EndpointUri.Proofs.Narrowing
import EndpointUri.Proofs.Tiling

/-!
Text added at the end of a URI. The reader looks ahead, so an ampersand at the end may turn out to
begin an escaped one and move the entry after it; but whatever is added, only the last segment of an
open path or the last entry of the query is concerned.
-/
namespace EndpointUri

open Text (Stands byteLength)

/-! ### Runs that go on -/

namespace Separated

variable {σ α β : Type} {run longer : Separated σ α}

/-- The longer run has the items of the run, but for its last, in the same places and behind the same
separators. -/
def ContinuedBy (run longer : Separated σ α) : Prop :=
  run.tail ≠ [] → longer.head = run.head ∧ run.tail.dropLast <+: longer.tail

theorem continuedBy_of_single (single : run.tail = []) : run.ContinuedBy longer :=
  fun several => absurd single several

/-- The separator before the last item may yet become another. -/
theorem continuedBy_push_single {run : Separated σ (List α)} (single : run.tail = [])
    (longer : Separated σ (List α)) (s s' : σ) : (run.push s).ContinuedBy (longer.push s') := by
  intro _
  refine ⟨rfl, ?_⟩
  rw [push, single]
  exact List.nil_prefix

theorem ContinuedBy.push {run longer : Separated σ (List α)} (continued : run.ContinuedBy longer)
    (s : σ) : (run.push s).ContinuedBy (longer.push s) := by
  by_cases single : run.tail = []
  · exact continuedBy_push_single single longer s s
  · intro _
    obtain ⟨head, tail⟩ := continued single
    refine ⟨rfl, ?_⟩
    rw [Separated.push, Separated.push, List.dropLast_cons_of_ne_nil single, head]
    exact List.cons_prefix_cons.mpr ⟨rfl, tail⟩

theorem ContinuedBy.extend {run longer : Separated σ (List α)} (continued : run.ContinuedBy longer)
    (c : α) : (run.extend c).ContinuedBy (longer.extend c) := by
  intro several
  obtain ⟨head, tail⟩ := continued several
  exact ⟨congrArg (c :: ·) head, tail⟩

theorem ContinuedBy.map (continued : run.ContinuedBy longer) (f : α → β) :
    (run.map f).ContinuedBy (longer.map f) := by
  intro several
  obtain ⟨head, tail⟩ := continued fun single => several (by rw [Separated.map, single]; rfl)
  refine ⟨congrArg f head, ?_⟩
  rw [Separated.map, Separated.map, ← List.map_dropLast]
  exact tail.map _

variable {separator : σ → List Char} {item : α → List Char} {place : Nat → Nat → α → β}

theorem walk_ne_nil (offset index : Nat) (head : α) (tail : List (σ × α)) :
    walk separator item place offset index head tail ≠ [] := by
  cases tail <;> simp [walk]

/-- An item is placed by what stands before it. -/
theorem ContinuedBy.walk {head head' : α} {tail tail' : List (σ × α)}
    (continued : ContinuedBy ⟨head, tail⟩ ⟨head', tail'⟩) (offset index : Nat) :
    (walk separator item place offset index head tail).dropLast <+:
      walk separator item place offset index head' tail' := by
  induction tail generalizing offset index head head' tail' with
  | nil => exact List.nil_prefix
  | cons pair rest ih =>
    obtain ⟨s, next⟩ := pair
    obtain ⟨rfl, settled⟩ := continued (List.cons_ne_nil _ _)
    rw [Separated.walk, List.dropLast_cons_of_ne_nil (walk_ne_nil _ _ _ _)]
    cases rest with
    | nil => cases tail' <;> exact List.cons_prefix_cons.mpr ⟨rfl, List.nil_prefix⟩
    | cons pair' rest =>
      rw [List.dropLast_cons_of_ne_nil (List.cons_ne_nil _ _)] at settled
      obtain ⟨more, rfl⟩ := settled
      rw [List.cons_append, Separated.walk]
      refine List.cons_prefix_cons.mpr ⟨rfl, ih ?_ _ _⟩
      exact fun _ => ⟨rfl, List.prefix_append _ _⟩

end Separated

/-! ### Reading more text -/

theorem readPath_continuedBy (cs more : List Char) :
    (readPath cs).ContinuedBy (readPath (cs ++ more)) := by
  induction cs with
  | nil => exact Separated.continuedBy_of_single rfl
  | cons c cs ih =>
    rw [List.cons_append, readPath, readPath]
    split
    next separator _ => exact ih.push separator
    next => exact ih.extend c

/-- What may yet become the rest of an escaped separator is a single item. -/
theorem readQuery_of_prefix_escapeTail {cs : List Char} (begun : cs <+: escapeTail) :
    (readQuery cs).tail = [] := by
  have free : '&' ∉ cs := fun member => by simpa [escapeTail] using begun.subset member
  have alone := readQuery_append free []
  rw [List.append_nil] at alone
  rw [alone]
  rfl

theorem readQuery_continuedBy (cs more : List Char) :
    (readQuery cs).ContinuedBy (readQuery (cs ++ more)) := by
  fun_induction readQuery cs with
  | case1 => exact Separated.continuedBy_of_single rfl
  | case2 cs ih => exact ih.push .escaped
  | case3 cs unescaped ih =>
    rw [List.cons_append]
    by_cases escaped : escapeTail <+: cs ++ more
    · -- The ampersand was read as a plain separator and begins an escaped one after all.
      have begun : cs <+: escapeTail := by
        rcases List.prefix_or_prefix_of_prefix (List.prefix_append cs more) escaped with
          shorter | ⟨rest, rfl⟩
        · exact shorter
        · exact absurd rfl (unescaped rest rfl)
      obtain ⟨rest, whole⟩ := escaped
      rw [← whole]
      exact Separated.continuedBy_push_single (readQuery_of_prefix_escapeTail begun)
        (readQuery rest) .plain .escaped
    · rw [readQuery_plain escaped]
      exact ih.push .plain
  | case4 c cs _ other ih =>
    rw [List.cons_append, readQuery_other other]
    exact ih.extend c

/-- More text only goes on with what was taken of the text before. -/
theorem Text.takeWhile_prefix_append (p : Char → Bool) (cs more : List Char) :
    cs.takeWhile p <+: (cs ++ more).takeWhile p := by
  induction cs with
  | nil => exact List.nil_prefix
  | cons c cs ih =>
    rw [List.cons_append, List.takeWhile_cons, List.takeWhile_cons]
    split
    · exact List.cons_prefix_cons.mpr ⟨rfl, ih⟩
    · exact List.nil_prefix

section Parse

variable {t : String} {scheme rest : List Char}

theorem exists_scheme_of_usableColon? {colon : Nat} (usable : usableColon? t = some colon) :
    ∃ scheme rest, t.toList = scheme ++ ':' :: rest ∧ scheme ≠ [] ∧ ':' ∉ scheme ∧
      byteLength scheme = colon := by
  rcases SchemePath.scheme_cases t with ⟨schemeless, -⟩ | ⟨scheme, rest, split, nonempty, free, -⟩
  · rw [usableColon?_schemeless schemeless] at usable
    contradiction
  · rw [usableColon?_marked split nonempty free] at usable
    exact ⟨scheme, rest, split, nonempty, free, Option.some.inj usable⟩

/-- What stands right of the colon is in the rest. -/
theorem mem_rest_of_stands {c : Char} {mark : Nat} (split : t.toList = scheme ++ ':' :: rest)
    (right : byteLength scheme < mark) (stands : Stands t mark [c]) : c ∈ rest := by
  obtain ⟨front, back, whole, size⟩ := stands
  have same : front ++ c :: back = (scheme ++ [':']) ++ rest := by
    rw [List.append_assoc, List.singleton_append, ← split, whole, List.append_assoc,
      List.singleton_append]
  have colon : byteLength (scheme ++ [':']) = byteLength scheme + 1 := Text.byteLength_append _ _
  rcases List.append_eq_append_iff.mp same with ⟨excess, longer, tail⟩ | ⟨between, -, tail⟩
  · -- The front is at least as long as scheme and colon, so nothing of them is left over.
    have sizes := congrArg byteLength longer
    rw [colon, Text.byteLength_append] at sizes
    cases excess with
    | nil =>
      rw [List.nil_append] at tail
      exact tail ▸ List.mem_cons_self
    | cons d excess =>
      have positive := d.utf8Size_pos
      rw [Text.byteLength_cons] at sizes
      omega
  · rw [tail]
    exact List.mem_append_right between List.mem_cons_self

/-- A path that is still open may grow, but its segments up to the last are settled. -/
theorem params_append (split : t.toList = scheme ++ ':' :: rest) (nonempty : scheme ≠ [])
    (free : ':' ∉ scheme) (s : String) :
    (Uri.parse t).schemePath.params.dropLast <+: (Uri.parse (t ++ s)).schemePath.params := by
  have longer : (t ++ s).toList = scheme ++ ':' :: (rest ++ s.toList) := by simp [split]
  obtain ⟨more, path⟩ := Text.takeWhile_prefix_append (· != '?') rest s.toList
  rw [Uri.parse_schemePath, Uri.parse_schemePath, SchemePath.ofText_marked split nonempty free,
    SchemePath.ofText_marked longer nonempty free, ← path]
  simp only [Layout.schemePath, placePath_eq_walk]
  exact (readPath_continuedBy _ more).walk _ _

section Query

variable {path query : List Char} (split : t.toList = scheme ++ ':' :: (path ++ '?' :: query))
  (nonempty : scheme ≠ []) (free : ':' ∉ scheme) (unmarked : '?' ∉ path) (s : String)

include split nonempty free unmarked

theorem schemePath_append : (Uri.parse (t ++ s)).schemePath = (Uri.parse t).schemePath := by
  have longer : (t ++ s).toList = scheme ++ ':' :: (path ++ '?' :: (query ++ s.toList)) := by
    simp [split]
  rw [Uri.parse_schemePath, Uri.parse_schemePath, SchemePath.ofText_marked split nonempty free,
    SchemePath.ofText_marked longer nonempty free, Text.takeWhile_mark unmarked,
    Text.takeWhile_mark unmarked]

theorem query_append : (Uri.parse t).query.dropLast <+: (Uri.parse (t ++ s)).query := by
  have longer : (t ++ s).toList = scheme ++ ':' :: (path ++ '?' :: (query ++ s.toList)) := by
    simp [split]
  simp only [Uri.parse, split, longer, Layout.read_scheme nonempty free, Layout.readBody,
    splitFirst_append unmarked, Layout.queryParams, placeQuery_eq_walk _ 0]
  exact ((readQuery_continuedBy query s.toList).map Entry.read).walk _ _

end Query

end Parse

/-- Text added at the end of a URI disturbs nothing that is finished. A scheme that has its colon stays,
and so does every path parameter but the last. With a question mark after the colon the scheme and path
stay whole, and every query parameter but the last stays where it is. -/
theorem appending_keeps_finished_nodes (t s : String) {colon : Nat}
    (usable : usableColon? t = some colon) :
    (Uri.parse (t ++ s)).schemePath.scheme = (Uri.parse t).schemePath.scheme ∧
    (Uri.parse t).schemePath.params.dropLast <+: (Uri.parse (t ++ s)).schemePath.params ∧
    ((∃ mark, colon < mark ∧ Stands t mark ['?']) →
      (Uri.parse (t ++ s)).schemePath = (Uri.parse t).schemePath ∧
      (Uri.parse t).query.dropLast <+: (Uri.parse (t ++ s)).query) := by
  obtain ⟨scheme, rest, split, nonempty, free, rfl⟩ := exists_scheme_of_usableColon? usable
  refine ⟨SchemePath.scheme_append split nonempty free s, params_append split nonempty free s, ?_⟩
  rintro ⟨mark, right, stands⟩
  cases divided : splitFirst '?' rest with
  | none => exact absurd (mem_rest_of_stands split right stands) (splitFirst_eq_none_iff.mp divided)
  | some sides =>
    obtain ⟨path, query⟩ := sides
    obtain ⟨rfl, unmarked⟩ := splitFirst_eq_some divided
    exact ⟨schemePath_append split nonempty free unmarked s,
      query_append split nonempty free unmarked s⟩

/-- An ampersand that was a separator of its own becomes part of an escaped one, and the path of another
text goes on into a query. -/
theorem appending_keeps_finished_nodes_over_escape :
    let param (text : String) (start stop index : Nat) : PathParam := ⟨⟨text, ⟨start, stop⟩⟩, index⟩
    let pair (key value : String) (start middle stop : Nat) : QueryParam :=
      ⟨⟨key, ⟨start, middle⟩⟩, some ⟨value, ⟨middle + 1, stop⟩⟩, ⟨start, stop⟩⟩
    usableColon? "é:b?x=1&am" = some 2 ∧ Stands "é:b?x=1&am" 4 ['?'] ∧
      (Uri.parse "é:b?x=1&am").query = [pair "x" "1" 5 6 8, ⟨⟨"am", ⟨9, 11⟩⟩, none, ⟨9, 11⟩⟩] ∧
      (Uri.parse ("é:b?x=1&am" ++ "p;y=2")).query = [pair "x" "1" 5 6 8, pair "y" "2" 13 14 16] ∧
      [pair "x" "1" 5 6 8] <+: (Uri.parse ("é:b?x=1&am" ++ "p;y=2")).query ∧
      usableColon? "a:b/c" = some 1 ∧
      (Uri.parse "a:b/c").schemePath.params = [param "b" 2 3 0, param "c" 4 5 1] ∧
      [param "b" 2 3 0] <+: (Uri.parse ("a:b/c" ++ "d:?e")).schemePath.params := by
  intro param pair
  have colon : usableColon? "é:b?x=1&am" = some 2 := by decide
  have mark : Stands "é:b?x=1&am" 4 ['?'] :=
    ⟨['é', ':', 'b'], ['x', '=', '1', '&', 'a', 'm'], by decide, by decide⟩
  obtain ⟨-, -, inQuery⟩ := appending_keeps_finished_nodes "é:b?x=1&am" "p;y=2" colon
  obtain ⟨-, settled⟩ := inQuery ⟨4, by decide, mark⟩
  have colon' : usableColon? "a:b/c" = some 1 := by decide
  obtain ⟨-, settled', -⟩ := appending_keeps_finished_nodes "a:b/c" "d:?e" colon'
  exact ⟨colon, mark, by decide, by decide, settled, colon', by decide, settled'⟩

end EndpointUri
