import EndpointUri.Proofs.GreatestBoundary
import EndpointUri.Proofs.Positions
import Mathlib.Data.List.DropRight
import Mathlib.Data.Prod.Lex
import Mathlib.Order.Monotone.Basic

/-!
The positions of byte offsets, counted and compared. A position counts the line feeds before a boundary
and the UTF-16 code units since the last of them; a line index finds it by way of a byte column.
Positions follow the boundaries in reading order, by line and then by character, so each boundary has a
position of its own.
-/
namespace EndpointUri

open Text (byteLength IsBoundary)

namespace Text

/-- The UTF-16 form of a character: one code unit, or two surrogates outside the basic plane. -/
def encode16 (c : Char) : List Nat :=
  if c.toNat < 0x10000 then [c.toNat]
  else [0xd800 + (c.toNat - 0x10000) / 0x400, 0xdc00 + (c.toNat - 0x10000) % 0x400]

def length16 (cs : List Char) : Nat := (cs.flatMap encode16).length

/-- What follows the last line feed; all of the text where there is none. -/
def lastLine (cs : List Char) : List Char := cs.rtakeWhile (· != '\n')

theorem length16_snoc (cs : List Char) (c : Char) :
    length16 (cs ++ [c]) = length16 cs + units16 c := by
  have units : (encode16 c).length = units16 c := by
    unfold encode16 units16
    split <;> rfl
  rw [length16, List.flatMap_append, List.length_append, List.flatMap_singleton, units, ← length16]

theorem lastLine_snoc (cs : List Char) (c : Char) :
    lastLine (cs ++ [c]) = if c = '\n' then [] else lastLine cs ++ [c] := by
  rw [lastLine, List.rtakeWhile_concat, ← lastLine]
  by_cases feed : c = '\n' <;> simp [feed]

/-- The lines before the last one end with a line feed, and the last has none. -/
theorem exists_lines (cs : List Char) :
    ∃ lines, cs = lines ++ lastLine cs ∧ '\n' ∉ lastLine cs ∧
      (lines = [] ∨ ∃ front, lines = front ++ ['\n']) := by
  refine ⟨cs.rdropWhile (· != '\n'), List.rdropWhile_append_rtakeWhile.symm, ?_, ?_⟩
  · intro member
    simpa using List.mem_rtakeWhile_imp member
  · rw [or_iff_not_imp_left]
    intro nonempty
    have last := List.rdropWhile_last_not (· != '\n') cs nonempty
    rw [bne_iff_ne, not_not] at last
    refine ⟨(cs.rdropWhile (· != '\n')).dropLast, ?_⟩
    have whole := List.dropLast_concat_getLast nonempty
    rw [last] at whole
    exact whole.symm

/-- Whole lines are passed by counting their line feeds. -/
theorem cutLines?_lines {lines : List Char} (ended : lines = [] ∨ ∃ front, lines = front ++ ['\n'])
    (rest : List Char) : cutLines? (lines.count '\n') (lines ++ rest) = some (lines, rest) := by
  rcases ended with rfl | ⟨front, rfl⟩
  · rw [List.count_nil, cutLines?, List.nil_append]
  · induction front with
    | nil =>
      rw [List.nil_append, List.count_singleton_self, List.singleton_append, cutLines?, if_pos rfl,
        cutLines?, Option.map_some]
    | cons c cs ih =>
      obtain ⟨n, more⟩ : ∃ n, (cs ++ ['\n']).count '\n' = n + 1 := ⟨cs.count '\n', by simp⟩
      rw [more] at ih
      by_cases feed : c = '\n'
      · rw [List.cons_append, List.cons_append, feed, List.count_cons_self, more, cutLines?,
          if_pos rfl, ih, Option.map_some]
      · rw [List.cons_append, List.cons_append, List.count_cons_of_ne feed, more, cutLines?,
          if_neg feed, ih, Option.map_some]

end Text

/-! ### Counting -/

namespace Position

/-- Passing the characters one by one counts the line feeds and the units of the last line. -/
theorem after_eq (cs : List Char) :
    after cs = ⟨cs.count '\n', Text.length16 (Text.lastLine cs)⟩ := by
  induction cs using List.reverseRecOn with
  | nil => rfl
  | append_singleton cs c ih =>
    rw [after_append, ih, List.foldl_cons, List.foldl_nil, Text.lastLine_snoc, List.count_append]
    by_cases feed : c = '\n'
    · rw [advance, if_pos feed, if_pos feed, feed]
      rfl
    · rw [advance, if_neg feed, if_neg feed, Text.length16_snoc, List.count_singleton]
      simp [feed]

/-! ### Reading order -/

/-- Positions compare by line and then by character. -/
def key (p : Position) : ℕ ×ₗ ℕ := toLex (p.line, p.character)

theorem key_lt_advance (p : Position) (c : Char) : p.key < (p.advance c).key := by
  have units := Text.units16_pos c
  unfold key advance
  rw [Prod.Lex.toLex_lt_toLex]
  split
  · left
    exact Nat.lt_succ_self p.line
  · right
    exact ⟨rfl, Nat.lt_add_of_pos_right units⟩

theorem key_le_foldl (p : Position) (cs : List Char) : p.key ≤ (cs.foldl advance p).key := by
  induction cs generalizing p with
  | nil => exact le_rfl
  | cons c cs ih => exact (key_lt_advance p c).le.trans (ih (advance p c))

theorem key_after_le (front piece : List Char) :
    (after front).key ≤ (after (front ++ piece)).key := by
  rw [after_append]
  exact key_le_foldl (after front) piece

theorem key_after_lt (front : List Char) {piece : List Char} (nonempty : piece ≠ []) :
    (after front).key < (after (front ++ piece)).key := by
  obtain ⟨c, cs, rfl⟩ := List.exists_cons_of_ne_nil nonempty
  rw [after_append, List.foldl_cons]
  exact (key_lt_advance (after front) c).trans_le (key_le_foldl (advance (after front) c) cs)

variable {document : String}

/-- A greater offset passes at least the characters that a lesser one does. -/
theorem key_ofOffset_le {start stop : Nat} (ordered : start ≤ stop) :
    (ofOffset document start).key ≤ (ofOffset document stop).key := by
  obtain ⟨piece, longer⟩ := Text.takeBytes_mono ordered document.toList
  unfold ofOffset
  rw [← longer]
  exact key_after_le _ piece

/-- Between two boundaries there is a character, and to pass it is to go on. -/
theorem key_ofOffset_lt {start stop : Nat} (startBoundary : IsBoundary document start)
    (stopBoundary : IsBoundary document stop) (less : start < stop) :
    (ofOffset document start).key < (ofOffset document stop).key := by
  obtain ⟨front, back, split, rfl⟩ := Text.isBoundary_iff.mp startBoundary
  obtain ⟨front', back', split', rfl⟩ := Text.isBoundary_iff.mp stopBoundary
  obtain ⟨piece, longer⟩ := Text.takeBytes_mono less.le document.toList
  nth_rewrite 1 [split] at longer
  rw [split', Text.takeBytes_append, Text.takeBytes_append] at longer
  have nonempty : piece ≠ [] := by
    rintro rfl
    rw [← longer, List.append_nil] at less
    exact Nat.lt_irrefl _ less
  rw [ofOffset_front split, ofOffset_front split', ← longer]
  exact key_after_lt front nonempty

/-- An editor that is sent the position of an offset finds the boundary before it. -/
theorem offset?_ofOffset (document : String) (offset : Nat) :
    (ofOffset document offset).offset? document = some (Text.clamp document offset) := by
  obtain ⟨back, split⟩ := Text.takeBytes_prefix offset document.toList
  exact offset?_after split.symm

/-- Neither number of a position in a document exceeds its size. -/
theorem ofOffset_le (document : String) (offset : Nat) :
    (ofOffset document offset).line + (ofOffset document offset).character ≤
      document.utf8ByteSize := by
  obtain ⟨back, split⟩ := Text.takeBytes_prefix offset document.toList
  have size := congrArg byteLength split
  rw [Text.byteLength_append, Text.byteLength_toList] at size
  have counts := after_le (Text.takeBytes offset document.toList)
  unfold ofOffset
  omega

end Position

/-! ### By way of a byte column -/

namespace LineIndex

/-- A line and the bytes on it before a boundary. -/
structure Place where
  line : Nat
  column : Nat

/-- The place of a boundary. Offsets are words of 32 bits; one that is too great is taken for the
greatest. -/
def place? (document : String) (boundary : Nat) : Option Place := do
  let (front, _) ← Text.cut? (min boundary (UInt32.size - 1)) document.toList
  return ⟨front.count '\n', byteLength (Text.lastLine front)⟩

/-- The column in code units: those of the characters that fill the bytes of the column. -/
def widen? (document : String) (place : Place) : Option Nat := do
  let (_, line) ← Text.cutLines? place.line document.toList
  let (front, _) ← Text.cut? place.column line
  return Text.length16 front

/-- The position of any offset. A column that cannot be widened would stay as it is. -/
def position? (document : String) (offset : Nat) : Option Position := do
  let boundary ← Checked.clamp? document offset
  let place ← place? document boundary
  return ⟨place.line, (widen? document place).getD place.column⟩

variable {document : String} {front back : List Char}

/-- In a document whose size is a word of 32 bits every offset is one. -/
theorem min_word {front back : List Char} (short : byteLength (front ++ back) < UInt32.size) :
    min (byteLength front) (UInt32.size - 1) = byteLength front := by
  rw [Text.byteLength_append] at short
  apply Nat.min_eq_left
  omega

theorem place?_front (split : document.toList = front ++ back)
    (small : document.utf8ByteSize < UInt32.size) :
    place? document (byteLength front) =
      some ⟨front.count '\n', byteLength (Text.lastLine front)⟩ := by
  rw [← Text.byteLength_toList, split] at small
  rw [place?, min_word small, split, Text.cut?_append]
  rfl

/-- The line of a place is found by its number, and the column is a cut of it. -/
theorem widen?_front (split : document.toList = front ++ back) :
    widen? document ⟨front.count '\n', byteLength (Text.lastLine front)⟩ =
      some (Text.length16 (Text.lastLine front)) := by
  obtain ⟨lines, whole, unbroken, ended⟩ := Text.exists_lines front
  have feeds : front.count '\n' = lines.count '\n' := by
    have counted := congrArg (List.count '\n') whole
    rwa [List.count_append, List.count_eq_zero.mpr unbroken, Nat.add_zero] at counted
  have regroup : document.toList = lines ++ (Text.lastLine front ++ back) := by
    rw [split, ← List.append_assoc, ← whole]
  simp only [widen?, feeds, regroup, Text.cutLines?_lines ended, Text.cut?_append,
    Option.bind_eq_bind, Option.bind_some, Option.pure_def]

theorem position?_eq_ofOffset (small : document.utf8ByteSize < UInt32.size) (offset : Nat) :
    position? document offset = some (Position.ofOffset document offset) := by
  obtain ⟨back, split⟩ := Text.takeBytes_prefix offset document.toList
  simp only [position?, Checked.clamp?, Text.clampBytes?_eq, Text.clamp, place?_front split.symm small,
    widen?_front split.symm, Option.bind_eq_bind, Option.bind_some, Option.getD_some,
    Option.pure_def, Position.ofOffset, Position.after_eq]

end LineIndex

/-! ### All offsets of a document -/

/-- The position of any offset is that of the boundary at or before it: the line feeds up to there and
the code units after the last of them, as a line index finds them, in words of 32 bits. Positions rise
with the boundaries, so they tell them apart and lead back to them, and the ends of a range keep the
order of those of the span. -/
theorem positions_count_and_rise {document : String}
    (small : document.utf8ByteSize < UInt32.size) :
    (∀ offset, ∃ front,
      Span.slice? ⟨0, Text.clamp document offset⟩ document = some front ∧
      Position.ofOffset document offset =
        ⟨front.toList.count '\n', Text.length16 (Text.lastLine front.toList)⟩ ∧
      LineIndex.position? document offset = some (Position.ofOffset document offset) ∧
      (Position.ofOffset document offset).line < UInt32.size ∧
      (Position.ofOffset document offset).character < UInt32.size) ∧
    StrictMonoOn (fun b => (Position.ofOffset document b).key) {b | IsBoundary document b} ∧
    Set.InjOn (Position.ofOffset document) {b | IsBoundary document b} ∧
    (∀ offset,
      (Position.ofOffset document offset).offset? document = some (Text.clamp document offset)) ∧
    ∀ span : Span, span.start ≤ span.stop →
      (Range.ofSpan document span).start.key ≤ (Range.ofSpan document span).stop.key := by
  have rising :
      StrictMonoOn (fun b => (Position.ofOffset document b).key) {b | IsBoundary document b} :=
    fun _ startBoundary _ stopBoundary less =>
      Position.key_ofOffset_lt startBoundary stopBoundary less
  refine ⟨fun offset => ?_, rising, ?_, Position.offset?_ofOffset document,
    fun span ordered => Position.key_ofOffset_le ordered⟩
  · have size := Position.ofOffset_le document offset
    refine ⟨String.ofList (Text.takeBytes offset document.toList), ?_, ?_,
      LineIndex.position?_eq_ofOffset small offset, by omega, by omega⟩
    · exact Span.slice?_prefix (Text.takeBytes_prefix offset document.toList)
    · rw [String.toList_ofList, Position.ofOffset, Position.after_eq]
  · intro start startBoundary stop stopBoundary same
    exact rising.injOn startBoundary stopBoundary (congrArg Position.key same)

/-- An offset inside a character of four bytes, on a second line after one of two bytes, and the
boundaries around it. -/
theorem positions_count_and_rise_around_character :
    "a\né😀".utf8ByteSize < UInt32.size ∧
      LineIndex.position? "a\né😀" 6 = some ⟨1, 1⟩ ∧
      Position.offset? ⟨1, 1⟩ "a\né😀" = some 4 ∧
      IsBoundary "a\né😀" 4 ∧ IsBoundary "a\né😀" 8 ∧
      (Position.ofOffset "a\né😀" 4).key < (Position.ofOffset "a\né😀" 8).key ∧
      (Range.ofSpan "a\né😀" ⟨1, 6⟩).start.key ≤ (Range.ofSpan "a\né😀" ⟨1, 6⟩).stop.key := by
  have small : "a\né😀".utf8ByteSize < UInt32.size := by decide
  obtain ⟨counts, rising, -, recovered, ordered⟩ := positions_count_and_rise small
  obtain ⟨-, -, -, indexed, -, -⟩ := counts 6
  have inside : Position.ofOffset "a\né😀" 6 = ⟨1, 1⟩ := by decide
  have clamped : Text.clamp "a\né😀" 6 = 4 := by decide
  have before : IsBoundary "a\né😀" 4 :=
    Text.isBoundary_iff.mpr ⟨"a\né".toList, ['😀'], by decide, by decide⟩
  have behind : IsBoundary "a\né😀" 8 :=
    Text.isBoundary_iff.mpr ⟨"a\né😀".toList, [], by decide, by decide⟩
  have back := recovered 6
  rw [inside, clamped] at back
  exact ⟨small, inside ▸ indexed, back, before, behind, rising before behind (by decide),
    ordered ⟨1, 6⟩ (by decide)⟩

end EndpointUri
