import EndpointUri.Proofs.Boundary
import EndpointUri.Text.Position

/-!
Editor positions and byte offsets. An editor finds a position by passing line feeds and then code
units of the line. The position of a boundary leads it back to the boundary.
-/
namespace EndpointUri
namespace Text

/-- Cuts right after as many line feeds. -/
def cutLines? : Nat → List Char → Option (List Char × List Char)
  | 0, cs => some ([], cs)
  | _ + 1, [] => none
  | n + 1, c :: cs =>
    (cutLines? (if c = '\n' then n else n + 1) cs).map fun (front, back) => (c :: front, back)

/-- Cuts after as many code units of UTF-16, all on one line. There is no cut inside a character. -/
def cutUnits? : Nat → List Char → Option (List Char × List Char)
  | 0, cs => some ([], cs)
  | _ + 1, [] => none
  | n + 1, c :: cs =>
    if c ≠ '\n' ∧ units16 c ≤ n + 1 then
      (cutUnits? (n + 1 - units16 c) cs).map fun (front, back) => (c :: front, back)
    else none

theorem units16_pos (c : Char) : 0 < units16 c := by
  unfold units16
  split <;> omega

theorem units16_le_utf8Size (c : Char) : units16 c ≤ c.utf8Size := by
  have positive := c.utf8Size_pos
  unfold units16
  split
  next => exact positive
  next wide =>
    have several : c.utf8Size ≠ 1 := by
      rw [ne_eq, Char.utf8Size_eq_one_iff, UInt32.le_iff_toNat_le]
      change ¬ c.toNat ≤ 127
      omega
    omega

end Text

namespace Position

/-- Reads a position as an editor does: so many line feeds, then so many code units on the line. -/
def cut? (p : Position) (cs : List Char) : Option (List Char × List Char) := do
  let (lines, rest) ← Text.cutLines? p.line cs
  let (front, back) ← Text.cutUnits? p.character rest
  return (lines ++ front, back)

/-- The byte offset of a position, if the document has it. -/
def offset? (p : Position) (document : String) : Option Nat :=
  (p.cut? document.toList).map fun (front, _) => Text.byteLength front

/-! ### Counting -/

/-- A text that starts at a position ends as far on as one that starts at the origin; on its first
line the units before it count too. -/
theorem foldl_advance (p : Position) (cs : List Char) :
    cs.foldl advance p = ⟨p.line + (after cs).line,
      if (after cs).line = 0 then p.character + (after cs).character else (after cs).character⟩ := by
  induction cs generalizing p with
  | nil => rfl
  | cons c cs ih =>
    have fromOrigin : after (c :: cs) = cs.foldl advance (advance origin c) := rfl
    rw [fromOrigin, List.foldl_cons, ih (advance p c), ih (advance origin c)]
    by_cases feed : c = '\n'
    · simp [advance, origin, feed, Nat.add_assoc]
    · by_cases first : (after cs).line = 0 <;> simp [advance, origin, feed, first, Nat.add_assoc]

theorem after_cons (c : Char) (cs : List Char) :
    after (c :: cs) = if c = '\n' then ⟨(after cs).line + 1, (after cs).character⟩
      else ⟨(after cs).line, if (after cs).line = 0 then Text.units16 c + (after cs).character
        else (after cs).character⟩ := by
  rw [after, List.foldl_cons, foldl_advance]
  by_cases feed : c = '\n'
  · simp [advance, origin, feed, Nat.add_comm]
  · simp [advance, origin, feed]

/-- Neither count exceeds the number of bytes. -/
theorem after_le (cs : List Char) :
    (after cs).line + (after cs).character ≤ Text.byteLength cs := by
  induction cs with
  | nil => exact Nat.le_refl 0
  | cons c cs ih =>
    have units := Text.units16_le_utf8Size c
    have size := c.utf8Size_pos
    rw [after_cons, Text.byteLength_cons]
    split
    next => simp only; omega
    next => split <;> simp only <;> omega

/-! ### Finding -/

theorem cut?_newline (line character : Nat) (cs : List Char) :
    cut? ⟨line + 1, character⟩ ('\n' :: cs) =
      (cut? ⟨line, character⟩ cs).map fun (front, back) => ('\n' :: front, back) := by
  simp only [cut?, Text.cutLines?, if_true]
  cases Text.cutLines? line cs with
  | none => rfl
  | some sides => cases found : Text.cutUnits? character sides.2 <;> simp [found]

theorem cut?_lineCharacter {c : Char} (other : c ≠ '\n') (line character : Nat) (cs : List Char) :
    cut? ⟨line + 1, character⟩ (c :: cs) =
      (cut? ⟨line + 1, character⟩ cs).map fun (front, back) => (c :: front, back) := by
  simp only [cut?, Text.cutLines?, if_neg other]
  cases Text.cutLines? (line + 1) cs with
  | none => rfl
  | some sides => cases found : Text.cutUnits? character sides.2 <;> simp [found]

theorem cut?_units {c : Char} (other : c ≠ '\n') (character : Nat) (cs : List Char) :
    cut? ⟨0, Text.units16 c + character⟩ (c :: cs) =
      (cut? ⟨0, character⟩ cs).map fun (front, back) => (c :: front, back) := by
  obtain ⟨n, size⟩ : ∃ n, Text.units16 c + character = n + 1 :=
    ⟨Text.units16 c + character - 1, by have := Text.units16_pos c; omega⟩
  have rest : n + 1 - Text.units16 c = character := by omega
  have fits : c ≠ '\n' ∧ Text.units16 c ≤ n + 1 := ⟨other, by omega⟩
  simp only [cut?, Text.cutLines?, Option.bind_eq_bind, Option.bind_some, size, Text.cutUnits?,
    if_pos fits, rest]
  cases Text.cutUnits? character cs <;> simp

/-- The position after a front is found right after it. -/
theorem cut?_after (front back : List Char) :
    (after front).cut? (front ++ back) = some (front, back) := by
  induction front with
  | nil => simp [after, origin, cut?, Text.cutLines?, Text.cutUnits?]
  | cons c cs ih =>
    rw [after_cons, List.cons_append]
    by_cases feed : c = '\n'
    · rw [if_pos feed, feed, cut?_newline, ih, Option.map_some]
    · rw [if_neg feed]
      by_cases first : (after cs).line = 0
      · have origin : (⟨0, (after cs).character⟩ : Position) = after cs := by rw [← first]
        rw [if_pos first, first, cut?_units feed, origin, ih, Option.map_some]
      · obtain ⟨line, last⟩ := Nat.exists_eq_succ_of_ne_zero first
        have same : (⟨line + 1, (after cs).character⟩ : Position) = after cs := by
          rw [← Nat.succ_eq_add_one, ← last]
        rw [if_neg first, last, Nat.succ_eq_add_one, cut?_lineCharacter feed, same, ih,
          Option.map_some]

variable {document : String} {front back : List Char}

/-- The offset after a front is the position after it, and is found from there. -/
theorem ofOffset_front (split : document.toList = front ++ back) :
    ofOffset document (Text.byteLength front) = after front := by
  rw [ofOffset, split, Text.takeBytes_append]

theorem offset?_after (split : document.toList = front ++ back) :
    (after front).offset? document = some (Text.byteLength front) := by
  rw [offset?, split, cut?_after, Option.map_some]

end Position

/-- The bytes that an editor takes a range for. -/
def Range.span? (range : Range) (document : String) : Option Span := do
  let start ← range.start.offset? document
  let stop ← range.stop.offset? document
  return ⟨start, stop⟩

theorem Range.ofSpan_piece {document : String} {front piece back : List Char}
    (split : document.toList = front ++ piece ++ back) :
    Range.ofSpan document ⟨Text.byteLength front, Text.byteLength (front ++ piece)⟩ =
      ⟨Position.after front, Position.after (front ++ piece)⟩ := by
  have start : document.toList = front ++ (piece ++ back) := by rw [split, List.append_assoc]
  rw [ofSpan, Position.ofOffset_front start, Position.ofOffset_front split]

theorem Range.span?_piece {document : String} {front piece back : List Char}
    (split : document.toList = front ++ piece ++ back) :
    Range.span? ⟨Position.after front, Position.after (front ++ piece)⟩ document =
      some ⟨Text.byteLength front, Text.byteLength (front ++ piece)⟩ := by
  have start : document.toList = front ++ (piece ++ back) := by rw [split, List.append_assoc]
  rw [span?, Position.offset?_after start, Position.offset?_after split]
  rfl

end EndpointUri
