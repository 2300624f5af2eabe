import EndpointUri.Proofs.Boundary
import Mathlib.Order.Bounds.Basic
import Mathlib.Tactic.NthRewrite
import Mathlib.Tactic.SplitIfs

/-!
Backing off to a character boundary. A clamped offset is the greatest boundary up to it, and the other
laws of clamping follow from that. The encoded text tells its boundaries by single bytes, so a loop
that goes back offset by offset finds the same one. It never leaves the text and takes three steps at
most.
-/
namespace EndpointUri
namespace Text

variable {text : String} {front back : List Char} {c : Char} {offset : Nat}

/-! ### The greatest boundary -/

theorem clamp_boundary (text : String) (offset : Nat) : IsBoundary text (clamp text offset) := by
  obtain ⟨back, split⟩ := Text.takeBytes_prefix offset text.toList
  exact isBoundary_iff.mpr ⟨_, back, split.symm, rfl⟩

theorem IsBoundary.le_clamp {boundary : Nat} (isBoundary : IsBoundary text boundary)
    (le : boundary ≤ offset) : boundary ≤ clamp text offset := by
  obtain ⟨front, back, split, rfl⟩ := isBoundary_iff.mp isBoundary
  obtain ⟨piece, longer⟩ := takeBytes_mono le text.toList
  have sizes := congrArg byteLength longer
  rw [split, takeBytes_append, ← split, byteLength_append] at sizes
  unfold clamp
  omega

theorem clamp_isGreatest (text : String) (offset : Nat) :
    IsGreatest {b | IsBoundary text b ∧ b ≤ min offset text.utf8ByteSize} (clamp text offset) := by
  have boundary := clamp_boundary text offset
  refine ⟨⟨boundary, Nat.le_min.mpr ⟨clamp_le text offset, boundary.le_size⟩⟩, ?_⟩
  rintro other ⟨isBoundary, le⟩
  exact isBoundary.le_clamp (Nat.le_min.mp le).1

theorem IsBoundary.clamp_eq {boundary : Nat} (isBoundary : IsBoundary text boundary) :
    clamp text boundary = boundary :=
  Nat.le_antisymm (clamp_le text boundary) (isBoundary.le_clamp (Nat.le_refl boundary))

theorem clamp_mono (text : String) : Monotone (clamp text) := by
  intro offset offset' le
  exact (clamp_boundary text offset).le_clamp ((clamp_le text offset).trans le)

/-- An offset in the text that is no boundary is inside a character. -/
theorem exists_character_around (within : offset ≤ text.utf8ByteSize)
    (inside : ¬ IsBoundary text offset) :
    ∃ front c back, text.toList = front ++ c :: back ∧ byteLength front < offset ∧
      offset < byteLength front + c.utf8Size := by
  obtain ⟨back, split⟩ := Text.takeBytes_prefix offset text.toList
  have le := clamp_le text offset
  have boundary := clamp_boundary text offset
  have different : clamp text offset ≠ offset := fun same => inside (same ▸ boundary)
  cases back with
  | nil =>
    -- Where all of the text fits, the offset is its end.
    rw [List.append_nil] at split
    have whole : clamp text offset = text.utf8ByteSize := by
      rw [clamp, split, byteLength_toList]
    omega
  | cons c back =>
    refine ⟨takeBytes offset text.toList, c, back, split.symm, Nat.lt_of_le_of_ne le different, ?_⟩
    apply Nat.lt_of_not_le
    intro fits
    have next : IsBoundary text (clamp text offset + c.utf8Size) :=
      isBoundary_iff.mpr ⟨takeBytes offset text.toList ++ [c], back, by simp [split], by simp [clamp]⟩
    have beyond := next.le_clamp fits
    have positive := c.utf8Size_pos
    omega

/-- No character has more than four bytes. -/
theorem le_clamp_add_three (text : String) (offset : Nat) :
    min offset text.utf8ByteSize ≤ clamp text offset + 3 := by
  by_cases boundary : IsBoundary text (min offset text.utf8ByteSize)
  · have reached := boundary.le_clamp (Nat.min_le_left _ _)
    omega
  · obtain ⟨front, c, back, split, after, before⟩ :=
      exists_character_around (Nat.min_le_right _ _) boundary
    have start : IsBoundary text (byteLength front) :=
      isBoundary_iff.mpr ⟨front, c :: back, split, rfl⟩
    have reached : byteLength front ≤ clamp text offset :=
      start.le_clamp (after.le.trans (Nat.min_le_left _ _))
    have size := c.utf8Size_le_four
    omega

/-- The boundaries of a front are those of the text, as far as it reaches. -/
theorem isBoundary_front_iff (split : text.toList = front ++ back) :
    IsBoundary (String.ofList front) offset ↔
      IsBoundary text offset ∧ offset ≤ byteLength front := by
  constructor
  · intro boundary
    have le := boundary.le_size
    rw [utf8ByteSize_ofList] at le
    obtain ⟨before, behind, parts, size⟩ := isBoundary_iff.mp boundary
    rw [String.toList_ofList] at parts
    exact ⟨isBoundary_iff.mpr ⟨before, behind ++ back, by simp [split, parts], size⟩, le⟩
  · rintro ⟨boundary, le⟩
    obtain ⟨before, behind, parts, rfl⟩ := isBoundary_iff.mp boundary
    obtain ⟨piece, longer⟩ := takeBytes_mono le text.toList
    nth_rewrite 1 [parts] at longer
    rw [split, takeBytes_append, takeBytes_append] at longer
    exact isBoundary_iff.mpr ⟨before, piece, by rw [String.toList_ofList, longer], rfl⟩

/-- What lies behind an offset has no say in where it is clamped to. -/
theorem clamp_front (split : text.toList = front ++ back)
    (reaches : min offset text.utf8ByteSize ≤ byteLength front) :
    clamp (String.ofList front) offset = clamp text offset := by
  have size := congrArg byteLength split
  rw [byteLength_toList, byteLength_append] at size
  have limits : min offset (byteLength front) = min offset text.utf8ByteSize := by omega
  have greatest := clamp_isGreatest (String.ofList front) offset
  simp only [isBoundary_front_iff split, utf8ByteSize_ofList, limits, and_assoc] at greatest
  apply greatest.unique
  obtain ⟨⟨boundary, le⟩, upper⟩ := clamp_isGreatest text offset
  refine ⟨⟨boundary, le.trans reaches, le⟩, ?_⟩
  rintro other ⟨isBoundary, -, below⟩
  exact upper ⟨isBoundary, below⟩

/-! ### Boundaries in the encoded text -/

/-- The byte goes on with a character that began before it: its upper two bits are `10`. -/
def continues (byte : UInt8) : Bool := 0x80 ≤ byte && byte < 0xc0

/-- Whether an offset is a boundary, as the bytes tell: it is an end, or the byte there begins a
character. -/
def boundaryIn (bytes : List UInt8) (offset : Nat) : Bool :=
  offset == 0 ||
    match bytes[offset]? with
    | some byte => !continues byte
    | none => offset == bytes.length

theorem continues_ofNat {n : Nat} (byte : n < UInt8.size) :
    continues (UInt8.ofNat n) = true ↔ 0x80 ≤ n ∧ n < 0xc0 := by
  have lower : (0x80 : UInt8) ≤ UInt8.ofNat n ↔ 0x80 ≤ n :=
    UInt8.ofNat_le_iff_le (by decide) byte
  have upper : UInt8.ofNat n < (0xc0 : UInt8) ↔ n < 0xc0 :=
    UInt8.ofNat_lt_iff_lt byte (by decide)
  rw [continues, Bool.and_eq_true, decide_eq_true_iff, decide_eq_true_iff, lower, upper]

/-- Six bits of a character make a byte that goes on with it. -/
theorem continues_six_bits (n : Nat) : continues (UInt8.ofNat (n % 64 + 128)) = true := by
  have size : UInt8.size = 256 := rfl
  rw [continues_ofNat (by omega)]
  omega

/-- Of the bytes of a character all but the first go on with it. -/
theorem utf8EncodeChar_eq_cons (c : Char) :
    ∃ first rest, String.utf8EncodeChar c = first :: rest ∧ continues first = false ∧
      ∀ byte ∈ rest, continues byte = true := by
  have size : UInt8.size = 256 := rfl
  unfold String.utf8EncodeChar
  dsimp only
  -- One case for each number of bytes.
  split_ifs
  all_goals
    refine ⟨_, _, rfl, ?_, by simp only [List.forall_mem_cons, continues_six_bits, true_and,
      List.not_mem_nil, false_implies, implies_true]⟩
    rw [Bool.eq_false_iff, ne_eq, continues_ofNat (by omega)]
    omega

theorem length_flatMap_utf8EncodeChar (cs : List Char) :
    (cs.flatMap String.utf8EncodeChar).length = byteLength cs := by
  induction cs with
  | nil => rfl
  | cons c cs ih =>
    rw [List.flatMap_cons, List.length_append, ih, String.length_utf8EncodeChar, byteLength_cons]

/-- The bytes of a character stand where the characters before it end. -/
theorem getElem?_bytes (split : text.toList = front ++ c :: back) {i : Nat} (inside : i < c.utf8Size) :
    text.toUTF8.data.toList[byteLength front + i]? = (String.utf8EncodeChar c)[i]? := by
  rw [bytes_eq_flatMap, split, List.flatMap_append, List.flatMap_cons,
    ← length_flatMap_utf8EncodeChar front, List.getElem?_append_right (Nat.le_add_right _ _),
    Nat.add_sub_cancel_left, List.getElem?_append_left (by rwa [String.length_utf8EncodeChar])]

theorem length_bytes (text : String) : text.toUTF8.data.toList.length = text.utf8ByteSize := by
  rw [bytes_eq_flatMap, length_flatMap_utf8EncodeChar, byteLength_toList]

/-- Inside a character stand the bytes that go on with it. -/
theorem exists_continuing_byte (split : text.toList = front ++ c :: back)
    (after : byteLength front < offset) (before : offset < byteLength front + c.utf8Size) :
    ∃ byte, text.toUTF8.data.toList[offset]? = some byte ∧ continues byte = true := by
  obtain ⟨first, rest, encoded, -, going⟩ := utf8EncodeChar_eq_cons c
  have size := String.length_utf8EncodeChar c
  rw [encoded, List.length_cons] at size
  obtain ⟨i, rfl⟩ : ∃ i, offset = byteLength front + (i + 1) :=
    ⟨offset - byteLength front - 1, by omega⟩
  have inside : i < rest.length := by omega
  refine ⟨rest[i], ?_, going _ (List.getElem_mem inside)⟩
  rw [getElem?_bytes split (by omega), encoded, List.getElem?_cons_succ,
    List.getElem?_eq_getElem inside]

/-- At a boundary the text ends or a character begins. -/
theorem boundaryIn_of_isBoundary (boundary : IsBoundary text offset) :
    boundaryIn text.toUTF8.data.toList offset = true := by
  obtain ⟨front, back, split, rfl⟩ := isBoundary_iff.mp boundary
  cases back with
  | nil =>
    have size : byteLength front = text.toUTF8.data.toList.length := by
      rw [length_bytes, ← byteLength_toList, split, List.append_nil]
    rw [boundaryIn, List.getElem?_eq_none_iff.mpr size.ge, size, BEq.rfl, Bool.or_true]
  | cons c back =>
    obtain ⟨first, rest, encoded, begins, -⟩ := utf8EncodeChar_eq_cons c
    have byte := getElem?_bytes split c.utf8Size_pos
    rw [Nat.add_zero, encoded, List.getElem?_cons_zero] at byte
    simp only [boundaryIn, byte, begins, Bool.not_false, Bool.or_true]

/-- An offset that is no boundary is past the text or at a byte inside a character. -/
theorem isBoundary_of_boundaryIn (told : boundaryIn text.toUTF8.data.toList offset = true) :
    IsBoundary text offset := by
  by_contra inside
  have positive : offset ≠ 0 := by
    rintro rfl
    exact inside (isBoundary_iff.mpr ⟨[], text.toList, rfl, rfl⟩)
  rw [boundaryIn, beq_false_of_ne positive, Bool.false_or] at told
  rcases Nat.lt_or_ge text.utf8ByteSize offset with past | within
  · rw [List.getElem?_eq_none_iff.mpr (by rw [length_bytes]; exact past.le)] at told
    have ending := eq_of_beq told
    rw [length_bytes] at ending
    omega
  · obtain ⟨front, c, back, split, after, before⟩ := exists_character_around within inside
    obtain ⟨byte, found, going⟩ := exists_continuing_byte split after before
    simp only [found, going] at told
    contradiction

theorem boundaryIn_iff : boundaryIn text.toUTF8.data.toList offset = true ↔ IsBoundary text offset :=
  ⟨isBoundary_of_boundaryIn, boundaryIn_of_isBoundary⟩

/-! ### The way back -/

/-- Goes back, offset by offset, to one that passes the test. Below the first offset there is none. -/
def backTo? (test : Nat → Bool) : Nat → Option Nat
  | 0 => if test 0 then some 0 else none
  | offset + 1 => if test (offset + 1) then some (offset + 1) else backTo? test offset

def clampBytes? (bytes : List UInt8) (offset : Nat) : Option Nat :=
  backTo? (boundaryIn bytes) (min offset bytes.length)

end Text

def Checked.clamp? (text : String) (offset : Nat) : Option Nat :=
  Text.clampBytes? text.toUTF8.data.toList offset

namespace Text

/-- The first offset on the way back that passes is the greatest that does. -/
theorem backTo?_eq_some {test : Nat → Bool} {best : Nat}
    (greatest : IsGreatest {n | test n = true ∧ n ≤ offset} best) :
    backTo? test offset = some best := by
  obtain ⟨⟨passes, le⟩, upper⟩ := greatest
  induction offset with
  | zero =>
    obtain rfl := Nat.le_zero.mp le
    rw [backTo?, if_pos passes]
  | succ offset ih =>
    by_cases here : test (offset + 1) = true
    · have last := upper ⟨here, Nat.le_refl _⟩
      rw [backTo?, if_pos here, Nat.le_antisymm le last]
    · have below : best ≠ offset + 1 := fun same => here (same ▸ passes)
      rw [backTo?, if_neg here]
      refine ih ?_ (by omega)
      rintro other ⟨otherPasses, otherLe⟩
      exact upper ⟨otherPasses, otherLe.trans (Nat.le_succ offset)⟩

theorem clampBytes?_eq (text : String) (offset : Nat) :
    clampBytes? text.toUTF8.data.toList offset = some (clamp text offset) := by
  apply backTo?_eq_some
  simp only [boundaryIn_iff, length_bytes]
  exact clamp_isGreatest text offset

/-! ### The laws of clamping -/

/-- The way back over the bytes of a text ends at a boundary, the greatest that is neither past the
offset nor past the text. So a clamped offset stays where it is, a greater one is clamped no lower, at
most three bytes are given up, and a front of the text that reaches as far is enough. -/
theorem clamp_finds_greatest_boundary (text : String) :
    (∀ offset,
      clampBytes? text.toUTF8.data.toList offset = some (clamp text offset) ∧
      Checked.clamp? text offset = clampBytes? text.toUTF8.data.toList offset ∧
      IsGreatest {b | IsBoundary text b ∧ b ≤ min offset text.utf8ByteSize} (clamp text offset) ∧
      clamp text (clamp text offset) = clamp text offset ∧
      min offset text.utf8ByteSize ≤ clamp text offset + 3 ∧
      ∀ stop, IsBoundary text stop → min offset text.utf8ByteSize ≤ stop →
        ∃ front, Span.slice? ⟨0, stop⟩ text = some front ∧ clamp front offset = clamp text offset) ∧
    Monotone (clamp text) := by
  refine ⟨fun offset => ⟨clampBytes?_eq text offset, rfl, clamp_isGreatest text offset,
    (clamp_boundary text offset).clamp_eq, le_clamp_add_three text offset, ?_⟩, clamp_mono text⟩
  intro stop boundary reaches
  obtain ⟨front, back, split, rfl⟩ := isBoundary_iff.mp boundary
  exact ⟨String.ofList front, Span.slice?_prefix ⟨back, split.symm⟩, clamp_front split reaches⟩

/-- The last byte of a character of four: three are given up, also in the front that ends with the
character, and from the end of the text nothing is. -/
theorem clamp_finds_greatest_boundary_inside_character :
    clampBytes? "a😀é".toUTF8.data.toList 4 = some 1 ∧
      min 4 "a😀é".utf8ByteSize = clamp "a😀é" 4 + 3 ∧
      IsBoundary "a😀é" 5 ∧ Span.slice? ⟨0, 5⟩ "a😀é" = some "a😀" ∧ clamp "a😀" 4 = clamp "a😀é" 4 ∧
      clamp "a😀é" 4 ≤ clamp "a😀é" maxOffset ∧ clamp "a😀é" maxOffset = "a😀é".utf8ByteSize := by
  obtain ⟨laws, rising⟩ := clamp_finds_greatest_boundary "a😀é"
  obtain ⟨found, -, -, -, -, fronts⟩ := laws 4
  have clamped : clamp "a😀é" 4 = 1 := by decide
  have boundary : IsBoundary "a😀é" 5 :=
    isBoundary_iff.mpr ⟨"a😀".toList, ['é'], by decide, by decide⟩
  obtain ⟨front, sliced, same⟩ := fronts 5 boundary (by decide)
  have cut : Span.slice? ⟨0, 5⟩ "a😀é" = some "a😀" := by decide
  obtain rfl := Option.some.inj (sliced.symm.trans cut)
  exact ⟨clamped ▸ found, by decide, boundary, cut, same, rising (by decide), by decide⟩

end Text
end EndpointUri
