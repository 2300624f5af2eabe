import EndpointUri.Text.Span

/-!
Boundaries of a text and what stands between them. A boundary is a valid position of the encoded
text; cuts, slices and placed characters are all described by splitting the list of characters.
-/
namespace EndpointUri
namespace Text

theorem utf8ByteSize_ofList (cs : List Char) : (String.ofList cs).utf8ByteSize = byteLength cs := by
  induction cs with
  | nil => simp
  | cons c cs ih =>
    have split : String.ofList (c :: cs) = String.singleton c ++ String.ofList cs := by
      apply String.toList_injective
      simp
    rw [split, String.utf8ByteSize_append, String.utf8ByteSize_singleton, ih, byteLength_cons]

theorem byteLength_toList (text : String) : byteLength text.toList = text.utf8ByteSize := by
  rw [← utf8ByteSize_ofList, String.ofList_toList]

/-- The encoded text is its characters, each encoded by itself. -/
theorem bytes_eq_flatMap (text : String) :
    text.toUTF8.data.toList = text.toList.flatMap String.utf8EncodeChar := by
  rw [String.toUTF8_eq_toByteArray, ← String.utf8Encode_toList, List.utf8Encode,
    List.toList_data_toByteArray]

/-- The offset lies between two characters, or at an end of the text. -/
def IsBoundary (text : String) (offset : Nat) : Prop := (⟨offset⟩ : String.Pos.Raw).IsValid text

theorem isBoundary_iff {text : String} {offset : Nat} :
    IsBoundary text offset ↔
      ∃ front back, text.toList = front ++ back ∧ byteLength front = offset := by
  unfold IsBoundary
  rw [String.Pos.Raw.isValid_iff_exists_append]
  constructor
  · rintro ⟨front, back, rfl, offsetEq⟩
    refine ⟨front.toList, back.toList, String.toList_append, ?_⟩
    rw [byteLength_toList]
    exact (congrArg String.Pos.Raw.byteIdx offsetEq).symm
  · rintro ⟨front, back, split, rfl⟩
    refine ⟨String.ofList front, String.ofList back, ?_, ?_⟩
    · apply String.toList_injective
      simp [split]
    · rw [String.Pos.Raw.ext_iff]
      exact (utf8ByteSize_ofList front).symm

theorem cut?_append (front back : List Char) :
    cut? (byteLength front) (front ++ back) = some (front, back) := by
  induction front with
  | nil => simp [cut?]
  | cons c cs ih =>
    have positive := c.utf8Size_pos
    obtain ⟨n, size⟩ : ∃ n, byteLength (c :: cs) = n + 1 :=
      ⟨c.utf8Size + byteLength cs - 1, by rw [byteLength_cons]; omega⟩
    have fits : c.utf8Size ≤ n + 1 := by rw [← size, byteLength_cons]; omega
    have rest : n + 1 - c.utf8Size = byteLength cs := by rw [← size, byteLength_cons]; omega
    rw [size, List.cons_append, cut?, if_pos fits, rest, ih]
    rfl

theorem cut?_eq_some_iff {n : Nat} {cs front back : List Char} :
    cut? n cs = some (front, back) ↔ front ++ back = cs ∧ byteLength front = n := by
  refine ⟨cut?_eq_some, ?_⟩
  rintro ⟨rfl, rfl⟩
  exact cut?_append front back

/-- Two splits of one text at the same offset are the same split. -/
theorem split_unique {front back front' back' : List Char} (same : front ++ back = front' ++ back')
    (size : byteLength front = byteLength front') : front = front' ∧ back = back' := by
  have left := cut?_append front back
  rw [same, size, cut?_append front' back'] at left
  simpa [eq_comm] using left

/-- The characters stand in the text from a byte offset on. -/
def Stands (text : String) (offset : Nat) (cs : List Char) : Prop :=
  ∃ front back, text.toList = front ++ cs ++ back ∧ byteLength front = offset

theorem stands_self (text : String) : Stands text 0 text.toList := ⟨[], [], by simp, rfl⟩

theorem Stands.left {text : String} {offset : Nat} {xs ys : List Char}
    (stands : Stands text offset (xs ++ ys)) : Stands text offset xs := by
  obtain ⟨front, back, split, size⟩ := stands
  exact ⟨front, ys ++ back, by simp [split], size⟩

theorem Stands.right {text : String} {offset : Nat} {xs ys : List Char}
    (stands : Stands text offset (xs ++ ys)) : Stands text (offset + byteLength xs) ys := by
  obtain ⟨front, back, split, size⟩ := stands
  exact ⟨front ++ xs, back, by simp [split], by simp [size]⟩

/-- Characters that stand one after the other stand together. -/
theorem Stands.append {text : String} {offset : Nat} {xs ys : List Char}
    (first : Stands text offset xs) (second : Stands text (offset + byteLength xs) ys) :
    Stands text offset (xs ++ ys) := by
  obtain ⟨front, back, split, size⟩ := first
  obtain ⟨front', back', split', size'⟩ := second
  have same : (front ++ xs) ++ back = front' ++ (ys ++ back') := by
    rw [← split, split', List.append_assoc]
  have sizes : byteLength (front ++ xs) = byteLength front' := by
    rw [byteLength_append, size, size']
  obtain ⟨-, rfl⟩ := split_unique same sizes
  exact ⟨front, back', by simp [split], size⟩

theorem Stands.start_boundary {text : String} {offset : Nat} {cs : List Char}
    (stands : Stands text offset cs) : IsBoundary text offset := by
  obtain ⟨front, back, split, size⟩ := stands
  exact isBoundary_iff.mpr ⟨front, cs ++ back, by simp [split], size⟩

theorem Stands.stop_boundary {text : String} {offset : Nat} {cs : List Char}
    (stands : Stands text offset cs) : IsBoundary text (offset + byteLength cs) := by
  obtain ⟨front, back, split, size⟩ := stands
  exact isBoundary_iff.mpr ⟨front ++ cs, back, split, by simp [size]⟩

theorem IsBoundary.le_size {text : String} {offset : Nat} (boundary : IsBoundary text offset) :
    offset ≤ text.utf8ByteSize :=
  String.Pos.Raw.IsValid.le_utf8ByteSize boundary

/-- What stands at the start is how the text begins. -/
theorem Stands.toList_eq {text : String} {cs : List Char} (stands : Stands text 0 cs) :
    ∃ back, text.toList = cs ++ back := by
  obtain ⟨front, back, split, start⟩ := stands
  have atStart : front ++ (cs ++ back) = [] ++ text.toList := by simp [split]
  exact ⟨back, (split_unique atStart start).2.symm⟩

/-- What stands at the start and reaches the end is the whole text. -/
theorem Stands.eq_toList {text : String} {cs : List Char} (stands : Stands text 0 cs)
    (size : byteLength cs = text.utf8ByteSize) : cs = text.toList := by
  obtain ⟨back, whole⟩ := stands.toList_eq
  have toEnd : cs ++ back = text.toList ++ [] := by rw [whole, List.append_nil]
  exact (split_unique toEnd (by rw [size, byteLength_toList])).1

end Text

namespace Span

/-- The span lies in the text: its ends are in order and between characters. -/
structure Fits (s : Span) (text : String) : Prop where
  ordered : s.start ≤ s.stop
  bounded : s.stop ≤ text.utf8ByteSize
  startBoundary : Text.IsBoundary text s.start
  stopBoundary : Text.IsBoundary text s.stop

/-- A slice is what stands at the start of the span and is as long as the span. -/
theorem slice?_eq_some_iff {s : Span} {text piece : String} :
    s.slice? text = some piece ↔
      Text.Stands text s.start piece.toList ∧
        s.stop = s.start + Text.byteLength piece.toList := by
  constructor
  · intro sliced
    simp only [slice?, length?, Option.bind_eq_bind, Option.bind_eq_some_iff,
      Option.ite_none_right_eq_some, Option.some.injEq, Option.pure_def, Prod.exists] at sliced
    obtain ⟨length, ⟨ordered, rfl⟩, front, rest, outer, covered, back, inner, rfl⟩ := sliced
    obtain ⟨split, size⟩ := Text.cut?_eq_some outer
    obtain ⟨rfl, innerSize⟩ := Text.cut?_eq_some inner
    rw [String.toList_ofList]
    exact ⟨⟨front, back, by rw [← split, List.append_assoc], size⟩, by omega⟩
  · rintro ⟨⟨front, back, split, size⟩, stop⟩
    have outer : Text.cut? s.start text.toList = some (front, piece.toList ++ back) :=
      Text.cut?_eq_some_iff.mpr ⟨by rw [split, List.append_assoc], size⟩
    have ordered : s.start ≤ s.stop := by omega
    have length : s.stop - s.start = Text.byteLength piece.toList := by omega
    simp [slice?, length?, ordered, length, outer, Text.cut?_append]

theorem slice?_of_stands {text : String} {offset : Nat} {cs : List Char}
    (stands : Text.Stands text offset cs) :
    slice? ⟨offset, offset + Text.byteLength cs⟩ text = some (String.ofList cs) := by
  rw [slice?_eq_some_iff, String.toList_ofList]
  exact ⟨stands, rfl⟩

theorem slice?_prefix {text : String} {front : List Char} (isPrefix : front <+: text.toList) :
    slice? ⟨0, Text.byteLength front⟩ text = some (String.ofList front) := by
  obtain ⟨back, split⟩ := isPrefix
  have stands : Text.Stands text 0 front := ⟨[], back, by simp [split], rfl⟩
  simpa using slice?_of_stands stands

theorem fits_of_stands {text : String} {offset : Nat} {cs : List Char}
    (stands : Text.Stands text offset cs) :
    Fits ⟨offset, offset + Text.byteLength cs⟩ text :=
  ⟨Nat.le_add_right _ _, stands.stop_boundary.le_size, stands.start_boundary, stands.stop_boundary⟩

theorem fits_of_slice? {s : Span} {text piece : String} (sliced : s.slice? text = some piece) :
    s.Fits text := by
  obtain ⟨stands, stop⟩ := slice?_eq_some_iff.mp sliced
  have fits := fits_of_stands stands
  rwa [← stop] at fits

end Span
end EndpointUri
