import EndpointUri.Text.Bytes

/-!
Spans: half-open ranges of byte offsets. A span is plain data and may be reversed or reach past
any text; the operations that would then make no sense give `none`.
-/
namespace EndpointUri

structure Span where
  start : Nat
  stop : Nat
  deriving DecidableEq, Repr

namespace Span

def isEmpty (s : Span) : Bool := s.start == s.stop

/-- Number of bytes covered. A reversed span has none. -/
def length? (s : Span) : Option Nat :=
  if s.start ≤ s.stop then some (s.stop - s.start) else none

/-- The offset is inside, the end excluded. -/
def contains (s : Span) (offset : Nat) : Bool := s.start ≤ offset && offset < s.stop

/-- A cursor right after the last character is still on the span, so the end counts here. -/
def touches (s : Span) (offset : Nat) : Bool := s.start ≤ offset && offset ≤ s.stop

/-- Moves both ends, as long as they stay offsets. -/
def shift? (s : Span) (distance : Nat) : Option Span :=
  if s.start + distance < Text.offsetLimit ∧ s.stop + distance < Text.offsetLimit then
    some ⟨s.start + distance, s.stop + distance⟩
  else none

/-- The text covered, when both ends are boundaries of `text` in order. -/
def slice? (s : Span) (text : String) : Option String := do
  let length ← s.length?
  let (_, back) ← Text.cut? s.start text.toList
  let (covered, _) ← Text.cut? length back
  return String.ofList covered

/-- The text covered, empty when the span does not fit `text`. -/
def slice (s : Span) (text : String) : String := (s.slice? text).getD ""

theorem touches_iff (s : Span) (offset : Nat) :
    s.touches offset = true ↔ s.start ≤ offset ∧ offset ≤ s.stop := by
  simp [touches]

/-- A span from the beginning is touched up to its end. -/
theorem touches_iff_of_start {s : Span} (start : s.start = 0) (offset : Nat) :
    s.touches offset = true ↔ offset ≤ s.stop := by
  rw [touches_iff, start]
  exact and_iff_right (Nat.zero_le offset)

end Span
end EndpointUri
