import EndpointUri.Text.Span

/-!
Editor positions. An editor counts lines, ended by a line feed only, and within a line the
UTF-16 code units before the cursor.
-/
namespace EndpointUri

structure Position where
  line : Nat
  character : Nat
  deriving DecidableEq, Repr

structure Range where
  start : Position
  stop : Position
  deriving DecidableEq, Repr

namespace Text

/-- Code units of a character in UTF-16: two outside the basic plane. -/
def units16 (c : Char) : Nat := if c.toNat < 0x10000 then 1 else 2

end Text

namespace Position

def origin : Position := ⟨0, 0⟩

def advance (p : Position) (c : Char) : Position :=
  if c = '\n' then ⟨p.line + 1, 0⟩ else ⟨p.line, p.character + Text.units16 c⟩

def after (cs : List Char) : Position := cs.foldl advance origin

theorem after_append (xs ys : List Char) : after (xs ++ ys) = ys.foldl advance (after xs) := by
  simp [after, List.foldl_append]

/-- The position of a byte offset; one inside a character or past the end is clamped first. A line
index counts in words of 32 bits and agrees with it on documents of less than `UInt32.size` bytes. -/
def ofOffset (document : String) (offset : Nat) : Position :=
  after (Text.takeBytes offset document.toList)

end Position

def Range.ofSpan (document : String) (s : Span) : Range :=
  ⟨Position.ofOffset document s.start, Position.ofOffset document s.stop⟩

end EndpointUri
