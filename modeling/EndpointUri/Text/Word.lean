/-!
Words and blanks: comparison that ignores the case of ASCII letters, and of those only; white space,
as the `White_Space` property of Unicode has it; and the pieces between marks.
-/
namespace EndpointUri.Text

/-- `Char.toLower` changes ASCII capitals and nothing else. -/
def foldCase (s : String) : List Char := s.toList.map Char.toLower

def sameWord (a b : String) : Bool := foldCase a == foldCase b

def isBlank (c : Char) : Bool :=
  let n := c.toNat
  (0x9 ≤ n && n ≤ 0xd) || n == 0x20 || n == 0x85 || n == 0xa0 || n == 0x1680 ||
    (0x2000 ≤ n && n ≤ 0x200a) || n == 0x2028 || n == 0x2029 || n == 0x202f || n == 0x205f ||
    n == 0x3000

/-- The empty text counts. -/
def allBlank (s : String) : Bool := s.toList.all isBlank

def blanks : List Nat :=
  List.range' 0x9 5 ++ [0x20, 0x85, 0xa0, 0x1680] ++ List.range' 0x2000 11 ++
    [0x2028, 0x2029, 0x202f, 0x205f, 0x3000]

theorem isBlank_iff {c : Char} : isBlank c = true ↔ c.toNat ∈ blanks := by
  simp only [isBlank, blanks, Bool.or_eq_true, Bool.and_eq_true, decide_eq_true_eq, beq_iff_eq,
    List.mem_append, List.mem_range'_1, List.mem_cons, List.not_mem_nil, or_false]
  omega

theorem allBlank_iff {s : String} : allBlank s = true ↔ ∀ c ∈ s.toList, c.toNat ∈ blanks := by
  simp only [allBlank, List.all_eq_true, isBlank_iff]

/-- Empty pieces are kept, so there is one more than there are marks. -/
def pieces (mark : Char) : List Char → List (List Char)
  | [] => [[]]
  | c :: cs =>
    if c = mark then [] :: pieces mark cs
    else match pieces mark cs with
      | first :: rest => (c :: first) :: rest
      | [] => [[c]]

def trim (cs : List Char) : List Char :=
  ((cs.dropWhile isBlank).reverse.dropWhile isBlank).reverse

end EndpointUri.Text
