/-!
Sets of characters, as closed ranges of code points in any order. `has` is what a set means; the
operations are described by what they do to it.
-/
namespace EndpointUri.Pattern

/-- The ranges may overlap, but none is empty. -/
structure CharSet where
  ranges : List (Nat × Nat)
  deriving DecidableEq, Repr

namespace CharSet

def top : Nat := 0x10ffff

def hasCode (s : CharSet) (n : Nat) : Bool :=
  s.ranges.any fun (first, last) => first ≤ n && n ≤ last

def has (s : CharSet) (c : Char) : Bool := s.hasCode c.toNat

def empty : CharSet := ⟨[]⟩

def all : CharSet := ⟨[(0, top)]⟩

def range (first last : Char) : CharSet := ⟨[(first.toNat, last.toNat)]⟩

def single (c : Char) : CharSet := range c c

def isEmpty (s : CharSet) : Bool := s.ranges.isEmpty

def isAscii (s : CharSet) : Bool := s.ranges.all fun (_, last) => last < 0x80

def union (s t : CharSet) : CharSet := ⟨s.ranges ++ t.ranges⟩

/-- What is left of one range without another, in at most two pieces. -/
def cutRange (cut : Nat × Nat) (r : Nat × Nat) : List (Nat × Nat) :=
  (if r.1 < cut.1 then [(r.1, min r.2 (cut.1 - 1))] else []) ++
    if cut.2 < r.2 then [(max r.1 (cut.2 + 1), r.2)] else []

def without (s t : CharSet) : CharSet :=
  ⟨t.ranges.foldl (fun left cut => left.flatMap (cutRange cut)) s.ranges⟩

def complement (s : CharSet) : CharSet := all.without s

def inter (s t : CharSet) : CharSet := s.without (s.without t)

/-- The characters in exactly one of the sets. -/
def apart (s t : CharSet) : CharSet := (s.without t).union (t.without s)

def raised (distance : Nat) (s : CharSet) : CharSet :=
  ⟨s.ranges.map fun (first, last) => (first + distance, last + distance)⟩

def lowered (distance : Nat) (s : CharSet) : CharSet :=
  ⟨s.ranges.map fun (first, last) => (first - distance, last - distance)⟩

def foldAscii (s : CharSet) : CharSet :=
  (s.union ((s.inter (range 'A' 'Z')).raised 32)).union ((s.inter (range 'a' 'z')).lowered 32)

@[simp] theorem hasCode_empty (n : Nat) : empty.hasCode n = false := rfl

@[simp] theorem hasCode_union (s t : CharSet) (n : Nat) :
    (s.union t).hasCode n = (s.hasCode n || t.hasCode n) := by
  simp [hasCode, union]

theorem any_cutRange (cut r : Nat × Nat) (n : Nat) :
    ((cutRange cut r).any fun (first, last) => first ≤ n && n ≤ last) =
      ((decide (r.1 ≤ n) && decide (n ≤ r.2)) && !(decide (cut.1 ≤ n) && decide (n ≤ cut.2))) := by
  rw [Bool.eq_iff_iff]
  unfold cutRange
  split <;> split <;> simp <;> omega

theorem any_cutAll (cut : Nat × Nat) (ranges : List (Nat × Nat)) (n : Nat) :
    ((ranges.flatMap (cutRange cut)).any fun (first, last) => first ≤ n && n ≤ last) =
      ((ranges.any fun (first, last) => first ≤ n && n ≤ last) &&
        !(decide (cut.1 ≤ n) && decide (n ≤ cut.2))) := by
  induction ranges with
  | nil => rfl
  | cons r ranges ih =>
    rw [List.flatMap_cons, List.any_append, any_cutRange, ih, List.any_cons, Bool.and_or_distrib_right]

@[simp] theorem hasCode_without (s t : CharSet) (n : Nat) :
    (s.without t).hasCode n = (s.hasCode n && !t.hasCode n) := by
  obtain ⟨cuts⟩ := t
  unfold without hasCode
  induction cuts generalizing s with
  | nil => simp
  | cons cut cuts ih =>
    have step := ih ⟨s.ranges.flatMap (cutRange cut)⟩
    simp only [List.foldl_cons] at step ⊢
    rw [step, any_cutAll, List.any_cons, Bool.not_or, Bool.and_assoc]

@[simp] theorem hasCode_inter (s t : CharSet) (n : Nat) :
    (s.inter t).hasCode n = (s.hasCode n && t.hasCode n) := by
  simp only [inter, hasCode_without]
  cases s.hasCode n <;> cases t.hasCode n <;> rfl

end CharSet
end EndpointUri.Pattern
