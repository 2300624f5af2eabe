import EndpointUri.Pattern.CharSet

/-!
Regular expressions and where they match. An expression takes a set of places in a text to the
places that it can reach from them, so that no choice between ways to match is ever made.
-/
namespace EndpointUri.Pattern

inductive WordLook where
  | boundary
  | within
  | start
  | stop
  | startHalf
  | stopHalf
  deriving DecidableEq, Repr

def WordLook.holds (look : WordLook) (before after : Bool) : Bool :=
  match look with
  | boundary => before != after
  | within => before == after
  | start => !before && after
  | stop => before && !after
  | startHalf => !before
  | stopHalf => !after

/-- A condition on a place that takes up no text. -/
inductive Look where
  | textStart
  | textEnd
  | lineStart
  | lineEnd
  /-- The start and end of a line where carriage return and line feed both end lines, and together
  end one. -/
  | returnLineStart
  | returnLineEnd
  /-- Words are made of the letters, digits and the underscore of ASCII. -/
  | word (look : WordLook)
  /-- Words of any script, which need tables that there are none of. -/
  | scriptWord (look : WordLook)
  deriving DecidableEq, Repr

/-- A place in a text: how many characters stand before it, the last of them, and what follows. -/
structure Place where
  index : Nat
  before : Option Char
  after : List Char
  deriving DecidableEq, Repr

namespace Place

def start (cs : List Char) : Place := ⟨0, none, cs⟩

def step (set : CharSet) (p : Place) : Option Place :=
  match p.after with
  | [] => none
  | c :: cs => if set.has c then some ⟨p.index + 1, some c, cs⟩ else none

def onward (index : Nat) (before : Option Char) : List Char → List Place
  | [] => [⟨index, before, []⟩]
  | c :: cs => ⟨index, before, c :: cs⟩ :: onward (index + 1) (some c) cs

/-- Drops the places that stand where the one before stands. -/
def distinct : List Place → List Place
  | [] => []
  | p :: ps =>
    match distinct ps with
    | [] => [p]
    | q :: qs => if p.index = q.index then q :: qs else p :: q :: qs

def union (ps qs : List Place) : List Place :=
  distinct (ps.merge qs fun p q => p.index ≤ q.index)

def reach (ps : List Place) : Nat := ps.foldl (fun most p => max most p.after.length) 0

end Place

def isWordChar (c : Char) : Bool := c.isAlphanum || c == '_'

def Look.holds (look : Look) (p : Place) : Bool :=
  let after := p.after.head?
  match look with
  | textStart => p.before.isNone
  | textEnd => after.isNone
  | lineStart => p.before.isNone || p.before == some '\n'
  | lineEnd => after.isNone || after == some '\n'
  | returnLineStart =>
    p.before.isNone || p.before == some '\n' || (p.before == some '\r' && after != some '\n')
  | returnLineEnd =>
    after.isNone || after == some '\r' || (after == some '\n' && p.before != some '\r')
  | word look => look.holds (p.before.any isWordChar) (after.any isWordChar)
  | scriptWord _ => false

inductive Regex where
  | empty
  | oneOf (set : CharSet)
  | look (look : Look)
  | seq (first second : Regex)
  | alt (left right : Regex)
  | times (low : Nat) (high : Option Nat) (inner : Regex)
  | capture (inner : Regex)
  deriving DecidableEq, Repr

namespace Regex

def repeated (f : List Place → List Place) : Nat → List Place → List Place
  | 0, ps => ps
  | n + 1, ps => repeated f n (f ps)

/-- Goes at most `n` times from places to places, and stops when nothing new is reached. -/
def closure (f : List Place → List Place) : Nat → List Place → List Place
  | 0, ps => ps
  | n + 1, ps =>
    let more := Place.union ps (f ps)
    if more.length = ps.length then ps else closure f n more

/-- The places reached from `ps` by a match. Copies of an expression beyond one more than the text
has characters take up nothing, so their number does not matter. -/
def advance : Regex → List Place → List Place
  | empty, ps => ps
  | oneOf set, ps => ps.filterMap (Place.step set)
  | look l, ps => ps.filter l.holds
  | seq first second, ps => second.advance (first.advance ps)
  | alt left right, ps => Place.union (left.advance ps) (right.advance ps)
  | times low high inner, ps =>
    let enough := Place.reach ps + 1
    let further := match high with
      | none => enough
      | some most => min (most - low) enough
    closure inner.advance further (repeated inner.advance (min low enough) ps)
  | capture inner, ps => inner.advance ps

def occursIn (r : Regex) (text : String) : Bool :=
  !(r.advance (Place.onward 0 none text.toList)).isEmpty

/-- Whether every match is empty because of how the expression is built. -/
def isZeroWidth : Regex → Bool
  | empty => true
  | oneOf _ => false
  | look _ => true
  | seq first second => first.isZeroWidth && second.isZeroWidth
  | alt left right => left.isZeroWidth && right.isZeroWidth
  | times _ _ inner => inner.isZeroWidth
  | capture inner => inner.isZeroWidth

/-- A repetition, at most once where more often makes no difference. -/
def repetition (low : Nat) (high : Option Nat) (inner : Regex) : Regex :=
  let (low, high) := if inner.isZeroWidth then (min low 1, some (min (high.getD 1) 1)) else (low, high)
  if high = some 0 then empty
  else if low = 1 ∧ high = some 1 then inner
  else times low high inner

/-- Whether no condition needs tables that there are none of. -/
def isSupported : Regex → Bool
  | empty => true
  | oneOf _ => true
  | look (.scriptWord _) => false
  | look _ => true
  | seq first second => first.isSupported && second.isSupported
  | alt left right => left.isSupported && right.isSupported
  | times _ _ inner => inner.isSupported
  | capture inner => inner.isSupported

def stateWeight : Nat := 32

/-- The weight of a set: a state for each byte of a lone character, two for a set inside ASCII, and
nine for one that goes over all lengths of UTF-8. -/
def setWeight (set : CharSet) : Nat :=
  match set.ranges with
  | [(first, last)] =>
    if first = last then stateWeight * (Char.ofNat first).utf8Size
    else if set.isAscii then 2 * stateWeight + 8
    else 9 * stateWeight + 136
  | ranges =>
    if set.isAscii then 2 * stateWeight + 8 * ranges.length
    else 9 * stateWeight + 128 + 8 * ranges.length

/-- The weight of the expression's automaton, in which every copy of a repetition is written
out. -/
def weight : Regex → Nat
  | empty => stateWeight
  | oneOf set => setWeight set
  | look _ => stateWeight
  | seq first second => first.weight + second.weight
  | alt left right => left.weight + right.weight + 2 * stateWeight + 8
  | times low none inner => max low 1 * inner.weight + stateWeight + 8
  | times low (some high) inner =>
    low * inner.weight + (high - low) * (inner.weight + stateWeight + 8) + stateWeight
  | capture inner => inner.weight + 2 * stateWeight

def maxWeight : Nat := 10 * Nat.pow 2 20

@[simp] theorem advance_empty (ps : List Place) : empty.advance ps = ps := rfl

@[simp] theorem advance_seq (r s : Regex) (ps : List Place) :
    (seq r s).advance ps = s.advance (r.advance ps) := rfl

@[simp] theorem advance_capture (r : Regex) (ps : List Place) :
    (capture r).advance ps = r.advance ps := rfl

end Regex
end EndpointUri.Pattern
