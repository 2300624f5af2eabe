import EndpointUri.Pattern.Regex

/-!
Regular expressions as they are written, before the flags in force at each point are known.
-/
namespace EndpointUri.Pattern

/-- A character, and whether it is written as a byte of two hexadecimal digits. -/
structure Literal where
  char : Char
  asByte : Bool
  deriving DecidableEq, Repr

inductive Flag where
  | ignoreCase
  | multiLine
  | dotAll
  | lazy
  | unicode
  | verbose
  | crlf
  deriving DecidableEq, Repr

def Flag.ofChar? : Char → Option Flag
  | 'i' => some ignoreCase
  | 'm' => some multiLine
  | 's' => some dotAll
  | 'U' => some lazy
  | 'u' => some unicode
  | 'x' => some verbose
  | 'R' => some crlf
  | _ => none

/-- Flags that are turned on or off. No flag stands in it twice. -/
abbrev FlagChange := List (Flag × Bool)

def FlagChange.apply (change : FlagChange) (flag : Flag) (old : Bool) : Bool :=
  match change.find? (·.1 = flag) with
  | some (_, on) => on
  | none => old

/-- The classes that a letter after a backslash stands for. -/
inductive Shorthand where
  | digit
  | space
  | word
  deriving DecidableEq, Repr

/-- The classes that have a name between colons, all inside ASCII. -/
inductive NamedClass where
  | alnum
  | alpha
  | ascii
  | blank
  | cntrl
  | digit
  | graph
  | lower
  | print
  | punct
  | space
  | upper
  | word
  | xdigit
  deriving DecidableEq, Repr

def NamedClass.ofName? : String → Option NamedClass
  | "alnum" => some alnum
  | "alpha" => some alpha
  | "ascii" => some ascii
  | "blank" => some blank
  | "cntrl" => some cntrl
  | "digit" => some digit
  | "graph" => some graph
  | "lower" => some lower
  | "print" => some print
  | "punct" => some punct
  | "space" => some space
  | "upper" => some upper
  | "word" => some word
  | "xdigit" => some xdigit
  | _ => none

inductive SetOperator where
  | both
  | without
  | apart
  deriving DecidableEq, Repr

inductive SetItem where
  | nothing
  | literal (literal : Literal)
  | range (first last : Literal)
  | named (name : NamedClass) (negated : Bool)
  | shorthand (kind : Shorthand) (negated : Bool)
  | bracket (negated : Bool) (inner : SetItem)
  | union (items : List SetItem)
  | combined (operator : SetOperator) (left right : SetItem)

def SetItem.ofItems : List SetItem → SetItem
  | [] => .nothing
  | [item] => item
  | items => .union items

mutual

def SetItem.depth : SetItem → Nat
  | .bracket _ inner => inner.depth + 1
  | .union items => SetItem.depths items + 1
  | .combined _ left right => max left.depth right.depth + 1
  | _ => 0

def SetItem.depths : List SetItem → Nat
  | [] => 0
  | item :: items => max item.depth (SetItem.depths items)

end

/-- A condition on a place. What the first two mean depends on flags. -/
inductive WrittenLook where
  | caret
  | dollar
  | textStart
  | textEnd
  | word (look : WordLook)
  deriving DecidableEq, Repr

inductive Group where
  | capture (name : Option String)
  | flagged (change : FlagChange)
  deriving DecidableEq, Repr

inductive Written where
  | empty
  /-- A change of flags for the rest of the group. -/
  | flags (change : FlagChange)
  | literal (literal : Literal)
  | dot
  | look (look : WrittenLook)
  | shorthand (kind : Shorthand) (negated : Bool)
  | set (set : SetItem)
  | times (low : Nat) (high : Option Nat) (inner : Written)
  | group (group : Group) (inner : Written)
  | row (items : List Written)
  | choice (branches : List Written)

namespace Written

def ofItems : List Written → Written
  | [] => .empty
  | [item] => item
  | items => .row items

/-- Branches to choose from, of which there is at least one. -/
def ofBranches : List Written → Written
  | [branch] => branch
  | branches => .choice branches

mutual

def depth : Written → Nat
  | .set item => item.depth
  | .times _ _ inner => inner.depth + 1
  | .group _ inner => inner.depth + 1
  | .row items => depths items + 1
  | .choice branches => depths branches + 1
  | _ => 0

def depths : List Written → Nat
  | [] => 0
  | item :: items => max item.depth (depths items)

end

mutual

def names : Written → List String
  | .times _ _ inner => inner.names
  | .group (.capture (some name)) inner => name :: inner.names
  | .group _ inner => inner.names
  | .row items => namesOfAll items
  | .choice branches => namesOfAll branches
  | _ => []

def namesOfAll : List Written → List String
  | [] => []
  | item :: items => item.names ++ namesOfAll items

end

end Written
end EndpointUri.Pattern
