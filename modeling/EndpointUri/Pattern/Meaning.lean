import EndpointUri.Pattern.Reader

/-!
What written expressions mean. There are no tables for letters and words beyond ASCII, so an
expression that asks for them has no meaning. Without the Unicode flag only ASCII is known, and a
set that would go beyond it has no meaning either.
-/
namespace EndpointUri.Pattern

structure Mode where
  ignoreCase : Bool
  multiLine : Bool
  dotAll : Bool
  crlf : Bool
  unicode : Bool
  deriving DecidableEq, Repr

namespace Mode

def initial : Mode := ⟨false, false, false, false, true⟩

def change (mode : Mode) (change : FlagChange) : Mode where
  ignoreCase := change.apply .ignoreCase mode.ignoreCase
  multiLine := change.apply .multiLine mode.multiLine
  dotAll := change.apply .dotAll mode.dotAll
  crlf := change.apply .crlf mode.crlf
  unicode := change.apply .unicode mode.unicode

/-- The set with all cases of its characters, if they are ignored. Beyond ASCII they are not
known. -/
def fold? (mode : Mode) (set : CharSet) : Option CharSet :=
  if !mode.ignoreCase then some set
  else if !mode.unicode then some set.foldAscii
  else if set.isEmpty then some set
  else none

/-- A set or its complement. Cases are taken in first, so the complement has none of them. -/
def negate? (mode : Mode) (negated : Bool) (set : CharSet) : Option CharSet := do
  let set ← mode.fold? set
  if !negated then return set
  else if mode.unicode then return set.complement
  else none

end Mode

def NamedClass.set : NamedClass → CharSet
  | alnum => ⟨[(0x30, 0x39), (0x41, 0x5a), (0x61, 0x7a)]⟩
  | alpha => ⟨[(0x41, 0x5a), (0x61, 0x7a)]⟩
  | ascii => ⟨[(0x00, 0x7f)]⟩
  | blank => ⟨[(0x09, 0x09), (0x20, 0x20)]⟩
  | cntrl => ⟨[(0x00, 0x1f), (0x7f, 0x7f)]⟩
  | digit => ⟨[(0x30, 0x39)]⟩
  | graph => ⟨[(0x21, 0x7e)]⟩
  | lower => ⟨[(0x61, 0x7a)]⟩
  | print => ⟨[(0x20, 0x7e)]⟩
  | punct => ⟨[(0x21, 0x2f), (0x3a, 0x40), (0x5b, 0x60), (0x7b, 0x7e)]⟩
  | space => ⟨[(0x09, 0x0d), (0x20, 0x20)]⟩
  | upper => ⟨[(0x41, 0x5a)]⟩
  | word => ⟨[(0x30, 0x39), (0x41, 0x5a), (0x5f, 0x5f), (0x61, 0x7a)]⟩
  | xdigit => ⟨[(0x30, 0x39), (0x41, 0x46), (0x61, 0x66)]⟩

def Shorthand.set : Shorthand → CharSet
  | digit => NamedClass.digit.set
  | space => NamedClass.space.set
  | word => NamedClass.word.set

/-- A shorthand has a meaning only inside ASCII. -/
def Shorthand.meaning (mode : Mode) (kind : Shorthand) (negated : Bool) : Option CharSet :=
  if mode.unicode || negated then none else some kind.set

def SetOperator.combine : SetOperator → CharSet → CharSet → CharSet
  | both => CharSet.inter
  | without => CharSet.without
  | apart => CharSet.apart

def Literal.inSet (mode : Mode) (l : Literal) : Bool := mode.unicode || l.char.toNat < 0x80

mutual

def SetItem.meaning (mode : Mode) : SetItem → Option CharSet
  | .nothing => some .empty
  | .literal l => if l.inSet mode then some (.single l.char) else none
  | .range first last =>
    if first.inSet mode && last.inSet mode then some (.range first.char last.char) else none
  | .named name negated => mode.negate? negated name.set
  | .shorthand kind negated => kind.meaning mode negated
  | .bracket negated inner => do mode.negate? negated (← inner.meaning mode)
  | .union items => SetItem.meanings mode items
  | .combined operator left right => do
    let left ← left.meaning mode
    let right ← right.meaning mode
    return operator.combine (← mode.fold? left) (← mode.fold? right)

def SetItem.meanings (mode : Mode) : List SetItem → Option CharSet
  | [] => some .empty
  | item :: items => do return (← item.meaning mode).union (← SetItem.meanings mode items)

end

/-- A byte beyond ASCII is no character, and in Unicode a character stands for one of many cases
that are not known. -/
def Literal.meaning (mode : Mode) (l : Literal) : Option CharSet :=
  if !mode.unicode && l.asByte && 0x80 ≤ l.char.toNat then none
  else mode.fold? (.single l.char)

/-- Any character, but as a rule none that ends a line. -/
def Mode.dot (mode : Mode) : Option CharSet :=
  if !mode.unicode then none
  else if mode.dotAll then some .all
  else if mode.crlf then some (CharSet.single '\n' |>.union (.single '\r')).complement
  else some (CharSet.single '\n').complement

def WrittenLook.meaning (mode : Mode) : WrittenLook → Look
  | caret =>
    if !mode.multiLine then .textStart else if mode.crlf then .returnLineStart else .lineStart
  | dollar =>
    if !mode.multiLine then .textEnd else if mode.crlf then .returnLineEnd else .lineEnd
  | textStart => .textStart
  | textEnd => .textEnd
  | word look => if mode.unicode then .scriptWord look else .word look

mutual

/-- The meaning of an expression, and the flags after it. A group keeps its changes of flags to
itself; branches hand theirs on. -/
def Written.meaning (mode : Mode) : Written → Option (Regex × Mode)
  | .empty => some (.empty, mode)
  | .flags change => some (.empty, mode.change change)
  | .literal l => do return (.oneOf (← l.meaning mode), mode)
  | .dot => do return (.oneOf (← mode.dot), mode)
  | .look condition => some (.look (condition.meaning mode), mode)
  | .shorthand kind negated => do return (.oneOf (← kind.meaning mode negated), mode)
  | .set item => do return (.oneOf (← item.meaning mode), mode)
  | .times low high inner => do
    let (inner, mode) ← inner.meaning mode
    return (.repetition low high inner, mode)
  | .group (.capture _) inner => do
    let (inner, _) ← inner.meaning mode
    return (.capture inner, mode)
  | .group (.flagged change) inner => do
    let (inner, _) ← inner.meaning (mode.change change)
    return (inner, mode)
  | .row items => Written.rowMeaning mode items
  | .choice branches => Written.choiceMeaning mode branches

def Written.rowMeaning (mode : Mode) : List Written → Option (Regex × Mode)
  | [] => some (.empty, mode)
  | [item] => item.meaning mode
  | item :: items => do
    let (first, mode) ← item.meaning mode
    let (second, mode) ← Written.rowMeaning mode items
    return (.seq first second, mode)

def Written.choiceMeaning (mode : Mode) : List Written → Option (Regex × Mode)
  | [] => some (.empty, mode)
  | [branch] => branch.meaning mode
  | branch :: branches => do
    let (left, mode) ← branch.meaning mode
    let (right, mode) ← Written.choiceMeaning mode branches
    return (.alt left right, mode)

end

/-- The expression that a text stands for, if it stands for one that can be used. -/
def Regex.ofText? (text : String) : Option Regex := do
  let (regex, _) ← (← Written.read text).meaning .initial
  if regex.isSupported && regex.weight ≤ maxWeight then return regex else none

end EndpointUri.Pattern
