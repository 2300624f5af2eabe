import EndpointUri.Pattern.Written
import EndpointUri.Text.Alphabetic
import EndpointUri.Text.Word

/-!
Reading regular expressions. In verbose mode white space and comments may stand almost anywhere.
-/
namespace EndpointUri.Pattern

/-- Skips white space and comments; `comment` says that one is going on. -/
def skipVerbose (comment : Bool) : List Char → List Char
  | [] => []
  | c :: cs =>
    if comment then skipVerbose (c != '\n') cs
    else if Text.isBlank c then skipVerbose false cs
    else if c = '#' then skipVerbose true cs
    else c :: cs

def skipSpace (verbose : Bool) (cs : List Char) : List Char :=
  if verbose then skipVerbose false cs else cs

def peekVerbose (comment : Bool) : List Char → Option Char
  | [] => none
  | c :: cs =>
    if Text.isBlank c then peekVerbose comment cs
    else if c = '#' ∧ !comment then peekVerbose true cs
    else some c

/-- The character that decides how a hyphen in front of `cs` is meant. -/
def peekSpace (verbose : Bool) (cs : List Char) : Option Char :=
  if verbose then (peekVerbose false cs).or cs.head? else cs.head?

/-- Reads characters of a kind and the space after each of them. -/
def readWhile (kind : Char → Bool) (verbose : Bool) : Nat → List Char → List Char × List Char
  | fuel + 1, c :: cs =>
    if kind c then
      let (more, rest) := readWhile kind verbose fuel (skipSpace verbose cs)
      (c :: more, rest)
    else ([], c :: cs)
  | _, cs => ([], cs)

def countLimit : Nat := UInt32.size

/-- A count. White space may stand around it in any mode. -/
def readCount (verbose : Bool) (cs : List Char) : Option (Nat × List Char) :=
  let cs := cs.dropWhile Text.isBlank
  let (digits, rest) := readWhile Char.isDigit verbose cs.length cs
  let value := digits.foldl (fun n d => 10 * n + (d.toNat - '0'.toNat)) 0
  if digits.isEmpty || countLimit ≤ value then none
  else some (value, (readWhile Text.isBlank verbose rest.length rest).2)

def hexDigit? (c : Char) : Option Nat :=
  if c.isDigit then some (c.toNat - '0'.toNat)
  else if 'a' ≤ c ∧ c ≤ 'f' then some (c.toNat - 'a'.toNat + 10)
  else if 'A' ≤ c ∧ c ≤ 'F' then some (c.toNat - 'A'.toNat + 10)
  else none

/-- The character with a code point in hexadecimal digits, of which there is at least one. -/
def charOfHex? (digits : List Char) : Option Char :=
  let n := digits.foldl (fun n d => 16 * n + (hexDigit? d).getD 0) 0
  if digits.isEmpty then none
  else if h : n.isValidChar then some (Char.ofNatAux n h)
  else none

def readHexDigits (verbose : Bool) : Nat → List Char → Option (List Char × List Char)
  | 0, cs => some ([], cs)
  | n + 1, c :: cs =>
    if (hexDigit? c).isSome then
      (readHexDigits verbose n (skipSpace verbose cs)).map fun (more, rest) => (c :: more, rest)
    else none
  | _ + 1, [] => none

/-- A character by its code point: `width` digits, or any number of them in braces. -/
def readHex (verbose : Bool) (width : Nat) (cs : List Char) : Option (Literal × List Char) :=
  match skipSpace verbose cs with
  | '\x7b' :: rest =>
    let rest := skipSpace verbose rest
    match readWhile (fun c => (hexDigit? c).isSome) verbose rest.length rest with
    | (digits, '\x7d' :: rest) =>
      (charOfHex? digits).map fun c => (⟨c, false⟩, skipSpace verbose rest)
    | _ => none
  | rest => do
    let (digits, rest) ← readHexDigits verbose width rest
    let c ← charOfHex? digits
    return (⟨c, width = 2⟩, rest)

/-- A punctuation mark or control of ASCII stands for itself after a backslash; angle brackets have
a meaning of their own there. -/
def isEscapable (c : Char) : Bool :=
  c.toNat < 0x80 && !c.isAlphanum && c != '<' && c != '>'

def wordLook? : String → Option WordLook
  | "start" => some .start
  | "end" => some .stop
  | "start-half" => some .startHalf
  | "end-half" => some .stopHalf
  | _ => none

/-- A word boundary, whose kind may follow in braces. Braces with anything but a letter or hyphen in
front are left for a count. -/
def readBoundary (verbose : Bool) (cs : List Char) : Option (Written × List Char) :=
  let isNameChar (c : Char) : Bool := c.isAlpha || c == '-'
  match cs with
  | '\x7b' :: rest =>
    match skipSpace verbose rest with
    | [] => none
    | c :: rest =>
      if isNameChar c then
        match readWhile isNameChar verbose (rest.length + 1) (c :: rest) with
        | (name, '\x7d' :: rest) =>
          (wordLook? (String.ofList name)).map fun look => (.look (.word look), rest)
        | _ => none
      else some (.look (.word .boundary), cs)
  | _ => some (.look (.word .boundary), cs)

/-- What follows a backslash. Classes by property need tables that there are none of. -/
def readEscape (verbose : Bool) : List Char → Option (Written × List Char)
  | [] => none
  | c :: cs =>
    let special (c : Char) : Option (Written × List Char) := some (.literal ⟨c, false⟩, cs)
    match c with
    | 'x' => (readHex verbose 2 cs).map fun (l, rest) => (.literal l, rest)
    | 'u' => (readHex verbose 4 cs).map fun (l, rest) => (.literal l, rest)
    | 'U' => (readHex verbose 8 cs).map fun (l, rest) => (.literal l, rest)
    | 'd' => some (.shorthand .digit false, cs)
    | 'D' => some (.shorthand .digit true, cs)
    | 's' => some (.shorthand .space false, cs)
    | 'S' => some (.shorthand .space true, cs)
    | 'w' => some (.shorthand .word false, cs)
    | 'W' => some (.shorthand .word true, cs)
    | 'a' => special '\x07'
    | 'f' => special '\x0c'
    | 't' => special '\t'
    | 'n' => special '\n'
    | 'r' => special '\r'
    | 'v' => special '\x0b'
    | 'A' => some (.look .textStart, cs)
    | 'z' => some (.look .textEnd, cs)
    | 'b' => readBoundary verbose cs
    | 'B' => some (.look (.word .within), cs)
    | '<' => some (.look (.word .start), cs)
    | '>' => some (.look (.word .stop), cs)
    | c => if isEscapable c then special c else none

def readSetAtom (verbose : Bool) : List Char → Option (Written × List Char)
  | [] => none
  | '\\' :: cs => readEscape verbose cs
  | c :: cs => some (.literal ⟨c, false⟩, cs)

/-- An atom that is no end of a range. -/
def SetItem.ofAtom? : Written → Option SetItem
  | .literal l => some (.literal l)
  | .shorthand kind negated => some (.shorthand kind negated)
  | _ => none

/-- A range goes up. -/
def SetItem.ofEnds? : Written → Written → Option SetItem
  | .literal first, .literal last =>
    if first.char ≤ last.char then some (.range first last) else none
  | _, _ => none

/-- A range or a single item. A hyphen before a bracket or another hyphen makes no range. -/
def readSetRange (verbose : Bool) (cs : List Char) : Option (SetItem × List Char) := do
  let (first, rest) ← readSetAtom verbose cs
  match skipSpace verbose rest with
  | '-' :: more =>
    let next := peekSpace verbose more
    if next = some ']' ∨ next = some '-' then return (← SetItem.ofAtom? first, '-' :: more)
    else
      let (last, rest) ← readSetAtom verbose (skipSpace verbose more)
      return (← SetItem.ofEnds? first last, rest)
  | rest => return (← SetItem.ofAtom? first, rest)

/-- A class by its name, after the opening bracket: `:alpha:]`, or `:^alpha:]` for the others. -/
def readNamedClass (cs : List Char) : Option (SetItem × List Char) :=
  match cs with
  | ':' :: rest =>
    let (negated, rest) := match rest with
      | '^' :: rest => (true, rest)
      | rest => (false, rest)
    match rest.span (· != ':') with
    | (name, ':' :: ']' :: rest) =>
      (NamedClass.ofName? (String.ofList name)).map fun name => (.named name negated, rest)
    | _ => none
  | _ => none

/-- Hyphens in front of a set stand for themselves. -/
def readHyphens (verbose : Bool) : Nat → List Char → List SetItem × List Char
  | fuel + 1, '-' :: cs =>
    let (more, rest) := readHyphens verbose fuel (skipSpace verbose cs)
    (.literal ⟨'-', false⟩ :: more, rest)
  | _, cs => ([], cs)

/-- A set so far: the operand that is being read, and the operator before it with its left side. -/
def SetItem.join (pending : Option (SetOperator × SetItem)) (items : List SetItem) : SetItem :=
  let item := SetItem.ofItems items.reverse
  match pending with
  | some (operator, left) => .combined operator left item
  | none => item

mutual

/-- A set after its opening bracket. A closing bracket that comes first stands for itself. -/
def readBracket (fuel : Nat) (verbose : Bool) (cs : List Char) : Option (SetItem × List Char) :=
  match fuel with
  | 0 => none
  | fuel + 1 => do
    let (negated, rest) := match skipSpace verbose cs with
      | '^' :: rest => (true, skipSpace verbose rest)
      | rest => (false, rest)
    let (items, rest) := match readHyphens verbose rest.length rest with
      | ([], ']' :: rest) => ([SetItem.literal ⟨']', false⟩], rest)
      | (items, rest) => (items, rest)
    let (inner, rest) ← readSet fuel verbose none items.reverse rest
    return (.bracket negated inner, rest)

/-- The rest of a set. Operators are of one rank and group to the left. -/
def readSet (fuel : Nat) (verbose : Bool) (pending : Option (SetOperator × SetItem))
    (items : List SetItem) (cs : List Char) : Option (SetItem × List Char) :=
  match fuel with
  | 0 => none
  | fuel + 1 =>
    match skipSpace verbose cs with
    | [] => none
    | ']' :: rest => some (SetItem.join pending items, rest)
    | '[' :: rest =>
      match readNamedClass rest with
      | some (item, rest) => readSet fuel verbose pending (item :: items) rest
      | none => do
        let (item, rest) ← readBracket fuel verbose rest
        readSet fuel verbose pending (item :: items) rest
    | '&' :: '&' :: rest =>
      readSet fuel verbose (some (.both, SetItem.join pending items)) [] rest
    | '-' :: '-' :: rest =>
      readSet fuel verbose (some (.without, SetItem.join pending items)) [] rest
    | '~' :: '~' :: rest =>
      readSet fuel verbose (some (.apart, SetItem.join pending items)) [] rest
    | rest => do
      let (item, rest) ← readSetRange verbose rest
      readSet fuel verbose pending (item :: items) rest

end

/-- Flags up to the colon or parenthesis after them, which is left. A hyphen turns the rest off. -/
def readFlags (on dangling : Bool) (change : FlagChange) :
    List Char → Option (FlagChange × List Char)
  | [] => none
  | c :: cs =>
    if c = ':' ∨ c = ')' then if dangling then none else some (change.reverse, c :: cs)
    else if c = '-' then if on then readFlags false true change cs else none
    else do
      let flag ← Flag.ofChar? c
      if change.any (·.1 = flag) then none else readFlags on false ((flag, on) :: change) cs

def startsName (c : Char) : Bool := c == '_' || Text.isAlphabetic c

def continuesName (c : Char) : Bool :=
  startsName c || c == '.' || c == '[' || c == ']' || Text.isNumeric c

def readName (cs : List Char) : Option (String × List Char) :=
  match cs.span (· != '>') with
  | (c :: name, '>' :: rest) =>
    if startsName c && name.all continuesName then some (String.ofList (c :: name), rest) else none
  | _ => none

/-- What an opening parenthesis starts: a group, or a change of flags that is already closed. -/
def readGroupHead (verbose : Bool) (cs : List Char) : Option (Sum FlagChange Group × List Char) :=
  match skipSpace verbose cs with
  | '?' :: 'P' :: '<' :: rest | '?' :: '<' :: rest =>
    (readName rest).map fun (name, rest) => (.inr (.capture (some name)), rest)
  | '?' :: rest =>
    match readFlags true false [] rest with
    | some (change, ':' :: rest) => some (.inr (.flagged change), rest)
    | some (_ :: _, ')' :: _) => (readFlags true false [] rest).map fun (change, rest) =>
      (.inl change, rest.drop 1)
    | _ => none
  | rest => some (.inr (.capture none), rest)

/-- Repeats the last of the items read so far. A change of flags cannot be repeated. -/
def repeatLast (low : Nat) (high : Option Nat) : List Written → Option (List Written)
  | [] => none
  | .flags _ :: _ => none
  | last :: items => some (.times low high last :: items)

/-- A question mark after a repetition changes which match is preferred, not whether there is
one. -/
def skipLazy : List Char → List Char
  | '?' :: cs => cs
  | cs => cs

def readCounts (verbose : Bool) (cs : List Char) : Option ((Nat × Option Nat) × List Char) := do
  let (low, rest) ← readCount verbose (skipSpace verbose cs)
  let (high, rest) ← match rest with
    | ',' :: rest =>
      match skipSpace verbose rest with
      | '\x7d' :: rest => some (none, '\x7d' :: rest)
      | rest => (readCount verbose rest).map fun (high, rest) => (some high, rest)
    | rest => some (some low, rest)
  match rest with
  | '\x7d' :: rest =>
    if high.any (· < low) then none else return ((low, high), skipSpace verbose rest)
  | _ => none

/-- Reads branches up to the end or a closing parenthesis, which is left. `branches` and `items` are
what has been read, the last first. -/
def readChoice (fuel : Nat) (verbose : Bool) (branches items : List Written) (cs : List Char) :
    Option (Written × List Char) :=
  match fuel with
  | 0 => none
  | fuel + 1 =>
    let branch := Written.ofItems items.reverse
    let whole := Written.ofBranches (branch :: branches).reverse
    match skipSpace verbose cs with
    | [] => some (whole, [])
    | ')' :: rest => some (whole, ')' :: rest)
    | '|' :: rest => readChoice fuel verbose (branch :: branches) [] rest
    | '(' :: rest => do
      match ← readGroupHead verbose rest with
      | (.inl change, rest) =>
        readChoice fuel (change.apply .verbose verbose) branches (.flags change :: items) rest
      | (.inr group, rest) =>
        let inside := match group with
          | .capture _ => verbose
          | .flagged change => change.apply .verbose verbose
        match ← readChoice fuel inside [] [] rest with
        | (inner, ')' :: rest) =>
          readChoice fuel verbose branches (.group group inner :: items) rest
        | _ => none
    | '[' :: rest => do
      let (set, rest) ← readBracket fuel verbose rest
      readChoice fuel verbose branches (.set set :: items) rest
    | '?' :: rest => do
      readChoice fuel verbose branches (← repeatLast 0 (some 1) items) (skipLazy rest)
    | '*' :: rest => do
      readChoice fuel verbose branches (← repeatLast 0 none items) (skipLazy rest)
    | '+' :: rest => do
      readChoice fuel verbose branches (← repeatLast 1 none items) (skipLazy rest)
    | '\x7b' :: rest => do
      let ((low, high), rest) ← readCounts verbose rest
      readChoice fuel verbose branches (← repeatLast low high items) (skipLazy rest)
    | '\\' :: rest => do
      let (item, rest) ← readEscape verbose rest
      readChoice fuel verbose branches (item :: items) rest
    | '.' :: rest => readChoice fuel verbose branches (.dot :: items) rest
    | '^' :: rest => readChoice fuel verbose branches (.look .caret :: items) rest
    | '$' :: rest => readChoice fuel verbose branches (.look .dollar :: items) rest
    | c :: rest => readChoice fuel verbose branches (.literal ⟨c, false⟩ :: items) rest

/-- Groups, sets and repetitions may be nested this deep. -/
def maxNesting : Nat := 250

/-- A whole expression. No two groups have one name. -/
def Written.read (text : String) : Option Written :=
  let cs := text.toList
  match readChoice (2 * cs.length + 2) false [] [] cs with
  | some (written, []) =>
    if written.depth ≤ maxNesting ∧ written.names.Nodup then some written else none
  | _ => none

end EndpointUri.Pattern
