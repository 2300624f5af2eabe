import EndpointUri.Json.Value

/-!
Reading JSON text, strictly: no comments, no trailing commas, no text after the value. Objects
come out sorted by key, and of a repeated key the last value stands.
-/
namespace EndpointUri.Json

/-- Arrays and objects may be nested this deep. -/
def maxDepth : Nat := 127

/-- The greatest integer literal that stays an integer. -/
def maxWord : Nat := UInt64.size - 1

/-- The greatest magnitude of a negative integer literal that stays an integer. -/
def maxNegative : Nat := Nat.pow 2 63

def isBlank (c : Char) : Bool := c == ' ' || c == '\t' || c == '\n' || c == '\r'

def skipBlanks (cs : List Char) : List Char := cs.dropWhile isBlank

def digitValue (c : Char) : Nat := c.toNat - '0'.toNat

/-- Takes up digits as long as the number stays a word; gives the digits left over too. -/
def absorb (significand : Nat) : List Char → Nat × List Char
  | [] => (significand, [])
  | d :: ds =>
    let next := significand * 10 + digitValue d
    if next ≤ maxWord then absorb next ds else (significand, d :: ds)

/-- The value of a number with a fraction, an exponent or too many digits for a word. Digits that
no longer fit the significand only count for the exponent. -/
def readFloat (negative : Bool) (whole fraction : List Char) (exponent : Int) : Option Number := do
  let (significand, dropped) := absorb 0 whole
  let (significand, unused) := absorb significand fraction
  let scale : Int := dropped.length - (fraction.length - unused.length : Nat)
  let magnitude ← Magnitude.ofDecimal significand (scale + exponent)
  return .float ⟨negative, magnitude⟩

/-- The value of an integer literal; a negative zero is a float. -/
def readInteger (negative : Bool) (whole : List Char) : Option Number :=
  match absorb 0 whole, negative with
  | (n, []), false => some (.integer n)
  | (n, []), true =>
    if 0 < n ∧ n ≤ maxNegative then some (.integer (-n)) else readFloat negative whole [] 0
  | _, _ => readFloat negative whole [] 0

def takeDigits (cs : List Char) : List Char × List Char := cs.span Char.isDigit

def readDigits (cs : List Char) : Option (List Char × List Char) :=
  match takeDigits cs with
  | ([], _) => none
  | found => some found

/-- The part before the point has no leading zero. -/
def readWhole (cs : List Char) : Option (List Char × List Char) :=
  match readDigits cs with
  | some ('0' :: _ :: _, _) => none
  | found => found

def readFraction (cs : List Char) : Option (Option (List Char) × List Char) :=
  match cs with
  | '.' :: rest => (readDigits rest).map fun (digits, rest) => (some digits, rest)
  | _ => some (none, cs)

def digitsValue (digits : List Char) : Nat := digits.foldl (fun n d => n * 10 + digitValue d) 0

def readSignedExponent (cs : List Char) : Option (Int × List Char) :=
  match cs with
  | '-' :: rest => (readDigits rest).map fun (digits, rest) => (-(digitsValue digits : Int), rest)
  | '+' :: rest => (readDigits rest).map fun (digits, rest) => (digitsValue digits, rest)
  | _ => (readDigits cs).map fun (digits, rest) => (digitsValue digits, rest)

def readExponent (cs : List Char) : Option (Option Int × List Char) :=
  match cs with
  | 'e' :: rest | 'E' :: rest => (readSignedExponent rest).map fun (e, rest) => (some e, rest)
  | _ => some (none, cs)

def readUnsigned (negative : Bool) (cs : List Char) : Option (Number × List Char) := do
  let (whole, cs) ← readWhole cs
  let (fraction, cs) ← readFraction cs
  let (exponent, cs) ← readExponent cs
  let number ← match fraction, exponent with
    | none, none => readInteger negative whole
    | _, _ => readFloat negative whole (fraction.getD []) (exponent.getD 0)
  return (number, cs)

def readNumber (cs : List Char) : Option (Number × List Char) :=
  match cs with
  | '-' :: rest => readUnsigned true rest
  | _ => readUnsigned false cs

def hexValue? (c : Char) : Option Nat :=
  if '0' ≤ c ∧ c ≤ '9' then some (c.toNat - '0'.toNat)
  else if 'a' ≤ c ∧ c ≤ 'f' then some (c.toNat - 'a'.toNat + 10)
  else if 'A' ≤ c ∧ c ≤ 'F' then some (c.toNat - 'A'.toNat + 10)
  else none

def hexWord? (digits : List Char) : Option Nat :=
  digits.foldlM (fun n d => (hexValue? d).map (n * 16 + ·)) 0

/-- The character of a code point, none for a surrogate or beyond the last one. -/
def charOf? (n : Nat) : Option Char := if n.isValidChar then some (Char.ofNat n) else none

def pairOf? (high low : Nat) : Option Char :=
  if 0xd800 ≤ high ∧ high < 0xdc00 ∧ 0xdc00 ≤ low ∧ low < 0xe000 then
    charOf? (0x10000 + (high - 0xd800) * 0x400 + (low - 0xdc00))
  else none

def escapeOf? (c : Char) : Option Char :=
  match c with
  | '"' => some '"'
  | '\\' => some '\\'
  | '/' => some '/'
  | 'b' => some '\x08'
  | 'f' => some '\x0c'
  | 'n' => some '\n'
  | 'r' => some '\r'
  | 't' => some '\t'
  | _ => none

/-- Reads up to the closing quote. A surrogate needs its partner in the next escape. -/
def readChars : List Char → Option (List Char × List Char)
  | [] => none
  | '"' :: rest => some ([], rest)
  | '\\' :: 'u' :: a :: b :: c :: d :: rest => do
    let word ← hexWord? [a, b, c, d]
    match charOf? word with
    | some char =>
      let (chars, rest) ← readChars rest
      return (char :: chars, rest)
    | none =>
      match rest with
      | '\\' :: 'u' :: e :: f :: g :: h :: rest =>
        let char ← pairOf? word (← hexWord? [e, f, g, h])
        let (chars, rest) ← readChars rest
        return (char :: chars, rest)
      | _ => none
  | '\\' :: c :: rest => do
    let char ← escapeOf? c
    let (chars, rest) ← readChars rest
    return (char :: chars, rest)
  | c :: rest =>
    if c.toNat < 0x20 then none
    else do
      let (chars, rest) ← readChars rest
      return (c :: chars, rest)

def readString (cs : List Char) : Option (String × List Char) :=
  match cs with
  | '"' :: rest => (readChars rest).map fun (chars, rest) => (String.ofList chars, rest)
  | _ => none

/-- Adds a member to sorted members that were read after it, so it gives way to its own key. -/
def insertMember (key : String) (value : Json) : List (String × Json) → List (String × Json)
  | [] => [(key, value)]
  | (k, v) :: rest =>
    if key < k then (key, value) :: (k, v) :: rest
    else if key = k then (k, v) :: rest
    else (k, v) :: insertMember key value rest

mutual

/-- A value. `depth` arrays and objects may still be opened. -/
def readValue (fuel depth : Nat) (cs : List Char) : Option (Json × List Char) :=
  match fuel with
  | 0 => none
  | fuel + 1 =>
    match skipBlanks cs with
    | 'n' :: 'u' :: 'l' :: 'l' :: rest => some (null, rest)
    | 't' :: 'r' :: 'u' :: 'e' :: rest => some (bool true, rest)
    | 'f' :: 'a' :: 'l' :: 's' :: 'e' :: rest => some (bool false, rest)
    | '"' :: rest => (readChars rest).map fun (chars, rest) => (string (String.ofList chars), rest)
    | '[' :: rest =>
      match depth with
      | 0 => none
      | depth + 1 =>
        match skipBlanks rest with
        | ']' :: rest => some (array [], rest)
        | rest => (readItems fuel depth rest).map fun (items, rest) => (array items, rest)
    | '\x7b' :: rest =>
      match depth with
      | 0 => none
      | depth + 1 =>
        match skipBlanks rest with
        | '\x7d' :: rest => some (object [], rest)
        | rest => (readMembers fuel depth rest).map fun (members, rest) => (object members, rest)
    | rest => (readNumber rest).map fun (n, rest) => (number n, rest)

def readItems (fuel depth : Nat) (cs : List Char) : Option (List Json × List Char) :=
  match fuel with
  | 0 => none
  | fuel + 1 => do
    let (item, rest) ← readValue fuel depth cs
    match skipBlanks rest with
    | ']' :: rest => return ([item], rest)
    | ',' :: rest =>
      let (items, rest) ← readItems fuel depth rest
      return (item :: items, rest)
    | _ => none

def readMembers (fuel depth : Nat) (cs : List Char) : Option (List (String × Json) × List Char) :=
  match fuel with
  | 0 => none
  | fuel + 1 => do
    let (key, rest) ← readString (skipBlanks cs)
    match skipBlanks rest with
    | ':' :: rest =>
      let (value, rest) ← readValue fuel depth rest
      match skipBlanks rest with
      | '\x7d' :: rest => return ([(key, value)], rest)
      | ',' :: rest =>
        let (members, rest) ← readMembers fuel depth rest
        return (insertMember key value members, rest)
      | _ => none
    | _ => none

end

/-- The value of a text, none for anything but one well-formed value. Every call takes up at
least one character or is the only one at its place, which bounds their number. -/
def parse (text : String) : Option Json :=
  let cs := text.toList
  match readValue (2 * cs.length + 2) maxDepth cs with
  | some (value, rest) => if (skipBlanks rest).isEmpty then some value else none
  | none => none

end EndpointUri.Json
