import EndpointUri.Json.Reader

/-!
TOML strings: basic ones with escapes and literal ones without, each on one line or on several.
Every reader starts after the opening quotes and gives what follows the closing ones.
-/
namespace EndpointUri.Toml

open Json (charOf? hexWord?)

/-- Control characters other than the tab stand in no string and in no comment. -/
def isPlain (c : Char) : Bool := c == '\t' || (0x20 ≤ c.toNat && c.toNat != 0x7f)

def isBlank (c : Char) : Bool := c == ' ' || c == '\t'

def escapeOf? (c : Char) : Option Char :=
  match c with
  | 'b' => some '\x08'
  | 't' => some '\t'
  | 'n' => some '\n'
  | 'f' => some '\x0c'
  | 'r' => some '\r'
  | 'e' => some '\x1b'
  | '"' => some '"'
  | '\\' => some '\\'
  | _ => none

def prepend (char : Char) (read : Option (List Char × List Char)) :
    Option (List Char × List Char) :=
  read.map fun (chars, rest) => (char :: chars, rest)

def readBasic : List Char → Option (List Char × List Char)
  | [] => none
  | '"' :: rest => some ([], rest)
  | '\\' :: 'x' :: a :: b :: rest => do
    prepend (← charOf? (← hexWord? [a, b])) (readBasic rest)
  | '\\' :: 'u' :: a :: b :: c :: d :: rest => do
    prepend (← charOf? (← hexWord? [a, b, c, d])) (readBasic rest)
  | '\\' :: 'U' :: a :: b :: c :: d :: e :: f :: g :: h :: rest => do
    prepend (← charOf? (← hexWord? [a, b, c, d, e, f, g, h])) (readBasic rest)
  | '\\' :: c :: rest => do prepend (← escapeOf? c) (readBasic rest)
  | c :: rest => if isPlain c then prepend c (readBasic rest) else none

def readLiteral : List Char → Option (List Char × List Char)
  | [] => none
  | '\'' :: rest => some ([], rest)
  | c :: rest => if isPlain c then prepend c (readLiteral rest) else none

/-- Up to two quotes may stand right before the closing three. -/
def closing (quote : Char) : List Char → List Char × List Char
  | a :: b :: rest =>
    if a = quote ∧ b = quote then ([a, b], rest)
    else if a = quote then ([a], b :: rest)
    else ([], a :: b :: rest)
  | [a] => if a = quote then ([a], []) else ([], [a])
  | [] => ([], [])

/-- A line feed, perhaps after a carriage return. -/
def startsLine : List Char → Bool
  | '\n' :: _ => true
  | '\r' :: '\n' :: _ => true
  | _ => false

/-- A line break right after the opening quotes does not count. -/
def dropFirstBreak : List Char → List Char
  | '\n' :: rest => rest
  | '\r' :: '\n' :: rest => rest
  | cs => cs

/-- A backslash at the end of a line takes away all white space up to the next other character;
`folding` says that this is going on. -/
def readMultiBasic (folding : Bool) : List Char → Option (List Char × List Char)
  | [] => none
  | '\r' :: '\n' :: rest =>
    if folding then readMultiBasic true rest
    else prepend '\r' (prepend '\n' (readMultiBasic false rest))
  | '\n' :: rest =>
    if folding then readMultiBasic true rest else prepend '\n' (readMultiBasic false rest)
  | '"' :: '"' :: '"' :: rest => some (closing '"' rest)
  | '\\' :: 'x' :: a :: b :: rest => do
    prepend (← charOf? (← hexWord? [a, b])) (readMultiBasic false rest)
  | '\\' :: 'u' :: a :: b :: c :: d :: rest => do
    prepend (← charOf? (← hexWord? [a, b, c, d])) (readMultiBasic false rest)
  | '\\' :: 'U' :: a :: b :: c :: d :: e :: f :: g :: h :: rest => do
    prepend (← charOf? (← hexWord? [a, b, c, d, e, f, g, h])) (readMultiBasic false rest)
  | '\\' :: c :: rest =>
    if startsLine ((c :: rest).dropWhile isBlank) then readMultiBasic true rest
    else do prepend (← escapeOf? c) (readMultiBasic false rest)
  | c :: rest =>
    if folding && isBlank c then readMultiBasic true rest
    else if isPlain c then prepend c (readMultiBasic false rest)
    else none

def readMultiLiteral : List Char → Option (List Char × List Char)
  | [] => none
  | '\r' :: '\n' :: rest => prepend '\r' (prepend '\n' (readMultiLiteral rest))
  | '\'' :: '\'' :: '\'' :: rest => some (closing '\'' rest)
  | c :: rest => if c = '\n' ∨ isPlain c then prepend c (readMultiLiteral rest) else none

def readString (cs : List Char) : Option (String × List Char) :=
  let read := match cs with
    | '"' :: '"' :: '"' :: rest => readMultiBasic false (dropFirstBreak rest)
    | '"' :: rest => readBasic rest
    | '\'' :: '\'' :: '\'' :: rest => readMultiLiteral (dropFirstBreak rest)
    | '\'' :: rest => readLiteral rest
    | _ => none
  read.map fun (chars, rest) => (String.ofList chars, rest)

end EndpointUri.Toml
