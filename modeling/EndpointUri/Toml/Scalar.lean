import EndpointUri.Number.Binary64
import EndpointUri.Toml.Table

/-!
TOML scalars that stand without quotes: booleans, integers, floats, dates and times.
-/
namespace EndpointUri.Toml

def digitNumber (digits : List Char) (base : Nat) : Nat :=
  digits.foldl (fun n d =>
    n * base + (if d.isDigit then d.toNat - '0'.toNat else d.toLower.toNat - 'a'.toNat + 10)) 0

/-- The digits of a run in which single underscores may stand between two digits. -/
def digits? (isDigit : Char → Bool) : List Char → Option (List Char)
  | [] => none
  | [d] => if isDigit d then some [d] else none
  | d :: '_' :: rest => if isDigit d then (digits? isDigit rest).map (d :: ·) else none
  | d :: rest => if isDigit d then (digits? isDigit rest).map (d :: ·) else none

def wholeDigits? (cs : List Char) : Option (List Char) :=
  match digits? Char.isDigit cs with
  | some ('0' :: _ :: _) => none
  | found => found

/-- Integers have at most 128 bits. -/
def integer? (negative : Bool) (n : Nat) : Option Value :=
  if negative then if n ≤ Nat.pow 2 127 then some (.integer (-n)) else none
  else if n < Nat.pow 2 128 then some (.integer n) else none

def isHexDigit (c : Char) : Bool := c.isDigit || ('a' ≤ c && c ≤ 'f') || ('A' ≤ c && c ≤ 'F')

def isOctalDigit (c : Char) : Bool := '0' ≤ c && c ≤ '7'

def isBinaryDigit (c : Char) : Bool := c == '0' || c == '1'

/-- A float is wrong when its value is too large for a binary64. -/
def float? (whole fraction : List Char) (exponent : Int) : Option Value :=
  let n := digitNumber (whole ++ fraction) 10
  let scale := exponent - fraction.length
  let size : Int := (Nat.toDigits 10 n).length + scale
  if n = 0 ∨ size < 0 then some .float
  else if 400 < size then none
  else
    let rounded :=
      if 0 ≤ scale then Magnitude.round (n * Nat.pow 10 scale.toNat) 1
      else Magnitude.round n (Nat.pow 10 (-scale).toNat)
    rounded.map fun _ => .float

/-- Splits at the first character for which the test holds, which stays in the back. -/
def splitBefore (test : Char → Bool) (cs : List Char) : List Char × List Char :=
  cs.span fun c => !test c

def exponent? : List Char → Option Int
  | '+' :: cs => (digits? Char.isDigit cs).map fun ds => (digitNumber ds 10 : Int)
  | '-' :: cs => (digits? Char.isDigit cs).map fun ds => -(digitNumber ds 10 : Int)
  | cs => (digits? Char.isDigit cs).map fun ds => (digitNumber ds 10 : Int)

def decimal? (negative : Bool) (cs : List Char) : Option Value := do
  let (mantissa, tail) := splitBefore (fun c => c == 'e' || c == 'E') cs
  let (whole, point) := splitBefore (· == '.') mantissa
  let whole ← wholeDigits? whole
  match point, tail with
  | [], [] => integer? negative (digitNumber whole 10)
  | _, _ =>
    let fraction ← match point with
      | [] => some []
      | _ :: ds => digits? Char.isDigit ds
    let exponent ← match tail with
      | [] => some 0
      | _ :: cs => exponent? cs
    float? whole fraction exponent

/-- A number, infinity or the value that is not a number, after its sign. -/
def signed? (negative : Bool) : List Char → Option Value
  | ['i', 'n', 'f'] => some .float
  | ['n', 'a', 'n'] => some .float
  | cs => decimal? negative cs

def number? : List Char → Option Value
  | '+' :: cs => signed? false cs
  | '-' :: cs => signed? true cs
  | '0' :: 'x' :: cs => (digits? isHexDigit cs).bind fun ds => integer? false (digitNumber ds 16)
  | '0' :: 'o' :: cs => (digits? isOctalDigit cs).bind fun ds => integer? false (digitNumber ds 8)
  | '0' :: 'b' :: cs => (digits? isBinaryDigit cs).bind fun ds => integer? false (digitNumber ds 2)
  | cs => signed? false cs

/-- Two digits, as a number of at least `low` and at most `high`. -/
def pair? (low high : Nat) : List Char → Option (Nat × List Char)
  | a :: b :: rest =>
    let n := digitNumber [a, b] 10
    if a.isDigit && b.isDigit && low ≤ n && n ≤ high then some (n, rest) else none
  | _ => none

def isLeapYear (year : Nat) : Bool := year % 4 == 0 && (year % 100 != 0 || year % 400 == 0)

def daysIn (year month : Nat) : Nat :=
  if month = 2 then if isLeapYear year then 29 else 28
  else if month = 4 ∨ month = 6 ∨ month = 9 ∨ month = 11 then 30
  else 31

def date? : List Char → Option (List Char)
  | a :: b :: c :: d :: '-' :: rest => do
    if !([a, b, c, d].all Char.isDigit) then none
    let (month, rest) ← pair? 1 12 rest
    match rest with
    | '-' :: rest =>
      let (_, rest) ← pair? 1 (daysIn (digitNumber [a, b, c, d] 10) month) rest
      return rest
    | _ => none
  | _ => none

def fraction? : List Char → Option (List Char)
  | '.' :: rest =>
    match rest.span Char.isDigit with
    | ([], _) => none
    | (_, rest) => some rest
  | rest => some rest

/-- Skips a time. The seconds may be left out, and a minute may have a leap second. -/
def time? (cs : List Char) : Option (List Char) := do
  let (_, rest) ← pair? 0 23 cs
  match rest with
  | ':' :: rest =>
    let (_, rest) ← pair? 0 59 rest
    match rest with
    | ':' :: rest =>
      let (_, rest) ← pair? 0 60 rest
      fraction? rest
    | _ => return rest
  | _ => none

/-- Whether the rest of a time is an offset from universal time, or nothing. -/
def isOffset : List Char → Bool
  | [] => true
  | ['Z'] => true
  | ['z'] => true
  | sign :: cs =>
    (sign == '+' || sign == '-') &&
      match pair? 0 23 cs with
      | some (_, ':' :: rest) => (pair? 0 59 rest).any fun (_, rest) => rest.isEmpty
      | _ => false

def dateTime? (cs : List Char) : Option Value :=
  match date? cs with
  | some [] => some .dateTime
  | some (mark :: rest) =>
    if mark == 'T' || mark == 't' || mark == ' ' then
      match time? rest with
      | some zone => if isOffset zone then some .dateTime else none
      | none => none
    else none
  | none =>
    match time? cs with
    | some [] => some .dateTime
    | _ => none

def scalar? (cs : List Char) : Option Value :=
  match cs with
  | ['t', 'r', 'u', 'e'] => some (.boolean true)
  | ['f', 'a', 'l', 's', 'e'] => some (.boolean false)
  | _ => (number? cs).or (dateTime? cs)

end EndpointUri.Toml
