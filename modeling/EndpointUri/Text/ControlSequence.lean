/-!
Control sequences of terminals, and the text that is left without them. A sequence starts with
escape; what may stand in it depends on the characters after that.
-/
namespace EndpointUri.Text

/-- Where a text stands between and in control sequences. -/
inductive Phase where
  | ground
  | escape
  /-- An escape with intermediate characters, which one more character ends. -/
  | intermediate
  /-- A sequence with parameters, which a letter ends. -/
  | control
  /-- The head of a device string, before, in and after its parameters. -/
  | deviceEntry
  | deviceParameter
  | deviceIntermediate
  | deviceString
  /-- A command for the system, which also the bell ends. -/
  | command
  | message
  deriving DecidableEq, Repr

namespace Phase

/-- Whether one of the bytes that continue the character in UTF-8 is `9C`, the end of a string in
eight-bit control codes. -/
def holdsTerminator (c : Char) : Bool :=
  let n := c.toNat
  (0x80 ≤ n && n % 64 == 0x1c) || (0x800 ≤ n && n / 64 % 64 == 0x1c) ||
    (0x10000 ≤ n && n / 4096 % 64 == 0x1c)

def afterEscape (c : Char) : Phase :=
  let n := c.toNat
  if n < 0x20 || 0x7f ≤ n then escape
  else if n < 0x30 then intermediate
  else match c with
    | '[' => control
    | ']' => command
    | 'P' => deviceEntry
    | 'X' | '^' | '_' => message
    | _ => ground

def inDeviceHead (phase : Phase) (c : Char) : Phase :=
  let n := c.toNat
  if n < 0x20 || 0x7f ≤ n then phase
  else if n < 0x30 then deviceIntermediate
  else if 0x40 ≤ n then deviceString
  else match phase with
    | deviceEntry => deviceParameter
    | deviceParameter => if 0x3c ≤ n then deviceString else deviceParameter
    | _ => deviceString

/-- The phase after a character. Escape starts a sequence anywhere, and two controls cancel one. -/
def next (phase : Phase) (c : Char) : Phase :=
  let n := c.toNat
  if n == 0x1b then escape
  else if n == 0x18 || n == 0x1a then ground
  else match phase with
    | ground => ground
    | escape => afterEscape c
    | intermediate => if 0x30 ≤ n && n < 0x7f then ground else intermediate
    | control => if 0x40 ≤ n && n < 0x7f then ground else control
    | deviceEntry | deviceParameter | deviceIntermediate => inDeviceHead phase c
    | deviceString => if holdsTerminator c then ground else deviceString
    | command => if n == 0x07 then ground else command
    | message => if holdsTerminator c then ground else message

/-- Tab, line feed, form feed and carriage return are the controls that a text keeps. -/
def isKeptControl (c : Char) : Bool := c == '\t' || c == '\n' || c == '\x0c' || c == '\r'

/-- Whether a character is shown in a phase. A kept control is, unless it stands in a string. -/
def shows (phase : Phase) (c : Char) : Bool :=
  match phase with
  | ground => isKeptControl c || (0x20 ≤ c.toNat && c.toNat != 0x7f)
  | escape | intermediate | control => isKeptControl c
  | _ => false

end Phase

/-- What is left of a text that starts in a phase. Once a character is shown, so are those after it
up to the next one that is not shown between sequences; a sequence that a kept control breaks off
goes on there. -/
def withoutSequences (showing : Bool) (phase : Phase) : List Char → List Char
  | [] => []
  | c :: cs =>
    if (if showing then Phase.ground else phase).shows c then
      c :: withoutSequences true (if 0x80 ≤ c.toNat then .ground else phase) cs
    else withoutSequences false (phase.next c) cs

def plain (text : String) : String :=
  String.ofList (withoutSequences false .ground text.toList)

end EndpointUri.Text
