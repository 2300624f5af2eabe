import EndpointUri.Text.Bytes
import EndpointUri.Uri.Layout

/-!
The arguments of the command line. Which options there are depends on the command; every option
takes a value, and values stand anywhere around the options.
-/
namespace EndpointUri

inductive Argument where
  /-- Neither an option nor the end of options; a lone dash is a value. -/
  | value (text : String)
  /-- Two dashes and a name, with a value if an equals sign follows. -/
  | option (name : String) (attached : Option String)
  | short (letters : List Char)
  | endOfOptions
  deriving DecidableEq, Repr

def Argument.ofText (text : String) : Argument :=
  match text.toList with
  | ['-', '-'] => endOfOptions
  | '-' :: '-' :: rest =>
    match splitFirst '=' rest with
    | some (name, attached) => option (String.ofList name) (some (String.ofList attached))
    | none => option (String.ofList rest) none
  | '-' :: c :: rest => short (c :: rest)
  | _ => value text

/-- The values and options of a command, each in the order given. -/
structure Arguments where
  values : List String
  options : List (String × String)
  deriving DecidableEq, Repr

namespace Arguments

def addValue (value : String) (rest : Arguments) : Arguments :=
  { rest with values := value :: rest.values }

def addOption (name value : String) (rest : Arguments) : Arguments :=
  { rest with options := (name, value) :: rest.options }

/-- Reads arguments with options out of `known`. The value of an option is attached to it or is the
next argument, if that has the form of a value. -/
def read? (known : List String) : List String → Option Arguments
  | [] => some ⟨[], []⟩
  | text :: rest =>
    match Argument.ofText text with
    | .value value => (read? known rest).map (addValue value)
    | .option name (some value) =>
      if known.contains name then (read? known rest).map (addOption name value) else none
    | .option name none =>
      match rest with
      | [] => none
      | next :: rest =>
        match Argument.ofText next with
        | .value value =>
          if known.contains name then (read? known rest).map (addOption name value) else none
        | _ => none
    | .short _ => none
    | .endOfOptions => some ⟨rest, []⟩

/-- The value of an option that may be given once or left out. -/
def option? (arguments : Arguments) (name : String) : Option (Option String) :=
  match arguments.options.filter (·.1 == name) with
  | [] => some none
  | [(_, value)] => some (some value)
  | _ => none

end Arguments

/-- Decimal digits, perhaps after a plus sign, of a number that is an offset. -/
def readOffset? (text : String) : Option Nat :=
  let digits := match text.toList with
    | '+' :: rest => rest
    | cs => cs
  if digits.isEmpty || !digits.all Char.isDigit then none
  else
    let n := digits.foldl (fun n d => n * 10 + (d.toNat - '0'.toNat)) 0
    if n ≤ Text.maxOffset then some n else none

inductive Command where
  | version
  | parse (uri : String)
  | complete (uri : String) (offset : Nat) (catalog : Option String)
  deriving DecidableEq, Repr

namespace Command

def readParse? (rest : List String) : Option Command := do
  match (← Arguments.read? [] rest).values with
  | [uri] => return .parse uri
  | _ => none

/-- The offset is needed, the catalog is not; its path is not empty. -/
def readComplete? (rest : List String) : Option Command := do
  let arguments ← Arguments.read? ["offset", "catalog"] rest
  let offset ← readOffset? (← ← arguments.option? "offset")
  let catalog ← arguments.option? "catalog"
  match arguments.values, catalog with
  | _, some "" => none
  | [uri], catalog => return .complete uri offset catalog
  | _, _ => none

/-- The first argument decides which command it is; whatever follows a request for the version is
not looked at. -/
def ofArguments? : List String → Option Command
  | [] => none
  | first :: rest =>
    match Argument.ofText first with
    | .option "version" none => some .version
    | .short ('V' :: _) => some .version
    | .value "parse" => readParse? rest
    | .value "complete" => readComplete? rest
    | _ => none

end Command
end EndpointUri
