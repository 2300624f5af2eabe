import EndpointUri.Journal
import EndpointUri.Pattern.Meaning
import EndpointUri.Text.Bytes
import EndpointUri.Text.Word

/-!
Directives say how much of the journal is shown, in general and for the targets that start with a
name. They are written as `warn,camel_uri_ls::catalog=debug`; a slash and a regular expression after
them ask for records that it occurs in.
-/
namespace EndpointUri

/-- What is shown of the targets that start with a name, or of all without one. -/
structure Directive where
  name : Option String
  verbosity : Verbosity
  deriving DecidableEq, Repr

namespace Directive

/-- A word alone is a level for all targets or, if it is no level, a name that gets everything. A
name without a level after its equals sign gets everything too. -/
def ofText? (cs : List Char) : Option Directive :=
  match Text.pieces '=' cs with
  | [word] =>
    match Verbosity.ofName? (String.ofList word) with
    | some verbosity => some ⟨none, verbosity⟩
    | none => some ⟨some (String.ofList word), .upTo .trace⟩
  | [name, level] =>
    match Text.trim level with
    | [] => some ⟨some (String.ofList name), .upTo .trace⟩
    | level =>
      (Verbosity.ofName? (String.ofList level)).map fun verbosity =>
        ⟨some (String.ofList name), verbosity⟩
  | _ => none

/-- Directives in a row; those that cannot be read are passed over. -/
def readAll (cs : List Char) : List Directive :=
  (((Text.pieces ',' cs).map Text.trim).filter (!·.isEmpty)).filterMap ofText?

/-- A directive takes the place of the one with the same name. -/
def put : List Directive → Directive → List Directive
  | [], new => [new]
  | old :: rest, new => if old.name = new.name then new :: rest else old :: put rest new

def nameLength (d : Directive) : Nat :=
  match d.name with
  | some name => Text.byteLength name.toList
  | none => 0

def covers (d : Directive) (target : String) : Bool :=
  match d.name with
  | some name => name.toList.isPrefixOf target.toList
  | none => true

end Directive

structure JournalFilter where
  directives : List Directive
  /-- What occurs in shown messages. -/
  content : Option Pattern.Regex

namespace JournalFilter

def uniform (verbosity : Verbosity) : JournalFilter := ⟨[⟨none, verbosity⟩], none⟩

/-- Adds written directives. An expression that cannot be used is passed over, and a text with more
than one slash says nothing. -/
def add (filter : JournalFilter) (text : String) : JournalFilter :=
  match Text.pieces '/' text.toList with
  | [directives] => ⟨(Directive.readAll directives).foldl Directive.put filter.directives, none⟩
  | [directives, content] =>
    ⟨(Directive.readAll directives).foldl Directive.put filter.directives,
      Pattern.Regex.ofText? (String.ofList content)⟩
  | _ => { filter with content := none }

/-- The longest name that a target starts with decides, and of equally long ones the last. -/
def verbosityOf (filter : JournalFilter) (target : String) : Verbosity :=
  let ordered := filter.directives.mergeSort fun a b => a.nameLength ≤ b.nameLength
  match ordered.reverse.find? (·.covers target) with
  | some directive => directive.verbosity
  | none => .off

def shows (filter : JournalFilter) (record : Record) : Bool :=
  (filter.verbosityOf record.topic.target).shows record.level &&
    match filter.content with
    | some content => content.occursIn record.message
    | none => true

end JournalFilter

namespace Record

/-- A record as it is shown. Level names are padded to one width, and the further lines of a
message are indented. -/
def line (record : Record) : String :=
  let level := record.level.name
  let padding := String.ofList (List.replicate (5 - level.length) ' ')
  let message := record.message.toList.flatMap fun c => if c = '\n' then "\n    ".toList else [c]
  "[" ++ level ++ padding ++ " " ++ record.topic.target ++ "] " ++ String.ofList message

end Record
end EndpointUri
