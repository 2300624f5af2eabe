/-!
TOML tables. A table may be written in pieces, by headers and by dotted keys, and the way in which
it came to be decides who may still add to it.
-/
namespace EndpointUri.Toml

inductive Origin where
  /-- Opened by its own header; the document itself counts as opened. -/
  | header
  /-- Passed through by the header of a table inside it. -/
  | implied
  /-- Passed through by a dotted key. -/
  | dotted
  /-- Written between braces, and complete. -/
  | inline
  deriving DecidableEq, Repr

/-- A value. Of floats and of dates and times only the kind is kept. -/
inductive Value where
  | string (s : String)
  | integer (n : Int)
  | float
  | boolean (b : Bool)
  | dateTime
  | array (items : List Value)
  | table (origin : Origin) (entries : List (String × Value))
  /-- Tables under a doubled header, in order. -/
  | tables (elements : List (List (String × Value)))

abbrev Entries := List (String × Value)

namespace Entries

def get? (entries : Entries) (key : String) : Option Value :=
  (entries.find? fun (k, _) => k == key).map Prod.snd

/-- Adds an entry whose key is not there yet. -/
def add (entries : Entries) (key : String) (value : Value) : Entries := entries ++ [(key, value)]

/-- Changes the entry of a key that is there. -/
def set (entries : Entries) (key : String) (value : Value) : Entries :=
  entries.map fun (k, v) => if k = key then (k, value) else (k, v)

/-- Goes down a path of tables and changes the last of them. Missing tables are made with the
origin `fresh`. A complete table cannot be entered, nor can a dotted key enter a table that has a
header of its own; of the tables under a doubled header the last is meant. -/
def descend (fresh : Origin) (change : Origin → Entries → Option Entries) (here : Origin)
    (entries : Entries) : List String → Option Entries
  | [] => change here entries
  | key :: path =>
    match entries.get? key with
    | none => do
      let inner ← descend fresh change fresh [] path
      return entries.add key (.table fresh inner)
    | some (.table origin inner) =>
      if origin = .inline ∨ (fresh = .dotted ∧ origin = .header) then none
      else do
        let inner ← descend fresh change origin inner path
        return entries.set key (.table origin inner)
    | some (.tables elements) => do
      let last ← descend fresh change .header (← elements.getLast?) path
      return entries.set key (.tables (elements.dropLast ++ [last]))
    | some _ => none

/-- Gives a value to a key, reached through the tables of a dotted key. A dotted key adds only to
tables made by dotted keys, and no key is given twice. -/
def assign (entries : Entries) (path : List String) (key : String) (value : Value) :
    Option Entries :=
  descend .dotted
    (fun here inner =>
      if (here == .dotted) == path.isEmpty then none
      else match inner.get? key with
        | some _ => none
        | none => some (inner.add key value))
    .header entries path

/-- Opens a table by its header. Only a table that was no more than passed through by headers can
still be opened. -/
def openTable (root : Entries) (path : List String) (key : String) : Option Entries :=
  descend .implied
    (fun _ inner =>
      match inner.get? key with
      | none => some (inner.add key (.table .header []))
      | some (.table .implied entries) => some (inner.set key (.table .header entries))
      | some _ => none)
    .header root path

def openElement (root : Entries) (path : List String) (key : String) : Option Entries :=
  descend .implied
    (fun _ inner =>
      match inner.get? key with
      | none => some (inner.add key (.tables [[]]))
      | some (.tables elements) => some (inner.set key (.tables (elements ++ [[]])))
      | some _ => none)
    .header root path

end Entries
end EndpointUri.Toml
