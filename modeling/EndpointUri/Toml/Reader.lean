import EndpointUri.Toml.Quote
import EndpointUri.Toml.Scalar

/-!
Reading TOML documents. A document is a sequence of lines, each a header, an assignment or neither;
arrays and inline tables may go over several lines.
-/
namespace EndpointUri.Toml

/-- Arrays and inline tables may be nested this deep, and a key has at most as many parts. -/
def maxDepth : Nat := 80

def skipBlanks (cs : List Char) : List Char := cs.dropWhile isBlank

def skipComment : List Char → Option (List Char)
  | [] => some []
  | '\n' :: rest => some ('\n' :: rest)
  | '\r' :: '\n' :: rest => some ('\n' :: rest)
  | c :: rest => if isPlain c then skipComment rest else none

def endLine (cs : List Char) : Option (List Char) := do
  let rest ← match skipBlanks cs with
    | '#' :: rest => skipComment rest
    | rest => some rest
  match rest with
  | [] => some []
  | '\n' :: rest => some rest
  | '\r' :: '\n' :: rest => some rest
  | _ => none

/-- Skips blanks, line ends and comments; `comment` says that one is going on. -/
def skipTrivia (comment : Bool) : List Char → Option (List Char)
  | [] => some []
  | '\r' :: '\n' :: rest => skipTrivia false rest
  | '\n' :: rest => skipTrivia false rest
  | c :: rest =>
    if comment then if isPlain c then skipTrivia true rest else none
    else if isBlank c then skipTrivia false rest
    else if c = '#' then skipTrivia true rest
    else some (c :: rest)

def isBareKey (c : Char) : Bool := c.isAlphanum || c == '_' || c == '-'

/-- One part of a key: bare, or a string on one line. -/
def readSimpleKey (cs : List Char) : Option (String × List Char) :=
  match cs with
  | '"' :: rest => (readBasic rest).map fun (chars, rest) => (String.ofList chars, rest)
  | '\'' :: rest => (readLiteral rest).map fun (chars, rest) => (String.ofList chars, rest)
  | _ =>
    match cs.span isBareKey with
    | ([], _) => none
    | (chars, rest) => some (String.ofList chars, rest)

/-- A key of at most `parts` parts. Blanks may stand around the points and after it. -/
def readParts : Nat → List Char → Option ((List String × String) × List Char)
  | 0, _ => none
  | parts + 1, cs => do
    let (part, rest) ← readSimpleKey (skipBlanks cs)
    match skipBlanks rest with
    | '.' :: rest =>
      let ((path, key), rest) ← readParts parts rest
      return ((part :: path, key), rest)
    | rest => return (([], part), rest)

def readKey (cs : List Char) : Option ((List String × String) × List Char) := readParts maxDepth cs

def endsScalar (c : Char) : Bool :=
  isBlank c || c == '\n' || c == '\r' || c == ',' || c == ']' || c == '\x7d' || c == '#'

/-- An unquoted scalar. A blank between a date and a time belongs to it. -/
def readScalar (cs : List Char) : Option (Value × List Char) :=
  let (word, rest) := splitBefore endsScalar cs
  match date? word, rest with
  | some [], ' ' :: d :: more =>
    if d.isDigit then
      let (time, rest) := splitBefore endsScalar (d :: more)
      (scalar? (word ++ ' ' :: time)).map fun value => (value, rest)
    else (scalar? word).map fun value => (value, rest)
  | _, _ => (scalar? word).map fun value => (value, rest)

mutual

/-- A value. `depth` arrays and inline tables may still be opened. -/
def readValue (fuel depth : Nat) (cs : List Char) : Option (Value × List Char) :=
  match fuel with
  | 0 => none
  | fuel + 1 =>
    match cs with
    | '"' :: _ | '\'' :: _ => (readString cs).map fun (s, rest) => (.string s, rest)
    | '[' :: rest =>
      match depth with
      | 0 => none
      | depth + 1 => (readItems fuel depth rest).map fun (items, rest) => (.array items, rest)
    | '\x7b' :: rest =>
      match depth with
      | 0 => none
      | depth + 1 =>
        (readInline fuel depth [] rest).map fun (entries, rest) => (.table .inline entries, rest)
    | _ => readScalar cs

/-- The items of an array and its closing bracket. The last may be followed by a comma. -/
def readItems (fuel depth : Nat) (cs : List Char) : Option (List Value × List Char) :=
  match fuel with
  | 0 => none
  | fuel + 1 => do
    match ← skipTrivia false cs with
    | ']' :: rest => return ([], rest)
    | rest =>
      let (item, rest) ← readValue fuel depth rest
      match ← skipTrivia false rest with
      | ']' :: rest => return ([item], rest)
      | ',' :: rest =>
        let (items, rest) ← readItems fuel depth rest
        return (item :: items, rest)
      | _ => none

/-- The assignments of an inline table, after those in `entries`, and its closing brace. Lines may
end anywhere but inside a key. -/
def readInline (fuel depth : Nat) (entries : Entries) (cs : List Char) :
    Option (Entries × List Char) :=
  match fuel with
  | 0 => none
  | fuel + 1 => do
    match ← skipTrivia false cs with
    | '\x7d' :: rest => return (entries, rest)
    | rest =>
      let ((path, key), rest) ← readKey rest
      match ← skipTrivia false rest with
      | '=' :: rest =>
        let (value, rest) ← readValue fuel depth (← skipTrivia false rest)
        let entries ← entries.assign path key value
        match ← skipTrivia false rest with
        | '\x7d' :: rest => return (entries, rest)
        | ',' :: rest => readInline fuel depth entries rest
        | _ => none
      | _ => none

end

/-- The document so far, and the path of the table that assignments go to. -/
structure Document where
  root : Entries
  current : List String

namespace Document

def empty : Document := ⟨[], []⟩

def assign (d : Document) (path : List String) (key : String) (value : Value) :
    Option Document := do
  let root ← Entries.descend .implied (fun _ inner => inner.assign path key value) .header
    d.root d.current
  return { d with root }

def readLine (d : Document) (fuel : Nat) (cs : List Char) : Option (Document × List Char) := do
  match cs with
  | '[' :: '[' :: rest =>
    let ((path, key), rest) ← readKey rest
    match rest with
    | ']' :: ']' :: rest =>
      let root ← d.root.openElement path key
      return (⟨root, path ++ [key]⟩, rest)
    | _ => none
  | '[' :: rest =>
    let ((path, key), rest) ← readKey rest
    match rest with
    | ']' :: rest =>
      let root ← d.root.openTable path key
      return (⟨root, path ++ [key]⟩, rest)
    | _ => none
  | _ =>
    let ((path, key), rest) ← readKey cs
    match rest with
    | '=' :: rest =>
      let (value, rest) ← readValue fuel maxDepth (skipBlanks rest)
      return (← d.assign path key value, rest)
    | _ => none

/-- Reads lines to the end of the text. Each takes up at least one character. -/
def readLines (d : Document) : Nat → List Char → Option Document
  | 0, _ => none
  | fuel + 1, cs =>
    match skipBlanks cs with
    | [] => some d
    | '#' :: rest => do readLines d fuel (← endLine ('#' :: rest))
    | c :: rest => do
      if startsLine (c :: rest) then readLines d fuel (← endLine (c :: rest))
      else
        let (d, rest) ← d.readLine (2 * rest.length + 4) (c :: rest)
        readLines d fuel (← endLine rest)

end Document

/-- The entries of a document. A byte order mark in front of it is skipped. -/
def parse (text : String) : Option Entries :=
  let cs := match text.toList with
    | '﻿' :: rest => rest
    | cs => cs
  (Document.empty.readLines (cs.length + 1) cs).map (·.root)

end EndpointUri.Toml
