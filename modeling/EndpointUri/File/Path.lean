import EndpointUri.File.Node
import EndpointUri.Text.Bytes
import EndpointUri.Text.Word

/-!
Paths, written with slashes, and their way through a tree of files.
-/
namespace EndpointUri.Path

/-- The base stays as written; a slash is added only where it does not end in one. -/
def join (base name : String) : String :=
  if base.toList.getLast? = some '/' || base.isEmpty then base ++ name else base ++ "/" ++ name

def isAbsolute (path : String) : Bool := path.toList.head? = some '/'

def maxName : Nat := 255

def maxLength : Nat := 4095

/-- What is wrong with a path whatever the files are. The empty path names nothing. -/
def fault? (path : String) : Option FileError :=
  let cs := path.toList
  if cs.isEmpty then some .notFound
  else if cs.contains '\x00' then some .nulInName
  else if maxLength < Text.byteLength cs then some .nameTooLong
  else none

/-- Splits at the last `mark`, which belongs to neither side. -/
def splitLast (mark : Char) : List Char → Option (List Char × List Char)
  | [] => none
  | c :: cs =>
    match splitLast mark cs with
    | some (front, back) => some (c :: front, back)
    | none => if c = mark then some ([], cs) else none

/-- What follows the last point of a file name; a point in front of the whole name does not
count. -/
def extension? (name : String) : Option String :=
  match splitLast '.' name.toList with
  | some (_ :: _, back) => some (String.ofList back)
  | _ => none

end Path

structure FileTree where
  root : FileNode
  workingDirectory : String

namespace FileTree

/-- Goes on from a node whose ancestors, nearest first, are given. Only a directory has parts, the
empty one and the two made of points included. -/
def walk (node : FileNode) (ancestors : List FileNode) :
    List (List Char) → Except FileError FileNode
  | [] => .ok node
  | part :: rest =>
    match node with
    | .file _ => .error .notDirectory
    | .directory entries =>
      if part = [] ∨ part = ['.'] then walk node ancestors rest
      else if part = ['.', '.'] then
        match ancestors with
        | parent :: more => walk parent more rest
        | [] => walk node [] rest
      else if Path.maxName < Text.byteLength part then .error .nameTooLong
      else match entries.find? fun (name, _) => name.toList == part with
        | some (_, child) => walk child (node :: ancestors) rest
        | none => .error .notFound

def find (tree : FileTree) (path : String) : Except FileError FileNode :=
  match Path.fault? path with
  | some fault => .error fault
  | none =>
    let absolute := if Path.isAbsolute path then path else Path.join tree.workingDirectory path
    walk tree.root [] (Text.pieces '/' absolute.toList)

end FileTree
end EndpointUri
