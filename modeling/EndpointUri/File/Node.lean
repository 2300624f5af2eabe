/-!
Files and directories as values, and what can go wrong on the way to the text of one.
-/
namespace EndpointUri

inductive FileError where
  | notFound
  | notDirectory
  | isDirectory
  | invalidText
  | nulInName
  | nameTooLong
  | permissionDenied
  | other (message : String)
  deriving DecidableEq, Repr

def FileError.message : FileError → String
  | notFound => "No such file or directory (os error 2)"
  | notDirectory => "Not a directory (os error 20)"
  | isDirectory => "Is a directory (os error 21)"
  | invalidText => "stream did not contain valid UTF-8"
  | nulInName => "file name contained an unexpected NUL byte"
  | nameTooLong => "File name too long (os error 36)"
  | permissionDenied => "Permission denied (os error 13)"
  | other message => message

/-- What a path names. A file that is there and cannot be opened has the reason in place of its bytes.
The order of a directory's entries means nothing. -/
inductive FileNode where
  | file (contents : Except FileError ByteArray)
  | directory (entries : List (String × FileNode))

instance : Coe ByteArray (Except FileError ByteArray) := ⟨.ok⟩

def FileNode.read : FileNode → Except FileError String
  | file (.ok bytes) =>
    match String.fromUTF8? bytes with
    | some text => .ok text
    | none => .error .invalidText
  | file (.error cause) => .error cause
  | directory _ => .error .isDirectory

theorem FileNode.read_toUTF8 (text : String) : (FileNode.file text.toUTF8).read = .ok text := by
  have valid : text.toUTF8.IsValidUTF8 := text.isValidUTF8
  rw [read, String.fromUTF8?, dif_pos valid]
  rfl

end EndpointUri
