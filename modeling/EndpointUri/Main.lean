import EndpointUri.Command.Run

/-!
The command line: it reads the surroundings, looks files up on the disk, and prints the report.
-/
namespace EndpointUri.Disk

/-- Directories are never opened as files, so a node of the wrong type is a file on the way; the only
fault left in a path itself is the length of a name. -/
def fileError : IO.Error → FileError
  | .noFileOrDirectory .. => .notFound
  | .inappropriateType .. => .notDirectory
  | .invalidArgument .. => .nameTooLong
  | .permissionDenied .. => .permissionDenied
  | fault => .other (toString fault)

/-- Opens what is known to be there. -/
def opened (node : IO FileNode) : IO FileNode := do
  try node
  catch fault => return .file (.error (fileError fault))

/-- A directory has its schema files with their contents; its other entries are left empty. -/
def lookup : Lookup IO := fun path => do
  if let some fault := Path.fault? path then return .error fault
  let place := (← IO.currentDir) / path
  -- What has metadata is there, whether or not it can be opened.
  try discard place.metadata
  catch fault => return .error (fileError fault)
  let node ← opened do
    if ← place.isDir then
      let entries ← (← place.readDir).mapM fun entry => do
        if ← entry.path.isDir then return (entry.fileName, FileNode.directory [])
        else if SchemaIndex.isSchemaFile entry.fileName then
          return (entry.fileName, ← opened do return .file (← IO.FS.readBinFile entry.path))
        else return (entry.fileName, FileNode.file ByteArray.empty)
      return .directory entries.toList
    else return .file (← IO.FS.readBinFile place)
  return .ok node

end EndpointUri.Disk

open EndpointUri in
def main (arguments : List String) : IO UInt32 := do
  let here : Surroundings := {
    environment := ⟨← IO.getEnv "XDG_CONFIG_HOME", ← IO.getEnv "HOME"⟩
    workingDirectory := some (← IO.currentDir).toString
    directives := ← IO.getEnv "RUST_LOG" }
  let report ← Command.runArguments Disk.lookup here arguments
  (← IO.getStderr).putStr report.errorOutput
  (← IO.getStdout).putStr report.output
  return UInt32.ofNat report.exitCode
