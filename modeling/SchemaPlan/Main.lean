import SchemaPlan.Command.Report

/-!
# The program

The command line over the files of the machine.  Everything that is decided is decided elsewhere;
here files are reached, texts are printed and the exit code is set.
-/

namespace SchemaPlan

open SchemaPlan.Files

/-- A path as an entry of the directory that it names. -/
def entryAt (path : String) : IO.FS.DirEntry :=
  { root := path, fileName := "" }

/-- Why an operation on files failed. -/
def faultOf : IO.Error → FileFault
  | .noFileOrDirectory .. => .notFound
  | .noSuchThing .. => .notFound
  | .alreadyExists .. => .exists
  | .permissionDenied .. => .denied
  | .inappropriateType .. => .notDirectory
  | e => .other (toString e)

/-- An operation on files with the reason for its failure. -/
def attempt {α : Type} (action : IO α) : IO (Except FileFault α) := do
  try
    return .ok (← action)
  catch e => return .error (faultOf e)

/-- What stands at a path of the machine. -/
def kindOnDisk (path : String) : IO (Option EntryKind) := do
  match ← attempt (entryAt path).root.metadata with
  | .error _ => return none
  | .ok data =>
    match data.type with
    | .dir => return some .directory
    | .file => return some .file
    | _ => return none

/-- The names in a directory of the machine. -/
def namesOnDisk (path : String) : IO (List String) := do
  match ← attempt (entryAt path).root.readDir with
  | .error _ => return []
  | .ok entries => return (entries.map (·.fileName)).toList

/-- The paths from a directory of the machine to everything below it. -/
partial def belowOnDisk (path : String) : IO (List String) := do
  let mut found := #[]
  for name in ← namesOnDisk path do
    found := found.push name
    let child := joinPath path name
    if (← kindOnDisk child) == some .directory then
      found := found ++ (← belowOnDisk child).map (joinPath name)
  return found.toList

instance : FileStore IO where
  kind? := kindOnDisk
  names := namesOnDisk
  below := belowOnDisk
  read path := do
    match ← attempt (IO.FS.readBinFile path) with
    | .error fault => return .error fault
    | .ok content =>
      match String.fromUTF8? content with
      | some text => return .ok text
      | none => return .error .notText
  write path text := do
    if (← kindOnDisk path) == some .directory then return .error .isDirectory
    else attempt (IO.FS.writeFile path text)
  makeDirectories path := do
    match ← kindOnDisk path with
    | some .directory => return .ok ()
    | some .file => return .error .exists
    | none => if path.isEmpty then return .ok () else attempt (IO.FS.createDirAll path)

/-- The variables that are heeded, as far as they are set. -/
def environment : IO Command.Environment :=
  Command.heededVariables.filterMapM fun name => do
    return (← IO.getEnv name).map fun value => (name, value)

end SchemaPlan

open SchemaPlan in
/-- Carries out the command line. -/
def main (arguments : List String) : IO UInt32 := do
  let report ← Command.runArguments arguments (← environment)
  IO.print report.output
  IO.eprint report.errors
  return report.code.toUInt32
