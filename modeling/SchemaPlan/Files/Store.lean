import SchemaPlan.Files.Tree

/-!
# Stores of files

What a program does with files, apart from where the files are.  A computation over a `FileStore`
runs on a tree held as a value and on a file system alike; the first is for reasoning and for trying
things out.
-/

namespace SchemaPlan.Files

/-- What stands at a path. -/
inductive EntryKind where
  | file
  | directory
deriving DecidableEq

/-- Access to files. -/
class FileStore (m : Type → Type) where
  /-- What stands at a path, if anything does. -/
  kind? : String → m (Option EntryKind)
  /-- The names in a directory. -/
  names : String → m (List String)
  /-- The paths from a directory to everything below it. -/
  below : String → m (List String)
  /-- The text of a file. -/
  read : String → m (Except FileFault String)
  /-- Writes a file anew. -/
  write : String → String → m (Except FileFault Unit)
  /-- Makes a directory with those that it lies in, unless it is there. -/
  makeDirectories : String → m (Except FileFault Unit)

/-- The kind of an entry. -/
def Entry.kind : Entry → EntryKind
  | .file _ => .file
  | .directory => .directory

namespace FileTree

/-- The tree after an operation that may fail, which then changes nothing. -/
def keep (t : FileTree) : Except FileFault FileTree → Except FileFault Unit × FileTree
  | .ok t => (.ok (), t)
  | .error fault => (.error fault, t)

/-- The paths below a directory, by the names that lead there. -/
def namesBelow (t : FileTree) (path : String) : List (List String) :=
  match t.locate path with
  | .ok location => t.below location
  | .error _ => []

instance : FileStore (StateM FileTree) where
  kind? path := return ((← get).find? path).map Entry.kind
  names path := return ((← get).namesBelow path).filterMap fun names => match names with
    | [name] => some name
    | _ => none
  below path := return ((← get).namesBelow path).map (String.intercalate "/")
  read path := return (← get).read path
  write path text := modifyGet fun t => t.keep (t.write path text)
  makeDirectories path := modifyGet fun t =>
    t.keep (t.makeDirectories (parts path).length path)

end FileTree

end SchemaPlan.Files
