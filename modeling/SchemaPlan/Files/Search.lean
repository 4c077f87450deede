import SchemaPlan.Files.Pattern
import SchemaPlan.Files.Store

/-!
# Searching files by a pattern

`search` gives the paths that a pattern stands for.  It follows the pattern name by name.  A name
without wildcards is looked up, any other is held against the names in the directory, and `**` goes
through all directories below.  A point at the beginning is a character like any other; only `.` and
`..` themselves have to be meant by a pattern that begins with one.

A path that can be reached in several ways is given as often.  Inside the current directory paths
are given without it.
-/

namespace SchemaPlan.Files

/-- The path of a name in a directory. -/
def childPath (directory name : String) : String :=
  if isHere directory then name else joinPath directory name

/-- The last name of a path, unless it ends otherwise. -/
def lastName? (path : String) : Option String :=
  match (parts path).getLast? with
  | some (.name text) => some text
  | _ => none

/-- The special names that a pattern means. -/
def specialNames (pattern : List Sign) : List String :=
  if pattern.head? == some (.char '.') then [".", ".."].filter fun s => fits pattern s.toList
  else []

variable {m : Type → Type} [Monad m] [FileStore m]

/-- Whether a path leads to a directory. -/
def isDirectory (path : String) : m Bool := do
  return (← FileStore.kind? path) == some .directory

/-- The paths that stand for the names of a pattern inside a directory, where `last` says which of
the paths at its end count. -/
def searchFrom (last : String → m Bool) : (names : List (List Sign)) → (path : String) →
    m (List String)
  | [], path => do
    if ← last path then return [path] else return []
  | pattern :: rest, path => do
    match plainText? pattern with
    | some text =>
      let next := childPath path text
      let reached ←
        if text == "." || text == ".." then isDirectory path
        else (·.isSome) <$> FileStore.kind? next
      if reached then searchFrom last rest next else return []
    | none =>
      if !(← isDirectory path) then return []
      if isRecursive pattern then
        let found ← (← FileStore.below path).mapM fun name => inside rest (childPath path name)
        return found.flatten
      else
        let found ← (← FileStore.names path).mapM fun name => do
          if fits pattern name.toList then searchFrom last rest (childPath path name)
          else return []
        let special ← (specialNames pattern).mapM fun name =>
          searchFrom last rest (joinPath path name)
        return found.flatten ++ special.flatten
where
  /-- The paths for what follows `**`, which the name at the end of a path may fit already. -/
  inside : (names : List (List Sign)) → (path : String) → m (List String)
    | [], path => do
      if ← isDirectory path then return [path] else return []
    | pattern :: rest, path => do
      if isRecursive pattern then inside rest path
      else match lastName? path with
        | some name =>
          if fits pattern name.toList then searchFrom last rest path else return []
        | none => return []

/-- The paths that a pattern stands for. -/
def search (pattern : PathPattern) : m (List String) :=
  searchFrom (fun path => if pattern.directoriesOnly then isDirectory path else return true)
    pattern.names pattern.start

end SchemaPlan.Files
