import SchemaPlan.Error
import SchemaPlan.Files.Path

/-!
# Trees of files

A `FileTree` holds files and directories by their location, the list of names on the way from the
top. The operations answer as a file system does: a step can only be taken out of a directory that
exists, and a point, or a separator at the end, is such a step as well.  Nothing lies outside of a
tree, so a path that begins at the root of the file system or leaves the top names nothing.
-/

namespace SchemaPlan.Files

/-- What can stand at a location. -/
inductive Entry where
  | file (content : ByteArray)
  | directory

instance : DecidableEq Entry
  | .file a, .file b =>
    match ByteArray.instDecidableEq a b with
    | .isTrue h => .isTrue (congrArg _ h)
    | .isFalse h => .isFalse fun he => h (Entry.file.inj he)
  | .directory, .directory => .isTrue rfl
  | .file _, .directory => .isFalse nofun
  | .directory, .file _ => .isFalse nofun

/-- Files and directories by location; the top is a directory without being listed. -/
structure FileTree where
  entries : List (List String × Entry) := []
deriving DecidableEq

namespace FileTree

/-- What stands at a location. -/
def get? (t : FileTree) (location : List String) : Option Entry :=
  if location.isEmpty then some .directory else t.entries.lookup location

/-- The tree with something else at a location. -/
def put (t : FileTree) (location : List String) (entry : Entry) : FileTree :=
  if (t.entries.lookup location).isSome then
    { entries := t.entries.map fun e => if e.1 == location then (location, entry) else e }
  else { entries := t.entries ++ [(location, entry)] }

/-- The most bytes that a name may have. -/
def nameLimit : Nat :=
  255

/-- Where a step leads from a location. -/
def step (t : FileTree) (location : List String) (text : String) :
    Except FileFault (List String) :=
  match t.get? location with
  | none => .error .notFound
  | some (.file _) => .error .notDirectory
  | some .directory =>
    if text.utf8ByteSize > nameLimit then .error .nameTooLong
    else match text with
      | "" | "." => .ok location
      | ".." => if location.isEmpty then .error .notFound else .ok location.dropLast
      | text => .ok (location ++ [text])

/-- The location that a path leads to; only the last name on it may be missing. -/
def locate (t : FileTree) (path : String) : Except FileFault (List String) :=
  if path.isEmpty || path.startsWith "/" then .error .notFound
  else if path.contains '\x00' then .error .zeroCharacter
  else (steps path).foldlM t.step []

/-- What a path leads to. -/
def find? (t : FileTree) (path : String) : Option Entry :=
  match t.locate path with
  | .ok location => t.get? location
  | .error _ => none

/-- Whether a path leads to a directory. -/
def isDirectory (t : FileTree) (path : String) : Bool :=
  t.find? path == some .directory

/-- The locations below another, as the names that lead there. -/
def below (t : FileTree) (location : List String) : List (List String) :=
  t.entries.filterMap fun (l, _) =>
    if location.isPrefixOf l && l != location then some (l.drop location.length) else none

/-- The text of a file. -/
def read (t : FileTree) (path : String) : Except FileFault String := do
  match t.get? (← t.locate path) with
  | none => .error .notFound
  | some .directory => .error .isDirectory
  | some (.file content) =>
    match String.fromUTF8? content with
    | some text => .ok text
    | none => .error .notText

/-- The tree after writing a file. -/
def write (t : FileTree) (path text : String) : Except FileFault FileTree := do
  let location ← t.locate path
  if t.get? location = some .directory then .error .isDirectory
  else .ok (t.put location (.file text.toUTF8))

/-- A path without the separators at its end. -/
def withoutEnd (path : String) : String :=
  String.ofList (Text.dropEndWhile (· == '/') path.toList)

/-- The tree after making one directory. -/
def makeDirectory (t : FileTree) (path : String) : Except FileFault FileTree := do
  let location ← t.locate (withoutEnd path)
  if (t.get? location).isSome then .error .exists
  else .ok (t.put location .directory)

/-- The tree after making a directory that may be there already, with the directories it lies in; of
those `depth` at most. -/
def makeDirectories (t : FileTree) : (depth : Nat) → (path : String) → Except FileFault FileTree
  | depth, path =>
    if path.isEmpty then .ok t
    else
      let kept (t : FileTree) (fault : FileFault) : Except FileFault FileTree :=
        if t.isDirectory path then .ok t else .error fault
      match t.makeDirectory path, depth, parent? path with
      | .ok t, _, _ => .ok t
      | .error .notFound, depth + 1, some parent => do
        let t ← t.makeDirectories depth parent
        match t.makeDirectory path with
        | .ok t => .ok t
        | .error fault => kept t fault
      | .error fault, _, _ => kept t fault

/-- A tree with something at a location, and with the directories on the way there. -/
def insert (t : FileTree) (path : String) (entry : Entry) : FileTree :=
  let location := (steps path).filter fun s => !s.isEmpty && s != "."
  let t := (List.range location.length).foldl (fun t n =>
    if (t.get? (location.take n)).isSome then t else t.put (location.take n) .directory) t
  t.put location entry

/-- The files of a tree by their paths. -/
def files (t : FileTree) : List (String × ByteArray) :=
  t.entries.filterMap fun (location, entry) => match entry with
    | .file content => some (String.intercalate "/" location, content)
    | .directory => none

end FileTree

end SchemaPlan.Files
