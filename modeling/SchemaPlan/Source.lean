import SchemaPlan.Files.Search
import SchemaPlan.Model.Read

/-!
# Sources of definitions

A source says where parts of a definition are: it is a file, a directory, which stands for the files
below it whose names end in `.json`, or a pattern.  What is found for a source is sorted, and a file
found for several sources is read once, where it is first found.
-/

namespace SchemaPlan

open SchemaPlan.Files

variable {m : Type → Type} [Monad m] [FileStore m]

/-- Sorts paths. -/
def sortPaths (paths : List String) : List String :=
  paths.mergeSort pathsInOrder

/-- The files that a pattern stands for; there must be some. -/
def filesMatching (pattern : String) : m (Except SchemaError (List String)) := do
  match PathPattern.ofText pattern with
  | .error (position, fault) => return .error (.parse (.badPattern position fault))
  | .ok p =>
    let files ← (← search p).filterM fun path => return (← FileStore.kind? path) == some .file
    if files.isEmpty then return .error (.parse (.noFiles pattern))
    else return .ok (sortPaths files)

/-- The files that a source stands for. -/
def filesOfSource (source : String) : m (Except SchemaError (List String)) := do
  match ← FileStore.kind? source with
  | some .file => return .ok [source]
  | some .directory => filesMatching (joinPath source "**/*.json")
  | none => filesMatching source

/-- Reads a part of a definition. -/
def readPart (path : String) : m (Except SchemaError Database) := do
  match ← FileStore.read path with
  | .error fault => return .error (.file .read path fault)
  | .ok text =>
    match Database.read text with
    | .error (.parse fault) => return .error (.parse (.inFile path fault))
    | r => return r

/-- A definition as far as it has been read, with the files it has been read from. -/
structure Loading where
  database : Database := {}
  seen : List String := []

/-- Reads a file unless that has been done. -/
def Loading.file (l : Loading) (path : String) : m (Except SchemaError Loading) := do
  if l.seen.any (samePath path) then return .ok l
  else
    let part ← readPart path
    return do return { database := ← l.database.merge (← part), seen := path :: l.seen }

/-- Goes through a list with operations that may fail. -/
def foldUntilError {α β : Type} (f : β → α → m (Except SchemaError β)) :
    β → List α → m (Except SchemaError β)
  | b, [] => return .ok b
  | b, a :: as => do
    match ← f b a with
    | .ok b => foldUntilError f b as
    | .error e => return .error e

/-- Reads the files of a source. -/
def Loading.source (l : Loading) (source : String) : m (Except SchemaError Loading) := do
  match ← filesOfSource source with
  | .ok files => foldUntilError Loading.file l files
  | .error e => return .error e

/-- The definition found at some sources. -/
def loadSources (sources : List String) : m (Except SchemaError Database) := do
  if sources.isEmpty then return .error (.parse .noSources)
  else return (← foldUntilError Loading.source {} sources).map (·.database)

end SchemaPlan
