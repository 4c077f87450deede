import SchemaPlan.Files.Store
import SchemaPlan.Script

/-!
# Writing scripts to a directory

A `ScriptWriter` collects statements and touches no file before it is flushed.  Then it makes its
directory and writes the files of the script one after another up to the first that cannot be
written. What has been written stays and is known by its path.
-/

namespace SchemaPlan

open SchemaPlan.Files

/-- Statements on their way to a directory. -/
structure ScriptWriter where
  directory : String
  layout : Layout
  heading : Heading
  pending : Script := []
  /-- The paths of the files written so far. -/
  written : List String := []
deriving DecidableEq

namespace ScriptWriter

/-- Adds a statement. -/
def push (w : ScriptWriter) (statement : Statement) : ScriptWriter :=
  { w with pending := w.pending ++ [statement] }

variable {m : Type → Type} [Monad m] [FileStore m]

/-- Writes a file. -/
def writeFile (w : ScriptWriter) (file : ScriptFile) :
    m (ScriptWriter × Except SchemaError Unit) := do
  let path := joinPath w.directory file.name
  match ← FileStore.write path file.content with
  | .ok () => return ({ w with written := w.written ++ [path] }, .ok ())
  | .error fault => return (w, .error (.file .write path fault))

/-- Writes files until one cannot be written. -/
def writeFiles (w : ScriptWriter) : List ScriptFile → m (ScriptWriter × Except SchemaError Unit)
  | [] => return (w, .ok ())
  | file :: files => do
    match ← w.writeFile file with
    | (w, .ok ()) => w.writeFiles files
    | failed => return failed

/-- Writes what has been collected. -/
def flush (w : ScriptWriter) : m (ScriptWriter × Except SchemaError Unit) := do
  match ← FileStore.makeDirectories w.directory with
  | .error fault => return (w, .error (.file .create w.directory fault))
  | .ok () =>
    let emptied : ScriptWriter := { w with pending := [] }
    emptied.writeFiles (w.pending.files w.layout w.heading)

end ScriptWriter

end SchemaPlan
