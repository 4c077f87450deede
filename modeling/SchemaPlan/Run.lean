import SchemaPlan.Model.Encode
import SchemaPlan.ScriptWriter
import SchemaPlan.Source

/-!
# Making scripts

`build` makes the script that creates a database and `upgrade` the one that leads from a version to
another.  Definitions are loaded, compared and written out, and if a directory is given the script
is put there.  No file is written unless the whole plan can be made.
-/

namespace SchemaPlan

open SchemaPlan.Files

/-- The work during which a failure occurred, with its cause. -/
inductive RunError where
  | loading (cause : SchemaError)
  | planning (cause : SchemaError)
  | writing (cause : SchemaError)
deriving DecidableEq

/-- The text of a failure. -/
def RunError.message : RunError → String
  | .loading cause => "Failed to load definition: " ++ cause.message
  | .planning (.order fault) => (SchemaError.order fault).message
  | .planning cause => "Diff failed: " ++ cause.message
  | .writing cause => "Failed to write output: " ++ cause.message

/-- How scripts are made. -/
structure Settings where
  style : Sql.Style := {}
  options : Options := {}
  /-- Where the script is put; it is kept to itself otherwise. -/
  directory : Option String := none
  stem : String := "ddlstage"
  statementsPerFile : Option Nat := none
deriving DecidableEq

/-- How the files of a script are laid out. -/
def Settings.layout (s : Settings) : Layout where
  stem := s.stem
  statementsPerFile := s.statementsPerFile
  singleStage := s.options.singleStage

/-- A plan written out, with the versions it is for. -/
structure Outcome where
  plan : Plan
  script : Script
  heading : Heading
  /-- The paths of the files written. -/
  files : List String := []
deriving DecidableEq

/-- The plan from one version to another, written out. -/
def outcome [QueryReader] (old : Option Database) (new : Database) (settings : Settings) :
    Except SchemaError Outcome := do
  let plan ← plan old new settings.style settings.options
  return {
    plan
    script := plan.script settings.style
    heading := { old := old.map Database.fingerprint, new := new.fingerprint } }

variable {m : Type → Type} [Monad m] [FileStore m]

/-- Puts a script into the directory of the settings. -/
def Outcome.put (o : Outcome) (settings : Settings) : m (Except RunError Outcome) := do
  match settings.directory with
  | none => return .ok o
  | some directory =>
    let writer : ScriptWriter :=
      { directory, layout := settings.layout, heading := o.heading, pending := o.script }
    let (writer, result) ← writer.flush
    return (result.mapError RunError.writing).map fun () => { o with files := writer.written }

/-- Makes the script from one version to another. -/
def make [QueryReader] (old : Option Database) (new : Database) (settings : Settings) :
    m (Except RunError Outcome) := do
  match outcome old new settings with
  | .error e => return .error (.planning e)
  | .ok o => o.put settings

/-- Loads a definition. -/
def load (sources : List String) : m (Except RunError Database) :=
  return (← loadSources sources).mapError RunError.loading

/-- Makes the script that creates the database found at some sources. -/
def build [QueryReader] (sources : List String) (settings : Settings) :
    m (Except RunError Outcome) := do
  match ← load sources with
  | .error e => return .error e
  | .ok new => make none new settings

/-- Makes the script that leads from the version found at some sources to the one at others. -/
def upgrade [QueryReader] (old new : List String) (settings : Settings) :
    m (Except RunError Outcome) := do
  match ← load old with
  | .error e => return .error e
  | .ok old =>
    match ← load new with
    | .error e => return .error e
    | .ok new => make (some old) new settings

/-- The order in which the tables found at some sources are worked on. -/
def tableOrder (sources : List String) : m (Except RunError (List OrderItem)) := do
  match ← load sources with
  | .error e => return .error e
  | .ok db => return (db.validate.mapError RunError.planning).map fun () => db.dependencyOrder

end SchemaPlan
