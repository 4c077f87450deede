import SchemaPlan.Plan.Basic
import SchemaPlan.Sql.Render

/-!
# Scripts

A `Script` is a plan written out: statements, each with the stage in which it runs.  It is read
stage by stage, and since a plan never goes back to an earlier stage the stages one behind the other
are the whole script.  `Streams` keep the stages apart while statements arrive.

`Script.files` lays a script out in files.  Every stage has a file of its own even if there is
nothing to do in it, so that a set of files is always complete; a long stage goes on in further
files.  Each file begins with a heading that names the two versions by their fingerprints.
-/

namespace SchemaPlan

/-- A statement and the stage in which it runs. -/
structure Statement where
  stage : Stage
  text : String
deriving DecidableEq

/-- The statements of an upgrade in the order in which they run. -/
abbrev Script := List Statement

/-- A plan written out. -/
def Plan.script (style : Sql.Style) (plan : Plan) : Script :=
  plan.map fun planned => ⟨planned.stage, planned.op.sql style⟩

namespace Script

/-- The statements of a stage. -/
def ofStage (script : Script) (stage : Stage) : List String :=
  (script.filter (·.stage == stage)).map (·.text)

/-- The number of statements in each stage. -/
def counts (script : Script) : List Nat :=
  Stage.all.map fun stage => (script.ofStage stage).length

end Script

/-- Texts one below the other, each with the end of its last line. -/
def joinLines (texts : List String) : String :=
  String.join (texts.map (· ++ "\n"))

namespace Script

/-- The text of a stage. -/
def stageText (script : Script) (stage : Stage) : String :=
  joinLines (script.ofStage stage)

/-- The text of all stages. -/
def text (script : Script) : String :=
  String.join (Stage.all.map script.stageText)

/-- The text of all stages, where a line with the name of the stage stands before each that has any
statements. -/
def markedText (script : Script) : String :=
  String.join (Stage.all.map fun stage =>
    if (script.ofStage stage).isEmpty then ""
    else "-- " ++ stage.name ++ "\n" ++ script.stageText stage)

end Script

/-! ### Streams -/

/-- Statements kept apart by the stage in which they run. -/
structure Streams where
  ofStage : Stage → List String := fun _ => []

namespace Streams

/-- Adds a statement at the end of its stage. -/
def push (streams : Streams) (statement : Statement) : Streams where
  ofStage stage :=
    if stage = statement.stage then streams.ofStage stage ++ [statement.text]
    else streams.ofStage stage

/-- The text of a stage. -/
def text (streams : Streams) (stage : Stage) : String :=
  joinLines (streams.ofStage stage)

end Streams

/-! ### Files -/

/-- The fingerprints of the versions that a script leads from and to. -/
structure Heading where
  old : Option String := none
  new : String
deriving DecidableEq

/-- The lines at the beginning of a file. -/
def Heading.text (heading : Heading) (title : String) : String :=
  "-- ddlstage " ++ title ++ "\n" ++
    (match heading.old with
      | some old => "-- from: " ++ old ++ "\n"
      | none => "") ++
    "-- to:   " ++ heading.new ++ "\n\n"

/-- How a script is laid out in files. -/
structure Layout where
  /-- What the names of all files begin with. -/
  stem : String := "ddlstage"
  /-- How many statements a file holds at most; there is no limit at zero either. -/
  statementsPerFile : Option Nat := none
  singleStage : Bool := false
deriving DecidableEq

/-- A file by its name and what it holds. -/
structure ScriptFile where
  name : String
  content : String
deriving DecidableEq

/-- A list cut into pieces of `size` elements, the last of which may be shorter. -/
def chunks {α : Type} (size : Nat) (xs : List α) : List (List α) :=
  if _h : 0 < size ∧ size < xs.length then xs.take size :: chunks size (xs.drop size)
  else [xs]
termination_by xs.length
decreasing_by
  simp only [List.length_drop]
  omega

namespace Layout

/-- The statements of a stage by the files that hold them; there is always one. -/
def segments (layout : Layout) (statements : List String) : List (List String) :=
  chunks (layout.statementsPerFile.getD 0) statements

/-- The name of a stage's file with this number, counted from one. -/
def fileName (layout : Layout) (stage : Stage) (number : Nat) : String :=
  layout.stem ++ "_" ++ stage.name ++ (if number = 1 then "" else "_" ++ toString number) ++ ".sql"

/-- The title of a stage's file with this number among `total`. -/
def title (stage : Stage) (number total : Nat) : String :=
  if total > 1 then
    stage.name ++ " (part " ++ toString number ++ " of " ++ toString total ++ ")"
  else stage.name

/-- The files of a stage. -/
def stageFiles (layout : Layout) (heading : Heading) (stage : Stage) (statements : List String) :
    List ScriptFile :=
  let segments := layout.segments statements
  segments.zipIdx.map fun (segment, i) =>
    { name := layout.fileName stage (i + 1)
      content := heading.text (title stage (i + 1) segments.length) ++ joinLines segment }

end Layout

/-- The files of a script, in the order in which they run. -/
def Script.files (script : Script) (layout : Layout) (heading : Heading) : List ScriptFile :=
  if layout.singleStage then
    [{ name := layout.stem ++ ".sql"
       content := heading.text "single-stage script" ++ script.markedText }]
  else
    Stage.all.flatMap fun stage => layout.stageFiles heading stage (script.ofStage stage)

end SchemaPlan
