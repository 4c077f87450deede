import SchemaPlan.Plan.Comparison
import SchemaPlan.Plan.Draft

/-!
# Changing schemas, functions and sequences

The objects of a schema that no order of tables concerns.  Functions are told apart by their
signatures; one that returns another type is dropped and created, any other change replaces it.
Sequences are altered option by option, and an option that is no longer declared goes back to what a
new sequence would have.  A sequence gets its owning column at the end of the first stage, when that
column exists.

What is gone from the new version is dropped in the third stage, after the tables; schemas come
last.
-/

namespace SchemaPlan

/-! ### Functions -/

/-- Whether two functions of one signature are the same. -/
def Routine.same (a b : Routine) : Bool :=
  Sql.TypeName.same a.returns b.returns && a.arguments == b.arguments &&
    Text.asciiLowercase a.language == Text.asciiLowercase b.language &&
    Sql.normalizeSpace a.definition == Sql.normalizeSpace b.definition &&
    a.volatility == b.volatility && a.securityDefiner == b.securityDefiner

/-- The operations that make a function of a schema what it is in the new version. -/
def functionOps (schema : String) (old : Option Routine) (f : Routine) : List Op :=
  match old with
  | none => [.createFunction schema f false]
  | some o =>
    if o.same f then []
    else if Sql.TypeName.same o.returns f.returns then [.createFunction schema f true]
    else [.dropFunction (Sql.qualified schema o.name) o.argumentTypes,
      .createFunction schema f false]

/-! ### Sequences -/

/-- The first value of a sequence declared without one. -/
def Sequence.defaultStart (s : Sequence) : Int :=
  if s.increment.getD 1 < 0 then s.maxValue.getD (-1) else s.minValue.getD 1

/-- What makes one sequence into another, its owner aside. -/
def sequenceChanges (old new : Sequence) : SequenceChanges where
  start := if old.start == new.start then none else some (new.start.getD new.defaultStart)
  increment := if old.increment == new.increment then none else some (new.increment.getD 1)
  minValue := if old.minValue == new.minValue then none else some new.minValue
  maxValue := if old.maxValue == new.maxValue then none else some new.maxValue
  cache := if old.cache == new.cache then none else some (new.cache.getD 1)
  cycle := if old.cycle == new.cycle then none else some new.cycle

/-- The work on a sequence of a schema. -/
def sequenceWork (schema : String) (old : Option Sequence) (s : Sequence) : Draft :=
  let address := Sql.qualified schema s.name
  let changes := match old with
    | none => [Op.createSequence schema s]
    | some o =>
      let changes := sequenceChanges o s
      if changes == {} then [] else [.alterSequence address changes]
  let owner :=
    if s.ownedBy == old.bind (·.ownedBy) then []
    else [Op.alterSequence address { ownedBy := some s.ownedBy }]
  { stage1 := changes, stage1Tail := owner }

namespace Comparison

/-- The operations that create a schema and say what it is about. -/
def schemaOps (c : Comparison) (s : Schema) : List Op :=
  let old := c.oldSchema? s.name
  (if old.isNone then [.createSchema s.name] else []) ++
    (if s.description == old.bind (·.description) then []
      else [.setComment (.schema s.name) s.description])

/-- The operations on the functions of a schema. -/
def schemaFunctionOps (c : Comparison) (s : Schema) : List Op :=
  s.functions.flatMap fun f =>
    functionOps s.name ((c.oldSchema? s.name).bind (·.function? f.signature)) f

/-- The work on the sequences of a schema. -/
def schemaSequenceWork (c : Comparison) (s : Schema) : Draft :=
  Draft.join (s.sequences.map fun q =>
    sequenceWork s.name ((c.oldSchema? s.name).bind (·.sequence? q.name)) q)

/-- The objects of a schema that are dropped. -/
def removedObjects (old new : Schema) : List Op :=
  ((old.functions.filter fun f => (new.function? f.signature).isNone).map fun f =>
    Op.dropFunction (Sql.qualified old.name f.name) f.argumentTypes) ++
  ((old.sequences.filter fun q => (new.sequence? q.name).isNone).map fun q =>
    Op.dropSequence (Sql.qualified old.name q.name)) ++
  ((old.types.filter fun t => (new.type? t.name).isNone).map fun t =>
    Op.dropType (Sql.qualified old.name t.name)
      (match t.body with
        | .domain .. => true
        | _ => false))

/-- Drops what is gone from the new version. -/
def dropRemoved (c : Comparison) : Draft :=
  match c.old with
  | none => {}
  | some old =>
    { stage3 :=
        (old.schemas.flatMap fun s => ((c.new.schema? s.name).map (removedObjects s)).getD []) ++
        (old.schemas.filter fun s => (c.new.schema? s.name).isNone).map (.dropSchema ·.name) }

/-- The definition's own statements that are to be run: those the previous version did not have. -/
def customSql (c : Comparison) : List CustomSql :=
  match c.old with
  | none => c.new.sql
  | some old => c.new.sql.filter (!old.sql.contains ·)

end Comparison

end SchemaPlan
