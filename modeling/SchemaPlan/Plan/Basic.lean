import SchemaPlan.Plan.Constraints
import SchemaPlan.Plan.Elements
import SchemaPlan.Plan.Rows
import SchemaPlan.Plan.Schemas
import SchemaPlan.Plan.Views

/-!
# Planning an upgrade

`plan` gives the operations that turn a database of the previous version into one of the new
version, or create one if there is no previous version.  Either the whole plan is given or none of
it: the definitions are checked first, and a change that cannot be made is an error.

Structure is changed in passes.  Schemas come first, then types and functions, then constraints are
dropped and sequences changed; tables follow in order, each with its columns, indexes and primary
key, then the other constraints; after that whatever is gone is dropped, owners and privileges are
set, and views are built again if need be.
-/

namespace SchemaPlan

namespace Comparison

/-- The work on a table with everything that belongs to it. -/
def tablePass (c : Comparison) (drops : List Constraint) (item : Schema × Table) :
    Except SchemaError Draft := do
  let (s, t) := item
  let work ← c.tableWork s.name t
  let key ← c.addPrimaryKey drops s.name t
  return work ++
    .first (c.tableIndexOps s.name t ++ c.clusterOps s.name t ++ key ++ c.tableTriggerOps s t)

/-- The work on types and functions of a schema. -/
def typePass (c : Comparison) (s : Schema) : Except SchemaError Draft := do
  return .first ((← c.schemaTypeOps s) ++ c.schemaFunctionOps s)

/-- The work on structure, views aside. -/
def structureWork (c : Comparison) : Except SchemaError Draft := do
  let schemas := c.newSchemas
  let types ← schemas.mapM c.typePass
  let drops ← c.constraintDrops
  let tables ← c.newTables.mapM (c.tablePass drops)
  let constraints ← c.newTables.mapM fun (s, t) => c.addConstraints drops s.name t
  return .first (schemas.flatMap c.schemaOps) ++ Draft.join types ++
    .first (dropConstraintOps drops) ++ Draft.join (schemas.map c.schemaSequenceWork) ++
    Draft.join tables ++ .first constraints.flatten ++ c.dropTables ++ c.dropRemoved ++
    .first (schemas.flatMap c.schemaPrivilegeOps)

/-- The work on structure, views included. -/
def schemaWork [QueryReader] (c : Comparison) : Except SchemaError Draft := do
  c.checkInheritance
  let work ← c.structureWork
  return work ++ c.viewWork work.isStructural

/-- The plan for a comparison. -/
def plan [QueryReader] (c : Comparison) : Except SchemaError Plan := do
  let schema ← if c.options.onlyData then pure ({} : Draft) else c.schemaWork
  let rows ← if c.options.onlySchema then pure ({} : Draft) else c.rowWork
  return (schema ++ rows).toPlan (if c.options.onlyData then [] else c.customSql)

end Comparison

/-- The plan from one version to another, with the orders of tables given or else those of
declaration. -/
def planWithOrders [QueryReader] (old : Option Database) (new : Database)
    (newOrder oldOrder : Option (List OrderItem)) (style : Sql.Style) (options : Options) :
    Except SchemaError Plan := do
  new.validate
  if let some old := old then
    old.validate
  (← Comparison.make old new newOrder oldOrder style options).plan

/-- The plan from one version to another. -/
def plan [QueryReader] (old : Option Database) (new : Database) (style : Sql.Style)
    (options : Options) : Except SchemaError Plan := do
  new.validate
  if let some old := old then
    old.validate
  let newOrder := some new.dependencyOrder
  let oldOrder := old.map (·.dependencyOrder)
  (← Comparison.make old new newOrder oldOrder style options).plan

end SchemaPlan
