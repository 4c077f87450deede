import SchemaPlan.Plan.Comparison
import SchemaPlan.Plan.Draft

/-!
# Changing indexes and triggers

Indexes and triggers of a table are matched by name.  What is gone or different is dropped, and what
is new or different is created.  A table that is renamed or moved keeps its indexes and triggers, so
they are addressed where the table is now.

A unique column stands for an index of its own, unless an index of that name is declared.
-/

namespace SchemaPlan

/-! ### Indexes -/

/-- The index that a unique column stands for. -/
def uniqueIndex (table column : String) : Index where
  name := Sql.uniqueIndexName table column
  unique := true
  dimensions := [column]

/-- Indexes with one more, unless its name is taken. -/
def addIndex (indexes : List Index) (i : Index) : List Index :=
  if indexes.any (·.name == i.name) then indexes else indexes ++ [i]

/-- The declared indexes of a table and those its unique columns stand for. -/
def Table.effectiveIndexes (t : Table) : List Index :=
  ((t.columns.filter (·.unique)).map fun c => uniqueIndex t.name c.name).foldl addIndex t.indexes

/-- The access method of an index. -/
def Index.methodName (i : Index) : String :=
  Text.asciiLowercase (i.method.getD "btree")

/-- Whether two lists of dimensions are the same, one by one. -/
def sameDimensions : List String → List String → Bool
  | [], [] => true
  | a :: as, b :: bs => Sql.sameExpression a b && sameDimensions as bs
  | _, _ => false

/-- Whether two indexes are the same but for their names. -/
def Index.same (a b : Index) : Bool :=
  a.unique == b.unique && a.methodName == b.methodName &&
    sameDimensions a.dimensions b.dimensions && Sql.sameExpression? a.predicate b.predicate

/-- Changes indexes of a table into others. -/
def indexOps (schema table : String) (old new : List Index) : List Op :=
  (old.filter fun o => !new.any fun n => n.name == o.name && n.same o).map
      (fun o => Op.dropIndex schema o.name) ++
    (new.filter fun n => !(old.find? (·.name == n.name)).any (·.same n)).map
      (fun n => Op.createIndex (Sql.qualified schema table) n)

/-! ### Triggers -/

/-- Whether two triggers are the same but for the tables they are on. -/
def Trigger.same (a b : Trigger) : Bool :=
  a.name == b.name && a.timing == b.timing && a.events == b.events && a.forEach == b.forEach &&
    Sql.sameExpression a.function b.function && Sql.sameExpression? a.when? b.when?

/-- Changes triggers of a table into others. -/
def triggerOps (schema table : String) (old new : List Trigger) : List Op :=
  (old.filter fun o => !new.any fun n => n.name == o.name && n.same o).map
      (fun o => Op.dropTrigger (Sql.qualified schema table) o.name) ++
    (new.filter fun n => !old.any fun o => o.name == n.name && n.same o).map
      (fun n => Op.createTrigger schema n)

namespace Comparison

/-- The operations on the indexes of a table. -/
def tableIndexOps (c : Comparison) (schema : String) (table : Table) : List Op :=
  let old := (c.oldVersion? schema table.name).map fun (_, t) => t.effectiveIndexes
  indexOps schema table.name (old.getD []) table.effectiveIndexes

/-- The operation that makes a table follow another index. -/
def clusterOps (c : Comparison) (schema : String) (table : Table) : List Op :=
  let old := (c.oldVersion? schema table.name).bind fun (_, t) => t.clusterIndex
  if old == table.clusterIndex then []
  else [.setCluster (Sql.qualified schema table.name) table.clusterIndex]

/-- The operations on the triggers of a table. -/
def tableTriggerOps (c : Comparison) (schema : Schema) (table : Table) : List Op :=
  let old := (c.oldVersion? schema.name table.name).map fun (s, t) => s.triggersOn t.name
  triggerOps schema.name table.name (old.getD []) (schema.triggersOn table.name)

end Comparison

end SchemaPlan
