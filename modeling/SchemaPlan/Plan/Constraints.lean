import SchemaPlan.Plan.Comparison
import SchemaPlan.Plan.Draft
import SchemaPlan.Sql.Render

/-!
# Changing constraints

Constraints come from three places: the primary key of a table, the foreign keys on its columns, and
its declared constraints.  `tableConstraints` brings them together, and two constraints are the same
when their names, kinds, definitions and actions are.

Constraints are dropped before any table is touched, in the reverse order of tables, primary keys
last, so that no foreign key is left pointing at a key that is gone.  A foreign key that stays the
same is dropped as well when it is endangered: when the type of its column or the key it refers to
changes.  Primary keys come back with their tables, the other constraints after all tables.
-/

namespace SchemaPlan

/-! ### The constraints of a table -/

/-- The primary key of a table as a constraint. -/
def primaryKeyConstraint? (style : Sql.Style) (schema : String) (t : Table) : Option Constraint :=
  if t.primaryKey.isEmpty then none
  else some {
    name := t.primaryKeyName.getD (Sql.primaryKeyName t.name)
    schema
    table := t.name
    kind := .primaryKey
    definition := "(" ++ style.columnList t.primaryKey ++ ")"
    columns := t.primaryKey }

/-- The foreign key on a column as a constraint. -/
def foreignKeyConstraint? (style : Sql.Style) (schema : String) (t : Table) (c : Column) :
    Option Constraint :=
  c.foreignKey.map fun fk =>
    let targetSchema := fk.schema.getD schema
    { name := fk.constraintName.getD (Sql.foreignKeyName t.name c.name)
      schema
      table := t.name
      kind := .foreignKey
      definition := "(" ++ style.ident c.name ++ ") REFERENCES " ++
        style.object targetSchema fk.table ++ " (" ++ style.ident (fk.column.getD c.name) ++ ")"
      references := some (targetSchema, fk.table)
      columns := [c.name]
      onDelete := fk.onDelete
      onUpdate := fk.onUpdate }

/-- A declared constraint. -/
def declaredConstraint (schema : String) (t : Table) (d : ConstraintDecl) : Constraint where
  name := d.name
  schema
  table := t.name
  kind := d.kind
  definition := d.definition
  references := d.target?.map (·.resolve schema)
  onDelete := d.onDelete
  onUpdate := d.onUpdate

/-- The constraints of a table before they are checked. -/
def gatherConstraints (style : Sql.Style) (schema : String) (t : Table) : List Constraint :=
  (primaryKeyConstraint? style schema t).toList ++
    t.columns.filterMap (foreignKeyConstraint? style schema t) ++
    t.constraints.map (declaredConstraint schema t)

/-- The constraints of a table, of which no two have one name and one at most is a primary key. -/
def tableConstraints (style : Sql.Style) (schema : String) (t : Table) :
    Except SchemaError (List Constraint) := do
  let constraints := gatherConstraints style schema t
  let address := Sql.qualified schema t.name
  checkEach constraints fun before c =>
    ensure (!before.any (·.name == c.name))
      (.definition (address ++ "." ++ c.name) (.duplicateName .constraint))
  ensure ((constraints.filter (·.kind == .primaryKey)).length ≤ 1)
    (.definition address .severalPrimaryKeys)
  return constraints

/-- Whether two constraints are the same, wherever they stand. -/
def Constraint.same (a b : Constraint) : Bool :=
  a.name == b.name && a.kind == b.kind && Sql.sameExpression a.definition b.definition &&
    a.onDelete == b.onDelete && a.onUpdate == b.onUpdate

/-! ### Drops -/

namespace Comparison

/-- Whether the type of a foreign key's own column changes, or the column goes away. -/
def columnChanges (c : Comparison) (old : Database) (oldTable : Table) (schema : String)
    (table : Table) (k : Constraint) (column : String) : Except SchemaError Bool := do
  if (table.column? column).isNone then
    return true
  let oldType ← old.columnType k.schema oldTable.name column
  let newType ← c.new.columnType schema table.name column
  return !Sql.TypeName.same oldType newType

/-- Whether some column of a foreign key changes, which is looked at in turn until one does. -/
def someColumnChanges (c : Comparison) (old : Database) (oldTable : Table) (schema : String)
    (table : Table) (k : Constraint) : List String → Except SchemaError Bool
  | [] => .ok false
  | column :: columns => do
    if ← c.columnChanges old oldTable schema table k column then
      return true
    c.someColumnChanges old oldTable schema table k columns

/-- Whether the key of the table that a foreign key refers to changes. -/
def targetChanges (c : Comparison) (old : Database) (k : Constraint) :
    Except SchemaError Bool := do
  let some (targetSchema, targetTable) := k.references | return false
  let some (oldSchema, oldTarget) := old.table? targetSchema targetTable | return false
  let some (newSchema, newTarget) := c.newVersion? targetSchema targetTable | return true
  if oldSchema.name != newSchema.name || oldTarget.name != newTarget.name then
    return true
  let isKey (k : Constraint) := k.kind == .primaryKey
  let oldKey := (← tableConstraints c.style oldSchema.name oldTarget).find? isKey
  let newKey := (← tableConstraints c.style newSchema.name newTarget).find? isKey
  return match oldKey, newKey with
    | some oldKey, some newKey => !oldKey.same newKey
    | none, none => false
    | _, _ => true

/-- Whether a foreign key that stays the same has to be built anew. -/
def isEndangered (c : Comparison) (old : Database) (oldTable : Table) (schema : String)
    (table : Table) (k : Constraint) : Except SchemaError Bool := do
  if k.kind != .foreignKey then
    return false
  if ← c.someColumnChanges old oldTable schema table k k.columns then
    return true
  c.targetChanges old k

/-- The constraints of a table of the previous version that are dropped.  Of a table that goes away,
these are the foreign keys; the rest goes with it. -/
def tableDrops (c : Comparison) (old : Database) (item : Schema × Table) :
    Except SchemaError (List Constraint) := do
  let (oldSchema, oldTable) := item
  match c.newVersion? oldSchema.name oldTable.name with
  | none =>
    return (← tableConstraints c.style oldSchema.name oldTable).filter (·.kind == .foreignKey)
  | some (schema, table) =>
    let moved := oldSchema.name != schema.name || oldTable.name != table.name
    let oldConstraints ← tableConstraints c.style oldSchema.name oldTable
    let newConstraints ← tableConstraints c.style schema.name table
    let drops ← oldConstraints.mapM fun k => do
      if moved || !newConstraints.any (·.same k) then
        return [k]
      return if ← c.isEndangered old oldTable schema.name table k then [k] else []
    return drops.flatten

/-- The constraints that are dropped, primary keys last. -/
def constraintDrops (c : Comparison) : Except SchemaError (List Constraint) := do
  let some old := c.old | return []
  let drops := (← c.oldTablesReversed.mapM (c.tableDrops old)).flatten
  return drops.filter (·.kind != .primaryKey) ++ drops.filter (·.kind == .primaryKey)

/-- The operations that drop constraints. -/
def dropConstraintOps (drops : List Constraint) : List Op :=
  drops.map fun k => .dropConstraint (Sql.qualified k.schema k.table) k.name

/-! ### Additions -/

/-- The constraints of a table of the new version that are not in place after the drops. -/
def pendingConstraints (c : Comparison) (drops : List Constraint) (schema : String)
    (table : Table) : Except SchemaError (List Constraint) := do
  let constraints ← tableConstraints c.style schema table
  let some (oldSchema, oldTable) := c.oldVersion? schema table.name | return constraints
  let oldConstraints ← tableConstraints c.style oldSchema.name oldTable
  let wasDropped (name : String) := drops.any fun d =>
    d.schema == oldSchema.name && d.table == oldTable.name && d.name == name
  return constraints.filter fun k =>
    match oldConstraints.find? (·.name == k.name) with
    | none => true
    | some old => !old.same k || wasDropped old.name

/-- The operations that add the primary key of a table. -/
def addPrimaryKey (c : Comparison) (drops : List Constraint) (schema : String) (table : Table) :
    Except SchemaError (List Op) := do
  let pending ← c.pendingConstraints drops schema table
  return (pending.filter (·.kind == .primaryKey)).map .addConstraint

/-- The operations that add the other constraints of a table. -/
def addConstraints (c : Comparison) (drops : List Constraint) (schema : String) (table : Table) :
    Except SchemaError (List Op) := do
  let pending ← c.pendingConstraints drops schema table
  return (pending.filter (·.kind != .primaryKey)).map .addConstraint

end Comparison

end SchemaPlan
