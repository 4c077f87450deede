import SchemaPlan.Plan.Comparison
import SchemaPlan.Plan.Draft
import SchemaPlan.Sql.TypeName

/-!
# Changing tables and columns

A table that continues none is created whole.  Any other is moved and renamed, and its columns are
compared one by one: a column is added, renamed or altered, and a column of the previous version
that none continues is dropped.

A column must be able to take part in the work of every stage.  So an added column starts out
without a constraint on its values, gets its default and, at the end of the first stage, a value for
the rows that are there; only the third stage demands that a value be given.  A script that is run
in one piece cannot wait for that, and says so instead.
-/

namespace SchemaPlan

namespace Comparison

/-! ### Inheritance -/

/-- The parent of a table of the previous version, as the new version knows it. -/
def oldParent? (c : Comparison) (oldSchema : String) (oldTable : Table) : Option TableKey :=
  oldTable.inherits.map fun parent =>
    let key := parent.resolve oldSchema
    match c.newVersion? key.1 key.2 with
    | some (s, t) => (s.name, t.name)
    | none => key

/-- Refuses to change what a table inherits from. -/
def checkInheritance (c : Comparison) : Except SchemaError Unit :=
  checkAll c.new.tables fun (s, t) =>
    match c.oldVersion? s.name t.name with
    | none => .ok ()
    | some (oldSchema, oldTable) =>
      let newParent := t.inherits.map (·.resolve s.name)
      let oldParent := c.oldParent? oldSchema.name oldTable
      let describe (key : TableKey) := Sql.qualified key.1 key.2
      ensure (newParent == oldParent)
        (.unsupported (Sql.qualified s.name t.name)
          (.inheritanceChanged (oldParent.map describe) (newParent.map describe)))

/-! ### New tables -/

/-- What is said about a new column besides its definition. -/
def newColumnOps (address : String) (col : Column) : List Op :=
  (if col.description.isSome then
    [.setComment (.column address col.name) col.description] else []) ++
  (col.serialStart.map fun start => Op.setSerialValue address col.name (.start start)).toList

/-- The operations that create a table. -/
def createTable (c : Comparison) (schema : String) (table : Table) :
    Except SchemaError (List Op) := do
  let address := Sql.qualified schema table.name
  let columns ← table.columns.mapM fun col => do
    return ({ name := col.name
              dataType := ← c.new.columnType schema table.name col.name
              nullable := col.nullable
              default? := col.default? } : ColumnDef)
  let parent := table.inherits.map fun p =>
    let (s, t) := p.resolve schema
    Sql.qualified s t
  return .createTable address columns parent ::
    (if table.description.isSome then
      [.setComment (.table address) table.description] else []) ++
    table.columns.flatMap (newColumnOps address)

/-- The operations that move and rename a table. -/
def renameTable (oldSchema oldName schema name : String) : List Op :=
  (if oldSchema != schema then [.setTableSchema (Sql.qualified oldSchema oldName) schema]
    else []) ++
  (if oldName != name then [.renameTable (Sql.qualified schema oldName) name] else [])

/-! ### Columns -/

/-- The column of the previous version that a column continues, and whether its marker says so. -/
def oldColumn (renameTracking : Bool) (oldTable : Table) (col : Column) (object : String) :
    Except SchemaError (Option (Column × Bool)) :=
  let byName := (oldTable.column? col.name).map fun o => (o, false)
  match if renameTracking then col.oldName else none with
  | none => .ok byName
  | some oldName =>
    if oldName == col.name then .ok byName
    else match oldTable.column? oldName with
      | none => .ok byName
      | some previous =>
        if (oldTable.column? col.name).isSome then
          .error (.definition object (.ambiguousRename oldName col.name))
        else .ok (some (previous, true))

/-- Gives a value to the rows that are there.  What the clock says is written out, so that it is
the same wherever the script runs. -/
def backfill (address : String) (col : Column) : Draft :=
  match col.default? with
  | none => {}
  | some value =>
    if Sql.isClock value then
      { stage1Tail := [.backfillColumn address col.name (some value)] }
    else if col.nullable then {}
    else { stage1Tail := [.backfillColumn address col.name none] }

/-- Demands a value of every row, unless there is no later stage to do so in. -/
def demandValue (c : Comparison) (address column : String) : Draft :=
  if c.options.singleStage then
    { stage3 := [.comment (address ++ "." ++ column ++
        " should be NOT NULL; skipped in a single-stage script")] }
  else { stage3 := [.alterColumn address column .setNotNull] }

/-- Says what a column is about. -/
def describeColumn (address : String) (col : Column) : Draft :=
  .first [.setComment (.column address col.name) col.description]

/-- Adds a column. -/
def addColumn (c : Comparison) (address : String) (col : Column) (dataType : String) : Draft :=
  .first [.addColumn address { name := col.name, dataType }] ++
    (if Sql.TypeName.isSerial dataType then
      .first (col.serialStart.map fun start =>
        Op.setSerialValue address col.name (.start start)).toList
    else
      .first (col.default?.map fun value =>
          Op.alterColumn address col.name (.setDefault value)).toList ++
        backfill address col ++
        (if col.nullable then {} else c.demandValue address col.name)) ++
    (if col.description.isSome then describeColumn address col else {})

/-- Changes the type of a column. -/
def alterType (address object : String) (col : Column) (oldType newType : String) :
    Except SchemaError Draft :=
  if Sql.TypeName.same oldType newType then .ok {}
  else if Sql.TypeName.isSerial newType && !Sql.TypeName.isSerial oldType then
    .error (.unsupported object (.becomesSerial oldType newType))
  else .ok (.first [.alterColumn address col.name
    (.type (Sql.TypeName.storage newType) col.convertUsing)])

/-- Changes the default of a column. -/
def alterDefault (address : String) (previous col : Column) : Draft :=
  if Sql.sameExpression? previous.default? col.default? then {}
  else .first [.alterColumn address col.name
    (match col.default? with
      | some value => .setDefault value
      | none => .dropDefault)]

/-- Changes whether a column demands values. -/
def alterNullable (c : Comparison) (address : String) (previous col : Column) : Draft :=
  match previous.nullable, col.nullable with
  | true, false => backfill address col ++ c.demandValue address col.name
  | false, true => .first [.alterColumn address col.name .dropNotNull]
  | _, _ => {}

/-- Changes a column that continues another. -/
def alterColumn (c : Comparison) (address object : String) (previous : Column) (oldType : String)
    (col : Column) (newType : String) : Except SchemaError Draft := do
  return (← alterType address object col oldType newType) ++ alterDefault address previous col ++
    c.alterNullable address previous col ++
    (if previous.description == col.description then {} else describeColumn address col)

/-- The work on a column, and the column of the previous version it continues, with whether it is
renamed. -/
def columnWork (c : Comparison) (oldSchema : String) (oldTable : Table) (schema : String)
    (table : Table) (col : Column) : Except SchemaError (Draft × Option (Column × Bool)) := do
  let address := Sql.qualified schema table.name
  let object := address ++ "." ++ col.name
  let newType ← c.new.columnType schema table.name col.name
  let old ← oldColumn c.options.renameTracking oldTable col object
  match old with
  | none => return (c.addColumn address col newType, none)
  | some (previous, renamed) =>
    let oldType ← (c.old.getD c.new).columnType oldSchema oldTable.name previous.name
    let rename := if renamed then .first [.renameColumn address previous.name col.name] else {}
    let changes ← c.alterColumn address object previous oldType col newType
    return (rename ++ changes, old)

/-- What becomes of a column of the previous version that may not be continued; `continuations`
pairs columns that are with the new names. -/
def removeColumn (address : String) (continuations : List (String × String × Bool))
    (previous : Column) : List Op :=
  match continuations.find? fun (old, _, renamed) => renamed && old == previous.name with
  | some (_, newName, _) =>
    [.comment (address ++ "." ++ previous.name ++ " was renamed to " ++ newName ++
      "; nothing to drop")]
  | none =>
    if continuations.any (·.1 == previous.name) then [] else [.dropColumn address previous.name]

/-- The work on the columns of a table that continues another. -/
def columnsWork (c : Comparison) (oldSchema : String) (oldTable : Table) (schema : String)
    (table : Table) : Except SchemaError Draft := do
  let work ← table.columns.mapM fun col => do
    return (col, ← c.columnWork oldSchema oldTable schema table col)
  let continuations := work.filterMap fun (col, _, old) =>
    old.map fun (previous, renamed) => (previous.name, col.name, renamed)
  let address := Sql.qualified schema table.name
  return Draft.join (work.map (·.2.1)) ++
    { stage3 := oldTable.columns.flatMap (removeColumn address continuations) }

/-- The work on a table of the new version. -/
def tableWork (c : Comparison) (schema : String) (table : Table) : Except SchemaError Draft := do
  match c.oldVersion? schema table.name with
  | none => return .first (← c.createTable schema table)
  | some (oldSchema, oldTable) =>
    let columns ← c.columnsWork oldSchema.name oldTable schema table
    return .first (renameTable oldSchema.name oldTable.name schema table.name) ++ columns ++
      (if oldTable.description == table.description then {}
        else .first [.setComment (.table (Sql.qualified schema table.name)) table.description])

/-- Drops the tables that none continues, those that depend on others first. -/
def dropTables (c : Comparison) : Draft :=
  { stage3 := c.oldTablesReversed.filterMap fun (s, t) =>
      if (c.newVersion? s.name t.name).isNone then some (.dropTable (Sql.qualified s.name t.name))
      else none }

end Comparison

end SchemaPlan
