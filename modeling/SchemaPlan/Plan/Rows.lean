import SchemaPlan.Plan.Tables
import SchemaPlan.Sql.Literal

/-!
# Reconciling static rows

The static rows of a table are compared with those of the table it continues.  Rows are matched by
what their key cells count as; the two versions may list their columns differently.  A row that is
no longer wanted is deleted, one that is new is inserted, and one whose values differ is updated in
the columns where they do.

A cell that is not given has the default of its column.
-/

namespace SchemaPlan

/-- The static rows of a table of a definition, with the places of the key columns. -/
structure StaticRows where
  db : Database
  schema : String
  table : Table
  columns : List String
  rows : List Row
  keyPlaces : List Nat

namespace StaticRows

/-- The static rows of a table, if it has any. -/
def ofTable (db : Database) (schema : String) (table : Table) :
    Except SchemaError (Option StaticRows) :=
  match table.rows with
  | none => .ok none
  | some rows => do
    let address := Sql.qualified schema table.name
    let keyPlaces ← keyPositions address rows.columns table.primaryKey
    ensure (!keyPlaces.isEmpty) (.definition address .rowsWithoutKey)
    return some { db, schema, table, columns := rows.columns, rows := rows.rows, keyPlaces }

/-- What a row counts as. -/
def identity (s : StaticRows) (row : Row) : List String :=
  s.keyPlaces.map fun p => ((row.cell? p).map Cell.identity).getD ""

/-- The rows that should exist. -/
def present (s : StaticRows) : List Row :=
  s.rows.filter (!·.delete)

/-- The row that should exist and counts as this; the last one, should there be several. -/
def find? (s : StaticRows) (identity : List String) : Option Row :=
  s.present.reverse.find? fun row => s.identity row == identity

/-- The place of a column. -/
def place? (s : StaticRows) (column : String) : Option Nat :=
  s.columns.findIdx? (· == column)

/-- A cell of a column as it is written. -/
def literal (s : StaticRows) (column : String) (cell : Option Cell) :
    Except SchemaError String :=
  match cell.filter fun c => c.null || c.empty || c.value.isSome with
  | none => .ok ((s.db.columnDefault? s.schema s.table.name column).getD "NULL")
  | some c => do
    return Sql.literal (← s.db.columnType s.schema s.table.name column) c

/-- The value that a row has in a column. -/
def value (s : StaticRows) (row : Row) (column : String) : Except SchemaError String :=
  s.literal column ((s.place? column).bind row.cell?)

/-- The key of a row under the given names. -/
def key (s : StaticRows) (names : List String) (row : Row) : Except SchemaError Assignments :=
  (names.zip s.keyPlaces).mapM fun (name, p) => do
    return (name, ← s.literal (s.columns.getD p "") (row.cell? p))

end StaticRows

/-! ### Deletions -/

/-- Deletes the old rows that are not wanted any more. -/
def deleteRows (address : String) (new old : StaticRows) : Except SchemaError (List Op) := do
  let unwanted := old.present.filter fun row => (new.find? (old.identity row)).isNone
  unwanted.mapM fun row => do
    return .deleteRow address (← old.key new.table.primaryKey row)

/-! ### Insertions and updates -/

/-- A value that a column is given, and the value it had if the old rows say so. -/
structure Assignment where
  column : String
  value : String
  old : Option String

namespace Comparison

/-- The name that a column had in the previous version. -/
def oldColumnName (c : Comparison) (new old : StaticRows) (column : String) :
    Except SchemaError String :=
  match new.table.column? column with
  | none => .ok column
  | some col => do
    let object := Sql.qualified new.schema new.table.name ++ "." ++ column
    let previous ← oldColumn c.options.renameTracking old.table col object
    return (previous.map (·.1.name)).getD column

/-- What becomes of a column that is not part of the key, if anything. -/
def assignment? (c : Comparison) (new old : StaticRows) (row previous : Row) (column : String) :
    Except SchemaError (Option Assignment) := do
  let value ← new.value row column
  let oldName ← c.oldColumnName new old column
  match old.place? oldName with
  | none => return some ⟨column, value, none⟩
  | some p =>
    let oldValue ← old.literal oldName (previous.cell? p)
    return if oldValue == value then none else some ⟨column, value, some oldValue⟩

/-- Changes a row into another. -/
def updateRow (c : Comparison) (address : String) (new old : StaticRows) (row previous : Row) :
    Except SchemaError (List Op) := do
  let columns := new.columns.filter (!new.table.primaryKey.contains ·)
  let changes := (← columns.mapM (c.assignment? new old row previous)).filterMap id
  if changes.isEmpty then
    return []
  let key ← new.key new.table.primaryKey row
  return [.updateRow address (changes.map fun a => (a.column, a.value)) key
    (changes.filterMap fun a => a.old.map fun v => (a.column, v))]

/-- Inserts a row. -/
def insertRow (address : String) (new : StaticRows) (row : Row) :
    Except SchemaError (List Op) := do
  return [.insertRow address new.columns (← new.columns.mapM (new.value row))]

/-- Whether a row has to be inserted, since no old row counts as the same. -/
def isNewRow (new : StaticRows) (old : Option StaticRows) (row : Row) : Bool :=
  (old.bind fun o => o.find? (new.identity row)).isNone

/-- Inserts a row or updates the old row that counts as the same. -/
def upsertRow (c : Comparison) (address : String) (new : StaticRows) (old : Option StaticRows)
    (row : Row) : Except SchemaError (List Op) :=
  match old with
  | none => insertRow address new row
  | some o =>
    match o.find? (new.identity row) with
    | none => insertRow address new row
    | some previous => c.updateRow address new o row previous

/-- Moves a key that counts by itself past the rows inserted, unless its start is declared. -/
def advanceKey (new : StaticRows) (address : String) : List Op :=
  match new.table.primaryKey with
  | [pk] =>
    match new.table.column? pk with
    | none => []
    | some col =>
      if col.dataType.any Sql.TypeName.isSerial && col.serialStart.isNone then
        [.setSerialValue address pk .afterMax]
      else []
  | _ => []

/-- Inserts and updates rows. -/
def upsertRows (c : Comparison) (address : String) (new : StaticRows) (old : Option StaticRows) :
    Except SchemaError (List Op) := do
  let ops := (← new.present.mapM (c.upsertRow address new old)).flatten
  return ops ++ (if new.present.any (isNewRow new old) then advanceKey new address else [])

/-! ### Tables -/

/-- The static rows of a table and those it is compared with, which must have as many key
columns. -/
def rowSides (c : Comparison) (schema : String) (table : Table) :
    Except SchemaError (Option (StaticRows × Option StaticRows)) := do
  let some new ← StaticRows.ofTable c.new schema table | return none
  let old ← match c.old, c.oldVersion? schema table.name with
    | some db, some (oldSchema, oldTable) => StaticRows.ofTable db oldSchema.name oldTable
    | _, _ => pure none
  return some (new, old.filter fun o => o.keyPlaces.length == new.keyPlaces.length)

/-- The rows of a table that are deleted. -/
def tableDeletes (c : Comparison) (schema : String) (table : Table) :
    Except SchemaError (List Op) := do
  match ← c.rowSides schema table with
  | some (new, some old) => deleteRows (Sql.qualified schema table.name) new old
  | _ => return []

/-- The rows of a table that are inserted or updated. -/
def tableUpserts (c : Comparison) (schema : String) (table : Table) :
    Except SchemaError (List Op) := do
  match ← c.rowSides schema table with
  | some (new, old) => c.upsertRows (Sql.qualified schema table.name) new old
  | none => return []

/-- The work on static rows: deletions, dependent tables first, then insertions and updates. -/
def rowWork (c : Comparison) : Except SchemaError Draft := do
  let deletes ← c.newTables.reverse.mapM fun (s, t) => c.tableDeletes s.name t
  let upserts ← c.newTables.mapM fun (s, t) => c.tableUpserts s.name t
  return { stage2 := deletes.flatten ++ upserts.flatten }

end Comparison

end SchemaPlan
