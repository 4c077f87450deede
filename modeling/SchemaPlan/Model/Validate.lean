import SchemaPlan.Model.Lookup

/-!
# Coherent definitions

`Database.validate` checks that a definition is coherent: names are given and not repeated, what is
referred to exists, every column has a type, and static rows fit their table and have keys of their
own.  A coherent definition can be compared with another without looking again at any of this.

Checks run in the order of declaration and the first fault found is reported.
-/

namespace SchemaPlan

/-- A check that succeeds when a condition holds. -/
def ensure (condition : Bool) (e : SchemaError) : Except SchemaError Unit :=
  if condition then .ok () else .error e

/-- Checks elements in turn, each in the light of those before it, the latest first. -/
def checkFrom {α : Type} (check : List α → α → Except SchemaError Unit) (before : List α) :
    List α → Except SchemaError Unit
  | [] => .ok ()
  | x :: xs => do
    check before x
    checkFrom check (x :: before) xs

/-- Checks elements in turn, each in the light of those before it. -/
def checkEach {α : Type} (xs : List α) (check : List α → α → Except SchemaError Unit) :
    Except SchemaError Unit :=
  checkFrom check [] xs

/-- Checks elements in turn. -/
def checkAll {α : Type} (xs : List α) (check : α → Except SchemaError Unit) :
    Except SchemaError Unit :=
  checkEach xs fun _ x => check x

/-- Checks that names inside a schema are given and not repeated. -/
def checkNames (schema : String) (what : Named) (names : List String) :
    Except SchemaError Unit :=
  checkEach names fun before name => do
    ensure (!Text.isAllBlank name) (.definition schema (.nameRequired what))
    ensure (!before.contains name)
      (.definition (schema ++ "." ++ name) (.duplicateName what))

/-! ### Tables -/

/-- Checks a column of a table. -/
def checkColumn (db : Database) (schema : String) (table : Table) (before : List Column)
    (c : Column) : Except SchemaError Unit := do
  let address := schema ++ "." ++ table.name
  let object := address ++ "." ++ c.name
  ensure (!Text.isAllBlank c.name) (.definition address (.nameRequired .column))
  ensure (!before.any (·.name == c.name)) (.definition object (.duplicateName .column))
  match c.dataType, c.foreignKey with
  | some _, some _ => throw (.definition object .typeAndForeignKey)
  | none, none => throw (.definition object .typeOrForeignKeyRequired)
  | some t, none => ensure (!Text.isAllBlank t) (.definition object .emptyType)
  | none, some _ => pure ()
  discard (db.columnType schema table.name c.name)

/-- Checks that the target of a foreign key constraint exists. -/
def checkTarget (db : Database) (schema : String) (table : Table) (c : ConstraintDecl) :
    Except SchemaError Unit :=
  match c.target? with
  | none => .ok ()
  | some target =>
    let (targetSchema, targetTable) := target.resolve schema
    ensure (db.table? targetSchema targetTable).isSome
      (.definition (schema ++ "." ++ table.name ++ "." ++ c.name)
        (.targetMissing (targetSchema ++ "." ++ targetTable)))

/-- Checks an index of a table. -/
def checkIndex (address : String) (before : List Index) (i : Index) : Except SchemaError Unit := do
  let object := address ++ "." ++ i.name
  ensure (!before.any (·.name == i.name)) (.definition object (.duplicateName .index))
  ensure (!i.dimensions.isEmpty) (.definition object .noDimensions)

/-- The place of each key column among the columns of static rows. -/
def keyPositions (address : String) (columns : List String) (key : List String) :
    Except SchemaError (List Nat) :=
  key.mapM fun column =>
    match columns.findIdx? (· == column) with
    | some position => .ok position
    | none => .error (.definition address (.rowsOmitKey column))

/-- What the row of that number counts as. -/
def rowIdentity (address : String) (columns : List String) (positions : List Nat) (number : Nat)
    (row : Row) : Except SchemaError (List String) :=
  positions.mapM fun position =>
    match row.cell? position with
    | some cell => .ok cell.identity
    | none => .error (.definition address (.rowLacksKey number (columns.getD position "")))

/-- Checks rows from a number on; `seen` is what the rows before count as. -/
def checkRowsFrom (address : String) (columns : List String) (positions : List Nat)
    (number : Nat) (seen : List (List String)) : List Row → Except SchemaError Unit
  | [] => .ok ()
  | row :: rows => do
    ensure (row.cells.length ≤ columns.length)
      (.definition address (.rowTooLong number row.cells.length columns.length))
    let identity ← rowIdentity address columns positions number row
    ensure (!seen.contains identity) (.definition address (.duplicateKey identity))
    checkRowsFrom address columns positions (number + 1) (identity :: seen) rows

/-- Checks the static rows of a table. -/
def checkRows (db : Database) (schema : String) (table : Table) (rows : RowSet) :
    Except SchemaError Unit := do
  let address := schema ++ "." ++ table.name
  ensure (!table.primaryKey.isEmpty) (.definition address .rowsWithoutKey)
  checkAll rows.columns fun column =>
    ensure (db.findColumn? schema table.name column).isSome
      (.definition (address ++ "." ++ column) .rowsColumnMissing)
  let positions ← keyPositions address rows.columns table.primaryKey
  checkRowsFrom address rows.columns positions 0 [] rows.rows

/-- Checks a table. -/
def checkTable (db : Database) (schema : String) (table : Table) : Except SchemaError Unit := do
  let address := schema ++ "." ++ table.name
  if let some parent := table.inherits then
    let (parentSchema, parentTable) := parent.resolve schema
    ensure (db.table? parentSchema parentTable).isSome
      (.definition address (.parentMissing (parentSchema ++ "." ++ parentTable)))
  checkEach table.columns (checkColumn db schema table)
  checkAll table.primaryKey fun column =>
    ensure (db.findColumn? schema table.name column).isSome
      (.definition address (.keyColumnMissing column))
  checkAll table.constraints (checkTarget db schema table)
  checkEach table.indexes (checkIndex address)
  if let some index := table.clusterIndex then
    ensure (table.index? index).isSome (.definition address (.clusterIndexMissing index))
  if let some rows := table.rows then
    checkRows db schema table rows

/-! ### Schemas -/

/-- Checks a trigger of a schema. -/
def checkTrigger (s : Schema) (before : List Trigger) (t : Trigger) : Except SchemaError Unit := do
  let object := s.name ++ "." ++ t.table ++ "." ++ t.name
  ensure (s.table? t.table).isSome
    (.definition (s.name ++ "." ++ t.name) (.triggerTableMissing (s.name ++ "." ++ t.table)))
  ensure (!t.events.isEmpty) (.definition object .noEvents)
  ensure (!before.any fun b => b.table == t.table && b.name == t.name)
    (.definition object (.duplicateName .trigger))

/-- Checks a schema. -/
def checkSchema (db : Database) (s : Schema) : Except SchemaError Unit := do
  checkNames s.name .table (s.tables.map (·.name))
  checkNames s.name .sequence (s.sequences.map (·.name))
  checkNames s.name .type (s.types.map (·.name))
  checkNames s.name .view (s.views.map (·.name))
  checkEach (s.functions.map (·.signature)) fun before signature =>
    ensure (!before.contains signature)
      (.definition (s.name ++ "." ++ signature) .ambiguousOverload)
  checkEach s.triggers (checkTrigger s)
  checkAll s.tables (checkTable db s.name)

/-- Checks a definition. -/
def Database.validate (db : Database) : Except SchemaError Unit :=
  checkEach db.schemas fun before s => do
    ensure (!Text.isAllBlank s.name) (.definition "<schema>" (.nameRequired .schema))
    ensure (!before.any (·.name == s.name)) (.definition s.name (.duplicateName .schema))
    checkSchema db s

end SchemaPlan
