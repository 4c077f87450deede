import SchemaPlan.Sql.Name
import SchemaPlan.Text.Case

/-!
# Definitions of a database

A `Database` is what one version of a definition says: its schemas with their tables, sequences,
types, views, functions and triggers, and statements of its own that run in a chosen stage.  It is
plain data.  Names refer to each other as text, so a definition can be incoherent;
`Model/Validate.lean` says when it is not.

The order of declaration is part of a definition: it decides the order of operations wherever
nothing else does.
-/

namespace SchemaPlan

/-- A set of privileges given to some roles. -/
structure Grant where
  roles : List String
  operations : List String
  withGrantOption : Bool := false
deriving DecidableEq

/-- A table named from inside a schema, which is meant when no schema is given. -/
structure TableRef where
  schema : Option String := none
  table : String
deriving DecidableEq

/-- The schema and the name of the table that a reference made inside `schema` means. -/
def TableRef.resolve (r : TableRef) (schema : String) : String × String :=
  (r.schema.getD schema, r.table)

/-! ### Tables -/

/-- What happens to referencing rows when a referenced row changes. -/
inductive ReferenceAction where
  | noAction
  | restrict
  | cascade
  | setNull
  | setDefault
deriving DecidableEq

/-- A foreign key declared on a column. -/
structure ForeignKey where
  schema : Option String := none
  table : String
  /-- The referenced column; the referencing column's name when absent. -/
  column : Option String := none
  onDelete : Option ReferenceAction := none
  onUpdate : Option ReferenceAction := none
  constraintName : Option String := none
deriving DecidableEq

/-- A column of a table.  It has a type of its own or that of the column it refers to. -/
structure Column where
  name : String
  dataType : Option String := none
  foreignKey : Option ForeignKey := none
  nullable : Bool := true
  /-- The default, as an expression. -/
  default? : Option String := none
  unique : Bool := false
  /-- The name of this column in the previous version. -/
  oldName : Option String := none
  /-- The expression that converts the old values when the type changes. -/
  convertUsing : Option String := none
  description : Option String := none
  /-- The first value of a column that counts by itself. -/
  serialStart : Option Int := none
deriving DecidableEq

/-- The kinds of constraints. -/
inductive ConstraintKind where
  | primaryKey
  | foreignKey
  | unique
  | check
deriving DecidableEq

/-- A constraint declared on a table. -/
structure ConstraintDecl where
  name : String
  kind : ConstraintKind
  /-- What follows the kind in a statement. -/
  definition : String
  /-- The target of a foreign key; read off the definition when absent. -/
  references : Option TableRef := none
  onDelete : Option ReferenceAction := none
  onUpdate : Option ReferenceAction := none
deriving DecidableEq

/-- An index of a table. -/
structure Index where
  name : String
  unique : Bool := false
  method : Option String := none
  dimensions : List String
  predicate : Option String := none
deriving DecidableEq

/-- One value of a static row. -/
structure Cell where
  value : Option String := none
  null : Bool := false
  empty : Bool := false
  /-- The value is an expression. -/
  sql : Bool := false
deriving DecidableEq

/-- A static row. -/
structure Row where
  cells : List Cell
  /-- The row must not exist. -/
  delete : Bool := false
deriving DecidableEq

/-- The static rows of a table, with the columns that their cells belong to. -/
structure RowSet where
  columns : List String
  rows : List Row := []
deriving DecidableEq

/-- A table. -/
structure Table where
  name : String
  owner : Option String := none
  description : Option String := none
  /-- The name of this table in the previous version. -/
  oldName : Option String := none
  /-- The schema of this table in the previous version. -/
  oldSchema : Option String := none
  primaryKey : List String := []
  primaryKeyName : Option String := none
  inherits : Option TableRef := none
  clusterIndex : Option String := none
  columns : List Column := []
  constraints : List ConstraintDecl := []
  indexes : List Index := []
  grants : List Grant := []
  rows : Option RowSet := none
deriving DecidableEq

/-! ### Other objects -/

/-- A sequence. -/
structure Sequence where
  name : String
  owner : Option String := none
  start : Option Int := none
  increment : Option Int := none
  minValue : Option Int := none
  maxValue : Option Int := none
  cache : Option Int := none
  cycle : Bool := false
  /-- The column, written `table.column`, that the sequence goes away with. -/
  ownedBy : Option String := none
  grants : List Grant := []
deriving DecidableEq

/-- A field of a composite type. -/
structure TypeField where
  name : String
  dataType : String
deriving DecidableEq

/-- A condition on the values of a domain. -/
structure DomainCheck where
  name : String
  definition : String
deriving DecidableEq

/-- What a type consists of. -/
inductive TypeBody where
  | enum (values : List String)
  | composite (fields : List TypeField)
  | domain (baseType : String) (default? : Option String) (nullable : Bool)
      (checks : List DomainCheck)
deriving DecidableEq

/-- A type. -/
structure TypeDef where
  name : String
  owner : Option String := none
  body : TypeBody
deriving DecidableEq

/-- A view. -/
structure View where
  name : String
  owner : Option String := none
  description : Option String := none
  query : String
  grants : List Grant := []
deriving DecidableEq

/-- An argument of a function. -/
structure Argument where
  name : Option String := none
  dataType : String
deriving DecidableEq

/-- What a function promises about its results. -/
inductive Volatility where
  | immutable
  | stable
  | volatile
deriving DecidableEq

/-- A function. -/
structure Routine where
  name : String
  owner : Option String := none
  arguments : List Argument := []
  returns : String
  language : String
  /-- The body, which is written out as it is. -/
  definition : String
  volatility : Option Volatility := none
  securityDefiner : Bool := false
  grants : List Grant := []
deriving DecidableEq

/-- When a trigger fires. -/
inductive TriggerTiming where
  | before
  | after
  | insteadOf
deriving DecidableEq

/-- What a trigger fires on. -/
inductive TriggerEvent where
  | insert
  | update
  | delete
  | truncate
deriving DecidableEq

/-- How often a trigger fires. -/
inductive TriggerLevel where
  | row
  | statement
deriving DecidableEq

/-- A trigger. -/
structure Trigger where
  name : String
  table : String
  timing : TriggerTiming
  events : List TriggerEvent
  forEach : TriggerLevel := .row
  /-- The function that is called. -/
  function : String
  when? : Option String := none
deriving DecidableEq

/-! ### The whole -/

/-- The four stages of an upgrade: additions, static rows, changes that take something away, and
statements that asked to come last. -/
inductive Stage where
  | stage1
  | stage2
  | stage3
  | stage4
deriving DecidableEq

/-- A statement given by the definition itself. -/
structure CustomSql where
  stage : Stage
  /-- Run at the start of the stage instead of its end. -/
  before : Bool := false
  text : String
  comment : Option String := none
deriving DecidableEq

/-- A schema. -/
structure Schema where
  name : String
  owner : Option String := none
  description : Option String := none
  grants : List Grant := []
  tables : List Table := []
  sequences : List Sequence := []
  types : List TypeDef := []
  views : List View := []
  functions : List Routine := []
  triggers : List Trigger := []
deriving DecidableEq

/-- A version of a definition. -/
structure Database where
  schemas : List Schema := []
  sql : List CustomSql := []
deriving DecidableEq

/-! ### Wording -/

/-- A reference action as it stands in a statement. -/
def ReferenceAction.sql : ReferenceAction → String
  | .noAction => "NO ACTION"
  | .restrict => "RESTRICT"
  | .cascade => "CASCADE"
  | .setNull => "SET NULL"
  | .setDefault => "SET DEFAULT"

/-- A kind of constraint as it stands in a statement. -/
def ConstraintKind.sql : ConstraintKind → String
  | .primaryKey => "PRIMARY KEY"
  | .foreignKey => "FOREIGN KEY"
  | .unique => "UNIQUE"
  | .check => "CHECK"

/-- The stages in the order they run in. -/
def Stage.all : List Stage :=
  [.stage1, .stage2, .stage3, .stage4]

/-- The number of a stage. -/
def Stage.number : Stage → Nat
  | .stage1 => 1
  | .stage2 => 2
  | .stage3 => 3
  | .stage4 => 4

/-- The name of a stage. -/
def Stage.name (s : Stage) : String :=
  "stage" ++ toString s.number

/-! ### Access by name -/

/-- The cell of a row at a position, if the row reaches that far. -/
def Row.cell? (row : Row) (position : Nat) : Option Cell :=
  row.cells[position]?

/-- What a cell counts as when rows are told apart by their keys. -/
def Cell.identity (cell : Cell) : String :=
  if cell.null then "NULL"
  else if cell.empty then ""
  else cell.value.getD "NULL"

/-- The types of the arguments as they stand in a signature. -/
def Routine.argumentTypes (f : Routine) : String :=
  String.intercalate ", " (f.arguments.map fun a => Text.lowercase a.dataType)

/-- The name of a function with its argument types, by which functions are told apart. -/
def Routine.signature (f : Routine) : String :=
  f.name ++ "(" ++ f.argumentTypes ++ ")"

/-- The column of that name. -/
def Table.column? (t : Table) (name : String) : Option Column :=
  t.columns.find? (·.name == name)

/-- The index of that name. -/
def Table.index? (t : Table) (name : String) : Option Index :=
  t.indexes.find? (·.name == name)

/-- The table of that name. -/
def Schema.table? (s : Schema) (name : String) : Option Table :=
  s.tables.find? (·.name == name)

/-- The sequence of that name. -/
def Schema.sequence? (s : Schema) (name : String) : Option Sequence :=
  s.sequences.find? (·.name == name)

/-- The type of that name. -/
def Schema.type? (s : Schema) (name : String) : Option TypeDef :=
  s.types.find? (·.name == name)

/-- The function of that signature. -/
def Schema.function? (s : Schema) (signature : String) : Option Routine :=
  s.functions.find? (·.signature == signature)

/-- The triggers on a table of the schema. -/
def Schema.triggersOn (s : Schema) (table : String) : List Trigger :=
  s.triggers.filter (·.table == table)

/-- The schema of that name. -/
def Database.schema? (db : Database) (name : String) : Option Schema :=
  db.schemas.find? (·.name == name)

/-- The table of that name, with its schema. -/
def Database.table? (db : Database) (schema table : String) : Option (Schema × Table) := do
  let s ← db.schema? schema
  let t ← s.table? table
  return (s, t)

/-- Every table with its schema, in the order of declaration. -/
def Database.tables (db : Database) : List (Schema × Table) :=
  db.schemas.flatMap fun s => s.tables.map fun t => (s, t)

end SchemaPlan
