import SchemaPlan.Model.Basic

/-!
# Operations

What an upgrade consists of.  An `Op` is one change to a database, described without regard to how
it is written; `Sql/Render.lean` writes it as a statement.  Tables, sequences, types, views and
functions are addressed by `schema.name` unless an operation carries their schema and name apart.

A plan is a list of operations, each placed in a stage.
-/

namespace SchemaPlan

/-- The kinds of objects that have owners and privileges. -/
inductive ObjectKind where
  | schema
  | table
  | sequence
  | function
  | view
  | type
deriving DecidableEq

/-- An object that has an owner and privileges; a function is told apart by its arguments. -/
structure ObjectRef where
  kind : ObjectKind
  name : String
  args : Option String := none
deriving DecidableEq

/-- An object that can be commented on. -/
inductive CommentTarget where
  | schema (name : String)
  | table (address : String)
  | column (table column : String)
  | view (address : String)
deriving DecidableEq

/-- A column as it is created, with its type resolved. -/
structure ColumnDef where
  name : String
  dataType : String
  nullable : Bool := true
  default? : Option String := none
deriving DecidableEq

/-- A change to a column. -/
inductive ColumnChange where
  | type (dataType : String) (using? : Option String)
  | setDefault (value : String)
  | dropDefault
  | setNotNull
  | dropNotNull
deriving DecidableEq

/-- A change to a domain. -/
inductive DomainChange where
  | setDefault (value : String)
  | dropDefault
  | setNotNull
  | dropNotNull
  | addCheck (check : DomainCheck)
  | dropCheck (name : String)
deriving DecidableEq

/-- Where a new value goes in an enumeration. -/
inductive EnumPosition where
  | before (value : String)
  | after (value : String)
deriving DecidableEq

/-- Changes to a sequence.  What is absent stays as it is; where a bound or an owner is present but
empty, it is reset. -/
structure SequenceChanges where
  start : Option Int := none
  increment : Option Int := none
  minValue : Option (Option Int) := none
  maxValue : Option (Option Int) := none
  cache : Option Int := none
  cycle : Option Bool := none
  ownedBy : Option (Option String) := none
deriving DecidableEq

/-- The next value of a column that counts by itself. -/
inductive SerialValue where
  /-- Exactly this one. -/
  | start (value : Int)
  /-- The one after the largest in the column. -/
  | afterMax
deriving DecidableEq

/-- A constraint of a table, however it was declared. -/
structure Constraint where
  name : String
  schema : String
  table : String
  kind : ConstraintKind
  definition : String
  /-- The table that a foreign key refers to. -/
  references : Option (String × String) := none
  /-- The columns of a primary key or of a foreign key declared on a column. -/
  columns : List String := []
  onDelete : Option ReferenceAction := none
  onUpdate : Option ReferenceAction := none
deriving DecidableEq

/-- Columns with a literal for each. -/
abbrev Assignments := List (String × String)

/-- One change to a database. -/
inductive Op where
  | comment (text : String)
  | customSql (text : String)
  | createSchema (name : String)
  | dropSchema (name : String)
  | createType (schema : String) (typeDef : TypeDef)
  | dropType (name : String) (domain : Bool)
  | addEnumValue (typeName value : String) (position : Option EnumPosition)
  | alterDomain (name : String) (change : DomainChange)
  | createSequence (schema : String) (sequence : Sequence)
  | alterSequence (name : String) (changes : SequenceChanges)
  | dropSequence (name : String)
  | setSerialValue (table column : String) (value : SerialValue)
  | createFunction (schema : String) (function : Routine) (replace : Bool)
  | dropFunction (name args : String)
  | createTable (table : String) (columns : List ColumnDef) (inherits : Option String)
  | dropTable (table : String)
  | setTableSchema (table schema : String)
  | renameTable (table newName : String)
  | addColumn (table : String) (column : ColumnDef)
  | dropColumn (table column : String)
  | renameColumn (table old new : String)
  | alterColumn (table column : String) (change : ColumnChange)
  /-- Gives a value to the rows that have none: the one given, or else the default. -/
  | backfillColumn (table column : String) (value : Option String)
  | addConstraint (constraint : Constraint)
  | dropConstraint (table name : String)
  | createIndex (table : String) (index : Index)
  | dropIndex (schema name : String)
  | setCluster (table : String) (index : Option String)
  | createTrigger (schema : String) (trigger : Trigger)
  | dropTrigger (table name : String)
  | createView (schema : String) (view : View)
  | dropView (name : String)
  | alterOwner (object : ObjectRef) (owner : String)
  | grant (object : ObjectRef) (roles operations : List String) (withGrantOption : Bool)
  | revoke (object : ObjectRef) (roles operations : List String)
  | setComment (target : CommentTarget) (text : Option String)
  | insertRow (table : String) (columns values : List String)
  | updateRow (table : String) (assignments key previous : Assignments)
  | deleteRow (table : String) (key : Assignments)
deriving DecidableEq

/-- An operation placed in its stage. -/
structure PlannedOp where
  stage : Stage
  op : Op
deriving DecidableEq

/-- The operations of an upgrade in the order in which they are carried out. -/
abbrev Plan := List PlannedOp

end SchemaPlan
