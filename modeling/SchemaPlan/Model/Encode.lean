import SchemaPlan.Json.Printer
import SchemaPlan.Model.Basic
import SchemaPlan.Digest

/-!
# Writing a definition

The JSON value of a definition, with every field written out in the order of declaration, and the
fingerprint, which is the digest of that value's canonical text.  Two definitions have the same
fingerprint when they say the same in the same order.
-/

namespace SchemaPlan.Encode

open Json (field text)

/-! ### Single values -/

/-- Writes a list. -/
def list {α : Type} (write : α → Json) (xs : List α) : Json :=
  .arr (xs.map write)

/-- Writes an optional value. -/
def optional {α : Type} (write : α → Json) : Option α → Json
  | none => .null
  | some x => write x

/-- Writes texts. -/
def texts (xs : List String) : Json :=
  list text xs

/-- Writes an optional text. -/
def text? : Option String → Json :=
  optional text

/-- Writes an optional integer. -/
def integer? : Option Int → Json :=
  optional .int

/-! ### Words -/

/-- Writes what happens to referencing rows. -/
def referenceAction : ReferenceAction → Json
  | .noAction => text "no_action"
  | .restrict => text "restrict"
  | .cascade => text "cascade"
  | .setNull => text "set_null"
  | .setDefault => text "set_default"

/-- Writes a kind of constraint. -/
def constraintKind : ConstraintKind → Json
  | .primaryKey => text "primary_key"
  | .foreignKey => text "foreign_key"
  | .unique => text "unique"
  | .check => text "check"

/-- Writes a volatility. -/
def volatility : Volatility → Json
  | .immutable => text "immutable"
  | .stable => text "stable"
  | .volatile => text "volatile"

/-- Writes the time of a trigger. -/
def triggerTiming : TriggerTiming → Json
  | .before => text "before"
  | .after => text "after"
  | .insteadOf => text "instead_of"

/-- Writes an event. -/
def triggerEvent : TriggerEvent → Json
  | .insert => text "insert"
  | .update => text "update"
  | .delete => text "delete"
  | .truncate => text "truncate"

/-- Writes what a trigger runs for. -/
def triggerLevel : TriggerLevel → Json
  | .row => text "row"
  | .statement => text "statement"

/-- Writes a stage. -/
def stage (s : Stage) : Json :=
  text s.name

/-! ### Parts of tables -/

/-- Writes a grant. -/
def grant (g : Grant) : Json :=
  .obj [field "roles" (texts g.roles), field "operations" (texts g.operations),
    field "with_grant_option" (.bool g.withGrantOption)]

/-- Writes a reference to a table. -/
def tableRef (r : TableRef) : Json :=
  .obj [field "schema" (text? r.schema), field "table" (text r.table)]

/-- Writes a foreign key. -/
def foreignKey (k : ForeignKey) : Json :=
  .obj [field "schema" (text? k.schema), field "table" (text k.table),
    field "column" (text? k.column), field "on_delete" (optional referenceAction k.onDelete),
    field "on_update" (optional referenceAction k.onUpdate),
    field "constraint_name" (text? k.constraintName)]

/-- Writes a column. -/
def column (c : Column) : Json :=
  .obj [field "name" (text c.name), field "type" (text? c.dataType),
    field "foreign_key" (optional foreignKey c.foreignKey), field "nullable" (.bool c.nullable),
    field "default" (text? c.default?), field "unique" (.bool c.unique),
    field "old_name" (text? c.oldName), field "convert_using" (text? c.convertUsing),
    field "description" (text? c.description), field "serial_start" (integer? c.serialStart)]

/-- Writes a constraint. -/
def constraint (c : ConstraintDecl) : Json :=
  .obj [field "name" (text c.name), field "kind" (constraintKind c.kind),
    field "definition" (text c.definition), field "references" (optional tableRef c.references),
    field "on_delete" (optional referenceAction c.onDelete),
    field "on_update" (optional referenceAction c.onUpdate)]

/-- Writes an index. -/
def index (i : Index) : Json :=
  .obj [field "name" (text i.name), field "unique" (.bool i.unique),
    field "method" (text? i.method), field "dimensions" (texts i.dimensions),
    field "predicate" (text? i.predicate)]

/-- A cell that is only a value is written as that value. -/
def cell : Cell → Json
  | { value := some v, null := false, empty := false, sql := false } => text v
  | c => .obj [field "value" (text? c.value), field "null" (.bool c.null),
      field "empty" (.bool c.empty), field "sql" (.bool c.sql)]

/-- A row is written as its cells unless it is marked as deleted. -/
def row (r : Row) : Json :=
  if r.delete then .obj [field "cells" (list cell r.cells), field "delete" (.bool true)]
  else list cell r.cells

/-- Writes static rows. -/
def rowSet (r : RowSet) : Json :=
  .obj [field "columns" (texts r.columns), field "rows" (list row r.rows)]

/-- Writes a table. -/
def table (t : Table) : Json :=
  .obj [field "name" (text t.name), field "owner" (text? t.owner),
    field "description" (text? t.description), field "old_name" (text? t.oldName),
    field "old_schema" (text? t.oldSchema), field "primary_key" (texts t.primaryKey),
    field "primary_key_name" (text? t.primaryKeyName),
    field "inherits" (optional tableRef t.inherits), field "cluster_index" (text? t.clusterIndex),
    field "columns" (list column t.columns), field "constraints" (list constraint t.constraints),
    field "indexes" (list index t.indexes), field "grants" (list grant t.grants),
    field "rows" (optional rowSet t.rows)]

/-! ### Other objects -/

/-- Writes a sequence. -/
def sequence (s : Sequence) : Json :=
  .obj [field "name" (text s.name), field "owner" (text? s.owner),
    field "start" (integer? s.start), field "increment" (integer? s.increment),
    field "min_value" (integer? s.minValue), field "max_value" (integer? s.maxValue),
    field "cache" (integer? s.cache), field "cycle" (.bool s.cycle),
    field "owned_by" (text? s.ownedBy), field "grants" (list grant s.grants)]

/-- Writes a field of a type. -/
def typeField (f : TypeField) : Json :=
  .obj [field "name" (text f.name), field "type" (text f.dataType)]

/-- Writes a check of a domain. -/
def domainCheck (c : DomainCheck) : Json :=
  .obj [field "name" (text c.name), field "definition" (text c.definition)]

/-- The kind of a type and the fields that belong to it. -/
def typeBody : TypeBody → List (Option String × Json)
  | .enum values => [field "kind" (text "enum"), field "values" (texts values)]
  | .composite fields =>
    [field "kind" (text "composite"), field "fields" (list typeField fields)]
  | .domain baseType default? nullable checks =>
    [field "kind" (text "domain"), field "base_type" (text baseType),
      field "default" (text? default?), field "nullable" (.bool nullable),
      field "checks" (list domainCheck checks)]

/-- Writes a type. -/
def typeDef (t : TypeDef) : Json :=
  .obj ([field "name" (text t.name), field "owner" (text? t.owner)] ++ typeBody t.body)

/-- Writes a view. -/
def view (v : View) : Json :=
  .obj [field "name" (text v.name), field "owner" (text? v.owner),
    field "description" (text? v.description), field "query" (text v.query),
    field "grants" (list grant v.grants)]

/-- Writes an argument. -/
def argument (a : Argument) : Json :=
  .obj [field "name" (text? a.name), field "type" (text a.dataType)]

/-- Writes a function. -/
def routine (f : Routine) : Json :=
  .obj [field "name" (text f.name), field "owner" (text? f.owner),
    field "arguments" (list argument f.arguments), field "returns" (text f.returns),
    field "language" (text f.language), field "definition" (text f.definition),
    field "volatility" (optional volatility f.volatility),
    field "security_definer" (.bool f.securityDefiner), field "grants" (list grant f.grants)]

/-- Writes a trigger. -/
def trigger (t : Trigger) : Json :=
  .obj [field "name" (text t.name), field "table" (text t.table),
    field "timing" (triggerTiming t.timing), field "events" (list triggerEvent t.events),
    field "for_each" (triggerLevel t.forEach), field "function" (text t.function),
    field "when" (text? t.when?)]

/-- Writes a schema. -/
def schema (s : Schema) : Json :=
  .obj [field "name" (text s.name), field "owner" (text? s.owner),
    field "description" (text? s.description), field "grants" (list grant s.grants),
    field "tables" (list table s.tables), field "sequences" (list sequence s.sequences),
    field "types" (list typeDef s.types), field "views" (list view s.views),
    field "functions" (list routine s.functions), field "triggers" (list trigger s.triggers)]

/-- Writes a statement of the definition. -/
def customSql (c : CustomSql) : Json :=
  .obj [field "stage" (stage c.stage), field "before" (.bool c.before),
    field "text" (text c.text), field "comment" (text? c.comment)]

/-- Writes a definition. -/
def database (db : Database) : Json :=
  .obj [field "schemas" (list schema db.schemas), field "sql" (list customSql db.sql)]

end SchemaPlan.Encode

namespace SchemaPlan

/-- The canonical text of a definition. -/
def Database.canonicalText (db : Database) : String :=
  (Encode.database db).render

/-- The digest of the canonical text, which tells definitions apart. -/
def Database.fingerprint (db : Database) : String :=
  Digest.hex db.canonicalText

end SchemaPlan
