import SchemaPlan.Op
import SchemaPlan.Sql.DollarQuote
import SchemaPlan.Sql.Literal
import SchemaPlan.Sql.Name

/-!
# Writing operations

`Op.sql` writes an operation as one statement.  The pieces of the definition that are themselves
SQL (types, expressions, constraint definitions, function bodies, queries) go in as they are; names
are quoted where they need it, and everything else is a text between quotes or part of a comment.
-/

namespace SchemaPlan.Sql

open SchemaPlan.Text

/-- Pieces with a comma and a space between them. -/
def commas (pieces : List String) : String :=
  String.intercalate ", " pieces

/-- A piece behind a keyword, if there is one. -/
def clause (keyword : String) : Option String → String
  | none => ""
  | some s => keyword ++ s

namespace Style

/-! ### Pieces of statements -/

/-- Column names between commas. -/
def columnList (style : Style) (columns : List String) : String :=
  commas (columns.map style.ident)

/-- A role; the role of everybody has a keyword of its own. -/
def role (style : Style) (r : String) : String :=
  if asciiLowercase r == "public" then "PUBLIC" else style.ident r

/-- What an index ranges over: the name of a column, which is quoted, or an expression. -/
def dimension (style : Style) (d : String) : String :=
  let t := trimmed d
  if !t.isEmpty && t.toList.all (fun c => isAlphanumeric c || c == '_' || c == '$') then
    style.ident t
  else t

/-- A column in a table's definition. -/
def columnDef (style : Style) (c : ColumnDef) : String :=
  style.ident c.name ++ " " ++ c.dataType ++ (if c.nullable then "" else " NOT NULL") ++
    clause " DEFAULT " c.default?

/-- A condition on the values of a domain. -/
def domainCheck (style : Style) (c : DomainCheck) : String :=
  "CONSTRAINT " ++ style.ident c.name ++ " CHECK (" ++ c.definition ++ ")"

/-- An argument in a function's definition. -/
def argument (style : Style) (a : Argument) : String :=
  match a.name with
  | some name => style.ident name ++ " " ++ a.dataType
  | none => a.dataType

/-- An object that privileges are given on. -/
def privilegeTarget (style : Style) (o : ObjectRef) : String :=
  match o.kind with
  | .schema => "SCHEMA " ++ style.ident o.name
  | .table | .view => "TABLE " ++ style.address o.name
  | .sequence => "SEQUENCE " ++ style.address o.name
  | .type => "TYPE " ++ style.address o.name
  | .function => "FUNCTION " ++ style.address o.name ++ "(" ++ o.args.getD "" ++ ")"

/-- An object that has an owner. -/
def ownedTarget (style : Style) (o : ObjectRef) : String :=
  match o.kind with
  | .view => "VIEW " ++ style.address o.name
  | _ => style.privilegeTarget o

/-- An object that is commented on. -/
def commentTarget (style : Style) : CommentTarget → String
  | .schema name => "SCHEMA " ++ style.ident name
  | .table address => "TABLE " ++ style.address address
  | .view address => "VIEW " ++ style.address address
  | .column table column => "COLUMN " ++ style.address table ++ "." ++ style.ident column

/-- Columns compared with literals. -/
def condition (style : Style) (key : Assignments) : String :=
  String.intercalate " AND " (key.map fun (column, value) =>
    if value == "NULL" then style.ident column ++ " IS NULL"
    else style.ident column ++ " = " ++ value)

/-! ### Statements -/

/-- The statement that creates a table. -/
def createTable (style : Style) (table : String) (columns : List ColumnDef)
    (inherits : Option String) : String :=
  "CREATE TABLE " ++ style.address table ++
    (if columns.isEmpty then " ()"
      else " (\n    " ++ String.intercalate ",\n    " (columns.map style.columnDef) ++ "\n)") ++
    (match inherits with
      | some parent => " INHERITS (" ++ style.address parent ++ ")"
      | none => "") ++ ";"

/-- The statement that creates a type. -/
def createType (style : Style) (schema : String) (t : TypeDef) : String :=
  let name := style.object schema t.name
  match t.body with
  | .enum values =>
    "CREATE TYPE " ++ name ++ " AS ENUM (" ++ commas (values.map quotedText) ++ ");"
  | .composite fields =>
    "CREATE TYPE " ++ name ++ " AS (" ++
      commas (fields.map fun f => style.ident f.name ++ " " ++ f.dataType) ++ ");"
  | .domain baseType default? nullable checks =>
    "CREATE DOMAIN " ++ name ++ " AS " ++ baseType ++ clause " DEFAULT " default? ++
      (if nullable then "" else " NOT NULL") ++
      String.join (checks.map fun c => " " ++ style.domainCheck c) ++ ";"

/-- What is done to a domain. -/
def domainAction (style : Style) : DomainChange → String
  | .setDefault value => "SET DEFAULT " ++ value
  | .dropDefault => "DROP DEFAULT"
  | .setNotNull => "SET NOT NULL"
  | .dropNotNull => "DROP NOT NULL"
  | .addCheck check => "ADD " ++ style.domainCheck check
  | .dropCheck name => "DROP CONSTRAINT " ++ style.ident name

/-- The statement that creates a sequence. -/
def createSequence (style : Style) (schema : String) (s : Sequence) : String :=
  "CREATE SEQUENCE " ++ style.object schema s.name ++
    clause " START WITH " (s.start.map toString) ++
    clause " INCREMENT BY " (s.increment.map toString) ++
    clause " MINVALUE " (s.minValue.map toString) ++
    clause " MAXVALUE " (s.maxValue.map toString) ++
    (if s.cycle then " CYCLE" else "") ++
    clause " CACHE " (s.cache.map toString) ++ ";"

/-- A bound that may be reset. -/
def bound (keyword : String) : Option (Option Int) → String
  | none => ""
  | some none => " NO " ++ keyword
  | some (some n) => " " ++ keyword ++ " " ++ toString n

/-- The statement that changes a sequence. -/
def alterSequence (style : Style) (name : String) (c : SequenceChanges) : String :=
  "ALTER SEQUENCE " ++ style.address name ++
    clause " START WITH " (c.start.map toString) ++
    clause " INCREMENT BY " (c.increment.map toString) ++
    bound "MINVALUE" c.minValue ++ bound "MAXVALUE" c.maxValue ++
    clause " CACHE " (c.cache.map toString) ++
    (match c.cycle with
      | none => ""
      | some cycle => if cycle then " CYCLE" else " NO CYCLE") ++
    (match c.ownedBy with
      | none => ""
      | some none => " OWNED BY NONE"
      | some (some owner) =>
        let (table, column) := match cutAt? '.' owner.toList with
          | some (table, column) => (String.ofList table, String.ofList column)
          | none => (owner, "")
        " OWNED BY " ++ style.object (splitQualified name).1 table ++ "." ++
          style.ident column) ++ ";"

/-- The statement that sets the next value of a column. -/
def setSerialValue (style : Style) (table column : String) (value : SerialValue) : String :=
  "SELECT setval(pg_get_serial_sequence(" ++ quotedText (style.address table) ++ ", " ++
    quotedText column ++ "), " ++
    (match value with
      | .start n => toString n
      | .afterMax =>
        "COALESCE((SELECT MAX(" ++ style.ident column ++ ") FROM " ++ style.address table ++
          "), 0) + 1") ++ ", false);"

/-- A promise in a function's definition. -/
def volatility : Volatility → String
  | .immutable => " IMMUTABLE"
  | .stable => " STABLE"
  | .volatile => " VOLATILE"

/-- The statement that creates a function. -/
def createFunction (style : Style) (schema : String) (f : Routine) (replace : Bool) : String :=
  (if replace then "CREATE OR REPLACE FUNCTION " else "CREATE FUNCTION ") ++
    style.object schema f.name ++ "(" ++ commas (f.arguments.map style.argument) ++ ") RETURNS " ++
    f.returns ++ " LANGUAGE " ++ f.language ++ (f.volatility.map volatility).getD "" ++
    (if f.securityDefiner then " SECURITY DEFINER" else "") ++ " AS " ++
    dollarQuote f.definition ++ ";"

/-- When a trigger fires. -/
def triggerTiming : TriggerTiming → String
  | .before => "BEFORE"
  | .after => "AFTER"
  | .insteadOf => "INSTEAD OF"

/-- What a trigger fires on. -/
def triggerEvent : TriggerEvent → String
  | .insert => "INSERT"
  | .update => "UPDATE"
  | .delete => "DELETE"
  | .truncate => "TRUNCATE"

/-- The statement that creates a trigger. -/
def createTrigger (style : Style) (schema : String) (t : Trigger) : String :=
  let function := trimmed t.function
  "CREATE TRIGGER " ++ style.ident t.name ++ " " ++ triggerTiming t.timing ++ " " ++
    String.intercalate " OR " (t.events.map triggerEvent) ++ " ON " ++
    style.object schema t.table ++
    (match t.forEach with
      | .row => " FOR EACH ROW"
      | .statement => " FOR EACH STATEMENT") ++
    (match t.when? with
      | some condition => " WHEN (" ++ condition ++ ")"
      | none => "") ++
    " EXECUTE FUNCTION " ++ function ++
    (if function.toList.getLast? == some ')' then ";" else "();")

/-- The statement that creates an index. -/
def createIndex (style : Style) (table : String) (i : Index) : String :=
  "CREATE " ++ (if i.unique then "UNIQUE " else "") ++ "INDEX " ++ style.ident i.name ++ " ON " ++
    style.address table ++ clause " USING " i.method ++
    " (" ++ commas (i.dimensions.map style.dimension) ++ ")" ++ clause " WHERE " i.predicate ++ ";"

/-- The statement that adds a constraint. -/
def addConstraint (style : Style) (c : Constraint) : String :=
  "ALTER TABLE " ++ style.object c.schema c.table ++ " ADD CONSTRAINT " ++ style.ident c.name ++
    " " ++ c.kind.sql ++ " " ++ c.definition ++
    clause " ON DELETE " (c.onDelete.map (·.sql)) ++
    clause " ON UPDATE " (c.onUpdate.map (·.sql)) ++ ";"

/-- What is done to a column. -/
def columnAction : ColumnChange → String
  | .type dataType using? => "TYPE " ++ dataType ++ clause " USING " using?
  | .setDefault value => "SET DEFAULT " ++ value
  | .dropDefault => "DROP DEFAULT"
  | .setNotNull => "SET NOT NULL"
  | .dropNotNull => "DROP NOT NULL"

/-- Text as comment lines. -/
def comment (text : String) : String :=
  String.intercalate "\n" ((lines text).map ("-- " ++ ·))

/-- A view's query without what ends a statement. -/
def viewQuery (query : String) : String :=
  String.ofList
    (dropEndWhile isBlank (dropEndWhile (· == ';') (stripWhile isBlank query.toList)))

/-- Literals that a row had before, as a comment behind its statement. -/
def wasComment (previous : Assignments) : String :=
  if previous.isEmpty then ""
  else
    let was := commas (previous.map fun (column, value) => column ++ " = " ++ value)
    " -- was: " ++ was.map fun c => if c == '\n' then ' ' else c

end Style

end SchemaPlan.Sql

namespace SchemaPlan

open Sql Sql.Style

/-- The statement for an operation. -/
def Op.sql (style : Style) : Op → String
  | .comment text => Style.comment text
  | .customSql text => Text.trimmed text
  | .createSchema name => "CREATE SCHEMA IF NOT EXISTS " ++ style.ident name ++ ";"
  | .dropSchema name => "DROP SCHEMA " ++ style.ident name ++ " CASCADE;"
  | .createType schema t => style.createType schema t
  | .dropType name domain =>
    (if domain then "DROP DOMAIN " else "DROP TYPE ") ++ style.address name ++ ";"
  | .addEnumValue typeName value position =>
    "ALTER TYPE " ++ style.address typeName ++ " ADD VALUE " ++ quotedText value ++
      (match position with
        | some (.before v) => " BEFORE " ++ quotedText v
        | some (.after v) => " AFTER " ++ quotedText v
        | none => "") ++ ";"
  | .alterDomain name change =>
    "ALTER DOMAIN " ++ style.address name ++ " " ++ style.domainAction change ++ ";"
  | .createSequence schema s => style.createSequence schema s
  | .alterSequence name changes => style.alterSequence name changes
  | .dropSequence name => "DROP SEQUENCE IF EXISTS " ++ style.address name ++ ";"
  | .setSerialValue table column value => style.setSerialValue table column value
  | .createFunction schema f replace => style.createFunction schema f replace
  | .dropFunction name args => "DROP FUNCTION " ++ style.address name ++ "(" ++ args ++ ");"
  | .createTable table columns inherits => style.createTable table columns inherits
  | .dropTable table => "DROP TABLE " ++ style.address table ++ ";"
  | .setTableSchema table schema =>
    "ALTER TABLE " ++ style.address table ++ " SET SCHEMA " ++ style.ident schema ++ ";"
  | .renameTable table newName =>
    "ALTER TABLE " ++ style.address table ++ " RENAME TO " ++ style.ident newName ++ ";"
  | .addColumn table column =>
    "ALTER TABLE " ++ style.address table ++ " ADD COLUMN " ++ style.columnDef column ++ ";"
  | .dropColumn table column =>
    "ALTER TABLE " ++ style.address table ++ " DROP COLUMN " ++ style.ident column ++ ";"
  | .renameColumn table old new =>
    "ALTER TABLE " ++ style.address table ++ " RENAME COLUMN " ++ style.ident old ++ " TO " ++
      style.ident new ++ ";"
  | .alterColumn table column change =>
    "ALTER TABLE " ++ style.address table ++ " ALTER COLUMN " ++ style.ident column ++ " " ++
      columnAction change ++ ";"
  | .backfillColumn table column value =>
    "UPDATE " ++ style.address table ++ " SET " ++ style.ident column ++ " = " ++
      value.getD "DEFAULT" ++ " WHERE " ++ style.ident column ++ " IS NULL;"
  | .addConstraint c => style.addConstraint c
  | .dropConstraint table name =>
    "ALTER TABLE " ++ style.address table ++ " DROP CONSTRAINT " ++ style.ident name ++ ";"
  | .createIndex table index => style.createIndex table index
  | .dropIndex schema name => "DROP INDEX " ++ style.object schema name ++ ";"
  | .setCluster table index =>
    "ALTER TABLE " ++ style.address table ++
      (match index with
        | some index => " CLUSTER ON " ++ style.ident index
        | none => " SET WITHOUT CLUSTER") ++ ";"
  | .createTrigger schema t => style.createTrigger schema t
  | .dropTrigger table name =>
    "DROP TRIGGER " ++ style.ident name ++ " ON " ++ style.address table ++ ";"
  | .createView schema v =>
    "CREATE VIEW " ++ style.object schema v.name ++ " AS " ++ viewQuery v.query ++ ";"
  | .dropView name => "DROP VIEW " ++ style.address name ++ ";"
  | .alterOwner object owner =>
    "ALTER " ++ style.ownedTarget object ++ " OWNER TO " ++ style.ident owner ++ ";"
  | .grant object roles operations withGrantOption =>
    "GRANT " ++ commas operations ++ " ON " ++ style.privilegeTarget object ++ " TO " ++
      commas (roles.map style.role) ++ (if withGrantOption then " WITH GRANT OPTION" else "") ++ ";"
  | .revoke object roles operations =>
    "REVOKE " ++ commas operations ++ " ON " ++ style.privilegeTarget object ++ " FROM " ++
      commas (roles.map style.role) ++ ";"
  | .setComment target text =>
    "COMMENT ON " ++ style.commentTarget target ++ " IS " ++
      (match text with
        | some text => quotedText text
        | none => "NULL") ++ ";"
  | .insertRow table columns values =>
    "INSERT INTO " ++ style.address table ++ " (" ++ style.columnList columns ++ ") VALUES (" ++
      commas values ++ ");"
  | .updateRow table assignments key previous =>
    "UPDATE " ++ style.address table ++ " SET " ++
      commas (assignments.map fun (column, value) => style.ident column ++ " = " ++ value) ++
      " WHERE " ++ style.condition key ++ ";" ++ wasComment previous
  | .deleteRow table key =>
    "DELETE FROM " ++ style.address table ++ " WHERE " ++ style.condition key ++ ";"

end SchemaPlan
