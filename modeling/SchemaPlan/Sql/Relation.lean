import SchemaPlan.Sql.Query.Statement
import SchemaPlan.Sql.Reference

/-!
# What a query reads from

`viewReferences` gives the tables and views that a query names: in its `FROM` clauses with their
joins, in subqueries anywhere, in the bodies of common table expressions, and as the target of a
change.  A reference to a common table expression counts as well, since its name stands where a
table's would.

A text that is no sequence of statements, or one nested too deeply, is searched for names behind
`FROM` and `JOIN` instead.
-/

namespace SchemaPlan.Sql

open SchemaPlan.Text

/-- The parts of a name as it is written; a point inside quotes separates parts as well. -/
def nameParts (written : String) : List String :=
  (splitWhere (· == '.') written.toList).map fun part =>
    String.ofList (stripWhile (· == '\x22') part)

/-- The schema and the table that a name means inside a schema. -/
def relationOf (schema written : String) : String × String :=
  match (nameParts written).reverse with
  | [] => (schema, "")
  | [table] => (schema, table)
  | table :: schema :: _ => (schema, table)

/-- The tables that stand behind `FROM` and `JOIN` in a text. -/
def scannedTables (text schema : String) : List (String × String) :=
  (allReferences ["from", "join"] none 0 text.toList).map fun (s, table) =>
    ((s.map String.ofList).getD schema, String.ofList table)

/-- What a query given inside a schema reads from. -/
def viewReferences (query schema : String) : List (String × String) :=
  match namedTables? query with
  | some tables => tables.map (relationOf schema)
  | none => scannedTables query schema

end SchemaPlan.Sql
