import SchemaPlan.Sql.Query.Selection

/-!
# Changes of tables

Rows are inserted, updated, deleted, or merged from another table.  The table that changes is noted
like those that are read.  Because insertions and updates can stand in place of a query, `query` is
here too.
-/

namespace SchemaPlan.Sql

namespace Reading

variable (nested : Nested)

/-- What becomes of a row that conflicts with others, which may be left open. -/
def conflictClause : Reading Unit := do
  let actions := ["REPLACE", "ROLLBACK", "ABORT", "FAIL", "IGNORE"]
  unless ← actions.anyM fun action => keywords ["OR", action] do optional ["REPLACE"]

/-- New values for columns. -/
def assignments : Reading Unit :=
  list do
    if ← mark '(' then
      list anyQualifiedName
      expectMark ')'
    else anyQualifiedName
    require (← operator "=")
    anyExpression nested

/-- The columns of the rows that have changed, which may be missing. -/
def returned : Reading Unit := do
  if ← keyword "RETURNING" then resultColumns nested

/-! ### Insertions -/

/-- What is done instead of an insertion that conflicts with the rows there are, behind `ON`. -/
def conflictAction : Reading Unit := do
  if ← keyword "CONFLICT" then
    if ← keywords ["ON", "CONSTRAINT"] then anyQualifiedName
    else if ← sees (· == .mark '(') then columnNames
    expectKeyword "DO"
    unless ← keyword "NOTHING" do
      expectKeywords ["UPDATE", "SET"]
      assignments nested
      condition nested
  else
    expectKeywords ["DUPLICATE", "KEY", "UPDATE"]
    assignments nested

/-- Whether lexemes begin with a query between parentheses. -/
def beginsSubquery : List Lexeme → Bool
  | .mark '(' :: .word _ "SELECT" :: _ => true
  | _ => false

/-- The columns that an insertion gives values for, and those values. -/
def insertedRows : Reading Unit := do
  unless ← keywords ["DEFAULT", "VALUES"] do
    unless beginsSubquery (← remaining) do
      if ← sees (· == .mark '(') then columnNames
      if ← keyword "PARTITION" then parenthesized (expressions nested)
    nested.query

/-- A query whose result is written to a directory, behind `DIRECTORY`. -/
def written : Reading Unit := do
  text
  if ← keywords ["STORED", "AS"] then anyName
  nested.query

/-- An insertion, behind `INSERT`. -/
def insertion : Reading Unit := do
  conflictClause
  optional ["OVERWRITE"]
  optional ["INTO"]
  optional ["LOCAL"]
  if ← keyword "DIRECTORY" then written nested
  else
    optional ["TABLE"]
    table
    if ← keyword "AS" then anyName
    insertedRows nested
    if ← keyword "ON" then conflictAction nested
    returned nested

/-! ### Other changes -/

/-- An update, behind `UPDATE`. -/
def modification : Reading Unit := do
  conflictClause
  joinedTable nested
  let early ← seesKeyword "FROM"
  source nested
  expectKeyword "SET"
  assignments nested
  unless early do source nested
  condition nested
  returned nested

/-- A deletion, behind `DELETE`. -/
def deletion : Reading Unit := do
  unless ← keyword "FROM" do
    list table
    expectKeyword "FROM"
  tables nested
  if ← keyword "USING" then tables nested
  condition nested
  returned nested
  order nested
  let _ ← limit nested

/-- What is done with a row, which there already is or is not. -/
def mergeAction (existing : Bool) : Reading Unit := do
  match ← oneOf ["UPDATE", "INSERT", "DELETE"] with
  | some "UPDATE" => do
    require existing
    expectKeyword "SET"
    assignments nested
  | some "DELETE" => require existing
  | some _ => do
    require !existing
    if ← sees (· == .mark '(') then columnNames
    expectKeyword "VALUES"
    rows nested
  | none => mismatch

/-- What is done with the rows that have or do not have a counterpart, behind `WHEN`.  Only a row
that is missing from the table that changes is inserted. -/
def mergeClause : Reading Unit := do
  let missing ← keyword "NOT"
  expectKeyword "MATCHED"
  let existing ← if missing then keywords ["BY", "SOURCE"] else pure true
  if missing && !existing then
    let _ ← keywords ["BY", "TARGET"]
  if ← keyword "AND" then anyExpression nested
  expectKeyword "THEN"
  mergeAction nested existing

/-- A merge, behind `MERGE`. -/
def merge : Reading Unit := do
  optional ["INTO"]
  singleTable nested
  expectKeyword "USING"
  singleTable nested
  expectKeyword "ON"
  anyExpression nested
  repeatedly do
    match ← peek with
    | none => return false
    | some (.mark ';') => return false
    | some _ => do
      expectKeyword "WHEN"
      mergeClause nested
      return true

/-! ### Queries -/

/-- A query with all that belongs to it. -/
def query : Reading Unit := do
  namedQueries nested
  if ← keyword "INSERT" then insertion nested
  else if ← keyword "UPDATE" then modification nested
  else
    body nested
    ending nested

end Reading

end SchemaPlan.Sql
