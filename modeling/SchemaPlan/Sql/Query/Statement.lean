import SchemaPlan.Sql.Query.Change

/-!
# Statements

A text holds any number of statements, with semicolons between them.  A statement is a query, a
change of a table, or something about objects or about the session.  What the last kind says hardly
matters here: tables are noted where it names them as what it is about and where queries are part of
it, and the rest is passed over.

What is nested is read fifty levels deep at most: a statement, each query in it and each expression
count as one level.
-/

namespace SchemaPlan.Sql

namespace Reading

variable (nested : Nested)

/-- Passes over the rest of a statement. -/
def passStatement : Reading Unit :=
  passTo (· == .mark ';')

/-! ### Statements about statements -/

/-- A statement that asks for the plan of another, or about a table. -/
def explanation (isExplain : Bool) : Reading Unit := do
  if ← sees (fun l => isExplain && l == .mark '(') then parenthesized (passTo (· == .mark ')'))
  else if ← keywords ["QUERY", "PLAN"] then pure ()
  else unless ← keyword "ESTIMATE" do
    optional ["ANALYZE"]
    optional ["VERBOSE"]
    if ← keyword "FORMAT" then anyName
  match ← attempt nested.statement with
  | some isExplanation => require !isExplanation
  | none => do
    optional ["EXTENDED", "FORMATTED"]
    table

/-- A statement that is kept under a name. -/
def preparation : Reading Unit := do
  anyName
  optionallyParenthesized (list anyType)
  expectKeyword "AS"
  let _ ← nested.statement

/-- A query whose rows are fetched one by one. -/
def cursor : Reading Unit := do
  anyName
  optional ["BINARY"]
  optional ["INSENSITIVE", "ASENSITIVE"]
  unless ← keyword "SCROLL" do
    let _ ← keywords ["NO", "SCROLL"]
  expectKeyword "CURSOR"
  if (← oneOf ["WITH", "WITHOUT"]).isSome then expectKeyword "HOLD"
  expectKeyword "FOR"
  nested.query

/-! ### Statements about objects -/

/-- A new table, perhaps filled by a query. -/
def newTable : Reading Unit := do
  let _ ← keywords ["IF", "NOT", "EXISTS"]
  table
  if (← oneOf ["LIKE", "ILIKE", "CLONE"]).isSome then anyQualifiedName
  optionallyParenthesized (passTo (· == .mark ')'))
  if ← keyword "INHERITS" then parenthesized (list anyQualifiedName)
  if ← keyword "WITH" then parenthesized (passTo (· == .mark ')'))
  if ← keywords ["PARTITION", "BY"] then anyExpression nested
  if ← keywords ["ON", "COMMIT"] then
    unless ← keyword "DROP" do
      require (← oneOf ["DELETE", "PRESERVE"]).isSome
      expectKeyword "ROWS"
  if ← keyword "AS" then nested.query

/-- The columns, the options and the query of a view. -/
def viewBody : Reading Unit := do
  optionallyParenthesized (passTo (· == .mark ')'))
  if ← keyword "WITH" then parenthesized (passTo (· == .mark ')'))
  expectKeyword "AS"
  nested.query

/-- A new view.  Its name is not noted. -/
def newView : Reading Unit := do
  anyQualifiedName
  viewBody nested

/-- A new index, on a table that is noted. -/
def newIndex : Reading Unit := do
  optional ["CONCURRENTLY"]
  let checked ← keywords ["IF", "NOT", "EXISTS"]
  let nameless ← if checked then pure false else keyword "ON"
  unless nameless do
    anyQualifiedName
    expectKeyword "ON"
  table
  if ← keyword "USING" then anyName
  parenthesized (sortKeys nested)
  if ← keyword "INCLUDE" then columnNames
  if ← keyword "NULLS" then
    optional ["NOT"]
    expectKeyword "DISTINCT"
  if ← keyword "WITH" then parenthesized (expressions nested)
  condition nested

/-- The name of a policy and the table that it protects. -/
def policyName : Reading Unit := do
  anyName
  expectKeyword "ON"
  table

/-- A policy, with the conditions that it sets. -/
def policy : Reading Unit := do
  policyName
  repeatedly do
    if ← mark '(' then
      anyExpression nested
      expectMark ')'
      return true
    else if ← mark ',' then return true
    else accept Lexeme.isWord

/-- A creation, behind `CREATE`. -/
def creation : Reading Unit := do
  let replaces ← keywords ["OR", "REPLACE"]
  let _ ← keywords ["OR", "ALTER"]
  for word in ["LOCAL", "GLOBAL", "TRANSIENT"] do optional [word]
  optional ["TEMP", "TEMPORARY"]
  if ← keyword "TABLE" then newTable nested
  else if ← anyOf [keywords ["MATERIALIZED", "VIEW"], keyword "VIEW"] then newView nested
  else if ← keyword "POLICY" then policy nested
  else if (← oneOf ["EXTERNAL", "FUNCTION", "TRIGGER"]).isSome then passStatement
  else
    require !replaces
    if ← anyOf [keywords ["UNIQUE", "INDEX"], keyword "INDEX"] then newIndex nested
    else
      require (← oneOf ["EXTENSION", "VIRTUAL", "SCHEMA", "DATABASE", "ROLE", "SEQUENCE", "TYPE",
        "PROCEDURE"]).isSome
      passStatement

/-- An alteration, behind `ALTER`. -/
def alteration : Reading Unit := do
  match ← oneOf ["VIEW", "TYPE", "TABLE", "INDEX", "ROLE", "POLICY", "CONNECTOR"] with
  | none => mismatch
  | some "VIEW" => do
    table
    viewBody nested
  | some "TABLE" => do
    let _ ← keywords ["IF", "EXISTS"]
    optional ["ONLY"]
    table
    passStatement
  | some "POLICY" => policy nested
  | some _ => passStatement

/-- A removal, behind `DROP`. -/
def removal : Reading Unit := do
  optional ["TEMPORARY"]
  if ← keyword "POLICY" then
    let _ ← keywords ["IF", "EXISTS"]
    policyName
    optional ["CASCADE", "RESTRICT"]
  else
    unless ← keywords ["MATERIALIZED", "VIEW"] do
      require (← oneOf ["TABLE", "VIEW", "INDEX", "ROLE", "SCHEMA", "DATABASE", "SEQUENCE",
        "STAGE", "TYPE", "FUNCTION", "CONNECTOR", "PROCEDURE", "SECRET", "TRIGGER",
        "EXTENSION"]).isSome
    passStatement

/-! ### Statements about data and about the session -/

/-- A truncation of tables, behind `TRUNCATE`. -/
def truncation : Reading Unit := do
  optional ["TABLE"]
  optional ["ONLY"]
  list table
  if ← keyword "PARTITION" then parenthesized (expressions nested)
  if (← oneOf ["RESTART", "CONTINUE"]).isSome then expectKeyword "IDENTITY"
  optional ["CASCADE", "RESTRICT"]

/-- A copy between a table or a query and a file, behind `COPY`.  Lines of data can follow it. -/
def copy : Reading Unit := do
  if ← mark '(' then
    nested.query
    expectMark ')'
  else
    anyQualifiedName
    if ← sees (· == .mark '(') then columnNames
  require (← oneOf ["FROM", "TO"]).isSome
  let linesFollow ← keyword "STDIN"
  passStatement
  if linesFollow then
    expectMark ';'
    skip (← bound)

/-- A call of a procedure, behind `CALL`. -/
def procedureCall : Reading Unit := do
  anyQualifiedName
  if ← sees (· == .mark '(') then call nested (interval do let _ ← operand nested)

/-- New values of settings. -/
def settings : Reading Unit := do
  optional ["SESSION", "LOCAL", "GLOBAL"]
  anyQualifiedName
  require (← anyOf [operator "=", keyword "TO"])
  expressions nested

/-- The words that begin a statement about a transaction. -/
def transactionWords : List String := [
  "START", "BEGIN", "END", "SAVEPOINT", "RELEASE", "COMMIT", "ROLLBACK"]

/-- The words that begin a statement without tables or queries. -/
def otherWords : List String := [
  "KILL", "FLUSH", "ATTACH", "MSCK", "CACHE", "DISCARD", "FETCH", "UNCACHE", "CLOSE", "SHOW", "USE",
  "GRANT", "REVOKE", "RAISERROR", "DEALLOCATE", "EXECUTE", "EXEC", "LISTEN", "UNLISTEN", "NOTIFY",
  "PRAGMA", "RENAME", "LOAD", "COMMENT"]

/-! ### Statements -/

/-- A statement, behind the word it begins with. -/
def statementBehind (capital : String) : Reading Unit := do
  match capital with
  | "EXPLAIN" => explanation nested true
  | "DESC" | "DESCRIBE" => explanation nested false
  | "PREPARE" => preparation nested
  | "DECLARE" => cursor nested
  | "INSERT" => insertion nested
  | "UPDATE" => modification nested
  | "DELETE" => deletion nested
  | "MERGE" => merge nested
  | "CREATE" => creation nested
  | "ALTER" => alteration nested
  | "DROP" => removal
  | "TRUNCATE" => truncation nested
  | "ANALYZE" => do
    optional ["TABLE"]
    table
  | "COPY" => copy nested
  | "UNLOAD" => do
    subquery nested
    passStatement
  | "CALL" => procedureCall nested
  | "ASSERT" => do
    anyExpression nested
    if ← keyword "AS" then anyExpression nested
  | "SET" =>
    if (← attempt (settings nested)).isNone then passStatement
  | _ =>
    if transactionWords.contains capital then
      passTo fun l => l == .mark ';' || ["SELECT", "INSERT", "UPDATE", "DELETE"].any l.isKeyword
    else
      require (otherWords.contains capital)
      passStatement

/-- A statement; whether it asks for a plan. -/
def statement : Reading Bool := do
  let start ← get
  match ← next with
  | some (.word _ capital) => do
    if ["SELECT", "WITH", "VALUES"].contains capital then
      set start
      nested.query
    else statementBehind nested capital
    return ["EXPLAIN", "DESC", "DESCRIBE"].contains capital
  | some (.mark '(') => do
    set start
    nested.query
    return false
  | _ => mismatch

/-- Statements with semicolons between them.  `END` behind a statement ends them all. -/
def statements : Reading Unit :=
  repeatedly do
    repeatedly (mark ';')
    if (← peek).isNone then return false
    else
      let _ ← nested.statement
      match ← peek with
      | none => return false
      | some l =>
        require (l == .mark ';' || l.isKeyword "END")
        return l == .mark ';'

end Reading

/-! ### Levels -/

/-- What is nested no more than `n` levels deep. -/
def Nested.atDepth : Nat → Nested
  | 0 => ⟨fun _ => throw .depth, throw .depth, throw .depth⟩
  | n + 1 =>
    let nested := atDepth n
    ⟨fun outer => Reading.operations nested (Reading.body nested) outer, Reading.query nested,
      Reading.statement nested⟩

/-- The tables that the statements of a text name, as they are written, unless it is no sequence of
statements. -/
def namedTables? (query : String) : Option (List String) := do
  let lexemes ← lexemes? query
  match Reading.statements (.atDepth 50) ⟨lexemes, lexemes.length, []⟩ with
  | .ok (_, cursor) => return cursor.tables
  | .error _ => none

end SchemaPlan.Sql
