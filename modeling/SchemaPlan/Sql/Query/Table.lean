import SchemaPlan.Sql.Query.Expression

/-!
# Tables in a query

Where a query reads from, it names tables, or computes them: from a query, from a list of values,
from a function.  Only a table that is named is noted, and a function's name counts as such unless
`LATERAL` stands in front of it.  Tables are combined by joins.

A join that follows a joined table directly belongs to that table: in `a JOIN b JOIN c ON p ON q`
the tables `b` and `c` are joined first.
-/

namespace SchemaPlan.Sql

namespace Reading

variable (nested : Nested)

/-- Names for the columns of a table, perhaps with their types, which may be missing. -/
def columnAliases : Reading Unit :=
  optionallyParenthesized <| list do
    anyName
    let _ ← attempt anyType

/-- Another name for a table, perhaps with names for its columns. -/
def tableAlias : Reading Unit := do
  if ← otherName noTableAlias then columnAliases

/-- A query in place of a table, behind the opening parenthesis. -/
def derivedTable : Reading Unit := do
  nested.query
  expectMark ')'
  tableAlias

/-- The arguments of a function in place of a table, behind the opening parenthesis. -/
def tableArguments : Reading Unit := do
  unless ← mark ')' do
    list (argument nested)
    expectMark ')'

/-! ### Tables made from others -/

/-- The values that become columns, between parentheses. -/
def pivotValues : Reading Unit :=
  parenthesized do
    if ← keyword "ANY" then order nested
    else if ← seesQuery then nested.query
    else list do
      anyExpression nested
      if ← keyword "AS" then anyName

/-- Rows turned into columns, behind `PIVOT`. -/
def pivot : Reading Unit := do
  parenthesized do
    list do
      require (← accept Lexeme.isWord)
      call nested (interval do let _ ← operand nested)
      if ← keyword "AS" then anyName
    expectKeyword "FOR"
    anyQualifiedName
    expectKeyword "IN"
    pivotValues nested
    if ← keywords ["DEFAULT", "ON", "NULL"] then parenthesized (anyExpression nested)
  tableAlias

/-- Columns turned into rows, behind `UNPIVOT`. -/
def unpivot : Reading Unit := do
  parenthesized do
    anyName
    expectKeyword "FOR"
    anyName
    expectKeyword "IN"
    columnNames
  tableAlias

/-- Any number of turns from rows into columns and back. -/
def pivots : Reading Unit :=
  repeatedly do
    match ← oneOf ["PIVOT", "UNPIVOT"] with
    | some turn => do
      if turn == "PIVOT" then pivot nested else unpivot
      return true
    | none => return false

/-- How large a sample of a table is taken, and from where. -/
def sampleSize : Reading Unit := do
  if ← keyword "BUCKET" then
    numeral
    expectKeywords ["OUT", "OF"]
    numeral
    if ← keyword "ON" then anyExpression nested
  else
    if (← attempt (anyExpression nested)).isNone then require (← accept Lexeme.isWord)
    optional ["ROWS", "PERCENT"]

/-- A sample of a table, which may be missing. -/
def sample : Reading Unit := do
  if (← oneOf ["TABLESAMPLE", "SAMPLE"]).isSome then
    optional ["BERNOULLI", "ROW", "SYSTEM", "BLOCK"]
    if ← mark '(' then
      sampleSize nested
      expectMark ')'
    else
      sampleSize nested
    if (← oneOf ["REPEATABLE", "SEED"]).isSome then parenthesized numeral
    if ← keyword "OFFSET" then anyExpression nested

/-! ### Tables -/

/-- The elements of arrays as a table, behind `UNNEST`. -/
def unnested : Reading Unit := do
  parenthesized (expressions nested)
  let _ ← keywords ["WITH", "ORDINALITY"]
  tableAlias
  if ← keywords ["WITH", "OFFSET"] then
    let _ ← otherName noColumnAlias

/-- The columns of a document as a table, behind the opening parenthesis of `JSON_TABLE`. -/
def documentTable : Reading Unit := do
  anyExpression nested
  expectMark ','
  value
  expectKeyword "COLUMNS"
  parenthesized (passTo (· == .mark ')'))
  expectMark ')'
  tableAlias

/-- The rows of a document as a table, behind the opening parenthesis of `OPENJSON`. -/
def documentRows : Reading Unit := do
  anyExpression nested
  if ← mark ',' then value
  expectMark ')'
  if ← keyword "WITH" then parenthesized (passTo (· == .mark ')'))
  tableAlias

/-- A table that is named, or the result of a function in its place. -/
def namedTable : Reading Unit := do
  table
  if ← mark '(' then tableArguments nested
  let _ ← keywords ["WITH", "ORDINALITY"]
  tableAlias
  match (← remaining).take 2 with
  | [.word _ "WITH", .mark '('] => do
    skip 1
    parenthesized (expressions nested)
  | _ => pure ()
  sample nested
  pivots nested

/-- A table computed for each row of those before it, behind `LATERAL`. -/
def lateralTable : Reading Unit := do
  if ← mark '(' then derivedTable nested
  else
    anyQualifiedName
    expectMark '('
    tableArguments nested
    tableAlias

/-- A table that is not between parentheses. -/
def simpleTable : Reading Unit := do
  match ← remaining with
  | .word _ "LATERAL" :: _ => do
    skip 1
    lateralTable nested
  | .word _ "TABLE" :: _ => do
    skip 1
    parenthesized (anyExpression nested)
    tableAlias
  | .word _ "UNNEST" :: _ => do
    skip 1
    unnested nested
  | .word _ "JSON_TABLE" :: .mark '(' :: _ => do
    skip 2
    documentTable nested
  | .word _ "OPENJSON" :: .mark '(' :: _ => do
    skip 2
    documentRows nested
  | _ => namedTable nested

/-! ### Joins -/

/-- The words of a join between two tables; whether they are there. -/
def joinWords : Reading Bool := do
  match ← oneOf ["INNER", "JOIN", "LEFT", "RIGHT", "ANTI", "SEMI", "FULL"] with
  | none => return false
  | some "JOIN" => return true
  | some word => do
    if word == "LEFT" || word == "RIGHT" then optional ["OUTER", "SEMI", "ANTI"]
    if word == "FULL" then optional ["OUTER"]
    expectKeyword "JOIN"
    return true

/-- Whether a lexeme behind a joined table begins a join that belongs to that table. -/
def beginsJoin (l : Lexeme) : Bool :=
  ["JOIN", "INNER", "LEFT", "RIGHT", "FULL"].any l.isKeyword

/-- Which rows a join combines, which may be left open. -/
def joinCondition : Reading Unit := do
  if ← keyword "ON" then anyExpression nested
  else if ← keyword "USING" then parenthesized (list anyQualifiedName)

/-- No more than `n` joins, with those that belong to the tables they add; `table` reads a table.
Gives whether there are any. -/
def joinsUpTo (table : Reading Unit) : Nat → Reading Bool
  | 0 => return false
  | n + 1 => do
    let _ ← keyword "GLOBAL"
    let joined ←
      if ← keyword "CROSS" then do
        require (← oneOf ["JOIN", "APPLY"]).isSome
        table
        pure true
      else if ← keyword "OUTER" then do
        expectKeyword "APPLY"
        table
        pure true
      else if ← keyword "ASOF" then do
        expectKeyword "JOIN"
        table
        expectKeyword "MATCH_CONDITION"
        parenthesized (anyExpression nested)
        joinCondition nested
        pure true
      else do
        let natural ← keyword "NATURAL"
        let joined ← joinWords
        require (joined || !natural)
        if joined then
          table
          if ← sees beginsJoin then
            let _ ← joinsUpTo table n
          unless natural do joinCondition nested
        pure joined
    if joined then
      let _ ← joinsUpTo table n
    return joined

/-- A table without joins of its own, inside no more than `n` parentheses.  Gives whether it stands
for a join: parentheses can be around joins but not around a single table that is named. -/
def tableUpTo : Nat → Reading Bool
  | 0 => mismatch
  | n + 1 => do
    if ← mark '(' then
      if (← attempt (derivedTable nested)).isSome then
        pivots nested
        return false
      else
        let isJoin ← tableUpTo n
        let hasJoins ← joinsUpTo nested (do let _ ← tableUpTo n) n
        require (isJoin || hasJoins)
        expectMark ')'
        tableAlias
        return true
    else
      simpleTable nested
      return false

/-- A table without joins of its own. -/
def singleTable : Reading Unit := do
  let _ ← tableUpTo nested (← bound)

/-- A table with its joins. -/
def joinedTable : Reading Unit := do
  singleTable nested
  let _ ← joinsUpTo nested (singleTable nested) (← bound)

/-- Tables with commas between them. -/
def tables : Reading Unit :=
  list (joinedTable nested)

end Reading

end SchemaPlan.Sql
