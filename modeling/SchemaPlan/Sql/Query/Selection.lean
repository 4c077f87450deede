import SchemaPlan.Sql.Query.Table

/-!
# Queries

A query selects from tables, lists values, or combines other queries.  In front of it stand the
queries that it gives names to, and behind it what is done with the whole result.  An insertion or
an update can take the place of a query.
-/

namespace SchemaPlan.Sql

namespace Reading

variable (nested : Nested)

/-! ### The parts of a selection -/

/-- One or more columns of a result. -/
def resultColumns : Reading Unit :=
  list (resultColumn nested)

/-- Which rows count as the same, behind `SELECT`; it may be left open. -/
def distinction : Reading Unit := do
  let all ← keyword "ALL"
  if ← keyword "DISTINCT" then
    require !all
    if ← keyword "ON" then
      parenthesized do
        unless ← sees (· == .mark ')') do expressions nested

/-- How many rows are kept, which may be left open. -/
def top : Reading Unit := do
  if ← keyword "TOP" then
    if ← mark '(' then
      anyExpression nested
      expectMark ')'
    else count
    optional ["PERCENT"]
    let _ ← keywords ["WITH", "TIES"]

/-- The table that a result is put into, which may be missing.  It is a new one, so it is not
noted. -/
def target : Reading Unit := do
  if ← keyword "INTO" then
    optional ["TEMP", "TEMPORARY"]
    optional ["UNLOGGED"]
    optional ["TABLE"]
    anyQualifiedName

/-- The tables that rows come from, which may be missing. -/
def source : Reading Unit := do
  if ← keyword "FROM" then tables nested

/-- Views that are computed for each row. -/
def lateralViews : Reading Unit :=
  repeatedly do
    let more ← keywords ["LATERAL", "VIEW"]
    if more then
      optional ["OUTER"]
      anyExpression nested
      anyQualifiedName
      list do
        let _ ← otherName ["WHERE", "GROUP", "CLUSTER", "HAVING", "LATERAL"]
    return more

/-- The condition on rows, which may be missing. -/
def condition : Reading Unit := do
  if ← keyword "WHERE" then anyExpression nested

/-- Any number of expressions between parentheses. -/
def tuple : Reading Unit :=
  parenthesized do
    unless ← sees (· == .mark ')') do expressions nested

/-- Any number of expressions between parentheses, or one expression without them. -/
def tupleOrExpression : Reading Unit := do
  if ← sees (· == .mark '(') then tuple nested else anyExpression nested

/-- What rows are grouped by. -/
def groupKey : Reading Unit := do
  if ← keywords ["GROUPING", "SETS"] then parenthesized (list (tuple nested))
  else if (← oneOf ["CUBE", "ROLLUP"]).isSome then parenthesized (list (tupleOrExpression nested))
  else
    match (← remaining).take 2 with
    | [.mark '(', .mark ')'] => skip 2
    | _ => anyExpression nested

/-- How rows are grouped, which may be left open. -/
def grouping : Reading Unit := do
  if ← keywords ["GROUP", "BY"] then
    unless ← keyword "ALL" do list (groupKey nested)
    if ← keywords ["GROUPING", "SETS"] then parenthesized (list (tupleOrExpression nested))

/-- Expressions behind a keyword and `BY`, which may be missing. -/
def expressionsBy (keyword : String) : Reading Unit := do
  if ← keywords [keyword, "BY"] then expressions nested

/-- Windows that are given names. -/
def windows : Reading Unit :=
  list do
    anyName
    expectKeyword "AS"
    expectMark '('
    window nested (interval do let _ ← operand nested)

/-- Windows with names and the condition on them, in either order and each perhaps missing. -/
def windowsAndCondition : Reading Unit := do
  if ← keyword "WINDOW" then
    windows nested
    if ← keyword "QUALIFY" then anyExpression nested
  else if ← keyword "QUALIFY" then
    anyExpression nested
    if ← keyword "WINDOW" then windows nested

/-- A selection, behind `SELECT`. -/
def selection : Reading Unit := do
  distinction nested
  top nested
  unless ← seesKeyword "FROM" do resultColumns nested
  target
  source nested
  lateralViews nested
  condition nested
  grouping nested
  expressionsBy nested "CLUSTER"
  expressionsBy nested "DISTRIBUTE"
  expressionsBy nested "SORT"
  if ← keyword "HAVING" then anyExpression nested
  windowsAndCondition nested

/-! ### The main part of a query -/

/-- Rows of values, behind `VALUES`. -/
def rows : Reading Unit :=
  list do
    optional ["ROW"]
    parenthesized (expressions nested)

/-- A whole table, behind `TABLE`.  Three lexemes are taken even when the name is shorter, and
nothing is noted. -/
def wholeTable : Reading Unit := do
  let first ← next
  let second ← next
  let third ← next
  require (first.any Lexeme.isWord && (second != some (.mark '.') || third.any Lexeme.isWord))

/-- The main part of a query without set operations. -/
def simpleBody : Reading Unit := do
  if ← keyword "SELECT" then selection nested
  else if ← mark '(' then
    nested.query
    expectMark ')'
  else if ← keyword "VALUES" then rows nested
  else
    expectKeyword "TABLE"
    wholeTable

/-- How a set operation treats rows that are the same; `named` allows to match columns by name. -/
def quantifier (named : Bool) : Reading Unit := do
  let byName := [["DISTINCT", "BY", "NAME"], ["BY", "NAME"], ["ALL", "BY", "NAME"]]
  unless ← anyOf (if named then byName.map keywords else []) do optional ["ALL", "DISTINCT"]

/-- The main part of a query. -/
def body : Reading Unit := do
  simpleBody nested
  repeatedly do
    match ← oneOf ["UNION", "EXCEPT", "INTERSECT", "MINUS"] with
    | some operation => do
      quantifier (operation == "UNION")
      simpleBody nested
      return true
    | none => return false

/-! ### Around the main part -/

/-- A query with a name. -/
def namedQuery : Reading Unit := do
  anyName
  unless ← keyword "AS" do
    columnAliases
    expectKeyword "AS"
  unless ← keyword "MATERIALIZED" do
    let _ ← keywords ["NOT", "MATERIALIZED"]
  parenthesized nested.query
  if ← keyword "FROM" then anyName

/-- How many rows are kept, which may be missing; whether the number of them is restricted. -/
def limit : Reading Bool := do
  if ← keyword "LIMIT" then
    if ← keyword "ALL" then return false
    else
      anyExpression nested
      return true
  else return false

/-- How many rows are left out, which may be missing. -/
def offset : Reading Bool := do
  let here ← keyword "OFFSET"
  if here then
    anyExpression nested
    optional ["ROW", "ROWS"]
  return here

/-- Which rows are kept, in either order. -/
def limits : Reading Unit := do
  let limited ← limit nested
  let shifted ← offset nested
  unless limited do
    let _ ← limit nested
  unless shifted do
    let _ ← offset nested

/-- The first rows of a result, behind `FETCH`. -/
def firstRows : Reading Unit := do
  require (← oneOf ["FIRST", "NEXT"]).isSome
  unless (← oneOf ["ROW", "ROWS"]).isSome do
    value
    optional ["PERCENT"]
    require (← oneOf ["ROW", "ROWS"]).isSome
  unless ← keyword "ONLY" do
    let _ ← keywords ["WITH", "TIES"]

/-- A lock on the rows of a result, behind `FOR`. -/
def lock : Reading Unit := do
  require (← oneOf ["UPDATE", "SHARE"]).isSome
  if ← keyword "OF" then anyQualifiedName
  unless ← keyword "NOWAIT" do
    let _ ← keywords ["SKIP", "LOCKED"]

/-- What is done with a whole result. -/
def ending : Reading Unit := do
  order nested
  limits nested
  if ← keyword "FETCH" then firstRows
  repeatedly do
    let more ← keyword "FOR"
    if more then lock
    return more

/-- The queries that are given names, which may be missing. -/
def namedQueries : Reading Unit := do
  if ← keyword "WITH" then
    optional ["RECURSIVE"]
    list (namedQuery nested)

end Reading

end SchemaPlan.Sql
