import SchemaPlan.Sql.Query.Type

/-!
# Expressions in a query

An expression is an operand with operators behind it.  An operator that binds more tightly than the
place allows is taken together with what follows it, and so on.

Few words have a meaning of their own, and even those are names when what follows them does not fit:
`interval` is a column in `max(interval)`.  So each form that a word begins is tried first and the
name second.  On the other hand a form is taken wherever it fits, so in `SELECT interval FROM t`
the interval's value is the column `FROM`, and `t` is its name in the result.

What is nested inside an expression is read by the `Nested` readers one level further down.
-/

namespace SchemaPlan.Sql

/-- What is known of an expression that has been read. -/
inductive Shape where
  /-- A name, perhaps the word `from` without quotes. -/
  | name (isFrom : Bool)
  /-- Names with points between them. -/
  | path
  | other
deriving DecidableEq

/-- Whether nothing but names and points make up an expression. -/
def Shape.isNames : Shape → Bool
  | .name _ | .path => true
  | .other => false

/-- What an expression becomes with a point and another expression behind it. -/
def Shape.dot (s t : Shape) : Shape :=
  if s.isNames && t.isNames then .path else .other

/-- The readers of what may stand inside something else. -/
structure Nested where
  /-- An expression with the operators that bind more tightly than what is around it. -/
  operation : Nat → Reading Shape
  query : Reading Unit
  /-- A statement; whether it asks for a plan. -/
  statement : Reading Bool

namespace Reading

variable (nested : Nested)

/-- An expression with all operators. -/
def expression : Reading Shape :=
  nested.operation 0

/-- Takes an expression. -/
def anyExpression : Reading Unit := do
  let _ ← expression nested

/-- One or more expressions. -/
def expressions : Reading Unit :=
  list (anyExpression nested)

/-- Whether a query begins here. -/
def seesQuery : Reading Bool :=
  sees fun l => l.isKeyword "SELECT" || l.isKeyword "WITH"

/-- What follows points and names behind a name, if the last point has an asterisk behind it: then
the whole stands for all columns.  Fails if something else stands behind a point. -/
def afterAsterisk? : List Lexeme → Option (Option (List Lexeme))
  | .mark '.' :: .operator "*" :: rest => some (some rest)
  | .mark '.' :: l :: rest => if l.shownName?.isSome then afterAsterisk? rest else none
  | .mark '.' :: [] => none
  | _ => some none

/-- Takes an asterisk with or without a name in front, if one is next. -/
def allColumns : Reading Bool := do
  match ← remaining with
  | .operator "*" :: rest => do
    modify fun s => { s with rest := rest }
    return true
  | l :: rest =>
    if l.shownName?.isSome then
      match afterAsterisk? rest with
      | some (some rest) => do
        modify fun s => { s with rest := rest }
        return true
      | some none => return false
      | none => mismatch
    else return false
  | [] => return false

/-- An expression or an asterisk. -/
def expressionOrAll : Reading Unit := do
  unless ← allColumns do anyExpression nested

/-- A column of a result, perhaps with another name. -/
def resultColumn : Reading Unit := do
  unless ← allColumns do
    require ((← expression nested) ≠ .name true)
    let _ ← otherName noColumnAlias

/-! ### Functions -/

/-- Which end of an order comes first. -/
def sortEnd : Reading Unit := do
  optional ["ASC", "DESC"]
  unless ← keywords ["NULLS", "FIRST"] do
    let _ ← keywords ["NULLS", "LAST"]

/-- What is sorted by. -/
def sortKeys : Reading Unit :=
  list do
    anyExpression nested
    sortEnd

/-- An order, which may be missing. -/
def order : Reading Unit := do
  if ← keywords ["ORDER", "BY"] then sortKeys nested

/-- One argument of a function, perhaps behind its name. -/
def argument : Reading Unit := do
  expressionOrAll nested
  if ← anyOf [keyword "VALUE", operator "=>", operator ":=", operator ":"] then
    expressionOrAll nested

/-- Whether what is null is left out of a result, which may be left open. -/
def nullClause : Reading Unit := do
  unless ← keywords ["ABSENT", "ON", "NULL"] do
    let _ ← keywords ["NULL", "ON", "NULL"]

/-- What is done with a list that grows too long, which may be left open. -/
def overflow : Reading Unit := do
  if ← keywords ["ON", "OVERFLOW"] then
    unless ← keyword "ERROR" do
      expectKeyword "TRUNCATE"
      unless ← sees (fun l => l.isKeyword "WITH" || l.isKeyword "WITHOUT") do anyExpression nested
      require (← oneOf ["WITH", "WITHOUT"]).isSome
      expectKeyword "COUNT"

/-- The arguments of a function, behind the opening parenthesis. -/
def arguments : Reading Unit := do
  nullClause
  unless ← mark ')' do
    let all ← keyword "ALL"
    let distinct ← keyword "DISTINCT"
    require !(all && distinct)
    list (argument nested)
    order nested
    if ← keyword "LIMIT" then anyExpression nested
    overflow nested
    nullClause
    expectMark ')'

/-- One end of the frame of a window; `span` reads the length of a time. -/
def frameEnd (span : Reading Unit) : Reading Unit := do
  unless ← keywords ["CURRENT", "ROW"] do
    unless ← keyword "UNBOUNDED" do
      if ← sees (fun l => match l with
          | .string _ => true
          | _ => false) then span
      else anyExpression nested
    require (← oneOf ["PRECEDING", "FOLLOWING"]).isSome

/-- A window, behind the opening parenthesis. -/
def window (span : Reading Unit) : Reading Unit := do
  match ← peek with
  | some (.word _ capital) => unless knownKeywords.contains capital do skip 1
  | some (.quotedName _) => skip 1
  | _ => pure ()
  if ← keywords ["PARTITION", "BY"] then expressions nested
  order nested
  unless ← mark ')' do
    require (← oneOf ["ROWS", "RANGE", "GROUPS"]).isSome
    if ← keyword "BETWEEN" then
      frameEnd nested span
      expectKeyword "AND"
    frameEnd nested span
    expectMark ')'

/-- A call of a function, behind its name. -/
def call (span : Reading Unit) : Reading Unit := do
  expectMark '('
  arguments nested
  if ← keywords ["WITHIN", "GROUP"] then
    parenthesized do
      expectKeywords ["ORDER", "BY"]
      sortKeys nested
  if ← keyword "FILTER" then
    if ← mark '(' then
      if ← keyword "WHERE" then
        anyExpression nested
        expectMark ')'
  if (← oneOf ["RESPECT", "IGNORE"]).isSome then expectKeyword "NULLS"
  if ← keyword "OVER" then
    if ← mark '(' then window nested span else anyName

/-! ### Forms that begin with a word -/

/-- A distinction of cases, behind `CASE`. -/
def cases : Reading Unit := do
  unless ← seesKeyword "WHEN" do anyExpression nested
  expectKeyword "WHEN"
  repeatedly do
    anyExpression nested
    expectKeyword "THEN"
    anyExpression nested
    keyword "WHEN"
  if ← keyword "ELSE" then anyExpression nested
  expectKeyword "END"

/-- A field of a time, for which any name can stand. -/
def timeField : Reading Unit :=
  anyName

/-- The value and the unit of an interval; `value` reads the value. -/
def interval (value : Reading Unit) : Reading Unit := do
  value
  let seconds ← seesKeyword "SECOND"
  if ← sees (fun l => match l with
      | .word _ capital => fields.contains capital
      | _ => false) then skip 1
  if seconds then decimalSize
  else do
    size
    if ← keyword "TO" then
      let seconds ← seesKeyword "SECOND"
      timeField
      if seconds then size

/-- A change of an expression's type, behind the word it begins with. -/
def cast : Reading Unit :=
  parenthesized do
    anyExpression nested
    expectKeyword "AS"
    anyType
    if ← keyword "FORMAT" then
      Reading.value
      if ← keywords ["AT", "TIME", "ZONE"] then Reading.value

/-- A change of an expression's type or character set, behind `CONVERT`. -/
def conversion : Reading Unit :=
  parenthesized do
    anyExpression nested
    if ← keyword "USING" then anyQualifiedName
    else do
      expectMark ','
      anyType
      if ← keywords ["CHARACTER", "SET"] then anyQualifiedName

/-- A part of a time, behind `EXTRACT`. -/
def extract : Reading Unit :=
  parenthesized do
    timeField
    expectKeyword "FROM"
    anyExpression nested

/-- A rounding to a field or to a number of places, behind the word it begins with. -/
def rounding : Reading Unit :=
  parenthesized do
    anyExpression nested
    if ← keyword "TO" then timeField
    else if ← mark ',' then
      match ← next with
      | some (.number _) => return
      | _ => mismatch

/-- The place of one text in another, behind `POSITION`. -/
def position : Reading Unit :=
  parenthesized do
    let _ ← nested.operation 60
    expectKeyword "IN"
    anyExpression nested

/-- A part of a text, behind `SUBSTRING`. -/
def substring : Reading Unit :=
  parenthesized do
    anyExpression nested
    if ← anyOf [mark ',', keyword "FROM"] then anyExpression nested
    if ← anyOf [keyword "FOR", mark ','] then anyExpression nested

/-- A text with a part replaced, behind `OVERLAY`. -/
def overlay : Reading Unit :=
  parenthesized do
    anyExpression nested
    expectKeyword "PLACING"
    anyExpression nested
    expectKeyword "FROM"
    anyExpression nested
    if ← keyword "FOR" then anyExpression nested

/-- A text without some characters at its ends, behind `TRIM`. -/
def trim : Reading Unit :=
  parenthesized do
    optional ["BOTH", "LEADING", "TRAILING"]
    anyExpression nested
    if ← keyword "FROM" then anyExpression nested

/-- Expressions between brackets, behind the opening one. -/
def array : Reading Unit := do
  unless ← mark ']' do
    expressions nested
    expectMark ']'

/-- A query between parentheses. -/
def subquery : Reading Unit :=
  parenthesized nested.query

/-- The form that a word begins, behind that word; `span` reads what follows `INTERVAL`, and says
whether the word begins a form at all. -/
def form (span : Reading Unit) (capital : String) : Reading Bool := do
  let taken (form : Reading Unit) : Reading Bool := do
    form
    return true
  match capital with
  | "TRUE" | "FALSE" | "NULL" | "CURRENT_CATALOG" | "CURRENT_USER" | "SESSION_USER" | "USER" =>
    return true
  | "CURRENT_TIMESTAMP" | "CURRENT_TIME" | "CURRENT_DATE" | "LOCALTIME" | "LOCALTIMESTAMP" =>
    taken do
      if ← mark '(' then arguments nested
  | "CASE" => taken (cases nested)
  | "CONVERT" => taken (conversion nested)
  | "CAST" | "TRY_CAST" | "SAFE_CAST" => taken (cast nested)
  | "EXISTS" => taken (subquery nested)
  | "EXTRACT" => taken (extract nested)
  | "CEIL" | "FLOOR" => taken (rounding nested)
  | "POSITION" =>
    if ← sees (· == .mark '(') then
      taken do
        if (← attempt (position nested)).isNone then call nested span
    else return false
  | "SUBSTRING" => taken (substring nested)
  | "OVERLAY" => taken (overlay nested)
  | "TRIM" => taken (trim nested)
  | "INTERVAL" => taken span
  | "ARRAY" =>
    if ← mark '[' then taken (array nested)
    else if ← sees (· == .mark '(') then taken (subquery nested)
    else return false
  | "NOT" =>
    taken do
      if ← keyword "EXISTS" then subquery nested
      else
        let _ ← nested.operation 30
  | "CIRCLE" | "BOX" | "PATH" | "LINE" | "LSEG" | "POINT" | "POLYGON" => taken Reading.value
  | _ => return false

/-! ### Operands -/

/-- A word that is a name, or the name of a function with its call.  A string behind an underscore
and the name of a character set belongs to it. -/
def plainWord (span : Reading Unit) (text : String) (isQuoted : Bool) : Reading Shape := do
  let plain := Shape.name (!isQuoted && Text.asciiLowercase text == "from")
  match ← peek with
  | some (.mark '(') => do
    call nested span
    return .other
  | some (.string _) | some (.literal .hexadecimal) =>
    if text.startsWith "_" then
      skip 1
      return .other
    else return plain
  | _ => return plain

/-- A word that is not quoted: the form it begins if what follows fits, and otherwise a name, unless
it is reserved. -/
def formOrName (span : Reading Unit) (text capital : String) : Reading Shape := fun s =>
  match form nested span capital s with
  | .ok (true, s) => .ok (.other, s)
  | .ok (false, s) => plainWord nested span text false s
  | .error e =>
    if reservedNames.contains capital then .error e
    else match plainWord nested span text false s with
      | .ok result => .ok result
      | .error _ => .error e

/-- An operand without a type in front; `span` reads what follows `INTERVAL`. -/
def untypedOperand (span : Reading Unit) : Reading Shape := do
  let other (reading : Reading Unit) : Reading Shape := do
    reading
    return .other
  let begin ← remaining
  match ← next with
  | some (.word text capital) => formOrName nested span text capital
  | some (.quotedName text) => plainWord nested span text true
  | some (.operator o) =>
    if o == "+" || o == "-" then other (do let _ ← nested.operation 90)
    else if ["!!", "|/", "||/", "@", "~", "#", "@-@", "@@", "?-", "?|"].contains o then
      other (do let _ ← nested.operation 80)
    else other (do
      modify fun s => { s with rest := begin }
      Reading.value)
  | some (.mark '(') => other do
    if ← seesQuery then nested.query else expressions nested
    expectMark ')'
  | some (.mark '[') => other (array nested)
  | some (.mark '\x7b') => other do
    expectKeyword "FN"
    anyQualifiedName
    call nested span
    expectMark '\x7d'
  | some (.mark _) | none => mismatch
  | some _ => return .other

/-- An operand that holds intervals no deeper than `n` times. -/
def operandUpTo : Nat → Reading Shape
  | 0 => mismatch
  | n + 1 => do
    let span : Reading Unit := interval do
      let _ ← operandUpTo n
    let typed ← attempt do
      match ← typeName with
      | .interval => span
      | .known => Reading.value
      | .other => mismatch
    if typed.isSome then return .other
    let shape ← untypedOperand nested span
    if ← keyword "COLLATE" then
      anyQualifiedName
      return .other
    else return shape

/-- An operand. -/
def operand : Reading Shape := do
  operandUpTo nested (← bound)

/-- What an array is read at, behind the opening bracket: an index, or one or two bounds and a
step. -/
def subscript : Reading Unit := do
  let fromStart ← operator ":"
  unless fromStart do anyExpression nested
  unless ← mark ']' do
    unless fromStart do require (← operator ":")
    unless ← mark ']' do
      anyExpression nested
      unless ← mark ']' do
        require (← operator ":")
        unless ← mark ']' do
          anyExpression nested
          expectMark ']'

/-- What is taken from an operand: with a point and with brackets, no more than `n` times. -/
def accessUpTo (shape : Shape) : Nat → Reading Shape
  | 0 => return shape
  | n + 1 => do
    if ← mark '.' then
      if ← operator "*" then
        require shape.isNames
        return .other
      else if ← accept (fun l => match l with
          | .string _ => true
          | _ => false) then accessUpTo (shape.dot .path) n
      else accessUpTo (shape.dot (← nested.operation 200)) n
    else if ← mark '[' then
      subscript nested
      accessUpTo .other n
    else return shape

/-- What is taken from an operand. -/
def access (shape : Shape) : Reading Shape := do
  accessUpTo nested shape (← bound)

/-! ### Operators -/

/-- How tightly a keyword binds that stands between its operands. -/
def keywordPrecedence (capital : String) : Nat :=
  match capital with
  | "OR" => 10
  | "AND" => 20
  | "XOR" => 75
  | "IS" => 40
  | "IN" | "BETWEEN" | "OVERLAPS" | "LIKE" | "ILIKE" | "RLIKE" | "REGEXP" | "SIMILAR"
  | "OPERATOR" => 60
  | "DIV" => 90
  | "COLLATE" => 120
  | _ => 0

/-- The comparisons that `NOT` can stand in front of. -/
def negatable : List String :=
  ["IN", "BETWEEN", "LIKE", "ILIKE", "RLIKE", "REGEXP", "SIMILAR"]

/-- How tightly the operator binds that lexemes begin with; zero if they begin with none.  `NOT` is
one in front of a comparison only, and binds like it. -/
def bindingPower : List Lexeme → Nat
  | .operator text :: _ => precedence text
  | .mark '[' :: _ => 130
  | .word _ "AT" :: .word _ "TIME" :: .word _ "ZONE" :: _ => 110
  | .word _ "NOT" :: .word _ capital :: _ =>
    if capital == "NULL" then 40
    else if negatable.contains capital then 60
    else 0
  | .word _ capital :: _ => keywordPrecedence capital
  | _ => 0

/-- The operators that can compare with all or with any of some values. -/
def comparisons : List String := [
  "=", "==", "<>", "!=", "<", "<=", ">", ">=", "~", "~*", "!~", "!~*", "~~", "~~*", "!~~", "!~~*"]

/-- The second operand of an operator that binds as tightly as `power`; a comparison can be with any
or all of some values. -/
def secondOperand (power : Nat) (compares : Bool) : Reading Unit := do
  if (← oneOf ["ANY", "ALL", "SOME"]).isSome then
    let start ← get
    expectMark '('
    if ← seesQuery then
      set start
      let _ ← nested.operation power
    else
      let _ ← nested.operation power
      expectMark ')'
    require compares
  else
    let _ ← nested.operation power

/-- What is tested, behind `IS`. -/
def property : Reading Unit := do
  let _ ← keyword "NOT"
  if (← oneOf ["NULL", "TRUE", "FALSE", "UNKNOWN"]).isSome then return
  else if ← keywords ["DISTINCT", "FROM"] then anyExpression nested
  else
    optional ["NFC", "NFD", "NFKC", "NFKD"]
    expectKeyword "NORMALIZED"

/-- The values that something is in, behind `IN`; `values` reads the main part of a query. -/
def range (values : Reading Unit) : Reading Unit := do
  if ← keyword "UNNEST" then parenthesized (anyExpression nested)
  else
    parenthesized do
      if (← attempt values).isNone then expressions nested

/-- A pattern, and the character that takes the meaning from others. -/
def pattern : Reading Unit := do
  let _ ← keyword "ANY"
  let _ ← nested.operation 60
  if ← keyword "ESCAPE" then text

/-- A test whether something is in a range or matches a pattern. -/
def comparison (values : Reading Unit) : Reading Unit := do
  let negated ← keyword "NOT"
  let matching := (← oneOf ["REGEXP", "RLIKE"]).isSome
  let null ← keyword "NULL"
  if matching then
    let _ ← nested.operation 60
  else if negated && null then return
  else if ← keyword "IN" then range nested values
  else if ← keyword "BETWEEN" then
    let _ ← nested.operation 60
    expectKeyword "AND"
    let _ ← nested.operation 60
  else if (← oneOf ["LIKE", "ILIKE"]).isSome then pattern nested
  else
    expectKeywords ["SIMILAR", "TO"]
    let _ ← nested.operation 60
    if ← keyword "ESCAPE" then text

/-- The name of an operator, between parentheses. -/
def operatorName : Reading Unit :=
  parenthesized <| repeatedly do
    require (← next).isSome
    mark '.'

/-- An operator with what follows it, which binds as tightly as `power`. -/
def operation (values : Reading Unit) (power : Nat) : Reading Unit := do
  match ← peek with
  | some (.operator "::") => do
    skip 1
    anyType
  | some (.operator "!") => skip 1
  | some (.operator text) => do
    skip 1
    secondOperand nested power (comparisons.contains text)
  | some (.word _ capital) =>
    match capital with
    | "AND" | "OR" | "XOR" | "OVERLAPS" => do
      skip 1
      secondOperand nested power false
    | "OPERATOR" => do
      skip 1
      operatorName
      secondOperand nested power false
    | "IS" => do
      skip 1
      property nested
    | "AT" => do
      skip 3
      let _ ← nested.operation power
    | "DIV" | "COLLATE" => mismatch
    | _ => comparison nested values
  | _ => mismatch

/-- The operators behind an operand that bind more tightly than `outer`, no more than `n`. -/
def operationsUpTo (values : Reading Unit) (outer : Nat) (shape : Shape) : Nat → Reading Shape
  | 0 => return shape
  | n + 1 => do
    let power := bindingPower (← remaining)
    if power ≤ outer then return shape
    else do
      operation nested values power
      operationsUpTo values outer .other n

/-- An expression with the operators that bind more tightly than `outer`; `values` reads the main
part of a query. -/
def operations (values : Reading Unit) (outer : Nat) : Reading Shape := do
  let shape ← access nested (← operand nested)
  operationsUpTo nested values outer shape (← bound)

end Reading

end SchemaPlan.Sql
