import SchemaPlan.Sql.Keyword
import SchemaPlan.Sql.Lexeme

/-!
# Reading a query lexeme by lexeme

A `Reading` takes lexemes from the front of a query and notes the tables that it meets on the way.
Nothing else of the query is kept: the question is only which tables a query names, and whether it
is a query at all.

A reading that fails says why.  After a `mismatch` another form can be tried from where the reading
began, and then the tables it had noted are forgotten.  A query that is nested too deeply is given
up instead.

Repetitions and forms inside forms are bounded by the number of lexemes of the query.  That is no
restriction, because no round but the last and no form goes without a lexeme.
-/

namespace SchemaPlan.Sql

/-- Why a reading fails. -/
inductive Failure where
  | mismatch
  | depth
deriving DecidableEq

/-- The lexemes left, the number of lexemes of the whole query, and the tables noted so far. -/
structure Cursor where
  rest : List Lexeme
  size : Nat
  tables : List String

/-- A reader of queries. -/
abbrev Reading (α : Type) := StateT Cursor (Except Failure) α

namespace Reading

/-- Fails. -/
def mismatch {α : Type} : Reading α :=
  throw .mismatch

/-- Fails unless a condition holds. -/
def require (condition : Bool) : Reading Unit :=
  if condition then return else mismatch

/-- The lexemes left. -/
def remaining : Reading (List Lexeme) :=
  return (← get).rest

/-- What no number of rounds or of forms inside forms exceeds. -/
def bound : Reading Nat :=
  return (← get).size + 1

/-- Takes `n` lexemes. -/
def skip (n : Nat) : Reading Unit :=
  modify fun s => { s with rest := s.rest.drop n }

/-- The next lexeme, which is left in place. -/
def peek : Reading (Option Lexeme) :=
  return (← get).rest.head?

/-- Takes the next lexeme. -/
def next : Reading (Option Lexeme) := do
  let l ← peek
  skip 1
  return l

/-- Notes a table. -/
def note (table : String) : Reading Unit :=
  modify fun s => { s with tables := table :: s.tables }

/-- Tries a reading; if it does not match, nothing is taken and nothing noted. -/
def attempt {α : Type} (reading : Reading α) : Reading (Option α) := fun s =>
  match reading s with
  | .ok (a, s) => .ok (some a, s)
  | .error .mismatch => .ok (none, s)
  | .error .depth => .error .depth

/-- Repeats a step as long as it asks for more. -/
def repeatUpTo (step : Reading Bool) : Nat → Reading Unit
  | 0 => return
  | n + 1 => do
    if ← step then repeatUpTo step n

/-- Repeats a step as long as it asks for more, which it only does when it has taken something. -/
def repeatedly (step : Reading Bool) : Reading Unit := do
  repeatUpTo step (← bound)

/-- Tries some readings in turn until one says that it has taken something. -/
def anyOf (readings : List (Reading Bool)) : Reading Bool :=
  readings.anyM id

/-! ### Single lexemes -/

/-- Whether the next lexeme satisfies `p`. -/
def sees (p : Lexeme → Bool) : Reading Bool :=
  return (← peek).any p

/-- Takes the next lexeme if it satisfies `p`, and says so. -/
def accept (p : Lexeme → Bool) : Reading Bool := do
  let accepted ← sees p
  if accepted then skip 1
  return accepted

/-- Whether the next lexeme is a keyword. -/
def seesKeyword (keyword : String) : Reading Bool :=
  sees (·.isKeyword keyword)

/-- Takes a keyword, if it is next. -/
def keyword (keyword : String) : Reading Bool :=
  accept (·.isKeyword keyword)

/-- Takes a mark, if it is next. -/
def mark (c : Char) : Reading Bool :=
  accept (· == .mark c)

/-- Takes an operator, if it is next. -/
def operator (text : String) : Reading Bool :=
  accept (· == .operator text)

/-- Takes a keyword. -/
def expectKeyword (keyword : String) : Reading Unit := do
  require (← Reading.keyword keyword)

/-- Takes a mark. -/
def expectMark (c : Char) : Reading Unit := do
  require (← mark c)

/-- The next lexeme, if it is one of some keywords; it is taken then. -/
def oneOf (keywords : List String) : Reading (Option String) := do
  match (← peek).bind fun l => keywords.find? l.isKeyword with
  | some keyword => do
    skip 1
    return some keyword
  | none => return none

/-- Takes some keywords, if they are next and in this order. -/
def keywords (keywords : List String) : Reading Bool := do
  let ahead := (← remaining).take keywords.length
  let here := ahead.length == keywords.length &&
    (ahead.zip keywords).all fun (l, keyword) => l.isKeyword keyword
  if here then skip keywords.length
  return here

/-- Takes one of some keywords, if one is next. -/
def optional (keywords : List String) : Reading Unit := do
  let _ ← oneOf keywords

/-- Takes some keywords in this order. -/
def expectKeywords (ks : List String) : Reading Unit := do
  require (← keywords ks)

/-! ### Names and values -/

/-- A name, as it is shown. -/
def name : Reading String := do
  match (← next).bind Lexeme.shownName? with
  | some shown => return shown
  | none => mismatch

/-- Takes a name. -/
def anyName : Reading Unit := do
  let _ ← name

/-- Parts of a name behind points. -/
def qualifiersUpTo : Nat → Reading (List String)
  | 0 => return []
  | n + 1 => do
    if ← mark '.' then return (← name) :: (← qualifiersUpTo n) else return []

/-- A name of one or more parts with points between them. -/
def qualifiedName : Reading String := do
  let first ← name
  return String.intercalate "." (first :: (← qualifiersUpTo (← bound)))

/-- Takes a name of one or more parts. -/
def anyQualifiedName : Reading Unit := do
  let _ ← qualifiedName

/-- A table that is named, and noted. -/
def table : Reading Unit := do
  note (← qualifiedName)

/-- Whether the text of a number is that of a count of 64 bits. -/
def isCount (text : String) : Bool :=
  text.toList.all Char.isDigit && digitsValue 10 text.toList < 1 <<< 64

/-- Takes a count. -/
def count : Reading Unit := do
  match ← next with
  | some (.number text) => require (isCount text)
  | _ => mismatch

/-- A string that is not one of bits or digits. -/
def text : Reading Unit := do
  match ← next with
  | some (.word _ capital) => require (!knownKeywords.contains capital)
  | some (.quotedName _) | some (.string _) => return
  | some (.literal kind) => require (kind == .escaped || kind == .codePoints)
  | _ => mismatch

/-- Whether a value begins at these lexemes, and how many of them it takes: a literal, a parameter,
a quoted name, a truth value or the null value, or a parameter known by its name. -/
def valueLength? : List Lexeme → Option Nat
  | .number _ :: _ | .string _ :: _ | .literal _ :: _ | .parameter :: _ | .quotedName _ :: _ =>
    some 1
  | .word _ capital :: _ => if ["TRUE", "FALSE", "NULL"].contains capital then some 1 else none
  | .operator o :: l :: _ =>
    if o == ":" || o == "@" then
      match l with
      | .word _ _ | .quotedName _ | .number _ => some 2
      | _ => none
    else none
  | _ => none

/-- Takes a value. -/
def value : Reading Unit := do
  match valueLength? (← remaining) with
  | some n => skip n
  | none => mismatch

/-- Takes a number or a parameter. -/
def numeral : Reading Unit := do
  match ← peek with
  | some (.number _) | some .parameter | some (.operator _) => value
  | _ => mismatch

/-! ### Lists and parentheses -/

/-- One or more of something with commas between them. -/
def list (item : Reading Unit) : Reading Unit := do
  item
  repeatedly do
    let more ← mark ','
    if more then item
    return more

/-- Something between parentheses. -/
def parenthesized (content : Reading Unit) : Reading Unit := do
  expectMark '('
  content
  expectMark ')'

/-- Something between parentheses, which may be missing. -/
def optionallyParenthesized (content : Reading Unit) : Reading Unit := do
  if ← mark '(' then
    content
    expectMark ')'

/-- Names of columns between parentheses. -/
def columnNames : Reading Unit :=
  parenthesized (list anyName)

/-- Another name for something, perhaps behind `AS`; keywords of a list do not count without it. -/
def otherName (reserved : List String) : Reading Bool := do
  let explicit ← keyword "AS"
  match ← peek with
  | some (.word _ capital) =>
    let here := explicit || !reserved.contains capital
    if here then skip 1
    return here
  | some (.quotedName _) | some (.string _) => do
    skip 1
    return true
  | _ =>
    require !explicit
    return false

/-! ### Passing over -/

/-- What follows parentheses that are closed `depth` times. -/
def afterParentheses (depth : Nat) : List Lexeme → Option (List Lexeme)
  | [] => none
  | l :: ls =>
    if l == .mark '(' then afterParentheses (depth + 1) ls
    else if l == .mark ')' then
      match depth with
      | 0 => some ls
      | depth + 1 => afterParentheses depth ls
    else afterParentheses depth ls

/-- Passes over lexemes up to the first one outside parentheses that satisfies `stop`. -/
def passTo (stop : Lexeme → Bool) : Reading Unit :=
  repeatedly do
    match ← remaining with
    | [] => return false
    | l :: ls =>
      if stop l then return false
      else if l == .mark ')' then mismatch
      else if l == .mark '(' then
        match afterParentheses 0 ls with
        | some ls => do
          modify fun s => { s with rest := ls }
          return true
        | none => mismatch
      else do
        skip 1
        return true

end Reading

end SchemaPlan.Sql
