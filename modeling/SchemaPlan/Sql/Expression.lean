import SchemaPlan.Text.Blank

/-!
# Comparing pieces of SQL

A definition is written by people, so the same default or check may be spelled with other blanks.
`normalizeSpace` makes every run of blanks one space, and `normalizeExpression` goes on to write
type casts in lower case and to drop blanks just inside parentheses.  Two expressions are the same
when their normal forms are.

`isClock` recognises the defaults whose value depends on the moment of evaluation.
-/

namespace SchemaPlan.Sql

open SchemaPlan.Text

/-- Every run of blanks as one space. -/
def collapse : List Char → List Char
  | [] => []
  | c :: cs =>
    if isBlank c then
      if cs.head?.any isBlank then collapse cs else ' ' :: collapse cs
    else c :: collapse cs

/-- A text without blanks at its ends and with single spaces for the blanks inside. -/
def normalizeSpace (s : String) : String :=
  String.ofList (collapse (stripWhile isBlank s.toList))

/-! ### Expressions -/

/-- Whether a character may continue the type name of a cast. -/
def isCastChar (c : Char) : Bool :=
  c.isAlphanum || c == '_' || c == '[' || c == ']'

/-- Type casts in lower case.  A cast is `::` with a letter right behind it, and reaches as far as
`isCastChar` does; `prev` is the character before, and `inCast` says whether a cast is being
read. -/
def lowerCasts (prev : Option Char) (inCast : Bool) : List Char → List Char
  | [] => []
  | c :: cs =>
    if inCast && isCastChar c then c.toLower :: lowerCasts (some c) true cs
    else c :: lowerCasts (some c) (c == ':' && prev == some ':' && cs.head?.any Char.isAlpha) cs

/-- A text without the blanks that follow an opening parenthesis. -/
def dropAfterOpen (afterOpen : Bool) : List Char → List Char
  | [] => []
  | c :: cs =>
    if afterOpen && isBlank c then dropAfterOpen true cs
    else c :: dropAfterOpen (c == '(') cs

/-- A text without the blanks that precede a closing parenthesis. -/
def dropBeforeClose : List Char → List Char
  | [] => []
  | c :: cs =>
    if isBlank c && (cs.dropWhile isBlank).head? == some ')' then dropBeforeClose cs
    else c :: dropBeforeClose cs

/-- The normal form under which expressions are compared. -/
def normalizeExpression (s : String) : String :=
  String.ofList
    (dropBeforeClose (dropAfterOpen false (lowerCasts none false (normalizeSpace s).toList)))

/-- Whether two expressions have the same normal form. -/
def sameExpression (a b : String) : Bool :=
  normalizeExpression a == normalizeExpression b

/-- Whether two optional expressions are both absent or the same. -/
def sameExpression? : Option String → Option String → Bool
  | none, none => true
  | some a, some b => sameExpression a b
  | _, _ => false

/-! ### The clock -/

/-- Whether blanks, an opening parenthesis, blanks and a closing one come next. -/
def emptyCallFollows (cs : List Char) : Bool :=
  match cs.dropWhile isBlank with
  | '(' :: rest => (rest.dropWhile isBlank).head? == some ')'
  | _ => false

/-- The words that read the clock by themselves. -/
def clockWords : List String :=
  ["current_timestamp", "current_date", "current_time", "localtimestamp", "localtime"]

/-- The functions that read the clock when called without arguments. -/
def clockFunctions : List String :=
  ["now", "clock_timestamp", "statement_timestamp", "transaction_timestamp"]

/-- Whether an expression begins by reading the clock. -/
def isClock (s : String) : Bool :=
  let cs := s.toList.dropWhile isBlank
  clockWords.any (fun w => (afterWord? w.toList cs).isSome) ||
    clockFunctions.any (fun w => (afterWord? w.toList cs).any emptyCallFollows)

end SchemaPlan.Sql
