import SchemaPlan.Text.Alphabet
import SchemaPlan.Text.Blank

/-!
# Names behind a keyword

The clauses of a statement that name a table are found by their keyword: the table of a foreign key
stands behind `REFERENCES`, and the tables of a query behind `FROM` and `JOIN`.  A keyword counts
when a word begins with it, in whatever case, and blanks and a name follow; the name may be two
names with a point between them.
-/

namespace SchemaPlan.Sql

open SchemaPlan.Text

/-- A name behind a keyword: perhaps a schema, and the name proper. -/
abbrev Reference := Option (List Char) × List Char

/-- Whether a character may begin a name without quotes, case disregarded. -/
def isNameStart (c : Char) : Bool :=
  c.isAlpha || c == '_' || sameLetter 's' c || sameLetter 'k' c

/-- Whether a character may stand in a name without quotes, case disregarded. -/
def isNameChar (c : Char) : Bool :=
  isNameStart c || c.isDigit || c == '$'

/-- The name that a text begins with, without its quotes, and what follows it. -/
def readName? : List Char → Option (List Char × List Char)
  | [] => none
  | c :: cs =>
    if c == '\x22' then
      match cs.takeWhile (· != '\x22'), cs.dropWhile (· != '\x22') with
      | n :: ns, _ :: rest => some (n :: ns, rest)
      | _, _ => none
    else if isNameStart c then some (c :: cs.takeWhile isNameChar, cs.dropWhile isNameChar)
    else none

/-- The name behind a point, with blanks around the point, and what follows it. -/
def readDotName? (cs : List Char) : Option (List Char × List Char) :=
  match cs.dropWhile isBlank with
  | '.' :: rest => readName? (rest.dropWhile isBlank)
  | _ => none

/-- The reference that a text begins with, and what follows it. -/
def readReference? (cs : List Char) : Option (Reference × List Char) := do
  let (first, rest) ← readName? cs
  match readDotName? rest with
  | some (second, rest) => return ((some first, second), rest)
  | none => return ((none, first), rest)

/-- The reference behind a keyword that a text begins with, and what follows it. -/
def afterKeyword? (keyword : String) (cs : List Char) : Option (Reference × List Char) := do
  let rest ← afterWord? keyword.toList cs
  if rest.head?.any isBlank then readReference? (rest.dropWhile isBlank) else none

/-- The reference behind one of some keywords, if a word begins here. -/
def keywordHere? (keywords : List String) (before : Option Char) (cs : List Char) :
    Option (Reference × List Char) :=
  if isBoundary before cs.head? then keywords.findSome? (afterKeyword? · cs) else none

/-- The first reference behind one of the keywords in a text. -/
def firstReference? (keywords : List String) (before : Option Char) : List Char → Option Reference
  | [] => none
  | c :: cs =>
    match keywordHere? keywords before (c :: cs) with
    | some (r, _) => some r
    | none => firstReference? keywords (some c) cs

/-- The references behind the keywords in a text, `skip` characters of which belong to the last
one. -/
def allReferences (keywords : List String) (before : Option Char) (skip : Nat) :
    List Char → List Reference
  | [] => []
  | c :: cs =>
    match skip with
    | skip + 1 => allReferences keywords (some c) skip cs
    | 0 =>
      match keywordHere? keywords before (c :: cs) with
      | some (r, rest) => r :: allReferences keywords (some c) (cs.length - rest.length) cs
      | none => allReferences keywords (some c) 0 cs

end SchemaPlan.Sql
