import SchemaPlan.Model.Basic
import SchemaPlan.Sql.TypeName

/-!
# Literals

How the cell of a static row is written in a statement.  A cell that is no expression never lets its
text out into the statement: it becomes `NULL`, a truth value, a plain decimal number, or a text
between single quotes with the quotes inside written twice.  Which of these depends on the type of
the column.
-/

namespace SchemaPlan.Sql

open SchemaPlan.Text

/-- A text with the single quotes in it written twice. -/
def escapeQuotes (s : String) : String :=
  String.ofList (doubled '\x27' s.toList)

/-- A text between single quotes. -/
def quotedText (s : String) : String :=
  "'" ++ escapeQuotes s ++ "'"

/-- Whether characters are digits with at most one point among them, and at least one digit. -/
def isDecimal (cs : List Char) : Bool :=
  cs.any Char.isDigit && cs.all (fun c => c.isDigit || c == '.') && cs.count '.' ≤ 1

/-- Whether a text, blanks at its ends aside, is a decimal number that may have a sign. -/
def isNumeric (s : String) : Bool :=
  match stripWhile isBlank s.toList with
  | '+' :: cs => isDecimal cs
  | '-' :: cs => isDecimal cs
  | cs => isDecimal cs

/-- The spellings of true. -/
def trueWords : List String :=
  ["true", "t", "yes", "y", "on", "1"]

/-- The spellings of false. -/
def falseWords : List String :=
  ["false", "f", "no", "n", "off", "0"]

/-- The types whose values may be written as bare numbers. -/
def numericTypes : List String :=
  ["integer", "bigint", "smallint", "serial", "bigserial", "smallserial", "numeric", "real",
    "double precision"]

/-- A value of a type that is not an array, given by its normal form. -/
def scalarLiteral (base value : String) : String :=
  if base == "boolean" then
    let word := asciiLowercase value
    if trueWords.contains word then "TRUE"
    else if falseWords.contains word then "FALSE"
    else quotedText value
  else if numericTypes.contains base && isNumeric value then trimmed value
  else quotedText value

/-- A cell of a column of the given type. -/
def literal (dataType : String) (cell : Cell) : String :=
  if cell.null then "NULL"
  else if cell.empty then "''"
  else match cell.value with
    | none => "NULL"
    | some value =>
      if cell.sql then value
      else
        let normal := (TypeName.normalize dataType).toList
        if normal.contains '[' then quotedText value
        else
          let base := normal.takeWhile (!TypeName.opensModifiers ·)
          scalarLiteral (trimmed (String.ofList base)) value

end SchemaPlan.Sql
