import SchemaPlan.Text.Blank

/-!
# Dollar quotes

A function body is written as it is, between two copies of a delimiter that does not occur in it:
`$$`, or else the first of `$fn1$`, `$fn2$`, … that is free.  A body of a given length has room for
only so many delimiters, which bounds the search.
-/

namespace SchemaPlan.Sql

open SchemaPlan.Text

/-- The delimiter of that number. -/
def delimiter (n : Nat) : String :=
  if n = 0 then "$$" else "$fn" ++ toString n ++ "$"

/-- The first number, not before `n`, whose delimiter does not occur in a body; at most `fuel` are
passed over. -/
def freeDelimiter (body : List Char) : Nat → Nat → Nat
  | 0, n => n
  | fuel + 1, n =>
    if occursIn (delimiter n).toList body then freeDelimiter body fuel (n + 1) else n

/-- A function body between delimiters. -/
def dollarQuote (body : String) : String :=
  let d := delimiter (freeDelimiter body.toList (body.length + 1) 0)
  d ++ body ++ d

end SchemaPlan.Sql
