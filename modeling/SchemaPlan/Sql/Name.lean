import SchemaPlan.Text.Blank

/-!
# Names and their quotation

An identifier may be written bare when it is a lower-case name that is not reserved; any other is
put between double quotes, with the double quotes inside written twice.  A `Style` may ask for
quotes everywhere.

Objects are addressed by `schema.name`.  `qualified` writes such an address and `splitQualified`
reads it, at the first dot; an address without one lies in the schema `public`.
-/

namespace SchemaPlan.Sql

open SchemaPlan.Text

/-- The words that are not identifiers unless quoted. -/
def reservedWords : List String := [
  "all", "analyse", "analyze", "and", "any", "array", "as", "asc", "asymmetric", "both",
  "case", "cast", "check", "collate", "column", "constraint", "create", "current_catalog",
  "current_date", "current_role", "current_time", "current_timestamp", "current_user",
  "default", "deferrable", "desc", "distinct", "do", "else", "end", "except", "false", "fetch",
  "for", "foreign", "from", "grant", "group", "having", "in", "initially", "intersect", "into",
  "lateral", "leading", "limit", "localtime", "localtimestamp", "not", "null", "offset", "on",
  "only", "or", "order", "placing", "primary", "references", "returning", "select",
  "session_user", "some", "symmetric", "table", "then", "to", "trailing", "true", "union",
  "unique", "user", "using", "variadic", "when", "where", "window", "with"]

/-- Whether a word is among sorted words.  With each step only the half is left that it can be in:
the one that begins with the middle word, unless the word comes before that. -/
def isAmong (word : String) : Nat → List String → Bool
  | 0, words => words.head? == some word
  | steps + 1, words =>
    let (front, back) := words.splitAt (words.length / 2)
    isAmong word steps (if back.head?.any (word < ·) then front else back)

/-- Whether a word is reserved; after the last step at most one word is left. -/
def isReserved (word : String) : Bool :=
  isAmong word (reservedWords.length.log2 + 1) reservedWords

/-- Whether a character may begin a bare identifier. -/
def isBareStart (c : Char) : Bool :=
  c.isLower || c == '_'

/-- Whether a character may stand in a bare identifier. -/
def isBareChar (c : Char) : Bool :=
  c.isLower || c.isDigit || c == '_' || c == '$'

/-- Whether an identifier reads back as itself without quotes. -/
def isBare (ident : String) : Bool :=
  ident.toList.head?.any isBareStart && ident.toList.all isBareChar &&
    !isReserved ident

/-- How operations are written. -/
structure Style where
  /-- Quote every identifier, not only the ones that need it. -/
  quoteAll : Bool := false
deriving Repr, DecidableEq

/-- An identifier between double quotes. -/
def quoted (ident : String) : String :=
  String.ofList ('\x22' :: (doubled '\x22' ident.toList ++ ['\x22']))

/-- An identifier as it stands in a statement. -/
def Style.ident (style : Style) (ident : String) : String :=
  if style.quoteAll || !isBare ident then quoted ident else ident

/-- The name of an object inside a schema, as it stands in a statement. -/
def Style.object (style : Style) (schema name : String) : String :=
  style.ident schema ++ "." ++ style.ident name

/-! ### Addresses -/

/-- The address of an object inside a schema. -/
def qualified (schema name : String) : String :=
  schema ++ "." ++ name

/-- The schema and the name that an address consists of. -/
def splitQualified (address : String) : String × String :=
  match cutAt? '.' address.toList with
  | some (schema, name) => (String.ofList schema, String.ofList name)
  | none => ("public", address)

/-- An addressed object, as it stands in a statement. -/
def Style.address (style : Style) (address : String) : String :=
  let (schema, name) := splitQualified address
  style.object schema name

/-! ### Names given by default -/

/-- The name of a primary key declared without one. -/
def primaryKeyName (table : String) : String :=
  table ++ "_pkey"

/-- The name of a column's foreign key declared without one. -/
def foreignKeyName (table column : String) : String :=
  table ++ "_" ++ column ++ "_fkey"

/-- The name of the index that a column's uniqueness stands for. -/
def uniqueIndexName (table column : String) : String :=
  table ++ "_" ++ column ++ "_key"

end SchemaPlan.Sql
