import SchemaPlan.Sql.Query.Reading

/-!
# Types in a query

A type is one of the known ones, with the parameters that belong to it, or any other name with or
without parameters.  Brackets behind either make an array of it, and arrays are known.  The
difference matters because a known type in front of a value makes a literal of it, as in
`date '2020-01-01'`, and another name does not.
-/

namespace SchemaPlan.Sql

/-- The kinds of types. -/
inductive TypeKind where
  | known
  | interval
  | other
deriving DecidableEq

namespace Reading

/-- The types without parameters. -/
def plainTypes : List String := [
  "BOOLEAN", "BOOL", "REAL", "FLOAT4", "FLOAT32", "FLOAT64", "FLOAT8", "INT16", "INT32", "INT64",
  "INT128", "INT256", "UINT8", "UINT16", "UINT32", "UINT64", "UINT128", "UINT256", "TINYBLOB",
  "MEDIUMBLOB", "LONGBLOB", "UUID", "DATE", "DATE32", "JSON", "JSONB", "REGCLASS", "TEXT",
  "TINYTEXT", "MEDIUMTEXT", "LONGTEXT", "BYTEA", "TRIGGER"]

/-- The types with a size. -/
def sizedTypes : List String :=
  ["FLOAT", "CLOB", "BINARY", "BLOB", "BYTES", "DATETIME", "TIMESTAMPTZ", "TIMETZ", "STRING"]

/-- The types with a size that may be unsigned. -/
def integerTypes : List String := [
  "TINYINT", "INT2", "SMALLINT", "MEDIUMINT", "INT", "INT4", "INT8", "INTEGER", "BIGINT"]

/-- The types with a number of digits and of decimal places. -/
def decimalTypes : List String :=
  ["NUMERIC", "DECIMAL", "DEC", "BIGNUMERIC", "BIGDECIMAL"]

/-- A size, which may be missing. -/
def size : Reading Unit :=
  optionallyParenthesized count

/-- A number of digits and perhaps one of decimal places, which may be missing. -/
def decimalSize : Reading Unit :=
  optionallyParenthesized do
    count
    if ← mark ',' then count

/-- A length in characters, which may be missing. -/
def textLength : Reading Unit :=
  optionallyParenthesized do
    unless ← keyword "MAX" do
      count
      optional ["CHARACTERS", "OCTETS"]

/-- The type of a text, behind the word it begins with. -/
def textType : Reading Unit := do
  if ← keyword "VARYING" then textLength
  else if ← keywords ["LARGE", "OBJECT"] then size
  else textLength

/-- Whether a time has a zone, which may be left open. -/
def zone : Reading Unit := do
  if (← oneOf ["WITH", "WITHOUT"]).isSome then expectKeywords ["TIME", "ZONE"]

/-- Strings between parentheses, perhaps with numbers. -/
def labels : Reading Unit :=
  parenthesized <| list do
    require (← accept fun l => match l with
      | .string _ => true
      | _ => false)
    if ← operator "=" then numeral

/-- Parameters of a type that is not known. -/
def typeParameters : Reading Unit := do
  if ← mark '(' then
    repeatedly do
      match ← next with
      | some (.mark c) =>
        require (c == ',' || c == ')')
        return c == ','
      | some (.word _ _) | some (.quotedName _) | some (.number _) | some (.string _) => return true
      | _ => mismatch

/-- The parameters of a known type, behind the word it begins with; another word has none. -/
def knownType (capital : String) : Reading Bool := do
  if plainTypes.contains capital then return true
  else if sizedTypes.contains capital then do
    size
    return true
  else if integerTypes.contains capital then do
    size
    optional ["UNSIGNED"]
    return true
  else if decimalTypes.contains capital then do
    decimalSize
    return true
  else match capital with
    | "DOUBLE" => do
      unless ← keyword "PRECISION" do decimalSize
      return true
    | "VARCHAR" | "NVARCHAR" => do
      textLength
      return true
    | "CHARACTER" | "CHAR" => do
      textType
      return true
    | "VARBINARY" => do
      optionallyParenthesized do
        unless ← keyword "MAX" do count
      return true
    | "BIT" => do
      optional ["VARYING"]
      size
      return true
    | "TIMESTAMP" | "TIME" => do
      size
      zone
      return true
    | "DATETIME64" => do
      parenthesized do
        count
        if ← mark ',' then text
      return true
    | "FIXEDSTRING" => do
      parenthesized count
      return true
    | "ENUM" | "ENUM8" | "ENUM16" | "SET" => do
      labels
      return true
    | "ANY" => keyword "TYPE"
    | _ => return false

/-- The sizes of an array, each between brackets, which may be left open. -/
def arraySizes : Reading Unit :=
  repeatedly do
    let more ← mark '['
    if more then
      let _ ← attempt count
      expectMark ']'
    return more

/-- A type that holds others no deeper than `n` times. -/
def typeUpTo : Nat → Reading TypeKind
  | 0 => mismatch
  | n + 1 => do
    let kind ← match ← peek with
      | some (.word _ "INTERVAL") => do
        skip 1
        pure .interval
      | some (.word _ "ARRAY") => do
        skip 1
        require (← operator "<")
        let _ ← typeUpTo n
        require (← operator ">")
        pure .known
      | some (.word _ capital) => do
        let start ← get
        skip 1
        if ← knownType capital then pure .known
        else do
          set start
          anyQualifiedName
          typeParameters
          pure .other
      | some (.quotedName _) => do
        anyQualifiedName
        typeParameters
        pure .other
      | _ => mismatch
    let isArray ← sees (· == .mark '[')
    arraySizes
    return if isArray then .known else kind

/-- A type. -/
def typeName : Reading TypeKind := do
  typeUpTo (← bound)

/-- Takes a type. -/
def anyType : Reading Unit := do
  let _ ← typeName

end Reading

end SchemaPlan.Sql
