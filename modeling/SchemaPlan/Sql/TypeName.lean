import SchemaPlan.Text.Case
import SchemaPlan.Sql.Expression

/-!
# Names of types

A column type has many spellings: `int4`, `INT` and `integer` are one type, and so are `varchar(20)`
and `character varying( 20 )`.  `TypeName.normalize` gives each its usual long spelling, with the
modifiers written without spaces.

The serial types are not types of their own: they stand for an integer type with a counter behind
it, and `TypeName.storage` names that integer type.
-/

namespace SchemaPlan.Sql.TypeName

open SchemaPlan.Text

/-- The usual spelling of a type name without modifiers, given in lower case. -/
def canonical : String → String
  | "int" | "int4" => "integer"
  | "int8" => "bigint"
  | "int2" => "smallint"
  | "serial4" => "serial"
  | "serial8" => "bigserial"
  | "bool" => "boolean"
  | "varchar" => "character varying"
  | "char" => "character"
  | "float8" | "double" => "double precision"
  | "float4" => "real"
  | "decimal" => "numeric"
  | "timestamp without time zone" => "timestamp"
  | "timestamptz" => "timestamp with time zone"
  | "timetz" => "time with time zone"
  | "time without time zone" => "time"
  | other => other

/-- Whether a character begins the modifiers of a type. -/
def opensModifiers (c : Char) : Bool :=
  c == '(' || c == '['

/-- The normal form under which types are compared. -/
def normalize (s : String) : String :=
  let cs := (lowercase (normalizeSpace s)).toList
  let base := cs.takeWhile (!opensModifiers ·)
  let modifiers := cs.dropWhile (!opensModifiers ·)
  let base := if modifiers.isEmpty then base else dropEndWhile isBlank base
  canonical (String.ofList base) ++ String.ofList (modifiers.filter (· != ' '))

/-- Whether two spellings name the same type. -/
def same (a b : String) : Bool :=
  normalize a == normalize b

/-- Whether a type counts by itself. -/
def isSerial (s : String) : Bool :=
  ["serial", "bigserial", "smallserial"].contains (normalize s)

/-- The type in which the values of a type are kept. -/
def storage (s : String) : String :=
  match normalize s with
  | "serial" => "integer"
  | "bigserial" => "bigint"
  | "smallserial" => "smallint"
  | _ => s

end SchemaPlan.Sql.TypeName
