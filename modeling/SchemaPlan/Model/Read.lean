import SchemaPlan.Error
import SchemaPlan.Model.Decode

/-!
# Reading and merging definitions

`Database.read` reads a definition from its text.  A text that is JSON but no definition is judged
as a whole, so the place given for it is the end of the text.

A definition may be given in parts.  `Database.merge` adds a part to what has been read: schemas of
one name become one, object by object, and the statements are put one behind the other.  An owner or
a description may be repeated but not changed.  Objects that end up there twice are left for
validation to find.
-/

namespace SchemaPlan

/-- The line and the column reached behind a text, where both count from one and zero. -/
def placeAfter (cs : List Char) : Nat × Nat :=
  cs.foldl (fun (line, column) c => if c == '\n' then (line + 1, 0) else (line, column + 1)) (1, 0)

/-- Reads a definition. -/
def Database.read (text : String) : Except SchemaError Database :=
  let fault (left : Nat) : SchemaError :=
    let (line, column) := placeAfter (text.toList.take (text.length - left))
    .parse (.malformed line column)
  match Json.parse text with
  | .error left => .error (fault left)
  | .ok j =>
    match Decode.database j with
    | some db => .ok db
    | none => .error (fault 0)

/-- The value of an attribute that is declared in two places. -/
def mergeAttribute (schema part : String) : Option String → Option String →
    Except SchemaError (Option String)
  | current, none => .ok current
  | none, some other => .ok (some other)
  | some current, some other =>
    if current == other then .ok (some current)
    else .error (.definition schema (.conflicting part current other))

/-- A schema with what is declared for it elsewhere. -/
def Schema.merge (s other : Schema) : Except SchemaError Schema := do
  let owner ← mergeAttribute s.name "owner" s.owner other.owner
  let description ← mergeAttribute s.name "description" s.description other.description
  return { s with
    owner, description
    grants := s.grants ++ other.grants
    tables := s.tables ++ other.tables
    sequences := s.sequences ++ other.sequences
    types := s.types ++ other.types
    views := s.views ++ other.views
    functions := s.functions ++ other.functions
    triggers := s.triggers ++ other.triggers }

/-- Schemas with one more, which joins the first of its name. -/
def mergeSchema : List Schema → Schema → Except SchemaError (List Schema)
  | [], other => .ok [other]
  | s :: rest, other =>
    if s.name == other.name then do
      return (← s.merge other) :: rest
    else do
      return s :: (← mergeSchema rest other)

/-- A definition with another part of it. -/
def Database.merge (db other : Database) : Except SchemaError Database := do
  let schemas ← other.schemas.foldlM mergeSchema db.schemas
  return { schemas, sql := db.sql ++ other.sql }

end SchemaPlan
