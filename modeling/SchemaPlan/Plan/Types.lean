import SchemaPlan.Plan.Comparison
import SchemaPlan.Plan.Draft

/-!
# Changing types

An enumeration that only gains values is extended in place, and so is a domain changed whose base
type stays.  Any other change rebuilds the type: the columns that use it are parked on another type,
their defaults set aside, the type is dropped and created, and the columns come back.

Types change before any table does, so the columns are addressed by the names they had.
-/

namespace SchemaPlan

/-! ### Changes in place -/

/-- The values of an enumeration that are new, each with the old value it goes in front of. -/
def addedValues (old : List String) : List String → List (String × Option EnumPosition)
  | [] => []
  | v :: rest =>
    if old.contains v then addedValues old rest
    else (v, (rest.find? old.contains).map .before) :: addedValues old rest

/-- What makes one enumeration into another, if the old values are all there in their order. -/
def enumAdditions? : TypeBody → TypeBody → Option (List (String × Option EnumPosition))
  | .enum old, .enum new =>
    if new.filter old.contains == old then some (addedValues old new) else none
  | _, _ => none

/-- Whether a check is among others. -/
def hasCheck (checks : List DomainCheck) (check : DomainCheck) : Bool :=
  checks.any fun c => c.name == check.name && Sql.sameExpression c.definition check.definition

/-- What makes one domain into another, if the base type stays. -/
def domainChanges? : TypeBody → TypeBody → Option (List DomainChange)
  | .domain oldBase oldDefault oldNullable oldChecks, .domain base default? nullable checks =>
    if Sql.TypeName.same oldBase base then
      some (
        (if Sql.sameExpression? oldDefault default? then []
          else [match default? with
            | some value => .setDefault value
            | none => .dropDefault]) ++
        (oldChecks.filter (!hasCheck checks ·)).map (fun c => .dropCheck c.name) ++
        (if oldNullable == nullable then []
          else [if nullable then .dropNotNull else .setNotNull]) ++
        (checks.filter (!hasCheck oldChecks ·)).map .addCheck)
    else none
  | _, _ => none

/-- Whether a type has to be dropped and created to become another. -/
def requiresRebuild (old new : TypeDef) : Bool :=
  old.body != new.body && (enumAdditions? old.body new.body).isNone &&
    (domainChanges? old.body new.body).isNone

/-! ### Rebuilding -/

/-- Whether a type is a domain. -/
def TypeBody.isDomain : TypeBody → Bool
  | .domain .. => true
  | _ => false

/-- Whether the type of a column, as it is written, means a type of a schema. -/
def refersToType (dataType schema name : String) : Bool :=
  let cleaned := Text.lowercase
    (String.ofList ((Text.trimmed dataType).toList.filter (· != '\x22')))
  let name := Text.lowercase name
  cleaned == name || cleaned == Text.lowercase schema ++ "." ++ name

/-- The columns, in an order of tables, whose type means a type of a schema. -/
def columnsOfType (db : Database) (order : List OrderItem) (schema name : String) :
    Except SchemaError (List (TableKey × Column)) := do
  let found ← (Comparison.tablesIn db order).mapM fun (s, t) => do
    let columns ← t.columns.mapM fun col => do
      let dataType ← db.columnType s.name t.name col.name
      return if refersToType dataType schema name then [((s.name, t.name), col)] else []
    return columns.flatten
  return found.flatten

/-- The type that columns are parked on while a type is rebuilt. -/
def placeholder : TypeBody → String
  | .domain baseType .. => baseType
  | _ => "text"

/-- Parks a column. -/
def parkColumn (style : Sql.Style) (type : String) (item : TableKey × Column) : List Op :=
  let ((schema, table), col) := item
  let address := Sql.qualified schema table
  (if col.default?.isSome then [.alterColumn address col.name .dropDefault] else []) ++
    [.alterColumn address col.name
      (.type type (some (style.ident col.name ++ "::" ++ type)))]

/-- Brings a column back. -/
def restoreColumn (style : Sql.Style) (type : String) (viaText : Bool)
    (item : TableKey × Column) : List Op :=
  let ((schema, table), col) := item
  let address := Sql.qualified schema table
  let cast := if viaText then "::text::" else "::"
  .alterColumn address col.name (.type type (some (style.ident col.name ++ cast ++ type))) ::
    (col.default?.map fun value => Op.alterColumn address col.name (.setDefault value)).toList

namespace Comparison

/-- Drops a type and creates it anew. -/
def rebuildType (c : Comparison) (schema : String) (old new : TypeDef) :
    Except SchemaError (List Op) := do
  let columns ← match c.old with
    | some db => columnsOfType db c.oldOrder schema old.name
    | none => pure []
  let type := c.style.object schema new.name
  return columns.flatMap (parkColumn c.style (placeholder old.body)) ++
    [.dropType (Sql.qualified schema new.name) old.body.isDomain, .createType schema new] ++
    columns.flatMap (restoreColumn c.style type (!new.body.isDomain))

/-- The operations on a type of the new version. -/
def typeOps (c : Comparison) (schema : String) (t : TypeDef) : Except SchemaError (List Op) :=
  match (c.oldSchema? schema).bind (·.type? t.name) with
  | none => .ok [.createType schema t]
  | some old =>
    let address := Sql.qualified schema t.name
    if old.body == t.body then .ok []
    else match enumAdditions? old.body t.body with
      | some added => .ok (added.map fun (value, position) => .addEnumValue address value position)
      | none => match domainChanges? old.body t.body with
        | some changes => .ok (changes.map (.alterDomain address))
        | none => c.rebuildType schema old t

/-- The operations on the types of a schema. -/
def schemaTypeOps (c : Comparison) (schema : Schema) : Except SchemaError (List Op) := do
  return (← schema.types.mapM (c.typeOps schema.name)).flatten

end Comparison

end SchemaPlan
