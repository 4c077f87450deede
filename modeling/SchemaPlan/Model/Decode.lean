import SchemaPlan.Json.Parser
import SchemaPlan.Model.Basic

/-!
# Reading a definition

How each part of a definition is written as a JSON value.  A record is an object, or an array of its
fields in order; in an object a field may not be given twice and unknown fields are passed over.
`slots` finds the fields of a record, and what a missing field means is said where it is read:
`required`, `orElse` with a default, or `optional`, for which null means the same as absence.

Rows, cells and types have forms of their own.  A row is an array of cells or an object, a cell is a
string, null or an object, and a type is an object that mixes its own fields with those of its kind.
They are told apart only after having been read as a whole, so whatever they contain has to be
sound, also where it is passed over.
-/

namespace SchemaPlan.Decode

/-! ### Single values -/

/-- A string. -/
def text : Json → Option String
  | .str s => s
  | _ => none

/-- A truth value. -/
def bool : Json → Option Bool
  | .bool b => some b
  | _ => none

/-- An integer of 64 bits. -/
def integer : Json → Option Int
  | .int n => if -9223372036854775808 ≤ n && n ≤ 9223372036854775807 then some n else none
  | _ => none

/-- A list of values that are all read alike. -/
def list {α : Type} (read : Json → Option α) : Json → Option (List α)
  | .arr items => items.mapM read
  | _ => none

/-- One of some words, also in the form of an object with a field of that name that is null. -/
def word {α : Type} (words : List (String × α)) : Json → Option α
  | .str s => s.bind (List.lookup · words)
  | .obj [(name, .null)] => name.bind (List.lookup · words)
  | _ => none

/-! ### Fields -/

/-- The values of the named fields of an object, each at most once. -/
def objectSlots (names : List String) (fields : List (Option String × Json)) :
    Option (List (Option Json)) :=
  if fields.all (·.1.isSome) then
    names.mapM fun name =>
      match fields.filter (·.1 == some name) with
      | [] => some none
      | [(_, j)] => some (some j)
      | _ => none
  else none

/-- The values of the named fields of a record. -/
def slots (names : List String) : Json → Option (List (Option Json))
  | .arr items =>
    if items.length ≤ names.length then
      some (items.map some ++ List.replicate (names.length - items.length) none)
    else none
  | .obj fields => objectSlots names fields
  | _ => none

/-- A field that must be given. -/
def required {α : Type} (read : Json → Option α) : Option Json → Option α
  | none => none
  | some j => read j

/-- A field with a default. -/
def orElse {α : Type} (default : α) (read : Json → Option α) : Option Json → Option α
  | none => some default
  | some j => read j

/-- A field that may be missing or null. -/
def optional {α : Type} (read : Json → Option α) : Option Json → Option (Option α)
  | none => some none
  | some .null => some none
  | some j => (read j).map some

/-! ### Words -/

/-- Reads what happens to referencing rows. -/
def referenceAction : Json → Option ReferenceAction :=
  word [("no_action", .noAction), ("restrict", .restrict), ("cascade", .cascade),
    ("set_null", .setNull), ("set_default", .setDefault)]

/-- Reads a kind of constraint. -/
def constraintKind : Json → Option ConstraintKind :=
  word [("primary_key", .primaryKey), ("foreign_key", .foreignKey), ("unique", .unique),
    ("check", .check)]

/-- Reads a volatility. -/
def volatility : Json → Option Volatility :=
  word [("immutable", .immutable), ("stable", .stable), ("volatile", .volatile)]

/-- Reads the time of a trigger. -/
def triggerTiming : Json → Option TriggerTiming :=
  word [("before", .before), ("after", .after), ("instead_of", .insteadOf)]

/-- Reads an event. -/
def triggerEvent : Json → Option TriggerEvent :=
  word [("insert", .insert), ("update", .update), ("delete", .delete), ("truncate", .truncate)]

/-- Reads what a trigger runs for. -/
def triggerLevel : Json → Option TriggerLevel :=
  word [("row", .row), ("statement", .statement)]

/-- Reads a stage. -/
def stage : Json → Option Stage :=
  word [("stage1", .stage1), ("stage2", .stage2), ("stage3", .stage3), ("stage4", .stage4)]

/-! ### Parts of tables -/

/-- Reads a grant. -/
def grant (j : Json) : Option Grant := do
  let [roles, operations, withGrantOption] ←
    slots ["roles", "operations", "with_grant_option"] j | none
  return {
    roles := ← required (list text) roles
    operations := ← required (list text) operations
    withGrantOption := ← orElse false bool withGrantOption }

/-- Reads a reference to a table. -/
def tableRef (j : Json) : Option TableRef := do
  let [schema, table] ← slots ["schema", "table"] j | none
  return {
    schema := ← optional text schema
    table := ← required text table }

/-- Reads a foreign key. -/
def foreignKey (j : Json) : Option ForeignKey := do
  let [schema, table, column, onDelete, onUpdate, constraintName] ←
    slots ["schema", "table", "column", "on_delete", "on_update", "constraint_name"] j | none
  return {
    schema := ← optional text schema
    table := ← required text table
    column := ← optional text column
    onDelete := ← optional referenceAction onDelete
    onUpdate := ← optional referenceAction onUpdate
    constraintName := ← optional text constraintName }

/-- Reads a column. -/
def column (j : Json) : Option Column := do
  let [name, dataType, key, nullable, default?, unique, oldName, convertUsing, description,
      serialStart] ←
    slots ["name", "type", "foreign_key", "nullable", "default", "unique", "old_name",
      "convert_using", "description", "serial_start"] j | none
  return {
    name := ← required text name
    dataType := ← optional text dataType
    foreignKey := ← optional foreignKey key
    nullable := ← orElse true bool nullable
    default? := ← optional text default?
    unique := ← orElse false bool unique
    oldName := ← optional text oldName
    convertUsing := ← optional text convertUsing
    description := ← optional text description
    serialStart := ← optional integer serialStart }

/-- Reads a constraint. -/
def constraint (j : Json) : Option ConstraintDecl := do
  let [name, kind, definition, references, onDelete, onUpdate] ←
    slots ["name", "kind", "definition", "references", "on_delete", "on_update"] j | none
  return {
    name := ← required text name
    kind := ← required constraintKind kind
    definition := ← required text definition
    references := ← optional tableRef references
    onDelete := ← optional referenceAction onDelete
    onUpdate := ← optional referenceAction onUpdate }

/-- Reads an index. -/
def index (j : Json) : Option Index := do
  let [name, unique, method, dimensions, predicate] ←
    slots ["name", "unique", "method", "dimensions", "predicate"] j | none
  return {
    name := ← required text name
    unique := ← orElse false bool unique
    method := ← optional text method
    dimensions := ← required (list text) dimensions
    predicate := ← optional text predicate }

/-- A cell: a string, null, or an object of which every field may be missing. -/
def cell (j : Json) : Option Cell :=
  if !j.isSound then none
  else match j with
    | .str (some s) => some { value := some s }
    | .null => some { null := true }
    | .obj fields => do
      let [value, null, empty, sql] ← objectSlots ["value", "null", "empty", "sql"] fields | none
      return {
        value := ← optional text value
        null := ← orElse false bool null
        empty := ← orElse false bool empty
        sql := ← orElse false bool sql }
    | _ => none

/-- A row: its cells, or an object that may also mark it as deleted. -/
def row (j : Json) : Option Row :=
  if !j.isSound then none
  else match j with
    | .arr items => (items.mapM cell).map fun cells => { cells }
    | .obj fields => do
      let [cells, delete] ← objectSlots ["cells", "delete"] fields | none
      return {
        cells := ← required (list cell) cells
        delete := ← orElse false bool delete }
    | _ => none

/-- Reads static rows. -/
def rowSet (j : Json) : Option RowSet := do
  let [columns, rows] ← slots ["columns", "rows"] j | none
  return {
    columns := ← required (list text) columns
    rows := ← orElse [] (list row) rows }

/-- Reads a table. -/
def table (j : Json) : Option Table := do
  let [name, owner, description, oldName, oldSchema, primaryKey, primaryKeyName, inherits,
      clusterIndex, columns, constraints, indexes, grants, rows] ←
    slots ["name", "owner", "description", "old_name", "old_schema", "primary_key",
      "primary_key_name", "inherits", "cluster_index", "columns", "constraints", "indexes",
      "grants", "rows"] j | none
  return {
    name := ← required text name
    owner := ← optional text owner
    description := ← optional text description
    oldName := ← optional text oldName
    oldSchema := ← optional text oldSchema
    primaryKey := ← orElse [] (list text) primaryKey
    primaryKeyName := ← optional text primaryKeyName
    inherits := ← optional tableRef inherits
    clusterIndex := ← optional text clusterIndex
    columns := ← orElse [] (list column) columns
    constraints := ← orElse [] (list constraint) constraints
    indexes := ← orElse [] (list index) indexes
    grants := ← orElse [] (list grant) grants
    rows := ← optional rowSet rows }

/-! ### Other objects -/

/-- Reads a sequence. -/
def sequence (j : Json) : Option Sequence := do
  let [name, owner, start, increment, minValue, maxValue, cache, cycle, ownedBy, grants] ←
    slots ["name", "owner", "start", "increment", "min_value", "max_value", "cache", "cycle",
      "owned_by", "grants"] j | none
  return {
    name := ← required text name
    owner := ← optional text owner
    start := ← optional integer start
    increment := ← optional integer increment
    minValue := ← optional integer minValue
    maxValue := ← optional integer maxValue
    cache := ← optional integer cache
    cycle := ← orElse false bool cycle
    ownedBy := ← optional text ownedBy
    grants := ← orElse [] (list grant) grants }

/-- Reads a field of a type. -/
def typeField (j : Json) : Option TypeField := do
  let [name, dataType] ← slots ["name", "type"] j | none
  return {
    name := ← required text name
    dataType := ← required text dataType }

/-- Reads a check of a domain. -/
def domainCheck (j : Json) : Option DomainCheck := do
  let [name, definition] ← slots ["name", "definition"] j | none
  return {
    name := ← required text name
    definition := ← required text definition }

/-- The three kinds of types. -/
inductive TypeKind where
  | enum
  | composite
  | domain

/-- A kind of type, by its name or by its number. -/
def typeKind : Json → Option TypeKind
  | .str (some "enum") | .int 0 => some .enum
  | .str (some "composite") | .int 1 => some .composite
  | .str (some "domain") | .int 2 => some .domain
  | _ => none

/-- The fields that belong to a kind of type. -/
def typeBody (fields : List (Option String × Json)) : TypeKind → Option TypeBody
  | .enum => do
    let [values] ← objectSlots ["values"] fields | none
    return .enum (← required (list text) values)
  | .composite => do
    let [parts] ← objectSlots ["fields"] fields | none
    return .composite (← required (list typeField) parts)
  | .domain => do
    let [baseType, default?, nullable, checks] ←
      objectSlots ["base_type", "default", "nullable", "checks"] fields | none
    return .domain (← required text baseType) (← optional text default?)
      (← orElse true bool nullable) (← orElse [] (list domainCheck) checks)

/-- A type: one object with the fields of the type and those of its kind. -/
def typeDef : Json → Option TypeDef
  | .obj fields => do
    let [name, owner, kind] ← objectSlots ["name", "owner", "kind"] fields | none
    if !Json.areFieldsSound (fields.filter fun f => f.1 != some "name" && f.1 != some "owner") then
      none
    return {
      name := ← required text name
      owner := ← optional text owner
      body := ← typeBody fields (← required typeKind kind) }
  | _ => none

/-- Reads a view. -/
def view (j : Json) : Option View := do
  let [name, owner, description, query, grants] ←
    slots ["name", "owner", "description", "query", "grants"] j | none
  return {
    name := ← required text name
    owner := ← optional text owner
    description := ← optional text description
    query := ← required text query
    grants := ← orElse [] (list grant) grants }

/-- Reads an argument. -/
def argument (j : Json) : Option Argument := do
  let [name, dataType] ← slots ["name", "type"] j | none
  return {
    name := ← optional text name
    dataType := ← required text dataType }

/-- Reads a function. -/
def routine (j : Json) : Option Routine := do
  let [name, owner, arguments, returns, language, definition, promise, securityDefiner, grants] ←
    slots ["name", "owner", "arguments", "returns", "language", "definition", "volatility",
      "security_definer", "grants"] j | none
  return {
    name := ← required text name
    owner := ← optional text owner
    arguments := ← orElse [] (list argument) arguments
    returns := ← required text returns
    language := ← required text language
    definition := ← required text definition
    volatility := ← optional volatility promise
    securityDefiner := ← orElse false bool securityDefiner
    grants := ← orElse [] (list grant) grants }

/-- Reads a trigger. -/
def trigger (j : Json) : Option Trigger := do
  let [name, table, timing, events, forEach, function, when?] ←
    slots ["name", "table", "timing", "events", "for_each", "function", "when"] j | none
  return {
    name := ← required text name
    table := ← required text table
    timing := ← required triggerTiming timing
    events := ← required (list triggerEvent) events
    forEach := ← orElse .row triggerLevel forEach
    function := ← required text function
    when? := ← optional text when? }

/-- Reads a schema. -/
def schema (j : Json) : Option Schema := do
  let [name, owner, description, grants, tables, sequences, types, views, functions, triggers] ←
    slots ["name", "owner", "description", "grants", "tables", "sequences", "types", "views",
      "functions", "triggers"] j | none
  return {
    name := ← required text name
    owner := ← optional text owner
    description := ← optional text description
    grants := ← orElse [] (list grant) grants
    tables := ← orElse [] (list table) tables
    sequences := ← orElse [] (list sequence) sequences
    types := ← orElse [] (list typeDef) types
    views := ← orElse [] (list view) views
    functions := ← orElse [] (list routine) functions
    triggers := ← orElse [] (list trigger) triggers }

/-- Reads a statement of the definition. -/
def customSql (j : Json) : Option CustomSql := do
  let [stageOf, before, statement, comment] ← slots ["stage", "before", "text", "comment"] j | none
  return {
    stage := ← required stage stageOf
    before := ← orElse false bool before
    text := ← required text statement
    comment := ← optional text comment }

/-- A definition. -/
def database (j : Json) : Option Database := do
  let [schemas, sql] ← slots ["schemas", "sql"] j | none
  return {
    schemas := ← orElse [] (list schema) schemas
    sql := ← orElse [] (list customSql) sql }

end SchemaPlan.Decode
