import SchemaPlan.Order
import SchemaPlan.Model.Validate

/-!
# Two versions side by side

A `Comparison` holds the previous version of a definition, if there is one, and the new version,
together with what has to be settled before any change can be planned: the orders in which the
tables of either version are worked on, and which table of the new version continues which table of
the previous one.

A table continues the table its rename marker names, if that exists, and otherwise the table of its
own name.  Both existing at once is refused, and so is a table that two tables would continue; hence
the correspondence pairs tables off one to one.
-/

namespace SchemaPlan

/-- What a plan is to cover. -/
structure Options where
  /-- Follow the names that objects had in the previous version. -/
  renameTracking : Bool := true
  /-- The stages will be run as one script. -/
  singleStage : Bool := false
  /-- Leave static rows alone. -/
  onlySchema : Bool := false
  /-- Leave everything but static rows alone. -/
  onlyData : Bool := false
  manageGrants : Bool := true
  manageOwnership : Bool := true
deriving DecidableEq

/-- The two versions, and what is settled about them. -/
structure Comparison where
  old : Option Database
  new : Database
  newOrder : List OrderItem
  oldOrder : List OrderItem
  options : Options
  style : Sql.Style
  /-- Tables of the new version with the tables they continue, the latest first. -/
  pairs : List (TableKey × TableKey)

/-! ### Correspondence -/

/-- The table a marker says that a table was in the previous version. -/
def renameMarker? (schema : String) (t : Table) : Option TableKey :=
  if t.oldName.isSome || t.oldSchema.isSome then
    some (t.oldSchema.getD schema, t.oldName.getD t.name)
  else none

/-- The table of the previous version that a table continues. -/
def continued (old : Database) (renameTracking : Bool) (schema : String) (t : Table) :
    Except SchemaError (Option TableKey) :=
  let identity := (schema, t.name)
  let found (key : TableKey) := (old.table? key.1 key.2).isSome
  let byName := if found identity then some identity else none
  match if renameTracking then renameMarker? schema t else none with
  | none => .ok byName
  | some marker =>
    if marker != identity && found marker then
      if found identity then
        .error (.definition (Sql.qualified identity.1 identity.2)
          (.ambiguousRename (Sql.qualified marker.1 marker.2)
            (Sql.qualified identity.1 identity.2)))
      else .ok (some marker)
    else .ok byName

/-- Pairs with one more for a table of the new version, if it continues one. -/
def addPair (old : Database) (renameTracking : Bool) (pairs : List (TableKey × TableKey))
    (item : Schema × Table) : Except SchemaError (List (TableKey × TableKey)) := do
  let (s, t) := item
  match ← continued old renameTracking s.name t with
  | none => return pairs
  | some key =>
    match pairs.find? (·.2 == key) with
    | some (other, _) =>
      throw (.definition (Sql.qualified s.name t.name)
        (.alreadyContinued (Sql.qualified key.1 key.2) (Sql.qualified other.1 other.2)))
    | none => return ((s.name, t.name), key) :: pairs

/-- The tables of the new version with those they continue. -/
def correspondence (old : Option Database) (new : Database) (renameTracking : Bool) :
    Except SchemaError (List (TableKey × TableKey)) :=
  match old with
  | none => .ok []
  | some old => new.tables.foldlM (addPair old renameTracking) []

/-! ### Orders -/

/-- Whether an item of an order is found in a definition. -/
def OrderItem.isIn (i : OrderItem) (db : Database) : Bool :=
  match i.table with
  | some table => (db.table? i.schema table).isSome
  | none => (db.schema? i.schema).isSome

/-- Checks an order given from outside: it lists no item twice and only items of either version, and
every table of the version it is for. -/
def checkOrder (side : Side) (order : List OrderItem) (db : Database) (other : Option Database) :
    Except SchemaError Unit := do
  checkEach order fun before item => do
    ensure (!before.contains item) (.order (.repeated side item.text))
    ensure (item.isIn db || other.any item.isIn) (.order (.unknown side item.text))
  checkAll db.tables fun (s, t) =>
    let item : OrderItem := ⟨s.name, some t.name⟩
    ensure (order.contains item) (.order (.omitted side item.text))

/-- The order for a version: the one given, if it is in order, or that of declaration. -/
def chooseOrder (side : Side) (order : Option (List OrderItem)) (db : Database)
    (other : Option Database) : Except SchemaError (List OrderItem) :=
  match order with
  | some order => do
    checkOrder side order db other
    return order
  | none => .ok db.naturalOrder

namespace Comparison

/-- Puts two versions side by side. -/
def make (old : Option Database) (new : Database) (newOrder oldOrder : Option (List OrderItem))
    (style : Sql.Style) (options : Options) : Except SchemaError Comparison := do
  let newOrder ← chooseOrder .new newOrder new old
  let oldOrder ← match old with
    | some old => chooseOrder .old oldOrder old (some new)
    | none => pure []
  let pairs ← correspondence old new options.renameTracking
  return { old, new, newOrder, oldOrder, options, style, pairs }

/-! ### Looking across -/

/-- The table of the previous version that a table of the new version continues. -/
def oldVersion? (c : Comparison) (schema table : String) : Option (Schema × Table) := do
  let old ← c.old
  let (_, key) ← c.pairs.find? (·.1 == (schema, table))
  old.table? key.1 key.2

/-- The table of the new version that continues a table of the previous version. -/
def newVersion? (c : Comparison) (schema table : String) : Option (Schema × Table) := do
  let (key, _) ← c.pairs.find? (·.2 == (schema, table))
  c.new.table? key.1 key.2

/-- The schema of that name in the previous version. -/
def oldSchema? (c : Comparison) (name : String) : Option Schema :=
  c.old.bind (·.schema? name)

/-- The tables of a definition that an order lists, in that order. -/
def tablesIn (db : Database) (order : List OrderItem) : List (Schema × Table) :=
  order.filterMap fun item => item.table.bind (db.table? item.schema)

/-- The tables of the new version in order. -/
def newTables (c : Comparison) : List (Schema × Table) :=
  tablesIn c.new c.newOrder

/-- The tables of the previous version, those that depend on others first. -/
def oldTablesReversed (c : Comparison) : List (Schema × Table) :=
  match c.old with
  | none => []
  | some old => tablesIn old c.oldOrder.reverse

/-- The names with those of others that are new. -/
def addNames (names others : List String) : List String :=
  others.foldl (fun names n => if names.contains n then names else names ++ [n]) names

/-- The schemas of the new version in the order in which they first appear in the order of tables;
those that do not appear come last. -/
def newSchemas (c : Comparison) : List Schema :=
  (addNames (addNames [] (c.newOrder.map (·.schema))) (c.new.schemas.map (·.name))).filterMap
    c.new.schema?

end Comparison

end SchemaPlan
