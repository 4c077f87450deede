import SchemaPlan.Plan.Privileges

/-!
# Rebuilding views

A view stands in the way of changes to the tables it reads from.  So when anything changes
structure, or any view itself changes, all views are dropped before everything else and all are
created after it, with their owners and privileges; otherwise none is touched.

Views are created so that each comes after the views it reads from, in the order of declaration
where that leaves a choice, and dropped in the opposite order.  Views that read from each other in
a circle come last.  What a query reads from is for a `QueryReader` to say, and whatever it says, a
plan is drawn up.
-/

namespace SchemaPlan

/-- Whether the views of two versions differ. -/
def viewsDiffer (old new : Database) : Bool :=
  let views (db : Database) := db.schemas.flatMap fun s => s.views.map fun v =>
    ((s.name, v.name,
      Sql.normalizeSpace (String.ofList
        (Text.dropEndWhile (· == ';') (Text.stripWhile Text.isBlank v.query.toList)))), v)
  let oldViews := views old
  let newViews := views new
  oldViews.length != newViews.length ||
    newViews.any fun (key, v) =>
      match oldViews.lookup key with
      | none => true
      | some o => o.owner != v.owner || o.grants != v.grants ||
          !Sql.sameExpression? o.description v.description

/-! ### The order of views -/

/-- A way to tell what queries read from. -/
class QueryReader where
  /-- The schemas and names of what a query given inside a schema reads from. -/
  references : (query schema : String) → List (String × String)

/-- Takes no query to read from anything, which is enough where there are no views. -/
@[reducible]
def QueryReader.blank : QueryReader where
  references _ _ := []

/-- The views of a definition with the names of their schemas. -/
def Database.views (db : Database) : List (String × View) :=
  db.schemas.flatMap fun s => s.views.map fun v => (s.name, v)

/-- The views in an order in which each comes after those its query reads from. -/
def viewOrder [QueryReader] (db : Database) : List (String × View) :=
  let views := db.views
  let keys := views.map fun (s, v) => (s, v.name)
  let table := views.zipIdx.map fun ((s, v), i) =>
    ((QueryReader.references v.query s).filterMap fun key => lastPlace? key keys).filter (· != i)
  let (settled, rest) := settle (table.getD · []) views.length
  (settled ++ rest).filterMap (views[·]?)

namespace Comparison

/-- The operations that create a view. -/
def createView (c : Comparison) (item : String × View) : List Op :=
  let (schema, v) := item
  .createView schema v ::
    (if v.description.isSome then
      [.setComment (.view (Sql.qualified schema v.name)) v.description] else []) ++
    c.viewPrivilegeOps schema v

/-- The work on views, given whether anything else changes structure. -/
def viewWork [QueryReader] (c : Comparison) (structural : Bool) : Draft :=
  let drops := match c.old with
    | none => some []
    | some old =>
      if !structural && !viewsDiffer old c.new then none
      else some ((viewOrder old).reverse.map fun (schema, v) =>
        Op.dropView (Sql.qualified schema v.name))
  match drops with
  | none => {}
  | some viewDrops => { viewDrops, viewCreates := (viewOrder c.new).flatMap c.createView }

end Comparison

end SchemaPlan
