import SchemaPlan.Proofs.Correspondence
import SchemaPlan.Plan.Basic

/-!
# Creating a database is upgrading an empty one

Nearly every pass asks whether there is a previous version, and does without one in a way of its own:
constraints are not looked through, views are not compared, rows have nothing to be matched with.
An empty previous version takes the other way each time and has to come to the same.  That it does is
`plan_of_nothing`.

There is one statement for each pass.  Most passes look at the previous version through
`oldVersion?` and `oldSchema?` only, which find nothing either way.  What there is to see to are the
passes that ask for it themselves: `constraintDrops_onEmpty`, `dropRemoved_onEmpty`,
`viewWork_onEmpty`, `customSql_onEmpty` and `rowSides_onEmpty`.
-/

namespace SchemaPlan

/-! ### Nothing to be found -/

/-- Where there are no views, none are put in order. -/
theorem viewOrder_of_views_eq_nil [QueryReader] {db : Database} (h : db.views = []) :
    viewOrder db = [] := by
  simp only [viewOrder, h]
  exact List.filterMap_eq_nil_iff.2 fun _ _ => rfl

/-- A definition whose views are those of an empty one has none. -/
theorem views_eq_nil_of_same {db : Database} (h : viewsDiffer {} db = false) : db.views = [] := by
  simp only [viewsDiffer, Bool.or_eq_false_iff, bne_eq_false_iff_eq] at h
  have hnil := List.eq_nil_of_length_eq_zero h.1.symm
  simp only [List.flatMap_eq_nil_iff, List.map_eq_nil_iff] at hnil
  simpa only [Database.views, List.flatMap_eq_nil_iff, List.map_eq_nil_iff] using hnil

namespace Comparison

/-- The comparison with an empty previous version. -/
def onEmpty (c : Comparison) : Comparison :=
  { c with old := some {} }

section OnEmpty

variable {c : Comparison} (h : c.old = none)

include h

theorem oldVersion?_onEmpty : c.onEmpty.oldVersion? = c.oldVersion? := by
  funext schema table
  have hempty : c.onEmpty.oldVersion? schema table = none :=
    Option.bind_eq_none_iff.2 fun _ _ => rfl
  rw [hempty, oldVersion?, h]
  rfl

theorem oldSchema?_onEmpty : c.onEmpty.oldSchema? = c.oldSchema? := by
  funext name
  rw [oldSchema?, oldSchema?, h]
  rfl

theorem oldVersion?_eq_none (schema table : String) : c.oldVersion? schema table = none := by
  rw [oldVersion?, h]
  rfl

theorem oldSchema?_eq_none (name : String) : c.oldSchema? name = none := by
  rw [oldSchema?, h]
  rfl

/-! ### Schemas, types, functions and sequences -/

theorem schemaOps_onEmpty : c.onEmpty.schemaOps = c.schemaOps := by
  funext s
  simp only [schemaOps, oldSchema?_onEmpty h]

theorem typePass_onEmpty : c.onEmpty.typePass = c.typePass := by
  have htypes : c.onEmpty.typeOps = c.typeOps := by
    funext schema t
    simp only [typeOps, oldSchema?_onEmpty h, oldSchema?_eq_none h]
    rfl
  funext s
  simp only [typePass, schemaTypeOps, schemaFunctionOps, oldSchema?_onEmpty h, htypes]

theorem schemaSequenceWork_onEmpty : c.onEmpty.schemaSequenceWork = c.schemaSequenceWork := by
  funext s
  simp only [schemaSequenceWork, oldSchema?_onEmpty h]

theorem dropRemoved_onEmpty : c.onEmpty.dropRemoved = c.dropRemoved := by
  simp only [dropRemoved, h]
  rfl

theorem schemaPrivilegeOps_onEmpty : c.onEmpty.schemaPrivilegeOps = c.schemaPrivilegeOps := by
  funext s
  simp only [schemaPrivilegeOps, oldSchema?_onEmpty h, oldVersion?_onEmpty h]
  rfl

theorem customSql_onEmpty : c.onEmpty.customSql = c.customSql := by
  have hall : c.onEmpty.customSql = c.new.sql := List.filter_eq_self.2 fun _ _ => rfl
  rw [hall, customSql, h]

/-! ### Constraints and tables -/

theorem oldTablesReversed_onEmpty : c.onEmpty.oldTablesReversed = c.oldTablesReversed := by
  have hempty : c.onEmpty.oldTablesReversed = [] := by
    refine List.filterMap_eq_nil_iff.2 fun item _ => ?_
    exact Option.bind_eq_none_iff.2 fun _ _ => rfl
  rw [hempty, oldTablesReversed, h]

theorem oldTablesReversed_eq_nil : c.oldTablesReversed = [] := by
  rw [oldTablesReversed, h]

theorem constraintDrops_onEmpty : c.onEmpty.constraintDrops = c.constraintDrops := by
  have hempty : c.onEmpty.constraintDrops = .ok [] := by
    show (c.onEmpty.oldTablesReversed.mapM (c.onEmpty.tableDrops {}) >>= _) = _
    rw [oldTablesReversed_onEmpty h, oldTablesReversed_eq_nil h]
    rfl
  rw [hempty, constraintDrops, h]
  rfl

theorem checkInheritance_onEmpty : c.onEmpty.checkInheritance = c.checkInheritance := by
  simp only [checkInheritance, oldVersion?_onEmpty h, oldVersion?_eq_none h]
  rfl

theorem pendingConstraints_onEmpty :
    c.onEmpty.pendingConstraints = c.pendingConstraints := by
  funext drops schema table
  simp only [pendingConstraints, oldVersion?_onEmpty h]
  rfl

theorem addConstraints_onEmpty : c.onEmpty.addConstraints = c.addConstraints := by
  funext drops schema table
  simp only [addConstraints, pendingConstraints_onEmpty h]

theorem tablePass_onEmpty : c.onEmpty.tablePass = c.tablePass := by
  have hwork : c.onEmpty.tableWork = c.tableWork := by
    funext schema table
    simp only [tableWork, oldVersion?_onEmpty h, oldVersion?_eq_none h]
    rfl
  funext drops item
  simp only [tablePass, hwork, addPrimaryKey, pendingConstraints_onEmpty h, tableIndexOps,
    clusterOps, tableTriggerOps, oldVersion?_onEmpty h]

theorem dropTables_onEmpty : c.onEmpty.dropTables = c.dropTables := by
  simp only [dropTables, oldTablesReversed_onEmpty h, oldTablesReversed_eq_nil h]
  rfl

/-! ### Views -/

/-- An empty version has no view to drop, and unless the new version has none either the two
differ. -/
theorem viewWork_onEmpty [QueryReader] (structural : Bool) :
    c.onEmpty.viewWork structural = c.viewWork structural := by
  have hcreate : c.onEmpty.createView = c.createView := rfl
  have hnone : c.viewWork structural =
      { viewCreates := (viewOrder c.new).flatMap c.createView } := by
    simp only [viewWork, h]
  have hold : viewOrder {} = [] := viewOrder_of_views_eq_nil rfl
  rw [hnone]
  cases hsame : !structural && !viewsDiffer {} c.new with
  | true =>
    have hviews : c.new.views = [] := by
      refine views_eq_nil_of_same ?_
      simpa using (Bool.and_eq_true_iff.1 hsame).2
    simp only [viewWork, onEmpty, hsame, viewOrder_of_views_eq_nil hviews]
    rfl
  | false =>
    simp only [viewWork, onEmpty, hsame, hold]
    rfl

/-! ### Rows -/

theorem rowSides_onEmpty : c.onEmpty.rowSides = c.rowSides := by
  funext schema table
  simp only [rowSides, oldVersion?_onEmpty h, oldVersion?_eq_none h, h]
  rfl

theorem rowWork_onEmpty : c.onEmpty.rowWork = c.rowWork := by
  have hdeletes : c.onEmpty.tableDeletes = c.tableDeletes := by
    funext schema table
    simp only [tableDeletes, rowSides_onEmpty h]
  have hupserts : c.onEmpty.tableUpserts = c.tableUpserts := by
    funext schema table
    simp only [tableUpserts, rowSides_onEmpty h]
    rfl
  simp only [rowWork, hdeletes, hupserts]
  rfl

/-! ### The whole -/

theorem schemaWork_onEmpty [QueryReader] : c.onEmpty.schemaWork = c.schemaWork := by
  have hstructure : c.onEmpty.structureWork = c.structureWork := by
    simp only [structureWork, schemaOps_onEmpty h, typePass_onEmpty h,
      schemaSequenceWork_onEmpty h, dropRemoved_onEmpty h, schemaPrivilegeOps_onEmpty h,
      constraintDrops_onEmpty h, addConstraints_onEmpty h, tablePass_onEmpty h,
      dropTables_onEmpty h]
    rfl
  simp only [schemaWork, checkInheritance_onEmpty h, hstructure, viewWork_onEmpty h]

/-- **Every pass does on an empty previous version what it does without one.** -/
theorem plan_onEmpty [QueryReader] : c.onEmpty.plan = c.plan := by
  simp only [plan, schemaWork_onEmpty h, rowWork_onEmpty h, customSql_onEmpty h]
  rfl

end OnEmpty

/-! ### Settling the comparison -/

/-- An empty version has no table that an order could list. -/
theorem chooseOrder_besideEmpty (order : Option (List OrderItem)) (new : Database) :
    chooseOrder .new order new (some {}) = chooseOrder .new order new none := by
  have hempty : ∀ item : OrderItem, (some ({} : Database)).any item.isIn = false := by
    intro item
    cases h : item.table <;> simp [OrderItem.isIn, h] <;> rfl
  cases order with
  | none => rfl
  | some order =>
    simp only [chooseOrder, checkOrder, hempty]
    rfl

/-- No table continues one of an empty version. -/
theorem correspondence_ofEmpty (new : Database) (renameTracking : Bool) :
    correspondence (some {}) new renameTracking = .ok [] := by
  have hcontinued : ∀ item : Schema × Table,
      continued {} renameTracking item.1.name item.2 = .ok none := by
    intro item
    have hnone : ∀ key : TableKey, (({} : Database).table? key.1 key.2).isSome = false :=
      fun _ => rfl
    simp only [continued, hnone, Bool.and_false, Bool.false_eq_true, if_false]
    split <;> rfl
  have hpairs : new.tables.filterMap (pairOf? {} renameTracking) = [] := by
    refine List.filterMap_eq_nil_iff.2 fun item _ => ?_
    rw [pairOf?, hcontinued item]
  rw [correspondence_eq_ok_iff]
  exact ⟨fun item _ => ⟨_, hcontinued item⟩, by rw [hpairs]; rfl, List.nodup_nil⟩

/-- Beside an empty version the same is settled as without one. -/
theorem make_besideEmpty (new : Database) (newOrder : Option (List OrderItem)) (style : Sql.Style)
    (options : Options) :
    make (some {}) new newOrder (some []) style options =
      (make none new newOrder none style options).map onEmpty := by
  have hold : chooseOldOrder (some {}) new (some []) = .ok [] := rfl
  rw [make_eq_bind, make_eq_bind, chooseOrder_besideEmpty, hold, correspondence_ofEmpty]
  cases chooseOrder .new newOrder new none <;> rfl

end Comparison

/-- **Creating a database is upgrading an empty one**: the same operations in the same stages, or the
same failure. -/
theorem plan_of_nothing [QueryReader] (new : Database) (style : Sql.Style) (options : Options) :
    plan none new style options = plan (some {}) new style options := by
  have horder : ({} : Database).dependencyOrder = [] := by decide +kernel
  have hvalid : ({} : Database).validate = .ok () := rfl
  have hmake := Comparison.make_besideEmpty new (some new.dependencyOrder) style options
  unfold plan
  simp only [Option.map_none, Option.map_some, horder, hmake]
  cases new.validate with
  | error e => rfl
  | ok u =>
    cases hc : Comparison.make none new (some new.dependencyOrder) none style options with
    | error e => rfl
    | ok c =>
      have hnone : c.old = none := (Comparison.make_eq_ok_iff.1 hc).2.2.2.1
      exact (Comparison.plan_onEmpty hnone).symm

end SchemaPlan
