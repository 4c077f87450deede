import SchemaPlan.Proofs.ConstraintMigration
import SchemaPlan.Proofs.RowMigration
import SchemaPlan.Proofs.SelfComparison

/-!
# Planning is idempotent

A plan from a definition to itself is empty (`plan_of_same`).  `SelfComparison.lean` shows this of a
comparison that is `Comparable`, so what remains is where that comes from.

A plan that succeeds has shown by itself that everything it needed was there
(`comparable_of_plan`).  And a definition of which a database can be created provides the same, except
that nothing has looked at its rename markers: they are followed only when there is a previous version,
and one that leads to another object of the same definition is refused.  So the markers have to lead
outside (`MarkersLeadOutside`), or must not be followed (`comparable_of_creation`).
-/

namespace SchemaPlan

/-- No marker of a table leads to another table, and none of a column to another column of its
table. -/
structure Database.MarkersLeadOutside (db : Database) : Prop where
  tables : ∀ item ∈ db.tables,
    (item.2.oldSchema.getD item.1.name, item.2.oldName.getD item.2.name) ≠ itemKey item →
    db.table? (item.2.oldSchema.getD item.1.name) (item.2.oldName.getD item.2.name) = none
  columns : ∀ item ∈ db.tables, ∀ col ∈ item.2.columns, col.MarkerLeadsOutside item.2

namespace Comparison

/-! ### What a plan has shown -/

/-- A plan that covers structure has looked at the constraints of every table. -/
theorem exists_constraints_of_plan [QueryReader] {c : Comparison} (hc : c.WellMade) {p : Plan}
    (h : c.plan = .ok p) (hdata : c.options.onlyData = false) :
    ∀ item ∈ c.new.tables, ∃ ks, Constraints c.style item ks := by
  intro item hm
  obtain ⟨l⟩ := nonempty_layout h hdata
  obtain ⟨pendingOf, hpending⟩ := exists_pending l.adds_eq
  have hitem := hpending item (hc.mem_newTables.2 hm)
  cases hv : c.oldVersion? item.1.name item.2.name with
  | none => exact ⟨_, pending_of_created hv hitem⟩
  | some prev =>
    obtain ⟨_, after, _, hafter, _⟩ := pending_of_carried hv hitem
    exact ⟨after, hafter⟩

/-- A plan that covers rows has looked at every row. -/
theorem exists_upsertRow_of_plan [QueryReader] {c : Comparison} (hc : c.WellMade) {p : Plan}
    (h : c.plan = .ok p) (hschema : c.options.onlySchema = false) {item : Schema × Table}
    (hm : item ∈ c.new.tables) {rows : StaticRows} {old : Option StaticRows}
    (hsides : c.rowSides item.1.name item.2 = .ok (some (rows, old))) {row : Row}
    (hrow : row ∈ rows.present) :
    ∃ ops, c.upsertRow (Sql.qualified item.1.name item.2.name) rows old row = .ok ops := by
  obtain ⟨_, work, _, hwork, _⟩ := plan_eq_ok_iff.1 h
  rw [hschema, if_neg Bool.false_ne_true] at hwork
  simp only [rowWork, bind_eq_ok] at hwork
  obtain ⟨_, _, upserts, hupserts, _⟩ := hwork
  obtain ⟨ops, _, hops⟩ := exists_mem_of_mapM hupserts (hc.mem_newTables.2 hm)
  obtain ⟨sides, hsame, hops⟩ := bind_eq_ok.1 hops
  cases hsides.symm.trans hsame
  obtain ⟨opss, hopss, _⟩ := bind_eq_ok.1 hops
  obtain ⟨ops, _, hops⟩ := exists_mem_of_mapM hopss hrow
  exact ⟨ops, hops⟩

/-- A plan that covers structure has looked at the marker of every column of a table that continues
another. -/
theorem exists_oldColumn_of_plan [QueryReader] {c : Comparison} (hc : c.WellMade) {p : Plan}
    (h : c.plan = .ok p) (hdata : c.options.onlyData = false) {item prev : Schema × Table}
    (hm : item ∈ c.new.tables) (hv : c.oldVersion? item.1.name item.2.name = some prev)
    {col : Column} (hcol : col ∈ item.2.columns) :
    ∃ r, oldColumn c.options.renameTracking prev.2 col
      (Sql.qualified item.1.name item.2.name ++ "." ++ col.name) = .ok r := by
  obtain ⟨_, _, hschema, -⟩ := plan_eq_ok_iff.1 h
  rw [hdata, if_neg Bool.false_ne_true] at hschema
  exact exists_oldColumn_of_schemaWork hc hschema hm hv hcol

/-- **A plan between a definition and itself shows that the two can be compared.** -/
theorem comparable_of_plan [QueryReader] {c : Comparison} (hself : c.OfSelf) {p : Plan}
    (h : c.plan = .ok p) : OfSelf.Comparable c := by
  refine ⟨exists_constraints_of_plan hself.made h, ?_, ?_⟩
  · intro hdata item hm col hcol
    exact exists_oldColumn_of_plan hself.made h hdata hm (hself.oldVersion? hm) hcol
  · intro hschema item hm rows hrows row hrow column hcolumn
    have hnodup := StaticRows.nodup_identities (hself.made.new.table_of_mem hm) hrows
    obtain ⟨ops, hops⟩ := exists_upsertRow_of_plan hself.made h hschema hm
      (hself.rowSides hm hrows) hrow
    -- The row is compared with itself, so each of its columns has been looked at.
    simp only [upsertRow, (rows.find?_eq_some_iff hnodup).2 ⟨hrow, rfl⟩, updateRow,
      bind_eq_ok] at hops
    obtain ⟨results, hresults, _⟩ := hops
    have hmem : column ∈ rows.columns.filter (!rows.table.primaryKey.contains ·) := by
      simpa [StaticRows.Declares] using hcolumn
    obtain ⟨_, _, hassign⟩ := exists_mem_of_mapM hresults hmem
    simp only [assignment?, bind_eq_ok] at hassign
    obtain ⟨value, hvalue, name, hname, _⟩ := hassign
    exact ⟨⟨value, hvalue⟩, ⟨name, hname⟩⟩

/-! ### What the creation of a database has shown -/

/-- A table whose marker leads outside continues itself. -/
theorem continued_self {db : Database} {renameTracking : Bool} {item : Schema × Table}
    (hfound : (db.table? item.1.name item.2.name).isSome)
    (hmarker : renameTracking = true →
      (item.2.oldSchema.getD item.1.name, item.2.oldName.getD item.2.name) ≠ itemKey item →
      db.table? (item.2.oldSchema.getD item.1.name) (item.2.oldName.getD item.2.name) = none) :
    continued db renameTracking item.1.name item.2 = .ok (some (itemKey item)) := by
  simp only [continued, hfound, if_true]
  split
  · rfl
  next marker hm =>
    have htracking : renameTracking = true ∧ renameMarker? item.1.name item.2 = some marker := by
      cases renameTracking with
      | true => exact ⟨rfl, hm⟩
      | false => cases hm
    have he : marker = (item.2.oldSchema.getD item.1.name, item.2.oldName.getD item.2.name) := by
      have hrename := htracking.2
      unfold renameMarker? at hrename
      split at hrename
      · exact (Option.some.inj hrename).symm
      · cases hrename
    rw [if_neg]
    rw [Bool.and_eq_true, bne_iff_ne, not_and, he]
    intro hne
    rw [hmarker htracking.1 hne]
    decide

/-- An order that is accepted for a definition alone is accepted for it beside itself. -/
theorem chooseOrder_self {db : Database} {order accepted : List OrderItem}
    (h : chooseOrder .new (some order) db none = .ok accepted) (side : Side) :
    chooseOrder side (some order) db (some db) = .ok accepted := by
  simp only [chooseOrder, bind_eq_ok] at h ⊢
  obtain ⟨_, hcheck, he⟩ := h
  obtain ⟨hcovers, hknown⟩ := checkOrder_eq_ok_iff.1 hcheck
  refine ⟨(), checkOrder_eq_ok_iff.2 ⟨hcovers, fun item hm => ?_⟩, he⟩
  have hin : item.isIn db = true := by simpa using hknown item hm
  rw [hin, Bool.true_or]

/-- When no table's marker leads to another, each continues itself. -/
theorem exists_correspondence_self {db : Database} (hdb : db.Coherent) {renameTracking : Bool}
    (hmarkers : renameTracking = true → db.MarkersLeadOutside) :
    ∃ pairs, correspondence (some db) db renameTracking = .ok pairs := by
  have hcontinued : ∀ item ∈ db.tables,
      continued db renameTracking item.1.name item.2 = .ok (some (itemKey item)) := by
    intro item hm
    refine continued_self ?_ fun ht => (hmarkers ht).tables item hm
    rw [hdb.table?_of_mem hm]
    rfl
  have hpairs : db.tables.filterMap (pairOf? db renameTracking) =
      db.tables.map fun item => (itemKey item, itemKey item) := by
    rw [← List.filterMap_eq_map]
    refine List.filterMap_congr fun item hm => ?_
    exact pairOf?_eq_some_iff.2 ⟨rfl, hcontinued item hm⟩
  refine ⟨(db.tables.map fun item => (itemKey item, itemKey item)).reverse, ?_⟩
  rw [correspondence_eq_ok_iff, hpairs]
  refine ⟨fun item hm => ⟨_, hcontinued item hm⟩, rfl, ?_⟩
  rw [List.map_reverse, List.nodup_reverse, List.map_map]
  exact nodup_itemKeys hdb

/-- A definition whose tables can be put in an order can be compared with itself. -/
theorem exists_make_self {db : Database} (hdb : db.Coherent) {order : List OrderItem}
    {style : Sql.Style} {options : Options} {b : Comparison}
    (hmarkers : options.renameTracking = true → db.MarkersLeadOutside)
    (hb : make none db (some order) none style options = .ok b) :
    ∃ c, make (some db) db (some order) (some order) style options = .ok c := by
  obtain ⟨hnewOrder, -⟩ := make_eq_ok_iff.1 hb
  obtain ⟨pairs, hpairs⟩ := exists_correspondence_self hdb hmarkers
  refine ⟨⟨some db, db, b.newOrder, b.newOrder, options, style, pairs⟩, make_eq_ok_iff.2
    ⟨chooseOrder_self hnewOrder .new, ?_, hpairs, rfl, rfl, rfl, rfl⟩⟩
  exact chooseOrder_self hnewOrder .old

/-- A row that can be inserted has a value in each declared column. -/
theorem exists_value_of_insertRow {address : String} {rows : StaticRows} {row : Row}
    {ops : List Op} (h : insertRow address rows row = .ok ops) {column : String}
    (hcolumn : column ∈ rows.columns) : ∃ value, rows.value row column = .ok value := by
  obtain ⟨values, hvalues, _⟩ := bind_eq_ok.1 h
  obtain ⟨value, _, hvalue⟩ := exists_mem_of_mapM hvalues hcolumn
  exact ⟨value, hvalue⟩

/-- A column of static rows has been called something, if the markers of the table's columns are not
refused. -/
theorem exists_oldColumnName {c : Comparison} {new old : StaticRows}
    (h : ∀ col ∈ new.table.columns, ∀ object, ∃ r,
      oldColumn c.options.renameTracking old.table col object = .ok r) (column : String) :
    ∃ name, c.oldColumnName new old column = .ok name := by
  unfold oldColumnName
  split
  · exact ⟨column, rfl⟩
  next col hcol =>
    obtain ⟨r, hr⟩ := h col (List.mem_of_find?_eq_some hcol)
      (Sql.qualified new.schema new.table.name ++ "." ++ column)
    exact ⟨_, bind_eq_ok.2 ⟨r, hr, rfl⟩⟩

/-- **A definition of which a database can be created can be compared with itself**, unless its
markers get in the way. -/
theorem comparable_of_creation [QueryReader] {db : Database} {order : List OrderItem}
    {style : Sql.Style} {options : Options} {b c : Comparison} (hdb : db.Coherent)
    (hmarkers : options.renameTracking = true → db.MarkersLeadOutside)
    (hb : make none db (some order) none style options = .ok b) {p : Plan} (hp : b.plan = .ok p)
    (hc : make (some db) db (some order) (some order) style options = .ok c) :
    OfSelf.Comparable c := by
  have hbmade : b.WellMade := wellMade_of_make hdb (by rintro _ ⟨⟩) hb
  obtain ⟨-, -, -, hbold, rfl, hboptions, hbstyle⟩ := make_eq_ok_iff.1 hb
  obtain ⟨-, -, -, -, hnew, hoptions, hstyle⟩ := make_eq_ok_iff.1 hc
  rw [← hboptions] at hoptions
  have hcolumn : ∀ item ∈ b.new.tables, ∀ col ∈ item.2.columns, ∀ object, ∃ r,
      oldColumn c.options.renameTracking item.2 col object = .ok r := by
    intro item hm col hcol object
    refine ⟨some (col, false), oldColumn_self (hdb.table_of_mem hm).columnNames hcol fun ht => ?_⟩
    rw [hoptions, hboptions] at ht
    exact (hmarkers ht).columns item hm col hcol
  refine ⟨?_, ?_, ?_⟩
  · intro hdata
    rw [hnew, hstyle, ← hbstyle]
    exact exists_constraints_of_plan hbmade hp (hoptions ▸ hdata)
  · intro _ item hm col hcol
    exact hcolumn item (hnew ▸ hm) col hcol _
  · intro hschema item hm rows hrows row hrow column hdeclared
    rw [hnew] at hm hrows
    obtain ⟨_, _, _, _, _, htable, _⟩ := StaticRows.of_ofTable hrows
    constructor
    · have hsides : b.rowSides item.1.name item.2 = .ok (some (rows, none)) := by
        simp only [rowSides, hrows, hbold]
        rfl
      obtain ⟨ops, hops⟩ := exists_upsertRow_of_plan hbmade hp (hoptions ▸ hschema) hm hsides hrow
      exact exists_value_of_insertRow hops hdeclared.1
    · refine exists_oldColumnName ?_ column
      rw [htable]
      exact hcolumn item hm

end Comparison

/-- **Planning is idempotent.**  A plan from a definition to itself is empty if there is one; and
there is one whenever a database of the definition can be created under the same options, as long as
no marker that is followed leads inside the definition. -/
theorem plan_of_same [QueryReader] (db : Database) (style : Sql.Style) (options : Options) :
    (∀ p, plan (some db) db style options = .ok p → p = []) ∧
      ((∃ p, plan none db style options = .ok p) →
        (options.renameTracking = true → db.MarkersLeadOutside) →
        plan (some db) db style options = .ok []) := by
  constructor
  · intro p h
    obtain ⟨hvalid, -, -⟩ := plan_eq_ok_iff.1 h
    obtain ⟨c, hmake, -, hp⟩ := Comparison.wellMade_of_plan h
    have hself := Comparison.ofSelf_of_make (Database.coherent_of_validate hvalid) hmake
    have hempty := hself.plan (Comparison.comparable_of_plan hself hp)
    exact Except.ok.inj (hp.symm.trans hempty)
  · rintro ⟨p, h⟩ hmarkers
    obtain ⟨hvalid, -, b, hb, hp⟩ := plan_eq_ok_iff.1 h
    have hdb := Database.coherent_of_validate hvalid
    obtain ⟨c, hmake⟩ := Comparison.exists_make_self hdb hmarkers hb
    have hself := Comparison.ofSelf_of_make hdb hmake
    have hcomparable := Comparison.comparable_of_creation hdb hmarkers hb hp hmake
    refine plan_eq_ok_iff.2 ⟨hvalid, ?_, c, hmake, hself.plan hcomparable⟩
    rintro _ ⟨⟩
    exact hvalid

/-! ### A shop compared with itself -/

attribute [local instance] QueryReader.blank

/-- A shop with static rows, in which the marker of a table that was renamed has stayed behind. -/
def Shop.whole : Database where
  schemas := [{
    name := "shop"
    tables := [Shop.customers, Shop.orders "purchases" (some "orders"),
      Shop.stateTable Shop.laterStates] }]

/-- Nothing is called as before the renaming. -/
theorem Shop.whole_markersLeadOutside : Shop.whole.MarkersLeadOutside := by
  constructor
  · decide +kernel
  · have hnone : ∀ item ∈ Shop.whole.tables, ∀ col ∈ item.2.columns, col.oldName = none := by
      decide
    intro item hm col hcol name hname
    rw [hnone item hm col hcol] at hname
    cases hname

theorem plan_of_same_shop :
    (∃ p, plan none Shop.whole {} {} = .ok p ∧ p ≠ []) ∧
      plan (some Shop.whole) Shop.whole {} {} = .ok [] := by
  have hcreated : (plan none Shop.whole {} {}).toOption.any (· ≠ []) = true := by decide +kernel
  obtain ⟨p, hp, hne⟩ : ∃ p, plan none Shop.whole {} {} = .ok p ∧ p ≠ [] := by
    cases h : plan none Shop.whole {} {} with
    | error e => simp [h, Except.toOption] at hcreated
    | ok p => exact ⟨p, rfl, by simpa [h, Except.toOption] using hcreated⟩
  refine ⟨⟨p, hp, hne⟩, (plan_of_same Shop.whole {} {}).2 ⟨p, hp⟩ ?_⟩
  exact fun _ => Shop.whole_markersLeadOutside

end SchemaPlan
