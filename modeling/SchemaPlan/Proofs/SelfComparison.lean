import SchemaPlan.Proofs.Layout
import SchemaPlan.Proofs.Sameness
import SchemaPlan.Proofs.StaticRows
import SchemaPlan.Proofs.TableConstraints

/-!
# A definition compared with itself

When the two versions are one, every table continues itself (`OfSelf`), each pass looks at an object
next to itself, and by `Sameness.lean` finds nothing to do.  There is one statement for each pass,
from `OfSelf.schemaOps` to `OfSelf.rowWork`.

Some passes may fail even so.  `Comparable` collects what has to be given for them to succeed:
constraints that can be told apart, columns whose markers are not refused, and values of static rows
that can be written.
-/

namespace SchemaPlan

/-- Drafts that say nothing say nothing together. -/
theorem Draft.join_map_eq_empty {α : Type} {f : α → Draft} {xs : List α}
    (h : ∀ x ∈ xs, f x = {}) : Draft.join (xs.map f) = {} := by
  induction xs with
  | nil => rfl
  | cons x xs ih =>
    have htail := ih fun y hy => h y (List.mem_cons_of_mem _ hy)
    show f x ++ Draft.join (xs.map f) = {}
    rw [h x List.mem_cons_self, htail]
    rfl

namespace Comparison

/-- The two versions are one, and every table continues itself. -/
structure OfSelf (c : Comparison) : Prop where
  made : c.WellMade
  old_eq : c.old = some c.new
  paired : ∀ item ∈ c.new.tables, (itemKey item, itemKey item) ∈ c.pairs

theorem ofSelf_of_make {db : Database} {newOrder oldOrder : Option (List OrderItem)}
    {style : Sql.Style} {options : Options} {c : Comparison} (hdb : db.Coherent)
    (h : make (some db) db newOrder oldOrder style options = .ok c) : c.OfSelf := by
  have hmade : c.WellMade := by
    refine wellMade_of_make hdb ?_ h
    rintro _ ⟨⟩
    exact hdb
  obtain ⟨-, -, -, hold, hnew, -, -⟩ := make_eq_ok_iff.1 h
  subst hnew
  refine ⟨hmade, hold, fun item hm => mem_pairs_of_same_key h hm ?_⟩
  rw [hdb.table?_of_mem hm]
  rfl

namespace OfSelf

variable {c : Comparison}

/-! ### Looking across -/

theorem oldVersion? (h : c.OfSelf) {item : Schema × Table} (hm : item ∈ c.new.tables) :
    c.oldVersion? item.1.name item.2.name = some item :=
  (h.made.oldVersion?_eq_some_iff h.old_eq).2 ⟨h.paired item hm, hm⟩

theorem newVersion? (h : c.OfSelf) {item : Schema × Table} (hm : item ∈ c.new.tables) :
    c.newVersion? item.1.name item.2.name = some item :=
  h.made.newVersion?_eq_some_iff.2 ⟨h.paired item hm, hm⟩

/-- What continues the table of a key has that key. -/
theorem itemKey_of_newVersion? (h : c.OfSelf) {key : TableKey} {item : Schema × Table}
    (hv : c.newVersion? key.1 key.2 = some item) : itemKey item = key := by
  obtain ⟨hpair, hm⟩ := h.made.newVersion?_eq_some_iff.1 hv
  exact (Prod.mk.inj (List.inj_on_of_nodup_map h.made.newKeys (h.paired item hm) hpair rfl)).2

theorem mem_tables_of_mem_old (h : c.OfSelf) {item : Schema × Table}
    (hm : item ∈ c.oldTablesReversed) : item ∈ c.new.tables :=
  (h.made.mem_oldTablesReversed h.old_eq).1 hm

theorem mem_tables_of_mem_new (h : c.OfSelf) {item : Schema × Table} (hm : item ∈ c.newTables) :
    item ∈ c.new.tables :=
  h.made.mem_newTables.1 hm

theorem mem_schemas (c : Comparison) {s : Schema} (hs : s ∈ c.newSchemas) :
    s ∈ c.new.schemas := by
  obtain ⟨_, _, hfound⟩ := List.mem_filterMap.1 hs
  exact List.mem_of_find?_eq_some hfound

theorem oldSchema? (h : c.OfSelf) {s : Schema} (hs : s ∈ c.new.schemas) :
    c.oldSchema? s.name = some s := by
  rw [Comparison.oldSchema?, h.old_eq, Option.bind_some, h.made.new.schema?_of_mem hs]

/-! ### Schemas, types, functions and sequences -/

theorem schemaOps (h : c.OfSelf) {s : Schema} (hs : s ∈ c.new.schemas) : c.schemaOps s = [] := by
  rw [Comparison.schemaOps, h.oldSchema? hs]
  simp

theorem schemaFunctionOps (h : c.OfSelf) {s : Schema} (hs : s ∈ c.new.schemas) :
    c.schemaFunctionOps s = [] := by
  rw [Comparison.schemaFunctionOps, List.flatMap_eq_nil_iff]
  intro f hf
  have hfind : s.function? f.signature = some f :=
    find?_eq_some_of_nodup (h.made.new.schemas s hs).signatures hf
  rw [h.oldSchema? hs, Option.bind_some, hfind]
  exact functionOps_self s.name f

theorem typePass (h : c.OfSelf) {s : Schema} (hs : s ∈ c.new.schemas) : c.typePass s = .ok {} := by
  have htypes : s.types.mapM (c.typeOps s.name) = .ok (s.types.map fun _ => []) := by
    refine mapM_eq_ok_map fun t ht => ?_
    have hfind : s.type? t.name = some t :=
      find?_eq_some_of_nodup (h.made.new.schemas s hs).typeNames ht
    rw [typeOps, h.oldSchema? hs, Option.bind_some, hfind]
    simp
  have hnil : (s.types.map fun _ => ([] : List Op)).flatten = [] := by simp
  simp only [Comparison.typePass, schemaTypeOps, htypes, h.schemaFunctionOps hs]
  simp only [bind, Except.bind, pure, Except.pure, hnil, List.append_nil]

theorem schemaSequenceWork (h : c.OfSelf) {s : Schema} (hs : s ∈ c.new.schemas) :
    c.schemaSequenceWork s = {} := by
  refine Draft.join_map_eq_empty fun q hq => ?_
  have hfind : s.sequence? q.name = some q :=
    find?_eq_some_of_nodup (h.made.new.schemas s hs).sequenceNames hq
  rw [h.oldSchema? hs, Option.bind_some, hfind]
  exact sequenceWork_self s.name q

theorem dropRemoved (h : c.OfSelf) : c.dropRemoved = {} := by
  have hobjects : (c.new.schemas.flatMap fun s =>
      ((c.new.schema? s.name).map (removedObjects s)).getD []) = [] := by
    rw [List.flatMap_eq_nil_iff]
    intro s hs
    rw [h.made.new.schema?_of_mem hs, Option.map_some, Option.getD_some, removedObjects_self]
  have hschemas : (c.new.schemas.filter fun s => (c.new.schema? s.name).isNone) = [] := by
    rw [List.filter_eq_nil_iff]
    intro s hs
    rw [h.made.new.schema?_of_mem hs]
    simp
  simp only [Comparison.dropRemoved, h.old_eq, hobjects, hschemas]
  rfl

theorem schemaPrivilegeOps (h : c.OfSelf) {s : Schema} (hs : s ∈ c.new.schemas) :
    c.schemaPrivilegeOps s = [] := by
  have hschema := h.made.new.schemas s hs
  simp only [Comparison.schemaPrivilegeOps, h.oldSchema? hs, Option.bind_some, Option.map_some,
    objectOps_self, List.nil_append, List.append_eq_nil_iff, List.flatMap_eq_nil_iff]
  refine ⟨⟨⟨fun t ht => ?_, fun q hq => ?_⟩, fun f hf => ?_⟩, fun t ht => ?_⟩
  · have hm : (s, t) ∈ c.new.tables := Database.mem_tables.2 ⟨hs, ht⟩
    rw [h.oldVersion? hm, Option.map_some]
    exact objectOps_self c _ t.owner t.grants
  · have hfind : s.sequence? q.name = some q := find?_eq_some_of_nodup hschema.sequenceNames hq
    rw [hfind, Option.map_some]
    exact objectOps_self c _ q.owner q.grants
  · have hfind : s.function? f.signature = some f := find?_eq_some_of_nodup hschema.signatures hf
    rw [hfind, Option.filter_some, if_pos (Sql.TypeName.same_refl f.returns), Option.map_some]
    exact objectOps_self c _ f.owner f.grants
  · have hfind : s.type? t.name = some t := find?_eq_some_of_nodup hschema.typeNames ht
    have hkept : (!requiresRebuild t t) = true := by simp [requiresRebuild]
    rw [hfind, Option.filter_some, if_pos hkept, Option.map_some]
    exact objectOps_self c _ t.owner []

/-! ### Constraints -/

theorem columnChanges (h : c.OfSelf) {item : Schema × Table} (hm : item ∈ c.new.tables)
    {k : Constraint} (hschema : k.schema = item.1.name) {col : Column}
    (hcol : col ∈ item.2.columns) :
    c.columnChanges c.new item.2 item.1.name item.2 k col.name = .ok false := by
  have htable := h.made.new.table_of_mem hm
  have hfind : item.2.column? col.name = some col := find?_eq_some_of_nodup htable.columnNames hcol
  obtain ⟨type, htype⟩ := htable.columnTypes col hcol
  simp only [Comparison.columnChanges, hfind, hschema, htype]
  simp [bind, Except.bind, pure, Except.pure]

theorem someColumnChanges (h : c.OfSelf) {item : Schema × Table} (hm : item ∈ c.new.tables)
    {k : Constraint} (hschema : k.schema = item.1.name) : ∀ {columns : List String},
    (∀ column ∈ columns, ∃ col ∈ item.2.columns, col.name = column) →
      c.someColumnChanges c.new item.2 item.1.name item.2 k columns = .ok false := by
  intro columns
  induction columns with
  | nil => exact fun _ => rfl
  | cons column columns ih =>
    intro hcolumns
    obtain ⟨⟨col, hcol, rfl⟩, hrest⟩ := List.forall_mem_cons.1 hcolumns
    rw [Comparison.someColumnChanges, h.columnChanges hm hschema hcol]
    exact ih hrest

section Constraints

variable (hks : ∀ item ∈ c.new.tables, ∃ ks, Constraints c.style item ks)

include hks

theorem targetChanges (h : c.OfSelf) (k : Constraint) : c.targetChanges c.new k = .ok false := by
  simp only [Comparison.targetChanges]
  cases k.references with
  | none => rfl
  | some key =>
    cases hfound : c.new.table? key.1 key.2 with
    | none => simp [hfound, pure, Except.pure]
    | some target =>
      obtain ⟨hm, hs, ht⟩ := h.made.new.table?_eq_some_iff.1 hfound
      have hv := h.newVersion? hm
      rw [hs, ht] at hv
      obtain ⟨ks, hks⟩ := hks target hm
      rw [← tableConstraints_eq_ok_iff] at hks
      simp only [hfound, hv, hks, bne_self_eq_false, Bool.or_false, Bool.false_eq_true, if_false,
        bind, Except.bind, pure, Except.pure, Except.ok.injEq]
      cases ks.find? (·.kind == .primaryKey) with
      | none => rfl
      | some key => simp

theorem isEndangered (h : c.OfSelf) {item : Schema × Table} (hm : item ∈ c.new.tables)
    {ks : List Constraint} (hitem : Constraints c.style item ks) {k : Constraint} (hk : k ∈ ks) :
    c.isEndangered c.new item.2 item.1.name item.2 k = .ok false := by
  rw [Comparison.isEndangered]
  by_cases hkind : k.kind = .foreignKey
  · have hschema : k.schema = item.1.name := (Prod.mk.inj (hitem.owner_of_mem hk)).1
    have hcolumns : c.someColumnChanges c.new item.2 item.1.name item.2 k k.columns = .ok false :=
      h.someColumnChanges hm hschema fun _ hcolumn => hitem.exists_column hk hkind hcolumn
    rw [hcolumns, h.targetChanges hks k, hkind]
    rfl
  · rw [if_pos (by simpa using hkind)]
    rfl

theorem constraintDrops (h : c.OfSelf) : c.constraintDrops = .ok [] := by
  have htable : ∀ item ∈ c.oldTablesReversed, c.tableDrops c.new item = .ok [] := by
    intro item hm
    have hm := h.mem_tables_of_mem_old hm
    obtain ⟨ks, hitem⟩ := hks item hm
    have hstay : ∀ k ∈ ks, (do
        if ((item.1.name != item.1.name || item.2.name != item.2.name) ||
            !ks.any (·.same k)) = true then
          return [k]
        return if ← c.isEndangered c.new item.2 item.1.name item.2 k then [k] else []) =
          (.ok [] : Except SchemaError (List Constraint)) := by
      intro k hk
      have hany : ks.any (·.same k) = true := List.any_eq_true.2 ⟨k, hk, k.same_refl⟩
      rw [h.isEndangered hks hm hitem hk, hany]
      simp [bind, Except.bind, pure, Except.pure]
    have hdrops := mapM_eq_ok_map (g := fun _ => []) hstay
    have hks := tableConstraints_eq_ok_iff.2 hitem
    simp only [tableDrops, h.newVersion? hm, hks]
    simp only [bind, Except.bind, pure, Except.pure] at hdrops ⊢
    rw [hdrops]
    simp
  have hdrops := mapM_eq_ok_map (g := fun _ => []) htable
  simp only [Comparison.constraintDrops, h.old_eq, hdrops]
  simp [bind, Except.bind, pure, Except.pure]

theorem pendingConstraints (h : c.OfSelf) {item : Schema × Table} (hm : item ∈ c.new.tables) :
    c.pendingConstraints [] item.1.name item.2 = .ok [] := by
  obtain ⟨ks, hitem⟩ := hks item hm
  have hks := tableConstraints_eq_ok_iff.2 hitem
  simp only [Comparison.pendingConstraints, h.oldVersion? hm, hks, bind, Except.bind, pure,
    Except.pure, Except.ok.injEq, List.filter_eq_nil_iff]
  intro k hk
  rw [hitem.find?_name hk]
  simp

theorem addPrimaryKey (h : c.OfSelf) {item : Schema × Table} (hm : item ∈ c.new.tables) :
    c.addPrimaryKey [] item.1.name item.2 = .ok [] := by
  rw [Comparison.addPrimaryKey, h.pendingConstraints hks hm]
  rfl

theorem addConstraints (h : c.OfSelf) {item : Schema × Table} (hm : item ∈ c.new.tables) :
    c.addConstraints [] item.1.name item.2 = .ok [] := by
  rw [Comparison.addConstraints, h.pendingConstraints hks hm]
  rfl

end Constraints

/-! ### Tables -/

theorem checkInheritance (h : c.OfSelf) : c.checkInheritance = .ok () := by
  rw [Comparison.checkInheritance, checkAll_eq_ok]
  intro item hm
  have hparent : c.oldParent? item.1.name item.2 = item.2.inherits.map (·.resolve item.1.name) := by
    rw [oldParent?]
    cases item.2.inherits with
    | none => rfl
    | some parent =>
      simp only [Option.map_some, Option.some.injEq]
      split
      next s t hv => exact h.itemKey_of_newVersion? hv
      next => rfl
  simp only [h.oldVersion? hm, hparent]
  rw [ensure_eq_ok]
  exact beq_self_eq_true _

theorem dropTables (h : c.OfSelf) : c.dropTables = {} := by
  have hnone : ∀ item ∈ c.oldTablesReversed,
      (c.newVersion? item.1.name item.2.name).isNone = false := by
    intro item hm
    rw [h.newVersion? (h.mem_tables_of_mem_old hm)]
    rfl
  rw [Comparison.dropTables, List.filterMap_eq_nil_iff.2]
  intro item hm
  simp [hnone item hm]

theorem columnWork (h : c.OfSelf) {item : Schema × Table} (hm : item ∈ c.new.tables) {col : Column}
    (hcol : col ∈ item.2.columns)
    (hmarker : ∃ r, oldColumn c.options.renameTracking item.2 col
      (Sql.qualified item.1.name item.2.name ++ "." ++ col.name) = .ok r) :
    c.columnWork item.1.name item.2 item.1.name item.2 col = .ok ({}, some (col, false)) := by
  have htable := h.made.new.table_of_mem hm
  obtain ⟨type, htype⟩ := htable.columnTypes col hcol
  obtain ⟨r, hr⟩ := hmarker
  have he := eq_of_oldColumn_self htable.columnNames hcol hr
  subst he
  simp only [Comparison.columnWork, htype, hr, h.old_eq, Option.getD_some, bind, Except.bind,
    alterColumn_self, Bool.false_eq_true, if_false]
  rfl

section Columns

variable (hmarkers : ∀ item ∈ c.new.tables, ∀ col ∈ item.2.columns,
  ∃ r, oldColumn c.options.renameTracking item.2 col
    (Sql.qualified item.1.name item.2.name ++ "." ++ col.name) = .ok r)

include hmarkers

theorem columnsWork (h : c.OfSelf) {item : Schema × Table} (hm : item ∈ c.new.tables) :
    c.columnsWork item.1.name item.2 item.1.name item.2 = .ok {} := by
  have hwork : item.2.columns.mapM (fun col => do
      return (col, ← c.columnWork item.1.name item.2 item.1.name item.2 col)) =
        .ok (item.2.columns.map fun col => (col, ({} : Draft), some (col, false))) := by
    refine mapM_eq_ok_map fun col hcol => ?_
    rw [h.columnWork hm hcol (hmarkers item hm col hcol)]
    rfl
  have hjoin : Draft.join (item.2.columns.map fun _ => ({} : Draft)) = {} :=
    Draft.join_map_eq_empty fun _ _ => rfl
  have hremove : item.2.columns.flatMap (removeColumn (Sql.qualified item.1.name item.2.name)
      (item.2.columns.map fun c => (c.name, c.name, false))) = [] := by
    rw [List.flatMap_eq_nil_iff]
    exact fun col hcol => removeColumn_self hcol
  rw [Comparison.columnsWork, hwork]
  simp only [bind, Except.bind, pure, Except.pure, List.map_map, List.filterMap_map,
    Function.comp_def, Option.map_some, List.filterMap_eq_map', hjoin, hremove]
  rfl

theorem tableWork (h : c.OfSelf) {item : Schema × Table} (hm : item ∈ c.new.tables) :
    c.tableWork item.1.name item.2 = .ok {} := by
  simp only [Comparison.tableWork, h.oldVersion? hm, h.columnsWork hmarkers hm, renameTable,
    bne_self_eq_false, Bool.false_eq_true, if_false, beq_self_eq_true, if_true]
  rfl

theorem tablePass (h : c.OfSelf)
    (hks : ∀ item ∈ c.new.tables, ∃ ks, Constraints c.style item ks)
    {item : Schema × Table} (hm : item ∈ c.new.tables) : c.tablePass [] item = .ok {} := by
  have hv := h.oldVersion? hm
  have hindexes : c.tableIndexOps item.1.name item.2 = [] := by
    rw [tableIndexOps, hv]
    exact indexOps_self _ _ (nodup_effectiveIndexes (h.made.new.table_of_mem hm).indexNames)
  have hcluster : c.clusterOps item.1.name item.2 = [] := by
    rw [clusterOps, hv]
    exact if_pos (beq_self_eq_true _)
  have htriggers : c.tableTriggerOps item.1 item.2 = [] := by
    rw [tableTriggerOps, hv]
    exact triggerOps_self _ _ _
  rw [tablePass_eq_ok_iff]
  refine ⟨{}, [], h.tableWork hmarkers hm, h.addPrimaryKey hks hm, ?_⟩
  rw [hindexes, hcluster, htriggers]
  rfl

theorem structureWork (h : c.OfSelf)
    (hks : ∀ item ∈ c.new.tables, ∃ ks, Constraints c.style item ks) :
    c.structureWork = .ok {} := by
  rw [structureWork_eq_ok_iff]
  refine ⟨c.newSchemas.map fun _ => {}, [], c.newTables.map fun _ => {}, c.newTables.map fun _ => [],
    ?_, h.constraintDrops hks, ?_, ?_, ?_⟩
  · exact mapM_eq_ok_map fun s hs => h.typePass (mem_schemas c hs)
  · exact mapM_eq_ok_map fun item hm => h.tablePass hmarkers hks (h.mem_tables_of_mem_new hm)
  · exact mapM_eq_ok_map fun item hm => h.addConstraints hks (h.mem_tables_of_mem_new hm)
  · have htypes : Draft.join (c.newSchemas.map fun _ => ({} : Draft)) = {} :=
      Draft.join_map_eq_empty fun _ _ => rfl
    have htables : Draft.join (c.newTables.map fun _ => ({} : Draft)) = {} :=
      Draft.join_map_eq_empty fun _ _ => rfl
    have hsequences : Draft.join (c.newSchemas.map c.schemaSequenceWork) = {} :=
      Draft.join_map_eq_empty fun s hs => h.schemaSequenceWork (mem_schemas c hs)
    have hschemas : c.newSchemas.flatMap c.schemaOps = [] :=
      List.flatMap_eq_nil_iff.2 fun s hs => h.schemaOps (mem_schemas c hs)
    have hprivileges : c.newSchemas.flatMap c.schemaPrivilegeOps = [] :=
      List.flatMap_eq_nil_iff.2 fun s hs => h.schemaPrivilegeOps (mem_schemas c hs)
    have hadds : (c.newTables.map fun _ => ([] : List Op)).flatten = [] := by simp
    rw [hschemas, hprivileges, htypes, htables, hsequences, hadds, h.dropTables, h.dropRemoved]
    rfl

theorem schemaWork [QueryReader] (h : c.OfSelf)
    (hks : ∀ item ∈ c.new.tables, ∃ ks, Constraints c.style item ks) : c.schemaWork = .ok {} := by
  rw [schemaWork_eq_ok_iff]
  refine ⟨h.checkInheritance, {}, h.structureWork hmarkers hks, ?_⟩
  have hviews : c.viewWork (Draft.isStructural {}) = {} := by
    simp only [viewWork, h.old_eq, viewsDiffer_self h.made.new]
    rfl
  rw [hviews]
  rfl

end Columns

/-! ### Rows -/

theorem rowSides (h : c.OfSelf) {item : Schema × Table} (hm : item ∈ c.new.tables)
    {own : Option StaticRows} (hown : StaticRows.ofTable c.new item.1.name item.2 = .ok own) :
    c.rowSides item.1.name item.2 = .ok (own.map fun rows => (rows, some rows)) := by
  simp only [Comparison.rowSides, hown, h.old_eq, h.oldVersion? hm, bind, Except.bind]
  cases own with
  | none => rfl
  | some rows => simp [pure, Except.pure]

/-- Each declared column of each row has a value that can be written, and a marker that is not
refused. -/
def Writable (c : Comparison) (rows : StaticRows) : Prop :=
  ∀ row ∈ rows.present, ∀ column, rows.Declares column →
    (∃ value, rows.value row column = .ok value) ∧
      ∃ name, c.oldColumnName rows rows column = .ok name

theorem oldColumnName_eq {rows : StaticRows} (h : (rows.table.columns.map (·.name)).Nodup)
    {column name : String} (hname : c.oldColumnName rows rows column = .ok name) :
    name = column := by
  unfold oldColumnName at hname
  split at hname
  · exact (Except.ok.inj hname).symm
  next col hcol =>
    obtain ⟨previous, hprevious, he⟩ := bind_eq_ok.1 hname
    have hmem := List.mem_of_find?_eq_some hcol
    have hcolumn : col.name = column := by simpa using List.find?_some hcol
    rw [eq_of_oldColumn_self h hmem hprevious] at he
    rw [← pure_eq_ok.1 he]
    exact hcolumn

section Rows

variable {rows : StaticRows} (hcolumns : (rows.table.columns.map (·.name)).Nodup)

include hcolumns

theorem assignment? {row : Row} {column : String} (hdeclares : rows.Declares column)
    (hvalue : ∃ value, rows.value row column = .ok value)
    (hname : ∃ name, c.oldColumnName rows rows column = .ok name) :
    c.assignment? rows rows row row column = .ok none := by
  obtain ⟨value, hvalue⟩ := hvalue
  obtain ⟨name, hname⟩ := hname
  have he := oldColumnName_eq hcolumns hname
  subst he
  have hplace : ∃ p, rows.place? name = some p := by
    rw [← Option.isSome_iff_exists, StaticRows.place?, List.findIdx?_isSome, List.any_eq_true]
    exact ⟨name, hdeclares.1, beq_self_eq_true _⟩
  obtain ⟨p, hp⟩ := hplace
  have hliteral : rows.literal name (row.cell? p) = .ok value := by
    rw [StaticRows.value, hp] at hvalue
    exact hvalue
  simp only [Comparison.assignment?, hvalue, hname, bind, Except.bind, hp, hliteral]
  simp [pure, Except.pure]

theorem updateRow (hrows : Writable c rows) (address : String) {row : Row}
    (hrow : row ∈ rows.present) : c.updateRow address rows rows row row = .ok [] := by
  have hnone : (rows.columns.filter (!rows.table.primaryKey.contains ·)).mapM
      (c.assignment? rows rows row row) =
        .ok ((rows.columns.filter (!rows.table.primaryKey.contains ·)).map fun _ => none) := by
    refine mapM_eq_ok_map fun column hcolumn => ?_
    have hdeclares : rows.Declares column := by simpa [StaticRows.Declares] using hcolumn
    obtain ⟨hvalue, hname⟩ := hrows row hrow column hdeclares
    exact assignment? hcolumns hdeclares hvalue hname
  rw [Comparison.updateRow, hnone]
  simp [bind, Except.bind, pure, Except.pure, List.filterMap_map]

theorem upsertRows (hrows : Writable c rows) (hnodup : (rows.present.map rows.identity).Nodup)
    (address : String) : c.upsertRows address rows (some rows) = .ok [] := by
  have hfind : ∀ row ∈ rows.present, rows.find? (rows.identity row) = some row :=
    fun row hrow => (rows.find?_eq_some_iff hnodup).2 ⟨hrow, rfl⟩
  have hall : rows.present.mapM (c.upsertRow address rows (some rows)) =
      .ok (rows.present.map fun _ => []) := by
    refine mapM_eq_ok_map fun row hrow => ?_
    rw [upsertRow, hfind row hrow]
    exact updateRow hcolumns hrows address hrow
  have hnew : rows.present.any (isNewRow rows (some rows)) = false := by
    rw [List.any_eq_false]
    intro row hrow
    simp [isNewRow, hfind row hrow]
  simp only [Comparison.upsertRows, hall, hnew]
  simp [bind, Except.bind, pure, Except.pure]

end Rows

theorem deleteRows {rows : StaticRows} (hnodup : (rows.present.map rows.identity).Nodup)
    (address : String) : deleteRows address rows rows = .ok [] := by
  have hnone : rows.present.filter (fun row => (rows.find? (rows.identity row)).isNone) = [] := by
    rw [List.filter_eq_nil_iff]
    intro row hrow
    rw [(rows.find?_eq_some_iff hnodup).2 ⟨hrow, rfl⟩]
    simp
  rw [SchemaPlan.deleteRows, hnone]
  rfl

theorem rowWork (h : c.OfSelf) (hrows : ∀ item ∈ c.new.tables, ∀ rows,
    StaticRows.ofTable c.new item.1.name item.2 = .ok (some rows) → Writable c rows) :
    c.rowWork = .ok {} := by
  have hdeletes : ∀ item ∈ c.new.tables, c.tableDeletes item.1.name item.2 = .ok [] := by
    intro item hm
    obtain ⟨own, hown⟩ := StaticRows.exists_ofTable (h.made.new.table_of_mem hm)
    rw [tableDeletes, h.rowSides hm hown]
    cases own with
    | none => rfl
    | some rows =>
      exact deleteRows (StaticRows.nodup_identities (h.made.new.table_of_mem hm) hown) _
  have hupserts : ∀ item ∈ c.new.tables, c.tableUpserts item.1.name item.2 = .ok [] := by
    intro item hm
    have htable := h.made.new.table_of_mem hm
    obtain ⟨own, hown⟩ := StaticRows.exists_ofTable htable
    rw [tableUpserts, h.rowSides hm hown]
    cases own with
    | none => rfl
    | some rows =>
      obtain ⟨_, _, _, _, _, ht, _⟩ := StaticRows.of_ofTable hown
      have hcolumns : (rows.table.columns.map (·.name)).Nodup := by
        rw [ht]
        exact htable.columnNames
      exact upsertRows hcolumns (hrows item hm rows hown)
        (StaticRows.nodup_identities htable hown) _
  have hd : c.newTables.reverse.mapM (fun item => c.tableDeletes item.1.name item.2) =
      .ok (c.newTables.reverse.map fun _ => []) :=
    mapM_eq_ok_map fun item hm => hdeletes item (h.mem_tables_of_mem_new (List.mem_reverse.1 hm))
  have hu : c.newTables.mapM (fun item => c.tableUpserts item.1.name item.2) =
      .ok (c.newTables.map fun _ => []) :=
    mapM_eq_ok_map fun item hm => hupserts item (h.mem_tables_of_mem_new hm)
  rw [Comparison.rowWork, hd, hu]
  simp [bind, Except.bind, pure, Except.pure]

/-! ### The whole plan -/

/-- What has to be given for the plan to succeed: constraints that can be told apart, columns whose
markers are not refused, and rows that can be written. -/
structure Comparable (c : Comparison) : Prop where
  constraints : c.options.onlyData = false →
    ∀ item ∈ c.new.tables, ∃ ks, Constraints c.style item ks
  columns : c.options.onlyData = false → ∀ item ∈ c.new.tables, ∀ col ∈ item.2.columns,
    ∃ r, oldColumn c.options.renameTracking item.2 col
      (Sql.qualified item.1.name item.2.name ++ "." ++ col.name) = .ok r
  rows : c.options.onlySchema = false → ∀ item ∈ c.new.tables, ∀ rows,
    StaticRows.ofTable c.new item.1.name item.2 = .ok (some rows) → Writable c rows

/-- **There is nothing to do**, if the plan can be drawn up at all. -/
theorem plan [QueryReader] (h : c.OfSelf) (hc : Comparable c) : c.plan = .ok [] := by
  have hcustom : c.customSql = [] := by
    simp only [customSql, h.old_eq, List.filter_eq_nil_iff]
    intro entry hentry
    simp [hentry]
  rw [plan_eq_ok_iff]
  refine ⟨{}, {}, ?_, ?_, ?_⟩
  · split
    · rfl
    next hdata =>
      have hdata := Bool.eq_false_iff.2 hdata
      exact h.schemaWork (hc.columns hdata) (hc.constraints hdata)
  · split
    · rfl
    next hschema => exact h.rowWork (hc.rows (Bool.eq_false_iff.2 hschema))
  · rw [hcustom, ite_self]
    rfl

end OfSelf

end Comparison

end SchemaPlan
