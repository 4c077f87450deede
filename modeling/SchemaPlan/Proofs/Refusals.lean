import SchemaPlan.Proofs.StaticRows
import SchemaPlan.Proofs.TableConstraints

/-!
# What planning is refused with

A plan is put together from a few kinds of look-ups, each about a table of one of the versions or
about a column that continues another.  `StructureFailsOnly` and `RowsFailOnly` say of what sort
their failures are, and then the failures of the whole are of no other sort
(`Comparison.failsOnly_plan`): no pass adds one of its own.

The first use is this.  An order of tables that is given from outside is checked before anything
else.  Whatever is refused after that is refused because of an object: because of its definition, or
because of a change that cannot be made to it (`Comparison.blames_plan`).  So a fault of an order is
always found by that first check.
-/

namespace SchemaPlan

/-! ### Failures of a computation -/

/-- Whenever the computation fails, it does so with an error of this sort. -/
def FailsOnly {α : Type} (p : SchemaError → Prop) (x : Except SchemaError α) : Prop :=
  ∀ e, x = .error e → p e

section FailsOnly

variable {α β : Type} {p : SchemaError → Prop}

@[simp] theorem failsOnly_ok (a : α) : FailsOnly p (.ok a) := by
  rintro e ⟨⟩

@[simp] theorem failsOnly_pure (a : α) : FailsOnly p (pure a) :=
  failsOnly_ok a

@[simp] theorem failsOnly_error {e : SchemaError} :
    FailsOnly p (.error e : Except SchemaError α) ↔ p e :=
  ⟨fun h => h e rfl, fun h _ he => Except.error.inj he ▸ h⟩

@[simp] theorem failsOnly_throw {e : SchemaError} :
    FailsOnly p (throw e : Except SchemaError α) ↔ p e :=
  failsOnly_error

@[simp] theorem failsOnly_ite {c : Prop} [Decidable c] {x y : Except SchemaError α} :
    FailsOnly p (if c then x else y) ↔ (c → FailsOnly p x) ∧ (¬ c → FailsOnly p y) := by
  split <;> simp_all

theorem FailsOnly.bind {x : Except SchemaError α} {f : α → Except SchemaError β}
    (hx : FailsOnly p x) (hf : ∀ a, x = .ok a → FailsOnly p (f a)) : FailsOnly p (x >>= f) := by
  cases x with
  | error e => exact fun e' he => hx e' (congrArg _ (Except.error.inj he))
  | ok a => exact hf a rfl

theorem failsOnly_mapM {f : α → Except SchemaError β} {xs : List α}
    (h : ∀ x ∈ xs, FailsOnly p (f x)) : FailsOnly p (xs.mapM f) := by
  induction xs with
  | nil => exact failsOnly_pure _
  | cons x xs ih =>
    obtain ⟨hx, hxs⟩ := List.forall_mem_cons.1 h
    rw [List.mapM_cons]
    exact hx.bind fun _ _ => (ih hxs).bind fun _ _ => failsOnly_pure _

/-- Each step of a fold fails in a certain way, given how far the fold has come. -/
theorem failsOnly_foldlM {f : β → α → Except SchemaError β} {xs : List α} {b : β}
    (h : ∀ front x back b', xs = front ++ x :: back → front.foldlM f b = .ok b' →
      FailsOnly p (f b' x)) : FailsOnly p (xs.foldlM f b) := by
  induction xs generalizing b with
  | nil => exact failsOnly_pure _
  | cons x xs ih =>
    rw [List.foldlM_cons]
    refine (h [] x xs b rfl rfl).bind fun b₁ hb₁ => ih fun front y back b' he hf => ?_
    refine h (x :: front) y back b' (by rw [he, List.cons_append]) ?_
    rw [List.foldlM_cons, hb₁]
    exact hf

theorem failsOnly_ensure {b : Bool} {e : SchemaError} (h : b = false → p e) :
    FailsOnly p (ensure b e) := by
  cases b
  · exact failsOnly_error.2 (h rfl)
  · exact failsOnly_ok ()

/-- Each element is checked in a certain way in the light of those before it. -/
theorem failsOnly_checkEach {check : List α → α → Except SchemaError Unit} {xs : List α}
    (h : ∀ front x back, xs = front ++ x :: back → FailsOnly p (check front.reverse x)) :
    FailsOnly p (checkEach xs check) := by
  have hfrom : ∀ before, (∀ front x back, xs = front ++ x :: back →
      FailsOnly p (check (front.reverse ++ before) x)) →
        FailsOnly p (checkFrom check before xs) := by
    clear h
    induction xs with
    | nil => exact fun _ _ => failsOnly_ok ()
    | cons x xs ih =>
      intro before h
      refine (h [] x xs rfl).bind fun _ _ => ih (x :: before) fun front y back he => ?_
      simpa using h (x :: front) y back (by rw [he, List.cons_append])
  exact hfrom [] fun front x back he => by simpa using h front x back he

theorem failsOnly_checkAll {check : α → Except SchemaError Unit} {xs : List α}
    (h : ∀ x ∈ xs, FailsOnly p (check x)) : FailsOnly p (checkAll xs check) :=
  failsOnly_checkEach fun _ x _ he => h x (by rw [he]; exact List.mem_append_cons_self)

theorem failsOnly_of_eq_ok {x : Except SchemaError α} (h : ∃ a, x = .ok a) : FailsOnly p x := by
  obtain ⟨a, rfl⟩ := h
  exact failsOnly_ok a

end FailsOnly

/-! ### Faults of objects -/

/-- A failure because of an object: its definition, or a change that cannot be made to it. -/
def SchemaError.OfObject : SchemaError → Prop
  | .definition .. | .unsupported .. => True
  | _ => False

@[simp] theorem ofObject_definition (object : String) (fault : DefinitionFault) :
    SchemaError.OfObject (.definition object fault) :=
  trivial

@[simp] theorem ofObject_unsupported (object : String) (fault : UnsupportedFault) :
    SchemaError.OfObject (.unsupported object fault) :=
  trivial

/-- A computation that fails because of objects only. -/
abbrev BlamesObjects {α : Type} (x : Except SchemaError α) : Prop :=
  FailsOnly SchemaError.OfObject x

/-! ### Looking things up -/

theorem blames_columnTypeFrom (db : Database) (start : Database.ColumnKey)
    (visited : List Database.ColumnKey) (key : Database.ColumnKey) :
    BlamesObjects (db.columnTypeFrom start visited key) := by
  fun_induction Database.columnTypeFrom db start visited key with
  | case5 _ _ _ _ _ _ _ _ _ _ ih => exact ih
  | _ => simp

theorem blames_columnType (db : Database) (schema table column : String) :
    BlamesObjects (db.columnType schema table column) :=
  blames_columnTypeFrom db _ _ _

theorem blames_continued (old : Database) (renameTracking : Bool) (schema : String) (t : Table) :
    BlamesObjects (continued old renameTracking schema t) := by
  unfold continued
  split <;> simp

theorem blames_addPair (old : Database) (renameTracking : Bool)
    (pairs : List (TableKey × TableKey)) (item : Schema × Table) :
    BlamesObjects (addPair old renameTracking pairs item) := by
  refine (blames_continued old renameTracking item.1.name item.2).bind fun r _ => ?_
  cases r with
  | none => exact failsOnly_pure _
  | some key =>
    dsimp only
    split <;> simp

theorem blames_correspondence (old : Option Database) (new : Database) (renameTracking : Bool) :
    BlamesObjects (correspondence old new renameTracking) := by
  cases old with
  | none => exact failsOnly_ok _
  | some old =>
    exact failsOnly_foldlM fun _ item _ pairs _ _ => blames_addPair old renameTracking pairs item

theorem blames_tableConstraints (style : Sql.Style) (schema : String) (t : Table) :
    BlamesObjects (tableConstraints style schema t) := by
  unfold tableConstraints
  refine FailsOnly.bind (failsOnly_checkEach fun _ k _ _ => failsOnly_ensure fun _ => trivial)
    fun _ _ => ?_
  exact (failsOnly_ensure fun _ => trivial).bind fun _ _ => failsOnly_pure _

namespace Comparison

theorem blames_oldColumn (renameTracking : Bool) (oldTable : Table) (col : Column)
    (object : String) : BlamesObjects (oldColumn renameTracking oldTable col object) := by
  unfold oldColumn
  split
  · simp
  · split
    · simp
    · split <;> simp

/-! ### The look-ups of a comparison -/

variable (c : Comparison)

/-- The versions that a comparison is about. -/
def versions : List Database :=
  c.new :: c.old.toList

theorem new_mem_versions : c.new ∈ c.versions :=
  List.mem_cons_self

variable {c}

theorem mem_versions_of_old {old : Database} (h : c.old = some old) : old ∈ c.versions :=
  List.mem_cons_of_mem _ (by rw [h]; exact List.mem_singleton_self old)

theorem forall_mem_versions_iff {P : Database → Prop} :
    (∀ db ∈ c.versions, P db) ↔ P c.new ∧ ∀ db, c.old = some db → P db := by
  simp only [versions, List.forall_mem_cons, Option.mem_toList]

theorem mem_tables_of_tablesIn {db : Database} {order : List OrderItem} {item : Schema × Table}
    (h : item ∈ tablesIn db order) : item ∈ db.tables := by
  obtain ⟨i, -, hi⟩ := List.mem_filterMap.1 h
  obtain ⟨table, -, hfound⟩ := Option.bind_eq_some_iff.1 hi
  exact Database.mem_tables_of_table? hfound

theorem exists_old_of_oldVersion? {schema table : String} {item : Schema × Table}
    (h : c.oldVersion? schema table = some item) : ∃ old, c.old = some old ∧ item ∈ old.tables := by
  obtain ⟨old, hold, h⟩ := Option.bind_eq_some_iff.1 h
  obtain ⟨key, -, hfound⟩ := Option.bind_eq_some_iff.1 h
  exact ⟨old, hold, Database.mem_tables_of_table? hfound⟩

theorem mem_new_of_newVersion? {schema table : String} {item : Schema × Table}
    (h : c.newVersion? schema table = some item) : item ∈ c.new.tables := by
  obtain ⟨key, -, hfound⟩ := Option.bind_eq_some_iff.1 h
  exact Database.mem_tables_of_table? hfound

theorem mem_new_of_newTables {item : Schema × Table} (h : item ∈ c.newTables) :
    item ∈ c.new.tables :=
  mem_tables_of_tablesIn h

theorem mem_old_of_oldTablesReversed {old : Database} (hold : c.old = some old)
    {item : Schema × Table} (h : item ∈ c.oldTablesReversed) : item ∈ old.tables := by
  rw [oldTablesReversed, hold] at h
  exact mem_tables_of_tablesIn h

/-- The look-ups that the work on structure consists of fail with errors of this sort only. -/
structure StructureFailsOnly (c : Comparison) (p : SchemaError → Prop) : Prop where
  inheritance : FailsOnly p c.checkInheritance
  types : ∀ db ∈ c.versions, ∀ item ∈ db.tables, ∀ col ∈ item.2.columns,
    FailsOnly p (db.columnType item.1.name item.2.name col.name)
  constraints : ∀ db ∈ c.versions, ∀ item ∈ db.tables,
    FailsOnly p (tableConstraints c.style item.1.name item.2)
  columns : ∀ item ∈ c.new.tables, ∀ prev, c.oldVersion? item.1.name item.2.name = some prev →
    ∀ col ∈ item.2.columns,
      FailsOnly p (c.columnWork prev.1.name prev.2 item.1.name item.2 col)

/-- The look-ups that the work on static rows consists of fail with errors of this sort only. -/
structure RowsFailOnly (c : Comparison) (p : SchemaError → Prop) : Prop where
  sides : ∀ db ∈ c.versions, ∀ item ∈ db.tables,
    FailsOnly p (StaticRows.ofTable db item.1.name item.2)
  literals : ∀ db ∈ c.versions, ∀ item ∈ db.tables, ∀ s,
    StaticRows.ofTable db item.1.name item.2 = .ok (some s) → ∀ column ∈ s.columns, ∀ cell,
      FailsOnly p (s.literal column cell)
  oldColumns : ∀ item ∈ c.new.tables, ∀ prev, c.oldVersion? item.1.name item.2.name = some prev →
    ∀ col ∈ item.2.columns, FailsOnly p (oldColumn c.options.renameTracking prev.2 col
      (Sql.qualified item.1.name item.2.name ++ "." ++ col.name))

namespace StructureFailsOnly

variable {p : SchemaError → Prop} (h : c.StructureFailsOnly p)

include h

/-! ### Types -/

theorem columnsOfType {db : Database} (hdb : db ∈ c.versions) (order : List OrderItem)
    (schema name : String) : FailsOnly p (columnsOfType db order schema name) := by
  unfold SchemaPlan.columnsOfType
  refine FailsOnly.bind (failsOnly_mapM fun item hm => ?_) fun _ _ => failsOnly_pure _
  refine FailsOnly.bind (failsOnly_mapM fun col hcol => ?_) fun _ _ => failsOnly_pure _
  exact (h.types db hdb item (mem_tables_of_tablesIn hm) col hcol).bind fun _ _ =>
    failsOnly_pure _

theorem rebuildType (schema : String) (old new : TypeDef) :
    FailsOnly p (c.rebuildType schema old new) := by
  unfold Comparison.rebuildType
  dsimp only
  split
  next db hdb =>
    exact (h.columnsOfType (mem_versions_of_old hdb) _ _ _).bind fun _ _ => failsOnly_pure _
  next => exact failsOnly_pure _

theorem typeOps (schema : String) (t : TypeDef) : FailsOnly p (c.typeOps schema t) := by
  unfold Comparison.typeOps
  split
  · exact failsOnly_ok _
  · dsimp only
    split
    · exact failsOnly_ok _
    · split
      · exact failsOnly_ok _
      · split
        · exact failsOnly_ok _
        · exact h.rebuildType schema _ t

theorem typePass (s : Schema) : FailsOnly p (c.typePass s) := by
  unfold Comparison.typePass schemaTypeOps
  refine FailsOnly.bind ?_ fun _ _ => failsOnly_pure _
  exact (failsOnly_mapM fun t _ => h.typeOps s.name t).bind fun _ _ => failsOnly_pure _

/-! ### Constraints -/

section Drops

variable {old : Database} (hold : c.old = some old) {prev item : Schema × Table}
  (hprev : prev ∈ old.tables) (hm : item ∈ c.new.tables)

include hold hprev hm

/-- The columns of a foreign key are columns of its table, so their types are looked up where they
are declared. -/
theorem columnChanges {ks : List Constraint} (hks : Constraints c.style prev ks) {k : Constraint}
    (hk : k ∈ ks) (hkind : k.kind = .foreignKey) {column : String} (hcolumn : column ∈ k.columns) :
    FailsOnly p (c.columnChanges old prev.2 item.1.name item.2 k column) := by
  have hschema : k.schema = prev.1.name := (Prod.mk.inj (hks.owner_of_mem hk)).1
  obtain ⟨oldCol, holdCol, rfl⟩ := hks.exists_column hk hkind hcolumn
  unfold Comparison.columnChanges
  rw [hschema]
  split
  · exact failsOnly_pure _
  next hsome =>
    rw [Bool.not_eq_true, Option.isNone_eq_false_iff, Option.isSome_iff_exists] at hsome
    obtain ⟨newCol, hfound⟩ := hsome
    have hname : newCol.name = oldCol.name := by simpa using List.find?_some hfound
    refine (h.types old (mem_versions_of_old hold) prev hprev oldCol holdCol).bind fun _ _ => ?_
    rw [← hname]
    exact (h.types c.new c.new_mem_versions item hm newCol (List.mem_of_find?_eq_some hfound)).bind
      fun _ _ => failsOnly_pure _

theorem someColumnChanges {ks : List Constraint} (hks : Constraints c.style prev ks)
    {k : Constraint} (hk : k ∈ ks) (hkind : k.kind = .foreignKey) {columns : List String}
    (hcolumns : ∀ column ∈ columns, column ∈ k.columns) :
    FailsOnly p (c.someColumnChanges old prev.2 item.1.name item.2 k columns) := by
  induction columns with
  | nil => exact failsOnly_ok _
  | cons column columns ih =>
    obtain ⟨hcolumn, hrest⟩ := List.forall_mem_cons.1 hcolumns
    unfold Comparison.someColumnChanges
    refine (h.columnChanges hold hprev hm hks hk hkind hcolumn).bind fun changes _ => ?_
    split
    · exact failsOnly_pure _
    · exact ih hrest

omit hprev hm in
theorem targetChanges (k : Constraint) : FailsOnly p (c.targetChanges old k) := by
  have hconstraints := h.constraints
  unfold Comparison.targetChanges
  split
  next targetSchema targetTable _ =>
    split
    next oldTarget hfoundOld =>
      split
      next newTarget hfoundNew =>
        dsimp only
        split
        · exact failsOnly_pure _
        · refine (hconstraints old (mem_versions_of_old hold) _
            (Database.mem_tables_of_table? hfoundOld)).bind fun _ _ => ?_
          exact (hconstraints c.new c.new_mem_versions _ (mem_new_of_newVersion? hfoundNew)).bind
            fun _ _ => failsOnly_pure _
      next => exact failsOnly_pure _
    next => exact failsOnly_pure _
  next => exact failsOnly_pure _

theorem isEndangered {ks : List Constraint} (hks : Constraints c.style prev ks) {k : Constraint}
    (hk : k ∈ ks) : FailsOnly p (c.isEndangered old prev.2 item.1.name item.2 k) := by
  unfold Comparison.isEndangered
  split
  · exact failsOnly_pure _
  next hkind =>
    have hkind : k.kind = .foreignKey := by simpa using hkind
    refine (h.someColumnChanges hold hprev hm hks hk hkind fun _ hc => hc).bind fun _ _ => ?_
    split
    · exact failsOnly_pure _
    · exact h.targetChanges hold k

omit hm in
theorem tableDrops : FailsOnly p (c.tableDrops old prev) := by
  have hbefore := h.constraints old (mem_versions_of_old hold) prev hprev
  unfold Comparison.tableDrops
  split
  split
  · exact hbefore.bind fun _ _ => failsOnly_pure _
  next item hfound =>
    have hm := mem_new_of_newVersion? hfound
    refine hbefore.bind fun ks hks => ?_
    refine (h.constraints c.new c.new_mem_versions _ hm).bind fun _ _ => ?_
    refine FailsOnly.bind (failsOnly_mapM fun k hk => ?_) fun _ _ => failsOnly_pure _
    split
    · exact failsOnly_pure _
    · exact (h.isEndangered hold hprev hm (tableConstraints_eq_ok_iff.1 hks) hk).bind fun _ _ =>
        failsOnly_pure _

end Drops

theorem constraintDrops : FailsOnly p c.constraintDrops := by
  unfold Comparison.constraintDrops
  split
  next old hold =>
    have hdrops : ∀ item ∈ c.oldTablesReversed, FailsOnly p (c.tableDrops old item) :=
      fun _ hm => h.tableDrops hold (mem_old_of_oldTablesReversed hold hm)
    exact (failsOnly_mapM hdrops).bind fun _ _ => failsOnly_pure _
  next => exact failsOnly_pure _

section Additions

variable (drops : List Constraint) {item : Schema × Table} (hm : item ∈ c.new.tables)

include hm

theorem pendingConstraints : FailsOnly p (c.pendingConstraints drops item.1.name item.2) := by
  unfold Comparison.pendingConstraints
  refine (h.constraints c.new c.new_mem_versions item hm).bind fun _ _ => ?_
  split
  next prev hfound =>
    obtain ⟨old, hold, hprev⟩ := exists_old_of_oldVersion? hfound
    exact (h.constraints old (mem_versions_of_old hold) _ hprev).bind fun _ _ => failsOnly_pure _
  next => exact failsOnly_pure _

theorem addPrimaryKey : FailsOnly p (c.addPrimaryKey drops item.1.name item.2) :=
  (h.pendingConstraints drops hm).bind fun _ _ => failsOnly_pure _

theorem addConstraints : FailsOnly p (c.addConstraints drops item.1.name item.2) :=
  (h.pendingConstraints drops hm).bind fun _ _ => failsOnly_pure _

/-! ### Tables -/

omit drops in
theorem createTable : FailsOnly p (c.createTable item.1.name item.2) := by
  unfold Comparison.createTable
  refine FailsOnly.bind (failsOnly_mapM fun col hcol => ?_) fun _ _ => failsOnly_pure _
  exact (h.types c.new c.new_mem_versions item hm col hcol).bind fun _ _ => failsOnly_pure _

omit drops in
theorem tableWork : FailsOnly p (c.tableWork item.1.name item.2) := by
  unfold Comparison.tableWork columnsWork
  split
  · exact (h.createTable hm).bind fun _ _ => failsOnly_pure _
  next prev hfound =>
    refine FailsOnly.bind ?_ fun _ _ => failsOnly_pure _
    refine FailsOnly.bind (failsOnly_mapM fun col hcol => ?_) fun _ _ => failsOnly_pure _
    exact (h.columns item hm _ hfound col hcol).bind fun _ _ => failsOnly_pure _

theorem tablePass : FailsOnly p (c.tablePass drops item) :=
  (h.tableWork hm).bind fun _ _ =>
    (h.addPrimaryKey drops hm).bind fun _ _ => failsOnly_pure _

end Additions

theorem schemaWork [QueryReader] : FailsOnly p c.schemaWork := by
  unfold Comparison.schemaWork structureWork
  refine h.inheritance.bind fun _ _ => ?_
  refine FailsOnly.bind ?_ fun _ _ => failsOnly_pure _
  refine (failsOnly_mapM fun s _ => h.typePass s).bind fun _ _ => ?_
  refine h.constraintDrops.bind fun drops _ => ?_
  refine (failsOnly_mapM fun item hm => h.tablePass drops (mem_new_of_newTables hm)).bind
    fun _ _ => ?_
  exact (failsOnly_mapM fun item hm => h.addConstraints drops (mem_new_of_newTables hm)).bind
    fun _ _ => failsOnly_pure _

end StructureFailsOnly

end Comparison

/-! ### Static rows -/

/-- The key is among the columns of the rows, and their cells fail to be written in this way only. -/
structure StaticRows.LiteralsFailOnly (s : StaticRows) (p : SchemaError → Prop) : Prop where
  places : ∀ place ∈ s.keyPlaces, place < s.columns.length
  literals : ∀ column ∈ s.columns, ∀ cell, FailsOnly p (s.literal column cell)

namespace StaticRows.LiteralsFailOnly

variable {p : SchemaError → Prop} {s : StaticRows} (h : s.LiteralsFailOnly p)

include h

theorem value (row : Row) {column : String} (hcolumn : column ∈ s.columns) :
    FailsOnly p (s.value row column) :=
  h.literals column hcolumn _

theorem key (names : List String) (row : Row) : FailsOnly p (s.key names row) := by
  refine failsOnly_mapM fun (name, place) hm => ?_
  have hplace : place < s.columns.length := h.places place (List.of_mem_zip hm).2
  refine (h.literals _ ?_ _).bind fun _ _ => failsOnly_pure _
  rw [List.getD_eq_getElem?_getD, List.getElem?_eq_getElem hplace]
  exact List.getElem_mem hplace

theorem insertRow (address : String) (row : Row) :
    FailsOnly p (Comparison.insertRow address s row) :=
  FailsOnly.bind (failsOnly_mapM fun _ hcolumn => h.value row hcolumn) fun _ _ => failsOnly_pure _

theorem deleteRows (address : String) (new : StaticRows) :
    FailsOnly p (deleteRows address new s) :=
  failsOnly_mapM fun row _ => (h.key _ row).bind fun _ _ => failsOnly_pure _

end StaticRows.LiteralsFailOnly

namespace Comparison

/-- Which rows stand on the two sides. -/
theorem of_rowSides {c : Comparison} {item : Schema × Table} {new : StaticRows}
    {old : Option StaticRows} (h : c.rowSides item.1.name item.2 = .ok (some (new, old))) :
    StaticRows.ofTable c.new item.1.name item.2 = .ok (some new) ∧
      ∀ o, old = some o → ∃ db prev, c.old = some db ∧
        c.oldVersion? item.1.name item.2.name = some prev ∧
        StaticRows.ofTable db prev.1.name prev.2 = .ok (some o) := by
  obtain ⟨own, hown, h⟩ := bind_eq_ok.1 h
  cases own with
  | none => cases h
  | some own =>
    dsimp only at h
    split at h
    next db s t hdb hprev =>
      obtain ⟨previous, hprevious, h⟩ := bind_eq_ok.1 h
      cases pure_eq_ok.1 h
      refine ⟨hown, fun o ho => ⟨db, (s, t), hdb, hprev, ?_⟩⟩
      rw [hprevious, (Option.filter_eq_some_iff.1 ho).1]
    next =>
      cases pure_eq_ok.1 h
      exact ⟨hown, fun o ho => by cases ho⟩

namespace RowsFailOnly

variable {c : Comparison} {p : SchemaError → Prop} (h : c.RowsFailOnly p)

include h

theorem literalsFailOnly {db : Database} (hdb : db ∈ c.versions) {item : Schema × Table}
    (hm : item ∈ db.tables) {s : StaticRows}
    (hs : StaticRows.ofTable db item.1.name item.2 = .ok (some s)) : s.LiteralsFailOnly p := by
  refine ⟨fun place hplace => ?_, h.literals db hdb item hm s hs⟩
  obtain ⟨rows, -, hplaces, -, -, -, hcolumns, -⟩ := StaticRows.of_ofTable hs
  obtain ⟨column, -, hcolumn⟩ := exists_source_of_mapM hplaces hplace
  split at hcolumn
  next hfound =>
    rw [Except.ok.inj hcolumn] at hfound
    rw [hcolumns]
    exact (List.findIdx?_eq_some_iff_getElem.1 hfound).1
  next => cases hcolumn

variable {item : Schema × Table} (hm : item ∈ c.new.tables)

include hm

theorem rowSides : FailsOnly p (c.rowSides item.1.name item.2) := by
  unfold Comparison.rowSides
  refine (h.sides c.new c.new_mem_versions item hm).bind fun new _ => ?_
  cases new with
  | none => exact failsOnly_pure _
  | some new =>
    dsimp only
    split
    next db _ _ hdb hprev =>
      obtain ⟨old, hold, hmem⟩ := exists_old_of_oldVersion? hprev
      cases hdb.symm.trans hold
      exact (h.sides db (mem_versions_of_old hdb) _ hmem).bind fun _ _ => failsOnly_pure _
    next => exact failsOnly_pure _

theorem tableDeletes : FailsOnly p (c.tableDeletes item.1.name item.2) := by
  unfold Comparison.tableDeletes
  refine (h.rowSides hm).bind fun sides hsides => ?_
  split
  next new old =>
    obtain ⟨-, hold⟩ := of_rowSides hsides
    obtain ⟨db, prev, hdb, hprev, hrows⟩ := hold old rfl
    obtain ⟨_, hdb', hmem⟩ := exists_old_of_oldVersion? hprev
    cases hdb.symm.trans hdb'
    exact (h.literalsFailOnly (mem_versions_of_old hdb) hmem hrows).deleteRows _ _
  next => exact failsOnly_pure _

section Sides

variable {new : StaticRows} {old : Option StaticRows}
  (hsides : c.rowSides item.1.name item.2 = .ok (some (new, old)))

include hsides

theorem new_literalsFailOnly : new.LiteralsFailOnly p :=
  h.literalsFailOnly c.new_mem_versions hm (of_rowSides hsides).1

/-- The column that a row's column continues is looked up where the marker of the column leads. -/
theorem oldColumnName {o : StaticRows} (ho : old = some o) (column : String) :
    FailsOnly p (c.oldColumnName new o column) := by
  obtain ⟨hnew, hold⟩ := of_rowSides hsides
  obtain ⟨db, prev, hdb, hprev, hrows⟩ := hold o ho
  obtain ⟨_, -, -, -, hschema, htable, -⟩ := StaticRows.of_ofTable hnew
  obtain ⟨_, -, -, -, -, hprevTable, -⟩ := StaticRows.of_ofTable hrows
  unfold Comparison.oldColumnName
  rw [hschema, htable, hprevTable]
  split
  · exact failsOnly_ok _
  next col hcol =>
    have hname : col.name = column := by simpa using List.find?_some hcol
    rw [← hname]
    exact (h.oldColumns item hm prev hprev col (List.mem_of_find?_eq_some hcol)).bind fun _ _ =>
      failsOnly_pure _

theorem assignment? {o : StaticRows} (ho : old = some o) (row previous : Row) {column : String}
    (hcolumn : column ∈ new.columns) : FailsOnly p (c.assignment? new o row previous column) := by
  obtain ⟨-, hold⟩ := of_rowSides hsides
  obtain ⟨db, prev, hdb, hprev, hrows⟩ := hold o ho
  obtain ⟨_, hdb', hmem⟩ := exists_old_of_oldVersion? hprev
  cases hdb.symm.trans hdb'
  unfold Comparison.assignment?
  refine ((h.new_literalsFailOnly hm hsides).value row hcolumn).bind fun _ _ => ?_
  refine (h.oldColumnName hm hsides ho column).bind fun oldName _ => ?_
  split
  · exact failsOnly_pure _
  next place hplace =>
    have hfound : oldName ∈ o.columns := by
      obtain ⟨hlt, he, -⟩ := List.findIdx?_eq_some_iff_getElem.1 hplace
      rw [← eq_of_beq he]
      exact List.getElem_mem hlt
    exact ((h.literalsFailOnly (mem_versions_of_old hdb) hmem hrows).literals oldName hfound _).bind
      fun _ _ => failsOnly_pure _

theorem updateRow {o : StaticRows} (ho : old = some o) (address : String) (row previous : Row) :
    FailsOnly p (c.updateRow address new o row previous) := by
  unfold Comparison.updateRow
  refine FailsOnly.bind (failsOnly_mapM fun column hcolumn => ?_) fun _ _ => ?_
  · exact h.assignment? hm hsides ho row previous (List.mem_filter.1 hcolumn).1
  · dsimp only
    split
    · exact failsOnly_pure _
    · exact ((h.new_literalsFailOnly hm hsides).key _ row).bind fun _ _ => failsOnly_pure _

theorem upsertRow (address : String) (row : Row) :
    FailsOnly p (c.upsertRow address new old row) := by
  have hinsert := (h.new_literalsFailOnly hm hsides).insertRow address row
  cases old with
  | none => exact hinsert
  | some o =>
    unfold Comparison.upsertRow
    dsimp only
    split
    · exact hinsert
    · exact h.updateRow hm hsides rfl address row _

end Sides

theorem tableUpserts : FailsOnly p (c.tableUpserts item.1.name item.2) := by
  unfold Comparison.tableUpserts upsertRows
  refine (h.rowSides hm).bind fun sides hsides => ?_
  split
  · exact FailsOnly.bind (failsOnly_mapM fun row _ => h.upsertRow hm hsides _ row) fun _ _ =>
      failsOnly_pure _
  · exact failsOnly_pure _

omit hm in
theorem rowWork : FailsOnly p c.rowWork :=
  FailsOnly.bind (failsOnly_mapM fun _ hm =>
      h.tableDeletes (mem_new_of_newTables (List.mem_reverse.1 hm))) fun _ _ =>
    FailsOnly.bind (failsOnly_mapM fun _ hm => h.tableUpserts (mem_new_of_newTables hm))
      fun _ _ => failsOnly_pure _

end RowsFailOnly

/-! ### Plans -/

variable (c : Comparison)

theorem plan_eq_bind [QueryReader] : c.plan =
    ((if c.options.onlyData then .ok {} else c.schemaWork) >>= fun schema =>
      (if c.options.onlySchema then .ok {} else c.rowWork) >>= fun rows =>
        .ok ((schema ++ rows).toPlan (if c.options.onlyData then [] else c.customSql))) := by
  unfold plan
  cases c.options.onlyData <;> cases c.options.onlySchema <;> rfl

/-- **A plan fails to be drawn up in the ways in which its look-ups fail** and in no other. -/
theorem failsOnly_plan [QueryReader] {p : SchemaError → Prop} (hs : c.StructureFailsOnly p)
    (hr : c.RowsFailOnly p) : FailsOnly p c.plan := by
  rw [plan_eq_bind]
  refine FailsOnly.bind ?_ fun _ _ => FailsOnly.bind ?_ fun _ _ => failsOnly_ok _
  · exact failsOnly_ite.2 ⟨fun _ => failsOnly_ok _, fun _ => hs.schemaWork⟩
  · exact failsOnly_ite.2 ⟨fun _ => failsOnly_ok _, fun _ => hr.rowWork⟩

/-! ### Objects are to blame -/

theorem blames_checkInheritance : BlamesObjects c.checkInheritance := by
  refine failsOnly_checkAll fun item _ => ?_
  dsimp only
  split
  · exact failsOnly_ok _
  · exact failsOnly_ensure fun _ => trivial

theorem blames_columnWork (oldSchema : String) (oldTable : Table) (schema : String)
    (table : Table) (col : Column) :
    BlamesObjects (c.columnWork oldSchema oldTable schema table col) := by
  unfold columnWork alterColumn
  refine (blames_columnType c.new _ _ _).bind fun _ _ => ?_
  refine (blames_oldColumn _ oldTable col _).bind fun old _ => ?_
  cases old with
  | none => exact failsOnly_pure _
  | some previous =>
    refine (blames_columnType _ _ _ _).bind fun _ _ => ?_
    refine FailsOnly.bind ?_ fun _ _ => failsOnly_pure _
    refine FailsOnly.bind ?_ fun _ _ => failsOnly_pure _
    unfold alterType
    simp

theorem blames_ofTable (db : Database) (schema : String) (table : Table) :
    BlamesObjects (StaticRows.ofTable db schema table) := by
  unfold StaticRows.ofTable keyPositions
  split
  · exact failsOnly_ok _
  · refine FailsOnly.bind (failsOnly_mapM fun column _ => ?_) fun _ _ => ?_
    · split <;> simp
    · exact (failsOnly_ensure fun _ => trivial).bind fun _ _ => failsOnly_pure _

theorem blames_literal (s : StaticRows) (column : String) (cell : Option Cell) :
    BlamesObjects (s.literal column cell) := by
  unfold StaticRows.literal
  split
  · exact failsOnly_ok _
  · exact (blames_columnType _ _ _ _).bind fun _ _ => failsOnly_pure _

/-- **Once versions have been put side by side, only objects are to blame** if there is no plan. -/
theorem blames_plan [QueryReader] : BlamesObjects c.plan :=
  c.failsOnly_plan
    ⟨c.blames_checkInheritance, fun _ _ _ _ _ _ => blames_columnType _ _ _ _,
      fun _ _ _ _ => blames_tableConstraints _ _ _,
      fun _ _ _ _ _ _ => c.blames_columnWork _ _ _ _ _⟩
    ⟨fun _ _ _ _ => blames_ofTable _ _ _, fun _ _ _ _ s _ _ _ _ => blames_literal s _ _,
      fun _ _ _ _ _ _ => blames_oldColumn _ _ _ _⟩

end Comparison

/-! ### Plans for valid versions -/

/-- A plan without orders is the plan with those that the dependencies give. -/
theorem plan_eq_planWithOrders [QueryReader] (old : Option Database) (new : Database)
    (style : Sql.Style) (options : Options) :
    plan old new style options = planWithOrders old new (some new.dependencyOrder)
      (old.map (·.dependencyOrder)) style options :=
  rfl

section Planning

variable {old : Option Database} {new : Database} {style : Sql.Style} {options : Options}
  (hnew : new.validate = .ok ()) (hold : ∀ db, old = some db → db.validate = .ok ())

include hnew hold

theorem planWithOrders_of_valid [QueryReader] (newOrder oldOrder : Option (List OrderItem)) :
    planWithOrders old new newOrder oldOrder style options =
      Comparison.make old new newOrder oldOrder style options >>= Comparison.plan := by
  unfold planWithOrders
  rw [hnew]
  cases old with
  | none => rfl
  | some db =>
    dsimp only
    rw [hold db rfl]
    rfl

theorem plan_of_valid [QueryReader] :
    plan old new style options =
      Comparison.make old new (some new.dependencyOrder) (old.map (·.dependencyOrder)) style
        options >>= Comparison.plan :=
  (plan_eq_planWithOrders old new style options).trans (planWithOrders_of_valid hnew hold _ _)

end Planning

end SchemaPlan
