import SchemaPlan.Proofs.DependencyOrder
import SchemaPlan.Proofs.Refusals
import SchemaPlan.Proofs.Resolution

/-!
# Validation is enough

A definition that has been validated can be planned for without looking again at any of what
validation checks.  What it does not check is named here, fault by fault: constraints of one table
that get in each other's way (`ConstraintFault`), and changes between two versions that are
ambiguous or cannot be made (`VersionFault`).  Each fault carries what makes it one.

`plan_fails_as_foreseen` is the main statement: planning fails in these ways only.  The order of
tables is accepted, tables and columns are found, every column has a type, inherited or not, and every
cell of the static rows can be written.
-/

namespace SchemaPlan

/-! ### Faults that validation leaves -/

/-- What is wrong with the constraints of a table: two have one name, or two are primary keys. -/
inductive ConstraintFault (style : Sql.Style) (db : Database) : SchemaError → Prop where
  | duplicateName {item : Schema × Table} {k : Constraint} (hm : item ∈ db.tables)
      (hk : k ∈ gatherConstraints style item.1.name item.2)
      (htwice : 1 < ((gatherConstraints style item.1.name item.2).map (·.name)).count k.name) :
      ConstraintFault style db (.definition
        (Sql.qualified item.1.name item.2.name ++ "." ++ k.name) (.duplicateName .constraint))
  | severalPrimaryKeys {item : Schema × Table} (hm : item ∈ db.tables)
      (hseveral : 1 < ((gatherConstraints style item.1.name item.2).filter
        (·.kind == .primaryKey)).length) :
      ConstraintFault style db
        (.definition (Sql.qualified item.1.name item.2.name) .severalPrimaryKeys)

/-- A table of the new version continues the table of the previous version that has this key. -/
abbrev Continues (renameTracking : Bool) (old : Database) (item : Schema × Table)
    (key : TableKey) : Prop :=
  continued old renameTracking item.1.name item.2 = .ok (some key)

/-- The key under which a table of the previous version goes on: that of the table that continues
it, or its own if none does. -/
inductive GoesOnAs (renameTracking : Bool) (old new : Database) : TableKey → TableKey → Prop where
  | continued {item : Schema × Table} {key : TableKey} (hm : item ∈ new.tables)
      (h : Continues renameTracking old item key) :
      GoesOnAs renameTracking old new key (itemKey item)
  | gone {key : TableKey} (h : ∀ item ∈ new.tables, ¬ Continues renameTracking old item key) :
      GoesOnAs renameTracking old new key key

/-- Why one version cannot be upgraded to another. -/
inductive VersionFault (renameTracking : Bool) (old new : Database) : SchemaError → Prop where
  /-- The marker of a table names another table, and its own name is there as well. -/
  | ambiguousTable {item : Schema × Table} {marker : TableKey} (hm : item ∈ new.tables)
      (htracking : renameTracking = true)
      (hmarker : renameMarker? item.1.name item.2 = some marker) (hne : marker ≠ itemKey item)
      (hthere : (old.table? marker.1 marker.2).isSome)
      (hhere : (old.table? item.1.name item.2.name).isSome) :
      VersionFault renameTracking old new (.definition (Sql.qualified item.1.name item.2.name)
        (.ambiguousRename (Sql.qualified marker.1 marker.2)
          (Sql.qualified item.1.name item.2.name)))
  /-- Two tables continue one. -/
  | continuedTwice {item other : Schema × Table} {key : TableKey} (hm : item ∈ new.tables)
      (hother : other ∈ new.tables) (hne : other ≠ item)
      (hitem : Continues renameTracking old item key)
      (hfirst : Continues renameTracking old other key) :
      VersionFault renameTracking old new (.definition (Sql.qualified item.1.name item.2.name)
        (.alreadyContinued (Sql.qualified key.1 key.2)
          (Sql.qualified other.1.name other.2.name)))
  /-- The marker of a column names another column, and its own name is there as well. -/
  | ambiguousColumn {item prev : Schema × Table} {col : Column} {oldName : String}
      (hm : item ∈ new.tables) (hprev : prev ∈ old.tables)
      (hcontinues : Continues renameTracking old item (itemKey prev))
      (hcol : col ∈ item.2.columns) (htracking : renameTracking = true)
      (hmarker : col.oldName = some oldName) (hne : oldName ≠ col.name)
      (hthere : (prev.2.column? oldName).isSome) (hhere : (prev.2.column? col.name).isSome) :
      VersionFault renameTracking old new (.definition
        (Sql.qualified item.1.name item.2.name ++ "." ++ col.name)
        (.ambiguousRename oldName col.name))
  /-- A table has another parent than the one that its parent goes on as. -/
  | inheritanceChanged {item prev : Schema × Table} {parent : Option TableKey}
      (hm : item ∈ new.tables) (hprev : prev ∈ old.tables)
      (hcontinues : Continues renameTracking old item (itemKey prev))
      (hparent : Option.Rel (GoesOnAs renameTracking old new)
        (prev.2.inherits.map (·.resolve prev.1.name)) parent)
      (hne : item.2.inherits.map (·.resolve item.1.name) ≠ parent) :
      VersionFault renameTracking old new (.unsupported (Sql.qualified item.1.name item.2.name)
        (.inheritanceChanged (parent.map fun key => Sql.qualified key.1 key.2)
          ((item.2.inherits.map (·.resolve item.1.name)).map fun key =>
            Sql.qualified key.1 key.2)))
  /-- A column that did not count by itself is to do so. -/
  | becomesSerial {item prev : Schema × Table} {col previous : Column} {renamed : Bool}
      {object oldType newType : String} (hm : item ∈ new.tables) (hprev : prev ∈ old.tables)
      (hcontinues : Continues renameTracking old item (itemKey prev))
      (hcol : col ∈ item.2.columns)
      (hobject : object = Sql.qualified item.1.name item.2.name ++ "." ++ col.name)
      (hprevious :
        Comparison.oldColumn renameTracking prev.2 col object = .ok (some (previous, renamed)))
      (hold : old.columnType prev.1.name prev.2.name previous.name = .ok oldType)
      (hnew : new.columnType item.1.name item.2.name col.name = .ok newType)
      (hserial : Sql.TypeName.isSerial newType = true)
      (hplain : Sql.TypeName.isSerial oldType = false) :
      VersionFault renameTracking old new (.unsupported object (.becomesSerial oldType newType))

/-! ### Constraints -/

theorem failsOnly_tableConstraints {style : Sql.Style} {db : Database} {item : Schema × Table}
    (hm : item ∈ db.tables) :
    FailsOnly (ConstraintFault style db) (tableConstraints style item.1.name item.2) := by
  unfold tableConstraints
  refine FailsOnly.bind (failsOnly_checkEach fun front k back he => ?_) fun _ _ => ?_
  · have hk : k ∈ gatherConstraints style item.1.name item.2 := by
      rw [he]
      exact List.mem_append_cons_self
    refine failsOnly_ensure fun htwice => .duplicateName hm hk ?_
    have hfront : k.name ∈ front.map (·.name) := by
      rw [Bool.not_eq_false', List.any_eq_true] at htwice
      obtain ⟨other, hother, hname⟩ := htwice
      exact List.mem_map.2 ⟨other, List.mem_reverse.1 hother, eq_of_beq hname⟩
    have hpos := List.count_pos_iff.2 hfront
    rw [he, List.map_append, List.map_cons, List.count_append, List.count_cons_self]
    omega
  · refine (failsOnly_ensure fun hseveral => .severalPrimaryKeys hm ?_).bind fun _ _ =>
      failsOnly_pure _
    exact Nat.lt_of_not_le (of_decide_eq_false hseveral)

/-! ### Correspondence -/

section Correspondence

variable {old new : Database} {renameTracking : Bool}

theorem failsOnly_continued {item : Schema × Table} (hm : item ∈ new.tables) :
    FailsOnly (VersionFault renameTracking old new)
      (continued old renameTracking item.1.name item.2) := by
  unfold continued
  dsimp only
  split
  · exact failsOnly_ok _
  next marker hmarker =>
    have htracking : renameTracking = true := by
      by_contra hnot
      rw [if_neg hnot] at hmarker
      cases hmarker
    rw [if_pos htracking] at hmarker
    refine failsOnly_ite.2 ⟨fun hmoved => ?_, fun _ => failsOnly_ok _⟩
    refine failsOnly_ite.2 ⟨fun hhere => ?_, fun _ => failsOnly_ok _⟩
    rw [Bool.and_eq_true, bne_iff_ne] at hmoved
    exact failsOnly_error.2 (.ambiguousTable hm htracking hmarker hmoved.1 hmoved.2 hhere)

/-- A pair that has been made is that of a table made it for. -/
theorem mem_foldlM_addPair_iff {items : List (Schema × Table)}
    {pairs : List (TableKey × TableKey)}
    (h : items.foldlM (addPair old renameTracking) [] = .ok pairs) {p : TableKey × TableKey} :
    p ∈ pairs ↔ ∃ item ∈ items, itemKey item = p.1 ∧ Continues renameTracking old item p.2 := by
  have hnil : (([] : List (TableKey × TableKey)).map (·.2)).Nodup := List.nodup_nil
  obtain ⟨-, rfl, -⟩ := (foldlM_addPair_eq_ok_iff hnil).1 h
  rw [List.append_nil, List.mem_reverse, List.mem_filterMap]
  simp only [pairOf?_eq_some_iff]

/-- **Tables are paired off**, unless a marker is ambiguous or two tables continue one. -/
theorem failsOnly_correspondence (hnew : new.Coherent) :
    FailsOnly (VersionFault renameTracking old new)
      (correspondence (some old) new renameTracking) := by
  refine failsOnly_foldlM fun front item back pairs he hpairs => ?_
  have hm : item ∈ new.tables := by rw [he]; exact List.mem_append_cons_self
  unfold addPair
  refine (failsOnly_continued hm).bind fun r hr => ?_
  cases r with
  | none => exact failsOnly_pure _
  | some key =>
    dsimp only
    split
    next other taken hfind =>
      have htaken : taken = key := by simpa using List.find?_some hfind
      subst htaken
      obtain ⟨first, hfirst, hkey, hcontinues⟩ :=
        (mem_foldlM_addPair_iff hpairs).1 (List.mem_of_find?_eq_some hfind)
      obtain rfl : itemKey first = other := hkey
      -- The tables have keys of their own, so the earlier one is another table.
      have hne : first ≠ item := by
        rintro rfl
        have hnodup := Comparison.nodup_itemKeys hnew
        rw [he, List.map_append, List.map_cons, List.nodup_append] at hnodup
        exact hnodup.2.2 _ (List.mem_map_of_mem hfirst) _ List.mem_cons_self rfl
      have hfirst' : first ∈ new.tables := by
        rw [he]
        exact List.mem_append_left _ hfirst
      exact failsOnly_throw.2 (.continuedTwice hm hfirst' hne hr hcontinues)
    next => exact failsOnly_pure _

end Correspondence

/-! ### Orders -/

theorem Database.Coherent.isIn_of_mem_naturalOrder {db : Database} (h : db.Coherent)
    {item : OrderItem} (hm : item ∈ db.naturalOrder) : item.isIn db = true := by
  obtain ⟨s, hs, hi⟩ := List.mem_flatMap.1 hm
  unfold schemaItems at hi
  split at hi
  · rw [List.mem_singleton.1 hi]
    show (db.schema? s.name).isSome = true
    rw [h.schema?_of_mem hs]
    rfl
  · obtain ⟨t, ht, rfl⟩ := List.mem_map.1 hi
    show (db.table? s.name t.name).isSome = true
    rw [h.table?_of_mem (mem_tables.2 ⟨hs, ht⟩)]
    rfl

/-- **The order that the dependencies give is accepted.** -/
theorem Database.Coherent.chooseOrder_dependencyOrder {db : Database} (h : db.Coherent)
    (side : Side) (other : Option Database) :
    chooseOrder side (some db.dependencyOrder) db other = .ok db.dependencyOrder := by
  have hperm := dependencyOrder_perm db
  have hcovers : Covers db.dependencyOrder db :=
    ⟨hperm.nodup_iff.2 (nodup_naturalOrder h), fun _ hm => hperm.mem_iff.2 (mem_naturalOrder hm)⟩
  have hcheck : checkOrder side db.dependencyOrder db other = .ok () :=
    checkOrder_eq_ok_iff.2 ⟨hcovers, fun item hm => by
      rw [h.isIn_of_mem_naturalOrder (hperm.mem_iff.1 hm), Bool.true_or]⟩
  rw [chooseOrder, hcheck]
  rfl

namespace Comparison

/-! ### Columns -/

theorem mem_columns_of_oldColumn {renameTracking : Bool} {t : Table} {col previous : Column}
    {object : String} {renamed : Bool}
    (h : oldColumn renameTracking t col object = .ok (some (previous, renamed))) :
    previous ∈ t.columns := by
  have hname : ∀ {r}, (t.column? col.name).map (fun o => (o, false)) = some r →
      r.1 ∈ t.columns := by
    intro r hr
    obtain ⟨o, ho, rfl⟩ := Option.map_eq_some_iff.1 hr
    exact List.mem_of_find?_eq_some ho
  unfold oldColumn at h
  dsimp only at h
  split at h
  · exact hname (Except.ok.inj h)
  · split at h
    · exact hname (Except.ok.inj h)
    · split at h
      · exact hname (Except.ok.inj h)
      next found hfound =>
        split at h
        · cases h
        · cases h
          exact List.mem_of_find?_eq_some hfound

/-- What makes a column that is looked for in the previous version ambiguous. -/
theorem failsOnly_oldColumn {renameTracking : Bool} {t : Table} {col : Column} {object : String}
    {p : SchemaError → Prop}
    (h : renameTracking = true → ∀ oldName, col.oldName = some oldName → oldName ≠ col.name →
      (t.column? oldName).isSome → (t.column? col.name).isSome →
        p (.definition object (.ambiguousRename oldName col.name))) :
    FailsOnly p (oldColumn renameTracking t col object) := by
  unfold oldColumn
  dsimp only
  split
  · exact failsOnly_ok _
  next oldName hmarker =>
    have htracking : renameTracking = true := by
      by_contra hnot
      rw [if_neg hnot] at hmarker
      cases hmarker
    rw [if_pos htracking] at hmarker
    refine failsOnly_ite.2 ⟨fun _ => failsOnly_ok _, fun hne => ?_⟩
    split
    · exact failsOnly_ok _
    next previous hthere =>
      refine failsOnly_ite.2 ⟨fun hhere => failsOnly_error.2 ?_, fun _ => failsOnly_ok _⟩
      have hthere : (t.column? oldName).isSome := by rw [hthere]; rfl
      exact h htracking oldName hmarker (by simpa using hne) hthere hhere

theorem failsOnly_alterType {address object : String} {col : Column} {oldType newType : String}
    {p : SchemaError → Prop}
    (h : Sql.TypeName.isSerial newType = true → Sql.TypeName.isSerial oldType = false →
      p (.unsupported object (.becomesSerial oldType newType))) :
    FailsOnly p (alterType address object col oldType newType) := by
  unfold alterType
  refine failsOnly_ite.2 ⟨fun _ => failsOnly_ok _, fun _ => ?_⟩
  refine failsOnly_ite.2 ⟨fun hserial => failsOnly_error.2 ?_, fun _ => failsOnly_ok _⟩
  rw [Bool.and_eq_true, Bool.not_eq_true'] at hserial
  exact h hserial.1 hserial.2

/-! ### Rows -/

/-- Of the look-ups for static rows, those of old columns are left to look at: validation has seen to
the others. -/
theorem rowsFailOnly_of_valid {c : Comparison} {p : SchemaError → Prop}
    (hvalid : ∀ db ∈ c.versions, db.validate = .ok ())
    (hcolumns : ∀ item ∈ c.new.tables, ∀ prev,
      c.oldVersion? item.1.name item.2.name = some prev → ∀ col ∈ item.2.columns,
        FailsOnly p (oldColumn c.options.renameTracking prev.2 col
          (Sql.qualified item.1.name item.2.name ++ "." ++ col.name))) :
    c.RowsFailOnly p := by
  refine ⟨fun db hdb item hm => ?_, fun db hdb item hm s hs column hcolumn cell => ?_, hcolumns⟩
  · exact failsOnly_of_eq_ok (StaticRows.exists_ofTable
      ((Database.coherent_of_validate (hvalid db hdb)).table_of_mem hm))
  · exact failsOnly_of_eq_ok (StaticRows.exists_literal (hvalid db hdb) hm hs hcolumn cell)

/-! ### What is foreseen -/

/-- The faults of the versions of a comparison, and of going from one to the other. -/
def Foreseen (c : Comparison) (e : SchemaError) : Prop :=
  (∃ db ∈ c.versions, ConstraintFault c.style db e) ∨
    ∃ old, c.old = some old ∧ VersionFault c.options.renameTracking old c.new e

section Made

variable {c : Comparison} {old : Option Database} {new : Database}
  {newOrder oldOrder : Option (List OrderItem)} {style : Sql.Style} {options : Options}
  (hmake : make old new newOrder oldOrder style options = .ok c) (hc : c.WellMade)

include hmake in
/-- The pairs are those of tables with the tables that they continue. -/
theorem mem_pairs_iff {db : Database} (hold : c.old = some db) {p : TableKey × TableKey} :
    p ∈ c.pairs ↔ ∃ item ∈ c.new.tables, itemKey item = p.1 ∧
      Continues c.options.renameTracking db item p.2 := by
  obtain ⟨-, -, hpairs, rfl, rfl, rfl, -⟩ := make_eq_ok_iff.1 hmake
  rw [hold] at hpairs
  exact mem_foldlM_addPair_iff hpairs

include hmake hc

theorem continues_of_oldVersion? {db : Database} (hold : c.old = some db)
    {item prev : Schema × Table} (hm : item ∈ c.new.tables)
    (h : c.oldVersion? item.1.name item.2.name = some prev) :
    Continues c.options.renameTracking db item (itemKey prev) := by
  have hpair := ((hc.oldVersion?_eq_some_iff hold).1 h).1
  obtain ⟨item', hm', hkey, hcontinues⟩ := (mem_pairs_iff hmake hold).1 hpair
  rwa [hc.new.eq_of_key_eq hm' hm hkey] at hcontinues

/-- The parent of a table goes on as the table that continues it. -/
theorem oldParent?_rel {db : Database} (hold : c.old = some db) (prev : Schema × Table) :
    Option.Rel (GoesOnAs c.options.renameTracking db c.new)
      (prev.2.inherits.map (·.resolve prev.1.name)) (c.oldParent? prev.1.name prev.2) := by
  unfold oldParent?
  cases prev.2.inherits with
  | none => exact .none
  | some parent =>
    refine .some ?_
    dsimp only
    split
    next item hfound =>
      obtain ⟨hpair, hm⟩ := hc.newVersion?_eq_some_iff.1 hfound
      obtain ⟨item', hm', hkey, hcontinues⟩ := (mem_pairs_iff hmake hold).1 hpair
      rw [hc.new.eq_of_key_eq hm' hm hkey] at hcontinues
      exact .continued hm hcontinues
    next hnone =>
      refine .gone fun item hm hcontinues => ?_
      have hpair : (itemKey item, parent.resolve prev.1.name) ∈ c.pairs :=
        (mem_pairs_iff hmake hold).2 ⟨item, hm, rfl, hcontinues⟩
      cases hnone.symm.trans (hc.newVersion?_eq_some_iff.2 ⟨hpair, hm⟩)

theorem failsOnly_checkInheritance : FailsOnly c.Foreseen c.checkInheritance := by
  refine failsOnly_checkAll fun item hm => ?_
  dsimp only
  split
  · exact failsOnly_ok _
  next prevSchema prevTable hfound =>
    obtain ⟨db, hold, hprev⟩ := exists_old_of_oldVersion? hfound
    refine failsOnly_ensure fun hne => .inr ⟨db, hold, ?_⟩
    exact .inheritanceChanged hm hprev (continues_of_oldVersion? hmake hc hold hm hfound)
      (oldParent?_rel hmake hc hold (prevSchema, prevTable)) (by simpa using hne)

section Column

variable {item prev : Schema × Table} (hm : item ∈ c.new.tables)
  (hfound : c.oldVersion? item.1.name item.2.name = some prev) {col : Column}
  (hcol : col ∈ item.2.columns)

include hm hfound hcol

theorem failsOnly_oldColumn_of_made : FailsOnly c.Foreseen
    (oldColumn c.options.renameTracking prev.2 col
      (Sql.qualified item.1.name item.2.name ++ "." ++ col.name)) := by
  obtain ⟨db, hold, hprev⟩ := exists_old_of_oldVersion? hfound
  refine failsOnly_oldColumn fun htracking oldName hmarker hne hthere hhere => ?_
  exact .inr ⟨db, hold, .ambiguousColumn hm hprev
    (continues_of_oldVersion? hmake hc hold hm hfound) hcol htracking hmarker hne hthere hhere⟩

theorem failsOnly_columnWork :
    FailsOnly c.Foreseen (c.columnWork prev.1.name prev.2 item.1.name item.2 col) := by
  obtain ⟨db, hold, hprev⟩ := exists_old_of_oldVersion? hfound
  have hnewTypes := (hc.new.table_of_mem hm).columnTypes col hcol
  unfold columnWork alterColumn
  refine (failsOnly_of_eq_ok hnewTypes).bind fun newType hnewType => ?_
  refine (failsOnly_oldColumn_of_made hmake hc hm hfound hcol).bind fun found hcolumn => ?_
  cases found with
  | none => exact failsOnly_pure _
  | some found =>
    obtain ⟨previous, renamed⟩ := found
    have holdTypes := ((hc.old db hold).table_of_mem hprev).columnTypes previous
      (mem_columns_of_oldColumn hcolumn)
    rw [hold]
    refine (failsOnly_of_eq_ok holdTypes).bind fun oldType holdType => ?_
    refine FailsOnly.bind ?_ fun _ _ => failsOnly_pure _
    refine FailsOnly.bind (failsOnly_alterType fun hserial hplain => ?_) fun _ _ =>
      failsOnly_pure _
    exact .inr ⟨db, hold, .becomesSerial hm hprev
      (continues_of_oldVersion? hmake hc hold hm hfound) hcol rfl hcolumn holdType hnewType
      hserial hplain⟩

end Column

theorem structureFailsOnly : c.StructureFailsOnly c.Foreseen := by
  have hcoherent := forall_mem_versions_iff.2 ⟨hc.new, hc.old⟩
  refine ⟨failsOnly_checkInheritance hmake hc, fun db hdb item hm col hcol => ?_,
    fun db hdb item hm e he => ?_, fun item hm prev hfound col hcol => ?_⟩
  · exact failsOnly_of_eq_ok (((hcoherent db hdb).table_of_mem hm).columnTypes col hcol)
  · exact .inl ⟨db, hdb, failsOnly_tableConstraints hm e he⟩
  · exact failsOnly_columnWork hmake hc hm hfound hcol

theorem rowsFailOnly (hvalid : ∀ db ∈ c.versions, db.validate = .ok ()) :
    c.RowsFailOnly c.Foreseen :=
  rowsFailOnly_of_valid hvalid fun _ hm _ hfound _ hcol =>
    failsOnly_oldColumn_of_made hmake hc hm hfound hcol

end Made

/-- Versions are put side by side, unless tables cannot be paired off. -/
theorem failsOnly_make [QueryReader] {old : Option Database} {new : Database} {style : Sql.Style}
    {options : Options} (hnew : new.Coherent) (hold : ∀ db, old = some db → db.Coherent) :
    FailsOnly
      (fun e => ∃ db, old = some db ∧ VersionFault options.renameTracking db new e)
      (make old new (some new.dependencyOrder) (old.map (·.dependencyOrder)) style options) := by
  have holdOrder : ∃ order, chooseOldOrder old new (old.map (·.dependencyOrder)) = .ok order := by
    cases old with
    | none => exact ⟨[], rfl⟩
    | some db => exact ⟨_, (hold db rfl).chooseOrder_dependencyOrder .old (some new)⟩
  rw [make_eq_bind, hnew.chooseOrder_dependencyOrder .new old]
  refine FailsOnly.bind (failsOnly_ok _) fun _ _ => ?_
  refine (failsOnly_of_eq_ok holdOrder).bind fun _ _ => ?_
  refine FailsOnly.bind ?_ fun _ _ => failsOnly_pure _
  cases old with
  | none => exact failsOnly_ok _
  | some db => exact fun e he => ⟨db, rfl, failsOnly_correspondence hnew e he⟩

end Comparison

/-- What planning may fail with, whether or not there is a previous version. -/
theorem failsOnly_plan_of_valid [QueryReader] {old : Option Database} {new : Database}
    (hnew : new.validate = .ok ()) (hold : ∀ db, old = some db → db.validate = .ok ())
    (style : Sql.Style) (options : Options) :
    FailsOnly (fun e => (∃ db ∈ new :: old.toList, ConstraintFault style db e) ∨
        ∃ db, old = some db ∧ VersionFault options.renameTracking db new e)
      (plan old new style options) := by
  have hcnew := Database.coherent_of_validate hnew
  have hcold : ∀ db, old = some db → db.Coherent := fun db hdb =>
    Database.coherent_of_validate (hold db hdb)
  rw [plan_of_valid hnew hold]
  refine FailsOnly.bind (fun e he => .inr (Comparison.failsOnly_make hcnew hcold e he))
    fun c hmake => ?_
  have hc := Comparison.wellMade_of_make hcnew hcold hmake
  have hstructure := Comparison.structureFailsOnly hmake hc
  have hrows := Comparison.rowsFailOnly hmake hc
  obtain ⟨-, -, -, rfl, rfl, rfl, rfl⟩ := Comparison.make_eq_ok_iff.1 hmake
  exact c.failsOnly_plan hstructure (hrows (Comparison.forall_mem_versions_iff.2 ⟨hnew, hold⟩))

/-- **Validation is enough for planning.**  Planning a valid definition from nothing fails only when
constraints of one of its tables get in each other's way.  Planning an upgrade from one valid
definition to another can fail, besides, only when it is ambiguous what a table or a column
continues, when two tables continue one, when a table changes its parent, or when a column is to
count by itself.  Whatever else is looked up on the way is there. -/
theorem plan_fails_as_foreseen [QueryReader] {new : Database} (hnew : new.validate = .ok ())
    (style : Sql.Style) (options : Options) :
    FailsOnly (ConstraintFault style new) (plan none new style options) ∧
      ∀ old : Database, old.validate = .ok () →
        FailsOnly (fun e => ConstraintFault style new e ∨ ConstraintFault style old e ∨
            VersionFault options.renameTracking old new e)
          (plan (some old) new style options) := by
  constructor
  · intro e he
    obtain ⟨db, hdb, hfault⟩ | ⟨_, ⟨⟩, -⟩ :=
      failsOnly_plan_of_valid hnew (fun _ h => by cases h) style options e he
    rwa [List.mem_singleton.1 hdb] at hfault
  · intro old hold e he
    have hvalid : ∀ db, some old = some db → db.validate = .ok () := by
      rintro _ ⟨⟩
      exact hold
    obtain ⟨db, hdb, hfault⟩ | ⟨_, ⟨⟩, hfault⟩ :=
      failsOnly_plan_of_valid hnew hvalid style options e he
    · rcases List.mem_cons.1 hdb with rfl | hdb
      · exact .inl hfault
      · rw [List.mem_singleton.1 hdb] at hfault
        exact .inr (.inl hfault)
    · exact .inr (.inr hfault)

/-! ### A library -/

attribute [local instance] QueryReader.blank

/-- A library whose books are entries with a code: they inherit its column, which has the type of the
column that it refers to, and static rows give values to it. -/
def Library.of (numbers : String) (constraints : List ConstraintDecl) : Database where
  schemas := [{
    name := "library"
    tables := [
      { name := "codes", primaryKey := ["code"]
        columns := [{ name := "code", dataType := some "text" }] },
      { name := "entries", primaryKey := ["number"]
        columns := [{ name := "number", dataType := some numbers },
          { name := "code", foreignKey := some { table := "codes" } }] },
      { name := "books", primaryKey := ["number"], inherits := some { table := "entries" }
        constraints
        rows := some {
          columns := ["number", "code"]
          rows := [{ cells := [{ value := some "1" }, { value := some "QA" }] }] } }] }]

/-- Two constraints of one name. -/
def Library.doubled : List ConstraintDecl := [
  { name := "shelved", kind := .check, definition := "(number > 0)" },
  { name := "shelved", kind := .unique, definition := "(code)" }]

/-- **The library can be created**, unless two constraints of its books have one name, and it cannot
be upgraded so that entries count by themselves. -/
theorem plan_fails_as_foreseen_of_library :
    (∃ p, plan none (Library.of "bigint" []) {} {} = .ok p) ∧
      plan none (Library.of "bigint" Library.doubled) {} {} =
        .error (.definition "library.books.shelved" (.duplicateName .constraint)) ∧
      ConstraintFault {} (Library.of "bigint" Library.doubled)
        (.definition "library.books.shelved" (.duplicateName .constraint)) ∧
      plan (some (Library.of "bigint" [])) (Library.of "bigserial" []) {} {} =
        .error (.unsupported "library.entries.number" (.becomesSerial "bigint" "bigserial")) ∧
      VersionFault true (Library.of "bigint" []) (Library.of "bigserial" [])
        (.unsupported "library.entries.number" (.becomesSerial "bigint" "bigserial")) := by
  have hcreated : (plan none (Library.of "bigint" []) {} {}).isOk = true := by decide +kernel
  have hdoubled : plan none (Library.of "bigint" Library.doubled) {} {} =
      .error (.definition "library.books.shelved" (.duplicateName .constraint)) := by
    decide +kernel
  have hserial : plan (some (Library.of "bigint" [])) (Library.of "bigserial" []) {} {} =
      .error (.unsupported "library.entries.number" (.becomesSerial "bigint" "bigserial")) := by
    decide +kernel
  have hvalid : (Library.of "bigint" Library.doubled).validate = .ok () := by decide +kernel
  have hnew : (Library.of "bigserial" []).validate = .ok () := by decide +kernel
  have hold : (Library.of "bigint" []).validate = .ok () := by decide +kernel
  have hfault := (plan_fails_as_foreseen hvalid {} {}).1 _ hdoubled
  have hversion := (plan_fails_as_foreseen hnew {} {}).2 _ hold _ hserial
  refine ⟨?_, hdoubled, hfault, hserial, ?_⟩
  · cases h : plan none (Library.of "bigint" []) {} {} with
    | error e =>
      rw [h] at hcreated
      cases hcreated
    | ok p => exact ⟨p, rfl⟩
  · rcases hversion with h | h | h
    · cases h
    · cases h
    · exact h

end SchemaPlan
