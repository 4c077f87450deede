import SchemaPlan.Proofs.ColumnMigration

/-!
# Columns while their type is rebuilt

The columns that use a type are parked while it is dropped and created.  What is known of the
columns of all tables is a `ColumnMap`, and what operations do to it is a matter of each column by
itself: after a run a column has gone through the changes that the operations make to it, in their
order (`ColumnMap.run?_eq`).  So all there is to know of a rebuild is which changes it makes to
which columns.

The columns that it finds are those whose type, however many references it is found through, means
the type that is rebuilt (`columnsOfType_eq`), each once.  Hence it parks and restores each of them
once and leaves all others alone (`run?_park`, `run?_restore`).
-/

namespace SchemaPlan

open Function (update)

/-! ### The columns of all tables -/

/-- What is known of the columns of all tables. -/
abbrev ColumnMap :=
  Database.ColumnKey → Option ColumnState

/-- The columns of a definition, each with the type that it has and the default that it declares. -/
def Database.columnMap (db : Database) : ColumnMap := fun k =>
  (db.table? k.schema k.table).bind fun item => db.columnStates item.1.name item.2 k.column

/-- The column that an operation changes, with the change. -/
def Op.columnChange? : Op → Option (Database.ColumnKey × ColumnChange)
  | .alterColumn address column change =>
    some (⟨(Sql.splitQualified address).1, (Sql.splitQualified address).2, column⟩, change)
  | _ => none

/-- The changes that operations make to a column, in their order. -/
def changesOf (k : Database.ColumnKey) (ops : List Op) : List ColumnChange :=
  (ops.filterMap (·.columnChange?)).filterMap fun (column, change) =>
    if column = k then some change else none

namespace ColumnMap

/-- The columns after a step, if it can be made: a column that is changed is there. -/
def step? (columns : ColumnMap) (op : Op) : Option ColumnMap :=
  match op.columnChange? with
  | none => some columns
  | some (k, change) =>
    (columns k).map fun state => update columns k (some (state.change change))

/-- The columns after steps, if all of them can be made. -/
def run? (columns : ColumnMap) (ops : List Op) : Option ColumnMap :=
  ops.foldlM step? columns

end ColumnMap

/-! ### Changes of one column -/

section Changes

variable {k : Database.ColumnKey} {ops : List Op} {columns : ColumnMap}

@[simp] theorem changesOf_nil : changesOf k [] = [] :=
  rfl

theorem changesOf_append (a b : List Op) :
    changesOf k (a ++ b) = changesOf k a ++ changesOf k b := by
  simp only [changesOf, List.filterMap_append]

theorem changesOf_eq_nil (h : ∀ op ∈ ops, op.columnChange? = none) : changesOf k ops = [] := by
  rw [changesOf, List.filterMap_eq_nil_iff.2 h, List.filterMap_nil]

/-- **Each column goes through the changes that are made to it**, whatever is done to others. -/
theorem ColumnMap.run?_eq (h : ∀ k, changesOf k ops ≠ [] → (columns k).isSome) :
    columns.run? ops =
      some fun k => (columns k).map ((changesOf k ops).foldl ColumnState.change ·) := by
  induction ops generalizing columns with
  | nil => simp [run?]
  | cons op ops ih =>
    have hcons : ∀ k, changesOf k (op :: ops) = changesOf k [op] ++ changesOf k ops := fun k =>
      changesOf_append [op] ops
    rw [run?, List.foldlM_cons, step?]
    cases hop : op.columnChange? with
    | none =>
      have hnone : ∀ k, changesOf k [op] = [] := fun k => changesOf_eq_nil (by simpa using hop)
      simp only [hcons, hnone, List.nil_append] at h ⊢
      exact ih h
    | some found =>
      obtain ⟨changed, change⟩ := found
      have hself : changesOf changed [op] = [change] := by simp [changesOf, hop]
      have hother : ∀ k ≠ changed, changesOf k [op] = [] := fun k hne => by
        simp [changesOf, hop, Ne.symm hne]
      obtain ⟨state, hstate⟩ := Option.isSome_iff_exists.1 (h changed (by simp [hcons, hself]))
      simp only [hstate, Option.map_some]
      -- The other columns are as they were, and the changed one has its other changes before it.
      refine (@ih (update columns changed (some (state.change change))) fun k hk => ?_).trans ?_
      · by_cases he : k = changed
        · rw [he, Function.update_self]
          rfl
        · rw [Function.update_of_ne he]
          exact h k (by simp [hcons, hk])
      · congr 1
        funext k
        by_cases he : k = changed
        · rw [he, Function.update_self, hstate, hcons, hself]
          rfl
        · rw [Function.update_of_ne he, hcons, hother k he, List.nil_append]

namespace ColumnMap

/-- What changes no column leaves all as they are. -/
theorem run?_of_others (h : ∀ op ∈ ops, op.columnChange? = none) :
    columns.run? ops = some columns := by
  rw [run?_eq fun k hne => absurd (changesOf_eq_nil h) hne]
  congr 1
  funext k
  rw [changesOf_eq_nil h]
  exact Option.map_id' ..

theorem run?_trans {a b : List Op} {between after : ColumnMap}
    (ha : columns.run? a = some between) (hb : between.run? b = some after) :
    columns.run? (a ++ b) = some after := by
  rw [run?, List.foldlM_append]
  exact (congrArg (Option.bind · _) ha).trans hb

end ColumnMap

end Changes

/-! ### The columns that have a type -/

/-- A column as it is found, by the table that it is a column of. -/
abbrev FoundColumn :=
  TableKey × Column

namespace FoundColumn

/-- The key of a column. -/
def key (item : FoundColumn) : Database.ColumnKey :=
  ⟨item.1.1, item.1.2, item.2.name⟩

/-- The operations that make changes to a column. -/
def alter (item : FoundColumn) (changes : List ColumnChange) : List Op :=
  changes.map (.alterColumn (Sql.qualified item.1.1 item.1.2) item.2.name)

theorem isSome_columnChange? {item : FoundColumn} {changes : List ColumnChange} {op : Op}
    (hop : op ∈ item.alter changes) : op.columnChange?.isSome := by
  obtain ⟨_, -, rfl⟩ := List.mem_map.1 hop
  rfl

theorem changesOf_alter {item : FoundColumn} (h : '.' ∉ item.1.1.toList) (k : Database.ColumnKey)
    (changes : List ColumnChange) :
    changesOf k (item.alter changes) = if item.key = k then changes else [] := by
  have hchange : ∀ change, (Op.alterColumn (Sql.qualified item.1.1 item.1.2) item.2.name
      change).columnChange? = some (item.key, change) := by
    intro change
    rw [Op.columnChange?, Sql.splitQualified_qualified h]
    rfl
  induction changes with
  | nil => simp [alter]
  | cons change changes ih =>
    have hcons : item.alter (change :: changes) = item.alter [change] ++ item.alter changes := rfl
    rw [hcons, changesOf_append, ih]
    by_cases he : item.key = k <;> simp [changesOf, alter, hchange, he]

theorem changesOf_flatMap {items : List FoundColumn}
    (hdots : ∀ item ∈ items, '.' ∉ item.1.1.toList) (k : Database.ColumnKey)
    (changes : FoundColumn → List ColumnChange) :
    changesOf k (items.flatMap fun item => item.alter (changes item)) =
      (items.filter (·.key = k)).flatMap changes := by
  induction items with
  | nil => rfl
  | cons item items ih =>
    rw [List.forall_mem_cons] at hdots
    rw [List.flatMap_cons, changesOf_append, changesOf_alter hdots.1, ih hdots.2]
    by_cases he : item.key = k <;> simp [he]

/-- Columns are told apart by their keys. -/
theorem filter_key_eq {items : List FoundColumn} (hkeys : (items.map key).Nodup)
    {item : FoundColumn} (hm : item ∈ items) : items.filter (·.key = item.key) = [item] := by
  obtain ⟨front, back, rfl⟩ := List.append_of_mem hm
  rw [List.map_append, List.map_cons, List.nodup_middle, List.nodup_cons, List.mem_append,
    not_or, List.mem_map, List.mem_map] at hkeys
  obtain ⟨⟨hfront, hback⟩, -⟩ := hkeys
  have hfrontNil : front.filter (·.key = item.key) = [] := by
    rw [List.filter_eq_nil_iff]
    exact fun other hother he => hfront ⟨other, hother, of_decide_eq_true he⟩
  have hbackNil : back.filter (·.key = item.key) = [] := by
    rw [List.filter_eq_nil_iff]
    exact fun other hother he => hback ⟨other, hother, of_decide_eq_true he⟩
  rw [List.filter_append, hfrontNil, List.filter_cons_of_pos (by simp), hbackNil, List.nil_append]

end FoundColumn

/-- The columns of the tables that an order lists, in that order. -/
def Database.columnsIn (db : Database) (order : List OrderItem) : List FoundColumn :=
  (Comparison.tablesIn db order).flatMap fun item =>
    item.2.columns.map fun col => (itemKey item, col)

/-- Whether a column has a type that means a type of a schema. -/
def Database.usesType (db : Database) (schema name : String) (k : Database.ColumnKey) : Bool :=
  (db.columnMap k).any fun state => refersToType state.dataType schema name

theorem Database.usesType_eq_true_iff {db : Database} {schema name : String}
    {k : Database.ColumnKey} : db.usesType schema name k = true ↔ ∃ state,
      db.columnMap k = some state ∧ refersToType state.dataType schema name = true := by
  unfold usesType
  cases db.columnMap k <;> simp

theorem Database.refersToType_of_unused {db : Database} {schema name : String}
    {k : Database.ColumnKey} (hk : db.usesType schema name k = false) {state : ColumnState}
    (hstate : db.columnMap k = some state) :
    refersToType state.dataType schema name = false := by
  rw [usesType, hstate, Option.any_some] at hk
  exact hk

/-- The columns with a type that means a type of a schema. -/
def Database.typeColumns (db : Database) (order : List OrderItem) (schema name : String) :
    List FoundColumn :=
  (db.columnsIn order).filter fun item => db.usesType schema name item.key

namespace Database.Coherent

variable {db : Database} (h : db.Coherent) {order : List OrderItem}

include h

/-- A column that is declared has a type and the default that it declares. -/
theorem exists_columnMap {item : Schema × Table} (hm : item ∈ db.tables) {col : Column}
    (hcol : col ∈ item.2.columns) :
    ∃ dataType, db.columnType item.1.name item.2.name col.name = .ok dataType ∧
      db.columnMap (FoundColumn.key (itemKey item, col)) =
        some { dataType, default? := col.default?, nullable := col.nullable } := by
  have htable := h.table_of_mem hm
  obtain ⟨dataType, htype⟩ := htable.columnTypes col hcol
  refine ⟨dataType, htype, ?_⟩
  have hfound : item.2.column? col.name = some col := find?_eq_some_of_nodup htable.columnNames hcol
  rw [columnMap, FoundColumn.key, h.table?_of_mem hm, Option.bind_some, columnStates, hfound,
    Option.bind_some, htype]
  rfl

theorem mem_columnsIn (horder : Covers order db) {item : FoundColumn} :
    item ∈ db.columnsIn order ↔
      ∃ found ∈ db.tables, ∃ col ∈ found.2.columns, item = (itemKey found, col) := by
  simp only [columnsIn, List.mem_flatMap, List.mem_map, Comparison.mem_tablesIn h]
  constructor
  · rintro ⟨found, ⟨hm, -⟩, col, hcol, rfl⟩
    exact ⟨found, hm, col, hcol, rfl⟩
  · rintro ⟨found, hm, col, hcol, rfl⟩
    exact ⟨found, ⟨hm, horder.mem found hm⟩, col, hcol, rfl⟩

/-- Columns that are not declared are not known of. -/
theorem exists_key_eq (horder : Covers order db) {k : ColumnKey} {state : ColumnState}
    (hk : db.columnMap k = some state) : ∃ item ∈ db.columnsIn order,
      FoundColumn.key item = k ∧ state.default? = item.2.default? := by
  obtain ⟨found, hfound, hstate⟩ := Option.bind_eq_some_iff.1 hk
  obtain ⟨hm, hs, ht⟩ := h.table?_eq_some_iff.1 hfound
  obtain ⟨col, hcol, hstate⟩ := Option.bind_eq_some_iff.1 hstate
  obtain ⟨_, -, rfl⟩ := Option.map_eq_some_iff.1 hstate
  refine ⟨(itemKey found, col), (h.mem_columnsIn horder).2
    ⟨found, hm, col, List.mem_of_find?_eq_some hcol, rfl⟩, ?_, rfl⟩
  rw [FoundColumn.key, itemKey, hs, ht, Comparison.name_of_column? hcol]

/-- A column that is declared is one of a type if its type means it. -/
theorem mem_typeColumns (horder : Covers order db) {found : Schema × Table}
    (hm : found ∈ db.tables) {col : Column} (hcol : col ∈ found.2.columns) {state : ColumnState}
    (hstate : db.columnMap (FoundColumn.key (itemKey found, col)) = some state)
    (schema name : String) : (itemKey found, col) ∈ db.typeColumns order schema name ↔
      refersToType state.dataType schema name = true := by
  have hin := (h.mem_columnsIn horder).2 ⟨found, hm, col, hcol, rfl⟩
  rw [typeColumns, List.mem_filter, and_iff_right hin, usesType, hstate, Option.any_some]

theorem nodup_columnsIn (horder : Covers order db) :
    ((db.columnsIn order).map FoundColumn.key).Nodup := by
  rw [columnsIn, List.map_flatMap, List.nodup_flatMap]
  have hmem : ∀ {item}, item ∈ Comparison.tablesIn db order ↔ _ := Comparison.mem_tablesIn h
  constructor
  · intro item hm
    rw [List.map_map]
    refine List.Nodup.of_map ColumnKey.column ?_
    rw [List.map_map]
    exact (h.table_of_mem (hmem.1 hm).1).columnNames
  · refine (Comparison.nodup_tablesIn h horder.nodup).imp_of_mem fun {a b} ha hb hne k hka hkb => ?_
    simp only [List.map_map, List.mem_map, Function.comp_apply] at hka hkb
    obtain ⟨_, -, rfl⟩ := hka
    obtain ⟨_, -, he⟩ := hkb
    refine hne (h.eq_of_key_eq (hmem.1 ha).1 (hmem.1 hb).1 (Prod.ext ?_ ?_))
    · exact (congrArg ColumnKey.schema he).symm
    · exact (congrArg ColumnKey.table he).symm

/-- **The columns of a type** are those that have a type that means it, by way of references or
not. -/
theorem columnsOfType_eq (schema name : String) :
    columnsOfType db order schema name = .ok (db.typeColumns order schema name) := by
  have hcolumns : ∀ found ∈ Comparison.tablesIn db order,
      (do
        let columns ← found.2.columns.mapM fun col => do
          let dataType ← db.columnType found.1.name found.2.name col.name
          return if refersToType dataType schema name then [(itemKey found, col)] else []
        return columns.flatten) =
      (.ok ((found.2.columns.map fun col => (itemKey found, col)).filter fun item =>
        db.usesType schema name (FoundColumn.key item)) : Except SchemaError _) := by
    intro found hm
    rw [mapM_eq_ok_map (g := fun col => [(itemKey found, col)].filter fun item =>
      db.usesType schema name (FoundColumn.key item))]
    · have he : ((found.2.columns.map fun col => (itemKey found, col)).filter fun item =>
          db.usesType schema name (FoundColumn.key item)) = (found.2.columns.map fun col =>
            [(itemKey found, col)].filter fun item =>
              db.usesType schema name (FoundColumn.key item)).flatten := by
        rw [List.map_eq_flatMap, List.filter_flatMap, List.flatMap_def]
      rw [he]
      rfl
    · intro col hcol
      obtain ⟨dataType, htype, hstate⟩ :=
        h.exists_columnMap ((Comparison.mem_tablesIn h).1 hm).1 hcol
      rw [htype, List.filter_singleton, usesType, hstate, Option.any_some, cond_eq_ite]
      rfl
  have he : columnsOfType db order schema name = (do
      let found ← (Comparison.tablesIn db order).mapM fun found => do
        let columns ← found.2.columns.mapM fun col => do
          let dataType ← db.columnType found.1.name found.2.name col.name
          return if refersToType dataType schema name then [(itemKey found, col)] else []
        return columns.flatten
      return found.flatten) := rfl
  rw [he, mapM_eq_ok_map hcolumns, typeColumns, columnsIn, List.filter_flatMap, List.flatMap_def]
  rfl

end Database.Coherent

/-! ### Parking and restoring -/

/-- What parking does to a column of a name with a default. -/
def parkChanges (style : Sql.Style) (type name : String) (default? : Option String) :
    List ColumnChange :=
  (if default?.isSome then [.dropDefault] else []) ++
    [.type type (some (style.ident name ++ "::" ++ type))]

/-- What restoring does to a column of a name with a default. -/
def restoreChanges (style : Sql.Style) (type : String) (viaText : Bool) (name : String)
    (default? : Option String) : List ColumnChange :=
  .type type (some (style.ident name ++ (if viaText then "::text::" else "::") ++ type)) ::
    (default?.map ColumnChange.setDefault).toList

theorem parkColumn_eq (style : Sql.Style) (type : String) (item : FoundColumn) :
    parkColumn style type item =
      item.alter (parkChanges style type item.2.name item.2.default?) := by
  obtain ⟨⟨schema, table⟩, col⟩ := item
  simp only [parkColumn, parkChanges, FoundColumn.alter]
  cases col.default? <;> rfl

theorem restoreColumn_eq (style : Sql.Style) (type : String) (viaText : Bool)
    (item : FoundColumn) : restoreColumn style type viaText item =
      item.alter (restoreChanges style type viaText item.2.name item.2.default?) := by
  obtain ⟨⟨schema, table⟩, col⟩ := item
  simp only [restoreColumn, restoreChanges, FoundColumn.alter]
  cases col.default? <;> rfl

/-- Parking changes columns and nothing else. -/
theorem isSome_columnChange?_of_park {style : Sql.Style} {type : String}
    {items : List FoundColumn} {op : Op} (hop : op ∈ items.flatMap (parkColumn style type)) :
    op.columnChange?.isSome := by
  rw [funext (parkColumn_eq style type), List.mem_flatMap] at hop
  obtain ⟨item, -, hop⟩ := hop
  exact FoundColumn.isSome_columnChange? hop

/-- Restoring changes columns and nothing else. -/
theorem isSome_columnChange?_of_restore {style : Sql.Style} {type : String} {viaText : Bool}
    {items : List FoundColumn} {op : Op}
    (hop : op ∈ items.flatMap (restoreColumn style type viaText)) :
    op.columnChange?.isSome := by
  rw [funext (restoreColumn_eq style type viaText), List.mem_flatMap] at hop
  obtain ⟨item, -, hop⟩ := hop
  exact FoundColumn.isSome_columnChange? hop

theorem foldl_parkChanges (style : Sql.Style) (type name : String) (state : ColumnState) :
    (parkChanges style type name state.default?).foldl ColumnState.change state =
      { state with dataType := type, default? := none } := by
  obtain ⟨dataType, default?, nullable⟩ := state
  cases default? <;> rfl

theorem foldl_restoreChanges (style : Sql.Style) (type parked : String) (viaText : Bool)
    (name : String) (state : ColumnState) :
    (restoreChanges style type viaText name state.default?).foldl ColumnState.change
      { state with dataType := parked, default? := none } = { state with dataType := type } := by
  obtain ⟨dataType, default?, nullable⟩ := state
  cases default? <;> rfl

namespace ColumnMap

/-- The columns with other types, which depend on those that they have. -/
def retype (columns : ColumnMap) (f : String → String) : ColumnMap := fun k =>
  (columns k).map fun state => { state with dataType := f state.dataType }

/-- The columns with other types, where those with a type that means a type of a schema are
parked. -/
def parked (columns : ColumnMap) (schema name type : String) (f : String → String) : ColumnMap :=
  fun k => (columns k).map fun state =>
    if refersToType state.dataType schema name then
      { state with dataType := type, default? := none }
    else { state with dataType := f state.dataType }

theorem retype_id (columns : ColumnMap) : columns.retype id = columns := by
  funext k
  exact Option.map_id' ..

section Known

variable {db : Database} {k : Database.ColumnKey} {state : ColumnState}
  {schema name type : String} {f : String → String}

theorem retype_of_eq_some {columns : ColumnMap} (hk : columns k = some state) :
    columns.retype f k = some { state with dataType := f state.dataType } := by
  rw [retype, hk, Option.map_some]

theorem parked_of_refers {columns : ColumnMap} (hk : columns k = some state)
    (hrefers : refersToType state.dataType schema name = true) :
    columns.parked schema name type f k =
      some { state with dataType := type, default? := none } := by
  rw [parked, hk, Option.map_some, if_pos hrefers]

theorem parked_of_unused (hk : db.usesType schema name k = false) :
    db.columnMap.parked schema name type f k = db.columnMap.retype f k := by
  refine Option.map_congr fun state hstate => ?_
  rw [if_neg (by rw [Database.refersToType_of_unused hk hstate]; exact Bool.false_ne_true)]

theorem retype_of_unused (hk : db.usesType schema name k = false) :
    db.columnMap.retype (fun dataType => if refersToType dataType schema name then type
      else f dataType) k = db.columnMap.retype f k := by
  refine Option.map_congr fun state hstate => ?_
  dsimp only
  rw [if_neg (by rw [Database.refersToType_of_unused hk hstate]; exact Bool.false_ne_true)]

end Known

end ColumnMap

section Rebuild

variable {db : Database} (h : db.Coherent) (hdots : db.DotFree) {order : List OrderItem}
  (horder : Covers order db) {schema name : String}

include h hdots horder

theorem dotFree_of_mem_typeColumns :
    ∀ item ∈ db.typeColumns order schema name, '.' ∉ item.1.1.toList := by
  intro item hm
  obtain ⟨found, hfound, _, _, rfl⟩ := (h.mem_columnsIn horder).1 (List.mem_of_mem_filter hm)
  exact hdots found.1 (Database.mem_tables.1 hfound).1

/-- **A column with a type that means the type** goes through what is done to columns of its name
with its default. -/
theorem changesOf_typeColumns (changes : String → Option String → List ColumnChange)
    {k : Database.ColumnKey} {state : ColumnState} (hk : db.columnMap k = some state)
    (hrefers : refersToType state.dataType schema name = true) :
    changesOf k ((db.typeColumns order schema name).flatMap fun item =>
      FoundColumn.alter item (changes item.2.name item.2.default?)) =
        changes k.column state.default? := by
  obtain ⟨item, hm, rfl, hdefault⟩ := h.exists_key_eq horder hk
  have hitem : item ∈ db.typeColumns order schema name := by
    refine List.mem_filter.2 ⟨hm, ?_⟩
    rw [Database.usesType, hk, Option.any_some, hrefers]
  have hkeys : ((db.typeColumns order schema name).map FoundColumn.key).Nodup :=
    (h.nodup_columnsIn horder).sublist (List.filter_sublist.map _)
  rw [FoundColumn.changesOf_flatMap (dotFree_of_mem_typeColumns h hdots horder) _
    fun item => changes item.2.name item.2.default?, FoundColumn.filter_key_eq hkeys hitem,
    List.flatMap_singleton, hdefault]
  rfl

/-- **Nothing is done to any other column.** -/
theorem changesOf_typeColumns_eq_nil (changes : String → Option String → List ColumnChange)
    {k : Database.ColumnKey} (hk : db.usesType schema name k = false) :
    changesOf k ((db.typeColumns order schema name).flatMap fun item =>
      FoundColumn.alter item (changes item.2.name item.2.default?)) = [] := by
  rw [FoundColumn.changesOf_flatMap (dotFree_of_mem_typeColumns h hdots horder) _
    fun item => changes item.2.name item.2.default?, List.flatMap_eq_nil_iff]
  intro item hm
  obtain ⟨hitem, he⟩ := List.mem_filter.1 hm
  have huses := (List.mem_filter.1 hitem).2
  rw [of_decide_eq_true he, hk] at huses
  cases huses

/-- What is done to the columns of a type is known from what it does to each. -/
theorem run?_typeColumns (changes : String → Option String → List ColumnChange)
    {start after : ColumnMap}
    (hused : ∀ k state, db.columnMap k = some state →
      refersToType state.dataType schema name = true → ∃ before, start k = some before ∧
        after k = some ((changes k.column state.default?).foldl ColumnState.change before))
    (hother : ∀ k, db.usesType schema name k = false → start k = after k) :
    start.run? ((db.typeColumns order schema name).flatMap fun item =>
      FoundColumn.alter item (changes item.2.name item.2.default?)) = some after := by
  have hnone : ∀ {k}, db.usesType schema name k = false → changesOf k _ = [] :=
    changesOf_typeColumns_eq_nil h hdots horder changes
  rw [ColumnMap.run?_eq]
  · congr 1
    funext k
    cases hk : db.usesType schema name k with
    | false =>
      rw [hnone hk, hother k hk]
      exact Option.map_id' ..
    | true =>
      obtain ⟨state, hstate, hrefers⟩ := Database.usesType_eq_true_iff.1 hk
      obtain ⟨before, hbefore, hafter⟩ := hused k state hstate hrefers
      rw [changesOf_typeColumns h hdots horder changes hstate hrefers, hbefore, hafter]
      rfl
  · intro k hne
    cases hk : db.usesType schema name k with
    | false => exact absurd (hnone hk) hne
    | true =>
      obtain ⟨state, hstate, hrefers⟩ := Database.usesType_eq_true_iff.1 hk
      obtain ⟨before, hbefore, -⟩ := hused k state hstate hrefers
      rw [hbefore]
      rfl

variable (schema name)

/-- **Parking** takes the columns with a type that means the type to another, without a default. -/
theorem run?_park (style : Sql.Style) (type : String) (f : String → String) :
    (db.columnMap.retype f).run?
      ((db.typeColumns order schema name).flatMap (parkColumn style type)) =
        some (db.columnMap.parked schema name type f) := by
  rw [funext (parkColumn_eq style type)]
  refine run?_typeColumns h hdots horder (parkChanges style type) ?_ ?_
  · intro k state hk hrefers
    refine ⟨_, ColumnMap.retype_of_eq_some hk, ?_⟩
    rw [ColumnMap.parked_of_refers hk hrefers]
    exact congrArg some (foldl_parkChanges style type k.column
      { state with dataType := f state.dataType }).symm
  · intro k hk
    exact (ColumnMap.parked_of_unused hk).symm

/-- **Restoring** gives them a type again, and the default that they had. -/
theorem run?_restore (style : Sql.Style) (type target : String) (viaText : Bool)
    (f : String → String) : (db.columnMap.parked schema name type f).run?
      ((db.typeColumns order schema name).flatMap (restoreColumn style target viaText)) =
        some (db.columnMap.retype fun dataType =>
          if refersToType dataType schema name then target else f dataType) := by
  rw [funext (restoreColumn_eq style target viaText)]
  refine run?_typeColumns h hdots horder (restoreChanges style target viaText) ?_ ?_
  · intro k state hk hrefers
    refine ⟨_, ColumnMap.parked_of_refers hk hrefers, ?_⟩
    rw [ColumnMap.retype_of_eq_some hk, if_pos hrefers]
    exact congrArg some (foldl_restoreChanges style target type viaText k.column state).symm
  · intro k hk
    rw [ColumnMap.parked_of_unused hk, ColumnMap.retype_of_unused hk]

end Rebuild

theorem name_of_type? {schema : Option Schema} {name : String} {t : TypeDef}
    (h : schema.bind (·.type? name) = some t) : t.name = name := by
  obtain ⟨s, -, hfound⟩ := Option.bind_eq_some_iff.1 h
  simpa using List.find?_some hfound

namespace Comparison

variable {c : Comparison} {old : Database} {schema : String} {prev t : TypeDef}

/-- What a rebuild consists of. -/
theorem rebuildType_eq (hc : c.WellMade) (hold : c.old = some old) :
    c.rebuildType schema prev t = .ok (
      (old.typeColumns c.oldOrder schema prev.name).flatMap
        (parkColumn c.style (placeholder prev.body)) ++
      [.dropType (Sql.qualified schema t.name) prev.body.isDomain, .createType schema t] ++
      (old.typeColumns c.oldOrder schema prev.name).flatMap
        (restoreColumn c.style (c.style.object schema t.name) (!t.body.isDomain))) := by
  rw [rebuildType, hold]
  dsimp only
  rw [(hc.old old hold).columnsOfType_eq]
  rfl

theorem typeOps_of_rebuild (hprev : (c.oldSchema? schema).bind (·.type? t.name) = some prev)
    (hrebuild : requiresRebuild prev t = true) :
    c.typeOps schema t = c.rebuildType schema prev t := by
  simp only [requiresRebuild, Bool.and_eq_true, bne_iff_ne, Option.isNone_iff_eq_none] at hrebuild
  obtain ⟨⟨hne, henum⟩, hdomain⟩ := hrebuild
  rw [typeOps, hprev]
  dsimp only
  rw [if_neg (by simpa using hne), henum]
  dsimp only
  rw [hdomain]

end Comparison

/-- **A rebuild parks and restores the columns of its type.**  Before the type is dropped, each
column with a type that means it, by way of references or not, loses its default and gets the
placeholder: no column has a type that means it while it is gone.  When it is there again, each gets
it, and the default that it had.  Each is changed this once, under the names of the previous
version, whatever becomes of its table.  Nothing is done to any other column, and nothing else at
all. -/
theorem columns_parked_and_restored {old new : Database}
    {newOrder oldOrder : Option (List OrderItem)} {style : Sql.Style} {options : Options}
    {c : Comparison} (hold : old.validate = .ok ()) (hnew : new.validate = .ok ())
    (hdots : old.DotFree)
    (hmake : Comparison.make (some old) new newOrder oldOrder style options = .ok c)
    {schema : String} {t prev : TypeDef}
    (hprev : (old.schema? schema).bind (·.type? t.name) = some prev)
    (hrebuild : requiresRebuild prev t = true)
    (hplace : refersToType (placeholder prev.body) schema t.name = false) :
    (∀ found ∈ old.tables, ∀ col ∈ found.2.columns, ∃ dataType,
      old.columnType found.1.name found.2.name col.name = .ok dataType ∧
      old.columnMap (FoundColumn.key (itemKey found, col)) =
        some { dataType, default? := col.default?, nullable := col.nullable }) ∧
    ∃ park restore parked restored,
      c.typeOps schema t = .ok (park ++ [.dropType (Sql.qualified schema t.name)
        prev.body.isDomain, .createType schema t] ++ restore) ∧
      old.columnMap.run? park = some parked ∧ parked.run? restore = some restored ∧
      (∀ k state, parked k = some state → refersToType state.dataType schema t.name = false) ∧
      (∀ k state, old.columnMap k = some state →
        refersToType state.dataType schema t.name = true →
        changesOf k park = parkChanges style (placeholder prev.body) k.column state.default? ∧
        parked k = some { state with dataType := placeholder prev.body, default? := none } ∧
        changesOf k restore = restoreChanges style (style.object schema t.name) (!t.body.isDomain)
          k.column state.default? ∧
        restored k = some { state with dataType := style.object schema t.name }) ∧
      (∀ k, old.usesType schema t.name k = false →
        changesOf k park = [] ∧ parked k = old.columnMap k ∧
        changesOf k restore = [] ∧ restored k = old.columnMap k) ∧
      ∀ op ∈ park ++ restore, op.columnChange?.isSome := by
  have holdCoherent := Database.coherent_of_validate hold
  have hc : c.WellMade := Comparison.wellMade_of_make (Database.coherent_of_validate hnew)
    (by rintro _ ⟨⟩; exact holdCoherent) hmake
  obtain ⟨-, -, -, hcold, -, -, rfl⟩ := Comparison.make_eq_ok_iff.1 hmake
  have hcprev : (c.oldSchema? schema).bind (·.type? t.name) = some prev := by
    rw [Comparison.oldSchema?, hcold]
    exact hprev
  have horder := hc.oldOrder old hcold
  have hops := (Comparison.typeOps_of_rebuild hcprev hrebuild).trans
    (Comparison.rebuildType_eq hc hcold)
  rw [name_of_type? hprev] at hops
  have hpark := run?_park holdCoherent hdots horder schema t.name c.style (placeholder prev.body) id
  rw [ColumnMap.retype_id] at hpark
  refine ⟨fun found hm col hcol => holdCoherent.exists_columnMap hm hcol, _, _, _, _, hops, hpark,
    run?_restore holdCoherent hdots horder _ _ c.style _ _ _ id, ?_, ?_, ?_, ?_⟩
  · -- A parked column has the placeholder, and any other a type that does not mean the type.
    intro k parked hk
    obtain ⟨state, hstate, rfl⟩ := Option.map_eq_some_iff.1 hk
    by_cases hrefers : refersToType state.dataType schema t.name = true
    · rw [if_pos hrefers]
      exact hplace
    · rw [if_neg hrefers]
      exact Bool.eq_false_iff.2 hrefers
  · intro k state hk hrefers
    have hchanges := fun changes =>
      changesOf_typeColumns holdCoherent hdots horder changes hk hrefers
    refine ⟨?_, ColumnMap.parked_of_refers hk hrefers, ?_, ?_⟩
    · rw [funext (parkColumn_eq _ _)]
      exact hchanges _
    · rw [funext (restoreColumn_eq _ _ _)]
      exact hchanges _
    · rw [ColumnMap.retype_of_eq_some hk, if_pos hrefers]
  · intro k hk
    have hnone := fun changes =>
      changesOf_typeColumns_eq_nil holdCoherent hdots horder changes hk
    refine ⟨?_, ?_, ?_, ?_⟩
    · rw [funext (parkColumn_eq _ _)]
      exact hnone _
    · rw [ColumnMap.parked_of_unused hk, ColumnMap.retype_id]
    · rw [funext (restoreColumn_eq _ _ _)]
      exact hnone _
    · rw [ColumnMap.retype_of_unused hk, ColumnMap.retype_id]
  · intro op hop
    exact (List.mem_append.1 hop).elim isSome_columnChange?_of_park isSome_columnChange?_of_restore

/-! ### A ward -/

/-- How patients may feel. -/
def Ward.mood (values : List String) : TypeDef where
  name := "mood"
  body := .enum values

/-- The visits of patients, each with how they felt. -/
def Ward.visits (name : String) (oldName : Option String) : Table where
  name
  oldName
  columns := [
    { name := "id", dataType := some "integer", nullable := false },
    { name := "feeling", dataType := some "Mood", default? := some "'calm'" }]

/-- Notes about what the patients felt when they were visited. -/
def Ward.notes : Table where
  name := "notes"
  columns := [{
    name := "about"
    foreignKey := some { table := "visits", column := some "feeling" } }]

/-- Patients are calm, tense or bored. -/
def Ward.first : Database where
  schemas := [{
    name := "ward"
    types := [Ward.mood ["calm", "tense", "bored"]]
    tables := [Ward.visits "visits" none, Ward.notes] }]

/-- Nobody is bored any more, the visits are rounds, and there are no notes. -/
def Ward.second : Database where
  schemas := [{
    name := "ward"
    types := [Ward.mood ["calm", "tense"]]
    tables := [Ward.visits "rounds" (some "visits")] }]

/-- **The moods of the ward** are dropped while visits and notes are texts, and come back for both,
for visits with the default that they had. -/
theorem columns_parked_and_restored_of_ward :
    ∃ (c : Comparison) (park restore : List Op) (parked restored : ColumnMap),
      Comparison.make (some Ward.first) Ward.second none none {} {} = .ok c ∧
      c.typeOps "ward" (Ward.mood ["calm", "tense"]) = .ok (park ++
        [.dropType "ward.mood" false, .createType "ward" (Ward.mood ["calm", "tense"])] ++
        restore) ∧
      Ward.first.columnMap.run? park = some parked ∧ parked.run? restore = some restored ∧
      changesOf ⟨"ward", "visits", "feeling"⟩ park =
        [.dropDefault, .type "text" (some "feeling::text")] ∧
      parked ⟨"ward", "visits", "feeling"⟩ = some { dataType := "text" } ∧
      changesOf ⟨"ward", "visits", "feeling"⟩ restore =
        [.type "ward.mood" (some "feeling::text::ward.mood"), .setDefault "'calm'"] ∧
      restored ⟨"ward", "visits", "feeling"⟩ =
        some { dataType := "ward.mood", default? := some "'calm'" } ∧
      restored ⟨"ward", "notes", "about"⟩ = some { dataType := "ward.mood" } ∧
      restored ⟨"ward", "visits", "id"⟩ = some { dataType := "integer", nullable := false } := by
  have hmade : (do
      let c ← Comparison.make (some Ward.first) Ward.second none none {} {}
      return c.style) = .ok {} := by
    decide +kernel
  obtain ⟨c, hmake, -⟩ := bind_eq_ok.1 hmade
  have hprev : (Ward.first.schema? "ward").bind (·.type? (Ward.mood ["calm", "tense"]).name) =
      some (Ward.mood ["calm", "tense", "bored"]) := by
    decide +kernel
  obtain ⟨-, park, restore, parked, restored, hops, hpark, hrestore, -, hused, hother, -⟩ :=
    columns_parked_and_restored (by decide +kernel) (by decide +kernel) (by decide) hmake hprev
      (by decide +kernel) (by decide +kernel)
  have hvisits : Ward.first.columnMap ⟨"ward", "visits", "feeling"⟩ =
      some { dataType := "Mood", default? := some "'calm'" } := by
    decide +kernel
  have hnotes : Ward.first.columnMap ⟨"ward", "notes", "about"⟩ = some { dataType := "Mood" } := by
    decide +kernel
  have hids : Ward.first.columnMap ⟨"ward", "visits", "id"⟩ =
      some { dataType := "integer", nullable := false } := by
    decide +kernel
  have hrefers : refersToType "Mood" "ward" "mood" = true := by decide +kernel
  have htype : ({} : Sql.Style).object "ward" "mood" = "ward.mood" := by decide +kernel
  obtain ⟨hparkVisits, hparked, hrestoreVisits, hrestored⟩ := hused _ _ hvisits hrefers
  obtain ⟨-, -, -, hrestoredNotes⟩ := hused _ _ hnotes hrefers
  obtain ⟨-, -, -, hrestoredIds⟩ := hother ⟨"ward", "visits", "id"⟩ (by decide +kernel)
  refine ⟨c, park, restore, parked, restored, hmake, hops, hpark, hrestore, ?_, hparked, ?_, ?_, ?_,
    hrestoredIds.trans hids⟩
  · rw [hparkVisits]
    decide +kernel
  · rw [hrestoreVisits]
    decide +kernel
  · rw [hrestored, Ward.mood, htype]
  · rw [hrestoredNotes, Ward.mood, htype]

end SchemaPlan
