import SchemaPlan.Proofs.Checks

/-!
# What validation establishes

`Database.Coherent` collects what the planner relies on once a definition has passed
`Database.validate`: names are not repeated where a look-up goes by name, every column has a type,
and the static rows of a table have their key columns, a cell in each of them, and no two rows of
one key.  `coherent_of_validate` is the main statement; each check contributes one field.

The look-ups follow.  In a coherent definition a table is found under its own name and nothing else
is found there (`table?_eq_some_iff`), and a table is determined by its key (`eq_of_key_eq`).
-/

namespace SchemaPlan

namespace Database

/-- Static rows that fit their table: each key column has a place, each row a cell there, and no two
rows count as the same. -/
structure CoherentRows (schema : String) (t : Table) (rows : RowSet) : Prop where
  key : t.primaryKey ≠ []
  places : ∃ places, keyPositions (schema ++ "." ++ t.name) rows.columns t.primaryKey = .ok places ∧
    (∀ row ∈ rows.rows, ∀ p ∈ places, (row.cell? p).isSome) ∧
    (rows.rows.map fun row => places.map fun p => (row.cell? p).map Cell.identity).Nodup

/-- A table whose columns and indexes have names of their own, whose columns have types, and whose
static rows fit. -/
structure CoherentTable (db : Database) (schema : String) (t : Table) : Prop where
  columnNames : (t.columns.map (·.name)).Nodup
  columnTypes : ∀ c ∈ t.columns, ∃ type, db.columnType schema t.name c.name = .ok type
  indexNames : (t.indexes.map (·.name)).Nodup
  rows : ∀ rows, t.rows = some rows → CoherentRows schema t rows

/-- A schema whose objects have names of their own. -/
structure CoherentSchema (db : Database) (s : Schema) : Prop where
  tableNames : (s.tables.map (·.name)).Nodup
  sequenceNames : (s.sequences.map (·.name)).Nodup
  typeNames : (s.types.map (·.name)).Nodup
  viewNames : (s.views.map (·.name)).Nodup
  signatures : (s.functions.map (·.signature)).Nodup
  tables : ∀ t ∈ s.tables, db.CoherentTable s.name t

/-- A definition as validation leaves it to the planner. -/
structure Coherent (db : Database) : Prop where
  schemaNames : (db.schemas.map (·.name)).Nodup
  schemas : ∀ s ∈ db.schemas, db.CoherentSchema s

end Database

/-! ### What each check establishes -/

theorem nodup_of_checkNames {schema : String} {what : Named} {names : List String} {u : Unit}
    (h : checkNames schema what names = .ok u) : names.Nodup := by
  rw [← List.map_id names, nodup_map_iff_split]
  intro front name back he
  have hc := checkEach_eq_ok.1 h front name back he
  simp only [bind_eq_ok, ensure_eq_ok, exists_const] at hc
  simpa using hc.2

/-- The check that no signature is repeated among the functions of a schema. -/
def checkSignatures (schema : String) (functions : List Routine) : Except SchemaError Unit :=
  checkEach (functions.map (·.signature)) fun before signature =>
    ensure (!before.contains signature)
      (.definition (schema ++ "." ++ signature) .ambiguousOverload)

theorem checkSignatures_eq_ok {schema : String} {functions : List Routine} {u : Unit} :
    checkSignatures schema functions = .ok u ↔ (functions.map (·.signature)).Nodup := by
  rw [← List.map_id (functions.map (·.signature)), nodup_map_iff_split, checkSignatures,
    checkEach_eq_ok]
  simp [ensure_eq_ok]

theorem nodup_of_checkIndex {address : String} {indexes : List Index} {u : Unit}
    (h : checkEach indexes (checkIndex address) = .ok u) : (indexes.map (·.name)).Nodup := by
  rw [nodup_map_iff_split]
  intro front i back he
  have hc := checkEach_eq_ok.1 h front i back he
  simp only [checkIndex, bind_eq_ok, ensure_eq_ok, exists_const, not_any_eq_true_iff] at hc
  simpa using hc.1

theorem of_checkColumn {db : Database} {schema : String} {t : Table} {before : List Column}
    {c : Column} {u : Unit} (h : checkColumn db schema t before c = .ok u) :
    c.name ∉ before.map (·.name) ∧ ∃ type, db.columnType schema t.name c.name = .ok type := by
  simp only [checkColumn, bind_eq_ok, ensure_eq_ok, exists_const, not_any_eq_true_iff] at h
  obtain ⟨_, hname, hrest⟩ := h
  refine ⟨hname, ?_⟩
  -- Whatever the column declares, its type is looked up last.
  split at hrest
  · obtain ⟨_, _, htype⟩ := bind_eq_ok.1 hrest
    exact discard_eq_ok.1 htype
  · obtain ⟨_, _, htype⟩ := bind_eq_ok.1 hrest
    exact discard_eq_ok.1 htype
  · obtain ⟨_, _, htype⟩ := bind_eq_ok.1 hrest
    exact discard_eq_ok.1 htype
  · exact discard_eq_ok.1 hrest

theorem checkColumns_eq_ok {db : Database} {schema : String} {t : Table} {u : Unit}
    (h : checkEach t.columns (checkColumn db schema t) = .ok u) :
    (t.columns.map (·.name)).Nodup ∧
      ∀ c ∈ t.columns, ∃ type, db.columnType schema t.name c.name = .ok type := by
  have hc := fun front c back he => of_checkColumn (checkEach_eq_ok.1 h front c back he)
  constructor
  · rw [nodup_map_iff_split]
    intro front c back he
    simpa using (hc front c back he).1
  · intro c hm
    obtain ⟨front, back, he⟩ := List.append_of_mem hm
    exact (hc front c back he).2

/-! ### Rows -/

theorem of_rowIdentity {address : String} {columns : List String} {places : List Nat} {n : Nat}
    {row : Row} {identity : List String}
    (h : rowIdentity address columns places n row = .ok identity) :
    (∀ p ∈ places, (row.cell? p).isSome) ∧
      places.map (fun p => (row.cell? p).map Cell.identity) = identity.map some := by
  rw [rowIdentity, mapM_eq_ok] at h
  induction h with
  | nil => simp
  | cons hp _ ih =>
    split at hp
    next cell hcell =>
      cases hp
      exact ⟨by simpa [hcell] using ih.1, by simpa [hcell] using ih.2⟩
    next => simp at hp

theorem of_checkRowsFrom {address : String} {columns : List String} {places : List Nat} :
    ∀ {rows : List Row} {n : Nat} {seen : List (List String)} {u : Unit},
      checkRowsFrom address columns places n seen rows = .ok u →
      (∀ row ∈ rows, ∀ p ∈ places, (row.cell? p).isSome) ∧
        ((rows.map fun row => places.map fun p => (row.cell? p).map Cell.identity)).Nodup ∧
        ∀ row ∈ rows, ∀ identity ∈ seen,
          places.map (fun p => (row.cell? p).map Cell.identity) ≠ identity.map some := by
  intro rows
  induction rows with
  | nil => intro n seen u _; simp
  | cons row rows ih =>
    intro n seen u h
    simp only [checkRowsFrom, bind_eq_ok, ensure_eq_ok] at h
    obtain ⟨_, _, identity, hid, _, hnew, hrest⟩ := h
    obtain ⟨hcells, hnodup, hseen⟩ := ih hrest
    obtain ⟨hcell, he⟩ := of_rowIdentity hid
    have hinj : Function.Injective (List.map (some : String → Option String)) :=
      List.map_injective_iff.2 fun _ _ he => Option.some.inj he
    refine ⟨?_, ?_, ?_⟩
    · intro r hr
      rcases List.mem_cons.1 hr with rfl | hr
      · exact hcell
      · exact hcells r hr
    · rw [List.map_cons, List.nodup_cons]
      refine ⟨fun hm => ?_, hnodup⟩
      obtain ⟨r, hr, hrow⟩ := List.mem_map.1 hm
      exact hseen r hr identity (by simp) (hrow.trans he)
    · intro r hr other hother heq
      rcases List.mem_cons.1 hr with rfl | hr
      · rw [he] at heq
        have : identity = other := hinj heq
        simp [this, hother] at hnew
      · exact hseen r hr other (List.mem_cons_of_mem _ hother) heq

theorem coherentRows_of_checkRows {db : Database} {schema : String} {t : Table} {rows : RowSet}
    {u : Unit} (h : checkRows db schema t rows = .ok u) : Database.CoherentRows schema t rows := by
  simp only [checkRows, bind_eq_ok, ensure_eq_ok] at h
  obtain ⟨_, hkey, _, _, places, hplaces, hrows⟩ := h
  obtain ⟨hcells, hnodup, _⟩ := of_checkRowsFrom hrows
  exact ⟨by simpa using hkey, places, hplaces, hcells, hnodup⟩

/-- What is looked at in each part of a table. -/
theorem of_checkTable {db : Database} {schema : String} {t : Table} {u : Unit}
    (h : checkTable db schema t = .ok u) :
    (∃ v, checkEach t.columns (checkColumn db schema t) = .ok v) ∧
      (∃ v, checkEach t.indexes (checkIndex (schema ++ "." ++ t.name)) = .ok v) ∧
      ∀ rows, t.rows = some rows → ∃ v, checkRows db schema t rows = .ok v := by
  unfold checkTable at h
  rcases hp : t.inherits with _ | parent <;> rcases hi : t.clusterIndex with _ | index <;>
    rcases hr : t.rows with _ | rows <;>
    simp only [hp, hi, hr, bind_eq_ok, ensure_eq_ok, exists_const, reduceCtorEq,
      Option.some.injEq, forall_eq', false_implies, implies_true, and_true] at h ⊢ <;>
    grind

/-- The table that a table inherits from is looked up. -/
theorem exists_parent_of_checkTable {db : Database} {schema : String} {t : Table} {u : Unit}
    (h : checkTable db schema t = .ok u) {target : TableRef} (hi : t.inherits = some target) :
    ∃ parent, db.table? (target.resolve schema).1 (target.resolve schema).2 = some parent := by
  simp only [checkTable, hi, bind_eq_ok, ensure_eq_ok] at h
  obtain ⟨_, hparent, -⟩ := h
  exact Option.isSome_iff_exists.1 hparent

theorem coherentTable_of_checkTable {db : Database} {schema : String} {t : Table} {u : Unit}
    (h : checkTable db schema t = .ok u) : db.CoherentTable schema t := by
  obtain ⟨⟨_, hcolumns⟩, ⟨_, hindexes⟩, hrows⟩ := of_checkTable h
  refine ⟨(checkColumns_eq_ok hcolumns).1, (checkColumns_eq_ok hcolumns).2,
    nodup_of_checkIndex hindexes, fun rows hr => ?_⟩
  obtain ⟨_, h⟩ := hrows rows hr
  exact coherentRows_of_checkRows h

theorem coherentSchema_of_checkSchema {db : Database} {s : Schema} {u : Unit}
    (h : checkSchema db s = .ok u) : db.CoherentSchema s := by
  simp only [checkSchema, bind_eq_ok] at h
  obtain ⟨_, htables, _, hsequences, _, htypes, _, hviews, _, hfunctions, _, _, hall⟩ := h
  exact ⟨nodup_of_checkNames htables, nodup_of_checkNames hsequences, nodup_of_checkNames htypes,
    nodup_of_checkNames hviews, checkSignatures_eq_ok.1 hfunctions,
    fun t ht => coherentTable_of_checkTable (checkAll_eq_ok.1 hall t ht)⟩

theorem schemas_of_validate {db : Database} {u : Unit} (h : db.validate = .ok u) :
    (db.schemas.map (·.name)).Nodup ∧ ∀ s ∈ db.schemas, ∃ v, checkSchema db s = .ok v := by
  have hc := checkEach_eq_ok.1 h
  simp only [bind_eq_ok, ensure_eq_ok, exists_const, not_any_eq_true_iff] at hc
  constructor
  · rw [nodup_map_iff_split]
    intro front s back he
    simpa using (hc front s back he).2.1
  · intro s hs
    obtain ⟨front, back, he⟩ := List.append_of_mem hs
    exact ⟨_, (hc front s back he).2.2⟩

/-- **A definition that passes validation is coherent.** -/
theorem Database.coherent_of_validate {db : Database} {u : Unit} (h : db.validate = .ok u) :
    db.Coherent := by
  obtain ⟨hnames, hschemas⟩ := schemas_of_validate h
  refine ⟨hnames, fun s hs => ?_⟩
  obtain ⟨_, hschema⟩ := hschemas s hs
  exact coherentSchema_of_checkSchema hschema

/-! ### Look-ups in a coherent definition -/

/-- The key under which a table is known, together with its schema. -/
abbrev itemKey (item : Schema × Table) : TableKey :=
  (item.1.name, item.2.name)

namespace Database

theorem mem_tables {db : Database} {s : Schema} {t : Table} :
    (s, t) ∈ db.tables ↔ s ∈ db.schemas ∧ t ∈ s.tables := by
  simp only [tables, List.mem_flatMap, List.mem_map, Prod.mk.injEq]
  constructor
  · rintro ⟨s', hs, t', ht, rfl, rfl⟩
    exact ⟨hs, ht⟩
  · rintro ⟨hs, ht⟩
    exact ⟨s, hs, t, ht, rfl, rfl⟩

theorem mem_tables_of_table? {db : Database} {schema table : String} {s : Schema} {t : Table}
    (h : db.table? schema table = some (s, t)) : (s, t) ∈ db.tables := by
  obtain ⟨hs, ht, _⟩ := of_table?_eq_some h
  exact mem_tables.2 ⟨hs, ht⟩

theorem checkTable_of_validate {db : Database} {u : Unit} (h : db.validate = .ok u)
    {item : Schema × Table} (hm : item ∈ db.tables) :
    ∃ v, checkTable db item.1.name item.2 = .ok v := by
  obtain ⟨hs, ht⟩ := mem_tables.1 hm
  obtain ⟨_, hschema⟩ := (schemas_of_validate h).2 item.1 hs
  simp only [checkSchema, bind_eq_ok] at hschema
  obtain ⟨_, _, _, _, _, _, _, _, _, _, _, _, hall⟩ := hschema
  exact ⟨_, checkAll_eq_ok.1 hall item.2 ht⟩

namespace Coherent

variable {db : Database}

theorem schema?_of_mem (h : db.Coherent) {s : Schema} (hs : s ∈ db.schemas) :
    db.schema? s.name = some s :=
  find?_eq_some_of_nodup h.schemaNames hs

theorem table?_of_mem (h : db.Coherent) {s : Schema} {t : Table} (hm : (s, t) ∈ db.tables) :
    db.table? s.name t.name = some (s, t) := by
  obtain ⟨hs, ht⟩ := mem_tables.1 hm
  have hfound : s.table? t.name = some t := find?_eq_some_of_nodup (h.schemas s hs).tableNames ht
  simp [table?, h.schema?_of_mem hs, hfound]

theorem table_of_mem (h : db.Coherent) {s : Schema} {t : Table} (hm : (s, t) ∈ db.tables) :
    db.CoherentTable s.name t := by
  obtain ⟨hs, ht⟩ := mem_tables.1 hm
  exact (h.schemas s hs).tables t ht

/-- **A look-up finds exactly the table of that key.** -/
theorem table?_eq_some_iff (h : db.Coherent) {schema table : String} {s : Schema} {t : Table} :
    db.table? schema table = some (s, t) ↔
      (s, t) ∈ db.tables ∧ s.name = schema ∧ t.name = table := by
  constructor
  · intro hf
    obtain ⟨_, _, hs, ht⟩ := of_table?_eq_some hf
    exact ⟨mem_tables_of_table? hf, hs, ht⟩
  · rintro ⟨hm, rfl, rfl⟩
    exact h.table?_of_mem hm

theorem eq_of_key_eq (h : db.Coherent) {a b : Schema × Table} (ha : a ∈ db.tables)
    (hb : b ∈ db.tables) (he : itemKey a = itemKey b) : a = b := by
  have hfa := h.table?_of_mem (s := a.1) (t := a.2) ha
  have hfb := h.table?_of_mem (s := b.1) (t := b.2) hb
  obtain ⟨hs, ht⟩ := Prod.mk.inj he
  rw [hs, ht, hfb] at hfa
  exact (Option.some.inj hfa).symm

end Coherent

end Database

end SchemaPlan
