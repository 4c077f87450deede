import SchemaPlan.Model.Encode
import SchemaPlan.Model.Read
import SchemaPlan.Proofs.Checks
import SchemaPlan.Proofs.JsonText

/-!
# Definitions read back

The canonical text of a definition is read as the definition it was written from.  The text of JSON
has been dealt with (`Json.parse_render`), so two things are left: what is written is plain, and what
is written is read back, each shown from the parts of a definition up to the whole.

Most records are written as objects with all their fields, so a reader finds every field under its
name (`Decode.slots_bind`).  Cells, rows and types have forms of their own.

The integers of a definition are those of 64 bits, as the format has no others: what has been read
fits, and what fits is read back.
-/

namespace SchemaPlan

open Json (Plain field)

/-! ### Integers -/

/-- The integers of the format have 64 bits. -/
def FitsInteger (n : Int) : Prop :=
  -9223372036854775808 ≤ n ∧ n ≤ 9223372036854775807

/-- Every first value of a column has 64 bits. -/
def Table.Fits (t : Table) : Prop :=
  ∀ c ∈ t.columns, ∀ n ∈ c.serialStart, FitsInteger n

/-- Every number of a sequence has 64 bits. -/
structure Sequence.Fits (q : Sequence) : Prop where
  start : ∀ n ∈ q.start, FitsInteger n
  increment : ∀ n ∈ q.increment, FitsInteger n
  minValue : ∀ n ∈ q.minValue, FitsInteger n
  maxValue : ∀ n ∈ q.maxValue, FitsInteger n
  cache : ∀ n ∈ q.cache, FitsInteger n

/-- Every integer of a definition has 64 bits. -/
structure Database.Fits (db : Database) : Prop where
  tables : ∀ s ∈ db.schemas, ∀ t ∈ s.tables, t.Fits
  sequences : ∀ s ∈ db.schemas, ∀ q ∈ s.sequences, q.Fits

/-! ### What is written is plain -/

section Plain

variable {depth : Nat}

@[simp] theorem plain_null : Plain depth .null := by
  cases depth <;> trivial

@[simp] theorem plain_bool (b : Bool) : Plain depth (.bool b) := by
  cases depth <;> trivial

@[simp] theorem plain_text (s : String) : Plain depth (Json.text s) := by
  cases depth <;> rfl

@[simp] theorem plain_obj_iff {fields : List (Option String × Json)} :
    Plain (depth + 1) (.obj fields) ↔ ∀ f ∈ fields, f.1.isSome ∧ Plain depth f.2 :=
  Iff.rfl

@[simp] theorem plain_list_iff {α : Type} {write : α → Json} {xs : List α} :
    Plain (depth + 1) (Encode.list write xs) ↔ ∀ x ∈ xs, Plain depth (write x) := by
  simp only [Encode.list, Plain, List.forall_mem_map]

@[simp] theorem plain_optional_iff {α : Type} {write : α → Json} {x : Option α} :
    Plain depth (Encode.optional write x) ↔ ∀ y ∈ x, Plain depth (write y) := by
  cases x <;> simp [Encode.optional]

@[simp] theorem plain_text? (s : Option String) : Plain depth (Encode.text? s) := by
  simp [Encode.text?]

@[simp] theorem plain_texts (xs : List String) : Plain (depth + 1) (Encode.texts xs) := by
  simp [Encode.texts]

@[simp] theorem plain_referenceAction (a : ReferenceAction) :
    Plain depth (Encode.referenceAction a) := by
  cases a <;> exact plain_text _

@[simp] theorem plain_constraintKind (k : ConstraintKind) :
    Plain depth (Encode.constraintKind k) := by
  cases k <;> exact plain_text _

@[simp] theorem plain_volatility (v : Volatility) : Plain depth (Encode.volatility v) := by
  cases v <;> exact plain_text _

@[simp] theorem plain_triggerTiming (t : TriggerTiming) :
    Plain depth (Encode.triggerTiming t) := by
  cases t <;> exact plain_text _

@[simp] theorem plain_triggerEvent (e : TriggerEvent) : Plain depth (Encode.triggerEvent e) := by
  cases e <;> exact plain_text _

@[simp] theorem plain_triggerLevel (l : TriggerLevel) : Plain depth (Encode.triggerLevel l) := by
  cases l <;> exact plain_text _

@[simp] theorem plain_stage (s : Stage) : Plain depth (Encode.stage s) :=
  plain_text _

theorem plain_integer? {n : Option Int} (h : ∀ m ∈ n, FitsInteger m) :
    Plain depth (Encode.integer? n) := by
  refine plain_optional_iff.2 fun m hm => ?_
  obtain ⟨hlow, hhigh⟩ := h m hm
  have hlt : m.natAbs < 1 <<< 64 := by omega
  cases depth <;> exact hlt

@[simp] theorem plain_grant (g : Grant) : Plain (depth + 2) (Encode.grant g) := by
  simp [Encode.grant]

@[simp] theorem plain_tableRef (r : TableRef) : Plain (depth + 1) (Encode.tableRef r) := by
  simp [Encode.tableRef]

@[simp] theorem plain_foreignKey (k : ForeignKey) : Plain (depth + 1) (Encode.foreignKey k) := by
  simp [Encode.foreignKey]

theorem plain_column {c : Column} (h : ∀ n ∈ c.serialStart, FitsInteger n) :
    Plain (depth + 2) (Encode.column c) := by
  simp [Encode.column, plain_integer? h]

@[simp] theorem plain_constraint (c : ConstraintDecl) :
    Plain (depth + 2) (Encode.constraint c) := by
  simp [Encode.constraint]

@[simp] theorem plain_index (i : Index) : Plain (depth + 2) (Encode.index i) := by
  simp [Encode.index]

@[simp] theorem plain_cell (c : Cell) : Plain (depth + 1) (Encode.cell c) := by
  unfold Encode.cell
  split <;> simp

@[simp] theorem plain_row (r : Row) : Plain (depth + 3) (Encode.row r) := by
  unfold Encode.row
  split <;> simp

@[simp] theorem plain_rowSet (r : RowSet) : Plain (depth + 5) (Encode.rowSet r) := by
  simp [Encode.rowSet]

theorem plain_table {t : Table} (h : t.Fits) : Plain (depth + 6) (Encode.table t) := by
  have hcolumns : ∀ c ∈ t.columns, Plain (depth + 4) (Encode.column c) := fun c hc =>
    plain_column (h c hc)
  simpa [Encode.table] using hcolumns

theorem plain_sequence {q : Sequence} (h : q.Fits) : Plain (depth + 4) (Encode.sequence q) := by
  simp [Encode.sequence, plain_integer? h.start, plain_integer? h.increment,
    plain_integer? h.minValue, plain_integer? h.maxValue, plain_integer? h.cache]

@[simp] theorem plain_typeField (f : TypeField) : Plain (depth + 1) (Encode.typeField f) := by
  simp [Encode.typeField]

@[simp] theorem plain_domainCheck (c : DomainCheck) :
    Plain (depth + 1) (Encode.domainCheck c) := by
  simp [Encode.domainCheck]

@[simp] theorem plain_typeDef (t : TypeDef) : Plain (depth + 3) (Encode.typeDef t) := by
  unfold Encode.typeDef Encode.typeBody
  split <;> simp

@[simp] theorem plain_view (v : View) : Plain (depth + 4) (Encode.view v) := by
  simp [Encode.view]

@[simp] theorem plain_argument (a : Argument) : Plain (depth + 1) (Encode.argument a) := by
  simp [Encode.argument]

@[simp] theorem plain_routine (f : Routine) : Plain (depth + 4) (Encode.routine f) := by
  simp [Encode.routine]

@[simp] theorem plain_trigger (t : Trigger) : Plain (depth + 2) (Encode.trigger t) := by
  simp [Encode.trigger]

theorem plain_schema {s : Schema} (htables : ∀ t ∈ s.tables, t.Fits)
    (hsequences : ∀ q ∈ s.sequences, q.Fits) : Plain (depth + 8) (Encode.schema s) := by
  have htables : ∀ t ∈ s.tables, Plain (depth + 6) (Encode.table t) := fun t ht =>
    plain_table (htables t ht)
  have hsequences : ∀ q ∈ s.sequences, Plain (depth + 6) (Encode.sequence q) := fun q hq =>
    plain_sequence (hsequences q hq)
  simpa [Encode.schema] using ⟨htables, hsequences⟩

@[simp] theorem plain_customSql (c : CustomSql) : Plain (depth + 1) (Encode.customSql c) := by
  simp [Encode.customSql]

/-- **What is written of a definition is plain.** -/
theorem plain_database {db : Database} (h : db.Fits) :
    Plain (depth + 10) (Encode.database db) := by
  have hschemas : ∀ s ∈ db.schemas, Plain (depth + 8) (Encode.schema s) := fun s hs =>
    plain_schema (h.tables s hs) (h.sequences s hs)
  simpa [Encode.database] using hschemas

end Plain

/-! ### Fields -/

namespace Decode

/-- A field given once is found by its name. -/
theorem filter_eq_of_nodup {fields : List (Option String × Json)} (h : (fields.map (·.1)).Nodup)
    (name : Option String) : fields.filter (·.1 == name) =
      ((fields.lookup name).map fun j => (name, j)).toList := by
  induction fields with
  | nil => rfl
  | cons f fields ih =>
    obtain ⟨other, j⟩ := f
    obtain ⟨hnot, hfields⟩ := List.nodup_cons.1 h
    rw [List.filter_cons]
    by_cases he : other = name
    · subst he
      have hnone : fields.filter (·.1 == other) = [] := by
        refine List.filter_eq_nil_iff.2 fun f hf => ?_
        rw [beq_iff_eq]
        exact fun he => hnot (List.mem_map.2 ⟨f, hf, he⟩)
      simp [hnone]
    · have hne : (name == other) = false := by simpa using Ne.symm he
      rw [if_neg (by simpa using he), ih hfields, List.lookup_cons, hne]

/-- The fields of an object are found by their names, if no name comes twice. -/
theorem objectSlots_eq_lookup {names : List String} {fields : List (Option String × Json)}
    (hsome : ∀ f ∈ fields, f.1.isSome) (h : (fields.map (·.1)).Nodup) :
    objectSlots names fields = some (names.map fun name => fields.lookup (some name)) := by
  unfold objectSlots
  rw [if_pos (List.all_eq_true.2 hsome)]
  induction names with
  | nil => rfl
  | cons name names ih =>
    rw [List.mapM_cons, ih, filter_eq_of_nodup h, List.map_cons]
    cases hlookup : fields.lookup (some name) <;> rfl

/-- The fields of an object with the names asked for. -/
theorem objectSlots_eq {names : List String} {fields : List (Option String × Json)}
    (hnames : fields.map (·.1) = names.map some) (h : names.Nodup) :
    objectSlots names fields = some (fields.map fun f => some f.2) := by
  have hnodup : (fields.map (·.1)).Nodup := by
    rw [hnames]
    exact h.map fun _ _ => Option.some.inj
  have hsome : ∀ f ∈ fields, f.1.isSome := by
    intro f hf
    have hm : f.1 ∈ names.map some := hnames ▸ List.mem_map.2 ⟨f, hf, rfl⟩
    obtain ⟨name, -, he⟩ := List.mem_map.1 hm
    rw [← he]
    rfl
  have hlookups : fields.map (fun f => fields.lookup f.1) = fields.map fun f => some f.2 :=
    List.map_congr_left fun f hf => lookup_eq_some_of_nodup hnodup hf
  rw [objectSlots_eq_lookup hsome hnodup, ← hlookups]
  have hfound := congrArg (List.map fun name => fields.lookup name) hnames
  rw [List.map_map, List.map_map] at hfound
  exact congrArg some hfound.symm

/-- A record written as an object with all its fields. -/
theorem slots_bind {α : Type} {names : List String} {fields : List (Option String × Json)}
    {k : List (Option Json) → Option α} (hnames : fields.map (·.1) = names.map some)
    (h : names.Nodup) : (slots names (.obj fields) >>= k) = k (fields.map fun f => some f.2) := by
  rw [slots, objectSlots_eq hnames h]
  rfl

@[simp] theorem required_some {α : Type} (read : Json → Option α) (j : Json) :
    required read (some j) = read j :=
  rfl

@[simp] theorem orElse_some {α : Type} (default : α) (read : Json → Option α) (j : Json) :
    orElse default read (some j) = read j :=
  rfl

/-- What null is not read as may be missing. -/
theorem optional_optional {α : Type} {read : Json → Option α} {write : α → Json} {x : Option α}
    (hnull : read .null = none) (h : ∀ y ∈ x, read (write y) = some y) :
    optional read (some (Encode.optional write x)) = some x := by
  cases x with
  | none => rfl
  | some x =>
    have hread : read (write x) = some x := h x rfl
    have hwritten : Encode.optional write (some x) = write x := rfl
    rw [hwritten]
    unfold optional
    split
    next he => cases he
    next he =>
      rw [Option.some.inj he, hnull] at hread
      cases hread
    next j _ he =>
      rw [← Option.some.inj he, hread]
      rfl

@[simp] theorem list_list {α : Type} {read : Json → Option α} {write : α → Json} {xs : List α}
    (h : ∀ x ∈ xs, read (write x) = some x) : list read (Encode.list write xs) = some xs := by
  have hread : ∀ xs : List α, (∀ x ∈ xs, read (write x) = some x) →
      (xs.map write).mapM read = some xs := by
    intro xs h
    induction xs with
    | nil => rfl
    | cons x xs ih =>
      obtain ⟨hx, hxs⟩ := List.forall_mem_cons.1 h
      rw [List.map_cons, List.mapM_cons, hx, ih hxs]
      rfl
  exact hread xs h

/-! ### Single values -/

@[simp] theorem text_text (s : String) : text (Json.text s) = some s :=
  rfl

@[simp] theorem bool_bool (b : Bool) : bool (.bool b) = some b :=
  rfl

@[simp] theorem list_texts (xs : List String) : list text (Encode.texts xs) = some xs :=
  list_list fun _ _ => rfl

@[simp] theorem optional_text? (s : Option String) :
    optional text (some (Encode.text? s)) = some s :=
  optional_optional rfl fun _ _ => rfl

theorem optional_integer? {n : Option Int} (h : ∀ m ∈ n, FitsInteger m) :
    optional integer (some (Encode.integer? n)) = some n := by
  refine optional_optional rfl fun m hm => ?_
  obtain ⟨hlow, hhigh⟩ := h m hm
  rw [integer, if_pos]
  rw [Bool.and_eq_true, decide_eq_true_eq, decide_eq_true_eq]
  exact ⟨hlow, hhigh⟩

@[simp] theorem referenceAction_referenceAction (a : ReferenceAction) :
    referenceAction (Encode.referenceAction a) = some a := by
  cases a <;> rfl

@[simp] theorem optional_referenceAction (a : Option ReferenceAction) :
    optional referenceAction (some (Encode.optional Encode.referenceAction a)) = some a :=
  optional_optional rfl fun a _ => referenceAction_referenceAction a

@[simp] theorem constraintKind_constraintKind (k : ConstraintKind) :
    constraintKind (Encode.constraintKind k) = some k := by
  cases k <;> rfl

@[simp] theorem volatility_volatility (v : Volatility) :
    volatility (Encode.volatility v) = some v := by
  cases v <;> rfl

@[simp] theorem optional_volatility (v : Option Volatility) :
    optional volatility (some (Encode.optional Encode.volatility v)) = some v :=
  optional_optional rfl fun v _ => volatility_volatility v

@[simp] theorem triggerTiming_triggerTiming (t : TriggerTiming) :
    triggerTiming (Encode.triggerTiming t) = some t := by
  cases t <;> rfl

@[simp] theorem triggerEvent_triggerEvent (e : TriggerEvent) :
    triggerEvent (Encode.triggerEvent e) = some e := by
  cases e <;> rfl

@[simp] theorem triggerLevel_triggerLevel (l : TriggerLevel) :
    triggerLevel (Encode.triggerLevel l) = some l := by
  cases l <;> rfl

@[simp] theorem stage_stage (s : Stage) : stage (Encode.stage s) = some s := by
  cases s <;> rfl

/-! ### Records -/

@[simp] theorem grant_grant (g : Grant) : grant (Encode.grant g) = some g := by
  rw [grant, Encode.grant, slots_bind rfl (by decide)]
  simp

@[simp] theorem tableRef_tableRef (r : TableRef) : tableRef (Encode.tableRef r) = some r := by
  rw [tableRef, Encode.tableRef, slots_bind rfl (by decide)]
  simp

@[simp] theorem optional_tableRef (r : Option TableRef) :
    optional tableRef (some (Encode.optional Encode.tableRef r)) = some r :=
  optional_optional rfl fun r _ => tableRef_tableRef r

@[simp] theorem foreignKey_foreignKey (k : ForeignKey) :
    foreignKey (Encode.foreignKey k) = some k := by
  rw [foreignKey, Encode.foreignKey, slots_bind rfl (by decide)]
  simp

@[simp] theorem optional_foreignKey (k : Option ForeignKey) :
    optional foreignKey (some (Encode.optional Encode.foreignKey k)) = some k :=
  optional_optional rfl fun k _ => foreignKey_foreignKey k

theorem column_column {c : Column} (h : ∀ n ∈ c.serialStart, FitsInteger n) :
    column (Encode.column c) = some c := by
  rw [column, Encode.column, slots_bind rfl (by decide)]
  simp [optional_integer? h]

@[simp] theorem constraint_constraint (c : ConstraintDecl) :
    constraint (Encode.constraint c) = some c := by
  rw [constraint, Encode.constraint, slots_bind rfl (by decide)]
  simp

@[simp] theorem index_index (i : Index) : index (Encode.index i) = some i := by
  rw [index, Encode.index, slots_bind rfl (by decide)]
  simp

/-- The two forms of a cell.  A cell that is null is written as an object, not as null. -/
theorem cell_forms (c : Cell) : (∃ v, c = { value := some v } ∧ Encode.cell c = Json.text v) ∨
    Encode.cell c = .obj [field "value" (Encode.text? c.value), field "null" (.bool c.null),
      field "empty" (.bool c.empty), field "sql" (.bool c.sql)] := by
  unfold Encode.cell
  split
  next v => exact .inl ⟨v, rfl, rfl⟩
  next => exact .inr rfl

@[simp] theorem cell_cell (c : Cell) : cell (Encode.cell c) = some c := by
  have hsound : (Encode.cell c).isSound = true :=
    (plain_cell c : Plain 1 (Encode.cell c)).isSound
  unfold cell
  rw [if_neg (by simp [hsound])]
  obtain ⟨v, rfl, hform⟩ | hform := cell_forms c
  · rw [hform]
  · rw [hform]
    dsimp only
    rw [objectSlots_eq rfl (by decide)]
    simp

/-- A row in either form. -/
@[simp] theorem row_row (r : Row) : row (Encode.row r) = some r := by
  have hsound : (Encode.row r).isSound = true :=
    (plain_row r : Plain 3 (Encode.row r)).isSound
  unfold row
  rw [if_neg (by simp [hsound])]
  obtain ⟨cells, delete⟩ := r
  cases delete with
  | false =>
    have hcells : (cells.map Encode.cell).mapM cell = some cells :=
      list_list fun c _ => cell_cell c
    change ((cells.map Encode.cell).mapM cell).map _ = _
    rw [hcells]
    rfl
  | true =>
    change (objectSlots ["cells", "delete"] _ >>= _) = _
    rw [objectSlots_eq rfl (by decide)]
    simp

@[simp] theorem rowSet_rowSet (r : RowSet) : rowSet (Encode.rowSet r) = some r := by
  rw [rowSet, Encode.rowSet, slots_bind rfl (by decide)]
  simp

@[simp] theorem optional_rowSet (r : Option RowSet) :
    optional rowSet (some (Encode.optional Encode.rowSet r)) = some r :=
  optional_optional rfl fun r _ => rowSet_rowSet r

theorem table_table {t : Table} (h : t.Fits) : table (Encode.table t) = some t := by
  have hcolumns : ∀ c ∈ t.columns, column (Encode.column c) = some c := fun c hc =>
    column_column (h c hc)
  rw [table, Encode.table, slots_bind rfl (by decide)]
  simp [list_list hcolumns]

theorem sequence_sequence {q : Sequence} (h : q.Fits) : sequence (Encode.sequence q) = some q := by
  rw [sequence, Encode.sequence, slots_bind rfl (by decide)]
  simp [optional_integer? h.start, optional_integer? h.increment, optional_integer? h.minValue,
    optional_integer? h.maxValue, optional_integer? h.cache]

@[simp] theorem typeField_typeField (f : TypeField) :
    typeField (Encode.typeField f) = some f := by
  rw [typeField, Encode.typeField, slots_bind rfl (by decide)]
  simp

@[simp] theorem domainCheck_domainCheck (c : DomainCheck) :
    domainCheck (Encode.domainCheck c) = some c := by
  rw [domainCheck, Encode.domainCheck, slots_bind rfl (by decide)]
  simp

@[simp] theorem view_view (v : View) : view (Encode.view v) = some v := by
  rw [view, Encode.view, slots_bind rfl (by decide)]
  simp

@[simp] theorem argument_argument (a : Argument) : argument (Encode.argument a) = some a := by
  rw [argument, Encode.argument, slots_bind rfl (by decide)]
  simp

@[simp] theorem routine_routine (f : Routine) : routine (Encode.routine f) = some f := by
  rw [routine, Encode.routine, slots_bind rfl (by decide)]
  simp

@[simp] theorem trigger_trigger (t : Trigger) : trigger (Encode.trigger t) = some t := by
  rw [trigger, Encode.trigger, slots_bind rfl (by decide)]
  simp

/-- A type, whose own fields stand in front of those of its kind. -/
@[simp] theorem typeDef_typeDef (t : TypeDef) : typeDef (Encode.typeDef t) = some t := by
  obtain ⟨name, owner, body⟩ := t
  have hplain : ∀ f ∈ [field "name" (Json.text name), field "owner" (Encode.text? owner)] ++
      Encode.typeBody body, f.1.isSome ∧ Plain 2 f.2 :=
    plain_typeDef ⟨name, owner, body⟩
  have hslots : ∀ names, objectSlots names ([field "name" (Json.text name),
      field "owner" (Encode.text? owner)] ++ Encode.typeBody body) =
        some (names.map fun n => List.lookup (some n) ([field "name" (Json.text name),
          field "owner" (Encode.text? owner)] ++ Encode.typeBody body)) := by
    intro names
    refine objectSlots_eq_lookup (fun f hf => (hplain f hf).1) ?_
    cases body <;> simp [Encode.typeBody]
  have hsound : Json.areFieldsSound (Encode.typeBody body) = true := by
    refine Json.areFieldsSound_iff.2 fun f hf => ?_
    obtain ⟨hname, hvalue⟩ := hplain f (List.mem_append_right _ hf)
    exact ⟨hname, hvalue.isSound⟩
  unfold typeDef Encode.typeDef
  cases body <;>
    simp only [Encode.typeBody, List.cons_append, List.nil_append] at hslots hsound ⊢ <;>
    simp [hslots, hsound, typeKind, typeBody, List.lookup_cons]

theorem schema_schema {s : Schema} (htables : ∀ t ∈ s.tables, t.Fits)
    (hsequences : ∀ q ∈ s.sequences, q.Fits) : schema (Encode.schema s) = some s := by
  have htables : ∀ t ∈ s.tables, table (Encode.table t) = some t := fun t ht =>
    table_table (htables t ht)
  have hsequences : ∀ q ∈ s.sequences, sequence (Encode.sequence q) = some q := fun q hq =>
    sequence_sequence (hsequences q hq)
  rw [schema, Encode.schema, slots_bind rfl (by decide)]
  simp [list_list htables, list_list hsequences]

@[simp] theorem customSql_customSql (c : CustomSql) :
    customSql (Encode.customSql c) = some c := by
  rw [customSql, Encode.customSql, slots_bind rfl (by decide)]
  simp

/-- **What is written of a definition is read as the definition.** -/
theorem database_database {db : Database} (h : db.Fits) :
    database (Encode.database db) = some db := by
  have hschemas : ∀ s ∈ db.schemas, schema (Encode.schema s) = some s := fun s hs =>
    schema_schema (h.tables s hs) (h.sequences s hs)
  rw [database, Encode.database, slots_bind rfl (by decide)]
  simp [list_list hschemas]

/-! ### What has been read -/

theorem exists_of_mem_list {α : Type} {read : Json → Option α} {j : Json} {xs : List α}
    (h : list read j = some xs) {x : α} (hx : x ∈ xs) : ∃ j, read j = some x := by
  cases j with
  | arr items =>
    have hitems : ∀ {items : List Json} {xs : List α}, items.mapM read = some xs →
        ∀ x ∈ xs, ∃ j, read j = some x := by
      intro items
      induction items with
      | nil =>
        rintro xs h x hx
        cases h
        cases hx
      | cons j js ih =>
        intro xs h x hx
        rw [List.mapM_cons] at h
        obtain ⟨y, hy, h⟩ := Option.bind_eq_some_iff.1 h
        obtain ⟨ys, hys, h⟩ := Option.bind_eq_some_iff.1 h
        cases h
        rcases List.mem_cons.1 hx with rfl | hx
        · exact ⟨j, hy⟩
        · exact ih hys x hx
    exact hitems h x hx
  | _ => cases h

theorem exists_of_mem_orElse {α : Type} {read : Json → Option α} {slot : Option Json}
    {xs : List α} (h : orElse [] (list read) slot = some xs) {x : α} (hx : x ∈ xs) :
    ∃ j, read j = some x := by
  cases slot with
  | none =>
    cases h
    cases hx
  | some j => exact exists_of_mem_list h hx

theorem fits_of_integer {slot : Option Json} {n : Option Int}
    (h : optional integer slot = some n) : ∀ m ∈ n, FitsInteger m := by
  rintro m rfl
  have hread : ∀ j, integer j = some m → FitsInteger m := by
    intro j hj
    unfold integer at hj
    split at hj
    · split at hj
      next hfits =>
        cases hj
        rw [Bool.and_eq_true, decide_eq_true_eq, decide_eq_true_eq] at hfits
        exact hfits
      next => cases hj
    · cases hj
  unfold optional at h
  split at h
  · cases h
  · cases h
  next _ j _ =>
    obtain ⟨k, hk, he⟩ := Option.map_eq_some_iff.1 h
    exact hread j (by rw [hk, he])

theorem fits_of_column {j : Json} {c : Column} (h : column j = some c) :
    ∀ n ∈ c.serialStart, FitsInteger n := by
  unfold column at h
  obtain ⟨slots, -, h⟩ := Option.bind_eq_some_iff.1 h
  split at h
  · iterate 9 obtain ⟨_, -, h⟩ := Option.bind_eq_some_iff.1 h
    obtain ⟨n, hn, ⟨⟩⟩ := Option.bind_eq_some_iff.1 h
    exact fits_of_integer hn
  · cases h

theorem fits_of_table {j : Json} {t : Table} (h : table j = some t) : t.Fits := by
  unfold table at h
  obtain ⟨slots, -, h⟩ := Option.bind_eq_some_iff.1 h
  split at h
  · iterate 9 obtain ⟨_, -, h⟩ := Option.bind_eq_some_iff.1 h
    obtain ⟨columns, hcolumns, h⟩ := Option.bind_eq_some_iff.1 h
    iterate 4 obtain ⟨_, -, h⟩ := Option.bind_eq_some_iff.1 h
    cases h
    intro c hc
    obtain ⟨j, hj⟩ := exists_of_mem_orElse hcolumns hc
    exact fits_of_column hj
  · cases h

theorem fits_of_sequence {j : Json} {q : Sequence} (h : sequence j = some q) : q.Fits := by
  unfold sequence at h
  obtain ⟨slots, -, h⟩ := Option.bind_eq_some_iff.1 h
  split at h
  · iterate 2 obtain ⟨_, -, h⟩ := Option.bind_eq_some_iff.1 h
    obtain ⟨start, hstart, h⟩ := Option.bind_eq_some_iff.1 h
    obtain ⟨increment, hincrement, h⟩ := Option.bind_eq_some_iff.1 h
    obtain ⟨minValue, hminValue, h⟩ := Option.bind_eq_some_iff.1 h
    obtain ⟨maxValue, hmaxValue, h⟩ := Option.bind_eq_some_iff.1 h
    obtain ⟨cache, hcache, h⟩ := Option.bind_eq_some_iff.1 h
    iterate 3 obtain ⟨_, -, h⟩ := Option.bind_eq_some_iff.1 h
    cases h
    exact ⟨fits_of_integer hstart, fits_of_integer hincrement, fits_of_integer hminValue,
      fits_of_integer hmaxValue, fits_of_integer hcache⟩
  · cases h

theorem fits_of_schema {j : Json} {s : Schema} (h : schema j = some s) :
    (∀ t ∈ s.tables, t.Fits) ∧ ∀ q ∈ s.sequences, q.Fits := by
  unfold schema at h
  obtain ⟨slots, -, h⟩ := Option.bind_eq_some_iff.1 h
  split at h
  · iterate 4 obtain ⟨_, -, h⟩ := Option.bind_eq_some_iff.1 h
    obtain ⟨tables, htables, h⟩ := Option.bind_eq_some_iff.1 h
    obtain ⟨sequences, hsequences, h⟩ := Option.bind_eq_some_iff.1 h
    iterate 4 obtain ⟨_, -, h⟩ := Option.bind_eq_some_iff.1 h
    cases h
    refine ⟨fun t ht => ?_, fun q hq => ?_⟩
    · obtain ⟨j, hj⟩ := exists_of_mem_orElse htables ht
      exact fits_of_table hj
    · obtain ⟨j, hj⟩ := exists_of_mem_orElse hsequences hq
      exact fits_of_sequence hj
  · cases h

theorem fits_of_database {j : Json} {db : Database} (h : database j = some db) : db.Fits := by
  unfold database at h
  obtain ⟨slots, -, h⟩ := Option.bind_eq_some_iff.1 h
  split at h
  · obtain ⟨schemas, hschemas, h⟩ := Option.bind_eq_some_iff.1 h
    obtain ⟨_, -, ⟨⟩⟩ := Option.bind_eq_some_iff.1 h
    refine ⟨fun s hs => ?_, fun s hs => ?_⟩
    all_goals obtain ⟨j, hj⟩ := exists_of_mem_orElse hschemas hs
    · exact (fits_of_schema hj).1
    · exact (fits_of_schema hj).2
  · cases h

end Decode

/-! ### The whole text -/

namespace Database

theorem read_eq_ok_iff {text : String} {db : Database} :
    read text = .ok db ↔ ∃ j, Json.parse text = .ok j ∧ Decode.database j = some db := by
  unfold read
  split
  next h => simp [h]
  next j h =>
    simp only [h, Except.ok.injEq, exists_eq_left']
    split <;> simp_all

/-- What has been read of a definition fits. -/
theorem fits_of_read {text : String} {db : Database} (h : read text = .ok db) : db.Fits := by
  obtain ⟨j, -, hj⟩ := read_eq_ok_iff.1 h
  exact Decode.fits_of_database hj

theorem read_canonicalText {db : Database} (h : db.Fits) : read db.canonicalText = .ok db := by
  have hplain : Plain 10 (Encode.database db) := plain_database h
  exact read_eq_ok_iff.2
    ⟨_, Json.parse_render hplain (by decide), Decode.database_database h⟩

/-- **The canonical text of a definition reads back as the definition.**  So no two definitions have
one text, and writing out what has been read of it gives the text again. -/
theorem canonicalText_reloads {db : Database} (h : db.Fits) :
    read db.canonicalText = .ok db ∧
      (∀ other : Database, other.Fits → other.canonicalText = db.canonicalText → other = db) ∧
      ∀ other, read db.canonicalText = .ok other → other.canonicalText = db.canonicalText := by
  have hread := read_canonicalText h
  refine ⟨hread, fun other hother he => ?_, fun other hother => ?_⟩
  · have hboth := read_canonicalText hother
    rw [he, hread] at hboth
    exact (Except.ok.inj hboth).symm
  · rw [hread] at hother
    rw [Except.ok.inj hother]

end Database

/-! ### A definition of every form -/

/-- Counters and notes with the least and the greatest integers, rows and cells in every form, types
of every kind and texts that have to be escaped. -/
def Ledger.tree : Database where
  schemas := [{
    name := "ledger"
    description := some "quotes \x22, slashes \\, tabs \t, \x01 and é, 漢, 😀"
    tables := [{
      name := "notes"
      primaryKey := ["id"]
      columns := [
        { name := "id", dataType := some "bigserial", nullable := false,
          serialStart := some (-9223372036854775808) },
        { name := "text", dataType := some "text" }]
      rows := some {
        columns := ["id", "text"]
        rows := [
          { cells := [{ value := some "1" }, { null := true }] },
          { cells := [{ value := some "nextval('tickets')", sql := true }, { empty := true }] },
          { cells := [{ value := some "", null := true, empty := true, sql := true }, {}]
            delete := true }] } }]
    sequences := [{
      name := "tickets", start := some 0, increment := some (-1)
      minValue := some (-9223372036854775808), maxValue := some 9223372036854775807 }]
    types := [
      { name := "mood", body := .enum ["good", "null", ""] },
      { name := "pair", owner := some "root", body := .composite [⟨"left", "int"⟩] },
      { name := "short", body := .domain "text" (some "''") false [⟨"short", "length(VALUE) < 9"⟩] }] }]

theorem canonicalText_reloads_of_ledger :
    Ledger.tree.Fits ∧ Database.read Ledger.tree.canonicalText = .ok Ledger.tree := by
  have h : Ledger.tree.Fits := by
    refine ⟨?_, ?_⟩
    · simp [Ledger.tree, Table.Fits, FitsInteger]
    · simp only [Ledger.tree, List.forall_mem_singleton]
      constructor <;> simp [FitsInteger]
  exact ⟨h, (Database.canonicalText_reloads h).1⟩

end SchemaPlan
