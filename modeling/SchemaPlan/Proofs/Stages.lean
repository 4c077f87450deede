import SchemaPlan.Proofs.Layout

/-!
# Every operation in its stage

Much of what makes an upgrade safe is that nothing is taken away before the third stage.  `Op.places`
says for every operation where in a draft it may be planned, and `Op.stages` in which stages of the
plan; that a column demands values and that a counter is moved past its rows are told apart from the
other changes to columns and counters.

For most passes the kinds of their operations (`Kinds.lean`) settle the matter (`inPlace_of_within`).
The passes over types, columns and rows mix early and late changes of one kind, so they are followed
through once more.  `exists_drafted` puts the passes together, and `plan_keeps_stages` adds what is
said about the order inside the first and the third stage.
-/

namespace SchemaPlan

/-! ### Where operations belong -/

/-- The stage that a place belongs to. -/
def Place.stage : Place → Stage
  | .viewDrops | .stage1 | .stage1Tail => .stage1
  | .stage2 => .stage2
  | .stage3 | .viewCreates => .stage3
  | .stage4 => .stage4

/-- The places at which operations of a kind may be planned.  None are given for the kinds of which
it matters what exactly is changed. -/
def OpKind.places : OpKind → List Place
  | .dropView => [.viewDrops]
  | .createSchema | .createType | .addEnumValue | .alterDomain | .createSequence
  | .createFunction | .createTable | .setTableSchema | .renameTable | .addColumn | .renameColumn
  | .addConstraint | .dropConstraint | .createIndex | .dropIndex | .setCluster | .createTrigger
  | .dropTrigger => [.stage1]
  | .backfillColumn => [.stage1Tail]
  | .alterSequence => [.stage1, .stage1Tail]
  | .insertRow | .updateRow | .deleteRow => [.stage2]
  | .comment | .dropTable | .dropColumn | .dropSequence | .dropSchema => [.stage3]
  | .dropType | .dropFunction => [.stage1, .stage3]
  | .createView => [.viewCreates]
  | .alterOwner | .grant | .revoke | .setComment => [.stage1, .viewCreates]
  | .customSql | .alterColumn | .setSerialValue => []

/-- The places at which an operation may be planned; a statement of the definition's own is not
planned at any. -/
def Op.places : Op → List Place
  | .alterColumn _ _ .setNotNull => [.stage3]
  | .alterColumn .. => [.stage1]
  | .setSerialValue _ _ (.start _) => [.stage1]
  | .setSerialValue _ _ .afterMax => [.stage2]
  | op => op.kind.places

/-- The stages in which an operation may be planned. -/
def Op.stages (op : Op) : List Stage :=
  op.places.map (·.stage)

theorem mem_places_of_kind {op : Op} {place : Place} (h : place ∈ op.kind.places) :
    place ∈ op.places := by
  cases op with
  | alterColumn | setSerialValue => simp [Op.kind, OpKind.places] at h
  | _ => exact h

/-- The operations may all be planned at the place. -/
def FitAt (place : Place) (ops : List Op) : Prop :=
  ∀ op ∈ ops, place ∈ op.places

section FitAt

variable {place : Place} {α : Type}

@[simp] theorem fitAt_nil : FitAt place [] := by
  intro op h
  simp at h

@[simp] theorem fitAt_cons {op : Op} {ops : List Op} :
    FitAt place (op :: ops) ↔ place ∈ op.places ∧ FitAt place ops :=
  List.forall_mem_cons

@[simp] theorem fitAt_append {a b : List Op} :
    FitAt place (a ++ b) ↔ FitAt place a ∧ FitAt place b :=
  List.forall_mem_append

@[simp] theorem fitAt_flatMap {xs : List α} {f : α → List Op} :
    FitAt place (xs.flatMap f) ↔ ∀ x ∈ xs, FitAt place (f x) := by
  simp only [FitAt, List.mem_flatMap]
  constructor
  · intro h x hx op hop
    exact h op ⟨x, hx, hop⟩
  · rintro h op ⟨x, hx, hop⟩
    exact h x hx op hop

@[simp] theorem fitAt_map {xs : List α} {f : α → Op} :
    FitAt place (xs.map f) ↔ ∀ x ∈ xs, place ∈ (f x).places :=
  List.forall_mem_map

@[simp] theorem fitAt_toList_map {x : Option α} {f : α → Op} :
    FitAt place (x.map f).toList ↔ ∀ a ∈ x, place ∈ (f a).places := by
  cases x with
  | none => simp
  | some a => simp

theorem fitAt_of_ofKinds {kinds : List OpKind} {ops : List Op} (h : OfKinds kinds ops)
    (hkinds : ∀ kind ∈ kinds, place ∈ kind.places) : FitAt place ops :=
  fun op hop => mem_places_of_kind (hkinds _ (h op hop))

theorem fitAt_of_mapM {f : α → Except SchemaError (List Op)} {xs : List α}
    {opss : List (List Op)} (h : xs.mapM f = .ok opss)
    (hf : ∀ x ∈ xs, ∀ ops, f x = .ok ops → FitAt place ops) : FitAt place opss.flatten := by
  intro op hop
  obtain ⟨ops, hops, hm⟩ := List.mem_flatten.1 hop
  obtain ⟨x, hx, he⟩ := exists_source_of_mapM h hops
  exact hf x hx ops he op hm

end FitAt

namespace Draft

/-- Each operation of the draft is at a place at which it may be planned. -/
def InPlace (d : Draft) : Prop :=
  ∀ place, FitAt place (d.opsAt place)

@[simp] theorem inPlace_empty : ({} : Draft).InPlace := by
  intro place
  rw [opsAt_empty]
  exact fitAt_nil

@[simp] theorem inPlace_append {a b : Draft} : (a ++ b).InPlace ↔ a.InPlace ∧ b.InPlace := by
  simp only [InPlace, opsAt_append, fitAt_append]
  exact forall_and

@[simp] theorem inPlace_join {ds : List Draft} : (join ds).InPlace ↔ ∀ d ∈ ds, d.InPlace := by
  simp only [InPlace, opsAt_join, fitAt_flatMap]
  exact ⟨fun h d hd place => h place d hd, fun h place d hd => h d hd place⟩

@[simp] theorem inPlace_first {ops : List Op} : (first ops).InPlace ↔ FitAt .stage1 ops := by
  constructor
  · exact fun h => h .stage1
  · intro h place
    cases place with
    | stage1 => exact h
    | _ => exact fitAt_nil

@[simp] theorem inPlace_stage1Tail {ops : List Op} :
    ({ stage1Tail := ops } : Draft).InPlace ↔ FitAt .stage1Tail ops := by
  constructor
  · exact fun h => h .stage1Tail
  · intro h place
    cases place with
    | stage1Tail => exact h
    | _ => exact fitAt_nil

@[simp] theorem inPlace_stage3 {ops : List Op} :
    ({ stage3 := ops } : Draft).InPlace ↔ FitAt .stage3 ops := by
  constructor
  · exact fun h => h .stage3
  · intro h place
    cases place with
    | stage3 => exact h
    | _ => exact fitAt_nil

theorem inPlace_of_within {d : Draft} {kinds : Place → List OpKind} (h : d.Within kinds)
    (hkinds : ∀ place, ∀ kind ∈ kinds place, place ∈ kind.places) : d.InPlace :=
  fun place => fitAt_of_ofKinds (h place) (hkinds place)

end Draft

namespace Comparison

-- Here as well, every operation is met as its constructor.
attribute [local simp] Op.places OpKind.places Op.kind

/-! ### Types -/

theorem fitAt_parkColumn (style : Sql.Style) (type : String) (item : TableKey × Column) :
    FitAt .stage1 (parkColumn style type item) := by
  rw [parkColumn, fitAt_append]
  constructor
  · split <;> simp
  · simp

theorem fitAt_restoreColumn (style : Sql.Style) (type : String) (viaText : Bool)
    (item : TableKey × Column) : FitAt .stage1 (restoreColumn style type viaText item) := by
  simp [restoreColumn]

theorem fitAt_rebuildType {c : Comparison} {schema : String} {old new : TypeDef} {ops : List Op}
    (h : c.rebuildType schema old new = .ok ops) : FitAt .stage1 ops := by
  have hops : ∀ columns : List (TableKey × Column), FitAt .stage1
      (columns.flatMap (parkColumn c.style (placeholder old.body)) ++
        [.dropType (Sql.qualified schema new.name) old.body.isDomain, .createType schema new] ++
        columns.flatMap (restoreColumn c.style (c.style.object schema new.name)
          (!new.body.isDomain))) := by
    intro columns
    simp only [fitAt_append, fitAt_flatMap]
    refine ⟨⟨fun _ _ => fitAt_parkColumn _ _ _, ?_⟩, fun _ _ => fitAt_restoreColumn _ _ _ _⟩
    simp
  unfold rebuildType at h
  split at h
  · obtain ⟨columns, -, he⟩ := bind_eq_ok.1 h
    rw [← pure_eq_ok.1 he]
    exact hops columns
  · rw [← Except.ok.inj h]
    exact hops []

theorem fitAt_typeOps {c : Comparison} {schema : String} {t : TypeDef} {ops : List Op}
    (h : c.typeOps schema t = .ok ops) : FitAt .stage1 ops := by
  simp only [typeOps] at h
  split at h
  · rw [← Except.ok.inj h]
    simp
  · split at h
    · rw [← Except.ok.inj h]
      exact fitAt_nil
    · split at h
      · rw [← Except.ok.inj h]
        simp
      · split at h
        · rw [← Except.ok.inj h]
          simp
        · exact fitAt_rebuildType h

theorem inPlace_typePass {c : Comparison} {s : Schema} {d : Draft} (h : c.typePass s = .ok d) :
    d.InPlace := by
  simp only [typePass, schemaTypeOps, bind_eq_ok, pure_eq_ok] at h
  obtain ⟨_, ⟨opss, hopss, rfl⟩, rfl⟩ := h
  rw [Draft.inPlace_first, fitAt_append]
  constructor
  · exact fitAt_of_mapM hopss fun t _ ops hops => fitAt_typeOps hops
  · exact fitAt_of_ofKinds (ofKinds_schemaFunctionOps c s) (by decide)

/-! ### Columns and tables -/

theorem inPlace_backfill (address : String) (col : Column) : (backfill address col).InPlace := by
  have hone : ∀ value : Option String,
      ({ stage1Tail := [.backfillColumn address col.name value] } : Draft).InPlace := by
    intro value
    simp
  unfold backfill
  split
  · exact Draft.inPlace_empty
  · split
    · exact hone _
    · split
      · exact Draft.inPlace_empty
      · exact hone _

/-- A value is demanded in the third stage, and so is said that none is. -/
theorem inPlace_demandValue (c : Comparison) (address column : String) :
    (c.demandValue address column).InPlace := by
  unfold demandValue
  split <;> simp

theorem inPlace_describeColumn (address : String) (col : Column) :
    (describeColumn address col).InPlace := by
  simp [describeColumn]

theorem inPlace_addColumn (c : Comparison) (address : String) (col : Column) (dataType : String) :
    (c.addColumn address col dataType).InPlace := by
  simp only [addColumn, Draft.inPlace_append, Draft.inPlace_first]
  refine ⟨⟨?_, ?_⟩, ?_⟩
  · simp
  · split
    · simp
    · rw [Draft.inPlace_append, Draft.inPlace_append, Draft.inPlace_first]
      refine ⟨⟨?_, inPlace_backfill address col⟩, ?_⟩
      · simp
      · split
        · exact Draft.inPlace_empty
        · exact inPlace_demandValue c address col.name
  · split
    · exact inPlace_describeColumn address col
    · exact Draft.inPlace_empty

theorem inPlace_alterType {address object : String} {col : Column} {oldType newType : String}
    {d : Draft} (h : alterType address object col oldType newType = .ok d) : d.InPlace := by
  unfold alterType at h
  split at h
  · rw [← Except.ok.inj h]
    exact Draft.inPlace_empty
  · split at h
    · simp at h
    · rw [← Except.ok.inj h]
      simp

theorem inPlace_alterDefault (address : String) (previous col : Column) :
    (alterDefault address previous col).InPlace := by
  unfold alterDefault
  split
  · exact Draft.inPlace_empty
  · cases col.default? <;> simp

theorem inPlace_alterNullable (c : Comparison) (address : String) (previous col : Column) :
    (c.alterNullable address previous col).InPlace := by
  unfold alterNullable
  split
  · exact Draft.inPlace_append.2
      ⟨inPlace_backfill address col, inPlace_demandValue c address col.name⟩
  · simp
  · exact Draft.inPlace_empty

theorem inPlace_alterColumn {c : Comparison} {address object : String} {previous : Column}
    {oldType : String} {col : Column} {newType : String} {d : Draft}
    (h : c.alterColumn address object previous oldType col newType = .ok d) : d.InPlace := by
  simp only [alterColumn, bind_eq_ok, pure_eq_ok] at h
  obtain ⟨type, htype, rfl⟩ := h
  simp only [Draft.inPlace_append]
  refine ⟨⟨⟨inPlace_alterType htype, inPlace_alterDefault address previous col⟩,
    inPlace_alterNullable c address previous col⟩, ?_⟩
  split
  · exact Draft.inPlace_empty
  · exact inPlace_describeColumn address col

theorem inPlace_columnWork {c : Comparison} {oldSchema : String} {oldTable : Table}
    {schema : String} {table : Table} {col : Column} {d : Draft} {old : Option (Column × Bool)}
    (h : c.columnWork oldSchema oldTable schema table col = .ok (d, old)) : d.InPlace := by
  simp only [columnWork, bind_eq_ok] at h
  obtain ⟨newType, _, found, _, h⟩ := h
  rcases found with _ | ⟨previous, renamed⟩
  · rw [← (Prod.mk.inj (pure_eq_ok.1 h)).1]
    exact inPlace_addColumn c _ col newType
  · simp only [bind_eq_ok, pure_eq_ok] at h
    obtain ⟨oldType, _, changes, hchanges, he⟩ := h
    rw [← (Prod.mk.inj he).1, Draft.inPlace_append]
    refine ⟨?_, inPlace_alterColumn hchanges⟩
    split <;> simp

theorem fitAt_removeColumn (address : String) (continuations : List (String × String × Bool))
    (previous : Column) : FitAt .stage3 (removeColumn address continuations previous) := by
  unfold removeColumn
  split
  · simp
  · split <;> simp

theorem inPlace_columnsWork {c : Comparison} {oldSchema : String} {oldTable : Table}
    {schema : String} {table : Table} {d : Draft}
    (h : c.columnsWork oldSchema oldTable schema table = .ok d) : d.InPlace := by
  simp only [columnsWork, bind_eq_ok, pure_eq_ok] at h
  obtain ⟨work, hwork, rfl⟩ := h
  rw [Draft.inPlace_append, Draft.inPlace_join, Draft.inPlace_stage3, fitAt_flatMap]
  refine ⟨fun d hd => ?_, fun col _ => fitAt_removeColumn _ _ col⟩
  obtain ⟨w, hw, rfl⟩ := List.mem_map.1 hd
  obtain ⟨col, _, hcol⟩ := exists_source_of_mapM hwork hw
  obtain ⟨r, hr, he⟩ := bind_eq_ok.1 hcol
  rw [← pure_eq_ok.1 he]
  exact inPlace_columnWork hr

theorem fitAt_createTable {c : Comparison} {schema : String} {table : Table} {ops : List Op}
    (h : c.createTable schema table = .ok ops) : FitAt .stage1 ops := by
  simp only [createTable, bind_eq_ok, pure_eq_ok] at h
  obtain ⟨_, _, rfl⟩ := h
  simp only [fitAt_append, fitAt_cons, fitAt_flatMap]
  refine ⟨⟨by simp, ?_⟩, fun col _ => ?_⟩
  · split <;> simp
  · rw [newColumnOps, fitAt_append]
    constructor
    · split <;> simp
    · simp

theorem inPlace_tableWork {c : Comparison} {schema : String} {table : Table} {d : Draft}
    (h : c.tableWork schema table = .ok d) : d.InPlace := by
  unfold tableWork at h
  split at h
  · simp only [bind_eq_ok, pure_eq_ok] at h
    obtain ⟨ops, hops, rfl⟩ := h
    exact Draft.inPlace_first.2 (fitAt_createTable hops)
  · simp only [bind_eq_ok, pure_eq_ok] at h
    obtain ⟨columns, hcolumns, rfl⟩ := h
    rw [Draft.inPlace_append, Draft.inPlace_append, Draft.inPlace_first]
    refine ⟨⟨?_, inPlace_columnsWork hcolumns⟩, ?_⟩
    · exact fitAt_of_ofKinds (ofKinds_renameTable _ _ _ _) (by decide)
    · split <;> simp

theorem inPlace_tablePass {c : Comparison} {drops : List Constraint} {item : Schema × Table}
    {d : Draft} (h : c.tablePass drops item = .ok d) : d.InPlace := by
  obtain ⟨work, key, hwork, hkey, rfl⟩ := tablePass_eq_ok_iff.1 h
  simp only [Draft.inPlace_append, Draft.inPlace_first, fitAt_append]
  refine ⟨inPlace_tableWork hwork, ⟨⟨?_, ?_⟩, ?_⟩, ?_⟩
  · exact fitAt_of_ofKinds (ofKinds_tableIndexOps c _ _) (by decide)
  · exact fitAt_of_ofKinds (ofKinds_clusterOps c _ _) (by decide)
  · exact fitAt_of_ofKinds (ofKinds_addPrimaryKey hkey) (by decide)
  · exact fitAt_of_ofKinds (ofKinds_tableTriggerOps c _ _) (by decide)

/-! ### The passes together -/

theorem inPlace_structureWork {c : Comparison} {d : Draft} (h : c.structureWork = .ok d) :
    d.InPlace := by
  obtain ⟨types, drops, tables, adds, htypes, -, htables, hadds, rfl⟩ :=
    structureWork_eq_ok_iff.1 h
  simp only [Draft.inPlace_append, Draft.inPlace_first, Draft.inPlace_join]
  refine ⟨⟨⟨⟨⟨⟨⟨⟨?_, ?_⟩, ?_⟩, ?_⟩, ?_⟩, ?_⟩, ?_⟩, ?_⟩, ?_⟩
  · exact fitAt_flatMap.2 fun s _ => fitAt_of_ofKinds (ofKinds_schemaOps c s) (by decide)
  · intro d hd
    obtain ⟨s, _, hs⟩ := exists_source_of_mapM htypes hd
    exact inPlace_typePass hs
  · exact fitAt_of_ofKinds (ofKinds_dropConstraintOps drops) (by decide)
  · intro d hd
    obtain ⟨s, _, rfl⟩ := List.mem_map.1 hd
    exact Draft.inPlace_of_within (within_schemaSequenceWork c s)
      fun place => by cases place <;> decide
  · intro d hd
    obtain ⟨item, _, hitem⟩ := exists_source_of_mapM htables hd
    exact inPlace_tablePass hitem
  · exact fitAt_of_ofKinds (ofKinds_of_mapM_addConstraints hadds) (by decide)
  · exact Draft.inPlace_of_within (within_dropTables c) fun place => by cases place <;> decide
  · exact Draft.inPlace_of_within (within_dropRemoved c) fun place => by cases place <;> decide
  · exact fitAt_flatMap.2 fun s _ =>
      fitAt_of_ofKinds (ofKinds_schemaPrivilegeOps c s) (by decide)

theorem inPlace_schemaWork [QueryReader] {c : Comparison} {d : Draft} (h : c.schemaWork = .ok d) :
    d.InPlace := by
  obtain ⟨-, work, hwork, rfl⟩ := schemaWork_eq_ok_iff.1 h
  rw [Draft.inPlace_append]
  exact ⟨inPlace_structureWork hwork,
    Draft.inPlace_of_within (within_viewWork c _) fun place => by cases place <;> decide⟩

/-- A counter is moved past its rows where the rows are. -/
theorem fitAt_advanceKey (new : StaticRows) (address : String) :
    FitAt .stage2 (advanceKey new address) := by
  unfold advanceKey
  split
  · split
    · exact fitAt_nil
    · split <;> simp
  · exact fitAt_nil

theorem fitAt_tableUpserts {c : Comparison} {schema : String} {table : Table} {ops : List Op}
    (h : c.tableUpserts schema table = .ok ops) : FitAt .stage2 ops := by
  simp only [tableUpserts, bind_eq_ok] at h
  obtain ⟨sides, _, h⟩ := h
  split at h
  · simp only [upsertRows, bind_eq_ok, pure_eq_ok] at h
    obtain ⟨opss, hopss, rfl⟩ := h
    rw [fitAt_append]
    constructor
    · exact fitAt_of_mapM hopss fun row _ ops hops =>
        fitAt_of_ofKinds (ofKinds_upsertRow hops) (by decide)
    · split
      · exact fitAt_advanceKey _ _
      · exact fitAt_nil
  · rw [← pure_eq_ok.1 h]
    exact fitAt_nil

theorem inPlace_rowWork {c : Comparison} {d : Draft} (h : c.rowWork = .ok d) : d.InPlace := by
  simp only [rowWork, bind_eq_ok, pure_eq_ok] at h
  obtain ⟨deletes, hdeletes, upserts, hupserts, rfl⟩ := h
  intro place
  cases place with
  | stage2 =>
    refine fitAt_append.2 ⟨?_, ?_⟩
    · exact fitAt_of_mapM hdeletes fun _ _ _ hops =>
        fitAt_of_ofKinds (ofKinds_tableDeletes hops) (by decide)
    · exact fitAt_of_mapM hupserts fun _ _ _ hops => fitAt_tableUpserts hops
  | _ => exact fitAt_nil

end Comparison

/-! ### The order inside a stage -/

namespace Comparison

/-- What is gone from the new version is dropped before the schemas that are. -/
theorem exists_dropRemoved_parts (c : Comparison) :
    ∃ objects schemas, c.dropRemoved.opsAt .stage3 = objects ++ schemas ∧
      OfKinds [.dropFunction, .dropSequence, .dropType] objects ∧
      OfKinds [.dropSchema] schemas := by
  unfold dropRemoved
  split
  · exact ⟨[], [], rfl, ofKinds_nil, ofKinds_nil⟩
  · refine ⟨_, _, rfl, ofKinds_flatMap.2 fun s _ => ?_, by simp [Op.kind]⟩
    cases c.new.schema? s.name with
    | none => exact ofKinds_nil
    | some new => exact ofKinds_removedObjects s new

/-- The third stage of the work on structure: first what goes from a table or with it, then what is
gone otherwise. -/
theorem exists_stage3_before_removed {c : Comparison} {work : Draft}
    (h : c.structureWork = .ok work) :
    ∃ tables, work.opsAt .stage3 = tables ++ c.dropRemoved.opsAt .stage3 ∧
      OfKinds [.alterColumn, .comment, .dropColumn, .dropTable] tables := by
  obtain ⟨types, drops, tables, adds, htypes, -, htables, -, rfl⟩ := structureWork_eq_ok_iff.1 h
  have htypesNone : types.flatMap (·.opsAt .stage3) = [] := by
    refine List.flatMap_eq_nil_iff.2 fun d hd => ?_
    obtain ⟨s, _, hs⟩ := exists_source_of_mapM htypes hd
    exact (within_typePass hs .stage3).eq_nil
  have hsequencesNone :
      (c.newSchemas.map c.schemaSequenceWork).flatMap (·.opsAt .stage3) = [] := by
    refine List.flatMap_eq_nil_iff.2 fun d hd => ?_
    obtain ⟨s, _, rfl⟩ := List.mem_map.1 hd
    exact (within_schemaSequenceWork c s .stage3).eq_nil
  refine ⟨tables.flatMap (·.opsAt .stage3) ++ c.dropTables.opsAt .stage3, ?_,
    ofKinds_append.2 ⟨ofKinds_flatMap.2 fun d hd => ?_, ?_⟩⟩
  · have hfirst : ∀ ops, (Draft.first ops).opsAt .stage3 = [] := fun _ => rfl
    simp only [Draft.opsAt_append, Draft.opsAt_join, hfirst, htypesNone, hsequencesNone,
      List.nil_append, List.append_nil]
  · obtain ⟨item, _, hitem⟩ := exists_source_of_mapM htables hd
    exact (within_tablePass hitem .stage3).mono (by decide)
  · exact (within_dropTables c .stage3).mono (by decide)

/-- Of what is gone, schemas are dropped last. -/
theorem exists_stage3_parts {c : Comparison} {work : Draft} (h : c.structureWork = .ok work) :
    ∃ tables objects schemas, work.opsAt .stage3 = tables ++ (objects ++ schemas) ∧
      OfKinds [.alterColumn, .comment, .dropColumn, .dropTable] tables ∧
      OfKinds [.dropFunction, .dropSequence, .dropType] objects ∧
      OfKinds [.dropSchema] schemas := by
  obtain ⟨tables, hstage, htables⟩ := exists_stage3_before_removed h
  obtain ⟨objects, schemas, hremoved, hobjects, hschemas⟩ := exists_dropRemoved_parts c
  exact ⟨tables, objects, schemas, hremoved ▸ hstage, htables, hobjects, hschemas⟩

/-- What is known of the draft that a plan is read off. -/
structure Drafted (d : Draft) : Prop where
  inPlace : d.InPlace
  within : d.Within planKinds
  stage3 : ∃ tables objects schemas, d.opsAt .stage3 = tables ++ (objects ++ schemas) ∧
    OfKinds [.alterColumn, .comment, .dropColumn, .dropTable] tables ∧
    OfKinds [.dropFunction, .dropSequence, .dropType] objects ∧ OfKinds [.dropSchema] schemas

theorem drafted_of_schemaWork [QueryReader] {c : Comparison} {d : Draft}
    (h : c.schemaWork = .ok d) : Drafted d := by
  refine ⟨inPlace_schemaWork h, (within_schemaWork h).mono schemaKinds_subset, ?_⟩
  obtain ⟨-, work, hwork, rfl⟩ := schemaWork_eq_ok_iff.1 h
  rw [Draft.opsAt_append, (within_viewWork c _ .stage3).eq_nil, List.append_nil]
  exact exists_stage3_parts hwork

/-- **No pass plans anything for the fourth stage.** -/
theorem Drafted.stage4_eq_nil {d : Draft} (h : Drafted d) : d.stage4 = [] :=
  (h.within .stage4).eq_nil

theorem drafted_empty : Drafted {} :=
  ⟨Draft.inPlace_empty, Draft.within_empty, [], [], [], rfl, ofKinds_nil, ofKinds_nil,
    ofKinds_nil⟩

/-- Static rows may be added to a draft: they concern the second stage only. -/
theorem Drafted.append_rows {d rows : Draft} (h : Drafted d) (hrows : rows.InPlace)
    (hkinds : rows.Within rowKinds) : Drafted (d ++ rows) := by
  refine ⟨Draft.inPlace_append.2 ⟨h.inPlace, hrows⟩,
    h.within.append (hkinds.mono fun place => List.subset_append_right _ _), ?_⟩
  rw [Draft.opsAt_append, (hkinds .stage3).eq_nil, List.append_nil]
  exact h.stage3

end Comparison

/-- The statements of its own that a definition has run: those that the previous version did not
have, and none when only static rows are asked for. -/
def ownStatements (old : Option Database) (new : Database) (options : Options) : List CustomSql :=
  if options.onlyData then [] else new.sql.filter fun e => old.all fun db => !db.sql.contains e

namespace Comparison

theorem customSql_eq (c : Comparison) :
    (if c.options.onlyData then [] else c.customSql) = ownStatements c.old c.new c.options := by
  unfold customSql ownStatements
  cases c.old with
  | none => simp
  | some db => simp

/-- The parts of a plan make up a draft with every operation in its place. -/
theorem drafted_parts [QueryReader] {c : Comparison} {schema rows : Draft}
    (hschema : (if c.options.onlyData then .ok {} else c.schemaWork) = .ok schema)
    (hrows : (if c.options.onlySchema then .ok {} else c.rowWork) = .ok rows) :
    Drafted (schema ++ rows) := by
  refine Drafted.append_rows ?_ ?_ (within_rowsIfWanted hrows)
  · split at hschema
    · rw [← Except.ok.inj hschema]
      exact drafted_empty
    · exact drafted_of_schemaWork hschema
  · split at hrows
    · rw [← Except.ok.inj hrows]
      exact Draft.inPlace_empty
    · exact inPlace_rowWork hrows

/-- **A plan is read off a draft** with every operation in its place. -/
theorem exists_drafted [QueryReader] {c : Comparison} {p : Plan} (h : c.plan = .ok p) :
    ∃ d, Drafted d ∧ p = d.toPlan (ownStatements c.old c.new c.options) := by
  obtain ⟨schema, rows, hschema, hrows, rfl⟩ := plan_eq_ok_iff.1 h
  exact ⟨schema ++ rows, drafted_parts hschema hrows, by rw [customSql_eq]⟩

end Comparison

/-! ### From the draft to the plan -/

/-- The operations of a stage of a plan, in order. -/
def Plan.inStage (p : Plan) (stage : Stage) : List Op :=
  (p.filter (·.stage == stage)).map (·.op)

namespace Draft

theorem inStage_toPlan (d : Draft) (custom : List CustomSql) (stage : Stage) :
    (d.toPlan custom).inStage stage = d.stageOps custom stage := by
  have hall : ∀ s : Stage, ∀ ops : List Op,
      ((ops.map fun op => PlannedOp.mk s op).filter (·.stage == stage)).map (·.op) =
        if s = stage then ops else [] := by
    intro s ops
    by_cases hs : s = stage
    · simp [hs, List.filter_map, Function.comp_def]
    · simp [hs, List.filter_map, Function.comp_def]
  simp only [toPlan, Stage.all, Plan.inStage, List.flatMap_cons, List.flatMap_nil,
    List.filter_append, List.map_append, hall, List.filter_nil, List.map_nil]
  cases stage <;> simp

theorem stages_toPlan (d : Draft) (custom : List CustomSql) :
    (d.toPlan custom).Pairwise fun a b => a.stage.number ≤ b.stage.number := by
  have hsorted : Stage.all.Pairwise fun a b => a.number ≤ b.number := by decide
  rw [toPlan, List.pairwise_flatMap]
  constructor
  · intro stage _
    rw [List.pairwise_map]
    exact List.pairwise_of_forall fun _ _ => Nat.le_refl _
  · refine hsorted.imp fun {a b} hle x hx y hy => ?_
    obtain ⟨_, _, rfl⟩ := List.mem_map.1 hx
    obtain ⟨_, _, rfl⟩ := List.mem_map.1 hy
    exact hle

theorem InPlace.stage_mem {d : Draft} (h : d.InPlace) {stage : Stage} {op : Op}
    (hop : op ∈ d.ofStage stage) : stage ∈ op.stages := by
  cases stage with
  | stage1 =>
    simp only [ofStage, List.mem_append] at hop
    rcases hop with (hop | hop) | hop
    · exact List.mem_map_of_mem (h .viewDrops op hop)
    · exact List.mem_map_of_mem (h .stage1 op hop)
    · exact List.mem_map_of_mem (h .stage1Tail op hop)
  | stage2 => exact List.mem_map_of_mem (h .stage2 op hop)
  | stage3 =>
    simp only [ofStage, List.mem_append] at hop
    rcases hop with hop | hop
    · exact List.mem_map_of_mem (h .stage3 op hop)
    · exact List.mem_map_of_mem (h .viewCreates op hop)
  | stage4 => exact List.mem_map_of_mem (h .stage4 op hop)

end Draft

/-! ### Plans -/

theorem planWithOrders_eq_ok_iff [QueryReader] {old : Option Database} {new : Database}
    {newOrder oldOrder : Option (List OrderItem)} {style : Sql.Style} {options : Options}
    {p : Plan} :
    planWithOrders old new newOrder oldOrder style options = .ok p ↔
      new.validate = .ok () ∧ (∀ db, old = some db → db.validate = .ok ()) ∧
        ∃ c, Comparison.make old new newOrder oldOrder style options = .ok c ∧ c.plan = .ok p := by
  unfold planWithOrders
  cases old with
  | none => simp [bind_eq_ok, Unique.exists_iff]
  | some db => simp [bind_eq_ok, Unique.exists_iff]

/-- How a plan is staged, given the definition's own statements and what is planned for each stage
besides them. -/
structure Staged (own : List CustomSql) (planned : Stage → List Op) (p : Plan) : Prop where
  /-- The stages never decrease. -/
  sorted : p.Pairwise fun a b => a.stage.number ≤ b.stage.number
  /-- Own statements open and close their stage, in the order in which they are declared. -/
  inStage_eq : ∀ stage, p.inStage stage =
    (own.filter fun e => e.stage == stage && e.before).flatMap Draft.customOps ++ planned stage ++
      (own.filter fun e => e.stage == stage && !e.before).flatMap Draft.customOps
  /-- Operations are planned for their own stages only. -/
  stage_mem : ∀ stage, ∀ op ∈ planned stage, stage ∈ op.stages
  /-- The fourth stage is left to own statements. -/
  stage4_eq : planned .stage4 = []
  viewDrops : Precedes (·.kind = .dropView) (·.kind ≠ .dropView) (planned .stage1)
  backfills : Precedes (·.kind ∈ [.addColumn, .alterColumn]) (·.kind = .backfillColumn)
    (planned .stage1)
  tableDrops : Precedes (·.kind ∈ [.dropColumn, .dropTable])
    (·.kind ∈ [.dropFunction, .dropSequence, .dropType, .dropSchema]) (planned .stage3)
  schemaDrops : Precedes (·.kind ∈ [.dropFunction, .dropSequence, .dropType])
    (·.kind = .dropSchema) (planned .stage3)
  viewCreates : Precedes
    (·.kind ∈ [.dropColumn, .dropTable, .dropFunction, .dropSequence, .dropType, .dropSchema])
    (·.kind = .createView) (planned .stage3)

/-- What is planned for an earlier stage stands in front. -/
theorem Staged.lt_of_stage {own : List CustomSql} {planned : Stage → List Op} {p : Plan}
    (h : Staged own planned p) {i j : Nat} {a b : PlannedOp} (ha : p[i]? = some a)
    (hb : p[j]? = some b) (hstage : a.stage.number < b.stage.number) : i < j := by
  obtain ⟨hi, rfl⟩ := List.getElem?_eq_some_iff.1 ha
  obtain ⟨hj, rfl⟩ := List.getElem?_eq_some_iff.1 hb
  rcases Nat.lt_trichotomy i j with hij | rfl | hji
  · exact hij
  · exact absurd hstage (Nat.lt_irrefl _)
  · have := List.pairwise_iff_getElem.1 h.sorted j i hj hi hji
    omega

/-- What is not an own statement stands in a stage that it may be planned in. -/
theorem Staged.mem_stages {own : List CustomSql} {planned : Stage → List Op} {p : Plan}
    (h : Staged own planned p) {q : PlannedOp} (hq : q ∈ p)
    (hkind : q.op.kind ∉ [OpKind.comment, .customSql]) : q.stage ∈ q.op.stages := by
  have hop : q.op ∈ p.inStage q.stage :=
    List.mem_map_of_mem (List.mem_filter.2 ⟨hq, beq_self_eq_true _⟩)
  rw [h.inStage_eq, List.mem_append, List.mem_append] at hop
  rcases hop with (hop | hop) | hop
  · exact absurd (Comparison.ofKinds_custom _ _ hop) hkind
  · exact h.stage_mem q.stage q.op hop
  · exact absurd (Comparison.ofKinds_custom _ _ hop) hkind

/-- Operations are in order when the kinds on either side of a point leave no other way. -/
theorem precedes_of_ofKinds (former latter : OpKind → Prop) {fronts backs : List OpKind}
    {front back : List Op} (hfront : OfKinds fronts front) (hback : OfKinds backs back)
    (hlatter : ∀ kind ∈ fronts, ¬ latter kind) (hformer : ∀ kind ∈ backs, ¬ former kind) :
    Precedes (fun op => former op.kind) (fun op => latter op.kind) (front ++ back) :=
  precedes_append (fun op hop => hlatter _ (hfront op hop)) fun op hop =>
    hformer _ (hback op hop)

/-- **A draft with everything in place makes up a staged plan.** -/
theorem Comparison.Drafted.staged {d : Draft} (h : Comparison.Drafted d)
    (own : List CustomSql) : Staged own d.ofStage (d.toPlan own) := by
  obtain ⟨tables, objects, schemas, hstage3, htables, hobjects, hschemas⟩ := h.stage3
  have hcreates := h.within .viewCreates
  have hfirst : d.ofStage .stage1 =
      d.opsAt .viewDrops ++ (d.opsAt .stage1 ++ d.opsAt .stage1Tail) := by
    rw [← List.append_assoc]
    rfl
  have hthird : d.ofStage .stage3 = tables ++ (objects ++ (schemas ++ d.opsAt .viewCreates)) := by
    rw [← List.append_assoc objects, ← List.append_assoc, ← hstage3]
    rfl
  refine ⟨d.stages_toPlan own, d.inStage_toPlan own, fun _ _ hop => h.inPlace.stage_mem hop,
    h.stage4_eq_nil, ?_, ?_, ?_, ?_, ?_⟩
  · rw [hfirst]
    exact precedes_of_ofKinds (· = .dropView) (· ≠ .dropView) (h.within .viewDrops)
      ((h.within .stage1).append (h.within .stage1Tail)) (by decide) (by decide)
  · rw [hfirst, ← List.append_assoc]
    exact precedes_of_ofKinds (· ∈ [.addColumn, .alterColumn]) (· = .backfillColumn)
      ((h.within .viewDrops).append (h.within .stage1)) (h.within .stage1Tail) (by decide)
      (by decide)
  · rw [hthird]
    exact precedes_of_ofKinds (· ∈ [.dropColumn, .dropTable])
      (· ∈ [.dropFunction, .dropSequence, .dropType, .dropSchema]) htables
      (hobjects.append (hschemas.append hcreates)) (by decide) (by decide)
  · rw [hthird, ← List.append_assoc]
    exact precedes_of_ofKinds (· ∈ [.dropFunction, .dropSequence, .dropType]) (· = .dropSchema)
      (htables.append hobjects) (hschemas.append hcreates) (by decide) (by decide)
  · rw [hthird, ← List.append_assoc, ← List.append_assoc]
    exact precedes_of_ofKinds
      (· ∈ [.dropColumn, .dropTable, .dropFunction, .dropSequence, .dropType, .dropSchema])
      (· = .createView) ((htables.append hobjects).append hschemas) hcreates (by decide)
      (by decide)

/-- **Every plan keeps its stages**, whatever the versions, the options and the orders of tables:
what is planned besides the definition's own statements stands in the stages it belongs to, and
inside a stage nothing is dropped, filled or created before its time. -/
theorem plan_keeps_stages [QueryReader] {old : Option Database} {new : Database}
    {newOrder oldOrder : Option (List OrderItem)} {style : Sql.Style} {options : Options}
    {p : Plan} (h : planWithOrders old new newOrder oldOrder style options = .ok p) :
    ∃ planned, Staged (ownStatements old new options) planned p := by
  obtain ⟨-, -, c, hmake, hp⟩ := planWithOrders_eq_ok_iff.1 h
  obtain ⟨-, -, -, rfl, rfl, rfl, -⟩ := Comparison.make_eq_ok_iff.1 hmake
  obtain ⟨d, hd, rfl⟩ := Comparison.exists_drafted hp
  exact ⟨d.ofStage, hd.staged _⟩

/-! ### An archive -/

/-- Notes, perhaps with more columns and rows than their numbers. -/
def Archive.notes (columns : List Column) (rows : Option RowSet) : Table where
  name := "notes"
  primaryKey := ["id"]
  columns := { name := "id", dataType := some "bigint", nullable := false } :: columns
  rows

/-- A view of the notes. -/
def Archive.latest : View where
  name := "latest"
  query := "SELECT max(id) FROM notes"

/-- In the archive all queries read from the notes. -/
local instance Archive.reader : QueryReader where
  references _ schema := [(schema, "notes")]

/-- An archive of notes, with a sequence. -/
def Archive.first : Database where
  schemas := [{
    name := "archive"
    tables := [Archive.notes [] none]
    sequences := [{ name := "tickets" }]
    views := [Archive.latest] }]

/-- The archive without its sequence, where notes have a mark, one note is there to begin with, and
two statements are to be run at either end. -/
def Archive.second : Database where
  schemas := [{
    name := "archive"
    tables := [Archive.notes
      [{ name := "seen", dataType := some "boolean", nullable := false, default? := some "false" }]
      (some { columns := ["id"], rows := [{ cells := [{ value := some "1" }] }] })]
    views := [Archive.latest] }]
  sql := [
    { stage := .stage4, text := "ANALYZE;" },
    { stage := .stage1, before := true, text := "SET lock_timeout = 1;", comment := some "guard" }]

/-- The plan from one archive to the other. -/
def Archive.upgrade : Plan := [
  ⟨.stage1, .comment "guard"⟩,
  ⟨.stage1, .customSql "SET lock_timeout = 1;"⟩,
  ⟨.stage1, .dropView "archive.latest"⟩,
  ⟨.stage1, .addColumn "archive.notes" { name := "seen", dataType := "boolean" }⟩,
  ⟨.stage1, .alterColumn "archive.notes" "seen" (.setDefault "false")⟩,
  ⟨.stage1, .backfillColumn "archive.notes" "seen" none⟩,
  ⟨.stage2, .insertRow "archive.notes" ["id"] ["1"]⟩,
  ⟨.stage3, .alterColumn "archive.notes" "seen" .setNotNull⟩,
  ⟨.stage3, .dropSequence "archive.tickets"⟩,
  ⟨.stage3, .createView "archive" Archive.latest⟩,
  ⟨.stage4, .customSql "ANALYZE;"⟩]

theorem plan_keeps_stages_of_archive :
    planWithOrders (some Archive.first) Archive.second none (some [⟨"archive", some "notes"⟩]) {}
        {} = .ok Archive.upgrade ∧
      ∃ planned, Staged (ownStatements (some Archive.first) Archive.second {}) planned
        Archive.upgrade := by
  have h : planWithOrders (some Archive.first) Archive.second none
      (some [⟨"archive", some "notes"⟩]) {} {} = .ok Archive.upgrade := by
    decide +kernel
  exact ⟨h, plan_keeps_stages h⟩

end SchemaPlan
