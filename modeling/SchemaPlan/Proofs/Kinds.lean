import SchemaPlan.Plan.Basic
import SchemaPlan.Proofs.Checks

/-!
# Which operations a pass contributes, and where

Most of what is said about the order of a plan needs no more than the kinds of its operations: which
pass contributes which kinds to which place of a draft.  `OpKind` names the kinds, `Place` the places
of a `Draft`, and `Draft.Within` says that each place of a draft holds certain kinds only.

There is one such statement for each pass, from `ofKinds_schemaOps` to `within_rowWork`, and a lemma
for each way of putting drafts together.
-/

namespace SchemaPlan

/-- What an operation does, without the object it does it to. -/
inductive OpKind where
  | comment
  | customSql
  | createSchema
  | dropSchema
  | createType
  | dropType
  | addEnumValue
  | alterDomain
  | createSequence
  | alterSequence
  | dropSequence
  | setSerialValue
  | createFunction
  | dropFunction
  | createTable
  | dropTable
  | setTableSchema
  | renameTable
  | addColumn
  | dropColumn
  | renameColumn
  | alterColumn
  | backfillColumn
  | addConstraint
  | dropConstraint
  | createIndex
  | dropIndex
  | setCluster
  | createTrigger
  | dropTrigger
  | createView
  | dropView
  | alterOwner
  | grant
  | revoke
  | setComment
  | insertRow
  | updateRow
  | deleteRow
deriving DecidableEq

/-- The kind of an operation. -/
def Op.kind : Op → OpKind
  | .comment .. => .comment
  | .customSql .. => .customSql
  | .createSchema .. => .createSchema
  | .dropSchema .. => .dropSchema
  | .createType .. => .createType
  | .dropType .. => .dropType
  | .addEnumValue .. => .addEnumValue
  | .alterDomain .. => .alterDomain
  | .createSequence .. => .createSequence
  | .alterSequence .. => .alterSequence
  | .dropSequence .. => .dropSequence
  | .setSerialValue .. => .setSerialValue
  | .createFunction .. => .createFunction
  | .dropFunction .. => .dropFunction
  | .createTable .. => .createTable
  | .dropTable .. => .dropTable
  | .setTableSchema .. => .setTableSchema
  | .renameTable .. => .renameTable
  | .addColumn .. => .addColumn
  | .dropColumn .. => .dropColumn
  | .renameColumn .. => .renameColumn
  | .alterColumn .. => .alterColumn
  | .backfillColumn .. => .backfillColumn
  | .addConstraint .. => .addConstraint
  | .dropConstraint .. => .dropConstraint
  | .createIndex .. => .createIndex
  | .dropIndex .. => .dropIndex
  | .setCluster .. => .setCluster
  | .createTrigger .. => .createTrigger
  | .dropTrigger .. => .dropTrigger
  | .createView .. => .createView
  | .dropView .. => .dropView
  | .alterOwner .. => .alterOwner
  | .grant .. => .grant
  | .revoke .. => .revoke
  | .setComment .. => .setComment
  | .insertRow .. => .insertRow
  | .updateRow .. => .updateRow
  | .deleteRow .. => .deleteRow

-- Here every operation is met as its constructor; in the modules above also as a variable, whose
-- kind is not to be opened.
attribute [local simp] Op.kind

/-! ### Kinds in a list -/

/-- The operations are of these kinds only. -/
def OfKinds (kinds : List OpKind) (ops : List Op) : Prop :=
  ∀ op ∈ ops, op.kind ∈ kinds

section OfKinds

variable {kinds : List OpKind} {α : Type}

@[simp] theorem ofKinds_nil : OfKinds kinds [] := by
  intro op h
  simp at h

@[simp] theorem ofKinds_cons {op : Op} {ops : List Op} :
    OfKinds kinds (op :: ops) ↔ op.kind ∈ kinds ∧ OfKinds kinds ops :=
  List.forall_mem_cons

@[simp] theorem ofKinds_append {a b : List Op} :
    OfKinds kinds (a ++ b) ↔ OfKinds kinds a ∧ OfKinds kinds b :=
  List.forall_mem_append

@[simp] theorem ofKinds_flatMap {xs : List α} {f : α → List Op} :
    OfKinds kinds (xs.flatMap f) ↔ ∀ x ∈ xs, OfKinds kinds (f x) := by
  simp only [OfKinds, List.mem_flatMap]
  constructor
  · intro h x hx op hop
    exact h op ⟨x, hx, hop⟩
  · rintro h op ⟨x, hx, hop⟩
    exact h x hx op hop

@[simp] theorem ofKinds_map {xs : List α} {f : α → Op} :
    OfKinds kinds (xs.map f) ↔ ∀ x ∈ xs, (f x).kind ∈ kinds :=
  List.forall_mem_map

@[simp] theorem ofKinds_flatten {opss : List (List Op)} :
    OfKinds kinds opss.flatten ↔ ∀ ops ∈ opss, OfKinds kinds ops := by
  rw [← List.flatMap_id, ofKinds_flatMap]
  rfl

@[simp] theorem ofKinds_toList_map {x : Option α} {f : α → Op} :
    OfKinds kinds (x.map f).toList ↔ ∀ a ∈ x, (f a).kind ∈ kinds := by
  cases x with
  | none => simp
  | some a => simp

theorem OfKinds.mono {more : List OpKind} {ops : List Op} (h : OfKinds kinds ops)
    (hsub : kinds ⊆ more) : OfKinds more ops :=
  fun op hop => hsub (h op hop)

theorem OfKinds.append {fronts backs : List OpKind} {front back : List Op}
    (hfront : OfKinds fronts front) (hback : OfKinds backs back) :
    OfKinds (fronts ++ backs) (front ++ back) :=
  ofKinds_append.2 ⟨hfront.mono (List.subset_append_left _ _),
    hback.mono (List.subset_append_right _ _)⟩

theorem OfKinds.eq_nil {ops : List Op} (h : OfKinds [] ops) : ops = [] :=
  List.eq_nil_iff_forall_not_mem.2 fun op hop => List.not_mem_nil (h op hop)

/-- Operations of a sort that are of one kind are not among operations of other kinds. -/
theorem OfKinds.forall_not {ops : List Op} (h : OfKinds kinds ops) {kind : OpKind}
    {sort : Op → Prop} (hsort : ∀ op, sort op → op.kind = kind) (hkind : kind ∉ kinds) :
    ∀ op ∈ ops, ¬ sort op := by
  intro op hop hs
  rw [← hsort op hs] at hkind
  exact hkind (h op hop)

theorem ofKinds_ite {p : Prop} [Decidable p] {a b : List Op} (ha : OfKinds kinds a)
    (hb : OfKinds kinds b) : OfKinds kinds (if p then a else b) := by
  split
  · exact ha
  · exact hb

theorem ofKinds_of_mapM {f : α → Except SchemaError (List Op)} {xs : List α}
    {opss : List (List Op)} (h : xs.mapM f = .ok opss)
    (hf : ∀ x ∈ xs, ∀ ops, f x = .ok ops → OfKinds kinds ops) : OfKinds kinds opss.flatten := by
  rw [ofKinds_flatten]
  intro ops hops
  obtain ⟨x, hx, he⟩ := exists_source_of_mapM h hops
  exact hf x hx ops he

end OfKinds

/-! ### Kinds in a draft -/

/-- The places of a draft. -/
inductive Place where
  | viewDrops
  | stage1
  | stage1Tail
  | stage2
  | stage3
  | viewCreates
  | stage4
deriving DecidableEq

namespace Draft

/-- The operations at a place. -/
def opsAt (d : Draft) : Place → List Op
  | .viewDrops => d.viewDrops
  | .stage1 => d.stage1
  | .stage1Tail => d.stage1Tail
  | .stage2 => d.stage2
  | .stage3 => d.stage3
  | .viewCreates => d.viewCreates
  | .stage4 => d.stage4

@[simp] theorem opsAt_empty (p : Place) : ({} : Draft).opsAt p = [] := by
  cases p <;> rfl

@[simp] theorem opsAt_first (ops : List Op) : (first ops).opsAt .stage1 = ops :=
  rfl

@[simp] theorem opsAt_append (a b : Draft) (p : Place) :
    (a ++ b).opsAt p = a.opsAt p ++ b.opsAt p := by
  cases p <;> rfl

/-- A draft is known by what it holds at each place. -/
theorem ext_opsAt {a b : Draft} (h : ∀ place, a.opsAt place = b.opsAt place) : a = b := by
  cases a
  cases b
  simp only [mk.injEq]
  exact ⟨h .viewDrops, h .stage1, h .stage1Tail, h .stage2, h .stage3, h .viewCreates, h .stage4⟩

theorem append_assoc (a b d : Draft) : a ++ b ++ d = a ++ (b ++ d) := by
  show append (append a b) d = append a (append b d)
  simp [append]

@[simp] theorem opsAt_join (ds : List Draft) (p : Place) :
    (join ds).opsAt p = ds.flatMap (·.opsAt p) := by
  induction ds with
  | nil => exact opsAt_empty p
  | cons d ds ih =>
    rw [List.flatMap_cons, ← ih]
    exact opsAt_append d (join ds) p

/-- Each place of the draft holds operations of these kinds only. -/
def Within (d : Draft) (kinds : Place → List OpKind) : Prop :=
  ∀ p, OfKinds (kinds p) (d.opsAt p)

section Within

variable {kinds : Place → List OpKind}

theorem within_empty : ({} : Draft).Within kinds := by
  intro p
  rw [opsAt_empty]
  exact ofKinds_nil

theorem Within.append {a b : Draft} (ha : a.Within kinds) (hb : b.Within kinds) :
    (a ++ b).Within kinds := by
  intro p
  rw [opsAt_append, ofKinds_append]
  exact ⟨ha p, hb p⟩

theorem within_join {ds : List Draft} (h : ∀ d ∈ ds, d.Within kinds) :
    (join ds).Within kinds := by
  intro p
  rw [opsAt_join, ofKinds_flatMap]
  exact fun d hd => h d hd p

theorem Within.mono {d : Draft} {more : Place → List OpKind} (h : d.Within kinds)
    (hsub : ∀ p, kinds p ⊆ more p) : d.Within more :=
  fun p => (h p).mono (hsub p)

theorem within_first {ops : List Op} (h : OfKinds (kinds .stage1) ops) :
    (first ops).Within kinds := by
  intro p
  cases p with
  | stage1 => exact h
  | _ => exact ofKinds_nil

theorem within_ite {p : Prop} [Decidable p] {a b : Draft} (ha : a.Within kinds)
    (hb : b.Within kinds) : (if p then a else b).Within kinds := by
  split
  · exact ha
  · exact hb

end Within

end Draft

namespace Comparison

/-! ### Schemas, types, functions and sequences -/

theorem ofKinds_schemaOps (c : Comparison) (s : Schema) :
    OfKinds [.createSchema, .setComment] (c.schemaOps s) := by
  rw [schemaOps, ofKinds_append]
  constructor
  · exact ofKinds_ite (by simp) ofKinds_nil
  · exact ofKinds_ite ofKinds_nil (by simp)

theorem ofKinds_functionOps (schema : String) (old : Option Routine) (f : Routine) :
    OfKinds [.createFunction, .dropFunction] (functionOps schema old f) := by
  unfold functionOps
  split
  · simp
  · refine ofKinds_ite ofKinds_nil (ofKinds_ite ?_ ?_)
    · simp
    · simp

theorem ofKinds_schemaFunctionOps (c : Comparison) (s : Schema) :
    OfKinds [.createFunction, .dropFunction] (c.schemaFunctionOps s) := by
  rw [schemaFunctionOps, ofKinds_flatMap]
  exact fun f _ => ofKinds_functionOps _ _ f

/-- What types may contribute. -/
def typeKinds : List OpKind :=
  [.createType, .dropType, .addEnumValue, .alterDomain, .alterColumn]

theorem ofKinds_parkColumn (style : Sql.Style) (type : String) (item : TableKey × Column) :
    OfKinds typeKinds (parkColumn style type item) := by
  rw [parkColumn, ofKinds_append]
  exact ⟨ofKinds_ite (by simp [typeKinds]) ofKinds_nil, by simp [typeKinds]⟩

theorem ofKinds_restoreColumn (style : Sql.Style) (type : String) (viaText : Bool)
    (item : TableKey × Column) : OfKinds typeKinds (restoreColumn style type viaText item) := by
  rw [restoreColumn, ofKinds_cons]
  exact ⟨by simp [typeKinds], by simp [typeKinds]⟩

theorem ofKinds_rebuildType {c : Comparison} {schema : String} {old new : TypeDef} {ops : List Op}
    (h : c.rebuildType schema old new = .ok ops) : OfKinds typeKinds ops := by
  have hops : ∀ columns : List (TableKey × Column), OfKinds typeKinds
      (columns.flatMap (parkColumn c.style (placeholder old.body)) ++
        [.dropType (Sql.qualified schema new.name) old.body.isDomain, .createType schema new] ++
        columns.flatMap (restoreColumn c.style (c.style.object schema new.name)
          (!new.body.isDomain))) := by
    intro columns
    simp only [ofKinds_append, ofKinds_flatMap, ofKinds_cons, ofKinds_nil, and_true]
    exact ⟨⟨fun _ _ => ofKinds_parkColumn _ _ _, by simp [typeKinds]⟩,
      fun _ _ => ofKinds_restoreColumn _ _ _ _⟩
  unfold rebuildType at h
  split at h
  · obtain ⟨columns, _, he⟩ := bind_eq_ok.1 h
    rw [← pure_eq_ok.1 he]
    exact hops columns
  · rw [← Except.ok.inj h]
    exact hops []

theorem ofKinds_typeOps {c : Comparison} {schema : String} {t : TypeDef} {ops : List Op}
    (h : c.typeOps schema t = .ok ops) : OfKinds typeKinds ops := by
  simp only [typeOps] at h
  split at h
  · rw [← Except.ok.inj h]
    simp [typeKinds]
  · split at h
    · rw [← Except.ok.inj h]
      exact ofKinds_nil
    · split at h
      · rw [← Except.ok.inj h]
        simp [typeKinds]
      · split at h
        · rw [← Except.ok.inj h]
          simp [typeKinds]
        · exact ofKinds_rebuildType h

/-- What types and functions may contribute. -/
def typePassKinds : Place → List OpKind
  | .stage1 => typeKinds ++ [.createFunction, .dropFunction]
  | _ => []

theorem within_typePass {c : Comparison} {s : Schema} {d : Draft} (h : c.typePass s = .ok d) :
    d.Within typePassKinds := by
  simp only [typePass, schemaTypeOps, bind_eq_ok, pure_eq_ok] at h
  obtain ⟨_, ⟨opss, hopss, rfl⟩, rfl⟩ := h
  refine Draft.within_first (ofKinds_append.2 ⟨?_, ?_⟩)
  · exact ofKinds_of_mapM hopss fun t _ ops hops =>
      (ofKinds_typeOps hops).mono (List.subset_append_left _ _)
  · exact (ofKinds_schemaFunctionOps c s).mono (List.subset_append_right _ _)

/-- What sequences may contribute. -/
def sequenceKinds : Place → List OpKind
  | .stage1 => [.createSequence, .alterSequence]
  | .stage1Tail => [.alterSequence]
  | _ => []

theorem within_sequenceWork (schema : String) (old : Option Sequence) (s : Sequence) :
    (sequenceWork schema old s).Within sequenceKinds := by
  intro p
  cases p with
  | stage1 =>
    simp only [sequenceWork, Draft.opsAt]
    split
    · simp [sequenceKinds]
    · exact ofKinds_ite ofKinds_nil (by simp [sequenceKinds])
  | stage1Tail => exact ofKinds_ite ofKinds_nil (by simp [sequenceKinds])
  | _ => exact ofKinds_nil

theorem within_schemaSequenceWork (c : Comparison) (s : Schema) :
    (c.schemaSequenceWork s).Within sequenceKinds := by
  refine Draft.within_join fun d hd => ?_
  obtain ⟨q, _, rfl⟩ := List.mem_map.1 hd
  exact within_sequenceWork _ _ q

theorem ofKinds_removedObjects (old new : Schema) :
    OfKinds [.dropFunction, .dropSequence, .dropType] (removedObjects old new) := by
  simp [removedObjects]

theorem within_dropRemoved (c : Comparison) : c.dropRemoved.Within fun
    | .stage3 => [.dropFunction, .dropSequence, .dropType, .dropSchema]
    | _ => [] := by
  unfold dropRemoved
  split
  · exact Draft.within_empty
  · intro p
    cases p with
    | stage3 =>
      simp only [Draft.opsAt, ofKinds_append, ofKinds_flatMap, ofKinds_map]
      refine ⟨fun s _ => ?_, by simp⟩
      cases c.new.schema? s.name with
      | none => exact ofKinds_nil
      | some new => exact (ofKinds_removedObjects s new).mono (by simp)
    | _ => exact ofKinds_nil

/-! ### Tables -/

/-- What the columns of a table may contribute. -/
def columnKinds : Place → List OpKind
  | .stage1 => [.addColumn, .renameColumn, .alterColumn, .setSerialValue, .setComment]
  | .stage1Tail => [.backfillColumn]
  | .stage3 => [.alterColumn, .comment, .dropColumn]
  | _ => []

/-- What a column that continues another may contribute. -/
def alterColumnKinds : Place → List OpKind
  | .stage1 => [.renameColumn, .alterColumn, .setComment]
  | .stage1Tail => [.backfillColumn]
  | .stage3 => [.alterColumn, .comment]
  | _ => []

theorem alterColumnKinds_subset (p : Place) : alterColumnKinds p ⊆ columnKinds p := by
  cases p <;> decide

theorem within_backfill (address : String) (col : Column) :
    (backfill address col).Within fun | .stage1Tail => [.backfillColumn] | _ => [] := by
  unfold backfill
  split
  · exact Draft.within_empty
  · refine Draft.within_ite ?_ (Draft.within_ite Draft.within_empty ?_) <;>
      exact fun p => by cases p <;> simp [Draft.opsAt]

theorem within_demandValue (c : Comparison) (address column : String) :
    (c.demandValue address column).Within fun | .stage3 => [.alterColumn, .comment] | _ => [] := by
  unfold demandValue
  refine Draft.within_ite ?_ ?_ <;> exact fun p => by cases p <;> simp [Draft.opsAt]

/-- A column that is to have values is given them and then asked for them. -/
theorem within_demand (c : Comparison) (address : String) (col : Column) :
    (backfill address col ++ c.demandValue address col.name).Within alterColumnKinds :=
  ((within_backfill address col).mono fun p => by cases p <;> decide).append
    ((within_demandValue c address col.name).mono fun p => by cases p <;> decide)

theorem within_describeColumn (address : String) (col : Column) :
    (describeColumn address col).Within alterColumnKinds :=
  Draft.within_first (by simp [alterColumnKinds])

theorem within_addColumn (c : Comparison) (address : String) (col : Column) (dataType : String) :
    (c.addColumn address col dataType).Within columnKinds := by
  refine ((Draft.within_first ?_).append (Draft.within_ite ?_ ?_)).append (Draft.within_ite
    ((within_describeColumn address col).mono alterColumnKinds_subset) Draft.within_empty)
  · simp [columnKinds]
  · exact Draft.within_first (by simp [columnKinds])
  · refine ((Draft.within_first ?_).append ((within_backfill address col).mono fun p => ?_)).append
      (Draft.within_ite Draft.within_empty
        ((within_demandValue c address col.name).mono fun p => ?_))
    · simp [columnKinds]
    · cases p <;> decide
    · cases p <;> decide

theorem within_alterType {address object : String} {col : Column} {oldType newType : String}
    {d : Draft} (h : alterType address object col oldType newType = .ok d) :
    d.Within alterColumnKinds := by
  unfold alterType at h
  split at h
  · rw [← Except.ok.inj h]
    exact Draft.within_empty
  · split at h
    · simp at h
    · rw [← Except.ok.inj h]
      exact Draft.within_first (by simp [alterColumnKinds])

theorem within_alterDefault (address : String) (previous col : Column) :
    (alterDefault address previous col).Within alterColumnKinds :=
  Draft.within_ite Draft.within_empty (Draft.within_first (by simp [alterColumnKinds]))

theorem within_alterNullable (c : Comparison) (address : String) (previous col : Column) :
    (c.alterNullable address previous col).Within alterColumnKinds := by
  unfold alterNullable
  split
  · exact within_demand c address col
  · exact Draft.within_first (by simp [alterColumnKinds])
  · exact Draft.within_empty

theorem within_alterColumn {c : Comparison} {address object : String} {previous : Column}
    {oldType : String} {col : Column} {newType : String} {d : Draft}
    (h : c.alterColumn address object previous oldType col newType = .ok d) :
    d.Within alterColumnKinds := by
  simp only [alterColumn, bind_eq_ok, pure_eq_ok] at h
  obtain ⟨type, htype, rfl⟩ := h
  exact (((within_alterType htype).append (within_alterDefault address previous col)).append
    (within_alterNullable c address previous col)).append
    (Draft.within_ite Draft.within_empty (within_describeColumn address col))

theorem within_columnWork {c : Comparison} {oldSchema : String} {oldTable : Table}
    {schema : String} {table : Table} {col : Column} {d : Draft} {old : Option (Column × Bool)}
    (h : c.columnWork oldSchema oldTable schema table col = .ok (d, old)) :
    d.Within columnKinds := by
  simp only [columnWork, bind_eq_ok] at h
  obtain ⟨newType, _, found, _, h⟩ := h
  rcases found with _ | ⟨previous, renamed⟩
  · rw [← (Prod.mk.inj (pure_eq_ok.1 h)).1]
    exact within_addColumn c _ col newType
  · simp only [bind_eq_ok, pure_eq_ok] at h
    obtain ⟨oldType, _, changes, hchanges, he⟩ := h
    rw [← (Prod.mk.inj he).1]
    refine (Draft.within_ite (Draft.within_first ?_) Draft.within_empty).append
      ((within_alterColumn hchanges).mono alterColumnKinds_subset)
    simp [columnKinds]

theorem ofKinds_removeColumn (address : String) (continuations : List (String × String × Bool))
    (previous : Column) :
    OfKinds [.comment, .dropColumn] (removeColumn address continuations previous) := by
  unfold removeColumn
  split
  · simp
  · exact ofKinds_ite ofKinds_nil (by simp)

theorem within_columnsWork {c : Comparison} {oldSchema : String} {oldTable : Table}
    {schema : String} {table : Table} {d : Draft}
    (h : c.columnsWork oldSchema oldTable schema table = .ok d) : d.Within columnKinds := by
  simp only [columnsWork, bind_eq_ok, pure_eq_ok] at h
  obtain ⟨work, hwork, rfl⟩ := h
  refine (Draft.within_join fun d hd => ?_).append fun p => ?_
  · obtain ⟨w, hw, rfl⟩ := List.mem_map.1 hd
    obtain ⟨col, _, hcol⟩ := exists_source_of_mapM hwork hw
    obtain ⟨r, hr, he⟩ := bind_eq_ok.1 hcol
    rw [← pure_eq_ok.1 he]
    exact within_columnWork hr
  · cases p with
    | stage3 => exact ofKinds_flatMap.2 fun col _ => (ofKinds_removeColumn _ _ col).mono (by decide)
    | _ => exact ofKinds_nil

/-- What a table may contribute by itself. -/
def tableKinds : Place → List OpKind
  | .stage1 => [.createTable, .setTableSchema, .renameTable, .setComment, .setSerialValue] ++
      columnKinds .stage1
  | p => columnKinds p

theorem columnKinds_subset (p : Place) : columnKinds p ⊆ tableKinds p := by
  cases p <;> decide

/-- A new table is created first, and then spoken about. -/
theorem exists_of_createTable {c : Comparison} {schema : String} {table : Table} {ops : List Op}
    (h : c.createTable schema table = .ok ops) : ∃ columns rest,
      ops = .createTable (Sql.qualified schema table.name) columns (table.inherits.map fun parent =>
        Sql.qualified (parent.resolve schema).1 (parent.resolve schema).2) :: rest ∧
        OfKinds [.setComment, .setSerialValue] rest := by
  simp only [createTable, bind_eq_ok, pure_eq_ok] at h
  obtain ⟨columns, _, rfl⟩ := h
  refine ⟨columns, _, rfl, ofKinds_append.2 ⟨ofKinds_ite (by simp) ofKinds_nil, ?_⟩⟩
  refine ofKinds_flatMap.2 fun col _ => ?_
  exact ofKinds_append.2 ⟨ofKinds_ite (by simp) ofKinds_nil, by simp⟩

theorem ofKinds_createTable {c : Comparison} {schema : String} {table : Table} {ops : List Op}
    (h : c.createTable schema table = .ok ops) :
    OfKinds [.createTable, .setComment, .setSerialValue] ops := by
  obtain ⟨_, _, rfl, hrest⟩ := exists_of_createTable h
  exact ofKinds_cons.2 ⟨by simp, hrest.mono (by simp)⟩

theorem ofKinds_renameTable (oldSchema oldName schema name : String) :
    OfKinds [.setTableSchema, .renameTable] (renameTable oldSchema oldName schema name) :=
  ofKinds_append.2 ⟨ofKinds_ite (by simp) ofKinds_nil,
    ofKinds_ite (by simp) ofKinds_nil⟩

theorem within_tableWork {c : Comparison} {schema : String} {table : Table} {d : Draft}
    (h : c.tableWork schema table = .ok d) : d.Within tableKinds := by
  unfold tableWork at h
  split at h
  · simp only [bind_eq_ok, pure_eq_ok] at h
    obtain ⟨ops, hops, rfl⟩ := h
    exact Draft.within_first ((ofKinds_createTable hops).mono (by simp [tableKinds]))
  · simp only [bind_eq_ok, pure_eq_ok] at h
    obtain ⟨columns, hcolumns, rfl⟩ := h
    refine ((Draft.within_first ?_).append
      ((within_columnsWork hcolumns).mono columnKinds_subset)).append
      (Draft.within_ite Draft.within_empty (Draft.within_first ?_))
    · exact (ofKinds_renameTable _ _ _ _).mono (by simp [tableKinds])
    · simp [tableKinds]

theorem ofKinds_tableIndexOps (c : Comparison) (schema : String) (table : Table) :
    OfKinds [.dropIndex, .createIndex] (c.tableIndexOps schema table) := by
  simp [tableIndexOps, indexOps]

theorem ofKinds_clusterOps (c : Comparison) (schema : String) (table : Table) :
    OfKinds [.setCluster] (c.clusterOps schema table) :=
  ofKinds_ite ofKinds_nil (by simp)

theorem ofKinds_tableTriggerOps (c : Comparison) (s : Schema) (table : Table) :
    OfKinds [.dropTrigger, .createTrigger] (c.tableTriggerOps s table) := by
  simp [tableTriggerOps, triggerOps]

theorem ofKinds_addPrimaryKey {c : Comparison} {drops : List Constraint} {schema : String}
    {table : Table} {ops : List Op} (h : c.addPrimaryKey drops schema table = .ok ops) :
    OfKinds [.addConstraint] ops := by
  simp only [addPrimaryKey, bind_eq_ok, pure_eq_ok] at h
  obtain ⟨_, _, rfl⟩ := h
  simp

theorem ofKinds_addConstraints {c : Comparison} {drops : List Constraint} {schema : String}
    {table : Table} {ops : List Op} (h : c.addConstraints drops schema table = .ok ops) :
    OfKinds [.addConstraint] ops := by
  simp only [addConstraints, bind_eq_ok, pure_eq_ok] at h
  obtain ⟨_, _, rfl⟩ := h
  simp

theorem ofKinds_dropConstraintOps (drops : List Constraint) :
    OfKinds [.dropConstraint] (dropConstraintOps drops) := by
  simp [dropConstraintOps]

/-- What tables that go away contribute. -/
def tableDropKinds : Place → List OpKind
  | .stage3 => [.dropTable]
  | _ => []

theorem within_dropTables (c : Comparison) : c.dropTables.Within tableDropKinds := by
  intro p
  cases p with
  | stage3 =>
    intro op hop
    obtain ⟨⟨s, t⟩, _, he⟩ := List.mem_filterMap.1 hop
    simp only [Option.ite_none_right_eq_some, Option.some.injEq] at he
    rw [← he.2]
    simp [tableDropKinds]
  | _ => exact ofKinds_nil

/-! ### Privileges and views -/

/-- What owners and privileges may contribute. -/
def privilegeKinds : List OpKind :=
  [.alterOwner, .revoke, .grant]

theorem ofKinds_objectOps (c : Comparison) (object : ObjectRef) (owner : Option String)
    (grants : List Grant) (old : Option (Option String × List Grant)) :
    OfKinds privilegeKinds (c.objectOps object owner grants old) := by
  refine ofKinds_append.2 ⟨ofKinds_ite ?_ ofKinds_nil, ofKinds_ite ?_ ofKinds_nil⟩
  · unfold ownerOps
    split
    · exact ofKinds_nil
    · exact ofKinds_ite ofKinds_nil (by simp [privilegeKinds])
  · refine ofKinds_append.2 ⟨?_, ?_⟩
    · rw [ofKinds_flatMap]
      exact fun _ _ => ofKinds_ite ofKinds_nil (by simp [privilegeKinds])
    · simp only [ofKinds_flatMap]
      exact fun _ _ _ _ => ofKinds_ite ofKinds_nil (by simp [privilegeKinds])

theorem ofKinds_schemaPrivilegeOps (c : Comparison) (s : Schema) :
    OfKinds privilegeKinds (c.schemaPrivilegeOps s) := by
  simp only [schemaPrivilegeOps, ofKinds_append, ofKinds_flatMap]
  refine ⟨⟨⟨⟨?_, fun t _ => ?_⟩, fun q _ => ?_⟩, fun f _ => ?_⟩, fun t _ => ?_⟩ <;>
    exact ofKinds_objectOps _ _ _ _ _

/-- What views may contribute. -/
def viewKinds : Place → List OpKind
  | .viewDrops => [.dropView]
  | .viewCreates => [.createView, .setComment] ++ privilegeKinds
  | _ => []

theorem within_viewWork [QueryReader] (c : Comparison) (structural : Bool) :
    (c.viewWork structural).Within viewKinds := by
  have hcreate : ∀ item, OfKinds (viewKinds .viewCreates) (c.createView item) := by
    intro item
    refine ofKinds_append.2 ⟨ofKinds_cons.2 ⟨by simp [viewKinds], ?_⟩, ?_⟩
    · exact ofKinds_ite (by simp [viewKinds]) ofKinds_nil
    · exact (ofKinds_objectOps _ _ _ _ _).mono (List.subset_append_right _ _)
  have hrebuild : ∀ drops : List Op, OfKinds [.dropView] drops →
      ({ viewDrops := drops, viewCreates := (viewOrder c.new).flatMap c.createView } :
        Draft).Within viewKinds := by
    intro drops hdrops p
    cases p with
    | viewDrops => exact hdrops
    | viewCreates => exact ofKinds_flatMap.2 fun item _ => hcreate item
    | _ => exact ofKinds_nil
  simp only [viewWork]
  split
  · exact Draft.within_empty
  next drops hd =>
    refine hrebuild drops ?_
    split at hd
    · rw [← Option.some.inj hd]
      exact ofKinds_nil
    · split at hd
      · simp at hd
      · rw [← Option.some.inj hd, ofKinds_map]
        exact fun _ _ => List.mem_singleton_self _

/-! ### Rows -/

/-- What static rows may contribute. -/
def rowKinds : Place → List OpKind
  | .stage2 => [.deleteRow, .insertRow, .updateRow, .setSerialValue]
  | _ => []

theorem ofKinds_tableDeletes {c : Comparison} {schema : String} {table : Table} {ops : List Op}
    (h : c.tableDeletes schema table = .ok ops) : OfKinds [.deleteRow] ops := by
  simp only [tableDeletes, bind_eq_ok] at h
  obtain ⟨sides, _, h⟩ := h
  split at h
  · intro op hop
    obtain ⟨row, _, hrow⟩ := exists_source_of_mapM h hop
    obtain ⟨key, _, he⟩ := bind_eq_ok.1 hrow
    rw [← pure_eq_ok.1 he]
    simp
  · rw [← pure_eq_ok.1 h]
    exact ofKinds_nil

theorem ofKinds_insertRow {address : String} {new : StaticRows} {row : Row} {ops : List Op}
    (h : insertRow address new row = .ok ops) : OfKinds [.insertRow, .updateRow] ops := by
  simp only [insertRow, bind_eq_ok, pure_eq_ok] at h
  obtain ⟨_, _, rfl⟩ := h
  simp

theorem ofKinds_updateRow {c : Comparison} {address : String} {new old : StaticRows}
    {row previous : Row} {ops : List Op} (h : c.updateRow address new old row previous = .ok ops) :
    OfKinds [.insertRow, .updateRow] ops := by
  simp only [updateRow, bind_eq_ok] at h
  obtain ⟨_, _, h⟩ := h
  split at h
  · rw [← pure_eq_ok.1 h]
    exact ofKinds_nil
  · obtain ⟨_, _, he⟩ := bind_eq_ok.1 h
    rw [← pure_eq_ok.1 he]
    simp

theorem ofKinds_upsertRow {c : Comparison} {address : String} {new : StaticRows}
    {old : Option StaticRows} {row : Row} {ops : List Op}
    (h : c.upsertRow address new old row = .ok ops) : OfKinds [.insertRow, .updateRow] ops := by
  unfold upsertRow at h
  split at h
  · exact ofKinds_insertRow h
  · split at h
    · exact ofKinds_insertRow h
    · exact ofKinds_updateRow h

theorem ofKinds_advanceKey (new : StaticRows) (address : String) :
    OfKinds [.setSerialValue] (advanceKey new address) := by
  unfold advanceKey
  split
  · split
    · exact ofKinds_nil
    · exact ofKinds_ite (by simp) ofKinds_nil
  · exact ofKinds_nil

theorem ofKinds_tableUpserts {c : Comparison} {schema : String} {table : Table} {ops : List Op}
    (h : c.tableUpserts schema table = .ok ops) :
    OfKinds [.insertRow, .updateRow, .setSerialValue] ops := by
  simp only [tableUpserts, bind_eq_ok] at h
  obtain ⟨sides, _, h⟩ := h
  split at h
  · simp only [upsertRows, bind_eq_ok, pure_eq_ok] at h
    obtain ⟨opss, hopss, rfl⟩ := h
    refine ofKinds_append.2 ⟨?_, ofKinds_ite ?_ ofKinds_nil⟩
    · exact ofKinds_of_mapM hopss fun row _ ops hops => (ofKinds_upsertRow hops).mono (by simp)
    · exact (ofKinds_advanceKey _ _).mono (by simp)
  · rw [← pure_eq_ok.1 h]
    exact ofKinds_nil

theorem within_rowWork {c : Comparison} {d : Draft} (h : c.rowWork = .ok d) :
    d.Within rowKinds := by
  simp only [rowWork, bind_eq_ok, pure_eq_ok] at h
  obtain ⟨deletes, hdeletes, upserts, hupserts, rfl⟩ := h
  intro p
  cases p with
  | stage2 =>
    refine ofKinds_append.2 ⟨?_, ?_⟩
    · exact ofKinds_of_mapM hdeletes fun _ _ _ hops =>
        (ofKinds_tableDeletes hops).mono (by simp [rowKinds])
    · exact ofKinds_of_mapM hupserts fun _ _ _ hops =>
        (ofKinds_tableUpserts hops).mono (by simp [rowKinds])
  | _ => exact ofKinds_nil

end Comparison

theorem Draft.ofKinds_customOps (entry : CustomSql) :
    OfKinds [.comment, .customSql] (customOps entry) := by
  rw [customOps, ofKinds_append]
  exact ⟨by simp, by simp⟩

end SchemaPlan
