import SchemaPlan.Proofs.Refusals
import SchemaPlan.Proofs.Stages

/-!
# One script for all stages

A script that is run in one piece cannot wait until every row has a value.  So where the stages would
demand values of a column, the plan for a single script remarks on it instead, and that is all the
difference it makes: `planWithOrders_singleStage` says that the two plans, or the two errors, are the
same up to `Op.relaxed`.

The demand is made in one place only (`demandValue_relaxed`), and what is not a demand is left as it
is (`map_relaxed_of_fitAt`).  Nothing is added or taken away, hence views are rebuilt in either plan or
in neither (`isStructural_relaxed`).
-/

namespace SchemaPlan

/-! ### Demands turned into remarks -/

/-- Whether the operation demands values of a column. -/
def Op.demandsValues : Op → Bool
  | .alterColumn _ _ .setNotNull => true
  | _ => false

/-- The operation, or the remark that stands for a demand on a column. -/
def Op.relaxed : Op → Op
  | .alterColumn table column .setNotNull =>
    .comment (table ++ "." ++ column ++ " should be NOT NULL; skipped in a single-stage script")
  | op => op

/-- The operation as planned, with a remark for a demand. -/
def PlannedOp.relaxed (p : PlannedOp) : PlannedOp :=
  { p with op := p.op.relaxed }

/-- The plan with remarks in the place of demands. -/
def Plan.relaxed (p : Plan) : Plan :=
  p.map (·.relaxed)

@[simp] theorem Op.demandsValues_relaxed (op : Op) : op.relaxed.demandsValues = false := by
  unfold relaxed
  split
  · rfl
  next h =>
    unfold demandsValues
    split
    · exact absurd rfl (h _ _)
    · rfl

theorem Op.relaxed_eq_self {op : Op} (h : op.demandsValues = false) : op.relaxed = op := by
  unfold relaxed
  split
  · cases h
  · rfl

theorem map_relaxed_eq_self {ops : List Op} (h : ∀ op ∈ ops, op.demandsValues = false) :
    ops.map Op.relaxed = ops := by
  rw [List.map_congr_left fun op hop => Op.relaxed_eq_self (h op hop), List.map_id']

/-- Values are demanded in the third stage only. -/
theorem map_relaxed_of_fitAt {place : Place} {ops : List Op} (h : FitAt place ops)
    (hne : place ≠ .stage3) : ops.map Op.relaxed = ops := by
  refine map_relaxed_eq_self fun op hop => ?_
  have hplace := h op hop
  unfold Op.demandsValues
  split
  · exact absurd (List.mem_singleton.1 hplace) hne
  · rfl

theorem map_relaxed_toList {α : Type} {x : Option α} {f : α → Op} (h : ∀ a, (f a).relaxed = f a) :
    (x.map f).toList.map Op.relaxed = (x.map f).toList := by
  cases x with
  | none => rfl
  | some a => simp [h]

theorem map_relaxed_of_ofKinds {kinds : List OpKind} {ops : List Op} (h : OfKinds kinds ops)
    (hkind : .alterColumn ∉ kinds) : ops.map Op.relaxed = ops := by
  refine map_relaxed_eq_self fun op hop => ?_
  unfold Op.demandsValues
  split
  · exact absurd (h _ hop) hkind
  · rfl

namespace Draft

/-- The draft with remarks in the place of demands. -/
def relaxed (d : Draft) : Draft where
  viewDrops := d.viewDrops.map Op.relaxed
  stage1 := d.stage1.map Op.relaxed
  stage1Tail := d.stage1Tail.map Op.relaxed
  stage2 := d.stage2.map Op.relaxed
  stage3 := d.stage3.map Op.relaxed
  viewCreates := d.viewCreates.map Op.relaxed
  stage4 := d.stage4.map Op.relaxed

@[simp] theorem opsAt_relaxed (d : Draft) (place : Place) :
    d.relaxed.opsAt place = (d.opsAt place).map Op.relaxed := by
  cases place <;> rfl

@[simp] theorem relaxed_empty : ({} : Draft).relaxed = {} :=
  rfl

@[simp] theorem relaxed_append (a b : Draft) : (a ++ b).relaxed = a.relaxed ++ b.relaxed :=
  ext_opsAt fun place => by simp

@[simp] theorem relaxed_join (ds : List Draft) :
    (join ds).relaxed = join (ds.map relaxed) := by
  refine ext_opsAt fun place => ?_
  simp [List.map_flatMap, List.flatMap_map]

theorem relaxed_ite {p : Prop} [Decidable p] (a b : Draft) :
    (if p then a else b).relaxed = if p then a.relaxed else b.relaxed :=
  apply_ite relaxed p a b

theorem relaxed_first (ops : List Op) : (first ops).relaxed = first (ops.map Op.relaxed) :=
  rfl

/-- A draft is left as it is where nothing is planned that demands values. -/
theorem InPlace.relaxed_eq_self {d : Draft} (h : d.InPlace)
    (hstage3 : ∀ op ∈ d.opsAt .stage3, op.demandsValues = false) : d.relaxed = d := by
  refine ext_opsAt fun place => ?_
  rw [opsAt_relaxed]
  by_cases hplace : place = .stage3
  · rw [hplace]
    exact map_relaxed_eq_self hstage3
  · exact map_relaxed_of_fitAt (h place) hplace

theorem Within.relaxed_eq_self {d : Draft} {kinds : Place → List OpKind} (h : d.Within kinds)
    (hkind : ∀ place, .alterColumn ∉ kinds place) : d.relaxed = d :=
  ext_opsAt fun place => by
    rw [opsAt_relaxed, map_relaxed_of_ofKinds (h place) (hkind place)]

theorem isStructural_relaxed (d : Draft) : d.relaxed.isStructural = d.isStructural := by
  simp [isStructural, relaxed]

/-- Own statements stay as they are. -/
theorem toPlan_relaxed (d : Draft) (custom : List CustomSql) :
    d.relaxed.toPlan custom = (d.toPlan custom).relaxed := by
  have hcustom : ∀ entries : List CustomSql,
      (entries.flatMap customOps).map Op.relaxed = entries.flatMap customOps := fun entries =>
    map_relaxed_of_ofKinds (Comparison.ofKinds_custom entries) (by decide)
  have hstage : ∀ stage, d.relaxed.ofStage stage = (d.ofStage stage).map Op.relaxed := by
    intro stage
    cases stage <;> simp [ofStage, relaxed]
  have hstageOps : ∀ stage,
      d.relaxed.stageOps custom stage = (d.stageOps custom stage).map Op.relaxed := by
    intro stage
    rw [stageOps, stageOps, hstage, List.map_append, List.map_append, hcustom, hcustom]
  rw [toPlan, Plan.relaxed, toPlan, List.map_flatMap]
  congr 1
  funext stage
  rw [hstageOps, List.map_map, List.map_map]
  rfl

end Draft

/-! ### One comparison with either choice -/

section Outcomes

variable {ε α β γ : Type}

theorem map_bind_eq {x : Except ε α} {f : α → Except ε β} {g : β → γ} :
    (x >>= f).map g = x >>= fun a => (f a).map g := by
  cases x <;> rfl

/-- What follows a computation only matters for the results that it gives. -/
theorem bind_congr_of_ok {x : Except ε α} {f g : α → Except ε β}
    (h : ∀ a, x = .ok a → f a = g a) : x >>= f = x >>= g := by
  cases x with
  | error e => rfl
  | ok a => exact h a rfl

theorem bind_map_eq {x : Except ε α} {f : α → β} {g : β → Except ε γ} :
    x.map f >>= g = x >>= fun a => g (f a) := by
  cases x <;> rfl

theorem mapM_eq_map_mapM {f f' : α → Except ε β} {g : β → β} {xs : List α}
    (h : ∀ x ∈ xs, f' x = (f x).map g) : xs.mapM f' = (xs.mapM f).map (List.map g) := by
  induction xs with
  | nil => rfl
  | cons x xs ih =>
    rw [List.mapM_cons, List.mapM_cons, h x List.mem_cons_self,
      ih fun y hy => h y (List.mem_cons_of_mem _ hy), bind_map_eq, map_bind_eq]
    cases f x with
    | error e => rfl
    | ok y => cases xs.mapM f <;> rfl

end Outcomes

namespace Comparison

/-- The comparison with another choice of how the stages are run. -/
def withSingleStage (c : Comparison) (singleStage : Bool) : Comparison :=
  { c with options := { c.options with singleStage } }

/-- The comparison where the stages are run as one script. -/
abbrev atOnce (c : Comparison) : Comparison :=
  c.withSingleStage true

/-- The comparison where the stages are run one by one. -/
abbrev inStages (c : Comparison) : Comparison :=
  c.withSingleStage false

theorem make_withSingleStage (old : Option Database) (new : Database)
    (newOrder oldOrder : Option (List OrderItem)) (style : Sql.Style) (options : Options)
    (singleStage : Bool) :
    make old new newOrder oldOrder style { options with singleStage } =
      (make old new newOrder oldOrder style options).map (·.withSingleStage singleStage) :=
  make_map_options (fun o => { o with singleStage }) (fun _ => rfl) old new newOrder oldOrder style
    options

variable (c : Comparison)

/-- **Where values would be demanded, a remark is made.** -/
theorem demandValue_relaxed (address column : String) :
    c.atOnce.demandValue address column = (c.inStages.demandValue address column).relaxed :=
  rfl

theorem backfill_relaxed (address : String) (col : Column) :
    (backfill address col).relaxed = backfill address col := by
  unfold backfill
  split
  · rfl
  · split
    · rfl
    · split <;> rfl

theorem describeColumn_relaxed (address : String) (col : Column) :
    (describeColumn address col).relaxed = describeColumn address col :=
  rfl

theorem addColumn_relaxed (address : String) (col : Column) (dataType : String) :
    c.atOnce.addColumn address col dataType =
      (c.inStages.addColumn address col dataType).relaxed := by
  have hadd : (Op.addColumn address { name := col.name, dataType }).relaxed =
      .addColumn address { name := col.name, dataType } := rfl
  have hserial : ∀ start, (Op.setSerialValue address col.name (.start start)).relaxed =
      .setSerialValue address col.name (.start start) := fun _ => rfl
  have hdefault : ∀ value, (Op.alterColumn address col.name (.setDefault value)).relaxed =
      .alterColumn address col.name (.setDefault value) := fun _ => rfl
  simp only [addColumn, Draft.relaxed_append, Draft.relaxed_ite, Draft.relaxed_first,
    backfill_relaxed, demandValue_relaxed, describeColumn_relaxed, List.map_nil, List.map_cons,
    map_relaxed_toList hserial, map_relaxed_toList hdefault, hadd]

theorem alterNullable_relaxed (address : String) (previous col : Column) :
    c.atOnce.alterNullable address previous col =
      (c.inStages.alterNullable address previous col).relaxed := by
  unfold alterNullable
  split
  · rw [Draft.relaxed_append, backfill_relaxed, demandValue_relaxed]
  · rfl
  · rfl

theorem alterDefault_relaxed (address : String) (previous col : Column) :
    (alterDefault address previous col).relaxed = alterDefault address previous col := by
  unfold alterDefault
  split
  · rfl
  · cases col.default? <;> rfl

theorem alterType_relaxed {address object : String} {col : Column} {oldType newType : String}
    {d : Draft} (h : alterType address object col oldType newType = .ok d) : d.relaxed = d := by
  unfold alterType at h
  split at h
  · cases h
    rfl
  · split at h
    · cases h
    · cases h
      rfl

theorem alterColumn_relaxed (address object : String) (previous : Column) (oldType : String)
    (col : Column) (newType : String) :
    c.atOnce.alterColumn address object previous oldType col newType =
      (c.inStages.alterColumn address object previous oldType col newType).map Draft.relaxed := by
  unfold alterColumn
  rw [map_bind_eq]
  refine bind_congr_of_ok fun type htype => congrArg Except.ok ?_
  rw [alterNullable_relaxed, Draft.relaxed_append, Draft.relaxed_append, Draft.relaxed_append,
    alterType_relaxed htype, alterDefault_relaxed, Draft.relaxed_ite, Draft.relaxed_empty,
    describeColumn_relaxed]

theorem columnWork_relaxed (oldSchema : String) (oldTable : Table) (schema : String)
    (table : Table) (col : Column) :
    c.atOnce.columnWork oldSchema oldTable schema table col =
      (c.inStages.columnWork oldSchema oldTable schema table col).map
        (Prod.map Draft.relaxed id) := by
  unfold columnWork
  rw [map_bind_eq]
  refine bind_congr fun newType => ?_
  rw [map_bind_eq]
  refine bind_congr fun old => ?_
  rcases old with _ | ⟨previous, renamed⟩
  · rw [addColumn_relaxed]
    rfl
  · dsimp only
    rw [map_bind_eq]
    refine bind_congr fun oldType => ?_
    rw [alterColumn_relaxed, bind_map_eq, map_bind_eq]
    refine bind_congr fun changes => congrArg Except.ok (Prod.ext ?_ rfl)
    show _ = Draft.relaxed _
    rw [Draft.relaxed_append, Draft.relaxed_ite]
    rfl

theorem removeColumn_relaxed (address : String) (continuations : List (String × String × Bool))
    (previous : Column) : (removeColumn address continuations previous).map Op.relaxed =
      removeColumn address continuations previous :=
  map_relaxed_of_ofKinds (ofKinds_removeColumn address continuations previous) (by decide)

theorem columnsWork_relaxed (oldSchema : String) (oldTable : Table) (schema : String)
    (table : Table) :
    c.atOnce.columnsWork oldSchema oldTable schema table =
      (c.inStages.columnsWork oldSchema oldTable schema table).map Draft.relaxed := by
  unfold columnsWork
  rw [map_bind_eq, mapM_eq_map_mapM (g := Prod.map id (Prod.map Draft.relaxed id))
    (f := fun col => do return (col, ← c.inStages.columnWork oldSchema oldTable schema table col))
    fun col _ => ?_, bind_map_eq]
  · refine bind_congr fun work => congrArg Except.ok ?_
    have hdrafts : (work.map (Prod.map id (Prod.map Draft.relaxed id))).map (·.2.1) =
        (work.map (·.2.1)).map Draft.relaxed := by
      rw [List.map_map, List.map_map]
      rfl
    rw [List.filterMap_map, hdrafts, ← Draft.relaxed_join, Draft.relaxed_append]
    congr 1
    refine Draft.ext_opsAt fun place => ?_
    cases place with
    | stage3 =>
      show oldTable.columns.flatMap _ = (oldTable.columns.flatMap _).map Op.relaxed
      rw [List.map_flatMap]
      simp only [removeColumn_relaxed]
      rfl
    | _ => rfl
  · rw [columnWork_relaxed, bind_map_eq, map_bind_eq]
    rfl

theorem tableWork_relaxed (schema : String) (table : Table) :
    c.atOnce.tableWork schema table = (c.inStages.tableWork schema table).map Draft.relaxed := by
  have hversion : c.atOnce.oldVersion? schema table.name =
      c.inStages.oldVersion? schema table.name := rfl
  unfold tableWork
  rw [hversion]
  rcases c.inStages.oldVersion? schema table.name with _ | ⟨oldSchema, oldTable⟩
  · have hcreate : c.atOnce.createTable schema table = c.inStages.createTable schema table := rfl
    dsimp only
    rw [hcreate, map_bind_eq]
    refine bind_congr_of_ok fun ops hops => congrArg Except.ok ?_
    rw [Draft.relaxed_first, map_relaxed_of_ofKinds (ofKinds_createTable hops) (by decide)]
  · dsimp only
    rw [columnsWork_relaxed, bind_map_eq, map_bind_eq]
    refine bind_congr fun columns => congrArg Except.ok ?_
    rw [Draft.relaxed_append, Draft.relaxed_append, Draft.relaxed_ite, Draft.relaxed_first,
      map_relaxed_of_ofKinds (ofKinds_renameTable _ _ _ _) (by decide)]
    rfl

theorem tablePass_relaxed (drops : List Constraint) (item : Schema × Table) :
    c.atOnce.tablePass drops item = (c.inStages.tablePass drops item).map Draft.relaxed := by
  have hkey : c.atOnce.addPrimaryKey drops item.1.name item.2 =
      c.inStages.addPrimaryKey drops item.1.name item.2 := rfl
  have hindexes : c.atOnce.tableIndexOps item.1.name item.2 =
      c.inStages.tableIndexOps item.1.name item.2 := rfl
  have hcluster : c.atOnce.clusterOps item.1.name item.2 =
      c.inStages.clusterOps item.1.name item.2 := rfl
  have htriggers : c.atOnce.tableTriggerOps item.1 item.2 =
      c.inStages.tableTriggerOps item.1 item.2 := rfl
  simp only [tablePass, tableWork_relaxed, hkey, hindexes, hcluster, htriggers, map_bind_eq,
    bind_map_eq]
  refine bind_congr fun work => bind_congr_of_ok fun key hkeyOps => congrArg Except.ok ?_
  have hkinds := (((ofKinds_tableIndexOps c.inStages item.1.name item.2).append
    (ofKinds_clusterOps c.inStages item.1.name item.2)).append
    (ofKinds_addPrimaryKey hkeyOps)).append (ofKinds_tableTriggerOps c.inStages item.1 item.2)
  rw [Draft.relaxed_append, Draft.relaxed_first, map_relaxed_of_ofKinds hkinds (by decide)]

theorem constraintDrops_atOnce : c.atOnce.constraintDrops = c.inStages.constraintDrops := by
  have htableDrops : c.atOnce.tableDrops = c.inStages.tableDrops := tableDrops_congr rfl rfl rfl
  rw [constraintDrops, constraintDrops, htableDrops]
  rfl

/-- The work on types demands values of no column. -/
theorem join_typePass_relaxed {types : List Draft}
    (h : c.newSchemas.mapM c.typePass = .ok types) :
    (Draft.join types).relaxed = Draft.join types := by
  have hsource : ∀ d ∈ types, ∃ s, c.typePass s = .ok d := fun d hd => by
    obtain ⟨s, _, hs⟩ := exists_source_of_mapM h hd
    exact ⟨s, hs⟩
  refine Draft.InPlace.relaxed_eq_self (Draft.inPlace_join.2 fun d hd => ?_) fun op hop => ?_
  · obtain ⟨s, hs⟩ := hsource d hd
    exact inPlace_typePass hs
  · rw [Draft.opsAt_join] at hop
    obtain ⟨d, hd, hop⟩ := List.mem_flatMap.1 hop
    obtain ⟨s, hs⟩ := hsource d hd
    rw [(within_typePass hs .stage3).eq_nil] at hop
    cases hop

/-- **The work on structure, with remarks in the place of demands.** -/
theorem structureWork_relaxed :
    c.atOnce.structureWork = c.inStages.structureWork.map Draft.relaxed := by
  have hschemas : c.atOnce.newSchemas = c.inStages.newSchemas := rfl
  have htypePass : c.atOnce.typePass = c.inStages.typePass := rfl
  have htablePass : ∀ drops, c.atOnce.newTables.mapM (c.atOnce.tablePass drops) =
      (c.inStages.newTables.mapM (c.inStages.tablePass drops)).map (List.map Draft.relaxed) :=
    fun drops => mapM_eq_map_mapM fun item _ => c.tablePass_relaxed drops item
  have hadd : ∀ drops, c.atOnce.newTables.mapM
      (fun item => c.atOnce.addConstraints drops item.1.name item.2) =
      c.inStages.newTables.mapM fun item => c.inStages.addConstraints drops item.1.name item.2 :=
    fun _ => rfl
  simp only [structureWork, hschemas, htypePass, constraintDrops_atOnce, htablePass, hadd,
    map_bind_eq, bind_map_eq]
  refine bind_congr_of_ok fun types htypes => bind_congr fun drops => bind_congr fun tables =>
    bind_congr_of_ok fun adds hadds => congrArg Except.ok ?_
  have hschemaOps : OfKinds [.createSchema, .setComment]
      (c.inStages.newSchemas.flatMap c.inStages.schemaOps) :=
    ofKinds_flatMap.2 fun s _ => ofKinds_schemaOps _ s
  have hsequences : (Draft.join (c.inStages.newSchemas.map c.inStages.schemaSequenceWork)).Within
      sequenceKinds := Draft.within_join fun d hd => by
    obtain ⟨s, _, rfl⟩ := List.mem_map.1 hd
    exact within_schemaSequenceWork _ s
  have hprivileges : OfKinds privilegeKinds
      (c.inStages.newSchemas.flatMap c.inStages.schemaPrivilegeOps) :=
    ofKinds_flatMap.2 fun s _ => ofKinds_schemaPrivilegeOps _ s
  simp only [Draft.relaxed_append, Draft.relaxed_first, Draft.relaxed_join tables,
    join_typePass_relaxed _ htypes, map_relaxed_of_ofKinds hschemaOps (by decide),
    map_relaxed_of_ofKinds (ofKinds_dropConstraintOps drops) (by decide),
    map_relaxed_of_ofKinds (ofKinds_of_mapM_addConstraints hadds) (by decide),
    map_relaxed_of_ofKinds hprivileges (by decide),
    hsequences.relaxed_eq_self fun place => by cases place <;> decide,
    (within_dropTables c.inStages).relaxed_eq_self fun place => by cases place <;> decide,
    (within_dropRemoved c.inStages).relaxed_eq_self fun place => by cases place <;> decide]
  rfl

theorem schemaWork_relaxed [QueryReader] :
    c.atOnce.schemaWork = c.inStages.schemaWork.map Draft.relaxed := by
  have hcheck : c.atOnce.checkInheritance = c.inStages.checkInheritance := rfl
  have hviews : ∀ structural, c.atOnce.viewWork structural = c.inStages.viewWork structural :=
    fun _ => rfl
  simp only [schemaWork, hcheck, structureWork_relaxed, map_bind_eq, bind_map_eq, hviews,
    Draft.isStructural_relaxed]
  refine bind_congr fun _ => bind_congr fun work => congrArg Except.ok ?_
  rw [Draft.relaxed_append, (within_viewWork c.inStages _).relaxed_eq_self]
  exact fun place => by cases place <;> decide

/-- **The two plans for a comparison**, or the two errors. -/
theorem plan_relaxed [QueryReader] : c.atOnce.plan = c.inStages.plan.map Plan.relaxed := by
  have hdata : c.atOnce.options.onlyData = c.inStages.options.onlyData := rfl
  have hschema : c.atOnce.options.onlySchema = c.inStages.options.onlySchema := rfl
  have hrowWork : c.atOnce.rowWork = c.inStages.rowWork := rfl
  have hcustom : c.atOnce.customSql = c.inStages.customSql := rfl
  have hwork : (if c.inStages.options.onlyData then .ok {} else c.atOnce.schemaWork) =
      (if c.inStages.options.onlyData then .ok {} else c.inStages.schemaWork).map Draft.relaxed := by
    split
    · rfl
    · exact c.schemaWork_relaxed
  rw [plan_eq_bind, plan_eq_bind, hdata, hschema, hrowWork, hcustom, hwork, bind_map_eq,
    map_bind_eq]
  refine bind_congr fun schema => ?_
  rw [map_bind_eq]
  refine bind_congr_of_ok fun rows hrows => congrArg Except.ok ?_
  rw [← Draft.toPlan_relaxed, Draft.relaxed_append,
    (within_rowsIfWanted hrows).relaxed_eq_self fun place => by cases place <;> decide]

end Comparison

/-- **One script for all stages remarks on what the stages demand**, whatever the versions, the other
options and the orders of tables: what comes out is the same plan with a remark in the place of each
demand, or the same error. -/
theorem planWithOrders_singleStage [QueryReader] (old : Option Database) (new : Database)
    (newOrder oldOrder : Option (List OrderItem)) (style : Sql.Style) (options : Options) :
    planWithOrders old new newOrder oldOrder style { options with singleStage := true } =
      (planWithOrders old new newOrder oldOrder style { options with singleStage := false }).map
        Plan.relaxed := by
  have hplan : ∀ c : Comparison, (c.withSingleStage true).plan =
      (c.withSingleStage false).plan.map Plan.relaxed := fun c => c.plan_relaxed
  have honce := Comparison.make_withSingleStage old new newOrder oldOrder style options true
  have hstages := Comparison.make_withSingleStage old new newOrder oldOrder style options false
  unfold planWithOrders
  rw [map_bind_eq, honce, hstages]
  refine bind_congr fun _ => ?_
  cases old with
  | none =>
    dsimp only
    rw [bind_map_eq, bind_map_eq, map_bind_eq]
    exact bind_congr hplan
  | some db =>
    dsimp only
    rw [map_bind_eq]
    refine bind_congr fun _ => ?_
    rw [bind_map_eq, bind_map_eq, map_bind_eq]
    exact bind_congr hplan

end SchemaPlan
