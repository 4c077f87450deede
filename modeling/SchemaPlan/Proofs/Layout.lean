import SchemaPlan.Proofs.Correspondence
import SchemaPlan.Proofs.Kinds

/-!
# The layout of a plan

A plan that covers structure falls into parts that follow each other:

    what comes first · dropped constraints · sequences and tables · added constraints · the rest.

`Comparison.Layout` holds these parts together with the passes they come from, and
`Comparison.nonempty_layout` says that every such plan has them.  The parts at either end matter only
by the kinds of operations in them; so whatever concerns constraints can be read off the three
parts in the middle.
-/

namespace SchemaPlan

/-- The operations of a plan in order. -/
def Plan.ops (p : Plan) : List Op :=
  p.map (·.op)

/-- Every operation of one sort stands in front of every operation of another. -/
def Precedes (former latter : Op → Prop) (ops : List Op) : Prop :=
  ∀ (i j : Nat) (a b : Op), ops[i]? = some a → ops[j]? = some b → former a → latter b → i < j

/-- Operations are in order when there is a point that none of either sort is on the wrong side
of. -/
theorem precedes_append {former latter : Op → Prop} {front back : List Op}
    (hfront : ∀ op ∈ front, ¬ latter op) (hback : ∀ op ∈ back, ¬ former op) :
    Precedes former latter (front ++ back) := by
  intro i j a b ha hb hformer hlatter
  have hi : i < front.length := by
    by_contra hge
    rw [List.getElem?_append_right (Nat.le_of_not_lt hge)] at ha
    exact hback a (List.mem_of_getElem? ha) hformer
  have hj : front.length ≤ j := by
    by_contra hlt
    rw [List.getElem?_append_left (Nat.lt_of_not_le hlt)] at hb
    exact hfront b (List.mem_of_getElem? hb) hlatter
  omega

/-- What stands in front of the point at which operations of a sort set in stands in front of all of
them. -/
theorem exists_earlier {latter : Op → Prop} {front back : List Op} {a b : Op} {i : Nat}
    (hfront : ∀ op ∈ front, ¬ latter op) (ha : a ∈ front) (hb : (front ++ back)[i]? = some b)
    (hlatter : latter b) : ∃ j < i, (front ++ back)[j]? = some a := by
  obtain ⟨j, hj, rfl⟩ := List.mem_iff_getElem.1 ha
  have hi : front.length ≤ i := by
    by_contra hlt
    rw [List.getElem?_append_left (Nat.lt_of_not_le hlt)] at hb
    exact hfront b (List.mem_of_getElem? hb) hlatter
  refine ⟨j, by omega, ?_⟩
  rw [List.getElem?_append_left hj, List.getElem?_eq_getElem hj]

/-! ### From a plan to the passes -/

theorem plan_eq_ok_iff [QueryReader] {old : Option Database} {new : Database} {style : Sql.Style}
    {options : Options} {p : Plan} :
    plan old new style options = .ok p ↔
      new.validate = .ok () ∧ (∀ db, old = some db → db.validate = .ok ()) ∧
        ∃ c, Comparison.make old new (some new.dependencyOrder) (old.map (·.dependencyOrder)) style
          options = .ok c ∧ c.plan = .ok p := by
  unfold plan
  cases old with
  | none => simp [bind_eq_ok, Unique.exists_iff]
  | some db => simp [bind_eq_ok, Unique.exists_iff]

namespace Comparison

/-- A plan that succeeds was drawn up for a comparison that is well made. -/
theorem wellMade_of_plan [QueryReader] {old : Option Database} {new : Database} {style : Sql.Style}
    {options : Options} {p : Plan} (h : SchemaPlan.plan old new style options = .ok p) :
    ∃ c, make old new (some new.dependencyOrder) (old.map (·.dependencyOrder)) style options =
      .ok c ∧ c.WellMade ∧ c.plan = .ok p := by
  obtain ⟨hnew, hold, c, hmake, hp⟩ := plan_eq_ok_iff.1 h
  refine ⟨c, hmake, wellMade_of_make (Database.coherent_of_validate hnew) ?_ hmake, hp⟩
  exact fun db hdb => Database.coherent_of_validate (hold db hdb)

theorem plan_eq_ok_iff [QueryReader] {c : Comparison} {p : Plan} :
    c.plan = .ok p ↔ ∃ schema rows : Draft,
      (if c.options.onlyData then .ok {} else c.schemaWork) = .ok schema ∧
        (if c.options.onlySchema then .ok {} else c.rowWork) = .ok rows ∧
        (schema ++ rows).toPlan (if c.options.onlyData then [] else c.customSql) = p := by
  unfold plan
  by_cases hd : c.options.onlyData = true
  · by_cases hs : c.options.onlySchema = true
    · simp [hd, hs, bind, Except.bind, pure, Except.pure]
    · simp only [if_pos hd, if_neg hs]
      simp [bind_eq_ok, pure, Except.pure]
  · by_cases hs : c.options.onlySchema = true
    · simp only [if_neg hd, if_pos hs]
      simp [bind_eq_ok, pure, Except.pure]
    · simp only [if_neg hd, if_neg hs]
      simp only [bind_eq_ok, pure_eq_ok]
      simp

/-- The results of the passes over structure, in the order of the passes. -/
theorem structureWork_eq_ok_iff {c : Comparison} {d : Draft} :
    c.structureWork = .ok d ↔ ∃ types drops tables adds,
      c.newSchemas.mapM c.typePass = .ok types ∧ c.constraintDrops = .ok drops ∧
        c.newTables.mapM (c.tablePass drops) = .ok tables ∧
        c.newTables.mapM (fun item => c.addConstraints drops item.1.name item.2) = .ok adds ∧
        d = .first (c.newSchemas.flatMap c.schemaOps) ++ Draft.join types ++
          .first (dropConstraintOps drops) ++ Draft.join (c.newSchemas.map c.schemaSequenceWork) ++
          Draft.join tables ++ .first adds.flatten ++ c.dropTables ++ c.dropRemoved ++
          .first (c.newSchemas.flatMap c.schemaPrivilegeOps) := by
  simp only [structureWork, bind_eq_ok, pure_eq_ok]
  constructor
  · rintro ⟨types, htypes, drops, hdrops, tables, htables, adds, hadds, rfl⟩
    exact ⟨types, drops, tables, adds, htypes, hdrops, htables, hadds, rfl⟩
  · rintro ⟨types, drops, tables, adds, htypes, hdrops, htables, hadds, rfl⟩
    exact ⟨types, htypes, drops, hdrops, tables, htables, adds, hadds, rfl⟩

theorem schemaWork_eq_ok_iff [QueryReader] {c : Comparison} {d : Draft} :
    c.schemaWork = .ok d ↔ c.checkInheritance = .ok () ∧
      ∃ work, c.structureWork = .ok work ∧ d = work ++ c.viewWork work.isStructural := by
  simp only [schemaWork, bind_eq_ok, pure_eq_ok]
  constructor
  · rintro ⟨_, hcheck, work, hwork, rfl⟩
    exact ⟨hcheck, work, hwork, rfl⟩
  · rintro ⟨hcheck, work, hwork, rfl⟩
    exact ⟨(), hcheck, work, hwork, rfl⟩

theorem tablePass_eq_ok_iff {c : Comparison} {drops : List Constraint} {item : Schema × Table}
    {d : Draft} :
    c.tablePass drops item = .ok d ↔ ∃ work key, c.tableWork item.1.name item.2 = .ok work ∧
      c.addPrimaryKey drops item.1.name item.2 = .ok key ∧
      d = work ++ .first (c.tableIndexOps item.1.name item.2 ++ c.clusterOps item.1.name item.2 ++
        key ++ c.tableTriggerOps item.1 item.2) := by
  simp only [tablePass, bind_eq_ok, pure_eq_ok]
  constructor
  · rintro ⟨work, hwork, key, hkey, rfl⟩
    exact ⟨work, key, hwork, hkey, rfl⟩
  · rintro ⟨work, key, hwork, hkey, rfl⟩
    exact ⟨work, hwork, key, hkey, rfl⟩

/-- Work on columns that succeeds has looked for the column that each continues. -/
theorem exists_oldColumn_of_columnsWork {c : Comparison} {oldSchema schema : String}
    {oldTable table : Table} {d : Draft}
    (h : c.columnsWork oldSchema oldTable schema table = .ok d) {col : Column}
    (hcol : col ∈ table.columns) :
    ∃ r, oldColumn c.options.renameTracking oldTable col
      (Sql.qualified schema table.name ++ "." ++ col.name) = .ok r := by
  simp only [columnsWork, bind_eq_ok] at h
  obtain ⟨_, hworks, -⟩ := h
  obtain ⟨_, -, hone⟩ := exists_mem_of_mapM hworks hcol
  simp only [columnWork, bind_eq_ok] at hone
  obtain ⟨_, ⟨_, -, r, hr, -⟩, -⟩ := hone
  exact ⟨r, hr⟩

/-- Work on structure that succeeds has looked at the marker of every column of a table that
continues another. -/
theorem exists_oldColumn_of_schemaWork [QueryReader] {c : Comparison} (hc : c.WellMade) {d : Draft}
    (h : c.schemaWork = .ok d) {item prev : Schema × Table} (hm : item ∈ c.new.tables)
    (hv : c.oldVersion? item.1.name item.2.name = some prev) {col : Column}
    (hcol : col ∈ item.2.columns) :
    ∃ r, oldColumn c.options.renameTracking prev.2 col
      (Sql.qualified item.1.name item.2.name ++ "." ++ col.name) = .ok r := by
  obtain ⟨-, _, hstructure, -⟩ := schemaWork_eq_ok_iff.1 h
  obtain ⟨_, _, tables, _, -, -, htables, -⟩ := structureWork_eq_ok_iff.1 hstructure
  obtain ⟨_, -, hpass⟩ := exists_mem_of_mapM htables (hc.mem_newTables.2 hm)
  obtain ⟨_, _, hwork, -⟩ := tablePass_eq_ok_iff.1 hpass
  simp only [tableWork, hv, bind_eq_ok] at hwork
  obtain ⟨_, hcolumns, -⟩ := hwork
  exact exists_oldColumn_of_columnsWork hcolumns hcol

/-! ### What the places of the whole draft hold -/

/-- What a table may contribute together with what belongs to it. -/
def tablePassKinds : Place → List OpKind
  | .stage1 => tableKinds .stage1 ++
      [.dropIndex, .createIndex, .setCluster, .addConstraint, .dropTrigger, .createTrigger]
  | p => tableKinds p

/-- What the passes over structure may contribute, tables that go away aside. -/
def structureKinds : Place → List OpKind
  | .stage1 => [.createSchema, .setComment] ++ typePassKinds .stage1 ++ [.dropConstraint] ++
      sequenceKinds .stage1 ++ tablePassKinds .stage1 ++ privilegeKinds
  | .stage1Tail => [.alterSequence, .backfillColumn]
  | .stage3 => columnKinds .stage3 ++ [.dropFunction, .dropSequence, .dropType, .dropSchema]
  | _ => []

theorem within_tablePass {c : Comparison} {drops : List Constraint} {item : Schema × Table}
    {d : Draft} (h : c.tablePass drops item = .ok d) : d.Within tablePassKinds := by
  obtain ⟨work, key, hwork, hkey, rfl⟩ := tablePass_eq_ok_iff.1 h
  refine ((within_tableWork hwork).mono fun p => by cases p <;> decide).append
    (Draft.within_first ?_)
  simp only [ofKinds_append]
  refine ⟨⟨⟨?_, ?_⟩, ?_⟩, ?_⟩
  · exact (ofKinds_tableIndexOps c _ _).mono (by decide)
  · exact (ofKinds_clusterOps c _ _).mono (by decide)
  · exact (ofKinds_addPrimaryKey hkey).mono (by decide)
  · exact (ofKinds_tableTriggerOps c _ _).mono (by decide)

theorem ofKinds_of_mapM_addConstraints {c : Comparison} {drops : List Constraint}
    {items : List (Schema × Table)} {adds : List (List Op)}
    (h : items.mapM (fun item => c.addConstraints drops item.1.name item.2) = .ok adds) :
    OfKinds [.addConstraint] adds.flatten :=
  ofKinds_of_mapM h fun _ _ _ hops => ofKinds_addConstraints hops

/-- What is done to structure before the tables are worked on. -/
def beforeTableKinds : Place → List OpKind
  | .stage1 => [.createSchema, .setComment] ++ typePassKinds .stage1 ++ [.dropConstraint] ++
      sequenceKinds .stage1
  | .stage1Tail => [.alterSequence]
  | _ => []

/-- What is done to structure once tables have been dropped. -/
def afterTableKinds : Place → List OpKind
  | .stage1 => privilegeKinds
  | .stage3 => [.dropFunction, .dropSequence, .dropType, .dropSchema]
  | _ => []

/-- The tables stand in the middle of the work on structure. -/
theorem exists_around_tables {c : Comparison} {d : Draft} (h : c.structureWork = .ok d) :
    ∃ (drops : List Constraint) (tables : List Draft) (adds : List (List Op))
      (before after : Draft), c.newTables.mapM (c.tablePass drops) = .ok tables ∧
      OfKinds [.addConstraint] adds.flatten ∧
      d = before ++ Draft.join tables ++ .first adds.flatten ++ c.dropTables ++ after ∧
      before.Within beforeTableKinds ∧ after.Within afterTableKinds := by
  obtain ⟨types, drops, tables, adds, htypes, -, htables, hadds, rfl⟩ :=
    structureWork_eq_ok_iff.1 h
  have hschemas : OfKinds (beforeTableKinds .stage1) (c.newSchemas.flatMap c.schemaOps) :=
    ofKinds_flatMap.2 fun s _ => (ofKinds_schemaOps c s).mono (by decide)
  have htypePass : (Draft.join types).Within beforeTableKinds := by
    refine Draft.within_join fun d hd => ?_
    obtain ⟨s, _, hs⟩ := exists_source_of_mapM htypes hd
    exact (within_typePass hs).mono fun p => by cases p <;> decide
  have hdrops : OfKinds (beforeTableKinds .stage1) (dropConstraintOps drops) :=
    (ofKinds_dropConstraintOps drops).mono (by decide)
  have hsequences : (Draft.join (c.newSchemas.map c.schemaSequenceWork)).Within
      beforeTableKinds := by
    refine Draft.within_join fun d hd => ?_
    obtain ⟨s, _, rfl⟩ := List.mem_map.1 hd
    exact (within_schemaSequenceWork c s).mono fun p => by cases p <;> decide
  have hdropRemoved : c.dropRemoved.Within afterTableKinds :=
    (within_dropRemoved c).mono fun p => by cases p <;> decide
  have hprivileges : OfKinds (afterTableKinds .stage1)
      (c.newSchemas.flatMap c.schemaPrivilegeOps) :=
    ofKinds_flatMap.2 fun s _ => ofKinds_schemaPrivilegeOps c s
  exact ⟨drops, tables, adds, _, c.dropRemoved ++ .first (c.newSchemas.flatMap c.schemaPrivilegeOps),
    htables, ofKinds_of_mapM_addConstraints hadds, Draft.append_assoc _ _ _,
    (((Draft.within_first hschemas).append htypePass).append (Draft.within_first hdrops)).append
      hsequences, hdropRemoved.append (Draft.within_first hprivileges)⟩

/-- The tables that go away stand in the middle of the work on structure; nothing else drops a
table. -/
theorem exists_around_dropTables {c : Comparison} {d : Draft} (h : c.structureWork = .ok d) :
    ∃ before after : Draft, d = before ++ c.dropTables ++ after ∧
      before.Within structureKinds ∧ after.Within structureKinds := by
  obtain ⟨drops, tables, adds, before, after, htables, hadds, rfl, hbefore, hafter⟩ :=
    exists_around_tables h
  have htablePass : (Draft.join tables).Within structureKinds := by
    refine Draft.within_join fun d hd => ?_
    obtain ⟨item, _, hitem⟩ := exists_source_of_mapM htables hd
    exact (within_tablePass hitem).mono fun p => by cases p <;> decide
  refine ⟨_, after, rfl, ?_, hafter.mono fun p => by cases p <;> decide⟩
  exact ((hbefore.mono fun p => by cases p <;> decide).append htablePass).append
    (Draft.within_first (hadds.mono (by decide)))

theorem within_structureWork {c : Comparison} {d : Draft} (h : c.structureWork = .ok d) :
    d.Within fun p => structureKinds p ++ tableDropKinds p := by
  obtain ⟨before, after, rfl, hbefore, hafter⟩ := exists_around_dropTables h
  exact ((hbefore.mono fun p => List.subset_append_left _ _).append
    ((within_dropTables c).mono fun p => List.subset_append_right _ _)).append
    (hafter.mono fun p => List.subset_append_left _ _)

/-- What the passes over structure may contribute, tables that go away and views included. -/
def schemaKinds (p : Place) : List OpKind :=
  structureKinds p ++ tableDropKinds p ++ viewKinds p

theorem within_schemaWork [QueryReader] {c : Comparison} {d : Draft} (h : c.schemaWork = .ok d) :
    d.Within schemaKinds := by
  obtain ⟨-, work, hwork, rfl⟩ := schemaWork_eq_ok_iff.1 h
  exact ((within_structureWork hwork).mono fun p => List.subset_append_left _ _).append
    ((within_viewWork c _).mono fun p => List.subset_append_right _ _)

/-- What all passes together may contribute. -/
def planKinds (p : Place) : List OpKind :=
  structureKinds p ++ tableDropKinds p ++ viewKinds p ++ rowKinds p

theorem schemaKinds_subset (p : Place) : schemaKinds p ⊆ planKinds p :=
  List.subset_append_left _ _

/-! ### The parts -/

/-- The kinds of what comes before the dropped constraints. -/
def headKinds : List OpKind :=
  [.comment, .customSql, .dropView, .createSchema, .setComment] ++ typePassKinds .stage1

/-- The kinds of what comes after the added constraints. -/
def tailKinds : List OpKind :=
  [.comment, .customSql] ++ privilegeKinds ++ planKinds .stage1Tail ++ planKinds .stage2 ++
    planKinds .stage3 ++ planKinds .viewCreates

/-- The parts of a plan, in order, with the passes that the middle ones come from. -/
structure Layout (c : Comparison) (p : Plan) where
  head : List Op
  drops : List Constraint
  sequences : List Op
  tables : List Draft
  adds : List (List Op)
  tail : List Op
  constraintDrops_eq : c.constraintDrops = .ok drops
  tables_eq : c.newTables.mapM (c.tablePass drops) = .ok tables
  adds_eq : c.newTables.mapM (fun item => c.addConstraints drops item.1.name item.2) = .ok adds
  head_kinds : OfKinds headKinds head
  sequences_kinds : OfKinds (sequenceKinds .stage1) sequences
  tail_kinds : OfKinds tailKinds tail
  ops_eq : p.ops = head ++ (dropConstraintOps drops ++
    (sequences ++ (tables.flatMap (·.opsAt .stage1) ++ (adds.flatten ++ tail))))

theorem Layout.tables_kinds {c : Comparison} {p : Plan} (l : c.Layout p) :
    OfKinds (tablePassKinds .stage1) (l.tables.flatMap (·.opsAt .stage1)) := by
  refine ofKinds_flatMap.2 fun d hd => ?_
  obtain ⟨item, _, hitem⟩ := exists_source_of_mapM l.tables_eq hd
  exact within_tablePass hitem .stage1

theorem Layout.adds_kinds {c : Comparison} {p : Plan} (l : c.Layout p) :
    OfKinds [.addConstraint] l.adds.flatten :=
  ofKinds_of_mapM_addConstraints l.adds_eq

theorem ops_toPlan (d : Draft) (custom : List CustomSql) :
    (d.toPlan custom).ops = Stage.all.flatMap (d.stageOps custom) := by
  simp [Plan.ops, Draft.toPlan, List.map_flatMap, Function.comp_def]

theorem ofKinds_custom (custom : List CustomSql) :
    OfKinds [.comment, .customSql] (custom.flatMap Draft.customOps) :=
  ofKinds_flatMap.2 fun entry _ => Draft.ofKinds_customOps entry

/-- A stage of a plan holds the places of the draft that belong to it, between custom statements. -/
theorem ofKinds_stageOps {d : Draft} {custom : List CustomSql} {stage : Stage}
    {kinds : List OpKind} (hcustom : [OpKind.comment, OpKind.customSql] ⊆ kinds)
    (h : OfKinds kinds (d.ofStage stage)) : OfKinds kinds (d.stageOps custom stage) := by
  rw [Draft.stageOps, ofKinds_append, ofKinds_append]
  exact ⟨⟨(ofKinds_custom _).mono hcustom, h⟩, (ofKinds_custom _).mono hcustom⟩

theorem within_rowsIfWanted {c : Comparison} {rows : Draft}
    (h : (if c.options.onlySchema then .ok {} else c.rowWork) = .ok rows) :
    rows.Within rowKinds := by
  split at h
  · rw [← Except.ok.inj h]
    exact Draft.within_empty
  · exact within_rowWork h

/-- What the two parts of a plan may contribute. -/
theorem within_parts [QueryReader] {c : Comparison} {schema rows : Draft}
    (hschema : (if c.options.onlyData then .ok {} else c.schemaWork) = .ok schema)
    (hrows : (if c.options.onlySchema then .ok {} else c.rowWork) = .ok rows) :
    (schema ++ rows).Within planKinds := by
  refine Draft.Within.append ?_
    ((within_rowsIfWanted hrows).mono fun p => List.subset_append_right _ _)
  split at hschema
  · rw [← Except.ok.inj hschema]
    exact Draft.within_empty
  · exact (within_schemaWork hschema).mono schemaKinds_subset

/-- The first stage of the work on structure falls into the parts of a layout. -/
theorem exists_stage1_parts {c : Comparison} {work : Draft} (h : c.structureWork = .ok work) :
    ∃ head drops sequences tables adds tail, c.constraintDrops = .ok drops ∧
      c.newTables.mapM (c.tablePass drops) = .ok tables ∧
      c.newTables.mapM (fun item => c.addConstraints drops item.1.name item.2) = .ok adds ∧
      OfKinds headKinds head ∧ OfKinds (sequenceKinds .stage1) sequences ∧
      OfKinds privilegeKinds tail ∧
      work.opsAt .stage1 = head ++ (dropConstraintOps drops ++
        (sequences ++ (tables.flatMap (·.opsAt .stage1) ++ (adds.flatten ++ tail)))) := by
  obtain ⟨types, drops, tables, adds, htypes, hdrops, htables, hadds, rfl⟩ :=
    structureWork_eq_ok_iff.1 h
  refine ⟨c.newSchemas.flatMap c.schemaOps ++ types.flatMap (·.opsAt .stage1), drops,
    (c.newSchemas.map c.schemaSequenceWork).flatMap (·.opsAt .stage1), tables, adds,
    c.newSchemas.flatMap c.schemaPrivilegeOps, hdrops, htables, hadds, ?_, ?_, ?_, ?_⟩
  · rw [ofKinds_append]
    constructor
    · exact ofKinds_flatMap.2 fun s _ => (ofKinds_schemaOps c s).mono (by decide)
    · refine ofKinds_flatMap.2 fun d hd => ?_
      obtain ⟨s, _, hs⟩ := exists_source_of_mapM htypes hd
      exact (within_typePass hs .stage1).mono (by decide)
  · refine ofKinds_flatMap.2 fun d hd => ?_
    obtain ⟨s, _, rfl⟩ := List.mem_map.1 hd
    exact within_schemaSequenceWork c s .stage1
  · exact ofKinds_flatMap.2 fun s _ => ofKinds_schemaPrivilegeOps c s
  · have htablesNone : c.dropTables.opsAt .stage1 = [] := (within_dropTables c .stage1).eq_nil
    have hremovedNone : c.dropRemoved.opsAt .stage1 = [] := (within_dropRemoved c .stage1).eq_nil
    simp only [Draft.opsAt_append, Draft.opsAt_first, Draft.opsAt_join, htablesNone, hremovedNone,
      List.append_nil, List.append_assoc]

/-- What the stages after the first hold. -/
theorem ofKinds_stageOps_later {d : Draft} (h : d.Within planKinds) (custom : List CustomSql)
    {stage : Stage} (hne : stage ≠ .stage1) : OfKinds tailKinds (d.stageOps custom stage) := by
  refine ofKinds_stageOps (by decide) ?_
  cases stage with
  | stage1 => exact absurd rfl hne
  | stage2 => exact (h .stage2).mono (by decide)
  | stage3 =>
    refine ofKinds_append.2 ⟨?_, ?_⟩
    · exact (h .stage3).mono (by decide)
    · exact (h .viewCreates).mono (by decide)
  | stage4 => exact (h .stage4).mono (by decide)

/-- **A plan that covers structure has its parts in order.** -/
theorem nonempty_layout [QueryReader] {c : Comparison} {p : Plan} (h : c.plan = .ok p)
    (hdata : c.options.onlyData = false) : Nonempty (c.Layout p) := by
  obtain ⟨schema, rows, hschema, hrows, hp⟩ := plan_eq_ok_iff.1 h
  have hrowsWithin := within_rowsIfWanted hrows
  have htotal := within_parts hschema hrows
  rw [hdata, if_neg Bool.false_ne_true] at hschema hp
  obtain ⟨-, work, hwork, rfl⟩ := schemaWork_eq_ok_iff.1 hschema
  obtain ⟨head, drops, sequences, tables, adds, tail, hdrops, htables, hadds, hhead, hsequences,
    htail, hstage1⟩ := exists_stage1_parts hwork
  have hviews := within_viewWork c work.isStructural
  generalize c.viewWork work.isStructural = views at hp htotal hviews
  have hfirst : (work ++ views ++ rows).ofStage .stage1 =
      (work ++ views ++ rows).opsAt .viewDrops ++ (work ++ views ++ rows).opsAt .stage1 ++
        (work ++ views ++ rows).opsAt .stage1Tail := rfl
  refine ⟨{
    head := (c.customSql.filter fun e => e.stage == .stage1 && e.before).flatMap Draft.customOps ++
      (work ++ views ++ rows).opsAt .viewDrops ++ head
    drops
    sequences
    tables
    adds
    tail := tail ++ views.opsAt .stage1 ++ rows.opsAt .stage1 ++
      (work ++ views ++ rows).opsAt .stage1Tail ++
      (c.customSql.filter fun e => e.stage == .stage1 && !e.before).flatMap Draft.customOps ++
      ((work ++ views ++ rows).stageOps c.customSql .stage2 ++
        (work ++ views ++ rows).stageOps c.customSql .stage3 ++
        (work ++ views ++ rows).stageOps c.customSql .stage4)
    constraintDrops_eq := hdrops
    tables_eq := htables
    adds_eq := hadds
    head_kinds := ?_
    sequences_kinds := hsequences
    tail_kinds := ?_
    ops_eq := ?_ }⟩
  · simp only [ofKinds_append]
    refine ⟨⟨?_, ?_⟩, hhead⟩
    · exact (ofKinds_custom _).mono (by decide)
    · exact (htotal .viewDrops).mono (by decide)
  · simp only [ofKinds_append]
    refine ⟨⟨⟨⟨⟨htail.mono (by decide), ?_⟩, ?_⟩, ?_⟩, ?_⟩, ⟨?_, ?_⟩, ?_⟩
    · exact (hviews .stage1).mono (by decide)
    · exact (hrowsWithin .stage1).mono (by decide)
    · exact (htotal .stage1Tail).mono (by decide)
    · exact (ofKinds_custom _).mono (by decide)
    · exact ofKinds_stageOps_later htotal _ (by decide)
    · exact ofKinds_stageOps_later htotal _ (by decide)
    · exact ofKinds_stageOps_later htotal _ (by decide)
  · rw [← hp, ops_toPlan]
    simp only [Stage.all, List.flatMap_cons, List.flatMap_nil, List.append_nil]
    rw [Draft.stageOps, hfirst]
    simp only [Draft.opsAt_append, hstage1, List.append_assoc]

/-! ### What a plan is made up of -/

theorem mem_ops_toPlan {d : Draft} {custom : List CustomSql} {op : Op}
    (h : op ∈ (d.toPlan custom).ops) :
    op.kind ∈ [OpKind.comment, .customSql] ∨ ∃ place, op ∈ d.opsAt place := by
  rw [ops_toPlan, List.mem_flatMap] at h
  obtain ⟨stage, -, h⟩ := h
  rw [Draft.stageOps, List.mem_append, List.mem_append] at h
  rcases h with (h | h) | h
  · exact .inl (ofKinds_custom _ op h)
  · right
    cases stage with
    | stage1 =>
      rw [Draft.ofStage, List.mem_append, List.mem_append] at h
      rcases h with (h | h) | h
      · exact ⟨.viewDrops, h⟩
      · exact ⟨.stage1, h⟩
      · exact ⟨.stage1Tail, h⟩
    | stage2 => exact ⟨.stage2, h⟩
    | stage3 =>
      rw [Draft.ofStage, List.mem_append] at h
      rcases h with h | h
      · exact ⟨.stage3, h⟩
      · exact ⟨.viewCreates, h⟩
    | stage4 => exact ⟨.stage4, h⟩
  · exact .inl (ofKinds_custom _ op h)

/-- A plan covers rows only, or it is made up of the work on structure, on views and on rows. -/
theorem plan_cases [QueryReader] {c : Comparison} {p : Plan} (h : c.plan = .ok p) :
    (c.options.onlyData = true ∧ OfKinds ([.comment, .customSql] ++ rowKinds .stage2) p.ops) ∨
      (c.options.onlyData = false ∧ ∃ work rows, c.structureWork = .ok work ∧
        (if c.options.onlySchema then .ok {} else c.rowWork) = .ok rows ∧
        p = (work ++ c.viewWork work.isStructural ++ rows).toPlan c.customSql) := by
  obtain ⟨schema, rows, hschema, hrows, rfl⟩ := plan_eq_ok_iff.1 h
  cases hdata : c.options.onlyData with
  | true =>
    refine .inl ⟨rfl, fun op hop => ?_⟩
    rw [hdata, if_pos rfl] at hschema
    cases hschema
    rcases mem_ops_toPlan hop with hown | ⟨place, hop⟩
    · exact List.mem_append_left _ hown
    · rw [Draft.opsAt_append, Draft.opsAt_empty, List.nil_append] at hop
      refine List.mem_append_right _ ?_
      have hkind := within_rowsIfWanted hrows place op hop
      cases place <;> first | exact hkind | cases hkind
  | false =>
    rw [hdata, if_neg Bool.false_ne_true] at hschema
    obtain ⟨-, work, hwork, rfl⟩ := schemaWork_eq_ok_iff.1 hschema
    exact .inr ⟨rfl, work, rows, hwork, hrows, rfl⟩

/-! ### Tables that go away -/

theorem mem_dropTables {c : Comparison} {address : String} {place : Place}
    (h : Op.dropTable address ∈ c.dropTables.opsAt place) : ∃ item ∈ c.oldTablesReversed,
      c.newVersion? item.1.name item.2.name = none ∧
        address = Sql.qualified item.1.name item.2.name := by
  cases place with
  | stage3 =>
    obtain ⟨item, hm, he⟩ := List.mem_filterMap.1 h
    simp only [Option.ite_none_right_eq_some, Option.isNone_iff_eq_none, Option.some.injEq,
      Op.dropTable.injEq] at he
    exact ⟨item, hm, he.1, he.2.symm⟩
  | _ => simp [dropTables, Draft.opsAt] at h

/-- **Only tables that none continues are dropped.** -/
theorem of_dropTable_mem [QueryReader] {c : Comparison} {p : Plan} (h : c.plan = .ok p)
    {address : String} (hop : Op.dropTable address ∈ p.ops) : ∃ item ∈ c.oldTablesReversed,
      c.newVersion? item.1.name item.2.name = none ∧
        address = Sql.qualified item.1.name item.2.name := by
  obtain ⟨schema, rows, hschema, hrows, rfl⟩ := plan_eq_ok_iff.1 h
  have hnot : ∀ {d : Draft} {kinds : Place → List OpKind} {place : Place}, d.Within kinds →
      Op.dropTable address ∈ d.opsAt place → .dropTable ∈ kinds place :=
    fun hd hm => hd _ _ hm
  rcases mem_ops_toPlan hop with hcustom | ⟨place, hplace⟩
  · simp [Op.kind] at hcustom
  · rw [Draft.opsAt_append, List.mem_append] at hplace
    rcases hplace with hm | hm
    · split at hschema
      · rw [← Except.ok.inj hschema, Draft.opsAt_empty] at hm
        simp at hm
      · obtain ⟨-, work, hwork, rfl⟩ := schemaWork_eq_ok_iff.1 hschema
        obtain ⟨before, after, rfl, hbefore, hafter⟩ := exists_around_dropTables hwork
        simp only [Draft.opsAt_append, List.mem_append] at hm
        rcases hm with ((hm | hm) | hm) | hm
        · exact absurd (hnot hbefore hm) (by cases place <;> decide)
        · exact mem_dropTables hm
        · exact absurd (hnot hafter hm) (by cases place <;> decide)
        · exact absurd (hnot (within_viewWork c _) hm) (by cases place <;> decide)
    · exact absurd (hnot (within_rowsIfWanted hrows) hm) (by cases place <;> decide)

end Comparison

end SchemaPlan
