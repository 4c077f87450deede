import SchemaPlan.Proofs.Layout
import SchemaPlan.Proofs.Sufficiency

/-!
# Structure and static rows apart

A plan can be asked to leave static rows alone, or to leave everything else alone.  The two plans are
the parts of the whole one: its operations on static rows, and the others (`outputs_partition`).

Neither part of the work looks at the other, so each comes out as it does in the whole plan.  Where
they are put together, static rows have the second stage to themselves apart from the definition's own
statements, and no operation on structure is one on static rows (`filter_toPlan_rows`,
`filter_toPlan_structure`).  What remains is that asking for less does not make a difference to whether
there is a plan: after validation, work on static rows can fail at the marker of a column only, and work
on structure fails there as well (`exists_rowWork`).
-/

namespace SchemaPlan

/-- Whether an operation of this kind is about static rows when it stands in this stage.  In the
second stage a counter is set because rows have been inserted; elsewhere that is part of a column. -/
def OpKind.isOfRows (stage : Stage) : OpKind → Bool
  | .insertRow | .updateRow | .deleteRow => true
  | .setSerialValue => stage == .stage2
  | _ => false

/-- Whether a planned operation is about static rows. -/
def PlannedOp.isOfRows (p : PlannedOp) : Bool :=
  p.op.kind.isOfRows p.stage

namespace Options

/-- The options with another choice of what is left alone. -/
def withOutput (o : Options) (onlySchema onlyData : Bool) : Options :=
  { o with onlySchema, onlyData }

/-- Nothing is left alone. -/
abbrev whole (o : Options) : Options :=
  o.withOutput false false

/-- Static rows are left alone. -/
abbrev schemaOnly (o : Options) : Options :=
  o.withOutput true false

/-- Everything but static rows is left alone. -/
abbrev dataOnly (o : Options) : Options :=
  o.withOutput false true

end Options

/-! ### Plans in parts -/

namespace Draft

/-- Operations of the second stage. -/
abbrev second (ops : List Op) : Draft :=
  { stage2 := ops }

theorem append_empty (d : Draft) : d ++ ({} : Draft) = d := by
  show append d {} = d
  simp [append]

/-- Operations are picked out of a plan stage by stage. -/
theorem filter_toPlan {d e : Draft} {custom others : List CustomSql} {f : PlannedOp → Bool}
    (h : ∀ stage, (d.stageOps custom stage).filter (fun op => f ⟨stage, op⟩) =
      e.stageOps others stage) : (d.toPlan custom).filter f = e.toPlan others := by
  rw [toPlan, toPlan, List.filter_flatMap]
  congr 1
  funext stage
  rw [List.filter_map]
  exact congrArg _ (h stage)

section Parts

variable {d : Draft} {custom : List CustomSql} {stage : Stage}

/-- **No operation on structure is one on static rows.** -/
theorem not_isOfRows_of_mem (hd : d.Within Comparison.schemaKinds) {op : Op}
    (hop : op ∈ d.stageOps custom stage) : op.kind.isOfRows stage = false := by
  have hkinds : ∀ kinds, OfKinds kinds (d.ofStage stage) →
      (∀ k ∈ [OpKind.comment, .customSql] ++ kinds, k.isOfRows stage = false) →
        op.kind.isOfRows stage = false := by
    intro kinds hof hnot
    refine hnot _ (Comparison.ofKinds_stageOps (List.subset_append_left _ _) ?_ op hop)
    exact hof.mono (List.subset_append_right _ _)
  have hplace : ∀ place, OfKinds (Comparison.schemaKinds place) (d.opsAt place) := hd
  cases stage with
  | stage1 =>
    refine hkinds _ (((hplace .viewDrops).append (hplace .stage1)).append (hplace .stage1Tail)) ?_
    decide
  | stage2 => exact hkinds _ (hplace .stage2) (by decide)
  | stage3 =>
    refine hkinds _ ((hplace .stage3).append (hplace .viewCreates)) ?_
    decide
  | stage4 => exact hkinds _ (hplace .stage4) (by decide)

/-- Static rows stand between operations on structure, in the second stage. -/
theorem exists_around_rows (d : Draft) (rows : List Op) (custom : List CustomSql) (stage : Stage) :
    ∃ front back, d.stageOps custom stage = front ++ back ∧
      (d ++ second rows).stageOps custom stage =
        front ++ (second rows).stageOps [] stage ++ back := by
  have hnil : ∀ {d : Draft} {stage : Stage}, d.ofStage stage = [] → d.stageOps [] stage = [] := by
    intro d stage h
    rw [stageOps, h]
    rfl
  -- Outside the second stage, rows add nothing, and the whole stage stands in front of them.
  have hother : (second rows).stageOps [] stage = [] →
      (d ++ second rows).stageOps custom stage = d.stageOps custom stage →
      ∃ front back, d.stageOps custom stage = front ++ back ∧
        (d ++ second rows).stageOps custom stage =
          front ++ (second rows).stageOps [] stage ++ back := by
    intro hrows he
    refine ⟨d.stageOps custom stage, [], (List.append_nil _).symm, ?_⟩
    rw [hrows, he, List.append_nil, List.append_nil]
  have hempty : ∀ ops : List Op, ops ++ [] = ops := List.append_nil
  cases stage with
  | stage1 =>
    refine hother (hnil rfl) ?_
    show _ ++ (d.viewDrops ++ [] ++ (d.stage1 ++ []) ++ (d.stage1Tail ++ [])) ++ _ = _
    rw [hempty, hempty, hempty]
    rfl
  | stage2 =>
    refine ⟨(custom.filter fun e => e.stage == .stage2 && e.before).flatMap customOps ++ d.stage2,
      (custom.filter fun e => e.stage == .stage2 && !e.before).flatMap customOps, rfl, ?_⟩
    show _ ++ (d.stage2 ++ rows) ++ _ = _ ++ ([] ++ rows ++ []) ++ _
    rw [hempty, List.nil_append, ← List.append_assoc]
  | stage3 =>
    refine hother (hnil rfl) ?_
    show _ ++ (d.stage3 ++ [] ++ (d.viewCreates ++ [])) ++ _ = _
    rw [hempty, hempty]
    rfl
  | stage4 =>
    refine hother (hnil rfl) ?_
    show _ ++ (d.stage4 ++ []) ++ _ = _
    rw [hempty]
    rfl

variable {rows : List Op} (hd : d.Within Comparison.schemaKinds)
  (hrows : OfKinds (Comparison.rowKinds .stage2) rows)

include hrows in
theorem isOfRows_of_mem {op : Op} (hop : op ∈ (second rows).stageOps [] stage) :
    op.kind.isOfRows stage = true := by
  cases stage with
  | stage2 =>
    have hall : ∀ k ∈ Comparison.rowKinds .stage2, k.isOfRows .stage2 = true := by decide
    have hmem : op ∈ [] ++ rows ++ [] := hop
    rw [List.nil_append, List.append_nil] at hmem
    exact hall _ (hrows op hmem)
  | _ => simp [stageOps, ofStage] at hop

include hd hrows

/-- The operations on static rows are those that the rows contribute. -/
theorem filter_toPlan_rows :
    ((d ++ second rows).toPlan custom).filter (·.isOfRows) = (second rows).toPlan [] := by
  refine filter_toPlan fun stage => ?_
  obtain ⟨front, back, hsplit, he⟩ := exists_around_rows d rows custom stage
  have hnot : ∀ op ∈ front ++ back, ¬ op.kind.isOfRows stage = true := by
    intro op hop
    rw [← hsplit] at hop
    rw [not_isOfRows_of_mem hd hop]
    exact Bool.false_ne_true
  obtain ⟨hfront, hback⟩ := List.forall_mem_append.1 hnot
  have hall : ∀ op ∈ (second rows).stageOps [] stage, op.kind.isOfRows stage = true :=
    fun op hop => isOfRows_of_mem hrows hop
  show ((d ++ second rows).stageOps custom stage).filter (·.kind.isOfRows stage) = _
  rw [he, List.filter_append, List.filter_append, List.filter_eq_nil_iff.2 hfront,
    List.filter_eq_nil_iff.2 hback, List.filter_eq_self.2 hall, List.nil_append, List.append_nil]

/-- The other operations are those that structure contributes. -/
theorem filter_toPlan_structure :
    ((d ++ second rows).toPlan custom).filter (!·.isOfRows) = d.toPlan custom := by
  refine filter_toPlan fun stage => ?_
  obtain ⟨front, back, hsplit, he⟩ := exists_around_rows d rows custom stage
  have hall : ∀ op ∈ front ++ back, (!op.kind.isOfRows stage) = true := by
    intro op hop
    rw [← hsplit] at hop
    rw [not_isOfRows_of_mem hd hop]
    rfl
  have hnot : ∀ op ∈ (second rows).stageOps [] stage, ¬ (!op.kind.isOfRows stage) = true := by
    intro op hop
    rw [isOfRows_of_mem hrows hop]
    exact Bool.false_ne_true
  obtain ⟨hfront, hback⟩ := List.forall_mem_append.1 hall
  show ((d ++ second rows).stageOps custom stage).filter (fun op => !op.kind.isOfRows stage) = _
  rw [he, hsplit, List.filter_append, List.filter_append, List.filter_eq_nil_iff.2 hnot,
    List.filter_eq_self.2 hfront, List.filter_eq_self.2 hback, List.append_nil]

end Parts

end Draft

/-! ### One comparison with another choice -/

namespace Comparison

variable {c : Comparison}

/-- The comparison with another choice of what is left alone. -/
def withOutput (c : Comparison) (onlySchema onlyData : Bool) : Comparison :=
  { c with options := c.options.withOutput onlySchema onlyData }

theorem schemaWork_withOutput [QueryReader] (c : Comparison) (onlySchema onlyData : Bool) :
    (c.withOutput onlySchema onlyData).schemaWork = c.schemaWork := by
  have htableDrops : (c.withOutput onlySchema onlyData).tableDrops = c.tableDrops :=
    tableDrops_congr rfl rfl rfl
  have hdrops : (c.withOutput onlySchema onlyData).constraintDrops = c.constraintDrops := by
    rw [constraintDrops, constraintDrops, htableDrops]
    rfl
  have hstructure : (c.withOutput onlySchema onlyData).structureWork = c.structureWork := by
    rw [structureWork, structureWork, hdrops]
    rfl
  rw [schemaWork, schemaWork, hstructure]
  rfl

/-- **Neither part of the work looks at what is left alone.** -/
theorem plan_withOutput [QueryReader] (c : Comparison) (onlySchema onlyData : Bool) :
    (c.withOutput onlySchema onlyData).plan =
      ((if onlyData then .ok {} else c.schemaWork) >>= fun schema =>
        (if onlySchema then .ok {} else c.rowWork) >>= fun rows =>
          .ok ((schema ++ rows).toPlan (if onlyData then [] else c.customSql))) := by
  rw [plan_eq_bind, schemaWork_withOutput]
  rfl

theorem make_withOutput (old : Option Database) (new : Database)
    (newOrder oldOrder : Option (List OrderItem)) (style : Sql.Style) (options : Options)
    (onlySchema onlyData : Bool) :
    make old new newOrder oldOrder style (options.withOutput onlySchema onlyData) =
      (make old new newOrder oldOrder style options).map (·.withOutput onlySchema onlyData) :=
  make_map_options (·.withOutput onlySchema onlyData) (fun _ => rfl) old new newOrder oldOrder style
    options

/-! ### When there is a plan -/

theorem exists_second_of_rowWork {d : Draft} (h : c.rowWork = .ok d) :
    ∃ rows, d = .second rows ∧ OfKinds (rowKinds .stage2) rows := by
  have hkinds := within_rowWork h .stage2
  simp only [rowWork, bind_eq_ok, pure_eq_ok] at h
  obtain ⟨_, -, _, -, rfl⟩ := h
  exact ⟨_, rfl, hkinds⟩

/-- **The work on static rows succeeds when that on structure does**: all it could fail at is the
marker of a column, which the work on structure has looked at. -/
theorem exists_rowWork [QueryReader] (hc : c.WellMade)
    (hvalid : ∀ db ∈ c.versions, db.validate = .ok ()) {d : Draft} (h : c.schemaWork = .ok d) :
    ∃ rows, c.rowWork = .ok (.second rows) ∧ OfKinds (rowKinds .stage2) rows := by
  have hrows : c.RowsFailOnly fun _ => False :=
    rowsFailOnly_of_valid hvalid fun _ hm _ hfound _ hcol =>
      failsOnly_of_eq_ok (exists_oldColumn_of_schemaWork hc h hm hfound hcol)
  cases hwork : c.rowWork with
  | error e => exact (hrows.rowWork e hwork).elim
  | ok d =>
    obtain ⟨rows, rfl, hkinds⟩ := exists_second_of_rowWork hwork
    exact ⟨rows, rfl, hkinds⟩

/-- The plans with either part left alone, next to the whole one. -/
theorem plans_of_parts [QueryReader] (hc : c.WellMade)
    (hvalid : ∀ db ∈ c.versions, db.validate = .ok ()) :
    (c.withOutput true false).plan =
        (c.withOutput false false).plan.map (·.filter (!·.isOfRows)) ∧
      ∀ p, (c.withOutput false false).plan = .ok p →
        (c.withOutput false true).plan = .ok (p.filter (·.isOfRows)) := by
  rw [plan_withOutput, plan_withOutput, plan_withOutput]
  cases hschema : c.schemaWork with
  | error e => exact ⟨rfl, fun p h => by cases h⟩
  | ok d =>
    have hd := within_schemaWork hschema
    obtain ⟨rows, hwork, hrows⟩ := exists_rowWork hc hvalid hschema
    rw [hwork]
    constructor
    · show Except.ok ((d ++ {}).toPlan c.customSql) = Except.ok _
      rw [Draft.append_empty]
      exact congrArg _ (Draft.filter_toPlan_structure hd hrows).symm
    · rintro p ⟨⟩
      show Except.ok ((Draft.second rows).toPlan []) = Except.ok _
      exact congrArg _ (Draft.filter_toPlan_rows hd hrows).symm

end Comparison

/-- Versions are valid, or every plan is refused in the same way. -/
theorem valid_or_refused [QueryReader] (old : Option Database) (new : Database) :
    (new.validate = .ok () ∧ ∀ db, old = some db → db.validate = .ok ()) ∨
      ∃ e, ∀ style options, plan old new style options = .error e := by
  cases hnew : new.validate with
  | error e => exact .inr ⟨e, fun _ _ => by rw [plan, hnew]; rfl⟩
  | ok =>
    cases old with
    | none => exact .inl ⟨rfl, fun _ h => by cases h⟩
    | some db =>
      cases hold : db.validate with
      | error e =>
        refine .inr ⟨e, fun _ _ => ?_⟩
        rw [plan, hnew]
        dsimp only
        rw [hold]
        rfl
      | ok =>
        refine .inl ⟨rfl, ?_⟩
        rintro _ ⟨⟩
        exact hold

/-- **Leaving static rows alone and leaving everything else alone part the plan.**  Without static
rows there is a plan exactly when there is one with them, or else the same error, and it is the whole
plan without the operations on static rows.  Whenever there is a whole plan, its operations on static
rows are the plan for static rows alone. -/
theorem outputs_partition [QueryReader] (old : Option Database) (new : Database) (style : Sql.Style)
    (options : Options) :
    plan old new style options.schemaOnly =
        (plan old new style options.whole).map (·.filter (!·.isOfRows)) ∧
      ∀ p, plan old new style options.whole = .ok p →
        plan old new style options.dataOnly = .ok (p.filter (·.isOfRows)) := by
  obtain ⟨hnew, hold⟩ | ⟨e, he⟩ := valid_or_refused old new
  · have hplan : ∀ onlySchema onlyData,
        plan old new style (options.withOutput onlySchema onlyData) =
          (Comparison.make old new (some new.dependencyOrder) (old.map (·.dependencyOrder)) style
            options).map (·.withOutput onlySchema onlyData) >>= Comparison.plan := by
      intro onlySchema onlyData
      rw [plan_of_valid hnew hold, Comparison.make_withOutput]
    rw [hplan, hplan, hplan]
    cases hmake : Comparison.make old new (some new.dependencyOrder)
      (old.map (·.dependencyOrder)) style options with
    | error e => exact ⟨rfl, fun p h => by cases h⟩
    | ok c =>
      have hc := Comparison.wellMade_of_make (Database.coherent_of_validate hnew)
        (fun db hdb => Database.coherent_of_validate (hold db hdb)) hmake
      obtain ⟨-, -, -, rfl, rfl, -, -⟩ := Comparison.make_eq_ok_iff.1 hmake
      exact Comparison.plans_of_parts hc (Comparison.forall_mem_versions_iff.2 ⟨hnew, hold⟩)
  · rw [he, he, he]
    exact ⟨rfl, fun p h => by cases h⟩

/-! ### A station -/

attribute [local instance] QueryReader.blank

/-- A station whose lines count by themselves, with columns and rows of its own choice. -/
def Station.of (columns : List Column) (rows : List (List String)) : Database where
  schemas := [{
    name := "station"
    tables := [{
      name := "lines", primaryKey := ["id"]
      columns := [{ name := "id", dataType := some "bigserial" },
        { name := "name", dataType := some "text" }] ++ columns
      rows := some {
        columns := ["id", "name"]
        rows := rows.map fun row => { cells := row.map fun v => { value := some v } } } }] }]

/-- A station with two lines. -/
def Station.first : Database :=
  Station.of [] [["1", "North"], ["2", "South"]]

/-- The station with another name for one line, another line instead of the other, and a depot for
each.  Statistics are gathered once the rows are there. -/
def Station.second : Database where
  schemas := (Station.of [{ name := "depot", dataType := some "text" }]
    [["1", "Harbour"], ["3", "West"]]).schemas
  sql := [{ stage := .stage2, text := "ANALYZE station.lines" }]

/-- What is done to the structure of the station. -/
def Station.structure : Plan := [
  ⟨.stage1, .addColumn "station.lines" { name := "depot", dataType := "text" }⟩,
  ⟨.stage2, .customSql "ANALYZE station.lines"⟩]

/-- What is done to the rows of the station. -/
def Station.rows : Plan := [
  ⟨.stage2, .deleteRow "station.lines" [("id", "2")]⟩,
  ⟨.stage2, .updateRow "station.lines" [("name", "'Harbour'")] [("id", "1")]
    [("name", "'North'")]⟩,
  ⟨.stage2, .insertRow "station.lines" ["id", "name"] ["3", "'West'"]⟩,
  ⟨.stage2, .setSerialValue "station.lines" "id" .afterMax⟩]

/-- **The station is rebuilt in two parts.**  The counter of its lines goes with the rows. -/
theorem outputs_partition_of_station :
    plan (some Station.first) Station.second {} {} =
        .ok (Station.structure.take 1 ++ Station.rows ++ Station.structure.drop 1) ∧
      plan (some Station.first) Station.second {} { onlySchema := true } =
        .ok Station.structure ∧
      plan (some Station.first) Station.second {} { onlyData := true } = .ok Station.rows := by
  have hwhole : plan (some Station.first) Station.second {} {} =
      .ok (Station.structure.take 1 ++ Station.rows ++ Station.structure.drop 1) := by
    decide +kernel
  obtain ⟨hschema, hdata⟩ := outputs_partition (some Station.first) Station.second {} {}
  refine ⟨hwhole, hschema.trans ?_, hdata _ hwhole⟩
  exact congrArg (Except.map fun p : Plan => p.filter (!·.isOfRows)) hwhole

end SchemaPlan
