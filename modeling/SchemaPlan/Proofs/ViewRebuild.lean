import Mathlib.Data.List.TakeWhile
import SchemaPlan.Proofs.DependencyOrder
import SchemaPlan.Proofs.Precedence
import SchemaPlan.Proofs.Privileges
import SchemaPlan.Proofs.Stages

/-!
# Views are rebuilt together or not at all

Either an upgrade changes nothing outside the second stage and the views of both versions are the
same (`KeepsViews`), or all views of the previous version are dropped and all of the new version
created, each with its comment, its owner and its grants behind it (`RebuildsViews`).

What decides is whether any work on structure is left over, and whether views differ.  The first is
read off the places of the work on structure (`opsAt_eq_nil_of_not_structural`), the second compares
views by what tells them apart, which is one view each in a coherent definition (`viewRecords_perm`).
What follows the creation of a view is found by cutting the plan into the blocks of its views
(`takeWhile_of_blocks`).
-/

namespace SchemaPlan

/-! ### The order of views -/

/-- The places of the views that the view at a place reads from, itself apart. -/
def Database.viewDeps [QueryReader] (db : Database) (i : Nat) : List Nat :=
  let keys := db.views.map fun (s, v) => (s, v.name)
  (db.views.zipIdx.map fun ((s, v), i) =>
    ((QueryReader.references v.query s).filterMap fun key => lastPlace? key keys).filter
      (· != i)).getD i []

theorem viewOrder_eq [QueryReader] (db : Database) :
    viewOrder db = ((settle db.viewDeps db.views.length).1 ++
      (settle db.viewDeps db.views.length).2).filterMap (db.views[·]?) :=
  rfl

theorem lt_of_mem_viewDeps [QueryReader] {db : Database} {i j : Nat}
    (h : j ∈ db.viewDeps i) : j < db.views.length := by
  rw [Database.viewDeps, List.getD_eq_getElem?_getD, List.getElem?_map] at h
  cases hi : db.views.zipIdx[i]? with
  | none => simp [hi] at h
  | some entry =>
    rw [hi] at h
    obtain ⟨key, -, hkey⟩ := List.mem_filterMap.1 (List.mem_filter.1 h).1
    simpa using (List.getElem?_eq_some_iff.1 (getElem?_of_lastPlace? hkey)).1

/-- Views are put in order, each once, whatever they read from. -/
theorem viewOrder_perm [QueryReader] (db : Database) : (viewOrder db).Perm db.views := by
  rw [viewOrder_eq]
  exact perm_of_places (splits_settle fun _ _ => lt_of_mem_viewDeps).perm

/-! ### The same views -/

/-- What counts of the views of a definition: what tells them apart, their owners and grants. -/
def Database.viewRecords (db : Database) :
    List ((String × String × String) × Option String × List Grant) :=
  db.signedViews.map fun (key, v) => (key, v.owner, v.grants)

/-- **Views that do not differ are the same**, in whatever order. -/
theorem viewRecords_perm {old new : Database} (hnew : new.Coherent)
    (h : viewsDiffer old new = false) : old.viewRecords.Perm new.viewRecords := by
  obtain ⟨hlength, hfound⟩ := viewsDiffer_eq_false_iff.1 h
  have hnodup : new.viewRecords.Nodup := by
    refine List.Nodup.of_map (·.1) ?_
    rw [Database.viewRecords, List.map_map]
    exact hnew.nodup_signedViews
  have hsubset : new.viewRecords ⊆ old.viewRecords := by
    intro record hrecord
    obtain ⟨⟨key, v⟩, hm, rfl⟩ := List.mem_map.1 hrecord
    obtain ⟨o, ho, howner, hgrants, -⟩ := hfound key v hm
    obtain ⟨front, back, he, -⟩ := List.lookup_eq_some_iff.1 ho
    refine List.mem_map.2 ⟨(key, o), by rw [he]; simp, ?_⟩
    show (key, o.owner, o.grants) = _
    rw [howner, hgrants]
  refine ((List.subperm_of_subset hnodup hsubset).perm_of_length_le ?_).symm
  rw [Database.viewRecords, Database.viewRecords, List.length_map, List.length_map, hlength]

/-! ### Blocks of operations -/

section Blocks

variable {α : Type} {isHead : Op → Bool} {front before back after : List Op} {x : Op}

/-- A head is not found in front of where heads begin. -/
theorem exists_of_append_eq (hbefore : ∀ op ∈ before, isHead op = false) (hx : isHead x = true)
    (h : before ++ after = front ++ x :: back) :
    ∃ middle, front = before ++ middle ∧ after = middle ++ x :: back := by
  rcases List.append_eq_append_iff.1 h with ⟨middle, hfront, hafter⟩ | ⟨middle, hbefore', hback⟩
  · exact ⟨middle, hfront, hafter⟩
  · cases middle with
    | nil => exact ⟨[], by simpa using hbefore'.symm, by simpa using hback.symm⟩
    | cons y middle =>
      obtain ⟨rfl, -⟩ := List.cons.inj hback
      have hnot := hbefore x (by rw [hbefore']; simp)
      rw [hx] at hnot
      cases hnot

/-- **Behind a head stands the rest of its block**, and then another head or the end. -/
theorem takeWhile_of_blocks {items : List α} (head : α → Op) (rest : α → List Op)
    (hhead : ∀ item ∈ items, isHead (head item) = true)
    (hrest : ∀ item ∈ items, ∀ op ∈ rest item, isHead op = false)
    (hafter : ∀ op ∈ after, isHead op = false) (hx : isHead x = true)
    (h : items.flatMap (fun item => head item :: rest item) ++ after = front ++ x :: back) :
    ∃ item ∈ items, x = head item ∧ ∃ more, (more = [] ∨ more = after) ∧
      back.takeWhile (!isHead ·) = rest item ++ more := by
  induction items generalizing front with
  | nil =>
    have hnot := hafter x (by rw [← List.nil_append after]; exact h ▸ by simp)
    rw [hx] at hnot
    cases hnot
  | cons item items ih =>
    obtain ⟨hthis, hhead⟩ := List.forall_mem_cons.1 hhead
    obtain ⟨hown, hrest⟩ := List.forall_mem_cons.1 hrest
    rw [List.flatMap_cons, List.cons_append, List.cons_append, List.append_assoc] at h
    cases front with
    | nil =>
      obtain ⟨rfl, hback⟩ := List.cons.inj h
      refine ⟨item, List.mem_cons_self, rfl, ?_⟩
      rw [← hback, List.takeWhile_append_of_pos fun op hop => by rw [hown op hop]; rfl]
      cases items with
      | nil =>
        refine ⟨after, .inr rfl, ?_⟩
        rw [List.flatMap_nil, List.nil_append, List.takeWhile_eq_self_iff.2 fun op hop => by
          rw [hafter op hop]; rfl]
      | cons next items =>
        refine ⟨[], .inl rfl, ?_⟩
        rw [List.flatMap_cons, List.cons_append, List.cons_append,
          List.takeWhile_cons_of_neg (by rw [hhead next List.mem_cons_self]; simp)]
    | cons y front =>
      obtain ⟨-, h⟩ := List.cons.inj h
      obtain ⟨middle, -, h⟩ := exists_of_append_eq hown hx h
      obtain ⟨other, hother, he, hmore⟩ := ih hhead hrest h
      exact ⟨other, List.mem_cons_of_mem _ hother, he, hmore⟩

end Blocks

/-! ### What a plan does to views -/

/-- The view that is dropped. -/
def Op.droppedView? : Op → Option String
  | .dropView name => some name
  | _ => none

/-- The view that is created, with its schema. -/
def Op.createdView? : Op → Option (String × View)
  | .createView schema view => some (schema, view)
  | _ => none

theorem Op.kind_of_droppedView? {op : Op} (h : op.droppedView?.isSome) : op.kind = .dropView := by
  cases op <;> first | rfl | cases h

theorem Op.kind_of_createdView? {op : Op} (h : op.createdView?.isSome) : op.kind = .createView := by
  cases op <;> first | rfl | cases h

/-- The operations that own statements make up in a stage. -/
def statementsIn (own : List CustomSql) (stage : Stage) : List Op :=
  (own.filter fun e => e.stage == stage && e.before).flatMap Draft.customOps ++
    (own.filter fun e => e.stage == stage && !e.before).flatMap Draft.customOps

/-- A plan that leaves views alone: outside the second stage it does nothing but to run statements
of the definition's own, and the views of both versions are the same. -/
structure KeepsViews (options : Options) (old new : Database) (p : Plan) : Prop where
  untouched : ∀ op ∈ p.ops, op.kind ∉ [OpKind.dropView, .createView]
  quiet : ∀ stage, stage ≠ .stage2 →
    p.inStage stage = statementsIn (ownStatements (some old) new options) stage
  same : old.viewRecords.Perm new.viewRecords

/-- What is to follow the creation of a view: its comment, its owner and its grants, as the options
allow, and nothing else but statements of the definition's own. -/
def FollowsView (options : Options) (schema : String) (v : View) (ops : List Op) : Prop :=
  let address := Sql.qualified schema v.name
  ∃ grants own,
    ops = (if v.description.isSome then [.setComment (.view address) v.description] else []) ++
      (if options.manageOwnership then v.owner.toList.map (.alterOwner ⟨.view, address, none⟩)
        else []) ++ grants ++ own ∧
    (options.manageGrants = true → GrantsDeclared ⟨.view, address, none⟩ v.grants grants) ∧
    (options.manageGrants = false → grants = []) ∧
    OfKinds [.comment, .customSql] own

/-- A plan that drops every view that there was, creates every view that there is to be, each once,
and has the rest of a view follow its creation before another view is created. -/
structure RebuildsViews (options : Options) (old new : Database) (p : Plan) : Prop where
  dropped : (p.ops.filterMap Op.droppedView?).Perm
    (old.views.map fun (schema, v) => Sql.qualified schema v.name)
  created : (p.ops.filterMap Op.createdView?).Perm new.views
  followed : ∀ front schema v back, p.ops = front ++ .createView schema v :: back →
    FollowsView options schema v (back.takeWhile (·.kind != .createView))

namespace Comparison

variable {c : Comparison}

/-- The work on views is none at all, or all of it. -/
theorem viewWork_cases [QueryReader] {old : Database} (hold : c.old = some old)
    (structural : Bool) :
    (structural = false ∧ viewsDiffer old c.new = false ∧ c.viewWork structural = {}) ∨
      c.viewWork structural =
        { viewDrops := (viewOrder old).reverse.map fun (schema, v) =>
            .dropView (Sql.qualified schema v.name)
          viewCreates := (viewOrder c.new).flatMap c.createView } := by
  simp only [viewWork, hold]
  cases structural <;> cases hdiffer : viewsDiffer old c.new <;> simp

theorem followsView_createView {schema : String} {v : View} {own : List Op}
    (hown : OfKinds [.comment, .customSql] own) :
    FollowsView c.options schema v ((c.createView (schema, v)).tail ++ own) := by
  have howner : ownerOps ⟨.view, Sql.qualified schema v.name, none⟩ none v.owner =
      v.owner.toList.map (.alterOwner ⟨.view, Sql.qualified schema v.name, none⟩) := by
    cases v.owner <;> rfl
  refine ⟨if c.options.manageGrants then
    privilegeOps ⟨.view, Sql.qualified schema v.name, none⟩ [] v.grants else [], own, ?_, ?_, ?_,
    hown⟩
  · simp only [createView, viewPrivilegeOps, objectOps, Option.getD_none, howner, List.cons_append,
      List.tail_cons, List.append_assoc]
  · intro hgrants
    rw [if_pos hgrants]
    exact grantsDeclared_of_none _ _
  · intro hgrants
    rw [hgrants, if_neg Bool.false_ne_true]

theorem ofKinds_tail_createView (item : String × View) :
    OfKinds ([.setComment] ++ privilegeKinds) (c.createView item).tail :=
  ofKinds_append.2 ⟨ofKinds_ite (by simp [Op.kind]) ofKinds_nil,
    (ofKinds_objectOps _ _ _ _ _).mono (List.subset_append_right _ _)⟩

theorem filterMap_createView (item : String × View) :
    (c.createView item).filterMap Op.createdView? = [item] := by
  have hnone : (c.createView item).tail.filterMap Op.createdView? = [] := by
    refine List.filterMap_eq_nil_iff.2 fun op hop => Option.not_isSome_iff_eq_none.1 fun hsome => ?_
    have hkind := ofKinds_tail_createView item op hop
    rw [Op.kind_of_createdView? hsome] at hkind
    exact absurd hkind (by decide)
  show (Op.createView item.1 item.2 :: (c.createView item).tail).filterMap Op.createdView? = _
  rw [List.filterMap_cons, hnone]
  rfl

theorem filterMap_createViews (c : Comparison) (items : List (String × View)) :
    (items.flatMap c.createView).filterMap Op.createdView? = items := by
  rw [List.filterMap_flatMap]
  simp only [filterMap_createView, List.flatMap_singleton']

theorem filterMap_dropView (items : List (String × View)) :
    (items.map fun (schema, v) => Op.dropView (Sql.qualified schema v.name)).filterMap
      Op.droppedView? = items.map fun (schema, v) => Sql.qualified schema v.name := by
  have hname : (Op.droppedView? ∘ fun item : String × View =>
      .dropView (Sql.qualified item.1 item.2.name)) =
        some ∘ fun item => Sql.qualified item.1 item.2.name := rfl
  rw [List.filterMap_map, hname, List.filterMap_eq_map]

/-- Operations of other kinds create no view. -/
theorem notCreated {kinds : List OpKind} {ops : List Op} (h : OfKinds kinds ops)
    (hnot : OpKind.createView ∉ kinds) :
    ∀ op ∈ ops, (op.kind == OpKind.createView) = false :=
  fun op hop => beq_eq_false_iff_ne.2 fun hkind => hnot (hkind ▸ h op hop)

/-- Views are created behind all else that is planned, and in front of own statements only. -/
theorem exists_around_viewCreates {d : Draft} (hd : d.Within planKinds) (custom : List CustomSql) :
    ∃ before after, (d.toPlan custom).ops = before ++ (d.opsAt .viewCreates ++ after) ∧
      (∀ op ∈ before, (op.kind == OpKind.createView) = false) ∧
      OfKinds [.comment, .customSql] after := by
  obtain ⟨own, hown, hops⟩ := d.exists_own_statements custom
  have hownNot : ∀ stage first, ∀ op ∈ own stage first, (op.kind == OpKind.createView) = false :=
    fun stage first => notCreated (hown stage first) (by decide)
  have hnot : ∀ place, place ≠ .viewCreates →
      ∀ op ∈ d.opsAt place, (op.kind == OpKind.createView) = false := fun place hne =>
    notCreated (hd place) (by cases place <;> first | exact absurd rfl hne | decide)
  refine ⟨own .stage1 true ++ (d.opsAt .viewDrops ++ (d.opsAt .stage1 ++ (d.opsAt .stage1Tail ++
    (own .stage1 false ++ (own .stage2 true ++ (d.opsAt .stage2 ++ (own .stage2 false ++
      (own .stage3 true ++ d.opsAt .stage3)))))))),
    own .stage3 false ++ (own .stage4 true ++ (d.opsAt .stage4 ++ own .stage4 false)), ?_, ?_, ?_⟩
  · simp only [hops, List.append_assoc]
  · simp only [List.forall_mem_append]
    exact ⟨hownNot _ _, hnot _ (by decide), hnot _ (by decide), hnot _ (by decide), hownNot _ _,
      hownNot _ _, hnot _ (by decide), hownNot _ _, hownNot _ _, hnot _ (by decide)⟩
  · rw [(hd .stage4).eq_nil, List.nil_append]
    exact ofKinds_append.2 ⟨hown _ _, ofKinds_append.2 ⟨hown _ _, hown _ _⟩⟩

section Plan

variable {work rows : Draft} (hwork : c.structureWork = .ok work)
  (hrows : (if c.options.onlySchema then .ok {} else c.rowWork) = .ok rows)

include hwork

/-- **Where no structure changes, there is no work on it at all.** -/
theorem opsAt_eq_nil_of_not_structural (hstructural : work.isStructural = false) (place : Place) :
    work.opsAt place = [] := by
  simp only [Draft.isStructural, Bool.not_eq_false', Bool.and_eq_true, List.isEmpty_iff]
    at hstructural
  cases place with
  | stage1 => exact hstructural.1.1.1
  | stage1Tail => exact hstructural.1.1.2
  | stage3 => exact hstructural.1.2
  | stage4 => exact hstructural.2
  | viewDrops => exact (within_structureWork hwork .viewDrops).eq_nil
  | stage2 => exact (within_structureWork hwork .stage2).eq_nil
  | viewCreates => exact (within_structureWork hwork .viewCreates).eq_nil

include hrows

/-- Where no structure changes and no views are rebuilt, rows are all that is left. -/
theorem keepsViews {old : Database} (hold : c.old = some old) (hnew : c.new.Coherent)
    (hdata : c.options.onlyData = false) (hstructural : work.isStructural = false)
    (hdiffer : viewsDiffer old c.new = false) :
    KeepsViews c.options old c.new ((work ++ {} ++ rows).toPlan c.customSql) := by
  have hrowKinds := within_rowsIfWanted hrows
  have hplace : ∀ place, (work ++ {} ++ rows).opsAt place = rows.opsAt place := by
    intro place
    rw [Draft.opsAt_append, Draft.opsAt_append, Draft.opsAt_empty,
      opsAt_eq_nil_of_not_structural hwork hstructural, List.append_nil, List.nil_append]
  have hnil : ∀ place, place ≠ .stage2 → (work ++ {} ++ rows).opsAt place = [] := by
    intro place hne
    have hkinds := hrowKinds place
    rw [hplace]
    cases place <;> first | exact absurd rfl hne | exact hkinds.eq_nil
  refine ⟨fun op hop => ?_, fun stage hne => ?_, viewRecords_perm hnew hdiffer⟩
  · rcases mem_ops_toPlan hop with hown | ⟨place, hop⟩
    · exact (by decide : ∀ kind ∈ [OpKind.comment, .customSql],
        kind ∉ [OpKind.dropView, .createView]) _ hown
    · by_cases hstage : place = .stage2
      · rw [hplace, hstage] at hop
        exact (by decide : ∀ kind ∈ rowKinds .stage2, kind ∉ [OpKind.dropView, .createView])
          _ (hrowKinds _ op hop)
      · rw [hnil place hstage] at hop
        cases hop
  · have hstage : (work ++ {} ++ rows).ofStage stage = [] := by
      cases stage with
      | stage1 =>
        show (work ++ {} ++ rows).opsAt .viewDrops ++ (work ++ {} ++ rows).opsAt .stage1 ++
          (work ++ {} ++ rows).opsAt .stage1Tail = []
        rw [hnil _ (by decide), hnil _ (by decide), hnil _ (by decide)]
        rfl
      | stage2 => exact absurd rfl hne
      | stage3 =>
        show (work ++ {} ++ rows).opsAt .stage3 ++ (work ++ {} ++ rows).opsAt .viewCreates = []
        rw [hnil _ (by decide), hnil _ (by decide)]
        rfl
      | stage4 => exact hnil .stage4 (by decide)
    have hown : ownStatements (some old) c.new c.options = c.customSql := by
      rw [← hold, ← customSql_eq, hdata, if_neg Bool.false_ne_true]
    rw [Draft.inStage_toPlan, Draft.stageOps, hstage, List.append_nil, hown]
    rfl

/-- Whatever is done about views, all work together is of the kinds that a plan may hold. -/
theorem within_planKinds [QueryReader] (structural : Bool) :
    (work ++ c.viewWork structural ++ rows).Within planKinds :=
  (((within_structureWork hwork).mono fun place => by cases place <;> decide).append
    ((within_viewWork c structural).mono fun place => by cases place <;> decide)).append
    ((within_rowsIfWanted hrows).mono fun place => by cases place <;> decide)

/-- Nothing but the work on views is planned where views are dropped. -/
theorem opsAt_viewDrops [QueryReader] (structural : Bool) :
    (work ++ c.viewWork structural ++ rows).opsAt .viewDrops = (c.viewWork structural).viewDrops := by
  rw [Draft.opsAt_append, Draft.opsAt_append, (within_structureWork hwork .viewDrops).eq_nil,
    (within_rowsIfWanted hrows .viewDrops).eq_nil, List.append_nil]
  rfl

/-- Nothing but the work on views is planned where views are created. -/
theorem opsAt_viewCreates [QueryReader] (structural : Bool) :
    (work ++ c.viewWork structural ++ rows).opsAt .viewCreates =
      (c.viewWork structural).viewCreates := by
  rw [Draft.opsAt_append, Draft.opsAt_append, (within_structureWork hwork .viewCreates).eq_nil,
    (within_rowsIfWanted hrows .viewCreates).eq_nil, List.append_nil]
  rfl

/-- Views are dropped in the order of the work on views. -/
theorem droppedViews_toPlan [QueryReader] (structural : Bool) (custom : List CustomSql) :
    ((work ++ c.viewWork structural ++ rows).toPlan custom).ops.filterMap Op.droppedView? =
      (c.viewWork structural).viewDrops.filterMap Op.droppedView? := by
  rw [(within_planKinds hwork hrows structural).filterMap_toPlan .viewDrops
    (fun _ => Op.kind_of_droppedView?) (by decide)
    (fun other hne => by cases other <;> first | exact absurd rfl hne | decide),
    opsAt_viewDrops hwork hrows]

/-- Views are created in the order of the work on views. -/
theorem createdViews_toPlan [QueryReader] (structural : Bool) (custom : List CustomSql) :
    ((work ++ c.viewWork structural ++ rows).toPlan custom).ops.filterMap Op.createdView? =
      (c.viewWork structural).viewCreates.filterMap Op.createdView? := by
  rw [(within_planKinds hwork hrows structural).filterMap_toPlan .viewCreates
    (fun _ => Op.kind_of_createdView?) (by decide)
    (fun other hne => by cases other <;> first | exact absurd rfl hne | decide),
    opsAt_viewCreates hwork hrows]

/-- Otherwise all views are dropped and all are created. -/
theorem rebuildsViews [QueryReader] {old : Database} {structural : Bool}
    (hviews : c.viewWork structural =
      { viewDrops := (viewOrder old).reverse.map fun (schema, v) =>
          .dropView (Sql.qualified schema v.name)
        viewCreates := (viewOrder c.new).flatMap c.createView }) (custom : List CustomSql) :
    RebuildsViews c.options old c.new
      ((work ++ c.viewWork structural ++ rows).toPlan custom) := by
  refine ⟨?_, ?_, fun front schema v back he => ?_⟩
  · rw [droppedViews_toPlan hwork hrows, hviews, filterMap_dropView]
    exact ((List.reverse_perm _).trans (viewOrder_perm _)).map _
  · rw [createdViews_toPlan hwork hrows, hviews, filterMap_createViews]
    exact viewOrder_perm _
  · obtain ⟨before, after, hops, hbefore, hafter⟩ :=
      exists_around_viewCreates (within_planKinds hwork hrows structural) custom
    rw [hops, opsAt_viewCreates hwork hrows, hviews] at he
    obtain ⟨middle, -, he⟩ := exists_of_append_eq hbefore rfl he
    obtain ⟨item, -, hcreate, more, hmore, htake⟩ := takeWhile_of_blocks
      (fun item : String × View => .createView item.1 item.2)
      (fun item => (c.createView item).tail) (fun _ _ => rfl)
      (fun item _ => notCreated (ofKinds_tail_createView item) (by decide))
      (notCreated hafter (by decide)) rfl he
    obtain ⟨rfl, rfl⟩ := Op.createView.inj hcreate
    have hown : OfKinds [.comment, .customSql] more := by
      rcases hmore with rfl | rfl
      · exact ofKinds_nil
      · exact hafter
    exact htake ▸ followsView_createView hown

end Plan

end Comparison

/-- **Views are rebuilt together or not at all**, in every upgrade that covers structure, whatever
the orders of tables. -/
theorem views_together [QueryReader] {old new : Database}
    {newOrder oldOrder : Option (List OrderItem)} {style : Sql.Style} {options : Options} {p : Plan}
    (h : planWithOrders (some old) new newOrder oldOrder style options = .ok p)
    (hdata : options.onlyData = false) :
    KeepsViews options old new p ∨ RebuildsViews options old new p := by
  obtain ⟨hnew, -, c, hmake, hp⟩ := planWithOrders_eq_ok_iff.1 h
  obtain ⟨-, -, -, hold, rfl, rfl, -⟩ := Comparison.make_eq_ok_iff.1 hmake
  obtain ⟨schema, rows, hschema, hrows, rfl⟩ := Comparison.plan_eq_ok_iff.1 hp
  rw [hdata, if_neg Bool.false_ne_true] at hschema
  obtain ⟨-, work, hwork, rfl⟩ := Comparison.schemaWork_eq_ok_iff.1 hschema
  rw [hdata, if_neg Bool.false_ne_true]
  rcases Comparison.viewWork_cases hold work.isStructural with
    ⟨hstructural, hdiffer, hviews⟩ | hviews
  · left
    rw [hviews]
    exact Comparison.keepsViews hwork hrows hold (Database.coherent_of_validate hnew) hdata
      hstructural hdiffer
  · right
    exact Comparison.rebuildsViews hwork hrows hviews _

/-! ### A gallery -/

/-- The artists of the paintings that are shown. -/
def Gallery.artists : View where
  name := "artists"
  query := "SELECT id FROM shown"

/-- The paintings that are shown, for visitors to read. -/
def Gallery.shown : View where
  name := "shown"
  query := "SELECT id FROM paintings;"
  owner := some "curator"
  description := some "Paintings on the walls."
  grants := [{ roles := ["visitors"], operations := ["select"] }]

/-- In the gallery the view of the artists reads from the paintings that are shown, and that view
from all paintings. -/
local instance Gallery.reader : QueryReader where
  references query schema :=
    [(schema, if query = Gallery.artists.query then "shown" else "paintings")]

/-- A gallery whose paintings have columns of their own choice. -/
def Gallery.database (columns : List Column) : Database where
  schemas := [{
    name := "gallery"
    tables := [{
      name := "paintings"
      primaryKey := ["id"]
      columns := { name := "id", dataType := some "bigint" } :: columns }]
    views := [Gallery.artists, Gallery.shown] }]

/-- A gallery that does not know the size of its paintings. -/
def Gallery.first : Database :=
  Gallery.database []

/-- A gallery that does. -/
def Gallery.second : Database :=
  Gallery.database [{ name := "width", dataType := some "integer" }]

/-- The plan for paintings to be measured. -/
def Gallery.upgrade : Plan := [
  ⟨.stage1, .dropView "gallery.artists"⟩,
  ⟨.stage1, .dropView "gallery.shown"⟩,
  ⟨.stage1, .addColumn "gallery.paintings" { name := "width", dataType := "integer" }⟩,
  ⟨.stage3, .createView "gallery" Gallery.shown⟩,
  ⟨.stage3, .setComment (.view "gallery.shown") Gallery.shown.description⟩,
  ⟨.stage3, .alterOwner ⟨.view, "gallery.shown", none⟩ "curator"⟩,
  ⟨.stage3, .grant ⟨.view, "gallery.shown", none⟩ ["visitors"] ["SELECT"] false⟩,
  ⟨.stage3, .createView "gallery" Gallery.artists⟩]

/-- The views of the gallery are rebuilt when its paintings are measured. -/
theorem views_together_of_gallery :
    planWithOrders (some Gallery.first) Gallery.second none none {} {} = .ok Gallery.upgrade ∧
      RebuildsViews {} Gallery.first Gallery.second Gallery.upgrade := by
  have h : planWithOrders (some Gallery.first) Gallery.second none none {} {} =
      .ok Gallery.upgrade := by
    decide +kernel
  refine ⟨h, (views_together h rfl).resolve_left fun hkeeps => ?_⟩
  exact hkeeps.untouched (.dropView "gallery.artists") (by decide) (by decide)

end SchemaPlan
