import Mathlib.Data.List.Perm.Basic
import SchemaPlan.Proofs.Correspondence
import SchemaPlan.Proofs.Kinds
import SchemaPlan.Proofs.Refusals

/-!
# Orders given from outside

An order of tables that is given decides in which order work is done, and nothing else: any two
orders that are accepted lead to the same operations in the same stages, or no plan is found with
either (`given_orders_permute`).

Two runs are compared pass by pass.  `Agree` says of two computations that both fail or both give
results that are related; most passes give the very same result on a table or a schema, and one
result for each table then makes a permutation (`agree_mapM_perm`), since both orders list the same
tables once.  Passes that look at what others have decided look at it as a whole: constraints are
added depending on which have been dropped, and views depending on whether anything is structural.
-/

namespace SchemaPlan

/-! ### Two runs -/

/-- Both computations fail, or they give results that are related. -/
def Agree {ε α β : Type} (r : α → β → Prop) : Except ε α → Except ε β → Prop
  | .ok a, .ok b => r a b
  | .error _, .error _ => True
  | _, _ => False

section Agree

variable {ε α β γ δ : Type}

theorem agree_refl {r : α → α → Prop} (h : ∀ a, r a a) (x : Except ε α) : Agree r x x := by
  cases x with
  | error e => trivial
  | ok a => exact h a

theorem Agree.bind {r : α → β → Prop} {s : γ → δ → Prop} {x : Except ε α} {y : Except ε β}
    {f : α → Except ε γ} {g : β → Except ε δ} (h : Agree r x y)
    (hf : ∀ a b, r a b → Agree s (f a) (g b)) : Agree s (x >>= f) (y >>= g) := by
  cases x with
  | error e =>
    cases y with
    | error e => trivial
    | ok b => exact h.elim
  | ok a =>
    cases y with
    | error e => exact h.elim
    | ok b => exact hf a b h

/-- One result for each element, of two computations that agree on each. -/
theorem agree_mapM {r : β → γ → Prop} {f : α → Except ε β} {g : α → Except ε γ} {xs : List α}
    (h : ∀ x ∈ xs, Agree r (f x) (g x)) : Agree (List.Forall₂ r) (xs.mapM f) (xs.mapM g) := by
  induction xs with
  | nil => exact .nil
  | cons x xs ih =>
    obtain ⟨hx, hxs⟩ := List.forall_mem_cons.1 h
    rw [List.mapM_cons, List.mapM_cons]
    exact hx.bind fun _ _ hhead => (ih hxs).bind fun _ _ htail => .cons hhead htail

theorem Agree.trans {r : α → β → Prop} {s : β → γ → Prop} {x : Except ε α} {y : Except ε β}
    {z : Except ε γ} (h : Agree r x y) (h' : Agree s y z) : Agree (Relation.Comp r s) x z := by
  cases x <;> cases y <;> cases z <;>
    first | trivial | exact h.elim | exact h'.elim | exact ⟨_, h, h'⟩

theorem Agree.mono {r s : α → β → Prop} {x : Except ε α} {y : Except ε β} (h : Agree r x y)
    (hrs : ∀ a b, r a b → s a b) : Agree s x y := by
  cases x <;> cases y <;> first | trivial | exact h.elim | exact hrs _ _ h

/-- **The elements may come in any order**: then the results do. -/
theorem agree_mapM_perm {f : α → Except ε β} {xs ys : List α} (h : xs.Perm ys) :
    Agree List.Perm (xs.mapM f) (ys.mapM f) := by
  induction h with
  | nil => exact .nil
  | cons x _ ih =>
    rw [List.mapM_cons, List.mapM_cons]
    refine (agree_refl (fun _ => rfl) (f x)).bind fun b _ hb => ?_
    subst hb
    exact ih.bind fun _ _ h => h.cons b
  | swap x y l =>
    simp only [List.mapM_cons]
    cases f x <;> cases f y <;> cases l.mapM f <;> first | trivial | exact .swap _ _ _
  | trans _ _ ih₁ ih₂ => exact (ih₁.trans ih₂).mono fun _ _ ⟨_, h₁, h₂⟩ => h₁.trans h₂

end Agree

/-! ### Drafts up to the order inside a place -/

namespace Draft

/-- The drafts hold the same at each place. -/
def Perm (a b : Draft) : Prop :=
  ∀ place, (a.opsAt place).Perm (b.opsAt place)

namespace Perm

theorem refl (a : Draft) : a.Perm a :=
  fun _ => .refl _

theorem trans {a b c : Draft} (h : a.Perm b) (h' : b.Perm c) : a.Perm c :=
  fun place => (h place).trans (h' place)

theorem append {a b c d : Draft} (h : a.Perm b) (h' : c.Perm d) : (a ++ c).Perm (b ++ d) := by
  intro place
  rw [opsAt_append, opsAt_append]
  exact (h place).append (h' place)

theorem first {ops ops' : List Op} (h : ops.Perm ops') : (Draft.first ops).Perm (.first ops') := by
  intro place
  cases place with
  | stage1 => exact h
  | _ => exact .refl _

theorem comm (a b : Draft) : (a ++ b).Perm (b ++ a) := by
  intro place
  rw [opsAt_append, opsAt_append]
  exact List.perm_append_comm

theorem join_of_forall₂ {ds es : List Draft} (h : List.Forall₂ Draft.Perm ds es) :
    (join ds).Perm (join es) := by
  induction h with
  | nil => exact .refl _
  | cons hd _ ih => exact hd.append ih

theorem join_of_perm {ds es : List Draft} (h : List.Perm ds es) : (join ds).Perm (join es) := by
  induction h with
  | nil => exact .refl _
  | cons d _ ih => exact (refl d).append ih
  | swap d e l =>
    have hassoc : ∀ d e, join (d :: e :: l) = d ++ e ++ join l := fun d e =>
      (Draft.append_assoc d e (join l)).symm
    rw [hassoc, hassoc]
    exact (comm e d).append (refl (join l))
  | trans _ _ ih₁ ih₂ => exact ih₁.trans ih₂

theorem isStructural_eq {a b : Draft} (h : a.Perm b) : a.isStructural = b.isStructural := by
  have hempty : ∀ {xs ys : List Op}, xs.Perm ys → xs.isEmpty = ys.isEmpty := by
    intro xs ys h
    rw [Bool.eq_iff_iff, List.isEmpty_iff, List.isEmpty_iff]
    exact ⟨fun he => List.perm_nil.1 (he ▸ h).symm, fun he => List.perm_nil.1 (he ▸ h)⟩
  have hstage1 : a.stage1.isEmpty = b.stage1.isEmpty := hempty (h .stage1)
  have hstage1Tail : a.stage1Tail.isEmpty = b.stage1Tail.isEmpty := hempty (h .stage1Tail)
  have hstage3 : a.stage3.isEmpty = b.stage3.isEmpty := hempty (h .stage3)
  have hstage4 : a.stage4.isEmpty = b.stage4.isEmpty := hempty (h .stage4)
  rw [isStructural, isStructural, hstage1, hstage1Tail, hstage3, hstage4]

/-- Whatever is at each place, the plans hold the same in each stage. -/
theorem toPlan {a b : Draft} (h : a.Perm b) (custom : List CustomSql) :
    (a.toPlan custom).Perm (b.toPlan custom) := by
  have hstage : ∀ stage, (a.ofStage stage).Perm (b.ofStage stage) := by
    intro stage
    cases stage
    · exact ((h .viewDrops).append (h .stage1)).append (h .stage1Tail)
    · exact h .stage2
    · exact (h .stage3).append (h .viewCreates)
    · exact h .stage4
  refine List.Perm.flatMap_left _ fun stage _ => ?_
  exact (((hstage stage).append_left _).append_right _).map _

end Perm

end Draft

namespace Comparison

/-! ### Names in order -/

theorem mem_addNames {n : String} {names others : List String} :
    n ∈ addNames names others ↔ n ∈ names ∨ n ∈ others := by
  unfold addNames
  induction others generalizing names with
  | nil => simp
  | cons other others ih =>
    rw [List.foldl_cons, ih, List.mem_cons]
    split
    next hm =>
      rw [List.contains_iff_mem] at hm
      constructor
      · exact Or.imp_right .inr
      · rintro (h | rfl | h)
        · exact .inl h
        · exact .inl hm
        · exact .inr h
    next =>
      rw [List.mem_append, List.mem_singleton, or_assoc]

theorem nodup_addNames {names others : List String} (h : names.Nodup) :
    (addNames names others).Nodup := by
  unfold addNames
  induction others generalizing names with
  | nil => exact h
  | cons other others ih =>
    refine ih ?_
    dsimp only
    split
    next => exact h
    next hm =>
      rw [List.contains_iff_mem] at hm
      exact List.nodup_append.2 ⟨h, List.nodup_singleton _, fun a ha b hb he => by
        rw [List.mem_singleton] at hb
        exact hm (by rwa [← hb, ← he])⟩

theorem mem_newSchemas {c : Comparison} (h : c.new.Coherent) {s : Schema} :
    s ∈ c.newSchemas ↔ s ∈ c.new.schemas := by
  rw [newSchemas, List.mem_filterMap]
  constructor
  · rintro ⟨n, -, hn⟩
    exact List.mem_of_find?_eq_some hn
  · intro hs
    refine ⟨s.name, mem_addNames.2 (.inr (List.mem_map.2 ⟨s, hs, rfl⟩)), h.schema?_of_mem hs⟩

theorem nodup_newSchemas (c : Comparison) : c.newSchemas.Nodup := by
  have hname : ∀ {n : String} {s : Schema}, c.new.schema? n = some s → s.name = n := by
    intro n s hs
    simpa using List.find?_some hs
  refine (nodup_addNames (nodup_addNames List.nodup_nil)).filterMap fun m n s hm hn => ?_
  exact (hname hm).symm.trans (hname hn)

/-! ### One comparison with other orders -/

/-- The comparison with other orders. -/
def withOrders (c : Comparison) (newOrder oldOrder : List OrderItem) : Comparison :=
  { c with newOrder, oldOrder }

variable {c : Comparison} {newOrder oldOrder : List OrderItem}

theorem newTables_perm (h : c.WellMade) (h' : (c.withOrders newOrder oldOrder).WellMade) :
    c.newTables.Perm (c.withOrders newOrder oldOrder).newTables :=
  (List.perm_ext_iff_of_nodup h.nodup_newTables h'.nodup_newTables).2 fun _ =>
    h.mem_newTables.trans h'.mem_newTables.symm

theorem oldTablesReversed_perm (h : c.WellMade) (h' : (c.withOrders newOrder oldOrder).WellMade) :
    c.oldTablesReversed.Perm (c.withOrders newOrder oldOrder).oldTablesReversed := by
  cases hold : c.old with
  | none =>
    have hnone : (c.withOrders newOrder oldOrder).old = none := hold
    rw [oldTablesReversed, oldTablesReversed, hold, hnone]
  | some db =>
    have hsome : (c.withOrders newOrder oldOrder).old = some db := hold
    exact (List.perm_ext_iff_of_nodup (h.nodup_oldTablesReversed hold)
      (h'.nodup_oldTablesReversed hsome)).2 fun _ =>
        (h.mem_oldTablesReversed hold).trans (h'.mem_oldTablesReversed hsome).symm

theorem newSchemas_perm (h : c.WellMade) :
    c.newSchemas.Perm (c.withOrders newOrder oldOrder).newSchemas :=
  (List.perm_ext_iff_of_nodup c.nodup_newSchemas (nodup_newSchemas _)).2 fun _ =>
    (mem_newSchemas h.new).trans (mem_newSchemas (c := c.withOrders newOrder oldOrder) h.new).symm

/-! ### Types -/

theorem agree_columnsOfType {db : Database} (hdb : db.Coherent) {order order' : List OrderItem}
    (h : Covers order db) (h' : Covers order' db) (schema name : String) :
    Agree List.Perm (columnsOfType db order schema name) (columnsOfType db order' schema name) := by
  have htables : (tablesIn db order).Perm (tablesIn db order') := by
    refine (List.perm_ext_iff_of_nodup (nodup_tablesIn hdb h.nodup)
      (nodup_tablesIn hdb h'.nodup)).2 fun item => ?_
    rw [mem_tablesIn hdb, mem_tablesIn hdb]
    exact and_congr_right fun hm => iff_of_true (h.mem item hm) (h'.mem item hm)
  unfold columnsOfType
  exact (agree_mapM_perm htables).bind fun _ _ hfound => hfound.flatten

theorem agree_rebuildType (h : c.WellMade) (h' : (c.withOrders newOrder oldOrder).WellMade)
    (schema : String) (old new : TypeDef) :
    Agree List.Perm (c.rebuildType schema old new)
      ((c.withOrders newOrder oldOrder).rebuildType schema old new) := by
  unfold rebuildType
  dsimp only [withOrders]
  split
  next db hdb =>
    refine (agree_columnsOfType (h.old db hdb) (h.oldOrder db hdb) (h'.oldOrder db hdb) schema
      old.name).bind fun _ _ hcolumns => ?_
    exact ((hcolumns.flatMap_right _).append_right _).append (hcolumns.flatMap_right _)
  next => exact .refl _

theorem agree_typeOps (h : c.WellMade) (h' : (c.withOrders newOrder oldOrder).WellMade)
    (schema : String) (t : TypeDef) :
    Agree List.Perm (c.typeOps schema t) ((c.withOrders newOrder oldOrder).typeOps schema t) := by
  have hold : (c.withOrders newOrder oldOrder).oldSchema? = c.oldSchema? := rfl
  unfold typeOps
  rw [hold]
  split
  next => exact .refl _
  next old _ =>
    dsimp only
    split
    · exact .refl _
    · split
      · exact .refl _
      · split
        · exact .refl _
        · exact agree_rebuildType h h' schema old t

theorem agree_typePass (h : c.WellMade) (h' : (c.withOrders newOrder oldOrder).WellMade)
    (s : Schema) :
    Agree Draft.Perm (c.typePass s) ((c.withOrders newOrder oldOrder).typePass s) := by
  have hflatten : ∀ {xs ys : List (List Op)}, List.Forall₂ List.Perm xs ys →
      xs.flatten.Perm ys.flatten := by
    intro xs ys h
    induction h with
    | nil => exact .nil
    | cons hx _ ih => exact hx.append ih
  unfold typePass schemaTypeOps
  refine Agree.bind (Agree.bind (agree_mapM fun t _ => agree_typeOps h h' s.name t) fun _ _ ht =>
    (hflatten ht : Agree List.Perm (.ok _) (.ok _))) fun _ _ hops => ?_
  exact Draft.Perm.first (hops.append_right _)

/-! ### Constraints and tables -/

theorem agree_constraintDrops (h : c.WellMade) (h' : (c.withOrders newOrder oldOrder).WellMade) :
    Agree List.Perm c.constraintDrops (c.withOrders newOrder oldOrder).constraintDrops := by
  have htables := oldTablesReversed_perm h h'
  have htableDrops : (c.withOrders newOrder oldOrder).tableDrops = c.tableDrops :=
    tableDrops_congr rfl rfl rfl
  unfold constraintDrops
  rw [htableDrops]
  dsimp only [withOrders]
  split
  · refine (agree_mapM_perm htables).bind fun _ _ hdrops => ?_
    exact (hdrops.flatten.filter _).append (hdrops.flatten.filter _)
  · exact .refl _

/-- What is still to be added depends on which constraints have been dropped, not on when. -/
theorem pendingConstraints_eq {drops drops' : List Constraint} (hdrops : drops.Perm drops')
    (schema : String) (table : Table) :
    c.pendingConstraints drops schema table = c.pendingConstraints drops' schema table := by
  have hany : ∀ p, drops.any p = drops'.any p := by
    intro p
    rw [Bool.eq_iff_iff, List.any_eq_true, List.any_eq_true]
    simp only [hdrops.mem_iff]
  simp only [pendingConstraints, hany]

theorem tablePass_eq {drops drops' : List Constraint} (hdrops : drops.Perm drops') :
    (c.withOrders newOrder oldOrder).tablePass drops' = c.tablePass drops := by
  have hsame : (c.withOrders newOrder oldOrder).tablePass drops' = c.tablePass drops' := rfl
  rw [hsame]
  funext item
  simp only [tablePass, addPrimaryKey, pendingConstraints_eq hdrops]

theorem addConstraints_eq {drops drops' : List Constraint} (hdrops : drops.Perm drops') :
    (c.withOrders newOrder oldOrder).addConstraints drops' = c.addConstraints drops := by
  have hsame : (c.withOrders newOrder oldOrder).addConstraints drops' = c.addConstraints drops' :=
    rfl
  rw [hsame]
  funext schema table
  simp only [addConstraints, pendingConstraints_eq hdrops]

theorem dropTables_perm (h : c.WellMade) (h' : (c.withOrders newOrder oldOrder).WellMade) :
    c.dropTables.Perm (c.withOrders newOrder oldOrder).dropTables := by
  intro place
  cases place with
  | stage3 => exact (oldTablesReversed_perm h h').filterMap _
  | _ => exact .refl _

/-! ### The whole -/

theorem agree_structureWork (h : c.WellMade) (h' : (c.withOrders newOrder oldOrder).WellMade) :
    Agree Draft.Perm c.structureWork (c.withOrders newOrder oldOrder).structureWork := by
  have hschemas : c.newSchemas.Perm (c.withOrders newOrder oldOrder).newSchemas :=
    newSchemas_perm h
  have htables := newTables_perm h h'
  have htypes : Agree (fun ds es => (Draft.join ds).Perm (Draft.join es))
      (c.newSchemas.mapM c.typePass)
      ((c.withOrders newOrder oldOrder).newSchemas.mapM
        (c.withOrders newOrder oldOrder).typePass) := by
    have heach := agree_mapM fun s (_ : s ∈ c.newSchemas) => agree_typePass h h' s
    exact (heach.trans (agree_mapM_perm hschemas)).mono fun _ _ ⟨_, hd, he⟩ =>
      (Draft.Perm.join_of_forall₂ hd).trans (Draft.Perm.join_of_perm he)
  unfold structureWork
  dsimp only
  refine htypes.bind fun types types' hty => ?_
  refine (agree_constraintDrops h h').bind fun drops drops' hdrops => ?_
  rw [tablePass_eq hdrops, addConstraints_eq hdrops]
  refine (agree_mapM_perm htables).bind fun tables tables' htab => ?_
  refine (agree_mapM_perm htables).bind fun adds adds' hadds => ?_
  have hdropOps : (dropConstraintOps drops).Perm (dropConstraintOps drops') := hdrops.map _
  exact (((((((Draft.Perm.first (hschemas.flatMap_right _)).append hty).append
    (.first hdropOps)).append (.join_of_perm (hschemas.map _))).append
    (.join_of_perm htab)).append (.first hadds.flatten)).append (dropTables_perm h h')).append
    (.refl _) |>.append (.first (hschemas.flatMap_right _))

theorem agree_schemaWork [QueryReader] (h : c.WellMade)
    (h' : (c.withOrders newOrder oldOrder).WellMade) :
    Agree Draft.Perm c.schemaWork (c.withOrders newOrder oldOrder).schemaWork := by
  have hcheck : (c.withOrders newOrder oldOrder).checkInheritance = c.checkInheritance := rfl
  have hviews : (c.withOrders newOrder oldOrder).viewWork = c.viewWork := rfl
  unfold schemaWork
  rw [hcheck, hviews]
  refine (agree_refl (fun _ => rfl) c.checkInheritance).bind fun _ _ _ => ?_
  refine (agree_structureWork h h').bind fun work work' hwork => ?_
  rw [hwork.isStructural_eq]
  exact hwork.append (.refl _)

theorem agree_rowWork (h : c.WellMade) (h' : (c.withOrders newOrder oldOrder).WellMade) :
    Agree Draft.Perm c.rowWork (c.withOrders newOrder oldOrder).rowWork := by
  have htables := newTables_perm h h'
  have hreversed : c.newTables.reverse.Perm (c.withOrders newOrder oldOrder).newTables.reverse :=
    (List.reverse_perm _).trans (htables.trans (List.reverse_perm _).symm)
  unfold rowWork
  refine (agree_mapM_perm hreversed).bind fun _ _ hdeletes => ?_
  refine (agree_mapM_perm htables).bind fun _ _ hupserts => ?_
  intro place
  cases place with
  | stage2 => exact hdeletes.flatten.append hupserts.flatten
  | _ => exact .refl _

/-- **Other orders permute the plan.** -/
theorem agree_plan [QueryReader] (h : c.WellMade) (h' : (c.withOrders newOrder oldOrder).WellMade) :
    Agree List.Perm c.plan (c.withOrders newOrder oldOrder).plan := by
  rw [plan_eq_bind, plan_eq_bind]
  have hoptions : (c.withOrders newOrder oldOrder).options = c.options := rfl
  have hcustom : (c.withOrders newOrder oldOrder).customSql = c.customSql := rfl
  rw [hoptions, hcustom]
  have hschema : Agree Draft.Perm (if c.options.onlyData then .ok {} else c.schemaWork)
      (if c.options.onlyData then .ok {} else (c.withOrders newOrder oldOrder).schemaWork) := by
    split
    · exact .refl _
    · exact agree_schemaWork h h'
  have hrows : Agree Draft.Perm (if c.options.onlySchema then .ok {} else c.rowWork)
      (if c.options.onlySchema then .ok {} else (c.withOrders newOrder oldOrder).rowWork) := by
    split
    · exact .refl _
    · exact agree_rowWork h h'
  exact hschema.bind fun _ _ hs => hrows.bind fun _ _ hr => (hs.append hr).toPlan _

end Comparison

/-! ### Orders that are refused -/

/-- What is wrong with an order for a version: an item is listed twice, or found in neither version,
or a table of the version is left out. -/
def Faulty (order : List OrderItem) (db : Database) (other : Option Database) : Prop :=
  ¬ order.Nodup ∨
    (∃ item ∈ order, item.isIn db = false ∧ ∀ o ∈ other, item.isIn o = false) ∨
    ∃ item ∈ db.tables, OrderItem.ofKey (itemKey item) ∉ order

instance (order : List OrderItem) (db : Database) (other : Option Database) :
    Decidable (Faulty order db other) :=
  inferInstanceAs (Decidable (_ ∨ _ ∨ _))

theorem checkOrder_eq_ok_iff_not_faulty {side : Side} {order : List OrderItem} {db : Database}
    {other : Option Database} :
    checkOrder side order db other = .ok () ↔ ¬ Faulty order db other := by
  have hknown : ∀ item : OrderItem, (item.isIn db || other.any item.isIn) = true ↔
      ¬ (item.isIn db = false ∧ ∀ o ∈ other, item.isIn o = false) := by
    intro item
    cases other with
    | none => simp
    | some o => simp [or_iff_not_imp_left]
  rw [checkOrder_eq_ok_iff, Faulty, not_or, not_or, not_not]
  simp only [hknown]
  push Not
  exact ⟨fun ⟨⟨hnodup, htables⟩, hitems⟩ => ⟨hnodup, hitems, htables⟩,
    fun ⟨hnodup, hitems, htables⟩ => ⟨⟨hnodup, htables⟩, hitems⟩⟩

/-- A failure because of an order. -/
def SchemaError.OfOrder (e : SchemaError) : Prop :=
  ∃ fault, e = .order fault

theorem failsOnly_checkOrder (side : Side) (order : List OrderItem) (db : Database)
    (other : Option Database) :
    FailsOnly SchemaError.OfOrder (checkOrder side order db other) := by
  unfold checkOrder
  refine FailsOnly.bind (failsOnly_checkEach fun _ item _ _ => ?_) fun _ _ => ?_
  · exact (failsOnly_ensure fun _ => ⟨_, rfl⟩).bind fun _ _ => failsOnly_ensure fun _ => ⟨_, rfl⟩
  · exact failsOnly_checkAll fun item _ => failsOnly_ensure fun _ => ⟨_, rfl⟩

/-- An order is refused as such, or else the one to go by is settled. -/
theorem chooseOrder_cases (side : Side) (order : Option (List OrderItem)) (db : Database)
    (other : Option Database) :
    ((∃ given ∈ order, Faulty given db other) ∧
        ∃ fault, chooseOrder side order db other = .error (.order fault)) ∨
      (¬ ∃ given ∈ order, Faulty given db other) ∧
        ∃ chosen, chooseOrder side order db other = .ok chosen := by
  cases order with
  | none => exact .inr ⟨by simp, _, rfl⟩
  | some given =>
    cases hcheck : checkOrder side given db other with
    | ok u =>
      refine .inr ⟨?_, given, by rw [chooseOrder, hcheck]; rfl⟩
      rintro ⟨_, ⟨⟩, hfaulty⟩
      exact checkOrder_eq_ok_iff_not_faulty.1 hcheck hfaulty
    | error e =>
      obtain ⟨fault, rfl⟩ := failsOnly_checkOrder side given db other e hcheck
      refine .inl ⟨⟨given, rfl, ?_⟩, fault, by rw [chooseOrder, hcheck]; rfl⟩
      by_contra hfaulty
      rw [checkOrder_eq_ok_iff_not_faulty.2 hfaulty] at hcheck
      cases hcheck

/-- An order that is given for one of the versions is faulty.  The order for the previous version
counts only if there is one. -/
def OrdersRefused (old : Option Database) (new : Database)
    (newOrder oldOrder : Option (List OrderItem)) : Prop :=
  (∃ given ∈ newOrder, Faulty given new old) ∨
    ∃ db ∈ old, ∃ given ∈ oldOrder, Faulty given db (some new)

instance (old : Option Database) (new : Database) (newOrder oldOrder : Option (List OrderItem)) :
    Decidable (OrdersRefused old new newOrder oldOrder) :=
  inferInstanceAs (Decidable (_ ∨ _))

section Planning

variable {old : Option Database} {new : Database} {newOrder oldOrder : Option (List OrderItem)}
  {style : Sql.Style} {options : Options}

theorem make_of_refused (h : OrdersRefused old new newOrder oldOrder) :
    ∃ fault, ∀ style options,
      Comparison.make old new newOrder oldOrder style options = .error (.order fault) := by
  rcases chooseOrder_cases .new newOrder new old with ⟨-, fault, he⟩ | ⟨hnew, chosen, he⟩
  · exact ⟨fault, fun _ _ => by rw [Comparison.make_eq_bind, he]; rfl⟩
  · obtain ⟨db, rfl, hfaulty⟩ := h.resolve_left hnew
    rcases chooseOrder_cases .old oldOrder db (some new) with ⟨-, fault, he'⟩ | ⟨hnot, -⟩
    · refine ⟨fault, fun _ _ => ?_⟩
      rw [Comparison.make_eq_bind, he, Comparison.chooseOldOrder, he']
      rfl
    · exact absurd hfaulty hnot

/-- With orders that are accepted, only the pairs are left to be settled. -/
theorem make_of_accepted (h : ¬ OrdersRefused old new newOrder oldOrder) :
    ∃ chosenNew chosenOld, ∀ style options,
      Comparison.make old new newOrder oldOrder style options =
        correspondence old new options.renameTracking >>= fun pairs =>
          .ok ⟨old, new, chosenNew, chosenOld, options, style, pairs⟩ := by
  obtain ⟨hnew, hold⟩ := not_or.1 h
  obtain ⟨chosenNew, hn⟩ := ((chooseOrder_cases .new newOrder new old).resolve_left
    fun hc => hnew hc.1).2
  have hchosen : ∃ chosenOld, Comparison.chooseOldOrder old new oldOrder = .ok chosenOld := by
    cases old with
    | none => exact ⟨[], rfl⟩
    | some db =>
      exact ((chooseOrder_cases .old oldOrder db (some new)).resolve_left
        fun hc => hold ⟨db, rfl, hc.1⟩).2
  obtain ⟨chosenOld, ho⟩ := hchosen
  exact ⟨chosenNew, chosenOld, fun _ _ => by rw [Comparison.make_eq_bind, hn, ho]; rfl⟩

/-- **An order is to blame exactly when one is faulty.** -/
theorem planWithOrders_refused_iff [QueryReader] (hnew : new.validate = .ok ())
    (hold : ∀ db, old = some db → db.validate = .ok ()) :
    (∃ fault, planWithOrders old new newOrder oldOrder style options = .error (.order fault)) ↔
      OrdersRefused old new newOrder oldOrder := by
  rw [planWithOrders_of_valid hnew hold]
  constructor
  · rintro ⟨fault, he⟩
    by_contra haccepted
    obtain ⟨_, _, hmake⟩ := make_of_accepted haccepted
    rw [hmake] at he
    refine FailsOnly.bind ?_ (fun c _ => c.blames_plan) _ he
    exact (blames_correspondence old new _).bind fun _ _ => failsOnly_ok _
  · intro hrefused
    obtain ⟨fault, hmake⟩ := make_of_refused hrefused
    exact ⟨fault, by rw [hmake]; rfl⟩

/-- **Accepted orders lead to the same work.** -/
theorem agree_planWithOrders [QueryReader] {newOrder' oldOrder' : Option (List OrderItem)}
    (hnew : new.validate = .ok ()) (hold : ∀ db, old = some db → db.validate = .ok ())
    (h : ¬ OrdersRefused old new newOrder oldOrder)
    (h' : ¬ OrdersRefused old new newOrder' oldOrder') :
    Agree List.Perm (planWithOrders old new newOrder oldOrder style options)
      (planWithOrders old new newOrder' oldOrder' style options) := by
  have hcnew := Database.coherent_of_validate hnew
  have hcold : ∀ db, old = some db → db.Coherent := fun db hdb =>
    Database.coherent_of_validate (hold db hdb)
  rw [planWithOrders_of_valid hnew hold, planWithOrders_of_valid hnew hold]
  obtain ⟨_, _, hmake⟩ := make_of_accepted h
  obtain ⟨_, _, hmake'⟩ := make_of_accepted h'
  cases hpairs : correspondence old new options.renameTracking with
  | error e =>
    rw [hmake, hmake', hpairs]
    trivial
  | ok pairs =>
    have hok := hmake style options
    have hok' := hmake' style options
    rw [hpairs] at hok hok'
    have hwell := Comparison.wellMade_of_make hcnew hcold hok
    have hwell' := Comparison.wellMade_of_make hcnew hcold hok'
    rw [hok, hok']
    exact Comparison.agree_plan hwell hwell'

/-- **Orders given from outside permute the work and nothing else.**  Of versions that are in order
themselves, planning is refused because of an order exactly when one is faulty, and any two choices
of orders that are not, none at all included, lead to the same operations in the same stages, or to
no plan either way. -/
theorem given_orders_permute [QueryReader] (hnew : new.validate = .ok ())
    (hold : ∀ db, old = some db → db.validate = .ok ()) :
    (∀ newOrder oldOrder,
      (∃ fault, planWithOrders old new newOrder oldOrder style options =
        .error (.order fault)) ↔ OrdersRefused old new newOrder oldOrder) ∧
      ∀ newOrder oldOrder newOrder' oldOrder',
        ¬ OrdersRefused old new newOrder oldOrder → ¬ OrdersRefused old new newOrder' oldOrder' →
          Agree List.Perm (planWithOrders old new newOrder oldOrder style options)
            (planWithOrders old new newOrder' oldOrder' style options) :=
  ⟨fun _ _ => planWithOrders_refused_iff hnew hold,
    fun _ _ _ _ h h' => agree_planWithOrders hnew hold h h'⟩

end Planning

/-! ### A depot -/

attribute [local instance] QueryReader.blank

/-- A table of numbered things, perhaps with more columns. -/
def Depot.table (name : String) (columns : List Column) : Table where
  name
  primaryKey := ["id"]
  columns := { name := "id", dataType := some "bigint", nullable := false } :: columns

/-- A column that refers to an item. -/
def Depot.reference : Column where
  name := "item"
  foreignKey := some { table := "items", column := some "id" }

/-- A depot with these tables. -/
def Depot.of (tables : List Table) : Database where
  schemas := [{ name := "depot", tables }]

/-- A depot of items, and of scraps. -/
def Depot.first : Database :=
  Depot.of [Depot.table "items" [], Depot.table "scraps" []]

/-- The depot without its scraps, where items have labels and prices. -/
def Depot.second : Database :=
  Depot.of [Depot.table "items" [], Depot.table "labels" [Depot.reference],
    Depot.table "prices" [Depot.reference]]

/-- An order of tables in the depot. -/
def Depot.order (tables : List String) : List OrderItem :=
  tables.map fun t => ⟨"depot", some t⟩

/-- A table of the depot is created. -/
def Depot.creation (table : String) : List Op := [
  .createTable ("depot." ++ table)
    [{ name := "id", dataType := "bigint", nullable := false },
      { name := "item", dataType := "bigint" }] none,
  .addConstraint {
    name := table ++ "_pkey", schema := "depot", table, kind := .primaryKey, definition := "(id)"
    columns := ["id"] }]

/-- A table of the depot is made to refer to items. -/
def Depot.referring (table : String) : Op :=
  .addConstraint {
    name := table ++ "_item_fkey", schema := "depot", table, kind := .foreignKey
    definition := "(item) REFERENCES depot.items (id)"
    references := some ("depot", "items"), columns := ["item"] }

/-- The depot is upgraded, where its new tables are worked on in this order. -/
def Depot.upgrade (tables : List String) : Plan :=
  (tables.flatMap Depot.creation ++ tables.map Depot.referring).map (⟨.stage1, ·⟩) ++
    [⟨.stage3, .dropTable "depot.scraps"⟩]

/-- **The depot is upgraded in whatever order its tables are given**: the new tables are worked on as
they are listed, and a table that is gone, or the depot itself, may be listed as well.  An order
that leaves a table out is refused. -/
theorem given_orders_permute_of_depot :
    planWithOrders (some Depot.first) Depot.second none none {} {} =
        .ok (Depot.upgrade ["labels", "prices"]) ∧
      planWithOrders (some Depot.first) Depot.second
          (some (⟨"depot", none⟩ :: Depot.order ["scraps", "prices", "labels", "items"]))
          (some (Depot.order ["scraps", "items"])) {} {} =
        .ok (Depot.upgrade ["prices", "labels"]) ∧
      (Depot.upgrade ["labels", "prices"]).Perm (Depot.upgrade ["prices", "labels"]) ∧
      ∃ fault, planWithOrders (some Depot.first) Depot.second
        (some (Depot.order ["items", "prices"])) none {} {} = .error (.order fault) := by
  have hvalid : ∀ db, some Depot.first = some db → db.validate = .ok () := by
    rintro _ ⟨⟩
    decide +kernel
  have hdeclared : planWithOrders (some Depot.first) Depot.second none none {} {} =
      .ok (Depot.upgrade ["labels", "prices"]) := by decide +kernel
  have hgiven : planWithOrders (some Depot.first) Depot.second
      (some (⟨"depot", none⟩ :: Depot.order ["scraps", "prices", "labels", "items"]))
      (some (Depot.order ["scraps", "items"])) {} {} =
        .ok (Depot.upgrade ["prices", "labels"]) := by decide +kernel
  have hnew : Depot.second.validate = .ok () := by decide +kernel
  obtain ⟨hrefused, hagree⟩ := given_orders_permute hnew hvalid
  refine ⟨hdeclared, hgiven, ?_, (hrefused _ _).2 (by decide +kernel)⟩
  have h := hagree none none
    (some (⟨"depot", none⟩ :: Depot.order ["scraps", "prices", "labels", "items"]))
    (some (Depot.order ["scraps", "items"])) (by decide +kernel) (by decide +kernel)
  rw [hdeclared, hgiven] at h
  exact h

end SchemaPlan
