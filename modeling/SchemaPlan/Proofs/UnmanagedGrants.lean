import SchemaPlan.Proofs.GivenOrders
import SchemaPlan.Proofs.ViewRebuild

/-!
# Grants that are not managed

A plan that does not manage grants neither grants nor revokes anything: what sets privileges is left
out (`ofKinds_schemaPrivilegeOps_unmanaged`), and nothing else grants (`grants_unmanaged`).

But whatever is dropped takes its privileges with it.  A function that both versions have is created
anew exactly if it returns another type (`recreatesFunction_iff`), and a view exactly if there is
any work on structure, which setting an owner or a comment is, or if any view differs
(`recreatesView_iff`).  Views differ where their grants do, managed or not
(`viewsDiffer_of_grants_ne`).  `unmanaged_grants_left` says so of every plan, and
`unmanaged_grants_lost` has a view and a function whose privileges go with them.
-/

namespace SchemaPlan

/-- A function that there was is dropped, and another created in its place. -/
def Plan.RecreatesFunction (p : Plan) (schema : String) (old new : Routine) : Prop :=
  .dropFunction (Sql.qualified schema old.name) old.argumentTypes ∈ p.ops ∧
    .createFunction schema new false ∈ p.ops

/-- A view that there was is dropped, and another created in its place. -/
def Plan.RecreatesView (p : Plan) (schema : String) (old new : View) : Prop :=
  .dropView (Sql.qualified schema old.name) ∈ p.ops ∧ .createView schema new ∈ p.ops

instance (p : Plan) (schema : String) (old new : Routine) :
    Decidable (p.RecreatesFunction schema old new) :=
  inferInstanceAs (Decidable (_ ∧ _))

instance (p : Plan) (schema : String) (old new : View) :
    Decidable (p.RecreatesView schema old new) :=
  inferInstanceAs (Decidable (_ ∧ _))

/-- Among operations of some kinds there is none of any other. -/
theorem OfKinds.elim {kinds others : List OpKind} {ops : List Op} {op : Op} {P : Prop}
    (h : OfKinds kinds ops) (hop : op ∈ ops) (hkind : op.kind ∈ others)
    (hdisjoint : ∀ kind ∈ kinds, kind ∉ others) : P :=
  absurd hkind (hdisjoint _ (h op hop))

/-- Operations that are no statements of the definition's own are those of the draft. -/
theorem Draft.mem_ops_toPlan_iff {d : Draft} {custom : List CustomSql} {op : Op}
    (hown : op.kind ∉ [OpKind.comment, .customSql]) :
    op ∈ (d.toPlan custom).ops ↔ ∃ place, op ∈ d.opsAt place := by
  constructor
  · intro hop
    exact (Comparison.mem_ops_toPlan hop).resolve_left hown
  · rintro ⟨place, hop⟩
    obtain ⟨_, -, hops⟩ := d.exists_own_statements custom
    rw [hops]
    cases place <;> simp [hop]

namespace Comparison

variable {c : Comparison} {p : Plan} {op : Op}

/-! ### Where functions are created and privileges set -/

theorem mem_of_first {ops : List Op} {place : Place} (h : op ∈ (Draft.first ops).opsAt place) :
    op ∈ ops := by
  cases place with
  | stage1 => exact h
  | _ => cases h

/-- Only the passes over functions create one, and only those over privileges grant or revoke. -/
theorem mem_of_structureWork {work : Draft} (h : c.structureWork = .ok work)
    (hkind : op.kind ∈ [OpKind.createFunction, .grant, .revoke]) {place : Place}
    (hop : op ∈ work.opsAt place) : op ∈ c.newSchemas.flatMap c.schemaFunctionOps ∨
      op ∈ c.newSchemas.flatMap c.schemaPrivilegeOps := by
  obtain ⟨types, drops, tables, adds, htypes, -, htables, hadds, rfl⟩ :=
    structureWork_eq_ok_iff.1 h
  -- One case for each pass over structure, in the order of the passes.
  simp only [Draft.opsAt_append, List.mem_append] at hop
  rcases hop with
    (((((((hschemas | htype) | hdrop) | hsequence) | htable) | hadd) | hgone) | hremoved) | hpriv
  · obtain ⟨s, -, hop⟩ := List.mem_flatMap.1 (mem_of_first hschemas)
    exact (ofKinds_schemaOps c s).elim hop hkind (by decide)
  · rw [Draft.opsAt_join, List.mem_flatMap] at htype
    obtain ⟨d, hd, hop⟩ := htype
    obtain ⟨s, hs, hpass⟩ := exists_source_of_mapM htypes hd
    simp only [typePass, schemaTypeOps, bind_eq_ok, pure_eq_ok] at hpass
    obtain ⟨_, ⟨opss, hopss, rfl⟩, rfl⟩ := hpass
    rcases List.mem_append.1 (mem_of_first hop) with hop | hop
    · have htypeKinds : OfKinds typeKinds opss.flatten :=
        ofKinds_of_mapM hopss fun _ _ _ hops => ofKinds_typeOps hops
      exact htypeKinds.elim hop hkind (by decide)
    · exact .inl (List.mem_flatMap.2 ⟨s, hs, hop⟩)
  · exact (ofKinds_dropConstraintOps drops).elim (mem_of_first hdrop) hkind (by decide)
  · rw [Draft.opsAt_join, List.mem_flatMap] at hsequence
    obtain ⟨d, hd, hop⟩ := hsequence
    obtain ⟨s, -, rfl⟩ := List.mem_map.1 hd
    exact (within_schemaSequenceWork c s place).elim hop hkind (by cases place <;> decide)
  · rw [Draft.opsAt_join, List.mem_flatMap] at htable
    obtain ⟨d, hd, hop⟩ := htable
    obtain ⟨item, -, hpass⟩ := exists_source_of_mapM htables hd
    exact (within_tablePass hpass place).elim hop hkind (by cases place <;> decide)
  · exact (ofKinds_of_mapM_addConstraints hadds).elim (mem_of_first hadd) hkind (by decide)
  · exact (within_dropTables c place).elim hgone hkind (by cases place <;> decide)
  · exact (within_dropRemoved c place).elim hremoved hkind (by cases place <;> decide)
  · exact .inr (mem_of_first hpriv)

/-- What is done to functions is done in the first stage. -/
theorem mem_structureWork_of_function {work : Draft} (h : c.structureWork = .ok work)
    (hop : op ∈ c.newSchemas.flatMap c.schemaFunctionOps) : op ∈ work.opsAt .stage1 := by
  obtain ⟨passes, _, _, _, hpasses, -, -, -, rfl⟩ := structureWork_eq_ok_iff.1 h
  obtain ⟨s, hs, hop⟩ := List.mem_flatMap.1 hop
  obtain ⟨d, hd, hpass⟩ := exists_mem_of_mapM hpasses hs
  simp only [typePass, bind_eq_ok, pure_eq_ok] at hpass
  obtain ⟨types, -, rfl⟩ := hpass
  have hjoin : op ∈ (Draft.join passes).opsAt .stage1 := by
    rw [Draft.opsAt_join]
    exact List.mem_flatMap.2 ⟨_, hd, List.mem_append_right _ hop⟩
  simp only [Draft.opsAt_append, List.mem_append]
  tauto

/-! ### No grants -/

theorem mem_createView_of_viewWork [QueryReader] {structural : Bool}
    (h : op ∈ (c.viewWork structural).opsAt .viewCreates) : ∃ item, op ∈ c.createView item := by
  unfold viewWork at h
  dsimp only at h
  split at h
  · cases h
  · obtain ⟨item, -, hitem⟩ := List.mem_flatMap.1 h
    exact ⟨item, hitem⟩

section Unmanaged

variable (hgrants : c.options.manageGrants = false)

include hgrants

theorem ofKinds_objectOps_unmanaged (object : ObjectRef) (owner : Option String)
    (grants : List Grant) (old : Option (Option String × List Grant)) :
    OfKinds [.alterOwner] (c.objectOps object owner grants old) := by
  simp only [objectOps, hgrants, Bool.false_eq_true, if_false, List.append_nil]
  refine ofKinds_ite ?_ ofKinds_nil
  unfold ownerOps
  split
  · exact ofKinds_nil
  · exact ofKinds_ite ofKinds_nil (by simp [Op.kind])

theorem ofKinds_schemaPrivilegeOps_unmanaged (s : Schema) :
    OfKinds [.alterOwner] (c.schemaPrivilegeOps s) := by
  simp only [schemaPrivilegeOps, ofKinds_append, ofKinds_flatMap]
  refine ⟨⟨⟨⟨?_, fun t _ => ?_⟩, fun q _ => ?_⟩, fun f _ => ?_⟩, fun t _ => ?_⟩ <;>
    exact ofKinds_objectOps_unmanaged hgrants _ _ _ _

theorem ofKinds_createView_unmanaged (item : String × View) :
    OfKinds [.createView, .setComment, .alterOwner] (c.createView item) := by
  refine ofKinds_append.2 ⟨ofKinds_cons.2 ⟨by simp [Op.kind], ?_⟩, ?_⟩
  · exact ofKinds_ite (by simp [Op.kind]) ofKinds_nil
  · exact (ofKinds_objectOps_unmanaged hgrants _ _ _ _).mono (by decide)

/-- **Nothing is granted or revoked** by a plan that does not manage grants. -/
theorem grants_unmanaged [QueryReader] (h : c.plan = .ok p) :
    ∀ op ∈ p.ops, op.kind ∉ [OpKind.grant, .revoke] := by
  intro op hop hkind
  rcases plan_cases h with ⟨-, hkinds⟩ | ⟨-, work, rows, hwork, hrows, rfl⟩
  · exact hkinds.elim hop hkind (by decide)
  rcases mem_ops_toPlan hop with hown | ⟨place, hop⟩
  · exact (by decide : ∀ kind ∈ [OpKind.comment, .customSql], kind ∉ [OpKind.grant, .revoke])
      _ hown hkind
  simp only [Draft.opsAt_append, List.mem_append] at hop
  rcases hop with (hstructure | hview) | hrow
  · rcases mem_of_structureWork hwork (List.mem_cons_of_mem _ hkind) hstructure with hop | hop
    · obtain ⟨s, -, hfunction⟩ := List.mem_flatMap.1 hop
      exact (ofKinds_schemaFunctionOps c s).elim hfunction hkind (by decide)
    · obtain ⟨s, -, hprivilege⟩ := List.mem_flatMap.1 hop
      exact (ofKinds_schemaPrivilegeOps_unmanaged hgrants s).elim hprivilege hkind (by decide)
  · by_cases hplace : place = .viewCreates
    · obtain ⟨item, hitem⟩ := mem_createView_of_viewWork (hplace ▸ hview)
      exact (ofKinds_createView_unmanaged hgrants item).elim hitem hkind (by decide)
    · refine (within_viewWork c _ place).elim hview hkind ?_
      cases place <;> first | exact absurd rfl hplace | decide
  · exact (within_rowsIfWanted hrows place).elim hrow hkind (by cases place <;> decide)

end Unmanaged

/-! ### Functions of both versions -/

/-- A plan that covers structure does all that is to be done to functions. -/
theorem mem_ops_of_schemaFunctionOps [QueryReader] (h : c.plan = .ok p)
    (hdata : c.options.onlyData = false) (hown : op.kind ∉ [OpKind.comment, .customSql])
    (hop : op ∈ c.newSchemas.flatMap c.schemaFunctionOps) : op ∈ p.ops := by
  rcases plan_cases h with ⟨hrowsOnly, -⟩ | ⟨-, work, rows, hwork, -, rfl⟩
  · cases hdata.symm.trans hrowsOnly
  · refine (Draft.mem_ops_toPlan_iff hown).2 ⟨.stage1, ?_⟩
    simp only [Draft.opsAt_append, List.mem_append]
    exact .inl (.inl (mem_structureWork_of_function hwork hop))

/-- A function is created where it is worked on, by a plan that covers structure. -/
theorem createFunction_mem_iff [QueryReader] (h : c.plan = .ok p) {schema : String} {f : Routine}
    {replace : Bool} : .createFunction schema f replace ∈ p.ops ↔ c.options.onlyData = false ∧
      .createFunction schema f replace ∈ c.newSchemas.flatMap c.schemaFunctionOps := by
  refine ⟨fun hop => ?_, fun hop => mem_ops_of_schemaFunctionOps h hop.1 (by simp [Op.kind]) hop.2⟩
  rcases plan_cases h with ⟨-, hkinds⟩ | ⟨hdata, work, rows, hwork, hrows, rfl⟩
  · exact absurd (hkinds _ hop)
      (by decide : OpKind.createFunction ∉ [.comment, .customSql] ++ rowKinds .stage2)
  refine ⟨hdata, ?_⟩
  obtain ⟨place, hop⟩ := (Draft.mem_ops_toPlan_iff (by simp [Op.kind])).1 hop
  simp only [Draft.opsAt_append, List.mem_append] at hop
  rcases hop with (hstructure | hview) | hrow
  · refine (mem_of_structureWork hwork (by simp [Op.kind]) hstructure).resolve_right fun hop => ?_
    obtain ⟨s, -, hprivilege⟩ := List.mem_flatMap.1 hop
    exact (by decide : OpKind.createFunction ∉ privilegeKinds)
      (ofKinds_schemaPrivilegeOps c s _ hprivilege)
  · have hkind : OpKind.createFunction ∈ viewKinds place := within_viewWork c _ place _ hview
    exact absurd hkind (by cases place <;> decide)
  · have hkind : OpKind.createFunction ∈ rowKinds place := within_rowsIfWanted hrows place _ hrow
    exact absurd hkind (by cases place <;> decide)

theorem of_createFunction_mem {schema other : String} {f g : Routine} {old : Option Routine}
    (h : .createFunction schema f false ∈ functionOps other old g) :
    other = schema ∧ g = f ∧ ∀ o, old = some o → Sql.TypeName.same o.returns f.returns = false := by
  unfold functionOps at h
  split at h
  · obtain ⟨rfl, rfl, -⟩ := Op.createFunction.inj (List.mem_singleton.1 h)
    exact ⟨rfl, rfl, fun o ho => by cases ho⟩
  next o =>
    split at h
    · cases h
    · split at h
      · cases List.mem_singleton.1 h
      next hreturns =>
        rcases List.mem_cons.1 h with h | h
        · cases h
        · obtain ⟨rfl, rfl, -⟩ := Op.createFunction.inj (List.mem_singleton.1 h)
          refine ⟨rfl, rfl, fun o ho => ?_⟩
          cases ho
          exact eq_false_of_ne_true hreturns

/-- A function is created, and replaces none, unless one of its signature was there that returns the
same type. -/
theorem createFunction_mem_functionOps_iff {schema : String} {f : Routine} {old : Option Routine} :
    .createFunction schema f false ∈ functionOps schema old f ↔
      ∀ o, old = some o → Sql.TypeName.same o.returns f.returns = false := by
  refine ⟨fun hop => (of_createFunction_mem hop).2.2, fun hreturns => ?_⟩
  cases old with
  | none => simp [functionOps]
  | some o => simp [functionOps, Routine.same, hreturns o rfl]

/-- **When a plan creates a function that replaces none.** -/
theorem createsFunction_iff [QueryReader] (h : c.plan = .ok p) (hnew : c.new.Coherent) {s : Schema}
    (hs : s ∈ c.new.schemas) {f : Routine} (hf : f ∈ s.functions) :
    .createFunction s.name f false ∈ p.ops ↔ c.options.onlyData = false ∧
      ∀ o, (c.oldSchema? s.name).bind (·.function? f.signature) = some o →
        Sql.TypeName.same o.returns f.returns = false := by
  rw [createFunction_mem_iff h, and_congr_right_iff]
  intro _
  constructor
  · intro hcreate
    obtain ⟨t, -, hcreate⟩ := List.mem_flatMap.1 hcreate
    obtain ⟨g, -, hcreate⟩ := List.mem_flatMap.1 hcreate
    -- The operation names the schema and has the function in it, so it is for this one.
    obtain ⟨ht, rfl, hreturns⟩ := of_createFunction_mem hcreate
    rwa [ht] at hreturns
  · intro hreturns
    exact List.mem_flatMap.2 ⟨s, (mem_newSchemas hnew).2 hs, List.mem_flatMap.2
      ⟨f, hf, createFunction_mem_functionOps_iff.2 hreturns⟩⟩

section Both

variable {db : Database} (hold : c.old = some db) (hc : c.WellMade)

include hold hc

/-- The function of that signature was there. -/
theorem oldFunction?_eq {s : Schema} (hs : s ∈ db.schemas) {o : Routine} (ho : o ∈ s.functions) :
    (c.oldSchema? s.name).bind (·.function? o.signature) = some o := by
  have hdb := hc.old db hold
  rw [oldSchema?, hold, Option.bind_some, hdb.schema?_of_mem hs, Option.bind_some]
  exact find?_eq_some_of_nodup (hdb.schemas s hs).signatures ho

/-- **A function that was there is created anew exactly if it returns another type.** -/
theorem recreatesFunction_iff [QueryReader] (h : c.plan = .ok p) {s s' : Schema}
    (hs : s ∈ db.schemas) (hs' : s' ∈ c.new.schemas) (hname : s.name = s'.name) {o f : Routine}
    (ho : o ∈ s.functions) (hf : f ∈ s'.functions) (hsignature : o.signature = f.signature) :
    p.RecreatesFunction s'.name o f ↔
      c.options.onlyData = false ∧ Sql.TypeName.same o.returns f.returns = false := by
  have hwas : (c.oldSchema? s'.name).bind (·.function? f.signature) = some o := by
    rw [← hname, ← hsignature]
    exact oldFunction?_eq hold hc hs ho
  constructor
  · rintro ⟨-, hcreate⟩
    obtain ⟨hdata, hreturns⟩ := (createsFunction_iff h hc.new hs' hf).1 hcreate
    exact ⟨hdata, hreturns o hwas⟩
  · rintro ⟨hdata, hreturns⟩
    have hcreate : .createFunction s'.name f false ∈ p.ops := by
      refine (createsFunction_iff h hc.new hs' hf).2 ⟨hdata, fun o' ho' => ?_⟩
      obtain rfl : o = o' := Option.some.inj (hwas.symm.trans ho')
      exact hreturns
    have hdrop : .dropFunction (Sql.qualified s'.name o.name) o.argumentTypes ∈
        c.newSchemas.flatMap c.schemaFunctionOps := by
      refine List.mem_flatMap.2 ⟨s', (mem_newSchemas hc.new).2 hs', List.mem_flatMap.2 ⟨f, hf, ?_⟩⟩
      rw [hwas]
      simp [functionOps, Routine.same, hreturns]
    exact ⟨mem_ops_of_schemaFunctionOps h hdata (by simp [Op.kind]) hdrop, hcreate⟩

/-! ### Views of both versions -/

/-- **A view that was there is created anew exactly if there is work on structure or some view
differs.** -/
theorem recreatesView_iff [QueryReader] (h : c.plan = .ok p) {schema : String} {v w : View}
    (hv : (schema, v) ∈ db.views) (hw : (schema, w) ∈ c.new.views) :
    p.RecreatesView schema v w ↔ c.options.onlyData = false ∧
      (c.structureWork ≠ .ok {} ∨ viewsDiffer db c.new = true) := by
  rcases plan_cases h with ⟨hdata, hkinds⟩ | ⟨hdata, work, rows, hwork, hrows, rfl⟩
  · rw [hdata]
    refine iff_of_false (fun hop => ?_) fun hop => Bool.noConfusion hop.1
    exact (by decide : OpKind.dropView ∉ [.comment, .customSql] ++ rowKinds .stage2)
      (hkinds _ hop.1)
  rw [hdata, eq_self_iff_true, true_and]
  by_cases hquiet : c.structureWork = .ok {} ∧ viewsDiffer db c.new = false
  · obtain rfl := Except.ok.inj (hwork.symm.trans hquiet.1)
    have hviews : c.viewWork (Draft.isStructural {}) = {} := by
      simp [viewWork, hold, hquiet.2, Draft.isStructural]
    rw [hviews]
    refine iff_of_false (fun hop => ?_) ?_
    · exact (keepsViews hwork hrows hold hc.new hdata rfl hquiet.2).untouched _ hop.1
        List.mem_cons_self
    · rintro (hstructure | hdiffer)
      · exact hstructure hquiet.1
      · cases hdiffer.symm.trans hquiet.2
  · have hreason : c.structureWork ≠ .ok {} ∨ viewsDiffer db c.new = true := by
      rwa [not_and_or, Bool.not_eq_false] at hquiet
    refine iff_of_true ?_ hreason
    rcases viewWork_cases hold work.isStructural with ⟨hstructural, hdiffer, -⟩ | hviews
    · have hempty : work = {} := Draft.ext_opsAt fun place => by
        rw [opsAt_eq_nil_of_not_structural hwork hstructural, Draft.opsAt_empty]
      exact (hquiet ⟨hempty ▸ hwork, hdiffer⟩).elim
    rw [hviews]
    constructor
    · refine (Draft.mem_ops_toPlan_iff (by simp [Op.kind])).2 ⟨.viewDrops, ?_⟩
      simp only [Draft.opsAt_append, List.mem_append]
      have hdropped := List.mem_reverse.2 ((viewOrder_perm db).mem_iff.2 hv)
      exact .inl (.inr (List.mem_map.2 ⟨_, hdropped, rfl⟩))
    · refine (Draft.mem_ops_toPlan_iff (by simp [Op.kind])).2 ⟨.viewCreates, ?_⟩
      simp only [Draft.opsAt_append, List.mem_append]
      have hcreated := (viewOrder_perm c.new).mem_iff.2 hw
      exact .inl (.inr (List.mem_flatMap.2 ⟨_, hcreated, List.mem_cons_self⟩))

end Both

end Comparison

/-- **Views differ where their grants do.** -/
theorem viewsDiffer_of_grants_ne {old new : Database} (hold : old.Coherent) {schema : String}
    {v w : View} (hv : (schema, v) ∈ old.views) (hw : (schema, w) ∈ new.views)
    (hname : v.name = w.name) (hgrants : v.grants ≠ w.grants) : viewsDiffer old new = true := by
  by_contra hsame
  obtain ⟨-, hfound⟩ := viewsDiffer_eq_false_iff.1 (eq_false_of_ne_true hsame)
  obtain ⟨query, hsigned⟩ := Database.exists_mem_signedViews hw
  obtain ⟨o, ho, -, hsameGrants, -⟩ := hfound _ _ hsigned
  obtain ⟨front, back, hviews, -⟩ := List.lookup_eq_some_iff.1 ho
  have hfoundSigned : ((schema, w.name, query), o) ∈ old.signedViews := by
    rw [hviews]
    exact List.mem_append_right _ List.mem_cons_self
  obtain ⟨hmem, honame⟩ := Database.mem_views_of_mem_signedViews hfoundSigned
  -- The view that is found has the name of the one that there was, and so it is that one.
  have heq : (schema, v) = (schema, o) := by
    refine List.inj_on_of_nodup_map hold.nodup_viewKeys hv hmem ?_
    show (schema, v.name) = (schema, o.name)
    rw [hname, honame]
  cases heq
  exact hgrants hsameGrants

/-- **What becomes of privileges that are not managed.**  Nothing is granted or revoked, so what is
dropped stays without its privileges when it is created anew.  Of what both versions have, that
happens to a function exactly if it returns another type, and to a view exactly if there is any work
on structure or any view differs; to neither if the plan covers rows only.  That grants are not
managed does not keep views from differing in them. -/
theorem unmanaged_grants_left [QueryReader] {old : Option Database} {new : Database}
    {newOrder oldOrder : Option (List OrderItem)} {style : Sql.Style} {options : Options} {p : Plan}
    (h : planWithOrders old new newOrder oldOrder style options = .ok p)
    (hgrants : options.manageGrants = false) :
    (∀ op ∈ p.ops, op.kind ∉ [OpKind.grant, .revoke]) ∧
    ∃ c, Comparison.make old new newOrder oldOrder style options = .ok c ∧
      ∀ db, old = some db →
        (∀ s ∈ db.schemas, ∀ s' ∈ new.schemas, s.name = s'.name →
          ∀ o ∈ s.functions, ∀ f ∈ s'.functions, o.signature = f.signature →
            (p.RecreatesFunction s'.name o f ↔
              options.onlyData = false ∧ Sql.TypeName.same o.returns f.returns = false)) ∧
        ∀ schema v w, (schema, v) ∈ db.views → (schema, w) ∈ new.views → v.name = w.name →
          (p.RecreatesView schema v w ↔ options.onlyData = false ∧
            (c.structureWork ≠ .ok {} ∨ viewsDiffer db new = true)) ∧
          (v.grants ≠ w.grants → viewsDiffer db new = true) := by
  obtain ⟨hnew, hvalid, c, hmake, hp⟩ := planWithOrders_eq_ok_iff.1 h
  have hc := Comparison.wellMade_of_make (Database.coherent_of_validate hnew)
    (fun db hdb => Database.coherent_of_validate (hvalid db hdb)) hmake
  obtain ⟨-, -, -, rfl, rfl, rfl, -⟩ := Comparison.make_eq_ok_iff.1 hmake
  refine ⟨Comparison.grants_unmanaged hgrants hp, c, hmake, fun db hold => ⟨?_, ?_⟩⟩
  · intro s hs s' hs' hname o ho f hf hsignature
    exact Comparison.recreatesFunction_iff hold hc hp hs hs' hname ho hf hsignature
  · intro schema v w hv hw hname
    exact ⟨Comparison.recreatesView_iff hold hc hp hv hw,
      viewsDiffer_of_grants_ne (hc.old db hold) hv hw hname⟩

/-! ### A clinic -/

/-- In the clinic all queries read from the visits. -/
local instance Clinic.reader : QueryReader where
  references _ _ := [("clinic", "visits")]

/-- The visits of today, for some roles to read. -/
def Clinic.today (roles : List String) : View where
  name := "today"
  query := "SELECT id FROM clinic.visits"
  grants := [{ roles, operations := ["select"] }]

/-- How many patients wait, which the reception may ask for. -/
def Clinic.waiting (returns : String) : Routine where
  name := "waiting"
  returns
  language := "sql"
  definition := "SELECT 0"
  grants := [{ roles := ["reception"], operations := ["execute"] }]

/-- A clinic with what it says about visits, how far it counts and who may read the visits of
today. -/
def Clinic.database (description : Option String) (returns : String) (roles : List String) :
    Database where
  schemas := [{
    name := "clinic"
    tables := [{
      name := "visits"
      description
      columns := [{ name := "id", dataType := some "integer" }] }]
    views := [Clinic.today roles]
    functions := [Clinic.waiting returns] }]

/-- A clinic that says nothing about visits and counts up to the usual limit. -/
def Clinic.first : Database :=
  Clinic.database none "integer" ["reception"]

/-- A clinic that says what visits are and counts without a limit. -/
def Clinic.second : Database :=
  Clinic.database (some "Visits of patients.") "bigint" ["reception"]

/-- The first clinic, with an archive that may read the visits of today as well. -/
def Clinic.third : Database :=
  Clinic.database none "integer" ["reception", "archive"]

/-- The plan from the first clinic to the second, grants left alone. -/
def Clinic.upgrade : Plan := [
  ⟨.stage1, .dropView "clinic.today"⟩,
  ⟨.stage1, .dropFunction "clinic.waiting" ""⟩,
  ⟨.stage1, .createFunction "clinic" (Clinic.waiting "bigint") false⟩,
  ⟨.stage1, .setComment (.table "clinic.visits") (some "Visits of patients.")⟩,
  ⟨.stage3, .createView "clinic" (Clinic.today ["reception"])⟩]

/-- The plan from the first clinic to the third, grants left alone. -/
def Clinic.sharing : Plan := [
  ⟨.stage1, .dropView "clinic.today"⟩,
  ⟨.stage3, .createView "clinic" (Clinic.today ["reception", "archive"])⟩]

/-- The function of the clinic is created anew as it returns another type, and the view as its
grants are others, although they are not managed. -/
theorem unmanaged_grants_left_of_clinic :
    planWithOrders (some Clinic.first) Clinic.second none none {} { manageGrants := false } =
        .ok Clinic.upgrade ∧
      (∀ op ∈ Clinic.upgrade.ops, op.kind ∉ [OpKind.grant, .revoke]) ∧
      Clinic.upgrade.RecreatesFunction "clinic" (Clinic.waiting "integer")
        (Clinic.waiting "bigint") ∧
      planWithOrders (some Clinic.first) Clinic.third none none {} { manageGrants := false } =
        .ok Clinic.sharing ∧
      Clinic.sharing.RecreatesView "clinic" (Clinic.today ["reception"])
        (Clinic.today ["reception", "archive"]) := by
  have hupgrade : planWithOrders (some Clinic.first) Clinic.second none none {}
      { manageGrants := false } = .ok Clinic.upgrade := by
    decide +kernel
  have hsharing : planWithOrders (some Clinic.first) Clinic.third none none {}
      { manageGrants := false } = .ok Clinic.sharing := by
    decide +kernel
  obtain ⟨hnone, _, -, hboth⟩ := unmanaged_grants_left hupgrade rfl
  obtain ⟨-, _, -, hshared⟩ := unmanaged_grants_left hsharing rfl
  obtain ⟨hview, hdiffer⟩ := (hshared _ rfl).2 "clinic" (Clinic.today ["reception"])
    (Clinic.today ["reception", "archive"]) (by decide) (by decide) rfl
  exact ⟨hupgrade, hnone, ((hboth _ rfl).1 _ List.mem_cons_self _ List.mem_cons_self rfl _
    List.mem_cons_self _ List.mem_cons_self (by decide)).2 ⟨rfl, by decide +kernel⟩, hsharing,
    hview.2 ⟨rfl, .inr (hdiffer (by decide))⟩⟩

/-- **Privileges are lost though grants are not managed.**  A view and a function of both versions
have grants; the view is dropped and created again since a table is described, or since its own
grants are others, the function since it returns another type, and no grant follows. -/
theorem unmanaged_grants_lost :
    Clinic.first.validate = .ok () ∧ Clinic.second.validate = .ok () ∧
      Clinic.third.validate = .ok () ∧
      plan (some Clinic.first) Clinic.second {} { manageGrants := false } = .ok Clinic.upgrade ∧
      plan (some Clinic.first) Clinic.third {} { manageGrants := false } = .ok Clinic.sharing ∧
      ("clinic", Clinic.today ["reception"]) ∈ Clinic.first.views ∧
      ("clinic", Clinic.today ["reception"]) ∈ Clinic.second.views ∧
      (Clinic.today ["reception"]).grants ≠ [] ∧
      Clinic.upgrade.RecreatesView "clinic" (Clinic.today ["reception"])
        (Clinic.today ["reception"]) ∧
      (Clinic.waiting "integer").signature = (Clinic.waiting "bigint").signature ∧
      (Clinic.waiting "bigint").grants ≠ [] ∧
      Clinic.upgrade.RecreatesFunction "clinic" (Clinic.waiting "integer")
        (Clinic.waiting "bigint") ∧
      Clinic.sharing.RecreatesView "clinic" (Clinic.today ["reception"])
        (Clinic.today ["reception", "archive"]) := by
  decide +kernel

end SchemaPlan
