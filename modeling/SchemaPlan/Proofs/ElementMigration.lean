import SchemaPlan.Proofs.ConstraintMigration
import SchemaPlan.Proofs.Sameness

/-!
# Indexes and triggers are migrated

What a plan does to the indexes of a table is read off its operations as a list of changes, and so is
what it does to the triggers.  Changes are carried out on what is there, which is told apart by name
(`NamedChange.run?`): what is dropped has to be there, and the name of what is created has to be free.

Both kinds of things are changed by one rule.  Of the old ones those are dropped that have no same one
of their name among the new, and of the new ones those are created that have none among the old.  No
name is repeated on either side, and being the same does not depend on the side, so the two searches
agree: what is kept stands for exactly those that are not created (`Pairing`).  From this the run and
its outcome follow for both kinds at once (`Pairing.migrates`).

That no name is repeated comes from validation.  The indexes that unique columns stand for are named
after their table and so change with it, but they give way to any index of their name.
`indexes_and_triggers_migrated` is the main statement.
-/

namespace SchemaPlan

/-! ### Changes by name -/

/-- A change of the things of one kind that a table has, which are told apart by their names. -/
inductive NamedChange (α : Type) where
  | drop (name : String)
  | create (x : α)
deriving DecidableEq

namespace NamedChange

variable {α : Type} {name : α → String}

/-- What is there after a change, if it can be made: what is dropped is there, and the name of what is
created is free. -/
def step? (name : α → String) (xs : List α) : NamedChange α → Option (List α)
  | .drop n => if n ∈ xs.map name then some (xs.filter fun x => name x ≠ n) else none
  | .create x => if name x ∈ xs.map name then none else some (xs ++ [x])

/-- What is there after changes, if all of them can be made. -/
def run? (name : α → String) (xs : List α) (changes : List (NamedChange α)) : Option (List α) :=
  changes.foldlM (step? name) xs

theorem run?_cons (xs : List α) (change : NamedChange α) (changes : List (NamedChange α)) :
    run? name xs (change :: changes) = (step? name xs change).bind (run? name · changes) :=
  rfl

theorem run?_append (xs : List α) (a b : List (NamedChange α)) :
    run? name xs (a ++ b) = (run? name xs a).bind (run? name · b) :=
  List.foldlM_append

/-- Dropping things that are there, each once, leaves the others. -/
theorem run?_drops {names : List String} (hnodup : names.Nodup) :
    ∀ {xs : List α}, names ⊆ xs.map name →
      run? name xs (names.map .drop) = some (xs.filter fun x => name x ∉ names) := by
  induction names with
  | nil =>
    intro xs _
    simp [run?]
  | cons n names ih =>
    intro xs hthere
    obtain ⟨hn, hnodup⟩ := List.nodup_cons.1 hnodup
    obtain ⟨hfirst, hrest⟩ := List.cons_subset.1 hthere
    have hleft : names ⊆ (xs.filter fun x => name x ≠ n).map name := by
      intro m hm
      obtain ⟨x, hx, rfl⟩ := List.mem_map.1 (hrest hm)
      have hne : name x ≠ n := by
        rintro rfl
        exact hn hm
      exact List.mem_map_of_mem (List.mem_filter.2 ⟨hx, decide_eq_true hne⟩)
    rw [List.map_cons, run?_cons, step?, if_pos hfirst, Option.bind_some, ih hnodup hleft,
      List.filter_filter]
    congr 2
    funext x
    simp [Bool.and_comm]

/-- Creating things whose names are free and not repeated puts them behind the others. -/
theorem run?_creates {ys : List α} :
    ∀ {xs : List α}, ((xs ++ ys).map name).Nodup →
      run? name xs (ys.map .create) = some (xs ++ ys) := by
  induction ys with
  | nil =>
    intro xs _
    rw [List.append_nil]
    rfl
  | cons y ys ih =>
    intro xs hnodup
    have hfree : name y ∉ xs.map name := by
      rw [List.map_append, List.map_cons, List.nodup_append'] at hnodup
      intro hy
      exact hnodup.2.2 hy List.mem_cons_self
    have hsplit : xs ++ y :: ys = (xs ++ [y]) ++ ys := by simp
    rw [List.map_cons, run?_cons, step?, if_neg hfree, Option.bind_some, hsplit,
      ih (hsplit ▸ hnodup)]

/-- Changes lead from what there was to what there should be: no name is repeated on either side, all
the changes can be made, and what is there then has the names that it should have, each standing for
the same thing. -/
structure Migrates (name : α → String) (same : α → α → Bool) (before : List α)
    (changes : List (NamedChange α)) (after : List α) : Prop where
  before_names : (before.map name).Nodup
  after_names : (after.map name).Nodup
  exact : ∃ final, run? name before changes = some final ∧
    (final.map name).Perm (after.map name) ∧
    ∀ x ∈ final, ∀ y ∈ after, name x = name y → same x y = true

/-- Old and new things without repeated names, of which those are kept, and those settled, that have
the same one of their name on the other side. -/
structure Pairing (name : α → String) (same : α → α → Bool) (before after : List α)
    (kept settled : α → Bool) : Prop where
  before_names : (before.map name).Nodup
  after_names : (after.map name).Nodup
  kept_iff : ∀ x ∈ before, kept x = true ↔ ∃ y ∈ after, name x = name y ∧ same x y = true
  settled_iff : ∀ y ∈ after, settled y = true ↔ ∃ x ∈ before, name x = name y ∧ same x y = true

namespace Pairing

variable {same : α → α → Bool} {before after : List α} {kept settled : α → Bool}

/-- What is kept has the same thing of its name among the new ones. -/
theorem same_of_kept (h : Pairing name same before after kept settled) {x y : α}
    (hx : x ∈ before) (hkept : kept x = true) (hy : y ∈ after) (hname : name x = name y) :
    same x y = true := by
  obtain ⟨y', hy', hname', hsame⟩ := (h.kept_iff x hx).1 hkept
  obtain rfl : y' = y := List.inj_on_of_nodup_map h.after_names hy' hy (hname'.symm.trans hname)
  exact hsame

theorem settled_of_kept (h : Pairing name same before after kept settled) {x y : α}
    (hx : x ∈ before) (hkept : kept x = true) (hy : y ∈ after) (hname : name x = name y) :
    settled y = true :=
  (h.settled_iff y hy).2 ⟨x, hx, hname, h.same_of_kept hx hkept hy hname⟩

/-- What is kept and what is created share no name. -/
theorem names_nodup (h : Pairing name same before after kept settled) :
    ((before.filter kept ++ after.filter (!settled ·)).map name).Nodup := by
  rw [List.map_append, List.nodup_append']
  refine ⟨h.before_names.sublist (List.filter_sublist.map _),
    h.after_names.sublist (List.filter_sublist.map _), ?_⟩
  intro n hn hn'
  obtain ⟨x, hx, rfl⟩ := List.mem_map.1 hn
  obtain ⟨y, hy, hname⟩ := List.mem_map.1 hn'
  obtain ⟨hx, hkept⟩ := List.mem_filter.1 hx
  obtain ⟨hy, hnot⟩ := List.mem_filter.1 hy
  rw [h.settled_of_kept hx hkept hy hname.symm] at hnot
  cases hnot

/-- Together they have the names of the new things. -/
theorem names_perm (h : Pairing name same before after kept settled) :
    ((before.filter kept ++ after.filter (!settled ·)).map name).Perm (after.map name) := by
  refine (List.perm_ext_iff_of_nodup h.names_nodup h.after_names).2 fun n => ?_
  rw [List.map_append, List.mem_append]
  constructor
  · rintro (hn | hn)
    · obtain ⟨x, hx, rfl⟩ := List.mem_map.1 hn
      obtain ⟨hx, hkept⟩ := List.mem_filter.1 hx
      obtain ⟨y, hy, hname, -⟩ := (h.kept_iff x hx).1 hkept
      exact List.mem_map.2 ⟨y, hy, hname.symm⟩
    · exact (List.filter_sublist.map name).subset hn
  · intro hn
    obtain ⟨y, hy, rfl⟩ := List.mem_map.1 hn
    by_cases hsettled : settled y = true
    · obtain ⟨x, hx, hname, hsame⟩ := (h.settled_iff y hy).1 hsettled
      have hkept := (h.kept_iff x hx).2 ⟨y, hy, hname, hsame⟩
      exact .inl (List.mem_map.2 ⟨x, List.mem_filter.2 ⟨hx, hkept⟩, hname⟩)
    · exact .inr (List.mem_map_of_mem (List.mem_filter.2 ⟨hy, by simpa using hsettled⟩))

/-- The drops leave what is kept. -/
theorem run?_drops (h : Pairing name same before after kept settled) :
    run? name before ((before.filter (!kept ·)).map fun x => .drop (name x)) =
      some (before.filter kept) := by
  have hdropped : ((before.filter (!kept ·)).map name).Sublist (before.map name) :=
    List.filter_sublist.map _
  have hmap : ((before.filter (!kept ·)).map fun x => NamedChange.drop (α := α) (name x)) =
      ((before.filter (!kept ·)).map name).map .drop := by
    rw [List.map_map]
    rfl
  rw [hmap, NamedChange.run?_drops (h.before_names.sublist hdropped) hdropped.subset]
  congr 1
  refine List.filter_congr fun x hx => ?_
  rw [Bool.eq_iff_iff, decide_eq_true_iff]
  constructor
  · intro hleft
    by_contra hnot
    exact hleft (List.mem_map_of_mem (List.mem_filter.2 ⟨hx, by simpa using hnot⟩))
  · rintro hkept hdrop
    obtain ⟨x', hx', hname⟩ := List.mem_map.1 hdrop
    obtain ⟨hx', hnot⟩ := List.mem_filter.1 hx'
    obtain rfl := List.inj_on_of_nodup_map h.before_names hx' hx hname
    rw [hkept] at hnot
    cases hnot

/-- **Dropping what is not kept and creating what is not settled migrates.** -/
theorem migrates (h : Pairing name same before after kept settled)
    (hrefl : ∀ y, same y y = true) :
    Migrates name same before
      (((before.filter (!kept ·)).map fun x => .drop (name x)) ++
        (after.filter (!settled ·)).map .create) after := by
  refine ⟨h.before_names, h.after_names, before.filter kept ++ after.filter (!settled ·), ?_,
    h.names_perm, ?_⟩
  · rw [run?_append, h.run?_drops, Option.bind_some, run?_creates h.names_nodup]
  · intro x hx y hy hname
    rcases List.mem_append.1 hx with hx | hx
    · obtain ⟨hx, hkept⟩ := List.mem_filter.1 hx
      exact h.same_of_kept hx hkept hy hname
    · obtain ⟨hx, -⟩ := List.mem_filter.1 hx
      obtain rfl := List.inj_on_of_nodup_map h.after_names hx hy hname
      exact hrefl x

end Pairing

end NamedChange

/-! ### Sameness from either side -/

theorem Sql.sameExpression?_symm {a b : Option String} (h : sameExpression? a b = true) :
    sameExpression? b a = true := by
  cases a with
  | none =>
    cases b with
    | none => rfl
    | some b => cases h
  | some a =>
    cases b with
    | none => cases h
    | some b => exact Sql.sameExpression_symm h

theorem sameDimensions_symm {as bs : List String} (h : sameDimensions as bs = true) :
    sameDimensions bs as = true := by
  induction as generalizing bs with
  | nil =>
    cases bs with
    | nil => rfl
    | cons b bs => cases h
  | cons a as ih =>
    cases bs with
    | nil => cases h
    | cons b bs =>
      rw [sameDimensions, Bool.and_eq_true] at h
      rw [sameDimensions, Sql.sameExpression_symm h.1, ih h.2]
      rfl

theorem Index.same_symm {a b : Index} (h : a.same b = true) : b.same a = true := by
  simp only [Index.same, Bool.and_eq_true, beq_iff_eq] at h ⊢
  obtain ⟨⟨⟨hunique, hmethod⟩, hdimensions⟩, hpredicate⟩ := h
  exact ⟨⟨⟨hunique.symm, hmethod.symm⟩, sameDimensions_symm hdimensions⟩,
    Sql.sameExpression?_symm hpredicate⟩

theorem Trigger.same_symm {a b : Trigger} (h : a.same b = true) : b.same a = true := by
  simp only [Trigger.same, Bool.and_eq_true, beq_iff_eq] at h ⊢
  obtain ⟨⟨⟨⟨⟨hname, htiming⟩, hevents⟩, hlevel⟩, hfunction⟩, hwhen⟩ := h
  exact ⟨⟨⟨⟨⟨hname.symm, htiming.symm⟩, hevents.symm⟩, hlevel.symm⟩,
    Sql.sameExpression_symm hfunction⟩, Sql.sameExpression?_symm hwhen⟩

/-! ### Changes read off operations -/

/-- What an operation does to the indexes of a table.  An index is dropped by its name in the schema of
the table, and created on the table by its address. -/
def Op.indexChange? (schema table : String) : Op → Option (NamedChange Index)
  | .dropIndex s name => if s = schema then some (.drop name) else none
  | .createIndex address i =>
    if address = Sql.qualified schema table then some (.create i) else none
  | _ => none

/-- What an operation does to the triggers of a table.  A trigger is dropped from the table by its
address, and created in the schema of the table, of which it gives the name. -/
def Op.triggerChange? (schema table : String) : Op → Option (NamedChange Trigger)
  | .dropTrigger address name =>
    if address = Sql.qualified schema table then some (.drop name) else none
  | .createTrigger s t => if s = schema ∧ t.table = table then some (.create t) else none
  | _ => none

/-- What operations do to the indexes of a table, in their order. -/
def indexChanges (schema table : String) (ops : List Op) : List (NamedChange Index) :=
  ops.filterMap (·.indexChange? schema table)

/-- What operations do to the triggers of a table, in their order. -/
def triggerChanges (schema table : String) (ops : List Op) : List (NamedChange Trigger) :=
  ops.filterMap (·.triggerChange? schema table)

section Changes

variable {schema table : String}

@[simp] theorem indexChanges_append (a b : List Op) :
    indexChanges schema table (a ++ b) =
      indexChanges schema table a ++ indexChanges schema table b :=
  List.filterMap_append

@[simp] theorem triggerChanges_append (a b : List Op) :
    triggerChanges schema table (a ++ b) =
      triggerChanges schema table a ++ triggerChanges schema table b :=
  List.filterMap_append

theorem indexChanges_eq_nil {kinds : List OpKind} {ops : List Op} (h : OfKinds kinds ops)
    (hnot : ∀ kind ∈ kinds, kind ≠ .dropIndex ∧ kind ≠ .createIndex) :
    indexChanges schema table ops = [] := by
  refine List.filterMap_eq_nil_iff.2 fun op hop => ?_
  have hkind := hnot _ (h op hop)
  cases op with
  | dropIndex => exact absurd rfl hkind.1
  | createIndex => exact absurd rfl hkind.2
  | _ => rfl

theorem triggerChanges_eq_nil {kinds : List OpKind} {ops : List Op} (h : OfKinds kinds ops)
    (hnot : ∀ kind ∈ kinds, kind ≠ .dropTrigger ∧ kind ≠ .createTrigger) :
    triggerChanges schema table ops = [] := by
  refine List.filterMap_eq_nil_iff.2 fun op hop => ?_
  have hkind := hnot _ (h op hop)
  cases op with
  | dropTrigger => exact absurd rfl hkind.1
  | createTrigger => exact absurd rfl hkind.2
  | _ => rfl

/-- **The operations on indexes migrate them.** -/
theorem migrates_indexOps {old new : List Index} (hold : (old.map (·.name)).Nodup)
    (hnew : (new.map (·.name)).Nodup) :
    NamedChange.Migrates Index.name Index.same old
      (indexChanges schema table (indexOps schema table old new)) new := by
  have hpairing : NamedChange.Pairing Index.name Index.same old new
      (fun o => new.any fun n => n.name == o.name && n.same o)
      (fun n => (old.find? (·.name == n.name)).any (·.same n)) := by
    refine ⟨hold, hnew, fun o _ => ?_, fun n _ => ?_⟩
    · rw [List.any_eq_true]
      refine exists_congr fun n => and_congr_right fun _ => ?_
      rw [Bool.and_eq_true, beq_iff_eq, eq_comm]
      exact and_congr_right fun _ => ⟨Index.same_symm, Index.same_symm⟩
    · constructor
      · intro hany
        obtain ⟨o, ho, hsame⟩ := (Option.any_eq_true _ _).1 hany
        exact ⟨o, List.mem_of_find?_eq_some ho, by simpa using List.find?_some ho, hsame⟩
      · rintro ⟨o, ho, hname, hsame⟩
        rw [← hname, find?_eq_some_of_nodup hold ho]
        exact hsame
  have hchanges : indexChanges schema table (indexOps schema table old new) =
      ((old.filter fun o => !new.any fun n => n.name == o.name && n.same o).map
        fun o => .drop o.name) ++
      (new.filter fun n => !(old.find? (·.name == n.name)).any (·.same n)).map .create := by
    simp [indexChanges, indexOps, List.filterMap_map, Op.indexChange?, List.filterMap_eq_map']
  rw [hchanges]
  exact hpairing.migrates Index.same_refl

/-- **The operations on triggers migrate them**, if the new ones are on the table. -/
theorem migrates_triggerOps {old new : List Trigger} (hold : (old.map (·.name)).Nodup)
    (hnew : (new.map (·.name)).Nodup) (htable : ∀ t ∈ new, t.table = table) :
    NamedChange.Migrates Trigger.name Trigger.same old
      (triggerChanges schema table (triggerOps schema table old new)) new := by
  have hpairing : NamedChange.Pairing Trigger.name Trigger.same old new
      (fun o => new.any fun n => n.name == o.name && n.same o)
      (fun n => old.any fun o => o.name == n.name && n.same o) := by
    refine ⟨hold, hnew, fun o _ => ?_, fun n _ => ?_⟩
    · rw [List.any_eq_true]
      refine exists_congr fun n => and_congr_right fun _ => ?_
      rw [Bool.and_eq_true, beq_iff_eq, eq_comm]
      exact and_congr_right fun _ => ⟨Trigger.same_symm, Trigger.same_symm⟩
    · rw [List.any_eq_true]
      refine exists_congr fun o => and_congr_right fun _ => ?_
      rw [Bool.and_eq_true, beq_iff_eq]
      exact and_congr_right fun _ => ⟨Trigger.same_symm, Trigger.same_symm⟩
  have hdrops : triggerChanges schema table
      ((old.filter fun o => !new.any fun n => n.name == o.name && n.same o).map
        fun o => .dropTrigger (Sql.qualified schema table) o.name) =
      (old.filter fun o => !new.any fun n => n.name == o.name && n.same o).map
        fun o => .drop o.name := by
    simp [triggerChanges, List.filterMap_map, Op.triggerChange?, List.filterMap_eq_map']
  have hcreates : triggerChanges schema table
      ((new.filter fun n => !old.any fun o => o.name == n.name && n.same o).map
        fun n => .createTrigger schema n) =
      (new.filter fun n => !old.any fun o => o.name == n.name && n.same o).map .create := by
    rw [triggerChanges, List.filterMap_map, ← List.filterMap_eq_map]
    refine List.filterMap_congr fun t ht => ?_
    exact if_pos ⟨rfl, htable t (List.mem_filter.1 ht).1⟩
  rw [triggerOps, triggerChanges_append, hdrops, hcreates]
  exact hpairing.migrates Trigger.same_refl

end Changes

/-! ### What validation establishes -/

theorem checkTriggers_of_validate {db : Database} {u : Unit} (h : db.validate = .ok u) {s : Schema}
    (hs : s ∈ db.schemas) : ∃ v, checkEach s.triggers (checkTrigger s) = .ok v := by
  obtain ⟨_, hschema⟩ := (schemas_of_validate h).2 s hs
  simp only [checkSchema, bind_eq_ok] at hschema
  obtain ⟨_, _, _, _, _, _, _, _, _, _, v, htriggers, _⟩ := hschema
  exact ⟨v, htriggers⟩

/-- The triggers on a table have names of their own. -/
theorem nodup_triggersOn {s : Schema} {u : Unit}
    (h : checkEach s.triggers (checkTrigger s) = .ok u) (table : String) :
    ((s.triggersOn table).map (·.name)).Nodup := by
  have hnodup : (s.triggers.map fun t => (t.table, t.name)).Nodup := by
    rw [nodup_map_iff_split]
    intro front t back he hm
    have hc := checkEach_eq_ok.1 h front t back he
    simp only [checkTrigger, bind_eq_ok, ensure_eq_ok] at hc
    obtain ⟨_, -, _, -, hnew⟩ := hc
    obtain ⟨b, hb, heq⟩ := List.mem_map.1 hm
    obtain ⟨htable, hname⟩ := Prod.mk.inj heq
    simp only [Bool.not_eq_true', List.any_eq_false, List.mem_reverse] at hnew
    exact hnew b hb (by simp [htable, hname])
  refine List.Nodup.of_map (Prod.mk table) ?_
  have hpairs : ((s.triggersOn table).map (·.name)).map (Prod.mk table) =
      (s.triggersOn table).map fun t => (t.table, t.name) := by
    rw [List.map_map]
    refine List.map_congr_left fun t ht => ?_
    rw [← eq_of_beq (List.mem_filter.1 ht).2]
    rfl
  rw [hpairs]
  exact hnodup.sublist (List.filter_sublist.map _)

/-! ### The indexes and triggers of a table -/

namespace Comparison

variable {c : Comparison}

/-- The indexes that a table had in the previous version, those that unique columns stood for
included. -/
def previousIndexes (c : Comparison) (schema table : String) : List Index :=
  ((c.oldVersion? schema table).map fun (_, t) => t.effectiveIndexes).getD []

/-- The triggers that were on a table in the previous version. -/
def previousTriggers (c : Comparison) (schema table : String) : List Trigger :=
  ((c.oldVersion? schema table).map fun (s, t) => s.triggersOn t.name).getD []

/-- Of all the work on a table only the operations on its indexes change them. -/
theorem indexChanges_tablePass {drops : List Constraint} {item : Schema × Table} {d : Draft}
    (h : c.tablePass drops item = .ok d) (schema table : String) :
    indexChanges schema table (d.opsAt .stage1) =
      indexChanges schema table (c.tableIndexOps item.1.name item.2) := by
  obtain ⟨work, key, hwork, hkey, rfl⟩ := tablePass_eq_ok_iff.1 h
  simp only [Draft.opsAt_append, Draft.opsAt_first, indexChanges_append]
  rw [indexChanges_eq_nil (within_tableWork hwork .stage1) (by decide),
    indexChanges_eq_nil (ofKinds_clusterOps c _ _) (by decide),
    indexChanges_eq_nil (ofKinds_addPrimaryKey hkey) (by decide),
    indexChanges_eq_nil (ofKinds_tableTriggerOps c _ _) (by decide)]
  simp

/-- Of all the work on a table only the operations on its triggers change them. -/
theorem triggerChanges_tablePass {drops : List Constraint} {item : Schema × Table} {d : Draft}
    (h : c.tablePass drops item = .ok d) (schema table : String) :
    triggerChanges schema table (d.opsAt .stage1) =
      triggerChanges schema table (c.tableTriggerOps item.1 item.2) := by
  obtain ⟨work, key, hwork, hkey, rfl⟩ := tablePass_eq_ok_iff.1 h
  simp only [Draft.opsAt_append, Draft.opsAt_first, triggerChanges_append]
  rw [triggerChanges_eq_nil (within_tableWork hwork .stage1) (by decide),
    triggerChanges_eq_nil (ofKinds_tableIndexOps c _ _) (by decide),
    triggerChanges_eq_nil (ofKinds_clusterOps c _ _) (by decide),
    triggerChanges_eq_nil (ofKinds_addPrimaryKey hkey) (by decide)]
  simp

/-- The table that a table continues is one of a previous version. -/
theorem WellMade.exists_old_of_oldVersion? (hc : c.WellMade) {schema table : String}
    {prev : Schema × Table} (h : c.oldVersion? schema table = some prev) :
    ∃ old, c.old = some old ∧ prev ∈ old.tables := by
  cases hold : c.old with
  | none => simp [oldVersion?, hold] at h
  | some old => exact ⟨old, rfl, hc.mem_old_of_oldVersion? hold h⟩

theorem WellMade.nodup_previousIndexes (hc : c.WellMade) (schema table : String) :
    ((c.previousIndexes schema table).map (·.name)).Nodup := by
  rw [previousIndexes]
  cases hprev : c.oldVersion? schema table with
  | none => exact List.nodup_nil
  | some prev =>
    obtain ⟨old, hold, hm⟩ := hc.exists_old_of_oldVersion? hprev
    exact nodup_effectiveIndexes ((hc.old old hold).table_of_mem hm).indexNames

theorem WellMade.nodup_previousTriggers (hc : c.WellMade)
    (hvalid : ∀ old, c.old = some old → old.validate = .ok ()) (schema table : String) :
    ((c.previousTriggers schema table).map (·.name)).Nodup := by
  rw [previousTriggers]
  cases hprev : c.oldVersion? schema table with
  | none => exact List.nodup_nil
  | some prev =>
    obtain ⟨old, hold, hm⟩ := hc.exists_old_of_oldVersion? hprev
    obtain ⟨_, htriggers⟩ :=
      checkTriggers_of_validate (hvalid old hold) (Database.mem_tables.1 hm).1
    exact nodup_triggersOn htriggers _

end Comparison

/-- **Indexes and triggers are migrated exactly.**  Whatever a table of the new version continues, if
anything, the indexes that it had have names of their own and so have those that it should have, and
the operations on its indexes, one after the other, drop only what is there, create only what is not,
and lead from the former to the latter.  The same holds of its triggers.  Nothing else in the work on
the table concerns either. -/
theorem indexes_and_triggers_migrated {old : Option Database} {new : Database}
    {newOrder oldOrder : Option (List OrderItem)} {style : Sql.Style} {options : Options}
    {c : Comparison} (hold : ∀ db, old = some db → db.validate = .ok ())
    (hnew : new.validate = .ok ())
    (hmake : Comparison.make old new newOrder oldOrder style options = .ok c)
    {item : Schema × Table} (hm : item ∈ new.tables) :
    NamedChange.Migrates Index.name Index.same (c.previousIndexes item.1.name item.2.name)
        (indexChanges item.1.name item.2.name (c.tableIndexOps item.1.name item.2))
        item.2.effectiveIndexes ∧
      NamedChange.Migrates Trigger.name Trigger.same (c.previousTriggers item.1.name item.2.name)
        (triggerChanges item.1.name item.2.name (c.tableTriggerOps item.1 item.2))
        (item.1.triggersOn item.2.name) ∧
      ∀ drops work, c.tablePass drops item = .ok work →
        indexChanges item.1.name item.2.name (work.opsAt .stage1) =
          indexChanges item.1.name item.2.name (c.tableIndexOps item.1.name item.2) ∧
        triggerChanges item.1.name item.2.name (work.opsAt .stage1) =
          triggerChanges item.1.name item.2.name (c.tableTriggerOps item.1 item.2) := by
  have hcoherent := Database.coherent_of_validate hnew
  obtain ⟨-, -, -, rfl, rfl, -, -⟩ := Comparison.make_eq_ok_iff.1 hmake
  have hwell : c.WellMade := Comparison.wellMade_of_make hcoherent
    (fun db hdb => Database.coherent_of_validate (hold db hdb)) hmake
  refine ⟨?_, ?_, fun drops work hwork => ⟨?_, ?_⟩⟩
  · exact migrates_indexOps (hwell.nodup_previousIndexes _ _)
      (nodup_effectiveIndexes (hcoherent.table_of_mem hm).indexNames)
  · obtain ⟨_, htriggers⟩ := checkTriggers_of_validate hnew (Database.mem_tables.1 hm).1
    exact migrates_triggerOps (hwell.nodup_previousTriggers hold _ _)
      (nodup_triggersOn htriggers _) fun t ht => eq_of_beq (List.mem_filter.1 ht).2
  · exact Comparison.indexChanges_tablePass hwork _ _
  · exact Comparison.triggerChanges_tablePass hwork _ _

/-! ### A choir and its voices -/

/-- The members of a choir, each with a mail address of its own, and how they are found. -/
def Choir.members (name : String) (oldName : Option String) (dimension : String) : Table where
  name
  oldName
  columns := [{ name := "name", dataType := some "text" },
    { name := "mail", dataType := some "text", unique := true }]
  indexes := [{ name := "by_name", dimensions := [dimension] }]

/-- The schema of the choir, where it is noted what is done to members. -/
def Choir.schema (members : Table) (events : List TriggerEvent) : Schema where
  name := "choir"
  tables := [members]
  triggers := [{
    name := "note"
    table := members.name
    timing := .after
    events
    function := "choir.note()" }]

/-- The choir with singers, who are found by their names. -/
def Choir.first : Schema :=
  Choir.schema (Choir.members "singers" none "name") [.update]

/-- The choir with voices instead, who are found by their names whatever the case. -/
def Choir.second : Schema :=
  Choir.schema (Choir.members "voices" (some "singers") "lower(name)") [.insert, .update]

/-- The changed index and the one that is named after the table are dropped and created, and so is the
trigger. -/
theorem indexes_and_triggers_migrated_of_choir :
    (⟨[Choir.first], []⟩ : Database).validate = .ok () ∧
    (⟨[Choir.second], []⟩ : Database).validate = .ok () ∧
    NamedChange.Migrates Index.name Index.same
      [{ name := "by_name", dimensions := ["name"] }, uniqueIndex "singers" "mail"]
      [.drop "by_name", .drop "singers_mail_key",
        .create { name := "by_name", dimensions := ["lower(name)"] },
        .create (uniqueIndex "voices" "mail")]
      [{ name := "by_name", dimensions := ["lower(name)"] }, uniqueIndex "voices" "mail"] ∧
    NamedChange.Migrates Trigger.name Trigger.same Choir.first.triggers
      (.drop "note" :: Choir.second.triggers.map .create) Choir.second.triggers := by
  have hfirst : (⟨[Choir.first], []⟩ : Database).validate = .ok () := by decide +kernel
  have hsecond : (⟨[Choir.second], []⟩ : Database).validate = .ok () := by decide +kernel
  let voices := Choir.members "voices" (some "singers") "lower(name)"
  have hrun : (do
      let c ← Comparison.make (some ⟨[Choir.first], []⟩) ⟨[Choir.second], []⟩ none none {} {}
      return (c.previousIndexes "choir" "voices",
        indexChanges "choir" "voices" (c.tableIndexOps "choir" voices),
        c.previousTriggers "choir" "voices",
        triggerChanges "choir" "voices" (c.tableTriggerOps Choir.second voices))) =
      .ok ([{ name := "by_name", dimensions := ["name"] }, uniqueIndex "singers" "mail"],
        [.drop "by_name", .drop "singers_mail_key",
          .create { name := "by_name", dimensions := ["lower(name)"] },
          .create (uniqueIndex "voices" "mail")],
        Choir.first.triggers, .drop "note" :: Choir.second.triggers.map .create) := by
    decide +kernel
  simp only [bind_eq_ok, pure_eq_ok, Prod.mk.injEq] at hrun
  obtain ⟨c, hmake, hindexes, hindexChanges, htriggers, htriggerChanges⟩ := hrun
  have hold : ∀ db, some (⟨[Choir.first], []⟩ : Database) = some db → db.validate = .ok () := by
    rintro _ ⟨⟩
    exact hfirst
  have hm : (Choir.second, voices) ∈ (⟨[Choir.second], []⟩ : Database).tables := by decide
  have hdone := indexes_and_triggers_migrated hold hsecond hmake hm
  refine ⟨hfirst, hsecond, ?_, ?_⟩
  · rw [← hindexes, ← hindexChanges]
    exact hdone.1
  · rw [← htriggers, ← htriggerChanges]
    exact hdone.2.1

end SchemaPlan
