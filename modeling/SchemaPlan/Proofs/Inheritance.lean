import SchemaPlan.Proofs.Sufficiency
import SchemaPlan.Run

/-!
# Changes of parents

What a table inherits from cannot be changed, so a plan is refused if the parent of a table is not
the one that its parent goes on as.  The parents are compared by the tables that they are, not by
what they are called: a parent may be renamed and moved, and written with its schema or without
(`KeepsParent`).  A table changes its parent if it gains or loses one, if its parent is dropped, or
if its parent goes on as another table (`ParentChanged`).

The check maps the old parent across, and takes it by its old name if it is dropped.  That name
cannot be that of the new parent, since a table that both versions have continues itself: hence one
inequality of keys says all of this (`parent_ne_iff`).
-/

namespace SchemaPlan

namespace Comparison

/-- A table inherits from the table that continues the parent of the table that it continues, or
neither inherits from any. -/
inductive KeepsParent (c : Comparison) (item prev : Schema × Table) : Prop where
  | none (hnew : item.2.inherits = .none) (hold : prev.2.inherits = .none)
  | continued {target former : TableRef} {parent formerParent : Schema × Table}
      (hnew : item.2.inherits = some target) (hold : prev.2.inherits = some former)
      (htarget : c.new.table? (target.resolve item.1.name).1 (target.resolve item.1.name).2 =
        some parent)
      (hcontinues : c.oldVersion? parent.1.name parent.2.name = some formerParent)
      (hformer : itemKey formerParent = former.resolve prev.1.name)

/-- A table does not inherit from what the table that it continues inherited from. -/
inductive ParentChanged (c : Comparison) (item prev : Schema × Table) : Prop where
  | gained {target : TableRef} (hnew : item.2.inherits = some target)
      (hold : prev.2.inherits = none)
  | lost {former : TableRef} (hnew : item.2.inherits = none) (hold : prev.2.inherits = some former)
  /-- Nothing continues the parent that the table had. -/
  | dropped {target former : TableRef} (hnew : item.2.inherits = some target)
      (hold : prev.2.inherits = some former)
      (hgone : c.newVersion? (former.resolve prev.1.name).1 (former.resolve prev.1.name).2 = none)
  /-- What continues the parent that the table had is not the parent that it has. -/
  | replaced {target former : TableRef} {other : Schema × Table}
      (hnew : item.2.inherits = some target) (hold : prev.2.inherits = some former)
      (hgoes : c.newVersion? (former.resolve prev.1.name).1 (former.resolve prev.1.name).2 =
        some other)
      (hne : itemKey other ≠ target.resolve item.1.name)

/-- The parent of a table of the new version. -/
def newParent? (item : Schema × Table) : Option TableKey :=
  item.2.inherits.map (·.resolve item.1.name)

/-- The refusal to change what a table inherits from. -/
def parentRefusal (c : Comparison) (item prev : Schema × Table) : SchemaError :=
  .unsupported (Sql.qualified item.1.name item.2.name)
    (.inheritanceChanged
      ((c.oldParent? prev.1.name prev.2).map fun key => Sql.qualified key.1 key.2)
      ((newParent? item).map fun key => Sql.qualified key.1 key.2))

/-- The check of what one table inherits from. -/
def checkParent (c : Comparison) (item : Schema × Table) : Except SchemaError Unit :=
  match c.oldVersion? item.1.name item.2.name with
  | none => .ok ()
  | some prev =>
    ensure (newParent? item == c.oldParent? prev.1.name prev.2) (c.parentRefusal item prev)

theorem checkInheritance_eq (c : Comparison) :
    c.checkInheritance = checkAll c.new.tables c.checkParent := by
  unfold checkInheritance
  congr 1
  funext item
  unfold checkParent
  dsimp only
  cases c.oldVersion? item.1.name item.2.name with
  | none => rfl
  | some prev => rfl

section Parents

variable {c : Comparison} {item prev : Schema × Table} {target former : TableRef}

theorem oldParent?_of_none (hfrom : prev.2.inherits = none) :
    c.oldParent? prev.1.name prev.2 = none := by
  rw [oldParent?, hfrom, Option.map_none]

theorem oldParent?_of_continued (hfrom : prev.2.inherits = some former) {other : Schema × Table}
    (hgoes : c.newVersion? (former.resolve prev.1.name).1 (former.resolve prev.1.name).2 =
      some other) : c.oldParent? prev.1.name prev.2 = some (itemKey other) := by
  rw [oldParent?, hfrom, Option.map_some]
  dsimp only
  rw [hgoes]

theorem oldParent?_of_gone (hfrom : prev.2.inherits = some former)
    (hgone : c.newVersion? (former.resolve prev.1.name).1 (former.resolve prev.1.name).2 = none) :
    c.oldParent? prev.1.name prev.2 = some (former.resolve prev.1.name) := by
  rw [oldParent?, hfrom, Option.map_some]
  dsimp only
  rw [hgone]

/-- The parent that a table keeps is what the parent that it had goes on as. -/
theorem newVersion?_of_continued {old : Database} (hc : c.WellMade) (hold : c.old = some old)
    {parent formerParent : Schema × Table}
    (htarget : c.new.table? (target.resolve item.1.name).1 (target.resolve item.1.name).2 =
      some parent)
    (hcontinues : c.oldVersion? parent.1.name parent.2.name = some formerParent)
    (hformer : itemKey formerParent = former.resolve prev.1.name) :
    itemKey parent = target.resolve item.1.name ∧
      c.newVersion? (former.resolve prev.1.name).1 (former.resolve prev.1.name).2 =
        some parent := by
  obtain ⟨hparent, hs, hn⟩ := hc.new.table?_eq_some_iff.1 htarget
  have hmem := hc.mem_old_of_oldVersion? hold hcontinues
  have hgoes := (hc.oldVersion?_eq_some_iff_newVersion? hold hparent hmem).1 hcontinues
  rw [(Prod.mk.inj hformer).1, (Prod.mk.inj hformer).2] at hgoes
  exact ⟨Prod.ext hs hn, hgoes⟩

/-- **A table keeps its parent or changes it.** -/
theorem keepsParent_iff {old : Database} (hc : c.WellMade) (hold : c.old = some old) :
    c.KeepsParent item prev ↔ ¬c.ParentChanged item prev := by
  constructor
  · rintro (⟨hto, hfrom⟩ | ⟨hto, hfrom, htarget, hcontinues, hformer⟩) hchanged
    · cases hchanged with
      | gained hto' => cases hto'.symm.trans hto
      | lost _ hfrom' => cases hfrom'.symm.trans hfrom
      | dropped hto' => cases hto'.symm.trans hto
      | replaced hto' => cases hto'.symm.trans hto
    · obtain ⟨hkey, hgoes⟩ := newVersion?_of_continued hc hold htarget hcontinues hformer
      cases hchanged with
      | gained _ hfrom' => cases hfrom'.symm.trans hfrom
      | lost hto' => cases hto'.symm.trans hto
      | dropped _ hfrom' hgone =>
        cases hfrom'.symm.trans hfrom
        cases hgone.symm.trans hgoes
      | replaced hto' hfrom' hgoes' hne =>
        cases hto'.symm.trans hto
        cases hfrom'.symm.trans hfrom
        cases hgoes'.symm.trans hgoes
        exact hne hkey
  · intro hkept
    cases hto : item.2.inherits with
    | none =>
      cases hfrom : prev.2.inherits with
      | none => exact .none hto hfrom
      | some former => exact absurd (.lost hto hfrom) hkept
    | some target =>
      cases hfrom : prev.2.inherits with
      | none => exact absurd (.gained hto hfrom) hkept
      | some former =>
        cases hgoes : c.newVersion? (former.resolve prev.1.name).1
            (former.resolve prev.1.name).2 with
        | none => exact absurd (.dropped hto hfrom hgoes) hkept
        | some parent =>
          have hkey : itemKey parent = target.resolve item.1.name :=
            not_not.1 fun hne => hkept (.replaced hto hfrom hgoes hne)
          obtain ⟨hpair, hparent⟩ := hc.newVersion?_eq_some_iff.1 hgoes
          obtain ⟨db, hdb, hthere, -⟩ := hc.paired _ hpair
          cases hdb.symm.trans hold
          obtain ⟨formerParent, hformer⟩ := Option.isSome_iff_exists.1 hthere
          obtain ⟨hmem, hs, hn⟩ := (hc.old old hold).table?_eq_some_iff.1 hformer
          refine .continued hto hfrom (hc.new.table?_eq_some_iff.2 ⟨hparent, ?_, ?_⟩)
            ((hc.oldVersion?_eq_some_iff_newVersion? hold hparent hmem).2 ?_) (Prod.ext hs hn)
          · exact congrArg Prod.fst hkey
          · exact congrArg Prod.snd hkey
          · rw [hs, hn]
            exact hgoes

end Parents

section Made

variable {c : Comparison} {old new : Database} {newOrder oldOrder : Option (List OrderItem)}
  {style : Sql.Style} {options : Options}

/-- The table that a valid definition's table inherits from is there. -/
theorem exists_parent {db : Database} (h : db.validate = .ok ()) {item : Schema × Table}
    (hm : item ∈ db.tables) {target : TableRef} (ht : item.2.inherits = some target) :
    ∃ parent ∈ db.tables, itemKey parent = target.resolve item.1.name := by
  obtain ⟨_, hcheck⟩ := Database.checkTable_of_validate h hm
  obtain ⟨parent, hparent⟩ := exists_parent_of_checkTable hcheck ht
  obtain ⟨hm, hs, hn⟩ := (Database.coherent_of_validate h).table?_eq_some_iff.1 hparent
  exact ⟨parent, hm, Prod.ext hs hn⟩

variable (hold : old.validate = .ok ()) (hnew : new.validate = .ok ())
  (hmake : make (some old) new newOrder oldOrder style options = .ok c) (hc : c.WellMade)

include hold hnew hmake hc in
/-- **The check finds the tables that change their parent.** -/
theorem parent_ne_iff {item prev : Schema × Table} (hm : item ∈ new.tables)
    (hv : c.oldVersion? item.1.name item.2.name = some prev) :
    newParent? item ≠ c.oldParent? prev.1.name prev.2 ↔ c.ParentChanged item prev := by
  obtain ⟨-, -, -, hcold, rfl, -, -⟩ := make_eq_ok_iff.1 hmake
  constructor
  · intro hne
    by_contra hkept
    cases (keepsParent_iff hc hcold).2 hkept with
    | none hto hfrom =>
      refine hne ?_
      rw [newParent?, hto, oldParent?_of_none hfrom, Option.map_none]
    | continued hto hfrom htarget hcontinues hformer =>
      obtain ⟨hkey, hgoes⟩ := newVersion?_of_continued hc hcold htarget hcontinues hformer
      refine hne ?_
      rw [newParent?, hto, oldParent?_of_continued hfrom hgoes, Option.map_some, hkey]
  · intro hchanged he
    unfold newParent? at he
    cases hchanged with
    | gained hto hfrom =>
      rw [hto, oldParent?_of_none hfrom] at he
      cases he
    | lost hto hfrom =>
      rw [hto, oldParent?, hfrom] at he
      cases he
    | dropped hto hfrom hgone =>
      rw [hto, oldParent?_of_gone hfrom hgone] at he
      -- The new parent would continue the old one, which has the same key.
      obtain ⟨parent, hparent, hkey⟩ := exists_parent hnew hm hto
      obtain ⟨formerParent, hformer, hformerKey⟩ :=
        exists_parent hold (hc.mem_old_of_oldVersion? hcold hv) hfrom
      rw [← hformerKey] at hgone
      refine itemKey_ne_of_gone hmake hc hcold hformer hgone hparent ?_
      rw [hkey, hformerKey]
      exact Option.some.inj he
    | replaced hto hfrom hgoes hne =>
      rw [hto, oldParent?_of_continued hfrom hgoes] at he
      exact hne (Option.some.inj he).symm

include hold hnew hmake hc in
theorem checkParent_eq_error_iff {item : Schema × Table} (hm : item ∈ new.tables)
    {e : SchemaError} : c.checkParent item = .error e ↔
      ∃ prev, c.oldVersion? item.1.name item.2.name = some prev ∧ c.ParentChanged item prev ∧
        e = c.parentRefusal item prev := by
  unfold checkParent
  cases hv : c.oldVersion? item.1.name item.2.name with
  | none => simp
  | some prev =>
    have hchanged := parent_ne_iff hold hnew hmake hc hm hv
    simp only [Option.some.injEq, exists_eq_left', ensure, beq_iff_eq]
    by_cases he : newParent? item = c.oldParent? prev.1.name prev.2
    · rw [if_pos he]
      exact iff_of_false (by simp) fun h => hchanged.2 h.1 he
    · rw [if_neg he, Except.error.injEq, eq_comm]
      exact (and_iff_right (hchanged.1 he)).symm

include hold hnew hmake hc in
/-- **The check fails for the first table that changes its parent.** -/
theorem checkInheritance_eq_error_iff {e : SchemaError} : c.checkInheritance = .error e ↔
    ∃ front item back prev, new.tables = front ++ item :: back ∧
      c.oldVersion? item.1.name item.2.name = some prev ∧ c.ParentChanged item prev ∧
      (∀ other ∈ front, ∀ former, c.oldVersion? other.1.name other.2.name = some former →
        ¬c.ParentChanged other former) ∧
      e = c.parentRefusal item prev := by
  have hcheck := fun {item} (hm : item ∈ new.tables) e =>
    checkParent_eq_error_iff hold hnew hmake hc hm (e := e)
  have hpass : ∀ item ∈ new.tables, c.checkParent item = .ok () ↔
      ∀ prev, c.oldVersion? item.1.name item.2.name = some prev → ¬c.ParentChanged item prev := by
    intro item hm
    cases h : c.checkParent item with
    | ok u =>
      refine iff_of_true rfl fun prev hv hchanged => ?_
      cases h.symm.trans ((hcheck hm _).2 ⟨prev, hv, hchanged, rfl⟩)
    | error e =>
      obtain ⟨prev, hv, hchanged, -⟩ := (hcheck hm e).1 h
      exact iff_of_false (by simp) fun hkept => hkept prev hv hchanged
  obtain ⟨-, -, -, -, rfl, -, -⟩ := make_eq_ok_iff.1 hmake
  rw [checkInheritance_eq, checkAll_eq_error]
  constructor
  · rintro ⟨front, item, back, he, hfront, hitem⟩
    have hmem : ∀ other ∈ front ++ item :: back, other ∈ c.new.tables := fun other h => he ▸ h
    obtain ⟨prev, hv, hchanged, herror⟩ := (hcheck (hmem item (by simp)) e).1 hitem
    exact ⟨front, item, back, prev, he, hv, hchanged, fun other hother =>
      (hpass other (hmem other (by simp [hother]))).1 (hfront other hother), herror⟩
  · rintro ⟨front, item, back, prev, he, hv, hchanged, hfront, herror⟩
    have hmem : ∀ other ∈ front ++ item :: back, other ∈ c.new.tables := fun other h => he ▸ h
    exact ⟨front, item, back, he, fun other hother =>
      (hpass other (hmem other (by simp [hother]))).2 (hfront other hother),
      (hcheck (hmem item (by simp)) e).2 ⟨prev, hv, hchanged, herror⟩⟩

/-- A plan that is refused because of a parent is refused because of a table that changes its. -/
theorem parentChanged_of_versionFault (hc : c.WellMade)
    (hmake : make (some old) new newOrder oldOrder style options = .ok c) {object : String}
    {oldParent newParent : Option String}
    (h : VersionFault options.renameTracking old new
      (.unsupported object (.inheritanceChanged oldParent newParent))) :
    ∃ item ∈ new.tables, ∃ prev, c.oldVersion? item.1.name item.2.name = some prev ∧
      c.ParentChanged item prev := by
  obtain ⟨-, -, -, hcold, rfl, rfl, -⟩ := make_eq_ok_iff.1 hmake
  have hpairs := fun p => mem_pairs_iff hmake hcold (p := p)
  cases h with
  | @inheritanceChanged item prev parent hm hprev hcontinues hparent hne =>
    refine ⟨item, hm, prev, (hc.oldVersion?_eq_some_iff hcold).2
      ⟨(hpairs _).2 ⟨item, hm, rfl, hcontinues⟩, hprev⟩, ?_⟩
    cases hfrom : prev.2.inherits with
    | none =>
      rw [hfrom] at hparent
      cases hparent
      cases hto : item.2.inherits with
      | none =>
        rw [hto] at hne
        exact absurd rfl hne
      | some target => exact .gained hto hfrom
    | some former =>
      rw [hfrom] at hparent
      cases hto : item.2.inherits with
      | none => exact .lost hto hfrom
      | some target =>
        rw [hto] at hne
        cases hparent with
        | some hgoes =>
          cases hgoes with
          | @continued other _ hother hcontinues =>
            refine .replaced hto hfrom (hc.newVersion?_eq_some_iff.2
              ⟨(hpairs _).2 ⟨other, hother, rfl, hcontinues⟩, hother⟩) fun he => ?_
            exact hne (congrArg some he.symm)
          | gone hgone =>
            refine .dropped hto hfrom (Option.eq_none_iff_forall_not_mem.2 fun other hother => ?_)
            obtain ⟨hpair, hother⟩ := hc.newVersion?_eq_some_iff.1 hother
            obtain ⟨other', hother', -, hcontinues⟩ := (hpairs _).1 hpair
            exact hgone other' hother' hcontinues

end Made

end Comparison

/-- **Changes of parents are refused exactly.**  A plan is refused because of a parent exactly if
some table that continues another changes its parent: it has one where it had none, or none where it
had one, or nothing continues the one that it had, or something else does than the one that it has.
A table that inherits from what continues the parent that it had keeps it, under whatever names the
two are known and written.  The refusal is about the first such table and names both parents.
Whatever a plan is refused for, there is no plan with other operations, and nothing is done to
files. -/
theorem inheritance_changes_refused [QueryReader] {old new : Database}
    {newOrder oldOrder : Option (List OrderItem)} {style : Sql.Style} {options : Options}
    {c : Comparison} (hold : old.validate = .ok ()) (hnew : new.validate = .ok ())
    (hmake : Comparison.make (some old) new newOrder oldOrder style options = .ok c)
    (hdata : options.onlyData = false) :
    ((∃ object oldParent newParent,
        c.plan = .error (.unsupported object (.inheritanceChanged oldParent newParent))) ↔
      ∃ item ∈ new.tables, ∃ prev, c.oldVersion? item.1.name item.2.name = some prev ∧
        c.ParentChanged item prev) ∧
    (∀ item prev, c.KeepsParent item prev ↔ ¬c.ParentChanged item prev) ∧
    (∀ front item back prev, new.tables = front ++ item :: back →
      c.oldVersion? item.1.name item.2.name = some prev → c.ParentChanged item prev →
      (∀ other ∈ front, ∀ former, c.oldVersion? other.1.name other.2.name = some former →
        ¬c.ParentChanged other former) → c.plan = .error (c.parentRefusal item prev)) ∧
    ∀ e, c.plan = .error e →
      planWithOrders (some old) new newOrder oldOrder style options = .error e ∧
      (newOrder = some new.dependencyOrder → oldOrder = some old.dependencyOrder →
        ∀ (m : Type → Type) [Monad m] [Files.FileStore m] (settings : Settings),
          settings.style = style → settings.options = options →
          (SchemaPlan.make (some old) new settings : m (Except RunError Outcome)) =
            pure (.error (.planning e))) := by
  have hvalid : ∀ db, some old = some db → db.validate = .ok () := by
    rintro _ ⟨⟩
    exact hold
  have hc : c.WellMade := Comparison.wellMade_of_make (Database.coherent_of_validate hnew)
    (fun db hdb => Database.coherent_of_validate (hvalid db hdb)) hmake
  have hcheck := fun e =>
    Comparison.checkInheritance_eq_error_iff hold hnew hmake hc (e := e)
  obtain ⟨-, -, -, hcold, rfl, rfl, -⟩ := Comparison.make_eq_ok_iff.1 hmake
  have hplan : ∀ e, c.checkInheritance = .error e → c.plan = .error e := by
    intro e he
    rw [Comparison.plan_eq_bind, hdata, if_neg Bool.false_ne_true, Comparison.schemaWork, he]
    rfl
  refine ⟨⟨?_, ?_⟩, fun item prev => Comparison.keepsParent_iff hc hcold, ?_, ?_⟩
  · rintro ⟨object, oldParent, newParent, he⟩
    have hforeseen := c.failsOnly_plan (Comparison.structureFailsOnly hmake hc)
      (Comparison.rowsFailOnly hmake hc (Comparison.forall_mem_versions_iff.2 ⟨hnew, fun db hdb =>
        hvalid db (hcold.symm.trans hdb)⟩)) _ he
    rcases hforeseen with ⟨_, -, hfault⟩ | ⟨db, hdb, hfault⟩
    · cases hfault
    · cases hdb.symm.trans hcold
      exact Comparison.parentChanged_of_versionFault hc hmake hfault
  · rintro ⟨item, hm, prev, hv, hchanged⟩
    rw [Comparison.checkInheritance_eq] at hcheck hplan
    cases h : checkAll c.new.tables c.checkParent with
    | error e =>
      obtain ⟨_, item, _, prev, -, -, -, -, rfl⟩ := (hcheck e).1 h
      exact ⟨_, _, _, hplan _ h⟩
    | ok u =>
      have hitem := checkAll_eq_ok.1 h item hm
      have hfails := (Comparison.checkParent_eq_error_iff hold hnew hmake hc hm).2
        ⟨prev, hv, hchanged, rfl⟩
      cases hfails.symm.trans hitem
  · intro front item back prev he hv hchanged hfront
    exact hplan _ ((hcheck _).2 ⟨front, item, back, prev, he, hv, hchanged, hfront, rfl⟩)
  · intro e he
    have hwith : planWithOrders (some old) c.new newOrder oldOrder style c.options = .error e := by
      rw [planWithOrders_of_valid hnew hvalid, hmake]
      exact he
    refine ⟨hwith, ?_⟩
    rintro rfl rfl m _ _ settings rfl hoptions
    have hrun : outcome (some old) c.new settings = .error e := by
      rw [outcome, plan_eq_planWithOrders, hoptions, Option.map_some, hwith]
      rfl
    rw [SchemaPlan.make, hrun]

/-! ### A garden -/

attribute [local instance] QueryReader.blank

/-- Plants, under some name. -/
def Garden.plants (name : String) (oldName oldSchema : Option String) : Table where
  name
  oldName
  oldSchema
  columns := [{ name := "id", dataType := some "integer" }]

/-- Trees, which are what `inherits` says. -/
def Garden.trees (inherits : TableRef) : Table where
  name := "trees"
  inherits := some inherits

/-- Trees are plants of the garden. -/
def Garden.first : Database where
  schemas := [{
    name := "garden"
    tables := [Garden.plants "plants" none none, Garden.trees { table := "plants" }] }]

/-- Trees belong to the flora, which is the plants under another name and in another place if it has
their marker, and is something else otherwise. -/
def Garden.second (oldName oldSchema : Option String) : Database where
  schemas := [
    { name := "garden"
      tables := [Garden.trees { schema := some "botany", table := "flora" }] },
    { name := "botany"
      tables := [Garden.plants "flora" oldName oldSchema] }]

/-- **The trees of the garden stay plants** when the plants are renamed and moved, and cannot get
another parent instead. -/
theorem inheritance_changes_refused_of_garden :
    (∃ c, Comparison.make (some Garden.first) (Garden.second (some "plants") (some "garden")) none
        none {} {} = .ok c ∧
      ∀ item ∈ (Garden.second (some "plants") (some "garden")).tables, ∀ prev,
        c.oldVersion? item.1.name item.2.name = some prev → c.KeepsParent item prev) ∧
    ∃ c, Comparison.make (some Garden.first) (Garden.second none none) none none {} {} = .ok c ∧
      c.plan = .error (.unsupported "garden.trees"
        (.inheritanceChanged (some "garden.plants") (some "botany.flora"))) ∧
      ∃ item ∈ (Garden.second none none).tables, ∃ prev,
        c.oldVersion? item.1.name item.2.name = some prev ∧ c.ParentChanged item prev := by
  have hold : Garden.first.validate = .ok () := by decide +kernel
  constructor
  · have hplan : (do
        let c ← Comparison.make (some Garden.first)
          (Garden.second (some "plants") (some "garden")) none none {} {}
        let p ← c.plan
        return p.ops) = .ok [.createSchema "botany",
          .setTableSchema "garden.plants" "botany", .renameTable "botany.plants" "flora"] := by
      decide +kernel
    obtain ⟨c, hmake, hplan⟩ := bind_eq_ok.1 hplan
    obtain ⟨p, hplan, -⟩ := bind_eq_ok.1 hplan
    obtain ⟨hrefused, hkeeps, -⟩ :=
      inheritance_changes_refused hold (by decide +kernel) hmake rfl
    refine ⟨c, hmake, fun item hm prev hv => (hkeeps item prev).2 fun hchanged => ?_⟩
    obtain ⟨_, _, _, herror⟩ := hrefused.2 ⟨item, hm, prev, hv, hchanged⟩
    cases herror.symm.trans hplan
  · have hmade : (Comparison.make (some Garden.first) (Garden.second none none) none none {}
        {}).map Comparison.plan = .ok (.error (.unsupported "garden.trees"
          (.inheritanceChanged (some "garden.plants") (some "botany.flora")))) := by
      decide +kernel
    cases hmake : Comparison.make (some Garden.first) (Garden.second none none) none none {} {} with
    | error e =>
      rw [hmake] at hmade
      cases hmade
    | ok c =>
      rw [hmake] at hmade
      have hplan := Except.ok.inj hmade
      have hchanged := (inheritance_changes_refused hold (by decide +kernel) hmake rfl).1
      exact ⟨c, rfl, hplan, hchanged.1 ⟨_, _, _, hplan⟩⟩

end SchemaPlan
