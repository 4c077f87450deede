import Mathlib.Data.String.Basic
import SchemaPlan.Plan.Elements
import SchemaPlan.Plan.Privileges
import SchemaPlan.Plan.Schemas
import SchemaPlan.Plan.Tables
import SchemaPlan.Plan.Views
import SchemaPlan.Proofs.Coherence

/-!
# Nothing differs from itself

Each kind of object is compared in its own way.  This file says of each comparison that it finds no
difference between an object and itself: functions, sequences, indexes, triggers, columns, views, and
the privileges that grants amount to.

Where objects are looked up by name this needs that no name is repeated, which validation provides.
Two comparisons need an invariant of their own.  The indexes that unique columns stand for must not
take a name twice (`nodup_effectiveIndexes`), and the privileges of a role are found again because
they are kept in the order of their names (`SortedKeys`).
-/

namespace SchemaPlan

/-! ### Expressions and types -/

@[simp] theorem Sql.sameExpression_refl (a : String) : Sql.sameExpression a a = true :=
  beq_self_eq_true _

theorem Sql.sameExpression_symm {a b : String} (h : sameExpression a b = true) :
    sameExpression b a = true := by
  unfold sameExpression at h ⊢
  exact beq_iff_eq.2 (beq_iff_eq.1 h).symm

@[simp] theorem Sql.sameExpression?_refl (a : Option String) : Sql.sameExpression? a a = true := by
  cases a with
  | none => rfl
  | some a => exact Sql.sameExpression_refl a

@[simp] theorem Sql.TypeName.same_refl (a : String) : Sql.TypeName.same a a = true :=
  beq_self_eq_true _

/-! ### Functions and sequences -/

@[simp] theorem Routine.same_refl (f : Routine) : f.same f = true := by
  simp [Routine.same]

theorem functionOps_self (schema : String) (f : Routine) : functionOps schema (some f) f = [] := by
  rw [functionOps, if_pos f.same_refl]

theorem sequenceWork_self (schema : String) (s : Sequence) :
    sequenceWork schema (some s) s = {} := by
  simp [sequenceWork, sequenceChanges]

theorem removedObjects_self (s : Schema) : Comparison.removedObjects s s = [] := by
  have hfunctions : s.functions.filter (fun f => (s.function? f.signature).isNone) = [] := by
    rw [List.filter_eq_nil_iff]
    intro f hf hnone
    exact absurd (List.find?_eq_none.1 (Option.isNone_iff_eq_none.1 hnone) f hf) (by simp)
  have hsequences : s.sequences.filter (fun q => (s.sequence? q.name).isNone) = [] := by
    rw [List.filter_eq_nil_iff]
    intro q hq hnone
    exact absurd (List.find?_eq_none.1 (Option.isNone_iff_eq_none.1 hnone) q hq) (by simp)
  have htypes : s.types.filter (fun t => (s.type? t.name).isNone) = [] := by
    rw [List.filter_eq_nil_iff]
    intro t ht hnone
    exact absurd (List.find?_eq_none.1 (Option.isNone_iff_eq_none.1 hnone) t ht) (by simp)
  rw [Comparison.removedObjects, hfunctions, hsequences, htypes]
  rfl

/-! ### Indexes and triggers -/

theorem sameDimensions_refl (ds : List String) : sameDimensions ds ds = true := by
  induction ds with
  | nil => rfl
  | cons d ds ih =>
    rw [sameDimensions, Sql.sameExpression_refl, ih]
    rfl

@[simp] theorem Index.same_refl (i : Index) : i.same i = true := by
  simp [Index.same, sameDimensions_refl]

@[simp] theorem Trigger.same_refl (t : Trigger) : t.same t = true := by
  simp [Trigger.same]

theorem nodup_addIndex {indexes : List Index} (i : Index) (h : (indexes.map (·.name)).Nodup) :
    ((addIndex indexes i).map (·.name)).Nodup := by
  unfold addIndex
  by_cases hany : indexes.any (·.name == i.name) = true
  · rw [if_pos hany]
    exact h
  · rw [if_neg hany, List.map_append, List.nodup_append']
    refine ⟨h, List.nodup_singleton _, ?_⟩
    rw [List.map_singleton, List.disjoint_singleton]
    rw [Bool.not_eq_true] at hany
    exact not_any_eq_true_iff.1 (by rw [hany]; rfl)

theorem nodup_foldl_addIndex (more : List Index) :
    ∀ {indexes : List Index}, (indexes.map (·.name)).Nodup →
      ((more.foldl addIndex indexes).map (·.name)).Nodup := by
  induction more with
  | nil => exact fun h => h
  | cons i more ih => exact fun h => ih (nodup_addIndex i h)

/-- The indexes of a table have names of their own, together with those that columns stand for. -/
theorem nodup_effectiveIndexes {t : Table} (h : (t.indexes.map (·.name)).Nodup) :
    (t.effectiveIndexes.map (·.name)).Nodup :=
  nodup_foldl_addIndex _ h

theorem indexOps_self (schema table : String) {indexes : List Index}
    (h : (indexes.map (·.name)).Nodup) : indexOps schema table indexes indexes = [] := by
  have hdrops : (indexes.filter fun o =>
      !indexes.any fun n => n.name == o.name && n.same o) = [] := by
    rw [List.filter_eq_nil_iff]
    intro o ho
    have hany : (indexes.any fun n => n.name == o.name && n.same o) = true :=
      List.any_eq_true.2 ⟨o, ho, by simp⟩
    simp [hany]
  have hcreates : (indexes.filter fun n =>
      !(indexes.find? (·.name == n.name)).any (·.same n)) = [] := by
    rw [List.filter_eq_nil_iff]
    intro n hn
    rw [find?_eq_some_of_nodup h hn]
    simp
  rw [indexOps, hdrops, hcreates]
  rfl

theorem triggerOps_self (schema table : String) (triggers : List Trigger) :
    triggerOps schema table triggers triggers = [] := by
  have hany : ∀ t ∈ triggers,
      (triggers.any fun o => o.name == t.name && o.same t) = true ∧
        (triggers.any fun o => o.name == t.name && t.same o) = true := by
    intro t ht
    exact ⟨List.any_eq_true.2 ⟨t, ht, by simp⟩, List.any_eq_true.2 ⟨t, ht, by simp⟩⟩
  have hdrops : (triggers.filter fun o =>
      !triggers.any fun n => n.name == o.name && n.same o) = [] := by
    rw [List.filter_eq_nil_iff]
    intro t ht
    simp [(hany t ht).1]
  have hcreates : (triggers.filter fun n =>
      !triggers.any fun o => o.name == n.name && n.same o) = [] := by
    rw [List.filter_eq_nil_iff]
    intro t ht
    simp [(hany t ht).2]
  rw [triggerOps, hdrops, hcreates]
  rfl

/-! ### Columns -/

/-- The marker of a column does not lead to another column of the table. -/
def Column.MarkerLeadsOutside (t : Table) (col : Column) : Prop :=
  ∀ name, col.oldName = some name → name ≠ col.name → t.column? name = none

/-- Among the columns of its own table a column finds itself, or its marker is refused. -/
theorem eq_of_oldColumn_self {renameTracking : Bool} {t : Table} {col : Column} {object : String}
    {r : Option (Column × Bool)} (h : (t.columns.map (·.name)).Nodup) (hcol : col ∈ t.columns)
    (hr : Comparison.oldColumn renameTracking t col object = .ok r) : r = some (col, false) := by
  have hfind : t.column? col.name = some col := find?_eq_some_of_nodup h hcol
  simp only [Comparison.oldColumn, hfind] at hr
  split at hr
  · exact (Except.ok.inj hr).symm
  · split at hr
    · exact (Except.ok.inj hr).symm
    · split at hr
      · exact (Except.ok.inj hr).symm
      · simp at hr

theorem oldColumn_self {renameTracking : Bool} {t : Table} {col : Column} {object : String}
    (h : (t.columns.map (·.name)).Nodup) (hcol : col ∈ t.columns)
    (hmarker : renameTracking = true → col.MarkerLeadsOutside t) :
    Comparison.oldColumn renameTracking t col object = .ok (some (col, false)) := by
  have hfind : t.column? col.name = some col := find?_eq_some_of_nodup h hcol
  simp only [Comparison.oldColumn, hfind]
  split
  · rfl
  next name hname =>
    split
    · rfl
    next hne =>
      have htracking : renameTracking = true ∧ col.oldName = some name := by
        cases renameTracking with
        | true => exact ⟨rfl, hname⟩
        | false => cases hname
      have hnone := hmarker htracking.1 name htracking.2 (by simpa using hne)
      rw [hnone]
      rfl

theorem alterColumn_self (c : Comparison) (address object type : String) (col : Column) :
    c.alterColumn address object col type col type = .ok {} := by
  have hnullable : c.alterNullable address col col = {} := by
    rw [Comparison.alterNullable]
    cases col.nullable <;> rfl
  simp only [Comparison.alterColumn, Comparison.alterType, Sql.TypeName.same_refl, if_true,
    Comparison.alterDefault, Sql.sameExpression?_refl, hnullable, beq_self_eq_true]
  rfl

/-- Of the columns that continue themselves none is dropped. -/
theorem removeColumn_self {address : String} {columns : List Column} {col : Column}
    (hcol : col ∈ columns) :
    Comparison.removeColumn address (columns.map fun c => (c.name, c.name, false)) col = [] := by
  have hfind : (columns.map fun c => (c.name, c.name, false)).find?
      (fun p => p.2.2 && p.1 == col.name) = none := by
    rw [List.find?_eq_none]
    intro p hp
    obtain ⟨_, _, rfl⟩ := List.mem_map.1 hp
    simp
  have hany : (columns.map fun c => (c.name, c.name, false)).any (·.1 == col.name) = true :=
    List.any_eq_true.2 ⟨_, List.mem_map_of_mem hcol, by simp⟩
  rw [Comparison.removeColumn, hfind]
  simp only [hany, if_true]

/-! ### Privileges -/

/-- The keys of a list are in ascending order. -/
def SortedKeys {α : Type} (xs : List (String × α)) : Prop :=
  (xs.map (·.1)).Pairwise (· < ·)

section Privileges

variable {α : Type} {key : String} {f : Option α → α}

theorem mem_keys_updateKey {k : String} {xs : List (String × α)}
    (h : k ∈ (updateKey key f xs).map (·.1)) : k = key ∨ k ∈ xs.map (·.1) := by
  induction xs with
  | nil => simpa [updateKey] using h
  | cons x xs ih =>
    obtain ⟨k', v⟩ := x
    rw [updateKey] at h
    by_cases he : (key == k') = true
    · rw [if_pos he] at h
      exact .inr h
    · rw [if_neg he] at h
      by_cases hlt : key < k'
      · rw [if_pos hlt, List.map_cons, List.mem_cons] at h
        exact h
      · rw [if_neg hlt, List.map_cons, List.mem_cons] at h
        rw [List.map_cons, List.mem_cons]
        rcases h with h | h
        · exact .inr (.inl h)
        · exact (ih h).imp_right .inr

theorem sortedKeys_updateKey {xs : List (String × α)} (h : SortedKeys xs) :
    SortedKeys (updateKey key f xs) := by
  induction xs with
  | nil => exact List.pairwise_singleton _ _
  | cons x xs ih =>
    obtain ⟨k', v⟩ := x
    obtain ⟨hhead, htail⟩ := List.pairwise_cons.1 h
    rw [updateKey]
    by_cases he : (key == k') = true
    · rw [if_pos he]
      exact h
    · rw [if_neg he]
      by_cases hlt : key < k'
      · rw [if_pos hlt]
        refine List.pairwise_cons.2 ⟨fun k hk => ?_, h⟩
        rcases List.mem_cons.1 hk with rfl | hk
        · exact hlt
        · exact lt_trans hlt (hhead k hk)
      · rw [if_neg hlt]
        refine List.pairwise_cons.2 ⟨fun k hk => ?_, ih htail⟩
        rcases mem_keys_updateKey hk with rfl | hk
        · exact lt_of_le_of_ne (not_lt.1 hlt) fun hkey => he (beq_iff_eq.2 hkey.symm)
        · exact hhead k hk

/-- What holds of every value still does after one has been updated. -/
theorem forall_updateKey {P : α → Prop} (hnone : P (f none)) (hsome : ∀ v, P v → P (f (some v))) :
    ∀ {xs : List (String × α)}, (∀ p ∈ xs, P p.2) → ∀ p ∈ updateKey key f xs, P p.2 := by
  intro xs
  induction xs with
  | nil =>
    intro _ p hp
    rw [updateKey, List.mem_singleton] at hp
    rw [hp]
    exact hnone
  | cons x xs ih =>
    intro hall
    obtain ⟨k', v⟩ := x
    obtain ⟨hv, hxs⟩ := List.forall_mem_cons.1 hall
    rw [updateKey]
    by_cases he : (key == k') = true
    · rw [if_pos he]
      exact List.forall_mem_cons.2 ⟨hsome v hv, hxs⟩
    · rw [if_neg he]
      by_cases hlt : key < k'
      · rw [if_pos hlt]
        exact List.forall_mem_cons.2 ⟨hnone, hall⟩
      · rw [if_neg hlt]
        exact List.forall_mem_cons.2 ⟨hv, ih hxs⟩

theorem lookup_of_sortedKeys {xs : List (String × α)} (h : SortedKeys xs) {k : String} {v : α}
    (hm : (k, v) ∈ xs) : xs.lookup k = some v :=
  lookup_eq_some_of_nodup (h.imp fun hlt => ne_of_lt hlt) hm

end Privileges

theorem sortedKeys_addOperations (operations : List String) (option : Bool) :
    ∀ {ps : Privileges}, SortedKeys ps → SortedKeys (addOperations operations option ps) := by
  induction operations with
  | nil => exact fun h => h
  | cons op operations ih => exact fun h => ih (sortedKeys_updateKey h)

/-- Roles, and the operations of each, in ascending order. -/
def SortedRoles (roles : List (String × Privileges)) : Prop :=
  SortedKeys roles ∧ ∀ p ∈ roles, SortedKeys p.2

/-- The roles once one has been given what a grant declares. -/
def addToRole (g : Grant) (roles : List (String × Privileges)) (role : String) :
    List (String × Privileges) :=
  updateKey role (fun ps => addOperations g.operations g.withGrantOption (ps.getD [])) roles

/-- The roles once all that a grant names have been given what it declares. -/
def addGrant (roles : List (String × Privileges)) (g : Grant) : List (String × Privileges) :=
  g.roles.foldl (addToRole g) roles

theorem privilegesByRole_eq (grants : List Grant) :
    privilegesByRole grants = grants.foldl addGrant [] :=
  rfl

theorem sortedRoles_addToRole (g : Grant) {roles : List (String × Privileges)}
    (h : SortedRoles roles) (role : String) : SortedRoles (addToRole g roles role) := by
  refine ⟨sortedKeys_updateKey h.1, forall_updateKey ?_ (fun ps hps => ?_) h.2⟩
  · exact sortedKeys_addOperations _ _ List.Pairwise.nil
  · exact sortedKeys_addOperations _ _ hps

theorem sortedRoles_addGrant (g : Grant) {roles : List (String × Privileges)}
    (h : SortedRoles roles) : SortedRoles (addGrant roles g) := by
  unfold addGrant
  induction g.roles generalizing roles with
  | nil => exact h
  | cons role names ih => exact ih (sortedRoles_addToRole g h role)

theorem sortedRoles_foldl_addGrant (grants : List Grant) {roles : List (String × Privileges)}
    (h : SortedRoles roles) : SortedRoles (grants.foldl addGrant roles) := by
  induction grants generalizing roles with
  | nil => exact h
  | cons g grants ih => exact ih (sortedRoles_addGrant g h)

theorem sortedRoles_nil : SortedRoles [] :=
  ⟨List.Pairwise.nil, by simp⟩

theorem sortedRoles_privilegesByRole (grants : List Grant) :
    SortedRoles (privilegesByRole grants) :=
  sortedRoles_foldl_addGrant grants sortedRoles_nil

theorem lostOperations_self {ps : Privileges} (h : SortedKeys ps) : lostOperations ps ps = [] := by
  rw [lostOperations, List.map_eq_nil_iff, List.filter_eq_nil_iff]
  rintro ⟨op, option⟩ hp
  simp [lookup_of_sortedKeys h hp]

theorem gainedOperations_self {ps : Privileges} (h : SortedKeys ps) (option : Bool) :
    gainedOperations ps ps option = [] := by
  rw [gainedOperations, List.map_eq_nil_iff, List.filter_eq_nil_iff]
  rintro ⟨op, o⟩ hp
  simp only [lookup_of_sortedKeys h hp]
  cases o <;> cases option <;> decide

/-- **Grants amount to the same privileges as themselves**, whatever they are. -/
theorem privilegeOps_self (object : ObjectRef) (grants : List Grant) :
    privilegeOps object grants grants = [] := by
  obtain ⟨hroles, hps⟩ := sortedRoles_privilegesByRole grants
  have hof : ∀ p ∈ privilegesByRole grants,
      privilegesOf (privilegesByRole grants) p.1 = p.2 := by
    rintro ⟨role, ps⟩ hp
    rw [privilegesOf, lookup_of_sortedKeys hroles hp]
    rfl
  simp only [privilegeOps, List.append_eq_nil_iff, List.flatMap_eq_nil_iff]
  constructor
  · intro p hp
    rw [hof p hp, lostOperations_self (hps p hp)]
    rfl
  · intro p hp option _
    rw [hof p hp, gainedOperations_self (hps p hp)]
    rfl

theorem objectOps_self (c : Comparison) (object : ObjectRef) (owner : Option String)
    (grants : List Grant) : c.objectOps object owner grants (some (owner, grants)) = [] := by
  have howner : ownerOps object owner owner = [] := by
    cases owner with
    | none => rfl
    | some owner => simp [ownerOps]
  simp [Comparison.objectOps, howner, privilegeOps_self]

/-! ### Views -/

/-- The views of a definition, each with what tells it apart: its schema, its name, and its query up to
white space and the semicolons at the end. -/
def Database.signedViews (db : Database) : List ((String × String × String) × View) :=
  db.schemas.flatMap fun s => s.views.map fun v => ((s.name, v.name,
    Sql.normalizeSpace (String.ofList
      (Text.dropEndWhile (· == ';') (Text.stripWhile Text.isBlank v.query.toList)))), v)

/-- The names of the views of a definition, each with its schema. -/
def Database.viewKeys (db : Database) : List (String × String) :=
  db.views.map fun (s, v) => (s, v.name)

/-- In a coherent definition views are told apart by their names. -/
theorem Database.Coherent.nodup_viewKeys {db : Database} (h : db.Coherent) :
    db.viewKeys.Nodup := by
  rw [viewKeys, views, List.map_flatMap, List.nodup_flatMap]
  constructor
  · intro s hs
    rw [List.map_map]
    refine List.Nodup.of_map (·.2) ?_
    rw [List.map_map]
    exact (h.schemas s hs).viewNames
  · refine (List.pairwise_map.1 h.schemaNames).imp fun {a b} hne => ?_
    intro key ha hb
    obtain ⟨x, hx, rfl⟩ := List.mem_map.1 ha
    obtain ⟨y, hy, he⟩ := List.mem_map.1 hb
    obtain ⟨_, _, rfl⟩ := List.mem_map.1 hx
    obtain ⟨_, _, rfl⟩ := List.mem_map.1 hy
    exact hne (Prod.mk.inj he).1.symm

theorem Database.Coherent.nodup_signedViews {db : Database} (h : db.Coherent) :
    (db.signedViews.map (·.1)).Nodup := by
  have hkeys : (db.signedViews.map (·.1)).map (fun key => (key.1, key.2.1)) = db.viewKeys := by
    simp [signedViews, viewKeys, views, List.map_flatMap, Function.comp_def]
  exact List.Nodup.of_map _ (hkeys ▸ h.nodup_viewKeys)

theorem Database.exists_mem_signedViews {db : Database} {schema : String} {v : View}
    (h : (schema, v) ∈ db.views) : ∃ query, ((schema, v.name, query), v) ∈ db.signedViews := by
  obtain ⟨s, hs, hentry⟩ := List.mem_flatMap.1 h
  obtain ⟨_, hv, he⟩ := List.mem_map.1 hentry
  cases he
  exact ⟨_, List.mem_flatMap.2 ⟨s, hs, List.mem_map_of_mem hv⟩⟩

theorem Database.mem_views_of_mem_signedViews {db : Database} {schema name query : String}
    {v : View} (h : ((schema, name, query), v) ∈ db.signedViews) :
    (schema, v) ∈ db.views ∧ v.name = name := by
  obtain ⟨s, hs, hentry⟩ := List.mem_flatMap.1 h
  obtain ⟨_, hv, he⟩ := List.mem_map.1 hentry
  cases he
  exact ⟨List.mem_flatMap.2 ⟨s, hs, List.mem_map_of_mem hv⟩, rfl⟩

theorem viewsDiffer_eq_false_iff {old new : Database} : viewsDiffer old new = false ↔
    old.signedViews.length = new.signedViews.length ∧ ∀ key v, (key, v) ∈ new.signedViews →
      ∃ o, old.signedViews.lookup key = some o ∧ o.owner = v.owner ∧ o.grants = v.grants ∧
        Sql.sameExpression? o.description v.description = true := by
  have heq : viewsDiffer old new = (old.signedViews.length != new.signedViews.length ||
      new.signedViews.any fun entry => (old.signedViews.lookup entry.1).elim true fun o =>
        o.owner != entry.2.owner || o.grants != entry.2.grants ||
          !Sql.sameExpression? o.description entry.2.description) := by
    unfold viewsDiffer Database.signedViews
    dsimp only
    congr 2
    funext entry
    split
    next hnone => rw [hnone, Option.elim_none]
    next o ho => rw [ho, Option.elim_some]
  rw [heq, Bool.or_eq_false_iff, bne_eq_false_iff_eq, List.any_eq_false]
  refine and_congr Iff.rfl ?_
  constructor
  · intro h key v hm
    have hview := h (key, v) hm
    cases ho : old.signedViews.lookup key with
    | none => simp [ho] at hview
    | some o =>
      simp only [ho, Option.elim_some, Bool.or_eq_true, bne_iff_ne, Bool.not_eq_true', not_or,
        Decidable.not_not, Bool.not_eq_false] at hview
      exact ⟨o, rfl, hview.1.1, hview.1.2, hview.2⟩
  · rintro h ⟨key, v⟩ hm
    obtain ⟨o, ho, howner, hgrants, hdescription⟩ := h key v hm
    simp [ho, howner, hgrants, hdescription]

/-- **The views of a coherent definition do not differ from themselves.** -/
theorem viewsDiffer_self {db : Database} (h : db.Coherent) : viewsDiffer db db = false := by
  refine viewsDiffer_eq_false_iff.2 ⟨rfl, fun key v hv => ?_⟩
  exact ⟨v, lookup_eq_some_of_nodup h.nodup_signedViews hv, rfl, rfl, by simp⟩

end SchemaPlan
