import Mathlib.Data.List.Perm.Basic
import SchemaPlan.Proofs.Layout

/-!
# Constraints that are dropped and added

The pass that drops constraints and the two that add them decide by themselves what to do with a
table.  This file says what each decides, table by table: `tableDrops_of_gone` and `carriedDrops` for
the drops, `pending_of_created` and `pending_of_carried` for the additions.

Both rest on what is known of the constraints of one table.  All of them belong to it
(`owner_of_mem`), no two have one name, and one at most is a primary key (`Constraints`).

An operation names the table it changes by an address, and the address of a table tells which table
it is as long as no schema has a dot in its name (`Sql.qualified_inj`).
-/

namespace SchemaPlan

/-! ### Addresses -/

theorem Text.cutAt?_append {c : Char} {front back : List Char} (h : c ∉ front) :
    Text.cutAt? c (front ++ c :: back) = some (front, back) := by
  induction front with
  | nil => simp [Text.cutAt?]
  | cons d front ih =>
    rw [List.mem_cons, not_or] at h
    simp [Text.cutAt?, Ne.symm h.1, ih h.2]

/-- An address reads back as the schema and the name it was put together from. -/
theorem Sql.splitQualified_qualified {schema name : String} (h : '.' ∉ schema.toList) :
    splitQualified (qualified schema name) = (schema, name) := by
  have hcut : Text.cutAt? '.' (qualified schema name).toList = some (schema.toList, name.toList) := by
    have he : (qualified schema name).toList = schema.toList ++ '.' :: name.toList := by
      simp [qualified]
    rw [he, Text.cutAt?_append h]
  rw [splitQualified, hcut]
  simp

theorem Sql.qualified_inj {schema schema' name name' : String} (h : '.' ∉ schema.toList)
    (h' : '.' ∉ schema'.toList) :
    qualified schema name = qualified schema' name' ↔ (schema, name) = (schema', name') := by
  constructor
  · intro he
    rw [← splitQualified_qualified h, he, splitQualified_qualified h']
  · intro he
    rw [(Prod.mk.inj he).1, (Prod.mk.inj he).2]

/-- Inside a schema an address tells which object it is. -/
theorem Sql.name_of_qualified_eq {schema a b : String}
    (h : qualified schema a = qualified schema b) : a = b := by
  have h := congrArg String.toList h
  simp only [qualified, String.toList_append] at h
  exact String.toList_inj.1 (List.append_cancel_left h)

/-- The address under which a table is known. -/
abbrev Database.address (item : Schema × Table) : String :=
  Sql.qualified item.1.name item.2.name

/-- No schema has a dot in its name. -/
def Database.DotFree (db : Database) : Prop :=
  ∀ s ∈ db.schemas, '.' ∉ s.name.toList

instance (db : Database) : Decidable db.DotFree :=
  inferInstanceAs (Decidable (∀ s ∈ db.schemas, '.' ∉ s.name.toList))

/-- In a definition without dots in the names of schemas an address tells which table it is. -/
theorem Database.Coherent.address_inj {db : Database} (h : db.Coherent) (hdots : db.DotFree)
    {a b : Schema × Table} (ha : a ∈ db.tables) (hb : b ∈ db.tables) :
    Sql.qualified a.1.name a.2.name = Sql.qualified b.1.name b.2.name ↔ a = b := by
  have hsa := hdots a.1 (Database.mem_tables.1 ha).1
  have hsb := hdots b.1 (Database.mem_tables.1 hb).1
  rw [Sql.qualified_inj hsa hsb]
  constructor
  · exact h.eq_of_key_eq ha hb
  · rintro rfl
    rfl

/-! ### The constraints of one table -/

/-- The table a constraint belongs to. -/
abbrev Constraint.owner (k : Constraint) : TableKey :=
  (k.schema, k.table)

theorem Constraint.same_iff {a b : Constraint} :
    a.same b = true ↔ a.name = b.name ∧ a.kind = b.kind ∧
      Sql.normalizeExpression a.definition = Sql.normalizeExpression b.definition ∧
      a.onDelete = b.onDelete ∧ a.onUpdate = b.onUpdate := by
  simp [Constraint.same, Sql.sameExpression, and_assoc]

@[simp] theorem Constraint.same_refl (k : Constraint) : k.same k = true :=
  Constraint.same_iff.2 ⟨rfl, rfl, rfl, rfl, rfl⟩

theorem Constraint.same_symm {a b : Constraint} (h : a.same b = true) : b.same a = true := by
  obtain ⟨hname, hkind, hdefinition, hdelete, hupdate⟩ := Constraint.same_iff.1 h
  exact Constraint.same_iff.2
    ⟨hname.symm, hkind.symm, hdefinition.symm, hdelete.symm, hupdate.symm⟩

/-- These are the constraints of a table: named apart, with one primary key at most. -/
structure Constraints (style : Sql.Style) (item : Schema × Table) (ks : List Constraint) : Prop where
  eq_gather : ks = gatherConstraints style item.1.name item.2
  nodup : (ks.map (·.name)).Nodup
  keys : (ks.filter (·.kind == .primaryKey)).length ≤ 1

theorem tableConstraints_eq_ok_iff {style : Sql.Style} {item : Schema × Table}
    {ks : List Constraint} :
    tableConstraints style item.1.name item.2 = .ok ks ↔ Constraints style item ks := by
  have hnames : ∀ {e : Constraint → SchemaError} {xs : List Constraint} {u : Unit},
      checkEach xs (fun before k => ensure (!before.any (·.name == k.name)) (e k)) = .ok u ↔
        (xs.map (·.name)).Nodup := by
    intro e xs u
    rw [checkEach_eq_ok, nodup_map_iff_split]
    refine forall₃_congr fun front x back => ?_
    rw [ensure_eq_ok, not_any_eq_true_iff, List.map_reverse, List.mem_reverse]
  simp only [tableConstraints, bind_eq_ok, hnames, ensure_eq_ok, pure_eq_ok, exists_const]
  constructor
  · rintro ⟨hnodup, hkeys, rfl⟩
    exact ⟨rfl, hnodup, of_decide_eq_true hkeys⟩
  · rintro ⟨rfl, hnodup, hkeys⟩
    exact ⟨hnodup, decide_eq_true hkeys, rfl⟩

namespace Constraints

variable {style : Sql.Style} {item : Schema × Table} {ks : List Constraint}

theorem unique (h : Constraints style item ks) {ks' : List Constraint}
    (h' : Constraints style item ks') : ks = ks' := by
  rw [h.eq_gather, h'.eq_gather]

theorem owner_of_mem (h : Constraints style item ks) {k : Constraint} (hk : k ∈ ks) :
    k.owner = itemKey item := by
  rw [h.eq_gather, gatherConstraints, List.mem_append, List.mem_append] at hk
  rcases hk with (hk | hk) | hk
  · rw [Option.mem_toList, primaryKeyConstraint?] at hk
    split at hk
    · simp at hk
    · rw [← Option.some.inj hk]
  · obtain ⟨col, _, hcol⟩ := List.mem_filterMap.1 hk
    obtain ⟨fk, _, rfl⟩ := Option.map_eq_some_iff.1 hcol
    rfl
  · obtain ⟨d, _, rfl⟩ := List.mem_map.1 hk
    rfl

theorem eq_of_name_eq (h : Constraints style item ks) {a b : Constraint} (ha : a ∈ ks)
    (hb : b ∈ ks) (he : a.name = b.name) : a = b :=
  List.inj_on_of_nodup_map h.nodup ha hb he

theorem find?_name (h : Constraints style item ks) {k : Constraint} (hk : k ∈ ks) :
    ks.find? (·.name == k.name) = some k :=
  find?_eq_some_of_nodup h.nodup hk

/-- The primary key is the only constraint of its kind. -/
theorem find?_primaryKey (h : Constraints style item ks) {k : Constraint} (hk : k ∈ ks)
    (hkind : k.kind = .primaryKey) : ks.find? (·.kind == .primaryKey) = some k := by
  have hmem : k ∈ ks.filter (·.kind == .primaryKey) := List.mem_filter.2 ⟨hk, by simp [hkind]⟩
  obtain ⟨k', he⟩ := List.length_eq_one_iff.1
    (Nat.le_antisymm h.keys (List.length_pos_of_mem hmem))
  rw [← List.head?_filter, he, List.head?_cons]
  rw [he, List.mem_singleton] at hmem
  rw [hmem]

/-- The columns of a foreign key, where it names any, are columns of the table. -/
theorem exists_column (h : Constraints style item ks) {k : Constraint} (hk : k ∈ ks)
    (hkind : k.kind = .foreignKey) {column : String} (hcolumn : column ∈ k.columns) :
    ∃ col ∈ item.2.columns, col.name = column := by
  rw [h.eq_gather, gatherConstraints, List.mem_append, List.mem_append] at hk
  rcases hk with (hk | hk) | hk
  · rw [Option.mem_toList, primaryKeyConstraint?] at hk
    split at hk
    · simp at hk
    · rw [← Option.some.inj hk] at hkind
      cases hkind
  · obtain ⟨col, hcol, he⟩ := List.mem_filterMap.1 hk
    obtain ⟨fk, _, rfl⟩ := Option.map_eq_some_iff.1 he
    rw [List.mem_singleton] at hcolumn
    exact ⟨col, hcol, hcolumn.symm⟩
  · obtain ⟨d, _, rfl⟩ := List.mem_map.1 hk
    simp [declaredConstraint] at hcolumn

end Constraints

/-! ### Drops of one table -/

/-- Deciding for each element whether it stays keeps a part of the list. -/
theorem exists_filter_of_mapM {ε α : Type} {f : α → Except ε (List α)} {g : α → Except ε Bool}
    {xs : List α} {yss : List (List α)} (h : xs.mapM f = .ok yss)
    (hf : ∀ x ys, f x = .ok ys → ∃ b, g x = .ok b ∧ ys = if b then [x] else []) :
    ∃ p : α → Bool, (∀ x ∈ xs, g x = .ok (p x)) ∧ yss.flatten = xs.filter p := by
  refine ⟨fun x => ((g x).toOption).getD false, ?_, ?_⟩
  · intro x hx
    obtain ⟨ys, _, hys⟩ := exists_mem_of_mapM h hx
    obtain ⟨b, hb, _⟩ := hf x ys hys
    simp [hb, Except.toOption]
  · have h' := mapM_eq_ok.1 h
    clear h
    induction h' with
    | nil => rfl
    | @cons x ys xs yss hx _ ih =>
      obtain ⟨b, hb, rfl⟩ := hf x ys hx
      rw [List.flatten_cons, ih]
      cases b <;> simp [hb, Except.toOption]

namespace Comparison

section Congruence

variable {c c' : Comparison} (hnew : c'.new = c.new)

include hnew

theorem someColumnChanges_congr : c'.someColumnChanges = c.someColumnChanges := by
  have hcolumn : c'.columnChanges = c.columnChanges := by
    funext old oldTable schema table k column
    rw [columnChanges, columnChanges, hnew]
  funext old oldTable schema table k columns
  induction columns with
  | nil => rfl
  | cons column columns ih => rw [someColumnChanges, someColumnChanges, hcolumn, ih]

/-- What is dropped of a table depends on the new version and on how tables are paired off. -/
theorem tableDrops_congr (hpairs : c'.pairs = c.pairs) (hstyle : c'.style = c.style) :
    c'.tableDrops = c.tableDrops := by
  have hversion : c'.newVersion? = c.newVersion? := by
    funext schema table
    rw [newVersion?, newVersion?, hpairs, hnew]
  have hendangered : c'.isEndangered = c.isEndangered := by
    funext old oldTable schema table k
    rw [isEndangered, isEndangered, targetChanges, targetChanges, someColumnChanges_congr hnew,
      hversion, hstyle]
  funext old item
  rw [tableDrops, tableDrops, hversion, hstyle, hendangered]

end Congruence

/-- Of a table that goes away exactly the foreign keys are dropped. -/
theorem tableDrops_of_gone {c : Comparison} {old : Database} {item : Schema × Table}
    {ds : List Constraint} (hgone : c.newVersion? item.1.name item.2.name = none)
    (h : c.tableDrops old item = .ok ds) :
    ∃ before, Constraints c.style item before ∧ ds = before.filter (·.kind == .foreignKey) := by
  simp only [tableDrops, hgone, bind_eq_ok, pure_eq_ok, tableConstraints_eq_ok_iff] at h
  obtain ⟨before, hbefore, rfl⟩ := h
  exact ⟨before, hbefore, rfl⟩

/-- Which constraints of a table that another continues are dropped: those that change, or are left
behind by a table that moves, or are endangered. -/
structure CarriedDrops (c : Comparison) (old : Database) (prev item : Schema × Table)
    (before after ds : List Constraint) : Prop where
  sublist : ds.Sublist before
  of_dropped : ∀ k ∈ ds, itemKey prev ≠ itemKey item ∨ (∀ k' ∈ after, k'.same k = false) ∨
    c.isEndangered old prev.2 item.1.name item.2 k = .ok true
  of_kept : ∀ k ∈ before, k ∉ ds → itemKey prev = itemKey item ∧ (∃ k' ∈ after, k'.same k = true) ∧
    c.isEndangered old prev.2 item.1.name item.2 k = .ok false

/-- Of a table that another continues the constraints are dropped that change, are left behind or are
endangered. -/
theorem carriedDrops {c : Comparison} {old : Database} {prev item : Schema × Table}
    {ds : List Constraint} (hv : c.newVersion? prev.1.name prev.2.name = some item)
    (h : c.tableDrops old prev = .ok ds) :
    ∃ before after, Constraints c.style prev before ∧ Constraints c.style item after ∧
      c.CarriedDrops old prev item before after ds := by
  simp only [tableDrops, hv, bind_eq_ok, pure_eq_ok, tableConstraints_eq_ok_iff] at h
  obtain ⟨before, hbefore, after, hafter, yss, hyss, rfl⟩ := h
  refine ⟨before, after, hbefore, hafter, ?_⟩
  obtain ⟨p, hp, he⟩ := exists_filter_of_mapM (g := fun k =>
    if (prev.1.name != item.1.name || prev.2.name != item.2.name) || !after.any (·.same k) then
      .ok true
    else c.isEndangered old prev.2 item.1.name item.2 k) hyss <| by
      intro k ys hys
      split at hys
      next hc =>
        rw [if_pos hc, ← pure_eq_ok.1 hys]
        exact ⟨true, rfl, rfl⟩
      next hc =>
        rw [if_neg hc]
        obtain ⟨b, hb, hys⟩ := bind_eq_ok.1 hys
        exact ⟨b, hb, (pure_eq_ok.1 hys).symm⟩
  have hmoved : (prev.1.name != item.1.name || prev.2.name != item.2.name) = true ↔
      itemKey prev ≠ itemKey item := by
    simp [itemKey, Prod.ext_iff, -not_and, not_and_or]
  have hany : ∀ k, (!after.any (·.same k)) = true ↔ ∀ k' ∈ after, k'.same k = false := by
    simp
  rw [he]
  refine ⟨List.filter_sublist, ?_, ?_⟩
  · intro k hk
    obtain ⟨hk, hpk⟩ := List.mem_filter.1 hk
    have hg := hp k hk
    split at hg
    next hc =>
      rcases Bool.or_eq_true_iff.1 hc with hc | hc
      · exact .inl (hmoved.1 hc)
      · exact .inr (.inl ((hany k).1 hc))
    next => exact .inr (.inr (by rw [hg, hpk]))
  · intro k hk hkept
    have hpk : p k = false := by
      by_contra hne
      exact hkept (List.mem_filter.2 ⟨hk, by simpa using hne⟩)
    have hg := hp k hk
    rw [hpk] at hg
    split at hg
    · simp at hg
    next hc =>
      rw [Bool.or_eq_true_iff, not_or, hmoved, hany] at hc
      refine ⟨not_not.1 hc.1, ?_, hg⟩
      simpa using hc.2

/-! ### Additions of one table -/

/-- To a table that continues none all its constraints are added. -/
theorem pending_of_created {c : Comparison} {drops : List Constraint} {item : Schema × Table}
    {pending : List Constraint} (hnew : c.oldVersion? item.1.name item.2.name = none)
    (h : c.pendingConstraints drops item.1.name item.2 = .ok pending) :
    Constraints c.style item pending := by
  simp only [pendingConstraints, hnew, bind_eq_ok, pure_eq_ok, tableConstraints_eq_ok_iff] at h
  obtain ⟨after, hafter, rfl⟩ := h
  exact hafter

/-- To a table that continues another those constraints are added that are not there or change or
were dropped. -/
theorem pending_of_carried {c : Comparison} {drops : List Constraint} {prev item : Schema × Table}
    {pending : List Constraint} (hv : c.oldVersion? item.1.name item.2.name = some prev)
    (h : c.pendingConstraints drops item.1.name item.2 = .ok pending) :
    ∃ before after, Constraints c.style prev before ∧ Constraints c.style item after ∧
      pending.Sublist after ∧ ∀ k ∈ after, k ∈ pending ↔ ∀ k' ∈ before, k'.name = k.name →
        k'.same k = true → ∃ d ∈ drops, d.owner = itemKey prev ∧ d.name = k.name := by
  simp only [pendingConstraints, hv, bind_eq_ok, pure_eq_ok, tableConstraints_eq_ok_iff] at h
  obtain ⟨after, hafter, before, hbefore, rfl⟩ := h
  refine ⟨before, after, hbefore, hafter, List.filter_sublist, fun k hk => ?_⟩
  rw [List.mem_filter, and_iff_right hk]
  cases hf : before.find? (·.name == k.name) with
  | none =>
    refine iff_of_true rfl fun k' hk' hname => ?_
    exact absurd (List.find?_eq_none.1 hf k' hk') (by simp [hname])
  | some k' =>
    have hk' := List.mem_of_find?_eq_some hf
    have hname : k'.name = k.name := by simpa using List.find?_some hf
    have hdropped : (drops.any fun d => d.schema == prev.1.name && d.table == prev.2.name &&
        d.name == k'.name) = true ↔ ∃ d ∈ drops, d.owner = itemKey prev ∧ d.name = k.name := by
      simp [List.any_eq_true, hname, Prod.ext_iff]
    simp only [Bool.or_eq_true, Bool.not_eq_true', hdropped]
    constructor
    · intro hor b hb hbname hsame
      rw [hbefore.eq_of_name_eq hb hk' (hbname.trans hname.symm)] at hsame
      rcases hor with hdiffers | hd
      · rw [hsame] at hdiffers
        cases hdiffers
      · exact hd
    · intro hall
      by_cases hsame : k'.same k = true
      · exact .inr (hall k' hk' hname hsame)
      · exact .inl (Bool.eq_false_iff.2 hsame)

/-! ### All tables together -/

/-- What is dropped of a table are constraints of it. -/
theorem exists_sublist_of_tableDrops {c : Comparison} {old : Database} {item : Schema × Table}
    {ds : List Constraint} (h : c.tableDrops old item = .ok ds) :
    ∃ before, Constraints c.style item before ∧ ds.Sublist before := by
  cases hv : c.newVersion? item.1.name item.2.name with
  | none =>
    obtain ⟨before, hbefore, rfl⟩ := tableDrops_of_gone hv h
    exact ⟨before, hbefore, List.filter_sublist⟩
  | some new =>
    obtain ⟨before, _, hbefore, _, hds⟩ := carriedDrops hv h
    exact ⟨before, hbefore, hds.sublist⟩

theorem owner_of_tableDrops {c : Comparison} {old : Database} {item : Schema × Table}
    {ds : List Constraint} (h : c.tableDrops old item = .ok ds) {k : Constraint} (hk : k ∈ ds) :
    k.owner = itemKey item := by
  obtain ⟨before, hbefore, hsub⟩ := exists_sublist_of_tableDrops h
  exact hbefore.owner_of_mem (hsub.subset hk)

theorem owner_of_pending {c : Comparison} {drops : List Constraint} {item : Schema × Table}
    {pending : List Constraint} (h : c.pendingConstraints drops item.1.name item.2 = .ok pending)
    {k : Constraint} (hk : k ∈ pending) : k.owner = itemKey item := by
  cases hv : c.oldVersion? item.1.name item.2.name with
  | none => exact (pending_of_created hv h).owner_of_mem hk
  | some prev =>
    obtain ⟨_, after, _, hafter, hsub, _⟩ := pending_of_carried hv h
    exact hafter.owner_of_mem (hsub.subset hk)

/-- The drops of each table make up all drops: the tables in order, and primary keys last. -/
structure DropsByTable (c : Comparison) (old : Database) (drops : List Constraint)
    (dropsOf : Schema × Table → List Constraint) : Prop where
  of_table : ∀ item ∈ old.tables, c.tableDrops old item = .ok (dropsOf item)
  eq_parts : drops = (c.oldTablesReversed.flatMap dropsOf).filter (·.kind != .primaryKey) ++
    (c.oldTablesReversed.flatMap dropsOf).filter (·.kind == .primaryKey)

/-- **What is dropped, table by table.** -/
theorem exists_dropsByTable {c : Comparison} (h : c.WellMade) {old : Database}
    (hold : c.old = some old) {drops : List Constraint} (hdrops : c.constraintDrops = .ok drops) :
    ∃ dropsOf, c.DropsByTable old drops dropsOf := by
  simp only [constraintDrops, hold, bind_eq_ok, pure_eq_ok] at hdrops
  obtain ⟨dss, hdss, rfl⟩ := hdrops
  have hall : ∀ item ∈ old.tables, ∃ ds, c.tableDrops old item = .ok ds := by
    intro item hm
    obtain ⟨ds, _, hds⟩ := exists_mem_of_mapM hdss ((h.mem_oldTablesReversed hold).2 hm)
    exact ⟨ds, hds⟩
  choose! dropsOf hof using hall
  refine ⟨dropsOf, hof, ?_⟩
  have he : dss = c.oldTablesReversed.map dropsOf := by
    refine eq_map_of_mapM hdss fun item hm ds hds => ?_
    rw [hof item ((h.mem_oldTablesReversed hold).1 hm)] at hds
    exact (Except.ok.inj hds).symm
  rw [he, List.flatMap_def]

namespace DropsByTable

variable {c : Comparison} {old : Database} {drops : List Constraint}
  {dropsOf : Schema × Table → List Constraint}

theorem perm (h : c.DropsByTable old drops dropsOf) :
    drops.Perm (c.oldTablesReversed.flatMap dropsOf) := by
  rw [h.eq_parts]
  refine List.perm_append_comm.trans ?_
  exact List.filter_append_perm _ _

theorem mem_iff (h : c.DropsByTable old drops dropsOf) (hc : c.WellMade) (hold : c.old = some old)
    {k : Constraint} : k ∈ drops ↔ ∃ item ∈ old.tables, k ∈ dropsOf item := by
  simp only [h.perm.mem_iff, List.mem_flatMap, hc.mem_oldTablesReversed hold]

/-- The constraints dropped that belong to a table are the drops of that table. -/
theorem mem_of_owner (h : c.DropsByTable old drops dropsOf) (hc : c.WellMade)
    (hold : c.old = some old) {item : Schema × Table} (hm : item ∈ old.tables) {k : Constraint} :
    k ∈ drops ∧ k.owner = itemKey item ↔ k ∈ dropsOf item := by
  rw [h.mem_iff hc hold]
  constructor
  · rintro ⟨⟨other, hother, hk⟩, howner⟩
    rw [owner_of_tableDrops (h.of_table other hother) hk] at howner
    rw [← (hc.old old hold).eq_of_key_eq hother hm howner]
    exact hk
  · intro hk
    exact ⟨⟨item, hm, hk⟩, owner_of_tableDrops (h.of_table item hm) hk⟩

end DropsByTable

/-- **What is added, table by table.** -/
theorem exists_pending {c : Comparison} {drops : List Constraint} {adds : List (List Op)}
    (hadds : c.newTables.mapM (fun item => c.addConstraints drops item.1.name item.2) = .ok adds) :
    ∃ pendingOf : Schema × Table → List Constraint, ∀ item ∈ c.newTables,
      c.pendingConstraints drops item.1.name item.2 = .ok (pendingOf item) := by
  have hall : ∀ item ∈ c.newTables, ∃ pending,
      c.pendingConstraints drops item.1.name item.2 = .ok pending := by
    intro item hm
    obtain ⟨_, _, hops⟩ := exists_mem_of_mapM hadds hm
    obtain ⟨pending, hpending, _⟩ := bind_eq_ok.1 hops
    exact ⟨pending, hpending⟩
  choose! pendingOf hof using hall
  exact ⟨pendingOf, hof⟩

end Comparison

end SchemaPlan
