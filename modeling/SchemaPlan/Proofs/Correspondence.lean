import Mathlib.Data.List.Flatten
import Mathlib.Data.List.Sigma
import SchemaPlan.Plan.Comparison
import SchemaPlan.Proofs.Coherence

/-!
# Comparisons that have been made

`Comparison.make` settles two things before a plan is drawn up: the orders in which tables are worked
on, and which table continues which.  This file says what is known about both once it has succeeded.

An accepted order lists every table of its version once (`checkOrder_eq_ok_iff`), so the tables
worked on are those of the version, each once (`mem_tablesIn`, `nodup_tablesIn`).

The pairs of a comparison are read off the rename markers table by table
(`foldlM_addPair_eq_ok_iff`), and no table of either version is paired twice.  Hence looking across
is the same in both directions: `oldVersion?_eq_some_iff_newVersion?` is the main statement.
-/

namespace SchemaPlan

/-! ### Orders -/

/-- The order lists no item twice and every table of the definition. -/
structure Covers (order : List OrderItem) (db : Database) : Prop where
  nodup : order.Nodup
  mem : ∀ item ∈ db.tables, OrderItem.ofKey (itemKey item) ∈ order

/-- **When an order is accepted**: it covers the definition and lists only what is found in either
version. -/
theorem checkOrder_eq_ok_iff {side : Side} {order : List OrderItem} {db : Database}
    {other : Option Database} {u : Unit} :
    checkOrder side order db other = .ok u ↔
      Covers order db ∧ ∀ item ∈ order, (item.isIn db || other.any item.isIn) = true := by
  have hnodup : order.Nodup ↔
      ∀ front x back, order = front ++ x :: back → x ∉ front := by
    have h : (order.map id).Nodup ↔ _ := nodup_map_iff_split
    simpa using h
  simp only [checkOrder, bind_eq_ok, checkEach_eq_ok, checkAll_eq_ok, ensure_eq_ok, exists_const]
  constructor
  · rintro ⟨hitems, htables⟩
    refine ⟨⟨hnodup.2 fun front x back he => ?_, fun item hm => ?_⟩, fun x hx => ?_⟩
    · simpa using (hitems front x back he).1
    · simpa using htables item hm
    · obtain ⟨front, back, he⟩ := List.append_of_mem hx
      exact (hitems front x back he).2
  · rintro ⟨hcovers, hknown⟩
    refine ⟨fun front x back he => ⟨?_, hknown x (by rw [he]; simp)⟩, fun item hm => ?_⟩
    · simpa using hnodup.1 hcovers.nodup front x back he
    · simpa using hcovers.mem item hm

theorem mem_naturalOrder {db : Database} {item : Schema × Table} (hm : item ∈ db.tables) :
    OrderItem.ofKey (itemKey item) ∈ db.naturalOrder := by
  obtain ⟨hs, ht⟩ := Database.mem_tables.1 hm
  refine List.mem_flatMap.2 ⟨item.1, hs, ?_⟩
  have hne : item.1.tables.isEmpty = false := by
    rw [List.isEmpty_eq_false_iff]
    exact List.ne_nil_of_mem ht
  rw [Database.schemaItems, hne, if_neg Bool.false_ne_true]
  exact List.mem_map.2 ⟨item.2, ht, rfl⟩

theorem schema_of_mem_schemaItems {s : Schema} {i : OrderItem} (h : i ∈ Database.schemaItems s) :
    i.schema = s.name := by
  unfold Database.schemaItems at h
  split at h
  · rw [List.mem_singleton.1 h]
  · obtain ⟨t, _, rfl⟩ := List.mem_map.1 h
    rfl

theorem nodup_schemaItems {s : Schema} (h : (s.tables.map (·.name)).Nodup) :
    (Database.schemaItems s).Nodup := by
  unfold Database.schemaItems
  split
  · exact List.nodup_singleton _
  · refine List.Nodup.of_map (fun i => i.table) ?_
    rw [List.map_map]
    have he : ((fun i : OrderItem => i.table) ∘ fun t : Table => ⟨s.name, some t.name⟩) =
        some ∘ fun t : Table => t.name := rfl
    rw [he, ← List.map_map]
    exact h.map (fun _ _ he => Option.some.inj he)

theorem nodup_naturalOrder {db : Database} (h : db.Coherent) : db.naturalOrder.Nodup := by
  rw [Database.naturalOrder, List.nodup_flatMap]
  refine ⟨fun s hs => nodup_schemaItems (h.schemas s hs).tableNames, ?_⟩
  refine (List.pairwise_map.1 h.schemaNames).imp fun {a b} hne => ?_
  intro i ha hb
  exact hne ((schema_of_mem_schemaItems ha).symm.trans (schema_of_mem_schemaItems hb))

theorem covers_of_chooseOrder {side : Side} {order : Option (List OrderItem)} {db : Database}
    {other : Option Database} {result : List OrderItem} (hdb : db.Coherent)
    (h : chooseOrder side order db other = .ok result) : Covers result db := by
  cases order with
  | none =>
    rw [← Except.ok.inj h]
    exact ⟨nodup_naturalOrder hdb, fun _ hm => mem_naturalOrder hm⟩
  | some order =>
    simp only [chooseOrder, bind_eq_ok, pure_eq_ok] at h
    obtain ⟨_, hcheck, rfl⟩ := h
    exact (checkOrder_eq_ok_iff.1 hcheck).1

/-! ### The tables an order lists -/

namespace Comparison

theorem mem_tablesIn {db : Database} (hdb : db.Coherent) {order : List OrderItem}
    {item : Schema × Table} :
    item ∈ tablesIn db order ↔ item ∈ db.tables ∧ OrderItem.ofKey (itemKey item) ∈ order := by
  simp only [tablesIn, List.mem_filterMap, Option.bind_eq_some_iff]
  constructor
  · rintro ⟨i, hi, table, htable, hfound⟩
    obtain ⟨hm, hs, ht⟩ := hdb.table?_eq_some_iff.1 hfound
    refine ⟨hm, ?_⟩
    have he : OrderItem.ofKey (itemKey item) = i := by
      cases i
      simp_all
    rw [he]
    exact hi
  · rintro ⟨hm, hi⟩
    exact ⟨_, hi, item.2.name, rfl, hdb.table?_of_mem hm⟩

theorem nodup_tablesIn {db : Database} (hdb : db.Coherent) {order : List OrderItem}
    (h : order.Nodup) : (tablesIn db order).Nodup := by
  refine h.filterMap fun i j item hi hj => ?_
  simp only [Option.mem_def, Option.bind_eq_some_iff] at hi hj
  obtain ⟨_, hti, hfi⟩ := hi
  obtain ⟨_, htj, hfj⟩ := hj
  obtain ⟨_, hsi, hni⟩ := hdb.table?_eq_some_iff.1 hfi
  obtain ⟨_, hsj, hnj⟩ := hdb.table?_eq_some_iff.1 hfj
  cases i
  cases j
  simp_all

end Comparison

/-! ### Pairs -/

/-- The pair that a table of the new version contributes. -/
def pairOf? (old : Database) (renameTracking : Bool) (item : Schema × Table) :
    Option (TableKey × TableKey) :=
  match continued old renameTracking item.1.name item.2 with
  | .ok (some key) => some (itemKey item, key)
  | _ => none

theorem pairOf?_eq_some_iff {old : Database} {renameTracking : Bool} {item : Schema × Table}
    {p : TableKey × TableKey} :
    pairOf? old renameTracking item = some p ↔
      itemKey item = p.1 ∧ continued old renameTracking item.1.name item.2 = .ok (some p.2) := by
  unfold pairOf?
  constructor
  · intro h
    split at h
    next key hkey =>
      cases h
      exact ⟨rfl, hkey⟩
    next => simp at h
  · rintro ⟨hkey, hc⟩
    rw [hc, hkey]

/-- What a table continues is a table of the previous version. -/
theorem isSome_of_continued {old : Database} {renameTracking : Bool} {schema : String} {t : Table}
    {key : TableKey} (h : continued old renameTracking schema t = .ok (some key)) :
    (old.table? key.1 key.2).isSome := by
  have hname : ∀ {k : TableKey}, (if (old.table? schema t.name).isSome then some (schema, t.name)
      else none) = some k → (old.table? k.1 k.2).isSome := by
    intro k hk
    split at hk
    · cases hk
      assumption
    · simp at hk
  simp only [continued] at h
  split at h
  · exact hname (Except.ok.inj h)
  · split at h
    next hfound =>
      split at h
      · simp at h
      · cases h
        simp only [Bool.and_eq_true] at hfound
        exact hfound.2
    next => exact hname (Except.ok.inj h)

/-- A table that was there before continues nothing but itself. -/
theorem continued_of_isSome {old : Database} {renameTracking : Bool} {schema : String} {t : Table}
    {r : Option TableKey} (hfound : (old.table? schema t.name).isSome)
    (h : continued old renameTracking schema t = .ok r) : r = some (schema, t.name) := by
  simp only [continued, hfound, if_true] at h
  split at h
  · exact (Except.ok.inj h).symm
  · split at h
    · simp at h
    · exact (Except.ok.inj h).symm

theorem addPair_eq_ok_iff {old : Database} {renameTracking : Bool}
    {pairs result : List (TableKey × TableKey)} {item : Schema × Table} :
    addPair old renameTracking pairs item = .ok result ↔
      (∃ r, continued old renameTracking item.1.name item.2 = .ok r) ∧
        result = (pairOf? old renameTracking item).toList ++ pairs ∧
        ∀ p ∈ pairOf? old renameTracking item, p.2 ∉ pairs.map (·.2) := by
  obtain ⟨s, t⟩ := item
  simp only [addPair, pairOf?]
  cases hc : continued old renameTracking s.name t with
  | error e => simp [bind, Except.bind]
  | ok r =>
    cases r with
    | none =>
      simp only [bind, Except.bind, pure, Except.pure, Except.ok.injEq, exists_eq',
        Option.toList_none, List.nil_append, Option.mem_def, reduceCtorEq, false_implies,
        implies_true, and_true, true_and]
      exact eq_comm
    | some key =>
      have hfind : pairs.find? (·.2 == key) = none ↔ key ∉ pairs.map (·.2) := by
        rw [List.find?_eq_none, List.mem_map]
        constructor
        · rintro h ⟨p, hp, rfl⟩
          exact h p hp (beq_self_eq_true _)
        · intro h p hp he
          exact h ⟨p, hp, eq_of_beq he⟩
      simp only [bind, Except.bind, pure, Except.pure, Except.ok.injEq, exists_eq', true_and,
        Option.toList_some, List.singleton_append, Option.mem_def, Option.some.injEq,
        forall_eq']
      rw [← hfind]
      cases pairs.find? (·.2 == key) with
      | some other => simp [throw, throwThe, MonadExceptOf.throw]
      | none =>
        simp only [Except.ok.injEq, and_true]
        exact eq_comm

/-- **The pairs of all tables**: one of each table that continues another, the latest first; no table
is continued twice. -/
theorem foldlM_addPair_eq_ok_iff {old : Database} {renameTracking : Bool} :
    ∀ {items : List (Schema × Table)} {pairs result : List (TableKey × TableKey)},
      (pairs.map (·.2)).Nodup →
      (items.foldlM (addPair old renameTracking) pairs = .ok result ↔
        (∀ item ∈ items, ∃ r, continued old renameTracking item.1.name item.2 = .ok r) ∧
          result = (items.filterMap (pairOf? old renameTracking)).reverse ++ pairs ∧
          (result.map (·.2)).Nodup) := by
  intro items
  induction items with
  | nil =>
    intro pairs result hnodup
    simp only [List.foldlM_nil, pure_eq_ok, List.not_mem_nil, false_implies, implies_true,
      List.filterMap_nil, List.reverse_nil, List.nil_append, true_and]
    constructor
    · rintro rfl
      exact ⟨rfl, hnodup⟩
    · rintro ⟨rfl, _⟩
      rfl
  | cons item items ih =>
    intro pairs result hnodup
    have hresult : ((item :: items).filterMap (pairOf? old renameTracking)).reverse ++ pairs =
        (items.filterMap (pairOf? old renameTracking)).reverse ++
          ((pairOf? old renameTracking item).toList ++ pairs) := by
      cases h : pairOf? old renameTracking item with
      | none => simp [h]
      | some p => simp [h]
    have hstep : ((pairOf? old renameTracking item).toList ++ pairs).map (·.2) =
        ((pairOf? old renameTracking item).map (·.2)).toList ++ pairs.map (·.2) := by
      cases pairOf? old renameTracking item <;> rfl
    have hnew : (((pairOf? old renameTracking item).toList ++ pairs).map (·.2)).Nodup ↔
        ∀ p ∈ pairOf? old renameTracking item, p.2 ∉ pairs.map (·.2) := by
      rw [hstep]
      cases pairOf? old renameTracking item with
      | none => simpa using hnodup
      | some p => simpa using fun _ => hnodup
    rw [List.foldlM_cons, bind_eq_ok, hresult]
    constructor
    · rintro ⟨middle, hmiddle, hrest⟩
      obtain ⟨hitem, rfl, hfresh⟩ := addPair_eq_ok_iff.1 hmiddle
      obtain ⟨hitems, hr, hnd⟩ := (ih (hnew.2 hfresh)).1 hrest
      exact ⟨List.forall_mem_cons.2 ⟨hitem, hitems⟩, hr, hnd⟩
    · rintro ⟨hall, hr, hnd⟩
      have hsub : (((pairOf? old renameTracking item).toList ++ pairs).map (·.2)).Nodup := by
        rw [hr, List.map_append] at hnd
        exact hnd.sublist (List.sublist_append_right _ _)
      refine ⟨_, addPair_eq_ok_iff.2 ⟨hall item (by simp), rfl, hnew.1 hsub⟩, ?_⟩
      exact (ih hsub).2 ⟨fun i hi => hall i (List.mem_cons_of_mem _ hi), hr, hnd⟩

namespace Comparison

/-! ### What is known of a comparison that has been made -/

/-- Coherent versions, orders that cover them, and pairs that name no table twice on either side. -/
structure WellMade (c : Comparison) : Prop where
  new : c.new.Coherent
  old : ∀ old, c.old = some old → old.Coherent
  newOrder : Covers c.newOrder c.new
  oldOrder : ∀ old, c.old = some old → Covers c.oldOrder old
  newKeys : (c.pairs.map (·.1)).Nodup
  oldKeys : (c.pairs.map (·.2)).Nodup
  paired : ∀ p ∈ c.pairs, ∃ old, c.old = some old ∧ (old.table? p.2.1 p.2.2).isSome ∧
    ∃ item ∈ c.new.tables, itemKey item = p.1

/-- The order in which tables of the previous version are worked on. -/
def chooseOldOrder (old : Option Database) (new : Database) (order : Option (List OrderItem)) :
    Except SchemaError (List OrderItem) :=
  match old with
  | some old => chooseOrder .old order old (some new)
  | none => .ok []

theorem make_eq_bind (old : Option Database) (new : Database)
    (newOrder oldOrder : Option (List OrderItem)) (style : Sql.Style) (options : Options) :
    make old new newOrder oldOrder style options = (do
      let newOrder ← chooseOrder .new newOrder new old
      let oldOrder ← chooseOldOrder old new oldOrder
      let pairs ← correspondence old new options.renameTracking
      return { old, new, newOrder, oldOrder, options, style, pairs }) := by
  cases old with
  | none => rfl
  | some old => rfl

/-- Of the options only the one for rename markers is looked at when versions are put side by side. -/
theorem make_map_options (f : Options → Options)
    (hf : ∀ o, (f o).renameTracking = o.renameTracking) (old : Option Database) (new : Database)
    (newOrder oldOrder : Option (List OrderItem)) (style : Sql.Style) (options : Options) :
    make old new newOrder oldOrder style (f options) =
      (make old new newOrder oldOrder style options).map fun c =>
        { c with options := f c.options } := by
  rw [make_eq_bind, make_eq_bind, hf]
  cases chooseOrder .new newOrder new old with
  | error e => rfl
  | ok newOrder =>
    cases chooseOldOrder old new oldOrder with
    | error e => rfl
    | ok oldOrder =>
      cases correspondence old new options.renameTracking with
      | error e => rfl
      | ok pairs => rfl

/-- **What `make` settles**, field by field. -/
theorem make_eq_ok_iff {old : Option Database} {new : Database}
    {newOrder oldOrder : Option (List OrderItem)} {style : Sql.Style} {options : Options}
    {c : Comparison} :
    make old new newOrder oldOrder style options = .ok c ↔
      chooseOrder .new newOrder new old = .ok c.newOrder ∧
        chooseOldOrder old new oldOrder = .ok c.oldOrder ∧
        correspondence old new options.renameTracking = .ok c.pairs ∧
        c.old = old ∧ c.new = new ∧ c.options = options ∧ c.style = style := by
  rw [make_eq_bind]
  simp only [bind_eq_ok, pure_eq_ok]
  constructor
  · rintro ⟨_, hnew, _, hold, _, hpairs, rfl⟩
    exact ⟨hnew, hold, hpairs, rfl, rfl, rfl, rfl⟩
  · rintro ⟨hnew, hold, hpairs, rfl, rfl, rfl, rfl⟩
    exact ⟨_, hnew, _, hold, _, hpairs, rfl⟩

/-- The pairs are those of the tables of the new version. -/
theorem correspondence_eq_ok_iff {old new : Database} {renameTracking : Bool}
    {pairs : List (TableKey × TableKey)} :
    correspondence (some old) new renameTracking = .ok pairs ↔
      (∀ item ∈ new.tables, ∃ r, continued old renameTracking item.1.name item.2 = .ok r) ∧
        pairs = (new.tables.filterMap (pairOf? old renameTracking)).reverse ∧
        (pairs.map (·.2)).Nodup := by
  have hnil : (([] : List (TableKey × TableKey)).map (·.2)).Nodup := List.nodup_nil
  show new.tables.foldlM (addPair old renameTracking) [] = .ok pairs ↔ _
  rw [foldlM_addPair_eq_ok_iff hnil, List.append_nil]

theorem nodup_itemKeys {db : Database} (hdb : db.Coherent) : (db.tables.map itemKey).Nodup := by
  rw [Database.tables, List.map_flatMap, List.nodup_flatMap]
  constructor
  · intro s hs
    rw [List.map_map]
    refine List.Nodup.of_map Prod.snd ?_
    rw [List.map_map]
    exact (hdb.schemas s hs).tableNames
  · refine (List.pairwise_map.1 hdb.schemaNames).imp fun {a b} hne => ?_
    intro key ha hb
    obtain ⟨x, hx, rfl⟩ := List.mem_map.1 ha
    obtain ⟨y, hy, he⟩ := List.mem_map.1 hb
    obtain ⟨_, _, rfl⟩ := List.mem_map.1 hx
    obtain ⟨_, _, rfl⟩ := List.mem_map.1 hy
    exact hne (Prod.mk.inj he).1.symm

theorem newKeys_sublist {old : Database} {renameTracking : Bool} :
    ∀ items : List (Schema × Table),
      ((items.filterMap (pairOf? old renameTracking)).map (·.1)).Sublist (items.map itemKey) := by
  intro items
  induction items with
  | nil => exact List.Sublist.refl _
  | cons item items ih =>
    cases h : pairOf? old renameTracking item with
    | none =>
      rw [List.filterMap_cons_none h, List.map_cons]
      exact ih.cons _
    | some p =>
      rw [List.filterMap_cons_some h, List.map_cons, List.map_cons, (pairOf?_eq_some_iff.1 h).1]
      exact ih.cons_cons _

/-- **A comparison of coherent versions is well made.** -/
theorem wellMade_of_make {old : Option Database} {new : Database}
    {newOrder oldOrder : Option (List OrderItem)} {style : Sql.Style} {options : Options}
    {c : Comparison} (hnew : new.Coherent) (hold : ∀ db, old = some db → db.Coherent)
    (h : make old new newOrder oldOrder style options = .ok c) : c.WellMade := by
  obtain ⟨hno, hoo, hpairs, rfl, rfl, -, -⟩ := make_eq_ok_iff.1 h
  have holdOrder : ∀ db, c.old = some db → Covers c.oldOrder db := by
    intro db hdb
    rw [hdb, chooseOldOrder] at hoo
    exact covers_of_chooseOrder (hold db hdb) hoo
  cases hc : c.old with
  | none =>
    rw [hc] at hpairs
    have he : c.pairs = [] := (Except.ok.inj hpairs).symm
    exact ⟨hnew, hold, covers_of_chooseOrder hnew hno, holdOrder, by simp [he], by simp [he],
      by simp [he]⟩
  | some db =>
    rw [hc] at hpairs
    obtain ⟨-, he, hnodup⟩ := correspondence_eq_ok_iff.1 hpairs
    refine ⟨hnew, hold, covers_of_chooseOrder hnew hno, holdOrder, ?_, hnodup, ?_⟩
    · rw [he, List.map_reverse, List.nodup_reverse]
      exact (nodup_itemKeys hnew).sublist (newKeys_sublist _)
    · intro p hp
      rw [he, List.mem_reverse, List.mem_filterMap] at hp
      obtain ⟨item, hm, hpair⟩ := hp
      obtain ⟨hkey, hcont⟩ := pairOf?_eq_some_iff.1 hpair
      exact ⟨db, hc, isSome_of_continued hcont, item, hm, hkey⟩

/-- **A table that both versions have continues itself**, whatever its marker says. -/
theorem mem_pairs_of_same_key {old new : Database} {newOrder oldOrder : Option (List OrderItem)}
    {style : Sql.Style} {options : Options} {c : Comparison}
    (h : make (some old) new newOrder oldOrder style options = .ok c) {item : Schema × Table}
    (hm : item ∈ new.tables) (hfound : (old.table? item.1.name item.2.name).isSome) :
    (itemKey item, itemKey item) ∈ c.pairs := by
  obtain ⟨-, -, hpairs, -⟩ := make_eq_ok_iff.1 h
  obtain ⟨hall, he, -⟩ := correspondence_eq_ok_iff.1 hpairs
  obtain ⟨r, hr⟩ := hall item hm
  rw [continued_of_isSome hfound hr] at hr
  rw [he, List.mem_reverse, List.mem_filterMap]
  exact ⟨item, hm, pairOf?_eq_some_iff.2 ⟨rfl, hr⟩⟩

/-! ### Looking across -/

namespace WellMade

variable {c : Comparison}

theorem oldVersion?_eq_some_iff (h : c.WellMade) {old : Database} (hold : c.old = some old)
    {schema name : String} {item : Schema × Table} :
    c.oldVersion? schema name = some item ↔
      ((schema, name), itemKey item) ∈ c.pairs ∧ item ∈ old.tables := by
  have hc := h.old old hold
  simp only [oldVersion?, hold, bind, Option.bind_some, Option.bind_eq_some_iff]
  constructor
  · rintro ⟨p, hfind, hfound⟩
    obtain ⟨hm, hs, ht⟩ := hc.table?_eq_some_iff.1 hfound
    have hkey : p.1 = (schema, name) := by simpa using List.find?_some hfind
    have he : p = ((schema, name), itemKey item) := by
      rw [← hkey, itemKey, hs, ht]
    exact ⟨he ▸ List.mem_of_find?_eq_some hfind, hm⟩
  · rintro ⟨hp, hm⟩
    exact ⟨_, find?_eq_some_of_nodup h.newKeys hp, hc.table?_of_mem hm⟩

theorem newVersion?_eq_some_iff (h : c.WellMade) {schema name : String} {item : Schema × Table} :
    c.newVersion? schema name = some item ↔
      (itemKey item, (schema, name)) ∈ c.pairs ∧ item ∈ c.new.tables := by
  simp only [newVersion?, bind, Option.bind_eq_some_iff]
  constructor
  · rintro ⟨p, hfind, hfound⟩
    obtain ⟨hm, hs, ht⟩ := h.new.table?_eq_some_iff.1 hfound
    have hkey : p.2 = (schema, name) := by simpa using List.find?_some hfind
    have he : p = (itemKey item, (schema, name)) := by
      rw [← hkey, itemKey, hs, ht]
    exact ⟨he ▸ List.mem_of_find?_eq_some hfind, hm⟩
  · rintro ⟨hp, hm⟩
    exact ⟨_, find?_eq_some_of_nodup h.oldKeys hp, h.new.table?_of_mem hm⟩

theorem mem_old_of_oldVersion? (h : c.WellMade) {old : Database} (hold : c.old = some old)
    {schema name : String} {item : Schema × Table} (hv : c.oldVersion? schema name = some item) :
    item ∈ old.tables :=
  ((h.oldVersion?_eq_some_iff hold).1 hv).2

/-- **Looking across goes both ways**: a table of the new version continues one of the previous
version exactly when that one is continued by it. -/
theorem oldVersion?_eq_some_iff_newVersion? (h : c.WellMade) {old : Database}
    (hold : c.old = some old) {new prev : Schema × Table} (hnew : new ∈ c.new.tables)
    (hprev : prev ∈ old.tables) :
    c.oldVersion? new.1.name new.2.name = some prev ↔
      c.newVersion? prev.1.name prev.2.name = some new := by
  rw [h.oldVersion?_eq_some_iff hold, h.newVersion?_eq_some_iff]
  constructor
  · rintro ⟨hpair, -⟩
    exact ⟨hpair, hnew⟩
  · rintro ⟨hpair, -⟩
    exact ⟨hpair, hprev⟩

theorem mem_newTables (h : c.WellMade) {item : Schema × Table} :
    item ∈ c.newTables ↔ item ∈ c.new.tables := by
  rw [newTables, mem_tablesIn h.new]
  exact ⟨And.left, fun hm => ⟨hm, h.newOrder.mem item hm⟩⟩

theorem nodup_newTables (h : c.WellMade) : c.newTables.Nodup :=
  nodup_tablesIn h.new h.newOrder.nodup

theorem mem_oldTablesReversed (h : c.WellMade) {old : Database} (hold : c.old = some old)
    {item : Schema × Table} : item ∈ c.oldTablesReversed ↔ item ∈ old.tables := by
  simp only [oldTablesReversed, hold]
  rw [mem_tablesIn (h.old old hold), List.mem_reverse]
  exact ⟨And.left, fun hm => ⟨hm, (h.oldOrder old hold).mem item hm⟩⟩

theorem nodup_oldTablesReversed (h : c.WellMade) {old : Database} (hold : c.old = some old) :
    c.oldTablesReversed.Nodup := by
  simp only [oldTablesReversed, hold]
  exact nodup_tablesIn (h.old old hold) (List.nodup_reverse.2 (h.oldOrder old hold).nodup)

end WellMade

/-- No table of the new version has the key of one that goes away: it would continue it. -/
theorem itemKey_ne_of_gone {old new : Database} {newOrder oldOrder : Option (List OrderItem)}
    {style : Sql.Style} {options : Options} {c : Comparison}
    (hmake : make (some old) new newOrder oldOrder style options = .ok c) (hc : c.WellMade)
    (hold : c.old = some old) {gone item : Schema × Table} (hgone : gone ∈ old.tables)
    (hv : c.newVersion? gone.1.name gone.2.name = none) (hm : item ∈ c.new.tables) :
    itemKey item ≠ itemKey gone := by
  intro he
  obtain ⟨-, -, -, -, rfl, -, -⟩ := make_eq_ok_iff.1 hmake
  obtain ⟨hs, ht⟩ := Prod.mk.inj he
  have hfound : (old.table? item.1.name item.2.name).isSome := by
    rw [hs, ht, (hc.old old hold).table?_of_mem hgone]
    rfl
  have hpair := mem_pairs_of_same_key hmake hm hfound
  rw [← hs, ← ht, hc.newVersion?_eq_some_iff.2 ⟨hpair, hm⟩] at hv
  cases hv

end Comparison

end SchemaPlan
