import Mathlib.Data.List.Nodup
import SchemaPlan.Model.Lookup

/-!
# Walks along the ancestors of a table

A table leads to its parent, the parent to its own, and so on (`ancestor?`).  In a definition that has
not been checked the parents may be missing, or lead back to where they came from.

Two walks go that way.  `findFrom` looks for a column and stops at the first table that declares it;
`allColumns` goes as far as it can, to list what it finds from the other end.  Both go through
`ancestryFrom`, and what that meets is what there is up to the first table met twice
(`getElem?_ancestryFrom`).  Behind that table there is nothing new, so it is no loss that neither walk
goes further: the first table to declare a column is always met (`findColumn?_eq_some_iff`).  The
other walk lists the last one instead (`mem_allColumns`), so both know the same names.
-/

namespace SchemaPlan

/-- What comes first is what nothing comes before. -/
theorem findSome?_eq_some_iff_getElem? {α β : Type} {f : α → Option β} {xs : List α} {b : β} :
    xs.findSome? f = some b ↔ ∃ (n : Nat) (x : α), xs[n]? = some x ∧ f x = some b ∧
      ∀ m < n, ∀ y, xs[m]? = some y → f y = none := by
  constructor
  · intro h
    obtain ⟨before, x, after, rfl, hx, hbefore⟩ := List.findSome?_eq_some_iff.1 h
    refine ⟨before.length, x, ?_, hx, fun m hm y hy => ?_⟩
    · rw [List.getElem?_append_right (Nat.le_refl _), Nat.sub_self, List.getElem?_cons_zero]
    · rw [List.getElem?_append_left hm] at hy
      exact hbefore y (List.mem_of_getElem? hy)
  · rintro ⟨n, x, hn, hx, hbefore⟩
    obtain ⟨hlt, rfl⟩ := List.getElem?_eq_some_iff.1 hn
    refine List.findSome?_eq_some_iff.2 ⟨xs.take n, xs[n], xs.drop (n + 1), ?_, hx, ?_⟩
    · rw [List.getElem_cons_drop, List.take_append_drop]
    · intro y hy
      obtain ⟨m, hm, rfl⟩ := List.mem_take_iff_getElem.1 hy
      exact hbefore m (by omega) _ (List.getElem?_eq_getElem _)

namespace Database

/-! ### Ancestors -/

/-- The key of what a table inherits from, whether there is such a table or not. -/
def parentKey? (db : Database) (key : TableKey) : Option TableKey :=
  (db.table? key.1 key.2).bind fun (s, t) => t.inherits.map (·.resolve s.name)

/-- The key that so many steps from parent to parent lead to. -/
def ancestorKey? (db : Database) (key : TableKey) : Nat → Option TableKey
  | 0 => some key
  | n + 1 => (db.parentKey? key).bind (db.ancestorKey? · n)

/-- The table that so many steps from parent to parent lead to; the table itself is no step away. -/
def ancestor? (db : Database) (key : TableKey) (n : Nat) : Option (Schema × Table) :=
  (db.ancestorKey? key n).bind fun k => db.table? k.1 k.2

/-- So many steps lead to a table, and fewer do not lead there. -/
def MetAt (db : Database) (key : TableKey) (n : Nat) (item : Schema × Table) : Prop :=
  db.ancestor? key n = some item ∧ ∀ m < n, db.ancestorKey? key m ≠ db.ancestorKey? key n

/-- The steps up to this one lead to different tables, none of which has been visited. -/
def Unseen (db : Database) (visited : List TableKey) (key : TableKey) (n : Nat) : Prop :=
  ∀ m ≤ n, ∀ k, db.ancestorKey? key m = some k →
    k ∉ visited ∧ ∀ i < m, db.ancestorKey? key i ≠ some k

variable {db : Database} {visited : List TableKey} {key parent : TableKey} {item : Schema × Table}
  {n : Nat}

theorem parentKey?_of_found {s : Schema} {t : Table} (hfound : db.table? key.1 key.2 = some (s, t)) :
    db.parentKey? key = t.inherits.map (·.resolve s.name) := by
  rw [parentKey?, hfound]
  rfl

theorem ancestor?_zero : db.ancestor? key 0 = db.table? key.1 key.2 :=
  rfl

theorem ancestorKey?_succ (hparent : db.parentKey? key = some parent) (n : Nat) :
    db.ancestorKey? key (n + 1) = db.ancestorKey? parent n := by
  rw [ancestorKey?, hparent, Option.bind_some]

theorem ancestor?_succ (hparent : db.parentKey? key = some parent) (n : Nat) :
    db.ancestor? key (n + 1) = db.ancestor? parent n := by
  rw [ancestor?, ancestorKey?_succ hparent, ancestor?]

theorem ancestor?_succ_of_none (hparent : db.parentKey? key = none) (n : Nat) :
    db.ancestor? key (n + 1) = none := by
  rw [ancestor?, ancestorKey?, hparent, Option.bind_none, Option.bind_none]

/-- Where two steps lead to the same table, so do those after them. -/
theorem ancestorKey?_add {m n : Nat} (h : db.ancestorKey? key m = db.ancestorKey? key n) (d : Nat) :
    db.ancestorKey? key (m + d) = db.ancestorKey? key (n + d) := by
  have hadd : ∀ (a : Nat) (key : TableKey), db.ancestorKey? key (a + d) =
      (db.ancestorKey? key a).bind (db.ancestorKey? · d) := by
    intro a
    induction a with
    | zero =>
      intro key
      rw [Nat.zero_add, ancestorKey?, Option.bind_some]
    | succ a ih =>
      intro key
      rw [Nat.succ_add, ancestorKey?, ancestorKey?, Option.bind_assoc]
      congr 1
      funext parent
      exact ih parent
  rw [hadd, hadd, h]

/-- If a table is none of those before it, these are all different: a table that came up twice among
them would come up again in the place of the last. -/
theorem ancestorKey?_ne (h : ∀ m < n, db.ancestorKey? key m ≠ db.ancestorKey? key n) {i m : Nat}
    (him : i < m) (hm : m ≤ n) : db.ancestorKey? key i ≠ db.ancestorKey? key m := by
  intro he
  have hagain := ancestorKey?_add he (n - m)
  rw [Nat.add_sub_cancel' hm] at hagain
  exact h (i + (n - m)) (by omega) hagain

/-! ### What the walk meets -/

theorem unseen_zero : db.Unseen visited key 0 ↔ key ∉ visited := by
  constructor
  · intro h
    exact (h 0 (Nat.le_refl 0) key rfl).1
  · intro h m hm k hk
    obtain rfl := Nat.le_zero.1 hm
    cases hk
    exact ⟨h, fun i hi => absurd hi (Nat.not_lt_zero i)⟩

/-- A step to the parent is a step with one more table visited. -/
theorem unseen_succ (hparent : db.parentKey? key = some parent) :
    db.Unseen visited key (n + 1) ↔ key ∉ visited ∧ db.Unseen (key :: visited) parent n := by
  constructor
  · intro h
    refine ⟨unseen_zero.1 fun m hm => h m (Nat.le_trans hm (Nat.zero_le _)), ?_⟩
    intro m hm k hk
    rw [← ancestorKey?_succ hparent] at hk
    obtain ⟨hvisited, hfew⟩ := h (m + 1) (Nat.succ_le_succ hm) k hk
    have hne : k ≠ key := by
      rintro rfl
      exact hfew 0 (Nat.succ_pos m) rfl
    refine ⟨List.not_mem_cons_of_ne_of_not_mem hne hvisited, fun i hi => ?_⟩
    rw [← ancestorKey?_succ hparent]
    exact hfew (i + 1) (Nat.succ_lt_succ hi)
  · rintro ⟨hkey, h⟩ m hm k hk
    cases m with
    | zero =>
      cases hk
      exact ⟨hkey, fun i hi => absurd hi (Nat.not_lt_zero i)⟩
    | succ m =>
      rw [ancestorKey?_succ hparent] at hk
      obtain ⟨hvisited, hfew⟩ := h m (Nat.le_of_succ_le_succ hm) k hk
      obtain ⟨hne, hvisited⟩ := List.ne_and_not_mem_of_not_mem_cons hvisited
      refine ⟨hvisited, fun i hi => ?_⟩
      cases i with
      | zero =>
        intro he
        exact hne (Option.some.inj he).symm
      | succ i =>
        rw [ancestorKey?_succ hparent]
        exact hfew i (Nat.lt_of_succ_lt_succ hi)

theorem ancestryFrom_of_mem (hv : key ∈ visited) : db.ancestryFrom visited key = [] := by
  rw [ancestryFrom, dif_pos hv]

theorem ancestryFrom_of_none (hnone : db.table? key.1 key.2 = none) :
    db.ancestryFrom visited key = [] := by
  rw [ancestryFrom]
  split
  next => rfl
  next =>
    split
    next => rfl
    next hfound => cases hnone.symm.trans hfound

theorem ancestryFrom_of_found {s : Schema} {t : Table} (hv : key ∉ visited)
    (hfound : db.table? key.1 key.2 = some (s, t)) :
    db.ancestryFrom visited key = (s, t) :: match t.inherits with
      | none => []
      | some parent => db.ancestryFrom (key :: visited) (parent.resolve s.name) := by
  rw [ancestryFrom, dif_neg hv]
  split
  next hnone => cases hnone.symm.trans hfound
  next hfound' =>
    cases hfound'.symm.trans hfound
    rfl

/-- **The walk meets the ancestors one after another**, as far as no table comes up again. -/
theorem getElem?_ancestryFrom (visited : List TableKey) (key : TableKey) (n : Nat) :
    (db.ancestryFrom visited key)[n]? = some item ↔
      db.ancestor? key n = some item ∧ db.Unseen visited key n := by
  fun_induction ancestryFrom db visited key generalizing n with
  | case1 visited key hv =>
    constructor
    · intro h
      cases h
    · rintro ⟨-, h⟩
      exact absurd hv (h 0 (Nat.zero_le n) key rfl).1
  | case2 visited key hv hnone =>
    constructor
    · intro h
      cases h
    · rintro ⟨h, -⟩
      have hparent : db.parentKey? key = none := by rw [parentKey?, hnone, Option.bind_none]
      cases n with
      | zero => cases hnone.symm.trans h
      | succ n => cases (ancestor?_succ_of_none hparent n).symm.trans h
  | case3 visited key hv s t hfound ih =>
    cases n with
    | zero =>
      rw [List.getElem?_cons_zero, ancestor?_zero, hfound, unseen_zero]
      exact (and_iff_left hv).symm
    | succ n =>
      rw [List.getElem?_cons_succ]
      cases hinherits : t.inherits with
      | none =>
        have hparent : db.parentKey? key = none := by
          rw [parentKey?_of_found hfound, hinherits, Option.map_none]
        rw [ancestor?_succ_of_none hparent]
        constructor
        · intro h
          cases h
        · rintro ⟨h, -⟩
          cases h
      | some target =>
        have hparent : db.parentKey? key = some (target.resolve s.name) := by
          rw [parentKey?_of_found hfound, hinherits, Option.map_some]
        rw [ancestor?_succ hparent, unseen_succ hparent, and_iff_right hv]
        exact ih target n

/-- The tables of the walk are those that are met. -/
theorem getElem?_ancestry {schema table : String} :
    (db.ancestry schema table)[n]? = some item ↔ db.MetAt (schema, table) n item := by
  rw [ancestry, getElem?_ancestryFrom, MetAt]
  refine and_congr_right fun hitem => ?_
  obtain ⟨k, hk, -⟩ := Option.bind_eq_some_iff.1 hitem
  constructor
  · intro h m hm
    rw [hk]
    exact (h n (Nat.le_refl n) k hk).2 m hm
  · intro h m hm k' hk'
    refine ⟨List.not_mem_nil, fun i hi => ?_⟩
    rw [← hk']
    exact ancestorKey?_ne h hi hm

/-- What is met on the way to a table is met for the first time as well. -/
theorem MetAt.of_lt {other : Schema × Table} (h : db.MetAt key n item) {m : Nat} (hm : m < n)
    (hother : db.ancestor? key m = some other) : db.MetAt key m other :=
  ⟨hother, fun _ hi => ancestorKey?_ne h.2 hi (Nat.le_of_lt hm)⟩

/-- The walk meets no more tables than there are. -/
theorem length_ancestryFrom_le (visited : List TableKey) (key : TableKey) :
    (db.ancestryFrom visited key).length ≤ unvisited db.tableKeys visited := by
  fun_induction ancestryFrom db visited key with
  | case1 => exact Nat.zero_le _
  | case2 => exact Nat.zero_le _
  | case3 visited key hv s t hfound ih =>
    have hlt : unvisited db.tableKeys (key :: visited) < unvisited db.tableKeys visited :=
      unvisited_cons_lt (mem_tableKeys_of_table? hfound) hv
    rw [List.length_cons]
    cases t.inherits with
    | none => exact Nat.succ_le_of_lt (Nat.lt_of_le_of_lt (Nat.zero_le _) hlt)
    | some target => exact Nat.succ_le_of_lt (Nat.lt_of_le_of_lt (ih target) hlt)

/-! ### The nearest declaration -/

/-- The walk that looks for a column and stops where it is declared. -/
def findFrom (db : Database) (column : String) (visited : List TableKey) (key : TableKey) :
    Option (Schema × Table × Column) :=
  if _hv : key ∈ visited then none
  else match _h : db.table? key.1 key.2 with
    | none => none
    | some (s, t) =>
      match t.column? column with
      | some c => some (s, t, c)
      | none =>
        match t.inherits with
        | none => none
        | some parent => findFrom db column (key :: visited) (parent.resolve s.name)
termination_by unvisited db.tableKeys visited
decreasing_by exact unvisited_cons_lt (mem_tableKeys_of_table? _h) _hv

/-- What the walk that stops finds is the first that there is on the whole one. -/
theorem findFrom_eq (column : String) (visited : List TableKey) (key : TableKey) :
    db.findFrom column visited key = (db.ancestryFrom visited key).findSome? fun (s, t) =>
      (t.column? column).map fun c => (s, t, c) := by
  fun_induction findFrom db column visited key with
  | case1 visited key hv => rw [ancestryFrom_of_mem hv, List.findSome?_nil]
  | case2 visited key hv hnone => rw [ancestryFrom_of_none hnone, List.findSome?_nil]
  | case3 visited key hv s t hfound c hc =>
    rw [ancestryFrom_of_found hv hfound, List.findSome?_cons]
    dsimp only
    rw [hc, Option.map_some]
  | case4 visited key hv s t hfound hc hinherits =>
    rw [ancestryFrom_of_found hv hfound, List.findSome?_cons, hinherits]
    dsimp only
    rw [hc, Option.map_none]
    rfl
  | case5 visited key hv s t hfound hc parent hinherits ih =>
    rw [ancestryFrom_of_found hv hfound, List.findSome?_cons, hinherits]
    dsimp only
    rw [hc, Option.map_none]
    exact ih

theorem findColumn?_eq_findFrom (schema table column : String) :
    db.findColumn? schema table column = db.findFrom column [] (schema, table) :=
  (findFrom_eq column [] (schema, table)).symm

/-- **A column is found on the nearest table that declares it**, however the chain of ancestors goes
on behind that table. -/
theorem findColumn?_eq_some_iff {schema table column : String} {s : Schema} {t : Table}
    {c : Column} : db.findColumn? schema table column = some (s, t, c) ↔
      ∃ n, db.ancestor? (schema, table) n = some (s, t) ∧ t.column? column = some c ∧
        ∀ m < n, ∀ item, db.ancestor? (schema, table) m = some item →
          item.2.column? column = none := by
  rw [findColumn?, findSome?_eq_some_iff_getElem?]
  constructor
  · rintro ⟨n, ⟨s', t'⟩, hn, hc, hbefore⟩
    obtain ⟨c', hc, he⟩ := Option.map_eq_some_iff.1 hc
    cases he
    have hmet := getElem?_ancestry.1 hn
    refine ⟨n, hmet.1, hc, fun m hm item hitem => ?_⟩
    have hmet' : db.MetAt (schema, table) m item := hmet.of_lt hm hitem
    exact Option.map_eq_none_iff.1 (hbefore m hm item (getElem?_ancestry.2 hmet'))
  · rintro ⟨n, hn, hc, hbefore⟩
    -- The nearest table that declares the column is met for the first time.
    have hmet : db.MetAt (schema, table) n (s, t) := by
      refine ⟨hn, fun m hm he => ?_⟩
      have hagain : db.ancestor? (schema, table) m = some (s, t) := by
        rw [ancestor?, he]
        exact hn
      cases (hbefore m hm (s, t) hagain).symm.trans hc
    refine ⟨n, (s, t), getElem?_ancestry.2 hmet, Option.map_eq_some_iff.2 ⟨c, hc, rfl⟩, ?_⟩
    intro m hm item hitem
    exact Option.map_eq_none_iff.2 (hbefore m hm item (getElem?_ancestry.1 hitem).1)

/-! ### All declarations -/

theorem addColumns_nil (columns : List Column) : addColumns columns [] = columns :=
  rfl

theorem addColumns_cons (columns : List Column) (d : Column) (others : List Column) :
    addColumns columns (d :: others) =
      addColumns (if columns.any (·.name == d.name) then columns else columns ++ [d]) others :=
  rfl

theorem addColumns_append (columns others more : List Column) :
    addColumns columns (others ++ more) = addColumns (addColumns columns others) more :=
  List.foldl_append

/-- Columns are added behind those that are there, in their order. -/
theorem exists_addColumns_eq_append (columns others : List Column) :
    ∃ added, addColumns columns others = columns ++ added ∧ added.Sublist others := by
  induction others generalizing columns with
  | nil => exact ⟨[], (List.append_nil columns).symm, List.Sublist.refl []⟩
  | cons d others ih =>
    rw [addColumns_cons]
    split
    · obtain ⟨added, he, hsub⟩ := ih columns
      exact ⟨added, he, hsub.cons d⟩
    · obtain ⟨added, he, hsub⟩ := ih (columns ++ [d])
      exact ⟨d :: added, by rw [he, List.append_assoc, List.singleton_append], hsub.cons_cons d⟩

theorem nodup_addColumns {columns : List Column} (h : (columns.map (·.name)).Nodup)
    (others : List Column) : ((addColumns columns others).map (·.name)).Nodup := by
  induction others generalizing columns with
  | nil => exact h
  | cons d others ih =>
    rw [addColumns_cons]
    split
    · exact ih h
    next hnew =>
      refine ih ?_
      rw [List.map_append, List.map_singleton, ← List.concat_eq_append, List.nodup_concat]
      refine ⟨?_, h⟩
      intro hd
      obtain ⟨e, he, hname⟩ := List.mem_map.1 hd
      exact hnew (List.any_eq_true.2 ⟨e, he, beq_iff_eq.2 hname⟩)

/-- Of the others, the first with a name that is not there is added. -/
theorem mem_addColumns {columns others : List Column} {c : Column} :
    c ∈ addColumns columns others ↔ c ∈ columns ∨
      (∀ e ∈ columns, e.name ≠ c.name) ∧ others.find? (·.name == c.name) = some c := by
  induction others generalizing columns with
  | nil => simp [addColumns_nil]
  | cons d others ih =>
    rw [addColumns_cons, ih, List.find?_cons]
    by_cases hdc : d.name = c.name
    · rw [beq_iff_eq.2 hdc]
      dsimp only
      split
      next hany =>
        obtain ⟨e, he, hed⟩ := List.any_eq_true.1 hany
        have hold : ¬∀ e ∈ columns, e.name ≠ c.name := fun hnew =>
          hnew e he ((beq_iff_eq.1 hed).trans hdc)
        simp only [hold, false_and, or_false]
      next hany =>
        have hnew : ∀ e ∈ columns, e.name ≠ c.name := fun e he hec =>
          hany (List.any_eq_true.2 ⟨e, he, beq_iff_eq.2 (hec.trans hdc.symm)⟩)
        have hd : ¬∀ e ∈ columns ++ [d], e.name ≠ c.name := fun h =>
          h d (List.mem_append_right _ (List.mem_singleton.2 rfl)) hdc
        simp only [hd, false_and, or_false]
        rw [List.mem_append, List.mem_singleton, and_iff_right hnew, Option.some.injEq, eq_comm]
    · rw [beq_false_of_ne hdc]
      dsimp only
      have hne : c ≠ d := fun he => hdc (congrArg Column.name he).symm
      split
      · rfl
      · rw [List.forall_mem_append, List.forall_mem_singleton, and_iff_left hdc, List.mem_append,
          List.mem_singleton, or_iff_left hne]

/-- The columns of tables, each name where it comes first. -/
def columnsAlong (items : List (Schema × Table)) : List Column :=
  addColumns [] (items.flatMap (·.2.columns))

theorem columnsAlong_append (items more : List (Schema × Table)) :
    columnsAlong (items ++ more) = addColumns (columnsAlong items) (more.flatMap (·.2.columns)) := by
  rw [columnsAlong, List.flatMap_append, addColumns_append, columnsAlong]

theorem allColumns_eq (schema table : String) :
    db.allColumns schema table = columnsAlong (db.ancestry schema table).reverse :=
  List.foldl_flatMap.symm

theorem mem_columnsAlong {items : List (Schema × Table)} {c : Column} :
    c ∈ columnsAlong items ↔ items.findSome? (·.2.column? c.name) = some c := by
  rw [columnsAlong, mem_addColumns, List.find?_flatMap, or_iff_right List.not_mem_nil]
  exact and_iff_right fun e he => absurd he List.not_mem_nil

theorem mem_map_name_columnsAlong {items : List (Schema × Table)} {column : String} :
    column ∈ (columnsAlong items).map (·.name) ↔ ∃ item ∈ items, (item.2.column? column).isSome := by
  constructor
  · intro h
    obtain ⟨c, hc, rfl⟩ := List.mem_map.1 h
    obtain ⟨item, hitem, hfound⟩ := List.exists_of_findSome?_eq_some (mem_columnsAlong.1 hc)
    exact ⟨item, hitem, Option.isSome_of_eq_some hfound⟩
  · intro h
    have hsome : (items.findSome? (·.2.column? column)).isSome := List.findSome?_isSome_iff.2 h
    obtain ⟨c, hc⟩ := Option.isSome_iff_exists.1 hsome
    obtain ⟨item, -, hfound⟩ := List.exists_of_findSome?_eq_some hc
    have hname : c.name = column := by simpa using List.find?_some hfound
    subst hname
    exact List.mem_map_of_mem (mem_columnsAlong.2 hc)

/-- **A column is listed as the farthest table that is met declares it.** -/
theorem mem_allColumns {schema table : String} {c : Column} : c ∈ db.allColumns schema table ↔
    ∃ n item, db.MetAt (schema, table) n item ∧ item.2.column? c.name = some c ∧
      ∀ m > n, ∀ other, db.MetAt (schema, table) m other → other.2.column? c.name = none := by
  rw [allColumns_eq, mem_columnsAlong, findSome?_eq_some_iff_getElem?]
  simp only [← getElem?_ancestry]
  generalize db.ancestry schema table = items
  constructor
  · rintro ⟨n, item, hn, hc, hbefore⟩
    obtain ⟨hlt, -⟩ := List.getElem?_eq_some_iff.1 hn
    rw [List.length_reverse] at hlt
    rw [List.getElem?_reverse hlt] at hn
    refine ⟨items.length - 1 - n, item, hn, hc, fun m hm other hother => ?_⟩
    obtain ⟨hlt', -⟩ := List.getElem?_eq_some_iff.1 hother
    refine hbefore (items.length - 1 - m) (by omega) other ?_
    rw [List.getElem?_reverse (by omega), ← hother]
    congr 1
    omega
  · rintro ⟨n, item, hn, hc, hbehind⟩
    obtain ⟨hlt, -⟩ := List.getElem?_eq_some_iff.1 hn
    refine ⟨items.length - 1 - n, item, ?_, hc, fun m hm other hother => ?_⟩
    · rw [List.getElem?_reverse (by omega), ← hn]
      congr 1
      omega
    · rw [List.getElem?_reverse (by omega)] at hother
      exact hbehind (items.length - 1 - m) (by omega) other hother

/-- **Inherited columns are listed in front of the table's own.** -/
theorem exists_inherited_append (schema table : String) :
    ∃ inherited own, db.allColumns schema table = inherited ++ own ∧
      (∀ name, name ∈ inherited.map (·.name) ↔ ∃ n item, 0 < n ∧
        db.MetAt (schema, table) n item ∧ (item.2.column? name).isSome) ∧
      ∀ s t, db.table? schema table = some (s, t) → own.Sublist t.columns := by
  have hsplit : (db.ancestry schema table).reverse =
      (db.ancestry schema table).tail.reverse ++ (db.ancestry schema table).head?.toList := by
    cases db.ancestry schema table with
    | nil => rfl
    | cons first rest => exact List.reverse_cons
  obtain ⟨own, hown, hsub⟩ := exists_addColumns_eq_append
    (columnsAlong (db.ancestry schema table).tail.reverse)
    ((db.ancestry schema table).head?.toList.flatMap (·.2.columns))
  rw [allColumns_eq, hsplit, columnsAlong_append]
  refine ⟨_, own, hown, fun name => ?_, fun s t hfound => ?_⟩
  · rw [mem_map_name_columnsAlong]
    constructor
    · rintro ⟨item, hitem, hname⟩
      obtain ⟨n, hn⟩ := List.mem_iff_getElem?.1 (List.mem_reverse.1 hitem)
      rw [List.getElem?_tail] at hn
      exact ⟨n + 1, item, Nat.succ_pos n, getElem?_ancestry.1 hn, hname⟩
    · rintro ⟨n, item, hpos, hmet, hname⟩
      refine ⟨item, List.mem_reverse.2 (List.mem_iff_getElem?.2 ⟨n - 1, ?_⟩), hname⟩
      rw [List.getElem?_tail, Nat.sub_add_cancel hpos]
      exact getElem?_ancestry.2 hmet
  · have hfirst : db.MetAt (schema, table) 0 (s, t) :=
      ⟨hfound, fun m hm => absurd hm (Nat.not_lt_zero m)⟩
    rw [List.head?_eq_getElem?, getElem?_ancestry.2 hfirst] at hsub
    simpa using hsub

/-! ### Both walks -/

/-- What the two walks from a table have in common. -/
structure WalksAgree (db : Database) (schema table : String) : Prop where
  /-- They meet no more tables than there are. -/
  bounded : (db.ancestry schema table).length ≤ db.tableKeys.length
  stops : ∀ column, db.findColumn? schema table column = db.findFrom column [] (schema, table)
  nodup : ((db.allColumns schema table).map (·.name)).Nodup
  listed_iff_found : ∀ column, column ∈ (db.allColumns schema table).map (·.name) ↔
    (db.findColumn? schema table column).isSome
  /-- A column is found on the nearest table of the chain that declares it. -/
  nearest : ∀ column s t c, db.findColumn? schema table column = some (s, t, c) ↔
    ∃ n, db.ancestor? (schema, table) n = some (s, t) ∧ t.column? column = some c ∧
      ∀ m < n, ∀ item, db.ancestor? (schema, table) m = some item → item.2.column? column = none
  /-- A column is listed as the farthest table that is met declares it. -/
  farthest : ∀ c, c ∈ db.allColumns schema table ↔
    ∃ n item, db.MetAt (schema, table) n item ∧ item.2.column? c.name = some c ∧
      ∀ m > n, ∀ other, db.MetAt (schema, table) m other → other.2.column? c.name = none
  inherited_first : ∃ inherited own, db.allColumns schema table = inherited ++ own ∧
    (∀ name, name ∈ inherited.map (·.name) ↔ ∃ n item, 0 < n ∧
      db.MetAt (schema, table) n item ∧ (item.2.column? name).isSome) ∧
    ∀ s t, db.table? schema table = some (s, t) → own.Sublist t.columns

theorem length_ancestry_le (schema table : String) :
    (db.ancestry schema table).length ≤ db.tableKeys.length :=
  Nat.le_trans (length_ancestryFrom_le [] (schema, table)) (List.length_filter_le _ _)

theorem nodup_allColumns (schema table : String) :
    ((db.allColumns schema table).map (·.name)).Nodup := by
  rw [allColumns_eq]
  have hnil : (([] : List Column).map (·.name)).Nodup := List.nodup_nil
  exact nodup_addColumns hnil _

/-- A name is listed if there is something to be found by it. -/
theorem mem_map_name_allColumns {schema table column : String} :
    column ∈ (db.allColumns schema table).map (·.name) ↔
      (db.findColumn? schema table column).isSome := by
  rw [allColumns_eq, mem_map_name_columnsAlong, findColumn?, List.findSome?_isSome_iff]
  refine exists_congr fun item => and_congr List.mem_reverse ?_
  exact Option.isSome_map.symm ▸ Iff.rfl

/-- **The two walks agree on every definition**, whether it has been checked or not. -/
theorem walks_agree (db : Database) (schema table : String) : db.WalksAgree schema table where
  bounded := length_ancestry_le schema table
  stops := findColumn?_eq_findFrom schema table
  nodup := nodup_allColumns schema table
  listed_iff_found _ := mem_map_name_allColumns
  nearest _ _ _ _ := findColumn?_eq_some_iff
  farthest _ := mem_allColumns
  inherited_first := exists_inherited_append schema table

-- Two tables that inherit from each other: each has the columns of both, the other's in front.
example :
    let db : Database := { schemas := [{
      name := "loop"
      tables := [
        { name := "hen"
          inherits := some { table := "egg" }
          columns := [{ name := "name" }, { name := "age" }] },
        { name := "egg", inherits := some { table := "hen" }, columns := [{ name := "age" }] }] }] }
    (db.allColumns "loop" "hen").map (·.name) = ["age", "name"] ∧
      (db.allColumns "loop" "egg").map (·.name) = ["name", "age"] := by
  decide +kernel

end Database

end SchemaPlan
