import SchemaPlan.Proofs.Arrangement

/-!
# The order by dependencies

`Database.dependencyOrder` settles the items of a definition as far as it can and arranges the rest.
What is known of orders in general is in `Arrangement.lean`; this file says what the places and the
relation are here, where `dependsOn` takes the part of the edges.  Where no table is declared twice,
the item at one place depends on the item at another exactly when the one place depends on the other
(`mem_placeDeps`), and so `dependencyOrder_sound` is read off.
-/

namespace SchemaPlan

/-! ### What is arranged last -/

/-- Arranging loses no place and repeats none. -/
theorem demote_perm (cap : Nat) (deps : Nat → List Nat) (queue : List (Nat × Nat)) :
    (demote cap deps queue).Perm (queue.map (·.1)) := by
  fun_induction demote cap deps queue with
  | case1 => exact .nil
  | case2 i n rest _ ih =>
    refine ih.trans ?_
    rw [List.map_append, List.map_cons, List.map_cons, List.map_nil]
    exact List.perm_append_singleton _ _
  | case3 i n rest _ ih => exact ih.cons i

/-! ### Places and items -/

namespace Database

/-- The places that the item at a place depends on. -/
abbrev placeDeps (db : Database) (i : Nat) : List Nat :=
  db.dependencyTable.getD i []

/-- The items at places of the order of declaration. -/
def itemsAt (db : Database) (places : List Nat) : List OrderItem :=
  places.filterMap (db.naturalOrder[·]?)

/-- One item depends on another. -/
abbrev Depends (db : Database) (a b : OrderItem) : Prop :=
  db.dependsOn a b = true

variable {db : Database}

theorem filterMap_naturalOrder (db : Database) :
    db.naturalOrder.filterMap (fun i => i.table.map fun t => (i.schema, t)) = db.tableKeys := by
  rw [naturalOrder, tableKeys, List.filterMap_flatMap]
  congr 1
  funext s
  unfold schemaItems
  split
  next h =>
    rw [List.isEmpty_iff.1 h]
    rfl
  next => simp [List.filterMap_map]

theorem mem_naturalOrder_of_mem_tableKeys {key : TableKey} (h : key ∈ db.tableKeys) :
    OrderItem.ofKey key ∈ db.naturalOrder := by
  rw [← filterMap_naturalOrder] at h
  obtain ⟨⟨s, t⟩, hm, he⟩ := List.mem_filterMap.1 h
  obtain ⟨t', rfl, rfl⟩ := Option.map_eq_some_iff.1 he
  exact hm

/-- Where no table is declared twice, a table has one place. -/
theorem place_unique (h : db.tableKeys.Nodup) {key : TableKey} {i j : Nat}
    (hi : db.naturalOrder[i]? = some (.ofKey key)) (hj : db.naturalOrder[j]? = some (.ofKey key)) :
    i = j := by
  rw [← filterMap_naturalOrder, List.Nodup, List.pairwise_filterMap,
    List.pairwise_iff_getElem] at h
  have hlt : ∀ {a b : Nat}, db.naturalOrder[a]? = some (.ofKey key) →
      db.naturalOrder[b]? = some (.ofKey key) → ¬ a < b := by
    intro a b ha hb hab
    obtain ⟨ha, hae⟩ := List.getElem?_eq_some_iff.1 ha
    obtain ⟨hb, hbe⟩ := List.getElem?_eq_some_iff.1 hb
    exact h a b ha hb hab key (by rw [hae]; rfl) key (by rw [hbe]; rfl) rfl
  exact Nat.le_antisymm (Nat.le_of_not_lt (hlt hj hi)) (Nat.le_of_not_lt (hlt hi hj))

theorem depends_iff {a b : OrderItem} : db.Depends a b ↔
    ∃ s t, a.table = some s ∧ b.table = some t ∧ (b.schema, t) ∈ db.dependencies (a.schema, s) := by
  obtain ⟨sa, ta⟩ := a
  obtain ⟨sb, tb⟩ := b
  cases ta <;> cases tb <;> simp [Depends, dependsOn]

/-- What depends on something is in the tree. -/
theorem Depends.mem_naturalOrder {a b : OrderItem} (h : db.Depends a b) :
    a ∈ db.naturalOrder := by
  obtain ⟨s, t, hs, -, hm⟩ := depends_iff.1 h
  unfold dependencies at hm
  split at hm
  next => simp at hm
  next found hfound =>
    have hkey : (a.schema, s) ∈ db.tableKeys :=
      mem_tableKeys_of_table? hfound
    have he : a = .ofKey (a.schema, s) := by
      rw [OrderItem.ofKey, ← hs]
    rw [he]
    exact mem_naturalOrder_of_mem_tableKeys hkey

theorem placeDeps_eq {i : Nat} {a : OrderItem} (ha : db.naturalOrder[i]? = some a) :
    db.placeDeps i = db.dependencyPlaces db.naturalOrder a := by
  rw [placeDeps, dependencyTable, List.getD_eq_getElem?_getD, List.getElem?_map, ha]
  rfl

/-- A place depends on those of the tables that its item depends on. -/
theorem mem_dependencyPlaces {a : OrderItem} {j : Nat} :
    j ∈ db.dependencyPlaces db.naturalOrder a ↔
      ∃ s key, a.table = some s ∧ key ∈ db.dependencies (a.schema, s) ∧
        lastPlace? (.ofKey key) db.naturalOrder = some j := by
  unfold dependencyPlaces
  split
  next h => simp [h]
  next s h => simp [h]

theorem lt_of_mem_placeDeps {i j : Nat} (h : j ∈ db.placeDeps i) : j < db.naturalOrder.length := by
  cases hi : db.naturalOrder[i]? with
  | none =>
    rw [placeDeps, dependencyTable, List.getD_eq_getElem?_getD, List.getElem?_map, hi] at h
    exact absurd h List.not_mem_nil
  | some a =>
    rw [placeDeps_eq hi] at h
    obtain ⟨_, _, -, -, hj⟩ := mem_dependencyPlaces.1 h
    exact (List.getElem?_eq_some_iff.1 (getElem?_of_lastPlace? hj)).1

/-- **Places depend on each other as their items do.** -/
theorem mem_placeDeps (h : db.tableKeys.Nodup) {i j : Nat} {a b : OrderItem}
    (ha : db.naturalOrder[i]? = some a) (hb : db.naturalOrder[j]? = some b) :
    j ∈ db.placeDeps i ↔ db.Depends a b := by
  rw [placeDeps_eq ha, mem_dependencyPlaces, depends_iff]
  constructor
  · rintro ⟨s, key, hs, hkey, hj⟩
    have he : b = .ofKey key := Option.some.inj (hb.symm.trans (getElem?_of_lastPlace? hj))
    exact ⟨s, key.2, hs, by rw [he], by rw [he]; exact hkey⟩
  · rintro ⟨s, t, hs, ht, hkey⟩
    have he : b = .ofKey (b.schema, t) := by
      rw [OrderItem.ofKey, ← ht]
    have hb' := hb.trans (congrArg some he)
    obtain ⟨k, hk⟩ := isSome_lastPlace?_of_mem (List.mem_of_getElem? hb')
    refine ⟨s, (b.schema, t), hs, hkey, ?_⟩
    rw [hk, place_unique h (getElem?_of_lastPlace? hk) hb']

/-! ### Places in order -/

/-- **The order in use goes through settled places first**, and through the others behind them. -/
theorem exists_splits (db : Database) : ∃ settled rest,
    Splits db.placeDeps db.naturalOrder.length settled rest ∧
      db.dependencyOrder = db.itemsAt (settled ++ rest) := by
  have hsplits : Splits db.placeDeps db.naturalOrder.length _ _ :=
    splits_settle fun _ _ => lt_of_mem_placeDeps
  refine ⟨_, demote
    (demotionFactor * max 1 (db.naturalOrder.filter (·.table.isSome)).length) db.placeDeps
    ((settle db.placeDeps db.naturalOrder.length).2.map fun i => (i, 0)), ?_, rfl⟩
  refine hsplits.of_perm ((demote_perm _ _ _).trans (.of_eq ?_))
  rw [List.map_map]
  exact List.map_id _

theorem itemsAt_perm {places : List Nat} (h : places.Perm (List.range db.naturalOrder.length)) :
    (db.itemsAt places).Perm db.naturalOrder :=
  perm_of_places h

/-- The order in use lists what the order of declaration lists. -/
theorem dependencyOrder_perm (db : Database) : db.dependencyOrder.Perm db.naturalOrder := by
  obtain ⟨settled, rest, hs, he⟩ := exists_splits db
  rw [he]
  exact itemsAt_perm hs.perm

/-! ### The order of items -/

/-- An order in which every item stands behind those that it depends on. -/
def Respects (db : Database) (order : List OrderItem) : Prop :=
  ∀ (i j : Nat) (a b : OrderItem), order[i]? = some a → order[j]? = some b → db.Depends a b → j < i

/-- A definition in which no item leads back to itself. -/
def Acyclic (db : Database) : Prop :=
  ∀ a, ¬ Relation.TransGen db.Depends a a

/-- The item of a schema without tables. -/
def placeholders (db : Database) : List OrderItem :=
  (db.schemas.filter (·.tables.isEmpty)).map fun s => ⟨s.name, none⟩

/-- An order by dependencies: what is asked of it. -/
structure Ordered (db : Database) (order : List OrderItem) : Prop where
  perm : order.Perm db.naturalOrder
  /-- Every table is listed once, and every schema without tables. -/
  complete : order.Perm (db.tableKeys.map .ofKey ++ db.placeholders)
  /-- What is not tangled comes before everything that is. -/
  tangled_last : ∀ (i j : Nat) (a b : OrderItem), order[i]? = some a → order[j]? = some b →
    ¬ Tangled db.Depends a → Tangled db.Depends b → i < j
  /-- What is not tangled comes behind all that it depends on. -/
  behind : ∀ (i j : Nat) (a b : OrderItem), order[i]? = some a → order[j]? = some b →
    ¬ Tangled db.Depends a → db.Depends a b → j < i
  respects : db.Acyclic → db.Respects order
  /-- Of the orders that respect the dependencies it is the least by places of declaration. -/
  least : db.Acyclic → ∃ places, places.Perm (List.range db.naturalOrder.length) ∧
    order = db.itemsAt places ∧ ∀ other, other.Perm (List.range db.naturalOrder.length) →
      db.Respects (db.itemsAt other) → LexLe places other

theorem naturalOrder_perm (db : Database) :
    db.naturalOrder.Perm (db.tableKeys.map .ofKey ++ db.placeholders) := by
  have hitems : ∀ s : Schema, schemaItems s =
      (s.tables.map fun t => OrderItem.ofKey (s.name, t.name)) ++
        (if s.tables.isEmpty then [⟨s.name, none⟩] else []) := by
    intro s
    unfold schemaItems
    split
    next h =>
      rw [List.isEmpty_iff.1 h]
      rfl
    next => exact (List.append_nil _).symm
  have htables : db.tableKeys.map OrderItem.ofKey =
      db.schemas.flatMap fun s => s.tables.map fun t => OrderItem.ofKey (s.name, t.name) := by
    rw [tableKeys, List.map_flatMap]
    simp only [List.map_map]
    rfl
  have hplaceholders : db.placeholders = db.schemas.flatMap fun s =>
      if s.tables.isEmpty then [(⟨s.name, none⟩ : OrderItem)] else [] := by
    rw [placeholders]
    induction db.schemas with
    | nil => rfl
    | cons s ss ih =>
      rw [List.flatMap_cons, ← ih, List.filter_cons]
      split <;> rfl
  rw [htables, hplaceholders, naturalOrder, funext hitems]
  exact (List.flatMap_append_perm _ _ _).symm

/-- Places depend on each other as their items do. -/
theorem placesFollow (h : db.tableKeys.Nodup) :
    PlacesFollow db.placeDeps db.naturalOrder db.Depends where
  lt _ _ hj := lt_of_mem_placeDeps hj
  mem_iff ha hb := mem_placeDeps h ha hb
  listed hab := hab.mem_naturalOrder

/-- What the order in use is, as far as it is known how the settling and the rest split. -/
theorem ordered_of_splits (h : db.tableKeys.Nodup) {settled rest : List Nat}
    (hs : Splits db.placeDeps db.naturalOrder.length settled rest) :
    db.Ordered (db.itemsAt (settled ++ rest)) :=
  have harranged := arranged_of_splits (placesFollow h) hs
  { perm := harranged.perm
    complete := harranged.perm.trans (naturalOrder_perm db)
    tangled_last := harranged.tangled_last
    behind := harranged.behind
    respects := harranged.respects
    least := harranged.least }

/-- **The order by dependencies is correct on every tree**: settling takes no counter below zero, and
what comes out lists every table once, what is not tangled first and behind all that it depends on.
Where nothing is on a circle it is the least order that respects the dependencies. -/
theorem dependencyOrder_sound (h : db.tableKeys.Nodup) :
    (∀ p, Settling.Reaches (dependents db.placeDeps db.naturalOrder.length)
        (Settling.start db.placeDeps db.naturalOrder.length) p →
      p.CountsDown (dependents db.placeDeps db.naturalOrder.length)) ∧
      db.Ordered db.dependencyOrder := by
  refine ⟨fun p hp => (Settling.counted_start.reaches hp).countsDown, ?_⟩
  obtain ⟨settled, rest, hs, he⟩ := exists_splits db
  rw [he]
  exact ordered_of_splits h hs

end Database

/-! ### A tree with a circle -/

/-- A table that refers to others of its schema. -/
def Staff.table (name : String) (referred : List String) : Table where
  name
  columns := referred.map fun r =>
    { name := r, foreignKey := some { table := r, column := some "id" } }

/-- People belong to a team and a team is led by one of them; tasks are given to people.  Offices,
which stand by themselves, are declared behind their rooms. -/
def Staff.tree : Database where
  schemas := [
    { name := "staff"
      tables := [Staff.table "task" ["person"], Staff.table "person" ["team"],
        Staff.table "team" ["person"]] },
    { name := "archive" },
    { name := "house"
      tables := [Staff.table "room" ["office"], Staff.table "office" []] }]

theorem dependencyOrder_sound_of_staff :
    Staff.tree.tableKeys.Nodup ∧
      settle Staff.tree.placeDeps Staff.tree.naturalOrder.length = ([3, 5, 4], [0, 1, 2]) ∧
      Staff.tree.Ordered Staff.tree.dependencyOrder := by
  have h : Staff.tree.tableKeys.Nodup := by decide
  have hsettle : settle Staff.tree.placeDeps Staff.tree.naturalOrder.length =
      ([3, 5, 4], [0, 1, 2]) := by
    decide +kernel
  exact ⟨h, hsettle, (Database.dependencyOrder_sound h).2⟩

end SchemaPlan
