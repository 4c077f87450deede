import SchemaPlan.Proofs.Precedence

/-!
# Tables are paired off, created and dropped

Which table continues which is settled before anything is planned, and it pairs tables off: looking
across goes both ways and no table is reached twice (`PairsOff`).  What is left over on either side is
what a plan creates and drops, each once, and the two have nothing in common (`PlacesTables`).  Both
are put together in `tables_paired_and_placed`.

The operations of a plan that decide which tables there are, told by addresses, are its
`Plan.tableMoves`: those of each table of the new version in order, and then the drops
(`tableMoves_of_plan`).  Everything said about created and dropped tables is read off that list.
-/

namespace SchemaPlan

/-! ### Moves -/

/-- A change to which tables there are, told by their addresses. -/
inductive TableMove where
  | create (address : String)
  | setSchema (address schema : String)
  | rename (address name : String)
  | drop (address : String)
deriving DecidableEq

namespace TableMove

/-- The table that is created. -/
def created? : TableMove → Option String
  | create address => some address
  | _ => none

/-- The table that is dropped. -/
def dropped? : TableMove → Option String
  | drop address => some address
  | _ => none

/-- The kinds of operations that move tables. -/
def kinds : List OpKind :=
  [.createTable, .setTableSchema, .renameTable, .dropTable]

end TableMove

/-- The change that an operation makes to which tables there are. -/
def Op.tableMove? : Op → Option TableMove
  | .createTable table _ _ => some (.create table)
  | .setTableSchema table schema => some (.setSchema table schema)
  | .renameTable table newName => some (.rename table newName)
  | .dropTable table => some (.drop table)
  | _ => none

/-- The changes that operations make to which tables there are. -/
def tableMoves (ops : List Op) : List TableMove :=
  ops.filterMap Op.tableMove?

/-- The changes that a plan makes to which tables there are. -/
abbrev Plan.tableMoves (p : Plan) : List TableMove :=
  SchemaPlan.tableMoves p.ops

@[simp] theorem tableMoves_nil : tableMoves [] = [] :=
  rfl

@[simp] theorem tableMoves_append (a b : List Op) :
    tableMoves (a ++ b) = tableMoves a ++ tableMoves b :=
  List.filterMap_append

theorem tableMoves_flatMap {α : Type} (xs : List α) (f : α → List Op) :
    tableMoves (xs.flatMap f) = xs.flatMap fun x => tableMoves (f x) :=
  List.filterMap_flatMap

theorem Op.kind_mem_of_tableMove? {op : Op} {m : TableMove} (h : op.tableMove? = some m) :
    op.kind ∈ TableMove.kinds := by
  cases op <;> first | cases h; simp [Op.kind, TableMove.kinds] | cases h

theorem tableMoves_eq_nil {kinds : List OpKind} {ops : List Op} (h : OfKinds kinds ops)
    (hnot : ∀ k ∈ TableMove.kinds, k ∉ kinds) : tableMoves ops = [] := by
  refine List.filterMap_eq_nil_iff.2 fun op hop => Option.eq_none_iff_forall_not_mem.2 fun m hm => ?_
  exact hnot _ (Op.kind_mem_of_tableMove? hm) (h op hop)

/-! ### The moves of a plan -/

/-- The moves of a plan are those of the places of its draft, in order. -/
theorem tableMoves_toPlan (d : Draft) (custom : List CustomSql) :
    (d.toPlan custom).tableMoves =
      tableMoves (d.opsAt .viewDrops) ++ tableMoves (d.opsAt .stage1) ++
        tableMoves (d.opsAt .stage1Tail) ++ tableMoves (d.opsAt .stage2) ++
          (tableMoves (d.opsAt .stage3) ++ tableMoves (d.opsAt .viewCreates) ++
            tableMoves (d.opsAt .stage4)) := by
  obtain ⟨own, hkinds, he⟩ := d.exists_own_statements custom
  have hown : ∀ stage before, tableMoves (own stage before) = [] := fun stage before =>
    tableMoves_eq_nil (hkinds stage before) (by decide)
  rw [Plan.tableMoves, he]
  simp only [tableMoves_append, hown, List.nil_append, List.append_nil, List.append_assoc]

namespace Comparison

/-- The moves that make a table what it is in the new version. -/
def movesOf (c : Comparison) (item : Schema × Table) : List TableMove :=
  match c.oldVersion? item.1.name item.2.name with
  | none => [.create (Sql.qualified item.1.name item.2.name)]
  | some (oldSchema, oldTable) =>
    tableMoves (renameTable oldSchema.name oldTable.name item.1.name item.2.name)

/-- A table of the previous version that no table continues. -/
def isGone (c : Comparison) (item : Schema × Table) : Bool :=
  (c.newVersion? item.1.name item.2.name).isNone

/-- A table of the new version that continues none. -/
def isFresh (c : Comparison) (item : Schema × Table) : Bool :=
  (c.oldVersion? item.1.name item.2.name).isNone

variable {c : Comparison}

theorem tableMoves_tableWork {item : Schema × Table} {d : Draft}
    (h : c.tableWork item.1.name item.2 = .ok d) : tableMoves (d.opsAt .stage1) = c.movesOf item := by
  rcases hv : c.oldVersion? item.1.name item.2.name with _ | ⟨oldSchema, oldTable⟩
  · have hmoves : c.movesOf item = [.create (Sql.qualified item.1.name item.2.name)] := by
      rw [movesOf, hv]
    rw [tableWork, hv] at h
    obtain ⟨ops, hops, he⟩ := bind_eq_ok.1 h
    obtain ⟨_, rest, rfl, hrest⟩ := exists_of_createTable hops
    rw [hmoves, ← pure_eq_ok.1 he, Draft.opsAt_first, ← List.singleton_append, tableMoves_append,
      tableMoves_eq_nil hrest (by decide)]
    rfl
  · have hmoves : c.movesOf item =
        tableMoves (renameTable oldSchema.name oldTable.name item.1.name item.2.name) := by
      rw [movesOf, hv]
    rw [tableWork, hv] at h
    obtain ⟨columns, hcolumns, he⟩ := bind_eq_ok.1 h
    have hdescription : ∀ d : Draft, d.Within (fun _ => [.setComment]) →
        tableMoves (d.opsAt .stage1) = [] :=
      fun d hd => tableMoves_eq_nil (hd .stage1) (by decide)
    rw [hmoves, ← pure_eq_ok.1 he, Draft.opsAt_append, Draft.opsAt_append, Draft.opsAt_first,
      tableMoves_append, tableMoves_append,
      tableMoves_eq_nil (within_columnsWork hcolumns .stage1) (by decide), hdescription,
      List.append_nil, List.append_nil]
    exact Draft.within_ite Draft.within_empty (Draft.within_first (by simp [Op.kind]))

theorem tableMoves_tablePass {drops : List Constraint} {item : Schema × Table} {d : Draft}
    (h : c.tablePass drops item = .ok d) : tableMoves (d.opsAt .stage1) = c.movesOf item := by
  obtain ⟨work, key, hwork, hkey, rfl⟩ := tablePass_eq_ok_iff.1 h
  rw [Draft.opsAt_append, Draft.opsAt_first, tableMoves_append, tableMoves_tableWork hwork,
    tableMoves_append, tableMoves_append, tableMoves_append,
    tableMoves_eq_nil (ofKinds_tableIndexOps c _ _) (by decide),
    tableMoves_eq_nil (ofKinds_clusterOps c _ _) (by decide),
    tableMoves_eq_nil (ofKinds_addPrimaryKey hkey) (by decide),
    tableMoves_eq_nil (ofKinds_tableTriggerOps c _ _) (by decide)]
  exact List.append_nil _

/-- In the first stage the tables of the new version are moved in order. -/
theorem tableMoves_stage1 {work : Draft} (h : c.structureWork = .ok work) :
    tableMoves (work.opsAt .stage1) = c.newTables.flatMap c.movesOf := by
  obtain ⟨head, drops, sequences, tables, adds, tail, -, htables, hadds, hhead, hsequences, htail,
    he⟩ := exists_stage1_parts h
  have htableMoves : tableMoves (tables.flatMap (·.opsAt .stage1)) =
      c.newTables.flatMap c.movesOf := by
    rw [tableMoves_flatMap]
    exact flatMap_eq_of_mapM htables fun item _ d hd => tableMoves_tablePass hd
  rw [he]
  simp only [tableMoves_append, htableMoves, tableMoves_eq_nil hhead (by decide),
    tableMoves_eq_nil (ofKinds_dropConstraintOps drops) (by decide),
    tableMoves_eq_nil hsequences (by decide),
    tableMoves_eq_nil (ofKinds_of_mapM_addConstraints hadds) (by decide),
    tableMoves_eq_nil htail (by decide), List.nil_append, List.append_nil]

/-- In the third stage the tables that none continues are dropped. -/
theorem tableMoves_stage3 {work : Draft} (h : c.structureWork = .ok work) :
    tableMoves (work.opsAt .stage3) = (c.oldTablesReversed.filter c.isGone).map fun item =>
      .drop (Sql.qualified item.1.name item.2.name) := by
  obtain ⟨before, after, rfl, hbefore, hafter⟩ := exists_around_dropTables h
  rw [Draft.opsAt_append, Draft.opsAt_append, tableMoves_append, tableMoves_append,
    tableMoves_eq_nil (hbefore .stage3) (by decide), tableMoves_eq_nil (hafter .stage3) (by decide),
    List.nil_append, List.append_nil]
  show (c.oldTablesReversed.filterMap _).filterMap Op.tableMove? = _
  rw [List.filterMap_filterMap, ← List.filterMap_eq_map, List.filterMap_filter]
  congr 1
  funext item
  show (if c.isGone item = true then some (Op.dropTable _) else none).bind Op.tableMove? = _
  split <;> rfl

/-- **The moves of a plan**: each table of the new version is created, or moved to where it is to be,
and afterwards the tables that none continues are dropped. -/
theorem tableMoves_of_plan [QueryReader] {p : Plan} (h : c.plan = .ok p)
    (hdata : c.options.onlyData = false) :
    p.tableMoves = c.newTables.flatMap c.movesOf ++
      (c.oldTablesReversed.filter c.isGone).map fun item =>
        .drop (Sql.qualified item.1.name item.2.name) := by
  obtain ⟨schema, rows, hschema, hrows, rfl⟩ := plan_eq_ok_iff.1 h
  rw [hdata, if_neg Bool.false_ne_true] at hschema
  -- Only the first stage moves tables and only the third drops them, so each place is looked at.
  have hrowsNone : ∀ place, tableMoves (rows.opsAt place) = [] := fun place =>
    tableMoves_eq_nil (within_rowsIfWanted hrows place) (by cases place <;> decide)
  have hschemaNone : ∀ place, (∀ k ∈ TableMove.kinds, k ∉ schemaKinds place) →
      tableMoves (schema.opsAt place) = [] := fun place hnot =>
    tableMoves_eq_nil (within_schemaWork hschema place) hnot
  have hplace : ∀ place, tableMoves ((schema ++ rows).opsAt place) =
      tableMoves (schema.opsAt place) := by
    intro place
    rw [Draft.opsAt_append, tableMoves_append, hrowsNone, List.append_nil]
  obtain ⟨-, work, hwork, he⟩ := schemaWork_eq_ok_iff.1 hschema
  have hviews := within_viewWork c work.isStructural
  have hstage1 : tableMoves (schema.opsAt .stage1) = c.newTables.flatMap c.movesOf := by
    rw [he, Draft.opsAt_append, tableMoves_append, tableMoves_stage1 hwork,
      tableMoves_eq_nil (hviews .stage1) (by decide), List.append_nil]
  have hstage3 : tableMoves (schema.opsAt .stage3) = (c.oldTablesReversed.filter c.isGone).map
      fun item => .drop (Sql.qualified item.1.name item.2.name) := by
    rw [he, Draft.opsAt_append, tableMoves_append, tableMoves_stage3 hwork,
      tableMoves_eq_nil (hviews .stage3) (by decide), List.append_nil]
  simp only [tableMoves_toPlan, hplace, hstage1, hstage3, hschemaNone .viewDrops (by decide),
    hschemaNone .stage1Tail (by decide), hschemaNone .stage2 (by decide),
    hschemaNone .viewCreates (by decide), hschemaNone .stage4 (by decide), List.nil_append,
    List.append_nil]

/-! ### Created and dropped tables -/

theorem created_movesOf (item : Schema × Table) :
    (c.movesOf item).filterMap TableMove.created? =
      if c.isFresh item then [Sql.qualified item.1.name item.2.name] else [] := by
  rw [movesOf, isFresh]
  cases c.oldVersion? item.1.name item.2.name with
  | none => rfl
  | some prev =>
    unfold renameTable
    dsimp only
    split <;> split <;> rfl

theorem dropped_movesOf (item : Schema × Table) :
    (c.movesOf item).filterMap TableMove.dropped? = [] := by
  rw [movesOf]
  cases c.oldVersion? item.1.name item.2.name with
  | none => rfl
  | some prev =>
    unfold renameTable
    dsimp only
    split <;> split <;> rfl

end Comparison

/-- The tables that a plan creates, as often as it does. -/
def Plan.createdTables (p : Plan) : List String :=
  p.tableMoves.filterMap TableMove.created?

/-- The tables that a plan drops, as often as it does. -/
def Plan.droppedTables (p : Plan) : List String :=
  p.tableMoves.filterMap TableMove.dropped?

namespace Comparison

section Plan

variable [QueryReader] {c : Comparison} {p : Plan} (h : c.plan = .ok p)
  (hdata : c.options.onlyData = false)

include h hdata

theorem createdTables_of_plan : p.createdTables = (c.newTables.filter c.isFresh).map fun item =>
    Sql.qualified item.1.name item.2.name := by
  rw [Plan.createdTables, tableMoves_of_plan h hdata, List.filterMap_append,
    List.filterMap_flatMap, List.filterMap_map]
  have hdrops : ∀ items : List (Schema × Table), items.filterMap (TableMove.created? ∘ fun item =>
      .drop (Sql.qualified item.1.name item.2.name)) = [] := fun items =>
    List.filterMap_eq_nil_iff.2 fun _ _ => rfl
  rw [hdrops, List.append_nil, ← List.filterMap_eq_map, List.filterMap_filter,
    List.filterMap_eq_flatMap_toList]
  congr 1
  funext item
  rw [created_movesOf]
  split <;> rfl

theorem droppedTables_of_plan : p.droppedTables =
    (c.oldTablesReversed.filter c.isGone).map fun item =>
      Sql.qualified item.1.name item.2.name := by
  have hmoves : c.newTables.flatMap
      (fun item => (c.movesOf item).filterMap TableMove.dropped?) = [] :=
    List.flatMap_eq_nil_iff.2 fun item _ => dropped_movesOf item
  have hdrop : (TableMove.dropped? ∘ fun item : Schema × Table =>
      .drop (Sql.qualified item.1.name item.2.name)) =
        some ∘ fun item => Sql.qualified item.1.name item.2.name := rfl
  rw [Plan.droppedTables, tableMoves_of_plan h hdata, List.filterMap_append,
    List.filterMap_flatMap, hmoves, List.nil_append, List.filterMap_map, hdrop,
    List.filterMap_eq_map]

end Plan

/-- Addresses of tables that are picked out of all tables of a definition are found once or not at
all. -/
theorem count_addresses {db : Database} (hdb : db.Coherent) (hdots : db.DotFree)
    {items : List (Schema × Table)} (hnodup : items.Nodup)
    (hitems : ∀ {item}, item ∈ items ↔ item ∈ db.tables) (keep : Schema × Table → Bool)
    {item : Schema × Table} (hm : item ∈ db.tables) :
    ((items.filter keep).map fun item => Sql.qualified item.1.name item.2.name).count
      (Sql.qualified item.1.name item.2.name) = if keep item then 1 else 0 := by
  have hinj : ∀ a ∈ items.filter keep, ∀ b ∈ items.filter keep,
      Sql.qualified a.1.name a.2.name = Sql.qualified b.1.name b.2.name → a = b := by
    intro a ha b hb
    have ha := hitems.1 (List.mem_filter.1 ha).1
    have hb := hitems.1 (List.mem_filter.1 hb).1
    exact (hdb.address_inj hdots ha hb).1
  have hmem : Sql.qualified item.1.name item.2.name ∈
      (items.filter keep).map (fun item => Sql.qualified item.1.name item.2.name) ↔
        keep item = true := by
    constructor
    · intro h
      obtain ⟨other, hother, he⟩ := List.mem_map.1 h
      obtain ⟨hother, hkeep⟩ := List.mem_filter.1 hother
      rwa [(hdb.address_inj hdots (hitems.1 hother) hm).1 he] at hkeep
    · intro hkeep
      exact List.mem_map.2 ⟨item, List.mem_filter.2 ⟨hitems.2 hm, hkeep⟩, rfl⟩
  rw [((hnodup.filter _).map_on hinj).count]
  exact if_congr hmem rfl rfl

/-! ### Both together -/

/-- The tables of the previous version; none if there is no previous version. -/
def previousTables (c : Comparison) : List (Schema × Table) :=
  match c.old with
  | none => []
  | some old => old.tables

theorem mem_previousTables {c : Comparison} {prev : Schema × Table} :
    prev ∈ c.previousTables ↔ ∃ db, c.old = some db ∧ prev ∈ db.tables := by
  unfold previousTables
  cases c.old <;> simp

/-- Tables are paired off: looking across leads to tables of the other version and back again, and
never to one table from two. -/
structure PairsOff (c : Comparison) : Prop where
  both_ways : ∀ item ∈ c.new.tables, ∀ prev ∈ c.previousTables,
    c.oldVersion? item.1.name item.2.name = some prev ↔
      c.newVersion? prev.1.name prev.2.name = some item
  old_mem : ∀ item ∈ c.new.tables, ∀ prev,
    c.oldVersion? item.1.name item.2.name = some prev → prev ∈ c.previousTables
  new_mem : ∀ prev ∈ c.previousTables, ∀ item,
    c.newVersion? prev.1.name prev.2.name = some item → item ∈ c.new.tables
  old_unique : ∀ item ∈ c.new.tables, ∀ other ∈ c.new.tables, ∀ prev,
    c.oldVersion? item.1.name item.2.name = some prev →
      c.oldVersion? other.1.name other.2.name = some prev → item = other
  new_unique : ∀ prev ∈ c.previousTables, ∀ other ∈ c.previousTables, ∀ item,
    c.newVersion? prev.1.name prev.2.name = some item →
      c.newVersion? other.1.name other.2.name = some item → prev = other

/-- A plan creates each table that continues none, and drops each that none continues, once and
nothing else; and it does not do both under one address. -/
structure PlacesTables (c : Comparison) (p : Plan) : Prop where
  created : ∀ item ∈ c.new.tables,
    p.createdTables.count (Sql.qualified item.1.name item.2.name) =
      if c.isFresh item then 1 else 0
  dropped : ∀ prev ∈ c.previousTables,
    p.droppedTables.count (Sql.qualified prev.1.name prev.2.name) =
      if c.isGone prev then 1 else 0
  only_created : ∀ address ∈ p.createdTables, ∃ item ∈ c.new.tables,
    c.isFresh item ∧ address = Sql.qualified item.1.name item.2.name
  only_dropped : ∀ address ∈ p.droppedTables, ∃ prev ∈ c.previousTables,
    c.isGone prev ∧ address = Sql.qualified prev.1.name prev.2.name
  apart : ∀ address ∈ p.createdTables, address ∉ p.droppedTables

theorem WellMade.mem_oldTablesReversed_iff {c : Comparison} (h : c.WellMade)
    {prev : Schema × Table} : prev ∈ c.oldTablesReversed ↔ prev ∈ c.previousTables := by
  unfold previousTables
  split
  next hold => rw [oldTablesReversed, hold]
  next old hold => exact h.mem_oldTablesReversed hold

theorem WellMade.pairsOff {c : Comparison} (h : c.WellMade) : c.PairsOff := by
  have hboth : ∀ item ∈ c.new.tables, ∀ prev ∈ c.previousTables,
      c.oldVersion? item.1.name item.2.name = some prev ↔
        c.newVersion? prev.1.name prev.2.name = some item := by
    intro item hm prev hprev
    obtain ⟨old, hold, hprev⟩ := mem_previousTables.1 hprev
    exact h.oldVersion?_eq_some_iff_newVersion? hold hm hprev
  have hold : ∀ item ∈ c.new.tables, ∀ prev,
      c.oldVersion? item.1.name item.2.name = some prev → prev ∈ c.previousTables := by
    intro item _ prev hv
    obtain ⟨old, hold, -⟩ := Option.bind_eq_some_iff.1 hv
    exact mem_previousTables.2 ⟨old, hold, h.mem_old_of_oldVersion? hold hv⟩
  have hnew : ∀ prev ∈ c.previousTables, ∀ item,
      c.newVersion? prev.1.name prev.2.name = some item → item ∈ c.new.tables :=
    fun _ _ _ hv => (h.newVersion?_eq_some_iff.1 hv).2
  refine ⟨hboth, hold, hnew, ?_, ?_⟩
  · intro item hm other hother prev hitem hv
    have hprev := hold item hm prev hitem
    have hback := (hboth item hm prev hprev).1 hitem
    rw [(hboth other hother prev hprev).1 hv] at hback
    exact (Option.some.inj hback).symm
  · intro prev hprev other hother item hitem hv
    have hm := hnew prev hprev item hitem
    have hback := (hboth item hm prev hprev).2 hitem
    rw [(hboth item hm other hother).2 hv] at hback
    exact (Option.some.inj hback).symm

section Made

variable {old : Option Database} {new : Database} {newOrder oldOrder : Option (List OrderItem)}
  {style : Sql.Style} {options : Options} {c : Comparison}

/-- What is created has nothing in common with what is dropped. -/
theorem address_ne_of_gone (hmake : make old new newOrder oldOrder style options = .ok c)
    (hc : c.WellMade) (hnewDots : c.new.DotFree) (holdDots : ∀ db, c.old = some db → db.DotFree)
    {item gone : Schema × Table} (hm : item ∈ c.new.tables) (hgone : gone ∈ c.previousTables)
    (hv : c.isGone gone = true) :
    Sql.qualified item.1.name item.2.name ≠ Sql.qualified gone.1.name gone.2.name := by
  intro he
  obtain ⟨-, -, -, rfl, rfl, -, -⟩ := make_eq_ok_iff.1 hmake
  obtain ⟨db, hold, hgone⟩ := mem_previousTables.1 hgone
  rw [hold] at hmake
  have hs := hnewDots item.1 (Database.mem_tables.1 hm).1
  have hs' := holdDots db hold gone.1 (Database.mem_tables.1 hgone).1
  exact itemKey_ne_of_gone hmake hc hold hgone (Option.isNone_iff_eq_none.1 hv) hm
    ((Sql.qualified_inj hs hs').1 he)

theorem placesTables [QueryReader]
    (hmake : make old new newOrder oldOrder style options = .ok c) (hc : c.WellMade)
    (hnewDots : c.new.DotFree) (holdDots : ∀ db, c.old = some db → db.DotFree)
    {p : Plan} (h : c.plan = .ok p) (hdata : c.options.onlyData = false) : c.PlacesTables p := by
  have hcreated := createdTables_of_plan h hdata
  have hdropped := droppedTables_of_plan h hdata
  have hfresh : ∀ address ∈ p.createdTables, ∃ item ∈ c.new.tables,
      c.isFresh item ∧ address = Sql.qualified item.1.name item.2.name := by
    intro address haddress
    rw [hcreated] at haddress
    obtain ⟨item, hitem, rfl⟩ := List.mem_map.1 haddress
    obtain ⟨hitem, hfresh⟩ := List.mem_filter.1 hitem
    exact ⟨item, hc.mem_newTables.1 hitem, hfresh, rfl⟩
  have hgone : ∀ address ∈ p.droppedTables, ∃ prev ∈ c.previousTables,
      c.isGone prev ∧ address = Sql.qualified prev.1.name prev.2.name := by
    intro address haddress
    rw [hdropped] at haddress
    obtain ⟨prev, hprev, rfl⟩ := List.mem_map.1 haddress
    obtain ⟨hprev, hgone⟩ := List.mem_filter.1 hprev
    exact ⟨prev, hc.mem_oldTablesReversed_iff.1 hprev, hgone, rfl⟩
  refine ⟨fun item hm => ?_, fun prev hprev => ?_, hfresh, hgone, ?_⟩
  · rw [hcreated]
    exact count_addresses hc.new hnewDots hc.nodup_newTables hc.mem_newTables c.isFresh hm
  · rw [hdropped]
    obtain ⟨db, hold, hprev⟩ := mem_previousTables.1 hprev
    exact count_addresses (hc.old db hold) (holdDots db hold) (hc.nodup_oldTablesReversed hold)
      (hc.mem_oldTablesReversed hold) c.isGone hprev
  · intro address hin hout
    obtain ⟨item, hm, -, rfl⟩ := hfresh address hin
    obtain ⟨gone, hprev, hv, he⟩ := hgone _ hout
    exact address_ne_of_gone hmake hc hnewDots holdDots hm hprev hv he

/-- **Tables are paired off, and what is left over is created or dropped.**  Of valid versions that
have been put side by side, each table of the new version continues one table at most, and is
continued as the one table that continues it.  A plan that covers structure creates every table that
continues none and drops every table that none continues, each exactly once, and nothing else; and it
never creates and drops a table of one address. -/
theorem tables_paired_and_placed [QueryReader] (hnew : new.validate = .ok ())
    (hold : ∀ db, old = some db → db.validate = .ok ())
    (hmake : make old new newOrder oldOrder style options = .ok c) :
    c.PairsOff ∧ ∀ p, c.plan = .ok p → options.onlyData = false → new.DotFree →
      (∀ db, old = some db → db.DotFree) → c.PlacesTables p := by
  have hc := wellMade_of_make (Database.coherent_of_validate hnew)
    (fun db hdb => Database.coherent_of_validate (hold db hdb)) hmake
  refine ⟨hc.pairsOff, fun p hp hdata hnewDots holdDots => ?_⟩
  obtain ⟨-, -, -, rfl, rfl, rfl, -⟩ := make_eq_ok_iff.1 hmake
  exact placesTables hmake hc hnewDots holdDots hp hdata

end Made

end Comparison

/-! ### A museum -/

attribute [local instance] QueryReader.blank

/-- A table of a museum, perhaps with the name that it had. -/
def Museum.table (name : String) (oldName oldSchema : Option String) : Table where
  name
  oldName
  oldSchema
  primaryKey := ["id"]
  columns := [{ name := "id", dataType := some "bigint" }]

/-- A museum that keeps paintings, sketches and visitors. -/
def Museum.first : Database where
  schemas := [{
    name := "museum"
    tables := [Museum.table "paintings" none none, Museum.table "sketches" none none,
      Museum.table "visitors" none none] }]

/-- Paintings are works now, prints are new, and visitors have moved; their marker names a table that
never was. -/
def Museum.second : Database where
  schemas := [
    { name := "museum"
      tables := [Museum.table "works" (some "paintings") none, Museum.table "prints" none none] },
    { name := "people"
      tables := [Museum.table "visitors" none (some "museum"),
        Museum.table "guides" (some "wardens") none] }]

/-- The two museums side by side. -/
def Museum.comparison : Comparison where
  old := some Museum.first
  new := Museum.second
  newOrder := Museum.second.naturalOrder
  oldOrder := Museum.first.naturalOrder
  options := {}
  style := {}
  pairs := [(("people", "visitors"), ("museum", "visitors")),
    (("museum", "works"), ("museum", "paintings"))]

/-- What happens to the tables of the museum. -/
def Museum.moves : List TableMove := [
  .rename "museum.paintings" "works", .create "museum.prints",
  .setSchema "museum.visitors" "people", .create "people.guides", .drop "museum.sketches"]

/-- **The museum is rearranged**: two tables stay under other names, two are created, and one is
dropped. -/
theorem tables_paired_and_placed_of_museum :
    Comparison.make (some Museum.first) Museum.second none none {} {} = .ok Museum.comparison ∧
      Museum.comparison.PairsOff ∧ ∃ p, Museum.comparison.plan = .ok p ∧
        p.tableMoves = Museum.moves ∧ Museum.comparison.PlacesTables p := by
  have hmake : Comparison.make (some Museum.first) Museum.second none none {} {} =
      .ok Museum.comparison :=
    Comparison.make_eq_ok_iff.2 ⟨rfl, rfl, by decide +kernel, rfl, rfl, rfl, rfl⟩
  have hnew : Museum.second.validate = .ok () := by decide +kernel
  have hold : ∀ db, some Museum.first = some db → db.validate = .ok () ∧ db.DotFree := by
    rintro _ ⟨⟩
    decide +kernel
  have hmoves : Museum.comparison.plan.map (·.tableMoves) = .ok Museum.moves := by decide +kernel
  obtain ⟨hpairs, hplaces⟩ := Comparison.tables_paired_and_placed hnew
    (fun db hdb => (hold db hdb).1) hmake
  cases hp : Museum.comparison.plan with
  | error e =>
    rw [hp] at hmoves
    cases hmoves
  | ok p =>
    rw [hp] at hmoves
    exact ⟨hmake, hpairs, p, rfl, Except.ok.inj hmoves,
      hplaces p hp rfl (by decide +kernel) fun db hdb => (hold db hdb).2⟩

end SchemaPlan
