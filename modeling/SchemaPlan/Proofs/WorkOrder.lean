import SchemaPlan.Proofs.DependencyOrder
import SchemaPlan.Proofs.Precedence
import SchemaPlan.Proofs.Stages

/-!
# Work in the order of dependencies

The tables of a version are worked on in its order of dependencies, forwards or backwards: rows are
written and tables are created forwards, rows are deleted and tables are dropped backwards.  Where
nothing depends on itself that order respects the dependencies, so that no table is listed in front of
one it depends on (`pairwise_newTables`, `pairwise_oldTablesReversed`), and each kind of work is in
order by `precedes_flatMap`.

`plan_honours_dependencies` puts the four together.  A table that inherits from another depends on it
(`depends_of_inherits`), which makes creation under a parent a case of the same argument.
-/

namespace SchemaPlan

/-! ### What a table depends on -/

theorem mem_insertKey {key k : TableKey} {ks : List TableKey} :
    k ∈ insertKey key ks ↔ k = key ∨ k ∈ ks := by
  induction ks with
  | nil => simp [insertKey]
  | cons first ks ih =>
    unfold insertKey
    split
    next h => simp [eq_of_beq h]
    next =>
      split
      next => simp
      next => simp [ih, or_left_comm]

namespace Database

/-- One table depends on another. -/
abbrev TableDepends (db : Database) (a b : Schema × Table) : Prop :=
  db.Depends (.ofKey (itemKey a)) (.ofKey (itemKey b))

variable {db : Database}

/-- **A table depends on what it mentions**, apart from itself. -/
theorem mem_dependencies {key k : TableKey} {s : Schema} {t : Table}
    (h : db.table? key.1 key.2 = some (s, t)) :
    k ∈ db.dependencies key ↔ k ∈ mentionedTables s.name t ∧ k ≠ key := by
  have hfold : ∀ keys start : List TableKey,
      k ∈ keys.foldl (fun ks k => insertKey k ks) start ↔ k ∈ keys ∨ k ∈ start := by
    intro keys
    induction keys with
    | nil => simp
    | cons first keys ih => simp [ih, mem_insertKey, or_left_comm, or_assoc]
  rw [dependencies, h]
  simp [hfold]

/-- A table depends on the table that it inherits from. -/
theorem depends_of_inherits (hdb : db.Coherent) {item parent : Schema × Table}
    (hm : item ∈ db.tables) {target : TableRef} (hi : item.2.inherits = some target)
    (hparent : target.resolve item.1.name = itemKey parent) (hne : itemKey parent ≠ itemKey item) :
    db.TableDepends item parent := by
  refine depends_iff.2 ⟨_, _, rfl, rfl, ?_⟩
  rw [mem_dependencies (hdb.table?_of_mem hm)]
  refine ⟨?_, hne⟩
  simp [mentionedTables, hi, hparent]

theorem nodup_tableKeys (hdb : db.Coherent) : db.tableKeys.Nodup := by
  have he : db.tableKeys = db.tables.map itemKey := by
    rw [tableKeys, tables, List.map_flatMap]
    simp [Function.comp_def]
  rw [he]
  exact Comparison.nodup_itemKeys hdb

/-- The order in use has every table behind those that it depends on. -/
theorem pairwise_dependencyOrder (hdb : db.Coherent) (hacyclic : db.Acyclic) :
    db.dependencyOrder.Pairwise fun a b => ¬ db.Depends a b := by
  have hrespects := (dependencyOrder_sound (nodup_tableKeys hdb)).2.respects hacyclic
  refine List.pairwise_iff_getElem.2 fun i j hi hj hij hab => ?_
  have hji := hrespects i j _ _ (List.getElem?_eq_getElem hi) (List.getElem?_eq_getElem hj) hab
  omega

/-- Nothing leads back to itself where tables have ranks that fall along the dependencies. -/
theorem acyclic_of_rank (rank : TableKey → Nat)
    (h : ∀ key ∈ db.tableKeys, ∀ k ∈ db.dependencies key, rank k < rank key) : db.Acyclic := by
  let rankOf (a : OrderItem) := rank (a.schema, a.table.getD "")
  have hstep : ∀ a b, db.Depends a b → rankOf b < rankOf a := by
    intro a b hab
    obtain ⟨s, t, hs, ht, hm⟩ := depends_iff.1 hab
    have hkey : (a.schema, s) ∈ db.tableKeys := by
      unfold dependencies at hm
      split at hm
      · cases hm
      · exact mem_tableKeys_of_table? ‹_›
    simpa [rankOf, hs, ht] using h _ hkey _ hm
  have hpath : ∀ {a b}, Relation.TransGen db.Depends a b → rankOf b < rankOf a := by
    intro a b hab
    induction hab with
    | single hab => exact hstep _ _ hab
    | tail _ hbc ih => exact Nat.lt_trans (hstep _ _ hbc) ih
  exact fun a ha => Nat.lt_irrefl _ (hpath ha)

theorem Acyclic.not_depends_self (h : db.Acyclic) (a : OrderItem) : ¬ db.Depends a a :=
  fun ha => h a (.single ha)

end Database

namespace Comparison

/-! ### The tables in order -/

/-- What holds of the items of an order holds of the tables that it lists. -/
theorem pairwise_tablesIn {db : Database} {order : List OrderItem}
    {r : OrderItem → OrderItem → Prop} (h : order.Pairwise r) :
    (tablesIn db order).Pairwise fun a b => r (.ofKey (itemKey a)) (.ofKey (itemKey b)) := by
  have hitem : ∀ {i : OrderItem} {item : Schema × Table},
      i.table.bind (db.table? i.schema) = some item → .ofKey (itemKey item) = i := by
    intro i item hi
    obtain ⟨name, hname, hfound⟩ := Option.bind_eq_some_iff.1 hi
    obtain ⟨-, -, hs, ht⟩ := Database.of_table?_eq_some hfound
    show (⟨item.1.name, some item.2.name⟩ : OrderItem) = i
    rw [hs, ht, ← hname]
  refine List.pairwise_filterMap.2 (h.imp fun {i j} hij a ha b hb => ?_)
  rw [hitem ha, hitem hb]
  exact hij

section Made

variable {old : Option Database} {new : Database} {style : Sql.Style} {options : Options}
  {c : Comparison} (hc : c.WellMade)
  (hmake : make old new (some new.dependencyOrder) (old.map (·.dependencyOrder)) style options =
    .ok c)

include hc hmake

theorem pairwise_newTables (hacyclic : new.Acyclic) :
    c.newTables.Pairwise fun a b => ¬ new.TableDepends a b := by
  obtain ⟨horder, -, -, -, rfl, -⟩ := make_eq_ok_iff.1 hmake
  have he : c.newOrder = c.new.dependencyOrder := by
    obtain ⟨_, -, he⟩ := bind_eq_ok.1 horder
    exact (pure_eq_ok.1 he).symm
  rw [newTables, he]
  exact pairwise_tablesIn (Database.pairwise_dependencyOrder hc.new hacyclic)

theorem pairwise_oldTablesReversed {db : Database} (hold : old = some db) (hacyclic : db.Acyclic) :
    c.oldTablesReversed.Pairwise fun a b => ¬ db.TableDepends b a := by
  obtain ⟨-, horder, -, hcold, -⟩ := make_eq_ok_iff.1 hmake
  have hdb : c.old = some db := hcold.trans hold
  have he : c.oldOrder = db.dependencyOrder := by
    rw [hold] at horder
    obtain ⟨_, -, he⟩ := bind_eq_ok.1 horder
    exact (pure_eq_ok.1 he).symm
  simp only [oldTablesReversed, hdb, he]
  exact pairwise_tablesIn
    (List.pairwise_reverse.2 (Database.pairwise_dependencyOrder (hc.old db hdb) hacyclic))

end Made

end Comparison

/-! ### The tables that operations work on -/

namespace Op

/-- The table that a row is deleted from. -/
def deletedFrom? : Op → Option String
  | .deleteRow table _ => some table
  | _ => none

/-- The table that a row is inserted into or updated in. -/
def writtenTo? : Op → Option String
  | .insertRow table _ _ => some table
  | .updateRow table _ _ _ => some table
  | _ => none

/-- The table that is created, and the one that it inherits from. -/
def created? : Op → Option (String × Option String)
  | .createTable table _ parent => some (table, parent)
  | _ => none

variable {op : Op} {table : String}

theorem kind_of_deletedFrom? (h : op.deletedFrom? = some table) : op.kind = .deleteRow := by
  cases op <;> first | rfl | cases h

theorem kind_of_writtenTo? (h : op.writtenTo? = some table) :
    op.kind ∈ [OpKind.insertRow, .updateRow] := by
  cases op <;> first | cases h; simp [Op.kind] | cases h

theorem kind_of_created? {created : String × Option String} (h : op.created? = some created) :
    op.kind = .createTable := by
  cases op <;> first | rfl | cases h

end Op

namespace Comparison

variable {c : Comparison} {schema : String} {table : Table} {ops : List Op} {op : Op}

theorem deletedFrom?_of_tableDeletes (h : c.tableDeletes schema table = .ok ops) (hop : op ∈ ops) :
    op.deletedFrom? = some (Sql.qualified schema table.name) := by
  obtain ⟨sides, -, hsides⟩ := bind_eq_ok.1 h
  split at hsides
  · obtain ⟨row, _, hrow⟩ := exists_source_of_mapM hsides hop
    obtain ⟨key, _, he⟩ := bind_eq_ok.1 hrow
    rw [← pure_eq_ok.1 he]
    rfl
  · rw [← pure_eq_ok.1 hsides] at hop
    cases hop

theorem writtenTo?_of_upsertRow {address : String} {new : StaticRows} {old : Option StaticRows}
    {row : Row} (h : c.upsertRow address new old row = .ok ops) (hop : op ∈ ops) :
    op.writtenTo? = some address := by
  have hinsert : insertRow address new row = .ok ops → op.writtenTo? = some address := by
    intro h
    obtain ⟨_, _, he⟩ := bind_eq_ok.1 h
    rw [← pure_eq_ok.1 he, List.mem_singleton] at hop
    rw [hop]
    rfl
  unfold upsertRow at h
  split at h
  · exact hinsert h
  · split at h
    · exact hinsert h
    · simp only [updateRow, bind_eq_ok] at h
      obtain ⟨_, _, h⟩ := h
      split at h
      · rw [← pure_eq_ok.1 h] at hop
        cases hop
      · obtain ⟨_, _, he⟩ := bind_eq_ok.1 h
        rw [← pure_eq_ok.1 he, List.mem_singleton] at hop
        rw [hop]
        rfl

theorem writtenTo?_of_tableUpserts (h : c.tableUpserts schema table = .ok ops) (hop : op ∈ ops)
    {address : String} (hwritten : op.writtenTo? = some address) :
    address = Sql.qualified schema table.name := by
  obtain ⟨sides, -, hsides⟩ := bind_eq_ok.1 h
  split at hsides
  next new old =>
    obtain ⟨opss, hopss, he⟩ := bind_eq_ok.1 hsides
    rw [← pure_eq_ok.1 he, List.mem_append] at hop
    rcases hop with hop | hop
    · obtain ⟨rowOps, hrowOps, hop⟩ := List.mem_flatten.1 hop
      obtain ⟨row, _, hrow⟩ := exists_source_of_mapM hopss hrowOps
      exact Option.some.inj (hwritten.symm.trans (writtenTo?_of_upsertRow hrow hop))
    · have hkind := ofKinds_ite (ofKinds_advanceKey new _) ofKinds_nil op hop
      have hwrites := Op.kind_of_writtenTo? hwritten
      simp [List.mem_singleton.1 hkind] at hwrites
  next =>
    rw [← pure_eq_ok.1 hsides] at hop
    cases hop

/-- What is said about a table that is created: where it is, and where its parent is. -/
abbrev creation (item : Schema × Table) : String × Option String :=
  (Database.address item, item.2.inherits.map fun parent =>
    Sql.qualified (parent.resolve item.1.name).1 (parent.resolve item.1.name).2)

/-- Operations of other kinds create no table. -/
theorem not_created_of_ofKinds {kinds : List OpKind} (h : OfKinds kinds ops)
    (hnot : .createTable ∉ kinds) (hop : op ∈ ops) {created : String × Option String} :
    op.created? ≠ some created :=
  fun hcreated => hnot (Op.kind_of_created? hcreated ▸ h op hop)

theorem created?_of_tableWork {item : Schema × Table} {d : Draft}
    (h : c.tableWork item.1.name item.2 = .ok d) (hop : op ∈ d.opsAt .stage1)
    {created : String × Option String} (hcreated : op.created? = some created) :
    created = creation item := by
  unfold tableWork at h
  split at h
  · obtain ⟨ops, hops, he⟩ := bind_eq_ok.1 h
    obtain ⟨columns, rest, rfl, hrest⟩ := exists_of_createTable hops
    rw [← pure_eq_ok.1 he, Draft.opsAt_first] at hop
    rcases List.mem_cons.1 hop with rfl | hop
    · exact (Option.some.inj hcreated).symm
    · exact absurd hcreated (not_created_of_ofKinds hrest (by decide) hop)
  · obtain ⟨columns, hcolumns, he⟩ := bind_eq_ok.1 h
    rw [← pure_eq_ok.1 he, Draft.opsAt_append, Draft.opsAt_append, Draft.opsAt_first,
      List.mem_append, List.mem_append] at hop
    rcases hop with (hop | hop) | hop
    · exact absurd hcreated
        (not_created_of_ofKinds (ofKinds_renameTable _ _ _ _) (by decide) hop)
    · exact absurd hcreated
        (not_created_of_ofKinds (within_columnsWork hcolumns .stage1) (by decide) hop)
    · split at hop
      · cases hop
      · rw [List.mem_singleton.1 hop] at hcreated
        cases hcreated

/-- A table that is created is the one that is worked on. -/
theorem created?_of_tablePass {drops : List Constraint} {item : Schema × Table} {d : Draft}
    (h : c.tablePass drops item = .ok d) (hop : op ∈ d.opsAt .stage1)
    {created : String × Option String} (hcreated : op.created? = some created) :
    created = creation item := by
  obtain ⟨work, key, hwork, hkey, rfl⟩ := tablePass_eq_ok_iff.1 h
  rw [Draft.opsAt_append, Draft.opsAt_first, List.mem_append] at hop
  rcases hop with hop | hop
  · exact created?_of_tableWork hwork hop hcreated
  · have hkinds := (((ofKinds_tableIndexOps c item.1.name item.2).append
      (ofKinds_clusterOps c item.1.name item.2)).append (ofKinds_addPrimaryKey hkey)).append
      (ofKinds_tableTriggerOps c item.1 item.2)
    exact absurd hcreated (not_created_of_ofKinds hkinds (by decide) hop)

/-! ### Where work of a sort is found in a plan -/

section Plan

variable [QueryReader] {p : Plan} {former latter : Op → Prop} {schema rows : Draft}

/-- Changes to rows are in order if those of all tables are. -/
theorem precedes_of_rows (h : c.plan = .ok p)
    (hformer : ∀ op, former op → op.kind ∈ [OpKind.deleteRow, .insertRow, .updateRow])
    (hlatter : ∀ op, latter op → op.kind ∈ [OpKind.deleteRow, .insertRow, .updateRow])
    (hrows : ∀ deletes upserts,
      c.newTables.reverse.mapM (fun item => c.tableDeletes item.1.name item.2) = .ok deletes →
        c.newTables.mapM (fun item => c.tableUpserts item.1.name item.2) = .ok upserts →
          Precedes former latter (deletes.flatMap id ++ upserts.flatMap id)) :
    Precedes former latter p.ops := by
  obtain ⟨schema, rows, hschema, hwork, rfl⟩ := plan_eq_ok_iff.1 h
  refine (within_parts hschema hwork).precedes_toPlan .stage2 hformer hlatter
    (by decide) (fun other hne => ?_) ?_
  · cases other <;> first | exact absurd rfl hne | decide
  · have hnone : schema.opsAt .stage2 = [] := by
      split at hschema
      · rw [← Except.ok.inj hschema, Draft.opsAt_empty]
      · exact (within_schemaWork hschema .stage2).eq_nil
    rw [Draft.opsAt_append, hnone, List.nil_append]
    split at hwork
    · rw [← Except.ok.inj hwork, Draft.opsAt_empty]
      exact precedes_of_not_former fun op hop => absurd hop List.not_mem_nil
    · obtain ⟨deletes, hdeletes, hwork⟩ := bind_eq_ok.1 hwork
      obtain ⟨upserts, hupserts, he⟩ := bind_eq_ok.1 hwork
      have horder := hrows deletes upserts hdeletes hupserts
      rw [List.flatMap_id, List.flatMap_id] at horder
      rw [← pure_eq_ok.1 he]
      exact horder

/-- Operations of a kind that only the work on structure contributes, at one place, are in order if
they are there. -/
theorem precedes_of_structure (h : c.plan = .ok p) {kind : OpKind} (place : Place)
    (hformer : ∀ op, former op → op.kind = kind) (hlatter : ∀ op, latter op → op.kind = kind)
    (hown : kind ∉ [OpKind.comment, .customSql])
    (hother : ∀ other, other ≠ place → kind ∉ planKinds other)
    (hrows : kind ∉ rowKinds place) (hviews : kind ∉ viewKinds place)
    (hwork : ∀ work, c.structureWork = .ok work → Precedes former latter (work.opsAt place)) :
    Precedes former latter p.ops := by
  obtain ⟨schema, rows, hschema, hrowWork, rfl⟩ := plan_eq_ok_iff.1 h
  have hmem : ∀ {sort : Op → Prop}, (∀ op, sort op → op.kind = kind) →
      ∀ op, sort op → op.kind ∈ [kind] := fun hsort op hop => List.mem_singleton.2 (hsort op hop)
  refine (within_parts hschema hrowWork).precedes_toPlan place (hmem hformer)
    (hmem hlatter) (by simpa using hown) (fun other hne => by simpa using hother other hne) ?_
  rw [← precedes_filter_kind_iff hformer hlatter, Draft.opsAt_append,
    List.filter_append, (within_rowsIfWanted hrowWork place).filter_eq_nil _ hrows, List.append_nil]
  split at hschema
  · rw [← Except.ok.inj hschema, Draft.opsAt_empty]
    exact precedes_of_not_former fun op hop => absurd hop List.not_mem_nil
  · obtain ⟨-, work, hstructure, rfl⟩ := schemaWork_eq_ok_iff.1 hschema
    rw [Draft.opsAt_append, List.filter_append, (within_viewWork c _ place).filter_eq_nil _ hviews,
      List.append_nil, precedes_filter_kind_iff hformer hlatter]
    exact hwork work hstructure

/-- Tables are created in order if they are worked on in order. -/
theorem precedes_of_created (h : c.plan = .ok p)
    (hformer : ∀ op, former op → op.kind = .createTable)
    (hlatter : ∀ op, latter op → op.kind = .createTable)
    (htables : ∀ drops tables, c.newTables.mapM (c.tablePass drops) = .ok tables →
      Precedes former latter (tables.flatMap (·.opsAt .stage1))) :
    Precedes former latter p.ops := by
  refine precedes_of_structure h .stage1 hformer hlatter (by decide)
    (fun other hne => by cases other <;> first | exact absurd rfl hne | decide) (by decide)
    (by decide) fun work hwork => ?_
  obtain ⟨head, drops, sequences, tables, adds, tail, -, hpass, hadds, hhead, hsequences, htail,
    he⟩ := exists_stage1_parts hwork
  rw [he, ← precedes_filter_kind_iff hformer hlatter]
  simp only [List.filter_append, hhead.filter_eq_nil .createTable (by decide),
    (ofKinds_dropConstraintOps drops).filter_eq_nil .createTable (by decide),
    hsequences.filter_eq_nil .createTable (by decide),
    (ofKinds_of_mapM_addConstraints hadds).filter_eq_nil .createTable (by decide),
    htail.filter_eq_nil .createTable (by decide), List.nil_append, List.append_nil]
  rw [precedes_filter_kind_iff hformer hlatter]
  exact htables drops tables hpass

/-- Tables are dropped in order if they are gone through in order. -/
theorem precedes_of_dropped (h : c.plan = .ok p)
    (hformer : ∀ op, former op → op.kind = .dropTable)
    (hlatter : ∀ op, latter op → op.kind = .dropTable)
    (hdrops : Precedes former latter (c.dropTables.opsAt .stage3)) :
    Precedes former latter p.ops := by
  refine precedes_of_structure h .stage3 hformer hlatter (by decide)
    (fun other hne => by cases other <;> first | exact absurd rfl hne | decide) (by decide)
    (by decide) fun work hwork => ?_
  obtain ⟨before, after, rfl, hbefore, hafter⟩ := exists_around_dropTables hwork
  rw [Draft.opsAt_append, Draft.opsAt_append, ← precedes_filter_kind_iff hformer hlatter,
    List.filter_append, List.filter_append, (hbefore .stage3).filter_eq_nil _ (by decide),
    (hafter .stage3).filter_eq_nil _ (by decide), List.nil_append, List.append_nil,
    precedes_filter_kind_iff hformer hlatter]
  exact hdrops

end Plan

end Comparison

/-! ### Plans and dependencies -/

open Database (address)

/-- A plan that honours the dependencies of either version. -/
structure HonoursDependencies (old : Option Database) (new : Database) (p : Plan) : Prop where
  /-- Static rows are changed in the second stage. -/
  rows_stage : ∀ q ∈ p, q.op.deletedFrom?.isSome ∨ q.op.writtenTo?.isSome → q.stage = .stage2
  /-- Rows go before any row comes or changes. -/
  deletes_first : Precedes (·.deletedFrom?.isSome) (·.writtenTo?.isSome) p.ops
  deletes : ∀ a ∈ new.tables, ∀ b ∈ new.tables, new.TableDepends a b →
    Precedes (·.deletedFrom? = some (address a)) (·.deletedFrom? = some (address b)) p.ops
  writes : ∀ a ∈ new.tables, ∀ b ∈ new.tables, new.TableDepends a b →
    Precedes (·.writtenTo? = some (address b)) (·.writtenTo? = some (address a)) p.ops
  /-- A parent is created before what inherits from it. -/
  created : ∀ table parent, table ≠ parent →
    Precedes (fun op => ∃ grandparent, op.created? = some (parent, grandparent))
      (·.created? = some (table, some parent)) p.ops
  dropped : ∀ db, old = some db → ∀ a ∈ db.tables, ∀ b ∈ db.tables, db.TableDepends a b →
    Precedes (· = .dropTable (address a)) (· = .dropTable (address b)) p.ops

namespace Comparison

section Dependencies

variable [QueryReader] {old : Option Database} {new : Database} {style : Sql.Style}
  {options : Options} {c : Comparison} {p : Plan} (hc : c.WellMade)
  (hmake : make old new (some new.dependencyOrder) (old.map (·.dependencyOrder)) style options =
    .ok c) (h : c.plan = .ok p)

include h

/-- Deletions come first, whatever the order of tables. -/
theorem precedes_deletes_writes :
    Precedes (·.deletedFrom?.isSome) (·.writtenTo?.isSome) p.ops := by
  have hdeleted : ∀ op : Op, op.deletedFrom?.isSome → op.kind = .deleteRow := fun op hop => by
    obtain ⟨table, hop⟩ := Option.isSome_iff_exists.1 hop
    exact Op.kind_of_deletedFrom? hop
  have hwritten : ∀ op : Op, op.writtenTo?.isSome → op.kind ∈ [OpKind.insertRow, .updateRow] :=
    fun op hop => by
      obtain ⟨table, hop⟩ := Option.isSome_iff_exists.1 hop
      exact Op.kind_of_writtenTo? hop
  refine precedes_of_rows h (fun op hop => ?_) (fun op hop => ?_) fun deletes upserts hdeletes
    hupserts => precedes_append (fun op hop hop' => ?_) fun op hop hop' => ?_
  · rw [hdeleted op hop]
    decide
  · exact List.mem_cons_of_mem _ (hwritten op hop)
  · rw [List.flatMap_id] at hop
    have hkind := ofKinds_of_mapM hdeletes (fun _ _ _ => ofKinds_tableDeletes) op hop
    have := hwritten op hop'
    simp [List.mem_singleton.1 hkind] at this
  · rw [List.flatMap_id] at hop
    have hkind := ofKinds_of_mapM hupserts (fun _ _ _ => ofKinds_tableUpserts) op hop
    simp [hdeleted op hop'] at hkind

variable (hdots : new.DotFree) (hacyclic : new.Acyclic)

include hc hmake hdots hacyclic

/-- Rows of dependent tables are deleted first. -/
theorem precedes_deletes {a b : Schema × Table} (ha : a ∈ new.tables) (hb : b ∈ new.tables)
    (hab : new.TableDepends a b) :
    Precedes (·.deletedFrom? = some (address a)) (·.deletedFrom? = some (address b)) p.ops := by
  have hkind : ∀ (item : Schema × Table) (op : Op), op.deletedFrom? = some (address item) →
      op.kind = .deleteRow := fun _ _ => Op.kind_of_deletedFrom?
  have horder := List.pairwise_reverse.2 (pairwise_newTables hc hmake hacyclic)
  obtain ⟨-, -, -, -, rfl, -⟩ := make_eq_ok_iff.1 hmake
  refine precedes_of_rows h (fun op hop => ?_) (fun op hop => ?_) fun deletes upserts hdeletes
    hupserts => ?_
  · simp [hkind a op hop]
  · simp [hkind b op hop]
  have hupsertsNot : ∀ op ∈ upserts.flatMap id, op.deletedFrom? ≠ some (address a) := by
    intro op hop hop'
    rw [List.flatMap_id] at hop
    have hmem := ofKinds_of_mapM hupserts (fun _ _ _ => ofKinds_tableUpserts) op hop
    simp [hkind a op hop'] at hmem
  refine precedes_append_iff.2 ⟨?_, precedes_of_not_former hupsertsNot,
    fun _ _ op hop _ => hupsertsNot op hop⟩
  refine precedes_of_mapM (r := fun x y => c.new.TableDepends y x) hdeletes
    (fun x _ => hacyclic.not_depends_self _) horder ?_
  intro x hx y hy v w hv hw op hop other hother hlatter hformer
  have hfrom := deletedFrom?_of_tableDeletes hv hop
  have hfrom' := deletedFrom?_of_tableDeletes hw hother
  have hxMem := hc.mem_newTables.1 (List.mem_reverse.1 hx)
  have hyMem := hc.mem_newTables.1 (List.mem_reverse.1 hy)
  rw [(hc.new.address_inj hdots hxMem hb).1 (Option.some.inj (hfrom.symm.trans hlatter)),
    (hc.new.address_inj hdots hyMem ha).1 (Option.some.inj (hfrom'.symm.trans hformer))]
  exact hab

/-- Rows are inserted into and updated in dependent tables last. -/
theorem precedes_writes {a b : Schema × Table} (ha : a ∈ new.tables) (hb : b ∈ new.tables)
    (hab : new.TableDepends a b) :
    Precedes (·.writtenTo? = some (address b)) (·.writtenTo? = some (address a)) p.ops := by
  have hkind : ∀ (item : Schema × Table) (op : Op), op.writtenTo? = some (address item) →
      op.kind ∈ [OpKind.insertRow, .updateRow] := fun _ _ => Op.kind_of_writtenTo?
  have horder := pairwise_newTables hc hmake hacyclic
  obtain ⟨-, -, -, -, rfl, -⟩ := make_eq_ok_iff.1 hmake
  refine precedes_of_rows h (fun op hop => List.mem_cons_of_mem _ (hkind b op hop))
    (fun op hop => List.mem_cons_of_mem _ (hkind a op hop))
    fun deletes upserts hdeletes hupserts => ?_
  have hdeletesNot : ∀ op ∈ deletes.flatMap id, op.writtenTo? ≠ some (address a) := by
    intro op hop hop'
    rw [List.flatMap_id] at hop
    have hmem := ofKinds_of_mapM hdeletes (fun _ _ _ => ofKinds_tableDeletes) op hop
    have := hkind a op hop'
    simp [List.mem_singleton.1 hmem] at this
  refine precedes_append_iff.2 ⟨precedes_of_not_latter hdeletesNot, ?_,
    fun op hop _ _ hlatter => absurd hlatter (hdeletesNot op hop)⟩
  refine precedes_of_mapM (r := c.new.TableDepends) hupserts
    (fun x _ => hacyclic.not_depends_self _) horder ?_
  intro x hx y hy v w hv hw op hop other hother hlatter hformer
  rw [← (hc.new.address_inj hdots ha (hc.mem_newTables.1 hx)).1
      (writtenTo?_of_tableUpserts hv hop hlatter),
    ← (hc.new.address_inj hdots hb (hc.mem_newTables.1 hy)).1
      (writtenTo?_of_tableUpserts hw hother hformer)]
  exact hab

/-- A table is created after the table that it inherits from. -/
theorem precedes_created (hvalid : new.validate = .ok ()) {table parent : String}
    (hne : table ≠ parent) :
    Precedes (fun op => ∃ grandparent, op.created? = some (parent, grandparent))
      (·.created? = some (table, some parent)) p.ops := by
  have horder := pairwise_newTables hc hmake hacyclic
  obtain ⟨-, -, -, -, rfl, -⟩ := make_eq_ok_iff.1 hmake
  refine precedes_of_created h (fun op ⟨_, hop⟩ => Op.kind_of_created? hop)
    (fun op hop => Op.kind_of_created? hop) fun drops tables htables => ?_
  refine precedes_of_mapM (r := c.new.TableDepends) htables
    (fun x _ => hacyclic.not_depends_self _) horder ?_
  rintro x hx y hy v w hv hw op hop other hother hlatter ⟨grandparent, hformer⟩
  have hxMem := hc.mem_newTables.1 hx
  have hyMem := hc.mem_newTables.1 hy
  obtain ⟨hxAddress, hxParent⟩ := Prod.mk.inj (created?_of_tablePass hv hop hlatter)
  obtain ⟨hyAddress, -⟩ := Prod.mk.inj (created?_of_tablePass hw hother hformer)
  obtain ⟨target, htarget, hparent⟩ := Option.map_eq_some_iff.1 hxParent.symm
  -- The parent is a table of the definition, so its schema has no dot in its name either.
  obtain ⟨_, hcheck⟩ := Database.checkTable_of_validate hvalid hxMem
  obtain ⟨found, hfound⟩ := exists_parent_of_checkTable hcheck htarget
  obtain ⟨hfoundMem, hs, ht⟩ := hc.new.table?_eq_some_iff.1 hfound
  have hkey : target.resolve x.1.name = itemKey found := Prod.ext hs.symm ht.symm
  have hy' : y = found := by
    refine (hc.new.address_inj hdots hyMem hfoundMem).1 ?_
    exact hyAddress.symm.trans (hparent.symm.trans (by rw [hs, ht]))
  subst hy'
  refine Database.depends_of_inherits hc.new hxMem htarget hkey fun he => hne ?_
  rw [hxAddress, hyAddress, hc.new.eq_of_key_eq hyMem hxMem he]

omit hdots hacyclic in
/-- Dependent tables are dropped first. -/
theorem precedes_dropped {db : Database} (hold : old = some db) (hdots : db.DotFree)
    (hacyclic : db.Acyclic) {a b : Schema × Table} (ha : a ∈ db.tables) (hb : b ∈ db.tables)
    (hab : db.TableDepends a b) :
    Precedes (· = .dropTable (address a)) (· = .dropTable (address b)) p.ops := by
  have horder := pairwise_oldTablesReversed hc hmake hold hacyclic
  obtain ⟨-, -, -, hcold, -⟩ := make_eq_ok_iff.1 hmake
  have hdb : c.old = some db := hcold.trans hold
  refine precedes_of_dropped h (fun op hop => by rw [hop]; rfl) (fun op hop => by rw [hop]; rfl) ?_
  show Precedes _ _ (c.oldTablesReversed.filterMap _)
  rw [List.filterMap_eq_flatMap_toList]
  refine precedes_flatMap (r := fun x y => db.TableDepends y x)
    (fun x _ => hacyclic.not_depends_self _) horder ?_
  intro x hx y hy op hop other hother hlatter hformer
  have hdrop : ∀ {item : Schema × Table} {op : Op},
      op ∈ (if (c.newVersion? item.1.name item.2.name).isNone then
        some (Op.dropTable (address item)) else none).toList → op = .dropTable (address item) := by
    intro item op hop
    split at hop
    · simpa using hop
    · simp at hop
  have hxb := (hdrop hop).symm.trans hlatter
  have hya := (hdrop hother).symm.trans hformer
  have hmem : ∀ {item}, item ∈ c.oldTablesReversed → item ∈ db.tables :=
    (hc.mem_oldTablesReversed hdb).1
  rw [((hc.old db hdb).address_inj hdots (hmem hx) hb).1 (Op.dropTable.inj hxb),
    ((hc.old db hdb).address_inj hdots (hmem hy) ha).1 (Op.dropTable.inj hya)]
  exact hab

end Dependencies

end Comparison

/-- **A plan honours the dependencies.**  Where nothing depends on itself, directly or through others,
rows are deleted from dependent tables first and written to them last, a table is created after its
parent, and dependent tables are dropped first. -/
theorem plan_honours_dependencies [QueryReader] {old : Option Database} {new : Database}
    {style : Sql.Style} {options : Options} {p : Plan} (h : plan old new style options = .ok p)
    (hnewDots : new.DotFree) (holdDots : ∀ db, old = some db → db.DotFree) (hnew : new.Acyclic)
    (hold : ∀ db, old = some db → db.Acyclic) :
    HonoursDependencies old new p := by
  obtain ⟨c, hmake, hc, hp⟩ := Comparison.wellMade_of_plan h
  obtain ⟨planned, hstaged⟩ := plan_keeps_stages (show planWithOrders old new
    (some new.dependencyOrder) (old.map (·.dependencyOrder)) style options = .ok p from h)
  refine ⟨fun q hq hrow => ?_, Comparison.precedes_deletes_writes hp,
    fun a ha b hb => Comparison.precedes_deletes hc hmake hp hnewDots hnew ha hb,
    fun a ha b hb => Comparison.precedes_writes hc hmake hp hnewDots hnew ha hb,
    fun table parent hne => Comparison.precedes_created hc hmake hp hnewDots hnew
      (plan_eq_ok_iff.1 h).1 hne,
    fun db hdb a ha b hb hab => Comparison.precedes_dropped hc hmake hp hdb (holdDots db hdb)
      (hold db hdb) ha hb hab⟩
  have hrows : q.op.kind ∉ [OpKind.comment, .customSql] ∧ q.op.stages = [.stage2] := by
    generalize q.op = op at hrow
    cases op <;> first
      | exact ⟨by simp [Op.kind], rfl⟩
      | simp [Op.deletedFrom?, Op.writtenTo?] at hrow
  have hmem := hstaged.mem_stages hq hrows.1
  rw [hrows.2] at hmem
  exact List.mem_singleton.1 hmem

/-! ### A harbour -/

attribute [local instance] QueryReader.blank

/-- A table of a harbour with columns and rows of its own choice. -/
def Harbour.table (name : String) (columns : List Column) (rows : List (List String)) : Table where
  name
  primaryKey := ["id"]
  columns := { name := "id", dataType := some "bigint" } :: columns
  rows := if rows.isEmpty then none else some {
    columns := "id" :: columns.map (·.name)
    rows := rows.map fun row => { cells := row.map fun v => { value := some v } } }

/-- A column that refers to another table. -/
def Harbour.reference (name table : String) : Column where
  name
  foreignKey := some { table, column := some "id" }

/-- A harbour whose ships have berths and whose voyages have captains. -/
def Harbour.first : Database where
  schemas := [{
    name := "harbour"
    tables := [Harbour.table "captains" [] [],
      Harbour.table "voyages" [Harbour.reference "captain" "captains"] [],
      Harbour.table "berths" [] [["1"]],
      Harbour.table "ships" [Harbour.reference "berth" "berths"] [["7", "1"]]] }]

/-- Another ship has another berth, voyages are forgotten with their captains, and there are tugs
among other vessels.  Each table is declared in front of the one it depends on. -/
def Harbour.second : Database where
  schemas := [{
    name := "harbour"
    tables := [{ name := "tugs", inherits := some { table := "vessels" } },
      { name := "vessels", columns := [{ name := "flag", dataType := some "text" }] },
      Harbour.table "ships" [Harbour.reference "berth" "berths"] [["8", "2"]],
      Harbour.table "berths" [] [["2"]]] }]

/-- The plan from one harbour to the other. -/
def Harbour.upgrade : Plan := [
  ⟨.stage1, .dropConstraint "harbour.voyages" "voyages_captain_fkey"⟩,
  ⟨.stage1, .createTable "harbour.vessels" [{ name := "flag", dataType := "text" }] none⟩,
  ⟨.stage1, .createTable "harbour.tugs" [] (some "harbour.vessels")⟩,
  ⟨.stage2, .deleteRow "harbour.ships" [("id", "7")]⟩,
  ⟨.stage2, .deleteRow "harbour.berths" [("id", "1")]⟩,
  ⟨.stage2, .insertRow "harbour.berths" ["id"] ["2"]⟩,
  ⟨.stage2, .insertRow "harbour.ships" ["id", "berth"] ["8", "2"]⟩,
  ⟨.stage3, .dropTable "harbour.voyages"⟩,
  ⟨.stage3, .dropTable "harbour.captains"⟩]

theorem plan_honours_dependencies_of_harbour :
    plan (some Harbour.first) Harbour.second {} {} = .ok Harbour.upgrade ∧
      HonoursDependencies (some Harbour.first) Harbour.second Harbour.upgrade := by
  have h : plan (some Harbour.first) Harbour.second {} {} = .ok Harbour.upgrade := by
    decide +kernel
  have hfirst : Harbour.first.Acyclic :=
    Database.acyclic_of_rank (fun key => if key.2 ∈ ["voyages", "ships"] then 1 else 0)
      (by decide +kernel)
  have hsecond : Harbour.second.Acyclic :=
    Database.acyclic_of_rank (fun key => if key.2 ∈ ["tugs", "ships"] then 1 else 0)
      (by decide +kernel)
  refine ⟨h, plan_honours_dependencies h (by decide +kernel) ?_ hsecond ?_⟩
  · rintro _ ⟨⟩
    decide +kernel
  · rintro _ ⟨⟩
    exact hfirst

end SchemaPlan
