import SchemaPlan.Proofs.ElementMigration

/-!
# The index that a table follows

A table may be set to follow one of its indexes.  The setting is gone when that index is dropped, and
stays until then or until another is made (`clusterAfter`).  The operations on the indexes of a table
come first, and then the setting is made if the new version declares another one than the old.

So the setting is what it should be unless both versions declare the same index and that index is
dropped, which it is if it changes (`ClusterReplaced`): then it is created again, and nothing makes the
setting (`cluster_setting_upgraded`).  `cluster_setting_lost` has such an index.
-/

namespace SchemaPlan

/-! ### The setting and what is done to it -/

/-- The index that a table follows after an operation. -/
def Op.onCluster (schema table : String) : Op → Option String → Option String
  | .dropIndex s name, setting => if s = schema ∧ setting = some name then none else setting
  | .setCluster address index, setting =>
    if address = Sql.qualified schema table then index else setting
  | _, setting => setting

/-- The index that a table follows after operations, one after the other. -/
def clusterAfter (schema table : String) (ops : List Op) (setting : Option String) :
    Option String :=
  ops.foldl (fun setting op => op.onCluster schema table setting) setting

section Run

variable {schema table : String}

theorem clusterAfter_append (a b : List Op) (setting : Option String) :
    clusterAfter schema table (a ++ b) setting =
      clusterAfter schema table b (clusterAfter schema table a setting) :=
  List.foldl_append

/-- Other operations leave the setting alone. -/
theorem clusterAfter_of_others {kinds : List OpKind} {ops : List Op} (h : OfKinds kinds ops)
    (hnot : ∀ kind ∈ kinds, kind ≠ .dropIndex ∧ kind ≠ .setCluster) (setting : Option String) :
    clusterAfter schema table ops setting = setting := by
  induction ops with
  | nil => rfl
  | cons op ops ih =>
    obtain ⟨hop, hops⟩ := ofKinds_cons.1 h
    have hkind := hnot _ hop
    have hsetting : op.onCluster schema table setting = setting := by
      cases op with
      | dropIndex => exact absurd rfl hkind.1
      | setCluster => exact absurd rfl hkind.2
      | _ => rfl
    show clusterAfter schema table ops (op.onCluster schema table setting) = setting
    rw [hsetting]
    exact ih hops

/-- A table that follows no index follows none after operations on its indexes. -/
theorem clusterAfter_none {ops : List Op} (h : OfKinds [.dropIndex, .createIndex] ops) :
    clusterAfter schema table ops none = none := by
  induction ops with
  | nil => rfl
  | cons op ops ih =>
    obtain ⟨hop, hops⟩ := ofKinds_cons.1 h
    have hnone : op.onCluster schema table none = none := by
      cases op with
      | setCluster => simp [Op.kind] at hop
      | dropIndex => exact ite_self _
      | _ => rfl
    show clusterAfter schema table ops (op.onCluster schema table none) = none
    rw [hnone]
    exact ih hops

/-- After operations on its indexes a table follows the index that it followed unless that is
dropped. -/
theorem clusterAfter_some {ops : List Op} (h : OfKinds [.dropIndex, .createIndex] ops)
    (name : String) : clusterAfter schema table ops (some name) =
      if .dropIndex schema name ∈ ops then none else some name := by
  induction ops with
  | nil => rfl
  | cons op ops ih =>
    obtain ⟨hop, hops⟩ := ofKinds_cons.1 h
    show clusterAfter schema table ops (op.onCluster schema table (some name)) = _
    by_cases he : op = .dropIndex schema name
    · subst he
      rw [Op.onCluster, if_pos ⟨rfl, rfl⟩, clusterAfter_none hops, if_pos List.mem_cons_self]
    · have hkept : op.onCluster schema table (some name) = some name := by
        cases op with
        | setCluster => simp [Op.kind] at hop
        | dropIndex s n =>
          refine if_neg ?_
          rintro ⟨rfl, hn⟩
          exact he (by rw [Option.some.inj hn])
        | _ => rfl
      rw [hkept, ih hops]
      simp [Ne.symm he]

end Run

/-! ### Indexes that are replaced -/

/-- Both versions of a table follow the index of one name, and it is not the same index. -/
def ClusterReplaced (old new : Table) : Prop :=
  ∃ name o n, old.clusterIndex = some name ∧ new.clusterIndex = some name ∧
    old.index? name = some o ∧ new.index? name = some n ∧ n.same o = false

/-- The index that a table follows is declared. -/
theorem exists_index_of_validate {db : Database} {u : Unit} (h : db.validate = .ok u)
    {item : Schema × Table} (hm : item ∈ db.tables) {name : String}
    (hcluster : item.2.clusterIndex = some name) : ∃ i, item.2.index? name = some i := by
  obtain ⟨_, hcheck⟩ := Database.checkTable_of_validate h hm
  unfold checkTable at hcheck
  -- Whether the table inherits decides where the check of its index stands.
  cases hparent : item.2.inherits with
  | none =>
    simp only [hparent, hcluster, bind_eq_ok, ensure_eq_ok] at hcheck
    obtain ⟨_, -, _, -, _, -, _, -, _, hindex, -⟩ := hcheck
    exact Option.isSome_iff_exists.1 hindex
  | some parent =>
    simp only [hparent, hcluster, bind_eq_ok, ensure_eq_ok] at hcheck
    obtain ⟨_, -, _, -, _, -, _, -, _, -, _, hindex, -⟩ := hcheck
    exact Option.isSome_iff_exists.1 hindex

/-- Indexes that columns stand for come behind the declared ones. -/
theorem mem_foldl_addIndex {more : List Index} :
    ∀ {indexes : List Index} {i : Index}, i ∈ indexes → i ∈ more.foldl addIndex indexes := by
  induction more with
  | nil => exact fun hi => hi
  | cons m more ih =>
    intro indexes i hi
    refine ih ?_
    unfold addIndex
    split
    · exact hi
    · exact List.mem_append_left _ hi

theorem mem_effectiveIndexes_of_index? {t : Table} {name : String} {i : Index}
    (h : t.index? name = some i) : i ∈ t.effectiveIndexes ∧ i.name = name :=
  ⟨mem_foldl_addIndex (List.mem_of_find?_eq_some h), by simpa using List.find?_some h⟩

/-- An index of a name that both sides have is dropped exactly if it is not the same. -/
theorem dropIndex_mem_indexOps_iff {schema table : String} {old new : List Index}
    (hold : (old.map (·.name)).Nodup) (hnew : (new.map (·.name)).Nodup) {o n : Index}
    (ho : o ∈ old) (hn : n ∈ new) (hname : o.name = n.name) :
    .dropIndex schema o.name ∈ indexOps schema table old new ↔ n.same o = false := by
  have hdrop : .dropIndex schema o.name ∈ indexOps schema table old new ↔
      ∃ o' ∈ old, (∀ n' ∈ new, n'.name = o'.name → n'.same o' = false) ∧ o'.name = o.name := by
    simp [indexOps, and_assoc]
  rw [hdrop]
  constructor
  · rintro ⟨o', ho', hnone, hname'⟩
    obtain rfl := List.inj_on_of_nodup_map hold ho' ho hname'
    exact hnone n hn hname.symm
  · intro hsame
    refine ⟨o, ho, fun n' hn' hname' => ?_, rfl⟩
    obtain rfl := List.inj_on_of_nodup_map hnew hn' hn (hname'.trans hname)
    exact hsame

namespace Comparison

variable {c : Comparison}

theorem clusterAfter_clusterOps {item prev : Schema × Table}
    (hprev : c.oldVersion? item.1.name item.2.name = some prev) (setting : Option String) :
    clusterAfter item.1.name item.2.name (c.clusterOps item.1.name item.2) setting =
      if prev.2.clusterIndex = item.2.clusterIndex then setting else item.2.clusterIndex := by
  rw [clusterOps, hprev, Option.bind_some]
  by_cases h : prev.2.clusterIndex = item.2.clusterIndex
  · rw [if_pos (beq_iff_eq.2 h), if_pos h]
    rfl
  · rw [if_neg (mt beq_iff_eq.1 h), if_neg h]
    exact if_pos rfl

/-- Of all the work on a table only that on its indexes and on the setting makes a difference. -/
theorem clusterAfter_tablePass {drops : List Constraint} {item : Schema × Table} {d : Draft}
    (h : c.tablePass drops item = .ok d) (schema table : String) (setting : Option String) :
    clusterAfter schema table (d.opsAt .stage1) setting =
      clusterAfter schema table
        (c.tableIndexOps item.1.name item.2 ++ c.clusterOps item.1.name item.2) setting := by
  obtain ⟨work, key, hwork, hkey, rfl⟩ := tablePass_eq_ok_iff.1 h
  simp only [Draft.opsAt_append, Draft.opsAt_first, clusterAfter_append]
  rw [clusterAfter_of_others (within_tableWork hwork .stage1) (by decide),
    clusterAfter_of_others (ofKinds_tableTriggerOps c _ _) (by decide),
    clusterAfter_of_others (ofKinds_addPrimaryKey hkey) (by decide)]

end Comparison

/-- Where both versions of a table follow the index of one name, it is dropped exactly if it is
replaced. -/
theorem clusterReplaced_iff {old new : Database} {c : Comparison} (hold : old.validate = .ok ())
    (hnew : new.validate = .ok ()) {item prev : Schema × Table} (hm : item ∈ new.tables)
    (hprevious : prev ∈ old.tables)
    (hprev : c.oldVersion? item.1.name item.2.name = some prev) {name : String}
    (hfollowed : prev.2.clusterIndex = some name) (hfollows : item.2.clusterIndex = some name) :
    .dropIndex item.1.name name ∈ c.tableIndexOps item.1.name item.2 ↔
      ClusterReplaced prev.2 item.2 := by
  obtain ⟨o, ho⟩ := exists_index_of_validate hold hprevious hfollowed
  obtain ⟨n, hn⟩ := exists_index_of_validate hnew hm hfollows
  obtain ⟨hmo, honame⟩ := mem_effectiveIndexes_of_index? ho
  obtain ⟨hmn, hnname⟩ := mem_effectiveIndexes_of_index? hn
  have hindexes := ((Database.coherent_of_validate hold).table_of_mem hprevious).indexNames
  have hindexes' := ((Database.coherent_of_validate hnew).table_of_mem hm).indexNames
  have hdropped : .dropIndex item.1.name name ∈ c.tableIndexOps item.1.name item.2 ↔
      n.same o = false := by
    rw [Comparison.tableIndexOps, hprev, ← honame]
    exact dropIndex_mem_indexOps_iff (nodup_effectiveIndexes hindexes)
      (nodup_effectiveIndexes hindexes') hmo hmn (honame.trans hnname.symm)
  rw [hdropped]
  constructor
  · exact fun hsame => ⟨name, o, n, hfollowed, hfollows, ho, hn, hsame⟩
  · rintro ⟨name', o', n', hfollowed', -, ho', hn', hsame⟩
    obtain rfl : name' = name := Option.some.inj (hfollowed'.symm.trans hfollowed)
    rwa [Option.some.inj (ho.symm.trans ho'), Option.some.inj (hn.symm.trans hn')]

/-- **The setting is upgraded unless its index is replaced.**  A table that continues another, and
with its indexes the setting, follows after the work on it the index that the new version declares, or
none if it declares none, except if that index is the one it followed and is not the same any more:
then it follows none. -/
theorem cluster_setting_upgraded {old new : Database} {newOrder oldOrder : Option (List OrderItem)}
    {style : Sql.Style} {options : Options} {c : Comparison}
    (hold : old.validate = .ok ()) (hnew : new.validate = .ok ())
    (hmake : Comparison.make (some old) new newOrder oldOrder style options = .ok c)
    {item prev : Schema × Table} (hm : item ∈ new.tables)
    (hprev : c.oldVersion? item.1.name item.2.name = some prev) :
    let after := clusterAfter item.1.name item.2.name
      (c.tableIndexOps item.1.name item.2 ++ c.clusterOps item.1.name item.2) prev.2.clusterIndex
    (after = item.2.clusterIndex ↔ ¬ClusterReplaced prev.2 item.2) ∧
      (ClusterReplaced prev.2 item.2 → after = none) ∧
      ∀ drops work, c.tablePass drops item = .ok work →
        clusterAfter item.1.name item.2.name (work.opsAt .stage1) prev.2.clusterIndex = after := by
  intro after
  have hprevious : prev ∈ old.tables := by
    obtain ⟨-, -, -, hcold, -⟩ := Comparison.make_eq_ok_iff.1 hmake
    have hwell : c.WellMade := Comparison.wellMade_of_make (Database.coherent_of_validate hnew)
      (fun db hdb => Option.some.inj hdb ▸ Database.coherent_of_validate hold) hmake
    exact hwell.mem_old_of_oldVersion? hcold hprev
  have hkinds := Comparison.ofKinds_tableIndexOps c item.1.name item.2
  have hafter : after = if prev.2.clusterIndex = item.2.clusterIndex
      then clusterAfter item.1.name item.2.name (c.tableIndexOps item.1.name item.2)
        prev.2.clusterIndex
      else item.2.clusterIndex := by
    show clusterAfter _ _ _ _ = _
    rw [clusterAfter_append, Comparison.clusterAfter_clusterOps hprev]
  have hdropped : ∀ {name}, prev.2.clusterIndex = some name → item.2.clusterIndex = some name →
      (.dropIndex item.1.name name ∈ c.tableIndexOps item.1.name item.2 ↔
        ClusterReplaced prev.2 item.2) :=
    clusterReplaced_iff hold hnew hm hprevious hprev
  have hreplaced : ClusterReplaced prev.2 item.2 → after = none ∧ item.2.clusterIndex ≠ none := by
    intro hrep
    obtain ⟨name, -, -, hfollowed, hfollows, -⟩ := id hrep
    rw [hafter, if_pos (hfollowed.trans hfollows.symm), hfollowed, clusterAfter_some hkinds,
      if_pos ((hdropped hfollowed hfollows).2 hrep), hfollows]
    exact ⟨rfl, nofun⟩
  have hstays : ¬ClusterReplaced prev.2 item.2 → after = item.2.clusterIndex := by
    intro hnot
    rw [hafter]
    by_cases heq : prev.2.clusterIndex = item.2.clusterIndex
    · rw [if_pos heq, heq]
      cases hfollows : item.2.clusterIndex with
      | none => exact clusterAfter_none hkinds
      | some name =>
        rw [clusterAfter_some hkinds,
          if_neg (mt (hdropped (heq.trans hfollows) hfollows).1 hnot)]
    · rw [if_neg heq]
  refine ⟨⟨fun he hrep => ?_, hstays⟩, fun hrep => (hreplaced hrep).1, fun drops work hwork => ?_⟩
  · obtain ⟨hnone, hsome⟩ := hreplaced hrep
    exact hsome (he.symm.trans hnone)
  · exact Comparison.clusterAfter_tablePass hwork _ _ _

/-! ### A bakery and its orders -/

attribute [local instance] QueryReader.blank

/-- Orders of a bakery, of which there is an index by days and one by customers. -/
def Bakery.orders (days : String) (follows : Option String) : Table where
  name := "orders"
  clusterIndex := follows
  columns := [{ name := "day", dataType := some "date" },
    { name := "customer", dataType := some "text" }]
  indexes := [{ name := "by_day", dimensions := [days] },
    { name := "by_customer", dimensions := ["customer"] }]

/-- The bakery with these orders alone. -/
def Bakery.database (orders : Table) : Database where
  schemas := [{ name := "bakery", tables := [orders] }]

/-- Orders that followed the index by customers follow the one by days, which is made again. -/
theorem cluster_setting_upgraded_of_bakery :
    let old := Bakery.orders "day" (some "by_customer")
    let new := Bakery.orders "day DESC" (some "by_day")
    (Bakery.database old).validate = .ok () ∧ (Bakery.database new).validate = .ok () ∧
      ¬ClusterReplaced old new ∧
      clusterAfter "bakery" "orders"
        [.dropIndex "bakery" "by_day",
          .createIndex "bakery.orders" { name := "by_day", dimensions := ["day DESC"] },
          .setCluster "bakery.orders" (some "by_day")] (some "by_customer") = some "by_day" := by
  intro old new
  have hold : (Bakery.database old).validate = .ok () := by decide +kernel
  have hnew : (Bakery.database new).validate = .ok () := by decide +kernel
  have hrun : (do
      let c ← Comparison.make (some (Bakery.database old)) (Bakery.database new) none none {} {}
      return (c.oldVersion? "bakery" "orders",
        c.tableIndexOps "bakery" new ++ c.clusterOps "bakery" new)) =
      .ok (some ({ name := "bakery", tables := [old] }, old),
        [.dropIndex "bakery" "by_day",
          .createIndex "bakery.orders" { name := "by_day", dimensions := ["day DESC"] },
          .setCluster "bakery.orders" (some "by_day")]) := by
    decide +kernel
  simp only [bind_eq_ok, pure_eq_ok, Prod.mk.injEq] at hrun
  obtain ⟨c, hmake, hprev, hops⟩ := hrun
  have hkept : ¬ClusterReplaced old new := by
    rintro ⟨name, _, _, hfollowed, hfollows, -⟩
    have hname := hfollowed.trans hfollows.symm
    exact absurd hname (by decide)
  have hm : (({ name := "bakery", tables := [new] } : Schema), new) ∈
      (Bakery.database new).tables := List.mem_cons_self
  have hdone := (cluster_setting_upgraded hold hnew hmake hm hprev).1.2 hkept
  refine ⟨hold, hnew, hkept, ?_⟩
  rw [← hops]
  exact hdone

/-- **The setting is lost.**  Orders follow the index by days in both versions, but that index changes:
it is dropped and created, and then the orders follow none. -/
theorem cluster_setting_lost :
    let old := Bakery.orders "day" (some "by_day")
    let new := Bakery.orders "day DESC" (some "by_day")
    let ops : List Op := [.dropIndex "bakery" "by_day",
      .createIndex "bakery.orders" { name := "by_day", dimensions := ["day DESC"] }]
    (Bakery.database old).validate = .ok () ∧ (Bakery.database new).validate = .ok () ∧
      plan (some (Bakery.database old)) (Bakery.database new) {} {} =
        .ok (ops.map fun op => ⟨.stage1, op⟩) ∧
      ops.map (Op.sql {}) =
        ["DROP INDEX bakery.by_day;", "CREATE INDEX by_day ON bakery.orders (day DESC);"] ∧
      clusterAfter "bakery" "orders" ops old.clusterIndex = none ∧
      new.clusterIndex = some "by_day" := by
  decide +kernel

end SchemaPlan
