import SchemaPlan.Proofs.ConstraintMigration

/-!
# No foreign key is left dangling

A foreign key depends on the primary key of the table it refers to.  So before a plan drops that
key, or that table, it has to drop the foreign key, wherever it is declared; and it may add one only
when every key, table and column is in place again.

There are four ways in which a key can go: its table goes away, moves, loses the key or gets another.
`targetChanges` looks at all of them from the side of the foreign key, and `KeyStays` says what is
known when it finds none (`keyStays_of_targetChanges`).  If the key is dropped all the same, there
is a contradiction (`KeyStays.not_dropped`); hence the foreign key is among the drops
(`mem_drops_of_reference`), where it stands in front of every primary key.

`plan_releases_references` is the main statement.
-/

namespace SchemaPlan

/-- A constraint is one of a table, however it was declared. -/
def Constraint.IsOf (style : Sql.Style) (item : Schema × Table) (k : Constraint) : Prop :=
  ∃ ks, tableConstraints style item.1.name item.2 = .ok ks ∧ k ∈ ks

theorem Constraint.IsOf.mem {style : Sql.Style} {item : Schema × Table} {k : Constraint}
    (h : k.IsOf style item) {ks : List Constraint} (hks : Constraints style item ks) : k ∈ ks := by
  obtain ⟨ks', hks', hmem⟩ := h
  rw [tableConstraints_eq_ok_iff] at hks'
  rwa [hks.unique hks']

/-- The operation adds a constraint of this kind. -/
def Op.Adds (kind : ConstraintKind) (op : Op) : Prop :=
  ∃ k : Constraint, op = .addConstraint k ∧ k.kind = kind

theorem Op.Adds.kind_eq {kind : ConstraintKind} {op : Op} (h : op.Adds kind) :
    op.kind = .addConstraint := by
  obtain ⟨k, rfl, _⟩ := h
  rfl

/-- The operation takes a table away, or its primary key. -/
def Op.TakesKeyOf (style : Sql.Style) (item : Schema × Table) (op : Op) : Prop :=
  op = .dropTable (Sql.qualified item.1.name item.2.name) ∨
    ∃ k : Constraint, k.IsOf style item ∧ k.kind = .primaryKey ∧
      op = .dropConstraint (Sql.qualified item.1.name item.2.name) k.name

/-- The kinds of operations that bring tables and columns into place. -/
def placingKinds : List OpKind :=
  [.createTable, .setTableSchema, .renameTable, .renameColumn, .addColumn]

namespace Comparison

/-! ### Keys that stay -/

/-- A table is continued under its own name, and its primary key stays the same. -/
structure KeyStays (c : Comparison) (target item : Schema × Table)
    (before after : List Constraint) : Prop where
  continued : c.newVersion? target.1.name target.2.name = some item
  before_constraints : Constraints c.style target before
  after_constraints : Constraints c.style item after
  unmoved : itemKey target = itemKey item
  same : ∀ key ∈ before, key.kind = .primaryKey → ∃ key' ∈ after, key'.same key = true

/-- A foreign key that finds its target unchanged refers to a key that stays. -/
theorem keyStays_of_targetChanges {c : Comparison} {old : Database} (hold : old.Coherent)
    {target : Schema × Table} (hm : target ∈ old.tables) {k : Constraint}
    (href : k.references = some (itemKey target)) (h : c.targetChanges old k = .ok false) :
    ∃ item before after, c.KeyStays target item before after := by
  have hfound : old.table? target.1.name target.2.name = some target := hold.table?_of_mem hm
  simp only [targetChanges, href, hfound] at h
  cases hv : c.newVersion? target.1.name target.2.name with
  | none => simp [hv, pure, Except.pure] at h
  | some item =>
    simp only [hv] at h
    split at h
    · simp [pure, Except.pure] at h
    next hmoved =>
      simp only [bind_eq_ok, pure_eq_ok, tableConstraints_eq_ok_iff] at h
      obtain ⟨before, hbefore, after, hafter, hkeys⟩ := h
      refine ⟨item, before, after, hv, hbefore, hafter, by simpa using hmoved, ?_⟩
      intro key hkey hkind
      rw [hbefore.find?_primaryKey hkey hkind] at hkeys
      cases ha : after.find? (·.kind == .primaryKey) with
      | none => simp [ha] at hkeys
      | some key' =>
        simp only [ha, Bool.not_eq_eq_eq_not, Bool.not_false] at hkeys
        exact ⟨key', List.mem_of_find?_eq_some ha, Constraint.same_symm hkeys⟩

theorem targetChanges_of_isEndangered {c : Comparison} {old : Database} {prev : Table}
    {schema : String} {table : Table} {k : Constraint} (hkind : k.kind = .foreignKey)
    (h : c.isEndangered old prev schema table k = .ok false) : c.targetChanges old k = .ok false := by
  have hne : (k.kind != .foreignKey) = false := by
    rw [hkind]
    rfl
  simp only [isEndangered, hne, Bool.false_eq_true, if_false, bind_eq_ok] at h
  obtain ⟨changes, -, h⟩ := h
  cases changes with
  | true => simp [pure, Except.pure] at h
  | false => exact h

theorem not_isEndangered_of_primaryKey {c : Comparison} {old : Database} {prev : Table}
    {schema : String} {table : Table} {k : Constraint} (hkind : k.kind = .primaryKey) :
    c.isEndangered old prev schema table k = .ok false := by
  rw [isEndangered, hkind]
  rfl

/-- A key that stays is not dropped. -/
theorem KeyStays.not_dropped {c : Comparison} {old : Database} {target item : Schema × Table}
    {before after : List Constraint} (h : c.KeyStays target item before after)
    {ds : List Constraint} (hds : c.tableDrops old target = .ok ds) {key : Constraint}
    (hkey : key ∈ before) (hkind : key.kind = .primaryKey) : key ∉ ds := by
  intro hdropped
  obtain ⟨before', after', hbefore', hafter', hcarried⟩ := carriedDrops h.continued hds
  have ha : after' = after := hafter'.unique h.after_constraints
  subst ha
  obtain ⟨key', hkey', hsame⟩ := h.same key hkey hkind
  rcases hcarried.of_dropped key hdropped with hmoved | hdiffers | hendangered
  · exact hmoved h.unmoved
  · rw [hdiffers key' hkey'] at hsame
    cases hsame
  · rw [not_isEndangered_of_primaryKey hkind] at hendangered
    cases hendangered

/-! ### Foreign keys whose target goes -/

/-- The table goes away, or its primary key is dropped. -/
def LosesKey (c : Comparison) (dropsOf : Schema × Table → List Constraint)
    (target : Schema × Table) : Prop :=
  c.newVersion? target.1.name target.2.name = none ∨ ∃ key ∈ dropsOf target, key.kind = .primaryKey

/-- **A foreign key whose target loses its key is dropped**, whatever table declares it. -/
theorem mem_drops_of_reference {c : Comparison} (hc : c.WellMade) {old : Database}
    (hold : c.old = some old) {drops : List Constraint}
    {dropsOf : Schema × Table → List Constraint} (hdrops : c.DropsByTable old drops dropsOf)
    {user target : Schema × Table} (huser : user ∈ old.tables) (htarget : target ∈ old.tables)
    {k : Constraint} (hk : k.IsOf c.style user) (hkind : k.kind = .foreignKey)
    (href : k.references = some (itemKey target)) (hloses : c.LosesKey dropsOf target) :
    k ∈ dropsOf user := by
  have hds := hdrops.of_table user huser
  cases hv : c.newVersion? user.1.name user.2.name with
  | none =>
    obtain ⟨before, hbefore, he⟩ := tableDrops_of_gone hv hds
    rw [he, List.mem_filter]
    exact ⟨hk.mem hbefore, by simp [hkind]⟩
  | some item =>
    obtain ⟨before, after, hbefore, -, hcarried⟩ := carriedDrops hv hds
    by_contra hkept
    obtain ⟨-, -, hsafe⟩ := hcarried.of_kept k (hk.mem hbefore) hkept
    have hunchanged := targetChanges_of_isEndangered hkind hsafe
    obtain ⟨_, keys, _, hstays⟩ :=
      keyStays_of_targetChanges (hc.old old hold) htarget href hunchanged
    rcases hloses with hgone | ⟨key, hkey, hkeyKind⟩
    · rw [hstays.continued] at hgone
      cases hgone
    · have htds := hdrops.of_table target htarget
      obtain ⟨before', hbefore', hsub⟩ := exists_sublist_of_tableDrops htds
      have hkey' : key ∈ keys := by
        rw [hstays.before_constraints.unique hbefore']
        exact hsub.subset hkey
      exact hstays.not_dropped htds hkey' hkeyKind hkey

/-- A constraint that a table drops under the name of one of its own is that one. -/
theorem eq_of_dropped_name {c : Comparison} {old : Database} {item : Schema × Table}
    {ds : List Constraint} (hds : c.tableDrops old item = .ok ds) {k d : Constraint}
    (hk : k.IsOf c.style item) (hd : d ∈ ds) (hname : d.name = k.name) : d = k := by
  obtain ⟨before, hbefore, hsub⟩ := exists_sublist_of_tableDrops hds
  exact hbefore.eq_of_name_eq (hsub.subset hd) (hk.mem hbefore) hname

/-- An operation that takes the key of a table is there only if the table loses its key. -/
theorem losesKey_of_takesKeyOf [QueryReader] {c : Comparison} (hc : c.WellMade) {p : Plan}
    (hp : c.plan = .ok p) (l : c.Layout p) {old : Database} (hold : c.old = some old)
    (hdots : old.DotFree) {dropsOf : Schema × Table → List Constraint}
    (hdrops : c.DropsByTable old l.drops dropsOf) {target : Schema × Table}
    (htarget : target ∈ old.tables) {op : Op} (hop : op ∈ p.ops)
    (htakes : op.TakesKeyOf c.style target) : c.LosesKey dropsOf target := by
  rcases htakes with rfl | ⟨key, hkey, hkind, rfl⟩
  · obtain ⟨item, hm, hgone, haddress⟩ := of_dropTable_mem hp hop
    have hm := (hc.mem_oldTablesReversed hold).1 hm
    rw [((hc.old old hold).address_inj hdots htarget hm).1 haddress]
    exact .inl hgone
  · have hname := (dropped_perm hc l hold hdots hdrops htarget).subset (mem_droppedNames.2 hop)
    obtain ⟨d, hd, hdname⟩ := List.mem_map.1 hname
    have he : d = key := eq_of_dropped_name (hdrops.of_table target htarget) hkey hd hdname
    exact .inr ⟨key, he ▸ hd, hkind⟩

/-! ### Their place in the plan -/

/-- Up to the last constraint dropped that is not a primary key nothing takes the key of a table. -/
theorem not_takesKeyOf_of_mem_front {c : Comparison} (hc : c.WellMade) {p : Plan} (l : c.Layout p)
    {old : Database} (hold : c.old = some old) (hdots : old.DotFree)
    {dropsOf : Schema × Table → List Constraint} (hdrops : c.DropsByTable old l.drops dropsOf)
    {target : Schema × Table} (htarget : target ∈ old.tables) :
    ∀ op ∈ l.head ++ dropConstraintOps
      ((c.oldTablesReversed.flatMap dropsOf).filter (·.kind != .primaryKey)),
      ¬ op.TakesKeyOf c.style target := by
  intro op hop htakes
  rcases List.mem_append.1 hop with hop | hop
  · have hkind := l.head_kinds op hop
    rcases htakes with rfl | ⟨key, _, _, rfl⟩
    · exact absurd hkind (by simp only [Op.kind]; decide)
    · exact absurd hkind (by simp only [Op.kind]; decide)
  · obtain ⟨d, hd, rfl⟩ := List.mem_map.1 hop
    obtain ⟨hd, hdkind⟩ := List.mem_filter.1 hd
    obtain ⟨item, hm, hd⟩ := List.mem_flatMap.1 hd
    have hm := (hc.mem_oldTablesReversed hold).1 hm
    rcases htakes with htakes | ⟨key, hkey, hkind, he⟩
    · cases htakes
    · obtain ⟨haddress, hname⟩ := Op.dropConstraint.inj he
      obtain ⟨hschema, htable⟩ := Prod.mk.inj (owner_of_tableDrops (hdrops.of_table item hm) hd)
      rw [hschema, htable] at haddress
      have hitem := ((hc.old old hold).address_inj hdots hm htarget).1 haddress
      subst hitem
      have he : d = key := eq_of_dropped_name (hdrops.of_table item hm) hkey hd hname
      rw [he, hkind] at hdkind
      cases hdkind

/-- The operations that add constraints with their tables add primary keys only. -/
theorem not_adds_foreignKey_of_tables {c : Comparison} {p : Plan} (l : c.Layout p) :
    ∀ op ∈ l.tables.flatMap (·.opsAt .stage1), ¬ op.Adds .foreignKey := by
  rintro op hop ⟨k, rfl, hkind⟩
  obtain ⟨d, hd, hop⟩ := List.mem_flatMap.1 hop
  obtain ⟨item, _, hitem⟩ := exists_source_of_mapM l.tables_eq hd
  obtain ⟨_, _, _, hkey, _⟩ := tablePass_eq_ok_iff.1 hitem
  obtain ⟨pending, hpending, _⟩ := bind_eq_ok.1 hkey
  have hk := mem_addedConstraints.2 ⟨hop, rfl⟩
  rw [addedConstraints_tablePass hitem hpending, List.mem_filter, List.mem_filter, hkind] at hk
  exact absurd hk.1.2 (by decide)

/-- The operations that add the other constraints add no primary key. -/
theorem not_adds_primaryKey_of_adds {c : Comparison} {p : Plan} (l : c.Layout p) :
    ∀ op ∈ l.adds.flatten, ¬ op.Adds .primaryKey := by
  rintro op hop ⟨k, rfl, hkind⟩
  obtain ⟨ops, hops, hop⟩ := List.mem_flatten.1 hop
  obtain ⟨item, _, hitem⟩ := exists_source_of_mapM l.adds_eq hops
  obtain ⟨pending, hpending, _⟩ := bind_eq_ok.1 hitem
  have hk := mem_addedConstraints.2 ⟨hop, rfl⟩
  rw [addedConstraints_addConstraints hitem hpending, List.mem_filter, List.mem_filter, hkind] at hk
  exact absurd hk.1.2 (by decide)

/-- Foreign keys are added when keys, tables and columns are in place. -/
theorem placed_precede_references {c : Comparison} {p : Plan} (l : c.Layout p) :
    Precedes (fun op => op.kind ∈ placingKinds ∨ op.Adds .primaryKey) (·.Adds .foreignKey)
      p.ops := by
  have he : p.ops = (l.head ++ (dropConstraintOps l.drops ++ (l.sequences ++
      l.tables.flatMap (·.opsAt .stage1)))) ++ (l.adds.flatten ++ l.tail) := by
    rw [l.ops_eq]
    simp only [List.append_assoc]
  rw [he]
  refine precedes_append ?_ ?_
  · simp only [List.forall_mem_append]
    refine ⟨?_, ?_, ?_, not_adds_foreignKey_of_tables l⟩
    · exact l.head_kinds.forall_not (fun _ => Op.Adds.kind_eq) (by decide)
    · exact (ofKinds_dropConstraintOps l.drops).forall_not (fun _ => Op.Adds.kind_eq) (by decide)
    · exact l.sequences_kinds.forall_not (fun _ => Op.Adds.kind_eq) (by decide)
  · have hkinds : ∀ kind ∈ placingKinds, kind ≠ .addConstraint ∧ kind ∉ tailKinds := by decide
    rintro op hop (hplacing | hadds)
    · rcases List.mem_append.1 hop with hop | hop
      · exact (hkinds _ hplacing).1 (List.mem_singleton.1 (l.adds_kinds op hop))
      · exact (hkinds _ hplacing).2 (l.tail_kinds op hop)
    · rcases List.mem_append.1 hop with hop | hop
      · exact not_adds_primaryKey_of_adds l op hop hadds
      · exact l.tail_kinds.forall_not (fun _ => Op.Adds.kind_eq) (by decide) op hop hadds

end Comparison

/-! ### The whole plan -/

/-- A plan leaves no foreign key dangling: when an operation takes the key of a table, every foreign
key that refers to the table has been dropped, and foreign keys are added when everything they can
refer to is in place. -/
structure ReleasesReferences (style : Sql.Style) (old : Option Database) (p : Plan) : Prop where
  declared : ∀ db, old = some db → ∀ item ∈ db.tables,
    ∃ ks, tableConstraints style item.1.name item.2 = .ok ks
  released : ∀ db, old = some db → ∀ target ∈ db.tables, ∀ (i : Nat) (op : Op),
    p.ops[i]? = some op → op.TakesKeyOf style target → ∀ user ∈ db.tables, ∀ k : Constraint,
    k.IsOf style user → k.kind = .foreignKey → k.references = some (itemKey target) →
    ∃ j < i, p.ops[j]? = some (.dropConstraint (Sql.qualified user.1.name user.2.name) k.name)
  restored : Precedes (fun op => op.kind ∈ placingKinds ∨ op.Adds .primaryKey)
    (·.Adds .foreignKey) p.ops

/-- **A plan leaves no foreign key dangling.** -/
theorem plan_releases_references [QueryReader] {old : Option Database} {new : Database}
    {style : Sql.Style} {options : Options} {p : Plan} (hdata : options.onlyData = false)
    (hdots : ∀ db, old = some db → db.DotFree) (h : plan old new style options = .ok p) :
    ReleasesReferences style old p := by
  obtain ⟨c, hmake, hc, hp⟩ := Comparison.wellMade_of_plan h
  obtain ⟨-, -, -, rfl, -, hoptions, rfl⟩ := Comparison.make_eq_ok_iff.1 hmake
  rw [← hoptions] at hdata
  obtain ⟨l⟩ := Comparison.nonempty_layout hp hdata
  refine ⟨?_, ?_, Comparison.placed_precede_references l⟩
  · intro db hdb item hm
    obtain ⟨dropsOf, hdrops⟩ := Comparison.exists_dropsByTable hc hdb l.constraintDrops_eq
    obtain ⟨ks, hks, _⟩ := Comparison.exists_sublist_of_tableDrops (hdrops.of_table item hm)
    exact ⟨ks, tableConstraints_eq_ok_iff.2 hks⟩
  · intro db hdb target htarget i op hop htakes user huser k hk hkind href
    obtain ⟨dropsOf, hdrops⟩ := Comparison.exists_dropsByTable hc hdb l.constraintDrops_eq
    have hloses := Comparison.losesKey_of_takesKeyOf hc hp l hdb (hdots db hdb) hdrops htarget
      (List.mem_of_getElem? hop) htakes
    have hdropped := Comparison.mem_drops_of_reference hc hdb hdrops huser htarget hk hkind href
      hloses
    have howner := Comparison.owner_of_tableDrops (hdrops.of_table user huser) hdropped
    obtain ⟨hschema, htable⟩ := Prod.mk.inj howner
    -- The foreign key is dropped in front of the first primary key.
    have he : p.ops = (l.head ++ Comparison.dropConstraintOps
        ((c.oldTablesReversed.flatMap dropsOf).filter (·.kind != .primaryKey))) ++
          (Comparison.dropConstraintOps
            ((c.oldTablesReversed.flatMap dropsOf).filter (·.kind == .primaryKey)) ++
              (l.sequences ++ (l.tables.flatMap (·.opsAt .stage1) ++ (l.adds.flatten ++ l.tail)))) := by
      rw [l.ops_eq, hdrops.eq_parts]
      simp only [Comparison.dropConstraintOps, List.map_append, List.append_assoc]
    have hfront := Comparison.not_takesKeyOf_of_mem_front hc l hdb (hdots db hdb) hdrops htarget
    rw [he] at hop ⊢
    refine exists_earlier hfront (List.mem_append_right _ ?_) hop htakes
    refine List.mem_map.2 ⟨k, List.mem_filter.2 ⟨?_, by simp [hkind]⟩, by rw [hschema, htable]⟩
    exact List.mem_flatMap.2 ⟨user, (hc.mem_oldTablesReversed hdb).2 huser, hdropped⟩

/-! ### A key that gets another name -/

attribute [local instance] QueryReader.blank

/-- The shop with another name for the key of customers. -/
def Shop.rekeyed : Database where
  schemas := [{
    name := "shop"
    tables := [{ Shop.customers with primaryKeyName := some "customers_key" },
      Shop.orders "orders" none] }]

/-- The plan that renames the key of customers.  The reference of orders stays the same and is built
anew because of the key. -/
def Shop.rekeying : Plan := [
  ⟨.stage1, .dropConstraint "shop.orders" "orders_customer_fkey"⟩,
  ⟨.stage1, .dropConstraint "shop.customers" "customers_pkey"⟩,
  ⟨.stage1, .addConstraint {
    name := "customers_key", schema := "shop", table := "customers", kind := .primaryKey,
    definition := "(id)", columns := ["id"] }⟩,
  ⟨.stage1, .addConstraint {
    name := "orders_customer_fkey", schema := "shop", table := "orders", kind := .foreignKey,
    definition := "(customer) REFERENCES shop.customers (id)",
    references := some ("shop", "customers"), columns := ["customer"] }⟩]

theorem plan_releases_references_of_rekeyed :
    plan (some Shop.first) Shop.rekeyed {} {} = .ok Shop.rekeying ∧
      ReleasesReferences {} (some Shop.first) Shop.rekeying := by
  have h : plan (some Shop.first) Shop.rekeyed {} {} = .ok Shop.rekeying := by decide +kernel
  have hdots : ∀ db, some Shop.first = some db → db.DotFree := by
    rintro _ ⟨⟩
    decide
  exact ⟨h, plan_releases_references rfl hdots h⟩

end SchemaPlan
