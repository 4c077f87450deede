import SchemaPlan.Proofs.ForeignKeys
import SchemaPlan.Proofs.Precedence
import SchemaPlan.Proofs.Stages

/-!
# Foreign keys are built anew around their columns

A foreign key that stays the same is in the way all the same when a column of it changes its type, or
when the key that it refers to changes.  Then it is dropped, tables are worked on, and it is added
again (`mem_dropsOf_iff`, `addConstraint_mem_of_dropped`).  `BuildsAround` says where that happens:
the drops stand in front of the work on tables, and where foreign keys are added no column is
reshaped any more.

Which columns a foreign key has is known if it is declared on a column.  If it is declared by itself,
it is a piece of text, and no columns are read off it.  So the first kind is built anew around its
column, and the second only for other reasons (`RebuildsReferences`); `reference_in_the_way` shows
one that stays in place while its column gets another type.
-/

namespace SchemaPlan

/-- The operation adds a column, renames one or changes one, demands for values apart: these wait
for the third stage. -/
def Op.reshapesColumn : Op → Bool
  | .addColumn .. | .renameColumn .. => true
  | .alterColumn _ _ change => change != .setNotNull
  | _ => false

theorem Op.places_of_reshapesColumn {op : Op} (h : op.reshapesColumn = true) :
    op.places = [.stage1] := by
  unfold reshapesColumn at h
  split at h
  · rfl
  · rfl
  next change =>
    cases change with
    | setNotNull => cases h
    | _ => rfl
  · cases h

/-- Operations of other kinds do not reshape columns. -/
theorem OfKinds.not_reshapesColumn {kinds : List OpKind} {ops : List Op} (h : OfKinds kinds ops)
    (hkinds : ∀ kind ∈ [OpKind.addColumn, .renameColumn, .alterColumn], kind ∉ kinds) :
    ∀ op ∈ ops, op.reshapesColumn = false := by
  intro op hop
  have hkind : op.reshapesColumn = true →
      op.kind ∈ [OpKind.addColumn, .renameColumn, .alterColumn] := by
    unfold Op.reshapesColumn
    split <;> simp [Op.kind]
  exact Bool.eq_false_iff.2 fun hreshapes => hkinds _ (hkind hreshapes) (h op hop)

namespace Comparison

/-! ### Columns of a foreign key -/

/-- A column is gone from the version of a table that continues another, or has another type. -/
def ColumnChanged (c : Comparison) (old : Database) (prev item : Schema × Table)
    (column : String) : Prop :=
  item.2.column? column = none ∨ ∃ oldType newType,
    old.columnType prev.1.name prev.2.name column = .ok oldType ∧
      c.new.columnType item.1.name item.2.name column = .ok newType ∧
      Sql.TypeName.same oldType newType = false

section Columns

variable {c : Comparison} {old : Database} {prev item : Schema × Table} {k : Constraint} {b : Bool}

theorem columnChanges_eq_ok (hschema : k.schema = prev.1.name) {column : String}
    (h : c.columnChanges old prev.2 item.1.name item.2 k column = .ok b) :
    b = true ↔ c.ColumnChanged old prev item column := by
  unfold columnChanges at h
  split at h
  next hgone =>
    exact iff_of_true (pure_eq_ok.1 h).symm (.inl (Option.isNone_iff_eq_none.1 hgone))
  next hthere =>
    simp only [bind_eq_ok, pure_eq_ok, hschema] at h
    obtain ⟨oldType, hold, newType, hnew, rfl⟩ := h
    rw [Bool.not_eq_true']
    constructor
    · exact fun hdiffers => .inr ⟨oldType, newType, hold, hnew, hdiffers⟩
    · rintro (hgone | ⟨oldType', newType', hold', hnew', hdiffers⟩)
      · exact absurd (Option.isNone_iff_eq_none.2 hgone) hthere
      · rw [Except.ok.inj (hold.symm.trans hold'), Except.ok.inj (hnew.symm.trans hnew')]
        exact hdiffers

/-- Columns are looked at in turn, up to the first that changes. -/
theorem someColumnChanges_eq_ok (hschema : k.schema = prev.1.name) {columns : List String}
    (h : c.someColumnChanges old prev.2 item.1.name item.2 k columns = .ok b) :
    b = true ↔ ∃ column ∈ columns, c.ColumnChanged old prev item column := by
  induction columns with
  | nil =>
    rw [← Except.ok.inj h]
    simp
  | cons column columns ih =>
    rw [someColumnChanges] at h
    obtain ⟨first, hfirst, h⟩ := bind_eq_ok.1 h
    have hcolumn := columnChanges_eq_ok hschema hfirst
    rw [List.exists_mem_cons_iff, ← hcolumn]
    cases first with
    | true => exact iff_of_true (pure_eq_ok.1 h).symm (.inl rfl)
    | false =>
      rw [ih h]
      simp

/-- **A foreign key that stays the same is endangered** if one of its columns changes, or the key
that it refers to. -/
theorem isEndangered_eq_ok (hkind : k.kind = .foreignKey) (hschema : k.schema = prev.1.name)
    (h : c.isEndangered old prev.2 item.1.name item.2 k = .ok b) :
    b = true ↔ (∃ column ∈ k.columns, c.ColumnChanged old prev item column) ∨
      c.targetChanges old k = .ok true := by
  have hne : (k.kind != .foreignKey) = false := by
    rw [hkind]
    rfl
  simp only [isEndangered, hne, Bool.false_eq_true, if_false, bind_eq_ok] at h
  obtain ⟨changes, hchanges, h⟩ := h
  have hcolumns := someColumnChanges_eq_ok hschema hchanges
  rw [← hcolumns]
  cases changes with
  | true => exact iff_of_true (pure_eq_ok.1 h).symm (.inl rfl)
  | false =>
    have h : c.targetChanges old k = .ok b := h
    rw [h]
    simp

end Columns

/-! ### Drops and additions -/

/-- The table moves, or its new version does not have the constraint as it was: it would have to be
dropped whatever its columns are. -/
def LeftBehind (c : Comparison) (prev item : Schema × Table) (k : Constraint) : Prop :=
  itemKey prev ≠ itemKey item ∨ ∀ k' : Constraint, k'.IsOf c.style item → k'.same k = false

section Decisions

variable {c : Comparison} {p : Plan} {old : Database} {prev item : Schema × Table} {k : Constraint}
  {drops : List Constraint} {dropsOf : Schema × Table → List Constraint}

/-- **Which foreign keys are dropped.** -/
theorem mem_dropsOf_iff (hdrops : c.DropsByTable old drops dropsOf) (hprev : prev ∈ old.tables)
    (hv : c.newVersion? prev.1.name prev.2.name = some item) (hk : k.IsOf c.style prev)
    (hkind : k.kind = .foreignKey) :
    k ∈ dropsOf prev ↔ c.LeftBehind prev item k ∨
      (∃ column ∈ k.columns, c.ColumnChanged old prev item column) ∨
        c.targetChanges old k = .ok true := by
  obtain ⟨before, after, hbefore, hafter, hcarried⟩ := carriedDrops hv (hdrops.of_table prev hprev)
  have hmem : k ∈ before := hk.mem hbefore
  have hschema : k.schema = prev.1.name := (Prod.mk.inj (hbefore.owner_of_mem hmem)).1
  have hleft : c.LeftBehind prev item k ↔
      itemKey prev ≠ itemKey item ∨ ∀ k' ∈ after, k'.same k = false := by
    refine or_congr_right ⟨fun h k' hk' => h k' ⟨after, ?_, hk'⟩, fun h k' hk' => ?_⟩
    · exact tableConstraints_eq_ok_iff.2 hafter
    · exact h k' (hk'.mem hafter)
  rw [hleft]
  constructor
  · intro hdropped
    rcases hcarried.of_dropped k hdropped with hmoved | hdiffers | hendangered
    · exact .inl (.inl hmoved)
    · exact .inl (.inr hdiffers)
    · exact .inr ((isEndangered_eq_ok hkind hschema hendangered).1 rfl)
  · intro hreason
    by_contra hkept
    obtain ⟨hunmoved, ⟨k', hk', hsame⟩, hsafe⟩ := hcarried.of_kept k hmem hkept
    rcases hreason with (hmoved | hdiffers) | hendangered
    · exact hmoved hunmoved
    · rw [hdiffers k' hk'] at hsame
      cases hsame
    · exact Bool.false_ne_true ((isEndangered_eq_ok hkind hschema hsafe).2 hendangered)

/-- What is dropped is added again if the new version of the table declares it. -/
theorem addConstraint_mem_of_dropped (hc : c.WellMade) (l : c.Layout p) (hold : c.old = some old)
    (hdrops : c.DropsByTable old l.drops dropsOf) (hprev : prev ∈ old.tables)
    (hv : c.newVersion? prev.1.name prev.2.name = some item) (hk : k ∈ dropsOf prev)
    {k' : Constraint} (hk' : k'.IsOf c.style item) (hname : k'.name = k.name) :
    .addConstraint k' ∈ p.ops := by
  have hm : item ∈ c.new.tables := ((hc.newVersion?_eq_some_iff).1 hv).2
  have ho := (hc.oldVersion?_eq_some_iff_newVersion? hold hm hprev).2 hv
  obtain ⟨pendingOf, hpending⟩ := exists_pending l.adds_eq
  obtain ⟨before, after, hbefore, hafter, hdecided⟩ := decided_of_carried hc l hold hdrops hprev hm
    ho (hpending item (hc.mem_newTables.2 hm))
  have hin : k' ∈ pendingOf item := by
    rw [hdecided.mem_pending k' (hk'.mem hafter)]
    intro b hb hbname _
    rwa [hbefore.eq_of_name_eq hb (hdecided.dropped_sublist.subset hk) (hbname.trans hname)]
  exact (mem_addedConstraints.1 ((added_perm hc l hpending hm).mem_iff.2 hin)).1

end Decisions

/-! ### Their place in the plan -/

/-- Constraints are dropped, then the tables are worked on, and only when no column will be reshaped
any more foreign keys are added. -/
structure BuildsAround (c : Comparison) (drops : List Constraint) (p : Plan)
    (front middle back : List Op) : Prop where
  ops_eq : p.ops = front ++ (dropConstraintOps drops ++ (middle ++ back))
  tables : ∀ item ∈ c.new.tables, ∀ work, c.tableWork item.1.name item.2 = .ok work →
    work.opsAt .stage1 ⊆ middle
  added_last : ∀ op ∈ front ++ middle, ¬ op.Adds .foreignKey
  reshaped_before : ∀ op ∈ back, op.reshapesColumn = false

section Order

variable {c : Comparison} {p : Plan}

/-- The work on a table is part of the pass over it. -/
theorem subset_of_tableWork (hc : c.WellMade) (l : c.Layout p) {item : Schema × Table}
    (hm : item ∈ c.new.tables) {work : Draft} (h : c.tableWork item.1.name item.2 = .ok work) :
    work.opsAt .stage1 ⊆ l.tables.flatMap (·.opsAt .stage1) := by
  obtain ⟨d, hd, hitem⟩ := exists_mem_of_mapM l.tables_eq (hc.mem_newTables.2 hm)
  obtain ⟨work', key, hwork', -, rfl⟩ := tablePass_eq_ok_iff.1 hitem
  rw [h] at hwork'
  rw [Except.ok.inj hwork']
  intro op hop
  refine List.mem_flatMap.2 ⟨_, hd, ?_⟩
  rw [Draft.opsAt_append]
  exact List.mem_append_left _ hop

/-- **A plan builds foreign keys around what it does to columns.** -/
theorem exists_buildsAround [QueryReader] (hc : c.WellMade) (hp : c.plan = .ok p)
    (hdata : c.options.onlyData = false) {drops : List Constraint}
    (hdrops : c.constraintDrops = .ok drops) :
    ∃ front middle back, c.BuildsAround drops p front middle back := by
  obtain ⟨l⟩ := nonempty_layout hp hdata
  obtain ⟨schema, rows, hschema, hrows, he⟩ := plan_eq_ok_iff.1 hp
  have hplace := (drafted_parts hschema hrows).inPlace
  rw [hdata, if_neg Bool.false_ne_true] at hschema
  obtain ⟨-, work, hwork, rfl⟩ := schemaWork_eq_ok_iff.1 hschema
  obtain ⟨head, drops', sequences, tables, adds, tail, hdrops', htables, hadds, hhead, hsequences,
    htail, hstage1⟩ := exists_stage1_parts hwork
  -- The parts of the draft are those of the layout, since the passes give one result.
  obtain rfl : drops' = l.drops := Except.ok.inj (hdrops'.symm.trans l.constraintDrops_eq)
  obtain rfl : tables = l.tables := Except.ok.inj (htables.symm.trans l.tables_eq)
  obtain rfl : drops = l.drops := Except.ok.inj (hdrops.symm.trans l.constraintDrops_eq)
  have hfirst : (work ++ c.viewWork work.isStructural ++ rows).opsAt .stage1 =
      work.opsAt .stage1 := by
    rw [Draft.opsAt_append, Draft.opsAt_append, (within_viewWork c _ .stage1).eq_nil,
      (within_rowsIfWanted hrows .stage1).eq_nil, List.append_nil, List.append_nil]
  generalize work ++ c.viewWork work.isStructural ++ rows = d at he hplace hfirst
  obtain ⟨own, hown, hops⟩ :=
    d.exists_own_statements (if c.options.onlyData then [] else c.customSql)
  rw [he, hfirst, hstage1] at hops
  have hother : ∀ place, place ≠ .stage1 → ∀ op ∈ d.opsAt place, op.reshapesColumn = false :=
    fun place hne op hop => Bool.eq_false_iff.2 fun hreshapes => hne <| by
      have hfit := hplace place op hop
      rw [Op.places_of_reshapesColumn hreshapes] at hfit
      exact List.mem_singleton.1 hfit
  have hownNot : ∀ stage before, ∀ op ∈ own stage before, op.reshapesColumn = false :=
    fun stage before => (hown stage before).not_reshapesColumn (by decide)
  refine ⟨own .stage1 true ++ (d.opsAt .viewDrops ++ head),
    sequences ++ l.tables.flatMap (·.opsAt .stage1), adds.flatten ++ (tail ++ (d.opsAt .stage1Tail ++
      (own .stage1 false ++ (own .stage2 true ++ (d.opsAt .stage2 ++ (own .stage2 false ++
        (own .stage3 true ++ (d.opsAt .stage3 ++ (d.opsAt .viewCreates ++
          (own .stage3 false ++ (own .stage4 true ++ (d.opsAt .stage4 ++
            own .stage4 false)))))))))))), ?_, ?_, ?_, ?_⟩
  · rw [hops]
    simp only [List.append_assoc]
  · intro item hm w hw
    exact List.Subset.trans (subset_of_tableWork hc l hm hw) (List.subset_append_right _ _)
  · simp only [List.forall_mem_append]
    refine ⟨⟨?_, ?_, ?_⟩, ?_, ?_⟩
    · exact (hown _ _).forall_not (fun _ => Op.Adds.kind_eq) (by decide)
    · rintro op hop ⟨k, rfl, -⟩
      exact absurd (hplace .viewDrops _ hop) (by simp [Op.places, OpKind.places, Op.kind])
    · exact hhead.forall_not (fun _ => Op.Adds.kind_eq) (by decide)
    · exact hsequences.forall_not (fun _ => Op.Adds.kind_eq) (by decide)
    · exact not_adds_foreignKey_of_tables l
  · simp only [List.forall_mem_append]
    refine ⟨?_, ?_, hother _ (by decide), hownNot _ _, hownNot _ _, hother _ (by decide),
      hownNot _ _, hownNot _ _, hother _ (by decide), hother _ (by decide), hownNot _ _,
      hownNot _ _, hother _ (by decide), hownNot _ _⟩
    · exact (ofKinds_of_mapM_addConstraints hadds).not_reshapesColumn (by decide)
    · exact htail.not_reshapesColumn (by decide)

end Order

/-! ### Foreign keys of a table that is continued -/

/-- What a plan does about the foreign keys of a table that another continues.  That on a column is
dropped if the column changes; one that is declared by itself is not, since its columns are not
looked at.  What is dropped is added again if it is still declared. -/
structure RebuildsReferences (c : Comparison) (old : Database) (drops : List Constraint) (p : Plan)
    (prev item : Schema × Table) : Prop where
  inline : ∀ col ∈ prev.2.columns, ∀ k,
    foreignKeyConstraint? c.style prev.1.name prev.2 col = some k →
      (k ∈ drops ↔ c.LeftBehind prev item k ∨ c.ColumnChanged old prev item col.name ∨
        c.targetChanges old k = .ok true)
  declared : ∀ d ∈ prev.2.constraints, d.kind = .foreignKey →
    (declaredConstraint prev.1.name prev.2 d ∈ drops ↔
      c.LeftBehind prev item (declaredConstraint prev.1.name prev.2 d) ∨
        c.targetChanges old (declaredConstraint prev.1.name prev.2 d) = .ok true)
  rebuilt : ∀ k ∈ drops, k.owner = itemKey prev →
    .dropConstraint (Database.address prev) k.name ∈ p.ops ∧
      ∀ k' : Constraint, k'.IsOf c.style item → k'.name = k.name → .addConstraint k' ∈ p.ops

theorem rebuildsReferences {c : Comparison} {p : Plan} (hc : c.WellMade) (l : c.Layout p)
    {old : Database} (hold : c.old = some old) {prev item : Schema × Table}
    (hprev : prev ∈ old.tables) (hv : c.newVersion? prev.1.name prev.2.name = some item) :
    c.RebuildsReferences old l.drops p prev item := by
  obtain ⟨dropsOf, hdrops⟩ := exists_dropsByTable hc hold l.constraintDrops_eq
  obtain ⟨before, _, hbefore, -, -⟩ := carriedDrops hv (hdrops.of_table prev hprev)
  have hmem : ∀ {k : Constraint}, k ∈ gatherConstraints c.style prev.1.name prev.2 →
      k.kind = .foreignKey → (k ∈ l.drops ↔ c.LeftBehind prev item k ∨
        (∃ column ∈ k.columns, c.ColumnChanged old prev item column) ∨
          c.targetChanges old k = .ok true) := by
    intro k hk hkind
    rw [← hbefore.eq_gather] at hk
    rw [← mem_dropsOf_iff hdrops hprev hv ⟨before, tableConstraints_eq_ok_iff.2 hbefore, hk⟩ hkind,
      ← hdrops.mem_of_owner hc hold hprev, and_iff_left (hbefore.owner_of_mem hk)]
  refine ⟨?_, ?_, ?_⟩
  · intro col hcol k hk
    have hin : k ∈ gatherConstraints c.style prev.1.name prev.2 :=
      List.mem_append_left _ (List.mem_append_right _ (List.mem_filterMap.2 ⟨col, hcol, hk⟩))
    obtain ⟨fk, -, rfl⟩ := Option.map_eq_some_iff.1 hk
    rw [hmem hin rfl]
    simp only [List.mem_singleton, exists_eq_left]
  · intro d hd hkind
    have hin : declaredConstraint prev.1.name prev.2 d ∈
        gatherConstraints c.style prev.1.name prev.2 :=
      List.mem_append_right _ (List.mem_map_of_mem hd)
    have hnone : ¬ ∃ column ∈ (declaredConstraint prev.1.name prev.2 d).columns,
        c.ColumnChanged old prev item column := by
      simp [declaredConstraint]
    rw [hmem hin hkind, or_iff_right hnone]
  · intro k hk howner
    have hdropped := (hdrops.mem_of_owner hc hold hprev).1 ⟨hk, howner⟩
    obtain ⟨hschema, htable⟩ := Prod.mk.inj howner
    refine ⟨?_, fun k' hk' hname =>
      addConstraint_mem_of_dropped hc l hold hdrops hprev hv hdropped hk' hname⟩
    rw [l.ops_eq, Database.address, ← hschema, ← htable]
    exact List.mem_append_right _ (List.mem_append_left _ (List.mem_map_of_mem hk))

end Comparison

/-! ### The whole plan -/

/-- **Foreign keys are built anew around their columns.**  A plan drops the foreign key on a column
whose type changes, before tables are worked on, and adds it again, if it is still declared, when no
column will be reshaped any more.  Of a foreign key that is declared by itself the columns are not
looked at: it is built anew only if it would be whatever they are. -/
theorem references_rebuilt [QueryReader] {old new : Database} {style : Sql.Style}
    {options : Options} {p : Plan} (hdata : options.onlyData = false)
    (h : plan (some old) new style options = .ok p) :
    ∃ c drops, Comparison.make (some old) new (some new.dependencyOrder)
        (some old.dependencyOrder) style options = .ok c ∧ c.constraintDrops = .ok drops ∧
      (∃ front middle back, c.BuildsAround drops p front middle back) ∧
      ∀ prev ∈ old.tables, ∀ item, c.newVersion? prev.1.name prev.2.name = some item →
        c.RebuildsReferences old drops p prev item := by
  obtain ⟨c, hmake, hc, hp⟩ := Comparison.wellMade_of_plan h
  obtain ⟨-, -, -, hold, -, hoptions, -⟩ := Comparison.make_eq_ok_iff.1 hmake
  rw [← hoptions] at hdata
  obtain ⟨l⟩ := Comparison.nonempty_layout hp hdata
  exact ⟨c, l.drops, hmake, l.constraintDrops_eq,
    Comparison.exists_buildsAround hc hp hdata l.constraintDrops_eq,
    fun prev hprev item hv => Comparison.rebuildsReferences hc l hold hprev hv⟩

/-! ### A forum that outgrows its numbers -/

attribute [local instance] QueryReader.blank

/-- A forum with users, numbered by a type, and what they have posted. -/
def Forum.version (dataType : String) (posts : Table) : Database where
  schemas := [{
    name := "forum"
    tables := [
      { name := "users"
        primaryKey := ["id"]
        columns := [{ name := "id", dataType := some dataType, nullable := false }] },
      posts] }]

/-- Posts whose author has the type of users. -/
def Forum.inline : Table where
  name := "posts"
  columns := [{ name := "author", foreignKey := some { table := "users", column := some "id" } }]

/-- Posts whose author has a type and refers to users by a constraint of its own. -/
def Forum.declared (dataType : String) : Table where
  name := "posts"
  columns := [{ name := "author", dataType := some dataType }]
  constraints := [{
    name := "posts_author"
    kind := .foreignKey
    definition := "(author) REFERENCES forum.users (id)" }]

/-- The plan for larger numbers.  The reference of posts makes way for them. -/
def Forum.growing : Plan := [
  ⟨.stage1, .dropConstraint "forum.posts" "posts_author_fkey"⟩,
  ⟨.stage1, .alterColumn "forum.users" "id" (.type "bigint" none)⟩,
  ⟨.stage1, .alterColumn "forum.posts" "author" (.type "bigint" none)⟩,
  ⟨.stage1, .addConstraint {
    name := "posts_author_fkey", schema := "forum", table := "posts", kind := .foreignKey,
    definition := "(author) REFERENCES forum.users (id)",
    references := some ("forum", "users"), columns := ["author"] }⟩]

theorem references_rebuilt_of_inline :
    plan (some (Forum.version "integer" Forum.inline)) (Forum.version "bigint" Forum.inline) {} {} =
        .ok Forum.growing ∧
      ∃ c drops, Comparison.make (some (Forum.version "integer" Forum.inline))
          (Forum.version "bigint" Forum.inline)
          (some (Forum.version "bigint" Forum.inline).dependencyOrder)
          (some (Forum.version "integer" Forum.inline).dependencyOrder) {} {} = .ok c ∧
        c.constraintDrops = .ok drops ∧
        (∃ front middle back, c.BuildsAround drops Forum.growing front middle back) ∧
        ∀ prev ∈ (Forum.version "integer" Forum.inline).tables, ∀ item,
          c.newVersion? prev.1.name prev.2.name = some item →
            c.RebuildsReferences (Forum.version "integer" Forum.inline) drops Forum.growing prev
              item := by
  have h : plan (some (Forum.version "integer" Forum.inline)) (Forum.version "bigint" Forum.inline)
      {} {} = .ok Forum.growing := by
    decide +kernel
  exact ⟨h, references_rebuilt rfl h⟩

/-- **A foreign key that is declared by itself stands in the way of its columns.**  Their type
changes as well, and the constraint is neither dropped nor added. -/
theorem reference_in_the_way :
    (Forum.version "integer" (Forum.declared "integer")).columnType "forum" "posts" "author" =
        .ok "integer" ∧
      (Forum.version "bigint" (Forum.declared "bigint")).columnType "forum" "posts" "author" =
        .ok "bigint" ∧
      Sql.TypeName.same "integer" "bigint" = false ∧
      plan (some (Forum.version "integer" (Forum.declared "integer")))
          (Forum.version "bigint" (Forum.declared "bigint")) {} {} =
        .ok [⟨.stage1, .alterColumn "forum.users" "id" (.type "bigint" none)⟩,
          ⟨.stage1, .alterColumn "forum.posts" "author" (.type "bigint" none)⟩] := by
  refine ⟨?_, ?_, ?_, ?_⟩
  · decide +kernel
  · decide +kernel
  · decide +kernel
  · decide +kernel

end SchemaPlan
