import SchemaPlan.Proofs.Precedence
import SchemaPlan.Proofs.SingleStage

/-!
# Values are demanded last

A column that must have values gets them before they are demanded: it is added without a constraint,
given its default and then a value for the rows that are there, all in the first stage, and the
demand waits for the third.

Whatever a plan does to columns comes from the work on one column of one table that continues another
(`exists_columnWork`).  There a demand is made in two places, for a column that is added and for one
that allowed no value before, and in both the rows are given the default first
(`demands_of_columnWork`).  `values_demanded_last` puts this together with the stages.
-/

namespace SchemaPlan

namespace Draft

/-- All is planned at the place for the first stage. -/
def OnlyFirst (d : Draft) : Prop :=
  ∀ place, place ≠ .stage1 → d.opsAt place = []

theorem onlyFirst_empty : ({} : Draft).OnlyFirst :=
  fun place _ => opsAt_empty place

theorem onlyFirst_first (ops : List Op) : (first ops).OnlyFirst := by
  intro place hne
  cases place <;> first | exact absurd rfl hne | rfl

theorem onlyFirst_ite {p : Prop} [Decidable p] {a b : Draft} (ha : a.OnlyFirst)
    (hb : b.OnlyFirst) : (if p then a else b).OnlyFirst := by
  split
  · exact ha
  · exact hb

end Draft

namespace Comparison

variable {c : Comparison}

/-! ### Where work on columns comes from -/

/-- What is contributed by other work than that on tables. -/
def notOfTables (place : Place) : List OpKind :=
  beforeTableKinds place ++ (if place = .stage1 then [.addConstraint] else []) ++
    tableDropKinds place ++ afterTableKinds place ++ viewKinds place ++ rowKinds place

/-- What is contributed by the work on a table, that on its columns apart. -/
def tableOnlyKinds : Place → List OpKind
  | .stage1 => [.createTable, .setTableSchema, .renameTable, .setComment, .setSerialValue,
      .dropIndex, .createIndex, .setCluster, .addConstraint, .dropTrigger, .createTrigger]
  | .stage3 => [.comment, .dropColumn]
  | _ => []

section Source

variable {schema rows : Draft} {place : Place} {op : Op}

theorem exists_tablePass [QueryReader]
    (hschema : (if c.options.onlyData then .ok {} else c.schemaWork) = .ok schema)
    (hrows : (if c.options.onlySchema then .ok {} else c.rowWork) = .ok rows)
    (hop : op ∈ (schema ++ rows).opsAt place) (hkind : op.kind ∉ notOfTables place) :
    ∃ drops, ∃ item ∈ c.newTables, ∃ d, c.tablePass drops item = .ok d ∧ op ∈ d.opsAt place ∧
      ∀ other, d.opsAt other ⊆ (schema ++ rows).opsAt other := by
  simp only [notOfTables, List.mem_append, not_or] at hkind
  obtain ⟨⟨⟨⟨⟨hbeforeNot, haddsNot⟩, hdropsNot⟩, hafterNot⟩, hviewsNot⟩, hrowsNot⟩ := hkind
  rw [Draft.opsAt_append, List.mem_append] at hop
  rcases hop with hop | hop
  · split at hschema
    · rw [← Except.ok.inj hschema, Draft.opsAt_empty] at hop
      cases hop
    · obtain ⟨-, work, hwork, rfl⟩ := schemaWork_eq_ok_iff.1 hschema
      obtain ⟨drops, tables, adds, before, after, htables, hadds, rfl, hbefore, hafter⟩ :=
        exists_around_tables hwork
      simp only [Draft.opsAt_append, List.mem_append] at hop
      rcases hop with ((((hop | hop) | hop) | hop) | hop) | hop
      · exact absurd (hbefore _ op hop) hbeforeNot
      · rw [Draft.opsAt_join, List.mem_flatMap] at hop
        obtain ⟨d, hd, hop⟩ := hop
        obtain ⟨item, hm, hitem⟩ := exists_source_of_mapM htables hd
        refine ⟨drops, item, hm, d, hitem, hop, fun other a ha => ?_⟩
        simp only [Draft.opsAt_append, Draft.opsAt_join, List.mem_append, List.mem_flatMap]
        exact .inl (.inl (.inl (.inl (.inl (.inr ⟨d, hd, ha⟩)))))
      · cases place with
        | stage1 => exact absurd (hadds op hop) haddsNot
        | _ => cases hop
      · exact absurd (within_dropTables c _ op hop) hdropsNot
      · exact absurd (hafter _ op hop) hafterNot
      · exact absurd (within_viewWork c _ _ op hop) hviewsNot
  · exact absurd (within_rowsIfWanted hrows _ op hop) hrowsNot

theorem exists_columnWork_of_columnsWork {oldSchema schema : String} {oldTable table : Table}
    {d : Draft} (h : c.columnsWork oldSchema oldTable schema table = .ok d)
    (hop : op ∈ d.opsAt place) (hkind : op.kind ∉ tableOnlyKinds place) :
    ∃ col ∈ table.columns, ∃ work old,
      c.columnWork oldSchema oldTable schema table col = .ok (work, old) ∧
        op ∈ work.opsAt place ∧ ∀ other, work.opsAt other ⊆ d.opsAt other := by
  simp only [columnsWork, bind_eq_ok, pure_eq_ok] at h
  obtain ⟨works, hworks, rfl⟩ := h
  rw [Draft.opsAt_append, List.mem_append] at hop
  rcases hop with hop | hop
  · rw [Draft.opsAt_join, List.mem_flatMap] at hop
    obtain ⟨work, hwork, hop⟩ := hop
    obtain ⟨w, hw, rfl⟩ := List.mem_map.1 hwork
    obtain ⟨col, hcol, hone⟩ := exists_source_of_mapM hworks hw
    obtain ⟨r, hr, he⟩ := bind_eq_ok.1 hone
    rw [← pure_eq_ok.1 he] at hop hwork
    refine ⟨col, hcol, r.1, r.2, hr, hop, fun other a ha => ?_⟩
    rw [Draft.opsAt_append, Draft.opsAt_join]
    exact List.mem_append_left _ (List.mem_flatMap.2 ⟨r.1, hwork, ha⟩)
  · cases place with
    | stage3 =>
      obtain ⟨previous, _, hop⟩ := List.mem_flatMap.1 hop
      exact absurd (ofKinds_removeColumn _ _ previous op hop) hkind
    | _ => cases hop

theorem exists_columnWork_of_tablePass {drops : List Constraint} {item : Schema × Table} {d : Draft}
    (h : c.tablePass drops item = .ok d) (hop : op ∈ d.opsAt place)
    (hkind : op.kind ∉ tableOnlyKinds place) :
    ∃ col ∈ item.2.columns, ∃ oldSchema oldTable work old,
      c.columnWork oldSchema oldTable item.1.name item.2 col = .ok (work, old) ∧
        op ∈ work.opsAt place ∧ ∀ other, work.opsAt other ⊆ d.opsAt other := by
  obtain ⟨work, key, hwork, hkey, rfl⟩ := tablePass_eq_ok_iff.1 h
  have hrest := (((ofKinds_tableIndexOps c item.1.name item.2).append
    (ofKinds_clusterOps c item.1.name item.2)).append (ofKinds_addPrimaryKey hkey)).append
    (ofKinds_tableTriggerOps c item.1 item.2)
  have hfirst : ∀ {ops : List Op}, OfKinds (tableOnlyKinds .stage1) ops →
      op ∉ (Draft.first ops).opsAt place := by
    intro ops hops hop
    have hwithin : (Draft.first ops).Within tableOnlyKinds := Draft.within_first hops
    exact hkind (hwithin place op hop)
  rw [Draft.opsAt_append, List.mem_append] at hop
  rcases hop with hop | hop
  · unfold tableWork at hwork
    split at hwork
    next =>
      obtain ⟨ops, hops, he⟩ := bind_eq_ok.1 hwork
      rw [← pure_eq_ok.1 he] at hop
      exact absurd hop (hfirst ((ofKinds_createTable hops).mono (by decide)))
    next oldSchema oldTable _ =>
      obtain ⟨columns, hcolumns, he⟩ := bind_eq_ok.1 hwork
      rw [← pure_eq_ok.1 he, Draft.opsAt_append, Draft.opsAt_append, List.mem_append,
        List.mem_append] at hop
      rcases hop with (hop | hop) | hop
      · exact absurd hop (hfirst ((ofKinds_renameTable _ _ _ _).mono (by decide)))
      · obtain ⟨col, hcol, w, old, hone, hop, hsub⟩ :=
          exists_columnWork_of_columnsWork hcolumns hop hkind
        refine ⟨col, hcol, oldSchema.name, oldTable, w, old, hone, hop, fun other a ha => ?_⟩
        rw [← pure_eq_ok.1 he]
        simp only [Draft.opsAt_append, List.mem_append]
        exact .inl (.inl (.inr (hsub other ha)))
      · split at hop
        · rw [Draft.opsAt_empty] at hop
          cases hop
        · exact absurd hop (hfirst (by simp [Op.kind, tableOnlyKinds]))
  · exact absurd hop (hfirst (hrest.mono (by decide)))

/-- **What is done to columns is the work on one of them**, in a table that continues another. -/
theorem exists_columnWork [QueryReader]
    (hschema : (if c.options.onlyData then .ok {} else c.schemaWork) = .ok schema)
    (hrows : (if c.options.onlySchema then .ok {} else c.rowWork) = .ok rows)
    (hop : op ∈ (schema ++ rows).opsAt place)
    (hkind : op.kind ∉ notOfTables place ++ tableOnlyKinds place) :
    ∃ item ∈ c.newTables, ∃ col ∈ item.2.columns, ∃ oldSchema oldTable work old,
      c.columnWork oldSchema oldTable item.1.name item.2 col = .ok (work, old) ∧
        op ∈ work.opsAt place ∧ ∀ other, work.opsAt other ⊆ (schema ++ rows).opsAt other := by
  rw [List.mem_append, not_or] at hkind
  obtain ⟨drops, item, hm, d, hpass, hop, hsub⟩ := exists_tablePass hschema hrows hop hkind.1
  obtain ⟨col, hcol, oldSchema, oldTable, work, old, hwork, hop, hsub'⟩ :=
    exists_columnWork_of_tablePass hpass hop hkind.2
  exact ⟨item, hm, col, hcol, oldSchema, oldTable, work, old, hwork, hop,
    fun other => List.Subset.trans (hsub' other) (hsub other)⟩

end Source

/-! ### The work on one column -/

section Column

variable {oldSchema schema : String} {oldTable table : Table} {col : Column} {work : Draft}
  {old : Option (Column × Bool)}

/-- A column is added, or one that was there is renamed and altered. -/
theorem columnWork_cases (h : c.columnWork oldSchema oldTable schema table col = .ok (work, old)) :
    (∃ dataType, work = c.addColumn (Sql.qualified schema table.name) col dataType) ∨
      ∃ rename changes object previous oldType newType, OfKinds [.renameColumn] rename ∧
        c.alterColumn (Sql.qualified schema table.name) object previous oldType col newType =
          .ok changes ∧ work = .first rename ++ changes := by
  simp only [columnWork, bind_eq_ok] at h
  obtain ⟨newType, -, found, -, h⟩ := h
  rcases found with _ | ⟨previous, renamed⟩
  · exact .inl ⟨newType, (Prod.mk.inj (pure_eq_ok.1 h)).1.symm⟩
  · simp only [bind_eq_ok, pure_eq_ok] at h
    obtain ⟨oldType, -, changes, hchanges, he⟩ := h
    refine .inr ⟨if renamed then
        [.renameColumn (Sql.qualified schema table.name) previous.name col.name] else [],
      changes, _, previous, oldType, newType, ofKinds_ite (by simp [Op.kind]) ofKinds_nil,
      hchanges, ?_⟩
    rw [← (Prod.mk.inj he).1]
    cases renamed <;> rfl

theorem backfill_opsAt (address : String) {place : Place} (hne : place ≠ .stage1Tail) :
    (backfill address col).opsAt place = [] := by
  have hkinds := within_backfill address col place
  cases place <;> first | exact absurd rfl hne | exact hkinds.eq_nil

theorem demandValue_opsAt (address column : String) {place : Place} (hne : place ≠ .stage3) :
    (c.demandValue address column).opsAt place = [] := by
  have hkinds := within_demandValue c address column place
  cases place <;> first | exact absurd rfl hne | exact hkinds.eq_nil

theorem onlyFirst_describeColumn (col : Column) (address : String) (p : Prop) [Decidable p] :
    (if p then describeColumn address col else {}).OnlyFirst :=
  Draft.onlyFirst_ite (Draft.onlyFirst_first _) Draft.onlyFirst_empty

/-- A column that is added comes first, and without a default. -/
theorem opsAt_stage1_addColumn (c : Comparison) (col : Column) (address dataType : String) :
    ∃ rest, (c.addColumn address col dataType).opsAt .stage1 =
      .addColumn address { name := col.name, dataType } :: rest ∧
        OfKinds [.setSerialValue, .alterColumn, .setComment] rest := by
  refine ⟨_, rfl, ?_⟩
  show OfKinds _ (Draft.opsAt _ .stage1 ++ Draft.opsAt _ .stage1)
  refine ofKinds_append.2 ⟨?_, ?_⟩
  · split
    · simp [Op.kind]
    · rw [Draft.opsAt_append, Draft.opsAt_append, backfill_opsAt _ (by decide), List.append_nil]
      refine ofKinds_append.2 ⟨by simp [Op.kind], ?_⟩
      split
      · exact ofKinds_nil
      · rw [demandValue_opsAt _ _ (by decide)]
        exact ofKinds_nil
  · split
    · simp [describeColumn, Op.kind]
    · exact ofKinds_nil

/-- If a column that is added is asked for values, rows have been filled. -/
theorem opsAt_addColumn (address dataType : String) :
    (c.addColumn address col dataType).opsAt .stage3 = [] ∨ col.nullable = false ∧
      (c.addColumn address col dataType).opsAt .stage1Tail =
        (backfill address col).opsAt .stage1Tail ∧
      (c.addColumn address col dataType).opsAt .stage3 =
        (c.demandValue address col.name).opsAt .stage3 := by
  have hdescribe := onlyFirst_describeColumn col address (col.description.isSome = true)
  have hfirst := Draft.onlyFirst_first
  unfold addColumn
  by_cases hserial : Sql.TypeName.isSerial dataType = true
  · left
    simp [if_pos hserial, hfirst _ .stage3, hdescribe .stage3]
  · by_cases hnullable : col.nullable = true
    · left
      simp [if_neg hserial, hnullable, hfirst _ .stage3, hdescribe .stage3, backfill_opsAt]
    · right
      simp [if_neg hserial, hnullable, hfirst _ .stage3, hfirst _ .stage1Tail, hdescribe .stage3,
        hdescribe .stage1Tail, backfill_opsAt, demandValue_opsAt]

/-- If a column that continues another is asked for values, rows have been filled. -/
theorem opsAt_alterColumn {address object : String} {previous : Column} {oldType newType : String}
    {changes : Draft}
    (h : c.alterColumn address object previous oldType col newType = .ok changes) :
    changes.opsAt .stage3 = [] ∨ col.nullable = false ∧
      changes.opsAt .stage1Tail = (backfill address col).opsAt .stage1Tail ∧
      changes.opsAt .stage3 = (c.demandValue address col.name).opsAt .stage3 := by
  simp only [alterColumn, bind_eq_ok, pure_eq_ok] at h
  obtain ⟨type, htype, rfl⟩ := h
  have htypeFirst : type.OnlyFirst := by
    unfold alterType at htype
    split at htype
    · rw [← Except.ok.inj htype]
      exact Draft.onlyFirst_empty
    · split at htype
      · cases htype
      · rw [← Except.ok.inj htype]
        exact Draft.onlyFirst_first _
  have hdefault : (alterDefault address previous col).OnlyFirst :=
    Draft.onlyFirst_ite Draft.onlyFirst_empty (Draft.onlyFirst_first _)
  have hdescribe : (if previous.description == col.description then {}
      else describeColumn address col).OnlyFirst :=
    Draft.onlyFirst_ite Draft.onlyFirst_empty (Draft.onlyFirst_first _)
  have hnullable : (c.alterNullable address previous col).OnlyFirst ∨ col.nullable = false ∧
      c.alterNullable address previous col =
        backfill address col ++ c.demandValue address col.name := by
    unfold alterNullable
    split
    · exact .inr ⟨‹_›, rfl⟩
    · exact .inl (Draft.onlyFirst_first _)
    · exact .inl Draft.onlyFirst_empty
  generalize (if previous.description == col.description then ({} : Draft)
    else describeColumn address col) = describe at hdescribe ⊢
  rcases hnullable with hfirst | ⟨hnot, he⟩
  · left
    simp [htypeFirst .stage3, hdefault .stage3, hdescribe .stage3, hfirst .stage3]
  · right
    simp [he, hnot, htypeFirst .stage3, htypeFirst .stage1Tail, hdefault .stage3,
      hdefault .stage1Tail, hdescribe .stage3, hdescribe .stage1Tail, backfill_opsAt,
      demandValue_opsAt]

/-- **A column is added without a constraint and without a default.** -/
theorem loose_of_columnWork
    (h : c.columnWork oldSchema oldTable schema table col = .ok (work, old)) {address : String}
    {added : ColumnDef} (hop : .addColumn address added ∈ work.opsAt .stage1) :
    added.nullable = true ∧ added.default? = none := by
  rcases columnWork_cases h with ⟨dataType, rfl⟩ | ⟨_, _, _, _, _, _, hrename, hchanges, rfl⟩
  · obtain ⟨rest, he, hrest⟩ :=
      opsAt_stage1_addColumn c col (Sql.qualified schema table.name) dataType
    rw [he] at hop
    rcases List.mem_cons.1 hop with hop | hop
    · rw [(Op.addColumn.inj hop).2]
      exact ⟨rfl, rfl⟩
    · exact absurd (hrest _ hop) (by simp [Op.kind])
  · rw [Draft.opsAt_append, List.mem_append, Draft.opsAt_first] at hop
    rcases hop with hop | hop
    · exact absurd (hrename _ hop) (by simp [Op.kind])
    · exact absurd (within_alterColumn hchanges _ _ hop) (by simp [Op.kind, alterColumnKinds])

/-- **Where a column is asked for values, rows have been filled**: the demand comes with what gives
them their default. -/
theorem demands_of_columnWork
    (h : c.columnWork oldSchema oldTable schema table col = .ok (work, old)) {op : Op}
    (hop : op ∈ work.opsAt .stage3) :
    col.nullable = false ∧ op ∈ (c.demandValue (Sql.qualified schema table.name) col.name).opsAt
        .stage3 ∧
      (backfill (Sql.qualified schema table.name) col).opsAt .stage1Tail ⊆
        work.opsAt .stage1Tail := by
  have hcases : work.opsAt .stage3 = [] ∨ col.nullable = false ∧
      work.opsAt .stage1Tail = (backfill (Sql.qualified schema table.name) col).opsAt .stage1Tail ∧
      work.opsAt .stage3 =
        (c.demandValue (Sql.qualified schema table.name) col.name).opsAt .stage3 := by
    rcases columnWork_cases h with ⟨dataType, rfl⟩ | ⟨rename, _, _, _, _, _, -, hchanges, rfl⟩
    · exact opsAt_addColumn _ _
    · have hfirst := Draft.onlyFirst_first rename
      rw [Draft.opsAt_append, Draft.opsAt_append, hfirst .stage3 (by decide),
        hfirst .stage1Tail (by decide)]
      exact opsAt_alterColumn hchanges
  rcases hcases with he | ⟨hnullable, htail, he⟩
  · rw [he] at hop
    cases hop
  · rw [he] at hop
    rw [htail]
    exact ⟨hnullable, hop, List.Subset.refl _⟩

end Column

/-- A column that must have values and has a default has its rows filled. -/
theorem exists_backfill (address : String) {col : Column} (hnullable : col.nullable = false)
    (hdefault : col.default?.isSome) :
    ∃ value, .backfillColumn address col.name value ∈ (backfill address col).opsAt .stage1Tail := by
  obtain ⟨value, hvalue⟩ := Option.isSome_iff_exists.1 hdefault
  unfold backfill
  rw [hvalue]
  dsimp only
  split
  · exact ⟨_, List.mem_singleton_self _⟩
  · rw [hnullable, if_neg Bool.false_ne_true]
    exact ⟨_, List.mem_singleton_self _⟩

/-- What demands values is the demand. -/
theorem eq_of_demandsValues {address column : String} {op : Op} {place : Place}
    (hop : op ∈ (c.demandValue address column).opsAt place) (hdemands : op.demandsValues = true) :
    op = .alterColumn address column .setNotNull := by
  unfold demandValue at hop
  cases place with
  | stage3 =>
    split at hop
    · rw [List.mem_singleton.1 hop] at hdemands
      cases hdemands
    · exact List.mem_singleton.1 hop
  | _ => split at hop <;> cases hop

end Comparison

/-! ### Plans and demands -/

/-- The column that is added or given a default. -/
def Op.setUp? : Op → Option (String × String)
  | .addColumn table added => some (table, added.name)
  | .alterColumn table column (.setDefault _) => some (table, column)
  | _ => none

open Database (address)

/-- A plan that demands values last. -/
structure DemandsLast (new : Database) (p : Plan) : Prop where
  /-- A column is added without a constraint and without a default. -/
  added : ∀ table column, .addColumn table column ∈ p.ops →
    column.nullable = true ∧ column.default? = none
  demanded : ∀ q ∈ p, q.op.demandsValues = true → q.stage = .stage3
  /-- Where values are demanded of a column with a default, its rows have been filled in the first
  stage, after the column was added and given its default. -/
  filled : ∀ item ∈ new.tables, ∀ col ∈ item.2.columns, col.default?.isSome →
    ∀ i : Nat, p.ops[i]? = some (Op.alterColumn (address item) col.name .setNotNull) →
      ∃ j < i, ∃ value,
        p[j]? = some (PlannedOp.mk .stage1 (.backfillColumn (address item) col.name value)) ∧
        ∀ (k : Nat) (op : Op), p.ops[k]? = some op → op.setUp? = some (address item, col.name) → k < j

theorem Op.places_of_setUp? {op : Op} {column : String × String} (h : op.setUp? = some column) :
    op.places = [.stage1] := by
  unfold setUp? at h
  split at h
  · rfl
  · rfl
  · cases h

theorem Op.places_of_demandsValues {op : Op} (h : op.demandsValues = true) :
    op.places = [.stage3] := by
  unfold demandsValues at h
  split at h
  · rfl
  · cases h

/-- Rows are filled once columns have been set up. -/
theorem Draft.InPlace.precedes_backfill {d : Draft} (h : d.InPlace) (custom : List CustomSql) :
    Precedes (·.setUp?.isSome) (·.kind = .backfillColumn) (d.toPlan custom).ops := by
  obtain ⟨own, hkinds, he⟩ := d.exists_own_statements custom
  have hplace : ∀ {place : Place} {op : Op}, op ∈ d.opsAt place → op.setUp?.isSome →
      place = .stage1 := by
    intro place op hop hset
    obtain ⟨column, hcolumn⟩ := Option.isSome_iff_exists.1 hset
    exact List.mem_singleton.1 (Op.places_of_setUp? hcolumn ▸ h place op hop)
  have hnot : ∀ place, place ≠ .stage1 → ∀ op ∈ d.opsAt place, ¬ op.setUp?.isSome :=
    fun place hne op hop hset => hne (hplace hop hset)
  have hown : ∀ stage before, ∀ op ∈ own stage before, ¬ op.setUp?.isSome := by
    intro stage before op hop hset
    obtain ⟨column, hcolumn⟩ := Option.isSome_iff_exists.1 hset
    have hkind := hkinds stage before op hop
    unfold Op.setUp? at hcolumn
    split at hcolumn <;> simp [Op.kind] at hkind hcolumn
  have hfill : ∀ {place : Place} {op : Op}, op ∈ d.opsAt place → op.kind = .backfillColumn →
      place = .stage1Tail := by
    intro place op hop hkind
    have hmem := h place op hop
    cases op <;> first
      | exact List.mem_singleton.1 hmem
      | simp [Op.kind] at hkind
  rw [he, ← List.append_assoc, ← List.append_assoc]
  refine precedes_append ?_ ?_
  · simp only [List.forall_mem_append]
    refine ⟨⟨fun op hop hkind => ?_, fun op hop hkind => ?_⟩, fun op hop hkind => ?_⟩
    · have hmem := hkinds _ _ op hop
      rw [hkind] at hmem
      exact absurd hmem (by decide)
    · cases hfill hop hkind
    · cases hfill hop hkind
  · simp only [List.forall_mem_append]
    exact ⟨hnot _ (by decide), hown _ _, hown _ _, hnot _ (by decide), hown _ _, hown _ _,
      hnot _ (by decide), hnot _ (by decide), hown _ _, hown _ _, hnot _ (by decide), hown _ _⟩

namespace Comparison

section Demands

variable [QueryReader] {c : Comparison} {schema rows : Draft}
  (hschema : (if c.options.onlyData then .ok {} else c.schemaWork) = .ok schema)
  (hrows : (if c.options.onlySchema then .ok {} else c.rowWork) = .ok rows)

include hschema hrows

theorem loose_of_mem {custom : List CustomSql} {table : String} {column : ColumnDef}
    (hop : .addColumn table column ∈ ((schema ++ rows).toPlan custom).ops) :
    column.nullable = true ∧ column.default? = none := by
  rcases mem_ops_toPlan hop with hown | ⟨place, hplace⟩
  · simp [Op.kind] at hown
  · have hfit := (drafted_parts hschema hrows).inPlace place _ hplace
    rw [List.mem_singleton.1 hfit] at hplace
    obtain ⟨_, _, _, _, _, _, _, _, hwork, hop, -⟩ := exists_columnWork hschema hrows hplace
      (show OpKind.addColumn ∉ notOfTables .stage1 ++ tableOnlyKinds .stage1 by decide)
    exact loose_of_columnWork hwork hop

/-- **Where a plan demands values of a column, it fills the rows**, if they have a default to be filled
with. -/
theorem exists_backfill_of_demand (hc : c.WellMade) (hdots : c.new.DotFree) {custom : List CustomSql}
    {item : Schema × Table} (hm : item ∈ c.new.tables) {col : Column} (hcol : col ∈ item.2.columns)
    (hdefault : col.default?.isSome)
    (hop : .alterColumn (address item) col.name .setNotNull ∈
      ((schema ++ rows).toPlan custom).ops) :
    ∃ value, .backfillColumn (address item) col.name value ∈ (schema ++ rows).opsAt .stage1Tail := by
  rcases mem_ops_toPlan hop with hown | ⟨place, hplace⟩
  · simp [Op.kind] at hown
  · have hfit := (drafted_parts hschema hrows).inPlace place _ hplace
    rw [List.mem_singleton.1 hfit] at hplace
    obtain ⟨item', hm', col', hcol', _, _, _, _, hwork, hop, hsub⟩ :=
      exists_columnWork hschema hrows hplace
        (show OpKind.alterColumn ∉ notOfTables .stage3 ++ tableOnlyKinds .stage3 by decide)
    obtain ⟨hnullable, hdemand, htail⟩ := demands_of_columnWork hwork hop
    obtain ⟨htable, hname, -⟩ := Op.alterColumn.inj (eq_of_demandsValues hdemand rfl)
    -- The column that is worked on is the one that is asked for values.
    have hitem := (hc.new.address_inj hdots hm (hc.mem_newTables.1 hm')).1 htable
    subst hitem
    have hcolumn : col = col' :=
      List.inj_on_of_nodup_map (hc.new.table_of_mem hm).columnNames hcol hcol' hname
    subst hcolumn
    obtain ⟨value, hvalue⟩ := exists_backfill (address item) hnullable hdefault
    exact ⟨value, hsub _ (htail hvalue)⟩

end Demands

/-- What belongs to a place of the first stage is planned for it. -/
theorem mem_toPlan_of_stage1Tail {d : Draft} {custom : List CustomSql} {op : Op}
    (hop : op ∈ d.opsAt .stage1Tail) : ⟨.stage1, op⟩ ∈ d.toPlan custom := by
  refine List.mem_flatMap.2 ⟨.stage1, by decide, List.mem_map_of_mem ?_⟩
  exact List.mem_append_left _ (List.mem_append_right _ (List.mem_append_right _ hop))

theorem demandsLast_of_plan [QueryReader] {c : Comparison} (hc : c.WellMade)
    (hdots : c.new.DotFree) {p : Plan} (h : c.plan = .ok p) : DemandsLast c.new p := by
  obtain ⟨schema, rows, hschema, hrows, rfl⟩ := plan_eq_ok_iff.1 h
  generalize (if c.options.onlyData then [] else c.customSql) = custom
  have hdrafted := drafted_parts hschema hrows
  have hstaged := hdrafted.staged custom
  have hdemanded : ∀ q ∈ (schema ++ rows).toPlan custom, q.op.demandsValues = true →
      q.stage = .stage3 := by
    intro q hq hdemands
    have hkind : q.op.kind = .alterColumn := by
      generalize q.op = op at hdemands
      cases op <;> first | rfl | cases hdemands
    have hstage := hstaged.mem_stages hq (by rw [hkind]; decide)
    rw [Op.stages, Op.places_of_demandsValues hdemands] at hstage
    exact List.mem_singleton.1 hstage
  refine ⟨fun table column hop => loose_of_mem hschema hrows hop, hdemanded, ?_⟩
  intro item hm col hcol hdefault i hi
  obtain ⟨q, hq, hqop⟩ := Option.map_eq_some_iff.1 (List.getElem?_map ▸ hi)
  obtain ⟨value, hvalue⟩ := exists_backfill_of_demand hschema hrows hc hdots hm hcol hdefault
    (List.mem_of_getElem? hi)
  obtain ⟨j, hj⟩ := List.mem_iff_getElem?.1 (mem_toPlan_of_stage1Tail hvalue)
  have hstage : q.stage = .stage3 :=
    hdemanded q (List.mem_of_getElem? hq) (by rw [hqop]; rfl)
  have hbefore : Stage.stage1.number < q.stage.number := by
    rw [hstage]
    decide
  refine ⟨j, hstaged.lt_of_stage hj hq hbefore, value, hj, ?_⟩
  intro k op hk hset
  have hsets : op.setUp?.isSome = true := by
    rw [hset]
    rfl
  have hfill : ((schema ++ rows).toPlan custom).ops[j]? =
      some (.backfillColumn (address item) col.name value) := by
    rw [Plan.ops, List.getElem?_map, hj]
    rfl
  exact hdrafted.inPlace.precedes_backfill custom k j op _ hk hfill hsets rfl

end Comparison

/-- **Values are demanded last**, whatever the orders of tables.  A column is added without a constraint
and without a default; values are demanded in the third stage, once the rows of a column with a default
have been filled; and a script for all stages is the same plan with a remark in the place of each
demand. -/
theorem values_demanded_last [QueryReader] {old : Option Database} {new : Database}
    {newOrder oldOrder : Option (List OrderItem)} {style : Sql.Style} {options : Options}
    {p : Plan} (h : planWithOrders old new newOrder oldOrder style options = .ok p)
    (hdots : new.DotFree) :
    DemandsLast new p ∧
      planWithOrders old new newOrder oldOrder style { options with singleStage := true } =
        (planWithOrders old new newOrder oldOrder style { options with singleStage := false }).map
          Plan.relaxed ∧
      (options.singleStage = true → ∀ op ∈ p.ops, op.demandsValues = false) := by
  have hsingle := planWithOrders_singleStage old new newOrder oldOrder style options
  refine ⟨?_, hsingle, fun honce op hop => ?_⟩
  · obtain ⟨hnew, hold, c, hmake, hp⟩ := planWithOrders_eq_ok_iff.1 h
    have hc := Comparison.wellMade_of_make (Database.coherent_of_validate hnew)
      (fun db hdb => Database.coherent_of_validate (hold db hdb)) hmake
    obtain ⟨-, -, -, -, rfl, -⟩ := Comparison.make_eq_ok_iff.1 hmake
    exact Comparison.demandsLast_of_plan hc hdots hp
  · have he : { options with singleStage := true } = options := by
      cases options
      cases honce
      rfl
    rw [he, h] at hsingle
    cases hstages : planWithOrders old new newOrder oldOrder style
        { options with singleStage := false } with
    | error e =>
      rw [hstages] at hsingle
      cases hsingle
    | ok q =>
      rw [hstages] at hsingle
      rw [Except.ok.inj hsingle, Plan.ops, Plan.relaxed, List.map_map] at hop
      obtain ⟨planned, -, rfl⟩ := List.mem_map.1 hop
      exact Op.demandsValues_relaxed planned.op

/-! ### A pantry -/

attribute [local instance] QueryReader.blank

/-- A pantry whose jars have columns of their own choice. -/
def Pantry.database (columns : List Column) : Database where
  schemas := [{
    name := "pantry"
    tables := [{
      name := "jars"
      primaryKey := ["id"]
      columns := { name := "id", dataType := some "bigint" } :: columns }] }]

/-- Jars may have labels. -/
def Pantry.first : Database :=
  Pantry.database [{ name := "label", dataType := some "text" }]

/-- Jars must have labels, and a day when they were filled. -/
def Pantry.second : Database :=
  Pantry.database [
    { name := "label", dataType := some "text", nullable := false },
    { name := "filled", dataType := some "date", nullable := false,
      default? := some "'1970-01-01'" }]

/-- The plan from one pantry to the other.  Nothing tells what to write on jars without labels. -/
def Pantry.upgrade : Plan := [
  ⟨.stage1, .addColumn "pantry.jars" { name := "filled", dataType := "date" }⟩,
  ⟨.stage1, .alterColumn "pantry.jars" "filled" (.setDefault "'1970-01-01'")⟩,
  ⟨.stage1, .backfillColumn "pantry.jars" "filled" none⟩,
  ⟨.stage3, .alterColumn "pantry.jars" "label" .setNotNull⟩,
  ⟨.stage3, .alterColumn "pantry.jars" "filled" .setNotNull⟩]

theorem values_demanded_last_of_pantry :
    planWithOrders (some Pantry.first) Pantry.second none none {} {} = .ok Pantry.upgrade ∧
      DemandsLast Pantry.second Pantry.upgrade ∧
      planWithOrders (some Pantry.first) Pantry.second none none {} { singleStage := true } =
        .ok Pantry.upgrade.relaxed := by
  have h : planWithOrders (some Pantry.first) Pantry.second none none {} {} =
      .ok Pantry.upgrade := by
    decide +kernel
  obtain ⟨hlast, hsingle, -⟩ := values_demanded_last h (by decide +kernel)
  refine ⟨h, hlast, hsingle.trans ?_⟩
  rw [show ({ singleStage := false } : Options) = {} from rfl, h]
  rfl

end SchemaPlan
