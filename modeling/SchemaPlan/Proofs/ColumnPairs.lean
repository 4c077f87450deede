import SchemaPlan.Proofs.ValueDemands

/-!
# Which column continues which

A column of a table that continues another is looked for among the columns that there were: under
the name that its marker gives if there was a column of that name (`marked?`), and under its own
name otherwise (`oldColumn_eq_ok_iff`).  Each column is looked at by itself, and so it is added,
renamed or there already (`Arrives`), and nothing else adds or renames a column (`exists_arrivals`).

What one column does not show is that another continues the same.  That happens in two ways: two
markers give one name, or a marker gives the name of a column that is still there.  Where neither is
the case (`MarkersApart`) columns pair off, and only there (`columns_pair_off_iff`).  Among tables
the second of two that continue one is refused; among columns nobody looks, and a plan renames away
a column that the new version has, without adding it (`column_renamed_away`).
-/

namespace SchemaPlan

namespace Comparison

/-! ### The column that a column continues -/

/-- The name that the marker of a column gives, if the table had a column of that other name. -/
def marked? (renameTracking : Bool) (oldTable : Table) (col : Column) : Option String :=
  (if renameTracking then col.oldName else none).filter fun name =>
    name != col.name && (oldTable.column? name).isSome

/-- The name under which a column is looked for in the previous version. -/
def formerName (renameTracking : Bool) (oldTable : Table) (col : Column) : String :=
  (marked? renameTracking oldTable col).getD col.name

/-- A column continues one of the previous version. -/
def ContinuesColumn (renameTracking : Bool) (oldTable : Table) (col former : Column) : Prop :=
  ∃ object renamed, oldColumn renameTracking oldTable col object = .ok (some (former, renamed))

section Former

variable {renameTracking : Bool} {oldTable : Table} {col former : Column} {object : String}
  {found : Option (Column × Bool)}

theorem name_of_column? {t : Table} {name : String} {col : Column} (h : t.column? name = some col) :
    col.name = name := by
  simpa using List.find?_some h

theorem marked?_eq_some_iff {name : String} :
    marked? renameTracking oldTable col = some name ↔ renameTracking = true ∧
      col.oldName = some name ∧ name ≠ col.name ∧ (oldTable.column? name).isSome := by
  cases renameTracking <;> simp [marked?, Option.filter_eq_some_iff]

/-- **What a column continues**: the column of the name that it had.  It is refused if that is not
its own name and there was a column of its own name as well. -/
theorem oldColumn_eq_ok_iff : oldColumn renameTracking oldTable col object = .ok found ↔
    ((marked? renameTracking oldTable col).isSome → oldTable.column? col.name = none) ∧
      found = (oldTable.column? (formerName renameTracking oldTable col)).map fun former =>
        (former, (marked? renameTracking oldTable col).isSome) := by
  cases hmarked : marked? renameTracking oldTable col with
  | none =>
    have hown : oldColumn renameTracking oldTable col object =
        .ok ((oldTable.column? col.name).map fun former => (former, false)) := by
      unfold oldColumn
      dsimp only
      split
      · rfl
      next name hmarker =>
        rw [marked?, hmarker, Option.filter_some, ite_eq_right_iff] at hmarked
        split
        · rfl
        next hne =>
          split
          · rfl
          next former hformer =>
            simp [hformer, bne, hne] at hmarked
    rw [hown, formerName, hmarked]
    simp [eq_comm]
  | some name =>
    obtain ⟨htracking, hmarker, hne, hthere⟩ := marked?_eq_some_iff.1 hmarked
    obtain ⟨former, hformer⟩ := Option.isSome_iff_exists.1 hthere
    rw [formerName, hmarked, Option.getD_some, hformer]
    simp only [oldColumn, if_pos htracking, hmarker, beq_eq_false_iff_ne.2 hne,
      Bool.false_eq_true, if_false, hformer, Option.map_some]
    cases oldTable.column? col.name with
    | none => simp [eq_comm]
    | some own => simp

/-- A column that is not refused continues the column of the name that it had. -/
theorem continuesColumn_iff (h : oldColumn renameTracking oldTable col object = .ok found) :
    ContinuesColumn renameTracking oldTable col former ↔
      oldTable.column? (formerName renameTracking oldTable col) = some former := by
  have hallowed := (oldColumn_eq_ok_iff.1 h).1
  constructor
  · rintro ⟨_, renamed, hfound⟩
    obtain ⟨_, hformer, he⟩ := Option.map_eq_some_iff.1 (oldColumn_eq_ok_iff.1 hfound).2.symm
    cases he
    exact hformer
  · intro hformer
    refine ⟨object, (marked? renameTracking oldTable col).isSome,
      oldColumn_eq_ok_iff.2 ⟨hallowed, ?_⟩⟩
    rw [hformer]
    rfl

end Former

/-! ### How columns come about -/

/-- The operation adds a column or gives one another name. -/
def isArrival (op : Op) : Bool :=
  op.kind == .addColumn || op.kind == .renameColumn

theorem filter_isArrival_eq_nil {kinds : List OpKind} {ops : List Op} (h : OfKinds kinds ops)
    (hadd : OpKind.addColumn ∉ kinds) (hrename : OpKind.renameColumn ∉ kinds) :
    ops.filter isArrival = [] := by
  refine List.filter_eq_nil_iff.2 fun op hop harrival => ?_
  have hkind := h op hop
  simp only [isArrival, Bool.or_eq_true, beq_iff_eq] at harrival
  rcases harrival with he | he
  · exact hadd (he ▸ hkind)
  · exact hrename (he ▸ hkind)

/-- How a column of a table comes about: it continues none and is added with its type, it has
another name than the column that it continues and is renamed, or it is there already. -/
inductive Arrives (c : Comparison) (oldTable : Table) (schema : String) (table : Table)
    (col : Column) : List Op → Prop where
  | added {dataType : String}
      (hnone : ∀ former, ¬ ContinuesColumn c.options.renameTracking oldTable col former)
      (htype : c.new.columnType schema table.name col.name = .ok dataType) :
      Arrives c oldTable schema table col
        [.addColumn (Sql.qualified schema table.name) { name := col.name, dataType }]
  | renamed {former : Column}
      (hformer : ContinuesColumn c.options.renameTracking oldTable col former)
      (hname : former.name ≠ col.name) :
      Arrives c oldTable schema table col
        [.renameColumn (Sql.qualified schema table.name) former.name col.name]
  | kept {former : Column}
      (hformer : ContinuesColumn c.options.renameTracking oldTable col former)
      (hname : former.name = col.name) : Arrives c oldTable schema table col []

variable {c : Comparison} {oldSchema schema : String} {oldTable table : Table}

/-- Changing a column that is there neither adds nor renames one. -/
theorem ofKinds_stage1_alterColumn {address object : String} {previous col : Column}
    {oldType newType : String} {changes : Draft}
    (h : c.alterColumn address object previous oldType col newType = .ok changes) :
    OfKinds [.alterColumn, .setComment] (changes.opsAt .stage1) := by
  simp only [alterColumn, bind_eq_ok, pure_eq_ok] at h
  obtain ⟨type, htype, rfl⟩ := h
  simp only [Draft.opsAt_append, ofKinds_append]
  refine ⟨⟨⟨?_, ?_⟩, ?_⟩, ?_⟩
  · unfold alterType at htype
    split at htype
    · rw [← Except.ok.inj htype]
      exact ofKinds_nil
    · split at htype
      · cases htype
      · rw [← Except.ok.inj htype]
        simp [Op.kind]
  · unfold alterDefault
    split
    · exact ofKinds_nil
    · simp [Op.kind]
  · unfold alterNullable
    split
    · rw [Draft.opsAt_append, backfill_opsAt _ (by decide), demandValue_opsAt _ _ (by decide)]
      exact ofKinds_nil
    · simp [Op.kind]
    · exact ofKinds_nil
  · split
    · exact ofKinds_nil
    · simp [describeColumn, Op.kind]

theorem arrives_of_columnWork {col : Column} {work : Draft} {old : Option (Column × Bool)}
    (h : c.columnWork oldSchema oldTable schema table col = .ok (work, old)) :
    c.Arrives oldTable schema table col ((work.opsAt .stage1).filter isArrival) := by
  simp only [columnWork, bind_eq_ok] at h
  obtain ⟨dataType, htype, found, hfound, h⟩ := h
  have he := (oldColumn_eq_ok_iff.1 hfound).2
  cases hformer : oldTable.column? (formerName c.options.renameTracking oldTable col) with
  | none =>
    rw [hformer, Option.map_none] at he
    subst he
    rw [← (Prod.mk.inj (pure_eq_ok.1 h)).1]
    obtain ⟨rest, hadd, hrest⟩ :=
      opsAt_stage1_addColumn c col (Sql.qualified schema table.name) dataType
    have hnil : rest.filter isArrival = [] := filter_isArrival_eq_nil hrest (by decide) (by decide)
    rw [hadd, List.filter_cons_of_pos rfl, hnil]
    refine .added (fun former hcontinues => ?_) htype
    rw [continuesColumn_iff hfound, hformer] at hcontinues
    cases hcontinues
  | some former =>
    rw [hformer, Option.map_some] at he
    subst he
    simp only [bind_eq_ok, pure_eq_ok] at h
    obtain ⟨oldType, -, changes, hchanges, he⟩ := h
    have hnil : (changes.opsAt .stage1).filter isArrival = [] :=
      filter_isArrival_eq_nil (ofKinds_stage1_alterColumn hchanges) (by decide) (by decide)
    have hcontinues := (continuesColumn_iff hfound).2 hformer
    have hname := name_of_column? hformer
    rw [← (Prod.mk.inj he).1, Draft.opsAt_append, List.filter_append, hnil, List.append_nil]
    cases hmarked : marked? c.options.renameTracking oldTable col with
    | none =>
      refine .kept hcontinues ?_
      rw [hname, formerName, hmarked, Option.getD_none]
    | some name =>
      have hne := (marked?_eq_some_iff.1 hmarked).2.2.1
      rw [formerName, hmarked, Option.getD_some] at hname
      exact .renamed hcontinues (hname ▸ hne)

/-- **Each column is added, renamed or there already**, and nothing else adds or renames one. -/
theorem exists_arrivals {d : Draft}
    (h : c.columnsWork oldSchema oldTable schema table = .ok d) : ∃ arrivals,
      List.Forall₂ (c.Arrives oldTable schema table) table.columns arrivals ∧
        (d.opsAt .stage1).filter isArrival = arrivals.flatten := by
  simp only [columnsWork, bind_eq_ok, pure_eq_ok] at h
  obtain ⟨works, hworks, rfl⟩ := h
  refine ⟨works.map fun work => (work.2.1.opsAt .stage1).filter isArrival, ?_, ?_⟩
  · rw [List.forall₂_map_right_iff]
    refine (mapM_eq_ok.1 hworks).imp fun col work hwork => ?_
    obtain ⟨r, hr, he⟩ := bind_eq_ok.1 hwork
    rw [← pure_eq_ok.1 he]
    exact arrives_of_columnWork hr
  · have hremoved : ∀ ops : List Op, Draft.opsAt { stage3 := ops } .stage1 = [] := fun _ => rfl
    rw [Draft.opsAt_append, hremoved, List.append_nil, Draft.opsAt_join, List.flatMap_map,
      List.filter_flatMap, List.flatMap_def]

/-! ### Columns pair off -/

/-- No column of the previous version is continued by two. -/
def PairsColumns (renameTracking : Bool) (oldTable table : Table) : Prop :=
  ∀ former, ∀ a ∈ table.columns, ∀ b ∈ table.columns,
    ContinuesColumn renameTracking oldTable a former →
      ContinuesColumn renameTracking oldTable b former → a = b

/-- The name that the marker of a column gives is not that of another column, nor does the marker of
another column give it. -/
def MarkersApart (renameTracking : Bool) (oldTable table : Table) : Prop :=
  ∀ a ∈ table.columns, ∀ name ∈ marked? renameTracking oldTable a, ∀ b ∈ table.columns, b ≠ a →
    b.name ≠ name ∧ marked? renameTracking oldTable b ≠ some name

/-- **Columns pair off exactly where no marker gives the name of another's**, since what a column
continues is told by the name that it had. -/
theorem pairsColumns_iff {renameTracking : Bool} (hnames : (table.columns.map (·.name)).Nodup)
    (hfound : ∀ col ∈ table.columns, ∃ object found,
      oldColumn renameTracking oldTable col object = .ok found) :
    PairsColumns renameTracking oldTable table ↔ MarkersApart renameTracking oldTable table := by
  have hcontinues : ∀ {col former}, col ∈ table.columns →
      (ContinuesColumn renameTracking oldTable col former ↔
        oldTable.column? (formerName renameTracking oldTable col) = some former) := by
    intro col former hcol
    obtain ⟨object, found, hfound⟩ := hfound col hcol
    exact continuesColumn_iff hfound
  constructor
  · intro hpairs a ha name hmarked b hb hne
    obtain ⟨-, -, -, hthere⟩ := marked?_eq_some_iff.1 hmarked
    obtain ⟨former, hformer⟩ := Option.isSome_iff_exists.1 hthere
    have hshared : ∀ {col}, col ∈ table.columns → formerName renameTracking oldTable col = name →
        ContinuesColumn renameTracking oldTable col former := fun hcol he =>
      (hcontinues hcol).2 (he ▸ hformer)
    have hown : formerName renameTracking oldTable a = name := by
      rw [formerName, hmarked, Option.getD_some]
    refine ⟨fun he => hne ?_, fun hmarked' => hne ?_⟩
    · refine hpairs former b hb a ha (hshared hb ?_) (hshared ha hown)
      -- The other column is there under its own name, so no marker is followed for it.
      obtain ⟨object, found, hfound⟩ := hfound b hb
      cases hother : marked? renameTracking oldTable b with
      | none => rw [formerName, hother, Option.getD_none, he]
      | some other =>
        have hnone := (oldColumn_eq_ok_iff.1 hfound).1 (by rw [hother]; rfl)
        rw [he, hformer] at hnone
        cases hnone
    · refine hpairs former b hb a ha (hshared hb ?_) (hshared ha hown)
      rw [formerName, hmarked', Option.getD_some]
  · intro hapart former a ha b hb ha' hb'
    by_contra hne
    have he : formerName renameTracking oldTable a = formerName renameTracking oldTable b :=
      (name_of_column? ((hcontinues ha).1 ha')).symm.trans (name_of_column? ((hcontinues hb).1 hb'))
    cases hma : marked? renameTracking oldTable a with
    | some name =>
      obtain ⟨hname, hmarked⟩ := hapart a ha name hma b hb (Ne.symm hne)
      rw [formerName, hma, Option.getD_some, formerName] at he
      cases hmb : marked? renameTracking oldTable b with
      | some other => exact hmarked (by rw [hmb, he, hmb, Option.getD_some])
      | none => exact hname (by rw [he, hmb, Option.getD_none])
    | none =>
      rw [formerName, hma, Option.getD_none, formerName] at he
      cases hmb : marked? renameTracking oldTable b with
      | some other =>
        exact (hapart b hb other hmb a ha hne).1 (by rw [he, hmb, Option.getD_some])
      | none =>
        rw [hmb, Option.getD_none] at he
        exact hne (List.inj_on_of_nodup_map hnames ha hb he)

end Comparison

/-- **Columns pair off unless a marker gives the name of another's.**  Whenever the work on the
columns of a table can be told, each column is added, renamed or there already, by itself; and no
two continue one column exactly where markers keep apart. -/
theorem columns_pair_off_iff {old : Option Database} {new : Database}
    {newOrder oldOrder : Option (List OrderItem)} {style : Sql.Style} {options : Options}
    {c : Comparison} (hnew : new.validate = .ok ())
    (hmake : Comparison.make old new newOrder oldOrder style options = .ok c)
    {item : Schema × Table} (hm : item ∈ new.tables) {oldSchema : String} {oldTable : Table}
    {work : Draft} (h : c.columnsWork oldSchema oldTable item.1.name item.2 = .ok work) :
    (∃ arrivals, List.Forall₂ (c.Arrives oldTable item.1.name item.2) item.2.columns arrivals ∧
      (work.opsAt .stage1).filter Comparison.isArrival = arrivals.flatten) ∧
    (Comparison.PairsColumns options.renameTracking oldTable item.2 ↔
      Comparison.MarkersApart options.renameTracking oldTable item.2) := by
  obtain ⟨-, -, -, -, -, rfl, -⟩ := Comparison.make_eq_ok_iff.1 hmake
  have hnames := ((Database.coherent_of_validate hnew).table_of_mem hm).columnNames
  exact ⟨Comparison.exists_arrivals h,
    Comparison.pairsColumns_iff hnames fun _ hcol =>
      ⟨_, Comparison.exists_oldColumn_of_columnsWork h hcol⟩⟩

/-! ### Parcels and what they weigh -/

attribute [local instance] QueryReader.blank

/-- A column with a number. -/
def Parcels.column (name : String) (oldName : Option String) : Column where
  name
  oldName
  dataType := some "integer"

/-- The parcels of a depot. -/
def Parcels.table (columns : List Column) : Table where
  name := "parcels"
  columns

/-- The schema of the depot. -/
def Parcels.schema (columns : List Column) : Schema where
  name := "depot"
  tables := [Parcels.table columns]

/-- What is known of parcels: their weight and a code. -/
def Parcels.first : List Column :=
  [Parcels.column "weight" none, Parcels.column "code" none]

/-- The weight is called a mass, and the sender is known as well. -/
def Parcels.second : List Column :=
  [Parcels.column "mass" (some "weight"), Parcels.column "code" none, Parcels.column "sender" none]

/-- Besides the mass, there is a weight still. -/
def Parcels.both : List Column :=
  [Parcels.column "weight" none, Parcels.column "mass" (some "weight")]

/-- One column is renamed, one is kept and one is added. -/
theorem columns_pair_off_of_parcels :
    ∃ c work, Comparison.make (some ⟨[Parcels.schema Parcels.first], []⟩)
        ⟨[Parcels.schema Parcels.second], []⟩ none none {} {} = .ok c ∧
      c.columnsWork "depot" (Parcels.table Parcels.first) "depot" (Parcels.table Parcels.second) =
        .ok work ∧
      (work.opsAt .stage1).filter Comparison.isArrival =
        [.renameColumn "depot.parcels" "weight" "mass",
          .addColumn "depot.parcels" { name := "sender", dataType := "integer" }] ∧
      Comparison.PairsColumns true (Parcels.table Parcels.first)
        (Parcels.table Parcels.second) := by
  have hrun : (do
      let c ← Comparison.make (some ⟨[Parcels.schema Parcels.first], []⟩)
        ⟨[Parcels.schema Parcels.second], []⟩ none none {} {}
      let work ← c.columnsWork "depot" (Parcels.table Parcels.first) "depot"
        (Parcels.table Parcels.second)
      return (work.opsAt .stage1).filter Comparison.isArrival) =
        .ok [.renameColumn "depot.parcels" "weight" "mass",
          .addColumn "depot.parcels" { name := "sender", dataType := "integer" }] := by
    decide +kernel
  simp only [bind_eq_ok, pure_eq_ok] at hrun
  obtain ⟨c, hmake, work, hwork, harrivals⟩ := hrun
  have hm : (Parcels.schema Parcels.second, Parcels.table Parcels.second) ∈
      (⟨[Parcels.schema Parcels.second], []⟩ : Database).tables := by
    decide
  have hpairs := (columns_pair_off_iff (by decide +kernel) hmake hm hwork).2
  refine ⟨c, work, hmake, hwork, harrivals, hpairs.2 ?_⟩
  unfold Comparison.MarkersApart
  decide +kernel

/-- **A column may be renamed away.**  Two columns of the new version continue the same one, and the
plan leaves no column under the name that one of them has. -/
theorem column_renamed_away :
    (⟨[Parcels.schema [Parcels.column "weight" none]], []⟩ : Database).validate = .ok () ∧
      (⟨[Parcels.schema Parcels.both], []⟩ : Database).validate = .ok () ∧
      plan (some ⟨[Parcels.schema [Parcels.column "weight" none]], []⟩)
          ⟨[Parcels.schema Parcels.both], []⟩ {} {} =
        .ok [⟨.stage1, .renameColumn "depot.parcels" "weight" "mass"⟩,
          ⟨.stage3, .comment "depot.parcels.weight was renamed to mass; nothing to drop"⟩] ∧
      ¬ Comparison.PairsColumns true (Parcels.table [Parcels.column "weight" none])
        (Parcels.table Parcels.both) := by
  refine ⟨by decide +kernel, by decide +kernel, by decide +kernel, fun hpairs => ?_⟩
  have he : Parcels.column "weight" none = Parcels.column "mass" (some "weight") :=
    hpairs (Parcels.column "weight" none) _ (by decide) _ (by decide)
      ⟨"depot.parcels.weight", false, rfl⟩ ⟨"depot.parcels.mass", true, rfl⟩
  exact absurd he (by decide)

end SchemaPlan
