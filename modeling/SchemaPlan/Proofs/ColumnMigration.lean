import Mathlib.Logic.Function.Basic
import SchemaPlan.Proofs.ColumnPairs
import SchemaPlan.Proofs.Parts
import SchemaPlan.Proofs.Sameness

/-!
# Columns are migrated

What a plan does to the columns of a table is carried out on what is known of them: their types,
their defaults and whether they may be without a value (`Columns.run?`).  A step is made only if the
column that it is about is there and the name that it gives is free.

The first stage settles one column after another.  After the columns `front`, each of them is there,
and of the columns of the previous version those that none of them continues (`Standing`).  This is
kept since a column has a name and a former name that no other column has, nor another column's
former name (`FormerNamesApart`).  The third stage demands values of columns that are there, and
drops those that none continues.  `columns_migrated` says what this leaves: the columns of the new
version, each as it is declared.
-/

namespace SchemaPlan

open Function (update)

/-! ### Columns and what is done to them -/

/-- What is known of a column. -/
structure ColumnState where
  dataType : String
  default? : Option String := none
  nullable : Bool := true
deriving DecidableEq, Inhabited

/-- A column after a change. -/
def ColumnState.change (state : ColumnState) : ColumnChange → ColumnState
  | .type dataType _ => { state with dataType }
  | .setDefault value => { state with default? := some value }
  | .dropDefault => { state with default? := none }
  | .setNotNull => { state with nullable := false }
  | .dropNotNull => { state with nullable := true }

/-- The columns of a table, by their names. -/
abbrev Columns :=
  String → Option ColumnState

namespace Columns

/-- The columns that are there after a step, if it can be made: a column that is changed, filled,
renamed or dropped is there, and the name that one is added with or gets is not taken.  All steps
are about the columns of one table. -/
def step? (address : String) (columns : Columns) : Op → Option Columns
  | .addColumn table col =>
    if table = address ∧ columns col.name = none then
      some (update columns col.name
        (some { dataType := col.dataType, default? := col.default?, nullable := col.nullable }))
    else none
  | .renameColumn table old new =>
    if table = address ∧ columns new = none then
      (columns old).map fun state => update (update columns old none) new (some state)
    else none
  | .alterColumn table column change =>
    if table = address then
      (columns column).map fun state => update columns column (some (state.change change))
    else none
  | .backfillColumn table column _ =>
    if table = address ∧ (columns column).isSome then some columns else none
  | .dropColumn table column =>
    if table = address then (columns column).map fun _ => update columns column none else none
  | _ => some columns

/-- The columns that are there after steps, if all of them can be made. -/
def run? (address : String) (columns : Columns) (ops : List Op) : Option Columns :=
  ops.foldlM (step? address) columns

variable {address name : String} {columns : Columns} {before between after : ColumnState}

theorem run?_cons (op : Op) (ops : List Op) :
    run? address columns (op :: ops) = (step? address columns op).bind (run? address · ops) :=
  rfl

theorem run?_append (a b : List Op) :
    run? address columns (a ++ b) = (run? address columns a).bind (run? address · b) :=
  List.foldlM_append

/-- What every step keeps holds after the run. -/
theorem exists_run?_flatMap {α : Type} {f : α → List Op} {items : List α}
    (Inv : List α → Columns → Prop) (h0 : Inv [] columns)
    (hstep : ∀ front item back, items = front ++ item :: back → ∀ columns, Inv front columns →
      ∃ columns', run? address columns (f item) = some columns' ∧ Inv (front ++ [item]) columns') :
    ∃ columns', run? address columns (items.flatMap f) = some columns' ∧ Inv items columns' := by
  suffices h : ∀ back front columns, items = front ++ back → Inv front columns →
      ∃ columns', run? address columns (back.flatMap f) = some columns' ∧ Inv items columns' from
    h items [] columns rfl h0
  intro back
  induction back with
  | nil =>
    intro front columns he hinv
    rw [List.append_nil] at he
    exact ⟨columns, rfl, he ▸ hinv⟩
  | cons item back ih =>
    intro front columns he hinv
    obtain ⟨columns', hrun, hinv'⟩ := hstep front item back he columns hinv
    obtain ⟨final, hrest, hfinal⟩ := ih (front ++ [item]) columns' (by simpa using he) hinv'
    refine ⟨final, ?_, hfinal⟩
    rw [List.flatMap_cons, run?_append, hrun]
    exact hrest

/-- The operations leave the columns as they are, whichever are there. -/
def AsIs (address : String) (ops : List Op) : Prop :=
  ∀ columns, run? address columns ops = some columns

theorem AsIs.append {a b : List Op} (ha : AsIs address a) (hb : AsIs address b) :
    AsIs address (a ++ b) := by
  intro columns
  rw [run?_append, ha]
  exact hb columns

/-- The operations take a column that is there from one state to another, and no other column is
concerned. -/
def Turns (address name : String) (ops : List Op) (before after : ColumnState) : Prop :=
  ∀ columns : Columns, columns name = some before →
    run? address columns ops = some (update columns name (some after))

theorem AsIs.turns {ops : List Op} (h : AsIs address ops) :
    Turns address name ops before before := by
  intro columns hcolumn
  rw [h, ← hcolumn, Function.update_eq_self]

theorem Turns.append {a b : List Op} (ha : Turns address name a before between)
    (hb : Turns address name b between after) : Turns address name (a ++ b) before after := by
  intro columns hcolumn
  rw [run?_append, ha columns hcolumn, Option.bind_some, hb _ (Function.update_self ..),
    Function.update_idem]

theorem turns_alterColumn (change : ColumnChange) :
    Turns address name [.alterColumn address name change] before (before.change change) := by
  intro columns hcolumn
  rw [run?_cons, step?, if_pos rfl, hcolumn]
  rfl

theorem turns_backfillColumn (value : Option String) :
    Turns address name [.backfillColumn address name value] before before := by
  intro columns hcolumn
  have hthere : (columns name).isSome := by rw [hcolumn]; rfl
  rw [run?_cons, step?, if_pos ⟨rfl, hthere⟩, ← hcolumn, Function.update_eq_self]
  rfl

end Columns

/-! ### The work on one column -/

/-- A column is as it is declared.  Where values are counted by the type, they are kept in another
type, which is as good. -/
structure Column.Settled (col : Column) (dataType : String) (state : ColumnState) : Prop where
  dataType : Sql.TypeName.same state.dataType dataType = true ∨
    Sql.TypeName.isSerial dataType = true ∧ state.dataType = Sql.TypeName.storage dataType
  default? : Sql.sameExpression? state.default? col.default? = true
  nullable : state.nullable = col.nullable

/-- The work on a column that is there takes it from one state to another in the first stage, finds
it at the end of that stage and takes it to the last state in the third. -/
structure Draft.TurnsColumn (d : Draft) (address name : String)
    (before between after : ColumnState) : Prop where
  stage1 : Columns.Turns address name (d.opsAt .stage1) before between
  stage1Tail : Columns.Turns address name (d.opsAt .stage1Tail) between between
  stage3 : Columns.Turns address name (d.opsAt .stage3) between after

open Columns (Turns AsIs run?)

namespace Draft.TurnsColumn

variable {a d : Draft} {address name : String} {start before between after : ColumnState}

/-- What is done in the first stage only goes before the rest. -/
theorem cons (ha : a.OnlyFirst) (hturns : Turns address name (a.opsAt .stage1) start before)
    (h : d.TurnsColumn address name before between after) :
    (a ++ d).TurnsColumn address name start between after where
  stage1 := by
    rw [opsAt_append]
    exact hturns.append h.stage1
  stage1Tail := by
    rw [opsAt_append, ha .stage1Tail (by decide), List.nil_append]
    exact h.stage1Tail
  stage3 := by
    rw [opsAt_append, ha .stage3 (by decide), List.nil_append]
    exact h.stage3

/-- What leaves columns as they are can be done besides. -/
theorem concat (h : d.TurnsColumn address name before between after) (ha : a.OnlyFirst)
    (hasIs : AsIs address (a.opsAt .stage1)) :
    (d ++ a).TurnsColumn address name before between after where
  stage1 := by
    rw [opsAt_append]
    exact h.stage1.append hasIs.turns
  stage1Tail := by
    rw [opsAt_append, ha .stage1Tail (by decide), List.append_nil]
    exact h.stage1Tail
  stage3 := by
    rw [opsAt_append, ha .stage3 (by decide), List.append_nil]
    exact h.stage3

/-- What leaves the column as it is in every stage can be done before. -/
theorem append (h : a.TurnsColumn address name before before before)
    (h' : d.TurnsColumn address name before before after) :
    (a ++ d).TurnsColumn address name before before after where
  stage1 := by
    rw [opsAt_append]
    exact h.stage1.append h'.stage1
  stage1Tail := by
    rw [opsAt_append]
    exact h.stage1Tail.append h'.stage1Tail
  stage3 := by
    rw [opsAt_append]
    exact h.stage3.append h'.stage3

theorem empty (address name : String) (before : ColumnState) :
    ({} : Draft).TurnsColumn address name before before before :=
  ⟨AsIs.turns fun _ => rfl, AsIs.turns fun _ => rfl, AsIs.turns fun _ => rfl⟩

end Draft.TurnsColumn

namespace Comparison

variable {c : Comparison} {address object name : String} {col previous : Column}
  {before : ColumnState}

theorem turnsColumn_backfill (address : String) (col : Column) (before : ColumnState) :
    (backfill address col).TurnsColumn address col.name before before before where
  stage1 := by
    rw [backfill_opsAt _ (by decide)]
    exact AsIs.turns fun _ => rfl
  stage1Tail := by
    unfold backfill
    split
    · exact AsIs.turns fun _ => rfl
    · split
      · exact Columns.turns_backfillColumn _
      · split
        · exact AsIs.turns fun _ => rfl
        · exact Columns.turns_backfillColumn _
  stage3 := by
    rw [backfill_opsAt _ (by decide)]
    exact AsIs.turns fun _ => rfl

theorem turnsColumn_demandValue (hstages : c.options.singleStage = false) (address name : String)
    (before : ColumnState) : (c.demandValue address name).TurnsColumn address name before before
      { before with nullable := false } := by
  rw [demandValue, hstages]
  exact ⟨AsIs.turns fun _ => rfl, AsIs.turns fun _ => rfl, Columns.turns_alterColumn .setNotNull⟩

theorem storage_of_not_isSerial {dataType : String}
    (h : ¬ Sql.TypeName.isSerial dataType = true) : Sql.TypeName.storage dataType = dataType := by
  simp only [Sql.TypeName.isSerial, List.contains_iff_mem, List.mem_cons, List.not_mem_nil,
    or_false, not_or] at h
  unfold Sql.TypeName.storage
  split <;> simp_all

/-- The type of a column is changed to the one it is declared with, if it is not the same. -/
theorem exists_turns_alterType {oldType newType : String} {d : Draft}
    (h : alterType address object col oldType newType = .ok d) : d.OnlyFirst ∧ ∃ dataType,
      (Sql.TypeName.same dataType newType = true ∨
        Sql.TypeName.isSerial newType = true ∧ dataType = Sql.TypeName.storage newType) ∧
      ∀ before : ColumnState, before.dataType = oldType →
        Turns address col.name (d.opsAt .stage1) before { before with dataType } := by
  unfold alterType at h
  split at h
  next hsame =>
    rw [← Except.ok.inj h]
    refine ⟨Draft.onlyFirst_empty, oldType, .inl hsame, ?_⟩
    rintro before rfl
    exact AsIs.turns fun _ => rfl
  next =>
    split at h
    · cases h
    · rw [← Except.ok.inj h]
      refine ⟨Draft.onlyFirst_first _, Sql.TypeName.storage newType, ?_, fun before _ =>
        Columns.turns_alterColumn (.type (Sql.TypeName.storage newType) col.convertUsing)⟩
      by_cases hserial : Sql.TypeName.isSerial newType = true
      · exact .inr ⟨hserial, rfl⟩
      · rw [storage_of_not_isSerial hserial]
        exact .inl (Sql.TypeName.same_refl newType)

/-- The default of a column is changed to the one it is declared with, if it is not the same. -/
theorem exists_turns_alterDefault (address : String) (previous col : Column) :
    (alterDefault address previous col).OnlyFirst ∧ ∃ default?,
      Sql.sameExpression? default? col.default? = true ∧
      ∀ before : ColumnState, before.default? = previous.default? →
        Turns address col.name ((alterDefault address previous col).opsAt .stage1) before
          { before with default? } := by
  refine ⟨Draft.onlyFirst_ite Draft.onlyFirst_empty (Draft.onlyFirst_first _), ?_⟩
  unfold alterDefault
  split
  next hsame =>
    refine ⟨previous.default?, hsame, fun before he => ?_⟩
    rw [← he]
    exact AsIs.turns fun _ => rfl
  next =>
    refine ⟨col.default?, Sql.sameExpression?_refl _, fun before _ => ?_⟩
    cases hdefault : col.default? with
    | none => exact Columns.turns_alterColumn .dropDefault
    | some value => exact Columns.turns_alterColumn (.setDefault value)

/-- After the third stage a column may be without a value exactly if it is declared so. -/
theorem exists_turnsColumn_alterNullable (hstages : c.options.singleStage = false)
    (address : String) (previous col : Column) : ∃ nullable,
      ∀ before : ColumnState, before.nullable = previous.nullable →
        (c.alterNullable address previous col).TurnsColumn address col.name before
          { before with nullable } { before with nullable := col.nullable } := by
  cases hprevious : previous.nullable <;> cases hcol : col.nullable <;>
    simp only [alterNullable, hprevious, hcol]
  · refine ⟨false, fun before he => ?_⟩
    rw [← he]
    exact .empty address col.name before
  · exact ⟨true, fun before _ => ⟨Columns.turns_alterColumn .dropNotNull,
      AsIs.turns fun _ => rfl, AsIs.turns fun _ => rfl⟩⟩
  · refine ⟨true, fun before he => ?_⟩
    rw [← he]
    exact (turnsColumn_backfill address col before).append (turnsColumn_demandValue hstages ..)
  · refine ⟨true, fun before he => ?_⟩
    rw [← he]
    exact .empty address col.name before

/-- **A column that continues another is changed into what it is declared as.** -/
theorem exists_turnsColumn_alterColumn (hstages : c.options.singleStage = false)
    {oldType newType : String} {changes : Draft}
    (h : c.alterColumn address object previous oldType col newType = .ok changes) :
    ∃ between after, changes.TurnsColumn address col.name
        { dataType := oldType, default? := previous.default?, nullable := previous.nullable }
        between after ∧ col.Settled newType after := by
  simp only [alterColumn, bind_eq_ok, pure_eq_ok] at h
  obtain ⟨type, htype, rfl⟩ := h
  obtain ⟨htypeFirst, dataType, hdataType, htypeTurns⟩ := exists_turns_alterType htype
  obtain ⟨hdefaultFirst, default?, hdefault, hdefaultTurns⟩ :=
    exists_turns_alterDefault address previous col
  obtain ⟨nullable, hnullable⟩ := exists_turnsColumn_alterNullable hstages address previous col
  refine ⟨{ dataType, default?, nullable }, { dataType, default?, nullable := col.nullable }, ?_,
    hdataType, hdefault, rfl⟩
  rw [Draft.append_assoc type]
  refine (Draft.TurnsColumn.cons htypeFirst (htypeTurns _ rfl) ?_).concat ?_ ?_
  · exact Draft.TurnsColumn.cons hdefaultFirst (hdefaultTurns _ rfl) (hnullable _ rfl)
  · exact Draft.onlyFirst_ite Draft.onlyFirst_empty (Draft.onlyFirst_first _)
  · split <;> exact fun _ => rfl

/-- **A column that is added is changed into what it is declared as**, unless its type counts by
itself: then the type says what its default is. -/
theorem exists_turnsColumn_addColumn (hstages : c.options.singleStage = false) (address : String)
    (col : Column) (dataType : String) : ∃ rest between after,
      c.addColumn address col dataType =
        .first [.addColumn address { name := col.name, dataType }] ++ rest ∧
      rest.TurnsColumn address col.name { dataType } between after ∧
      (Sql.TypeName.isSerial dataType = false → col.Settled dataType after) := by
  have hdescribe := onlyFirst_describeColumn col address (col.description.isSome = true)
  have hdescribeAsIs : AsIs address
      ((if col.description.isSome then describeColumn address col else {}).opsAt .stage1) := by
    split <;> exact fun _ => rfl
  unfold addColumn
  rw [Draft.append_assoc]
  by_cases hserial : Sql.TypeName.isSerial dataType = true
  · refine ⟨_, { dataType }, { dataType }, rfl, Draft.TurnsColumn.concat ?_ hdescribe hdescribeAsIs,
      fun hnot => absurd hserial (by simp [hnot])⟩
    rw [if_pos hserial, ← Draft.append_empty (Draft.first _)]
    refine .cons (Draft.onlyFirst_first _) (AsIs.turns ?_) (.empty address col.name _)
    cases col.serialStart with
    | none => exact fun _ => rfl
    | some start => exact fun _ => rfl
  · refine ⟨_, { dataType, default? := col.default? },
      { dataType, default? := col.default?, nullable := col.nullable }, rfl,
      Draft.TurnsColumn.concat ?_ hdescribe hdescribeAsIs,
      fun _ => ⟨.inl (Sql.TypeName.same_refl dataType), Sql.sameExpression?_refl _, rfl⟩⟩
    rw [if_neg hserial, Draft.append_assoc]
    refine .cons (Draft.onlyFirst_first _)
      (?_ : Turns address col.name _ _ { dataType, default? := col.default? }) ?_
    · cases col.default? with
      | none => exact AsIs.turns fun _ => rfl
      | some value => exact Columns.turns_alterColumn (.setDefault value)
    · refine (turnsColumn_backfill address col _).append ?_
      cases col.nullable with
      | false => exact turnsColumn_demandValue hstages ..
      | true => exact .empty address col.name _

end Comparison

/-- The columns of a table, each with its type. -/
def Database.columnStates (db : Database) (schema : String) (table : Table) : Columns := fun name =>
  (table.column? name).bind fun col =>
    (db.columnType schema table.name col.name).toOption.map fun dataType =>
      { dataType, default? := col.default?, nullable := col.nullable }

/-- Where every column has a type, the states are those of the columns. -/
theorem Database.isSome_columnStates_iff {db : Database} {schema : String} {table : Table}
    (h : db.CoherentTable schema table) (name : String) :
    (db.columnStates schema table name).isSome ↔ name ∈ table.columns.map (·.name) := by
  rw [columnStates]
  cases hcol : table.column? name with
  | none =>
    have hnot : name ∉ table.columns.map (·.name) := by
      simpa using List.find?_eq_none.1 hcol
    exact iff_of_false (by simp) hnot
  | some col =>
    have hin := List.mem_of_find?_eq_some hcol
    obtain ⟨dataType, htype⟩ := h.columnTypes col hin
    refine iff_of_true ?_ (List.mem_map.2 ⟨col, hin, Comparison.name_of_column? hcol⟩)
    rw [Option.bind_some, htype]
    rfl

namespace Comparison

variable {c : Comparison} {oldSchema schema : String} {oldTable table : Table} {col : Column}
  {work : Draft}

/-- The column that a column continues is there as it was in the previous version, and if the two
names are not the same the other one is free. -/
def Ready (c : Comparison) (oldSchema : String) (oldTable : Table) (col : Column)
    (columns : Columns) : Prop :=
  columns (formerName c.options.renameTracking oldTable col) =
      (c.old.getD c.new).columnStates oldSchema oldTable
        (formerName c.options.renameTracking oldTable col) ∧
    (formerName c.options.renameTracking oldTable col ≠ col.name → columns col.name = none)

/-- What the work on a column makes of it: in the first stage it comes to be there, under its name
only, and in the third it gets to be what it is declared as. -/
structure ColumnRun (c : Comparison) (oldSchema : String) (oldTable : Table) (schema : String)
    (table : Table) (col : Column) (work : Draft) (newType : String)
    (between after : ColumnState) : Prop where
  columnType : c.new.columnType schema table.name col.name = .ok newType
  stage1 : ∀ columns, c.Ready oldSchema oldTable col columns →
    run? (Sql.qualified schema table.name) columns (work.opsAt .stage1) =
      some (update (update columns (formerName c.options.renameTracking oldTable col) none)
        col.name (some between))
  stage1Tail :
    Turns (Sql.qualified schema table.name) col.name (work.opsAt .stage1Tail) between between
  stage3 : Turns (Sql.qualified schema table.name) col.name (work.opsAt .stage3) between after
  settled : (oldTable.column? (formerName c.options.renameTracking oldTable col)).isSome ∨
    Sql.TypeName.isSerial newType = false → col.Settled newType after

theorem formerName_of_unmarked {renameTracking : Bool}
    (h : marked? renameTracking oldTable col = none) :
    formerName renameTracking oldTable col = col.name := by
  rw [formerName, h, Option.getD_none]

theorem formerName_of_marked {renameTracking : Bool} {name : String}
    (h : marked? renameTracking oldTable col = some name) :
    formerName renameTracking oldTable col = name := by
  rw [formerName, h, Option.getD_some]

/-- A column that continues none keeps its name. -/
theorem formerName_eq_of_none {renameTracking : Bool}
    (h : oldTable.column? (formerName renameTracking oldTable col) = none) :
    formerName renameTracking oldTable col = col.name := by
  cases hmarked : marked? renameTracking oldTable col with
  | none => exact formerName_of_unmarked hmarked
  | some name =>
    obtain ⟨-, -, -, hthere⟩ := marked?_eq_some_iff.1 hmarked
    rw [formerName_of_marked hmarked] at h
    rw [h] at hthere
    cases hthere

theorem exists_columnRun_of_added (hstages : c.options.singleStage = false)
    (hformer : oldTable.column? (formerName c.options.renameTracking oldTable col) = none)
    {newType : String} (htype : c.new.columnType schema table.name col.name = .ok newType) :
    ∃ between after, c.ColumnRun oldSchema oldTable schema table col
      (c.addColumn (Sql.qualified schema table.name) col newType) newType between after := by
  obtain ⟨rest, between, after, he, hturns, hsettled⟩ := exists_turnsColumn_addColumn hstages
    (Sql.qualified schema table.name) col newType
  have hname := formerName_eq_of_none hformer
  rw [he]
  refine ⟨between, after, htype, fun columns hready => ?_, ?_, ?_, fun hcase => hsettled ?_⟩
  · have hfree := hready.1
    rw [Database.columnStates, hformer, Option.bind_none, hname] at hfree
    rw [Draft.opsAt_append, Columns.run?_append, Draft.opsAt_first, Columns.run?_cons,
      Columns.step?, if_pos ⟨rfl, hfree⟩]
    refine (hturns.stage1 _ (Function.update_self ..)).trans ?_
    rw [hname, Function.update_idem, Function.update_idem]
  · rw [Draft.opsAt_append, Draft.onlyFirst_first _ _ (by decide), List.nil_append]
    exact hturns.stage1Tail
  · rw [Draft.opsAt_append, Draft.onlyFirst_first _ _ (by decide), List.nil_append]
    exact hturns.stage3
  · exact hcase.resolve_left (by simp [hformer])

theorem exists_columnRun_of_continued (hstages : c.options.singleStage = false) {former : Column}
    (hformer : oldTable.column? (formerName c.options.renameTracking oldTable col) = some former)
    {object oldType newType : String} {changes : Draft}
    (holdType : (c.old.getD c.new).columnType oldSchema oldTable.name former.name = .ok oldType)
    (htype : c.new.columnType schema table.name col.name = .ok newType)
    (h : c.alterColumn (Sql.qualified schema table.name) object former oldType col newType =
      .ok changes) :
    ∃ between after, c.ColumnRun oldSchema oldTable schema table col
      ((if (marked? c.options.renameTracking oldTable col).isSome then
        .first [.renameColumn (Sql.qualified schema table.name) former.name col.name]
      else {}) ++ changes) newType between after := by
  obtain ⟨between, after, hturns, hsettled⟩ := exists_turnsColumn_alterColumn hstages h
  have hname := name_of_column? hformer
  have hrename := Draft.onlyFirst_ite
    (p := (marked? c.options.renameTracking oldTable col).isSome = true)
    (Draft.onlyFirst_first [.renameColumn (Sql.qualified schema table.name) former.name col.name])
    Draft.onlyFirst_empty
  refine ⟨between, after, htype, fun columns hready => ?_, ?_, ?_, fun _ => hsettled⟩
  · obtain ⟨hthere, hfree⟩ := hready
    rw [Database.columnStates, hformer, Option.bind_some, holdType] at hthere
    rw [Draft.opsAt_append, Columns.run?_append]
    cases hmarked : marked? c.options.renameTracking oldTable col with
    | some name =>
      have hne := (marked?_eq_some_iff.1 hmarked).2.2.1
      rw [formerName_of_marked hmarked] at hname hthere hfree ⊢
      rw [Option.isSome_some, if_pos rfl, Draft.opsAt_first, Columns.run?_cons, Columns.step?,
        if_pos ⟨rfl, hfree hne⟩, hname, hthere]
      refine (hturns.stage1 _ (Function.update_self ..)).trans ?_
      rw [Function.update_idem]
    | none =>
      rw [formerName_of_unmarked hmarked] at hthere ⊢
      refine (hturns.stage1 columns hthere).trans ?_
      rw [Function.update_idem]
  · rw [Draft.opsAt_append, hrename .stage1Tail (by decide), List.nil_append]
    exact hturns.stage1Tail
  · rw [Draft.opsAt_append, hrename .stage3 (by decide), List.nil_append]
    exact hturns.stage3

/-- **The work on a column makes it what it is declared as**, whether it is added or continues
another. -/
theorem exists_columnRun (hstages : c.options.singleStage = false) {old : Option (Column × Bool)}
    (h : c.columnWork oldSchema oldTable schema table col = .ok (work, old)) :
    ∃ newType between after,
      c.ColumnRun oldSchema oldTable schema table col work newType between after := by
  simp only [columnWork, bind_eq_ok] at h
  obtain ⟨newType, htype, found, hfound, h⟩ := h
  have hfound := (oldColumn_eq_ok_iff.1 hfound).2
  cases hformer : oldTable.column? (formerName c.options.renameTracking oldTable col) with
  | none =>
    rw [hformer, Option.map_none] at hfound
    subst hfound
    rw [← (Prod.mk.inj (pure_eq_ok.1 h)).1]
    exact ⟨newType, exists_columnRun_of_added hstages hformer htype⟩
  | some former =>
    rw [hformer, Option.map_some] at hfound
    subst hfound
    simp only [bind_eq_ok, pure_eq_ok] at h
    obtain ⟨oldType, holdType, changes, hchanges, he⟩ := h
    rw [← (Prod.mk.inj he).1]
    exact ⟨newType, exists_columnRun_of_continued hstages hformer holdType htype hchanges⟩

theorem exists_old_of_columnWork {old : Option (Column × Bool)}
    (h : c.columnWork oldSchema oldTable schema table col = .ok (work, old)) : ∃ renamed, old =
      (oldTable.column? (formerName c.options.renameTracking oldTable col)).map (·, renamed) := by
  simp only [columnWork, bind_eq_ok] at h
  obtain ⟨newType, -, found, hfound, h⟩ := h
  have he := (oldColumn_eq_ok_iff.1 hfound).2
  refine ⟨(marked? c.options.renameTracking oldTable col).isSome, ?_⟩
  rw [← he]
  rcases found with _ | ⟨previous, renamed⟩
  · exact (Prod.mk.inj (pure_eq_ok.1 h)).2.symm
  · simp only [bind_eq_ok, pure_eq_ok] at h
    obtain ⟨_, -, _, -, h⟩ := h
    exact (Prod.mk.inj h).2.symm

/-! ### Names and former names -/

/-- No two columns have one name or one former name, the former name of a column is not the name of
another, and a column that gets another name gets one that was free. -/
structure FormerNamesApart (renameTracking : Bool) (oldTable table : Table) : Prop where
  names : (table.columns.map (·.name)).Nodup
  former : ∀ a ∈ table.columns, ∀ b ∈ table.columns,
    formerName renameTracking oldTable a = formerName renameTracking oldTable b → a = b
  across : ∀ a ∈ table.columns, ∀ b ∈ table.columns,
    formerName renameTracking oldTable a = b.name → a = b
  free : ∀ a ∈ table.columns, formerName renameTracking oldTable a ≠ a.name →
    oldTable.column? a.name = none

/-- Where columns pair off, names and former names are apart. -/
theorem formerNamesApart_of_pairsColumns {renameTracking : Bool}
    (hnames : (table.columns.map (·.name)).Nodup)
    (hfound : ∀ col ∈ table.columns, ∃ object found,
      oldColumn renameTracking oldTable col object = .ok found)
    (hpairs : PairsColumns renameTracking oldTable table) :
    FormerNamesApart renameTracking oldTable table := by
  have hapart := (pairsColumns_iff hnames hfound).1 hpairs
  have hacross : ∀ a ∈ table.columns, ∀ b ∈ table.columns,
      formerName renameTracking oldTable a = b.name → a = b := by
    intro a ha b hb he
    cases hmarked : marked? renameTracking oldTable a with
    | none =>
      rw [formerName_of_unmarked hmarked] at he
      exact List.inj_on_of_nodup_map hnames ha hb he
    | some name =>
      rw [formerName_of_marked hmarked] at he
      by_contra hne
      exact (hapart a ha name hmarked b hb (Ne.symm hne)).1 he.symm
  refine ⟨hnames, fun a ha b hb he => ?_, hacross, fun a ha hne => ?_⟩
  · cases hmarked : marked? renameTracking oldTable b with
    | none => exact hacross a ha b hb (he.trans (formerName_of_unmarked hmarked))
    | some name =>
      cases hmarked' : marked? renameTracking oldTable a with
      | none => exact (hacross b hb a ha (he.symm.trans (formerName_of_unmarked hmarked'))).symm
      | some name' =>
        rw [formerName_of_marked hmarked', formerName_of_marked hmarked] at he
        by_contra hab
        exact (hapart a ha name' hmarked' b hb (Ne.symm hab)).2 (he ▸ hmarked)
  · obtain ⟨object, found, hfound⟩ := hfound a ha
    refine (oldColumn_eq_ok_iff.1 hfound).1 (Option.ne_none_iff_isSome.1 fun hnone => ?_)
    exact hne (formerName_of_unmarked hnone)

/-! ### The stages of the work on all columns -/

/-- The columns that are there when those of `front` have been settled: these, under their names
only, and of the others those that were there. -/
structure Standing (start : Columns) (former : Column → String) (between : Column → ColumnState)
    (front : List Column) (columns : Columns) : Prop where
  settled : ∀ col ∈ front, columns col.name = some (between col)
  gone : ∀ col ∈ front, former col ≠ col.name → columns (former col) = none
  rest : ∀ name, name ∉ front.map (·.name) → name ∉ front.map former → columns name = start name

section Stages

variable {renameTracking : Bool} {front back : List Column} {columns start : Columns}
  {between after : Column → ColumnState} {address : String}

/-- **Settling one more column keeps what stands.** -/
theorem Standing.concat (hapart : FormerNamesApart renameTracking oldTable table)
    (hstanding : Standing start (formerName renameTracking oldTable) between front columns)
    (he : table.columns = front ++ col :: back) :
    columns (formerName renameTracking oldTable col) =
        start (formerName renameTracking oldTable col) ∧
      columns col.name = start col.name ∧
      Standing start (formerName renameTracking oldTable) between (front ++ [col])
        (update (update columns (formerName renameTracking oldTable col) none) col.name
          (some (between col))) := by
  have hcol : col ∈ table.columns := by simp [he]
  have hfront : ∀ d ∈ front, d ∈ table.columns := fun d hd => by simp [he, hd]
  have hname : ∀ d ∈ front, d.name ≠ col.name := by
    simpa using nodup_map_iff_split.1 hapart.names front col back he
  have hne : ∀ d ∈ front, d ≠ col := fun d hd hdcol => hname d hd (congrArg Column.name hdcol)
  have hnameFormer : ∀ d ∈ front, d.name ≠ formerName renameTracking oldTable col :=
    fun d hd hdcol => hne d hd (hapart.across col hcol d (hfront d hd) hdcol.symm).symm
  have hformer : ∀ d ∈ front,
      formerName renameTracking oldTable d ≠ formerName renameTracking oldTable col :=
    fun d hd hdcol => hne d hd (hapart.former d (hfront d hd) col hcol hdcol)
  have hformerName : ∀ d ∈ front, formerName renameTracking oldTable d ≠ col.name :=
    fun d hd hdcol => hne d hd (hapart.across d (hfront d hd) col hcol hdcol)
  refine ⟨hstanding.rest _ (by simpa using hnameFormer) (by simpa using hformer),
    hstanding.rest _ (by simpa using hname) (by simpa using hformerName), ?_, ?_, ?_⟩
  · intro d hd
    rw [List.mem_append, List.mem_singleton] at hd
    rcases hd with hd | rfl
    · rw [Function.update_of_ne (hname d hd), Function.update_of_ne (hnameFormer d hd)]
      exact hstanding.settled d hd
    · exact Function.update_self ..
  · intro d hd hrenamed
    rw [List.mem_append, List.mem_singleton] at hd
    rcases hd with hd | rfl
    · rw [Function.update_of_ne (hformerName d hd), Function.update_of_ne (hformer d hd)]
      exact hstanding.gone d hd hrenamed
    · rw [Function.update_of_ne hrenamed]
      exact Function.update_self ..
  · intro name hnames hformers
    simp only [List.map_append, List.map_cons, List.map_nil, List.mem_append, List.mem_singleton,
      not_or] at hnames hformers
    rw [Function.update_of_ne hnames.2, Function.update_of_ne hformers.2]
    exact hstanding.rest name hnames.1 hformers.1

/-- The first stage settles the columns one after another. -/
theorem exists_run_stage1 (hapart : FormerNamesApart renameTracking oldTable table)
    (hfree : ∀ name, oldTable.column? name = none → start name = none)
    {ops : Column → List Op}
    (hops : ∀ col ∈ table.columns, ∀ columns : Columns,
      columns (formerName renameTracking oldTable col) =
          start (formerName renameTracking oldTable col) →
        (formerName renameTracking oldTable col ≠ col.name → columns col.name = none) →
          run? address columns (ops col) =
            some (update (update columns (formerName renameTracking oldTable col) none) col.name
              (some (between col)))) :
    ∃ columns, run? address start (table.columns.flatMap ops) = some columns ∧
      Standing start (formerName renameTracking oldTable) between table.columns columns := by
  refine Columns.exists_run?_flatMap _ ⟨by simp, by simp, fun _ _ _ => rfl⟩ ?_
  intro front col back he columns hstanding
  have hcol : col ∈ table.columns := by simp [he]
  obtain ⟨hthere, hname, hnext⟩ := hstanding.concat hapart he
  exact ⟨_, hops col hcol columns hthere fun hne => hname.trans
    (hfree col.name (hapart.free col hcol hne)), hnext⟩

/-- At the end of the first stage the columns are found, and left as they are. -/
theorem run_stage1Tail {ops : Column → List Op}
    (hsettled : ∀ col ∈ table.columns, columns col.name = some (between col))
    (hops : ∀ col ∈ table.columns, Turns address col.name (ops col) (between col) (between col)) :
    run? address columns (table.columns.flatMap ops) = some columns := by
  have hall : ∃ columns', run? address columns (table.columns.flatMap ops) = some columns' ∧
      columns' = columns := by
    refine Columns.exists_run?_flatMap (fun _ columns' => columns' = columns) rfl ?_
    intro front col back he columns' hsame
    have hcol : col ∈ table.columns := by simp [he]
    refine ⟨columns', ?_, hsame⟩
    rw [hops col hcol columns' (hsame ▸ hsettled col hcol), hsame, ← hsettled col hcol,
      Function.update_eq_self]
  obtain ⟨columns', hrun, he⟩ := hall
  rw [hrun, he]

/-- In the third stage each column gets to its last state, and no other column is concerned. -/
theorem exists_run_stage3 (hnames : (table.columns.map (·.name)).Nodup) {ops : Column → List Op}
    (hsettled : ∀ col ∈ table.columns, columns col.name = some (between col))
    (hops : ∀ col ∈ table.columns, Turns address col.name (ops col) (between col) (after col)) :
    ∃ columns', run? address columns (table.columns.flatMap ops) = some columns' ∧
      (∀ col ∈ table.columns, columns' col.name = some (after col)) ∧
      ∀ name, name ∉ table.columns.map (·.name) → columns' name = columns name := by
  refine Columns.exists_run?_flatMap (fun front columns' =>
    (∀ col ∈ front, columns' col.name = some (after col)) ∧
      ∀ name, name ∉ front.map (·.name) → columns' name = columns name)
    ⟨by simp, fun _ _ => rfl⟩ ?_
  rintro front col back he columns' ⟨hdone, hrest⟩
  have hcol : col ∈ table.columns := by simp [he]
  have hname : ∀ d ∈ front, d.name ≠ col.name := by
    simpa using nodup_map_iff_split.1 hnames front col back he
  have hthere : columns' col.name = some (between col) := by
    rw [hrest _ (by simpa using hname)]
    exact hsettled col hcol
  refine ⟨_, hops col hcol columns' hthere, fun d hd => ?_, fun name hnot => ?_⟩
  · rw [List.mem_append, List.mem_singleton] at hd
    rcases hd with hd | rfl
    · rw [Function.update_of_ne (hname d hd)]
      exact hdone d hd
    · exact Function.update_self ..
  · simp only [List.map_append, List.map_cons, List.map_nil, List.mem_append, List.mem_singleton,
      not_or] at hnot
    rw [Function.update_of_ne hnot.2]
    exact hrest name hnot.1

variable {continuations : List (String × String × Bool)}

/-- What is continued is left as it is; anything else is dropped. -/
theorem removeColumn_cases (address : String) (continuations : List (String × String × Bool))
    (previous : Column) :
    previous.name ∈ continuations.map (·.1) ∧
        AsIs address (removeColumn address continuations previous) ∨
      previous.name ∉ continuations.map (·.1) ∧
        removeColumn address continuations previous = [.dropColumn address previous.name] := by
  have hany : continuations.any (·.1 == previous.name) = true ↔
      previous.name ∈ continuations.map (·.1) := by
    simp
  unfold removeColumn
  split
  next found hfound =>
    have hboth := List.find?_some hfound
    have hname := beq_iff_eq.1 (Bool.and_eq_true_iff.1 hboth).2
    exact .inl ⟨List.mem_map.2 ⟨_, List.mem_of_find?_eq_some hfound, hname⟩, fun _ => rfl⟩
  next =>
    split
    next hthere => exact .inl ⟨hany.1 hthere, fun _ => rfl⟩
    next hnone => exact .inr ⟨hany.not.1 hnone, rfl⟩

/-- The columns that none continues are dropped one after another. -/
theorem exists_run_removeColumn (address : String) {former : List String}
    (hnames : (oldTable.columns.map (·.name)).Nodup)
    (hformer : ∀ previous ∈ oldTable.columns,
      (previous.name ∈ continuations.map (·.1) ↔ previous.name ∈ former))
    (hthere : ∀ previous ∈ oldTable.columns, previous.name ∉ former →
      (columns previous.name).isSome) :
    ∃ columns', run? address columns
        (oldTable.columns.flatMap (removeColumn address continuations)) = some columns' ∧
      ∀ name, columns' name =
        if name ∈ oldTable.columns.map (·.name) ∧ name ∉ former then none else columns name := by
  refine Columns.exists_run?_flatMap (fun (front : List Column) columns' => ∀ name,
    columns' name = if name ∈ front.map (·.name) ∧ name ∉ former then none else columns name)
    (fun _ => by simp) ?_
  intro front previous back he columns' hrest
  have hprevious : previous ∈ oldTable.columns := by simp [he]
  have hmem (name : String) : name ∈ (front ++ [previous]).map (·.name) ↔
      name ∈ front.map (·.name) ∨ name = previous.name := by
    simp
  rcases removeColumn_cases address continuations previous with ⟨hin, hasIs⟩ | ⟨hnot, hdrop⟩
  · rw [hformer previous hprevious] at hin
    refine ⟨columns', hasIs columns', fun name => ?_⟩
    rw [hrest name]
    by_cases hname : name = previous.name
    · rw [hname, if_neg fun h => h.2 hin, if_neg fun h => h.2 hin]
    · simp only [hmem, hname, or_false]
  · rw [hformer previous hprevious] at hnot
    have hfresh := nodup_map_iff_split.1 hnames front previous back he
    have hsome : (columns' previous.name).isSome := by
      rw [hrest, if_neg fun h => hfresh h.1]
      exact hthere previous hprevious hnot
    obtain ⟨state, hstate⟩ := Option.isSome_iff_exists.1 hsome
    refine ⟨update columns' previous.name none, ?_, fun name => ?_⟩
    · rw [hdrop, Columns.run?_cons, Columns.step?, if_pos rfl, hstate]
      rfl
    · by_cases hname : name = previous.name
      · rw [hname, Function.update_self, if_pos ⟨(hmem _).2 (.inr rfl), hnot⟩]
      · simp only [Function.update_of_ne hname, hrest name, hmem, hname, or_false]

/-- A column of the previous version that none continues has the name of none. -/
theorem FormerNamesApart.notMem_names (hapart : FormerNamesApart renameTracking oldTable table)
    {previous : Column} (hprevious : previous ∈ oldTable.columns)
    (hnot : previous.name ∉ table.columns.map (formerName renameTracking oldTable)) :
    previous.name ∉ table.columns.map (·.name) := by
  intro hin
  obtain ⟨col, hcol, he⟩ := List.mem_map.1 hin
  refine hnot (List.mem_map.2 ⟨col, hcol, ?_⟩)
  by_contra hne
  have hnone := hapart.free col hcol fun hsame => hne (hsame.trans he)
  exact List.find?_eq_none.1 hnone previous hprevious (beq_iff_eq.2 he.symm)

/-- Of the columns that stand, what is not dropped are those of the table. -/
theorem Standing.eq_none {former : Column → String}
    (hstanding : Standing start former between table.columns columns)
    (hfree : ∀ name, oldTable.column? name = none → start name = none) {name : String}
    (hname : name ∉ table.columns.map (·.name))
    (hkept : name ∈ oldTable.columns.map (·.name) → name ∈ table.columns.map former) :
    columns name = none := by
  by_cases hformer : name ∈ table.columns.map former
  · obtain ⟨col, hcol, rfl⟩ := List.mem_map.1 hformer
    exact hstanding.gone col hcol fun he => hname (List.mem_map.2 ⟨col, hcol, he.symm⟩)
  · rw [hstanding.rest name hname hformer]
    refine hfree name (List.find?_eq_none.2 fun previous hprevious he => hformer (hkept ?_))
    exact List.mem_map.2 ⟨previous, hprevious, beq_iff_eq.1 he⟩

end Stages

/-- The columns of the previous version that are continued are told by the former names. -/
theorem mem_continuations_iff {old : Column → Option (Column × Bool)} {previous : Column}
    {renameTracking : Bool}
    (hold : ∀ col ∈ table.columns, ∃ renamed, old col =
      (oldTable.column? (formerName renameTracking oldTable col)).map (·, renamed))
    (hprevious : previous ∈ oldTable.columns) :
    previous.name ∈ (table.columns.filterMap fun col => (old col).map fun (former, renamed) =>
        (former.name, col.name, renamed)).map (·.1) ↔
      previous.name ∈ table.columns.map (formerName renameTracking oldTable) := by
  simp only [List.mem_map, List.mem_filterMap]
  constructor
  · rintro ⟨_, ⟨col, hcol, he⟩, hname⟩
    obtain ⟨renamed, hfound⟩ := hold col hcol
    rw [hfound, Option.map_map, Option.map_eq_some_iff] at he
    obtain ⟨former, hformer, rfl⟩ := he
    exact ⟨col, hcol, (name_of_column? hformer).symm.trans hname⟩
  · rintro ⟨col, hcol, hname⟩
    obtain ⟨renamed, hfound⟩ := hold col hcol
    have hthere : (oldTable.column? (formerName renameTracking oldTable col)).isSome :=
      List.find?_isSome.2 ⟨previous, hprevious, by simp [hname]⟩
    obtain ⟨former, hformer⟩ := Option.isSome_iff_exists.1 hthere
    refine ⟨(former.name, col.name, renamed), ⟨col, hcol, ?_⟩,
      (name_of_column? hformer).trans hname⟩
    rw [hfound, hformer]
    rfl

/-- The work on the columns is the work on each of them, and then what none continues is dropped. -/
theorem exists_work_of_columnsWork {d : Draft}
    (h : c.columnsWork oldSchema oldTable schema table = .ok d) :
    ∃ work : Column → Draft × Option (Column × Bool),
      (∀ col ∈ table.columns, c.columnWork oldSchema oldTable schema table col = .ok (work col)) ∧
      d.opsAt .stage1 = table.columns.flatMap (fun col => (work col).1.opsAt .stage1) ∧
      d.opsAt .stage1Tail = table.columns.flatMap (fun col => (work col).1.opsAt .stage1Tail) ∧
      d.opsAt .stage3 = table.columns.flatMap (fun col => (work col).1.opsAt .stage3) ++
        oldTable.columns.flatMap (removeColumn (Sql.qualified schema table.name)
          (table.columns.filterMap fun col => (work col).2.map fun (former, renamed) =>
            (former.name, col.name, renamed))) := by
  simp only [columnsWork, bind_eq_ok, pure_eq_ok] at h
  obtain ⟨works, hworks, rfl⟩ := h
  have heach : ∀ col ∈ table.columns, ∃ work,
      c.columnWork oldSchema oldTable schema table col = .ok work := by
    intro col hcol
    obtain ⟨_, -, hone⟩ := exists_mem_of_mapM hworks hcol
    obtain ⟨work, hwork, -⟩ := bind_eq_ok.1 hone
    exact ⟨work, hwork⟩
  have : Nonempty (Draft × Option (Column × Bool)) := ⟨{}, none⟩
  choose! work hwork using heach
  obtain rfl : works = table.columns.map fun col => (col, work col) := by
    refine eq_map_of_mapM hworks fun col hcol y hy => ?_
    obtain ⟨r, hr, he⟩ := bind_eq_ok.1 hy
    rw [hwork col hcol] at hr
    rw [Except.ok.inj hr, pure_eq_ok.1 he]
  have hplace (place : Place) :
      (Draft.join ((table.columns.map fun col => (col, work col)).map (·.2.1))).opsAt place =
        table.columns.flatMap fun col => (work col).1.opsAt place := by
    rw [Draft.opsAt_join, List.map_map, List.flatMap_map]
    rfl
  refine ⟨work, hwork, ?_, ?_, ?_⟩
  · rw [Draft.opsAt_append, hplace]
    exact List.append_nil _
  · rw [Draft.opsAt_append, hplace]
    exact List.append_nil _
  · rw [Draft.opsAt_append, hplace, List.filterMap_map]
    rfl

/-- **What is left of a run over the work on the columns**: the columns of the table, each as it is
declared unless its type is to say what its default is. -/
theorem exists_run_columnsWork (hstages : c.options.singleStage = false)
    (hapart : FormerNamesApart c.options.renameTracking oldTable table)
    (hnames : (oldTable.columns.map (·.name)).Nodup)
    (hthere : ∀ previous ∈ oldTable.columns,
      ((c.old.getD c.new).columnStates oldSchema oldTable previous.name).isSome)
    {d : Draft} (h : c.columnsWork oldSchema oldTable schema table = .ok d) : ∃ final,
      run? (Sql.qualified schema table.name) ((c.old.getD c.new).columnStates oldSchema oldTable)
        (d.opsAt .stage1 ++ d.opsAt .stage1Tail ++ d.opsAt .stage3) = some final ∧
      (∀ name, (final name).isSome ↔ name ∈ table.columns.map (·.name)) ∧
      ∀ col ∈ table.columns, ∃ newType state,
        c.new.columnType schema table.name col.name = .ok newType ∧
        final col.name = some state ∧
        ((∃ former, ContinuesColumn c.options.renameTracking oldTable col former) ∨
          Sql.TypeName.isSerial newType = false → col.Settled newType state) := by
  obtain ⟨work, hwork, hfirst, htail, hthird⟩ := exists_work_of_columnsWork h
  have heach := fun col hcol => exists_columnRun hstages (hwork col hcol)
  choose! newType between after hcolumn using heach
  have hfree : ∀ name, oldTable.column? name = none →
      (c.old.getD c.new).columnStates oldSchema oldTable name = none := by
    intro name hnone
    rw [Database.columnStates, hnone, Option.bind_none]
  have hcontinued := fun previous (hprevious : previous ∈ oldTable.columns) =>
    mem_continuations_iff (fun col hcol => exists_old_of_columnWork (hwork col hcol)) hprevious
  obtain ⟨columns, hrun1, hstanding⟩ := exists_run_stage1 hapart hfree
    fun col hcol columns hformer hname => (hcolumn col hcol).stage1 columns ⟨hformer, hname⟩
  have hrun2 := run_stage1Tail hstanding.settled fun col hcol => (hcolumn col hcol).stage1Tail
  obtain ⟨columns', hrun3, hdone, hrest⟩ := exists_run_stage3 hapart.names hstanding.settled
    fun col hcol => (hcolumn col hcol).stage3
  have hstay : ∀ previous ∈ oldTable.columns,
      previous.name ∉ table.columns.map (formerName c.options.renameTracking oldTable) →
        (columns' previous.name).isSome := by
    intro previous hprevious hnot
    have hold := hapart.notMem_names hprevious hnot
    rw [hrest _ hold, hstanding.rest _ hold hnot]
    exact hthere previous hprevious
  obtain ⟨final, hrun4, hfinal⟩ :=
    exists_run_removeColumn (Sql.qualified schema table.name) hnames hcontinued hstay
  have hnew : ∀ col ∈ table.columns, final col.name = some (after col) := by
    intro col hcol
    rw [hfinal, if_neg, hdone col hcol]
    rintro ⟨hold, hnot⟩
    obtain ⟨previous, hprevious, he⟩ := List.mem_map.1 hold
    rw [← he] at hnot
    exact hapart.notMem_names hprevious hnot (List.mem_map.2 ⟨col, hcol, he.symm⟩)
  refine ⟨final, ?_, fun name => ⟨?_, ?_⟩, fun col hcol =>
    ⟨newType col, after col, (hcolumn col hcol).columnType, hnew col hcol, fun hcase => ?_⟩⟩
  · rw [hfirst, htail, hthird, Columns.run?_append, Columns.run?_append, hrun1, Option.bind_some,
      hrun2, Option.bind_some, Columns.run?_append, hrun3, Option.bind_some, hrun4]
  · contrapose
    intro hnot
    rw [hfinal]
    split
    · simp
    next hkept =>
      have hnone := hstanding.eq_none hfree hnot fun hold => by_contra fun h => hkept ⟨hold, h⟩
      rw [hrest name hnot, hnone]
      simp
  · intro hin
    obtain ⟨col, hcol, rfl⟩ := List.mem_map.1 hin
    rw [hnew col hcol]
    rfl
  · refine (hcolumn col hcol).settled (hcase.imp_left ?_)
    rintro ⟨former, object, renamed, hfound⟩
    rw [(continuesColumn_iff hfound).1 ⟨object, renamed, hfound⟩]
    rfl

theorem asIs_renameTable (address oldSchema oldName schema name : String) :
    AsIs address (renameTable oldSchema oldName schema name) := by
  unfold renameTable
  refine Columns.AsIs.append ?_ ?_
  · split <;> exact fun _ => rfl
  · split <;> exact fun _ => rfl

/-- Besides the work on its columns, nothing that is done to a table is done to columns. -/
theorem exists_columnsWork_of_tableWork {prevSchema : Schema}
    (hprev : c.oldVersion? schema table.name = some (prevSchema, oldTable)) {d : Draft}
    (h : c.tableWork schema table = .ok d) : ∃ columns,
      c.columnsWork prevSchema.name oldTable schema table = .ok columns ∧
      ∀ address states,
        run? address states (d.opsAt .stage1 ++ d.opsAt .stage1Tail ++ d.opsAt .stage3) =
          run? address states (columns.opsAt .stage1 ++ columns.opsAt .stage1Tail ++
            columns.opsAt .stage3) := by
  rw [tableWork, hprev] at h
  obtain ⟨columns, hcolumns, he⟩ := bind_eq_ok.1 h
  rw [← pure_eq_ok.1 he]
  refine ⟨columns, hcolumns, fun address states => ?_⟩
  have hrename := asIs_renameTable address prevSchema.name oldTable.name schema table.name
  have hfirst := Draft.onlyFirst_first (renameTable prevSchema.name oldTable.name schema table.name)
  have hdescribe : Draft.OnlyFirst (if oldTable.description == table.description then {}
      else .first [.setComment (.table (Sql.qualified schema table.name)) table.description]) :=
    Draft.onlyFirst_ite Draft.onlyFirst_empty (Draft.onlyFirst_first _)
  have hasIs : AsIs address (Draft.opsAt (if oldTable.description == table.description then {}
      else .first [.setComment (.table (Sql.qualified schema table.name)) table.description])
      .stage1) := by
    split <;> exact fun _ => rfl
  simp only [Draft.opsAt_append, Columns.run?_append, hfirst .stage1Tail (by decide),
    hfirst .stage3 (by decide), hdescribe .stage1Tail (by decide), hdescribe .stage3 (by decide),
    Draft.opsAt_first, List.nil_append, List.append_nil, hrename states, Option.bind_some]
  cases run? address states (columns.opsAt .stage1) with
  | none => rfl
  | some states' => rw [Option.bind_some, hasIs states']

end Comparison

/-- **Columns are migrated exactly.**  Where no two columns of a table continue one, the steps that
are planned for the columns can all be made, on what the previous version had: a column that is
renamed, changed, filled or dropped is there, and a name that one gets is free.  This leaves the
columns of the new version and no others, each with the type, the default and the demand for values
that are declared; only a column that is added and counts by itself has its default from its type. -/
theorem columns_migrated {old new : Database} {newOrder oldOrder : Option (List OrderItem)}
    {style : Sql.Style} {options : Options} {c : Comparison}
    (hold : old.validate = .ok ()) (hnew : new.validate = .ok ())
    (hmake : Comparison.make (some old) new newOrder oldOrder style options = .ok c)
    (hstages : options.singleStage = false) {item prev : Schema × Table} (hm : item ∈ new.tables)
    (hprev : c.oldVersion? item.1.name item.2.name = some prev)
    (hpairs : Comparison.PairsColumns options.renameTracking prev.2 item.2) {work : Draft}
    (h : c.tableWork item.1.name item.2 = .ok work) :
    (∀ name, (old.columnStates prev.1.name prev.2 name).isSome ↔
      name ∈ prev.2.columns.map (·.name)) ∧
    ∃ final, Columns.run? (Sql.qualified item.1.name item.2.name)
        (old.columnStates prev.1.name prev.2)
        (work.opsAt .stage1 ++ work.opsAt .stage1Tail ++ work.opsAt .stage3) = some final ∧
      (∀ name, (final name).isSome ↔ name ∈ item.2.columns.map (·.name)) ∧
      ∀ col ∈ item.2.columns, ∃ newType state,
        new.columnType item.1.name item.2.name col.name = .ok newType ∧
        final col.name = some state ∧
        ((∃ former, Comparison.ContinuesColumn options.renameTracking prev.2 col former) ∨
          Sql.TypeName.isSerial newType = false → col.Settled newType state) := by
  have hnewCoherent := Database.coherent_of_validate hnew
  obtain ⟨-, -, -, hcold, rfl, rfl, -⟩ := Comparison.make_eq_ok_iff.1 hmake
  have hwell : c.WellMade := Comparison.wellMade_of_make hnewCoherent
    (fun db hdb => Option.some.inj hdb ▸ Database.coherent_of_validate hold) hmake
  have holdTable := (Database.coherent_of_validate hold).table_of_mem
    (hwell.mem_old_of_oldVersion? hcold hprev)
  obtain ⟨columns, hcolumns, hrun⟩ := Comparison.exists_columnsWork_of_tableWork hprev h
  have hapart := Comparison.formerNamesApart_of_pairsColumns
    (hnewCoherent.table_of_mem hm).columnNames
    (fun _ hcol => ⟨_, Comparison.exists_oldColumn_of_columnsWork hcolumns hcol⟩) hpairs
  have hstates := Database.isSome_columnStates_iff holdTable
  refine ⟨hstates, ?_⟩
  have hfinal := Comparison.exists_run_columnsWork hstages hapart holdTable.columnNames
    (by
      intro previous hprevious
      rw [hcold, Option.getD_some, hstates]
      exact List.mem_map_of_mem hprevious) hcolumns
  rw [hcold, Option.getD_some] at hfinal
  rw [hrun]
  exact hfinal

/-! ### Boats and where they lie -/

/-- The boats of a yard. -/
def Boats.table (columns : List Column) : Table where
  name := "boats"
  columns

/-- The schema of the yard. -/
def Boats.schema (columns : List Column) : Schema where
  name := "yard"
  tables := [Boats.table columns]

/-- What is known of boats: how long they are, whose they are and where they lie. -/
def Boats.first : List Column :=
  [{ name := "len", dataType := some "integer" },
    { name := "owner", dataType := some "text", nullable := false },
    { name := "berth", dataType := some "text" }]

/-- The length has its name written out, has another type and is always known, the owner need not be
known, boats are counted, and when they came is known instead of where they lie. -/
def Boats.second : List Column :=
  [{ name := "length", oldName := some "len", dataType := some "bigint", nullable := false,
      default? := some "0" },
    { name := "owner", dataType := some "text" },
    { name := "number", dataType := some "serial", nullable := false },
    { name := "since", dataType := some "date", nullable := false, default? := some "now()" }]

/-- The length of a boat is renamed and always known, and where it lies is dropped. -/
theorem columns_migrated_of_boats :
    ∃ c work final, Comparison.make (some ⟨[Boats.schema Boats.first], []⟩)
        ⟨[Boats.schema Boats.second], []⟩ none none {} {} = .ok c ∧
      c.tableWork "yard" (Boats.table Boats.second) = .ok work ∧
      Columns.run? "yard.boats" ((⟨[Boats.schema Boats.first], []⟩ : Database).columnStates "yard"
          (Boats.table Boats.first))
        (work.opsAt .stage1 ++ work.opsAt .stage1Tail ++ work.opsAt .stage3) = some final ∧
      final "berth" = none ∧ ∃ state, final "length" = some state ∧ state.nullable = false := by
  have hrun : (do
      let c ← Comparison.make (some ⟨[Boats.schema Boats.first], []⟩)
        ⟨[Boats.schema Boats.second], []⟩ none none {} {}
      let work ← c.tableWork "yard" (Boats.table Boats.second)
      return (c.oldVersion? "yard" "boats", work.opsAt .stage3)) =
        .ok (some (Boats.schema Boats.first, Boats.table Boats.first),
          [.alterColumn "yard.boats" "length" .setNotNull,
            .alterColumn "yard.boats" "since" .setNotNull,
            .comment "yard.boats.len was renamed to length; nothing to drop",
            .dropColumn "yard.boats" "berth"]) := by
    decide +kernel
  simp only [bind_eq_ok, pure_eq_ok, Prod.mk.injEq] at hrun
  obtain ⟨c, hmake, work, hwork, hprev, -⟩ := hrun
  have hpairs : Comparison.PairsColumns true (Boats.table Boats.first)
      (Boats.table Boats.second) := by
    obtain ⟨columns, hcolumns, -⟩ := Comparison.exists_columnsWork_of_tableWork hprev hwork
    obtain ⟨-, -, -, -, -, hoptions, -⟩ := Comparison.make_eq_ok_iff.1 hmake
    have hfound := fun col (hcol : col ∈ (Boats.table Boats.second).columns) =>
      Comparison.exists_oldColumn_of_columnsWork hcolumns hcol
    rw [hoptions] at hfound
    refine (Comparison.pairsColumns_iff (by decide) fun col hcol => ⟨_, hfound col hcol⟩).2 ?_
    unfold Comparison.MarkersApart
    decide +kernel
  have hm : (Boats.schema Boats.second, Boats.table Boats.second) ∈
      (⟨[Boats.schema Boats.second], []⟩ : Database).tables := by
    decide
  obtain ⟨-, final, hfinal, hnames, hcolumns⟩ := columns_migrated (by decide +kernel)
    (by decide +kernel) hmake rfl hm hprev hpairs hwork
  have hberth : final "berth" = none := by
    rw [← Option.not_isSome_iff_eq_none, hnames]
    decide
  obtain ⟨newType, state, htype, hstate, hsettled⟩ := hcolumns (Boats.second.head (by decide))
    (by decide)
  have htype' : (⟨[Boats.schema Boats.second], []⟩ : Database).columnType "yard" "boats" "length" =
      .ok "bigint" := by
    decide +kernel
  obtain rfl : "bigint" = newType := Except.ok.inj (htype'.symm.trans htype)
  exact ⟨c, work, final, hmake, hwork, hfinal, hberth, state, hstate,
    (hsettled (.inr (by decide +kernel))).nullable⟩

end SchemaPlan
