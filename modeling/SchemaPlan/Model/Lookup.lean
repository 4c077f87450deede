import SchemaPlan.Error
import SchemaPlan.Model.Basic
import SchemaPlan.Sql.Reference
import SchemaPlan.Sql.TypeName

/-!
# Following references

Some of what a definition says is said elsewhere in it: a table has the columns of the tables it
inherits from, and a column declared with a foreign key has the type of the column it refers to.
This file follows such references.  A definition may refer in circles or to nothing, so both walks
remember where they have been and stop at a place seen before; since there are only so many places,
they end.

`ancestry` is the chain of a table's ancestors, and both `findColumn?` (the nearest declaration of a
column) and `allColumns` (every column, ancestors first) are read off it.  `columnType` is the type
of a column.
-/

namespace SchemaPlan

/-- The schema and the name of a table. -/
abbrev TableKey := String × String

namespace Database

/-- The keys of all tables. -/
def tableKeys (db : Database) : List TableKey :=
  db.schemas.flatMap fun s => s.tables.map fun t => (s.name, t.name)

theorem of_table?_eq_some {db : Database} {schema table : String} {s : Schema} {t : Table}
    (h : db.table? schema table = some (s, t)) :
    s ∈ db.schemas ∧ t ∈ s.tables ∧ s.name = schema ∧ t.name = table := by
  simp only [table?, schema?, Schema.table?, bind, Option.bind_eq_some_iff, pure,
    Option.some.injEq] at h
  obtain ⟨s', hs, t', ht, he⟩ := h
  cases he
  exact ⟨List.mem_of_find?_eq_some hs, List.mem_of_find?_eq_some ht,
    by simpa using List.find?_some hs, by simpa using List.find?_some ht⟩

theorem mem_tableKeys_of_table? {db : Database} {key : TableKey} {found : Schema × Table}
    (h : db.table? key.1 key.2 = some found) : key ∈ db.tableKeys := by
  obtain ⟨hs, ht, hsn, htn⟩ := of_table?_eq_some h
  exact List.mem_flatMap.2 ⟨found.1, hs, List.mem_map.2 ⟨found.2, ht, by rw [hsn, htn]⟩⟩

/-- How many of the places that there are have not been visited. -/
def unvisited {α : Type} [BEq α] (all visited : List α) : Nat :=
  (all.filter (!visited.contains ·)).length

/-- Visiting one more place leaves fewer to visit. -/
theorem unvisited_cons_lt {α : Type} [BEq α] [LawfulBEq α] {all visited : List α} {x : α}
    (hx : x ∈ all) (hv : x ∉ visited) : unvisited all (x :: visited) < unvisited all visited := by
  unfold unvisited
  have he : all.filter (!(x :: visited).contains ·) =
      (all.filter (!visited.contains ·)).filter (fun y => !(y == x)) := by
    rw [List.filter_filter]
    apply List.filter_congr
    intro y _
    simp [Bool.not_or]
  rw [he]
  apply List.length_filter_lt_length_iff_exists.2
  exact ⟨x, List.mem_filter.2 ⟨hx, by simpa using hv⟩, by simp⟩

/-! ### Inherited columns -/

/-- A table and its ancestors, the nearest first, as far as they exist and have not been visited. -/
def ancestryFrom (db : Database) (visited : List TableKey) (key : TableKey) :
    List (Schema × Table) :=
  if _hv : key ∈ visited then []
  else match _h : db.table? key.1 key.2 with
    | none => []
    | some (s, t) =>
      (s, t) :: match t.inherits with
        | none => []
        | some parent => ancestryFrom db (key :: visited) (parent.resolve s.name)
termination_by unvisited db.tableKeys visited
decreasing_by exact unvisited_cons_lt (mem_tableKeys_of_table? _h) _hv

/-- A table and its ancestors, the nearest first. -/
def ancestry (db : Database) (schema table : String) : List (Schema × Table) :=
  db.ancestryFrom [] (schema, table)

/-- The nearest declaration of a column on a table or its ancestors, with where it stands. -/
def findColumn? (db : Database) (schema table column : String) :
    Option (Schema × Table × Column) :=
  (db.ancestry schema table).findSome? fun (s, t) =>
    (t.column? column).map fun c => (s, t, c)

/-- The columns together with those of others that have a new name. -/
def addColumns (columns others : List Column) : List Column :=
  others.foldl
    (fun columns c => if columns.any (·.name == c.name) then columns else columns ++ [c]) columns

/-- Every column of a table, those of its ancestors first. -/
def allColumns (db : Database) (schema table : String) : List Column :=
  (db.ancestry schema table).reverse.foldl (fun columns (_, t) => addColumns columns t.columns) []

/-- The declared default of a column. -/
def columnDefault? (db : Database) (schema table column : String) : Option String :=
  (db.findColumn? schema table column).bind fun (_, _, c) => c.default?

/-! ### Types of columns -/

/-- A column as it is referred to. -/
structure ColumnKey where
  schema : String
  table : String
  column : String
deriving DecidableEq

/-- The address of a column. -/
def ColumnKey.address (k : ColumnKey) : String :=
  k.schema ++ "." ++ k.table ++ "." ++ k.column

/-- Every pair of a table and a column name that the definition mentions. -/
def columnKeys (db : Database) : List ColumnKey :=
  db.tableKeys.flatMap fun (schema, table) =>
    db.schemas.flatMap fun s => s.tables.flatMap fun t => t.columns.map fun c =>
      ⟨schema, table, c.name⟩

theorem of_mem_ancestryFrom {db : Database} {visited : List TableKey} {key : TableKey}
    {s : Schema} {t : Table} (h : (s, t) ∈ db.ancestryFrom visited key) :
    key ∈ db.tableKeys ∧ s ∈ db.schemas ∧ t ∈ s.tables := by
  fun_induction ancestryFrom db visited key with
  | case1 => simp at h
  | case2 => simp at h
  | case3 visited key _ s' t' hk ih =>
    obtain ⟨hs, ht, _⟩ := of_table?_eq_some hk
    rcases List.mem_cons.1 h with he | hm
    · cases he
      exact ⟨mem_tableKeys_of_table? hk, hs, ht⟩
    · split at hm
      · simp at hm
      · exact ⟨mem_tableKeys_of_table? hk, (ih _ hm).2⟩

theorem mem_columnKeys_of_findColumn? {db : Database} {k : ColumnKey}
    {found : Schema × Table × Column} (h : db.findColumn? k.schema k.table k.column = some found) :
    k ∈ db.columnKeys := by
  obtain ⟨⟨s, t⟩, hm, hc⟩ := List.exists_of_findSome?_eq_some h
  obtain ⟨c, hc, _⟩ := Option.map_eq_some_iff.1 hc
  obtain ⟨hk, hs, ht⟩ := of_mem_ancestryFrom hm
  have hn := List.find?_some hc
  simp only [beq_iff_eq] at hn
  exact List.mem_flatMap.2 ⟨_, hk, List.mem_flatMap.2 ⟨s, hs, List.mem_flatMap.2 ⟨t, ht,
    List.mem_map.2 ⟨c, List.mem_of_find?_eq_some hc, by rw [hn]⟩⟩⟩⟩

/-- The type of a column, reached from the column `start` by way of the visited ones.  A type
reached through a reference is the type its values are kept in. -/
def columnTypeFrom (db : Database) (start : ColumnKey) (visited : List ColumnKey)
    (key : ColumnKey) : Except SchemaError String :=
  if _hv : key ∈ visited then
    .error (.definition start.address (.circularReference key.address))
  else match _h : db.findColumn? key.schema key.table key.column with
    | none => .error (.definition start.address (.targetMissing key.address))
    | some (s, _, c) =>
      match c.dataType, c.foreignKey with
      | some dataType, _ =>
        .ok (if visited.isEmpty then dataType else Sql.TypeName.storage dataType)
      | none, none => .error (.definition key.address .neitherTypeNorForeignKey)
      | none, some fk =>
        columnTypeFrom db start (key :: visited)
          ⟨fk.schema.getD s.name, fk.table, fk.column.getD c.name⟩
termination_by unvisited db.columnKeys visited
decreasing_by exact unvisited_cons_lt (mem_columnKeys_of_findColumn? _h) _hv

/-- The type of a column: the one it is declared with, or that of the column it refers to. -/
def columnType (db : Database) (schema table column : String) : Except SchemaError String :=
  db.columnTypeFrom ⟨schema, table, column⟩ [] ⟨schema, table, column⟩

end Database

/-! ### Targets of constraints -/

/-- The table that a foreign key constraint refers to: as declared, or as its definition says. -/
def ConstraintDecl.target? (c : ConstraintDecl) : Option TableRef :=
  if c.kind = .foreignKey then
    match c.references with
    | some target => some target
    | none =>
      (Sql.firstReference? ["references"] none c.definition.toList).map fun (schema, table) =>
        { schema := schema.map String.ofList, table := String.ofList table }
  else none

end SchemaPlan
