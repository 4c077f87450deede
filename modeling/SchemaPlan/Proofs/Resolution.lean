import SchemaPlan.Proofs.Coherence
import SchemaPlan.Proofs.StaticRows
import SchemaPlan.Proofs.TypeReferences

/-!
# Columns that have a type

A column is found on a table or on an ancestor of it, and whether it has a type depends on nothing
but the declaration that it is found at (`TypeReferences.lean`).  So an inherited column has a type
when the column it is inherited from has one, whichever table it is asked for under
(`Coherent.exists_columnType`), and validation looks at all of those.  Hence every cell of a valid
definition can be written (`StaticRows.exists_literal`).
-/

namespace SchemaPlan

namespace Database

variable {db : Database}

/-! ### Inherited columns -/

theorem mem_of_findColumn? {schema table column : String} {s : Schema} {t : Table} {c : Column}
    (h : db.findColumn? schema table column = some (s, t, c)) :
    (s, t) ∈ db.tables ∧ t.column? column = some c := by
  obtain ⟨⟨s', t'⟩, hm, hc⟩ := List.exists_of_findSome?_eq_some h
  obtain ⟨c', hc, he⟩ := Option.map_eq_some_iff.1 hc
  cases he
  obtain ⟨_, hs, ht⟩ := of_mem_ancestryFrom hm
  exact ⟨mem_tables.2 ⟨hs, ht⟩, hc⟩

/-- A column that a table declares itself is found there. -/
theorem Coherent.findColumn?_of_own (h : db.Coherent) {item : Schema × Table}
    (hm : item ∈ db.tables) {column : String} {c : Column}
    (hc : item.2.column? column = some c) :
    db.findColumn? item.1.name item.2.name column = some (item.1, item.2, c) := by
  have hfound : db.table? item.1.name item.2.name = some item := h.table?_of_mem hm
  rw [findColumn?, ancestry, ancestryFrom, dif_neg List.not_mem_nil]
  split
  next hnone => cases hnone.symm.trans hfound
  next hfound' =>
    cases hfound'.symm.trans hfound
    simp [hc]

/-- **Every column that a coherent definition has, inherited or not, has a type.** -/
theorem Coherent.exists_columnType (h : db.Coherent) {schema table column : String}
    (hc : (db.findColumn? schema table column).isSome) :
    ∃ type, db.columnType schema table column = .ok type := by
  obtain ⟨⟨s, t, c⟩, hfound⟩ := Option.isSome_iff_exists.1 hc
  obtain ⟨hm, hcolumn⟩ := mem_of_findColumn? hfound
  have hname : c.name = column := by simpa using List.find?_some hcolumn
  obtain ⟨type, htype⟩ := (h.table_of_mem hm).columnTypes c (List.mem_of_find?_eq_some hcolumn)
  refine exists_typeOf_congr (k := ⟨s.name, t.name, c.name⟩) (l := ⟨schema, table, column⟩) ?_
    ⟨type, htype⟩
  rw [hname, hfound, h.findColumn?_of_own hm hcolumn]

end Database

/-! ### Static rows -/

namespace StaticRows

variable {db : Database} {item : Schema × Table} {s : StaticRows}

/-- Columns of static rows are columns of their table, declared or inherited. -/
theorem isSome_findColumn? (h : db.validate = .ok ()) (hm : item ∈ db.tables)
    (hs : ofTable db item.1.name item.2 = .ok (some s)) {column : String}
    (hc : column ∈ s.columns) : (s.db.findColumn? s.schema s.table.name column).isSome := by
  obtain ⟨rows, hrows, -, rfl, hschema, htable, hcolumns, -⟩ := of_ofTable hs
  obtain ⟨_, hcheck⟩ := Database.checkTable_of_validate h hm
  obtain ⟨_, hcheckRows⟩ := (of_checkTable hcheck).2.2 rows hrows
  simp only [checkRows, bind_eq_ok, ensure_eq_ok, checkAll_eq_ok] at hcheckRows
  obtain ⟨_, -, _, hall, -⟩ := hcheckRows
  rw [hschema, htable]
  exact hall column (hcolumns ▸ hc)

/-- **Every cell of a valid definition can be written.** -/
theorem exists_literal (h : db.validate = .ok ()) (hm : item ∈ db.tables)
    (hs : ofTable db item.1.name item.2 = .ok (some s)) {column : String} (hc : column ∈ s.columns)
    (cell : Option Cell) : ∃ text, s.literal column cell = .ok text := by
  have hfound := isSome_findColumn? h hm hs hc
  obtain ⟨_, -, -, rfl, -⟩ := of_ofTable hs
  obtain ⟨type, htype⟩ := (Database.coherent_of_validate h).exists_columnType hfound
  unfold literal
  split
  · exact ⟨_, rfl⟩
  · exact ⟨_, by rw [htype]; rfl⟩

end StaticRows

end SchemaPlan
