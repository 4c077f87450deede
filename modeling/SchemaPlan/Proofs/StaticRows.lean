import SchemaPlan.Plan.Rows
import SchemaPlan.Proofs.Coherence
import SchemaPlan.Proofs.RowState

/-!
# What is decided about a row

Static rows are matched by what their key cells count as, and validation sees to it that no two rows
of a table count as the same (`StaticRows.nodup_identities`).  So a look-up finds the one row it is
asked for (`StaticRows.find?_eq_some_iff`).

The rest says what each row contributes to a plan: a row to delete one deletion (`IsDelete`), a new
row one insertion (`IsInsert`), and a row that is there already one update (`IsUpdate`), or nothing
if its values are as they should be.  Old rows are looked at from the new version: `seen` gives what
they have in the column that a new column continues.
-/

namespace SchemaPlan

namespace StaticRows

/-- The columns that rows give values to besides the key. -/
def Declares (s : StaticRows) (column : String) : Prop :=
  column ∈ s.columns ∧ column ∉ s.table.primaryKey

/-- The cells have the values that a row gives to the declared columns. -/
def Fits (s : StaticRows) (row : Row) (cells : RowCells) : Prop :=
  ∀ column, s.Declares column → ∃ value, s.value row column = .ok value ∧ cells column = some value

/-- Some row that should exist counts as this. -/
def Has (s : StaticRows) (identity : List String) : Prop :=
  ∃ row ∈ s.present, s.identity row = identity

theorem of_ofTable {db : Database} {schema : String} {table : Table} {s : StaticRows}
    (h : ofTable db schema table = .ok (some s)) : ∃ rows, table.rows = some rows ∧
      keyPositions (Sql.qualified schema table.name) rows.columns table.primaryKey =
        .ok s.keyPlaces ∧
      s.db = db ∧ s.schema = schema ∧ s.table = table ∧ s.columns = rows.columns ∧
      s.rows = rows.rows := by
  unfold ofTable at h
  split at h
  · cases h
  next rows hrows =>
    simp only [bind_eq_ok, pure_eq_ok] at h
    obtain ⟨places, hplaces, _, _, he⟩ := h
    cases he
    exact ⟨rows, hrows, hplaces, rfl, rfl, rfl, rfl, rfl⟩

/-- The static rows of a coherent table are found. -/
theorem exists_ofTable {db : Database} {schema : String} {table : Table}
    (h : db.CoherentTable schema table) : ∃ r, ofTable db schema table = .ok r := by
  cases hr : table.rows with
  | none => exact ⟨none, by rw [ofTable, hr]⟩
  | some rows =>
    obtain ⟨places, hplaces, _⟩ := (h.rows rows hr).places
    have hne : (!places.isEmpty) = true := by
      rw [Bool.not_eq_true', List.isEmpty_eq_false_iff, ← List.length_pos_iff_ne_nil,
        ← (mapM_eq_ok.1 hplaces).length_eq, List.length_pos_iff_ne_nil]
      exact (h.rows rows hr).key
    have hplaces : keyPositions (Sql.qualified schema table.name) rows.columns table.primaryKey =
      .ok places := hplaces
    simp only [ofTable, hr, hplaces, ensure, bind, Except.bind, hne, if_true]
    exact ⟨_, rfl⟩

/-- There is a place for each column of the key. -/
theorem length_keyPlaces {db : Database} {schema : String} {table : Table} {s : StaticRows}
    (h : ofTable db schema table = .ok (some s)) :
    s.keyPlaces.length = table.primaryKey.length := by
  obtain ⟨_, _, hplaces, _⟩ := of_ofTable h
  exact (mapM_eq_ok.1 hplaces).length_eq.symm

/-- **No two rows of a coherent table count as the same.** -/
theorem nodup_identities {db : Database} {schema : String} {table : Table} {s : StaticRows}
    (hdb : db.CoherentTable schema table) (h : ofTable db schema table = .ok (some s)) :
    (s.present.map s.identity).Nodup := by
  obtain ⟨rows, hrows, hkey, _, _, _, _, hsrows⟩ := of_ofTable h
  obtain ⟨places, hplaces, hcells, hnodup⟩ := (hdb.rows rows hrows).places
  have he : s.keyPlaces = places := Except.ok.inj (hkey.symm.trans hplaces)
  have hsome : ∀ row ∈ rows.rows, places.map (fun p => (row.cell? p).map Cell.identity) =
      (s.identity row).map some := by
    intro row hrow
    rw [identity, he, List.map_map]
    refine List.map_congr_left fun p hp => ?_
    obtain ⟨cell, hcell⟩ := Option.isSome_iff_exists.1 (hcells row hrow p hp)
    simp [hcell]
  rw [List.map_congr_left hsome, ← Function.comp_def, ← List.map_map] at hnodup
  rw [present, hsrows]
  exact (List.Nodup.of_map _ hnodup).sublist (List.filter_sublist.map _)

section Matching

variable {s : StaticRows} (hnodup : (s.present.map s.identity).Nodup)

include hnodup

/-- **A look-up finds exactly the row that counts as this.** -/
theorem find?_eq_some_iff {identity : List String} {row : Row} :
    s.find? identity = some row ↔ row ∈ s.present ∧ s.identity row = identity := by
  have hreverse : (s.present.reverse.map s.identity).Nodup := by
    rw [List.map_reverse, List.nodup_reverse]
    exact hnodup
  constructor
  · intro h
    exact ⟨List.mem_reverse.1 (List.mem_of_find?_eq_some h), by simpa using List.find?_some h⟩
  · rintro ⟨hrow, rfl⟩
    exact find?_eq_some_of_nodup hreverse (List.mem_reverse.2 hrow)

theorem isSome_find?_iff {identity : List String} :
    (s.find? identity).isSome ↔ s.Has identity := by
  rw [Option.isSome_iff_exists]
  exact exists_congr fun row => s.find?_eq_some_iff hnodup

theorem find?_eq_none_iff {identity : List String} :
    s.find? identity = none ↔ ¬ s.Has identity := by
  rw [← s.isSome_find?_iff hnodup, Option.not_isSome_iff_eq_none]

theorem eq_of_identity_eq {a b : Row} (ha : a ∈ s.present) (hb : b ∈ s.present)
    (he : s.identity a = s.identity b) : a = b :=
  List.inj_on_of_nodup_map hnodup ha hb he

end Matching

end StaticRows

/-! ### Deletions and insertions -/

/-- The operation deletes a row of the previous version, told by its key under the new names. -/
def IsDelete (address : String) (new old : StaticRows) (row : Row) (op : Op) : Prop :=
  ∃ key, old.key new.table.primaryKey row = .ok key ∧ op = .deleteRow address key

/-- The operation inserts a row with its values. -/
def IsInsert (address : String) (new : StaticRows) (row : Row) (op : Op) : Prop :=
  ∃ values, List.Forall₂ (fun column value => new.value row column = .ok value)
    new.columns values ∧ op = .insertRow address new.columns values

theorem insertRow_eq_ok {address : String} {new : StaticRows} {row : Row} {ops : List Op}
    (h : Comparison.insertRow address new row = .ok ops) :
    ∃ op, ops = [op] ∧ IsInsert address new row op := by
  simp only [Comparison.insertRow, bind_eq_ok, pure_eq_ok] at h
  obtain ⟨values, hvalues, rfl⟩ := h
  exact ⟨_, rfl, values, mapM_eq_ok.1 hvalues, rfl⟩

/-! ### Updates -/

namespace Comparison

/-- What an old row has in the column that a column of the new version continues, if the old rows
give values to it. -/
def seen (c : Comparison) (new old : StaticRows) (row : Row) : RowCells := fun column =>
  match c.oldColumnName new old column with
  | .ok name => (old.place? name).bind fun p => (old.literal name (row.cell? p)).toOption
  | .error _ => none

/-- The operation assigns the declared columns whose value is not what the old row is known to have,
and tells what was there. -/
structure IsUpdate (c : Comparison) (address : String) (new old : StaticRows) (row previous : Row)
    (assignments : Assignments) (op : Op) : Prop where
  eq_op : ∃ key was, new.key new.table.primaryKey row = .ok key ∧
    op = .updateRow address assignments key was ∧
    ∀ column value, (column, value) ∈ was ↔
      (∃ v, (column, v) ∈ assignments) ∧ c.seen new old previous column = some value
  ne_nil : assignments ≠ []
  values : ∀ column, new.Declares column → ∃ value, new.value row column = .ok value
  mem_iff : ∀ column value, (column, value) ∈ assignments ↔ new.Declares column ∧
    new.value row column = .ok value ∧ c.seen new old previous column ≠ some value

theorem assignment?_eq_ok {c : Comparison} {new old : StaticRows} {row previous : Row}
    {column : String} {r : Option Assignment}
    (h : c.assignment? new old row previous column = .ok r) :
    ∃ value, new.value row column = .ok value ∧
      r = if c.seen new old previous column = some value then none
        else some ⟨column, value, c.seen new old previous column⟩ := by
  simp only [assignment?, bind_eq_ok] at h
  obtain ⟨value, hvalue, name, hname, h⟩ := h
  refine ⟨value, hvalue, ?_⟩
  simp only [seen, hname]
  cases hp : old.place? name with
  | none =>
    simp only [hp] at h
    rw [← pure_eq_ok.1 h]
    simp
  | some p =>
    simp only [hp, bind_eq_ok, pure_eq_ok] at h
    obtain ⟨oldValue, hold, rfl⟩ := h
    simp [hold, Except.toOption]

section Changes

variable {c : Comparison} {new old : StaticRows} {row previous : Row}
  {results : List (Option Assignment)}
  (hresults : (new.columns.filter (!new.table.primaryKey.contains ·)).mapM
    (c.assignment? new old row previous) = .ok results)

include hresults

/-- Each declared column has been looked at. -/
theorem exists_assignment? {column : String} (hcolumn : new.Declares column) :
    ∃ r ∈ results, c.assignment? new old row previous column = .ok r := by
  have hmem : column ∈ new.columns.filter (!new.table.primaryKey.contains ·) := by
    simpa [StaticRows.Declares] using hcolumn
  exact exists_mem_of_mapM hresults hmem

theorem exists_value_of_changes {column : String} (hcolumn : new.Declares column) :
    ∃ value, new.value row column = .ok value := by
  obtain ⟨r, _, hassign⟩ := exists_assignment? hresults hcolumn
  obtain ⟨value, hvalue, _⟩ := assignment?_eq_ok hassign
  exact ⟨value, hvalue⟩

/-- The changes are those of the declared columns whose value is not known to have been there. -/
theorem mem_changes_iff {a : Assignment} :
    a ∈ results.filterMap id ↔ new.Declares a.column ∧ new.value row a.column = .ok a.value ∧
      a.old = c.seen new old previous a.column ∧
      c.seen new old previous a.column ≠ some a.value := by
  rw [List.mem_filterMap]
  constructor
  · rintro ⟨r, hr, rfl⟩
    obtain ⟨column, hcolumn, hassign⟩ := exists_source_of_mapM hresults hr
    obtain ⟨value, hvalue, he⟩ := assignment?_eq_ok hassign
    split at he
    · cases he
    next hne =>
      cases he
      refine ⟨?_, hvalue, rfl, hne⟩
      simpa [StaticRows.Declares] using hcolumn
  · rintro ⟨hcolumn, hvalue, hold, hne⟩
    obtain ⟨r, hr, hassign⟩ := exists_assignment? hresults hcolumn
    obtain ⟨value, hvalue', he⟩ := assignment?_eq_ok hassign
    rw [hvalue] at hvalue'
    cases hvalue'
    rw [if_neg hne, ← hold] at he
    exact ⟨r, hr, he⟩

/-- An operation that assigns the changes, if there are any, updates the row. -/
theorem isUpdate_of_changes (hne : results.filterMap id ≠ []) {address : String}
    {key : Assignments} (hkey : new.key new.table.primaryKey row = .ok key) :
    c.IsUpdate address new old row previous
      ((results.filterMap id).map fun a => (a.column, a.value))
      (.updateRow address ((results.filterMap id).map fun a => (a.column, a.value)) key
        ((results.filterMap id).filterMap fun a => a.old.map fun v => (a.column, v))) := by
  refine ⟨⟨key, _, hkey, rfl, fun column value => ?_⟩, ?_, ?_, fun column value => ?_⟩
  · rw [List.mem_filterMap]
    constructor
    · rintro ⟨a, ha, he⟩
      obtain ⟨w, hw, he⟩ := Option.map_eq_some_iff.1 he
      cases he
      refine ⟨⟨a.value, List.mem_map_of_mem ha⟩, ?_⟩
      rw [← hw, ((mem_changes_iff hresults).1 ha).2.2.1]
    · rintro ⟨⟨v, hv⟩, hseen⟩
      obtain ⟨a, ha, he⟩ := List.mem_map.1 hv
      cases he
      refine ⟨a, ha, ?_⟩
      rw [((mem_changes_iff hresults).1 ha).2.2.1, hseen, Option.map_some]
  · rw [ne_eq, List.map_eq_nil_iff]
    exact hne
  · exact fun column hcolumn => exists_value_of_changes hresults hcolumn
  · rw [List.mem_map]
    constructor
    · rintro ⟨a, ha, he⟩
      cases he
      obtain ⟨hcolumn, hvalue, _, hdiffers⟩ := (mem_changes_iff hresults).1 ha
      exact ⟨hcolumn, hvalue, hdiffers⟩
    · rintro ⟨hcolumn, hvalue, hdiffers⟩
      refine ⟨⟨column, value, c.seen new old previous column⟩, ?_, rfl⟩
      exact (mem_changes_iff hresults).2 ⟨hcolumn, hvalue, rfl, hdiffers⟩

end Changes

/-- **An old row is updated exactly where it differs**, and left alone where it does not. -/
theorem updateRow_eq_ok {c : Comparison} {address : String} {new old : StaticRows}
    {row previous : Row} {ops : List Op} (h : c.updateRow address new old row previous = .ok ops) :
    (∃ op, ops = [op] ∧ ∃ assignments, c.IsUpdate address new old row previous assignments op) ∨
      (ops = [] ∧ new.Fits row (c.seen new old previous)) := by
  simp only [updateRow, bind_eq_ok] at h
  obtain ⟨results, hresults, h⟩ := h
  by_cases hnil : results.filterMap id = []
  · right
    rw [hnil, List.isEmpty_nil, if_pos rfl] at h
    refine ⟨(pure_eq_ok.1 h).symm, fun column hcolumn => ?_⟩
    obtain ⟨value, hvalue⟩ := exists_value_of_changes hresults hcolumn
    refine ⟨value, hvalue, ?_⟩
    by_contra hne
    have hmem := (mem_changes_iff (a := ⟨column, value, c.seen new old previous column⟩)
      hresults).2 ⟨hcolumn, hvalue, rfl, hne⟩
    rw [hnil] at hmem
    exact List.not_mem_nil hmem
  · left
    rw [if_neg (by simpa using hnil)] at h
    simp only [bind_eq_ok, pure_eq_ok] at h
    obtain ⟨key, hkey, rfl⟩ := h
    exact ⟨_, rfl, _, isUpdate_of_changes hresults hnil hkey⟩

end Comparison

end SchemaPlan
