import SchemaPlan.Proofs.ColumnPairs
import SchemaPlan.Proofs.RowMigration

/-!
# The key that a deletion names

A row to delete is told by its key.  The columns of that key are those of the new version, and the
values come from the row that was there, each from a key column of the previous version: first from
first, second from second (`StaticRows.key_eq`).  So a deletion says what it means if the keys of
both versions correspond place by place (`KeysCorrespond`), each column to the one it was
(`formerColumnName`), whether the table declares it or inherits it.

If they do, rows that are as they were have nothing done to them (`SparesUnchanged`), which is what
matching rows is for.  `deletions_address_keys` gathers both.  Nothing sees to it that keys
correspond: a key whose columns have only been put in another order does not, and a plan takes the
value of one column for that of another (`key_mistaken_when_reordered`).
-/

namespace SchemaPlan

namespace StaticRows

variable {db : Database} {schema : String} {table : Table} {s : StaticRows}

/-! ### Key cells -/

/-- What the cell of a row in a column counts as. -/
def cellText (s : StaticRows) (row : Row) (column : String) : String :=
  (((s.place? column).bind row.cell?).map Cell.identity).getD ""

/-- The place of a key column is that of its name. -/
theorem place?_of_keyPlaces (h : ofTable db schema table = .ok (some s)) :
    List.Forall₂ (fun column p => s.place? column = some p) table.primaryKey s.keyPlaces := by
  obtain ⟨rows, -, hplaces, -, -, -, hcolumns, -⟩ := of_ofTable h
  refine (mapM_eq_ok.1 hplaces).imp fun column p hp => ?_
  rw [place?, hcolumns]
  split at hp
  next p' hfound => rw [hfound, Except.ok.inj hp]
  next => cases hp

theorem columns_getD_of_place? {column : String} {p : Nat} (h : s.place? column = some p) :
    s.columns.getD p "" = column := by
  obtain ⟨hlt, hcolumn, -⟩ := List.findIdx?_eq_some_iff_getElem.1 h
  rw [List.getD_eq_getElem?_getD, List.getElem?_eq_getElem hlt, Option.getD_some]
  simpa using hcolumn

/-- Key columns are columns of the rows. -/
theorem mem_columns_of_key (h : ofTable db schema table = .ok (some s)) {column : String}
    (hcolumn : column ∈ table.primaryKey) : column ∈ s.columns := by
  obtain ⟨rows, -, hplaces, -, -, -, hcolumns, -⟩ := of_ofTable h
  obtain ⟨p, -, hp⟩ := exists_mem_of_mapM hplaces hcolumn
  split at hp
  next p' hfound =>
    obtain ⟨hlt, he, -⟩ := List.findIdx?_eq_some_iff_getElem.1 hfound
    rw [hcolumns, ← beq_iff_eq.1 he]
    exact List.getElem_mem hlt
  next => cases hp

/-- A row counts as what its key cells count as. -/
theorem identity_eq (h : ofTable db schema table = .ok (some s)) (row : Row) :
    s.identity row = table.primaryKey.map (s.cellText row) := by
  rw [identity, ← List.forall₂_eq_eq_eq, List.forall₂_map_left_iff, List.forall₂_map_right_iff]
  refine (place?_of_keyPlaces h).flip.imp fun p column hp => ?_
  rw [cellText, hp, Option.bind_some]

/-- **The key of a row** pairs the given names with the values that the row has in the columns of
its own key. -/
theorem key_eq (h : ofTable db schema table = .ok (some s)) (names : List String) (row : Row) :
    s.key names row = (names.zip table.primaryKey).mapM fun (name, column) => do
      return (name, ← s.value row column) := by
  have hplaces := place?_of_keyPlaces h
  unfold key
  generalize table.primaryKey = columns at hplaces
  generalize s.keyPlaces = places at hplaces
  induction hplaces generalizing names with
  | nil => cases names <;> rfl
  | @cons column p columns places hp _ ih =>
    cases names with
    | nil => rfl
    | cons name names =>
      have hvalue : s.literal (s.columns.getD p "") (row.cell? p) = s.value row column := by
        rw [columns_getD_of_place? hp, value, hp, Option.bind_some]
      rw [List.zip_cons_cons, List.zip_cons_cons, List.mapM_cons, List.mapM_cons, ih]
      simp only [hvalue]

/-- The names and the values of a key. -/
theorem of_key_eq_ok (h : ofTable db schema table = .ok (some s)) {names : List String}
    (hlength : names.length = table.primaryKey.length) {row : Row} {key : Assignments}
    (hkey : s.key names row = .ok key) : key.map Prod.fst = names ∧
      List.Forall₂ (fun column value => s.value row column = .ok value) table.primaryKey
        (key.map Prod.snd) := by
  rw [key_eq h, mapM_eq_ok] at hkey
  generalize table.primaryKey = columns at hlength hkey
  induction columns generalizing names key with
  | nil =>
    obtain rfl := List.length_eq_zero_iff.1 hlength
    obtain rfl := List.forall₂_nil_left_iff.1 hkey
    exact ⟨rfl, .nil⟩
  | cons column columns ih =>
    obtain ⟨name, names, rfl⟩ := List.exists_cons_of_length_eq_add_one hlength
    rw [List.zip_cons_cons, List.forall₂_cons_left_iff] at hkey
    obtain ⟨entry, rest, hentry, hrest, rfl⟩ := hkey
    obtain ⟨value, hvalue, he⟩ := bind_eq_ok.1 hentry
    cases pure_eq_ok.1 he
    obtain ⟨hnames, hvalues⟩ := ih (Nat.succ.inj hlength) hrest
    exact ⟨congrArg (name :: ·) hnames, .cons hvalue hvalues⟩

end StaticRows

namespace Comparison

/-! ### Keys that correspond -/

/-- The name that a column had, as told by the table that declares it, which may be an ancestor. -/
def formerColumnName (c : Comparison) (schema table column : String) : String :=
  match c.new.findColumn? schema table column with
  | none => column
  | some (s, t, col) =>
    match c.oldVersion? s.name t.name with
    | none => column
    | some (_, oldTable) => formerName c.options.renameTracking oldTable col

/-- The key of a table names, place by place, the columns that the key of its static rows named. -/
def KeysCorrespond (c : Comparison) (item : Schema × Table) : Prop :=
  ∀ s t, c.oldVersion? item.1.name item.2.name = some (s, t) → t.rows.isSome →
    t.primaryKey = item.2.primaryKey.map (c.formerColumnName item.1.name item.2.name)

/-- A row is as it was: its key cells count as what those of the former columns did, and it has the
values that it had. -/
structure Unchanged (c : Comparison) (new old : StaticRows) (row previous : Row) : Prop where
  key : ∀ column ∈ new.table.primaryKey, new.cellText row column =
    old.cellText previous (c.formerColumnName new.schema new.table.name column)
  fits : new.Fits row (c.seen new old previous)

/-- The operation deletes a row of the previous version that is not wanted, under a key that gives
each column of the new version the value that this row had in the column `former` of it. -/
def DeletesByKey (c : Comparison) (item : Schema × Table) (former : List String) (op : Op) : Prop :=
  ∃ (new old : StaticRows) (row : Row) (key : Assignments),
    StaticRows.ofTable c.new item.1.name item.2 = .ok (some new) ∧
      c.previousRows item.1.name item.2 = .ok (some old) ∧ row ∈ old.present ∧
      ¬ new.Has (old.identity row) ∧ op = .deleteRow (Sql.qualified item.1.name item.2.name) key ∧
      key.map Prod.fst = item.2.primaryKey ∧
      List.Forall₂ (fun column value => old.value row column = .ok value) former (key.map Prod.snd)

/-- The operations on the static rows of a table are each for a row, which is not one that is as it
was; whatever follows moves the key past them. -/
def SparesUnchanged (c : Comparison) (item : Schema × Table) (deletes upserts : List Op) : Prop :=
  ∃ (new : StaticRows) (old : Option StaticRows) (deleteSteps upsertSteps : List RowStep)
    (after : List Op), StaticRows.ofTable c.new item.1.name item.2 = .ok (some new) ∧
      c.previousRows item.1.name item.2 = .ok old ∧
      deletes = deleteSteps.map (·.op) ∧ upserts = upsertSteps.map (·.op) ++ after ∧
      OfKinds [.setSerialValue] after ∧
      (∀ step ∈ deleteSteps, ∃ o, old = some o ∧ ∃ row ∈ o.present,
        o.identity row = step.identity ∧
          IsDelete (Sql.qualified item.1.name item.2.name) new o row step.op) ∧
      (∀ step ∈ upsertSteps, ∃ row ∈ new.present, new.identity row = step.identity ∧
        c.IsUpsert (Sql.qualified item.1.name item.2.name) new old row step.op) ∧
      ∀ o, old = some o → ∀ row ∈ new.present, ∀ previous ∈ o.present,
        c.Unchanged new o row previous → new.identity row = o.identity previous ∧
          new.identity row ∉ (deleteSteps ++ upsertSteps).map (·.identity)

section Keys

variable {c : Comparison} {item : Schema × Table}

theorem exists_previous {schema : String} {table : Table} {old : StaticRows}
    (h : c.previousRows schema table = .ok (some old)) : ∃ db s t, c.old = some db ∧
      c.oldVersion? schema table.name = some (s, t) ∧
      StaticRows.ofTable db s.name t = .ok (some old) := by
  unfold previousRows at h
  split at h
  next db s t hdb hv => exact ⟨db, s, t, hdb, hv, h⟩
  next => cases h

/-- A table without static rows has none deleted. -/
theorem tableDeletes_of_none {schema : String} {table : Table} (h : table.rows = none) :
    c.tableDeletes schema table = .ok [] := by
  have hrows : StaticRows.ofTable c.new schema table = .ok none := by
    rw [StaticRows.ofTable, h]
  rw [tableDeletes, rowSides, hrows]
  rfl

/-- **Every deletion is of an old row**, told by its own key cells under the names of the new
key. -/
theorem deletesByKey_of_mem (hc : c.WellMade) (hm : item ∈ c.new.tables) {ops : List Op}
    (h : c.tableDeletes item.1.name item.2 = .ok ops) {op : Op} (hop : op ∈ ops) :
    ∃ s t, c.oldVersion? item.1.name item.2.name = some (s, t) ∧ t.rows.isSome ∧
      t.primaryKey.length = item.2.primaryKey.length ∧ c.DeletesByKey item t.primaryKey op := by
  cases hrows : item.2.rows with
  | none =>
    rw [tableDeletes_of_none hrows] at h
    cases h
    cases hop
  | some rows =>
    have hsides := h
    rw [tableDeletes, bind_eq_ok] at hsides
    obtain ⟨sides, hsides, -⟩ := hsides
    obtain ⟨new, old, hnew, hold, rfl⟩ := rowSides_eq_ok (by rw [hrows]; rfl) hsides
    have hkeyed := keyed_of_wellMade hc hm hnew hold
    -- Old rows are set aside if their key has another length, and then none is deleted.
    have hfiltered : Keyed new (old.filter fun o => o.keyPlaces.length == new.keyPlaces.length) :=
      ⟨hkeyed.new, fun o ho => hkeyed.old o (Option.filter_eq_some_iff.1 ho).1⟩
    obtain ⟨steps, rfl, -, hmem, hsteps⟩ := exists_tableDeletes hfiltered hsides h
    obtain ⟨step, hstep, rfl⟩ := List.mem_map.1 hop
    obtain ⟨o, ho, row, hrow, hidentity, key, hkey, he⟩ := hsteps step hstep
    have hgone := ((hmem step.identity).1 (List.mem_map_of_mem hstep)).2
    obtain ⟨rfl, hlength⟩ := Option.filter_eq_some_iff.1 ho
    obtain ⟨db, s, t, hdb, hv, ht⟩ := exists_previous hold
    obtain ⟨_, hown, -⟩ := StaticRows.of_ofTable ht
    obtain ⟨_, -, -, -, -, htable, -⟩ := StaticRows.of_ofTable hnew
    rw [beq_iff_eq, StaticRows.length_keyPlaces ht, StaticRows.length_keyPlaces hnew] at hlength
    rw [htable] at hkey
    obtain ⟨hnames, hvalues⟩ := StaticRows.of_key_eq_ok ht hlength.symm hkey
    exact ⟨s, t, hv, by rw [hown]; rfl, hlength, new, o, row, key, hnew, hold, hrow,
      hidentity ▸ hgone, he, hnames, hvalues⟩

/-- **Where keys correspond, a row that is as it was counts as what it did.** -/
theorem identity_eq_of_unchanged (hkeys : c.KeysCorrespond item) {new old : StaticRows}
    (hnew : StaticRows.ofTable c.new item.1.name item.2 = .ok (some new))
    (hold : c.previousRows item.1.name item.2 = .ok (some old)) {row previous : Row}
    (h : c.Unchanged new old row previous) : new.identity row = old.identity previous := by
  obtain ⟨db, s, t, -, hv, ht⟩ := exists_previous hold
  obtain ⟨_, hown, -⟩ := StaticRows.of_ofTable ht
  obtain ⟨_, -, -, -, hschema, htable, -⟩ := StaticRows.of_ofTable hnew
  have hkey := h.key
  rw [hschema, htable] at hkey
  rw [StaticRows.identity_eq hnew, StaticRows.identity_eq ht,
    hkeys s t hv (by rw [hown]; rfl), List.map_map]
  exact List.map_congr_left hkey

/-- A row that is as it was is neither inserted nor updated. -/
theorem not_isUpsert_of_unchanged {address : String} {new o : StaticRows}
    (hold : (o.present.map o.identity).Nodup) {row previous : Row}
    (hprevious : previous ∈ o.present) (h : c.Unchanged new o row previous)
    (he : new.identity row = o.identity previous) {op : Op} :
    ¬ c.IsUpsert address new (some o) row op := by
  rintro (⟨hnot, -⟩ | ⟨_, other, assignments, ho, hother, hidentity, hupdate⟩)
  · exact hnot ⟨o, rfl, previous, hprevious, he.symm⟩
  · -- What is assigned differs from what the row had, and nothing does.
    cases ho
    obtain rfl := o.eq_of_identity_eq hold hother hprevious (hidentity.trans he)
    obtain ⟨⟨column, value⟩, hassigned⟩ := List.exists_mem_of_ne_nil _ hupdate.ne_nil
    obtain ⟨hcolumn, hvalue, hne⟩ := (hupdate.mem_iff column value).1 hassigned
    obtain ⟨had, hhad, hseen⟩ := h.fits column hcolumn
    exact hne (by rw [hseen, Except.ok.inj (hhad.symm.trans hvalue)])

/-- **Where keys correspond, nothing is done to rows that are as they were.** -/
theorem sparesUnchanged_of_keysCorrespond (hc : c.WellMade) (hm : item ∈ c.new.tables)
    (hrows : item.2.rows.isSome) (hkeys : c.KeysCorrespond item) {deletes upserts : List Op}
    (hdeletes : c.tableDeletes item.1.name item.2 = .ok deletes)
    (hupserts : c.tableUpserts item.1.name item.2 = .ok upserts) :
    c.SparesUnchanged item deletes upserts := by
  have hsides := hupserts
  rw [tableUpserts, bind_eq_ok] at hsides
  obtain ⟨sides, hsides, -⟩ := hsides
  obtain ⟨new, old, hnew, hold, rfl⟩ := rowSides_eq_ok hrows hsides
  have hlength : ∀ s t, c.oldVersion? item.1.name item.2.name = some (s, t) → t.rows.isSome →
      t.primaryKey.length = item.2.primaryKey.length := by
    intro s t hv ht
    rw [hkeys s t hv ht, List.length_map]
  rw [filter_previousRows hnew hold hlength] at hsides
  rw [tableUpserts, hsides] at hupserts
  have hkeyed := keyed_of_wellMade hc hm hnew hold
  obtain ⟨upsertSteps, after, hupsertOps, hafter, -, hupsertSteps, -⟩ :=
    exists_upserts hkeyed hupserts
  obtain ⟨deleteSteps, hdeleteOps, -, hmem, hdeleteSteps⟩ :=
    exists_tableDeletes hkeyed hsides hdeletes
  refine ⟨new, old, deleteSteps, upsertSteps, after, hnew, hold, hdeleteOps, hupsertOps, hafter,
    hdeleteSteps, hupsertSteps, ?_⟩
  rintro o rfl row hrow previous hprevious hunchanged
  have he := identity_eq_of_unchanged hkeys hnew hold hunchanged
  refine ⟨he, fun hdone => ?_⟩
  rw [List.map_append, List.mem_append] at hdone
  rcases hdone with hdeleted | hupserted
  · exact ((hmem _).1 hdeleted).2 ⟨row, hrow, rfl⟩
  · obtain ⟨step, hstep, hstepRow⟩ := List.mem_map.1 hupserted
    obtain ⟨other, hother, hidentity, hupsert⟩ := hupsertSteps step hstep
    obtain rfl := new.eq_of_identity_eq hkeyed.new hother hrow (hidentity.trans hstepRow)
    exact not_isUpsert_of_unchanged (hkeyed.old o rfl) hprevious hunchanged he hupsert

end Keys

end Comparison

/-- **A deletion gives the columns of the new key the values of the old one, place by place.**
Where the keys correspond, each column gets the value that the row had in the column it was, and
nothing is done to rows that are as they were. -/
theorem deletions_address_keys {old : Option Database} {new : Database}
    {newOrder oldOrder : Option (List OrderItem)} {style : Sql.Style} {options : Options}
    {c : Comparison} (hnew : new.validate = .ok ())
    (hold : ∀ db, old = some db → db.validate = .ok ())
    (hmake : Comparison.make old new newOrder oldOrder style options = .ok c)
    {item : Schema × Table} (hm : item ∈ new.tables) {deletes : List Op}
    (hdeletes : c.tableDeletes item.1.name item.2 = .ok deletes) :
    (∀ op ∈ deletes, ∃ s t, c.oldVersion? item.1.name item.2.name = some (s, t) ∧
      t.primaryKey.length = item.2.primaryKey.length ∧ c.DeletesByKey item t.primaryKey op) ∧
    (c.KeysCorrespond item →
      (∀ op ∈ deletes, c.DeletesByKey item
        (item.2.primaryKey.map (c.formerColumnName item.1.name item.2.name)) op) ∧
      ∀ upserts, item.2.rows.isSome → c.tableUpserts item.1.name item.2 = .ok upserts →
        c.SparesUnchanged item deletes upserts) := by
  have hc := Comparison.wellMade_of_make (Database.coherent_of_validate hnew)
    (fun db hdb => Database.coherent_of_validate (hold db hdb)) hmake
  obtain ⟨-, -, -, -, rfl, -, -⟩ := Comparison.make_eq_ok_iff.1 hmake
  refine ⟨fun op hop => ?_, fun hkeys => ⟨fun op hop => ?_, fun upserts hrows hupserts => ?_⟩⟩
  · obtain ⟨s, t, hv, -, hlength, hop⟩ := Comparison.deletesByKey_of_mem hc hm hdeletes hop
    exact ⟨s, t, hv, hlength, hop⟩
  · obtain ⟨s, t, hv, hrows, -, hop⟩ := Comparison.deletesByKey_of_mem hc hm hdeletes hop
    rw [← hkeys s t hv hrows]
    exact hop
  · exact Comparison.sparesUnchanged_of_keysCorrespond hc hm hrows hkeys hdeletes hupserts

/-! ### Seats of a hall -/

/-- A column with a number. -/
def Hall.number (name : String) (oldName : Option String) : Column where
  name
  oldName
  dataType := some "integer"
  nullable := false

/-- The seats of a hall, each given by two numbers. -/
def Hall.table (columns : List Column) (key : List String) (rows : List (List String)) : Table where
  name := "seats"
  primaryKey := key
  columns
  rows := some
    { columns := columns.map (·.name)
      rows := rows.map fun numbers => { cells := numbers.map fun n => { value := some n } } }

/-- The schema of the hall. -/
def Hall.schema (seats : Table) : Schema where
  name := "hall"
  tables := [seats]

/-- Two seats to begin with. -/
def Hall.first : Table :=
  Hall.table [Hall.number "row" none, Hall.number "place" none] ["row", "place"]
    [["1", "1"], ["1", "2"]]

/-- A row is called a line, and the second seat is gone. -/
def Hall.second : Table :=
  Hall.table [Hall.number "line" (some "row"), Hall.number "place" none] ["line", "place"]
    [["1", "1"]]

/-- One seat, and either order of the key. -/
def Hall.single (key : List String) : Table :=
  Hall.table [Hall.number "row" none, Hall.number "place" none] key [["1", "2"]]

/-- The seat that is gone is told by its own numbers, though one of them has another name. -/
theorem deletions_address_keys_of_seats :
    ∃ c, Comparison.make (some ⟨[Hall.schema Hall.first], []⟩) ⟨[Hall.schema Hall.second], []⟩
        none none {} {} = .ok c ∧
      c.DeletesByKey (Hall.schema Hall.second, Hall.second) ["row", "place"]
        (.deleteRow "hall.seats" [("line", "1"), ("place", "2")]) ∧
      c.SparesUnchanged (Hall.schema Hall.second, Hall.second)
        [.deleteRow "hall.seats" [("line", "1"), ("place", "2")]] [] := by
  have hrun : (do
      let c ← Comparison.make (some ⟨[Hall.schema Hall.first], []⟩)
        ⟨[Hall.schema Hall.second], []⟩ none none {} {}
      let deletes ← c.tableDeletes "hall" Hall.second
      let upserts ← c.tableUpserts "hall" Hall.second
      return (c.oldVersion? "hall" "seats",
        Hall.second.primaryKey.map (c.formerColumnName "hall" "seats"), deletes, upserts)) =
        .ok (some (Hall.schema Hall.first, Hall.first), ["row", "place"],
          [.deleteRow "hall.seats" [("line", "1"), ("place", "2")]], []) := by
    decide +kernel
  simp only [bind_eq_ok, pure_eq_ok, Prod.mk.injEq] at hrun
  obtain ⟨c, hmake, _, hdeletes, _, hupserts, hv, hformer, rfl, rfl⟩ := hrun
  have hkeys : c.KeysCorrespond (Hall.schema Hall.second, Hall.second) := by
    intro s t hst _
    obtain ⟨-, rfl⟩ := Prod.mk.inj (Option.some.inj (hv.symm.trans hst))
    exact hformer.symm
  have hold : ∀ db, some (⟨[Hall.schema Hall.first], []⟩ : Database) = some db →
      db.validate = .ok () := by
    rintro _ ⟨⟩
    decide +kernel
  have hm : (Hall.schema Hall.second, Hall.second) ∈
      (⟨[Hall.schema Hall.second], []⟩ : Database).tables := by
    decide
  have hall := (deletions_address_keys (by decide +kernel) hold hmake hm hdeletes).2 hkeys
  refine ⟨c, hmake, ?_, hall.2 _ rfl hupserts⟩
  rw [← hformer]
  exact hall.1 _ List.mem_cons_self

/-- **A key whose columns change places is mistaken.**  The seat is in row 1 at place 2 in both
versions, and yet a seat at place 1 in row 2 is deleted and this one is inserted again. -/
theorem key_mistaken_when_reordered :
    (⟨[Hall.schema (Hall.single ["row", "place"])], []⟩ : Database).validate = .ok () ∧
      (⟨[Hall.schema (Hall.single ["place", "row"])], []⟩ : Database).validate = .ok () ∧
      ∃ c, Comparison.make (some ⟨[Hall.schema (Hall.single ["row", "place"])], []⟩)
          ⟨[Hall.schema (Hall.single ["place", "row"])], []⟩ none none {} {} = .ok c ∧
        c.tableDeletes "hall" (Hall.single ["place", "row"]) =
          .ok [.deleteRow "hall.seats" [("place", "1"), ("row", "2")]] ∧
        c.tableUpserts "hall" (Hall.single ["place", "row"]) =
          .ok [.insertRow "hall.seats" ["row", "place"] ["1", "2"]] := by
  have hrun : (do
      let c ← Comparison.make (some ⟨[Hall.schema (Hall.single ["row", "place"])], []⟩)
        ⟨[Hall.schema (Hall.single ["place", "row"])], []⟩ none none {} {}
      let deletes ← c.tableDeletes "hall" (Hall.single ["place", "row"])
      let upserts ← c.tableUpserts "hall" (Hall.single ["place", "row"])
      return (deletes, upserts)) =
        .ok ([.deleteRow "hall.seats" [("place", "1"), ("row", "2")]],
          [.insertRow "hall.seats" ["row", "place"] ["1", "2"]]) := by
    decide +kernel
  simp only [bind_eq_ok, pure_eq_ok, Prod.mk.injEq] at hrun
  obtain ⟨c, hmake, _, hdeletes, _, hupserts, rfl, rfl⟩ := hrun
  exact ⟨by decide +kernel, by decide +kernel, c, hmake, hdeletes, hupserts⟩

end SchemaPlan
