import Mathlib.Data.Finset.Card
import Mathlib.Data.List.Nodup
import SchemaPlan.Model.Lookup

/-!
# Columns that refer to others for their type

A column without a type of its own has that of the column its foreign key refers to, which may be a
reference again, and may be declared on an ancestor of the table it is looked for on.  `follow?` goes
from reference to reference; it ends at a column that refers no further (`EndsAt`), or it comes back
to a column that it has been at (`ComesBack`), and one of the two happens before there are more
references than columns (`ends_or_comesBack`).

`Database.columnType` goes the same way and remembers where it has been.  A column seen before would
have more references left than it has, so the walk is not stopped on a way that ends
(`columnTypeFrom_of_endsAt`), and it is stopped at once on one that does not
(`columnTypeFrom_of_endless`).  That a column and its target are asked for from different starts, and
so with different columns behind them, makes no difference then.
-/

namespace SchemaPlan

/-- The type in which values are kept is kept itself. -/
@[simp] theorem Sql.TypeName.storage_storage (s : String) :
    storage (storage s) = storage s := by
  have hcases : storage s = "integer" ∨ storage s = "bigint" ∨ storage s = "smallint" ∨
      storage s = s := by
    unfold storage
    split <;> simp
  rcases hcases with h | h | h | h
  · rw [h]
    decide +kernel
  · rw [h]
    decide +kernel
  · rw [h]
    decide +kernel
  · rw [h, h]

namespace Database

/-! ### References from column to column -/

/-- The column, declared in a schema, that a column refers to. -/
abbrev ColumnKey.target (s : Schema) (c : Column) (fk : ForeignKey) : ColumnKey :=
  ⟨fk.schema.getD s.name, fk.table, fk.column.getD c.name⟩

/-- The type of a column. -/
abbrev typeOf (db : Database) (k : ColumnKey) : Except SchemaError String :=
  db.columnType k.schema k.table k.column

/-- The column that another one has its type from. -/
def typeTarget? (db : Database) (k : ColumnKey) : Option ColumnKey :=
  match db.findColumn? k.schema k.table k.column with
  | none => none
  | some (s, _, c) =>
    match c.dataType, c.foreignKey with
    | none, some fk => some (ColumnKey.target s c fk)
    | _, _ => none

/-- The column that so many references lead to. -/
def follow? (db : Database) (k : ColumnKey) : Nat → Option ColumnKey
  | 0 => some k
  | n + 1 => (db.typeTarget? k).bind (db.follow? · n)

/-- So many references lead to a column that refers no further. -/
def EndsAt (db : Database) (k : ColumnKey) (n : Nat) (last : ColumnKey) : Prop :=
  db.follow? k n = some last ∧ db.typeTarget? last = none

/-- References lead to a column twice. -/
def ComesBack (db : Database) (k again : ColumnKey) : Prop :=
  ∃ m n, m < n ∧ db.follow? k m = some again ∧ db.follow? k n = some again

/-- What a column that refers no further is found to be: a type, or why there is none.  A type that
is not the column's own is the one that its values are kept in. -/
def ending (db : Database) (start : ColumnKey) (own : Bool) (last : ColumnKey) :
    Except SchemaError String :=
  match db.findColumn? last.schema last.table last.column with
  | none => .error (.definition start.address (.targetMissing last.address))
  | some (_, _, c) =>
    match c.dataType with
    | some type => .ok (if own then type else Sql.TypeName.storage type)
    | none => .error (.definition last.address .neitherTypeNorForeignKey)

variable {db : Database} {start k last : ColumnKey} {m n : Nat}

theorem typeTarget?_of_found {s : Schema} {t : Table} {c : Column}
    (hfound : db.findColumn? k.schema k.table k.column = some (s, t, c)) :
    db.typeTarget? k = match c.dataType, c.foreignKey with
      | none, some fk => some (ColumnKey.target s c fk)
      | _, _ => none := by
  rw [typeTarget?, hfound]

theorem ending_of_found {own : Bool} {s : Schema} {t : Table} {c : Column}
    (hfound : db.findColumn? last.schema last.table last.column = some (s, t, c)) :
    db.ending start own last = match c.dataType with
      | some type => .ok (if own then type else Sql.TypeName.storage type)
      | none => .error (.definition last.address .neitherTypeNorForeignKey) := by
  rw [ending, hfound]

theorem follow?_add {x : ColumnKey} (h : db.follow? k m = some x) (n : Nat) :
    db.follow? k (m + n) = db.follow? x n := by
  induction m generalizing k with
  | zero =>
    cases h
    rw [Nat.zero_add]
  | succ m ih =>
    rw [Nat.succ_add, follow?]
    rw [follow?] at h
    obtain ⟨next, hnext, h⟩ := Option.bind_eq_some_iff.1 h
    rw [hnext, Option.bind_some, ih h]

/-- Before there is nothing to go on to, references have ended. -/
theorem exists_endsAt_of_follow?_eq_none (h : db.follow? k n = none) :
    ∃ m < n, ∃ last, db.EndsAt k m last := by
  induction n generalizing k with
  | zero => cases h
  | succ n ih =>
    cases hk : db.typeTarget? k with
    | none => exact ⟨0, Nat.succ_pos n, k, rfl, hk⟩
    | some next =>
      rw [follow?, hk] at h
      obtain ⟨m, hm, last, hlast, hend⟩ := ih h
      exact ⟨m + 1, Nat.succ_lt_succ hm, last, by rw [follow?, hk]; exact hlast, hend⟩

theorem endsAt_zero : db.EndsAt k 0 last ↔ last = k ∧ db.typeTarget? k = none := by
  constructor
  · rintro ⟨h, hend⟩
    cases h
    exact ⟨rfl, hend⟩
  · rintro ⟨rfl, hend⟩
    exact ⟨rfl, hend⟩

theorem endsAt_succ : db.EndsAt k (n + 1) last ↔
    ∃ next, db.typeTarget? k = some next ∧ db.EndsAt next n last := by
  simp only [EndsAt, follow?, Option.bind_eq_some_iff]
  constructor
  · rintro ⟨⟨next, hnext, h⟩, hend⟩
    exact ⟨next, hnext, h, hend⟩
  · rintro ⟨next, hnext, h, hend⟩
    exact ⟨⟨next, hnext, h⟩, hend⟩

/-- Wherever references lead on the way, they end where they do from there. -/
theorem EndsAt.of_follow? (h : db.EndsAt k n last) {x : ColumnKey}
    (hx : db.follow? k m = some x) : m ≤ n ∧ db.EndsAt x (n - m) last := by
  induction m generalizing k n with
  | zero =>
    cases hx
    exact ⟨Nat.zero_le n, h⟩
  | succ m ih =>
    rw [follow?] at hx
    obtain ⟨next, hnext, hx⟩ := Option.bind_eq_some_iff.1 hx
    cases n with
    | zero =>
      obtain ⟨-, hend⟩ := endsAt_zero.1 h
      cases hend.symm.trans hnext
    | succ n =>
      obtain ⟨next', hnext', h⟩ := endsAt_succ.1 h
      cases hnext.symm.trans hnext'
      obtain ⟨hle, h⟩ := ih h hx
      exact ⟨Nat.succ_le_succ hle, by rwa [Nat.add_sub_add_right]⟩

/-- References end in one way. -/
theorem EndsAt.unique {last' : ColumnKey} (h : db.EndsAt k m last) (h' : db.EndsAt k n last') :
    m = n ∧ last = last' := by
  obtain ⟨hnm, -⟩ := h.of_follow? h'.1
  obtain ⟨hmn, -⟩ := h'.of_follow? h.1
  obtain rfl := Nat.le_antisymm hmn hnm
  exact ⟨rfl, Option.some.inj (h.1.symm.trans h'.1)⟩

/-- References that end do not come back anywhere. -/
theorem EndsAt.not_comesBack (h : db.EndsAt k n last) (again : ColumnKey) :
    ¬ db.ComesBack k again := by
  rintro ⟨i, j, hij, hi, hj⟩
  obtain ⟨hin, hi⟩ := h.of_follow? hi
  obtain ⟨hjn, hj⟩ := h.of_follow? hj
  have hsame := (hi.unique hj).1
  omega

theorem mem_columnKeys_of_typeTarget? {next : ColumnKey} (h : db.typeTarget? k = some next) :
    k ∈ db.columnKeys := by
  cases hfound : db.findColumn? k.schema k.table k.column with
  | none => simp [typeTarget?, hfound] at h
  | some found => exact mem_columnKeys_of_findColumn? hfound

/-- **References end or come back** before there are more of them than columns. -/
theorem ends_or_comesBack (db : Database) (k : ColumnKey) :
    (∃ n ≤ db.columnKeys.length, ∃ last, db.EndsAt k n last) ∨
      ∃ m n again, m < n ∧ n ≤ db.columnKeys.length ∧ db.follow? k m = some again ∧
        db.follow? k n = some again := by
  by_cases hall : ∀ i ≤ db.columnKeys.length, ∃ x, db.follow? k i = some x ∧ x ∈ db.columnKeys
  · right
    have : Nonempty ColumnKey := ⟨k⟩
    choose! visited hvisited hmem using hall
    have hmaps : ∀ i ∈ Finset.range (db.columnKeys.length + 1),
        visited i ∈ db.columnKeys.toFinset := fun i hi =>
      List.mem_toFinset.2 (hmem i (Nat.le_of_lt_succ (Finset.mem_range.1 hi)))
    have hcard : db.columnKeys.toFinset.card <
        (Finset.range (db.columnKeys.length + 1)).card := by
      rw [Finset.card_range]
      exact Nat.lt_succ_of_le (List.toFinset_card_le _)
    obtain ⟨i, hi, j, hj, hne, he⟩ := Finset.exists_ne_map_eq_of_card_lt_of_maps_to hcard hmaps
    have hi := Nat.le_of_lt_succ (Finset.mem_range.1 hi)
    have hj := Nat.le_of_lt_succ (Finset.mem_range.1 hj)
    rcases Nat.lt_or_gt_of_ne hne with hij | hji
    · exact ⟨i, j, visited i, hij, hj, hvisited i hi, he ▸ hvisited j hj⟩
    · exact ⟨j, i, visited i, hji, hi, he ▸ hvisited j hj, hvisited i hi⟩
  · left
    simp only [not_forall, not_exists, not_and] at hall
    obtain ⟨i, hi, hnot⟩ := hall
    cases hx : db.follow? k i with
    | none =>
      obtain ⟨n, hn, hlast⟩ := exists_endsAt_of_follow?_eq_none hx
      exact ⟨n, by omega, hlast⟩
    | some x =>
      refine ⟨i, hi, x, hx, ?_⟩
      cases hnext : db.typeTarget? x with
      | none => rfl
      | some next => exact absurd (mem_columnKeys_of_typeTarget? hnext) (hnot x hx)

/-! ### The walk that looks for a type -/

variable {visited : List ColumnKey}

/-- At a column that refers to another one the walk goes on to it. -/
theorem columnTypeFrom_of_target {next : ColumnKey} (hnew : k ∉ visited)
    (hnext : db.typeTarget? k = some next) :
    db.columnTypeFrom start visited k = db.columnTypeFrom start (k :: visited) next := by
  rw [columnTypeFrom, dif_neg hnew]
  split
  next hnone => simp [typeTarget?, hnone] at hnext
  next s t c hfound =>
    rw [typeTarget?_of_found hfound] at hnext
    cases htype : c.dataType <;> cases hfk : c.foreignKey <;> rw [htype, hfk] at hnext <;>
      cases hnext
    rfl

/-- At a column that refers no further the walk ends. -/
theorem columnTypeFrom_of_end (hnew : k ∉ visited) (hend : db.typeTarget? k = none) :
    db.columnTypeFrom start visited k = db.ending start visited.isEmpty k := by
  rw [columnTypeFrom, dif_neg hnew]
  split
  next hnone => rw [ending, hnone]
  next s t c hfound =>
    rw [ending_of_found hfound]
    rw [typeTarget?_of_found hfound] at hend
    cases htype : c.dataType with
    | some type => rfl
    | none =>
      cases hfk : c.foreignKey with
      | none => rfl
      | some fk =>
        rw [htype, hfk] at hend
        cases hend

/-- The walk is not stopped on a way that ends, as long as more references are left at every column
it has been at. -/
theorem columnTypeFrom_of_endsAt (h : db.EndsAt k n last)
    (hvisited : ∀ v ∈ visited, ∀ m last, db.EndsAt v m last → n < m) :
    db.columnTypeFrom start visited k = db.ending start (visited.isEmpty && n == 0) last := by
  have hnew : k ∉ visited := fun hk => Nat.lt_irrefl _ (hvisited k hk n last h)
  induction n generalizing k visited with
  | zero =>
    obtain ⟨rfl, hend⟩ := endsAt_zero.1 h
    rw [columnTypeFrom_of_end hnew hend, beq_self_eq_true, Bool.and_true]
  | succ n ih =>
    obtain ⟨next, hnext, hrest⟩ := endsAt_succ.1 h
    have hvisited' : ∀ v ∈ k :: visited, ∀ m last, db.EndsAt v m last → n < m := by
      intro v hv m last' hm
      rcases List.mem_cons.1 hv with rfl | hv
      · rw [← (h.unique hm).1]
        exact Nat.lt_succ_self n
      · exact Nat.lt_of_succ_lt (hvisited v hv m last' hm)
    rw [columnTypeFrom_of_target hnew hnext, ih hrest hvisited' fun hk =>
      Nat.lt_irrefl _ (hvisited' next hk n last hrest)]
    simp

/-- On a way that does not end the walk is stopped where it comes back. -/
theorem columnTypeFrom_of_endless {i : Nat} (hstart : db.follow? start i = some k)
    (hvisited : ∀ v ∈ visited, ∃ j < i, db.follow? start j = some v)
    (hendless : ∀ n last, ¬ db.EndsAt start n last) :
    ∃ again, db.ComesBack start again ∧ db.columnTypeFrom start visited k =
      .error (.definition start.address (.circularReference again.address)) := by
  fun_induction columnTypeFrom db start visited k generalizing i with
  | case1 visited k hk =>
    obtain ⟨j, hj, hfollow⟩ := hvisited k hk
    exact ⟨k, ⟨j, i, hj, hfollow, hstart⟩, rfl⟩
  | case2 visited k hnew hnone =>
    exact absurd ⟨hstart, by rw [typeTarget?, hnone]⟩ (hendless i k)
  | case3 visited k hnew s t c hfound type htype =>
    exact absurd ⟨hstart, by rw [typeTarget?_of_found hfound, htype]⟩ (hendless i k)
  | case4 visited k hnew s t c hfound htype hfk =>
    exact absurd ⟨hstart, by rw [typeTarget?_of_found hfound, htype, hfk]⟩ (hendless i k)
  | case5 visited k hnew s t c hfound fk hfk htype ih =>
    have hnext : db.typeTarget? k = some (ColumnKey.target s c fk) := by
      rw [typeTarget?_of_found hfound, htype, hfk]
    refine ih (i := i + 1) ?_ fun v hv => ?_
    · rw [follow?_add hstart, follow?, hnext]
      rfl
    · rcases List.mem_cons.1 hv with rfl | hv
      · exact ⟨i, Nat.lt_succ_self i, hstart⟩
      · obtain ⟨j, hj, hfollow⟩ := hvisited v hv
        exact ⟨j, Nat.lt_succ_of_lt hj, hfollow⟩

/-! ### The type of a column -/

/-- **Where references end, the type of a column is what is found there.** -/
theorem typeOf_of_endsAt (h : db.EndsAt k n last) : db.typeOf k = db.ending k (n == 0) last := by
  show db.columnTypeFrom k [] k = _
  rw [columnTypeFrom_of_endsAt h (by simp)]
  rfl

/-- **Where references do not end, a column that they come back to is reported.** -/
theorem typeOf_of_endless (h : ∀ n last, ¬ db.EndsAt k n last) :
    ∃ again, db.ComesBack k again ∧
      db.typeOf k = .error (.definition k.address (.circularReference again.address)) :=
  columnTypeFrom_of_endless (i := 0) rfl (by simp) h

theorem ending_ne_circular {own : Bool} {object through : String} :
    db.ending start own last ≠ .error (.definition object (.circularReference through)) := by
  unfold ending
  split
  · simp
  · split <;> simp

/-- A circle is reported exactly where references come back. -/
theorem typeOf_circular_iff : (∃ object through, db.typeOf k =
    .error (.definition object (.circularReference through))) ↔ ∃ again, db.ComesBack k again := by
  by_cases hends : ∃ n last, db.EndsAt k n last
  · obtain ⟨n, last, hlast⟩ := hends
    refine iff_of_false ?_ fun ⟨again, hback⟩ => hlast.not_comesBack again hback
    rintro ⟨object, through, h⟩
    exact ending_ne_circular ((typeOf_of_endsAt hlast).symm.trans h)
  · simp only [not_exists] at hends
    obtain ⟨again, hback, he⟩ := typeOf_of_endless hends
    exact iff_of_true ⟨_, _, he⟩ ⟨again, hback⟩

/-- What a type is found to be does not depend on where it is asked from, but for its own form. -/
theorem ending_of_ok {own : Bool} {start' : ColumnKey} {type : String}
    (h : db.ending start own last = .ok type) :
    db.ending start' false last = .ok (Sql.TypeName.storage type) := by
  cases hfound : db.findColumn? last.schema last.table last.column with
  | none => simp [ending, hfound] at h
  | some found =>
    obtain ⟨s, t, c⟩ := found
    rw [ending_of_found hfound] at h ⊢
    cases htype : c.dataType with
    | none => simp [htype] at h
    | some declared =>
      rw [htype] at h
      rw [← Except.ok.inj h]
      cases own <;> simp

theorem ending_of_error {own : Bool} {e : SchemaError} (h : db.ending start own last = .error e)
    (start' : ColumnKey) (own' : Bool) : ∃ e', db.ending start' own' last = .error e' := by
  cases hfound : db.findColumn? last.schema last.table last.column with
  | none => simp [ending, hfound]
  | some found =>
    obtain ⟨s, t, c⟩ := found
    rw [ending_of_found hfound] at h ⊢
    cases htype : c.dataType with
    | none => simp
    | some declared => simp [htype] at h

/-- A column with a type of its own has that type. -/
theorem typeOf_of_type {s : Schema} {t : Table} {c : Column} {type : String}
    (hfound : db.findColumn? k.schema k.table k.column = some (s, t, c))
    (htype : c.dataType = some type) : db.typeOf k = .ok type := by
  have hend : db.EndsAt k 0 k := ⟨rfl, by rw [typeTarget?_of_found hfound, htype]⟩
  rw [typeOf_of_endsAt hend, ending_of_found hfound, htype]
  rfl

/-- A column and the one it refers to end at the same column, or neither has a type. -/
theorem typeOf_target_cases {next : ColumnKey} (hnext : db.typeTarget? k = some next) :
    (∃ own last, db.typeOf next = db.ending next own last ∧ db.typeOf k = db.ending k false last) ∨
      ∃ e e', db.typeOf next = .error e ∧ db.typeOf k = .error e' := by
  by_cases hends : ∃ n last, db.EndsAt next n last
  · obtain ⟨n, last, hlast⟩ := hends
    have hk : db.EndsAt k (n + 1) last := endsAt_succ.2 ⟨next, hnext, hlast⟩
    refine .inl ⟨n == 0, last, typeOf_of_endsAt hlast, ?_⟩
    rw [typeOf_of_endsAt hk, beq_false_of_ne (Nat.succ_ne_zero n)]
  · simp only [not_exists] at hends
    obtain ⟨_, -, he⟩ := typeOf_of_endless hends
    obtain ⟨_, -, he'⟩ := typeOf_of_endless (k := k) fun n last hlast => by
      cases n with
      | zero => cases (endsAt_zero.1 hlast).2.symm.trans hnext
      | succ n =>
        obtain ⟨next', hnext', hlast⟩ := endsAt_succ.1 hlast
        cases hnext.symm.trans hnext'
        exact hends n last hlast
    exact .inr ⟨_, _, he, he'⟩

/-- **A column that refers to another one has the type that the other's values are kept in.** -/
theorem typeOf_of_target_ok {next : ColumnKey} (hnext : db.typeTarget? k = some next)
    {type : String} (h : db.typeOf next = .ok type) :
    db.typeOf k = .ok (Sql.TypeName.storage type) := by
  rcases typeOf_target_cases hnext with ⟨own, last, he, hk⟩ | ⟨e, -, he, -⟩
  · exact hk.trans (ending_of_ok (he.symm.trans h))
  · cases he.symm.trans h

/-- A column that refers to one without a type has none. -/
theorem typeOf_of_target_error {next : ColumnKey} (hnext : db.typeTarget? k = some next)
    {e : SchemaError} (h : db.typeOf next = .error e) : ∃ e', db.typeOf k = .error e' := by
  rcases typeOf_target_cases hnext with ⟨own, last, he, hk⟩ | ⟨-, e', -, he'⟩
  · obtain ⟨e', he'⟩ := ending_of_error (he.symm.trans h) k false
    exact ⟨e', hk.trans he'⟩
  · exact ⟨e', he'⟩

/-- Whether a column has a type depends on nothing but what is found for it. -/
theorem exists_typeOf_congr {l : ColumnKey}
    (he : db.findColumn? l.schema l.table l.column = db.findColumn? k.schema k.table k.column)
    (h : ∃ type, db.typeOf k = .ok type) : ∃ type, db.typeOf l = .ok type := by
  have hsame : db.typeTarget? l = db.typeTarget? k := by rw [typeTarget?, typeTarget?, he]
  obtain ⟨type, h⟩ := h
  cases hnext : db.typeTarget? k with
  | some next =>
    cases hn : db.typeOf next with
    | ok type' => exact ⟨_, typeOf_of_target_ok (hsame.trans hnext) hn⟩
    | error e =>
      obtain ⟨e', he'⟩ := typeOf_of_target_error hnext hn
      cases h.symm.trans he'
  | none =>
    have hk : db.EndsAt k 0 k := ⟨rfl, hnext⟩
    rw [typeOf_of_endsAt hk] at h
    cases hfound : db.findColumn? k.schema k.table k.column with
    | none => simp [ending, hfound] at h
    | some found =>
      obtain ⟨s, t, c⟩ := found
      rw [ending_of_found hfound] at h
      cases htype : c.dataType with
      | none => simp [htype] at h
      | some declared => exact ⟨declared, typeOf_of_type (he.trans hfound) htype⟩

end Database

/-- **Types are found reference by reference**, on every definition and for every column.  Following
references ends or comes back before there are more of them than columns.  A column that is found
with a type has it; one that is found with a reference has the type that the values of the column it
refers to are kept in, or none if that column has none.  Where references end, the type or the lack
of one is what is found there, and exactly where they come back a circle is reported, through a
column that they come back to. -/
theorem types_follow_references (db : Database) (k : Database.ColumnKey) :
    ((∃ n ≤ db.columnKeys.length, ∃ last, db.EndsAt k n last) ∨
      ∃ m n again, m < n ∧ n ≤ db.columnKeys.length ∧ db.follow? k m = some again ∧
        db.follow? k n = some again) ∧
    (∀ s t c, db.findColumn? k.schema k.table k.column = some (s, t, c) →
      (∀ type, c.dataType = some type → db.typeOf k = .ok type) ∧
      ∀ fk, c.dataType = none → c.foreignKey = some fk →
        let target : Database.ColumnKey :=
          ⟨fk.schema.getD s.name, fk.table, fk.column.getD c.name⟩
        (∀ type, db.typeOf target = .ok type →
          db.typeOf k = .ok (Sql.TypeName.storage type)) ∧
        ∀ e, db.typeOf target = .error e → ∃ e', db.typeOf k = .error e') ∧
    (∀ n last, db.EndsAt k n last → db.typeOf k = db.ending k (n == 0) last) ∧
    ((∃ object through, db.typeOf k =
        .error (.definition object (.circularReference through))) ↔
      ∃ again, db.ComesBack k again) ∧
    ∀ object through, db.typeOf k =
        .error (.definition object (.circularReference through)) →
      object = k.address ∧ ∃ again, db.ComesBack k again ∧ through = again.address := by
  refine ⟨db.ends_or_comesBack k, fun s t c hfound => ⟨fun type htype => ?_, ?_⟩,
    fun n last h => Database.typeOf_of_endsAt h, Database.typeOf_circular_iff, ?_⟩
  · exact Database.typeOf_of_type hfound htype
  · intro fk htype hfk
    have hnext : db.typeTarget? k = some (Database.ColumnKey.target s c fk) := by
      rw [Database.typeTarget?_of_found hfound, htype, hfk]
    exact ⟨fun type h => Database.typeOf_of_target_ok hnext h,
      fun e h => Database.typeOf_of_target_error hnext h⟩
  · intro object through h
    obtain ⟨again, hback⟩ := Database.typeOf_circular_iff.1 ⟨object, through, h⟩
    obtain ⟨again, hback, he⟩ := Database.typeOf_of_endless fun n last hlast =>
      hlast.not_comesBack again hback
    cases he.symm.trans h
    exact ⟨rfl, again, hback, rfl⟩

/-! ### A guild -/

/-- A hall is looked after by a craft. -/
def Guild.crafts : Table where
  name := "crafts"
  columns := [{ name := "hall", foreignKey := some { table := "halls", column := some "id" } }]

/-- A tool is kept in the hall of the masons, who are a craft. -/
def Guild.tools : Table where
  name := "tools"
  columns := [{ name := "hall", foreignKey := some { table := "masons" } }]

/-- A guild in which the key of a door hangs behind the door. -/
def Guild.schema : Schema where
  name := "guild"
  tables := [
    { name := "halls", columns := [{ name := "id", dataType := some "bigserial" }] },
    Guild.crafts, { name := "masons", inherits := some { table := "crafts" } }, Guild.tools,
    { name := "keys"
      columns := [
        { name := "door", foreignKey := some { table := "doors", column := some "key" } }] },
    { name := "doors"
      columns := [
        { name := "key", foreignKey := some { table := "keys", column := some "door" } }] }]

/-- The definition of the guild. -/
def Guild.tree : Database where
  schemas := [Guild.schema]

theorem types_follow_references_of_guild :
    Guild.tree.typeOf ⟨"guild", "tools", "hall"⟩ = .ok "bigint" ∧
      Guild.tree.ComesBack ⟨"guild", "keys", "door"⟩ ⟨"guild", "keys", "door"⟩ ∧
      ∃ object through, Guild.tree.typeOf ⟨"guild", "keys", "door"⟩ =
        .error (.definition object (.circularReference through)) := by
  have hfound : Guild.tree.findColumn? "guild" "tools" "hall" =
      some (Guild.schema, Guild.tools,
        { name := "hall", foreignKey := some { table := "masons" } }) := by
    decide +kernel
  have hmasons : Guild.tree.typeOf ⟨"guild", "masons", "hall"⟩ = .ok "bigint" := by
    decide +kernel
  have hback : Guild.tree.ComesBack ⟨"guild", "keys", "door"⟩ ⟨"guild", "keys", "door"⟩ :=
    ⟨0, 2, by decide, rfl, by decide +kernel⟩
  have htools := ((types_follow_references Guild.tree ⟨"guild", "tools", "hall"⟩).2.1 _ _ _
    hfound).2 _ rfl rfl
  refine ⟨(htools.1 _ hmasons).trans (by decide +kernel), hback, ?_⟩
  exact (types_follow_references Guild.tree ⟨"guild", "keys", "door"⟩).2.2.2.1.2 ⟨_, hback⟩

end SchemaPlan
