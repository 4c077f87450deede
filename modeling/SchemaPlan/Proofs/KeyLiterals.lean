import SchemaPlan.Proofs.Resolution
import SchemaPlan.Proofs.RowKeys

/-!
# Row identity and key literals

Rows are told apart twice: by what their key cells count as, when they are matched, and by the
literals that these cells are written as, when a statement reaches the database.  A cell counts as
its text, whatever the type of its column and whether or not the text is an expression, but a
literal depends on both.

What a cell says is an expression or a text (`Cell.Content`); a null is the expression `NULL`.  An
expression is written as it reads.  A text is written bare if its type has a bare form for it, as a
truth value or a number, and between quotes otherwise, and what is between quotes is never bare
(`textLiteral_eq_iff`).  So two cells are confused (`Confusable`) in three ways: two texts have the
same bare form, a text that is written otherwise than it reads counts as an expression, or it is
written as one that it does not count as.  Where that is not the case, to count as the same and to
be written the same are the same (`identity_literal_iff`), and so for the keys of rows
(`identities_agree_with_literals`).

Validation looks at texts alone.  It passes two rows whose keys are written the same, and refuses
two whose keys are not (`keys_told_by_text`).
-/

namespace SchemaPlan

namespace Sql

open SchemaPlan.Text

/-! ### Texts between quotes -/

theorem doubled_injective (q : Char) : Function.Injective (doubled q) := by
  intro cs
  induction cs with
  | nil =>
    intro ds he
    cases ds with
    | nil => rfl
    | cons d ds =>
      rw [doubled, doubled] at he
      split at he <;> cases he
  | cons c cs ih =>
    intro ds he
    cases ds with
    | nil =>
      rw [doubled, doubled] at he
      split at he <;> cases he
    | cons d ds =>
      have hhead : c = d := by
        rw [doubled, doubled] at he
        split at he <;> split at he <;> exact (List.cons.inj he).1
      subst hhead
      rw [doubled, doubled] at he
      split at he
      · rw [ih (List.cons.inj (List.cons.inj he).2).2]
      · rw [ih (List.cons.inj he).2]

theorem toList_quotedText (s : String) :
    (quotedText s).toList = '\x27' :: (doubled '\x27' s.toList ++ ['\x27']) := by
  simp [quotedText, escapeQuotes]

/-- Quotes do not hide what is between them. -/
theorem quotedText_injective : Function.Injective quotedText := by
  intro a b he
  have hlists := congrArg String.toList he
  rw [toList_quotedText, toList_quotedText, List.cons.injEq] at hlists
  exact String.toList_inj.1 (doubled_injective _ (List.append_cancel_right hlists.2))

theorem quote_mem_quotedText (s : String) : '\x27' ∈ (quotedText s).toList := by
  rw [toList_quotedText]
  exact List.mem_cons_self

/-! ### Bare texts -/

/-- The bare form of a text in a type that is not an array, given by its normal form: a truth value,
or a number without the blanks at its ends. -/
def bareScalar? (base value : String) : Option String :=
  if base == "boolean" then
    if trueWords.contains (asciiLowercase value) then some "TRUE"
    else if falseWords.contains (asciiLowercase value) then some "FALSE"
    else none
  else if numericTypes.contains base && isNumeric value then some (trimmed value)
  else none

/-- The bare form of a text in a type, if it has one there. -/
def bare? (dataType value : String) : Option String :=
  let normal := (TypeName.normalize dataType).toList
  if normal.contains '[' then none
  else bareScalar? (trimmed (String.ofList (normal.takeWhile (!TypeName.opensModifiers ·)))) value

/-- How a text is written in a column of a type. -/
def textLiteral (dataType value : String) : String :=
  (bare? dataType value).getD (quotedText value)

theorem scalarLiteral_eq (base value : String) :
    scalarLiteral base value = (bareScalar? base value).getD (quotedText value) := by
  unfold scalarLiteral bareScalar?
  dsimp only
  split
  · split
    · rfl
    · split <;> rfl
  · split <;> rfl

theorem quote_notMem_of_isDecimal {cs : List Char} (h : isDecimal cs = true) : '\x27' ∉ cs := by
  intro hquote
  simp only [isDecimal, Bool.and_eq_true, List.all_eq_true] at h
  exact absurd (h.1.2 _ hquote) (by decide)

theorem quote_notMem_of_isNumeric {s : String} (h : isNumeric s = true) :
    '\x27' ∉ (trimmed s).toList := by
  rw [trimmed, String.toList_ofList]
  unfold isNumeric at h
  split at h
  next cs hcs =>
    rw [hcs, List.mem_cons, not_or]
    exact ⟨by decide, quote_notMem_of_isDecimal h⟩
  next cs hcs =>
    rw [hcs, List.mem_cons, not_or]
    exact ⟨by decide, quote_notMem_of_isDecimal h⟩
  next => exact quote_notMem_of_isDecimal h

/-- There are no quotes in what is bare. -/
theorem quote_notMem_of_bare? {dataType value bare : String}
    (h : bare? dataType value = some bare) : '\x27' ∉ bare.toList := by
  unfold bare? at h
  dsimp only at h
  split at h
  · cases h
  · unfold bareScalar? at h
    split at h
    · split at h
      · cases h
        decide
      · split at h
        · cases h
          decide
        · cases h
    · split at h
      next hnumeric =>
        rw [Bool.and_eq_true] at hnumeric
        rw [← Option.some.inj h]
        exact quote_notMem_of_isNumeric hnumeric.2
      next => cases h

/-- Two texts are spellings of one truth value or number. -/
def Respelled (dataType a b : String) : Prop :=
  ∃ bare, bare? dataType a = some bare ∧ bare? dataType b = some bare

/-- **Two texts are written the same only if they are respellings of one value**, unless they are
the same. -/
theorem textLiteral_eq_iff {dataType a b : String} :
    textLiteral dataType a = textLiteral dataType b ↔ a = b ∨ Respelled dataType a b := by
  have hquoted : ∀ {bare s : String}, '\x27' ∉ bare.toList → bare ≠ quotedText s := by
    rintro _ s hbare rfl
    exact hbare (quote_mem_quotedText s)
  constructor
  · intro he
    unfold textLiteral at he
    cases ha : bare? dataType a with
    | some bare =>
      cases hb : bare? dataType b with
      | some other =>
        rw [ha, hb, Option.getD_some, Option.getD_some] at he
        exact .inr ⟨bare, ha, he ▸ hb⟩
      | none =>
        rw [ha, hb, Option.getD_some, Option.getD_none] at he
        exact absurd he (hquoted (quote_notMem_of_bare? ha))
    | none =>
      cases hb : bare? dataType b with
      | some other =>
        rw [ha, hb, Option.getD_none, Option.getD_some] at he
        exact absurd he.symm (hquoted (quote_notMem_of_bare? hb))
      | none =>
        rw [ha, hb, Option.getD_none, Option.getD_none] at he
        exact .inl (quotedText_injective he)
  · rintro (rfl | ⟨bare, ha, hb⟩)
    · rfl
    · rw [textLiteral, textLiteral, ha, hb, Option.getD_some, Option.getD_some]

theorem textLiteral_empty (dataType : String) : textLiteral dataType "" = "''" := by
  have hscalar : ∀ base, bareScalar? base "" = none := by
    intro base
    have htrue : asciiLowercase "" ∉ trueWords := by decide
    have hfalse : asciiLowercase "" ∉ falseWords := by decide
    have hnumeric : isNumeric "" = false := by decide
    simp [bareScalar?, hnumeric, htrue, hfalse]
  have hbare : bare? dataType "" = none := by
    simp [bare?, hscalar]
  rw [textLiteral, hbare, Option.getD_none]
  decide

end Sql

namespace Cell

/-! ### What a cell says -/

/-- An expression, or a text that stands for itself. -/
inductive Content where
  | expression (sql : String)
  | text (value : String)
deriving DecidableEq

/-- What a cell says; nothing is said by a null. -/
def content (cell : Cell) : Content :=
  if cell.null then .expression "NULL"
  else if cell.empty then .text ""
  else match cell.value with
    | none => .expression "NULL"
    | some value => if cell.sql then .expression value else .text value

/-- The cell is given: it says something, if only that there is nothing. -/
def Given (cell : Cell) : Prop :=
  (cell.null || cell.empty || cell.value.isSome) = true

/-- How something reads. -/
def Content.written : Content → String
  | .expression sql => sql
  | .text value => value

/-- How something is written in a column of a type. -/
def Content.literal (dataType : String) : Content → String
  | .expression sql => sql
  | .text value => Sql.textLiteral dataType value

theorem identity_eq_written (cell : Cell) : cell.identity = cell.content.written := by
  unfold identity content
  split
  · rfl
  · split
    · rfl
    · cases cell.value with
      | none => rfl
      | some value =>
        dsimp only
        split <;> rfl

theorem literal_eq_content (dataType : String) (cell : Cell) :
    Sql.literal dataType cell = cell.content.literal dataType := by
  unfold Sql.literal content
  split
  · rfl
  · split
    · exact (Sql.textLiteral_empty dataType).symm
    · cases cell.value with
      | none => rfl
      | some value =>
        dsimp only
        split
        · rfl
        · rw [Content.literal, Sql.textLiteral, Sql.bare?]
          split
          · rfl
          · exact Sql.scalarLiteral_eq _ _

/-- The expression is what a text counts as or what it is written as, and the text is not written as
it reads. -/
def Content.Mistaken (dataType sql value : String) : Prop :=
  (sql = value ∨ sql = Sql.textLiteral dataType value) ∧ Sql.textLiteral dataType value ≠ value

/-- Two cells that are written the same do not count as the same, or the other way round. -/
def Content.Confusable (dataType : String) : Content → Content → Prop
  | .expression _, .expression _ => False
  | .expression sql, .text value => Mistaken dataType sql value
  | .text value, .expression sql => Mistaken dataType sql value
  | .text a, .text b => a ≠ b ∧ Sql.Respelled dataType a b

theorem Content.written_literal_iff {dataType : String} {a b : Content} :
    (a.written = b.written ↔ a.literal dataType = b.literal dataType) ↔
      ¬ Confusable dataType a b := by
  cases a with
  | expression e =>
    cases b with
    | expression e' => simp [written, literal, Confusable]
    | text s =>
      simp only [written, literal, Confusable, Mistaken]
      grind
  | text s =>
    cases b with
    | expression e =>
      simp only [written, literal, Confusable, Mistaken]
      grind
    | text s' =>
      simp only [written, literal, Confusable, Sql.textLiteral_eq_iff]
      tauto

/-- **To count as the same and to be written the same** are the same of two cells that are not
confused. -/
theorem identity_literal_iff {dataType : String} {a b : Cell} :
    (a.identity = b.identity ↔ Sql.literal dataType a = Sql.literal dataType b) ↔
      ¬ a.content.Confusable dataType b.content := by
  rw [identity_eq_written, identity_eq_written, literal_eq_content, literal_eq_content,
    Content.written_literal_iff]

end Cell

namespace StaticRows

/-! ### Key cells of two rows -/

/-- The cell of a row in a column. -/
def cell (s : StaticRows) (row : Row) (column : String) : Cell :=
  ((s.place? column).bind row.cell?).getD {}

/-- The row has its key cells, and they are given. -/
def KeyGiven (s : StaticRows) (row : Row) : Prop :=
  ∀ column ∈ s.table.primaryKey, ∃ cell, (s.place? column).bind row.cell? = some cell ∧ cell.Given

/-- The type of a column of the rows. -/
abbrev columnType (s : StaticRows) (column : String) : Except SchemaError String :=
  s.db.columnType s.schema s.table.name column

/-- The keys of both have columns of the same types, place by place. -/
def SameKeyTypes (s o : StaticRows) : Prop :=
  List.Forall₂ (fun column other => ∃ type otherType, s.columnType column = .ok type ∧
    o.columnType other = .ok otherType ∧ Sql.TypeName.same type otherType = true)
    s.table.primaryKey o.table.primaryKey

/-- The cells of two rows, in a column of each, are confused. -/
def ConfusesAt (s o : StaticRows) (a b : Row) (column other : String) : Prop :=
  ∃ type, s.columnType column = .ok type ∧
    (s.cell a column).content.Confusable type (o.cell b other).content

/-- Rows with the same values in their key columns have cells there that are confused. -/
def ApartUnlessConfused (s : StaticRows) : Prop :=
  s.present.Pairwise fun a b => s.KeyGiven a → s.KeyGiven b →
    (∀ column ∈ s.table.primaryKey, s.value a column = s.value b column) →
      ∃ column ∈ s.table.primaryKey, s.ConfusesAt s a b column column

/-- Two rows have values in their key columns, which are the same where the cells are not
confused. -/
def AlikeUnlessConfused (s o : StaticRows) (a b : Row) : Prop :=
  List.Forall₂ (fun column other => ∃ value otherValue, s.value a column = .ok value ∧
    o.value b other = .ok otherValue ∧
    (value = otherValue ↔ ¬ s.ConfusesAt o a b column other))
    s.table.primaryKey o.table.primaryKey

section Compared

variable {s o : StaticRows} {a b : Row} {column other : String}

theorem value_of_given {cell : Cell} {type : String}
    (hcell : (s.place? column).bind a.cell? = some cell) (hgiven : cell.Given)
    (htype : s.columnType column = .ok type) :
    s.value a column = .ok (Sql.literal type cell) := by
  have hfilter : (some cell).filter (fun c => c.null || c.empty || c.value.isSome) = some cell := by
    rw [Option.filter_some]
    exact if_pos hgiven
  unfold columnType at htype
  rw [value, hcell, literal, hfilter]
  dsimp only
  rw [htype]
  rfl

theorem literal_congr {type otherType : String} (h : Sql.TypeName.same type otherType = true)
    (cell : Cell) : Sql.literal type cell = Sql.literal otherType cell := by
  have hnormal : Sql.TypeName.normalize type = Sql.TypeName.normalize otherType := by
    simpa [Sql.TypeName.same] using h
  simp only [Sql.literal, hnormal]

/-- **Rows are compared in a column of each**: both have a value there, and their cells agree in
what they count as exactly where the values agree, unless they are confused. -/
theorem exists_values (ha : s.KeyGiven a) (hb : o.KeyGiven b)
    (hcolumn : column ∈ s.table.primaryKey) (hother : other ∈ o.table.primaryKey)
    {type otherType : String} (htype : s.columnType column = .ok type)
    (hotherType : o.columnType other = .ok otherType)
    (hsame : Sql.TypeName.same type otherType = true) :
    ∃ value otherValue, s.value a column = .ok value ∧ o.value b other = .ok otherValue ∧
      ((s.cellText a column = o.cellText b other ↔ value = otherValue) ↔
        ¬ s.ConfusesAt o a b column other) := by
  obtain ⟨cell, hcell, hgiven⟩ := ha column hcolumn
  obtain ⟨otherCell, hotherCell, hotherGiven⟩ := hb other hother
  refine ⟨_, _, value_of_given hcell hgiven htype,
    value_of_given hotherCell hotherGiven hotherType, ?_⟩
  have hconfuses : s.ConfusesAt o a b column other ↔
      cell.content.Confusable type otherCell.content := by
    rw [ConfusesAt, StaticRows.cell, StaticRows.cell, hcell, hotherCell]
    constructor
    · rintro ⟨type', htype', hconfused⟩
      rw [Except.ok.inj (htype.symm.trans htype')]
      exact hconfused
    · exact fun hconfused => ⟨type, htype, hconfused⟩
  rw [cellText, cellText, hcell, hotherCell, ← literal_congr hsame, hconfuses]
  exact Cell.identity_literal_iff

/-- Rows that count as the same have the same key values, unless cells are confused. -/
theorem alikeUnlessConfused (htypes : s.SameKeyTypes o) (ha : s.KeyGiven a) (hb : o.KeyGiven b)
    (htexts : s.table.primaryKey.map (s.cellText a) = o.table.primaryKey.map (o.cellText b)) :
    s.AlikeUnlessConfused o a b := by
  rw [← List.forall₂_eq_eq_eq, List.forall₂_map_left_iff, List.forall₂_map_right_iff,
    List.forall₂_iff_zip] at htexts
  refine List.forall₂_iff_zip.2 ⟨htexts.1, fun {column other} hpair => ?_⟩
  obtain ⟨type, otherType, htype, hotherType, hsame⟩ := (List.forall₂_iff_zip.1 htypes).2 hpair
  obtain ⟨hcolumn, hother⟩ := List.of_mem_zip hpair
  obtain ⟨value, otherValue, hvalue, hotherValue, hiff⟩ :=
    exists_values ha hb hcolumn hother htype hotherType hsame
  exact ⟨value, otherValue, hvalue, hotherValue, by rw [← hiff, iff_true_left (htexts.2 hpair)]⟩

end Compared

section Valid

variable {db : Database} {item : Schema × Table} {s : StaticRows}

/-- The key columns of a valid definition have types. -/
theorem exists_keyType (h : db.validate = .ok ()) (hm : item ∈ db.tables)
    (hs : ofTable db item.1.name item.2 = .ok (some s)) {column : String}
    (hcolumn : column ∈ s.table.primaryKey) : ∃ type, s.columnType column = .ok type := by
  obtain ⟨_, -, -, hdb, -, htable, -⟩ := of_ofTable hs
  rw [htable] at hcolumn
  have hcoherent := Database.coherent_of_validate h
  rw [← hdb] at hcoherent
  exact hcoherent.exists_columnType (isSome_findColumn? h hm hs (mem_columns_of_key hs hcolumn))

/-- **Rows of a valid definition have keys of their own**, unless cells are confused. -/
theorem apartUnlessConfused (h : db.validate = .ok ()) (hm : item ∈ db.tables)
    (hs : ofTable db item.1.name item.2 = .ok (some s)) : s.ApartUnlessConfused := by
  have hnodup := nodup_identities ((Database.coherent_of_validate h).table_of_mem hm) hs
  refine (List.pairwise_map.1 hnodup).imp fun {a b} hne ha hb hvalues => ?_
  by_contra hnone
  push Not at hnone
  -- Without cells that are confused, the same values make the rows count as the same.
  refine hne ?_
  obtain ⟨_, -, -, -, -, htable, -⟩ := of_ofTable hs
  rw [identity_eq hs, identity_eq hs, ← htable]
  refine List.map_congr_left fun column hcolumn => ?_
  obtain ⟨type, htype⟩ := exists_keyType h hm hs hcolumn
  obtain ⟨value, otherValue, hvalue, hotherValue, hiff⟩ :=
    exists_values ha hb hcolumn hcolumn htype htype (by simp [Sql.TypeName.same])
  have he := hvalues column hcolumn
  rw [hvalue, hotherValue] at he
  exact (hiff.2 (hnone column hcolumn)).2 (Except.ok.inj he)

end Valid

end StaticRows

/-- **Row identity agrees with key literals except where cells are confused.**  In a column of
whatever type, two other cells count as the same exactly if they are written the same.  So two rows
of a valid definition do not have one key, and rows of two versions that count as the same, under
keys of the same types, have the same key. -/
theorem identities_agree_with_literals {db db' : Database} (h : db.validate = .ok ())
    {item item' : Schema × Table} (hm : item ∈ db.tables)
    {s o : StaticRows} (hs : StaticRows.ofTable db item.1.name item.2 = .ok (some s))
    (ho : StaticRows.ofTable db' item'.1.name item'.2 = .ok (some o)) (htypes : s.SameKeyTypes o) :
    (∀ (dataType : String) (a b : Cell),
      (a.identity = b.identity ↔ Sql.literal dataType a = Sql.literal dataType b) ↔
        ¬ a.content.Confusable dataType b.content) ∧
    s.ApartUnlessConfused ∧
    ∀ a b : Row, s.identity a = o.identity b → s.KeyGiven a → o.KeyGiven b →
      s.AlikeUnlessConfused o a b := by
  refine ⟨fun _ _ _ => Cell.identity_literal_iff, StaticRows.apartUnlessConfused h hm hs,
    fun a b he ha hb => StaticRows.alikeUnlessConfused htypes ha hb ?_⟩
  obtain ⟨_, -, -, -, -, htable, -⟩ := StaticRows.of_ofTable hs
  obtain ⟨_, -, -, -, -, hotherTable, -⟩ := StaticRows.of_ofTable ho
  rw [htable, hotherTable, ← StaticRows.identity_eq hs, ← StaticRows.identity_eq ho, he]

/-! ### Flags that are told by a key -/

/-- A row with nothing but its key. -/
def Flags.row (cell : Cell) : Row where
  cells := [cell]

/-- Flags with a key of some type. -/
def Flags.table (dataType : String) (keys : List Cell) : Table where
  name := "flags"
  primaryKey := ["key"]
  columns := [{ name := "key", dataType := some dataType, nullable := false }]
  rows := some { columns := ["key"], rows := keys.map Flags.row }

/-- The schema of the flags. -/
def Flags.schema (dataType : String) (keys : List Cell) : Schema where
  name := "app"
  tables := [Flags.table dataType keys]

/-- A definition with flags. -/
def Flags.of (dataType : String) (keys : List Cell) : Database where
  schemas := [Flags.schema dataType keys]

/-- The table of the flags, with its schema. -/
def Flags.item (dataType : String) (keys : List Cell) : Schema × Table :=
  (Flags.schema dataType keys, Flags.table dataType keys)

/-- The rows of the flags. -/
def Flags.rows (dataType : String) (keys : List Cell) : StaticRows where
  db := Flags.of dataType keys
  schema := "app"
  table := Flags.table dataType keys
  columns := ["key"]
  rows := keys.map Flags.row
  keyPlaces := [0]

/-- A text. -/
def Flags.text (value : String) : Cell where
  value := some value

/-- The keys of two flags. -/
def Flags.keys : List Cell :=
  [Flags.text "dark", Flags.text "wide"]

/-- Flags under texts have keys of their own, and the same ones in another spelling of the type. -/
theorem identities_agree_with_literals_of_flags :
    (Flags.rows "varchar(20)" Flags.keys).ApartUnlessConfused ∧
      (Flags.rows "varchar(20)" Flags.keys).AlikeUnlessConfused
        (Flags.rows "character varying (20)" Flags.keys)
        (Flags.row (Flags.text "dark")) (Flags.row (Flags.text "dark")) := by
  have htypes : (Flags.rows "varchar(20)" Flags.keys).SameKeyTypes
      (Flags.rows "character varying (20)" Flags.keys) :=
    .cons ⟨"varchar(20)", "character varying (20)", by decide +kernel, by decide +kernel,
      by decide +kernel⟩ .nil
  have hgiven : ∀ dataType,
      (Flags.rows dataType Flags.keys).KeyGiven (Flags.row (Flags.text "dark")) := by
    intro dataType column hcolumn
    obtain rfl := List.mem_singleton.1 hcolumn
    exact ⟨_, rfl, rfl⟩
  have hrows : ∀ dataType, StaticRows.ofTable (Flags.of dataType Flags.keys)
      (Flags.item dataType Flags.keys).1.name (Flags.item dataType Flags.keys).2 =
        .ok (some (Flags.rows dataType Flags.keys)) :=
    fun _ => rfl
  have hm : Flags.item "varchar(20)" Flags.keys ∈ (Flags.of "varchar(20)" Flags.keys).tables :=
    List.mem_cons_self
  obtain ⟨-, hapart, halike⟩ := identities_agree_with_literals (by decide +kernel) hm
    (hrows "varchar(20)") (hrows "character varying (20)") htypes
  exact ⟨hapart, halike _ _ rfl (hgiven _) (hgiven _)⟩

/-- **Validation tells keys by their texts.**  It passes two flags that are both written `TRUE`, and
refuses a text and an expression that are not written the same. -/
theorem keys_told_by_text :
    ((Flags.of "boolean" [Flags.text "t", Flags.text "true"]).validate = .ok () ∧
      (Flags.text "t").identity ≠ (Flags.text "true").identity ∧
      Sql.literal "boolean" (Flags.text "t") = Sql.literal "boolean" (Flags.text "true")) ∧
    ((Flags.of "text" [Flags.text "now", { value := some "now", sql := true }]).validate =
        .error (.definition "app.flags" (.duplicateKey ["now"])) ∧
      Sql.literal "text" (Flags.text "now") ≠
        Sql.literal "text" { value := some "now", sql := true }) := by
  decide +kernel

end SchemaPlan
