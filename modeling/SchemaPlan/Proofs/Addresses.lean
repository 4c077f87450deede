import SchemaPlan.Plan.Basic
import SchemaPlan.Proofs.Identifiers
import SchemaPlan.Proofs.KeyLiterals
import SchemaPlan.Proofs.TableConstraints
import SchemaPlan.Sql.Render

/-!
# Addresses in statements

An operation carries the object that it works on in one of two ways (`Op.Carried`): by its schema and
its name, or by an address, in which both stand with a point between.  An address is taken apart again
before it is written, at its first point.

Whoever reads the statement finds the two names of the object behind the words that the statement
begins with (`Op.named?`).  They are those of the object that the operation carries
(`named?_of_carried`).  Of an object carried by its address that is the object the address was made
for exactly if there is no point in the name of its schema (`splitQualified_qualified_iff`); else it
is another one.  So operations agree on an object, however they carry it, and tell it from others,
for schemas without a point in their names (`addresses_name_objects`).

Validation does not ask for that.  The statement that drops one table may drop another one
(`address_mistaken`).
-/

namespace SchemaPlan

namespace Sql

/-! ### Taking addresses apart -/

/-- An address is cut at its first point, wherever that is. -/
theorem exists_cut_qualified (schema name : String) : ∃ front back,
    splitQualified (qualified schema name) = (String.ofList front, String.ofList back) ∧
      schema.toList ++ '.' :: name.toList = front ++ '.' :: back ∧ '.' ∉ front := by
  have htext : (qualified schema name).toList = schema.toList ++ '.' :: name.toList := by
    simp [qualified]
  have hpoint : '.' ∈ schema.toList ++ '.' :: name.toList := by simp
  obtain ⟨front, back, hcut, hfront⟩ := List.eq_append_cons_of_mem hpoint
  refine ⟨front, back, ?_, hcut, hfront⟩
  rw [splitQualified, htext, hcut, Text.cutAt?_append hfront]

/-- **An address is taken apart into what it was made of** exactly if the schema has no point in its
name. -/
theorem splitQualified_qualified_iff {schema name : String} :
    splitQualified (qualified schema name) = (schema, name) ↔ '.' ∉ schema.toList := by
  refine ⟨fun he => ?_, splitQualified_qualified⟩
  obtain ⟨front, back, hsplit, -, hfront⟩ := exists_cut_qualified schema name
  rw [he, Prod.mk.injEq] at hsplit
  rw [hsplit.1, String.toList_ofList]
  exact hfront

/-- Nothing is lost when an address is taken apart. -/
theorem qualified_splitQualified (schema name : String) :
    qualified (splitQualified (qualified schema name)).1
      (splitQualified (qualified schema name)).2 = qualified schema name := by
  obtain ⟨front, back, hsplit, htext, -⟩ := exists_cut_qualified schema name
  rw [hsplit, ← String.toList_inj]
  simp [qualified, htext]

theorem address_eq (style : Style) (address : String) : style.address address =
    style.object (splitQualified address).1 (splitQualified address).2 :=
  rfl

theorem address_qualified_iff (style : Style) {schema name : String} :
    style.address (qualified schema name) = style.object schema name ↔ '.' ∉ schema.toList := by
  rw [address_eq, object_inj, ← @splitQualified_qualified_iff schema name, Prod.ext_iff]

theorem address_qualified_inj (style : Style) {schema name schema' name' : String} :
    style.address (qualified schema name) = style.address (qualified schema' name') ↔
      qualified schema name = qualified schema' name' := by
  refine ⟨fun he => ?_, congrArg style.address⟩
  rw [address_eq, address_eq, object_inj] at he
  rw [← qualified_splitQualified schema name, ← qualified_splitQualified schema' name', he.1, he.2]

end Sql

open Sql

/-! ### The objects of operations -/

/-- How an operation carries the object that it works on. -/
inductive Op.Carried where
  | address (a : String)
  | parts (schema name : String)
deriving DecidableEq

/-- The schema and the name of an object, however it is carried. -/
def Op.Carried.object : Op.Carried → String × String
  | .address a => splitQualified a
  | .parts schema name => (schema, name)

/-- How the object is carried that somebody owns or has privileges on, unless it is a schema. -/
def ObjectRef.carried? (o : ObjectRef) : Option Op.Carried :=
  match o.kind with
  | .schema => none
  | .table | .sequence | .function | .view | .type => some (.address o.name)

/-- How the object is carried that a comment is about, unless it is a schema. -/
def CommentTarget.carried? : CommentTarget → Option Op.Carried
  | .schema _ => none
  | .table address | .view address | .column address _ => some (.address address)

/-- How the object is written, as it is carried. -/
def Op.Carried.text (style : Style) : Op.Carried → String
  | .address a => style.address a
  | .parts schema name => style.object schema name

/-- How the object that an operation works on is carried, unless it is a schema; that of a trigger, a
constraint or rows is the table. -/
def Op.carried? : Op → Option Op.Carried
  | .comment _ | .customSql _ | .createSchema _ | .dropSchema _ => none
  | .createType schema t => some (.parts schema t.name)
  | .createSequence schema s => some (.parts schema s.name)
  | .createFunction schema f _ => some (.parts schema f.name)
  | .addConstraint c => some (.parts c.schema c.table)
  | .dropIndex schema name => some (.parts schema name)
  | .createTrigger schema t => some (.parts schema t.table)
  | .createView schema v => some (.parts schema v.name)
  | .dropType address _ | .addEnumValue address _ _ | .alterDomain address _
  | .alterSequence address _ | .dropSequence address | .setSerialValue address _ _
  | .dropFunction address _ | .createTable address _ _ | .dropTable address
  | .setTableSchema address _ | .renameTable address _ | .addColumn address _
  | .dropColumn address _ | .renameColumn address _ _ | .alterColumn address _ _
  | .backfillColumn address _ _ | .dropConstraint address _ | .createIndex address _
  | .setCluster address _ | .dropTrigger address _ | .dropView address | .insertRow address _ _
  | .updateRow address _ _ _ | .deleteRow address _ => some (.address address)
  | .alterOwner object _ | .grant object _ _ _ | .revoke object _ _ => object.carried?
  | .setComment target _ => target.carried?

/-! ### Reading the object off a statement -/

/-- The word in front of an object that privileges are given on. -/
def ObjectKind.word : ObjectKind → String
  | .schema => "SCHEMA "
  | .table | .view => "TABLE "
  | .sequence => "SEQUENCE "
  | .function => "FUNCTION "
  | .type => "TYPE "

/-- The word in front of an object that has an owner. -/
def ObjectKind.ownedWord : ObjectKind → String
  | .view => "VIEW "
  | kind => kind.word

/-- The word in front of an object that is commented on. -/
def CommentTarget.word : CommentTarget → String
  | .schema _ => "SCHEMA "
  | .table _ => "TABLE "
  | .view _ => "VIEW "
  | .column _ _ => "COLUMN "

/-- What the statement of an operation begins with, up to its object. -/
def Op.lead (style : Style) : Op → String
  | .comment _ | .customSql _ | .createSchema _ | .dropSchema _ => ""
  | .createType _ t =>
    match t.body with
    | .enum _ | .composite _ => "CREATE TYPE "
    | .domain _ _ _ _ => "CREATE DOMAIN "
  | .dropType _ domain => if domain then "DROP DOMAIN " else "DROP TYPE "
  | .addEnumValue _ _ _ => "ALTER TYPE "
  | .alterDomain _ _ => "ALTER DOMAIN "
  | .createSequence _ _ => "CREATE SEQUENCE "
  | .alterSequence _ _ => "ALTER SEQUENCE "
  | .dropSequence _ => "DROP SEQUENCE IF EXISTS "
  | .setSerialValue _ _ _ => "SELECT setval(pg_get_serial_sequence('"
  | .createFunction _ _ replace =>
    if replace then "CREATE OR REPLACE FUNCTION " else "CREATE FUNCTION "
  | .dropFunction _ _ => "DROP FUNCTION "
  | .createTable _ _ _ => "CREATE TABLE "
  | .dropTable _ => "DROP TABLE "
  | .setTableSchema _ _ | .renameTable _ _ | .addColumn _ _ | .dropColumn _ _
  | .renameColumn _ _ _ | .alterColumn _ _ _ | .addConstraint _ | .dropConstraint _ _
  | .setCluster _ _ => "ALTER TABLE "
  | .backfillColumn _ _ _ | .updateRow _ _ _ _ => "UPDATE "
  | .createIndex _ i =>
    "CREATE " ++ (if i.unique then "UNIQUE " else "") ++ "INDEX " ++ style.ident i.name ++ " ON "
  | .dropIndex _ _ => "DROP INDEX "
  | .createTrigger _ t =>
    "CREATE TRIGGER " ++ style.ident t.name ++ " " ++ Style.triggerTiming t.timing ++ " " ++
      String.intercalate " OR " (t.events.map Style.triggerEvent) ++ " ON "
  | .dropTrigger _ name => "DROP TRIGGER " ++ style.ident name ++ " ON "
  | .createView _ _ => "CREATE VIEW "
  | .dropView _ => "DROP VIEW "
  | .alterOwner object _ => "ALTER " ++ object.kind.ownedWord
  | .grant object _ operations _ => "GRANT " ++ commas operations ++ " ON " ++ object.kind.word
  | .revoke object _ operations => "REVOKE " ++ commas operations ++ " ON " ++ object.kind.word
  | .setComment target _ => "COMMENT ON " ++ target.word
  | .insertRow _ _ _ => "INSERT INTO "
  | .deleteRow _ _ => "DELETE FROM "

/-- The schema and the name of the object that an operation's statement works on, as they are read
there. -/
def Op.named? (style : Style) (op : Op) : Option (String × String) :=
  let text := (op.sql style).toList.drop (op.lead style).length
  match op with
  | .setSerialValue _ _ _ => do
    -- the table of a counter stands between quotes
    let (address, _) ← readQuoted '\x27' text
    let (object, _) ← readObject? address
    return object
  | _ => (readObject? text).map (·.1)

/-! ### Statements put their objects up front -/

theorem Op.Carried.text_eq (style : Style) (carried : Op.Carried) :
    carried.text style = style.object carried.object.1 carried.object.2 := by
  cases carried with
  | address a => exact address_eq style a
  | parts schema name => rfl

theorem endsIdent_of_head {c : Char} {rest : List Char} (h : rest.head? = some c)
    (hc : c ≠ '\x22' ∧ isWordChar c = false) : EndsIdent rest := by
  intro d hd
  rw [Option.mem_def, h] at hd
  cases hd
  exact hc

instance (rest : List Char) : Decidable (EndsIdent rest) :=
  match rest with
  | [] => isTrue endsIdent_nil
  | c :: rest =>
    decidable_of_iff (c ≠ '\x22' ∧ isWordChar c = false)
      ⟨endsIdent_cons rest, fun h => h c rfl⟩

/-- A text begins with another one, and does not go on with an identifier at its end. -/
def Keeps (front s : String) : Prop :=
  ∃ tail : String, EndsIdent tail.toList ∧ s = front ++ tail

/-- The same, and the text goes on. -/
def Begins (front s : String) : Prop :=
  ∃ tail : String, tail ≠ "" ∧ EndsIdent tail.toList ∧ s = front ++ tail

section Begins

variable {front s t : String}

theorem keeps_refl (s : String) : Keeps s s :=
  ⟨"", endsIdent_nil, String.append_empty.symm⟩

theorem begins_append (front : String) (hne : t ≠ "") (ht : EndsIdent t.toList) :
    Begins front (front ++ t) :=
  ⟨t, hne, ht, rfl⟩

theorem endsIdent_append (hs : EndsIdent s.toList) (ht : s = "" → EndsIdent t.toList) :
    EndsIdent (s ++ t).toList := by
  rw [String.toList_append]
  cases he : s.toList with
  | nil => exact ht (String.toList_eq_nil_iff.1 he)
  | cons c cs =>
    rw [he] at hs
    exact endsIdent_of_head rfl (hs c rfl)

theorem Begins.keeps (h : Begins front s) : Keeps front s := by
  obtain ⟨tail, -, hends, he⟩ := h
  exact ⟨tail, hends, he⟩

/-- Once a text goes on, it may go on with anything. -/
theorem Begins.append (h : Begins front s) (t : String) : Begins front (s ++ t) := by
  obtain ⟨tail, hne, hends, rfl⟩ := h
  refine ⟨tail ++ t, ?_, endsIdent_append hends fun he => absurd he hne, String.append_assoc⟩
  exact fun he => hne (String.append_eq_empty_iff.1 he).1

theorem Keeps.append (h : Keeps front s) (ht : EndsIdent t.toList) : Keeps front (s ++ t) := by
  obtain ⟨tail, hends, rfl⟩ := h
  exact ⟨tail ++ t, endsIdent_append hends fun _ => ht, String.append_assoc⟩

theorem Keeps.begins (h : Keeps front s) (hne : t ≠ "") (ht : EndsIdent t.toList) :
    Begins front (s ++ t) := by
  obtain ⟨tail, hends, rfl⟩ := h
  refine ⟨tail ++ t, ?_, endsIdent_append hends fun _ => ht, String.append_assoc⟩
  exact fun he => hne (String.append_eq_empty_iff.1 he).2

theorem Keeps.prepend (h : Keeps front s) (p : String) : Keeps (p ++ front) (p ++ s) := by
  obtain ⟨tail, hends, rfl⟩ := h
  exact ⟨tail, hends, String.append_assoc.symm⟩

end Begins

theorem endsIdent_clause {keyword : String} (hkeyword : keyword ≠ "")
    (h : EndsIdent keyword.toList) (s : Option String) : EndsIdent (clause keyword s).toList := by
  cases s with
  | none => exact endsIdent_nil
  | some s => exact endsIdent_append h fun he => absurd he hkeyword

theorem endsIdent_bound (keyword : String) (b : Option (Option Int)) :
    EndsIdent (Style.bound keyword b).toList := by
  cases b with
  | none => exact endsIdent_nil
  | some b =>
    cases b with
    | none => exact endsIdent_append (by decide) fun he => absurd he (by decide)
    | some n =>
      refine endsIdent_of_head (c := ' ') ?_ (by decide)
      simp [Style.bound]

theorem keeps_createSequence (style : Style) (schema : String) (s : Sequence) :
    Keeps ("CREATE SEQUENCE " ++ style.object schema s.name) (style.createSequence schema s) := by
  refine (((((((keeps_refl _).append ?_).append ?_).append ?_).append ?_).append ?_).append
    ?_).append (by decide)
  · exact endsIdent_clause (by decide) (by decide) _
  · exact endsIdent_clause (by decide) (by decide) _
  · exact endsIdent_clause (by decide) (by decide) _
  · exact endsIdent_clause (by decide) (by decide) _
  · cases s.cycle <;> decide
  · exact endsIdent_clause (by decide) (by decide) _

theorem keeps_alterSequence (style : Style) (address : String) (c : SequenceChanges) :
    Keeps ("ALTER SEQUENCE " ++ style.address address) (style.alterSequence address c) := by
  refine ((((((((keeps_refl _).append ?_).append ?_).append ?_).append ?_).append ?_).append
    ?_).append ?_).append (by decide)
  · exact endsIdent_clause (by decide) (by decide) _
  · exact endsIdent_clause (by decide) (by decide) _
  · exact endsIdent_bound _ _
  · exact endsIdent_bound _ _
  · exact endsIdent_clause (by decide) (by decide) _
  · cases c.cycle with
    | none => exact endsIdent_nil
    | some cycle => cases cycle <;> decide
  · cases c.ownedBy with
    | none => exact endsIdent_nil
    | some owner =>
      cases owner with
      | none => exact endsIdent_of_head (c := ' ') (by simp) (by decide)
      | some owner => exact endsIdent_of_head (c := ' ') (by simp) (by decide)

theorem keeps_createType (style : Style) (schema : String) (t : TypeDef) :
    Keeps ((Op.createType schema t).lead style ++ style.object schema t.name)
      (style.createType schema t) := by
  obtain ⟨name, owner, body⟩ := t
  cases body with
  | enum values =>
    exact (((begins_append _ (by decide) (by decide)).append _).append _).keeps
  | composite fields =>
    exact (((begins_append _ (by decide) (by decide)).append _).append _).keeps
  | domain baseType default? nullable checks =>
    exact ((((((begins_append _ (by decide) (by decide)).append _).append _).append _).append
      _).append _).keeps

theorem keeps_createTable (style : Style) (address : String) (columns : List ColumnDef)
    (inherits : Option String) : Keeps ("CREATE TABLE " ++ style.address address)
      (style.createTable address columns inherits) := by
  refine ((((keeps_refl _).begins ?_ ?_).append _).append _).keeps
  · cases columns <;> simp
  · cases columns with
    | nil => exact endsIdent_of_head (c := ' ') (by simp) (by decide)
    | cons column columns => exact endsIdent_of_head (c := ' ') (by simp) (by decide)

theorem keeps_privilegeTarget (style : Style) {o : ObjectRef} {carried : Op.Carried}
    (h : o.carried? = some carried) :
    Keeps (o.kind.word ++ carried.text style) (style.privilegeTarget o) := by
  obtain ⟨kind, name, args⟩ := o
  cases kind with
  | schema => cases h
  | table => cases h; exact keeps_refl _
  | sequence => cases h; exact keeps_refl _
  | function =>
    cases h
    exact (((begins_append _ (by decide) (by decide)).append _).append _).keeps
  | view => cases h; exact keeps_refl _
  | type => cases h; exact keeps_refl _

theorem keeps_ownedTarget (style : Style) {o : ObjectRef} {carried : Op.Carried}
    (h : o.carried? = some carried) :
    Keeps (o.kind.ownedWord ++ carried.text style) (style.ownedTarget o) := by
  have htarget := keeps_privilegeTarget style h
  obtain ⟨kind, name, args⟩ := o
  cases kind with
  | view => cases h; exact keeps_refl _
  | schema => exact htarget
  | table => exact htarget
  | sequence => exact htarget
  | function => exact htarget
  | type => exact htarget

theorem keeps_commentTarget (style : Style) {target : CommentTarget} {carried : Op.Carried}
    (h : target.carried? = some carried) :
    Keeps (target.word ++ carried.text style) (style.commentTarget target) := by
  cases target with
  | schema name => cases h
  | table address => cases h; exact keeps_refl _
  | column table column => cases h; exact ((begins_append _ (by decide) (by decide)).append _).keeps
  | view address => cases h; exact keeps_refl _

/-- **A statement names its object first**, behind what it begins with; the statement for the next
value of a column has it between quotes. -/
theorem keeps_sql (style : Style) {op : Op} {carried : Op.Carried}
    (h : op.carried? = some carried) (hserial : ∀ table column value,
      op ≠ .setSerialValue table column value) :
    Keeps (op.lead style ++ carried.text style) (op.sql style) := by
  cases op with
  | comment text => cases h
  | customSql text => cases h
  | createSchema name => cases h
  | dropSchema name => cases h
  | createType schema t => cases h; exact keeps_createType style schema t
  | dropType address domain => cases h; exact (begins_append _ (by decide) (by decide)).keeps
  | addEnumValue address value position =>
    cases h
    exact (((begins_append _ (by decide) (by decide)).append _).append _ |>.append _).keeps
  | alterDomain address change =>
    cases h
    exact (((begins_append _ (by decide) (by decide)).append _).append _).keeps
  | createSequence schema s => cases h; exact keeps_createSequence style schema s
  | alterSequence address changes => cases h; exact keeps_alterSequence style address changes
  | dropSequence address => cases h; exact (begins_append _ (by decide) (by decide)).keeps
  | setSerialValue table column value => exact absurd rfl (hserial table column value)
  | createFunction schema f replace =>
    cases h
    exact ((((((((((begins_append _ (by decide) (by decide)).append _).append _).append _).append
      _).append _).append _).append _).append _).append _ |>.append _).keeps
  | dropFunction address args =>
    cases h
    exact (((begins_append _ (by decide) (by decide)).append _).append _).keeps
  | createTable address columns inherits =>
    cases h
    exact keeps_createTable style address columns inherits
  | dropTable address => cases h; exact (begins_append _ (by decide) (by decide)).keeps
  | setTableSchema address schema =>
    cases h
    exact (((begins_append _ (by decide) (by decide)).append _).append _).keeps
  | renameTable address name =>
    cases h
    exact (((begins_append _ (by decide) (by decide)).append _).append _).keeps
  | addColumn address column =>
    cases h
    exact (((begins_append _ (by decide) (by decide)).append _).append _).keeps
  | dropColumn address column =>
    cases h
    exact (((begins_append _ (by decide) (by decide)).append _).append _).keeps
  | renameColumn address old new =>
    cases h
    exact (((((begins_append _ (by decide) (by decide)).append _).append _).append _).append
      _).keeps
  | alterColumn address column change =>
    cases h
    exact (((((begins_append _ (by decide) (by decide)).append _).append _).append _).append
      _).keeps
  | backfillColumn address column value =>
    cases h
    exact (((((((begins_append _ (by decide) (by decide)).append _).append _).append _).append
      _).append _).append _).keeps
  | addConstraint c =>
    cases h
    exact (((((((((begins_append _ (by decide) (by decide)).append _).append _).append _).append
      _).append _).append _).append _).append _).keeps
  | dropConstraint address name =>
    cases h
    exact (((begins_append _ (by decide) (by decide)).append _).append _).keeps
  | createIndex address index =>
    cases h
    have husing := @endsIdent_clause " USING " (by decide) (by decide) index.method
    exact ((((((keeps_refl _).append husing).begins (by decide) (by decide)).append _).append
      _).append _ |>.append _).keeps
  | dropIndex schema name => cases h; exact (begins_append _ (by decide) (by decide)).keeps
  | setCluster address index =>
    cases h
    refine ((begins_append _ ?_ ?_).append _).keeps
    · cases index <;> simp
    · cases index <;> exact endsIdent_of_head (c := ' ') (by simp) (by decide)
  | createTrigger schema t =>
    cases h
    refine (((((begins_append _ ?_ ?_).append _).append _).append _).append _).keeps
    · cases t.forEach <;> decide
    · cases t.forEach <;> decide
  | dropTrigger address name => cases h; exact (begins_append _ (by decide) (by decide)).keeps
  | createView schema v =>
    cases h
    exact (((begins_append _ (by decide) (by decide)).append _).append _).keeps
  | dropView address => cases h; exact (begins_append _ (by decide) (by decide)).keeps
  | alterOwner object owner =>
    rw [show (Op.alterOwner object owner).lead style = "ALTER " ++ object.kind.ownedWord from rfl,
      String.append_assoc]
    exact ((((keeps_ownedTarget style h).prepend _).begins (by decide) (by decide)).append _
      |>.append _).keeps
  | grant object roles operations withGrantOption =>
    rw [show (Op.grant object roles operations withGrantOption).lead style =
      "GRANT " ++ commas operations ++ " ON " ++ object.kind.word from rfl, String.append_assoc]
    exact ((((keeps_privilegeTarget style h).prepend _).begins (by decide) (by decide)).append _
      |>.append _ |>.append _).keeps
  | revoke object roles operations =>
    rw [show (Op.revoke object roles operations).lead style =
      "REVOKE " ++ commas operations ++ " ON " ++ object.kind.word from rfl, String.append_assoc]
    exact ((((keeps_privilegeTarget style h).prepend _).begins (by decide) (by decide)).append _
      |>.append _).keeps
  | setComment target text =>
    rw [show (Op.setComment target text).lead style = "COMMENT ON " ++ target.word from rfl,
      String.append_assoc]
    exact ((((keeps_commentTarget style h).prepend _).begins (by decide) (by decide)).append _
      |>.append _).keeps
  | insertRow address columns values =>
    cases h
    exact (((((begins_append _ (by decide) (by decide)).append _).append _).append _).append
      _).keeps
  | updateRow address assignments key previous =>
    cases h
    exact ((((((begins_append _ (by decide) (by decide)).append _).append _).append _).append
      _).append _).keeps
  | deleteRow address key =>
    cases h
    exact (((begins_append _ (by decide) (by decide)).append _).append _).keeps

/-! ### Reading statements -/

theorem named?_eq (style : Style) {op : Op} (hserial : ∀ table column value,
    op ≠ .setSerialValue table column value) : op.named? style =
      (readObject? ((op.sql style).toList.drop (op.lead style).length)).map (·.1) := by
  unfold Op.named?
  split
  next table column value => exact absurd rfl (hserial table column value)
  next => rfl

theorem named?_setSerialValue (style : Style) (table column : String) (value : SerialValue) :
    (Op.setSerialValue table column value).named? style = some (splitQualified table) := by
  have hcolumn : (quotedText column).toList.head? = some '\x27' := by
    rw [toList_quotedText, List.head?_cons]
  have hne : quotedText column ≠ "" := by
    intro he
    rw [he] at hcolumn
    cases hcolumn
  have hbegins : Begins
      ("SELECT setval(pg_get_serial_sequence(" ++ quotedText (style.address table) ++ ", ")
      ((Op.setSerialValue table column value).sql style) :=
    (((begins_append _ hne (endsIdent_of_head hcolumn (by decide))).append _).append _).append _
  obtain ⟨tail, -, -, hsql⟩ := hbegins
  have hlead : ((Op.setSerialValue table column value).lead style).toList =
      "SELECT setval(pg_get_serial_sequence(".toList ++ ['\x27'] := by
    show "SELECT setval(pg_get_serial_sequence('".toList = _
    decide
  have htext : ((Op.setSerialValue table column value).sql style).toList =
      ((Op.setSerialValue table column value).lead style).toList ++
        (Text.doubled '\x27' (style.address table).toList ++ '\x27' :: (", " ++ tail).toList) := by
    rw [hsql, hlead]
    simp only [String.toList_append, toList_quotedText, List.append_assoc, List.cons_append,
      List.nil_append]
  have hcomma : (", " ++ tail).toList.head? ≠ some '\x27' := by simp
  have hread := readObject?_object style (splitQualified table).1 (splitQualified table).2
    endsIdent_nil
  rw [List.append_nil, ← address_eq] at hread
  unfold Op.named?
  dsimp only
  rw [htext, ← String.length_toList, List.drop_left, readQuoted_doubled hcomma]
  simp [hread]

/-- **The object that an operation carries is read in its statement.** -/
theorem named?_of_carried (style : Style) {op : Op} {carried : Op.Carried}
    (h : op.carried? = some carried) : op.named? style = some carried.object := by
  by_cases hserial : ∃ table column value, op = .setSerialValue table column value
  · obtain ⟨table, column, value, rfl⟩ := hserial
    cases h
    exact named?_setSerialValue style table column value
  · simp only [not_exists] at hserial
    obtain ⟨tail, htail, hsql⟩ := keeps_sql style h hserial
    rw [named?_eq style hserial, hsql, carried.text_eq, String.append_assoc, String.toList_append,
      String.toList_append, ← String.length_toList, List.drop_left, readObject?_object _ _ _ htail]
    rfl

theorem dropTable_sql_inj (style : Style) {address address' : String} :
    (Op.dropTable address).sql style = (Op.dropTable address').sql style ↔
      style.address address = style.address address' := by
  show "DROP TABLE " ++ style.address address ++ ";" =
    "DROP TABLE " ++ style.address address' ++ ";" ↔ _
  rw [← String.toList_inj, ← String.toList_inj]
  simp

/-- **Addresses name their objects** as long as the schema has no point in its name, and only then.  An
object that an operation carries by its schema and name is read in the statement as that one; one
carried by its address exactly if there is no such point.  The statements that drop two tables are the
same exactly if their addresses are, and of two tables in schemas without points if they are one
table. -/
theorem addresses_name_objects (style : Style) (schema name : String) :
    (style.address (qualified schema name) = style.object schema name ↔ '.' ∉ schema.toList) ∧
      (∀ op : Op, op.carried? = some (.parts schema name) →
        op.named? style = some (schema, name)) ∧
      (∀ op : Op, op.carried? = some (.address (qualified schema name)) →
        (op.named? style = some (schema, name) ↔ '.' ∉ schema.toList)) ∧
      ∀ schema' name',
        ((Op.dropTable (qualified schema name)).sql style =
            (Op.dropTable (qualified schema' name')).sql style ↔
          qualified schema name = qualified schema' name') ∧
        ('.' ∉ schema.toList → '.' ∉ schema'.toList →
          ((Op.dropTable (qualified schema name)).sql style =
              (Op.dropTable (qualified schema' name')).sql style ↔
            (schema, name) = (schema', name'))) := by
  refine ⟨address_qualified_iff style, fun op h => named?_of_carried style h, fun op h => ?_,
    fun schema' name' => ?_⟩
  · rw [named?_of_carried style h, Option.some.injEq]
    exact splitQualified_qualified_iff
  · rw [dropTable_sql_inj, address_qualified_inj]
    exact ⟨Iff.rfl, fun h h' => qualified_inj h h'⟩

/-! ### Addresses with more than one point -/

attribute [local instance] QueryReader.blank

/-- A table with a number. -/
def Regions.table (name : String) : Table where
  name
  columns := [{ name := "id", dataType := some "integer" }]

/-- A table in a schema, and perhaps a table in another one whose name goes on with a point. -/
def Regions.of (western : List Table) : Database where
  schemas := [
    { name := "eu", tables := [Regions.table "west.sales"] },
    { name := "eu.west", tables := western }]

/-- The condition that the numbers of a table are positive. -/
def Regions.positive (schema table : String) : Constraint where
  name := "positive"
  schema
  table
  kind := .check
  definition := "(id > 0)"

/-- A table with a point in its own name is one thing for all operations, and is not taken for the
table of another schema. -/
theorem addresses_name_objects_of_regions :
    (Op.addConstraint (Regions.positive "eu" "west.sales")).named? {} = some ("eu", "west.sales") ∧
      (Op.dropColumn "eu.west.sales" "id").named? {} = some ("eu", "west.sales") ∧
      (Op.dropTable "eu.west.sales").sql {} ≠ (Op.dropTable "us.west.sales").sql {} := by
  obtain ⟨-, hparts, haddress, hdrop⟩ := addresses_name_objects {} "eu" "west.sales"
  refine ⟨hparts _ rfl, (haddress _ rfl).2 (by decide), fun he => ?_⟩
  have hsame := ((hdrop "us" "west.sales").2 (by decide) (by decide)).1 he
  exact absurd hsame (by decide)

/-- **A table is dropped instead of another one.**  Its schema has a point in its name, and the other
table, which stays, has one in its own: they have the same address. -/
theorem address_mistaken :
    (Regions.of [Regions.table "sales"]).validate = .ok () ∧ (Regions.of []).validate = .ok () ∧
      plan (some (Regions.of [Regions.table "sales"])) (Regions.of []) {} {} =
        .ok [⟨.stage3, .dropTable (qualified "eu.west" "sales")⟩] ∧
      (Op.dropTable (qualified "eu.west" "sales")).sql {} = "DROP TABLE eu.\"west.sales\";" ∧
      (Op.dropTable (qualified "eu.west" "sales")).named? {} = some ("eu", "west.sales") ∧
      Style.address {} (qualified "eu.west" "sales") ≠ Style.object {} "eu.west" "sales" ∧
      (Op.dropTable (qualified "eu.west" "sales")).sql {} =
        (Op.dropTable (qualified "eu" "west.sales")).sql {} := by
  decide +kernel

end SchemaPlan
