import SchemaPlan.Proofs.Sameness
import SchemaPlan.Proofs.StringLiterals
import SchemaPlan.Proofs.TypeChanges

/-!
# Changes inside strings

Whether a piece of SQL has changed is decided by its normal form, whichever slot of a definition it
stands in (`Slot`), and a normal form makes no exception for strings.  A string that changes stays
unseen exactly if the normal form of what it says is the same: if only blanks in a row become more or
fewer or other ones, and in an expression also blanks inside parentheses or the case of what follows two
colons.  Everything else about strings is seen, as long as no comment ends with its line
(`strings_compared`).

`string_change_missed` has a default that becomes another value and stays what it was.
-/

namespace SchemaPlan

open Sql Text

/-! ### Ends -/

theorem isMark_ne_semicolon {m : Char} (hm : isMark m = true) : (m == ';') = false :=
  beq_false_of_ne (ne_of_isMark hm (by decide))

/-- A function on texts works at their ends: what stands between two marks stays as it is, whatever it
is. -/
def KeepsBetween (f : List Char → List Char) : Prop :=
  ∀ m, isMark m = true → ∀ before after, ∃ front back, ∀ x,
    f (before ++ m :: (x ++ m :: after)) = front ++ m :: (x ++ m :: back)

theorem KeepsBetween.comp {f g : List Char → List Char} (hf : KeepsBetween f)
    (hg : KeepsBetween g) : KeepsBetween (f ∘ g) := by
  intro m hm before after
  obtain ⟨front, back, hinner⟩ := hg m hm before after
  obtain ⟨front', back', houter⟩ := hf m hm front back
  refine ⟨front', back', fun x => ?_⟩
  rw [Function.comp, hinner, houter]

section Cuts

variable {p : Char → Bool} (hp : ∀ m, isMark m = true → p m = false)

include hp

theorem dropWhile_append_mark {m : Char} (hm : isMark m = true) (x y : List Char) :
    (x ++ m :: y).dropWhile p = x.dropWhile p ++ m :: y := by
  rw [List.dropWhile_append]
  split
  next hnil =>
    rw [List.isEmpty_iff.1 hnil, List.dropWhile_cons, hp m hm]
    rfl
  next => rfl

theorem keepsBetween_dropWhile : KeepsBetween (List.dropWhile p) :=
  fun _ hm before after => ⟨before.dropWhile p, after, fun _ => dropWhile_append_mark hp hm before _⟩

theorem keepsBetween_dropEndWhile : KeepsBetween (dropEndWhile p) := by
  intro m hm before after
  refine ⟨before, dropEndWhile p after, fun x => ?_⟩
  have hreverse : (before ++ m :: (x ++ m :: after)).reverse =
      after.reverse ++ m :: (before ++ m :: x).reverse := by simp
  rw [dropEndWhile, hreverse, dropWhile_append_mark hp hm]
  simp [dropEndWhile]

end Cuts

theorem keepsBetween_strip : KeepsBetween (stripWhile isBlank) :=
  have hblank : ∀ m, isMark m = true → isBlank m = false := fun _ => isBlank_of_isMark
  (keepsBetween_dropEndWhile hblank).comp (keepsBetween_dropWhile hblank)

/-! ### Normal forms -/

/-- The ways in which pieces of SQL are compared: as expressions, as bodies of functions, and as
queries of views. -/
inductive Reading where
  | expression
  | body
  | query

/-- Two pieces of SQL count as the same. -/
def Reading.Same : Reading → String → String → Prop
  | .expression, a, b => sameExpression a b = true
  | .body, a, b => normalizeSpace a = normalizeSpace b
  | .query, a, b =>
    let stripped (s : String) := String.ofList (dropEndWhile (· == ';') (stripWhile isBlank s.toList))
    normalizeSpace (stripped a) = normalizeSpace (stripped b)

/-- The normal form of a text, its ends aside. -/
def Reading.form : Reading → List Char → List Char
  | .expression => expressionForm
  | .body => collapse
  | .query => collapse

/-- A text without what does not count at its ends. -/
def Reading.trimmed : Reading → List Char → List Char
  | .expression, cs => stripWhile isBlank cs
  | .body, cs => stripWhile isBlank cs
  | .query, cs => stripWhile isBlank (dropEndWhile (· == ';') (stripWhile isBlank cs))

/-- The normal form of a piece of SQL. -/
def Reading.normal (r : Reading) (s : String) : String :=
  String.ofList (r.form (r.trimmed s.toList))

/-- What a text says in its strings, as it is written. -/
def strings (s : String) : List (List Char) :=
  (pieces .gap s.toList).filterMap Piece.string?

/-- A text has a comment that ends with its line. -/
def HasLineComment (s : String) : Prop :=
  .lineComment ∈ pieces .gap s.toList

namespace Reading

theorem same_iff (r : Reading) (a b : String) : r.Same a b ↔ r.normal a = r.normal b := by
  cases r with
  | expression =>
    show sameExpression a b = true ↔ _
    rw [sameExpression, beq_iff_eq, normalizeExpression_eq, normalizeExpression_eq]
    rfl
  | body => exact Iff.rfl
  | query =>
    simp only [Same, normalizeSpace, String.toList_ofList]
    rfl

theorem sparesMarks_form (r : Reading) : SparesMarks r.form := by
  cases r with
  | expression => exact sparesMarks_expressionForm
  | body => exact sparesMarks_collapse
  | query => exact sparesMarks_collapse

theorem pieces_trimmed (r : Reading) (cs : List Char) :
    pieces .gap (r.trimmed cs) = pieces .gap cs := by
  cases r with
  | expression => exact pieces_stripWhile cs
  | body => exact pieces_stripWhile cs
  | query =>
    rw [trimmed, pieces_stripWhile, pieces_dropEndWhile fun _ => isMark_ne_semicolon,
      pieces_stripWhile]

/-- **Texts with one normal form have the same strings**, up to their normal forms. -/
theorem strings_of_normal_eq (r : Reading) {a b : String} (ha : ¬HasLineComment a)
    (hb : ¬HasLineComment b) (h : r.normal a = r.normal b) :
    (strings a).map r.form = (strings b).map r.form := by
  have hform : ∀ {s : String}, ¬HasLineComment s →
      pieces .gap (r.form (r.trimmed s.toList)) = (pieces .gap s.toList).map (Piece.map r.form) := by
    intro s hs
    have hs' : Piece.lineComment ∉ pieces .gap (r.trimmed s.toList) := by rwa [r.pieces_trimmed]
    rw [r.sparesMarks_form.pieces_eq _ _ hs', r.pieces_trimmed]
  have hstrings : ∀ {s : String}, ¬HasLineComment s → (strings s).map r.form =
      (pieces .gap (r.normal s).toList).filterMap Piece.string? := by
    intro s hs
    rw [normal, String.toList_ofList, hform hs, strings, List.map_filterMap, List.filterMap_map]
    refine List.filterMap_congr fun piece _ => ?_
    cases piece <;> rfl
  rw [hstrings ha, hstrings hb, h]

theorem keepsBetween_trimmed (r : Reading) : KeepsBetween r.trimmed := by
  cases r with
  | expression => exact keepsBetween_strip
  | body => exact keepsBetween_strip
  | query =>
    have hcut := keepsBetween_dropEndWhile (p := (· == ';')) fun _ => isMark_ne_semicolon
    exact keepsBetween_strip.comp (hcut.comp keepsBetween_strip)

/-- **What changes between two marks** is seen exactly if its normal form changes. -/
theorem normal_between_eq_iff (r : Reading) {m : Char} (hm : isMark m = true)
    (before after x y : List Char) :
    r.normal (String.ofList (before ++ m :: (x ++ m :: after))) =
      r.normal (String.ofList (before ++ m :: (y ++ m :: after))) ↔ r.form x = r.form y := by
  obtain ⟨front, back, htrimmed⟩ := r.keepsBetween_trimmed m hm before after
  have hnormal : ∀ x, r.normal (String.ofList (before ++ m :: (x ++ m :: after))) =
      String.ofList (r.form front ++ m :: (r.form x ++ m :: r.form back)) := by
    intro x
    rw [normal, String.toList_ofList, htrimmed, r.sparesMarks_form.mark _ _ _ hm,
      r.sparesMarks_form.mark _ _ _ hm]
  rw [hnormal, hnormal, String.ofList_inj, List.append_cancel_left_eq, List.cons_inj_right,
    List.append_cancel_right_eq]

end Reading

/-! ### Slots -/

/-- A definition with a view among others that has this query. -/
def withQuery (before : List Schema) (schema : Schema) (earlier : List View) (view : View)
    (later : List View) (after : List Schema) (query : String) : Database where
  schemas := before ++ { schema with views := earlier ++ { view with query } :: later } :: after

/-- The slots of a definition that hold pieces of SQL, each with what stands around it. -/
inductive Slot where
  | columnDefault (address : String) (previous col : Column)
  | domainDefault (baseType : String) (nullable : Bool) (checks : List DomainCheck)
  | domainCheck (baseType : String) (default? : Option String) (nullable : Bool) (name : String)
      (before after : List DomainCheck) (distinct : ∀ c ∈ before ++ after, c.name ≠ name)
  | constraint (k : Constraint)
  | indexDimension (i : Index) (before after : List String)
  | indexPredicate (i : Index)
  | triggerCondition (t : Trigger)
  | functionBody (f : Routine)
  | viewQuery (before : List Schema) (schema : Schema) (earlier : List View) (view : View)
      (later : List View) (after : List Schema)
      (distinct : (withQuery before schema earlier view later after "").viewKeys.Nodup)

/-- The way in which pieces of SQL are compared in a slot. -/
def Slot.reading : Slot → Reading
  | .functionBody _ => .body
  | .viewQuery .. => .query
  | _ => .expression

/-- A piece of SQL is taken for another in a slot: nothing else is different, and there is no
difference, or nothing to be done. -/
def Slot.Unchanged : Slot → String → String → Prop
  | .columnDefault address previous col, a, b =>
    Comparison.alterDefault address { previous with default? := some a }
      { col with default? := some b } = {}
  | .domainDefault baseType nullable checks, a, b =>
    domainChanges? (.domain baseType (some a) nullable checks)
      (.domain baseType (some b) nullable checks) = some []
  | .domainCheck baseType default? nullable name before after _, a, b =>
    domainChanges? (.domain baseType default? nullable (before ++ ⟨name, a⟩ :: after))
      (.domain baseType default? nullable (before ++ ⟨name, b⟩ :: after)) = some []
  | .constraint k, a, b => Constraint.same { k with definition := a } { k with definition := b } = true
  | .indexDimension i before after, a, b =>
    Index.same { i with dimensions := before ++ a :: after }
      { i with dimensions := before ++ b :: after } = true
  | .indexPredicate i, a, b =>
    Index.same { i with predicate := some a } { i with predicate := some b } = true
  | .triggerCondition t, a, b =>
    Trigger.same { t with when? := some a } { t with when? := some b } = true
  | .functionBody f, a, b =>
    Routine.same { f with definition := a } { f with definition := b } = true
  | .viewQuery before schema earlier view later after _, a, b =>
    viewsDiffer (withQuery before schema earlier view later after a)
      (withQuery before schema earlier view later after b) = false

theorem sameDimensions_between (before after : List String) (a b : String) :
    sameDimensions (before ++ a :: after) (before ++ b :: after) = sameExpression a b := by
  induction before with
  | nil => rw [List.nil_append, List.nil_append, sameDimensions, sameDimensions_refl, Bool.and_true]
  | cons d before ih =>
    rw [List.cons_append, List.cons_append, sameDimensions, sameExpression_refl, ih, Bool.true_and]

theorem domainChanges?_eq_nil_iff {baseType : String} {default? default?' : Option String}
    {nullable : Bool} {checks checks' : List DomainCheck} :
    domainChanges? (.domain baseType default? nullable checks)
      (.domain baseType default?' nullable checks') = some [] ↔
      sameExpression? default? default?' = true ∧
        (∀ c ∈ checks, hasCheck checks' c = true) ∧ ∀ c ∈ checks', hasCheck checks c = true := by
  simp only [domainChanges?, TypeName.same_refl, Option.some.injEq, beq_self_eq_true, if_true,
    List.append_nil, List.append_eq_nil_iff, List.map_eq_nil_iff, List.filter_eq_nil_iff,
    Bool.not_eq_true', Bool.not_eq_false, and_assoc]
  refine and_congr_left fun _ => ?_
  split
  next h => exact iff_of_true rfl h
  next h => exact iff_of_false (List.cons_ne_nil _ _) h

/-- Checks are among those with another definition of one of them exactly if that has the same normal
form. -/
theorem forall_hasCheck_between_iff {name : String} {before after : List DomainCheck}
    (distinct : ∀ c ∈ before ++ after, c.name ≠ name) (a b : String) :
    (∀ c ∈ before ++ ⟨name, b⟩ :: after, hasCheck (before ++ ⟨name, a⟩ :: after) c = true) ↔
      sameExpression a b = true := by
  constructor
  · intro h
    obtain ⟨c, hc, hname, hsame⟩ :=
      hasCheck_iff.1 (h ⟨name, b⟩ (List.mem_append_right _ List.mem_cons_self))
    rcases List.mem_append.1 hc with hc | hc
    · exact absurd hname (distinct c (List.mem_append_left _ hc))
    rcases List.mem_cons.1 hc with rfl | hc
    · exact hsame
    · exact absurd hname (distinct c (List.mem_append_right _ hc))
  · intro hsame c hc
    have hmem : c ∈ before ++ after → hasCheck (before ++ ⟨name, a⟩ :: after) c = true := fun hc =>
      hasCheck_of_mem ((List.mem_append.1 hc).elim (List.mem_append_left _)
        fun hc => List.mem_append_right _ (List.mem_cons_of_mem _ hc))
    rcases List.mem_append.1 hc with hc | hc
    · exact hmem (List.mem_append_left _ hc)
    rcases List.mem_cons.1 hc with rfl | hc
    · exact hasCheck_iff.2 ⟨⟨name, a⟩, List.mem_append_right _ List.mem_cons_self, rfl, hsame⟩
    · exact hmem (List.mem_append_right _ hc)

/-- A view with what tells it apart. -/
def signedView (schema : String) (v : View) : (String × String × String) × View :=
  ((schema, v.name, Reading.query.normal v.query), v)

theorem signedViews_eq (db : Database) : db.signedViews =
    db.schemas.flatMap fun s => s.views.map (signedView s.name) := by
  simp only [Database.signedViews, normalizeSpace, String.toList_ofList]
  rfl

theorem viewKeys_eq (db : Database) :
    db.viewKeys = db.signedViews.map fun entry => (entry.1.1, entry.1.2.1) := by
  simp [Database.signedViews, Database.viewKeys, Database.views, List.map_flatMap,
    Function.comp_def]

theorem exists_signedViews_withQuery (before : List Schema) (schema : Schema) (earlier : List View)
    (view : View) (later : List View) (after : List Schema) : ∃ front back, ∀ query,
      (withQuery before schema earlier view later after query).signedViews =
        front ++ signedView schema.name { view with query } :: back := by
  refine ⟨before.flatMap (fun s => s.views.map (signedView s.name)) ++
      earlier.map (signedView schema.name),
    later.map (signedView schema.name) ++
      after.flatMap (fun s => s.views.map (signedView s.name)), fun query => ?_⟩
  rw [signedViews_eq, withQuery]
  simp only [List.flatMap_append, List.flatMap_cons, List.map_append, List.map_cons,
    List.append_assoc, List.cons_append]

/-- The query of a view is seen to change exactly if its normal form changes. -/
theorem viewsDiffer_withQuery_iff {before : List Schema} {schema : Schema} {earlier : List View}
    {view : View} {later : List View} {after : List Schema}
    (distinct : (withQuery before schema earlier view later after "").viewKeys.Nodup)
    (a b : String) : viewsDiffer (withQuery before schema earlier view later after a)
      (withQuery before schema earlier view later after b) = false ↔
        Reading.query.normal a = Reading.query.normal b := by
  obtain ⟨front, back, hviews⟩ :=
    exists_signedViews_withQuery before schema earlier view later after
  -- The names of all views are the same, whatever the query.
  have hnames : ((front ++ signedView schema.name { view with query := a } :: back).map
      fun entry => (entry.1.1, entry.1.2.1)).Nodup := by
    rw [viewKeys_eq, hviews, List.map_append, List.map_cons] at distinct
    rwa [List.map_append, List.map_cons]
  have hkeys : ((front ++ signedView schema.name { view with query := a } :: back).map
      (·.1)).Nodup := by
    refine List.Nodup.of_map (fun key => (key.1, key.2.1)) ?_
    rwa [List.map_map]
  rw [viewsDiffer_eq_false_iff, hviews, hviews]
  constructor
  · rintro ⟨-, hall⟩
    obtain ⟨o, ho, -⟩ := hall _ _ (List.mem_append_right front List.mem_cons_self)
    obtain ⟨_, _, hsplit, -⟩ := List.lookup_eq_some_iff.1 ho
    have hm : ((signedView schema.name { view with query := b }).1, o) ∈
        front ++ signedView schema.name { view with query := a } :: back := by
      rw [hsplit]
      exact List.mem_append_right _ List.mem_cons_self
    have hfound := List.inj_on_of_nodup_map hnames hm
      (List.mem_append_right front List.mem_cons_self) rfl
    have hkey := (Prod.mk.inj hfound).1
    exact (Prod.mk.inj (Prod.mk.inj hkey).2).2.symm
  · intro hsame
    refine ⟨by simp only [List.length_append, List.length_cons], fun key v hv => ?_⟩
    have hfound : ∀ {o : View},
        (key, o) ∈ front ++ signedView schema.name { view with query := a } :: back →
          (front ++ signedView schema.name { view with query := a } :: back).lookup key = some o :=
      fun ho => lookup_eq_some_of_nodup hkeys ho
    rcases List.mem_append.1 hv with hv | hv
    · exact ⟨v, hfound (List.mem_append_left _ hv), rfl, rfl, sameExpression?_refl _⟩
    rcases List.mem_cons.1 hv with hv | hv
    · obtain ⟨rfl, rfl⟩ := Prod.mk.inj hv
      rw [← hsame] at hfound ⊢
      exact ⟨_, hfound (List.mem_append_right _ List.mem_cons_self), rfl, rfl,
        sameExpression?_refl _⟩
    · exact ⟨v, hfound (List.mem_append_right _ (List.mem_cons_of_mem _ hv)), rfl, rfl,
        sameExpression?_refl _⟩

/-- **A piece of SQL is taken for another exactly if both count as the same**, in each slot. -/
theorem Slot.unchanged_iff (p : Slot) (a b : String) : p.Unchanged a b ↔ p.reading.Same a b := by
  cases p with
  | columnDefault address previous col =>
    show Comparison.alterDefault _ _ _ = _ ↔ sameExpression a b = true
    rw [Comparison.alterDefault, sameExpression?]
    split
    next hsame => exact iff_of_true rfl hsame
    next hsame =>
      refine iff_of_false (fun h => ?_) hsame
      exact absurd (congrArg Draft.stage1 h) (List.cons_ne_nil _ _)
  | domainDefault baseType nullable checks =>
    exact domainChanges?_eq_nil_iff.trans
      (and_iff_left ⟨fun _ => hasCheck_of_mem, fun _ => hasCheck_of_mem⟩)
  | domainCheck baseType default? nullable name before after distinct =>
    refine domainChanges?_eq_nil_iff.trans ?_
    rw [forall_hasCheck_between_iff distinct, forall_hasCheck_between_iff distinct]
    exact ⟨fun h => h.2.2, fun h => ⟨sameExpression?_refl _, sameExpression_symm h, h⟩⟩
  | constraint k => simp [Unchanged, Constraint.same, reading, Reading.Same]
  | indexDimension i before after =>
    simp [Unchanged, Index.same, Index.methodName, sameDimensions_between, reading, Reading.Same]
  | indexPredicate i =>
    simp [Unchanged, Index.same, Index.methodName, sameDimensions_refl, sameExpression?, reading,
      Reading.Same]
  | triggerCondition t =>
    simp [Unchanged, Trigger.same, sameExpression?, reading, Reading.Same]
  | functionBody f =>
    simp [Unchanged, Routine.same, TypeName.same_refl, reading, Reading.Same]
  | viewQuery before schema earlier view later after distinct =>
    exact (viewsDiffer_withQuery_iff distinct a b).trans (Reading.same_iff .query a b).symm

/-- **What is seen of strings.**  In each slot a piece of SQL is taken for another exactly if both count
as the same.  If no comment ends with its line, their strings have the same normal forms then, one by
one; so the strings are the same if each is its own normal form.  And if just what stands between two
quotes changes, that stays unseen exactly if its normal form does not change. -/
theorem strings_compared (p : Slot) :
    (∀ a b, p.Unchanged a b ↔ p.reading.Same a b) ∧
    (∀ a b, ¬HasLineComment a → ¬HasLineComment b → p.Unchanged a b →
      (strings a).map p.reading.form = (strings b).map p.reading.form ∧
        ((∀ x ∈ strings a ++ strings b, p.reading.form x = x) → strings a = strings b)) ∧
    ∀ before x y after : List Char,
      p.Unchanged (String.ofList (before ++ '\x27' :: (x ++ '\x27' :: after)))
        (String.ofList (before ++ '\x27' :: (y ++ '\x27' :: after))) ↔
        p.reading.form x = p.reading.form y := by
  have hnormal : ∀ a b, p.Unchanged a b ↔ p.reading.normal a = p.reading.normal b := fun a b =>
    (p.unchanged_iff a b).trans (p.reading.same_iff a b)
  refine ⟨p.unchanged_iff, fun a b ha hb hsame => ?_, fun before x y after => ?_⟩
  · have hforms := p.reading.strings_of_normal_eq ha hb ((hnormal a b).1 hsame)
    refine ⟨hforms, fun hfixed => ?_⟩
    have hkept : ∀ {xs : List (List Char)}, (∀ x ∈ xs, p.reading.form x = x) →
        xs.map p.reading.form = xs := fun h => (List.map_congr_left h).trans (List.map_id' _)
    rwa [hkept fun x hx => hfixed x (List.mem_append_left _ hx),
      hkept fun x hx => hfixed x (List.mem_append_right _ hx)] at hforms
  · rw [hnormal]
    exact p.reading.normal_between_eq_iff (by decide) before after x y

/-- Strings are read up to the quote that closes them, but not in comments. -/
example : strings "lpad('a  b', 9, E'it\\'s') /* don't */ || 'it''s'" =
    ["a  b".toList, "it\\'s".toList, "it''s".toList] := by
  decide +kernel

/-- A comment takes a string with it if the end of its line is lost. -/
example : sameExpression "1 -- one\n + length('two')" "1 -- one + length('two')" = true ∧
    strings "1 -- one\n + length('two')" = ["two".toList] ∧
    strings "1 -- one + length('two')" = [] := by
  decide +kernel

/-! ### A kiosk and its signs -/

attribute [local instance] QueryReader.blank

/-- What a sign says unless it says something else. -/
def Kiosk.message (text : String) : Column where
  name := "message"
  dataType := some "text"
  default? := some text

/-- The kiosk with its signs. -/
def Kiosk.database (text : String) : Database where
  schemas := [{ name := "kiosk", tables := [{ name := "signs", columns := [Kiosk.message text] }] }]

/-- Blanks beside a string make no difference, and the string is the same. -/
theorem strings_compared_of_kiosk :
    let slot := Slot.columnDefault "kiosk.signs" (Kiosk.message "") (Kiosk.message "")
    let old := "upper( 'open now' )"
    let new := "upper('open now')"
    (¬HasLineComment old ∧ ¬HasLineComment new ∧ slot.Unchanged old new) ∧
      strings old = strings new ∧ strings old = ["open now".toList] ∧
      ¬slot.Unchanged "'open now'" "'open today'" := by
  intro slot old new
  have hold : ¬HasLineComment old := by
    unfold HasLineComment
    decide +kernel
  have hnew : ¬HasLineComment new := by
    unfold HasLineComment
    decide +kernel
  have hfixed : ∀ x ∈ strings old ++ strings new, slot.reading.form x = x := by decide +kernel
  obtain ⟨hiff, hstrings, hbetween⟩ := strings_compared slot
  have hsame : slot.Unchanged old new :=
    (hiff old new).2 (show sameExpression old new = true by decide +kernel)
  have hchanged : slot.reading.form "open now".toList ≠ slot.reading.form "open today".toList := by
    decide +kernel
  exact ⟨⟨hold, hnew, hsame⟩, (hstrings old new hold hnew hsame).2 hfixed, by decide +kernel,
    mt (hbetween [] "open now".toList "open today".toList []).1 hchanged⟩

/-- **A string changes and stays unseen.**  Signs that said one thing with two blanks are to say it with
one, which is another text, and nothing is done about it. -/
theorem string_change_missed :
    let old := "'open  now'"
    let new := "'open now'"
    (Kiosk.database old).validate = .ok () ∧ (Kiosk.database new).validate = .ok () ∧
      sameExpression old new = true ∧
      strings old = ["open  now".toList] ∧ strings new = ["open now".toList] ∧
      plan (some (Kiosk.database old)) (Kiosk.database new) {} {} = .ok [] := by
  decide +kernel

end SchemaPlan
