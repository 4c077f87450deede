import Mathlib.Data.Nat.Init
import SchemaPlan.Sql.Expression
import SchemaPlan.Sql.Lexeme

/-!
# Marks

Where there are strings and comments in a text is decided by a few characters: quotes, and what comments
and escapes are made of.  These are its marks; of the rest only the letter in front of a string counts
(`Before`).

The normal forms under which pieces of SQL are compared know nothing of strings.  But each of the passes
that they are made of leaves marks where they are and works on what is between two marks by itself
(`SparesMarks`).
-/

namespace SchemaPlan.Sql

open SchemaPlan.Text

/-! ### Marks -/

/-- Whether a character may begin or end a string, a quoted name or a comment, or keep another from
doing so. -/
def isMark (c : Char) : Bool :=
  ['\x27', '\x22', '-', '/', '*', '\\'].contains c

/-- No character of a text is a mark. -/
def MarkFree (cs : List Char) : Prop :=
  ∀ c ∈ cs, isMark c = false

theorem markFree_nil : MarkFree [] :=
  fun _ h => absurd h List.not_mem_nil

theorem markFree_cons {c : Char} {cs : List Char} :
    MarkFree (c :: cs) ↔ isMark c = false ∧ MarkFree cs :=
  List.forall_mem_cons

theorem isMark_cases {m : Char} (h : isMark m = true) :
    m = '\x27' ∨ m = '\x22' ∨ m = '-' ∨ m = '/' ∨ m = '*' ∨ m = '\\' := by
  simpa [isMark] using h

theorem isBlank_of_isMark {m : Char} (h : isMark m = true) : isBlank m = false := by
  rcases isMark_cases h with rfl | rfl | rfl | rfl | rfl | rfl <;> decide

theorem ne_of_isMark {m c : Char} (h : isMark m = true) (hc : isMark c = false) : m ≠ c := by
  rintro rfl
  rw [h] at hc
  cases hc

theorem MarkFree.head?_ne {x : List Char} (hx : MarkFree x) {m : Char} (hm : isMark m = true) :
    x.head? ≠ some m := by
  intro hhead
  exact ne_of_isMark hm (hx m (List.mem_of_mem_head? hhead)) rfl

theorem markFree_of_forall {p : Char → Bool} (hp : ∀ m, isMark m = true → p m = false)
    {x : List Char} (hx : ∀ c ∈ x, p c = true) : MarkFree x := by
  intro c hc
  cases hm : isMark c with
  | false => rfl
  | true =>
    have hpc := hp c hm
    rw [hx c hc] at hpc
    cases hpc

/-- A text has no marks, or a first one. -/
theorem markFree_or_exists (cs : List Char) :
    MarkFree cs ∨ ∃ x m y, MarkFree x ∧ isMark m = true ∧ cs = x ++ m :: y := by
  induction cs with
  | nil => exact .inl markFree_nil
  | cons c cs ih =>
    cases hc : isMark c with
    | true => exact .inr ⟨[], c, cs, markFree_nil, hc, rfl⟩
    | false =>
      rcases ih with hfree | ⟨x, m, y, hx, hm, rfl⟩
      · exact .inl (markFree_cons.2 ⟨hc, hfree⟩)
      · exact .inr ⟨c :: x, m, y, markFree_cons.2 ⟨hc, hx⟩, hm, rfl⟩

/-- To know something of all texts it is enough to know it of texts without marks, and of a text with a
first mark if it is known of what follows. -/
theorem mark_induction {motive : List Char → Prop} (free : ∀ x, MarkFree x → motive x)
    (mark : ∀ x m y, MarkFree x → isMark m = true → motive y → motive (x ++ m :: y)) :
    ∀ cs, motive cs := by
  intro cs
  induction hn : cs.length using Nat.strongRecOn generalizing cs with
  | ind n ih =>
    rcases markFree_or_exists cs with hfree | ⟨x, m, y, hx, hm, rfl⟩
    · exact free cs hfree
    · refine mark x m y hx hm (ih y.length ?_ y rfl)
      subst hn
      simp only [List.length_append, List.length_cons]
      omega

/-! ### The letter in front of a string -/

/-- What stands right before a character: nothing that is part of a word, the letter `e` by itself, or
another word. -/
inductive Before where
  | gap
  | letter
  | word
deriving DecidableEq

/-- What stands before the character after next. -/
def Before.next (before : Before) (c : Char) : Before :=
  if isWordPart c then if before = .gap ∧ c.toLower = 'e' then .letter else .word else .gap

/-- What stands behind a text. -/
def Before.after (before : Before) (cs : List Char) : Before :=
  cs.foldl Before.next before

theorem Before.next_of_isWordPart {c : Char} (h : isWordPart c = false) (before : Before) :
    before.next c = .gap := by
  rw [next, h]
  rfl

theorem isWordPart_of_isBlank {c : Char} (h : isBlank c = true) : isWordPart c = false := by
  have hall : ∀ n ∈ [9, 10, 11, 12, 13, 0x20, 0x85, 0xA0, 0x1680, 0x2000, 0x2001, 0x2002, 0x2003,
      0x2004, 0x2005, 0x2006, 0x2007, 0x2008, 0x2009, 0x200A, 0x2028, 0x2029, 0x202F, 0x205F, 0x3000],
      isWordPart (Char.ofNat n) = false := by
    decide +kernel
  rw [← Char.ofNat_toNat c]
  refine hall _ ?_
  simp only [isBlank, Bool.or_eq_true, Bool.and_eq_true, decide_eq_true_eq, beq_iff_eq] at h
  simp only [List.mem_cons, List.not_mem_nil, or_false]
  omega

/-- Only capital letters have a lower case other than themselves. -/
theorem toLower_eq_or_mem (c : Char) : c.toLower = c ∨ c.toNat ∈ List.range' 65 26 := by
  unfold Char.toLower
  split
  next h =>
    refine .inr (List.mem_range'_1.2 ?_)
    have hlow : 65 ≤ c.val.toNat := UInt32.le_iff_toNat_le.1 h.1
    have hhigh : c.val.toNat ≤ 90 := UInt32.le_iff_toNat_le.1 h.2
    exact ⟨hlow, Nat.lt_succ_of_le hhigh⟩
  next => exact .inl rfl

theorem isMark_toLower {c : Char} (h : isMark c = false) : isMark c.toLower = false := by
  have hall : ∀ n ∈ List.range' 65 26, isMark (Char.ofNat n).toLower = false := by decide +kernel
  rcases toLower_eq_or_mem c with hc | hc
  · rwa [hc]
  · have := hall _ hc
    rwa [Char.ofNat_toNat] at this

theorem Before.next_toLower (before : Before) (c : Char) : before.next c.toLower = before.next c := by
  have hall : ∀ n ∈ List.range' 65 26, ∀ before ∈ [Before.gap, .letter, .word],
      before.next (Char.ofNat n).toLower = before.next (Char.ofNat n) := by decide +kernel
  rcases toLower_eq_or_mem c with hc | hc
  · rw [hc]
  · have := hall _ hc before (by cases before <;> decide)
    rwa [Char.ofNat_toNat] at this

/-- What stands before a character that is no part of a word does not matter behind it. -/
theorem Before.after_of_head? {cs : List Char} {c : Char} (hhead : cs.head? = some c)
    (hc : isWordPart c = false) (a b : Before) : a.after cs = b.after cs := by
  obtain ⟨cs, rfl⟩ := List.head?_eq_some_iff.1 hhead
  show (a.next c).after cs = (b.next c).after cs
  rw [next_of_isWordPart hc, next_of_isWordPart hc]

/-! ### Functions that spare marks -/

/-- A function on texts leaves marks where they are and works on what is between them by itself. -/
structure SparesMarks (f : List Char → List Char) : Prop where
  nil : f [] = []
  mark : ∀ x m y, isMark m = true → f (x ++ m :: y) = f x ++ m :: f y
  free : ∀ x, MarkFree x → MarkFree (f x)
  ne_nil : ∀ x, x ≠ [] → f x ≠ []
  after : ∀ before x, Before.after before (f x) = before.after x

theorem SparesMarks.comp {f g : List Char → List Char} (hf : SparesMarks f) (hg : SparesMarks g) :
    SparesMarks (f ∘ g) where
  nil := by rw [Function.comp, hg.nil, hf.nil]
  mark x m y hm := by simp only [Function.comp, hg.mark x m y hm, hf.mark _ _ _ hm]
  free x hx := hf.free _ (hg.free x hx)
  ne_nil x hne := hf.ne_nil _ (hg.ne_nil x hne)
  after before x := (hf.after before _).trans (hg.after before x)

theorem sparesMarks_collapse : SparesMarks collapse where
  nil := rfl
  mark x m y hm := by
    induction x with
    | nil =>
      show collapse (m :: y) = m :: collapse y
      rw [collapse, isBlank_of_isMark hm]
      rfl
    | cons c x ih =>
      have hnext : (x ++ m :: y).head?.any isBlank = x.head?.any isBlank := by
        cases x with
        | nil => exact isBlank_of_isMark hm
        | cons => rfl
      rw [List.cons_append, collapse, collapse, hnext, ih]
      split
      · split <;> rfl
      · rfl
  free x hx := by
    induction x with
    | nil => exact markFree_nil
    | cons c x ih =>
      obtain ⟨hc, hx⟩ := markFree_cons.1 hx
      rw [collapse]
      split
      · split
        · exact ih hx
        · exact markFree_cons.2 ⟨by decide, ih hx⟩
      · exact markFree_cons.2 ⟨hc, ih hx⟩
  ne_nil x hne := by
    induction x with
    | nil => exact absurd rfl hne
    | cons c x ih =>
      rw [collapse]
      split
      · split
        next hnext =>
          refine ih ?_
          rintro rfl
          cases hnext
        next => exact List.cons_ne_nil _ _
      · exact List.cons_ne_nil _ _
  after before x := by
    induction x generalizing before with
    | nil => rfl
    | cons c x ih =>
      rw [collapse]
      split
      next hblank =>
        have hc : before.next c = .gap := Before.next_of_isWordPart (isWordPart_of_isBlank hblank) _
        show _ = (before.next c).after x
        rw [hc]
        split
        next hnext =>
          obtain ⟨d, hd, hdblank⟩ := (Option.any_eq_true _ _).1 hnext
          rw [ih]
          exact Before.after_of_head? hd (isWordPart_of_isBlank hdblank) _ _
        next =>
          show (before.next ' ').after (collapse x) = _
          rw [Before.next_of_isWordPart (by decide), ih]
      next => exact ih (before.next c)

/-- What the character before is makes no difference to a cast unless it is a colon. -/
theorem lowerCasts_of_ne {prev : Option Char} (h : prev ≠ some ':') (cs : List Char) :
    lowerCasts prev false cs = lowerCasts none false cs := by
  cases cs with
  | nil => rfl
  | cons c cs =>
    have hprev : (prev == some ':') = false := beq_false_of_ne h
    simp [lowerCasts, hprev]

theorem lowerCasts_mark {m : Char} (hm : isMark m = true) (y : List Char) :
    ∀ prev inCast x, lowerCasts prev inCast (x ++ m :: y) =
      lowerCasts prev inCast x ++ m :: lowerCasts none false y := by
  intro prev inCast x
  have hfacts : isCastChar m = false ∧ m.isAlpha = false ∧ m ≠ ':' := by
    rcases isMark_cases hm with rfl | rfl | rfl | rfl | rfl | rfl <;> decide
  obtain ⟨hcast, halpha, hcolon⟩ := hfacts
  induction x generalizing prev inCast with
  | nil =>
    show lowerCasts prev inCast (m :: y) = m :: lowerCasts none false y
    rw [lowerCasts, hcast, Bool.and_false, beq_false_of_ne hcolon, Bool.false_and, Bool.false_and,
      lowerCasts_of_ne (fun h => hcolon (Option.some.inj h))]
    rfl
  | cons c x ih =>
    have hnext : (x ++ m :: y).head?.any Char.isAlpha = x.head?.any Char.isAlpha := by
      cases x with
      | nil => exact halpha
      | cons => rfl
    rw [List.cons_append, lowerCasts, lowerCasts, hnext]
    split
    · rw [ih, List.cons_append]
    · rw [ih, List.cons_append]

theorem sparesMarks_lowerCasts : SparesMarks (lowerCasts none false) where
  nil := rfl
  mark x m y hm := lowerCasts_mark hm y none false x
  free x hx := by
    generalize none = prev, false = inCast
    induction x generalizing prev inCast with
    | nil => exact markFree_nil
    | cons c x ih =>
      obtain ⟨hc, hx⟩ := markFree_cons.1 hx
      rw [lowerCasts]
      split
      · exact markFree_cons.2 ⟨isMark_toLower hc, ih hx _ _⟩
      · exact markFree_cons.2 ⟨hc, ih hx _ _⟩
  ne_nil x hne := by
    cases x with
    | nil => exact absurd rfl hne
    | cons c x => exact List.cons_ne_nil _ _
  after before x := by
    generalize none = prev, false = inCast
    induction x generalizing before prev inCast with
    | nil => rfl
    | cons c x ih =>
      rw [lowerCasts]
      split
      · exact (ih (before.next c.toLower) _ _).trans
          (congrArg (·.after x) (Before.next_toLower before c))
      · exact ih (before.next c) _ _

theorem dropAfterOpen_mark {m : Char} (hm : isMark m = true) (y : List Char) :
    ∀ afterOpen x, dropAfterOpen afterOpen (x ++ m :: y) =
      dropAfterOpen afterOpen x ++ m :: dropAfterOpen false y := by
  intro afterOpen x
  have hopen : (m == '(') = false := beq_false_of_ne (ne_of_isMark hm (by decide))
  induction x generalizing afterOpen with
  | nil =>
    show dropAfterOpen afterOpen (m :: y) = m :: dropAfterOpen false y
    rw [dropAfterOpen, isBlank_of_isMark hm, Bool.and_false, hopen]
    rfl
  | cons c x ih =>
    rw [List.cons_append, dropAfterOpen, dropAfterOpen]
    split
    · exact ih _
    · rw [ih, List.cons_append]

theorem Before.after_dropAfterOpen (x : List Char) : ∀ (before : Before) (afterOpen : Bool),
    (afterOpen = true → before = .gap) →
      before.after (dropAfterOpen afterOpen x) = before.after x := by
  induction x with
  | nil => exact fun _ _ _ => rfl
  | cons c x ih =>
    intro before afterOpen hopen
    rw [dropAfterOpen]
    split
    next hdropped =>
      obtain ⟨hafter, hblank⟩ := Bool.and_eq_true_iff.1 hdropped
      rw [hopen hafter, ih .gap true fun _ => rfl]
      exact congrArg (·.after x) (next_of_isWordPart (isWordPart_of_isBlank hblank) .gap).symm
    next =>
      refine ih (before.next c) _ fun hc => next_of_isWordPart ?_ before
      rw [eq_of_beq hc]
      decide

theorem sparesMarks_dropAfterOpen : SparesMarks (dropAfterOpen false) where
  nil := rfl
  mark x m y hm := dropAfterOpen_mark hm y false x
  free x hx := by
    generalize false = afterOpen
    induction x generalizing afterOpen with
    | nil => exact markFree_nil
    | cons c x ih =>
      obtain ⟨hc, hx⟩ := markFree_cons.1 hx
      rw [dropAfterOpen]
      split
      · exact ih hx _
      · exact markFree_cons.2 ⟨hc, ih hx _⟩
  ne_nil x hne := by
    cases x with
    | nil => exact absurd rfl hne
    | cons c x => exact List.cons_ne_nil _ _
  after before x := Before.after_dropAfterOpen x before false nofun

/-- Blanks are dropped in front of a parenthesis only, so something is there behind them. -/
theorem exists_head?_of_dropBeforeClose {cs : List Char}
    (h : (cs.dropWhile isBlank).head? == some ')') : ∃ c, cs.head? = some c ∧ isWordPart c = false := by
  cases cs with
  | nil => cases h
  | cons c cs =>
    refine ⟨c, rfl, ?_⟩
    by_cases hblank : isBlank c = true
    · exact isWordPart_of_isBlank hblank
    · rw [List.dropWhile_cons_of_neg hblank, List.head?_cons, beq_iff_eq, Option.some.injEq] at h
      rw [h]
      decide

theorem sparesMarks_dropBeforeClose : SparesMarks dropBeforeClose where
  nil := rfl
  mark x m y hm := by
    have hblank := isBlank_of_isMark hm
    induction x with
    | nil =>
      show dropBeforeClose (m :: y) = m :: dropBeforeClose y
      rw [dropBeforeClose, hblank]
      rfl
    | cons c x ih =>
      have hnext : ((x ++ m :: y).dropWhile isBlank).head? == some ')' ↔
          (x.dropWhile isBlank).head? == some ')' := by
        clear ih
        induction x with
        | nil =>
          have hclose : m ≠ ')' := ne_of_isMark hm (by decide)
          simp [hblank, hclose]
        | cons d x ih =>
          rw [List.cons_append, List.dropWhile_cons, List.dropWhile_cons]
          split
          · exact ih
          · rfl
      rw [List.cons_append, dropBeforeClose, dropBeforeClose, Bool.eq_iff_iff.2 hnext, ih]
      split <;> rfl
  free x hx := by
    induction x with
    | nil => exact markFree_nil
    | cons c x ih =>
      obtain ⟨hc, hx⟩ := markFree_cons.1 hx
      rw [dropBeforeClose]
      split
      · exact ih hx
      · exact markFree_cons.2 ⟨hc, ih hx⟩
  ne_nil x hne := by
    induction x with
    | nil => exact absurd rfl hne
    | cons c x ih =>
      rw [dropBeforeClose]
      split
      next hdropped =>
        obtain ⟨d, hd, -⟩ := exists_head?_of_dropBeforeClose (Bool.and_eq_true_iff.1 hdropped).2
        refine ih ?_
        rintro rfl
        cases hd
      next => exact List.cons_ne_nil _ _
  after before x := by
    induction x generalizing before with
    | nil => rfl
    | cons c x ih =>
      rw [dropBeforeClose]
      split
      next hdropped =>
        obtain ⟨hblank, hclose⟩ := Bool.and_eq_true_iff.1 hdropped
        obtain ⟨d, hd, hword⟩ := exists_head?_of_dropBeforeClose hclose
        rw [ih]
        exact Before.after_of_head? hd hword _ _
      next => exact ih (before.next c)

/-! ### The normal forms -/

/-- The normal form of an expression, its ends aside. -/
def expressionForm : List Char → List Char :=
  dropBeforeClose ∘ dropAfterOpen false ∘ lowerCasts none false ∘ collapse

theorem normalizeExpression_eq (s : String) :
    normalizeExpression s = String.ofList (expressionForm (stripWhile isBlank s.toList)) := by
  rw [normalizeExpression, normalizeSpace, String.toList_ofList]
  rfl

/-- **The normal form of an expression spares marks.** -/
theorem sparesMarks_expressionForm : SparesMarks expressionForm :=
  sparesMarks_dropBeforeClose.comp
    (sparesMarks_dropAfterOpen.comp (sparesMarks_lowerCasts.comp sparesMarks_collapse))

end SchemaPlan.Sql
