import Mathlib.Data.List.Infix
import SchemaPlan.Sql.Render

/-!
# Text in comments

A comment reaches from two dashes to the end of the line, and for whoever reads a statement a line
ends at a line feed and at a carriage return (`endsLine`).  Text that is to be a comment is cut into
lines by another rule: a carriage return ends a line only together with a line feed.

So a carriage return inside a line of text ends the comment, and what stands behind it is read as
part of a statement.  `behindReturns` gives these pieces of a text.  A text written as a comment
stays one exactly if each of them is empty or a comment itself (`isRemark_comment_iff`); so it does if
all carriage returns end lines together with line feeds (`isRemark_comment_of_paired`).  The values
that a row had stay in theirs exactly if no carriage return is among them (`isOneComment_was_iff`).
`comments_contained` says both, and `text_outside_comment` that it matters.
-/

namespace SchemaPlan.Sql

open SchemaPlan.Text

/-! ### Lines as they are read -/

/-- Whether a character ends a line, and with it a comment. -/
def endsLine (c : Char) : Bool :=
  c == '\n' || c == '\r'

/-- The lines of what is written, as they are read. -/
def readLines (written : String) : List (List Char) :=
  splitWhere endsLine written.toList

/-- A line that is empty or a comment. -/
def IsRemark (line : List Char) : Prop :=
  line = [] ∨ ['-', '-'] <+: line

instance (line : List Char) : Decidable (IsRemark line) :=
  inferInstanceAs (Decidable (line = [] ∨ ['-', '-'] <+: line))

/-- What is written is a comment from its beginning to its end. -/
def IsOneComment (written : List Char) : Prop :=
  ['-', '-'] <+: written ∧ ∀ c ∈ written, endsLine c = false

-- The instance is named: another one would go through all the characters there are.
instance (written : List Char) : Decidable (IsOneComment written) :=
  have := List.decidableBAll (fun c => endsLine c = false) written
  inferInstanceAs (Decidable (['-', '-'] <+: written ∧ ∀ c ∈ written, endsLine c = false))

/-- The pieces of a text, up to the end of a line, that a carriage return stands in front of. -/
def behindReturns : List Char → List (List Char)
  | [] => []
  | c :: cs =>
    if c = '\r' then cs.takeWhile (!endsLine ·) :: behindReturns cs else behindReturns cs

theorem splitWhere_ne_nil (p : Char → Bool) (cs : List Char) : splitWhere p cs ≠ [] := by
  cases cs with
  | nil => exact List.cons_ne_nil _ _
  | cons c cs =>
    rw [splitWhere]
    split
    · exact List.cons_ne_nil _ _
    · split <;> exact List.cons_ne_nil _ _

/-- The pieces of a text begin anew behind a character that they are cut at. -/
theorem splitWhere_append {p : Char → Bool} {c : Char} (hc : p c = true) (front back : List Char) :
    splitWhere p (front ++ c :: back) = splitWhere p front ++ splitWhere p back := by
  induction front with
  | nil => simp [splitWhere, hc]
  | cons d front ih =>
    obtain ⟨piece, pieces, he⟩ := List.exists_cons_of_ne_nil (splitWhere_ne_nil p front)
    rw [List.cons_append, splitWhere, splitWhere, ih, he]
    split <;> rfl

theorem takeWhile_append_of_end {c : Char} (hc : endsLine c = true) (front back : List Char) :
    (front ++ c :: back).takeWhile (!endsLine ·) = front.takeWhile (!endsLine ·) := by
  induction front with
  | nil => simp [hc]
  | cons d front ih => simp only [List.cons_append, List.takeWhile_cons, ih]

theorem behindReturns_append {c : Char} (hc : endsLine c = true) (front back : List Char) :
    behindReturns (front ++ c :: back) = behindReturns front ++ behindReturns (c :: back) := by
  induction front with
  | nil => rfl
  | cons d front ih =>
    rw [List.cons_append, behindReturns, behindReturns, takeWhile_append_of_end hc, ih]
    split <;> rfl

/-- Without line feeds, a line ends only where a carriage return stands. -/
theorem splitWhere_endsLine {line : List Char} (h : '\n' ∉ line) :
    splitWhere endsLine line = line.takeWhile (!endsLine ·) :: behindReturns line := by
  induction line with
  | nil => rfl
  | cons c cs ih =>
    obtain ⟨hc, hcs⟩ := not_or.1 (List.mem_cons.not.1 h)
    rw [splitWhere, ih hcs, behindReturns]
    by_cases hr : c = '\r'
    · simp [hr, endsLine]
    · simp [hr, Ne.symm hc, endsLine]

/-! ### Lines of a comment -/

theorem linesFrom_of_ne {c : Char} (hc : c ≠ '\n') (line cs : List Char) :
    linesFrom line (c :: cs) = linesFrom (c :: line) cs := by
  simp [linesFrom, hc]

/-- At a line feed the current line ends, without a carriage return right before it. -/
theorem linesFrom_newline (line cs : List Char) :
    ∃ front, linesFrom line ('\n' :: cs) = front :: linesFrom [] cs ∧
      (line.reverse = front ∨ line.reverse = front ++ ['\r']) := by
  refine ⟨_, rfl, ?_⟩
  split
  · exact .inr List.reverse_cons
  · exact .inl rfl

theorem newline_notMem_of_mem_linesFrom {line cs : List Char} (h : '\n' ∉ line) {l : List Char}
    (hl : l ∈ linesFrom line cs) : '\n' ∉ l := by
  induction cs generalizing line with
  | nil =>
    rw [linesFrom] at hl
    split at hl
    · exact absurd hl List.not_mem_nil
    · rw [List.mem_singleton.1 hl, List.mem_reverse]
      exact h
  | cons c cs ih =>
    by_cases hc : c = '\n'
    · subst hc
      obtain ⟨front, he, hfront⟩ := linesFrom_newline line cs
      rw [he, List.mem_cons] at hl
      rcases hl with rfl | hl
      · rw [← List.mem_reverse] at h
        rcases hfront with hfront | hfront <;> rw [hfront] at h
        · exact h
        · exact fun hin => h (List.mem_append_left _ hin)
      · exact ih List.not_mem_nil hl
    · rw [linesFrom_of_ne hc] at hl
      exact ih (List.not_mem_cons_of_ne_of_not_mem (Ne.symm hc) h) hl

/-- What stands behind the carriage returns of a text stands behind those of its lines: a carriage
return that ends a line together with a line feed has nothing behind it. -/
theorem forall_behindReturns_linesFrom_iff (line cs : List Char) :
    (∀ l ∈ linesFrom line cs, ∀ piece ∈ behindReturns l, IsRemark piece) ↔
      ∀ piece ∈ behindReturns (line.reverse ++ cs), IsRemark piece := by
  induction cs generalizing line with
  | nil =>
    rw [linesFrom, List.append_nil]
    split
    · rename_i h
      rw [List.isEmpty_iff.1 h]
      simp [behindReturns]
    · exact List.forall_mem_singleton
  | cons c cs ih =>
    by_cases hc : c = '\n'
    · subst hc
      obtain ⟨front, he, hfront⟩ := linesFrom_newline line cs
      have hline : (∀ piece ∈ behindReturns front, IsRemark piece) ↔
          ∀ piece ∈ behindReturns line.reverse, IsRemark piece := by
        rcases hfront with hfront | hfront <;> rw [hfront]
        rw [behindReturns_append rfl, List.forall_mem_append]
        exact (and_iff_left (List.forall_mem_singleton.2 (.inl rfl))).symm
      rw [he, List.forall_mem_cons, ih, behindReturns_append rfl, List.forall_mem_append, hline]
      rfl
    · rw [linesFrom_of_ne hc, ih, List.reverse_cons, List.append_assoc, List.singleton_append]

/-- Lines written one below the other are read as the pieces of each. -/
theorem forall_splitWhere_intercalate_iff (ls : List (List Char)) :
    (∀ piece ∈ splitWhere endsLine (['\n'].intercalate ls), IsRemark piece) ↔
      ∀ l ∈ ls, ∀ piece ∈ splitWhere endsLine l, IsRemark piece := by
  induction ls with
  | nil => exact iff_of_true (List.forall_mem_singleton.2 (.inl rfl)) (by simp)
  | cons l ls ih =>
    cases ls with
    | nil => rw [List.intercalate_singleton, List.forall_mem_singleton]
    | cons l' ls =>
      rw [List.intercalate_cons_cons, List.append_assoc, List.singleton_append,
        splitWhere_append rfl, List.forall_mem_append, ih, List.forall_mem_cons (a := l)]

/-- A line behind two dashes is read as comments if what stands behind its carriage returns is. -/
theorem forall_splitWhere_dashes_iff {l : List Char} (h : '\n' ∉ l) :
    (∀ piece ∈ splitWhere endsLine ('-' :: '-' :: ' ' :: l), IsRemark piece) ↔
      ∀ piece ∈ behindReturns l, IsRemark piece := by
  have hfirst : IsRemark (('-' :: '-' :: ' ' :: l).takeWhile (!endsLine ·)) :=
    .inr ⟨' ' :: l.takeWhile (!endsLine ·), rfl⟩
  rw [splitWhere_endsLine (by simpa using h), List.forall_mem_cons]
  exact and_iff_right hfirst

/-- **A text written as a comment stays one** exactly if each piece of it that stands behind a
carriage return is empty or a comment itself. -/
theorem isRemark_comment_iff (text : String) :
    (∀ line ∈ readLines (Style.comment text), IsRemark line) ↔
      ∀ piece ∈ behindReturns text.toList, IsRemark piece := by
  have hlines : (Style.comment text).toList = ['\n'].intercalate
      ((linesFrom [] text.toList).map fun l => '-' :: '-' :: ' ' :: l) := by
    simp [Style.comment, lines, String.toList_intercalate, Function.comp_def]
  rw [readLines, hlines, forall_splitWhere_intercalate_iff, List.forall_mem_map,
    ← List.nil_append text.toList, ← List.reverse_nil, ← forall_behindReturns_linesFrom_iff]
  exact forall₂_congr fun l hl =>
    forall_splitWhere_dashes_iff (newline_notMem_of_mem_linesFrom List.not_mem_nil hl)

/-- A text stays a comment if its carriage returns end lines together with line feeds. -/
theorem isRemark_comment_of_paired {text : String}
    (h : ∀ front back, text.toList = front ++ '\r' :: back → back.head? = some '\n') :
    ∀ line ∈ readLines (Style.comment text), IsRemark line := by
  rw [isRemark_comment_iff]
  generalize text.toList = cs at h
  induction cs with
  | nil => exact fun _ hpiece => absurd hpiece List.not_mem_nil
  | cons c cs ih =>
    have hrest := ih fun front back he => h (c :: front) back (congrArg (c :: ·) he)
    rw [behindReturns]
    split
    next hc =>
      obtain ⟨rest, rfl⟩ := List.head?_eq_some_iff.1 (h [] cs (congrArg (· :: cs) hc))
      exact List.forall_mem_cons.2 ⟨.inl rfl, hrest⟩
    next => exact hrest

/-! ### Values that a row had -/

theorem notMem_intercalate_iff {c : Char} {sep : List Char} (hsep : c ∉ sep)
    (ls : List (List Char)) : c ∉ sep.intercalate ls ↔ ∀ l ∈ ls, c ∉ l := by
  induction ls with
  | nil => simp
  | cons l ls ih =>
    cases ls with
    | nil => simp
    | cons l' ls => simp [List.intercalate_cons_cons, List.mem_append, hsep, ih]

/-- With spaces for its line feeds, a text has an end of a line only if it has a carriage return. -/
theorem forall_endsLine_map_iff (cs : List Char) :
    (∀ c ∈ cs.map fun c => if c == '\n' then ' ' else c, endsLine c = false) ↔ '\r' ∉ cs := by
  rw [List.forall_mem_map, ← List.forall_mem_ne]
  refine forall₂_congr fun c _ => ?_
  by_cases hc : c = '\n'
  · subst hc
    decide
  · simpa [hc, endsLine] using ne_comm

/-- **The values that a row had stay in their comment** exactly if no carriage return is among
them. -/
theorem isOneComment_was_iff {previous : Assignments} (h : previous ≠ []) :
    ∃ was, Style.wasComment previous = " -- was: " ++ was ∧
      (IsOneComment ("-- was: " ++ was).toList ↔
        ∀ entry ∈ previous, '\r' ∉ entry.1.toList ∧ '\r' ∉ entry.2.toList) := by
  refine ⟨_, by rw [Style.wasComment, if_neg (List.isEmpty_iff.not.2 h)], ?_⟩
  have hdashes (was : List Char) : ['-', '-'] <+: "-- was: ".toList ++ was :=
    ⟨" was: ".toList ++ was, rfl⟩
  have hwas : ∀ c ∈ "-- was: ".toList, endsLine c = false := by
    have hall : "-- was: ".toList.all (endsLine · == false) = true := by decide +kernel
    exact fun c hc => eq_of_beq (List.all_eq_true.1 hall c hc)
  rw [IsOneComment, String.toList_append, and_iff_right (hdashes _), List.forall_mem_append,
    and_iff_right hwas, String.toList_map, forall_endsLine_map_iff, commas,
    String.toList_intercalate, notMem_intercalate_iff (by decide), List.map_map,
    List.forall_mem_map]
  refine forall₂_congr fun entry _ => ?_
  simp [List.mem_append]

end SchemaPlan.Sql

namespace SchemaPlan

open Sql

/-- **Text in comments.**  A text written as a comment is read as comments and empty lines exactly if
each piece of it that stands behind a carriage return is empty or a comment itself.  A statement that
changes a row is followed by the values that the row had, if they are known, and these are one
comment exactly if no carriage return is among them. -/
theorem comments_contained (style : Style) (text table : String)
    (assignments key previous : Assignments) :
    ((∀ line ∈ readLines ((Op.comment text).sql style), IsRemark line) ↔
        ∀ piece ∈ behindReturns text.toList, IsRemark piece) ∧
      (Op.updateRow table assignments key previous).sql style =
        (Op.updateRow table assignments key []).sql style ++ Style.wasComment previous ∧
      (previous = [] ∧ Style.wasComment previous = "" ∨
        previous ≠ [] ∧ ∃ was, Style.wasComment previous = " -- was: " ++ was ∧
          (IsOneComment ("-- was: " ++ was).toList ↔
            ∀ entry ∈ previous, '\r' ∉ entry.1.toList ∧ '\r' ∉ entry.2.toList)) := by
  refine ⟨isRemark_comment_iff text, ?_, ?_⟩
  · exact congrArg (· ++ Style.wasComment previous) String.append_empty.symm
  · by_cases h : previous = []
    · subst h
      exact .inl ⟨rfl, rfl⟩
    · exact .inr ⟨h, isOneComment_was_iff h⟩

/-- **Text gets out of its comment** behind a carriage return: what was a comment is read as a
statement, and the value that a row had as the rest of one. -/
theorem text_outside_comment :
    readLines ((Op.comment "first\rDROP TABLE shop.goods;").sql {}) =
        ["-- first".toList, "DROP TABLE shop.goods;".toList] ∧
      ¬ IsRemark "DROP TABLE shop.goods;".toList ∧
      (Op.updateRow "shop.goods" [("note", "'two'")] [("id", "1")] [("note", "'a\r\nb'")]).sql {} =
        "UPDATE shop.goods SET note = 'two' WHERE id = 1; -- was: note = 'a\r b'" ∧
      ¬ IsOneComment "-- was: note = 'a\r b'".toList := by
  refine ⟨?_, ?_, ?_, ?_⟩ <;> decide +kernel

end SchemaPlan
