import Mathlib.Data.List.TakeWhile
import SchemaPlan.Sql.Quotation
import SchemaPlan.Text.Blank

/-!
# Reading what has been written

Readers take a text apart from its front: a run of characters of one sort, or what stands between two
quotes.  Such a piece is read as it was written, if what follows does not go on with it: if it begins
with a character of another sort (`takeWhile_append_of_stop`), or with no further quote
(`readQuoted_doubled`).
-/

namespace SchemaPlan

/-! ### Runs of characters -/

namespace Text

variable {p : Char → Bool} {word rest : List Char}

/-- A run of characters is taken as it is, if what follows does not go on with it. -/
theorem takeWhile_append_of_stop (hword : ∀ c ∈ word, p c = true)
    (hrest : ∀ c ∈ rest.head?, p c = false) : (word ++ rest).takeWhile p = word := by
  rw [List.takeWhile_append_of_pos hword]
  cases rest with
  | nil => simp
  | cons c rest => rw [List.takeWhile_cons, hrest c rfl]; simp

theorem dropWhile_append_of_stop (hword : ∀ c ∈ word, p c = true)
    (hrest : ∀ c ∈ rest.head?, p c = false) : (word ++ rest).dropWhile p = rest := by
  rw [List.dropWhile_append_of_pos hword]
  cases rest with
  | nil => simp
  | cons c rest => rw [List.dropWhile_cons, hrest c rfl]; simp

end Text

/-! ### Between quotes -/

namespace Sql

open Text

/-- **What is between quotes is read back**, if no further quote follows. -/
theorem readQuoted_doubled {q : Char} {rest : List Char} (h : rest.head? ≠ some q)
    (cs : List Char) : readQuoted q (doubled q cs ++ q :: rest) = some (cs, rest) := by
  have hcons : ∀ {c : Char} (ds : List Char), c ≠ q →
      readQuoted q (c :: (ds ++ q :: rest)) =
        (readQuoted q (ds ++ q :: rest)).map fun read => (c :: read.1, read.2) := by
    intro c ds hc
    cases ds <;> simp [readQuoted, hc]
  induction cs with
  | nil =>
    cases rest with
    | nil => simp [doubled, readQuoted]
    | cons c rest =>
      have hc : c ≠ q := fun he => h (congrArg some he)
      simp [doubled, readQuoted, hc]
  | cons c cs ih =>
    by_cases hc : c = q
    · subst hc
      simp [doubled, readQuoted, ih]
    · rw [doubled, if_neg hc, List.cons_append, hcons _ hc, ih]
      rfl

/-- Nothing else is read between quotes than what is written there. -/
theorem eq_of_readQuoted {q : Char} {cs content rest : List Char}
    (h : readQuoted q cs = some (content, rest)) : cs = doubled q content ++ q :: rest := by
  fun_induction readQuoted q cs generalizing content with
  | case1 => cases h
  | case2 => cases h; rfl
  | case3 => cases h
  | case4 cs ih =>
    obtain ⟨⟨content', rest'⟩, hread, he⟩ := Option.map_eq_some_iff.1 h
    cases he
    rw [ih hread]
    simp [doubled]
  | case5 => cases h; rfl
  | case6 c d cs hc ih =>
    obtain ⟨⟨content', rest'⟩, hread, he⟩ := Option.map_eq_some_iff.1 h
    cases he
    rw [ih hread]
    simp [doubled, hc]

theorem length_le_length_doubled (q : Char) (cs : List Char) :
    cs.length ≤ (doubled q cs).length := by
  induction cs with
  | nil => exact Nat.le_refl _
  | cons c cs ih =>
    rw [doubled]
    split <;> simp only [List.length_cons] <;> omega

theorem quotes_ne_self {q : Char} (cs : List Char) : q :: (doubled q cs ++ [q]) ≠ cs := by
  intro h
  have hlength := congrArg List.length h
  have hdoubled := length_le_length_doubled q cs
  simp only [List.length_append, List.length_cons, List.length_nil] at hlength
  omega

end Sql

end SchemaPlan
