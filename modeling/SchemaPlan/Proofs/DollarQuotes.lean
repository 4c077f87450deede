import Mathlib.Data.Finset.Card
import Mathlib.Data.List.Infix
import SchemaPlan.Proofs.TableConstraints

/-!
# Bodies between dollar signs

A function body is written between two copies of a delimiter.  Whoever reads it takes the delimiter
from the opening copy and the body up to the first place where the delimiter occurs again
(`readDollarQuote?`).  So a body comes back whole if the delimiter occurs nowhere before its closing
copy.

The search for a delimiter ends: delimiters that occur in a body do so at places of their own
(`eq_of_isPrefix_delimiter`), and a body has no more places than characters
(`exists_free_delimiter`).  What it finds is the first delimiter that does not occur in the body
(`isFirstFree_freeDelimiter`).

That does not settle the matter, since the delimiter may also occur across the end of the body.  It
has dollar signs at its ends only, so there is one way in which it can: the body ends with all of
the delimiter but its last character (`isPrefix_append_delimiter_iff`).  `dollar_quotes_read_back`
says that such a body is cut short and any other comes back, and `body_cut_short` that there are
such bodies.
-/

namespace SchemaPlan.Sql

open SchemaPlan.Text

/-! ### Reading -/

/-- Whether a character may begin the tag of a delimiter. -/
def beginsTag (c : Char) : Bool :=
  c.isAlpha || c == '_' || 128 ≤ c.toNat

/-- Whether characters may stand between the dollar signs of a delimiter. -/
def isTag : List Char → Bool
  | [] => true
  | c :: cs => beginsTag c && cs.all fun d => beginsTag d || d.isDigit

/-- What stands before the first occurrence of a piece in a text, and what stands after it. -/
def cutAtPiece? (piece : List Char) : List Char → Option (List Char × List Char)
  | [] => none
  | c :: cs =>
    if piece.isPrefixOf (c :: cs) then some ([], (c :: cs).drop piece.length)
    else (cutAtPiece? piece cs).map fun (before, after) => (c :: before, after)

/-- The content of the dollar-quoted text that a text begins with, and what follows it.  The
delimiter reaches from the first dollar sign to the next, and the content from there to the first
place at which the delimiter occurs again. -/
def readDollarQuote? : List Char → Option (List Char × List Char)
  | '$' :: cs =>
    match cutAt? '$' cs with
    | some (tag, rest) => if isTag tag then cutAtPiece? ('$' :: (tag ++ ['$'])) rest else none
    | none => none
  | _ => none

/-! ### Delimiters -/

/-- What stands between the dollar signs of the delimiter of that number. -/
def tag (n : Nat) : List Char :=
  if n = 0 then [] else 'f' :: 'n' :: Nat.toDigits 10 n

theorem toList_delimiter (n : Nat) : (delimiter n).toList = '$' :: (tag n ++ ['$']) := by
  unfold delimiter tag
  split
  · rfl
  · simp

theorem isDigit_of_mem_toDigits {n : Nat} {c : Char} (h : c ∈ Nat.toDigits 10 n) :
    c.isDigit = true :=
  Nat.isDigit_of_mem_toDigits (by decide) (by decide) h

theorem isTag_tag (n : Nat) : isTag (tag n) = true := by
  unfold tag
  split
  · rfl
  · have hdigits : (Nat.toDigits 10 n).all (fun d => beginsTag d || d.isDigit) = true :=
      List.all_eq_true.2 fun d hd => by rw [isDigit_of_mem_toDigits hd, Bool.or_true]
    rw [isTag, List.all_cons, hdigits]
    rfl

theorem dollar_notMem_tag (n : Nat) : '$' ∉ tag n := by
  unfold tag
  split
  · exact List.not_mem_nil
  · intro h
    rw [List.mem_cons, List.mem_cons] at h
    rcases h with h | h | h
    · exact absurd h (by decide)
    · exact absurd h (by decide)
    · exact absurd (isDigit_of_mem_toDigits h) (by decide)

theorem tag_injective : Function.Injective tag := by
  intro m n h
  by_cases hm : m = 0 <;> by_cases hn : n = 0
  · rw [hm, hn]
  · simp [tag, hm, hn] at h
  · simp [tag, hm, hn] at h
  · simp only [tag, hm, hn, if_false, List.cons.injEq, true_and] at h
    have hvalue := congrArg (fun digits => Nat.ofDigitChars 10 digits 0) h
    simpa only [Nat.ofDigitChars_ten_toDigits] using hvalue

/-- A closing delimiter is found where a text has it, or where the text is the tag and a dollar sign
follows. -/
theorem isPrefix_append_dollar_iff {tag text rest : List Char} (h : '$' ∉ tag) :
    tag ++ ['$'] <+: text ++ '$' :: rest ↔ tag ++ ['$'] <+: text ∨ text = tag := by
  induction tag generalizing text with
  | nil => cases text <;> simp
  | cons c tag ih =>
    obtain ⟨hc, htag⟩ := not_or.1 (List.mem_cons.not.1 h)
    cases text with
    | nil => simp [Ne.symm hc]
    | cons d text =>
      simp only [List.cons_append, List.cons_prefix_cons, ih htag, List.cons.injEq]
      constructor
      · rintro ⟨rfl, hin | hall⟩
        · exact .inl ⟨rfl, hin⟩
        · exact .inr ⟨rfl, hall⟩
      · rintro (⟨rfl, hin⟩ | ⟨rfl, hall⟩)
        · exact ⟨rfl, .inl hin⟩
        · exact ⟨rfl, .inr hall⟩

/-- **Where a delimiter occurs across the end of a text**: at its last dollar sign only. -/
theorem isPrefix_append_delimiter_iff {tag rest : List Char} (h : '$' ∉ tag) {c : Char}
    {cs : List Char} :
    '$' :: (tag ++ ['$']) <+: (c :: cs) ++ '$' :: rest ↔
      '$' :: (tag ++ ['$']) <+: c :: cs ∨ c :: cs = '$' :: tag := by
  rw [List.cons_append, List.cons_prefix_cons, isPrefix_append_dollar_iff h, List.cons_prefix_cons,
    List.cons.injEq, and_or_left, @eq_comm _ c]

/-- Only one delimiter stands at a place. -/
theorem eq_of_isPrefix_delimiter {m n : Nat} {text : List Char}
    (hm : (delimiter m).toList <+: text) (hn : (delimiter n).toList <+: text) : m = n := by
  rw [toList_delimiter] at hm hn
  obtain ⟨rest, rfl⟩ := hm
  have hn' : '$' :: (tag n ++ ['$']) <+: ('$' :: tag m) ++ '$' :: rest := by simpa using hn
  rcases (isPrefix_append_delimiter_iff (dollar_notMem_tag n)).1 hn' with hin | hall
  · rw [List.cons_prefix_cons] at hin
    have hmem : '$' ∈ tag m := hin.2.subset (by simp)
    exact absurd hmem (dollar_notMem_tag m)
  · exact tag_injective (List.cons.inj hall).2

/-! ### The search for a delimiter -/

/-- What occurs in a text does so at some place of it. -/
theorem exists_place_of_occursIn {piece text : List Char} (hpiece : piece ≠ [])
    (h : occursIn piece text = true) : ∃ i < text.length, piece <+: text.drop i := by
  induction text with
  | nil => exact absurd (List.isEmpty_iff.1 h) hpiece
  | cons c cs ih =>
    rw [occursIn, Bool.or_eq_true, List.isPrefixOf_iff_prefix] at h
    rcases h with h | h
    · exact ⟨0, Nat.succ_pos _, h⟩
    · obtain ⟨i, hi, hat⟩ := ih h
      exact ⟨i + 1, Nat.succ_lt_succ hi, hat⟩

/-- **Some delimiter does not occur in a body**: there are more of them than places in it. -/
theorem exists_free_delimiter (body : List Char) :
    ∃ n ≤ body.length, occursIn (delimiter n).toList body = false := by
  by_contra hall
  push Not at hall
  have hplaces : ∀ n ∈ Finset.range (body.length + 1),
      ∃ i < body.length, (delimiter n).toList <+: body.drop i := by
    intro n hn
    have hoccurs := hall n (Nat.le_of_lt_succ (Finset.mem_range.1 hn))
    refine exists_place_of_occursIn ?_ (Bool.eq_true_of_not_eq_false hoccurs)
    rw [toList_delimiter]
    exact List.cons_ne_nil _ _
  choose! place hlt hat using hplaces
  obtain ⟨m, hm, n, hn, hne, he⟩ := Finset.exists_ne_map_eq_of_card_lt_of_maps_to
    (s := Finset.range (body.length + 1)) (t := Finset.range body.length) (by simp)
    (fun n hn => Finset.mem_coe.2 (Finset.mem_range.2 (hlt n hn)))
  have hatm := hat m hm
  rw [he] at hatm
  exact hne (eq_of_isPrefix_delimiter hatm (hat n hn))

/-- Of the delimiters in turn, this is the first that does not occur in a body. -/
def IsFirstFree (body : List Char) (n : Nat) : Prop :=
  occursIn (delimiter n).toList body = false ∧
    ∀ m < n, occursIn (delimiter m).toList body = true

/-- A search that may pass over enough delimiters finds the first that is free. -/
theorem freeDelimiter_spec {body : List Char} (fuel : Nat) {n : Nat}
    (h : ∃ m ≥ n, m ≤ n + fuel ∧ occursIn (delimiter m).toList body = false) :
    occursIn (delimiter (freeDelimiter body fuel n)).toList body = false ∧
      ∀ m ≥ n, m < freeDelimiter body fuel n → occursIn (delimiter m).toList body = true := by
  obtain ⟨m, hge, hle, hfree⟩ := h
  induction fuel generalizing n with
  | zero =>
    obtain rfl : m = n := Nat.le_antisymm hle hge
    exact ⟨hfree, fun k hk hlt => absurd hlt (Nat.not_lt.2 hk)⟩
  | succ fuel ih =>
    by_cases hoccurs : occursIn (delimiter n).toList body = true
    · have hne : n ≠ m := by
        rintro rfl
        rw [hfree] at hoccurs
        cases hoccurs
      obtain ⟨hfound, hbefore⟩ := ih (n := n + 1) (by omega) (by omega)
      rw [freeDelimiter, if_pos hoccurs]
      refine ⟨hfound, fun k hk hlt => ?_⟩
      rcases Nat.eq_or_lt_of_le hk with rfl | hlt'
      · exact hoccurs
      · exact hbefore k hlt' hlt
    · rw [freeDelimiter, if_neg hoccurs]
      exact ⟨Bool.eq_false_iff.2 hoccurs, fun k hk hlt => absurd hlt (Nat.not_lt.2 hk)⟩

/-- **The search finds the first delimiter that does not occur in the body.** -/
theorem isFirstFree_freeDelimiter (body : List Char) :
    IsFirstFree body (freeDelimiter body (body.length + 1) 0) := by
  obtain ⟨n, hn, hfree⟩ := exists_free_delimiter body
  obtain ⟨hfound, hbefore⟩ := freeDelimiter_spec (body.length + 1)
    ⟨n, Nat.zero_le n, by omega, hfree⟩
  exact ⟨hfound, fun m hm => hbefore m (Nat.zero_le m) hm⟩

/-! ### Reading back -/

theorem cutAtPiece?_self (c : Char) (cs rest : List Char) :
    cutAtPiece? (c :: cs) (c :: (cs ++ rest)) = some ([], rest) := by
  have hin : (c :: cs).isPrefixOf (c :: (cs ++ rest)) = true :=
    List.isPrefixOf_iff_prefix.2 (List.prefix_append (c :: cs) rest)
  rw [cutAtPiece?, if_pos hin, List.length_cons, List.drop_succ_cons, List.drop_left]

section Cut

variable {tag body rest : List Char} (h : '$' ∉ tag)
  (hfree : occursIn ('$' :: (tag ++ ['$'])) body = false)

include h hfree

/-- A body that does not end with the delimiter but its last character reaches to the closing
delimiter. -/
theorem cutAtPiece?_whole (hend : ¬ '$' :: tag <:+ body) :
    cutAtPiece? ('$' :: (tag ++ ['$'])) (body ++ '$' :: (tag ++ '$' :: rest)) =
      some (body, rest) := by
  induction body with
  | nil =>
    rw [List.nil_append, List.append_cons tag '$' rest]
    exact cutAtPiece?_self _ _ _
  | cons c cs ih =>
    rw [occursIn, Bool.or_eq_false_iff, Bool.eq_false_iff, ne_eq,
      List.isPrefixOf_iff_prefix] at hfree
    rw [List.suffix_cons_iff, not_or] at hend
    have hnot : ¬ '$' :: (tag ++ ['$']) <+: c :: (cs ++ '$' :: (tag ++ '$' :: rest)) := fun hin =>
      ((isPrefix_append_delimiter_iff h).1 hin).elim hfree.1 fun he => hend.1 he.symm
    rw [List.cons_append, cutAtPiece?, if_neg (List.isPrefixOf_iff_prefix.not.2 hnot),
      ih hfree.2 hend.2]
    rfl

omit hfree in
/-- A body that ends that way is cut off there. -/
theorem cutAtPiece?_short
    (hfree : occursIn ('$' :: (tag ++ ['$'])) (body ++ '$' :: tag) = false) :
    cutAtPiece? ('$' :: (tag ++ ['$'])) (body ++ '$' :: (tag ++ '$' :: (tag ++ '$' :: rest))) =
      some (body, tag ++ '$' :: rest) := by
  induction body with
  | nil =>
    rw [List.nil_append, List.append_cons tag '$' (tag ++ '$' :: rest)]
    exact cutAtPiece?_self _ _ _
  | cons c cs ih =>
    rw [List.cons_append, occursIn, Bool.or_eq_false_iff, Bool.eq_false_iff, ne_eq,
      List.isPrefixOf_iff_prefix] at hfree
    have hnot : ¬ '$' :: (tag ++ ['$']) <+:
        c :: (cs ++ '$' :: (tag ++ '$' :: (tag ++ '$' :: rest))) := by
      intro hin
      have hin' : '$' :: (tag ++ ['$']) <+:
          (c :: (cs ++ '$' :: tag)) ++ '$' :: (tag ++ '$' :: rest) := by simpa using hin
      rcases (isPrefix_append_delimiter_iff h).1 hin' with hin' | he
      · exact hfree.1 hin'
      · have hlength := congrArg List.length he
        simp only [List.length_cons, List.length_append] at hlength
        omega
    rw [List.cons_append, cutAtPiece?, if_neg (List.isPrefixOf_iff_prefix.not.2 hnot), ih hfree.2]
    rfl

end Cut

/-- The quotation of a body is read back: its content is the body, and nothing of it is left over. -/
def ReadsBack (body : String) : Prop :=
  ∀ rest, readDollarQuote? ((dollarQuote body).toList ++ rest) = some (body.toList, rest)

/-- The opening delimiter is read, and then the content is cut at the first place of it. -/
theorem readDollarQuote?_dollarQuote {body : String} {n : Nat}
    (h : n = freeDelimiter body.toList (body.length + 1) 0) (rest : List Char) :
    readDollarQuote? ((dollarQuote body).toList ++ rest) =
      cutAtPiece? ('$' :: (tag n ++ ['$'])) (body.toList ++ '$' :: (tag n ++ '$' :: rest)) := by
  have he : (dollarQuote body).toList ++ rest =
      '$' :: (tag n ++ '$' :: (body.toList ++ '$' :: (tag n ++ '$' :: rest))) := by
    simp only [dollarQuote, ← h, String.toList_append, toList_delimiter]
    simp
  rw [he, readDollarQuote?, cutAt?_append (dollar_notMem_tag n)]
  exact if_pos (isTag_tag n)

/-- **A body reads back unless it ends with its delimiter but the last character**; then it is cut
short there, and what is left of the delimiter is left over. -/
theorem readDollarQuote?_cases (body : String) {n : Nat}
    (h : n = freeDelimiter body.toList (body.length + 1) 0) :
    (¬ '$' :: tag n <:+ body.toList ∧ ReadsBack body) ∨
      ∃ front, body.toList = front ++ '$' :: tag n ∧ ∀ rest,
        readDollarQuote? ((dollarQuote body).toList ++ rest) =
          some (front, tag n ++ '$' :: rest) := by
  have hfree := (isFirstFree_freeDelimiter body.toList).1
  rw [String.length_toList, ← h, toList_delimiter] at hfree
  by_cases hend : '$' :: tag n <:+ body.toList
  · obtain ⟨front, he⟩ := hend
    refine .inr ⟨front, he.symm, fun rest => ?_⟩
    rw [readDollarQuote?_dollarQuote h, ← he, List.append_assoc]
    exact cutAtPiece?_short (dollar_notMem_tag n) (he.symm ▸ hfree)
  · refine .inl ⟨hend, fun rest => ?_⟩
    rw [readDollarQuote?_dollarQuote h]
    exact cutAtPiece?_whole (dollar_notMem_tag n) hfree hend

/-- The statement that creates a function, up to its body. -/
def Style.functionHead (style : Style) (schema : String) (f : Routine) (replace : Bool) : String :=
  (if replace then "CREATE OR REPLACE FUNCTION " else "CREATE FUNCTION ") ++
    style.object schema f.name ++ "(" ++ commas (f.arguments.map style.argument) ++ ") RETURNS " ++
    f.returns ++ " LANGUAGE " ++ f.language ++ (f.volatility.map Style.volatility).getD "" ++
    (if f.securityDefiner then " SECURITY DEFINER" else "") ++ " AS "

end SchemaPlan.Sql

namespace SchemaPlan

open Sql

/-- **Bodies of functions between dollar signs.**  The search for a delimiter ends, with the first
one that does not occur in the body.  A body that does not end with this delimiter but its last
character reads back, and nothing of it gets out; a body that does is cut short, and what gets out is
the rest of the delimiter. -/
theorem dollar_quotes_read_back (style : Style) (schema : String) (f : Routine) (replace : Bool) :
    (Op.createFunction schema f replace).sql style =
        style.functionHead schema f replace ++ (dollarQuote f.definition ++ ";") ∧
      ∃ n, IsFirstFree f.definition.toList n ∧
        (ReadsBack f.definition ↔ ¬ '$' :: tag n <:+ f.definition.toList) ∧
        (¬ ReadsBack f.definition ↔ ∃ front, f.definition.toList = front ++ '$' :: tag n ∧
          ∀ rest, readDollarQuote? ((dollarQuote f.definition).toList ++ rest) =
            some (front, tag n ++ '$' :: rest)) := by
  refine ⟨String.append_assoc, _, isFirstFree_freeDelimiter f.definition.toList, ?_⟩
  rcases readDollarQuote?_cases f.definition rfl with ⟨hend, hback⟩ | ⟨front, he, hshort⟩
  · refine ⟨iff_of_true hback hend, iff_of_false (not_not.2 hback) ?_⟩
    rintro ⟨front, he, -⟩
    exact hend ⟨front, he.symm⟩
  · have hnot : ¬ ReadsBack f.definition := by
      intro hback
      have hboth := (hback []).symm.trans (hshort [])
      have hrest := (Prod.mk.inj (Option.some.inj hboth)).2
      exact absurd hrest (by simp)
    exact ⟨iff_of_false hnot (not_not.2 ⟨front, he.symm⟩), iff_of_true hnot ⟨front, he, hshort⟩⟩

/-- A function whose body ends with a dollar sign. -/
def Prices.lowest : Routine where
  name := "lowest"
  returns := "integer"
  language := "sql"
  definition := "SELECT 5 -- in $"

/-- **A body may be cut short.**  The dollar sign at the end of this one is taken for half of the
closing delimiter, and the other half is left over. -/
theorem body_cut_short :
    (Op.createFunction "shop" Prices.lowest false).sql {} =
        "CREATE FUNCTION shop.lowest() RETURNS integer LANGUAGE sql AS $$SELECT 5 -- in $$$;" ∧
      readDollarQuote? "$$SELECT 5 -- in $$$;".toList =
        some ("SELECT 5 -- in ".toList, "$;".toList) ∧
      ¬ ReadsBack Prices.lowest.definition := by
  refine ⟨by decide +kernel, by decide +kernel, fun hback => ?_⟩
  have hread : readDollarQuote? ((dollarQuote Prices.lowest.definition).toList ++ []) =
      some ("SELECT 5 -- in ".toList, ['$']) := by
    decide +kernel
  rw [hback []] at hread
  exact absurd (Prod.mk.inj (Option.some.inj hread)).2 (by decide)

end SchemaPlan
