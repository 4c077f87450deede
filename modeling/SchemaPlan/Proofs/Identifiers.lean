import Mathlib.Algebra.Group.Nat.Defs
import SchemaPlan.Proofs.Reading
import SchemaPlan.Sql.Name

/-!
# Identifiers read back

Whoever reads a statement takes an identifier from it in one of two ways (`readIdent?`).  A quoted one
reaches to the first double quote that is not written twice, and says what is between the quotes.
One without quotes is a word; words are read in lower case, and those that are reserved are no
identifiers.

An identifier is written so that it comes back (`readIdent?_ident`): between quotes every text does
(`readQuoted_doubled`), and bare exactly the ones that are written bare (`isBare_iff`), since the
others begin otherwise than a word does, would be cut short, change case, or are reserved.  The
reserved words are searched by halving, which finds all of them since they are sorted
(`isReserved_eq`).

What follows an identifier does not matter as long as it does not go on with it, so that the two
names of an object come back as well (`readObject?_object`).  Hence different identifiers, and
different pairs of them, are written differently (`identifiers_read_back`).
-/

namespace SchemaPlan.Sql

open SchemaPlan.Text

/-! ### Reading identifiers -/

/-- Whether a character may begin a word. -/
def beginsWord (c : Char) : Bool :=
  c.isAlpha || c == '_'

/-- Whether a character may stand in a word. -/
def isWordChar (c : Char) : Bool :=
  c.isAlphanum || c == '_' || c == '$'

/-- The identifier that a text begins with, and what follows it.  One that is not quoted is the
longest word, in lower case, and not a reserved one. -/
def readIdent? : List Char → Option (String × List Char)
  | '\x22' :: cs => (readQuoted '\x22' cs).map fun (name, rest) => (String.ofList name, rest)
  | cs =>
    let word := asciiLowercase (String.ofList (cs.takeWhile isWordChar))
    if cs.head?.any beginsWord && !reservedWords.contains word then
      some (word, cs.dropWhile isWordChar)
    else none

/-- The two identifiers of an object that a text begins with, and what follows them. -/
def readObject? (cs : List Char) : Option ((String × String) × List Char) :=
  match readIdent? cs with
  | some (schema, '.' :: rest) =>
    (readIdent? rest).map fun (name, rest) => ((schema, name), rest)
  | _ => none

/-- An identifier in front of the text does not reach into it. -/
def EndsIdent (rest : List Char) : Prop :=
  ∀ c ∈ rest.head?, c ≠ '\x22' ∧ isWordChar c = false

theorem endsIdent_nil : EndsIdent [] :=
  nofun

theorem endsIdent_cons {c : Char} (rest : List Char) (h : c ≠ '\x22' ∧ isWordChar c = false) :
    EndsIdent (c :: rest) := by
  intro d hd
  cases hd
  exact h

/-! ### Reserved words -/

/-- **Halving finds exactly the words that are there**, if they are sorted and there are enough
steps. -/
theorem isAmong_iff {word : String} {steps : Nat} {words : List String}
    (hsorted : words.Pairwise (· < ·)) (hlength : words.length ≤ 2 ^ steps) :
    isAmong word steps words = true ↔ word ∈ words := by
  induction steps generalizing words with
  | zero =>
    match words, hlength with
    | [], _ => simp only [isAmong, List.head?_nil, List.not_mem_nil, beq_iff_eq, reduceCtorEq]
    | [other], _ =>
      rw [isAmong, List.head?_cons, beq_iff_eq, Option.some.injEq, List.mem_singleton]
      exact eq_comm
  | succ steps ih =>
    obtain ⟨front, back, hsplit, rfl, hfront, hback, hnone⟩ : ∃ front back,
        words.splitAt (words.length / 2) = (front, back) ∧ words = front ++ back ∧
        front.length ≤ 2 ^ steps ∧ back.length ≤ 2 ^ steps ∧ (back = [] → front = []) := by
      refine ⟨_, _, List.splitAt_eq, (List.take_append_drop _ words).symm, ?_, ?_, fun he => ?_⟩
      · rw [List.length_take]
        omega
      · rw [List.length_drop]
        omega
      · rw [List.drop_eq_nil_iff] at he
        rw [List.take_eq_nil_iff]
        omega
    obtain ⟨hsfront, hsback, hbefore⟩ := List.pairwise_append.1 hsorted
    rw [isAmong, hsplit]
    dsimp only
    split
    next hhead =>
      obtain ⟨middle, hmiddle, hlt⟩ := (Option.any_eq_true _ _).1 hhead
      obtain ⟨rest, rfl⟩ := List.head?_eq_some_iff.1 hmiddle
      rw [ih hsfront hfront, List.mem_append, or_iff_left]
      intro hm
      have hlt := of_decide_eq_true hlt
      rcases List.mem_cons.1 hm with rfl | hm
      · exact String.lt_irrefl _ hlt
      · exact String.lt_irrefl _ (String.lt_trans hlt ((List.pairwise_cons.1 hsback).1 _ hm))
    next hhead =>
      rw [ih hsback hback, List.mem_append, or_iff_right]
      intro hm
      cases back with
      | nil =>
        rw [hnone rfl] at hm
        cases hm
      | cons middle rest =>
        exact hhead (decide_eq_true (hbefore _ hm _ List.mem_cons_self))

theorem sorted_reservedWords : reservedWords.Pairwise (· < ·) := by
  decide +kernel

theorem isReserved_eq (word : String) : isReserved word = reservedWords.contains word := by
  rw [Bool.eq_iff_iff, List.contains_iff_mem]
  exact isAmong_iff sorted_reservedWords (by decide)

/-! ### What is written bare -/

theorem isUpper_iff {c : Char} : c.isUpper = true ↔ 'A'.val ≤ c.val ∧ c.val ≤ 'Z'.val :=
  decide_eq_true_iff

/-- Only capital letters have a lower case other than themselves. -/
theorem toLower_eq_self_iff {c : Char} : c.toLower = c ↔ c.isUpper = false := by
  rw [← Bool.not_eq_true, isUpper_iff]
  unfold Char.toLower
  split
  next h =>
    have hne : c.val + ('a'.val - 'A'.val) ≠ c.val := by
      rw [Ne, UInt32.add_eq_left]
      decide
    rw [Char.ext_iff]
    exact iff_of_false hne fun hupper => hupper h
  next h => simpa using h

theorem not_isUpper_of_isLower {c : Char} (h : c.isLower = true) : c.isUpper = false := by
  have hlow : 'a'.val ≤ c.val := of_decide_eq_true (Bool.and_eq_true_iff.1 h).1
  rw [← Bool.not_eq_true, isUpper_iff]
  intro hupper
  exact absurd (UInt32.le_trans hlow hupper.2) (by decide)

theorem not_isUpper_of_isDigit {c : Char} (h : c.isDigit = true) : c.isUpper = false := by
  have hhigh : c.val ≤ '9'.val := of_decide_eq_true (Bool.and_eq_true_iff.1 h).2
  rw [← Bool.not_eq_true, isUpper_iff]
  intro hupper
  exact absurd (UInt32.le_trans hupper.1 hhigh) (by decide)

theorem isAlpha_eq (c : Char) : c.isAlpha = (c.isUpper || c.isLower) :=
  rfl

/-- The characters that begin a bare identifier are those that begin a word in lower case. -/
theorem isBareStart_iff {c : Char} :
    isBareStart c = true ↔ beginsWord c = true ∧ c.toLower = c := by
  rw [toLower_eq_self_iff, isBareStart, beginsWord, isAlpha_eq]
  by_cases hlower : c.isLower = true
  · simp [hlower, not_isUpper_of_isLower hlower]
  · by_cases hc : c = '_'
    · subst hc
      decide
    · cases hupper : c.isUpper <;> simp [hlower, hc]

/-- The characters of a bare identifier are those of a word in lower case. -/
theorem isBareChar_iff {c : Char} :
    isBareChar c = true ↔ isWordChar c = true ∧ c.toLower = c := by
  rw [toLower_eq_self_iff, isBareChar, isWordChar, Char.isAlphanum, isAlpha_eq]
  by_cases hlower : c.isLower = true
  · simp [hlower, not_isUpper_of_isLower hlower]
  · by_cases hdigit : c.isDigit = true
    · simp [hdigit, not_isUpper_of_isDigit hdigit]
    · by_cases hc : c = '_' ∨ c = '$'
      · rcases hc with rfl | rfl <;> decide
      · obtain ⟨hline, hdollar⟩ := not_or.1 hc
        cases hupper : c.isUpper <;> simp [hlower, hdigit, hline, hdollar]

/-- A text of characters in lower case is in lower case. -/
theorem asciiLowercase_eq_self_iff {s : String} :
    asciiLowercase s = s ↔ ∀ c ∈ s.toList, c.toLower = c := by
  rw [asciiLowercase, ← String.toList_inj, String.toList_ofList]
  constructor
  · intro h
    exact List.map_eq_map_iff.1 (h.trans (List.map_id _).symm)
  · intro h
    exact (List.map_congr_left h).trans (List.map_id _)

/-- A bare identifier is a word that is not reserved. -/
theorem readIdent?_of_isBare {name : String} (h : isBare name = true) {rest : List Char}
    (hrest : EndsIdent rest) : readIdent? (name.toList ++ rest) = some (name, rest) := by
  simp only [isBare, isReserved_eq, Bool.and_eq_true, List.all_eq_true] at h
  obtain ⟨⟨hstart, hchars⟩, hreserved⟩ := h
  obtain ⟨c, hc, hcstart⟩ := (Option.any_eq_true _ _).1 hstart
  obtain ⟨cs, hcs⟩ := List.head?_eq_some_iff.1 hc
  have hword : ∀ c ∈ name.toList, isWordChar c = true :=
    fun c hc => (isBareChar_iff.1 (hchars c hc)).1
  have hlower : asciiLowercase name = name :=
    asciiLowercase_eq_self_iff.2 fun c hc => (isBareChar_iff.1 (hchars c hc)).2
  have hstop : ∀ c ∈ rest.head?, isWordChar c = false := fun c hc => (hrest c hc).2
  have hhead : (name.toList ++ rest).head? = some c := by
    rw [hcs]
    rfl
  unfold readIdent?
  split
  next cs' he =>
    rw [he] at hhead
    cases hhead
    exact absurd hcstart (by decide)
  next =>
    rw [takeWhile_append_of_stop hword hstop, dropWhile_append_of_stop hword hstop,
      String.ofList_toList, hlower, hhead, Option.any_some, (isBareStart_iff.1 hcstart).1]
    exact if_pos hreserved

/-- **Bare are exactly the identifiers that are read back as they are.** -/
theorem isBare_iff {name : String} :
    isBare name = true ↔ readIdent? name.toList = some (name, []) := by
  constructor
  · intro h
    simpa using readIdent?_of_isBare h endsIdent_nil
  · intro h
    unfold readIdent? at h
    split at h
    next cs he =>
      -- what is between quotes is shorter than a text with its quotes
      obtain ⟨⟨content, rest⟩, hread, hpair⟩ := Option.map_eq_some_iff.1 h
      cases hpair
      rw [String.toList_ofList, eq_of_readQuoted hread] at he
      exact absurd he.symm (quotes_ne_self content)
    next =>
      dsimp only at h
      split at h
      next hcond =>
        simp only [Bool.and_eq_true] at hcond
        obtain ⟨hstart, hreserved⟩ := hcond
        obtain ⟨hname, hrest⟩ := Prod.mk.inj (Option.some.inj h)
        have hword : name.toList.takeWhile isWordChar = name.toList := by
          have hall := List.takeWhile_append_dropWhile (p := isWordChar) (l := name.toList)
          rwa [hrest, List.append_nil] at hall
        rw [hword, String.ofList_toList] at hname hreserved
        have hlower := asciiLowercase_eq_self_iff.1 hname
        obtain ⟨c, hc, hcstart⟩ := (Option.any_eq_true _ _).1 hstart
        simp only [isBare, isReserved_eq, Bool.and_eq_true, List.all_eq_true]
        refine ⟨⟨(Option.any_eq_true _ _).2 ⟨c, hc, ?_⟩, fun d hd => ?_⟩, hname ▸ hreserved⟩
        · exact isBareStart_iff.2 ⟨hcstart, hlower c (List.mem_of_mem_head? hc)⟩
        · exact isBareChar_iff.2 ⟨List.takeWhile_eq_self_iff.1 hword d hd, hlower d hd⟩
      next => cases h

/-! ### What is written -/

theorem toList_quoted (name : String) :
    (quoted name).toList = '\x22' :: (doubled '\x22' name.toList ++ ['\x22']) :=
  String.toList_ofList

theorem readIdent?_quoted (name : String) {rest : List Char} (hrest : EndsIdent rest) :
    readIdent? ((quoted name).toList ++ rest) = some (name, rest) := by
  have hquote : rest.head? ≠ some '\x22' := fun h => (hrest _ h).1 rfl
  rw [toList_quoted, List.cons_append, List.append_assoc, List.singleton_append, readIdent?,
    readQuoted_doubled hquote, Option.map_some]
  simp only [String.ofList_toList]

/-- **An identifier is read back from what it is written as**, whatever follows that does not go on
with it. -/
theorem readIdent?_ident (style : Style) (name : String) {rest : List Char}
    (hrest : EndsIdent rest) :
    readIdent? ((style.ident name).toList ++ rest) = some (name, rest) := by
  unfold Style.ident
  split
  next => exact readIdent?_quoted name hrest
  next h =>
    rw [Bool.not_eq_true, Bool.or_eq_false_iff, Bool.not_eq_false'] at h
    exact readIdent?_of_isBare h.2 hrest

/-- **An object is read back from what it is written as.** -/
theorem readObject?_object (style : Style) (schema name : String) {rest : List Char}
    (hrest : EndsIdent rest) :
    readObject? ((style.object schema name).toList ++ rest) = some ((schema, name), rest) := by
  have hdot : EndsIdent ('.' :: ((style.ident name).toList ++ rest)) :=
    endsIdent_cons _ (by decide)
  have htext : (style.object schema name).toList ++ rest =
      (style.ident schema).toList ++ '.' :: ((style.ident name).toList ++ rest) := by
    simp [Style.object]
  rw [htext, readObject?, readIdent?_ident style schema hdot]
  simp only [readIdent?_ident style name hrest, Option.map_some]

theorem object_inj (style : Style) {schema name schema' name' : String} :
    style.object schema name = style.object schema' name' ↔ schema = schema' ∧ name = name' := by
  constructor
  · intro he
    have hread := readObject?_object style schema name endsIdent_nil
    rw [he, readObject?_object style schema' name' endsIdent_nil] at hread
    exact Prod.mk.inj (Prod.mk.inj (Option.some.inj hread)).1.symm
  · rintro ⟨rfl, rfl⟩
    rfl

/-- **Identifiers read back.**  What an identifier is written as is read as that identifier, to the
end, and it is written without quotes exactly if it may be and is read back that way.  The identifiers
of an object are read back from its two names with a point between.  So neither two identifiers nor
two objects are written the same. -/
theorem identifiers_read_back (style : Style) :
    (∀ name, readIdent? (style.ident name).toList = some (name, [])) ∧
      (∀ name, style.ident name = name ↔
        style.quoteAll = false ∧ readIdent? name.toList = some (name, [])) ∧
      (∀ schema name, readObject? (style.object schema name).toList = some ((schema, name), [])) ∧
      Function.Injective style.ident ∧
      Function.Injective fun object : String × String => style.object object.1 object.2 := by
  have hident : ∀ name, readIdent? (style.ident name).toList = some (name, []) := fun name => by
    simpa using readIdent?_ident style name endsIdent_nil
  refine ⟨hident, fun name => ?_, fun schema name => ?_, fun name name' he => ?_,
    fun object object' he => Prod.ext_iff.2 ((object_inj style).1 he)⟩
  · rw [← isBare_iff]
    constructor
    · intro h
      unfold Style.ident at h
      split at h
      next =>
        have hquotes := congrArg String.toList h
        rw [toList_quoted] at hquotes
        exact absurd hquotes (quotes_ne_self _)
      next hcond => simpa using hcond
    · rintro ⟨hall, hbare⟩
      rw [Style.ident, hall, hbare]
      rfl
  · simpa using readObject?_object style schema name endsIdent_nil
  · have hread := hident name
    rw [he, hident name'] at hread
    exact (Prod.mk.inj (Option.some.inj hread)).1.symm

end SchemaPlan.Sql
