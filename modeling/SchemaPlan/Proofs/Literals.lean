import SchemaPlan.Proofs.Identifiers
import SchemaPlan.Proofs.KeyLiterals

/-!
# Literals stand alone

The text of a cell that is no expression comes from outside, so it must not become part of the
statement around it.  Each such cell is written as one token (`Token`): `NULL`, a truth value, a
number, or a text between quotes.  The token ends where the literal does, whatever the statement goes
on with (`readToken?_of_isWritten`), and it says what the cell says: a text is read as the text of the
cell, a number is the text without the blanks around it, and `NULL` stands for a cell that says
nothing.

What is a number is settled by a parser of floating-point numbers, which knows exponents, infinities
and what is not a number as well (`IsFloat`), less the texts with a letter of those.  What is left
are the decimal numbers (`isNumber_iff_float`): digits with at most one point among them, behind at
most one sign.
-/

namespace SchemaPlan

namespace Sql

open SchemaPlan.Text

/-! ### Numbers -/

/-- At most one sign. -/
def IsSign (cs : List Char) : Prop :=
  cs = [] ∨ cs = ['+'] ∨ cs = ['-']

/-- Only digits. -/
def AreDigits (cs : List Char) : Prop :=
  ∀ c ∈ cs, c.isDigit = true

/-- Digits, at least one, with a point in front of them, among them or behind them perhaps. -/
inductive IsMantissa : List Char → Prop
  | whole {digits : List Char} : AreDigits digits → digits ≠ [] → IsMantissa digits
  | pointed {whole fraction : List Char} : AreDigits whole → AreDigits fraction →
      whole ++ fraction ≠ [] → IsMantissa (whole ++ '.' :: fraction)

/-- A decimal number, with a sign perhaps. -/
def IsNumber (cs : List Char) : Prop :=
  ∃ sign mantissa, IsSign sign ∧ IsMantissa mantissa ∧ cs = sign ++ mantissa

/-- The characters are the letters of a word, in whatever case. -/
def Spells (word : String) (cs : List Char) : Prop :=
  List.Forall₂ (fun letter c => c = letter ∨ c = letter.toUpper) word.toList cs

/-- What is read as a floating-point number. -/
inductive IsFloat : List Char → Prop
  | word {sign cs : List Char} (word : String) : IsSign sign →
      word ∈ ["inf", "infinity", "nan"] → Spells word cs → IsFloat (sign ++ cs)
  | number {cs : List Char} : IsNumber cs → IsFloat cs
  | scaled {cs sign digits : List Char} {e : Char} : IsNumber cs → (e = 'e' ∨ e = 'E') →
      IsSign sign → AreDigits digits → digits ≠ [] → IsFloat (cs ++ e :: (sign ++ digits))

/-- The letters that tell other floating-point numbers from decimal ones. -/
def floatLetters : List Char :=
  ['e', 'E', 'n', 'N', 'i', 'I']

/-- The decimal numbers, as they are recognised. -/
def isNumber : List Char → Bool
  | '+' :: cs => isDecimal cs
  | '-' :: cs => isDecimal cs
  | cs => isDecimal cs

theorem isDecimal_iff {cs : List Char} : isDecimal cs = true ↔ IsMantissa cs := by
  simp only [isDecimal, Bool.and_eq_true, List.any_eq_true, List.all_eq_true, decide_eq_true_eq,
    Bool.or_eq_true, beq_iff_eq]
  constructor
  · rintro ⟨⟨⟨d, hd, hdigit⟩, hall⟩, hcount⟩
    have hdigits : ∀ {ds : List Char}, (∀ c ∈ ds, c ∈ cs) → '.' ∉ ds → AreDigits ds :=
      fun hsub hpoint c hc => (hall c (hsub c hc)).resolve_right fun he => hpoint (he ▸ hc)
    by_cases hpoint : '.' ∈ cs
    · obtain ⟨whole, fraction, rfl⟩ := List.append_of_mem hpoint
      rw [List.count_append, List.count_cons_self] at hcount
      have hwhole : '.' ∉ whole := List.count_eq_zero.1 (by omega)
      have hfraction : '.' ∉ fraction := List.count_eq_zero.1 (by omega)
      have hfront : ∀ c ∈ whole, c ∈ whole ++ '.' :: fraction := fun c => List.mem_append_left _
      have hback : ∀ c ∈ fraction, c ∈ whole ++ '.' :: fraction :=
        fun c hc => List.mem_append_right _ (List.mem_cons_of_mem _ hc)
      refine .pointed (hdigits hfront hwhole) (hdigits hback hfraction) fun hnil => ?_
      obtain ⟨rfl, rfl⟩ := List.append_eq_nil_iff.1 hnil
      obtain rfl := List.mem_singleton.1 hd
      exact absurd hdigit (by decide)
    · exact .whole (hdigits (fun _ => id) hpoint) (List.ne_nil_of_mem hd)
  · intro h
    have hpoint : ∀ {ds : List Char}, AreDigits ds → '.' ∉ ds :=
      fun hds hm => absurd (hds _ hm) (by decide)
    cases h with
    | whole hdigits hne =>
      obtain ⟨d, hd⟩ := List.exists_mem_of_ne_nil _ hne
      refine ⟨⟨⟨d, hd, hdigits d hd⟩, fun c hc => .inl (hdigits c hc)⟩, ?_⟩
      rw [List.count_eq_zero.2 (hpoint hdigits)]
      exact Nat.zero_le 1
    | pointed hwhole hfraction hne =>
      obtain ⟨d, hd⟩ := List.exists_mem_of_ne_nil _ hne
      have hboth := List.forall_mem_append.2 ⟨hwhole, hfraction⟩
      refine ⟨⟨⟨d, ?_, hboth d hd⟩, fun c hc => ?_⟩, ?_⟩
      · rcases List.mem_append.1 hd with h | h <;> simp [h]
      · rcases List.mem_append.1 hc with h | h
        · exact .inl (hwhole c h)
        · exact (List.mem_cons.1 h).symm.imp (hfraction c) id
      · rw [List.count_append, List.count_cons_self, List.count_eq_zero.2 (hpoint hwhole),
          List.count_eq_zero.2 (hpoint hfraction)]

/-- A mantissa has no sign. -/
theorem not_isMantissa_of_sign {c : Char} {cs : List Char} (hc : c = '+' ∨ c = '-') :
    ¬ IsMantissa (c :: cs) := by
  rw [← isDecimal_iff]
  intro h
  simp only [isDecimal, Bool.and_eq_true, List.all_eq_true] at h
  have := h.1.2 c List.mem_cons_self
  rcases hc with rfl | rfl <;> exact absurd this (by decide)

theorem isNumber_iff {cs : List Char} : isNumber cs = true ↔ IsNumber cs := by
  have hsigned : ∀ {c : Char} {ds : List Char}, (c = '+' ∨ c = '-') →
      (IsNumber (c :: ds) ↔ IsMantissa ds) := by
    intro c ds hc
    constructor
    · rintro ⟨sign, mantissa, hsign | hsign | hsign, hmantissa, he⟩ <;> subst hsign
      · rw [List.nil_append] at he
        exact absurd (he ▸ hmantissa) (not_isMantissa_of_sign hc)
      · cases he
        exact hmantissa
      · cases he
        exact hmantissa
    · intro h
      exact ⟨[c], ds, .inr (hc.imp (congrArg (· :: [])) (congrArg (· :: []))), h, rfl⟩
  unfold isNumber
  split
  next => rw [isDecimal_iff, hsigned (.inl rfl)]
  next => rw [isDecimal_iff, hsigned (.inr rfl)]
  next hplus hminus =>
    rw [isDecimal_iff]
    constructor
    · exact fun h => ⟨[], _, .inl rfl, h, rfl⟩
    · rintro ⟨sign, mantissa, hsign | hsign | hsign, hmantissa, he⟩ <;> subst hsign
      · exact he ▸ hmantissa
      · exact absurd he (hplus _)
      · exact absurd he (hminus _)

/-- The characters of a decimal number. -/
theorem IsNumber.mem {cs : List Char} (h : IsNumber cs) {c : Char} (hc : c ∈ cs) :
    c.isDigit = true ∨ c = '.' ∨ c = '+' ∨ c = '-' := by
  obtain ⟨sign, mantissa, hsign, hmantissa, rfl⟩ := h
  rcases List.mem_append.1 hc with hc | hc
  · rcases hsign with rfl | rfl | rfl
    · cases hc
    · exact .inr (.inr (.inl (List.mem_singleton.1 hc)))
    · exact .inr (.inr (.inr (List.mem_singleton.1 hc)))
  · have hdecimal := isDecimal_iff.2 hmantissa
    simp only [isDecimal, Bool.and_eq_true, List.all_eq_true, Bool.or_eq_true, beq_iff_eq]
      at hdecimal
    exact (hdecimal.1.2 c hc).imp_right .inl

/-- **Decimal numbers are the floating-point numbers without letters.** -/
theorem isNumber_iff_float {cs : List Char} :
    IsNumber cs ↔ IsFloat cs ∧ ∀ c ∈ cs, c ∉ floatLetters := by
  constructor
  · intro h
    refine ⟨.number h, fun c hc hletter => ?_⟩
    simp only [floatLetters, List.mem_cons, List.not_mem_nil, or_false] at hletter
    rcases hletter with rfl | rfl | rfl | rfl | rfl | rfl
    all_goals exact absurd (h.mem hc) (by decide)
  · rintro ⟨hfloat, hletters⟩
    cases hfloat with
    | number h => exact h
    | word word _ hword hspells =>
      have hfirst : ∃ letter letters, word.toList = letter :: letters ∧ letter ∈ floatLetters ∧
          letter.toUpper ∈ floatLetters := by
        rcases List.mem_cons.1 hword with rfl | hword
        · exact ⟨'i', ['n', 'f'], rfl, by decide, by decide⟩
        · rcases List.mem_cons.1 hword with rfl | hword
          · exact ⟨'i', ['n', 'f', 'i', 'n', 'i', 't', 'y'], rfl, by decide, by decide⟩
          · obtain rfl := List.mem_singleton.1 hword
            exact ⟨'n', ['a', 'n'], rfl, by decide, by decide⟩
      obtain ⟨letter, letters, hletter, hlower, hupper⟩ := hfirst
      rw [Spells, hletter] at hspells
      cases hspells with
      | cons hc _ =>
        refine absurd ?_ (hletters _ (List.mem_append_right _ List.mem_cons_self))
        rcases hc with rfl | rfl
        · exact hlower
        · exact hupper
    | scaled _ he =>
      refine absurd ?_ (hletters _ (List.mem_append_right _ List.mem_cons_self))
      rcases he with rfl | rfl <;> decide

theorem isNumeric_eq (s : String) : isNumeric s = isNumber (trimmed s).toList := by
  rw [trimmed, String.toList_ofList]
  unfold isNumeric
  split
  next he => rw [he, isNumber]
  next he => rw [he, isNumber]
  next hplus hminus => rw [isNumber] <;> assumption

/-! ### Tokens -/

/-- What a literal is to whoever reads the statement. -/
inductive Token where
  | null
  | truth (value : Bool)
  | number (digits : String)
  | text (value : String)
deriving DecidableEq

/-- What a token is written as.  A text begins and ends with a single quote, and those in it are
written twice. -/
def Token.IsWritten (s : String) : Token → Prop
  | .null => s = "NULL"
  | .truth value => s = if value then "TRUE" else "FALSE"
  | .number digits => s = digits ∧ IsNumber digits.toList
  | .text value => s.toList = '\x27' :: (doubled '\x27' value.toList ++ ['\x27'])

/-- Whether a character goes on with a keyword or a number. -/
def isTokenChar (c : Char) : Bool :=
  isWordChar c || c == '.' || c == '+' || c == '-'

/-- The token that a text begins with, and what follows it.  Between quotes is a text, which ends at
the first quote that is not written twice; otherwise the token is as long as it can be. -/
def readToken? : List Char → Option (Token × List Char)
  | '\x27' :: cs =>
    (readQuoted '\x27' cs).map fun (value, rest) => (.text (String.ofList value), rest)
  | cs =>
    let word := cs.takeWhile isTokenChar
    let rest := cs.dropWhile isTokenChar
    if word = "NULL".toList then some (.null, rest)
    else if word = "TRUE".toList then some (.truth true, rest)
    else if word = "FALSE".toList then some (.truth false, rest)
    else if isNumber word then some (.number (String.ofList word), rest)
    else none

/-- What statements put behind a literal, if anything. -/
def FollowsLiteral (rest : List Char) : Prop :=
  ∀ c ∈ rest.head?, c ∈ [',', ')', ';', ' ']

section Reading

variable {rest : List Char}

theorem FollowsLiteral.stop (h : FollowsLiteral rest) :
    rest.head? ≠ some '\x27' ∧ ∀ c ∈ rest.head?, isTokenChar c = false := by
  have hboth : ∀ c ∈ rest.head?, c ≠ '\x27' ∧ isTokenChar c = false := by
    intro c hc
    have hlisted := h c hc
    simp only [List.mem_cons, List.not_mem_nil, or_false] at hlisted
    rcases hlisted with rfl | rfl | rfl | rfl <;> decide
  exact ⟨fun hquote => (hboth _ hquote).1 rfl, fun c hc => (hboth c hc).2⟩

/-- A keyword or a number is read up to what follows. -/
theorem readToken?_word {word : List Char} (hne : word ≠ [])
    (hword : word.all isTokenChar = true) (hrest : FollowsLiteral rest) :
    readToken? (word ++ rest) =
      if word = "NULL".toList then some (.null, rest)
      else if word = "TRUE".toList then some (.truth true, rest)
      else if word = "FALSE".toList then some (.truth false, rest)
      else if isNumber word then some (.number (String.ofList word), rest)
      else none := by
  rw [List.all_eq_true] at hword
  obtain ⟨c, cs, rfl⟩ := List.exists_cons_of_ne_nil hne
  unfold readToken?
  split
  next he =>
    cases he
    exact absurd (hword _ List.mem_cons_self) (by decide)
  next =>
    rw [takeWhile_append_of_stop hword hrest.stop.2, dropWhile_append_of_stop hword hrest.stop.2]

/-- **A token is read from what it is written as**, and no more than that is read. -/
theorem readToken?_of_isWritten {s : String} {token : Token} (h : token.IsWritten s)
    (hrest : FollowsLiteral rest) : readToken? (s.toList ++ rest) = some (token, rest) := by
  cases token with
  | null =>
    rw [show s = "NULL" from h, readToken?_word (by decide) (by decide) hrest]
    rfl
  | truth value =>
    rw [show s = if value then "TRUE" else "FALSE" from h]
    cases value with
    | true =>
      rw [if_pos rfl, readToken?_word (by decide) (by decide) hrest]
      rfl
    | false =>
      rw [if_neg nofun, readToken?_word (by decide) (by decide) hrest]
      rfl
  | number text =>
    obtain ⟨rfl, hnumber⟩ := h
    have hchars : s.toList.all isTokenChar = true := by
      rw [List.all_eq_true]
      intro c hc
      rcases hnumber.mem hc with hdigit | rfl | rfl | rfl
      · simp [isTokenChar, isWordChar, Char.isAlphanum, hdigit]
      · rfl
      · rfl
      · rfl
    have hkeyword : ∀ {word : String}, 'L' ∈ word.toList ∨ 'E' ∈ word.toList →
        s.toList ≠ word.toList := by
      intro word hletter he
      rw [← he] at hletter
      rcases hletter with hletter | hletter <;> exact absurd (hnumber.mem hletter) (by decide)
    have hne : s.toList ≠ [] := by
      rintro he
      have hdecimal := isNumber_iff.2 hnumber
      rw [he] at hdecimal
      exact absurd hdecimal (by decide)
    rw [readToken?_word hne hchars hrest, if_neg (hkeyword (.inl (by decide))),
      if_neg (hkeyword (.inr (by decide))), if_neg (hkeyword (.inr (by decide))),
      if_pos (isNumber_iff.2 hnumber), String.ofList_toList]
  | text value =>
    rw [show s.toList = _ from h, List.cons_append, List.append_assoc, List.singleton_append,
      readToken?, readQuoted_doubled hrest.stop.1, Option.map_some]
    simp only [String.ofList_toList]

end Reading

/-- What is written is one token only. -/
theorem Token.eq_of_isWritten {s : String} {token other : Token} (h : token.IsWritten s)
    (hother : other.IsWritten s) : token = other := by
  have hnothing : FollowsLiteral [] := nofun
  have hread := readToken?_of_isWritten h hnothing
  rw [readToken?_of_isWritten hother hnothing] at hread
  exact (Prod.mk.inj (Option.some.inj hread)).1.symm

/-! ### Types -/

/-- The normal form of a type without its modifiers, unless it is the type of arrays. -/
def scalarType? (dataType : String) : Option String :=
  let normal := (TypeName.normalize dataType).toList
  if normal.contains '[' then none
  else some (trimmed (String.ofList (normal.takeWhile (!TypeName.opensModifiers ·))))

theorem bare?_eq (dataType value : String) :
    bare? dataType value = (scalarType? dataType).bind (bareScalar? · value) := by
  unfold bare? scalarType?
  dsimp only
  split
  next => rw [Option.bind_none]
  next => rw [Option.bind_some]

/-- What a token says of the text that it is written for, in a column of the type. -/
def Token.Says (dataType : String) (said : Option String) : Token → Prop
  | .null => said = none
  | .truth value => scalarType? dataType = some "boolean" ∧ ∃ word, said = some word ∧
      asciiLowercase word ∈ if value then trueWords else falseWords
  | .number digits => ∃ type value, scalarType? dataType = some type ∧ type ∈ numericTypes ∧
      said = some value ∧ digits = trimmed value
  | .text value => said = some value

theorem bareScalar?_of_isNumber {type text : String} (htype : type ∈ numericTypes)
    (h : IsNumber (trimmed text).toList) : bareScalar? type text = some (trimmed text) := by
  have hboolean : (type == "boolean") = false := by
    have hall : ∀ t ∈ numericTypes, (t == "boolean") = false := by decide
    exact hall type htype
  have hnumeric : isNumeric text = true := by
    rw [isNumeric_eq, isNumber_iff]
    exact h
  simp [bareScalar?, hboolean, hnumeric, htype]

/-- A text is written as a token that says it. -/
theorem exists_token (dataType text : String) : ∃ token : Token,
    token.IsWritten (textLiteral dataType text) ∧ token.Says dataType (some text) := by
  cases hbare : bare? dataType text with
  | none =>
    refine ⟨.text text, ?_, rfl⟩
    rw [textLiteral, hbare]
    exact toList_quotedText text
  | some bare =>
    rw [textLiteral, hbare, Option.getD_some]
    rw [bare?_eq] at hbare
    obtain ⟨type, htype, hscalar⟩ := Option.bind_eq_some_iff.1 hbare
    unfold bareScalar? at hscalar
    split at hscalar
    next hboolean =>
      rw [eq_of_beq hboolean] at htype
      split at hscalar
      next htrue =>
        cases hscalar
        exact ⟨.truth true, rfl, htype, text, rfl, List.contains_iff_mem.1 htrue⟩
      next =>
        split at hscalar
        next hfalse =>
          cases hscalar
          exact ⟨.truth false, rfl, htype, text, rfl, List.contains_iff_mem.1 hfalse⟩
        next => cases hscalar
    next =>
      split at hscalar
      next hnumeric =>
        cases hscalar
        rw [Bool.and_eq_true, List.contains_iff_mem, isNumeric_eq, isNumber_iff] at hnumeric
        exact ⟨.number (trimmed text), ⟨rfl, hnumeric.2⟩, type, text, htype, hnumeric.1, rfl, rfl⟩
      next => cases hscalar

end Sql

namespace Cell

/-- The text of a cell that is no expression, if it is not null. -/
def text? (cell : Cell) : Option String :=
  if cell.null then none else if cell.empty then some "" else cell.value

theorem literal_of_not_sql {cell : Cell} (h : cell.sql = false) (dataType : String) :
    Sql.literal dataType cell = (cell.text?.map (Sql.textLiteral dataType)).getD "NULL" := by
  rw [literal_eq_content, content, text?]
  split
  next => rfl
  next =>
    split
    next => rw [Option.map_some, Option.getD_some, Content.literal]
    next =>
      cases cell.value with
      | none => rfl
      | some value =>
        rw [Option.map_some, Option.getD_some]
        dsimp only
        rw [h, if_neg Bool.false_ne_true, Content.literal]

end Cell

open Sql

/-- A cell that is no expression is written as a token that says what it says. -/
theorem exists_token_of_cell {cell : Cell} (h : cell.sql = false) (dataType : String) :
    ∃ token : Token, token.IsWritten (literal dataType cell) ∧
      token.Says dataType cell.text? := by
  rw [cell.literal_of_not_sql h]
  cases cell.text? with
  | none =>
    rw [Option.map_none, Option.getD_none]
    exact ⟨.null, rfl, rfl⟩
  | some text =>
    rw [Option.map_some, Option.getD_some]
    exact exists_token dataType text

/-- **Literals stand alone.**  A cell that is no expression is written as one token, which ends with
the literal whatever the statement goes on with, and says what the cell says.  It is `NULL` exactly
if the cell says nothing, and a number exactly if the column has a number type and the text of the
cell, without the blanks around it, is read as a floating-point number and has no letter of those
that are not decimal. -/
theorem literals_stand_alone {cell : Cell} (h : cell.sql = false) (dataType : String) :
    (∃ token : Token, token.IsWritten (literal dataType cell) ∧
        (∀ rest, FollowsLiteral rest →
          readToken? ((literal dataType cell).toList ++ rest) = some (token, rest)) ∧
        token.Says dataType cell.text?) ∧
      (literal dataType cell = "NULL" ↔ cell.text? = none) ∧
      (IsNumber (literal dataType cell).toList ↔
        ∃ type value, scalarType? dataType = some type ∧ type ∈ numericTypes ∧
          cell.text? = some value ∧ IsFloat (Text.trimmed value).toList ∧
          ∀ c ∈ (Text.trimmed value).toList, c ∉ floatLetters) := by
  obtain ⟨token, hwritten, hsays⟩ := exists_token_of_cell h dataType
  refine ⟨⟨token, hwritten, fun rest => readToken?_of_isWritten hwritten, hsays⟩, ?_, ?_⟩
  · constructor
    · intro hnull
      have hother : Token.null.IsWritten (literal dataType cell) := hnull
      obtain rfl := Token.eq_of_isWritten hwritten hother
      exact hsays
    · intro hnone
      rw [cell.literal_of_not_sql h, hnone]
      rfl
  · constructor
    · intro hnumber
      have hother : (Token.number (literal dataType cell)).IsWritten (literal dataType cell) :=
        ⟨rfl, hnumber⟩
      obtain rfl := Token.eq_of_isWritten hwritten hother
      obtain ⟨type, value, htype, hnumeric, htext, htrimmed⟩ := hsays
      rw [htrimmed, isNumber_iff_float] at hnumber
      exact ⟨type, value, htype, hnumeric, htext, hnumber⟩
    · rintro ⟨type, value, htype, hnumeric, htext, hfloat⟩
      have hnumber := isNumber_iff_float.2 hfloat
      have hbare : bare? dataType value = some (Text.trimmed value) := by
        rw [bare?_eq, htype, Option.bind_some, bareScalar?_of_isNumber hnumeric hnumber]
      rw [cell.literal_of_not_sql h, htext, Option.map_some, Option.getD_some, textLiteral, hbare,
        Option.getD_some]
      exact hnumber

/-- An amount with blanks around it, in a column of a number type with modifiers. -/
def Literals.amount : Cell where
  value := some " -12.50\t"

/-- The amount is written as the number that it is; as an element of an array it would be a text. -/
theorem literals_stand_alone_of_amount :
    IsNumber (literal "DECIMAL (8, 2)" Literals.amount).toList ∧
      ¬ IsNumber (literal "decimal(8,2)[]" Literals.amount).toList := by
  have htype : scalarType? "DECIMAL (8, 2)" = some "numeric" := by decide +kernel
  have harray : scalarType? "decimal(8,2)[]" = none := by decide +kernel
  have hnumber : IsNumber (Text.trimmed " -12.50\t").toList :=
    isNumber_iff.1 (by decide +kernel)
  constructor
  · exact (literals_stand_alone rfl "DECIMAL (8, 2)").2.2.2
      ⟨"numeric", " -12.50\t", htype, by decide, rfl, isNumber_iff_float.1 hnumber⟩
  · intro hnumber
    obtain ⟨type, value, htype, -⟩ := (literals_stand_alone rfl "decimal(8,2)[]").2.2.1 hnumber
    rw [harray] at htype
    cases htype

end SchemaPlan
