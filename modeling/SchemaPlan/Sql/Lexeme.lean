import SchemaPlan.Sql.Operator
import SchemaPlan.Sql.Quotation
import SchemaPlan.Text.Blank
import SchemaPlan.Text.Case

/-!
# Lexemes of a query

A query is cut into words, quoted names, literals, operators and marks; blanks and comments only
separate them.  `lexemes?` fails when something that was opened is not closed, and when an escape or
an operator is not complete.

Quoted names and plain strings keep what is written between the quotes, because either can name a
table.  Of other literals only the kind is kept.
-/

namespace SchemaPlan.Sql

open SchemaPlan.Text

/-- The kinds of literals that are not plain strings or numbers. -/
inductive LiteralKind where
  | escaped
  | codePoints
  | national
  | hexadecimal
  | bits
  | dollar
deriving DecidableEq

/-- A piece of a query. -/
inductive Lexeme where
  /-- A word without quotes, and its capital form, by which keywords are known. -/
  | word (text capital : String)
  | quotedName (text : String)
  | string (text : String)
  | number (text : String)
  | literal (kind : LiteralKind)
  | parameter
  | operator (text : String)
  | mark (c : Char)
deriving DecidableEq

/-- Whether a lexeme is this keyword. -/
def Lexeme.isKeyword (keyword : String) : Lexeme → Bool
  | .word _ capital => capital == keyword
  | _ => false

/-- Whether a lexeme is a word or a quoted name. -/
def Lexeme.isWord : Lexeme → Bool
  | .word _ _ | .quotedName _ => true
  | _ => false

/-- A lexeme as it is shown where it is part of a name: strings count as names too. -/
def Lexeme.shownName? : Lexeme → Option String
  | .word text _ => some text
  | .quotedName text => some (betweenQuotes '\x22' text)
  | .string text => some (betweenQuotes '\x27' text)
  | _ => none

/-! ### Words and numbers -/

/-- Whether a character may begin a word. -/
def isWordStart (c : Char) : Bool :=
  c == '_' || isAlphabetic c

/-- Whether a character may stand in a word. -/
def isWordPart (c : Char) : Bool :=
  isWordStart c || c.isDigit || c == '$'

/-- The word that begins with `c`. -/
def readWord (c : Char) (cs : List Char) : Lexeme × List Char :=
  let text := String.ofList (c :: cs.takeWhile isWordPart)
  (.word text (uppercase text), cs.dropWhile isWordPart)

/-- The digits that a text begins with, with underscores in front of digits passed over, and what
follows them. -/
def readDigits (isDigit : Char → Bool) : List Char → List Char × List Char
  | [] => ([], [])
  | c :: cs =>
    if isDigit c || (c == '_' && cs.head?.any isHexDigit) then
      let (ds, rest) := readDigits isDigit cs
      (c :: ds, rest)
    else ([], c :: cs)

/-- The exponent that a text begins with, which may be missing. -/
def readExponent : List Char → List Char
  | e :: cs =>
    if e == 'e' || e == 'E' then
      let sign := (cs.take 1).filter fun c => c == '+' || c == '-'
      let ds := (cs.drop sign.length).takeWhile Char.isDigit
      if ds.isEmpty then [] else e :: (sign ++ ds)
    else []
  | [] => []

/-- A text without the character `c` in front. -/
def dropFirst (c : Char) (cs : List Char) : List Char :=
  if cs.head? == some c then cs.drop 1 else cs

/-- The number that a text begins with, or the point that turns out to stand alone. -/
def readNumber (cs : List Char) : Lexeme × List Char :=
  let whole := readDigits Char.isDigit cs
  if whole.1 == ['0'] && whole.2.head? == some 'x' then
    (.literal .hexadecimal, (readDigits isHexDigit (whole.2.drop 1)).2)
  else
    let point := whole.2.takeWhile (· == '.') |>.take 1
    let fraction := readDigits Char.isDigit (dropFirst '.' whole.2)
    let exponent := readExponent fraction.2
    if whole.1.isEmpty && fraction.1.isEmpty then (.mark '.', fraction.2)
    else (.number (String.ofList (whole.1 ++ point ++ fraction.1 ++ exponent)),
      dropFirst 'L' (fraction.2.drop exponent.length))

theorem length_of_readDigits (isDigit : Char → Bool) (cs : List Char) :
    (readDigits isDigit cs).2.length + (readDigits isDigit cs).1.length = cs.length := by
  fun_induction readDigits isDigit cs with
  | case1 => rfl
  | case2 c cs _ ds rest he ih =>
    rw [he] at ih
    simp only [List.length_cons] at ih ⊢
    omega
  | case3 => rfl

theorem length_of_dropFirst (c : Char) (cs : List Char) : (dropFirst c cs).length ≤ cs.length := by
  unfold dropFirst
  split <;> simp

/-- Something that begins with a digit or with a point is not read for nothing. -/
theorem length_of_readNumber {c : Char} {cs : List Char} (hc : c.isDigit ∨ c = '.') :
    (readNumber (c :: cs)).2.length ≤ cs.length := by
  have hw := length_of_readDigits Char.isDigit (c :: cs)
  have hp : (dropFirst '.' (readDigits Char.isDigit (c :: cs)).2).length ≤ cs.length := by
    rcases hc with hc | rfl
    · have hn : (readDigits Char.isDigit (c :: cs)).1 ≠ [] := by
        rw [readDigits, if_pos (by simp [hc])]
        simp
      have := length_of_dropFirst '.' (readDigits Char.isDigit (c :: cs)).2
      have := List.length_pos_iff.2 hn
      simp only [List.length_cons] at hw
      omega
    · rw [readDigits, if_neg (by simp)]
      simp [dropFirst]
  have hf := length_of_readDigits Char.isDigit
    (dropFirst '.' (readDigits Char.isDigit (c :: cs)).2)
  have hl (n : Nat) := length_of_dropFirst 'L' ((readDigits Char.isDigit
    (dropFirst '.' (readDigits Char.isDigit (c :: cs)).2)).2.drop n)
  simp only [List.length_drop] at hl
  unfold readNumber
  dsimp only
  split
  · next hx =>
    have hy := length_of_readDigits isHexDigit ((readDigits Char.isDigit (c :: cs)).2.drop 1)
    simp only [Bool.and_eq_true, beq_iff_eq] at hx
    rw [hx.1] at hw
    simp only [List.length_drop, List.length_cons, List.length_nil] at hw hy ⊢
    omega
  · split
    · dsimp only
      omega
    · dsimp only
      exact Nat.le_trans (hl _) (by omega)

/-! ### Lexemes -/

/-- Whether a literal begins with this letter, in whatever case, and a quote. -/
def opensLiteral (letter : Char) (c : Char) (cs : List Char) : Bool :=
  c.toLower == letter && cs.head? == some '\x27'

/-- The quoted name or the literal between quotes that a text begins with, if it begins with one,
and what follows it unless it is not closed. -/
def readQuotation? (c : Char) (cs : List Char) : Option (Option (Lexeme × List Char)) :=
  if c == '\x27' then
    some ((readQuoted c cs).map fun (content, rest) => (.string (String.ofList content), rest))
  else if c == '\x22' then
    some ((readQuoted c cs).map fun (content, rest) => (.quotedName (String.ofList content), rest))
  else if opensLiteral 'n' c cs then
    some ((readQuoted '\x27' (cs.drop 1)).map fun (_, rest) => (.literal .national, rest))
  else if opensLiteral 'b' c cs then
    some ((readQuoted '\x27' (cs.drop 1)).map fun (_, rest) => (.literal .bits, rest))
  else if (c == 'b' || c == 'B') && cs.head? == some '\x22' then
    some ((readQuoted '\x22' (cs.drop 1)).map fun (_, rest) => (.literal .bits, rest))
  else if opensLiteral 'x' c cs then
    some ((skipBackslashed (cs.drop 1)).map fun rest => (.literal .hexadecimal, rest))
  else if opensLiteral 'e' c cs then
    some ((skipEscaped (cs.drop 1)).map fun rest => (.literal .escaped, rest))
  else if (c == 'u' || c == 'U') && ['&', '\x27'].isPrefixOf cs then
    some ((skipCodePoints (cs.drop 2)).map fun rest => (.literal .codePoints, rest))
  else none

theorem length_of_readQuotation? {c : Char} {cs rest : List Char} {l : Lexeme}
    (h : readQuotation? c cs = some (some (l, rest))) : rest.length ≤ cs.length := by
  have hd (n : Nat) : (cs.drop n).length ≤ cs.length := by simp
  unfold readQuotation? at h
  repeat' split at h
  · obtain ⟨⟨content, r⟩, hr, he⟩ := Option.map_eq_some_iff.1 (Option.some.inj h)
    cases he
    exact length_of_readQuoted hr
  · obtain ⟨⟨content, r⟩, hr, he⟩ := Option.map_eq_some_iff.1 (Option.some.inj h)
    cases he
    exact length_of_readQuoted hr
  · obtain ⟨⟨content, r⟩, hr, he⟩ := Option.map_eq_some_iff.1 (Option.some.inj h)
    cases he
    exact Nat.le_trans (length_of_readQuoted hr) (hd 1)
  · obtain ⟨⟨content, r⟩, hr, he⟩ := Option.map_eq_some_iff.1 (Option.some.inj h)
    cases he
    exact Nat.le_trans (length_of_readQuoted hr) (hd 1)
  · obtain ⟨⟨content, r⟩, hr, he⟩ := Option.map_eq_some_iff.1 (Option.some.inj h)
    cases he
    exact Nat.le_trans (length_of_readQuoted hr) (hd 1)
  · obtain ⟨r, hr, he⟩ := Option.map_eq_some_iff.1 (Option.some.inj h)
    cases he
    exact Nat.le_trans (length_of_skipBackslashed hr) (hd 1)
  · obtain ⟨r, hr, he⟩ := Option.map_eq_some_iff.1 (Option.some.inj h)
    cases he
    exact Nat.le_trans (length_of_skipEscaped hr) (hd 1)
  · obtain ⟨r, hr, he⟩ := Option.map_eq_some_iff.1 (Option.some.inj h)
    cases he
    exact Nat.le_trans (length_of_skipCodePoints hr) (hd 2)
  · cases h

/-- The operator or the mark that a text begins with, unless the operator is not complete, and what
follows it. -/
def readMark? (c : Char) (cs : List Char) : Option (Lexeme × List Char) :=
  match readOperator? (c :: cs) with
  | some (some text, rest) => some (.operator text, rest)
  | some (none, _) => none
  | none => some (.mark c, cs)

theorem length_of_readMark? {c : Char} {cs rest : List Char} {l : Lexeme}
    (h : readMark? c cs = some (l, rest)) : rest.length ≤ cs.length := by
  unfold readMark? at h
  split at h
  · next ho => cases h; exact length_of_readOperator? ho
  · cases h
  · cases h; exact Nat.le_refl _

/-- What a text begins with that is no gap, and what follows.  Right behind a word a point and an
underscore are the point of a name; anywhere else they are a fault. -/
def readPiece? (behindWord : Bool) (c : Char) (cs : List Char) : Option (Lexeme × List Char) :=
  match readQuotation? c cs with
  | some quotation => quotation
  | none =>
    if isWordStart c then some (readWord c cs)
    else if c == '$' then
      (skipDollar cs).map fun (between, rest) =>
        (if between then .literal .dollar else .parameter, rest)
    else if c == '.' && cs.head? == some '_' then
      if behindWord then some (.mark c, cs) else none
    else if c.isDigit || c == '.' then some (readNumber (c :: cs))
    else readMark? c cs

theorem length_of_readPiece? {behindWord : Bool} {c : Char} {cs rest : List Char} {l : Lexeme}
    (h : readPiece? behindWord c cs = some (l, rest)) : rest.length ≤ cs.length := by
  unfold readPiece? at h
  split at h
  · next hq => exact length_of_readQuotation? (hq.trans (congrArg some h))
  · repeat' split at h
    · cases h; exact (List.dropWhile_sublist isWordPart).length_le
    · obtain ⟨⟨between, r⟩, hr, he⟩ := Option.map_eq_some_iff.1 h
      cases he
      exact length_of_skipDollar hr
    · cases h; exact Nat.le_refl _
    · cases h
    · next hc =>
      have := @length_of_readNumber _ cs (by simpa using hc)
      rwa [Option.some.inj h] at this
    · exact length_of_readMark? h

/-- What a text begins with: a gap, which is no lexeme, or a lexeme; and what follows. -/
def readLexeme? (behindWord : Bool) (c : Char) (cs : List Char) :
    Option (Option Lexeme × List Char) :=
  if isBlank c then some (none, cs)
  else if c == '-' && cs.head? == some '-' then
    some (none, cs.dropWhile fun d => d != '\n' && d != '\r')
  else if c == '/' && cs.head? == some '*' then
    (skipComment 0 (cs.drop 1)).map fun rest => (none, rest)
  else (readPiece? behindWord c cs).map fun (l, rest) => (some l, rest)

theorem length_of_readLexeme? {behindWord : Bool} {c : Char} {cs rest : List Char}
    {l : Option Lexeme} (h : readLexeme? behindWord c cs = some (l, rest)) :
    rest.length ≤ cs.length := by
  unfold readLexeme? at h
  repeat' split at h
  · cases h; exact Nat.le_refl _
  · cases h; exact (List.dropWhile_sublist _).length_le
  · obtain ⟨r, hr, he⟩ := Option.map_eq_some_iff.1 h
    cases he
    exact Nat.le_trans (length_of_skipComment hr) (by simp)
  · obtain ⟨⟨l, r⟩, hr, he⟩ := Option.map_eq_some_iff.1 h
    cases he
    exact length_of_readPiece? hr

/-- The lexemes of a text, which may stand right behind a word. -/
def lexemesFrom? (behindWord : Bool) (cs : List Char) : Option (List Lexeme) :=
  match cs with
  | [] => some []
  | c :: cs =>
    match _h : readLexeme? behindWord c cs with
    | none => none
    | some (l, rest) => (lexemesFrom? (l.any Lexeme.isWord) rest).map (l.toList ++ ·)
termination_by cs.length
decreasing_by
  have := length_of_readLexeme? _h
  simp only [List.length_cons]
  omega

/-- The lexemes of a query. -/
def lexemes? (query : String) : Option (List Lexeme) :=
  lexemesFrom? false query.toList

end SchemaPlan.Sql
