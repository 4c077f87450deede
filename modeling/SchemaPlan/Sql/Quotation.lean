import SchemaPlan.Text.Alphabet

/-!
# What stands between quotes in a query

The pieces of a query that have an end of their own: strings and quoted names, comments, and texts
between dollar signs.  Each function takes the text behind the opening mark and gives what follows
the closing one, or nothing when the piece is not closed.

In most strings the quote is the only character with a meaning, and written twice it stands for
itself.  Three kinds of strings know a backslash as well: in one it only keeps the next character
from closing the string, in the other two it begins an escape, which has to name a character.
-/

namespace SchemaPlan.Sql

open SchemaPlan.Text

/-! ### Quotes -/

/-- What stands before a closing quote, with quotes written twice as one, and what follows it. -/
def readQuoted (q : Char) : List Char → Option (List Char × List Char)
  | [] => none
  | [c] => if c = q then some ([], []) else none
  | c :: d :: cs =>
    if c = q then
      if d = q then (readQuoted q cs).map fun (content, rest) => (c :: content, rest)
      else some ([], d :: cs)
    else (readQuoted q (d :: cs)).map fun (content, rest) => (c :: content, rest)

/-- A text with its quotes written twice, `before` being the character in front of it.  A quote
behind a backslash and two quotes in a row count as written twice already. -/
def doubledQuotes (q before : Char) : List Char → List Char
  | [] => []
  | [c] => if c = q && before ≠ '\\' then [c, c] else [c]
  | c :: d :: cs =>
    if c = q then
      if before = '\\' then c :: doubledQuotes q before (d :: cs)
      else if d = q then c :: d :: doubledQuotes q c cs
      else c :: c :: doubledQuotes q c (d :: cs)
    else c :: doubledQuotes q c (d :: cs)

/-- A text between quotes. -/
def betweenQuotes (q : Char) (text : String) : String :=
  String.ofList (q :: (doubledQuotes q (Char.ofNat 0) text.toList ++ [q]))

/-- What follows a string in which a backslash keeps the next character from closing it. -/
def skipBackslashed : List Char → Option (List Char)
  | [] => none
  | '\\' :: _ :: cs => skipBackslashed cs
  | '\x27' :: '\x27' :: cs => skipBackslashed cs
  | c :: cs => if c == '\x27' then some cs else skipBackslashed cs

/-! ### Escapes -/

/-- Whether a character is a hexadecimal digit. -/
def isHexDigit (c : Char) : Bool :=
  c.isDigit || ('a' ≤ c && c ≤ 'f') || ('A' ≤ c && c ≤ 'F')

/-- Whether a character is an octal digit. -/
def isOctalDigit (c : Char) : Bool :=
  '0' ≤ c && c ≤ '7'

/-- The value of digits to a base. -/
def digitsValue (base : Nat) (ds : List Char) : Nat :=
  ds.foldl (fun n d =>
    base * n + (if d.isDigit then d.toNat - 48 else d.toLower.toNat - 87)) 0

/-- The code point spelled by the first `n` characters, if they are hexadecimal digits and spell
one. -/
def codePoint? (n : Nat) (cs : List Char) : Option Nat :=
  let ds := cs.take n
  if ds.length == n && ds.all isHexDigit && (digitsValue 16 ds).isValidChar then
    some (digitsValue 16 ds)
  else none

/-- How many characters behind a backslash belong to its escape, unless that names no character.
The null character counts as none, and so does a byte that is not one of the basic alphabet. -/
def escapeLength? : List Char → Option Nat
  | [] => none
  | c :: cs =>
    if c == 'u' then if (codePoint? 4 cs).any (· ≠ 0) then some 5 else none
    else if c == 'U' then if (codePoint? 8 cs).any (· ≠ 0) then some 9 else none
    else if c == 'x' then
      let ds := (cs.take 2).takeWhile isHexDigit
      let byte := digitsValue 16 ds
      if ds.isEmpty || (0 < byte && byte < 128) then some (ds.length + 1) else none
    else if isOctalDigit c then
      let ds := c :: (cs.take 2).takeWhile isOctalDigit
      let byte := digitsValue 8 ds % 256
      if 0 < byte && byte < 128 then some ds.length else none
    else if c.toNat == 0 then none
    else some 1

/-- What follows a string in which a backslash begins an escape. -/
def skipEscaped : List Char → Option (List Char)
  | [] => none
  | '\x27' :: '\x27' :: cs => skipEscaped cs
  | c :: cs =>
    if c == '\x27' then some cs
    else if c == '\\' then
      match escapeLength? cs with
      | some n => skipEscaped (cs.drop n)
      | none => none
    else skipEscaped cs
termination_by cs => cs.length

/-- What follows a string in which a backslash begins a code point: four digits, or a plus and six
digits. -/
def skipCodePoints : List Char → Option (List Char)
  | [] => none
  | '\x27' :: '\x27' :: cs => skipCodePoints cs
  | '\\' :: '\\' :: cs => skipCodePoints cs
  | '\\' :: '+' :: cs => if (codePoint? 6 cs).isSome then skipCodePoints (cs.drop 6) else none
  | c :: cs =>
    if c == '\x27' then some cs
    else if c == '\\' then
      if (codePoint? 4 cs).isSome then skipCodePoints (cs.drop 4) else none
    else skipCodePoints cs
termination_by cs => cs.length

/-! ### Comments and dollar signs -/

/-- What follows a comment with `depth` more comments to be closed inside it. -/
def skipComment (depth : Nat) : List Char → Option (List Char)
  | [] => none
  | '/' :: '*' :: cs => skipComment (depth + 1) cs
  | '*' :: '/' :: cs =>
    match depth with
    | 0 => some cs
    | depth + 1 => skipComment depth cs
  | _ :: cs => skipComment depth cs

/-- What follows the first occurrence of a delimiter. -/
def skipThrough (delimiter : List Char) : List Char → Option (List Char)
  | [] => none
  | c :: cs =>
    if delimiter.isPrefixOf (c :: cs) then some ((c :: cs).drop (max 1 delimiter.length))
    else skipThrough delimiter cs

/-- Whether a character may stand between the dollar signs of a delimiter. -/
def isTagChar (c : Char) : Bool :=
  isAlphanumeric c || c == '_'

/-- What follows what a dollar sign begins, and whether that is a text between dollar signs rather
than a parameter. -/
def skipDollar (cs : List Char) : Option (Bool × List Char) :=
  match cs.dropWhile isTagChar with
  | '$' :: rest =>
    (skipThrough ('$' :: (cs.takeWhile isTagChar ++ ['$'])) rest).map (true, ·)
  | rest => some (false, rest)

/-! ### Nothing is read twice -/

theorem length_of_readQuoted {q : Char} {cs content rest : List Char}
    (h : readQuoted q cs = some (content, rest)) : rest.length ≤ cs.length := by
  fun_induction readQuoted q cs generalizing content with
  | case1 => simp at h
  | case2 => simp at h; simp [h.2]
  | case3 => simp at h
  | case4 cs ih =>
    obtain ⟨⟨content', rest'⟩, hr, he⟩ := Option.map_eq_some_iff.1 h
    cases he
    have := ih hr
    simp only [List.length_cons] at this ⊢
    omega
  | case5 => simp at h; simp [← h.2]
  | case6 c d cs _ ih =>
    obtain ⟨⟨content', rest'⟩, hr, he⟩ := Option.map_eq_some_iff.1 h
    cases he
    have := ih hr
    simp only [List.length_cons] at this ⊢
    omega

theorem length_of_skipBackslashed {cs rest : List Char} (h : skipBackslashed cs = some rest) :
    rest.length ≤ cs.length := by
  fun_induction skipBackslashed cs with
  | case1 => simp at h
  | case2 _ cs ih => have := ih h; simp only [List.length_cons]; omega
  | case3 cs ih => have := ih h; simp only [List.length_cons]; omega
  | case4 => simp at h; simp [h]
  | case5 _ cs _ _ _ ih => have := ih h; simp only [List.length_cons]; omega

theorem length_of_skipEscaped {cs rest : List Char} (h : skipEscaped cs = some rest) :
    rest.length ≤ cs.length := by
  fun_induction skipEscaped cs with
  | case1 => simp at h
  | case2 cs ih => have := ih h; simp only [List.length_cons]; omega
  | case3 => simp at h; simp [h]
  | case4 _ cs _ _ _ n _ ih =>
    have := ih h
    simp only [List.length_drop, List.length_cons] at this ⊢
    omega
  | case5 => simp at h
  | case6 _ cs _ _ _ ih => have := ih h; simp only [List.length_cons]; omega

theorem length_of_skipCodePoints {cs rest : List Char} (h : skipCodePoints cs = some rest) :
    rest.length ≤ cs.length := by
  fun_induction skipCodePoints cs with
  | case1 => simp at h
  | case2 cs ih => have := ih h; simp only [List.length_cons]; omega
  | case3 cs ih => have := ih h; simp only [List.length_cons]; omega
  | case4 cs _ ih =>
    have := ih h
    simp only [List.length_drop, List.length_cons] at this ⊢
    omega
  | case5 => simp at h
  | case6 => simp at h; simp [h]
  | case7 _ cs _ _ _ _ _ _ ih =>
    have := ih h
    simp only [List.length_drop, List.length_cons] at this ⊢
    omega
  | case8 => simp at h
  | case9 _ cs _ _ _ _ _ ih => have := ih h; simp only [List.length_cons]; omega

theorem length_of_skipComment {depth : Nat} {cs rest : List Char}
    (h : skipComment depth cs = some rest) : rest.length ≤ cs.length := by
  fun_induction skipComment depth cs with
  | case1 => simp at h
  | case2 _ cs ih => have := ih h; simp only [List.length_cons]; omega
  | case3 cs => simp at h; simp only [List.length_cons, h]; omega
  | case4 cs _ ih => have := ih h; simp only [List.length_cons]; omega
  | case5 _ _ cs _ _ ih => have := ih h; simp only [List.length_cons]; omega

theorem length_of_skipThrough {delimiter cs rest : List Char}
    (h : skipThrough delimiter cs = some rest) : rest.length ≤ cs.length := by
  induction cs with
  | nil => simp [skipThrough] at h
  | cons c cs ih =>
    unfold skipThrough at h
    split at h
    · cases h
      simp only [List.length_drop]
      omega
    · have := ih h
      simp only [List.length_cons]
      omega

theorem length_of_skipDollar {cs rest : List Char} {between : Bool}
    (h : skipDollar cs = some (between, rest)) : rest.length ≤ cs.length := by
  have hd := (List.dropWhile_sublist (l := cs) isTagChar).length_le
  unfold skipDollar at h
  split at h
  · next rest' he =>
    rw [he] at hd
    obtain ⟨r, hr, he'⟩ := Option.map_eq_some_iff.1 h
    cases he'
    have := length_of_skipThrough hr
    simp only [List.length_cons] at hd
    omega
  · cases h
    exact hd

end SchemaPlan.Sql
