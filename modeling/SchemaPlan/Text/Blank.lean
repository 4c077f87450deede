/-!
# Blanks, lines and cuts

The operations on text that the rest of the library is written with: which characters are blank,
trimming at either end, cutting a text at a character or into lines, and finding one text inside
another.  Texts are lists of characters here; the `String` forms beside them only convert.

`isBlank` is the property White_Space of the character database, so a no-break space or an
ideographic space is as blank as a tab.
-/

namespace SchemaPlan.Text

/-- Whether a character is white space. -/
def isBlank (c : Char) : Bool :=
  let n := c.toNat
  (9 ≤ n && n ≤ 13) || n == 0x20 || n == 0x85 || n == 0xA0 || n == 0x1680 ||
    (0x2000 ≤ n && n ≤ 0x200A) || n == 0x2028 || n == 0x2029 || n == 0x202F || n == 0x205F ||
    n == 0x3000

/-! ### Trimming -/

/-- A list without the elements at its end that satisfy `p`. -/
def dropEndWhile {α : Type} (p : α → Bool) (xs : List α) : List α :=
  (xs.reverse.dropWhile p).reverse

/-- A list without the elements at either end that satisfy `p`. -/
def stripWhile {α : Type} (p : α → Bool) (xs : List α) : List α :=
  dropEndWhile p (xs.dropWhile p)

/-- A text without the blanks at its ends. -/
def trimmed (s : String) : String :=
  String.ofList (stripWhile isBlank s.toList)

/-- Whether a text holds nothing but blanks. -/
def isAllBlank (s : String) : Bool :=
  s.toList.all isBlank

/-! ### Cutting -/

/-- What stands before and after the first `c`, if there is one. -/
def cutAt? (c : Char) : List Char → Option (List Char × List Char)
  | [] => none
  | d :: ds =>
    if d = c then some ([], ds)
    else (cutAt? c ds).map fun (before, after) => (d :: before, after)

/-- The pieces of a text between the characters that satisfy `p`; there is always one. -/
def splitWhere (p : Char → Bool) : List Char → List (List Char)
  | [] => [[]]
  | c :: cs =>
    if p c then [] :: splitWhere p cs
    else match splitWhere p cs with
      | [] => [[c]]
      | piece :: pieces => (c :: piece) :: pieces

/-- Lines of a text whose current line, read backwards, begins with `line`. -/
def linesFrom (line : List Char) : List Char → List (List Char)
  | [] => if line.isEmpty then [] else [line.reverse]
  | c :: cs =>
    if c = '\n' then
      (match line with
        | '\r' :: rest => rest
        | _ => line).reverse :: linesFrom [] cs
    else linesFrom (c :: line) cs

/-- The lines of a text.  A line ends at a line feed, and a carriage return right before that line
feed belongs to the ending; a last line without an ending counts when it is not empty. -/
def lines (s : String) : List String :=
  (linesFrom [] s.toList).map String.ofList

/-! ### Finding and doubling -/

/-- Whether `piece` occurs in a text. -/
def occursIn (piece : List Char) : List Char → Bool
  | [] => piece.isEmpty
  | c :: cs => piece.isPrefixOf (c :: cs) || occursIn piece cs

/-- A text with every `q` written twice. -/
def doubled (q : Char) : List Char → List Char
  | [] => []
  | c :: cs => if c = q then c :: c :: doubled q cs else c :: doubled q cs

/-- A letter of the basic alphabet in lower case, anything else as it is. -/
def asciiLowercase (s : String) : String :=
  String.ofList (s.toList.map Char.toLower)

/-- Whether a character is the lower-case letter `p` when case is disregarded.  Besides the capital
letter, the long s and the Kelvin sign count as `s` and `k`. -/
def sameLetter (p c : Char) : Bool :=
  c.toLower == p || (p == 's' && c.toNat == 0x17F) || (p == 'k' && c.toNat == 0x212A)

/-- What follows a word, given in lower case, that a text begins with in whatever case. -/
def afterWord? : List Char → List Char → Option (List Char)
  | [], cs => some cs
  | _ :: _, [] => none
  | p :: ps, c :: cs => if sameLetter p c then afterWord? ps cs else none

end SchemaPlan.Text
