/-!
# JSON values

The values a definition is written in.  Objects keep their fields in order and may repeat a name;
what a repeated name means is for the reader of the value to say.

Two things are kept no further than a definition needs them.  A number with a fraction or an
exponent never fits a definition, so only whether it is finite as a double is kept.  And a string
may hold an escape that names no character (half a surrogate pair); such a string is `none`, which
is no fault as long as nobody reads it.
-/

namespace SchemaPlan

/-- A JSON value. -/
inductive Json where
  | null
  | bool (b : Bool)
  | int (n : Int)
  /-- A number that is not written as an integer, or negative zero. -/
  | real (finite : Bool)
  | str (s : Option String)
  | arr (items : List Json)
  | obj (fields : List (Option String × Json))
deriving Inhabited

namespace Json

/-- A string that names characters only. -/
abbrev text (s : String) : Json :=
  .str (some s)

/-- A field whose name names characters only. -/
abbrev field (name : String) (value : Json) : Option String × Json :=
  (some name, value)

/-! ### The range of a double

A number is taken apart into a significand of at most 64 bits and a power of ten.  Digits of the
whole part that do not fit the significand raise the exponent, and digits of the fraction that do
not fit are passed over.  Significand and power are rounded to doubles and then multiplied, so the
least number out of range is a little less than what a single rounding would make it. -/

/-- The least integer that is rounded to an infinite double. -/
def doubleBound : Nat :=
  (1 <<< 1024) - (1 <<< 970)

/-- The greatest power of ten that is a double. -/
def maxPower : Nat :=
  308

/-- A number rounded to 53 binary digits, a tie to the even neighbour. -/
def roundTo53 (n : Nat) : Nat :=
  let unit := 1 <<< (n.log2 - 52)
  let q := n / unit
  let r := n % unit
  (if unit < 2 * r || (2 * r == unit && q % 2 == 1) then q + 1 else q) * unit

/-- Whether a significand times a power of ten is finite as a double. -/
def isFiniteProduct (significand : Nat) (exponent : Int) : Bool :=
  significand == 0 || exponent ≤ 0 ||
    (exponent ≤ maxPower &&
      roundTo53 significand * roundTo53 (Nat.pow 10 exponent.toNat) < doubleBound)

/-- A significand with as many of the digits behind it as fit 64 bits, and the digits left. -/
def fillSignificand (n : Nat) : List Char → Nat × List Char
  | [] => (n, [])
  | d :: ds =>
    let m := 10 * n + (d.toNat - 48)
    if m < 1 <<< 64 then fillSignificand m ds else (n, d :: ds)

/-- Whether the number with these digits before and behind its point, times a power of ten, is
finite as a double. -/
def isFinite (whole fraction : List Char) (exponent : Int) : Bool :=
  let (n, raised) := fillSignificand 0 whole
  let (significand, unread) := fillSignificand n fraction
  isFiniteProduct significand
    (exponent + raised.length - ((fraction.length : Int) - unread.length))

mutual

/-- Whether every string in a value names characters and every number is finite: the condition for
keeping the value without yet knowing what it is for. -/
def isSound : Json → Bool
  | .null | .bool _ => true
  | .int n => n.natAbs < 1 <<< 64 || isFinite (toString n.natAbs).toList [] 0
  | .real finite => finite
  | .str s => s.isSome
  | .arr items => areSound items
  | .obj fields => areFieldsSound fields

/-- Whether all items are sound. -/
def areSound : List Json → Bool
  | [] => true
  | j :: js => isSound j && areSound js

/-- Whether all fields are sound. -/
def areFieldsSound : List (Option String × Json) → Bool
  | [] => true
  | (name, j) :: fields => name.isSome && isSound j && areFieldsSound fields

end

end Json

end SchemaPlan
