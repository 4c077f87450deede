import SchemaPlan.Json.Basic

/-!
# Tokens of JSON text

A JSON text is first cut into tokens: the six marks, and the values that are not containers.
`scan` is strict.  Only spaces, tabs, line feeds and carriage returns may separate tokens, a
number has no superfluous zero and no bare point, a string holds no control characters and only the
escapes of the format.

A string is read in two steps.  `readUnits` follows it to its closing quote and collects its code
units; `joinUnits` then joins the surrogate pairs that escapes may have spelled.
-/

namespace SchemaPlan.Json

/-- A mark of the format, or a value without parts. -/
inductive Token where
  | openArray
  | closeArray
  | openObject
  | closeObject
  | comma
  | colon
  | scalar (value : Json)

/-- Whether a character may separate tokens. -/
def isGap (c : Char) : Bool :=
  c == ' ' || c == '\n' || c == '\t' || c == '\r'

/-! ### Strings -/

/-- The value of a hexadecimal digit. -/
def hexDigit? (c : Char) : Option Nat :=
  if c.isDigit then some (c.toNat - 48)
  else if 'a' ≤ c && c ≤ 'f' then some (c.toNat - 87)
  else if 'A' ≤ c && c ≤ 'F' then some (c.toNat - 55)
  else none

/-- The value of four hexadecimal digits. -/
def hexUnit? (a b c d : Char) : Option Nat := do
  return 4096 * (← hexDigit? a) + 256 * (← hexDigit? b) + 16 * (← hexDigit? c) + (← hexDigit? d)

/-- The character that a backslash followed by this one stands for. -/
def escaped? : Char → Option Char
  | '\x22' => some '\x22'
  | '\\' => some '\\'
  | '/' => some '/'
  | 'b' => some '\x08'
  | 'f' => some '\x0c'
  | 'n' => some '\n'
  | 'r' => some '\r'
  | 't' => some '\t'
  | _ => none

/-- The code units of a string whose opening quote has been read, and what follows its closing
quote. -/
def readUnits : List Char → Option (List Nat × List Char)
  | [] => none
  | '\x22' :: rest => some ([], rest)
  | '\\' :: 'u' :: a :: b :: c :: d :: rest => do
    let unit ← hexUnit? a b c d
    let (units, rest) ← readUnits rest
    return (unit :: units, rest)
  | '\\' :: c :: rest => do
    let e ← escaped? c
    let (units, rest) ← readUnits rest
    return (e.toNat :: units, rest)
  | c :: rest =>
    if c.toNat < 0x20 || c == '\\' then none
    else do
      let (units, rest) ← readUnits rest
      return (c.toNat :: units, rest)

/-- Whether a code unit is the first half of a pair. -/
def isHighSurrogate (n : Nat) : Bool :=
  0xD800 ≤ n && n < 0xDC00

/-- Whether a code unit is the second half of a pair. -/
def isLowSurrogate (n : Nat) : Bool :=
  0xDC00 ≤ n && n < 0xE000

/-- The characters that code units name, unless a half of a pair stands alone. -/
def joinUnits : List Nat → Option (List Char)
  | [] => some []
  | [n] => if isHighSurrogate n || isLowSurrogate n then none else some [Char.ofNat n]
  | n :: m :: units =>
    if isHighSurrogate n then
      if isLowSurrogate m then
        (joinUnits units).map (Char.ofNat (0x10000 + 1024 * (n - 0xD800) + (m - 0xDC00)) :: ·)
      else none
    else if isLowSurrogate n then none
    else (joinUnits (m :: units)).map (Char.ofNat n :: ·)

/-- What follows a string is shorter than the text from the string on. -/
theorem length_of_readUnits {cs rest : List Char} {units : List Nat}
    (h : readUnits cs = some (units, rest)) : rest.length < cs.length := by
  fun_induction readUnits cs generalizing units with
  | case1 => simp at h
  | case2 rest' => simp at h; simp [h.2]
  | case3 a b c d rest' ih =>
    simp only [bind, Option.bind_eq_some_iff, pure, Option.some.injEq] at h
    obtain ⟨_, _, ⟨us, r⟩, hr, he⟩ := h
    cases he
    have := ih hr
    simp only [List.length_cons] at this ⊢
    omega
  | case4 c rest' _ ih =>
    simp only [bind, Option.bind_eq_some_iff, pure, Option.some.injEq] at h
    obtain ⟨_, _, ⟨us, r⟩, hr, he⟩ := h
    cases he
    have := ih hr
    simp only [List.length_cons] at this ⊢
    omega
  | case5 => simp at h
  | case6 c rest' _ _ _ _ ih =>
    simp only [bind, Option.bind_eq_some_iff, pure, Option.some.injEq] at h
    obtain ⟨⟨us, r⟩, hr, he⟩ := h
    cases he
    have := ih hr
    simp only [List.length_cons] at this ⊢
    omega

/-! ### Numbers -/

/-- Whether a character may belong to a number. -/
def isNumberChar (c : Char) : Bool :=
  c.isDigit || c == '-' || c == '+' || c == '.' || c == 'e' || c == 'E'

/-- The value of decimal digits. -/
def decimalValue (ds : List Char) : Nat :=
  ds.foldl (fun n d => 10 * n + (d.toNat - 48)) 0

/-- The exponent written after a number's digits: nothing, or `e`, perhaps a sign, and digits. -/
def readExponent? : List Char → Option Int
  | [] => some 0
  | e :: rest =>
    if e == 'e' || e == 'E' then
      let (negative, ds) := match rest with
        | '-' :: ds => (true, ds)
        | '+' :: ds => (false, ds)
        | ds => (false, ds)
      if ds.isEmpty || !ds.all Char.isDigit then none
      else some (if negative then -(decimalValue ds : Int) else decimalValue ds)
    else none

/-- The number spelled without its sign by the given characters. -/
def readUnsigned? (negative : Bool) (cs : List Char) : Option Json :=
  let whole := cs.takeWhile Char.isDigit
  if whole.isEmpty || (whole.head? == some '0' && whole.length > 1) then none
  else match cs.dropWhile Char.isDigit with
    | [] =>
      let n := decimalValue whole
      if negative && n = 0 then some (.real true)
      else some (.int (if negative then -(n : Int) else n))
    | '.' :: rest =>
      let fraction := rest.takeWhile Char.isDigit
      if fraction.isEmpty then none
      else do
        let e ← readExponent? (rest.dropWhile Char.isDigit)
        return .real (isFinite whole fraction e)
    | rest => do
      let e ← readExponent? rest
      return .real (isFinite whole [] e)

/-- The number spelled by the given characters. -/
def readNumber? : List Char → Option Json
  | '-' :: cs => readUnsigned? true cs
  | cs => readUnsigned? false cs

/-! ### Words and marks -/

/-- The value spelled by a word. -/
def readWord? (cs : List Char) : Option Json :=
  match String.ofList cs with
  | "null" => some .null
  | "true" => some (.bool true)
  | "false" => some (.bool false)
  | _ => none

/-- The token a mark stands for. -/
def mark? : Char → Option Token
  | '[' => some .openArray
  | ']' => some .closeArray
  | '{' => some .openObject
  | '}' => some .closeObject
  | ',' => some .comma
  | ':' => some .colon
  | _ => none

/-- The first token of a text that begins with `c`, and the text behind it. -/
def readToken? (c : Char) (cs : List Char) : Option (Token × List Char) :=
  match mark? c with
  | some t => some (t, cs)
  | none =>
    if c == '\x22' then
      (readUnits cs).map fun (units, rest) =>
        (.scalar (.str ((joinUnits units).map String.ofList)), rest)
    else if isNumberChar c then
      (readNumber? (c :: cs.takeWhile isNumberChar)).map fun j =>
        (.scalar j, cs.dropWhile isNumberChar)
    else if c.isAlpha then
      (readWord? (c :: cs.takeWhile Char.isAlpha)).map fun j =>
        (.scalar j, cs.dropWhile Char.isAlpha)
    else none

theorem length_of_readToken {c : Char} {cs rest : List Char} {t : Token}
    (h : readToken? c cs = some (t, rest)) : rest.length ≤ cs.length := by
  unfold readToken? at h
  split at h
  · simp at h; simp [h.2]
  · split at h
    · obtain ⟨⟨units, r⟩, hr, he⟩ := Option.map_eq_some_iff.1 h
      cases he
      exact Nat.le_of_lt (length_of_readUnits hr)
    · split at h
      · obtain ⟨j, _, he⟩ := Option.map_eq_some_iff.1 h
        cases he
        exact (List.dropWhile_sublist _).length_le
      · split at h
        · obtain ⟨j, _, he⟩ := Option.map_eq_some_iff.1 h
          cases he
          exact (List.dropWhile_sublist _).length_le
        · simp at h

/-- The tokens of a text, or how much of the text is left where no token begins. -/
def scan (cs : List Char) : Except Nat (List Token) :=
  match cs with
  | [] => .ok []
  | c :: cs =>
    if isGap c then scan cs
    else match _h : readToken? c cs with
      | none => .error (cs.length + 1)
      | some (t, rest) => (scan rest).map (t :: ·)
termination_by cs.length
decreasing_by
  · simp
  · have := length_of_readToken _h
    simp only [List.length_cons]
    omega

end SchemaPlan.Json
