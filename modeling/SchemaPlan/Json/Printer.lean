import SchemaPlan.Json.Basic

/-!
# Writing JSON text

The canonical text of a value: no blanks between tokens, fields in the order of the value, and every
character verbatim that need not be escaped.
-/

namespace SchemaPlan.Json

/-- A hexadecimal digit. -/
def hexChar (n : Nat) : Char :=
  if n < 10 then Char.ofNat (48 + n) else Char.ofNat (87 + n)

/-- A character as it stands in a string. -/
def escapeChar (c : Char) : List Char :=
  if c == '\x22' then ['\\', '\x22']
  else if c == '\\' then ['\\', '\\']
  else if c.toNat < 0x20 then
    match c with
    | '\x08' => ['\\', 'b']
    | '\x0c' => ['\\', 'f']
    | '\n' => ['\\', 'n']
    | '\r' => ['\\', 'r']
    | '\t' => ['\\', 't']
    | c => ['\\', 'u', '0', '0', hexChar (c.toNat / 16), hexChar (c.toNat % 16)]
  else [c]

/-- A string between its quotes. -/
def renderString (s : String) : List Char :=
  '\x22' :: (s.toList.flatMap escapeChar ++ ['\x22'])

mutual

/-- The characters of a value's text.  A string that names no characters is written as if empty;
values made from definitions hold none. -/
def renderChars : Json → List Char
  | .null => ['n', 'u', 'l', 'l']
  | .bool true => ['t', 'r', 'u', 'e']
  | .bool false => ['f', 'a', 'l', 's', 'e']
  | .int n => (toString n).toList
  | .real _ => ['0', '.', '0']
  | .str s => renderString (s.getD "")
  | .arr items => '[' :: (renderItems items ++ [']'])
  | .obj fields => '{' :: (renderFields fields ++ ['}'])

/-- Items with commas between them. -/
def renderItems : List Json → List Char
  | [] => []
  | [j] => renderChars j
  | j :: js => renderChars j ++ ',' :: renderItems js

/-- Fields with commas between them. -/
def renderFields : List (Option String × Json) → List Char
  | [] => []
  | [(name, j)] => renderString (name.getD "") ++ ':' :: renderChars j
  | (name, j) :: fields =>
    renderString (name.getD "") ++ ':' :: (renderChars j ++ ',' :: renderFields fields)

end

/-- The canonical text of a value. -/
def render (j : Json) : String :=
  String.ofList (renderChars j)

end SchemaPlan.Json
