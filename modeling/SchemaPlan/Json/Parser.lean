import SchemaPlan.Json.Token

/-!
# Reading JSON text

Tokens are put together by a machine whose state is what it waits for and the containers still
open.  It takes one token at a time, so it ends with the tokens.  No more than `maxDepth` containers
may be open at once.

`parse` reads a text that holds one value and nothing else.
-/

namespace SchemaPlan.Json

/-- How many containers may be open at once. -/
def maxDepth : Nat :=
  127

/-- A container part way through; the parts read so far stand in reverse. -/
inductive Frame where
  | arr (done : List Json)
  | obj (done : List (Option String × Json)) (name : Option String)

/-- What comes next. -/
inductive Expect where
  | value
  | firstItem
  | firstName
  | name (done : List (Option String × Json))
  | colon (done : List (Option String × Json)) (name : Option String)
  /-- A value is complete; a comma or an end may follow. -/
  | after (value : Json)

/-- Takes a token at which a value begins. -/
def beginValue (stack : List Frame) : Token → Option (Expect × List Frame)
  | .scalar v => some (.after v, stack)
  | .openArray => some (.firstItem, stack)
  | .openObject => some (.firstName, stack)
  | _ => none

/-- How many containers are open. -/
def openCount : Expect → List Frame → Nat
  | .firstItem, stack | .firstName, stack | .name _, stack | .colon _ _, stack => stack.length + 1
  | .value, stack | .after _, stack => stack.length

/-- Takes one token. -/
def step : Expect → List Frame → Token → Option (Expect × List Frame)
  | .value, stack, t => beginValue stack t
  | .firstItem, stack, .closeArray => some (.after (.arr []), stack)
  | .firstItem, stack, t => beginValue (.arr [] :: stack) t
  | .firstName, stack, .closeObject => some (.after (.obj []), stack)
  | .firstName, stack, .scalar (.str s) => some (.colon [] s, stack)
  | .name done, stack, .scalar (.str s) => some (.colon done s, stack)
  | .colon done s, stack, .colon => some (.value, .obj done s :: stack)
  | .after v, .arr done :: stack, .comma => some (.value, .arr (v :: done) :: stack)
  | .after v, .arr done :: stack, .closeArray => some (.after (.arr (v :: done).reverse), stack)
  | .after v, .obj done s :: stack, .comma => some (.name ((s, v) :: done), stack)
  | .after v, .obj done s :: stack, .closeObject =>
    some (.after (.obj ((s, v) :: done).reverse), stack)
  | _, _, _ => none

/-- The value that tokens make up. -/
def assemble? : Expect → List Frame → List Token → Option Json
  | .after v, [], [] => some v
  | _, _, [] => none
  | e, stack, t :: ts =>
    match step e stack t with
    | none => none
    | some (e, stack) =>
      if openCount e stack ≤ maxDepth then assemble? e stack ts else none

/-- Reads a text that holds one value.  A failure says how many characters were left, zero when
the tokens do not make up a value. -/
def parse (text : String) : Except Nat Json :=
  match scan text.toList with
  | .error left => .error left
  | .ok tokens =>
    match assemble? .value [] tokens with
    | some v => .ok v
    | none => .error 0

end SchemaPlan.Json
