/-!
# Operators

An operator of a query is one of a list, the longest that fits, or one of the user's own.  Some
operators end where they end; behind others any further operator characters belong to them and make
them the user's own.

`precedence` says how tightly an operator binds its operands.
-/

namespace SchemaPlan.Sql

/-- What may follow the characters of an operator. -/
inductive Extent where
  /-- Nothing more belongs to it. -/
  | closed
  /-- Operator characters behind it make it the user's own. -/
  | extensible
  /-- It is the user's own, with at least one more operator character. -/
  | incomplete
  /-- The character behind it is passed over. -/
  | greedy
deriving DecidableEq

/-- The operators, none before a longer one that begins with it. -/
def operators : List (String × Extent) := [
  ("->>", .extensible), ("->", .extensible), ("-", .extensible), ("+", .closed), ("*", .closed),
  ("/", .closed), ("%", .extensible),
  ("||/", .extensible), ("||", .extensible), ("|/", .extensible), ("|&>", .extensible),
  ("|&", .incomplete), ("|>>", .extensible), ("|>", .incomplete), ("|", .extensible),
  ("=>", .closed), ("==", .closed), ("=", .closed),
  ("!~~*", .closed), ("!~~", .closed), ("!~*", .closed), ("!~", .closed), ("!=", .closed),
  ("!!", .closed), ("!", .closed),
  ("<=>", .extensible), ("<=", .extensible), ("<>", .extensible), ("<<|", .extensible),
  ("<<", .extensible), ("<->", .extensible), ("<-", .incomplete), ("<^", .extensible),
  ("<@", .extensible), ("<", .extensible),
  (">=", .extensible), (">>", .extensible), (">^", .extensible), (">", .extensible),
  ("::", .closed), (":=", .closed), (":", .closed),
  ("&<|", .closed), ("&<", .extensible), ("&&", .extensible), ("&>", .greedy), ("&", .extensible),
  ("^@", .closed), ("^", .closed),
  ("~~*", .extensible), ("~~", .extensible), ("~*", .extensible), ("~=", .extensible),
  ("~", .extensible),
  ("#>>", .extensible), ("#>", .extensible), ("#-", .extensible), ("##", .extensible),
  ("#", .extensible),
  ("@-@", .closed), ("@-", .incomplete), ("@@", .closed), ("@>", .closed), ("@?", .closed),
  ("@", .extensible),
  ("?||", .closed), ("?|", .closed), ("?-|", .closed), ("?-", .closed), ("?&", .closed),
  ("?#", .closed), ("?", .greedy)]

/-- Whether a character may stand in an operator of the user's own. -/
def isOperatorChar (c : Char) : Bool :=
  "+-*/<>=~!@#%^&|\x60?".toList.contains c

/-- The operator that a text begins with, if it begins with one of the list, and what follows it;
the operator is missing when it is not complete. -/
def readOperator? (cs : List Char) : Option (Option String × List Char) := do
  let (text, extent) ← operators.find? fun (text, _) => text.toList.isPrefixOf cs
  let rest := cs.drop (max 1 text.length)
  let more := rest.takeWhile isOperatorChar
  return match extent with
    | .closed => (some text, rest)
    | .greedy => (some text, rest.drop 1)
    | .extensible => (some (text ++ String.ofList more), rest.dropWhile isOperatorChar)
    | .incomplete =>
      (if more.isEmpty then none else some (text ++ String.ofList more),
        rest.dropWhile isOperatorChar)

theorem length_of_readOperator? {c : Char} {cs rest : List Char} {o : Option String}
    (h : readOperator? (c :: cs) = some (o, rest)) : rest.length ≤ cs.length := by
  simp only [readOperator?, bind, Option.bind_eq_some_iff, pure, Option.some.injEq] at h
  obtain ⟨⟨text, extent⟩, _, he⟩ := h
  have hd : ((c :: cs).drop (max 1 text.length)).length ≤ cs.length := by
    simp only [List.length_drop, List.length_cons]
    omega
  have hw := (List.dropWhile_sublist (l := (c :: cs).drop (max 1 text.length))
    isOperatorChar).length_le
  cases extent <;> cases he
  · exact hd
  · exact Nat.le_trans hw hd
  · exact Nat.le_trans hw hd
  · simp only [List.length_drop] at hd ⊢
    omega

/-! ### Precedence -/

/-- How tightly operators bind that bind unlike the user's own. -/
def precedences : List (List String × Nat) := [
  (["::"], 140), (["^"], 100), (["*", "/", "%"], 90), (["+", "-"], 80),
  (["=", "<", "<=", "<>", "!=", ">", ">=", "==", "<=>", ":=", "~", "~*", "!~", "!~*", "~~", "~~*",
    "!~~", "!~~*"], 50),
  ([":", "=>", "|/", "||/", "!!", "@", "@-@"], 0)]

/-- How tightly an operator binds its operands; zero when it does not stand between two. -/
def precedence (operator : String) : Nat :=
  ((precedences.find? (·.1.contains operator)).map (·.2)).getD 70

end SchemaPlan.Sql
