import SchemaPlan.Error
import SchemaPlan.Files.Path

/-!
# Patterns for paths

A pattern is a path in which a name may be given by wildcards: `?` for any character, `*` for any
number of them, a set in brackets for one of its characters (or, with `!` in front, for any other),
and `**` as a whole name for any number of directories.  In a set a closing bracket may stand at the
beginning.

A pattern is checked as a whole first and then name by name, so a set cannot contain a separator:
the name it would begin in has no closing bracket.
-/

namespace SchemaPlan.Files

open SchemaPlan.Text

/-- The characters from one to another. -/
structure CharRange where
  first : Char
  last : Char
deriving DecidableEq

/-- A sign of a pattern. -/
inductive Sign where
  | char (c : Char)
  | anyChar
  | anyText
  | anyDirectories
  | oneOf (ranges : List CharRange)
  | noneOf (ranges : List CharRange)
deriving DecidableEq

/-- The ranges in a set; a single character is a range of its own. -/
def charRanges : List Char → List CharRange
  | a :: '-' :: b :: cs => ⟨a, b⟩ :: charRanges cs
  | c :: cs => ⟨c, c⟩ :: charRanges cs
  | [] => []

/-- The set behind an opening bracket, with what follows it. -/
def setBehind? : List Char → Option (Sign × List Char)
  | '!' :: c :: cs => (cutAt? ']' cs).map fun (set, rest) => (.noneOf (charRanges (c :: set)), rest)
  | '!' :: [] => none
  | c :: cs => (cutAt? ']' cs).map fun (set, rest) => (.oneOf (charRanges (c :: set)), rest)
  | [] => none

theorem length_of_cutAt? {c : Char} {cs before after : List Char}
    (h : cutAt? c cs = some (before, after)) : after.length < cs.length := by
  induction cs generalizing before with
  | nil => simp [cutAt?] at h
  | cons d ds ih =>
    unfold cutAt? at h
    split at h
    · simp only [Option.some.injEq, Prod.mk.injEq] at h
      simp [← h.2]
    · simp only [Option.map_eq_some_iff, Prod.mk.injEq, Prod.exists] at h
      obtain ⟨_, _, hd, _, rfl⟩ := h
      have := ih hd
      simp only [List.length_cons]
      omega

theorem length_of_setBehind? {cs rest : List Char} {sign : Sign}
    (h : setBehind? cs = some (sign, rest)) : rest.length < cs.length := by
  unfold setBehind? at h
  split at h
  · simp only [Option.map_eq_some_iff, Prod.mk.injEq, Prod.exists] at h
    obtain ⟨_, _, hc, _, rfl⟩ := h
    have := length_of_cutAt? hc
    simp only [List.length_cons]
    omega
  · simp at h
  · simp only [Option.map_eq_some_iff, Prod.mk.injEq, Prod.exists] at h
    obtain ⟨_, _, hc, _, rfl⟩ := h
    have := length_of_cutAt? hc
    simp only [List.length_cons]
    omega
  · simp at h

/-- The signs of a pattern from a place on.  The character in front of it is a separator at the
beginning too. -/
def signsFrom (place : Nat) (before : Char) :
    List Char → Except (Nat × PatternFault) (List Sign)
  | [] => .ok []
  | '?' :: cs => do
    return .anyChar :: (← signsFrom (place + 1) '?' cs)
  | '*' :: '*' :: '*' :: _ => .error (place + 2, .wildcards)
  | '*' :: '*' :: cs =>
    if before != '/' then .error (place - 1, .recursive)
    else match cs with
      | [] => .ok [.anyDirectories]
      | '/' :: cs => do
        return .anyDirectories :: (← signsFrom (place + 3) '/' cs)
      | _ => .error (place + 2, .recursive)
  | '*' :: cs => do
    return .anyText :: (← signsFrom (place + 1) '*' cs)
  | '[' :: cs =>
    match _h : setBehind? cs with
    | none => .error (place, .range)
    | some (sign, rest) => do
      return sign :: (← signsFrom (place + 1 + (cs.length - rest.length)) ']' rest)
  | c :: cs => do
    return .char c :: (← signsFrom (place + 1) c cs)
termination_by cs => cs.length
decreasing_by
  all_goals simp only [List.length_cons]
  all_goals first
    | omega
    | have := length_of_setBehind? _h; omega

/-- The signs of a pattern, or what is wrong with it and where. -/
def signs (text : String) : Except (Nat × PatternFault) (List Sign) :=
  signsFrom 0 '/' text.toList

/-- The character that a sign stands for, unless it is a wildcard. -/
def Sign.plain? : Sign → Option Char
  | .char c => some c
  | _ => none

/-- The characters of a pattern without wildcards. -/
def plainText? (pattern : List Sign) : Option String :=
  (pattern.mapM Sign.plain?).map String.ofList

/-- Whether a pattern stands for directories of any number. -/
def isRecursive (pattern : List Sign) : Bool :=
  pattern.contains .anyDirectories

/-- Whether a range has a character. -/
def CharRange.has (r : CharRange) (c : Char) : Bool :=
  r.first ≤ c && c ≤ r.last

/-- Whether a pattern stands for a name. -/
def fits : List Sign → List Char → Bool
  | [], cs => cs.isEmpty
  | .char d :: ps, c :: cs => c == d && fits ps cs
  | .anyChar :: ps, _ :: cs => fits ps cs
  | .oneOf ranges :: ps, c :: cs => ranges.any (·.has c) && fits ps cs
  | .noneOf ranges :: ps, c :: cs => !ranges.any (·.has c) && fits ps cs
  | .anyText :: ps, [] => fits ps []
  | .anyText :: ps, c :: cs => fits ps (c :: cs) || fits (.anyText :: ps) cs
  | _ :: _, _ => false
termination_by ps cs => (ps.length, cs.length)

/-- A pattern by the names it consists of. -/
structure PathPattern where
  /-- Where it begins: the root or the current directory. -/
  start : String
  names : List (List Sign)
  /-- Whether it ends in a separator and stands for directories only. -/
  directoriesOnly : Bool
deriving DecidableEq

/-- Pieces without an empty one at the end. -/
def withoutLastEmpty (pieces : List String) : List String :=
  if pieces.getLast? == some "" then pieces.dropLast else pieces

/-- Reads a pattern. -/
def PathPattern.ofText (text : String) : Except (Nat × PatternFault) PathPattern := do
  let _ ← signs text
  let absolute := text.startsWith "/"
  let pieces := if absolute then (steps text).drop 1 else steps text
  let names ←
    if text.isEmpty || text == "/" then pure [[]]
    else (withoutLastEmpty pieces).mapM signs
  return { start := if absolute then "/" else ".", names, directoriesOnly := text.endsWith "/" }

end SchemaPlan.Files
