import SchemaPlan.Text.Blank

/-!
# Paths

A path is kept as it is written, since that is how it is shown.  Its `parts` say where it leads and
how it is sorted: separators may be doubled or stand at the end, and a point by itself counts only
at the beginning.
-/

namespace SchemaPlan.Files

open SchemaPlan.Text

/-- A part of a path. -/
inductive PathPart where
  | root
  | here
  | up
  | name (text : String)
deriving DecidableEq

/-- The place of a kind of part among the kinds. -/
def PathPart.rank : PathPart → Nat
  | .root => 0
  | .here => 1
  | .up => 2
  | .name _ => 3

/-- Whether a part is sorted before another: by kind, and names by their characters. -/
def PathPart.before (a b : PathPart) : Bool :=
  match a, b with
  | .name s, .name t => s < t
  | a, b => a.rank < b.rank

/-- Whether a path of these parts is sorted before another or with it. -/
def partsInOrder : List PathPart → List PathPart → Bool
  | [], _ => true
  | _ :: _, [] => false
  | a :: as, b :: bs => a.before b || (a == b && partsInOrder as bs)

/-- The texts of a path between separators. -/
def steps (path : String) : List String :=
  (splitWhere (· == '/') path.toList).map String.ofList

/-- The part that a text between separators makes, unless it is one that does not count. -/
def partOf? : String → Option PathPart
  | "" | "." => none
  | ".." => some .up
  | text => some (.name text)

/-- The parts of a path. -/
def parts (path : String) : List PathPart :=
  match steps path with
  | [] => []
  | [""] => []
  | "" :: rest => .root :: rest.filterMap partOf?
  | "." :: rest => .here :: rest.filterMap partOf?
  | rest => rest.filterMap partOf?

/-- Whether a path stands before another or with it when paths are sorted. -/
def pathsInOrder (a b : String) : Bool :=
  partsInOrder (parts a) (parts b)

/-- Whether two paths have the same parts. -/
def samePath (a b : String) : Bool :=
  parts a == parts b

/-- A path from inside a directory; one that begins at the root stays as it is. -/
def joinPath (directory path : String) : String :=
  if path.startsWith "/" then path
  else if directory.isEmpty || directory.endsWith "/" then directory ++ path
  else directory ++ "/" ++ path

/-- Whether a path is written as the current directory. -/
def isHere (path : String) : Bool :=
  parts path == [.here]

/-- A path with these parts. -/
def ofParts : List PathPart → String
  | [] => ""
  | .root :: rest => "/" ++ ofNames rest
  | rest => ofNames rest
where
  /-- Parts with separators between them. -/
  ofNames (rest : List PathPart) : String :=
    String.intercalate "/" (rest.map fun part => match part with
      | .name text => text
      | .up => ".."
      | .here => "."
      | .root => "")

/-- The path of the directory that a path lies in, unless the path leads to the root or nowhere. -/
def parent? (path : String) : Option String :=
  match (parts path).reverse with
  | [] | .root :: _ => none
  | _ :: rest => some (ofParts rest.reverse)

end SchemaPlan.Files
