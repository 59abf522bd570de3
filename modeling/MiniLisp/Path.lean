import MiniLisp.Text.Split

/-! # Paths

    A path is a sequence of names after a root of zero, one or two slashes.
    Names that are empty or a single point say nothing and are dropped; the
    name of two points is kept, since what it means depends on the files.
-/

namespace MiniLisp

/-- A path: the number of slashes it begins with, at most two, and its names. -/
structure Path where
  slashes : Nat
  names : List String
  deriving DecidableEq, Repr

namespace Path

/-- The number of slashes that count at the beginning of a path: exactly two
    are kept, more are the same as one. -/
def leadingSlashes (text : List Char) : Nat :=
  match (text.takeWhile (· == '/')).length with
  | 0 => 0
  | 2 => 2
  | _ => 1

/-- The path that a text spells. -/
def ofText (text : String) : Path where
  slashes := leadingSlashes text.toList
  names := ((Text.split '/' text.toList).map String.ofList).filter fun name =>
    name != "" && name != "."

/-- The text of a path; a path that says nothing is a single point. -/
def text (p : Path) : String :=
  match p.slashes, p.names with
  | 0, [] => "."
  | n, names => String.ofList (List.replicate n '/') ++ "/".intercalate names

/-- The path without its last name. -/
def parent (p : Path) : Path :=
  { p with names := p.names.dropLast }

/-- A path with a name added. -/
def child (p : Path) (name : String) : Path :=
  { p with names := p.names ++ [name] }

end Path

end MiniLisp
