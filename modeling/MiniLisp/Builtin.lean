/-! # Builtin functions

    The functions that every root scope defines, with their names and the
    descriptions that `doc` shows. What they compute is in
    `MiniLisp.Builtin.Apply`.
-/

namespace MiniLisp

/-- A function that is part of the language. -/
inductive Builtin where
  | add | sub | mul | div | less | equal
  | first | rest | cons | list | map | reduce
  | concat | characters | length | isEmpty
  | describe | print | read
  deriving DecidableEq, Repr

namespace Builtin

/-- Every builtin, in the order in which a root scope defines them. -/
def all : List Builtin :=
  [.add, .sub, .mul, .div, .less, .equal, .first, .rest, .cons, .list, .map,
   .reduce, .concat, .characters, .length, .isEmpty, .describe, .print, .read]

theorem mem_all (b : Builtin) : b ∈ all := by
  cases b <;> simp [all]

/-- The symbol that a root scope binds to the builtin. -/
def name : Builtin → String
  | .add => "+"
  | .sub => "-"
  | .mul => "*"
  | .div => "/"
  | .less => "<"
  | .equal => "="
  | .first => "car"
  | .rest => "cdr"
  | .cons => "cons"
  | .list => "list"
  | .map => "map"
  | .reduce => "reduce"
  | .concat => "concat"
  | .characters => "str->list"
  | .length => "len"
  | .isEmpty => "empty?"
  | .describe => "doc"
  | .print => "print"
  | .read => "read"

/-- The builtin of a name. -/
def ofName? (text : String) : Option Builtin :=
  all.find? fun b => b.name == text

/-- What `doc` shows. -/
def description : Builtin → String
  | .add => "Return the sum of two or more numbers."
  | .sub => "Subtract the second number from the first."
  | .mul => "Return the product of two or more numbers."
  | .div => "Divide the first number by the second."
  | .less => "Return true if the first number is smaller than the second."
  | .equal => "Return true if both arguments have the same printed representation."
  | .first => "Return the first element of a list; nil for the empty list."
  | .rest => "Return every element of a list but the first."
  | .cons =>
      "Return a new list made of the first argument followed by the elements of the second.\n\n" ++
      "    A nil tail is treated as the empty list.\n    "
  | .list => "Return a list of the arguments."
  | .map => "(map f list) returns the list of f applied to every element."
  | .reduce => "(reduce f list [initial]) folds the list from the left with f."
  | .concat => "Concatenate one or more strings."
  | .characters => "Return the list of one-character strings of a string."
  | .length => "Return the number of elements of a list or characters of a string."
  | .isEmpty => "Return true for the empty list or the empty string."
  | .describe => "Return the description of a function, or its name when it has none."
  | .print => "Write the arguments to the console, one per line."
  | .read => "(read [prompt]) reads one line from the console."

end Builtin

end MiniLisp
