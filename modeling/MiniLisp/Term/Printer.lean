import MiniLisp.Number.Text
import MiniLisp.Term

/-! # Printing terms

    Every kind of term has exactly one printed form. Strings stand between
    double quotes and nothing in them is escaped, so printing is only undone
    by reading where no string holds a quote or a backslash.
-/

namespace MiniLisp

/-- A function shows its id, unless that is missing or empty. -/
def FunctionTag.text (tag : FunctionTag) : String :=
  match tag.id with
  | some id => if id.isEmpty then "#<Function (native)>" else "#<Function '" ++ id ++ "'>"
  | none => "#<Function (native)>"

namespace Term

mutual

/-- The printed form of a term. -/
def print : Term → String
  | .bool true => "true"
  | .bool false => "false"
  | .nil => "nil"
  | .str text => "\"" ++ text ++ "\""
  | .num value => Number.text value
  | .sym name _ => name
  | .function tag _ => tag.text
  | .list items => "(" ++ " ".intercalate (printEach items) ++ ")"

/-- The printed forms of the terms of a list. -/
def printEach : List Term → List String
  | [] => []
  | t :: rest => t.print :: printEach rest

end

@[simp] theorem printEach_eq_map (terms : List Term) : printEach terms = terms.map print := by
  induction terms with
  | nil => rfl
  | cons t rest ih => simp [printEach, ih]

/-- The printed form, except that a string is shown bare. -/
def display : Term → String
  | .str text => text
  | t => t.print

/-- The printed forms of several terms, one per line. -/
def printLines (terms : List Term) : String :=
  "\n".intercalate (terms.map print)

end Term

end MiniLisp
