import MiniLisp.Host.Conversion
import MiniLisp.Host.Ordering
import MiniLisp.Text.Case

/-! # Calling helpers

    What the helpers compute. Each checks the number of its arguments first.
-/

namespace MiniLisp.Host

variable [Platform]

/-- The number of items or characters. -/
def lengthOf (v : Value) : Outcome Value :=
  match v with
  | .text s => .ok (.int s.length)
  | .list items => .ok (.int items.length)
  | _ => raise (.noLength v.kind)

/-- The absolute value. -/
def magnitude (v : Value) : Outcome Value :=
  match v.numeral? with
  | some (.int n) => .ok (.int n.natAbs)
  | some (.real x) => .ok (.ofFloat x.abs)
  | none => raise (.noMagnitude v.kind)

/-- The items of a list or the characters of a text. -/
def itemsOf (v : Value) : Outcome (List Value) :=
  match v with
  | .list items => .ok items
  | .text s => .ok (s.toList.map fun c => .text c.toString)
  | _ => raise (.notIterable v.kind)

/-- The first value that no later one goes before, in the order of `op`. -/
def extreme (op : Comparison) (best : Value) : List Value → Outcome Value
  | [] => .ok best
  | v :: rest => do
      let better ← ordered op v best
      extreme op (if better then v else best) rest

/-- The least or greatest of the arguments, or of the items of a single one. -/
def extremeOf (helper : Helper) (op : Comparison) (arguments : List Value) : Outcome Value := do
  match arguments with
  | [] => raise (.argumentCount helper 0)
  | [v] =>
      match ← itemsOf v with
      | [] => raise (.emptySequence helper)
      | first :: rest => extreme op first rest
  | first :: rest => extreme op first rest

/-- A text with its case changed. -/
def changeCase (helper : Helper) (change : String → String) (v : Value) : Outcome Value :=
  match v with
  | .text s => .ok (.text (change s))
  | .helper h =>
      if h.kind = .type then raise (.typeWithoutMethod h helper)
      else raise (.noMethod h.kind helper)
  | _ => raise (.noMethod v.kind helper)

/-- Whether a value is a number. -/
def isNumber : Value → Bool
  | .int _ => true
  | .real _ _ => true
  | _ => false

/-- Applies a helper of one argument. Only `str` needs room. -/
def callOne (room : Nat) (helper : Helper) (v : Value) : Outcome Value :=
  match helper with
  | .len => lengthOf v
  | .abs => magnitude v
  | .str => (shownAsTerm room v).map .text
  | .upper => changeCase helper Text.toUpper v
  | .lower => changeCase helper Text.toLower v
  | .isNumber => .ok (.bool (isNumber v))
  | .isString => .ok (.bool (v.kind == .text))
  | .isList => .ok (.bool (v.kind == .list))
  | .isBool => .ok (.bool (v.kind == .bool))
  | .isNil => .ok (.bool (v.kind == .none))
  | .float => toReal v
  | .int => (toInt v).map .int
  | .round => rounded v
  | .min => extremeOf .min .lt [v]
  | .max => extremeOf .max .gt [v]

/-- Applies a helper to its arguments. -/
def Helper.call (room : Nat) (helper : Helper) (arguments : List Value) : Outcome Value :=
  match helper, arguments with
  | .min, _ => extremeOf .min .lt arguments
  | .max, _ => extremeOf .max .gt arguments
  | .float, [] => .ok (.ofFloat 0.0)
  | .int, [] => .ok (.int 0)
  | .int, [v, base] => (toIntInBase v base).map .int
  | .round, [v, places] => roundedTo v places
  | _, [v] => callOne room helper v
  | _, _ => raise (.argumentCount helper arguments.length)

end MiniLisp.Host
