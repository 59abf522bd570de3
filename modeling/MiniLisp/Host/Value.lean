import MiniLisp.Host.Fault
import MiniLisp.Host.Platform
import MiniLisp.Term.Printer

/-! # Host values

    The values that a host expression works with: whole numbers without
    bounds, doubles, truth values, text, lists, functions of the program and
    the helpers themselves.

    * **`Value.truth`** — which values count as true;
    * **`Value.equal`** — equality, which never fails;
    * **`Value.repr`** — how a value is shown inside text.
-/

namespace MiniLisp.Host

/-- A host value. -/
inductive Value where
  | none
  | bool (value : Bool)
  | int (value : Int)
  | real (value : Float) (origin : Option Origin)
  | text (value : String)
  | list (items : List Value)
  | function (tag : FunctionTag) (code : Code)
  | helper (which : Helper)
  | slice (lower upper step : Value)

instance : Inhabited Value := ⟨.none⟩

/-- The kind of a helper as a value. -/
def Helper.kind : Helper → Kind
  | .len | .abs | .round | .min | .max => .builtin
  | .float | .int => .type
  | _ => .added

namespace Value

/-- A double that does not come from a variable. -/
def ofFloat (x : Float) : Value :=
  .real x Option.none

/-- The kind of a value. -/
def kind : Value → Kind
  | .none => .none
  | .bool _ => .bool
  | .int _ => .int
  | .real _ _ => .real
  | .text _ => .text
  | .list _ => .list
  | .function _ _ => .function
  | .helper h => h.kind
  | .slice _ _ _ => .slice

/-- Whether a value counts as true: everything does but nothing, zero and what
    is empty. -/
def truth : Value → Bool
  | .none => false
  | .bool b => b
  | .int n => n != 0
  | .real x _ => x != 0
  | .text s => !s.isEmpty
  | .list items => !items.isEmpty
  | _ => true

/-- The whole number that a value is, truth values counting as one and zero. -/
def int? : Value → Option Int
  | .int n => some n
  | .bool b => some (if b then 1 else 0)
  | _ => Option.none

end Value

/-! ## Numbers -/

/-- A number of either sort. -/
inductive Numeral where
  | int (n : Int)
  | real (x : Float)

/-- The number that a value is. -/
def Value.numeral? : Value → Option Numeral
  | .int n => some (.int n)
  | .bool b => some (.int (if b then 1 else 0))
  | .real x _ => some (.real x)
  | _ => Option.none

/-- Whether a double is undefined. -/
def isNaN (x : Float) : Bool :=
  x != x

/-- Compares a whole number with a double by their exact values; `none` if the
    double is undefined. -/
def compareInt (n : Int) (x : Float) : Option Ordering :=
  match Binary64.parts x with
  | .nan => none
  | .infinite negative => some (if negative then .gt else .lt)
  | .finite negative significand exponent =>
      let (num, den) := Binary64.ratio significand exponent
      some (compare (n * den) (if negative then -(num : Int) else num))

/-- Compares two doubles. -/
def compareReal (x y : Float) : Option Ordering :=
  if x < y then some .lt
  else if y < x then some .gt
  else if x == y then some .eq
  else none

/-- Compares two numbers; `none` if one of them is undefined. -/
def Numeral.compare? : Numeral → Numeral → Option Ordering
  | .int m, .int n => some (compare m n)
  | .int m, .real y => compareInt m y
  | .real x, .int n => (compareInt n x).map Ordering.swap
  | .real x, .real y => compareReal x y

namespace Value

/-! ## Equality -/

variable [Platform]

/-- Whether two values are the same one without a look at their content. Only
    undefined numbers tell this apart from equality. -/
def identical : Value → Value → Bool
  | .real x (some o), .real y (some p) => isNaN x && isNaN y && (o == p || Platform.same o p)
  | _, _ => false

mutual

/-- Whether two values are equal. -/
def equal : Value → Value → Bool
  | .none, .none => true
  | .text s, .text t => s == t
  | .list xs, .list ys => equalItems xs ys
  | .function tag _, .function other _ => tag.serial == other.serial
  | .helper h, .helper i => h == i
  | .slice a b c, .slice d e f => equal a d && equal b e && equal c f
  | v, w =>
      match v.numeral?, w.numeral? with
      | some m, some n => m.compare? n == some .eq
      | _, _ => false

/-- Whether two lists of values are equal item by item. -/
def equalItems : List Value → List Value → Bool
  | [], [] => true
  | x :: xs, y :: ys => (identical x y || equal x y) && equalItems xs ys
  | _, _ => false

end

/-- Whether two items count as equal inside of a list. -/
def sameItem (x y : Value) : Bool :=
  identical x y || equal x y

/-! ## Showing values -/

/-- Doubles inside of text are written positionally below `10 ^ 16`, whole ones
    with a zero after the point, and exponents have two digits. -/
def realStyle : DecimalStyle where
  scientificFrom := 16
  wholeMark := ".0"
  exponentWidth := 2

/-- The text of a double. -/
def realText (x : Float) : String :=
  match Binary64.parts x with
  | .nan => "nan"
  | .infinite false => "inf"
  | .infinite true => "-inf"
  | .finite negative significand exponent =>
      if significand = 0 then if negative then "-0.0" else "0.0"
      else realStyle.renderParts negative significand exponent

/-- The greatest number of digits of a whole number that is written out. -/
def maxDigits : Nat := 4300

/-- Whether a number has more than `maxDigits` digits. The bits of a number
    already tell in most cases. -/
def tooLong (n : Nat) : Bool :=
  if n.log2 < 14000 then false else maxDigits < decimalLength n

/-- The text of a whole number. -/
def intText (n : Int) : Except Fault String :=
  if tooLong n.natAbs then .error .digitsWritten else .ok (toString n)

/-- How a helper is shown. -/
def helperText (h : Helper) : String :=
  match h.kind with
  | .type => "<class '" ++ h.name ++ "'>"
  | .builtin => "<built-in function " ++ h.name ++ ">"
  | _ => "<function " ++ h.shownName ++ ">"

mutual

/-- How a value is shown inside of text. -/
def repr : Value → Except Fault String
  | .none => .ok "None"
  | .bool true => .ok "True"
  | .bool false => .ok "False"
  | .int n => intText n
  | .real x _ => .ok (realText x)
  | .text s => .ok (Text.quoted s)
  | .list items => do
      let shown ← reprItems items
      return "[" ++ ", ".intercalate shown ++ "]"
  | .function tag _ => .ok tag.text
  | .helper h => .ok (helperText h)
  | .slice a b c => do
      let lower ← repr a
      let upper ← repr b
      let step ← repr c
      return "slice(" ++ lower ++ ", " ++ upper ++ ", " ++ step ++ ")"

/-- How the values of a list are shown. -/
def reprItems : List Value → Except Fault (List String)
  | [] => .ok []
  | v :: rest => do
      let first ← repr v
      let more ← reprItems rest
      return first :: more

end

/-- The text of a value: text stands for itself, all else is shown. -/
def show? : Value → Except Fault String
  | .text s => .ok s
  | v => repr v

end Value

end MiniLisp.Host
