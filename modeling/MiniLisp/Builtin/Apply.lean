import MiniLisp.Passes

/-! # Calling builtins

    What the builtin functions compute. The number of the arguments is looked
    at before their kinds.
-/

namespace MiniLisp

namespace Builtin

/-- Why arguments are refused. -/
abbrev Checked (α : Type) := Except CallError α

/-! ## Numbers -/

/-- The numbers that terms are, `none` if one of them is no number. -/
def numbers? (terms : List Term) : Option (List Float) :=
  terms.mapM fun
    | .num x => some x
    | _ => none

/-- The arguments of a builtin that takes two or more numbers. -/
def manyNumbers (b : Builtin) (arguments : List Term) : Checked (List Float) :=
  if arguments.length < 2 then .error (.count b)
  else
    match numbers? arguments with
    | some xs => .ok xs
    | none => .error (.kinds b)

/-- The arguments of a builtin that takes two numbers. -/
def twoNumbers (b : Builtin) (arguments : List Term) : Checked (Float × Float) :=
  match arguments with
  | [.num x, .num y] => .ok (x, y)
  | [_, _] => .error (.kinds b)
  | _ => .error (.count b)

/-- The sum of numbers, added from left to right onto zero. -/
def sum (xs : List Float) : Float :=
  xs.foldl (· + ·) 0.0

/-- The product of numbers, multiplied from left to right onto one. -/
def product (xs : List Float) : Float :=
  xs.foldl (· * ·) 1.0

/-- The quotient of two numbers. -/
def quotient (x y : Float) : Checked Float :=
  if y == 0 then .error .divisionByZero else .ok (x / y)

/-! ## Lists and strings -/

/-- A count as a term. -/
def countTerm (n : Nat) : Term :=
  .num (Binary64.ofInt n)

/-- The number of items or characters of the only argument. -/
def size (b : Builtin) (arguments : List Term) : Checked Nat :=
  match arguments with
  | [.list items] => .ok items.length
  | [.str text] => .ok text.length
  | _ => .error (.kinds b)

/-- The strings that terms are, `none` if one of them is no string. -/
def strings? (terms : List Term) : Option (List String) :=
  terms.mapM fun
    | .str text => some text
    | _ => none

/-- The strings put together. -/
def concatenation (arguments : List Term) : Checked Term :=
  if arguments.isEmpty then .error (.count .concat)
  else
    match strings? arguments with
    | some texts => .ok (.str (String.join texts))
    | none => .error (.kinds .concat)

/-- A text, unless it is missing or empty. -/
def nonempty? (text : Option String) : Option String :=
  text.filter fun s => !s.isEmpty

/-- The description of a function, or else its id, or else nil. -/
def described (tag : FunctionTag) : Term :=
  match nonempty? tag.description <|> nonempty? tag.id with
  | some text => .str text
  | none => .nil

/-- The first item of a list; nil if there is none. -/
def firstItem (arguments : List Term) : Checked Term :=
  match arguments with
  | [.list items] => .ok (items.headD .nil)
  | _ => .error (.kinds .first)

/-- The items of a list after the first one. -/
def otherItems (arguments : List Term) : Checked Term :=
  match arguments with
  | [.list items] => .ok (.list items.tail)
  | _ => .error (.kinds .rest)

/-- A list with an item put before it; nil counts as the empty list. -/
def prepended (arguments : List Term) : Checked Term :=
  match arguments with
  | [head, .list items] => .ok (.list (head :: items))
  | [head, .nil] => .ok (.list [head])
  | _ => .error (.kinds .cons)

/-- The characters of a string, as strings. -/
def characterList (arguments : List Term) : Checked Term :=
  match arguments with
  | [.str text] => .ok (.list (text.toList.map fun c => .str c.toString))
  | _ => .error (.kinds .characters)

/-- What is known about a function. -/
def description? (arguments : List Term) : Checked Term :=
  match arguments with
  | [.function tag _] => .ok (described tag)
  | _ => .error (.kinds .describe)

/-! ## Functions on all terms, and the console -/

/-- Fails with a refused call. -/
def refuse {α : Type} (e : CallError) : Action α :=
  Action.fail (.call e)

/-- Whether two terms have the same printed form. -/
def callEqual (p : Passes) (arguments : List Term) : Action Term :=
  match arguments with
  | [t, u] => do
      let text ← p.print t
      let other ← p.print u
      return .bool (text == other)
  | _ => refuse (.count .equal)

/-- Calls a function on each item of a list. -/
def callMap (p : Passes) (arguments : List Term) (scope : ScopeId) : Action Term :=
  match arguments with
  | [.function _ code, .list items] => do
      let values ← items.mapM fun t => p.call code [t] scope
      return .list values
  | _ => refuse (.kinds .map)

/-- Calls a function on what was reached so far and each item of a list. -/
def callFold (p : Passes) (code : Code) (reached : Term) (items : List Term) (scope : ScopeId) :
    Action Term :=
  match items with
  | [] => return reached
  | t :: others => do
      let next ← p.call code [reached, t] scope
      callFold p code next others scope

/-- Folds a list from the left. Without an initial value the first item is it,
    and an empty list gives nil. -/
def callReduce (p : Passes) (arguments : List Term) (scope : ScopeId) : Action Term :=
  match arguments with
  | [.function _ code, .list items, initial] => callFold p code initial items scope
  | [.function _ code, .list items] =>
      match items with
      | [] => return .nil
      | t :: others => callFold p code t others scope
  | _ => refuse (.kinds .reduce)

/-- The text that a term shows on the console. -/
def displayed (p : Passes) (t : Term) : Action String :=
  match t with
  | .str text => return text
  | t => p.print t

/-- Writes the arguments as one entry, each on a line of its own. -/
def callPrint (p : Passes) (arguments : List Term) : Action Term := do
  let texts ← arguments.mapM (displayed p)
  Action.writeLine ("\n".intercalate texts)
  return .nil

/-- Reads a line. -/
def callRead (arguments : List Term) : Action Term :=
  match arguments with
  | [] => .str <$> Action.readLine ""
  | [.str prompt] => .str <$> Action.readLine prompt
  | _ => refuse (.kinds .read)

/-- A value that is computed from the arguments alone. -/
def checked (value : Checked Term) : Action Term :=
  match value with
  | .ok t => return t
  | .error e => refuse e

/-- Calls a builtin from a scope. -/
def apply (p : Passes) (b : Builtin) (arguments : List Term) (scope : ScopeId) : Action Term :=
  match b with
  | .add => checked do return .num (sum (← manyNumbers b arguments))
  | .sub => checked do
      let (x, y) ← twoNumbers b arguments
      return .num (x - y)
  | .mul => checked do return .num (product (← manyNumbers b arguments))
  | .div => checked do
      let (x, y) ← twoNumbers b arguments
      return .num (← quotient x y)
  | .less => checked do
      let (x, y) ← twoNumbers b arguments
      return .bool (x < y)
  | .equal => callEqual p arguments
  | .first => checked (firstItem arguments)
  | .rest => checked (otherItems arguments)
  | .cons => checked (prepended arguments)
  | .list => return .list arguments
  | .map => callMap p arguments scope
  | .reduce => callReduce p arguments scope
  | .concat => checked (concatenation arguments)
  | .characters => checked (characterList arguments)
  | .length => checked do return countTerm (← size b arguments)
  | .isEmpty => checked do return .bool ((← size b arguments) == 0)
  | .describe => checked (description? arguments)
  | .print => callPrint p arguments
  | .read => callRead arguments

end Builtin

end MiniLisp
