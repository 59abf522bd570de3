import MiniLisp.Host.Call
import MiniLisp.Host.Check
import MiniLisp.Host.Indexing
import MiniLisp.Host.Percent

/-! # Evaluating host expressions

    Operands are evaluated from left to right. The operands of `and` and `or`
    are evaluated until one decides, which is then the value; a chain of
    comparisons ends with the first one that does not hold, and each operand
    of it is evaluated once. Every level of the tree takes a level of room.
-/

namespace MiniLisp.Host

variable [Platform]

/-- The values of the declared variables. -/
abbrev Bindings := List (String × Value)

/-- The value of an operator between two values. -/
def applyBinary (op : BinaryOp) (v w : Value) : Outcome Value :=
  match op, v with
  | .mod, .text s => Percent.format s w
  | _, _ =>
    match v.numeral?, w.numeral? with
    | some m, some n => numeralOperation op m n
    | _, _ =>
      match op with
      | .add => joined v w
      | .mul => multiplied v w
      | _ => raise (.operands op v.kind w.kind)

/-- The value of a literal. -/
def Literal.value : Literal → Outcome Value
  | .none => .ok .none
  | .bool b => .ok (.bool b)
  | .int n => .ok (.int n)
  | .real x => .ok (.ofFloat x)
  | .text s => .ok (.text s)
  | .other shown => .error (.stuck shown)

/-- The value of a name: a variable, or else the helper of that name. -/
def nameValue (bindings : Bindings) (id : String) : Outcome Value :=
  match bindings.lookup id with
  | some v => .ok v
  | none =>
    match Helper.ofName? id with
    | some h => .ok (.helper h)
    | none => .error (.stuck id)

namespace Expr

mutual

/-- The value of an expression, if it fits the room. -/
def eval (bindings : Bindings) : Nat → Expr → Outcome Value
  | 0, _ => .error .exhausted
  | _ + 1, .literal l => l.value
  | _ + 1, .name id => nameValue bindings id
  | room + 1, .binary op left right =>
      if op.isSupported then do
        let v ← eval bindings room left
        let w ← eval bindings room right
        applyBinary op v w
      else .error (.stuck op.kind)
  | room + 1, .unary op operand => do
      let v ← eval bindings room operand
      applyUnary op v
  | room + 1, .conjunction operands => evalAnd bindings room (.bool true) operands
  | room + 1, .disjunction operands => evalOr bindings room (.bool false) operands
  | room + 1, .comparison first links => do
      let v ← eval bindings room first
      evalLinks bindings room v links
  | room + 1, .conditional test thenCase elseCase => do
      let v ← eval bindings room test
      if v.truth then eval bindings room thenCase else eval bindings room elseCase
  | room + 1, .subscript value index => do
      let v ← eval bindings room value
      let i ← eval bindings room index
      subscripted v i
  | room + 1, .slice lower upper step => do
      let a ← evalPart bindings room lower
      let b ← evalPart bindings room upper
      let c ← evalPart bindings room step
      return .slice a b c
  | room + 1, .list items => do
      let values ← evalAll bindings room items
      return .list values
  | room + 1, .tuple items => do
      let values ← evalAll bindings room items
      return .list values
  | room + 1, .call (.name id) arguments _ =>
      match Helper.ofName? id with
      | some h => do
          let values ← evalAll bindings room arguments
          h.call room values
      | none => .error (.stuck id)
  | _ + 1, .call _ _ _ => .error (.stuck "Call")
  | _ + 1, .unsupported which _ => .error (.stuck which.kind)

/-- The values of expressions. -/
def evalAll (bindings : Bindings) (room : Nat) : List Expr → Outcome (List Value)
  | [] => .ok []
  | e :: rest => do
      let v ← eval bindings room e
      let vs ← evalAll bindings room rest
      return v :: vs

/-- The first value that does not count as true, or else the last one. -/
def evalAnd (bindings : Bindings) (room : Nat) (last : Value) : List Expr → Outcome Value
  | [] => .ok last
  | e :: rest => do
      let v ← eval bindings room e
      if v.truth then evalAnd bindings room v rest else return v

/-- The first value that counts as true, or else the last one. -/
def evalOr (bindings : Bindings) (room : Nat) (last : Value) : List Expr → Outcome Value
  | [] => .ok last
  | e :: rest => do
      let v ← eval bindings room e
      if v.truth then return v else evalOr bindings room v rest

/-- Whether all links of a chain hold, `left` being the operand before them. -/
def evalLinks (bindings : Bindings) (room : Nat) (left : Value) :
    List (Comparison × Expr) → Outcome Value
  | [] => .ok (.bool true)
  | (op, e) :: rest => do
      let right ← eval bindings room e
      let holds ← compared op left right
      if holds then evalLinks bindings room right rest else return .bool false

/-- The value of a part that may be missing. -/
def evalPart (bindings : Bindings) (room : Nat) : Option Expr → Outcome Value
  | none => .ok .none
  | some e => eval bindings room e

end

end Expr

/-! ## Reading variables -/

/-- Why no value comes out of a term. -/
inductive NoValue where
  /-- A symbol without a binding. -/
  | unbound (name : String)
  /-- The term is nested too deeply, or a symbol leads back to itself. -/
  | exhausted
  deriving DecidableEq, Repr

/-- The value of a term. Symbols are replaced by what they are bound to, which
    is turned into a value in turn; `find` looks a name up and also tells the
    scope of the binding. The first argument bounds the depth. -/
def valueOf (find : String → Option (ScopeId × Term)) : Nat → Origin → Term → Except NoValue Value
  | 0, _, _ => .error .exhausted
  | n + 1, origin, t =>
      match t with
      | .bool b => .ok (.bool b)
      | .str s => .ok (.text s)
      | .num x => .ok (.real x (if isNaN x then some origin else none))
      | .nil => .ok .none
      | .function tag code => .ok (.function tag code)
      | .sym name _ =>
          match find name with
          | none => .error (.unbound name)
          | some (scope, bound) => valueOf find n ⟨scope, name, []⟩ bound
      | .list items => do
          let values ← items.zipIdx.mapM fun (item, i) =>
            valueOf find n { origin with path := i :: origin.path } item
          return .list values

end MiniLisp.Host
