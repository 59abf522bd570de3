import MiniLisp.Host.Expression
import MiniLisp.Text.Quoted

/-! # Which host expressions are accepted

    An expression is accepted if every part of it, also those that may never
    be evaluated, belongs to a closed set of constructs and names only
    declared variables and helpers. The check walks the tree from left to
    right, operators before their operands, and reports the first offence;
    every level of the tree takes a level of room.
-/

namespace MiniLisp.Host

/-- Why an expression is refused. -/
inductive Refusal where
  /-- The text is no expression at all, and what is added to that. -/
  | malformed (complaint : String)
  | literal (shown : String)
  | name (id : String)
  | binary (op : BinaryOp)
  | unary (op : UnaryOp)
  | comparison (op : Comparison)
  /-- A call of anything but a helper with positional arguments. -/
  | call
  | construct (which : Construct)
  deriving DecidableEq, Repr

/-- Why a check does not end well. -/
inductive CheckFailure where
  | refused (refusal : Refusal)
  /-- The recursion is deeper than the room. -/
  | exhausted
  deriving DecidableEq, Repr

/-- The wording of a refusal of the given text. -/
def Refusal.message (source : String) : Refusal → String
  | .malformed complaint => "invalid expression " ++ Text.quoted source ++ complaint
  | .literal shown => "unsupported literal " ++ shown
  | .name id => "unknown name '" ++ id ++ "'"
  | .binary op => "unsupported operator " ++ op.kind
  | .unary op => "unsupported operator " ++ op.kind
  | .comparison op => "unsupported comparison " ++ op.kind
  | .call => "unsupported construct Call in " ++ Text.quoted source
  | .construct which => "unsupported construct " ++ which.kind ++ " in " ++ Text.quoted source

/-- Whether an operator can be evaluated. -/
def BinaryOp.isSupported : BinaryOp → Bool
  | .add | .sub | .mul | .div | .floorDiv | .mod => true
  | _ => false

/-- Whether an operator can be evaluated. -/
def UnaryOp.isSupported : UnaryOp → Bool
  | .invert => false
  | _ => true

/-- Whether a comparison can be evaluated. -/
def Comparison.isSupported : Comparison → Bool
  | .same | .notSame => false
  | _ => true

namespace Expr

/-- Checks the operators of a chain of comparisons. -/
def checkOperators : List (Comparison × Expr) → Except CheckFailure Unit
  | [] => .ok ()
  | (op, _) :: rest =>
      if op.isSupported then checkOperators rest else .error (.refused (.comparison op))

mutual

/-- Checks an expression over the given variables within the room. -/
def checkWithin (names : List String) : Nat → Expr → Except CheckFailure Unit
  | 0, _ => .error .exhausted
  | _ + 1, .literal (.other shown) => .error (.refused (.literal shown))
  | _ + 1, .literal _ => .ok ()
  | _ + 1, .name id =>
      if names.contains id || (Helper.ofName? id).isSome then .ok ()
      else .error (.refused (.name id))
  | room + 1, .binary op left right =>
      if op.isSupported then do
        checkWithin names room left
        checkWithin names room right
      else .error (.refused (.binary op))
  | room + 1, .unary op operand =>
      if op.isSupported then checkWithin names room operand else .error (.refused (.unary op))
  | room + 1, .conjunction operands => checkAll names room operands
  | room + 1, .disjunction operands => checkAll names room operands
  | room + 1, .comparison first links => do
      checkOperators links
      checkWithin names room first
      checkLinks names room links
  | room + 1, .conditional test thenCase elseCase => do
      checkWithin names room test
      checkWithin names room thenCase
      checkWithin names room elseCase
  | room + 1, .subscript value index => do
      checkWithin names room value
      checkWithin names room index
  | room + 1, .slice lower upper step => do
      checkPart names room lower
      checkPart names room upper
      checkPart names room step
  | room + 1, .list items => checkAll names room items
  | room + 1, .tuple items => checkAll names room items
  | room + 1, .call (.name id) arguments [] =>
      if (Helper.ofName? id).isSome then checkAll names room arguments
      else .error (.refused .call)
  | _ + 1, .call _ _ _ => .error (.refused .call)
  | _ + 1, .unsupported which _ => .error (.refused (.construct which))

/-- Checks expressions one after the other. -/
def checkAll (names : List String) (room : Nat) : List Expr → Except CheckFailure Unit
  | [] => .ok ()
  | e :: rest => do
      checkWithin names room e
      checkAll names room rest

/-- Checks the operands of a chain of comparisons. -/
def checkLinks (names : List String) (room : Nat) :
    List (Comparison × Expr) → Except CheckFailure Unit
  | [] => .ok ()
  | (_, e) :: rest => do
      checkWithin names room e
      checkLinks names room rest

/-- Checks a part that may be missing. -/
def checkPart (names : List String) (room : Nat) : Option Expr → Except CheckFailure Unit
  | none => .ok ()
  | some e => checkWithin names room e

end

/-- Checks an expression over the given variables, with room for all of it. -/
def check (names : List String) (e : Expr) : Except Refusal Unit :=
  match e.checkWithin names e.depth with
  | .error (.refused refusal) => .error refusal
  | _ => .ok ()

end Expr

end MiniLisp.Host
