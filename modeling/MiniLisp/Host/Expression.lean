/-! # Host expressions

    The tree of a host expression: the small infix language in which a program
    may write arithmetic, comparisons and text operations. The tree can hold
    every construct the language's grammar knows. Only a closed set of them
    may be evaluated; the rest is kept so that it can be named when it is
    refused.
-/

namespace MiniLisp.Host

/-! ## Names of things -/

/-- The functions an expression may call. -/
inductive Helper where
  | len | abs | str | float | int | round | min | max | upper | lower
  | isNumber | isString | isList | isBool | isNil
  deriving DecidableEq, Repr

namespace Helper

/-- The name by which an expression refers to a helper. -/
def name : Helper → String
  | .len => "len"
  | .abs => "abs"
  | .str => "str"
  | .float => "float"
  | .int => "int"
  | .round => "round"
  | .min => "min"
  | .max => "max"
  | .upper => "upper"
  | .lower => "lower"
  | .isNumber => "is_number"
  | .isString => "is_string"
  | .isList => "is_list"
  | .isBool => "is_bool"
  | .isNil => "is_nil"

/-- Every helper. -/
def all : List Helper :=
  [.len, .abs, .str, .float, .int, .round, .min, .max, .upper, .lower,
   .isNumber, .isString, .isList, .isBool, .isNil]

theorem mem_all (h : Helper) : h ∈ all := by
  cases h <;> simp [all]

/-- The helper of a name. -/
def ofName? (text : String) : Option Helper :=
  all.find? fun h => h.name == text

/-- The helper of a name is found by it. -/
theorem ofName?_name (h : Helper) : ofName? h.name = some h := by
  cases h <;> decide

end Helper

/-- Operators between two operands. Those after `mod` can be read but not
    evaluated. -/
inductive BinaryOp where
  | add | sub | mul | div | floorDiv | mod
  | power | matrixMul | shiftLeft | shiftRight | bitOr | bitXor | bitAnd
  deriving DecidableEq, Repr

/-- How the operator is called where it is refused. -/
def BinaryOp.kind : BinaryOp → String
  | .add => "Add"
  | .sub => "Sub"
  | .mul => "Mult"
  | .div => "Div"
  | .floorDiv => "FloorDiv"
  | .mod => "Mod"
  | .power => "Pow"
  | .matrixMul => "MatMult"
  | .shiftLeft => "LShift"
  | .shiftRight => "RShift"
  | .bitOr => "BitOr"
  | .bitXor => "BitXor"
  | .bitAnd => "BitAnd"

/-- Operators before one operand. `invert` can be read but not evaluated. -/
inductive UnaryOp where
  | negate | plus | not | invert
  deriving DecidableEq, Repr

/-- How the operator is called where it is refused. -/
def UnaryOp.kind : UnaryOp → String
  | .negate => "USub"
  | .plus => "UAdd"
  | .not => "Not"
  | .invert => "Invert"

/-- Comparisons. `same` and `notSame` can be read but not evaluated. -/
inductive Comparison where
  | eq | ne | lt | le | gt | ge | member | notMember | same | notSame
  deriving DecidableEq, Repr

/-- How the comparison is called where it is refused. -/
def Comparison.kind : Comparison → String
  | .eq => "Eq"
  | .ne => "NotEq"
  | .lt => "Lt"
  | .le => "LtE"
  | .gt => "Gt"
  | .ge => "GtE"
  | .member => "In"
  | .notMember => "NotIn"
  | .same => "Is"
  | .notSame => "IsNot"

/-- Literals. Those of other types are kept as the text that shows them. -/
inductive Literal where
  | none
  | bool (value : Bool)
  | int (value : Nat)
  | real (value : Float)
  | text (value : String)
  | other (shown : String)

/-- Constructs that are never evaluated. -/
inductive Construct where
  | access | lambda | listComprehension | setComprehension
  | dictComprehension | generator | dict | set | assignment | yield
  | yieldFrom | await | formatted | starred
  deriving DecidableEq, Repr

/-- How the construct is called where it is refused. -/
def Construct.kind : Construct → String
  | .access => "Attribute"
  | .lambda => "Lambda"
  | .listComprehension => "ListComp"
  | .setComprehension => "SetComp"
  | .dictComprehension => "DictComp"
  | .generator => "GeneratorExp"
  | .dict => "Dict"
  | .set => "Set"
  | .assignment => "NamedExpr"
  | .yield => "Yield"
  | .yieldFrom => "YieldFrom"
  | .await => "Await"
  | .formatted => "JoinedStr"
  | .starred => "Starred"

/-! ## The tree -/

/-- A host expression. -/
inductive Expr where
  | literal (value : Literal)
  | name (id : String)
  | binary (op : BinaryOp) (left right : Expr)
  | unary (op : UnaryOp) (operand : Expr)
  /-- The operands joined by `and`. -/
  | conjunction (operands : List Expr)
  /-- The operands joined by `or`. -/
  | disjunction (operands : List Expr)
  /-- A chain of comparisons; each link compares with the operand before it. -/
  | comparison (first : Expr) (links : List (Comparison × Expr))
  | conditional (test thenCase elseCase : Expr)
  | subscript (value index : Expr)
  | slice (lower upper step : Option Expr)
  | list (items : List Expr)
  | tuple (items : List Expr)
  /-- A call; the values of keyword arguments stand apart. -/
  | call (function : Expr) (arguments keywords : List Expr)
  | unsupported (construct : Construct) (operands : List Expr)

namespace Expr

mutual

/-- The number of nested expressions on the longest way down the tree. -/
def depth : Expr → Nat
  | .literal _ => 1
  | .name _ => 1
  | .binary _ left right => max left.depth right.depth + 1
  | .unary _ operand => operand.depth + 1
  | .conjunction operands => depthList operands + 1
  | .disjunction operands => depthList operands + 1
  | .comparison first links => max first.depth (depthLinks links) + 1
  | .conditional test thenCase elseCase =>
      max test.depth (max thenCase.depth elseCase.depth) + 1
  | .subscript value index => max value.depth index.depth + 1
  | .slice lower upper step =>
      max (depthOption lower) (max (depthOption upper) (depthOption step)) + 1
  | .list items => depthList items + 1
  | .tuple items => depthList items + 1
  | .call function arguments keywords =>
      max function.depth (max (depthList arguments) (depthList keywords)) + 1
  | .unsupported _ operands => depthList operands + 1

/-- The greatest depth in a list of expressions. -/
def depthList : List Expr → Nat
  | [] => 0
  | e :: rest => max e.depth (depthList rest)

/-- The greatest depth in the links of a comparison. -/
def depthLinks : List (Comparison × Expr) → Nat
  | [] => 0
  | (_, e) :: rest => max e.depth (depthLinks rest)

/-- The depth of an expression that may be missing. -/
def depthOption : Option Expr → Nat
  | none => 0
  | some e => e.depth

end

end Expr

end MiniLisp.Host
