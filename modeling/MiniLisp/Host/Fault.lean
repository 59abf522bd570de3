import MiniLisp.Host.Expression
import MiniLisp.Text.Quoted

/-! # Faults of host expressions

    What can go wrong while an accepted expression is evaluated, by cause.
    Every fault has a class and a text; both are shown to the program.
-/

namespace MiniLisp.Host

/-- The kinds of host values. -/
inductive Kind where
  | none | bool | int | real | text | list | function
  /-- A helper that is part of the host, like `len`. -/
  | builtin
  /-- A helper that is a type, like `float`. -/
  | type
  /-- A helper that was added to the host, like `upper`. -/
  | added
  | slice
  deriving DecidableEq, Repr

/-- How a kind is called. -/
def Kind.name : Kind → String
  | .none => "NoneType"
  | .bool => "bool"
  | .int => "int"
  | .real => "float"
  | .text => "str"
  | .list => "list"
  | .function => "Function"
  | .builtin => "builtin_function_or_method"
  | .type => "type"
  | .added => "function"
  | .slice => "slice"

/-- The classes of faults. -/
inductive FaultClass where
  | zeroDivision | overflow | type | value | index | member | key
  deriving DecidableEq, Repr

/-- How a class is called. -/
def FaultClass.name : FaultClass → String
  | .zeroDivision => "ZeroDivisionError"
  | .overflow => "OverflowError"
  | .type => "TypeError"
  | .value => "ValueError"
  | .index => "IndexError"
  | .member => "AttributeError"
  | .key => "KeyError"

/-- The spelling of an operator in messages. -/
def BinaryOp.spelling : BinaryOp → String
  | .add => "+"
  | .sub => "-"
  | .mul => "*"
  | .div => "/"
  | .floorDiv => "//"
  | .mod => "%"
  | .power => "**"
  | .matrixMul => "@"
  | .shiftLeft => "<<"
  | .shiftRight => ">>"
  | .bitOr => "|"
  | .bitXor => "^"
  | .bitAnd => "&"

/-- The spelling of an operator in messages. -/
def UnaryOp.spelling : UnaryOp → String
  | .negate => "-"
  | .plus => "+"
  | .not => "not"
  | .invert => "~"

/-- The spelling of a comparison in messages. -/
def Comparison.spelling : Comparison → String
  | .eq => "=="
  | .ne => "!="
  | .lt => "<"
  | .le => "<="
  | .gt => ">"
  | .ge => ">="
  | .member => "in"
  | .notMember => "not in"
  | .same => "is"
  | .notSame => "is not"

/-- The causes of faults. -/
inductive Fault where
  -- arithmetic
  | divisionByZero (op : BinaryOp) (real : Bool)
  | intTooLarge
  | quotientTooLarge
  | infinityToInt
  | nanToInt
  | roundedTooLarge
  | operands (op : BinaryOp) (left right : Kind)
  | operand (op : UnaryOp) (kind : Kind)
  -- sequences
  | concatenation (left right : Kind)
  | repetition (count : Kind)
  | countTooLarge
  | textTooLong
  | order (op : Comparison) (left right : Kind)
  | noMembers (kind : Kind)
  | notInText (kind : Kind)
  | notSubscriptable (kind : Kind)
  | typeNotSubscriptable (helper : Helper)
  | textIndex (kind : Kind)
  | listIndex (kind : Kind)
  | textIndexRange
  | listIndexRange
  | indexTooLarge
  | sliceBound
  | sliceStep
  -- calls
  | argumentCount (helper : Helper) (given : Nat)
  | noLength (kind : Kind)
  | noMagnitude (kind : Kind)
  | noRounding (kind : Kind)
  | notWhole (kind : Kind)
  | notIterable (kind : Kind)
  | emptySequence (helper : Helper)
  | noMethod (kind : Kind) (method : Helper)
  | typeWithoutMethod (type method : Helper)
  | realText (text : String)
  | realArgument (kind : Kind)
  | intText (base : Nat) (text : String)
  | intArgument (kind : Kind)
  | explicitBase
  | badBase
  | digitsRead (count : Nat)
  | digitsWritten
  -- formats
  | formatReal (letter : Char) (kind : Kind)
  | formatInt (letter : Char) (kind : Kind)
  | formatNumber (kind : Kind)
  | formatChar
  | formatCharRange
  | formatIncomplete
  | formatKeyIncomplete
  | formatLetter (letter : Char) (index : Nat)
  | formatTooFew
  | formatTooMany
  | formatMapping
  | formatStar
  | formatWidth
  | formatPrecision
  | formatStarWidth
  | formatStarPrecision
  | formatPrecisionTooLarge
  deriving Repr

/-- The parameter of an added helper. -/
def Helper.parameter : Helper → String
  | .str => "value"
  | .upper => "s"
  | .lower => "s"
  | _ => "v"

/-- The name that an added helper has in messages. -/
def Helper.shownName : Helper → String
  | .str => "_host_str"
  | _ => "<lambda>"

namespace Fault

/-- The wording for a call with the wrong number of arguments. -/
def argumentCountText (helper : Helper) (given : Nat) : String :=
  let count := toString given
  match helper with
  | .len | .abs => helper.name ++ "() takes exactly one argument (" ++ count ++ " given)"
  | .round =>
      if given = 0 then "round() missing required argument 'number' (pos 1)"
      else "round() takes at most 2 arguments (" ++ count ++ " given)"
  | .min | .max => helper.name ++ " expected at least 1 argument, got " ++ count
  | .float => "float expected at most 1 argument, got " ++ count
  | .int => "int() takes at most 2 arguments (" ++ count ++ " given)"
  | _ =>
      if given = 0 then
        helper.shownName ++ "() missing 1 required positional argument: '" ++
          helper.parameter ++ "'"
      else helper.shownName ++ "() takes 1 positional argument but " ++ count ++ " were given"

/-- The wording for a division by zero. -/
def divisionText (op : BinaryOp) (real : Bool) : String :=
  match op, real with
  | .div, false => "division by zero"
  | .div, true => "float division by zero"
  | .floorDiv, true => "float floor division by zero"
  | .floorDiv, false => "integer division or modulo by zero"
  | _, true => "float modulo"
  | _, false => "integer modulo by zero"

/-- The character of an unknown format where it can be shown. -/
def shownLetter (c : Char) : Char :=
  if 31 ≤ c.toNat && c.toNat ≤ 126 then c else '?'

/-- The class of a fault. -/
def kind : Fault → FaultClass
  | divisionByZero _ _ => .zeroDivision
  | intTooLarge | quotientTooLarge | infinityToInt | roundedTooLarge | countTooLarge | textTooLong
  | formatCharRange | formatStarWidth | formatStarPrecision | formatPrecisionTooLarge => .overflow
  | nanToInt | sliceStep | emptySequence _ | realText _ | intText _ _ | badBase | digitsRead _
  | digitsWritten | formatIncomplete | formatKeyIncomplete | formatLetter _ _ | formatWidth
  | formatPrecision => .value
  | textIndexRange | listIndexRange | indexTooLarge => .index
  | noMethod _ _ | typeWithoutMethod _ _ => .member
  | _ => .type

/-- The end of the wording for numbers with too many digits. -/
def digitsAdvice : String :=
  "; use sys.set_int_max_str_digits() to increase the limit"

/-- The text of a fault. -/
def text : Fault → String
  | divisionByZero op real => divisionText op real
  | intTooLarge => "int too large to convert to float"
  | quotientTooLarge => "integer division result too large for a float"
  | infinityToInt => "cannot convert float infinity to integer"
  | nanToInt => "cannot convert float NaN to integer"
  | roundedTooLarge => "rounded value too large to represent"
  | operands op left right =>
      "unsupported operand type(s) for " ++ op.spelling ++ ": '" ++ left.name ++ "' and '" ++
        right.name ++ "'"
  | operand op kind => "bad operand type for unary " ++ op.spelling ++ ": '" ++ kind.name ++ "'"
  | concatenation left right =>
      "can only concatenate " ++ left.name ++ " (not \"" ++ right.name ++ "\") to " ++ left.name
  | repetition count => "can't multiply sequence by non-int of type '" ++ count.name ++ "'"
  | countTooLarge => "cannot fit 'int' into an index-sized integer"
  | textTooLong => "repeated string is too long"
  | order op left right =>
      "'" ++ op.spelling ++ "' not supported between instances of '" ++ left.name ++ "' and '" ++
        right.name ++ "'"
  | noMembers kind => "argument of type '" ++ kind.name ++ "' is not iterable"
  | notInText kind => "'in <string>' requires string as left operand, not " ++ kind.name
  | notSubscriptable kind => "'" ++ kind.name ++ "' object is not subscriptable"
  | typeNotSubscriptable helper => "type '" ++ helper.name ++ "' is not subscriptable"
  | textIndex kind => "string indices must be integers, not '" ++ kind.name ++ "'"
  | listIndex kind => "list indices must be integers or slices, not " ++ kind.name
  | textIndexRange => "string index out of range"
  | listIndexRange => "list index out of range"
  | indexTooLarge => "cannot fit 'int' into an index-sized integer"
  | sliceBound => "slice indices must be integers or None or have an __index__ method"
  | sliceStep => "slice step cannot be zero"
  | argumentCount helper given => argumentCountText helper given
  | noLength kind => "object of type '" ++ kind.name ++ "' has no len()"
  | noMagnitude kind => "bad operand type for abs(): '" ++ kind.name ++ "'"
  | noRounding kind => "type " ++ kind.name ++ " doesn't define __round__ method"
  | notWhole kind => "'" ++ kind.name ++ "' object cannot be interpreted as an integer"
  | notIterable kind => "'" ++ kind.name ++ "' object is not iterable"
  | emptySequence helper => helper.name ++ "() arg is an empty sequence"
  | noMethod kind method =>
      "'" ++ kind.name ++ "' object has no attribute '" ++ method.name ++ "'"
  | typeWithoutMethod type method =>
      "type object '" ++ type.name ++ "' has no attribute '" ++ method.name ++ "'"
  | realText text => "could not convert string to float: " ++ Text.quoted text
  | realArgument kind =>
      "float() argument must be a string or a real number, not '" ++ kind.name ++ "'"
  | intText base text =>
      "invalid literal for int() with base " ++ toString base ++ ": " ++
        String.ofList ((Text.quoted text).toList.take 200)
  | intArgument kind =>
      "int() argument must be a string, a bytes-like object or a real number, not '" ++
        kind.name ++ "'"
  | explicitBase => "int() can't convert non-string with explicit base"
  | badBase => "int() base must be >= 2 and <= 36, or 0"
  | digitsRead count =>
      "Exceeds the limit (4300 digits) for integer string conversion: value has " ++
        toString count ++ " digits" ++ digitsAdvice
  | digitsWritten => "Exceeds the limit (4300 digits) for integer string conversion" ++ digitsAdvice
  | formatReal letter kind =>
      "%" ++ letter.toString ++ " format: a real number is required, not " ++ kind.name
  | formatInt letter kind =>
      "%" ++ letter.toString ++ " format: an integer is required, not " ++ kind.name
  | formatNumber kind => "must be real number, not " ++ kind.name
  | formatChar => "%c requires int or char"
  | formatCharRange => "%c arg not in range(0x110000)"
  | formatIncomplete => "incomplete format"
  | formatKeyIncomplete => "incomplete format key"
  | formatLetter letter index =>
      "unsupported format character '" ++ (shownLetter letter).toString ++ "' (0x" ++
        String.ofList (Text.hex 1 letter.toNat) ++ ") at index " ++ toString index
  | formatTooFew => "not enough arguments for format string"
  | formatTooMany => "not all arguments converted during string formatting"
  | formatMapping => "format requires a mapping"
  | formatStar => "* wants int"
  | formatWidth => "width too big"
  | formatPrecision => "precision too big"
  | formatStarWidth => "Python int too large to convert to C ssize_t"
  | formatStarPrecision => "Python int too large to convert to C int"
  | formatPrecisionTooLarge => "precision too large"

/-- The text of a fault after its class. -/
def message (f : Fault) : String :=
  f.kind.name ++ ": " ++ f.text

end Fault

end MiniLisp.Host
