import MiniLisp.Builtin
import MiniLisp.Host.Check
import MiniLisp.Host.Fault

/-! # Errors

    Everything that can go wrong in a program, by cause. The wording of an
    error is a function of its cause, and so is its class, by which errors are
    told apart from outside.

    * **`ReadError`** — the text is no program;
    * **`FormError`** — a special form or a macro is used with the wrong shape;
    * **`CallError`** — a function does not accept its arguments;
    * **`HostError`** — a host expression has no value;
    * **`LispError`** — all of these and the other errors of evaluation.
-/

namespace MiniLisp

/-! ## Reading -/

/-- The four abbreviations that stand before a form. -/
inductive QuoteMark where
  | quote | quasiquote | unquote | unquoteSplice
  deriving DecidableEq, Repr

/-- The symbol that an abbreviation stands for. -/
def QuoteMark.symbol : QuoteMark → String
  | .quote => "quote"
  | .quasiquote => "quasiquote"
  | .unquote => "unquote"
  | .unquoteSplice => "unquote-splice"

/-- Why a text is no program. -/
inductive ReadError where
  /-- A string that begins on the line has no end. -/
  | openString (line : Nat)
  /-- No form follows an abbreviation. -/
  | danglingMark (mark : QuoteMark) (line : Nat)
  /-- The console has no line left. -/
  | endOfInput
  deriving DecidableEq, Repr

/-- The wording of a read error. -/
def ReadError.message : ReadError → String
  | .openString line => "Error in readString: Unmatched quote (line " ++ toString line ++ ")"
  | .danglingMark mark line =>
      "Nothing to " ++ mark.symbol ++ " after marker (line " ++ toString line ++ ")"
  | .endOfInput => "[read] end of input"

/-! ## Classes -/

/-- The classes of errors. -/
inductive ErrorClass where
  /-- The text is no program, or the console has no line left. -/
  | read
  /-- A form has the wrong shape. -/
  | shape
  | unboundSymbol
  | notAFunction
  | arity
  | type
  | arithmetic
  /-- A host expression fails while it is evaluated. -/
  | host
  /-- The program itself failed on purpose. -/
  | thrown
  /-- The recursion is too deep. -/
  | recursion
  deriving DecidableEq, Repr

/-! ## Special forms and macros -/

/-- How a special form or a macro is misused. -/
inductive FormError where
  | defineName (line : Nat)
  | defineCount (line : Nat)
  | branchCount
  | evaluateCount
  | readTextCount
  | lambdaCount
  | lambdaParameters
  | lambdaRest
  | namedLambda
  | loopCount
  | leaveCount
  | assignCount
  | assignName
  | quoteCount
  | quasiquoteCount
  | unquoteCount
  | unquoteOutside
  | unquoteSplice
  | guardCount
  | throwCount
  | hostSource
  | hostNames
  | hostExpression (source : String) (refusal : Host.Refusal)
  | macroCount
  | macroAlias
  | macroName
  | macroParameters
  | macroBody
  | macroMissing (name : String)
  /-- A macro call with the wrong number of arguments. -/
  | macroArguments (name : String) (expected given : Nat)
  deriving DecidableEq, Repr

namespace FormError

/-- Whether a form has the wrong number of arguments or another wrong shape. -/
def kind : FormError → ErrorClass
  | defineCount _ | branchCount | evaluateCount | readTextCount | lambdaCount | loopCount
  | leaveCount | assignCount | quoteCount | quasiquoteCount | unquoteCount | guardCount
  | throwCount | macroCount | macroArguments _ _ _ => .arity
  | _ => .shape

/-- The wording of the misuse of a form. -/
def message : FormError → String
  | defineName line =>
      "[define] macro takes two arguments, the first of which must be a variable name (line = " ++
        toString line ++ ")"
  | defineCount line => "[define] macro takes two arguments (line = " ++ toString line ++ ")"
  | branchCount => "[if] macro takes 2 or 3 arguments, first of which must evaluate to a boolean"
  | evaluateCount => "'eval' requires 1 argument"
  | readTextCount => "'read-string' requires 1 string argument"
  | lambdaCount => "[lambda] macro takes 2, 3 or 4 arguments: (id?, description?, variables, body)"
  | lambdaParameters =>
      "[lambda] Function macro error: function parameters must be variable names"
  | lambdaRest =>
      "[lambda] Function macro error: '&' must be followed by exactly one variable name"
  | namedLambda => "[defn] macro takes a function name, a parameter list and a body"
  | loopCount => "[while] macro takes a condition and zero or more body forms"
  | leaveCount => "[break] macro takes no arguments"
  | assignCount => "[set!] macro takes 2 arguments: a variable name and a value"
  | assignName => "[set!] macro: first argument must be a variable name"
  | quoteCount => "'quote' takes exactly 1 argument"
  | quasiquoteCount => "'quasiquote' takes exactly 1 argument"
  | unquoteCount => "'unquote' takes exactly 1 argument"
  | unquoteOutside =>
      "[unquote] Unbalanced quotes: 'unquote' found without corresponding ' or \x60"
  | unquoteSplice => "[unquote-splice] not implemented"
  | guardCount => "[try] macro takes 1 or 2 arguments: (body, fallback?)"
  | throwCount => "[throw] macro takes 1 argument"
  | hostSource => "[native] macro takes a string argument as the first argument"
  | hostNames =>
      "[native] macro takes 0 or more variables as the arguments following the first one"
  | hostExpression source refusal => "[native] " ++ refusal.message source
  | macroCount => "[defmacro] expects 3 arguments: (name, variables, body)"
  | macroAlias => "[defmacro] alias form takes 2 macro names"
  | macroName => "[defmacro] macro name must be a symbol"
  | macroParameters => "[defmacro] macro parameters must be a list of variable names"
  | macroBody => "[defmacro] macro body must be a list"
  | macroMissing name => "defmacro: macro not found (" ++ name ++ ")"
  | macroArguments name expected given =>
      "[" ++ name ++ "] macro takes " ++ toString expected ++ " arguments, " ++ toString given ++
        " received"

end FormError

/-! ## Calls -/

/-- Why a function does not accept its arguments. -/
inductive CallError where
  /-- A closure needs more arguments. -/
  | tooFew (expected given : Nat)
  /-- A builtin takes another number of arguments. -/
  | count (builtin : Builtin)
  /-- A builtin takes other kinds of arguments. -/
  | kinds (builtin : Builtin)
  | divisionByZero
  deriving DecidableEq, Repr

namespace CallError

/-- The class of a refused call. -/
def kind : CallError → ErrorClass
  | tooFew _ _ => .arity
  | count _ => .arity
  | kinds _ => .type
  | divisionByZero => .arithmetic

/-- What a builtin takes, counted. -/
def countText : Builtin → String
  | .add | .mul => "2 or more number arguments"
  | .sub | .div | .less => "2 number arguments"
  | .concat => "at least 1 argument"
  | _ => "2 arguments"

/-- What kinds of arguments a builtin takes. -/
def kindsText : Builtin → String
  | .add | .sub | .mul | .div | .less => "takes only number arguments"
  | .first | .rest => "takes 1 list argument"
  | .cons => "takes 2 arguments, of which the second must be a list"
  | .map => "takes 2 arguments: a function and a list"
  | .reduce => "takes a function, a list and an optional initial value"
  | .concat => "needs to be called with arguments of type string"
  | .characters => "takes 1 string argument"
  | .length | .isEmpty => "takes 1 list or string argument"
  | .describe => "takes 1 function argument"
  | .read => "takes an optional string prompt"
  | .equal | .list | .print => "takes any arguments"

/-- The wording of a refused call. -/
def message : CallError → String
  | tooFew expected given =>
      "[lambda] Insufficient number of arguments to the function: " ++ toString expected ++
        " expected, " ++ toString given ++ " received"
  | count builtin => "[" ++ builtin.name ++ "] function takes " ++ countText builtin
  | kinds builtin => "[" ++ builtin.name ++ "] function " ++ kindsText builtin
  | divisionByZero => "[/] division by zero"

end CallError

/-! ## Host expressions -/

/-- Why a host expression has no value. -/
inductive HostError where
  /-- A variable, or a symbol that it leads to, has no binding. -/
  | unbound (name : String)
  | fault (f : Host.Fault)
  /-- No term stands for the value. -/
  | unusable
  /-- A construct without a meaning; no accepted expression holds one. -/
  | stuck (what : String)
  deriving Repr

namespace HostError

/-- The class of a failed host expression. -/
def kind : HostError → ErrorClass
  | unbound _ => .unboundSymbol
  | _ => .host

/-- The wording of a failed host expression. -/
def message : HostError → String
  | unbound name => "[native] symbol '" ++ name ++ "' not found"
  | fault f => "[native] " ++ f.message
  | unusable => "[native] code returned an invalid value"
  | stuck what => "[native] cannot evaluate " ++ what

end HostError

/-! ## All errors -/

/-- What can go wrong in a program. -/
inductive LispError where
  | read (e : ReadError)
  | form (e : FormError)
  | call (e : CallError)
  | host (e : HostError)
  | unboundSymbol (name : String) (line : Nat)
  | notAFunction (line : Nat) (found : String)
  | thrown (text : String)
  | recursion
  deriving Repr

namespace LispError

/-- The class of an error. -/
def kind : LispError → ErrorClass
  | read _ => .read
  | form e => e.kind
  | call e => e.kind
  | host e => e.kind
  | unboundSymbol _ _ => .unboundSymbol
  | notAFunction _ _ => .notAFunction
  | thrown _ => .thrown
  | recursion => .recursion

/-- The wording of an error. -/
def message : LispError → String
  | read e => e.message
  | form e => e.message
  | call e => e.message
  | host e => e.message
  | unboundSymbol name line =>
      "Interpreter error: symbol '" ++ name ++ "' not found (line " ++ toString line ++ ")"
  | notAFunction line found =>
      "Interpreter error in line " ++ toString line ++ ". Item is not a function (" ++ found ++ ")"
  | thrown text => text
  | recursion => "Maximum recursion depth exceeded"

end LispError

end MiniLisp
