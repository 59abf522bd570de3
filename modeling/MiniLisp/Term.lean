import MiniLisp.Builtin
import MiniLisp.Host.Expression

/-! # Terms

    Programs and values are the same thing: terms. An expansion replaces the
    special forms of a program by calls whose head is a function made for the
    purpose; what such a function does when it is called is its `Code`.

    * **`Term`** — code and data;
    * **`Code`** — what a function does;
    * **`Term.depth`** — how deeply lists are nested;
    * **`Term.kind`** — the word for a term in error messages.
-/

namespace MiniLisp

/-- Scopes are numbered in the order in which they are made. -/
abbrev ScopeId := Nat

/-- What a function carries besides its code. Two functions are the same
    exactly when they have the same serial number. -/
structure FunctionTag where
  serial : Nat
  id : Option String
  description : Option String
  line : Nat
  deriving DecidableEq, Repr

/-- A host expression with the variables it declares. -/
structure HostProgram where
  source : String
  names : List String
  body : Host.Expr

mutual

/-- Code and data. A symbol carries the line it was read from, zero if it was
    not read from text. -/
inductive Term where
  | bool (value : Bool)
  | nil
  | str (text : String)
  | num (value : Float)
  | sym (name : String) (line : Nat)
  | list (items : List Term)
  | function (tag : FunctionTag) (code : Code)

/-- What a function does when it is called with evaluated arguments. -/
inductive Code where
  | builtin (which : Builtin)
  /-- Binds arguments in a new scope inside `scope` and evaluates the body. -/
  | closure (formals : List String) (rest : Option String) (body : List Term)
      (scope : ScopeId)
  /-- Makes a closure over the scope it is called in. -/
  | makeClosure (formals : List String) (rest : Option String) (body : List Term)
      (id : String) (description : Option String) (line : Nat)
  /-- Binds a name in the scope it is called in. -/
  | define (name : String)
  /-- Rebinds a name in the nearest scope that has it. -/
  | assign (name : String)
  /-- Evaluates one of two forms. -/
  | branch (thenForm elseForm : Term)
  /-- Yields its last argument. -/
  | lastValue
  /-- Evaluates the body as long as the condition is true. -/
  | loop (condition : Term) (body : List Term)
  /-- Ends the innermost loop. -/
  | leaveLoop
  /-- Expands and evaluates its argument. -/
  | evaluateValue
  /-- Reads its argument as program text. -/
  | readText
  /-- Evaluates the body, and the fallback if that fails. -/
  | guarded (body fallback : Term)
  /-- Fails with its argument as the message. -/
  | throwValue
  /-- Evaluates a host expression. -/
  | host (program : HostProgram)

end

instance : Inhabited Term := ⟨.nil⟩

namespace Term

mutual

/-- How deeply lists are nested: an atom has depth zero. -/
def depth : Term → Nat
  | .list items => depthList items + 1
  | _ => 0

/-- The greatest depth in a list of terms. -/
def depthList : List Term → Nat
  | [] => 0
  | t :: rest => max t.depth (depthList rest)

end

/-- Whether the term is nil. -/
def isNil : Term → Bool
  | .nil => true
  | _ => false

/-- The word for a kind of term in error messages. -/
def kind : Term → String
  | .bool _ => "BOOLEAN"
  | .str _ => "STRING"
  | .num _ => "NUMBER"
  | .nil => "NIL"
  | .sym _ _ => "SYMBOL"
  | .function _ _ => "FUNCTION"
  | .list _ => "LIST"

/-- The line that a term carries: symbols and functions have one, all other
    terms count as line zero. -/
def line : Term → Nat
  | .sym _ line => line
  | .function tag _ => tag.line
  | _ => 0

/-- The name of a symbol. -/
def symbolName? : Term → Option String
  | .sym name _ => some name
  | _ => none

/-- The names of a list of symbols, `none` if another term is among them. -/
def symbolNames? (terms : List Term) : Option (List String) :=
  terms.mapM symbolName?

end Term

end MiniLisp
