import MiniLisp.Builtin.Apply
import MiniLisp.Expansion
import MiniLisp.Host.Evaluation

/-! # Evaluation

    An expanded form is evaluated by one rule: a symbol means its binding, a
    list is a call whose items are evaluated from left to right, and all else
    is its own value. There are no special cases for special forms, since these
    have become calls.

    * **`Evaluation.step`** — evaluates a term;
    * **`Evaluation.call`** — what calling a function does;
    * **`passes`** — the three passes for a number of levels.
-/

namespace MiniLisp

/-- The name that a loop binds in its own scope: false until the loop is left.
    It holds blanks, so that no symbol of a program has this name. -/
def loopFlag : String := "<< BREAK >>"

/-- The name to which an error's message is bound when it is caught. -/
def caughtName : String := "__exception__"

namespace Evaluation

/-! ## Terms -/

/-- Whether a term calls a macro. -/
def callsMacro (items : List Term) : Action Bool :=
  match items with
  | .sym name _ :: _ => do return (← Action.findMacro name).isSome
  | _ => return false

/-- The value of a symbol. A symbol that is bound to nil counts as unbound, and
    one that is bound to a symbol means what that one means. -/
def symbolValue (p : Passes) (name : String) (line : Nat) (scope : ScopeId) : Action Term := do
  match ← Action.lookup scope name with
  | none => Action.fail (.unboundSymbol name line)
  | some .nil => Action.fail (.unboundSymbol name line)
  | some (.sym other l) => p.evaluate (.sym other l) scope
  | some value => return value

/-- Calls the first of the values with the other ones. -/
def applyValues (p : Passes) (line : Nat) (values : List Term) (scope : ScopeId) : Action Term :=
  match values with
  | [] => return .list []
  | .function _ code :: arguments => p.call code arguments scope
  | value :: _ => Action.fail (.notAFunction line value.kind)

/-- Evaluates a term. A list that still calls a macro was never meant to be
    evaluated and stays as it is; so does the empty list. -/
def step (p : Passes) (t : Term) (scope : ScopeId) : Action Term :=
  match t with
  | .sym name line => symbolValue p name line scope
  | .list [] => return .list []
  | .list (head :: rest) => do
      if ← callsMacro (head :: rest) then return .list (head :: rest)
      else do
        let values ← p.evaluateAll (head :: rest) scope
        applyValues p head.line values scope
  | t => return t

/-! ## Closures -/

/-- What a closure binds its parameters to. A later value of a name replaces
    an earlier one. -/
def boundArguments (formals : List String) (rest : Option String) (arguments : List Term) :
    List (String × Term) :=
  formals.zip arguments ++
    match rest with
    | some name => [(name, .list (arguments.drop formals.length))]
    | none => []

/-- Calls a closure: its body is evaluated in a new scope inside the one that
    the closure was made in. -/
def callClosure (p : Passes) (formals : List String) (rest : Option String) (body : List Term)
    (scope : ScopeId) (arguments : List Term) : Action Term :=
  if arguments.length < formals.length then
    Action.fail (.call (.tooFew formals.length arguments.length))
  else do
    let inner ← Action.newScope scope
    Expansion.bindAll inner (boundArguments formals rest arguments)
    p.evaluateBody .nil body inner

/-! ## Loops -/

/-- Evaluates the body of a loop until the loop is left, and tells whether it
    was. -/
def loopBody (p : Passes) (scope : ScopeId) : List Term → Action Bool
  | [] => return false
  | t :: rest => do
      let _ ← p.evaluate t scope
      match (← get).scopes.bindingsOf scope |>.get? loopFlag with
      | some (.bool true) => return true
      | _ => loopBody p scope rest

/-- Takes turns as long as the condition is true. -/
def loopTurns (p : Passes) (condition : Term) (body : List Term) (scope : ScopeId) :
    Nat → Action Term
  | 0 => throw .unfinished
  | n + 1 => do
      match ← p.evaluate condition scope with
      | .bool true => do
          if ← loopBody p scope body then return .nil
          else loopTurns p condition body scope n
      | _ => return .nil

/-- Runs a loop in a scope of its own. -/
def loop (p : Passes) (turns : Nat) (condition : Term) (body : List Term) (scope : ScopeId) :
    Action Term := do
  let inner ← Action.newScope scope
  Action.define inner loopFlag (.bool false)
  loopTurns p condition body inner turns

/-! ## Code as data -/

/-- Expands a value and evaluates what comes out. -/
def evaluateValue (p : Passes) (value : Term) (scope : ScopeId) : Action Term := do
  let form ← p.expand value scope
  p.evaluate form scope

/-- The first form of a text, expanded; nil if there is none. -/
def firstForm (p : Passes) (text : String) (scope : ScopeId) : Action Term := do
  match ← p.parse text with
  | [] => return .nil
  | form :: _ => p.expand form scope

/-- Reads a form from a value. A value that is no string is evaluated first,
    and if there is still no string, that is the result. -/
def readText (p : Passes) (value : Term) (scope : ScopeId) : Action Term :=
  match value with
  | .nil => return .nil
  | .str text => firstForm p text scope
  | value => do
      match ← p.evaluate value scope with
      | .str text => firstForm p text scope
      | other => return other

/-! ## Errors -/

/-- Evaluates the fallback if the body fails. The message is bound in the scope
    of the form, not in one of its own. -/
def guarded (p : Passes) (body fallback : Term) (scope : ScopeId) : Action Term :=
  Action.recover (p.evaluate body scope) fun e => do
    Action.define scope caughtName (.str e.message)
    p.evaluate fallback scope

/-! ## Host expressions -/

variable [Host.Platform]

/-- Why an evaluated host expression stops the run. -/
def hostStop : Host.Failure → Stop
  | .fault f => .error (.host (.fault f))
  | .unusable => .error (.host .unusable)
  | .memory => .memory
  | .exhausted => .exhausted
  | .stuck what => .error (.host (.stuck what))

/-- Why a variable of a host expression stops the run. -/
def variableStop : Host.NoValue → Stop
  | .unbound name => .error (.host (.unbound name))
  | .exhausted => .exhausted

/-- Why the value of a host expression stops the run. -/
def valueStop : Host.NoTerm → Stop
  | .tooLarge => .overflow
  | .unusable => .error (.host .unusable)
  | .exhausted => .exhausted

/-- The values of the variables of a host expression. -/
def hostBindings (room : Nat) (scopes : Scopes) (scope : ScopeId) (names : List String) :
    Except Host.NoValue Host.Bindings :=
  names.mapM fun name => do
    let find := fun name =>
      (scopes.owner scope name).bind fun owner =>
        ((scopes.bindingsOf owner).get? name).map fun t => (owner, t)
    let value ← Host.valueOf find room ⟨scope, name, []⟩ (.sym name 0)
    return (name, value)

/-- The term that a host expression yields in a scope. -/
def hostValue (room : Nat) (program : HostProgram) (scopes : Scopes) (scope : ScopeId) :
    Except Stop Term := do
  let bindings ← (hostBindings room scopes scope program.names).mapError variableStop
  let value ← (program.body.eval bindings room).mapError hostStop
  (value.toTerm room).mapError valueStop

/-- Evaluates a host expression. -/
def host (p : Passes) (program : HostProgram) (scope : ScopeId) : Action Term := do
  let scopes := (← get).scopes
  Action.ofResult (hostValue p.room program scopes scope)

/-! ## Calls -/

/-- The first argument, or else nil. -/
def argument (arguments : List Term) : Term :=
  arguments.headD .nil

/-- Calls a function with evaluated arguments from a scope. -/
def call (turns : Nat) (p : Passes) (code : Code) (arguments : List Term) (scope : ScopeId) :
    Action Term :=
  match code with
  | .builtin b => b.apply p arguments scope
  | .closure formals rest body home => callClosure p formals rest body home arguments
  | .makeClosure formals rest body id description line =>
      Action.newFunction (some id) description line (.closure formals rest body scope)
  | .define name => do
      Action.define scope name (argument arguments)
      return argument arguments
  | .assign name => do
      Action.assign scope name (argument arguments)
      return .nil
  | .branch thenForm elseForm =>
      match arguments with
      | .bool true :: _ => p.evaluate thenForm scope
      | _ => p.evaluate elseForm scope
  | .lastValue => return arguments.getLastD .nil
  | .loop condition body => loop p turns condition body scope
  | .leaveLoop => do
      Action.assign scope loopFlag (.bool true)
      return .nil
  | .evaluateValue => evaluateValue p (argument arguments) scope
  | .readText => readText p (argument arguments) scope
  | .guarded body fallback => guarded p body fallback scope
  | .throwValue => do
      let text ← p.print (argument arguments)
      Action.fail (.thrown text)
  | .host program => host p program scope

end Evaluation

/-! ## The passes together -/

variable [Host.Platform]

/-- How far a run may go: the levels of recursion and the turns of each loop. -/
structure Limits where
  depth : Nat
  turns : Nat

/-- Limits that no program reaches but one that recurses or loops without end. -/
def Limits.standard : Limits where
  depth := 1000
  turns := Nat.pow 2 62

/-- The passes for one more level. -/
def Passes.next (turns : Nat) (p : Passes) : Passes where
  room := p.room + 1
  expand := Expansion.step p
  evaluate := Evaluation.step p
  call := Evaluation.call turns p

/-- The passes for a number of levels. -/
def passes (turns : Nat) : Nat → Passes
  | 0 => .exhausted
  | n + 1 => (passes turns n).next turns

/-- The passes within limits. -/
def Limits.passes (l : Limits) : Passes :=
  MiniLisp.passes l.turns l.depth

@[simp] theorem room_passes (turns depth : Nat) : (passes turns depth).room = depth := by
  induction depth with
  | zero => rfl
  | succ n ih => simp [passes, Passes.next, ih]

theorem expand_passes (turns depth : Nat) :
    (passes turns (depth + 1)).expand = Expansion.step (passes turns depth) := rfl

theorem evaluate_passes (turns depth : Nat) :
    (passes turns (depth + 1)).evaluate = Evaluation.step (passes turns depth) := rfl

end MiniLisp
