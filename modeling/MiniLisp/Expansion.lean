import MiniLisp.Host.Grammar
import MiniLisp.Template

/-! # Expansion

    Before a form is evaluated, every macro call in it is replaced. A special
    form becomes a call whose head is a function made for the purpose; that
    function holds the parts of the form that are not evaluated at once, and
    nothing in it is expanded again.

    Nil among the items of a form is dropped, and a form without items becomes
    nil: so what has expanded to nil leaves no trace in the form around it.
-/

namespace MiniLisp

namespace Expansion

/-! ## Variables -/

/-- Expands `(define name value)`. Without a value the name is bound to nil. -/
def define (p : Passes) (arguments : List Term) (scope : ScopeId) : Action Term :=
  match arguments with
  | .sym name line :: values => do
      let value ←
        match values with
        | [] => pure .nil
        | [t] => p.expand t scope
        | _ => Action.fail (.form (.defineCount line))
      let step ← Action.newFunction none none line (.define name)
      return .list [step, value]
  | t :: _ => Action.fail (.form (.defineName t.line))
  | [] => Action.fail (.form (.defineName 0))

/-- Expands `(set! name value)`. -/
def assign (p : Passes) (arguments : List Term) (scope : ScopeId) : Action Term :=
  match arguments with
  | [.sym name line, t] => do
      let step ← Action.newFunction none none line (.assign name)
      let value ← p.expand t scope
      return .list [step, value]
  | [_, _] => Action.fail (.form .assignName)
  | _ => Action.fail (.form .assignCount)

/-! ## Functions -/

/-- The formal parameters and the rest parameter, if there is one: `&` stands
    before the name of the rest, which is the last one. -/
def splitParameters (names : List String) : Except FormError (List String × Option String) :=
  match names.dropWhile (· != "&") with
  | [] => .ok (names, none)
  | [_, rest] => .ok (names.takeWhile (· != "&"), some rest)
  | _ => .error .lambdaRest

/-- The text that a list of arguments begins with, and the other arguments. -/
def takeText (arguments : List Term) : Option String × List Term :=
  match arguments with
  | .str text :: rest => (some text, rest)
  | _ => (none, arguments)

/-- Expands `(lambda id description (parameter ...) form ...)`, where the id and
    the description may be missing. A function without an id gets a number. -/
def lambda (p : Passes) (arguments : List Term) (scope : ScopeId) : Action Term := do
  let (id, arguments) := takeText arguments
  let (description, arguments) := takeText arguments
  match arguments with
  | .list parameters :: form :: forms =>
      match Term.symbolNames? parameters with
      | none => Action.fail (.form .lambdaParameters)
      | some names =>
        match splitParameters names with
        | .error e => Action.fail (.form e)
        | .ok (formals, rest) => do
            let body ← p.expandBody (form :: forms) scope
            let id ←
              match id with
              | some id => pure id
              | none => do
                  let number ← Action.nextLambda
                  pure ("(anonymous lambda #" ++ toString number ++ ")")
            let line := (parameters.head?.map Term.line).getD 0
            let step ← Action.newStep (.makeClosure formals rest body id description line)
            return .list [step]
  | _ :: _ :: _ => Action.fail (.form .lambdaParameters)
  | _ => Action.fail (.form .lambdaCount)

/-- Expands `(defn name ...)` as `(define name (lambda "name" ...))`. -/
def namedLambda (p : Passes) (arguments : List Term) (scope : ScopeId) : Action Term :=
  match arguments with
  | .sym name line :: rest =>
      p.expand (.list [.sym SpecialForm.define.name line, .sym name line,
        .list (.sym SpecialForm.lambda.name line :: .str name :: rest)]) scope
  | _ => Action.fail (.form .namedLambda)

/-! ## Control -/

/-- Expands `(if condition then else)`, where the last form may be missing. The
    number is taken after those of the parts. -/
def branch (p : Passes) (arguments : List Term) (scope : ScopeId) : Action Term := do
  let (condition, thenForm, elseForm) ←
    match arguments with
    | [c, t] => pure (c, t, none)
    | [c, t, e] => pure (c, t, some e)
    | _ => Action.fail (.form .branchCount)
  let test ← p.expand condition scope
  let thenCase ← p.expand thenForm scope
  let elseCase ←
    match elseForm with
    | some e => p.expand e scope
    | none => pure .nil
  let number ← Action.nextBranch
  let id := "<native if[" ++ toString number ++ "]>"
  let step ← Action.newFunction (some id) none condition.line (.branch thenCase elseCase)
  return .list [step, test]

/-- Expands `(begin form ...)`. -/
def begin (p : Passes) (arguments : List Term) (scope : ScopeId) : Action Term := do
  let step ← Action.newStep .lastValue
  let forms ← p.expandAll arguments scope
  return .list (step :: forms)

/-- Expands `(while condition form ...)`. -/
def loop (p : Passes) (arguments : List Term) (scope : ScopeId) : Action Term :=
  match arguments with
  | [] => Action.fail (.form .loopCount)
  | condition :: forms => do
      let test ← p.expand condition scope
      let body ← p.expandBody forms scope
      let step ← Action.newStep (.loop test body)
      return .list [step]

/-- Expands `(break)`. -/
def leave (arguments : List Term) : Action Term :=
  match arguments with
  | [] => do
      let step ← Action.newStep .leaveLoop
      return .list [step]
  | _ => Action.fail (.form .leaveCount)

/-- Expands `(try body fallback)`, where the fallback may be missing. -/
def guard (p : Passes) (arguments : List Term) (scope : ScopeId) : Action Term := do
  let (body, fallback) ←
    match arguments with
    | [b] => pure (b, none)
    | [b, f] => pure (b, some f)
    | _ => Action.fail (.form .guardCount)
  let body ← p.expand body scope
  let fallback ←
    match fallback with
    | some f => p.expand f scope
    | none => pure .nil
  let step ← Action.newStep (.guarded body fallback)
  return .list [step]

/-- Expands a special form that calls a function on its only argument. -/
def applied (p : Passes) (code : Code) (wrong : FormError) (arguments : List Term)
    (scope : ScopeId) : Action Term :=
  match arguments with
  | [t] => do
      let step ← Action.newStep code
      let argument ← p.expand t scope
      return .list [step, argument]
  | _ => Action.fail (.form wrong)

/-! ## Host expressions -/

variable [Host.Platform]

/-- The tree of a host expression. -/
def hostBody (source : String) : Except Host.Refusal Host.Expr :=
  match Host.Expr.parse? source with
  | none => .error (.malformed (Host.Platform.complaint source))
  | some body => .ok body

/-- The host expression of a text over the given variables. -/
def hostProgram (source : String) (names : List String) : Except FormError HostProgram :=
  (do
    let body ← hostBody source
    body.check names
    return ⟨source, names, body⟩ : Except Host.Refusal HostProgram).mapError
      (FormError.hostExpression source)

/-- Why a host expression does not pass its check stops the run. -/
def refusalStop (source : String) : Host.CheckFailure → Stop
  | .refused refusal => .error (.form (.hostExpression source refusal))
  | .exhausted => .exhausted

/-- The host expression of a text over the given variables, if it passes a check
    that fits the room. -/
def checkedHost (room : Nat) (source : String) (names : List String) :
    Except Host.CheckFailure HostProgram := do
  let body ← (hostBody source).mapError Host.CheckFailure.refused
  body.checkWithin names room
  return ⟨source, names, body⟩

/-- The same, where a failed check stops the run. -/
def hostProgramWithin (room : Nat) (source : String) (names : List String) :
    Except Stop HostProgram :=
  (checkedHost room source names).mapError (refusalStop source)

/-- Expands `(native source variable ...)`. -/
def host (p : Passes) (arguments : List Term) : Action Term :=
  match arguments with
  | .str source :: declared =>
      match Term.symbolNames? declared with
      | none => Action.fail (.form .hostNames)
      | some names => do
          let program ← Action.ofResult (hostProgramWithin p.room source names)
          let step ← Action.newFunction none (some source) 0 (.host program)
          return .list [step]
  | _ => Action.fail (.form .hostSource)

/-! ## Quoting -/

/-- Expands `(quote t)` to `t`. -/
def quote (arguments : List Term) : Action Term :=
  match arguments with
  | [t] => return t
  | _ => Action.fail (.form .quoteCount)

/-- Expands `(quasiquote t)`. -/
def quasiquote (p : Passes) (arguments : List Term) (scope : ScopeId) : Action Term :=
  match arguments with
  | [t] => Template.expand p t scope
  | _ => Action.fail (.form .quasiquoteCount)

/-! ## Macros -/

/-- Gives a macro a second name. -/
def aliasMacro (name model : String) : Action Term := do
  match ← Action.findMacro model with
  | none => Action.fail (.form (.macroMissing model))
  | some m => do
      Action.addMacro ⟨name, m.expander⟩
      return .nil

/-- Expands `(defmacro name (parameter ...) (form ...))` and
    `(defmacro name model)`. The macro is added at once, and nothing is left to
    evaluate. -/
def defineMacro (arguments : List Term) : Action Term :=
  match arguments with
  | [.sym name _, .sym model _] => aliasMacro name model
  | [_, _] => Action.fail (.form .macroAlias)
  | [.sym name _, .list parameters, body] =>
      match Term.symbolNames? parameters, body with
      | none, _ => Action.fail (.form .macroParameters)
      | some names, .list forms => do
          Action.addMacro ⟨name, .template name names forms⟩
          return .nil
      | some _, _ => Action.fail (.form .macroBody)
  | [.sym _ _, _, _] => Action.fail (.form .macroParameters)
  | [_, _, _] => Action.fail (.form .macroName)
  | _ => Action.fail (.form .macroCount)

/-- Binds names to values in a scope, from left to right. -/
def bindAll (scope : ScopeId) : List (String × Term) → Action Unit
  | [] => return ()
  | (name, value) :: rest => do
      Action.define scope name value
      bindAll scope rest

/-- Expands the call of a template. Each parameter is bound to its quoted
    argument in a new scope, where the body is evaluated to code. That code is
    expanded twice: the first time takes off the quotes, the second one
    replaces the macro calls that come to light. -/
def template (p : Passes) (name : String) (parameters : List String) (body : List Term)
    (arguments : List Term) (scope : ScopeId) : Action Term :=
  if arguments.length ≠ parameters.length then
    Action.fail (.form (.macroArguments name parameters.length arguments.length))
  else do
    let inner ← Action.newScope scope
    bindAll inner (parameters.zip (arguments.map Term.quoted))
    let code ← Template.expandWithin p (.list body) inner
    let produced ← p.evaluate code inner
    let expanded ← p.expand produced inner
    p.expand expanded inner

/-! ## All macros -/

/-- Expands a special form. -/
def special (p : Passes) (form : SpecialForm) (arguments : List Term) (scope : ScopeId) :
    Action Term :=
  match form with
  | .define => define p arguments scope
  | .branch => branch p arguments scope
  | .evaluate => applied p .evaluateValue .evaluateCount arguments scope
  | .lambda => lambda p arguments scope
  | .namedLambda => namedLambda p arguments scope
  | .begin => begin p arguments scope
  | .loop => loop p arguments scope
  | .leave => leave arguments
  | .assign => assign p arguments scope
  | .quote => quote arguments
  | .quasiquote => quasiquote p arguments scope
  | .unquote => Action.fail (.form .unquoteOutside)
  | .unquoteSplice => Action.fail (.form .unquoteSplice)
  | .readText => applied p .readText .readTextCount arguments scope
  | .defineMacro => defineMacro arguments
  | .guard => guard p arguments scope
  | .throw => applied p .throwValue .throwCount arguments scope
  | .host => host p arguments

/-- Expands the call of a macro. -/
def callMacro (p : Passes) (m : Macro) (arguments : List Term) (scope : ScopeId) : Action Term :=
  match m.expander with
  | .special form => special p form arguments scope
  | .template name parameters body => template p name parameters body arguments scope

/-- The macro that a form calls by its head. -/
def macroOf (head : Term) : Action (Option Macro) :=
  match head with
  | .sym name _ => Action.findMacro name
  | _ => return none

/-- Expands a term. -/
def step (p : Passes) (t : Term) (scope : ScopeId) : Action Term :=
  match t with
  | .list items =>
      match items.filter fun t => !t.isNil with
      | [] => return .nil
      | head :: arguments => do
          match ← macroOf head with
          | some m => callMacro p m arguments scope
          | none => do
              let expanded ← p.expandAll (head :: arguments) scope
              return .list expanded
  | t => return t

end Expansion

end MiniLisp
