import MiniLisp.Evaluation
import MiniLisp.Prelude

/-! # Sessions

    A session runs programs one after the other. Each program runs in a root
    scope of its own, after the prelude: all forms are expanded before the
    first one is evaluated. What goes on from one program to the next is the
    console and the numbers that functions get.

    * **`Session.start`** — a session with a prelude;
    * **`Session.startFromFiles`** — a session with the prelude in its files;
    * **`Session.run`** — runs a program;
    * **`evaluateText`** — runs a text in a scope, form by form.
-/

namespace MiniLisp

/-! ## Root scopes -/

/-- The function that a root scope binds to a builtin's name. Its serial
    number is the builtin's place. -/
def Builtin.function (b : Builtin) : Term :=
  .function ⟨all.idxOf b, none, some b.description, 0⟩ (.builtin b)

/-- A state with one empty root scope and no macros. -/
def State.bare (console : Console) (branches lambdas : Nat) : State where
  scopes := Scopes.empty.addRoot
  macros := ∅
  console := console
  branches := branches
  lambdas := lambdas
  functions := Builtin.all.length

/-- The number of the root scope. -/
def rootScope : ScopeId := 0

/-- The scopes with every builtin bound in the root scope. -/
def Scopes.withBuiltins (s : Scopes) : Scopes :=
  Builtin.all.foldl (fun s b => s.define rootScope b.name b.function) s

/-- A state whose root scope binds the builtins and whose macros are the
    special forms. -/
def State.root (console : Console) (branches lambdas : Nat) : State :=
  let bare := State.bare console branches lambdas
  { bare with scopes := bare.scopes.withBuiltins, macros := MacroTable.special }

/-! ## Running forms -/

/-- Expands forms, leaves out those that become nil, and evaluates the others.
    The value is that of the last one, if there is any. -/
def runForms (p : Passes) (forms : List Term) (scope : ScopeId) : Action (Option Term) := do
  match ← p.expandBody forms scope with
  | [] => return none
  | form :: rest => some <$> p.evaluateBody .nil (form :: rest) scope

/-- The printed form of a result; nothing if there is none. -/
def shownResult (p : Passes) (result : Option Term) : Action String :=
  match result with
  | some t => p.print t
  | none => return ""

/-- Runs the forms of a program and prints the result. -/
def runProgram (p : Passes) (forms : List Term) (scope : ScopeId) : Action String := do
  let result ← runForms p forms scope
  shownResult p result

/-- Expands and evaluates forms one after the other, each before the next one
    is expanded. The value is that of the last form, if there is any. -/
def evaluateForms (p : Passes) (last : Option Term) (scope : ScopeId) :
    List Term → Action (Option Term)
  | [] => return last
  | form :: rest => do
      let expanded ← p.expand form scope
      let value ← p.evaluate expanded scope
      evaluateForms p (some value) scope rest

/-- Runs a text in a scope form by form and prints the last value. -/
def evaluateText (p : Passes) (text : String) (scope : ScopeId) : Action String := do
  let forms ← p.parse text
  let result ← evaluateForms p none scope forms
  shownResult p result

/-! ## Sessions -/

/-- What goes on from one program to the next. -/
structure Session where
  /-- The forms of the prelude. -/
  prelude : List Term
  console : Console
  /-- The number that the next choice between two forms gets. -/
  branches : Nat
  /-- The number that the next function without a name gets. -/
  lambdas : Nat

/-- A recursion that is too deep is an error of the program as a whole: no
    form of it could catch it. -/
def Stop.closed : Stop → Stop
  | .exhausted => .error .recursion
  | stop => stop

namespace Session

/-- A session with the prelude of a text, if there is one. -/
def start (l : Limits) (prelude : Option String) (console : Console) : Except Stop Session := do
  let forms ←
    match prelude with
    | some text => Term.parseWithin l.depth text
    | none => pure []
  return ⟨forms, console, 0, 0⟩

/-- A session with the prelude to which a setting leads. Files that are missing
    are no failure, but without a path there is nowhere to look for them, and
    no session. -/
def startFromFiles {m : Type → Type} [Monad m] (l : Limits) (files : Files m)
    (setting : Option String) (installed : String) (console : Console) (separator : Char := ':') :
    m (Option (Except Stop Session)) :=
  match Prelude.path? setting installed separator with
  | none => return none
  | some p => do
      let prelude ← Prelude.load? files p
      return some (start l prelude console)

/-- The state in which a program starts. -/
def initial (session : Session) : State :=
  State.root session.console session.branches session.lambdas

/-- The session after a program that has left a state. -/
def resume (session : Session) (s : State) : Session :=
  { session with console := s.console, branches := s.branches, lambdas := s.lambdas }

/-- Runs a program. -/
def run [Host.Platform] (l : Limits) (session : Session) (program : String) :
    Except Stop String × Session :=
  match Term.parseWithin l.depth program with
  | .error stop => (.error stop.closed, session)
  | .ok forms =>
    match runProgram l.passes (session.prelude ++ forms) rootScope session.initial with
    | .ok text s => (.ok text, session.resume s)
    | .error stop s => (.error stop.closed, session.resume s)

end Session

end MiniLisp
