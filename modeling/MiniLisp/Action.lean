import MiniLisp.Console
import MiniLisp.Error
import MiniLisp.Macro
import MiniLisp.Scope

/-! # Actions

    Running a program changes the scopes, the macros, the console and three
    counters. An action is a step of such a run: it ends in a value or stops,
    and either way it leaves a state behind. Nothing that happened before a
    stop is taken back.
-/

namespace MiniLisp

/-- Everything that a run changes. -/
structure State where
  scopes : Scopes
  macros : MacroTable
  console : Console
  /-- The number that the next choice between two forms gets. -/
  branches : Nat
  /-- The number that the next function without a name gets. -/
  lambdas : Nat
  /-- The serial number that the next function gets. -/
  functions : Nat

/-- Why a run stops without a value. -/
inductive Stop where
  /-- An error, which the program can catch. -/
  | error (e : LispError)
  /-- The recursion is deeper than the bound. -/
  | exhausted
  /-- A host expression yields a whole number beyond all numbers. -/
  | overflow
  /-- A host expression builds too long a sequence. -/
  | memory
  /-- A loop has used up its turns. -/
  | unfinished

/-- A step of a run. -/
abbrev Action := EStateM Stop State

namespace Action

/-- Stops with an error. -/
def fail {α : Type} (e : LispError) : Action α :=
  throw (.error e)

/-- A result as an action that changes nothing. -/
def ofResult {α : Type} (result : Except Stop α) : Action α :=
  match result with
  | .ok a => return a
  | .error e => throw e

/-- Runs a handler if the body stops with an error. The handler goes on from
    the state in which the body stopped. -/
def recover {α : Type} (body : Action α) (handler : LispError → Action α) : Action α := fun s =>
  match body s with
  | .error (.error e) s' => handler e s'
  | result => result

/-! ## Variables -/

/-- The value of a name. -/
def lookup (scope : ScopeId) (name : String) : Action (Option Term) := do
  return (← get).scopes.lookup scope name

/-- Binds a name in a scope. -/
def define (scope : ScopeId) (name : String) (value : Term) : Action Unit :=
  modify fun s => { s with scopes := s.scopes.define scope name value }

/-- Rebinds a name in the nearest scope that has it. -/
def assign (scope : ScopeId) (name : String) (value : Term) : Action Unit :=
  modify fun s => { s with scopes := s.scopes.assign scope name value }

/-- Makes a new scope inside a scope. -/
def newScope (scope : ScopeId) : Action ScopeId :=
  modifyGet fun s => (s.scopes.size, { s with scopes := s.scopes.addChild scope })

/-! ## Macros -/

/-- The macro of a name. -/
def findMacro (name : String) : Action (Option Macro) := do
  return (← get).macros.get? name

/-- Adds a macro. -/
def addMacro (m : Macro) : Action Unit :=
  modify fun s => { s with macros := s.macros.add m }

/-! ## Functions and numbers -/

/-- Makes a function. -/
def newFunction (id description : Option String) (line : Nat) (code : Code) : Action Term :=
  modifyGet fun s =>
    (.function ⟨s.functions, id, description, line⟩ code, { s with functions := s.functions + 1 })

/-- Makes a function that only a special form stands for. -/
def newStep (code : Code) : Action Term :=
  newFunction none none 0 code

/-- The number of the next choice between two forms. -/
def nextBranch : Action Nat :=
  modifyGet fun s => (s.branches, { s with branches := s.branches + 1 })

/-- The number of the next function without a name. -/
def nextLambda : Action Nat :=
  modifyGet fun s => (s.lambdas, { s with lambdas := s.lambdas + 1 })

/-! ## The console -/

/-- Writes a line. -/
def writeLine (text : String) : Action Unit :=
  modify fun s => { s with console := s.console.writeLine text }

/-- Reads a line. -/
def readLine (prompt : String) : Action String := do
  let line ← modifyGet fun s =>
    let (line, console) := s.console.readLine prompt
    (line, { s with console })
  match line with
  | some text => return text
  | none => fail (.read .endOfInput)

/-! ## Sequences of actions -/

theorem bind_ok {α β : Type} {x : Action α} {f : α → Action β} {s s' : State} {a : α}
    (h : x s = .ok a s') : (x >>= f) s = f a s' := by
  simp [bind, EStateM.bind, h]

theorem bind_error {α β : Type} {x : Action α} {f : α → Action β} {s s' : State} {e : Stop}
    (h : x s = .error e s') : (x >>= f) s = .error e s' := by
  simp [bind, EStateM.bind, h]

/-- A sequence that ends in a value has two parts that do. -/
theorem exists_of_bind_ok {α β : Type} {x : Action α} {f : α → Action β} {s s' : State} {b : β}
    (h : (x >>= f) s = .ok b s') : ∃ a s₁, x s = .ok a s₁ ∧ f a s₁ = .ok b s' := by
  cases hx : x s with
  | ok a s₁ =>
    rw [bind_ok hx] at h
    exact ⟨a, s₁, rfl, h⟩
  | error e s₁ =>
    rw [bind_error hx] at h
    cases h

/-- What follows an action depends on how it ends only. -/
theorem bind_congr {α β : Type} {x y : Action α} {s s' : State} (h : x s = y s')
    (f : α → Action β) : (x >>= f) s = (y >>= f) s' := by
  cases hy : y s' with
  | ok a t => rw [bind_ok hy, bind_ok (h.trans hy)]
  | error e t => rw [bind_error hy, bind_error (h.trans hy)]

theorem recover_ok {α : Type} {x : Action α} {handler : LispError → Action α} {s s' : State}
    {a : α} (h : x s = .ok a s') : recover x handler s = .ok a s' := by
  simp [recover, h]

theorem recover_error {α : Type} {x : Action α} {handler : LispError → Action α} {s s' : State}
    {e : LispError} (h : x s = .error (.error e) s') : recover x handler s = handler e s' := by
  simp [recover, h]

end Action

end MiniLisp
