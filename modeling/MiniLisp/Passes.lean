import MiniLisp.Action
import MiniLisp.Draft
import MiniLisp.Term.Printer

/-! # Passes

    Expanding, evaluating and calling lead back to each other. Each is
    therefore written over a record of all three, which it calls for the parts
    of its task; the record for one level of recursion is made from the record
    for one level less. At level zero every pass is exhausted.

    Printing and reading recurse too, so they also need room: a term that is
    nested deeper than the room cannot be printed, nor a text be read.
-/

namespace MiniLisp

/-- The three passes with the room that is left for them. -/
structure Passes where
  /-- How many levels of recursion are left. -/
  room : Nat
  /-- Replaces the macro calls of a term. -/
  expand : Term → ScopeId → Action Term
  /-- Finds the value of an expanded term. -/
  evaluate : Term → ScopeId → Action Term
  /-- Calls a function from a scope. -/
  call : Code → List Term → ScopeId → Action Term

/-- The passes when no room is left. -/
def Passes.exhausted : Passes where
  room := 0
  expand _ _ := throw .exhausted
  evaluate _ _ := throw .exhausted
  call _ _ _ := throw .exhausted

/-! ## Printing and reading with bounded room -/

/-- The printed form of a term that fits the room. -/
def Term.printWithin (room : Nat) (t : Term) : Except Stop String :=
  if t.depth ≤ room then .ok t.print else .error .exhausted

/-- The terms that tokens spell, if their lists fit the room. -/
def Term.ofTokensWithin (room : Nat) (tokens : List Token) : Except Stop (List Term) :=
  if Draft.nesting 0 tokens ≤ room then
    (Term.ofTokens tokens).mapError fun e => .error (.read e)
  else .error .exhausted

/-- The terms of a text, if their lists fit the room. -/
def Term.parseWithin (room : Nat) (text : String) : Except Stop (List Term) := do
  let tokens ← (Token.scan text).mapError fun e => .error (.read e)
  Term.ofTokensWithin room tokens

namespace Passes

/-- The printed form of a term. -/
def print (p : Passes) (t : Term) : Action String :=
  Action.ofResult (t.printWithin p.room)

/-- The terms of a text. -/
def parse (p : Passes) (text : String) : Action (List Term) :=
  Action.ofResult (Term.parseWithin p.room text)

/-- Expands terms from left to right. -/
def expandAll (p : Passes) (terms : List Term) (scope : ScopeId) : Action (List Term) :=
  terms.mapM fun t => p.expand t scope

/-- Expands the forms of a body. What expands to nil is left out. -/
def expandBody (p : Passes) (terms : List Term) (scope : ScopeId) : Action (List Term) := do
  let expanded ← p.expandAll terms scope
  return expanded.filter fun t => !t.isNil

/-- Evaluates terms from left to right. -/
def evaluateAll (p : Passes) (terms : List Term) (scope : ScopeId) : Action (List Term) :=
  terms.mapM fun t => p.evaluate t scope

/-- Evaluates terms from left to right and yields the last value, or else the
    given one. -/
def evaluateBody (p : Passes) (last : Term) (terms : List Term) (scope : ScopeId) : Action Term :=
  match terms with
  | [] => return last
  | t :: rest => do
      let value ← p.evaluate t scope
      evaluateBody p value rest scope

end Passes

end MiniLisp
