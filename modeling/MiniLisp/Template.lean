import MiniLisp.Passes

/-! # Templates

    A quasiquoted form is a template: it is rewritten to code that builds the
    form and evaluates the unquoted parts,

        (a (unquote b) (c))   to   (list (quote a) b (list (quote c)))

    where the unquoted parts are expanded. Nil stays nil, since nil cannot be
    quoted. Parts cannot be spliced in.
-/

namespace MiniLisp

namespace Term

/-- Whether a term is a symbol of the given name. -/
def isSymbol (name : String) (t : Term) : Bool :=
  t.symbolName? == some name

/-- A symbol that was not read from text. -/
def ofName (name : String) : Term :=
  .sym name 0

/-- The form that quotes a term. -/
def quoted (t : Term) : Term :=
  .list [ofName SpecialForm.quote.name, t]

end Term

namespace Template

mutual

/-- The code that builds a template. -/
def build (p : Passes) (scope : ScopeId) : Term → Action Term
  | .list items =>
      match items with
      | [] => return (Term.list []).quoted
      | head :: rest =>
        if head.isSymbol SpecialForm.unquote.name then
          match rest with
          | [t] => p.expand t scope
          | _ => Action.fail (.form .unquoteCount)
        else if head.isSymbol SpecialForm.unquoteSplice.name then
          Action.fail (.form .unquoteSplice)
        else do
          let parts ← buildAll p scope items
          return .list (Term.ofName Builtin.list.name :: parts)
  | .nil => return .nil
  | t => return t.quoted

/-- The code that builds each of several templates. -/
def buildAll (p : Passes) (scope : ScopeId) : List Term → Action (List Term)
  | [] => return []
  | t :: rest => do
      let part ← build p scope t
      let parts ← buildAll p scope rest
      return part :: parts

end

mutual

/-- Replaces every template in a form by the code that builds it. What is
    quoted is left alone. -/
def unfold (p : Passes) (scope : ScopeId) : Term → Action Term
  | .list items =>
      match items with
      | [] => return .list []
      | head :: rest =>
        if head.isSymbol SpecialForm.quote.name then return .list items
        else if head.isSymbol SpecialForm.quasiquote.name then
          match rest with
          | [t] => build p scope t
          | _ => Action.fail (.form .quasiquoteCount)
        else do
          let parts ← unfoldAll p scope items
          return .list parts
  | t => return t

/-- Replaces every template in several forms. -/
def unfoldAll (p : Passes) (scope : ScopeId) : List Term → Action (List Term)
  | [] => return []
  | t :: rest => do
      let part ← unfold p scope t
      let parts ← unfoldAll p scope rest
      return part :: parts

end

/-- Does nothing if a term fits the room. -/
def demandRoom (p : Passes) (t : Term) : Action Unit :=
  if t.depth ≤ p.room then return () else throw .exhausted

/-- The code that builds a template that fits the room. -/
def expand (p : Passes) (t : Term) (scope : ScopeId) : Action Term := do
  demandRoom p t
  build p scope t

/-- A form that fits the room, with every template in it replaced. -/
def expandWithin (p : Passes) (t : Term) (scope : ScopeId) : Action Term := do
  demandRoom p t
  unfold p scope t

end Template

end MiniLisp
