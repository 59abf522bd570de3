import MiniLisp.Bindings
import MiniLisp.Term

/-! # Macros

    A macro rewrites its raw arguments before anything is evaluated. The
    special forms of the language are macros that the table begins with; a
    program adds templates. All scopes share one table, which only grows.
-/

namespace MiniLisp

/-- The special forms of the language. -/
inductive SpecialForm where
  /-- Binds a name in the scope it is evaluated in. -/
  | define
  /-- Chooses one of two forms. -/
  | branch
  /-- Evaluates a value as code. -/
  | evaluate
  /-- Makes a function. -/
  | lambda
  /-- Makes a function and binds it to its name. -/
  | namedLambda
  /-- Evaluates forms in a row. -/
  | begin
  /-- Repeats forms. -/
  | loop
  /-- Ends the innermost loop. -/
  | leave
  /-- Rebinds a name. -/
  | assign
  | quote
  | quasiquote
  | unquote
  | unquoteSplice
  /-- Reads a form from a string. -/
  | readText
  /-- Adds a macro. -/
  | defineMacro
  /-- Evaluates a fallback when a form fails. -/
  | guard
  /-- Fails on purpose. -/
  | throw
  /-- Evaluates a host expression. -/
  | host
  deriving DecidableEq, Repr

namespace SpecialForm

/-- Every special form, in the order in which the table lists them. -/
def all : List SpecialForm :=
  [.define, .branch, .evaluate, .lambda, .namedLambda, .begin, .loop, .leave, .assign, .quote,
   .quasiquote, .unquote, .unquoteSplice, .readText, .defineMacro, .guard, .throw, .host]

theorem mem_all (f : SpecialForm) : f ∈ all := by
  cases f <;> simp [all]

/-- The name under which a special form is used. -/
def name : SpecialForm → String
  | .define => "define"
  | .branch => "if"
  | .evaluate => "eval"
  | .lambda => "lambda"
  | .namedLambda => "defn"
  | .begin => "begin"
  | .loop => "while"
  | .leave => "break"
  | .assign => "set!"
  | .quote => "quote"
  | .quasiquote => "quasiquote"
  | .unquote => "unquote"
  | .unquoteSplice => "unquote-splice"
  | .readText => "read-string"
  | .defineMacro => "defmacro"
  | .guard => "try"
  | .throw => "throw"
  | .host => "native"

end SpecialForm

/-- How a macro rewrites its arguments. -/
inductive Expander where
  | special (form : SpecialForm)
  /-- Evaluates the body with every parameter bound to its quoted argument.
      The name is the one under which the template was defined. -/
  | template (name : String) (parameters : List String) (body : List Term)

/-- A macro. An alias has a name of its own and the expander of its model. -/
structure Macro where
  name : String
  expander : Expander

/-- A macro written for inspection. -/
def Macro.inspect (m : Macro) : String :=
  "<Macro " ++ m.name ++ ">"

/-- The macros of a program by their names. -/
abbrev MacroTable := Bindings Macro

namespace MacroTable

/-- Adds a macro under its name. -/
def add (table : MacroTable) (m : Macro) : MacroTable :=
  table.set m.name m

/-- The table of the special forms. -/
def special : MacroTable :=
  SpecialForm.all.foldl (fun table form => add table ⟨form.name, .special form⟩) ∅

end MacroTable

end MiniLisp
