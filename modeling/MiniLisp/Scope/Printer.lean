import MiniLisp.Host.Value
import MiniLisp.Scope

/-! # Showing scopes

    A scope can be shown for inspection, alone or with the scopes around it.
    Values are then written so that their kinds can be told apart, as host
    values are shown: numbers with a point, strings quoted.
-/

namespace MiniLisp

namespace Term

mutual

/-- A term written for inspection. -/
def inspect : Term → String
  | .bool true => "True"
  | .bool false => "False"
  | .nil => "nil"
  | .str text => Text.quoted text
  | .num value => Host.Value.realText value
  | .sym name _ => "Symbol(" ++ Text.quoted name ++ ")"
  | .function tag _ => tag.text
  | .list items => "[" ++ ", ".intercalate (inspectEach items) ++ "]"

/-- The terms of a list written for inspection. -/
def inspectEach : List Term → List String
  | [] => []
  | t :: rest => t.inspect :: inspectEach rest

end

end Term

/-- Bindings written for inspection. -/
def Bindings.inspect (b : Bindings Term) : String :=
  "\x7b" ++ ", ".intercalate (b.entries.map fun (name, value) => name ++ ": " ++ value.inspect) ++
    "\x7d"

namespace Scopes

/-- A scope written for inspection; an arrow says that there are scopes around
    it. -/
def inspect (s : Scopes) (id : ScopeId) : String :=
  let own := (s.bindingsOf id).inspect
  if (s.outer? id).isNone then own else own ++ " -> ..."

/-- A scope and the scopes around it written for inspection. -/
def inspectChain (s : Scopes) (id : ScopeId) : String :=
  let shown := (s.chain id).map fun i => (s.bindingsOf i).inspect
  "<Environment chain: " ++ " -> ".intercalate shown ++ ">"

end Scopes

end MiniLisp
