import MiniLisp.Path
import MiniLisp.Text.Blank
import MiniLisp.Text.Case

/-! # Settings

    Settings come as text from outside: a list of paths with separators between
    them, and the name of the least urgent messages that are logged.
-/

namespace MiniLisp

namespace Settings

/-- How urgent a message is. -/
inductive Level where
  | all | debug | info | warning | error | critical
  deriving DecidableEq, Repr

/-- The number of a level. -/
def Level.number : Level → Nat
  | .all => 0
  | .debug => 10
  | .info => 20
  | .warning => 30
  | .error => 40
  | .critical => 50

/-- The level of a name in capitals. -/
def Level.ofName? (name : String) : Option Level :=
  [("CRITICAL", .critical), ("FATAL", .critical), ("ERROR", .error), ("WARN", .warning),
    ("WARNING", .warning), ("INFO", .info), ("DEBUG", .debug), ("NOTSET", .all)].lookup name

/-- The text without blanks around it. -/
def trimmed (text : String) : String :=
  String.ofList (Text.trim text.toList)

/-- The level that a setting asks for; warnings if it is missing or unknown. -/
def level (setting : Option String) : Level :=
  match setting with
  | none => .warning
  | some text => (Level.ofName? (Text.toUpper (trimmed text))).getD .warning

/-- The paths that a setting lists, which most systems separate by colons and
    some by semicolons. Entries are trimmed and those that are blank are left
    out; the defaults count only if the setting is missing or empty. -/
def paths (setting : Option String) (defaults : List String) (separator : Char := ':') :
    List Path :=
  match setting with
  | none => defaults.map Path.ofText
  | some text =>
    if text.isEmpty then defaults.map Path.ofText
    else
      let entries := (Text.split separator text.toList).map Text.trim
      (entries.filter fun entry => !entry.isEmpty).map fun entry =>
        Path.ofText (String.ofList entry)

end Settings

end MiniLisp
