import MiniLisp.Files
import MiniLisp.Settings

/-! # The prelude

    Definitions that are read ahead of every program: macros first, since the
    functions may use them. Two files of one directory hold them, and both must
    be there; the standard prelude is the text of these files that comes with
    the language.
-/

namespace MiniLisp

namespace Prelude

/-- The macros of the standard prelude. -/
def standardMacros : String :=
";; Macros loaded ahead of every program.

(defmacro def define)
(defmacro fn lambda)

(defmacro defun (name vars body)
    (list (quote define) name
        (list (quote lambda)
            vars
            body)))
"

/-- The functions of the standard prelude. -/
def standardFunctions : String :=
";; Functions loaded ahead of every program, after macros.lisp.

(defn not (a)
    (if a false true))

(defn or (a b)
    (if a true (if b true false)))

(defn and (a b)
    (if a (if b true false) false))

(defn <= (a b)
    (or (< a b) (= a b)))

(defn > (a b)
    (not (<= a b)))

(defn >= (a b)
    (or (> a b) (= a b)))

(defn != (a b)
    (not (= a b)))

(defn strlen (s)
    (len (str->list s)))

;; Host helpers

(defn mod (a b)
    (native \"a % b\" a b))

(defn abs (a)
    (native \"abs(a)\" a))

(defn number? (x)
    (native \"is_number(x)\" x))

(defn string? (x)
    (native \"is_string(x)\" x))

(defn list? (x)
    (native \"is_list(x)\" x))
"

/-- The text of a prelude with the given macros and functions. -/
def join (macros functions : String) : String :=
  macros ++ "\n" ++ functions

/-- The standard prelude. -/
def standard : String :=
  join standardMacros standardFunctions

/-- The path that leads to the prelude: the first one that a setting lists, with
    the installed prelude as the default. A setting may list no path at all. -/
def path? (setting : Option String) (installed : String) (separator : Char := ':') : Option Path :=
  (Settings.paths setting [installed] separator).head?

/-- The text of the prelude to which a path leads. The path names a directory
    or something in it; a file that is missing means that there is no prelude. -/
def load? {m : Type → Type} [Monad m] (files : Files m) (p : Path) : m (Option String) := do
  let root := if ← files.isDirectory p then p else p.parent
  let macros ← files.read? (root.child "macros.lisp")
  let functions ← files.read? (root.child "functions.lisp")
  match macros, functions with
  | some macros, some functions => return some (join (fileText macros) (fileText functions))
  | _, _ => return none

end Prelude

end MiniLisp
