import MiniLisp.Session
import MiniLisp.Text.Digit

/-! # The command line

    There is one command, `run`, with the path of a program; `-h` and `--help`
    ask for help before and after it. Words that begin with a dash are options,
    unless they spell a negative number or hold a space; after the word of two
    dashes nothing is an option.

    * **`Invocation.ofWords`** — what the words of a command line ask for;
    * **`runFile`** — runs a program and reports what to show.
-/

namespace MiniLisp

/-! ## Words -/

/-- What a word is to a command. -/
inductive Word where
  | positional (text : String)
  | help
  /-- Help with a value, which it does not take. -/
  | helpWithValue
  | unknownOption
  deriving DecidableEq, Repr

namespace Word

/-- Letters that follow `-h`: each further `h` asks for help again, and at the
    first other letter they stop to matter. -/
def ofLetters : List Char → Word
  | [] => .help
  | 'h' :: rest => ofLetters rest
  | '-' :: _ => .helpWithValue
  | '=' :: _ => .helpWithValue
  | _ :: _ => .help

/-- Whether characters are digits, and at least one. -/
def areDigits (text : List Char) : Bool :=
  !text.isEmpty && text.all fun c => (Text.digitValue? c).isSome

/-- Whether characters after a dash make a negative number. -/
def isMagnitude (text : List Char) : Bool :=
  let text := if text.getLast? == some '\n' then text.dropLast else text
  match text.dropWhile fun c => (Text.digitValue? c).isSome with
  | '.' :: places => areDigits places
  | [] => areDigits text
  | _ => false

/-- The kind of a word. Options may be shortened as long as they are clear. -/
def ofText (text : String) : Word :=
  match text.toList with
  | '-' :: '-' :: name =>
      let stem := name.takeWhile (· != '=')
      if stem.isPrefixOf "help".toList then
        if name.contains '=' then .helpWithValue else .help
      else if text.toList.contains ' ' then .positional text
      else .unknownOption
  | '-' :: 'h' :: letters => ofLetters letters
  | '-' :: c :: rest =>
      if isMagnitude (c :: rest) || text.toList.contains ' ' then .positional text
      else .unknownOption
  | _ => .positional text

end Word

/-! ## Invocations -/

/-- What a command line asks for. -/
inductive Invocation where
  | help
  /-- The words make no sense. -/
  | misused
  | run (program : Path)
  deriving DecidableEq, Repr

namespace Invocation

/-- What is found while the words after the command are read: the path, if it
    was seen, and whether there were words too many. -/
structure Found where
  path : Option String
  surplus : Bool

/-- Takes in a word that is no option. -/
def Found.add (found : Found) (text : String) : Found :=
  match found.path with
  | none => { found with path := some text }
  | some _ => { found with surplus := true }

/-- What the found words ask for. -/
def Found.invocation (found : Found) : Invocation :=
  match found.path, found.surplus with
  | some text, false => .run (Path.ofText text)
  | _, _ => .misused

/-- Reads the words after the command. -/
def ofProgramWords (found : Found) : List String → Invocation
  | [] => found.invocation
  | "--" :: rest => (rest.foldl Found.add found).invocation
  | text :: rest =>
      match Word.ofText text with
      | .help => .help
      | .helpWithValue => .misused
      | .unknownOption => ofProgramWords { found with surplus := true } rest
      | .positional text => ofProgramWords (found.add text) rest

/-- Reads the words of a command line. Options before the command are not
    among those of the program. -/
def ofWordsAfter (surplus : Bool) : List String → Invocation
  | [] => .misused
  | "--" :: _ => .misused
  | text :: rest =>
      match Word.ofText text with
      | .help => .help
      | .helpWithValue => .misused
      | .unknownOption => ofWordsAfter true rest
      | .positional command =>
          if command = "run" then ofProgramWords ⟨none, surplus⟩ rest else .misused

/-- What the words of a command line ask for. -/
def ofWords (words : List String) : Invocation :=
  ofWordsAfter false words

end Invocation

/-! ## Running a program -/

/-- What a run shows. -/
structure Report where
  /-- The exit code; the run was broken off without one if it stopped for
      another reason than an error. -/
  code : Except Stop Nat
  /-- What goes to the standard output. -/
  output : String
  /-- What goes to the standard error output. -/
  complaint : String

namespace Report

/-- A report of a failure. -/
def failure (output message : String) : Report :=
  ⟨.ok 1, output, "jlisp: " ++ message ++ "\n"⟩

/-- The report of a program's outcome, after what it has shown. -/
def ofOutcome (shown : String) : Except Stop String → Report
  | .ok text => ⟨.ok 0, shown ++ text ++ "\n", ""⟩
  | .error (.error e) => failure shown e.message
  | .error stop => ⟨.error stop, shown, ""⟩

end Report

variable [Host.Platform]

/-- Runs a program text after a prelude. -/
def runText (l : Limits) (prelude : Option String) (input program : String) :
    Except Stop String × Console :=
  let console := Console.ofLines (linesOf input)
  match Session.start l prelude console with
  | .error stop => (.error stop, console)
  | .ok session =>
      let (result, session) := session.run l program
      (result, session.console)

/-- Runs the program of a file. A file that is missing or blank is a failure. -/
def runFile {m : Type → Type} [Monad m] (l : Limits) (files : Files m) (prelude : Option String)
    (input : String) (program : Path) : m Report := do
  match ← files.read? program with
  | none => return Report.failure "" ("file not found: " ++ program.text)
  | some contents =>
      let text := fileText contents
      if (Text.trim text.toList).isEmpty then
        return Report.failure "" ("program is empty: " ++ program.text)
      else
        let (result, console) := runText l prelude input text
        return Report.ofOutcome console.transcript result

end MiniLisp
