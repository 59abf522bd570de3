/-! # The console

    Programs write lines and read lines, each read with a prompt. The console
    holds the lines that are still to be read and everything that was shown so
    far, in order.
-/

namespace MiniLisp

/-- Something shown on the console. -/
inductive ConsoleEvent where
  /-- A line, which may hold line breaks itself. -/
  | line (text : String)
  /-- A prompt, which no line break follows. -/
  | prompt (text : String)
  deriving DecidableEq, Repr

/-- The lines still to be read and what was shown so far. -/
structure Console where
  unread : List String
  shown : Array ConsoleEvent

namespace Console

/-- A console that will read the given lines. -/
def ofLines (lines : List String) : Console :=
  ⟨lines, #[]⟩

/-- Writes a line. -/
def writeLine (c : Console) (text : String) : Console :=
  { c with shown := c.shown.push (.line text) }

/-- Shows a prompt and reads the next line, if there is one. -/
def readLine (c : Console) (prompt : String) : Option String × Console :=
  let shown := c.shown.push (.prompt prompt)
  match c.unread with
  | [] => (none, ⟨[], shown⟩)
  | line :: rest => (some line, ⟨rest, shown⟩)

/-- The lines written so far. -/
def lines (c : Console) : List String :=
  c.shown.toList.filterMap fun
    | .line text => some text
    | .prompt _ => none

/-- The prompts shown so far. -/
def prompts (c : Console) : List String :=
  c.shown.toList.filterMap fun
    | .line _ => none
    | .prompt text => some text

/-- Everything shown so far as one text: lines end with a line break. -/
def transcript (c : Console) : String :=
  String.join (c.shown.toList.map fun
    | .line text => text ++ "\n"
    | .prompt text => text)

/-- Forgets what was shown. -/
def cleared (c : Console) : Console :=
  ⟨c.unread, #[]⟩

/-! ## What writing and reading do -/

@[simp] theorem unread_writeLine (c : Console) (text : String) :
    (c.writeLine text).unread = c.unread := rfl

@[simp] theorem lines_writeLine (c : Console) (text : String) :
    (c.writeLine text).lines = c.lines ++ [text] := by
  simp [lines, writeLine]

@[simp] theorem prompts_writeLine (c : Console) (text : String) :
    (c.writeLine text).prompts = c.prompts := by
  simp [prompts, writeLine]

@[simp] theorem lines_readLine (c : Console) (prompt : String) :
    (c.readLine prompt).2.lines = c.lines := by
  unfold readLine
  split <;> simp [lines]

@[simp] theorem prompts_readLine (c : Console) (prompt : String) :
    (c.readLine prompt).2.prompts = c.prompts ++ [prompt] := by
  unfold readLine
  split <;> simp [prompts]

theorem unread_readLine (c : Console) (prompt : String) :
    (c.readLine prompt).1.toList ++ (c.readLine prompt).2.unread = c.unread := by
  unfold readLine
  split <;> simp [*]

end Console

end MiniLisp
