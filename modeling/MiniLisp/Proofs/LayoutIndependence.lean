import MiniLisp.Proofs.Likeness.Reading
import MiniLisp.Proofs.Pairing.Root
import MiniLisp.Proofs.ReadTerms

/-! # The layout of a program

    Blanks, line breaks and comments between the tokens of a program change
    nothing but the lines that its tokens are on, and those are only told by
    the messages of errors. A program could look at a message through the name
    to which a caught error binds it, and could read a text into any name; so
    programs are considered that use neither.

    * **`LeavesOut`** — a text in which names do not occur;
    * **`SameEnd`** — two programs that end alike, up to messages;
    * **`run_sameEnd_of_same_tokens`** — programs of the same tokens. -/

namespace MiniLisp

/-- The names do not occur as symbols in the text. -/
def LeavesOut (names : List String) (text : String) : Prop :=
  ∀ tokens, Token.scan text = .ok tokens →
    ∀ t ∈ tokens, t.kind = .symbol → t.text.getD "" ∉ names

theorem LeavesOut.of_scan {names : List String} {text : String} {tokens : List Token}
    (hscan : Token.scan text = .ok tokens)
    (hnames : ∀ t ∈ tokens, t.kind = .symbol → t.text.getD "" ∉ names) :
    LeavesOut names text := by
  intro tokens' hscan'
  cases hscan.symm.trans hscan'
  exact hnames

/-- Two programs end in the same answer or in errors of the same class, or both
    are given up for the same reason. -/
inductive SameEnd : Except Stop String → Except Stop String → Prop where
  | answer (text : String) : SameEnd (.ok text) (.ok text)
  | error {e e' : LispError} (kind : e'.kind = e.kind) :
      SameEnd (.error (.error e)) (.error (.error e'))
  | stop (stop : Stop) : SameEnd (.error stop) (.error stop)

/-! ## Runs that differ in their lines -/

/-- The names by which a run could come to look at lines. -/
def lineNames : List String :=
  [caughtName, SpecialForm.readText.name]

/-- Lines may differ, and nothing else. -/
def Likeness.lines : Likeness where
  __ := Likeness.same
  name key := key ∉ lineNames
  form f := f ≠ .readText
  line _ _ := True
  exact := False
  line_zero := trivial
  line_eq h := h.elim
  written := by decide
  written_list := by decide

/-- Both runs make the same number of functions. -/
def Numbering.lines : Numbering Likeness.lines where
  count := Eq
  past _ := False
  past_mono _ h := h
  next := by
    rintro n _ rfl
    exact ⟨n, rfl, rfl, .inl rfl⟩

theorem Twin.root_lines (console : Console) (branches lambdas : Nat) :
    Twin Numbering.lines (State.root console branches lambdas)
      (State.root console branches lambdas) := by
  refine .root (fun _ _ => rfl) ?_ rfl console branches lambdas
  rintro form hname rfl
  exact hname (by decide)

/-! ## Texts -/

theorem alike_tokens {tokens tokens' : List Token}
    (hsame : tokens'.map (fun t => (t.kind, t.text)) = tokens.map fun t => (t.kind, t.text))
    (hnames : ∀ t ∈ tokens, t.kind = .symbol → t.text.getD "" ∉ lineNames) :
    List.Forall₂ (Token.Like .lines) tokens tokens' := by
  induction tokens generalizing tokens' with
  | nil =>
    cases tokens' with
    | nil => exact .nil
    | cons _ _ => cases hsame
  | cons t rest ih =>
    cases tokens' with
    | nil => cases hsame
    | cons t' rest' =>
      obtain ⟨hfirst, hothers⟩ := List.cons_eq_cons.1 hsame
      obtain ⟨hkind, htext⟩ := Prod.mk.injEq _ _ _ _ ▸ hfirst
      obtain ⟨hname, hrest⟩ := List.forall_mem_cons.1 hnames
      exact .cons ⟨hkind, htext, trivial, hname⟩ (ih hothers hrest)

theorem known_mark (m : QuoteMark) : Likeness.lines.name m.symbol := by
  change m.symbol ∉ lineNames
  cases m <;> decide

/-- The forms of a prelude are like themselves. -/
theorem alike_prelude {l : Limits} {prelude : Option String} {console : Console}
    {started : Session} (hstart : Session.start l prelude console = .ok started)
    (hprelude : ∀ text ∈ prelude, LeavesOut lineNames text) :
    List.Forall₂ (Term.Like .lines) started.prelude started.prelude := by
  rcases Session.start_cases hstart with ⟨-, rfl⟩ | ⟨text, forms, hsome, hparse, rfl⟩
  · exact .nil
  · cases hscan : Token.scan text with
    | error e =>
      simp only [Term.parseWithin, hscan] at hparse
      cases hparse
    | ok tokens =>
      have htokens := alike_tokens rfl (hprelude text hsome tokens hscan)
      have hread := sameReading_ofTokensWithin known_mark l.depth htokens
      rw [← Term.parseWithin_of_scan l.depth hscan, hparse] at hread
      cases hread with
      | ok forms => exact forms

/-! ## Programs -/

theorem sameEnd_of_sameStop {stop stop' : Stop} (h : Likeness.lines.SameStop stop stop') :
    SameEnd (.error stop.closed) (.error stop'.closed) := by
  cases h with
  | error causes => exact .error causes.kind
  | limit _ => exact .stop _

/-- What looks at lines is neither read nor caught. -/
theorem sim_runProgram_lines [Host.Platform] (l : Limits) {forms forms' : List Term}
    (h : List.Forall₂ (Term.Like .lines) forms forms') :
    (Pairing.twins .lines).Sim Eq (runProgram l.passes forms rootScope)
      (runProgram l.passes forms' rootScope) := by
  -- The names of both are left out, so no term of either run holds them.
  have reads : Likeness.lines.form .readText → ∀ t : Term, t.IsData → t.Like .lines t :=
    fun hform => absurd rfl hform
  have catches : Likeness.lines.name caughtName → Likeness.lines.exact :=
    fun hname => absurd (List.mem_cons_self) hname
  exact Pairing.sim_runProgram (Pairing.simTwins_passes reads catches l.turns l.depth) h

theorem Session.resume_lines (session : Session) {s s' : State} (h : Twin .lines s s') :
    session.resume s' = session.resume s := by
  rw [resume, resume, h.console, h.branches, h.lambdas]

/-- Two programs that differ only in the lines of their tokens have the same
    answer or fail with errors of the same class, and leave the same session
    behind: the same console, and the same numbers for what comes next. -/
theorem run_sameEnd_of_same_tokens [Host.Platform]
    {l : Limits} {prelude : Option String} {console : Console}
    {started : Session} (hstart : Session.start l prelude console = .ok started)
    (hprelude : ∀ text ∈ prelude, LeavesOut [caughtName, SpecialForm.readText.name] text)
    {session : Session} (hsession : session.prelude = started.prelude)
    {program program' : String} {tokens tokens' : List Token}
    (hscan : Token.scan program = .ok tokens) (hscan' : Token.scan program' = .ok tokens')
    (hsame : tokens'.map (fun t => (t.kind, t.text)) = tokens.map fun t => (t.kind, t.text))
    (hprogram : LeavesOut [caughtName, SpecialForm.readText.name] program) :
    SameEnd (session.run l program).1 (session.run l program').1 ∧
      (session.run l program').2 = (session.run l program).2 := by
  have htokens := alike_tokens hsame (hprogram tokens hscan)
  have hread := sameReading_ofTokensWithin known_mark l.depth htokens
  unfold Session.run
  rw [Term.parseWithin_of_scan l.depth hscan, Term.parseWithin_of_scan l.depth hscan']
  generalize Term.ofTokensWithin l.depth tokens = x,
    Term.ofTokensWithin l.depth tokens' = y at hread
  cases hread with
  | error causes => exact ⟨sameEnd_of_sameStop causes, rfl⟩
  | @ok forms forms' hforms =>
    have hall := List.rel_append (hsession ▸ alike_prelude hstart hprelude) hforms
    have hends := (sim_runProgram_lines l hall).ends
      (Twin.root_lines session.console session.branches session.lambdas) id
    dsimp only [Session.initial]
    generalize runProgram l.passes (session.prelude ++ forms) rootScope _ = r,
      runProgram l.passes (session.prelude ++ forms') rootScope _ = r' at hends
    cases hends with
    | ok values states =>
      cases values
      exact ⟨.answer _, session.resume_lines states⟩
    | stop causes states => exact ⟨sameEnd_of_sameStop causes, session.resume_lines states⟩

/-- The text of an answer or the message of an error. -/
def endText : Except Stop String → String
  | .ok text => text
  | .error (.error e) => e.message
  | .error _ => ""

/-- A name without a value is reported with its line, which a line break and a
    comment change. -/
theorem run_sameEnd_of_same_tokens_broken_line :
    let session : Session := ⟨[.list [.sym "define" 1, .sym "x" 1, .str "hi"]],
      Console.ofLines [], 0, 0⟩
    let program := "(print x y)"
    let program' := "(print ; twice\n x y)"
    endText (session.run ⟨4, 1⟩ program).1 ≠ endText (session.run ⟨4, 1⟩ program').1 ∧
      SameEnd (session.run ⟨4, 1⟩ program).1 (session.run ⟨4, 1⟩ program').1 := by
  intro session program program'
  have hdefine : Token.scan "(define x \"hi\")" = .ok [⟨.openParen, some "(", 1⟩,
      ⟨.symbol, some "define", 1⟩, ⟨.symbol, some "x", 1⟩, ⟨.string, some "hi", 1⟩,
      ⟨.closeParen, some ")", 1⟩] := by
    decide +kernel
  have hscan : Token.scan program = .ok [⟨.openParen, some "(", 1⟩, ⟨.symbol, some "print", 1⟩,
      ⟨.symbol, some "x", 1⟩, ⟨.symbol, some "y", 1⟩, ⟨.closeParen, some ")", 1⟩] := by
    decide +kernel
  have hscan' : Token.scan program' = .ok [⟨.openParen, some "(", 1⟩,
      ⟨.symbol, some "print", 1⟩, ⟨.symbol, some "x", 2⟩, ⟨.symbol, some "y", 2⟩,
      ⟨.closeParen, some ")", 2⟩] := by
    decide +kernel
  have hstart : Session.start ⟨4, 1⟩ (some "(define x \"hi\")") (Console.ofLines []) =
      .ok session := by
    simp only [Session.start, Term.parseWithin_of_scan 4 hdefine]
    rfl
  have hprelude : ∀ text ∈ some "(define x \"hi\")",
      LeavesOut [caughtName, SpecialForm.readText.name] text := by
    intro text htext
    cases htext
    exact .of_scan hdefine (by decide)
  have hprogram : LeavesOut [caughtName, SpecialForm.readText.name] program :=
    .of_scan hscan (by decide)
  refine ⟨by decide +kernel, ?_⟩
  exact (run_sameEnd_of_same_tokens hstart hprelude rfl hscan hscan' rfl hprogram).1

end MiniLisp
