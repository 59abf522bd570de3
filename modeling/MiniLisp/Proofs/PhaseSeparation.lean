import MiniLisp.Proofs.Pairing.Root
import MiniLisp.Proofs.ReadTerms

/-! # Expansion before evaluation

    While a form is expanded, nothing is evaluated but what the templates of
    macros ask for. So where no form defines a macro, an expansion makes
    functions and takes numbers, and does nothing else: it finds the same in
    every state whose next numbers are the same, and it leaves the variables,
    the macros and the console as they were. A program of which some form
    cannot be expanded has then done nothing at all.

    * **`State.Renumbered`** — a state in which only the numbers have changed;
    * **`SameExpansion`** — two expansions that end alike;
    * **`expansion_precedes_evaluation`** — what programs without macros of
      their own do while they are expanded. -/

namespace MiniLisp

/-! ## What an expansion does -/

/-- The states differ in nothing but the numbers that are given next. -/
structure State.Renumbered (s s' : State) : Prop where
  scopes : s'.scopes = s.scopes
  macros : s'.macros = s.macros
  console : s'.console = s.console

/-- Functions correspond that are made in the same order, beginning with the
    given serial numbers, and macros are not defined. -/
def Likeness.inOrder (n n' : Nat) : Likeness where
  __ := Likeness.same
  name key := key ≠ SpecialForm.defineMacro.name
  form form := form ≠ .defineMacro
  serial a a' := a + n' = a' + n
  serial_iff := by
    intro a a' b b' ha hb
    omega
  written := by decide
  written_list := by decide

/-- Two expansions end in forms that differ in the serial numbers of their
    functions only, or stop for the same reason, and have taken as many
    numbers. -/
inductive SameExpansion (n n' : Nat) :
    EStateM.Result Stop State Term → EStateM.Result Stop State Term → Prop where
  | ok {t t' : Term} {s s' : State} (forms : t.Like (.inOrder n n') t')
      (branches : s'.branches = s.branches) (lambdas : s'.lambdas = s.lambdas) :
      SameExpansion n n' (.ok t s) (.ok t' s')
  | stop (stop : Stop) {s s' : State}
      (branches : s'.branches = s.branches) (lambdas : s'.lambdas = s.lambdas) :
      SameExpansion n n' (.error stop s) (.error stop s')

/-! ## Expansions in any two states -/

namespace Pairing

/-- Expansions from two states that have nothing in common but the special
    forms and the next numbers of choices and of functions without a name. -/
def apart (base base' : State) (h : base.macros = MacroTable.special)
    (h' : base'.macros = MacroTable.special) : Pairing where
  toLikeness := .inOrder base.functions base'.functions
  near _ _ := True
  beside s s' := base.Renumbered s ∧ base'.Renumbered s' ∧ s'.branches = s.branches ∧
    s'.lambdas = s.lambdas ∧ s.functions + base'.functions = s'.functions + base.functions
  past _ := False
  past_mono _ h := h
  newFunction := by
    rintro s s' ⟨hs, hs', hbranches, hlambdas, hcount⟩
    refine ⟨s'.functions, hcount, ⟨{ hs with }, { hs' with }, hbranches, hlambdas, ?_⟩, .inl rfl⟩
    dsimp only
    omega
  nextBranch := by
    rintro s s' ⟨hs, hs', hbranches, hlambdas, hcount⟩
    exact ⟨hbranches, { hs with }, { hs' with }, congrArg (· + 1) hbranches, hlambdas, hcount⟩
  nextLambda := by
    rintro s s' ⟨hs, hs', hbranches, hlambdas, hcount⟩
    exact ⟨hlambdas, { hs with }, { hs' with }, hbranches, congrArg (· + 1) hlambdas, hcount⟩
  findMacro := by
    rintro s s' key ⟨hs, hs', -⟩ hkey
    rw [hs.macros, hs'.macros, h, h']
    refine alike_special ?_ hkey
    rintro form hname rfl
    exact hname rfl
  addMacro h := absurd rfl h
  newScope h := absurd rfl h
  define h := absurd rfl h

/-- Where no macros are added, expansion keeps runs side by side on its own. -/
theorem simPasses_of_noMacros [Host.Platform]
    {P : Pairing} (h : ¬ P.form .defineMacro) (turns depth : Nat) :
    P.SimPasses (passes turns depth) := by
  induction depth with
  | zero =>
    exact {
      expand := fun _ _ => sim_throw (.refl _ _)
      evaluate := fun adds => absurd adds h }
  | succ n ih =>
    exact {
      expand := fun ht hscope => sim_expansion_step ih hscope ht
      evaluate := fun adds => absurd adds h }

section Apart

variable {s s' : State} {hmacros : s.macros = MacroTable.special}
  {hmacros' : s'.macros = MacroTable.special}

/-- Two such states are side by side if the two counts are the same. -/
theorem beside_apart (hbranches : s'.branches = s.branches) (hlambdas : s'.lambdas = s.lambdas) :
    (apart s s' hmacros hmacros').beside s s' :=
  ⟨⟨rfl, rfl, rfl⟩, ⟨rfl, rfl, rfl⟩, hbranches, hlambdas, Nat.add_comm _ _⟩

theorem simPasses_apart [Host.Platform] (turns depth : Nat) :
    (apart s s' hmacros hmacros').SimPasses (passes turns depth) := by
  refine simPasses_of_noMacros ?_ turns depth
  intro (h : SpecialForm.defineMacro ≠ .defineMacro)
  exact h rfl

theorem renumbered_of_sim {α : Type} {good : α → α → Prop} {x y : Action α}
    (h : (apart s s' hmacros hmacros').Sim good x y)
    (hbeside : (apart s s' hmacros hmacros').beside s s') : s.Renumbered (x.after s) := by
  have hends := h.ends hbeside id
  unfold Action.after
  generalize x s = r, y s' = r' at hends
  cases hends with
  | ok _ states => exact states.1
  | stop _ states => exact states.1

theorem sameExpansion_of_sim {x y : Action Term}
    (h : (apart s s' hmacros hmacros').Sim (Term.Like (.inOrder s.functions s'.functions)) x y)
    (hbeside : (apart s s' hmacros hmacros').beside s s') :
    SameExpansion s.functions s'.functions (x s) (y s') := by
  have hends := h.ends hbeside id
  generalize x s = r, y s' = r' at hends
  cases hends with
  | ok forms states =>
    obtain ⟨-, -, hbranches, hlambdas, -⟩ := states
    exact .ok forms hbranches hlambdas
  | stop causes states =>
    obtain ⟨-, -, hbranches, hlambdas, -⟩ := states
    obtain rfl := causes.eq trivial
    exact .stop _ hbranches hlambdas

end Apart

end Pairing

/-! ## Forms that define no macros -/

section Forms

variable {turns depth : Nat} {s s' : State}

theorem like_inOrder {n n' : Nat} {forms : List Term} (hdata : ∀ t ∈ forms, t.IsData)
    (hleaves : ∀ t ∈ forms, t.LeavesOut [SpecialForm.defineMacro.name]) :
    List.Forall₂ (Term.Like (.inOrder n n')) forms forms := by
  refine alike_self_of_leavesOut (fun _ => rfl) ?_ hdata hleaves
  rintro name hname rfl
  exact hname List.mem_cons_self

/-- An expansion leaves all but the numbers as it was, and finds the same from
    other scopes of other states that count alike. -/
theorem expand_of_leavesOut [Host.Platform] {t : Term} (hdata : t.IsData)
    (hleaves : t.LeavesOut [SpecialForm.defineMacro.name]) (scope scope' : ScopeId)
    (hmacros : s.macros = MacroTable.special) (hmacros' : s'.macros = MacroTable.special)
    (hbranches : s'.branches = s.branches) (hlambdas : s'.lambdas = s.lambdas) :
    s.Renumbered (((passes turns depth).expand t scope).after s) ∧
      SameExpansion s.functions s'.functions ((passes turns depth).expand t scope s)
        ((passes turns depth).expand t scope' s') := by
  have hlike : List.Forall₂ (Term.Like (.inOrder s.functions s'.functions)) [t] [t] :=
    like_inOrder (List.forall_mem_singleton.2 hdata) (List.forall_mem_singleton.2 hleaves)
  have hbeside : (Pairing.apart s s' hmacros hmacros').beside s s' :=
    Pairing.beside_apart hbranches hlambdas
  have hsim : (Pairing.apart s s' hmacros hmacros').Sim
      (Term.Like (.inOrder s.functions s'.functions))
      ((passes turns depth).expand t scope) ((passes turns depth).expand t scope') :=
    (Pairing.simPasses_apart turns depth).expand (List.forall₂_cons.1 hlike).1 trivial
  exact ⟨Pairing.renumbered_of_sim hsim hbeside, Pairing.sameExpansion_of_sim hsim hbeside⟩

/-- A row of expansions leaves all but the numbers as it was. -/
theorem expandAll_of_leavesOut [Host.Platform] {forms : List Term} (hdata : ∀ t ∈ forms, t.IsData)
    (hleaves : ∀ t ∈ forms, t.LeavesOut [SpecialForm.defineMacro.name]) (scope : ScopeId)
    (hmacros : s.macros = MacroTable.special) :
    s.Renumbered (((passes turns depth).expandAll forms scope).after s) := by
  have hsim : (Pairing.apart s s hmacros hmacros).Sim (List.Forall₂ (Pairing.Like _))
      ((passes turns depth).expandAll forms scope) ((passes turns depth).expandAll forms scope) :=
    Pairing.sim_expandAll (Pairing.simPasses_apart turns depth) (like_inOrder hdata hleaves)
      trivial
  exact Pairing.renumbered_of_sim hsim (Pairing.beside_apart rfl rfl)

end Forms

/-! ## Programs -/

/-- Forms are expanded from left to right, up to the first one that cannot be. -/
theorem expandAll_append_error {p : Passes} {before after : List Term} {t : Term}
    {scope : ScopeId} {expanded : List Term} {s s' s'' : State} {stop : Stop}
    (hbefore : p.expandAll before scope s = .ok expanded s')
    (ht : p.expand t scope s' = .error stop s'') :
    p.expandAll (before ++ t :: after) scope s = .error stop s'' := by
  unfold Passes.expandAll at hbefore ⊢
  rw [List.mapM_append, List.mapM_cons, Action.bind_ok hbefore]
  exact Action.bind_error (Action.bind_error ht)

theorem Session.run_of_expandAll_error [Host.Platform]
    {l : Limits} {session : Session} {program : String}
    {forms : List Term} (hparse : Term.parseWithin l.depth program = .ok forms) {stop : Stop}
    {s : State}
    (herror : l.passes.expandAll (session.prelude ++ forms) rootScope session.initial =
      .error stop s) :
    session.run l program = (.error stop.closed, session.resume s) := by
  have hrun : runProgram l.passes (session.prelude ++ forms) rootScope session.initial =
      .error stop s :=
    Action.bind_error (Action.bind_error (Action.bind_error herror))
  simp only [Session.run, hparse, hrun]

/-- Where neither the prelude nor the program defines a macro, expanding a form
    of theirs changes nothing but the numbers that are given next, and finds
    what the form and two of these numbers say, whatever scope it is expanded
    in, what is bound there and what is on the console. So a program that cannot
    be read, or of which some form cannot be expanded, fails with that error
    before anything is evaluated. -/
theorem expansion_precedes_evaluation [Host.Platform]
    {l : Limits} {prelude : Option String} {console : Console}
    {started : Session} (hstart : Session.start l prelude console = .ok started)
    (hprelude : ∀ t ∈ started.prelude, t.LeavesOut ["defmacro"])
    {session : Session} (hsession : session.prelude = started.prelude) {program : String}
    (hprogram : ∀ forms, Term.parseWithin l.depth program = .ok forms →
      ∀ t ∈ forms, t.LeavesOut ["defmacro"]) :
    (∀ stop, Term.parseWithin l.depth program = .error stop →
      session.run l program = (.error stop.closed, session)) ∧
    ∀ forms, Term.parseWithin l.depth program = .ok forms →
      (∀ t ∈ session.prelude ++ forms, ∀ turns depth scope scope' s s',
        s.macros = MacroTable.special → s'.macros = MacroTable.special →
        s'.branches = s.branches → s'.lambdas = s.lambdas →
        s.Renumbered (((passes turns depth).expand t scope).after s) ∧
          SameExpansion s.functions s'.functions ((passes turns depth).expand t scope s)
            ((passes turns depth).expand t scope' s')) ∧
      ∀ before t after, session.prelude ++ forms = before ++ t :: after →
        ∀ expanded s stop s', l.passes.expandAll before rootScope session.initial = .ok expanded s →
          l.passes.expand t rootScope s = .error stop s' →
          session.run l program = (.error stop.closed, session.resume s') ∧
            (session.run l program).2.console = session.console := by
  refine ⟨fun stop hstop => by simp only [Session.run, hstop], fun forms hforms => ?_⟩
  have hdata : ∀ t ∈ session.prelude ++ forms, t.IsData := by
    intro t ht
    rw [hsession] at ht
    rcases List.mem_append.1 ht with hmem | hmem
    · exact Session.isData_of_start hstart t hmem
    · exact isData_of_parseWithin hforms t hmem
  have hleaves : ∀ t ∈ session.prelude ++ forms, t.LeavesOut [SpecialForm.defineMacro.name] := by
    intro t ht
    rw [hsession] at ht
    rcases List.mem_append.1 ht with hmem | hmem
    · exact hprelude t hmem
    · exact hprogram forms hforms t hmem
  constructor
  · intro t ht turns depth scope scope' s s' hmacros hmacros' hbranches hlambdas
    exact expand_of_leavesOut (hdata t ht) (hleaves t ht) scope scope' hmacros hmacros' hbranches
      hlambdas
  · intro before t after hsplit expanded s stop s' hbefore ht
    have herror : l.passes.expandAll (session.prelude ++ forms) rootScope session.initial =
        .error stop s' := by
      rw [hsplit]
      exact expandAll_append_error hbefore ht
    have hrun := Session.run_of_expandAll_error hforms herror
    -- The forms before the one that fails, too, have left the console alone.
    have hrenumbered : session.initial.Renumbered
        ((l.passes.expandAll (session.prelude ++ forms) rootScope).after session.initial) :=
      expandAll_of_leavesOut hdata hleaves rootScope rfl
    rw [Action.after_error herror] at hrenumbered
    refine ⟨hrun, ?_⟩
    rw [hrun]
    exact hrenumbered.console

/-- The last form is a choice between nothing. The first one, which would read
    and print a line, has no effect. -/
theorem expansion_precedes_evaluation_last_form :
    let session : Session := ⟨[.list [.sym "define" 1, .sym "x" 1, .str "hi"]],
      Console.ofLines ["in"], 0, 0⟩
    let program := "(print (read x)) (if)"
    (session.run ⟨5, 1⟩ program).1 = .error (.error (.form .branchCount)) ∧
      (session.run ⟨5, 1⟩ program).2.console = session.console := by
  intro session program
  have hscan : Token.scan "(define x \"hi\")" = .ok [⟨.openParen, some "(", 1⟩,
      ⟨.symbol, some "define", 1⟩, ⟨.symbol, some "x", 1⟩, ⟨.string, some "hi", 1⟩,
      ⟨.closeParen, some ")", 1⟩] := by
    decide +kernel
  have hscan' : Token.scan program = .ok [⟨.openParen, some "(", 1⟩, ⟨.symbol, some "print", 1⟩,
      ⟨.openParen, some "(", 1⟩, ⟨.symbol, some "read", 1⟩, ⟨.symbol, some "x", 1⟩,
      ⟨.closeParen, some ")", 1⟩, ⟨.closeParen, some ")", 1⟩, ⟨.openParen, some "(", 1⟩,
      ⟨.symbol, some "if", 1⟩, ⟨.closeParen, some ")", 1⟩] := by
    decide +kernel
  have hstart : Session.start ⟨5, 1⟩ (some "(define x \"hi\")") (Console.ofLines ["in"]) =
      .ok session := by
    simp only [Session.start, Term.parseWithin_of_scan 5 hscan]
    rfl
  have hforms : Term.parseWithin 5 program = .ok
      [.list [.sym "print" 1, .list [.sym "read" 1, .sym "x" 1]], .list [.sym "if" 1]] := by
    rw [Term.parseWithin_of_scan 5 hscan']
    rfl
  have hprogram : ∀ forms, Term.parseWithin 5 program = .ok forms →
      ∀ t ∈ forms, t.LeavesOut ["defmacro"] := by
    intro forms h
    cases hforms.symm.trans h
    decide
  obtain ⟨-, hphases⟩ := expansion_precedes_evaluation hstart (by decide) rfl hprogram
  obtain ⟨-, hfails⟩ := hphases _ hforms
  obtain ⟨hrun, hconsole⟩ := hfails [_, _] (.list [.sym "if" 1]) [] rfl _ _
    (.error (.form .branchCount)) _ rfl rfl
  exact ⟨congrArg Prod.fst hrun, hconsole⟩

end MiniLisp
