import MiniLisp.Proofs.LastForm
import MiniLisp.Proofs.Pairing.Root
import MiniLisp.Proofs.StandardPrelude

/-! # Programs that do not use the prelude

    A program that uses none of the names of the standard prelude ends the same
    way if there is no prelude at all. Two runs of it are compared, the first
    one without the prelude. They differ in what is bound to these names and in
    the serial numbers of the functions that the program makes: the prelude
    makes functions before the program is expanded, and more between its
    expansion and its evaluation. So the numbers correspond in one way while
    the program is expanded and in another way from then on.

    A program could come by the names in a text that it reads as code. Such
    programs are not considered.

    * **`Numbering.expanding`** and **`Numbering.evaluating`** — how the
      numbers of the two runs correspond;
    * **`Twin.expandedFrom`** and **`Twin.defined`** — the prelude keeps the
      states twins;
    * **`run_eq_run_without_prelude`** — the two runs. -/

namespace MiniLisp

/-! ## What the two runs differ in -/

/-- The names that a program must leave out: those of the prelude, and the one
    of the form that reads a text as code. -/
def Prelude.hiddenNames : List String :=
  SpecialForm.readText.name :: names

/-- The functions that the prelude makes before the program is expanded. -/
def Prelude.expansionFunctions : Nat :=
  total Definition.functions definitions

/-- The number that the second run gives to the function that the first one
    gives a number. The prelude's own definitions come in between if the
    function is not among those that the expansion of the program makes, which
    end before the number `m`. -/
def Prelude.shifted (m n : Nat) : Nat :=
  if n < m then n + expansionFunctions else n + expansionFunctions + definitions.length

/-- The names of the prelude are not used. All functions but the builtins have
    other serial numbers in the second run. -/
def Likeness.prelude (m : Nat) : Likeness where
  __ := Likeness.same
  name key := key ∉ Prelude.hiddenNames
  form f := f ≠ .readText
  serial a a' := a' = if a < Builtin.all.length then a else Prelude.shifted m a
  serial_iff := by
    intro a a' b b' ha hb
    unfold Prelude.shifted at ha hb
    split_ifs at ha hb <;> omega
  written := by decide
  written_list := by decide

/-- The numbers while the program is expanded. A run that makes functions beyond
    the number `m` has left its expansion. -/
def Numbering.expanding (m : Nat) : Numbering (Likeness.prelude m) where
  count n n' := Builtin.all.length ≤ n ∧
    n' = if n ≤ m then n + Prelude.expansionFunctions
      else n + Prelude.expansionFunctions + Prelude.definitions.length
  past n := m < n
  past_mono := by
    intro n n' hle hpast
    omega
  next := by
    rintro n n' ⟨hbuiltins, rfl⟩
    refine ⟨Prelude.shifted m n, (if_neg (Nat.not_lt.2 hbuiltins)).symm,
      ⟨Nat.le_succ_of_le hbuiltins, ?_⟩, ?_⟩
    · unfold Prelude.shifted
      split_ifs <;> omega
    -- With the number `m` itself the first run is in its evaluation.
    · rcases Nat.lt_trichotomy n m with hlt | rfl | hgt
      · left
        rw [Prelude.shifted, if_pos hlt, if_pos hlt.le]
      · exact .inr (Nat.lt_succ_self n)
      · left
        rw [Prelude.shifted, if_neg (Nat.lt_asymm hgt), if_neg (Nat.not_le.2 hgt)]

/-- The numbers once the program is expanded, when the functions below the
    number `m` were made. -/
def Numbering.evaluating (m : Nat) : Numbering (Likeness.prelude m) where
  count n n' := Builtin.all.length ≤ n ∧ m ≤ n ∧
    n' = n + Prelude.expansionFunctions + Prelude.definitions.length
  past _ := False
  past_mono _ h := h
  next := by
    rintro n _ ⟨hbuiltins, hexpanded, rfl⟩
    refine ⟨_, ?_, ⟨Nat.le_succ_of_le hbuiltins, Nat.le_succ_of_le hexpanded, ?_⟩, .inl rfl⟩
    · simp only [Likeness.prelude, Prelude.shifted, if_neg (Nat.not_lt.2 hbuiltins),
        if_neg (Nat.not_lt.2 hexpanded)]
    · omega

/-! ## The prelude keeps the states twins -/

theorem Prelude.get?_macros_of_not_mem {key : String} (h : key ∉ hiddenNames) :
    macros.get? key = MacroTable.special.get? key :=
  get?_macros fun hmem => h (List.mem_cons_of_mem _ (List.mem_append_left _ hmem))

theorem Twin.expandedFrom {m : Nat} (hm : Builtin.all.length ≤ m) (console : Console)
    (branches lambdas : Nat) :
    Twin (.expanding m) (State.root console (branches + 5) lambdas)
      (Prelude.expandedFrom (State.root console branches lambdas)) where
  size := rfl
  enclosing _ := rfl
  bound id key _ := alike_root (fun _ h => (if_pos h).symm) console branches lambdas id key
  macros key hkey := by
    have hforms : ∀ form : SpecialForm, (Likeness.prelude m).name form.name →
        (Likeness.prelude m).form form := by
      rintro form hname rfl
      exact hname List.mem_cons_self
    have hspecial := alike_special hforms hkey
    exact (Prelude.get?_macros_of_not_mem hkey).symm ▸ hspecial
  console := rfl
  branches := rfl
  lambdas := rfl
  functions := ⟨Nat.le_refl _, (if_pos hm).symm⟩

/-- The definitions are evaluated once the program is expanded. -/
theorem Twin.defined {m : Nat} {s w w' : State} (h : Twin (.expanding m) s w)
    (hexpanded : s.functions = m)
    (hbound : Prelude.Bound Prelude.hiddenNames Prelude.definitions.length w w') :
    Twin (.evaluating m) s w' where
  size := hbound.size.trans h.size
  enclosing id := (hbound.enclosing id).trans (h.enclosing id)
  bound id key hkey := by
    have hother : key ∉ Prelude.hiddenNames := by
      rcases hkey with hname | rfl
      · exact hname
      · decide
    rw [hbound.others id key hother]
    exact h.bound id key hkey
  macros key hkey := by
    rw [hbound.macros]
    exact h.macros key hkey
  console := hbound.console.trans h.console
  branches := hbound.branches.trans h.branches
  lambdas := hbound.lambdas.trans h.lambdas
  functions := by
    obtain ⟨hbuiltins, hcount⟩ := h.functions
    refine ⟨hbuiltins, hexpanded.ge, ?_⟩
    rw [hbound.functions, hcount, if_pos hexpanded.le]

/-! ## Forms after other forms -/

section Forms

variable {scope : ScopeId} {s s' : State}

/-- Expanding the prelude before other forms. -/
theorem Prelude.expandBody_standard_append [Host.Platform] (turns depth : Nat)
    (hmacros : s.macros = MacroTable.special) (forms : List Term) :
    ∃ us, (passes turns (depth + 6)).expandBody (Prelude.forms ++ forms) rootScope s =
        ((passes turns (depth + 6)).expandBody forms rootScope >>= fun others =>
          pure (us ++ others)) (expandedFrom s) ∧
      us.map definedName? = definitions.map fun d => some d.name := by
  obtain ⟨us, hus, hnames⟩ := expandAll_standard turns depth hmacros
  refine ⟨us, ?_, hnames⟩
  have hkept : us.filter (fun t => !t.isNil) = us := by
    refine Template.filter_of_ne_nil ?_
    rintro u hu rfl
    obtain ⟨name, -, hname⟩ := exists_definedName hnames hu
    cases hname
  have hbody : (passes turns (depth + 6)).expandBody Prelude.forms rootScope s =
      .ok us (expandedFrom s) := by
    unfold Passes.expandBody
    rw [Action.bind_ok hus, List.filter_append, hkept]
    rfl
  rw [expandBody_append, Action.bind_ok hbody]

/-- Definitions ahead of other forms are evaluated first, and their values do
    not matter. -/
theorem Prelude.runProgram_of_definitions [Host.Platform]
    {turns depth : Nat} {forms us ts : List Term}
    {names : List String} (hus : ∀ u ∈ us, ∃ name ∈ names, definedName? u = some name)
    (h : (passes turns (depth + 3)).expandBody forms scope s = .ok (us ++ ts) s')
    (hleft : ts ≠ []) :
    ∃ w, Bound names us.length s' w ∧ runProgram (passes turns (depth + 3)) forms scope s =
      ((passes turns (depth + 3)).evaluateBody .nil ts scope >>=
        (passes turns (depth + 3)).print) w := by
  obtain ⟨last, w, hbound, hrest⟩ :=
    evaluateBody_definitions turns depth hus .nil scope (.refl names s')
  rw [Nat.zero_add] at hbound
  refine ⟨w, hbound, ?_⟩
  rw [runProgram_of_expandBody h (List.append_ne_nil_of_right_ne_nil us hleft)]
  -- As a form is left, the value of the last definition is not the result.
  obtain ⟨t, rest, rfl⟩ := List.exists_cons_of_ne_nil hleft
  have heval : (passes turns (depth + 3)).evaluateBody .nil (us ++ t :: rest) scope s' =
      (passes turns (depth + 3)).evaluateBody .nil (t :: rest) scope w := hrest (t :: rest)
  exact Action.bind_congr heval _

end Forms

/-! ## The two runs -/

/-- Two runs have the same answer or stop for the same reason, and leave the
    same console behind. -/
inductive SameRun : EStateM.Result Stop State String → EStateM.Result Stop State String → Prop where
  | ok (text : String) {s s' : State} (console : s'.console = s.console) :
      SameRun (.ok text s) (.ok text s')
  | stop (stop : Stop) {s s' : State} (console : s'.console = s.console) :
      SameRun (.error stop s) (.error stop s')

theorem sameRun_of_ends {L : Likeness} {N : Numbering L} (hexact : L.exact)
    {r r' : EStateM.Result Stop State String} (h : (Pairing.twins N).Ends Eq r r') :
    SameRun r r' := by
  cases h with
  | ok values states =>
    subst values
    exact .ok _ (Twin.console states)
  | stop causes states =>
    obtain rfl := causes.eq hexact
    exact .stop _ (Twin.console states)

section Runs

variable [Host.Platform] {turns depth m : Nat} {forms : List Term} {console : Console}
  {branches lambdas : Nat}

theorem simTwins_prelude (N : Numbering (Likeness.prelude m)) (turns depth : Nat) :
    Pairing.SimTwins N (passes turns depth) := by
  refine Pairing.simTwins_passes ?_ (fun _ => trivial) turns depth
  intro (h : SpecialForm.readText ≠ .readText)
  exact absurd rfl h

/-- Both expansions of the program end alike, if the numbers correspond up to
    the one that comes next in the first run. -/
theorem ends_expandBody (hforms : ∀ m, List.Forall₂ (Term.Like (.prelude m)) forms forms)
    (hm : m = (((passes turns depth).expandBody forms rootScope).after
      (State.root console (branches + 5) lambdas)).functions) :
    (Pairing.twins (.expanding m)).Ends (List.Forall₂ (Term.Like (.prelude m)))
      ((passes turns depth).expandBody forms rootScope
        (State.root console (branches + 5) lambdas))
      ((passes turns depth).expandBody forms rootScope
        (Prelude.expandedFrom (State.root console branches lambdas))) := by
  have hsim : ∀ k, (Pairing.twins (.expanding k)).Sim (List.Forall₂ (Term.Like (.prelude k)))
      ((passes turns depth).expandBody forms rootScope)
      ((passes turns depth).expandBody forms rootScope) := fun k =>
    Pairing.sim_expandBody (simTwins_prelude (.expanding k) turns depth).simPasses (hforms k) rfl
  -- The number at which the expansion ends is not below those of the builtins.
  have hbuiltins : Builtin.all.length ≤ m := by
    have htwin := Twin.expandedFrom (Nat.le_refl Builtin.all.length) console branches lambdas
    rw [hm]
    exact (hsim Builtin.all.length _ _ htwin).1
  exact (hsim m).ends (Twin.expandedFrom hbuiltins console branches lambdas)
    (Nat.not_lt.2 hm.ge)

/-- The evaluation of what the program was expanded to is the same, with or
    without definitions ahead of it. -/
theorem sameRun_evaluateBody {s w w' : State} (h : Twin (.expanding m) s w)
    (hexpanded : s.functions = m)
    (hbound : Prelude.Bound Prelude.hiddenNames Prelude.definitions.length w w')
    {ts ts' : List Term} (hts : List.Forall₂ (Term.Like (.prelude m)) ts ts') :
    SameRun
      (((passes turns depth).evaluateBody .nil ts rootScope >>= (passes turns depth).print) s)
      (((passes turns depth).evaluateBody .nil ts' rootScope >>= (passes turns depth).print)
        w') := by
  have hsim : (Pairing.twins (.evaluating m)).Sim Eq
      ((passes turns depth).evaluateBody .nil ts rootScope >>= (passes turns depth).print)
      ((passes turns depth).evaluateBody .nil ts' rootScope >>= (passes turns depth).print) := by
    refine Pairing.sim_bind (Pairing.sim_evaluateBody (simTwins_prelude _ turns depth) .nil hts) ?_
    exact fun _ _ hvalue => Pairing.sim_print hvalue
  exact sameRun_of_ends trivial (hsim.ends (h.defined hexpanded hbound) id)

/-- A program of which a form is left runs as it does without the prelude. -/
theorem sameRun_standard (hforms : ∀ m, List.Forall₂ (Term.Like (.prelude m)) forms forms)
    (hleft : ∀ s, (passes turns (depth + 6)).expandBody forms rootScope
      (State.root console (branches + 5) lambdas) ≠ .ok [] s) :
    SameRun
      (runProgram (passes turns (depth + 6)) forms rootScope
        (State.root console (branches + 5) lambdas))
      (runProgram (passes turns (depth + 6)) (Prelude.forms ++ forms) rootScope
        (State.root console branches lambdas)) := by
  have hstandard := Prelude.expandBody_standard_append turns depth
    (rfl : (State.root console branches lambdas).macros = MacroTable.special) forms
  obtain ⟨us, hus, hnames⟩ := hstandard
  have hdefined : ∀ u ∈ us, ∃ name ∈ Prelude.hiddenNames, Prelude.definedName? u = some name := by
    intro u hu
    obtain ⟨name, hname, hbinds⟩ := Prelude.exists_definedName hnames hu
    exact ⟨name, List.mem_cons_of_mem _ hname, hbinds⟩
  have hlength : us.length = Prelude.definitions.length := by
    simpa using congrArg List.length hnames
  -- The number up to which the functions are those of the expansion is found by running it.
  obtain ⟨m, hm⟩ : ∃ m, m = (((passes turns (depth + 6)).expandBody forms rootScope).after
    (State.root console (branches + 5) lambdas)).functions := ⟨_, rfl⟩
  have hends := ends_expandBody hforms hm
  generalize hfirst : (passes turns (depth + 6)).expandBody forms rootScope
    (State.root console (branches + 5) lambdas) = r at hends
  generalize hsecond : (passes turns (depth + 6)).expandBody forms rootScope
    (Prelude.expandedFrom (State.root console branches lambdas)) = r' at hends
  cases hends with
  -- The program stops before any definition is evaluated.
  | @stop stop stop' s w causes states =>
    obtain rfl := causes.eq trivial
    rw [Action.bind_error hsecond] at hus
    rw [runProgram_of_expandBody_error hfirst, runProgram_of_expandBody_error hus]
    exact .stop _ (Twin.console states)
  | @ok ts ts' s w values states =>
    rw [Action.bind_ok hsecond] at hus
    have hne : ts ≠ [] := by
      rintro rfl
      exact hleft s hfirst
    have hne' : ts' ≠ [] := by
      rintro rfl
      cases values
      exact hne rfl
    obtain ⟨w', hbound, hrun⟩ := Prelude.runProgram_of_definitions hdefined hus hne'
    rw [hlength] at hbound
    rw [Action.after_ok hfirst] at hm
    rw [runProgram_of_expandBody hfirst hne, hrun]
    exact sameRun_evaluateBody states hm.symm hbound values

end Runs

/-! ## Sessions -/

theorem Session.start_standard {l : Limits} (hdepth : 4 ≤ l.depth) (console : Console) :
    start l (some Prelude.standard) console = .ok ⟨Prelude.forms, console, 0, 0⟩ := by
  simp only [start, Prelude.parseWithin_standard hdepth]
  rfl

theorem Session.run_of_sameRun [Host.Platform]
    {l : Limits} {session session' : Session} {program : String}
    {forms : List Term} (hparse : Term.parseWithin l.depth program = .ok forms)
    (h : SameRun (runProgram l.passes (session.prelude ++ forms) rootScope session.initial)
      (runProgram l.passes (session'.prelude ++ forms) rootScope session'.initial)) :
    (session'.run l program).1 = (session.run l program).1 ∧
      (session'.run l program).2.console = (session.run l program).2.console := by
  unfold run
  rw [hparse]
  dsimp only
  generalize runProgram l.passes (session.prelude ++ forms) rootScope session.initial = r,
    runProgram l.passes (session'.prelude ++ forms) rootScope session'.initial = r' at h
  cases h with
  | ok text console => exact ⟨rfl, console⟩
  | stop stop console => exact ⟨rfl, console⟩

/-- Where there is room for the standard prelude, a program that uses none of
    its names and does not read texts as code has the same answer or error with
    it as without any prelude, and leaves the same console behind, if a form of
    the program is left after expansion. For that the run without a prelude has
    to count choices from where the prelude leaves off: it takes five. -/
theorem run_eq_run_without_prelude [Host.Platform]
    {l : Limits} (hdepth : 6 ≤ l.depth) (console : Console) :
    ∃ started, Session.start l (some Prelude.standard) console = .ok started ∧
      ∀ session : Session, session.prelude = started.prelude →
        let without : Session := ⟨[], session.console, session.branches + 5, session.lambdas⟩
        (∃ expanded s, l.passes.expandAll session.prelude rootScope session.initial =
          .ok expanded s ∧ s.branches = session.branches + 5) ∧
        ∀ program,
          (∀ forms, Term.parseWithin l.depth program = .ok forms →
            (∀ t ∈ forms, t.LeavesOut ["read-string", "def", "fn", "defun", "not", "or", "and",
              "<=", ">", ">=", "!=", "strlen", "mod", "abs", "number?", "string?", "list?"]) ∧
            ∀ s, l.passes.expandBody forms rootScope without.initial ≠ .ok [] s) →
          (session.run l program).1 = (without.run l program).1 ∧
            (session.run l program).2.console = (without.run l program).2.console := by
  refine ⟨_, Session.start_standard (Nat.le_trans (by decide) hdepth) console, ?_⟩
  intro session hsession without
  obtain ⟨depth, hl⟩ : ∃ depth, l.depth = depth + 6 := Nat.exists_eq_add_of_le' hdepth
  have hpasses : l.passes = passes l.turns (depth + 6) := by
    rw [← hl]
    rfl
  constructor
  · obtain ⟨us, hus, -⟩ := Prelude.expandAll_standard l.turns depth (s := session.initial) rfl
    rw [hsession, hpasses]
    exact ⟨_, _, hus, rfl⟩
  · intro program hprogram
    cases hparse : Term.parseWithin l.depth program with
    | error stop =>
      simp only [Session.run, hparse]
      exact ⟨trivial, rfl⟩
    | ok forms =>
      obtain ⟨hnames, hleft⟩ := hprogram forms hparse
      have hforms : ∀ m, List.Forall₂ (Term.Like (.prelude m)) forms forms := fun m =>
        alike_self_of_leavesOut (fun _ => rfl) (fun _ hname => hname)
          (isData_of_parseWithin hparse) hnames
      refine Session.run_of_sameRun hparse ?_
      rw [hsession, hpasses]
      rw [hpasses] at hleft
      exact sameRun_standard hforms hleft

/-- The functions `print` and `read` are there without the prelude. -/
theorem run_eq_run_without_prelude_echo :
    let session : Session := ⟨Prelude.forms, Console.ofLines ["in"], 0, 0⟩
    let without : Session := ⟨[], Console.ofLines ["in"], 5, 0⟩
    let program := "(print (if true (read) print))"
    (session.run ⟨7, 1⟩ program).1 = (without.run ⟨7, 1⟩ program).1 ∧
      (session.run ⟨7, 1⟩ program).2.console = (without.run ⟨7, 1⟩ program).2.console := by
  intro session without program
  have hscan : Token.scan program = .ok [⟨.openParen, some "(", 1⟩, ⟨.symbol, some "print", 1⟩,
      ⟨.openParen, some "(", 1⟩, ⟨.symbol, some "if", 1⟩, ⟨.boolean, some "true", 1⟩,
      ⟨.openParen, some "(", 1⟩, ⟨.symbol, some "read", 1⟩, ⟨.closeParen, some ")", 1⟩,
      ⟨.symbol, some "print", 1⟩, ⟨.closeParen, some ")", 1⟩, ⟨.closeParen, some ")", 1⟩] := by
    decide +kernel
  have hparse : Term.parseWithin 7 program = .ok [.list [.sym "print" 1, .list [.sym "if" 1,
      .bool true, .list [.sym "read" 1], .sym "print" 1]]] := by
    rw [Term.parseWithin_of_scan 7 hscan]
    rfl
  have hstart : Session.start ⟨7, 1⟩ (some Prelude.standard) (Console.ofLines ["in"]) =
      .ok session := Session.start_standard (by decide) _
  obtain ⟨started, hstarted, hsame⟩ :=
    run_eq_run_without_prelude (l := ⟨7, 1⟩) (by decide) (Console.ofLines ["in"])
  cases hstart.symm.trans hstarted
  refine (hsame session rfl).2 program fun forms hforms => ?_
  cases hparse.symm.trans hforms
  refine ⟨by decide, fun s hs => ?_⟩
  -- The form is expanded to a call, which is left.
  cases hs

end MiniLisp
