import MiniLisp.Proofs.ReadTerms

/-! # Whose value the result is

    The forms of the prelude and those of the program are expanded together, in
    one row, and what expands to nil is left out; then all that is left is
    evaluated, in one row again, and the last value is the result. So the result
    is the value of the program's last form that is left, evaluated after all the
    others. But where no form of the program is left, it is what the prelude ends
    in, and only without any form at all is there no result.

    * **`expandBody_append`** and **`evaluateBody_append`** — forms in a row;
    * **`runProgram_of_expandBody`** — what follows the expansion;
    * **`result_of_run`** — the text that a run yields. -/

namespace MiniLisp

section Rows

variable {p : Passes} {scope : ScopeId} {s s' : State}

/-! ## Forms in a row -/

theorem expandBody_append (before after : List Term) :
    p.expandBody (before ++ after) scope = do
      let introduced ← p.expandBody before scope
      let left ← p.expandBody after scope
      return introduced ++ left := by
  unfold Passes.expandBody Passes.expandAll
  simp only [List.mapM_append, bind_assoc, pure_bind, List.filter_append]

theorem evaluateBody_append (first : Term) (before after : List Term) :
    p.evaluateBody first (before ++ after) scope =
      p.evaluateBody first before scope >>= fun last => p.evaluateBody last after scope := by
  induction before generalizing first with
  | nil => rfl
  | cons t rest ih =>
    have hfirst : ∀ ts, p.evaluateBody first (t :: ts) scope =
      p.evaluate t scope >>= fun value => p.evaluateBody value ts scope := fun _ => rfl
    rw [List.cons_append, hfirst, hfirst, bind_assoc]
    exact congrArg _ (funext ih)

/-- The forms of a row are all evaluated, the last one after the others. -/
theorem evaluateBody_concat {first value : Term} {before : List Term} {last : Term}
    (h : p.evaluateBody first (before ++ [last]) scope s = .ok value s') :
    ∃ previous s₁, p.evaluateBody first before scope s = .ok previous s₁ ∧
      p.evaluate last scope s₁ = .ok value s' := by
  rw [evaluateBody_append] at h
  obtain ⟨previous, s₁, hbefore, hlast⟩ := Action.exists_of_bind_ok h
  obtain ⟨value', s₂, hvalue, hdone⟩ := Action.exists_of_bind_ok hlast
  cases hdone
  exact ⟨previous, s₁, hbefore, hvalue⟩

/-- With a form left, the last value is the result. -/
theorem runProgram_of_expandBody {forms ts : List Term}
    (h : p.expandBody forms scope s = .ok ts s') (hleft : ts ≠ []) :
    runProgram p forms scope s = (p.evaluateBody .nil ts scope >>= p.print) s' := by
  obtain ⟨t, rest, rfl⟩ := List.exists_cons_of_ne_nil hleft
  unfold runProgram runForms
  rw [bind_assoc, Action.bind_ok h]
  dsimp only
  rw [← bind_pure_comp, bind_assoc]
  rfl

/-- Without any form left, there is no result. -/
theorem runProgram_of_expandBody_nil {forms : List Term}
    (h : p.expandBody forms scope s = .ok [] s') : runProgram p forms scope s = .ok "" s' := by
  unfold runProgram runForms
  rw [bind_assoc, Action.bind_ok h]
  rfl

theorem runProgram_of_expandBody_error {forms : List Term} {stop : Stop}
    (h : p.expandBody forms scope s = .error stop s') :
    runProgram p forms scope s = .error stop s' :=
  Action.bind_error (Action.bind_error h)

theorem eq_print_of_print {t : Term} {text : String} (h : p.print t s = .ok text s') :
    text = t.print ∧ s' = s := by
  unfold Passes.print Term.printWithin at h
  split at h
  · cases h
    exact ⟨rfl, rfl⟩
  · cases h

/-- A run yields the printed form of the last value, or nothing without a form
    left. -/
theorem result_of_runProgram {forms : List Term} {text : String}
    (h : runProgram p forms scope s = .ok text s') :
    ∃ ts s₁ value, p.expandBody forms scope s = .ok ts s₁ ∧
      p.evaluateBody .nil ts scope s₁ = .ok value s' ∧
      text = if ts = [] then "" else value.print := by
  cases hexpanded : p.expandBody forms scope s with
  | error stop s₁ =>
    rw [runProgram_of_expandBody_error hexpanded] at h
    cases h
  | ok ts s₁ =>
    by_cases hleft : ts = []
    · subst hleft
      rw [runProgram_of_expandBody_nil hexpanded] at h
      cases h
      exact ⟨[], s', .nil, rfl, rfl, (if_pos rfl).symm⟩
    · rw [runProgram_of_expandBody hexpanded hleft] at h
      obtain ⟨value, s₂, hvalue, hprint⟩ := Action.exists_of_bind_ok h
      obtain ⟨htext, rfl⟩ := eq_print_of_print hprint
      exact ⟨ts, s₁, value, rfl, hvalue, htext.trans (if_neg hleft).symm⟩

end Rows

/-! ## The result -/

/-- How a run comes by its text. The prelude and then the program are expanded;
    then what is left of the prelude is evaluated, with `last` as its last
    value. If forms of the program are left, the text is the printed value of
    the last one of them, evaluated after the others. If none is left, it is the
    printed value of the prelude, or nothing if no form is left there either. -/
theorem result_of_run [Host.Platform] {l : Limits} {session : Session} {program text : String}
    (hrun : (session.run l program).1 = .ok text) :
    ∃ forms introduced left s₁ s₂ last s₃,
      Term.parseWithin l.depth program = .ok forms ∧
      l.passes.expandBody session.prelude rootScope session.initial = .ok introduced s₁ ∧
      l.passes.expandBody forms rootScope s₁ = .ok left s₂ ∧
      l.passes.evaluateBody .nil introduced rootScope s₂ = .ok last s₃ ∧
      (∀ others form, left = others ++ [form] → ∃ previous s₄ value s₅,
        l.passes.evaluateBody last others rootScope s₃ = .ok previous s₄ ∧
        l.passes.evaluate form rootScope s₄ = .ok value s₅ ∧ text = value.print) ∧
      (left = [] → text = if introduced = [] then "" else last.print) := by
  unfold Session.run at hrun
  cases hforms : Term.parseWithin l.depth program with
  | error stop =>
    rw [hforms] at hrun
    cases hrun
  | ok forms =>
    rw [hforms] at hrun
    dsimp only at hrun
    cases hends : runProgram l.passes (session.prelude ++ forms) rootScope session.initial with
    | error stop s =>
      rw [hends] at hrun
      cases hrun
    | ok result s =>
      rw [hends] at hrun
      cases hrun
      obtain ⟨ts, s₂, value, hexpanded, hvalue, htext⟩ := result_of_runProgram hends
      -- Both rows, of expanding and of evaluating, are cut where the program begins.
      rw [expandBody_append] at hexpanded
      obtain ⟨introduced, s₁, hintroduced, hrest⟩ := Action.exists_of_bind_ok hexpanded
      obtain ⟨left, s₂', hleft, hjoined⟩ := Action.exists_of_bind_ok hrest
      cases hjoined
      rw [evaluateBody_append] at hvalue
      obtain ⟨last, s₃, hlast, hown⟩ := Action.exists_of_bind_ok hvalue
      refine ⟨forms, introduced, left, s₁, s₂, last, s₃, rfl, hintroduced, hleft, hlast, ?_, ?_⟩
      · rintro others form rfl
        obtain ⟨previous, s₄, hothers, hform⟩ := evaluateBody_concat hown
        refine ⟨previous, s₄, value, s, hothers, hform, htext.trans (if_neg ?_)⟩
        simp
      · rintro rfl
        cases hown
        rw [htext, List.append_nil]

/-- The result of a run that yields a text can be computed. -/
theorem eq_ok_of_toOption {result : Except Stop String} {text : String}
    (h : result.toOption = some text) : result = .ok text := by
  cases result with
  | ok text' => exact congrArg Except.ok (Option.some.inj h)
  | error stop => cases h

/-- A prelude with a value, and a program whose last form expands to nil. -/
theorem result_of_run_read :
    let session : Session := ⟨[.str "a"], Console.ofLines ["b"], 0, 0⟩
    let program := "(print \"c\") (read) nil"
    (session.run .standard program).1 = .ok "\"b\"" ∧
      ∃ forms introduced left s₁ s₂ last s₃,
        Term.parseWithin Limits.standard.depth program = .ok forms ∧
        Limits.standard.passes.expandBody session.prelude rootScope session.initial =
          .ok introduced s₁ ∧
        Limits.standard.passes.expandBody forms rootScope s₁ = .ok left s₂ ∧
        Limits.standard.passes.evaluateBody .nil introduced rootScope s₂ = .ok last s₃ ∧
        (∀ others form, left = others ++ [form] → ∃ previous s₄ value s₅,
          Limits.standard.passes.evaluateBody last others rootScope s₃ = .ok previous s₄ ∧
          Limits.standard.passes.evaluate form rootScope s₄ = .ok value s₅ ∧
          "\"b\"" = value.print) ∧
        (left = [] → "\"b\"" = if introduced = [] then "" else last.print) := by
  intro session program
  have hrun : (session.run .standard program).1 = .ok "\"b\"" :=
    eq_ok_of_toOption (by decide +kernel)
  exact ⟨hrun, result_of_run hrun⟩

/-- The program is empty, but its result is what the prelude ends in. -/
theorem result_of_empty_program :
    let session : Session := ⟨[.str "a"], Console.ofLines [], 0, 0⟩
    Session.start .standard (some "\"a\"") (Console.ofLines []) = .ok session ∧
      Term.parseWithin Limits.standard.depth "" = .ok [] ∧
      (session.run .standard "").1 = .ok "\"a\"" := by
  intro session
  have hscan : Token.scan "\"a\"" = .ok [⟨.string, some "a", 1⟩] := by decide +kernel
  have hempty : Token.scan "" = .ok [] := by decide +kernel
  refine ⟨?_, Term.parseWithin_of_scan _ hempty, eq_ok_of_toOption (by decide +kernel)⟩
  simp only [Session.start, Term.parseWithin_of_scan _ hscan]
  rfl

end MiniLisp
