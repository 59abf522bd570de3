import MiniLisp.Proofs.RootScope
import MiniLisp.Proofs.Template

/-! # Quotation

    A quoted term is protected from expansion only. The special form `quote`
    expands to the term itself, as it is, and nothing is left of the quote that
    evaluation could see. So evaluation meets the term as code: it leaves a term
    alone that stands for itself, looks up a symbol and calls what a list begins
    with.

    * **`Term.standsForItself`** — the terms for which this makes no difference;
    * **`evaluate_standsForItself`**, **`evaluate_symbol`**, **`evaluate_call`** —
      the three ways to be evaluated;
    * **`quoted_is_code`** — what becomes of a quoted term. -/

namespace MiniLisp

/-- Whether evaluation leaves a term as it is: an atom other than a symbol, the
    empty list, or a list that still calls a macro. -/
def Term.standsForItself (macros : MacroTable) : Term → Bool
  | .sym _ _ => false
  | .list [] => true
  | .list (.sym name _ :: _) => (macros.get? name).isSome
  | .list (_ :: _) => false
  | _ => true

section Evaluate

variable [Host.Platform] (turns n : Nat) {t : Term} {scope : ScopeId} {s : State}

theorem evaluate_standsForItself (h : t.standsForItself s.macros = true) :
    (passes turns (n + 1)).evaluate t scope s = .ok t s := by
  cases t with
  | sym name line => cases h
  | list items =>
    cases items with
    | nil => rfl
    | cons head rest =>
      cases head with
      | sym name line =>
        have hcalls : Evaluation.callsMacro (.sym name line :: rest) s = .ok true s := by
          rw [Template.callsMacro_sym]
          exact congrArg (EStateM.Result.ok · s) h
        rw [evaluate_passes, Evaluation.step, Action.bind_ok hcalls]
        rfl
      | _ => cases h
  | _ => rfl

/-- A symbol is looked up. -/
theorem evaluate_symbol_eq (name : String) (line : Nat) :
    (passes turns (n + 1)).evaluate (.sym name line) scope s =
      Evaluation.symbolValue (passes turns n) name line scope s :=
  rfl

/-- So is a symbol that it is bound to, and so on. This changes nothing, and what
    is found is neither nil nor a symbol. -/
theorem evaluate_symbol (depth : Nat) (name : String) (line : Nat) :
    ∃ result, (passes turns depth).evaluate (.sym name line) scope s =
        Action.ofResult result s ∧
      ∀ value, result = .ok value → value ≠ .nil ∧ value.symbolName? = none := by
  -- Each further symbol takes one level of the depth.
  induction depth generalizing name line with
  | zero =>
    refine ⟨.error .exhausted, rfl, ?_⟩
    rintro value ⟨⟩
  | succ depth ih =>
    have hlookup : Action.lookup scope name s = .ok (s.scopes.lookup scope name) s := rfl
    rw [evaluate_symbol_eq, Evaluation.symbolValue, Action.bind_ok hlookup]
    have hunbound : ∀ value, (.error (.error (.unboundSymbol name line)) : Except Stop Term) =
        .ok value → value ≠ .nil ∧ value.symbolName? = none := by
      rintro value ⟨⟩
    cases s.scopes.lookup scope name with
    | none => exact ⟨_, rfl, hunbound⟩
    | some bound =>
      cases bound with
      | nil => exact ⟨_, rfl, hunbound⟩
      | sym other l => exact ih other l
      | _ =>
        refine ⟨.ok _, rfl, ?_⟩
        rintro value ⟨⟩
        exact ⟨by simp, rfl⟩

/-- Any other list is a call. -/
theorem evaluate_call {items : List Term}
    (h : (Term.list items).standsForItself s.macros = false) :
    (passes turns (n + 1)).evaluate (.list items) scope s = (do
      let values ← (passes turns n).evaluateAll items scope
      Evaluation.applyValues (passes turns n) (items.headD .nil).line values scope) s := by
  cases items with
  | nil => cases h
  | cons head rest =>
    have hcalls : Evaluation.callsMacro (head :: rest) s = .ok false s := by
      cases head with
      | sym name line =>
        rw [Template.callsMacro_sym]
        exact congrArg (EStateM.Result.ok · s) h
      | _ => rfl
    rw [evaluate_passes, Evaluation.step, Action.bind_ok hcalls]
    rfl

end Evaluate

/-- Where `quote` is the special form, expanding a quoted term other than nil
    yields the term itself, neither evaluated nor expanded, and changes nothing.
    Evaluating what was expanded is then evaluating the term: a term that stands
    for itself comes out again, and nothing changes; a symbol has the value that
    is looked up for it, which changes nothing but never yields a symbol; any
    other list is a call. -/
theorem quoted_is_code [Host.Platform] {t : Term} (ht : t ≠ .nil) {s : State}
    (hquote : ∃ m, s.macros.get? SpecialForm.quote.name = some m ∧ m.expander = .special .quote)
    (turns n line : Nat) (scope : ScopeId) :
    let p := passes turns (n + 1)
    let form := Term.list [.sym SpecialForm.quote.name line, t]
    p.expand form scope s = .ok t s ∧
      Evaluation.evaluateValue p form scope s = p.evaluate t scope s ∧
      (t.standsForItself s.macros = true → p.evaluate t scope s = .ok t s) ∧
      (∀ name l, t = .sym name l →
        p.evaluate t scope s = Evaluation.symbolValue (passes turns n) name l scope s ∧
        ∃ result, p.evaluate t scope s = Action.ofResult result s ∧
          ∀ value, result = .ok value → value ≠ .nil ∧ value.symbolName? = none) ∧
      (∀ items, t = .list items → t.standsForItself s.macros = false →
        p.evaluate t scope s = (do
          let values ← (passes turns n).evaluateAll items scope
          Evaluation.applyValues (passes turns n) (items.headD .nil).line values scope) s) := by
  intro p form
  have hexpand : p.expand form scope s = .ok t s := Template.expand_quote turns hquote ht n line
  have hvalue : Evaluation.evaluateValue p form scope s = p.evaluate t scope s :=
    Action.bind_ok hexpand
  refine ⟨hexpand, hvalue, evaluate_standsForItself turns n, ?_, ?_⟩
  · rintro name l rfl
    exact ⟨evaluate_symbol_eq turns n name l, evaluate_symbol turns (n + 1) name l⟩
  · rintro items rfl hcall
    exact evaluate_call turns n hcall

/-- A quoted list that calls a macro is left as it is. -/
theorem quoted_is_code_macro :
    let s := State.root (Console.ofLines []) 0 0
    let t := Term.list [.sym "if" 1, .sym "a" 1]
    t ≠ .nil ∧
      (∃ m, s.macros.get? SpecialForm.quote.name = some m ∧ m.expander = .special .quote) ∧
      (passes 1 1).expand (.list [.sym "quote" 1, t]) rootScope s = .ok t s ∧
      Evaluation.evaluateValue (passes 1 1) (.list [.sym "quote" 1, t]) rootScope s = .ok t s := by
  intro s t
  have hne : t ≠ .nil := nofun
  have hquote : ∃ m, s.macros.get? SpecialForm.quote.name = some m ∧
      m.expander = .special .quote := ⟨_, MacroTable.get?_special .quote, rfl⟩
  have hself : t.standsForItself s.macros = true := by
    have hif : s.macros.get? "if" = some _ := MacroTable.get?_special .branch
    simp only [t, Term.standsForItself, hif, Option.isSome_some]
  obtain ⟨hexpand, hvalue, hstays, -, -⟩ := quoted_is_code hne hquote 1 0 1 rootScope
  exact ⟨hne, hquote, hexpand, hvalue.trans (hstays hself)⟩

/-- A quoted symbol is looked up, and here it is not bound. -/
theorem evaluateValue_quoted_symbol :
    let s := State.root (Console.ofLines []) 0 0
    let t := Term.sym "a" 1
    t ≠ .nil ∧
      (∃ m, s.macros.get? SpecialForm.quote.name = some m ∧ m.expander = .special .quote) ∧
      Evaluation.evaluateValue (passes 1 9) (.list [.sym SpecialForm.quote.name 1, t]) rootScope s =
        .error (.error (.unboundSymbol "a" 1)) s := by
  intro s t
  have hquote : ∃ m, s.macros.get? SpecialForm.quote.name = some m ∧
      m.expander = .special .quote := ⟨_, MacroTable.get?_special .quote, rfl⟩
  have hne : t ≠ .nil := nofun
  have hexpand : (passes 1 9).expand (.list [.sym SpecialForm.quote.name 1, t]) rootScope s =
      .ok t s := Template.expand_quote 1 hquote hne 8 1
  refine ⟨hne, hquote, ?_⟩
  rw [Evaluation.evaluateValue, Action.bind_ok hexpand]
  rfl

end MiniLisp
