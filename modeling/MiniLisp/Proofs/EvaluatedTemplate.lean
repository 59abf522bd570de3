import MiniLisp.Proofs.Exhaustion
import MiniLisp.Proofs.ExpansionEnds
import MiniLisp.Proofs.Quotation
import MiniLisp.Proofs.Serials
import MiniLisp.Proofs.TemplateMacro

/-! # Templates that are evaluated

    Code that builds a template is evaluated to the template with all its atoms
    still quoted. Evaluating that value as code expands it once, which takes off
    the quotes and does nothing more. So the template is evaluated as it stands:
    a call in it is a call, but a special form in it has not been expanded, and
    evaluation leaves it as it is.

    A template that calls no special form is its own expansion. For such a one
    it makes no difference whether it is evaluated as a template or by itself,
    up to the serial number of the function that stands for the evaluation.

    * **`expand_evalTemplate`** and **`call_evaluateValue`** — the code for a
      template, and what is done with its value;
    * **`evaluateValue_template`** — what evaluating a template comes to;
    * **`ends_template`** — templates that call no special form;
    * **`template_is_evaluated_raw`** — both, within any limits. -/

namespace MiniLisp

/-! ## Templates without unquoted parts -/

theorem Term.isSymbol_eq_false {t : Term} {name : String} (h : name ∉ t.symbols) :
    t.isSymbol name = false := by
  cases t with
  | sym other line =>
    have hne : other ≠ name := by
      rintro rfl
      exact h List.mem_cons_self
    simp [isSymbol, symbolName?, hne]
  | _ => rfl

namespace Template

variable {t : Term}

theorem isTemplate_of_compact (hcompact : t.Compact)
    (hunquote : SpecialForm.unquote.name ∉ t.symbols)
    (hsplice : SpecialForm.unquoteSplice.name ∉ t.symbols) : IsTemplate [] t := by
  induction hcompact with
  | bool | str | num | sym | function => exact .leaf rfl
  | @list items nonempty _ ih =>
    have hitem : ∀ {name}, name ∉ (Term.list items).symbols → ∀ u ∈ items, name ∉ u.symbols :=
      fun hname u hu hmem => hname (Term.symbols_subset_symbolsAll hu hmem)
    cases items with
    | nil => exact absurd rfl nonempty
    | cons head rest =>
      have hhead := fun {name} (hname : name ∉ (Term.list (head :: rest)).symbols) =>
        Term.isSymbol_eq_false (hitem hname head List.mem_cons_self)
      refine .list (hhead hunquote) (hhead hsplice) fun u hu => ?_
      exact ih u hu (hitem hunquote u hu) (hitem hsplice u hu)

/-- There is nothing to fill in. -/
theorem fill_eq_self (value : String → Term) (ht : IsTemplate [] t) : fill value t = t := by
  induction ht with
  | leaf hleaf => exact fill_leaf value hleaf
  | unquoted hname => cases hname
  | list hunquote _ _ ih =>
    rw [fill_list value hunquote, List.map_congr_left ih, List.map_id']

end Template

/-! ## Evaluating a template -/

/-- The form that evaluates a template. -/
def evalTemplate (line line' : Nat) (t : Term) : Term :=
  .list [.sym SpecialForm.evaluate.name line, .list [.sym SpecialForm.quasiquote.name line', t]]

section Evaluate

variable [Host.Platform] (turns : Nat) {t : Term} {scope : ScopeId} {s : State}

/-- The template becomes code that builds it. -/
theorem expand_quasiquote (hmacros : s.macros = MacroTable.special) (ht : Template.IsTemplate [] t)
    {n : Nat} (hn : t.depth < n) (line : Nat) :
    ∃ code, (passes turns (n + 1)).expand (.list [.sym SpecialForm.quasiquote.name line, t]) scope
        s = .ok code s ∧ Template.Builds t code := by
  have hm : s.macros.get? SpecialForm.quasiquote.name =
      some ⟨SpecialForm.quasiquote.name, .special .quasiquote⟩ :=
    hmacros ▸ MacroTable.get?_special .quasiquote
  have hne : t ≠ .nil := by
    rintro rfl
    cases ht with
    | leaf hleaf => cases hleaf
  obtain ⟨k, rfl⟩ := Nat.exists_eq_succ_of_ne_zero (Nat.ne_zero_of_lt hn)
  have hsym : ∀ name l,
      (passes turns (k + 1)).expand (.sym name l) scope s = .ok (.sym name l) s := fun _ _ => rfl
  obtain ⟨code, hbuild, hbuilds⟩ := Template.build_template ht hsym
  refine ⟨code, ?_, hbuilds⟩
  have hroom : Template.demandRoom (passes turns (k + 1)) t s = .ok () s := by
    rw [Template.demandRoom, room_passes, if_pos hn.le]
    rfl
  rw [Template.expand_macro_call turns hm (by simpa using hne)]
  show (Template.demandRoom _ t >>= fun _ => Template.build _ scope t) s = _
  rw [Action.bind_ok hroom, hbuild]

/-- The whole form becomes the call of a function on that code. -/
theorem expand_evalTemplate (hmacros : s.macros = MacroTable.special)
    (ht : Template.IsTemplate [] t) {n : Nat} (hn : t.depth < n) (line line' : Nat) :
    ∃ code, (passes turns (n + 2)).expand (evalTemplate line line' t) scope s =
        .ok (.list [.function ⟨s.functions, none, none, 0⟩ .evaluateValue, code])
          { s with functions := s.functions + 1 } ∧ Template.Builds t code := by
  let s₁ : State := { s with functions := s.functions + 1 }
  have hm : s.macros.get? SpecialForm.evaluate.name =
      some ⟨SpecialForm.evaluate.name, .special .evaluate⟩ :=
    hmacros ▸ MacroTable.get?_special .evaluate
  -- The function is made before the template is expanded.
  have hmake : Action.newStep .evaluateValue s =
      .ok (.function ⟨s.functions, none, none, 0⟩ .evaluateValue) s₁ := rfl
  obtain ⟨code, hcode, hbuilds⟩ := expand_quasiquote turns (s := s₁) hmacros ht hn line'
  refine ⟨code, ?_, hbuilds⟩
  rw [evalTemplate, Template.expand_macro_call turns hm (by simp)]
  show (Action.newStep .evaluateValue >>= fun step => (passes turns (n + 1)).expand _ scope >>=
    fun argument => pure (Term.list [step, argument])) s = _
  rw [Action.bind_ok hmake, Action.bind_ok hcode]
  rfl

/-- The function takes the quotes off and evaluates what is left. -/
theorem call_evaluateValue (hplain : Template.Plain scope s) (ht : Template.IsTemplate [] t)
    {value : String → Term} {quoted : Term} (hquoted : Template.Quoted value t quoted) {n : Nat}
    (hn : t.depth < n) :
    (passes turns (n + 1)).call .evaluateValue [quoted] scope s =
      (passes turns n).evaluate t scope s := by
  have hexpand := Template.expand_quoted turns hplain (List.forall_mem_nil _) ht hquoted hn
  rw [Template.fill_eq_self value ht] at hexpand
  exact Action.bind_ok hexpand

/-- Evaluating a template comes to evaluating it as it stands, without an
    expansion, when one function more has been made. -/
theorem evaluateValue_template (hmacros : s.macros = MacroTable.special)
    (hplain : Template.Plain scope s) (ht : Template.IsTemplate [] t) {n : Nat}
    (hn : t.depth < n) (line line' : Nat) :
    Evaluation.evaluateValue (passes turns (n + 2)) (evalTemplate line line' t) scope s =
      (passes turns n).evaluate t scope { s with functions := s.functions + 1 } := by
  let s₁ : State := { s with functions := s.functions + 1 }
  have hplain₁ : Template.Plain scope s₁ := ⟨hplain.1, hplain.2, hplain.3⟩
  obtain ⟨code, hexpand, hbuilds⟩ := expand_evalTemplate turns hmacros ht hn line line'
  -- No name is unquoted, so the code needs no values.
  let noValue : String → Term := fun _ => .nil
  have hnone : ∀ name ∈ [], s₁.scopes.lookup scope name = some (noValue name).quoted :=
    List.forall_mem_nil _
  obtain ⟨quoted, hquoted, hcode⟩ :=
    Template.evaluate_code turns hplain₁ hnone ht hbuilds (Nat.lt_succ_of_lt hn)
  let step : Term := .function ⟨s.functions, none, none, 0⟩ .evaluateValue
  have hvalues : (passes turns (n + 1)).evaluateAll [step, code] scope s₁ =
      .ok [step, quoted] s₁ :=
    Action.mapM_of_forall₂ (.cons rfl (.cons hcode .nil))
  have hcall : (Term.list [step, code]).standsForItself s₁.macros = false := rfl
  rw [Evaluation.evaluateValue, Action.bind_ok hexpand, evaluate_call turns (n + 1) hcall,
    Action.bind_ok hvalues]
  exact call_evaluateValue turns hplain₁ ht hquoted hn

/-- A template that calls no special form ends like the term itself. -/
theorem ends_template (hmacros : s.macros = MacroTable.special) (hplain : Template.Plain scope s)
    (ht : Template.IsTemplate [] t) (hcompact : t.Compact) (hcalls : t.CallsNoForm)
    (hs : s.Numbered) (hmade : t.MadeBefore s.functions) {n : Nat} (hn : t.depth < n)
    (line line' : Nat) :
    (Pairing.twins (.later s.functions)).Ends (Term.Like (.later s.functions))
      (Evaluation.evaluateValue (passes turns n) t scope s)
      (Evaluation.evaluateValue (passes turns (n + 2)) (evalTemplate line line' t) scope s) := by
  have hself := expand_callsNoForm turns hcalls hcompact hn scope hmacros
  have hterm : Evaluation.evaluateValue (passes turns n) t scope s =
      (passes turns n).evaluate t scope s := Action.bind_ok hself
  rw [hterm, evaluateValue_template turns hmacros hplain ht hn]
  exact Visit.ends_later (v := .evaluate t scope) hs hmade turns n

end Evaluate

/-- Evaluating a template without unquoted parts comes to evaluating the term as
    it stands. So one that calls a special form is its own value. One in which no
    special form is called ends like the term itself whenever both end: in the
    same value or error and with the same effects, up to the serial numbers of
    functions. -/
theorem template_is_evaluated_raw [Host.Platform] {t : Term} (hcompact : t.Compact)
    (hunquote : ∀ name ∈ ["unquote", "unquote-splice"], name ∉ t.symbols) {s : State}
    (hmacros : s.macros = MacroTable.special) {scope : ScopeId} {tag : FunctionTag}
    (hlist : s.scopes.lookup scope "list" = some (.function tag (.builtin .list)))
    (line line' : Nat) :
    let form := Term.list [.sym "eval" line, .list [.sym "quasiquote" line', t]]
    (∀ turns n, t.depth < n → Evaluation.evaluateValue (passes turns (n + 2)) form scope s =
      (passes turns n).evaluate t scope { s with functions := s.functions + 1 }) ∧
    (∀ (called : SpecialForm) l arguments, t = .list (.sym called.name l :: arguments) →
      ∀ turns n, t.depth < n → Evaluation.evaluateValue (passes turns (n + 2)) form scope s =
        .ok t { s with functions := s.functions + 1 }) ∧
    (t.CallsNoForm → s.Numbered → t.MadeBefore s.functions → ∀ l l' : Limits,
      MetLimit ((Evaluation.evaluateValue l.passes t scope).ending s) = false →
      MetLimit ((Evaluation.evaluateValue l'.passes form scope).ending s) = false →
      (Pairing.twins (.later s.functions)).Ends (Term.Like (.later s.functions))
        (Evaluation.evaluateValue l.passes t scope s)
        (Evaluation.evaluateValue l'.passes form scope s)) := by
  intro form
  have hplain := Template.plain_of_special hmacros hlist
  have ht := Template.isTemplate_of_compact hcompact (hunquote "unquote" (by simp))
    (hunquote "unquote-splice" (by simp))
  refine ⟨?_, ?_, ?_⟩
  · intro turns n hn
    exact evaluateValue_template turns hmacros hplain ht hn line line'
  · rintro called l arguments rfl turns n hn
    obtain ⟨k, rfl⟩ := Nat.exists_eq_succ_of_ne_zero (Nat.ne_zero_of_lt hn)
    have hself : (Term.list (.sym called.name l :: arguments)).standsForItself s.macros = true := by
      rw [Term.standsForItself, hmacros, MacroTable.get?_special]
      rfl
    exact (evaluateValue_template turns hmacros hplain ht hn line line').trans
      (evaluate_standsForItself turns k hself)
  · intro hcalls hs hmade l l' hends hends'
    -- Both runs are the same within limits that are high enough for both.
    let n := max (max l.depth l'.depth) (t.depth + 1)
    let turns := max l.turns l'.turns
    obtain ⟨hle, hle', hn⟩ : l.depth ≤ n ∧ l'.depth ≤ n + 2 ∧ t.depth < n := by omega
    have hturns : l.turns ≤ turns := Nat.le_max_left _ _
    have hturns' : l'.turns ≤ turns := Nat.le_max_right _ _
    rw [← evaluateValue_eq_of_higher hle hturns t scope hends,
      ← evaluateValue_eq_of_higher hle' hturns' form scope hends']
    exact ends_template turns hmacros hplain ht hcompact hcalls hs hmade hn line line'

/-- A template that calls a builtin. -/
theorem template_is_evaluated_raw_concat :
    let s := State.root (Console.ofLines []) 0 0
    let t := Term.list [.sym "concat" 1, .str "a", .str "b"]
    let form := Term.list [.sym "eval" 1, .list [.sym "quasiquote" 1, t]]
    t.Compact ∧ t.CallsNoForm ∧ (∀ name ∈ ["unquote", "unquote-splice"], name ∉ t.symbols) ∧
      s.macros = MacroTable.special ∧
      s.scopes.lookup rootScope "list" = some Builtin.list.function ∧
      s.Numbered ∧ t.MadeBefore s.functions ∧
      Evaluation.evaluateValue (passes 1 4) form rootScope s =
        .ok (.str "ab") { s with functions := s.functions + 1 } ∧
      (Pairing.twins (.later s.functions)).Ends (Term.Like (.later s.functions))
        (Evaluation.evaluateValue (passes 1 3) t rootScope s)
        (Evaluation.evaluateValue (passes 1 4) form rootScope s) := by
  intro s t form
  have hatoms : ∀ u ∈ [Term.sym "concat" 1, .str "a", .str "b"],
      u.Compact ∧ u.CallsNoForm ∧ u.MadeBefore s.functions := by
    refine List.forall_mem_cons.2 ⟨⟨.sym _ _, .sym _ _, .sym _ _⟩, ?_⟩
    refine List.forall_mem_cons.2 ⟨⟨.str _, .str _, .str _⟩, ?_⟩
    exact List.forall_mem_singleton.2 ⟨.str _, .str _, .str _⟩
  have hhead : ∀ (called : SpecialForm) line rest,
      [Term.sym "concat" 1, .str "a", .str "b"] ≠ .sym called.name line :: rest := by
    rintro called line rest heq
    obtain ⟨hhead, -⟩ := List.cons.inj heq
    exact called.name_ne_builtin .concat (Term.sym.inj hhead).1.symm
  have hcompact : t.Compact := .list nofun fun u hu => (hatoms u hu).1
  have hcalls : t.CallsNoForm := .list hhead fun u hu => (hatoms u hu).2.1
  have hmade : t.MadeBefore s.functions := .list fun u hu => (hatoms u hu).2.2
  have hunquote : ∀ name ∈ ["unquote", "unquote-splice"], name ∉ t.symbols := by decide
  have hlist := State.lookup_builtin (Console.ofLines []) 0 0 .list
  have hnumbered := State.numbered_root (Console.ofLines []) 0 0
  obtain ⟨hraw, -, hends⟩ := template_is_evaluated_raw hcompact hunquote (s := s) rfl hlist 1 1
  refine ⟨hcompact, hcalls, hunquote, rfl, hlist, hnumbered, hmade, ?_, ?_⟩
  · exact (hraw 1 2 (by decide)).trans rfl
  · exact hends hcalls hnumbered hmade ⟨3, 1⟩ ⟨4, 1⟩ rfl rfl

/-- A choice in a template is its own value, while the choice itself is made. -/
theorem evaluateValue_template_branch :
    let s := State.root (Console.ofLines []) 0 0
    let t := Term.list [.sym "if" 1, .bool true, .num 1, .num 2]
    let form := Term.list [.sym "eval" 1, .list [.sym "quasiquote" 1, t]]
    t.Compact ∧
      (∀ name ∈ ["quote", "quasiquote", "unquote", "unquote-splice", "defmacro"],
        name ∉ t.symbols) ∧
      s.macros = MacroTable.special ∧
      s.scopes.lookup rootScope "list" = some Builtin.list.function ∧
      Evaluation.evaluateValue (passes 1 9) form rootScope s =
        .ok t { s with functions := s.functions + 1 } ∧
      Evaluation.evaluateValue (passes 1 9) t rootScope s =
        .ok (.num 1) { s with branches := 1, functions := s.functions + 1 } := by
  intro s t form
  have hitems : ∀ u ∈ [Term.sym "if" 1, .bool true, .num 1, .num 2], u.Compact := by
    refine List.forall_mem_cons.2 ⟨.sym _ _, List.forall_mem_cons.2 ⟨.bool _, ?_⟩⟩
    exact List.forall_mem_cons.2 ⟨.num _, List.forall_mem_singleton.2 (.num _)⟩
  have hlist := State.lookup_builtin (Console.ofLines []) 0 0 .list
  exact ⟨.list nofun hitems, by decide, rfl, hlist, rfl, rfl⟩

end MiniLisp
