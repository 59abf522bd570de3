import MiniLisp.Proofs.ReadTerms
import MiniLisp.Proofs.RootScope
import MiniLisp.Proofs.Template

/-! # Expanded forms

    An expansion is done once and for all: no macro call is left in the form
    that it yields, nor in what the functions of that form hold back. So such
    a form is expanded to itself, unless nil or an empty list in it is dropped.

    * **`Term.MacroFree`** and **`Term.CallsNoForm`** — terms in which nothing
      calls a special form, with and without what functions hold back;
    * **`Term.Compact`** — terms from which expansion drops nothing;
    * **`expand_callsNoForm`** and **`expand_eq_self`** — such terms are expanded
      to themselves;
    * **`Term.Tidy`** — the terms whose expansions are such terms, which is
      shown in `MiniLisp.Proofs.Expanded.Forms`. -/

namespace MiniLisp

/-- The terms that a function holds back until it is called. -/
def Code.held : Code → List Term
  | .closure _ _ body _ => body
  | .makeClosure _ _ body _ _ _ => body
  | .branch thenForm elseForm => [thenForm, elseForm]
  | .loop condition body => condition :: body
  | .guarded body fallback => [body, fallback]
  | .builtin _ | .define _ | .assign _ | .lastValue | .leaveLoop | .evaluateValue | .readText
  | .throwValue | .host _ => []

namespace Term

/-- No list is headed by the name of a special form, neither in the term nor in
    what its functions hold back. -/
inductive MacroFree : Term → Prop where
  | bool (value : Bool) : MacroFree (.bool value)
  | nil : MacroFree .nil
  | str (text : String) : MacroFree (.str text)
  | num (value : Float) : MacroFree (.num value)
  | sym (name : String) (line : Nat) : MacroFree (.sym name line)
  | list {items : List Term}
      (head : ∀ (form : SpecialForm) line rest, items ≠ .sym form.name line :: rest)
      (each : ∀ t ∈ items, t.MacroFree) : MacroFree (.list items)
  | function {tag : FunctionTag} {code : Code} (held : ∀ t ∈ code.held, t.MacroFree) :
      MacroFree (.function tag code)

/-- No list in the term is headed by the name of a special form. What its
    functions hold back does not matter. -/
inductive CallsNoForm : Term → Prop where
  | bool (value : Bool) : CallsNoForm (.bool value)
  | nil : CallsNoForm .nil
  | str (text : String) : CallsNoForm (.str text)
  | num (value : Float) : CallsNoForm (.num value)
  | sym (name : String) (line : Nat) : CallsNoForm (.sym name line)
  | list {items : List Term}
      (head : ∀ (form : SpecialForm) line rest, items ≠ .sym form.name line :: rest)
      (each : ∀ t ∈ items, t.CallsNoForm) : CallsNoForm (.list items)
  | function (tag : FunctionTag) (code : Code) : CallsNoForm (.function tag code)

theorem MacroFree.callsNoForm {t : Term} (h : t.MacroFree) : t.CallsNoForm := by
  induction h with
  | bool value => exact .bool value
  | nil => exact .nil
  | str text => exact .str text
  | num value => exact .num value
  | sym name line => exact .sym name line
  | list head _ ih => exact .list head ih
  | function => exact .function _ _

/-- Neither nil nor an empty list is in the term. What its functions hold back
    does not matter. -/
inductive Compact : Term → Prop where
  | bool (value : Bool) : Compact (.bool value)
  | str (text : String) : Compact (.str text)
  | num (value : Float) : Compact (.num value)
  | sym (name : String) (line : Nat) : Compact (.sym name line)
  | list {items : List Term} (nonempty : items ≠ []) (each : ∀ t ∈ items, t.Compact) :
      Compact (.list items)
  | function (tag : FunctionTag) (code : Code) : Compact (.function tag code)

theorem Compact.ne_nil {t : Term} (h : t.Compact) : t ≠ .nil := by
  rintro rfl
  cases h

end Term

/-! ## Expanding once more -/

/-- A head with a macro in the table of the special forms. -/
theorem macroOf_form (form : SpecialForm) (line : Nat) {s : State}
    (hmacros : s.macros = MacroTable.special) :
    Expansion.macroOf (.sym form.name line) s = .ok (some ⟨form.name, .special form⟩) s := by
  rw [← MacroTable.get?_special form, ← hmacros]
  rfl

/-- A head without a macro in the table of the special forms. -/
theorem macroOf_eq_none {head : Term} (hhead : ∀ (form : SpecialForm) line,
    head ≠ .sym form.name line) {s : State} (hmacros : s.macros = MacroTable.special) :
    Expansion.macroOf head s = .ok none s := by
  cases head with
  | sym name line =>
    have hnone : s.macros.get? name = none := by
      rw [hmacros]
      cases hfound : MacroTable.special.get? name with
      | none => rfl
      | some m =>
        obtain ⟨form, rfl, -⟩ := MacroTable.eq_of_get?_special hfound
        exact absurd rfl (hhead form line)
    show EStateM.Result.ok (s.macros.get? name) s = _
    rw [hnone]
  | bool | nil | str | num | list | function => rfl

/-- Expanding a form that calls no special form, and from which nothing is
    dropped, yields the form itself and changes nothing, if there is a level for
    each list. -/
theorem expand_callsNoForm [Host.Platform] (turns : Nat) {t : Term} (hcalls : t.CallsNoForm)
    (hcompact : t.Compact) {depth : Nat} (hdepth : t.depth < depth) (scope : ScopeId) {s : State}
    (hmacros : s.macros = MacroTable.special) :
    (passes turns depth).expand t scope s = .ok t s := by
  induction hcalls generalizing depth with
  | bool | nil | str | num | sym | function =>
    obtain ⟨n, rfl⟩ := Nat.exists_eq_succ_of_ne_zero (Nat.ne_zero_of_lt hdepth)
    rfl
  | @list items head _ ih =>
    obtain ⟨n, rfl⟩ := Nat.exists_eq_succ_of_ne_zero (Nat.ne_zero_of_lt hdepth)
    -- No item is nil, so none is dropped.
    cases hcompact with
    | list nonempty each =>
      have hall : (passes turns n).expandAll items scope s = .ok items s := by
        refine Action.mapM_of_forall₂ (List.forall₂_same.2 fun t ht => ?_)
        have hlt := Term.depth_lt_of_mem ht
        exact ih t ht (each t ht) (by omega)
      have hkept := Template.filter_of_ne_nil fun t ht => (each t ht).ne_nil
      rw [Nat.succ_eq_add_one, expand_passes, Expansion.step, hkept]
      cases items with
      | nil => exact absurd rfl nonempty
      | cons first rest =>
        -- The list calls no macro, so its items are expanded, each to itself.
        have hfind : Expansion.macroOf first s = .ok none s := by
          refine macroOf_eq_none ?_ hmacros
          rintro form line rfl
          exact head form line rest rfl
        show (Expansion.macroOf first >>= _) s = _
        rw [Action.bind_ok hfind]
        show ((passes turns n).expandAll (first :: rest) scope >>= _) s = _
        rw [Action.bind_ok hall]
        rfl

/-- Expanding a form that is expanded, and from which nothing is dropped, yields
    the form itself and changes nothing, if there is a level for each list. -/
theorem expand_eq_self [Host.Platform]
    (turns : Nat) {u : Term} (hfree : u.MacroFree) (hcompact : u.Compact)
    {depth : Nat} (hdepth : u.depth < depth) (scope : ScopeId) {s : State}
    (hmacros : s.macros = MacroTable.special) :
    (passes turns depth).expand u scope s = .ok u s :=
  expand_callsNoForm turns hfree.callsNoForm hcompact hdepth scope hmacros

/-! ## Terms with tidy expansions -/

/-- Whether a term is a list. -/
def Term.isList : Term → Bool
  | .list _ => true
  | _ => false

/-- The items of a list; those of a form that makes a function without its
    parameter list, which is the first list among its arguments. -/
def besidesParameters : List Term → List Term
  | [] => []
  | head :: arguments =>
      if head.isSymbol SpecialForm.lambda.name || head.isSymbol SpecialForm.namedLambda.name then
        head :: arguments.eraseP Term.isList
      else head :: arguments

/-- There is neither nil nor an empty list in the term, except for parameter
    lists, and each definition has a value. -/
inductive Term.Tidy : Term → Prop where
  | bool (value : Bool) : Tidy (.bool value)
  | str (text : String) : Tidy (.str text)
  | num (value : Float) : Tidy (.num value)
  | sym (name : String) (line : Nat) : Tidy (.sym name line)
  | list {items : List Term} (nonempty : items ≠ [])
      (valued : ∀ line arguments, items = .sym SpecialForm.define.name line :: arguments →
        2 ≤ arguments.length)
      (each : ∀ t ∈ besidesParameters items, t.Tidy) : Tidy (.list items)
  | function (tag : FunctionTag) (code : Code) : Tidy (.function tag code)

@[simp] theorem Term.tidy_sym (name : String) (line : Nat) : (Term.sym name line).Tidy :=
  .sym name line

@[simp] theorem Term.tidy_str (text : String) : (Term.str text).Tidy :=
  .str text

theorem Term.tidy_list {items : List Term} :
    (Term.list items).Tidy ↔ items ≠ [] ∧
      (∀ line arguments, items = .sym SpecialForm.define.name line :: arguments →
        2 ≤ arguments.length) ∧
      ∀ t ∈ besidesParameters items, t.Tidy := by
  constructor
  · intro h
    cases h with
    | list nonempty valued each => exact ⟨nonempty, valued, each⟩
  · rintro ⟨nonempty, valued, each⟩
    exact .list nonempty valued each

end MiniLisp
