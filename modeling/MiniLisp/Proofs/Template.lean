import Mathlib.Data.List.Forall2
import MiniLisp.Evaluation

/-! # What becomes of a template

    A template with quoted values for its unquoted names goes through four
    passes until it is filled in. Each pass has its lemma, by induction on the
    template:

    * **`build_template`** — a template becomes code that builds it;
    * **`unfold_code`** — such code is left alone if it was written by hand;
    * **`evaluate_code`** — the value of the code is the filled template, with
      every part in it still quoted, since quoted forms have no other value;
    * **`expand_quoted`** — expanding that value takes the quotes off. -/

namespace MiniLisp

/-! ## Lists -/

/-- What follows from a relation for the items of a list may use that they are
    items of the list. -/
theorem forall₂_of_mem {α β : Type} {R R' : α → β → Prop} {as : List α} {bs : List β}
    (h : List.Forall₂ R as bs) (himp : ∀ a ∈ as, ∀ b, R a b → R' a b) :
    List.Forall₂ R' as bs :=
  ((List.forall₂_and_left as bs).2 ⟨himp, h⟩).imp fun _ b hab => hab.1 b hab.2

/-- Actions that change nothing, one after the other. -/
theorem Action.mapM_of_forall₂ {α β : Type} {f : α → Action β} {as : List α} {bs : List β}
    {s : State} (h : List.Forall₂ (fun a b => f a s = .ok b s) as bs) :
    as.mapM f s = .ok bs s := by
  induction h with
  | nil => rfl
  | cons hab _ ih =>
    rw [List.mapM_cons, bind_ok hab, bind_ok ih]
    rfl

namespace Term

/-- An atom other than nil, or the empty list: what stands for itself in a
    template. -/
def isLeaf : Term → Bool
  | .nil => false
  | .list items => items.isEmpty
  | _ => true

theorem depth_lt_of_mem {t : Term} {items : List Term} (h : t ∈ items) :
    t.depth < (list items).depth := by
  induction items with
  | nil => cases h
  | cons head rest ih =>
    simp only [depth, depthList] at ih ⊢
    rcases List.mem_cons.1 h with rfl | hrest
    · omega
    · have hlt := ih hrest
      omega

theorem ne_nil_of_isLeaf {t : Term} (h : t.isLeaf = true) : t ≠ .nil := by
  rintro rfl
  cases h

end Term

namespace Template

/-! ## Templates and what is put into them -/

/-- The name that a list of the form `(unquote name)` unquotes. -/
def unquotedName? : List Term → Option String
  | [head, .sym name _] => if head.isSymbol SpecialForm.unquote.name then some name else none
  | _ => none

mutual

/-- A template with values put in for its unquoted names. -/
def fill (value : String → Term) : Term → Term
  | .list items =>
      match unquotedName? items with
      | some name => value name
      | none => .list (fillAll value items)
  | t => t

/-- Several templates with values put in for their unquoted names. -/
def fillAll (value : String → Term) : List Term → List Term
  | [] => []
  | t :: rest => fill value t :: fillAll value rest

end

/-- A template in which nothing but names from a list is unquoted, and which
    holds no nil. -/
inductive IsTemplate (names : List String) : Term → Prop where
  | leaf {t : Term} (h : t.isLeaf = true) : IsTemplate names t
  | unquoted {name : String} {headLine line : Nat} (h : name ∈ names) :
      IsTemplate names (.list [.sym SpecialForm.unquote.name headLine, .sym name line])
  | list {head : Term} {rest : List Term}
      (unquote : head.isSymbol SpecialForm.unquote.name = false)
      (splice : head.isSymbol SpecialForm.unquoteSplice.name = false)
      (items : ∀ t ∈ head :: rest, IsTemplate names t) : IsTemplate names (.list (head :: rest))

/-- The code builds the template: it quotes what stands for itself, makes a
    list of each list and holds the unquoted names as they are. -/
inductive Builds : Term → Term → Prop where
  | leaf {t : Term} {line : Nat} (h : t.isLeaf = true) :
      Builds t (.list [.sym SpecialForm.quote.name line, t])
  | unquoted {name : String} {headLine line codeLine : Nat} :
      Builds (.list [.sym SpecialForm.unquote.name headLine, .sym name line]) (.sym name codeLine)
  | list {head : Term} {rest codes : List Term} {line : Nat}
      (unquote : head.isSymbol SpecialForm.unquote.name = false)
      (items : List.Forall₂ Builds (head :: rest) codes) :
      Builds (.list (head :: rest)) (.list (.sym Builtin.list.name line :: codes))

/-- The template with values put in, where every value and all that stands for
    itself is quoted. -/
inductive Quoted (value : String → Term) : Term → Term → Prop where
  | leaf {t : Term} {line : Nat} (h : t.isLeaf = true) :
      Quoted value t (.list [.sym SpecialForm.quote.name line, t])
  | unquoted {name : String} {headLine line quoteLine : Nat} :
      Quoted value (.list [.sym SpecialForm.unquote.name headLine, .sym name line])
        (.list [.sym SpecialForm.quote.name quoteLine, value name])
  | list {head : Term} {rest quoted : List Term}
      (unquote : head.isSymbol SpecialForm.unquote.name = false)
      (items : List.Forall₂ (Quoted value) (head :: rest) quoted) :
      Quoted value (.list (head :: rest)) (.list quoted)

section Fill

variable (value : String → Term)

theorem fillAll_eq_map (items : List Term) : fillAll value items = items.map (fill value) := by
  induction items with
  | nil => rfl
  | cons t rest ih => rw [fillAll, ih, List.map_cons]

theorem fill_leaf {t : Term} (h : t.isLeaf = true) : fill value t = t := by
  cases t with
  | list items =>
    have hnil : items = [] := List.isEmpty_iff.1 h
    rw [hnil]
    rfl
  | _ => rfl

theorem fill_unquoted (name : String) (headLine line : Nat) :
    fill value (.list [.sym SpecialForm.unquote.name headLine, .sym name line]) = value name :=
  rfl

theorem fill_list {head : Term} {rest : List Term}
    (h : head.isSymbol SpecialForm.unquote.name = false) :
    fill value (.list (head :: rest)) = .list ((head :: rest).map (fill value)) := by
  have hnone : unquotedName? (head :: rest) = none := by
    unfold unquotedName?
    split
    · next heq =>
      cases heq
      simp [h]
    · rfl
  rw [fill, hnone, fillAll_eq_map]

end Fill

/-! ## Quasiquoted templates -/

section Build

variable {p : Passes} {scope : ScopeId} {names : List String}

theorem build_leaf {t : Term} (h : t.isLeaf = true) : build p scope t = pure t.quoted := by
  cases t with
  | nil => cases h
  | list items =>
    have hnil : items = [] := List.isEmpty_iff.1 h
    subst hnil
    simp only [build]
  | _ => simp only [build]

theorem build_unquoted (name : String) (headLine line : Nat) :
    build p scope (.list [.sym SpecialForm.unquote.name headLine, .sym name line]) =
      p.expand (.sym name line) scope := by
  have hhead : (Term.sym SpecialForm.unquote.name headLine).isSymbol
      SpecialForm.unquote.name = true := by
    simp [Term.isSymbol, Term.symbolName?]
  simp only [build, hhead, if_true]

theorem build_list {head : Term} {rest : List Term}
    (hunquote : head.isSymbol SpecialForm.unquote.name = false)
    (hsplice : head.isSymbol SpecialForm.unquoteSplice.name = false) :
    build p scope (.list (head :: rest)) = (do
      let parts ← buildAll p scope (head :: rest)
      return .list (Term.ofName Builtin.list.name :: parts)) := by
  simp only [build, hunquote, hsplice, Bool.false_eq_true, if_false]

theorem buildAll_of_forall {items : List Term} {s : State}
    (h : ∀ t ∈ items, ∃ code, build p scope t s = .ok code s ∧ Builds t code) :
    ∃ codes, buildAll p scope items s = .ok codes s ∧ List.Forall₂ Builds items codes := by
  induction items with
  | nil => exact ⟨[], by simp only [buildAll]; rfl, .nil⟩
  | cons t rest ih =>
    obtain ⟨code, hcode, hbuilds⟩ := h t List.mem_cons_self
    obtain ⟨codes, hcodes, hall⟩ := ih fun u hu => h u (List.mem_cons_of_mem t hu)
    refine ⟨code :: codes, ?_, .cons hbuilds hall⟩
    simp only [buildAll]
    rw [Action.bind_ok hcode, Action.bind_ok hcodes]
    rfl

/-- A template becomes code that builds it, and nothing else happens, if a
    symbol expands to itself. -/
theorem build_template {t : Term} {s : State} (ht : IsTemplate names t)
    (hsym : ∀ name line, p.expand (.sym name line) scope s = .ok (.sym name line) s) :
    ∃ code, build p scope t s = .ok code s ∧ Builds t code := by
  -- The cases of a template are the cases of the rewriting.
  induction ht with
  | leaf hleaf =>
    rw [build_leaf hleaf]
    exact ⟨_, rfl, .leaf hleaf⟩
  | unquoted hname =>
    rw [build_unquoted]
    exact ⟨_, hsym _ _, .unquoted⟩
  | list hunquote hsplice _ ih =>
    obtain ⟨codes, hcodes, hall⟩ := buildAll_of_forall ih
    rw [build_list hunquote hsplice, Action.bind_ok hcodes]
    exact ⟨_, rfl, .list hunquote hall⟩

end Build

/-! ## Code written by hand -/

section Unfold

variable {p : Passes} {scope : ScopeId} {names : List String} {t code : Term}

theorem Builds.of_leaf (hb : Builds t code) (h : t.isLeaf = true) :
    ∃ line, code = .list [.sym SpecialForm.quote.name line, t] := by
  cases hb with
  | leaf => exact ⟨_, rfl⟩
  | unquoted => cases h
  | list => cases h

theorem Builds.of_unquoted {name : String} {headLine line : Nat}
    (hb : Builds (.list [.sym SpecialForm.unquote.name headLine, .sym name line]) code) :
    ∃ codeLine, code = .sym name codeLine := by
  cases hb with
  | leaf h => cases h
  | unquoted => exact ⟨_, rfl⟩
  | list hunquote => simp [Term.isSymbol, Term.symbolName?] at hunquote

theorem Builds.of_list {head : Term} {rest : List Term} (hb : Builds (.list (head :: rest)) code)
    (h : head.isSymbol SpecialForm.unquote.name = false) :
    ∃ line codes, code = .list (.sym Builtin.list.name line :: codes) ∧
      List.Forall₂ Builds (head :: rest) codes := by
  cases hb with
  | leaf hleaf => cases hleaf
  | unquoted => simp [Term.isSymbol, Term.symbolName?] at h
  | list _ hitems => exact ⟨_, _, rfl, hitems⟩

theorem unfoldAll_of_forall₂ {ts codes : List Term} {s : State}
    (h : List.Forall₂ (fun _ code => unfold p scope code s = .ok code s) ts codes) :
    unfoldAll p scope codes s = .ok codes s := by
  induction h with
  | nil => simp only [unfoldAll]; rfl
  | cons hcode _ ih =>
    simp only [unfoldAll]
    rw [Action.bind_ok hcode, Action.bind_ok ih]
    rfl

/-- Code that builds a template holds no template itself, since what it quotes
    does not count. -/
theorem unfold_code {s : State} (ht : IsTemplate names t) (hb : Builds t code) :
    unfold p scope code s = .ok code s := by
  induction ht generalizing code with
  | leaf hleaf =>
    -- What is quoted is not looked into, so a quoted quasiquote stays.
    obtain ⟨line, rfl⟩ := hb.of_leaf hleaf
    simp [unfold, Term.isSymbol, Term.symbolName?]
    rfl
  | unquoted =>
    obtain ⟨line, rfl⟩ := hb.of_unquoted
    simp only [unfold]
    rfl
  | list hunquote _ _ ih =>
    obtain ⟨line, codes, rfl, hcodes⟩ := hb.of_list hunquote
    have hall := unfoldAll_of_forall₂ (forall₂_of_mem hcodes fun t ht _ => ih t ht)
    have hhead : unfold p scope (.sym Builtin.list.name line) s =
        .ok (.sym Builtin.list.name line) s := by
      simp only [unfold]
      rfl
    have hcall : unfoldAll p scope (.sym Builtin.list.name line :: codes) s =
        .ok (.sym Builtin.list.name line :: codes) s := by
      simp only [unfoldAll]
      rw [Action.bind_ok hhead, Action.bind_ok hall]
      rfl
    have hquote : (Term.sym Builtin.list.name line).isSymbol SpecialForm.quote.name = false := by
      simp [Term.isSymbol, Term.symbolName?, Builtin.name, SpecialForm.name]
    have hquasiquote : (Term.sym Builtin.list.name line).isSymbol
        SpecialForm.quasiquote.name = false := by
      simp [Term.isSymbol, Term.symbolName?, Builtin.name, SpecialForm.name]
    simp only [unfold, hquote, hquasiquote, Bool.false_eq_true, if_false]
    rw [Action.bind_ok hcall]
    rfl

/-! ## How deep the code is -/

theorem depthList_of_forall₂ {ts codes : List Term}
    (h : List.Forall₂ (fun t code => code.depth ≤ t.depth + 1) ts codes) :
    Term.depthList codes ≤ Term.depthList ts + 1 := by
  induction h with
  | nil => simp [Term.depthList]
  | cons hcode _ ih =>
    simp only [Term.depthList]
    omega

theorem depth_code (ht : IsTemplate names t) (hb : Builds t code) :
    code.depth ≤ t.depth + 1 := by
  induction ht generalizing code with
  | leaf hleaf =>
    obtain ⟨line, rfl⟩ := hb.of_leaf hleaf
    simp [Term.depth, Term.depthList]
  | unquoted =>
    obtain ⟨line, rfl⟩ := hb.of_unquoted
    simp [Term.depth]
  | list hunquote _ _ ih =>
    obtain ⟨line, codes, rfl, hcodes⟩ := hb.of_list hunquote
    have hall := depthList_of_forall₂ (forall₂_of_mem hcodes fun t ht _ => ih t ht)
    simp only [Term.depth, Term.depthList] at hall ⊢
    omega

end Unfold

/-! ## The value of the code -/

/-- Seen from a scope, `quote` is the special form, and `list` is the builtin
    and not a macro. -/
structure Plain (scope : ScopeId) (s : State) : Prop where
  quote_special : ∃ m, s.macros.get? SpecialForm.quote.name = some m ∧
    m.expander = .special .quote
  list_free : s.macros.get? Builtin.list.name = none
  list_builtin : ∃ tag, s.scopes.lookup scope Builtin.list.name =
    some (.function tag (.builtin .list))

section Evaluate

variable (turns : Nat) {names : List String} {value : String → Term} {scope : ScopeId} {s : State}

/-- A list with a symbol in front calls a macro if the symbol names one. -/
theorem callsMacro_sym (name : String) (line : Nat) (rest : List Term) (s : State) :
    Evaluation.callsMacro (.sym name line :: rest) s = .ok (s.macros.get? name).isSome s :=
  rfl

variable [Host.Platform]

/-- What is quoted has no other value. -/
theorem evaluate_quoted (hplain : Plain scope s) (n line : Nat) (t : Term) :
    (passes turns (n + 1)).evaluate (.list [.sym SpecialForm.quote.name line, t]) scope s =
      .ok (.list [.sym SpecialForm.quote.name line, t]) s := by
  obtain ⟨m, hm, _⟩ := hplain.quote_special
  have hcalls : Evaluation.callsMacro [.sym SpecialForm.quote.name line, t] s = .ok true s := by
    rw [callsMacro_sym, hm]
    rfl
  rw [evaluate_passes, Evaluation.step, Action.bind_ok hcalls]
  rfl

/-- A name means what it is bound to, if that is a list or a function. -/
theorem evaluate_name {name : String} {bound : Term}
    (h : s.scopes.lookup scope name = some bound) (hnil : bound.isNil = false)
    (hsym : bound.symbolName? = none) (n line : Nat) :
    (passes turns (n + 1)).evaluate (.sym name line) scope s = .ok bound s := by
  have hlookup : Action.lookup scope name s = .ok (some bound) s := by
    rw [← h]
    rfl
  rw [evaluate_passes, Evaluation.step, Evaluation.symbolValue, Action.bind_ok hlookup]
  cases bound with
  | nil => cases hnil
  | sym => cases hsym
  | _ => rfl

/-- Calling `list` makes a list of the values. -/
theorem evaluate_list (hplain : Plain scope s) (n line : Nat) {codes values : List Term}
    (h : List.Forall₂ (fun code value =>
      (passes turns (n + 1)).evaluate code scope s = .ok value s) codes values) :
    (passes turns (n + 2)).evaluate (.list (.sym Builtin.list.name line :: codes)) scope s =
      .ok (.list values) s := by
  obtain ⟨tag, hbuiltin⟩ := hplain.list_builtin
  have hcalls : Evaluation.callsMacro (.sym Builtin.list.name line :: codes) s = .ok false s := by
    rw [callsMacro_sym, hplain.list_free]
    rfl
  have hlist := evaluate_name turns hbuiltin rfl rfl n line
  have hvalues : (passes turns (n + 1)).evaluateAll (.sym Builtin.list.name line :: codes) scope s =
      .ok (.function tag (.builtin .list) :: values) s :=
    Action.mapM_of_forall₂ (.cons hlist h)
  rw [evaluate_passes, Evaluation.step, Action.bind_ok hcalls]
  simp only [Bool.false_eq_true, if_false]
  rw [Action.bind_ok hvalues]
  rfl

theorem exists_values {ts codes : List Term} {n : Nat}
    (h : List.Forall₂ (fun t code => ∃ u, Quoted value t u ∧
      (passes turns n).evaluate code scope s = .ok u s) ts codes) :
    ∃ us, List.Forall₂ (Quoted value) ts us ∧
      List.Forall₂ (fun code u => (passes turns n).evaluate code scope s = .ok u s) codes us := by
  induction h with
  | nil => exact ⟨[], .nil, .nil⟩
  | cons hu _ ih =>
    obtain ⟨u, hquoted, hvalue⟩ := hu
    obtain ⟨us, hquoteds, hvalues⟩ := ih
    exact ⟨u :: us, .cons hquoted hquoteds, .cons hvalue hvalues⟩

/-- Where the unquoted names are bound to quoted values, code that builds a
    template evaluates to the template with these values, and nothing else
    happens. -/
theorem evaluate_code (hplain : Plain scope s)
    (hbound : ∀ name ∈ names, s.scopes.lookup scope name = some (value name).quoted)
    {t code : Term} (ht : IsTemplate names t) (hb : Builds t code) {n : Nat} (hn : t.depth < n) :
    ∃ u, Quoted value t u ∧ (passes turns n).evaluate code scope s = .ok u s := by
  induction ht generalizing code n with
  | leaf hleaf =>
    obtain ⟨line, rfl⟩ := hb.of_leaf hleaf
    obtain ⟨k, rfl⟩ := Nat.exists_eq_succ_of_ne_zero (Nat.ne_zero_of_lt hn)
    exact ⟨_, .leaf hleaf, evaluate_quoted turns hplain k line _⟩
  | unquoted hname =>
    obtain ⟨line, rfl⟩ := hb.of_unquoted
    obtain ⟨k, rfl⟩ := Nat.exists_eq_succ_of_ne_zero (Nat.ne_zero_of_lt hn)
    exact ⟨_, .unquoted, evaluate_name turns (hbound _ hname) rfl rfl k line⟩
  | @list head rest hunquote _ _ ih =>
    obtain ⟨line, codes, rfl, hcodes⟩ := hb.of_list hunquote
    -- One level is for the list itself, another one for its items.
    obtain ⟨k, rfl⟩ : ∃ k, n = k + 2 := by
      simp only [Term.depth] at hn
      exact ⟨n - 2, by omega⟩
    have hitems : List.Forall₂ (fun t code => ∃ u, Quoted value t u ∧
        (passes turns (k + 1)).evaluate code scope s = .ok u s) (head :: rest) codes := by
      refine forall₂_of_mem hcodes fun t ht code hcode => ih t ht hcode ?_
      have hlt := Term.depth_lt_of_mem ht
      omega
    obtain ⟨us, hquoted, hvalues⟩ := exists_values turns hitems
    exact ⟨_, .list hunquote hquoted, evaluate_list turns hplain k line hvalues⟩

end Evaluate

/-! ## Taking the quotes off -/

theorem filter_of_ne_nil {items : List Term} (h : ∀ t ∈ items, t ≠ .nil) :
    (items.filter fun t => !t.isNil) = items := by
  rw [List.filter_eq_self]
  intro t ht
  have hne := h t ht
  cases t with
  | nil => exact absurd rfl hne
  | _ => rfl

section Expand

variable (turns : Nat) {names : List String} {value : String → Term} {scope : ScopeId} {s : State}

/-- A list that calls a macro expands as the macro tells. -/
theorem expand_macro_call [Host.Platform]
    {name : String} {m : Macro} (hm : s.macros.get? name = some m)
    {arguments : List Term} (harguments : ∀ a ∈ arguments, a ≠ .nil) (n line : Nat) :
    (passes turns (n + 1)).expand (.list (.sym name line :: arguments)) scope s =
      Expansion.callMacro (passes turns n) m arguments scope s := by
  have hitems : ∀ t ∈ Term.sym name line :: arguments, t ≠ .nil := by
    intro t ht
    rcases List.mem_cons.1 ht with rfl | ha
    · simp
    · exact harguments t ha
  have hfind : Expansion.macroOf (.sym name line) s = .ok (some m) s := by
    rw [← hm]
    rfl
  rw [expand_passes, Expansion.step, filter_of_ne_nil hitems]
  exact Action.bind_ok hfind

theorem expand_quote [Host.Platform]
    (hquote : ∃ m, s.macros.get? SpecialForm.quote.name = some m ∧ m.expander = .special .quote)
    {t : Term} (ht : t ≠ .nil) (n line : Nat) :
    (passes turns (n + 1)).expand (.list [.sym SpecialForm.quote.name line, t]) scope s =
      .ok t s := by
  obtain ⟨m, hm, hexpander⟩ := hquote
  rw [expand_macro_call turns hm (by simpa using ht), Expansion.callMacro, hexpander]
  rfl

/-- A list of lists calls no macro: its items are expanded. -/
theorem expand_lists [Host.Platform] {us vs : List Term} {n : Nat} (hne : us ≠ [])
    (hlists : ∀ u ∈ us, ∃ items, u = .list items)
    (h : List.Forall₂ (fun u v => (passes turns n).expand u scope s = .ok v s) us vs) :
    (passes turns (n + 1)).expand (.list us) scope s = .ok (.list vs) s := by
  have hnotnil : ∀ u ∈ us, u ≠ .nil := by
    intro u hu
    obtain ⟨items, rfl⟩ := hlists u hu
    simp
  have hall : (passes turns n).expandAll us scope s = .ok vs s := Action.mapM_of_forall₂ h
  rw [expand_passes, Expansion.step, filter_of_ne_nil hnotnil]
  cases us with
  | nil => exact absurd rfl hne
  | cons u rest =>
    obtain ⟨items, rfl⟩ := hlists u List.mem_cons_self
    have hfind : Expansion.macroOf (.list items) s = .ok none s := rfl
    show (Expansion.macroOf (.list items) >>= _) s = _
    rw [Action.bind_ok hfind]
    show ((passes turns n).expandAll (.list items :: rest) scope >>= _) s = _
    rw [Action.bind_ok hall]
    rfl

theorem Quoted.exists_list {t u : Term} (h : Quoted value t u) : ∃ items, u = .list items := by
  cases h with
  | leaf => exact ⟨_, rfl⟩
  | unquoted => exact ⟨_, rfl⟩
  | list => exact ⟨_, rfl⟩

theorem exists_list_of_forall₂ {ts us : List Term} (h : List.Forall₂ (Quoted value) ts us) :
    ∀ u ∈ us, ∃ items, u = .list items := by
  induction h with
  | nil => simp
  | cons hu _ ih =>
    intro v hv
    rcases List.mem_cons.1 hv with rfl | hrest
    · exact hu.exists_list
    · exact ih v hrest

/-- Expanding a template with quoted values takes the quotes off, and nothing
    else happens. -/
theorem expand_quoted [Host.Platform]
    (hplain : Plain scope s) (hvalue : ∀ name ∈ names, value name ≠ .nil)
    {t u : Term} (ht : IsTemplate names t) (hu : Quoted value t u) {n : Nat} (hn : t.depth < n) :
    (passes turns n).expand u scope s = .ok (fill value t) s := by
  -- A value that was put in may hold macro calls: its own quote keeps them, and
  -- one level is enough for it however deep it is.
  induction ht generalizing u n with
  | leaf hleaf =>
    obtain ⟨k, rfl⟩ := Nat.exists_eq_succ_of_ne_zero (Nat.ne_zero_of_lt hn)
    rw [fill_leaf value hleaf]
    cases hu with
    | leaf => exact expand_quote turns hplain.quote_special (Term.ne_nil_of_isLeaf hleaf) k _
    | unquoted => cases hleaf
    | list => cases hleaf
  | unquoted hname =>
    obtain ⟨k, rfl⟩ := Nat.exists_eq_succ_of_ne_zero (Nat.ne_zero_of_lt hn)
    rw [fill_unquoted]
    cases hu with
    | leaf hleaf => cases hleaf
    | unquoted => exact expand_quote turns hplain.quote_special (hvalue _ hname) k _
    | list hunquote => simp [Term.isSymbol, Term.symbolName?] at hunquote
  | @list head rest hunquote _ _ ih =>
    obtain ⟨k, rfl⟩ := Nat.exists_eq_succ_of_ne_zero (Nat.ne_zero_of_lt hn)
    rw [fill_list value hunquote]
    cases hu with
    | leaf hleaf => cases hleaf
    | unquoted => simp [Term.isSymbol, Term.symbolName?] at hunquote
    | @list _ _ us _ hus =>
      have hparts : List.Forall₂ (fun t u =>
          (passes turns k).expand u scope s = .ok (fill value t) s) (head :: rest) us := by
        refine forall₂_of_mem hus fun t ht u hu => ih t ht hu ?_
        have hlt := Term.depth_lt_of_mem ht
        omega
      have hne : us ≠ [] := by
        rintro rfl
        cases hus
      exact expand_lists turns hne (exists_list_of_forall₂ hus)
        (List.forall₂_map_right_iff.2 hparts.flip)

end Expand

end Template

end MiniLisp
