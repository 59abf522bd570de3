import MiniLisp.Proofs.RootScope
import MiniLisp.Proofs.Template

/-! # Template macros substitute

    A macro whose body is a quasiquoted template, or the code that builds the
    template, puts its raw arguments into the template and expands the outcome
    in a scope that binds each parameter to its quoted argument. No argument is
    expanded or evaluated on the way.

    * **`Template.Body`** — the two ways to write the template;
    * **`expand_template_call`** — what a call of the macro expands to. -/

namespace MiniLisp

namespace Template

/-- The two ways to write a template as the body of a macro. -/
inductive Body (t : Term) : Term → Prop where
  | quasiquoted (line : Nat) : Body t (.list [.sym SpecialForm.quasiquote.name line, t])
  | written {code : Term} (h : Builds t code) : Body t code

/-- The argument that a call gives to a parameter. -/
def argumentFor (names : List String) (arguments : List Term) (name : String) : Term :=
  ((names.zip arguments).lookup name).getD .nil

/-! ## Parameters -/

section Parameters

variable {names : List String} {arguments : List Term}

theorem lookup_argument (hlen : arguments.length = names.length) {name : String}
    (h : name ∈ names) :
    (names.zip arguments).lookup name = some (argumentFor names arguments name) := by
  have hfst : (names.zip arguments).map Prod.fst = names :=
    List.map_fst_zip (Nat.le_of_eq hlen.symm)
  have hsome : ((names.zip arguments).lookup name).isSome := by
    rw [Bindings.lookup_isSome_iff, hfst]
    exact h
  obtain ⟨a, ha⟩ := Option.isSome_iff_exists.1 hsome
  rw [argumentFor, ha]
  rfl

theorem lookup_zip_map (f : Term → Term) (name : String) :
    (names.zip (arguments.map f)).lookup name = ((names.zip arguments).lookup name).map f := by
  induction names generalizing arguments with
  | nil => rfl
  | cons n rest ih =>
    cases arguments with
    | nil => rfl
    | cons a others =>
      rw [List.map_cons, List.zip_cons_cons, List.zip_cons_cons]
      by_cases h : name = n
      · simp [h]
      · rw [Bindings.lookup_cons_ne _ _ h, Bindings.lookup_cons_ne _ _ h, ih]

theorem mem_of_lookup_zip {name : String} {a : Term}
    (h : (names.zip arguments).lookup name = some a) : a ∈ arguments := by
  induction names generalizing arguments with
  | nil => cases h
  | cons n rest ih =>
    cases arguments with
    | nil => cases h
    | cons b others =>
      rw [List.zip_cons_cons] at h
      by_cases hn : name = n
      · subst hn
        rw [List.lookup_cons_self] at h
        cases h
        exact List.mem_cons_self
      · rw [Bindings.lookup_cons_ne _ _ hn] at h
        exact List.mem_cons_of_mem _ (ih h)

theorem argumentFor_ne_nil (harguments : ∀ a ∈ arguments, a ≠ .nil)
    (hlen : arguments.length = names.length) {name : String} (h : name ∈ names) :
    argumentFor names arguments name ≠ .nil :=
  harguments _ (mem_of_lookup_zip (lookup_argument hlen h))

end Parameters

/-! ## The scope of a call -/

section Call

variable {depth : Nat} {names : List String} {arguments : List Term} {scope : ScopeId}
  {s : State}

/-- What a call of a template binds. -/
def parameterBindings (names : List String) (arguments : List Term) : List (String × Term) :=
  names.zip (arguments.map Term.quoted)

theorem map_fst_parameterBindings (hlen : arguments.length = names.length) :
    (parameterBindings names arguments).map Prod.fst = names :=
  List.map_fst_zip (by rw [List.length_map]; omega)

theorem Plain.lt_size (hplain : Plain scope s) : scope < s.scopes.size := by
  obtain ⟨tag, htag⟩ := hplain.list_builtin
  exact Scopes.lt_size_of_lookup htag

theorem lookup_parameter (hnames : names.Nodup) (hlen : arguments.length = names.length)
    (hscope : scope < s.scopes.size) {name : String} (h : name ∈ names) :
    (s.withChild scope (parameterBindings names arguments)).scopes.lookup s.scopes.size name =
      some (argumentFor names arguments name).quoted := by
  have hnodup : ((parameterBindings names arguments).map Prod.fst).Nodup := by
    rw [map_fst_parameterBindings hlen]
    exact hnames
  rw [lookup_withChild s _ hscope, Bindings.lookup_reverse hnodup, parameterBindings,
    lookup_zip_map, lookup_argument hlen h]
  rfl

/-- A call whose parameters are not named `list` changes neither `quote` nor
    `list`. -/
theorem Plain.withChild (hplain : Plain scope s) (hlen : arguments.length = names.length)
    (hlist : Builtin.list.name ∉ names) :
    Plain s.scopes.size (s.withChild scope (parameterBindings names arguments)) := by
  have hnone : (parameterBindings names arguments).reverse.lookup Builtin.list.name = none := by
    rw [← Option.not_isSome_iff_eq_none, Bindings.lookup_isSome_iff, List.map_reverse,
      List.mem_reverse, map_fst_parameterBindings hlen]
    exact hlist
  refine ⟨hplain.quote_special, hplain.list_free, ?_⟩
  rw [lookup_withChild s _ hplain.lt_size, hnone]
  exact hplain.list_builtin

/-! ## The call -/

/-- Whichever way the template is written, unfolding the body of the macro
    yields code that builds the template. -/
theorem expandWithin_body [Host.Platform]
    (turns : Nat) (scope : ScopeId) (s : State) {t body : Term}
    (ht : IsTemplate names t) (hbody : Body t body) (hdepth : t.depth < depth) :
    ∃ code, expandWithin (passes turns depth) body scope s = .ok code s ∧ Builds t code := by
  have hroom : body.depth ≤ (passes turns depth).room := by
    rw [room_passes]
    cases hbody with
    | quasiquoted =>
      simp only [Term.depth, Term.depthList]
      omega
    | written hb =>
      have hle := depth_code ht hb
      omega
  have hdemand : demandRoom (passes turns depth) body s = .ok () s := by
    rw [demandRoom, if_pos hroom]
    rfl
  obtain ⟨k, rfl⟩ := Nat.exists_eq_succ_of_ne_zero (Nat.ne_zero_of_lt hdepth)
  rw [expandWithin, Action.bind_ok hdemand]
  -- Unquoted names are symbols, which expand to themselves.
  cases hbody with
  | quasiquoted line =>
    have hunfold : unfold (passes turns (k + 1)) scope
        (.list [.sym SpecialForm.quasiquote.name line, t]) =
        build (passes turns (k + 1)) scope t := by
      simp [unfold, Term.isSymbol, Term.symbolName?, SpecialForm.name]
    rw [hunfold]
    exact build_template ht fun _ _ => rfl
  | written hb => exact ⟨body, unfold_code ht hb, hb⟩

/-- The four passes together. -/
theorem expand_template [Host.Platform] (turns : Nat) {m : String} {t : Term} {forms : List Term}
    (hnames : names.Nodup) (hlist : Builtin.list.name ∉ names) (ht : IsTemplate names t)
    (hbody : Body t (.list forms)) (hplain : Plain scope s)
    (harguments : ∀ a ∈ arguments, a ≠ .nil) (hlen : arguments.length = names.length)
    (hdepth : t.depth < depth) :
    Expansion.template (passes turns depth) m names forms arguments scope s =
      (passes turns depth).expand (fill (argumentFor names arguments) t) s.scopes.size
        (s.withChild scope (parameterBindings names arguments)) := by
  -- All four passes run in the new scope, and none of them changes the state.
  have hchild := hplain.withChild hlen hlist
  have hvalue : ∀ name ∈ names, argumentFor names arguments name ≠ .nil := fun _ h =>
    argumentFor_ne_nil harguments hlen h
  obtain ⟨code, hcode, hbuilds⟩ := expandWithin_body turns s.scopes.size
    (s.withChild scope (parameterBindings names arguments)) ht hbody hdepth
  obtain ⟨u, hquoted, hvalueOf⟩ := evaluate_code turns hchild
    (fun _ h => lookup_parameter hnames hlen hplain.lt_size h) ht hbuilds hdepth
  have hfilled := expand_quoted turns hchild hvalue ht hquoted hdepth
  rw [Expansion.template, if_neg (by simpa using hlen)]
  refine (newScope_bindAll scope (parameterBindings names arguments) _ s).trans ?_
  rw [Action.bind_ok hcode, Action.bind_ok hvalueOf, Action.bind_ok hfilled]

/-- A definition of a macro with parameters adds a template. -/
theorem defineMacro_template {m : String} {line : Nat} {parameters : List Term} {body v : Term}
    {s s' : State} (hparameters : Term.symbolNames? parameters = some names)
    (h : Expansion.defineMacro [.sym m line, .list parameters, body] s = .ok v s') :
    ∃ forms, body = .list forms ∧ s'.macros.get? m = some ⟨m, .template m names forms⟩ := by
  cases body with
  | list forms =>
    have hdefined : Expansion.defineMacro [.sym m line, .list parameters, .list forms] s =
        .ok .nil { s with macros := s.macros.add ⟨m, .template m names forms⟩ } := by
      simp only [Expansion.defineMacro, hparameters]
      rfl
    rw [hdefined] at h
    cases h
    exact ⟨forms, rfl, Bindings.get?_set_self _ _ _⟩
  | _ =>
    simp only [Expansion.defineMacro, hparameters] at h
    cases h

end Call

/-- Let a macro be defined by a template over its distinct parameters, none of
    them `list`, and let it be called, with the passes deep enough for the
    template, from a scope that sees `quote` and `list` as they were made. The
    call expands to what the template with the raw arguments filled in expands
    to, in a new scope that binds each parameter to its quoted argument. -/
theorem expand_template_call [Host.Platform] (turns depth defineLine line : Nat) {m : String}
    {parameters : List Term} {names : List String} {t body v : Term} {s₀ s₁ s : State}
    {scope : ScopeId} {arguments : List Term}
    (hparameters : Term.symbolNames? parameters = some names) (hnames : names.Nodup)
    (hlist : Builtin.list.name ∉ names) (ht : IsTemplate names t) (hbody : Body t body)
    (hdefine : Expansion.defineMacro [.sym m defineLine, .list parameters, body] s₀ = .ok v s₁)
    (hcalled : s.macros.get? m = s₁.macros.get? m) (hplain : Plain scope s)
    (harguments : ∀ a ∈ arguments, a ≠ .nil) (hlen : arguments.length = names.length)
    (hdepth : t.depth < depth) :
    (passes turns (depth + 1)).expand (.list (.sym m line :: arguments)) scope s =
      (passes turns depth).expand (fill (argumentFor names arguments) t) s.scopes.size
        (s.withChild scope (names.zip (arguments.map Term.quoted))) := by
  obtain ⟨forms, rfl, hadded⟩ := defineMacro_template hparameters hdefine
  rw [hadded] at hcalled
  rw [expand_macro_call turns hcalled harguments]
  exact expand_template turns hnames hlist ht hbody hplain harguments hlen hdepth

/-- Where all macros are special forms, nothing but `list` can be otherwise. -/
theorem plain_of_special {scope : ScopeId} {s : State} (hmacros : s.macros = MacroTable.special)
    {tag : FunctionTag}
    (hlist : s.scopes.lookup scope Builtin.list.name = some (.function tag (.builtin .list))) :
    Plain scope s where
  quote_special := hmacros ▸ ⟨_, MacroTable.get?_special .quote, rfl⟩
  list_free := hmacros ▸ MacroTable.get?_special_builtin .list
  list_builtin := ⟨tag, hlist⟩

/-- A root scope sees `quote` and `list` as they were made. -/
theorem plain_root (console : Console) (branches lambdas : Nat) :
    Plain rootScope (State.root console branches lambdas) :=
  plain_of_special rfl (State.lookup_builtin console branches lambdas .list)

/-- Further macros of other names change nothing in that. -/
theorem Plain.addMacro {scope : ScopeId} {s : State} {m : Macro} (hplain : Plain scope s)
    (hquote : m.name ≠ SpecialForm.quote.name) (hlist : m.name ≠ Builtin.list.name) :
    Plain scope { s with macros := s.macros.add m } where
  quote_special := by
    rw [MacroTable.add, Bindings.get?_set_ne _ _ hquote.symm]
    exact hplain.quote_special
  list_free := by
    rw [MacroTable.add, Bindings.get?_set_ne _ _ hlist.symm]
    exact hplain.list_free
  list_builtin := hplain.list_builtin

/-- The macro that sets a variable to a number, called with a symbol. -/
theorem expand_template_call_set :
    ∃ v s, Expansion.defineMacro
        [.sym "nil!" 1, .list [.sym "variable" 1],
          .list [.sym "quasiquote" 1, .list [.sym "set!" 1,
            .list [.sym "unquote" 1, .sym "variable" 1], .num 3]]]
        (State.root (Console.ofLines []) 0 0) = .ok v s ∧
      (passes 1 4).expand (.list [.sym "nil!" 2, .sym "a" 2]) rootScope s =
        (passes 1 3).expand (.list [.sym "set!" 1, .sym "a" 2, .num 3]) 1
          (s.withChild rootScope [("variable", (Term.sym "a" 2).quoted)]) := by
  have htemplate : IsTemplate ["variable"]
      (.list [.sym "set!" 1, .list [.sym "unquote" 1, .sym "variable" 1], .num 3]) := by
    refine .list rfl rfl ?_
    intro t ht
    simp only [List.mem_cons, List.not_mem_nil, or_false] at ht
    rcases ht with rfl | rfl | rfl
    · exact .leaf rfl
    · exact .unquoted (by decide)
    · exact .leaf rfl
  refine ⟨_, _, rfl, ?_⟩
  have hparameters : Term.symbolNames? [.sym "variable" 1] = some ["variable"] := rfl
  have hplain := plain_root (Console.ofLines []) 0 0
  exact expand_template_call 1 3 1 2 hparameters (by decide) (by decide) htemplate
    (.quasiquoted 1) rfl rfl (hplain.addMacro (by decide) (by decide)) (by simp) rfl (by decide)

end Template

end MiniLisp
