import Mathlib.Data.List.TakeWhile
import MiniLisp.Proofs.ChildScope
import MiniLisp.Session

/-! # How closures are called

    The parameter list of a function is split when the function is expanded,
    and its parts are bound when a closure of it is called. Both go by the same
    rule, for any place of the marker `&` and for names that occur more than
    once: the arguments go to the formals in their order, what is left goes to
    the rest parameter, and a later binding of a name replaces an earlier one.

    * **`Parameters`** — how a list of names is read;
    * **`enterClosure`** — the first half of a call, which makes the scope;
    * **`Entered`** — that scope, and that nothing else has changed;
    * **`CallsClosure`** — when a call fails at the start, and what it does else;
    * **`closure_call`** — from the parameter list to the body of a call. -/

namespace MiniLisp

/-! ## Parameter lists -/

/-- The names of a parameter list are the formals, and the name of the rest if
    a marker stands before it. Only the first marker is one. -/
inductive Parameters : List String → List String → Option String → Prop where
  | formals {names : List String} (unmarked : "&" ∉ names) : Parameters names names none
  | rest {formals : List String} {rest : String} (unmarked : "&" ∉ formals) :
      Parameters (formals ++ ["&", rest]) formals (some rest)

section Parameters

variable {names formals : List String}

theorem splitParameters_unmarked (h : "&" ∉ names) :
    Expansion.splitParameters names = .ok (names, none) := by
  have hall : ∀ name ∈ names, (name != "&") = true := by
    intro name hname
    rw [bne_iff_ne]
    rintro rfl
    exact h hname
  have hdrop : names.dropWhile (· != "&") = [] := List.dropWhile_eq_nil_iff.2 hall
  rw [Expansion.splitParameters, hdrop]

/-- What follows the first marker decides. -/
theorem splitParameters_marked (h : "&" ∉ formals) (after : List String) :
    Expansion.splitParameters (formals ++ "&" :: after) =
      match after with
      | [rest] => .ok (formals, some rest)
      | _ => .error .lambdaRest := by
  have hall : ∀ name ∈ formals, (name != "&") = true := by
    intro name hname
    rw [bne_iff_ne]
    rintro rfl
    exact h hname
  have hdrop : (formals ++ "&" :: after).dropWhile (· != "&") = "&" :: after := by
    rw [List.dropWhile_append_of_pos hall]
    simp
  have htake : (formals ++ "&" :: after).takeWhile (· != "&") = formals := by
    rw [List.takeWhile_append_of_pos hall]
    simp
  rw [Expansion.splitParameters, hdrop, htake]
  cases after with
  | nil => rfl
  | cons rest others => cases others <;> rfl

theorem splitParameters_ok_iff {rest : Option String} :
    Expansion.splitParameters names = .ok (formals, rest) ↔ Parameters names formals rest := by
  constructor
  · intro h
    by_cases hmarked : "&" ∈ names
    · obtain ⟨before, after, rfl, hbefore⟩ := List.eq_append_cons_of_mem hmarked
      rw [splitParameters_marked hbefore] at h
      split at h
      · cases h
        exact .rest hbefore
      · cases h
    · rw [splitParameters_unmarked hmarked] at h
      cases h
      exact .formals hmarked
  · intro h
    cases h with
    | formals unmarked => exact splitParameters_unmarked unmarked
    | rest unmarked => exact splitParameters_marked unmarked _

/-- A list of names that is refused is refused for what follows the marker. -/
theorem splitParameters_error {e : FormError} (h : Expansion.splitParameters names = .error e) :
    e = .lambdaRest := by
  by_cases hmarked : "&" ∈ names
  · obtain ⟨before, after, rfl, hbefore⟩ := List.eq_append_cons_of_mem hmarked
    rw [splitParameters_marked hbefore] at h
    split at h
    · cases h
    · cases h
      rfl
  · rw [splitParameters_unmarked hmarked] at h
    cases h

theorem exists_splitParameters_iff :
    (∃ formals rest, Expansion.splitParameters names = .ok (formals, rest)) ↔
      "&" ∉ names ∨ ∃ formals rest, names = formals ++ ["&", rest] ∧ "&" ∉ formals := by
  simp only [splitParameters_ok_iff]
  constructor
  · rintro ⟨formals, rest, h⟩
    cases h with
    | formals unmarked => exact .inl unmarked
    | @rest _ rest unmarked => exact .inr ⟨formals, rest, rfl, unmarked⟩
  · rintro (unmarked | ⟨formals, rest, rfl, unmarked⟩)
    · exact ⟨names, none, .formals unmarked⟩
    · exact ⟨formals, some rest, .rest unmarked⟩

end Parameters

/-! ## The scope of a call -/

/-- The first half of a call: the parameters are bound in a new scope inside
    the one in which the closure was made. -/
def enterClosure (formals : List String) (rest : Option String) (home : ScopeId)
    (arguments : List Term) : Action ScopeId :=
  if arguments.length < formals.length then
    Action.fail (.call (.tooFew formals.length arguments.length))
  else do
    let inner ← Action.newScope home
    Expansion.bindAll inner (Evaluation.boundArguments formals rest arguments)
    return inner

/-- What a call binds: the rest parameter comes before all others, and of equal
    formals the last one counts. -/
structure BindsArguments (formals : List String) (rest : Option String) (arguments : List Term)
    (bound : Bindings Term) : Prop where
  remaining : ∀ name, rest = some name →
    bound.get? name = some (.list (arguments.drop formals.length))
  formal : ∀ (i : Nat) (name : String), formals[i]? = some name →
    (∀ j, i < j → formals[j]? ≠ some name) → rest ≠ some name →
    ∃ value, arguments[i]? = some value ∧ bound.get? name = some value
  others : ∀ name, name ∉ formals → rest ≠ some name → bound.get? name = none

/-- A state with one scope more, which lies inside `home` and binds the
    arguments. -/
structure Entered (formals : List String) (rest : Option String) (home : ScopeId)
    (arguments : List Term) (s started : State) : Prop where
  size : started.scopes.size = s.scopes.size + 1
  parent : started.scopes.outer? s.scopes.size = some home
  chain : started.scopes.chain s.scopes.size = s.scopes.size :: s.scopes.chain home
  binds : BindsArguments formals rest arguments (started.scopes.bindingsOf s.scopes.size)
  /-- No other scope has changed. -/
  others : ∀ id, id ≠ s.scopes.size →
    started.scopes.bindingsOf id = s.scopes.bindingsOf id ∧
      started.scopes.enclosing id = s.scopes.enclosing id
  /-- Nothing but the scopes has changed. -/
  unchanged : started = { s with scopes := started.scopes }

section Scope

variable {formals : List String} {rest : Option String} {arguments : List Term}

theorem lookup_reverse_zip_of_not_mem {name : String} (h : name ∉ formals) :
    (formals.zip arguments).reverse.lookup name = none := by
  rw [← Option.not_isSome_iff_eq_none, Bindings.lookup_isSome_iff, List.map_reverse,
    List.mem_reverse]
  intro hmem
  obtain ⟨⟨_, value⟩, hpair, rfl⟩ := List.mem_map.1 hmem
  exact h (List.of_mem_zip hpair).1

/-- The last of several equal formals gives the argument. -/
theorem lookup_reverse_zip {i : Nat} {name : String} (hi : formals[i]? = some name)
    (hlast : ∀ j, i < j → formals[j]? ≠ some name) (hlen : formals.length ≤ arguments.length) :
    ∃ value, arguments[i]? = some value ∧
      (formals.zip arguments).reverse.lookup name = some value := by
  induction formals generalizing arguments i with
  | nil => simp at hi
  | cons formal others ih =>
    obtain ⟨argument, more, rfl⟩ : ∃ a as, arguments = a :: as := by
      cases arguments with
      | nil => simp at hlen
      | cons a as => exact ⟨a, as, rfl⟩
    rw [List.zip_cons_cons, List.reverse_cons, List.lookup_append]
    cases i with
    | zero =>
      have hname : formal = name := by simpa using hi
      -- No later formal has the name, so the first one gives the argument.
      have hnot : name ∉ others := by
        intro hmem
        obtain ⟨j, hj⟩ := List.mem_iff_getElem?.1 hmem
        exact hlast (j + 1) (Nat.succ_pos j) hj
      have hnone : (others.zip more).reverse.lookup name = none :=
        lookup_reverse_zip_of_not_mem hnot
      refine ⟨argument, rfl, ?_⟩
      rw [hnone, hname, Option.none_or, List.lookup_cons_self]
    | succ i =>
      have hlater : ∀ j, i < j → others[j]? ≠ some name := fun j hj =>
        hlast (j + 1) (Nat.succ_lt_succ hj)
      obtain ⟨value, hvalue, hlookup⟩ := ih hi hlater (Nat.le_of_succ_le_succ hlen)
      refine ⟨value, hvalue, ?_⟩
      rw [hlookup, Option.some_or]

/-- The rest parameter is bound after all formals. -/
theorem lookup_boundArguments (name : String) :
    (Evaluation.boundArguments formals rest arguments).reverse.lookup name =
      if rest = some name then some (.list (arguments.drop formals.length))
      else (formals.zip arguments).reverse.lookup name := by
  cases rest with
  | none => simp [Evaluation.boundArguments]
  | some last =>
    rw [Evaluation.boundArguments, List.reverse_append, List.reverse_singleton,
      List.singleton_append]
    by_cases hname : last = name
    · rw [if_pos (congrArg some hname), hname, List.lookup_cons_self]
    · have hne : ¬ name = last := fun h => hname h.symm
      rw [if_neg (fun h => hname (Option.some.inj h)), Bindings.lookup_cons_ne _ _ hne]

theorem bindsArguments_setAll (hlen : formals.length ≤ arguments.length) :
    BindsArguments formals rest arguments
      ((∅ : Bindings Term).setAll (Evaluation.boundArguments formals rest arguments)) := by
  have hget : ∀ name,
      ((∅ : Bindings Term).setAll (Evaluation.boundArguments formals rest arguments)).get? name =
        if rest = some name then some (.list (arguments.drop formals.length))
        else (formals.zip arguments).reverse.lookup name := by
    intro name
    rw [Bindings.get?_setAll, Bindings.get?_empty, Option.or_none, lookup_boundArguments]
  constructor
  · intro name hrest
    rw [hget, if_pos hrest]
  · intro i name hi hlast hrest
    rw [hget, if_neg hrest]
    exact lookup_reverse_zip hi hlast hlen
  · intro name hname hrest
    rw [hget, if_neg hrest]
    exact lookup_reverse_zip_of_not_mem hname

theorem entered_withChild {home : ScopeId} {s : State} (hhome : home < s.scopes.size)
    (hlen : formals.length ≤ arguments.length) :
    Entered formals rest home arguments s
      (s.withChild home (Evaluation.boundArguments formals rest arguments)) := by
  have hsize : s.scopes.size < (s.scopes.addChild home).size := by
    rw [Scopes.size_addChild]
    omega
  have hchain : ∀ id, (s.withChild home
      (Evaluation.boundArguments formals rest arguments)).scopes.chain id =
        (s.scopes.addChild home).chain id := fun id => Scopes.chain_defineAll _ _ id _
  have hself := (hchain s.scopes.size).trans (Scopes.chain_addChild_self hhome)
  refine ⟨?_, ?_, hself, ?_, ?_, rfl⟩
  · rw [State.withChild, Scopes.size_defineAll, Scopes.size_addChild]
  · -- The chain begins with the new scope, and its parent comes next.
    have henclosing := (List.cons.inj hself).2
    rw [Scopes.outer?, henclosing]
    rfl
  · rw [State.withChild, Scopes.bindingsOf_defineAll_self _ _ hsize,
      Scopes.bindingsOf_addChild_eq, Scopes.bindingsOf_size]
    exact bindsArguments_setAll hlen
  · intro id hid
    constructor
    · rw [State.withChild, Scopes.bindingsOf_defineAll_ne _ _ hid.symm,
        Scopes.bindingsOf_addChild_eq]
    · have henclosing := (List.cons.inj (hchain id)).2
      rw [henclosing, Scopes.enclosing_addChild_eq, if_neg hid]

end Scope

/-! ## Calls -/

section Calls

variable {formals : List String} {rest : Option String} {home : ScopeId} {arguments : List Term}
  {s : State}

/-- A call enters the closure and then evaluates its body. -/
theorem callClosure_eq (p : Passes) (body : List Term) :
    Evaluation.callClosure p formals rest body home arguments =
      enterClosure formals rest home arguments >>= p.evaluateBody .nil body := by
  unfold Evaluation.callClosure enterClosure
  split
  · rfl
  · simp only [bind_assoc, pure_bind]

/-- With too few arguments a call fails, and nothing else happens. -/
theorem enterClosure_of_lt (h : arguments.length < formals.length) :
    enterClosure formals rest home arguments s =
      .error (.error (.call (.tooFew formals.length arguments.length))) s := by
  rw [enterClosure, if_pos h]
  rfl

theorem enterClosure_of_le (h : formals.length ≤ arguments.length) :
    enterClosure formals rest home arguments s = .ok s.scopes.size
      (s.withChild home (Evaluation.boundArguments formals rest arguments)) := by
  rw [enterClosure, if_neg (Nat.not_lt.2 h)]
  exact newScope_bindAll home _ pure s

/-- A closure can be entered exactly if there is an argument for each formal. -/
theorem enterClosure_error_iff :
    (∃ stop s', enterClosure formals rest home arguments s = .error stop s') ↔
      arguments.length < formals.length := by
  constructor
  · rintro ⟨stop, s', h⟩
    by_contra hnot
    rw [enterClosure_of_le (Nat.not_lt.1 hnot)] at h
    cases h
  · intro h
    exact ⟨_, _, enterClosure_of_lt h⟩

end Calls

/-! ## From the parameter list to the call -/

section Lambda

variable {p : Passes} {arguments parameters forms : List Term} {names formals : List String}
  {rest : Option String} {form : Term} {scope : ScopeId} {s : State}

/-- What the arguments of a function form are without its id and description. -/
def withoutTexts (arguments : List Term) : List Term :=
  (Expansion.takeText (Expansion.takeText arguments).2).2

/-- A function form with a parameter list that cannot be split is refused. -/
theorem lambda_of_refused (hshape : withoutTexts arguments = .list parameters :: form :: forms)
    (hnames : Term.symbolNames? parameters = some names) {e : FormError}
    (hsplit : Expansion.splitParameters names = .error e) :
    Expansion.lambda p arguments scope s = .error (.error (.form .lambdaRest)) s := by
  obtain rfl := splitParameters_error hsplit
  unfold withoutTexts at hshape
  simp only [Expansion.lambda, hshape, hnames, hsplit]
  rfl

/-- Any other one holds the split parameters and the expanded body. -/
theorem lambda_of_split (hshape : withoutTexts arguments = .list parameters :: form :: forms)
    (hnames : Term.symbolNames? parameters = some names)
    (hsplit : Expansion.splitParameters names = .ok (formals, rest)) {body : List Term}
    {s' : State} (hbody : p.expandBody (form :: forms) scope s = .ok body s') :
    ∃ tag id description line s'', Expansion.lambda p arguments scope s =
      .ok (.list [.function tag (.makeClosure formals rest body id description line)]) s'' := by
  unfold withoutTexts at hshape
  simp only [Expansion.lambda, hshape, hnames, hsplit]
  rw [Action.bind_ok hbody]
  -- The id is the first text or is made from the next number.
  cases (Expansion.takeText arguments).1 with
  | none => exact ⟨_, _, _, _, _, rfl⟩
  | some id => exact ⟨_, _, _, _, _, rfl⟩

/-- Evaluating it makes a closure over the scope of the evaluation. -/
theorem evaluate_makeClosure [Host.Platform]
    (turns depth : Nat) (tag : FunctionTag) (formals : List String)
    (rest : Option String) (body : List Term) (id : String) (description : Option String)
    (line : Nat) (home : ScopeId) (s : State) :
    (passes turns (depth + 2)).evaluate
        (.list [.function tag (.makeClosure formals rest body id description line)]) home s =
      .ok (.function ⟨s.functions, some id, description, line⟩ (.closure formals rest body home))
        { s with functions := s.functions + 1 } :=
  rfl

end Lambda

/-- What a call of a function with this code does with the arguments. -/
structure CallsClosure [Host.Platform] (code : Code) (formals : List String) (rest : Option String)
    (body : List Term) (home : ScopeId) (arguments : List Term) : Prop where
  /-- A call from any scope enters the closure and then evaluates the body. -/
  call : ∀ turns depth caller, (passes turns (depth + 1)).call code arguments caller =
    enterClosure formals rest home arguments >>= (passes turns depth).evaluateBody .nil body
  fails_iff : ∀ s, (∃ stop s', enterClosure formals rest home arguments s = .error stop s') ↔
    arguments.length < formals.length
  /-- When entering fails, nothing has changed. -/
  fails : arguments.length < formals.length → ∀ s, enterClosure formals rest home arguments s =
    .error (.error (.call (.tooFew formals.length arguments.length))) s
  enters : formals.length ≤ arguments.length → ∀ s : State, home < s.scopes.size →
    ∃ started, Entered formals rest home arguments s started ∧
      enterClosure formals rest home arguments s = .ok s.scopes.size started

theorem callsClosure [Host.Platform]
    (formals : List String) (rest : Option String) (body : List Term)
    (home : ScopeId) (arguments : List Term) :
    CallsClosure (.closure formals rest body home) formals rest body home arguments := by
  constructor
  · intro turns depth caller
    exact callClosure_eq (passes turns depth) body
  · intro s
    exact enterClosure_error_iff
  · intro hlen s
    exact enterClosure_of_lt hlen
  · intro hlen s hhome
    exact ⟨_, entered_withChild hhome hlen, enterClosure_of_le hlen⟩

/-- A parameter list is accepted exactly if there is no marker in it, or if one
    name follows the first marker. A function form with a list that is not
    accepted is refused. Any other function form whose body can be expanded
    evaluates to a function over the scope of the evaluation. A call of it fails
    at the start exactly if there are fewer arguments than formals, and then
    changes nothing; else it makes one scope inside that one, which binds the
    arguments, changes nothing else and goes on with the body. -/
theorem closure_call [Host.Platform] {parameters : List Term} {names : List String}
    (hnames : Term.symbolNames? parameters = some names) :
    ((∃ formals rest, Expansion.splitParameters names = .ok (formals, rest)) ↔
      "&" ∉ names ∨ ∃ formals rest, names = formals ++ ["&", rest] ∧ "&" ∉ formals) ∧
    ∀ (p : Passes) (texts : List Term) (form : Term) (forms : List Term) (scope : ScopeId)
      (s : State), withoutTexts texts = .list parameters :: form :: forms →
      (∀ e, Expansion.splitParameters names = .error e →
        Expansion.lambda p texts scope s = .error (.error (.form .lambdaRest)) s) ∧
      ∀ formals rest, Expansion.splitParameters names = .ok (formals, rest) →
        Parameters names formals rest ∧
        ∀ body s', p.expandBody (form :: forms) scope s = .ok body s' →
          ∃ made s'', Expansion.lambda p texts scope s = .ok made s'' ∧
          ∀ turns depth home before, ∃ tag code,
            (passes turns (depth + 2)).evaluate made home before =
              .ok (.function tag code) { before with functions := before.functions + 1 } ∧
            ∀ arguments, CallsClosure code formals rest body home arguments := by
  constructor
  · exact exists_splitParameters_iff
  intro p texts form forms scope s hshape
  constructor
  · intro e hsplit
    exact lambda_of_refused hshape hnames hsplit
  intro formals rest hsplit
  constructor
  · exact splitParameters_ok_iff.1 hsplit
  intro body s' hbody
  obtain ⟨tag, id, description, line, s'', hmade⟩ := lambda_of_split hshape hnames hsplit hbody
  refine ⟨_, s'', hmade, ?_⟩
  intro turns depth home before
  have hclosure := evaluate_makeClosure turns depth tag formals rest body id description line
    home before
  exact ⟨_, _, hclosure, callsClosure formals rest body home⟩

/-- A function with the parameters `(a b a & b)`: the rest parameter has the name
    of a formal, and another formal occurs twice. -/
theorem closure_call_repeated_names :
    let parameters := ["a", "b", "a", "&", "b"].map (Term.sym · 1)
    let root := State.root (Console.ofLines []) 0 0
    Term.symbolNames? parameters = some ["a", "b", "a", "&", "b"] ∧
      ∃ made s, Expansion.lambda (passes 1 9) [.list parameters, .sym "a" 1] rootScope root =
          .ok made s ∧
        ∃ tag code, (passes 1 9).evaluate made rootScope s =
            .ok (.function tag code) { s with functions := s.functions + 1 } ∧
          ∀ arguments,
            CallsClosure code ["a", "b", "a"] (some "b") [.sym "a" 1] rootScope arguments := by
  intro parameters root
  have hnames : Term.symbolNames? parameters = some ["a", "b", "a", "&", "b"] := rfl
  have hsplit : Expansion.splitParameters ["a", "b", "a", "&", "b"] =
      .ok (["a", "b", "a"], some "b") := by
    decide +kernel
  have hbody : (passes 1 9).expandBody [.sym "a" 1] rootScope root = .ok [.sym "a" 1] root := rfl
  obtain ⟨-, hcall⟩ := (closure_call hnames).2 (passes 1 9) [.list parameters, .sym "a" 1] _ _
    rootScope root rfl
  obtain ⟨-, hclosure⟩ := hcall _ _ hsplit
  obtain ⟨made, s, hmade, hevaluated⟩ := hclosure _ _ hbody
  exact ⟨hnames, made, s, hmade, hevaluated 1 7 rootScope s⟩

end MiniLisp
