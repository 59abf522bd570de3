import MiniLisp.Proofs.Congruence

/-! # Passes keep to every congruence

    Three records of passes are assumed to do what a congruence relates, and
    what the next level makes of them is shown to be related, too: form by
    form for the expander, code by code for calls. An induction on the number
    of levels then reaches every run, with or without a watch on its way.

    What a form does is thereby looked at once, whatever the congruence says.

    * **`Congruence.RelPasses`** — three records of passes side by side;
    * **`Congruence.rel_expansion_step`**, **`Congruence.rel_evaluation_step`**
      and **`Congruence.rel_call`** — the next level;
    * **`Congruence.relPasses_passes`** — all levels. -/

namespace MiniLisp

/-! ## Stops without a host expression -/

theorem not_isHostStop_of_printWithin {room : Nat} {t : Term} {e : Stop}
    (h : t.printWithin room = .error e) : ¬ e.IsHostStop := by
  unfold Term.printWithin at h
  split at h <;> cases h
  exact id

/-- A text is not read because it is wrong or nested too deep. -/
theorem Term.parseWithin_error {room : Nat} {text : String} {e : Stop}
    (h : parseWithin room text = .error e) :
    (∃ wrong, e = .error (.read wrong)) ∨ e = .exhausted := by
  unfold parseWithin ofTokensWithin at h
  cases hscan : Token.scan text with
  | error wrong =>
    rw [hscan] at h
    cases h
    exact .inl ⟨wrong, rfl⟩
  | ok tokens =>
    rw [hscan] at h
    change (if Draft.nesting 0 tokens ≤ room then
      (ofTokens tokens).mapError fun e => Stop.error (.read e) else .error .exhausted) =
        .error e at h
    split at h
    · cases hterms : ofTokens tokens with
      | error wrong =>
        rw [hterms] at h
        cases h
        exact .inl ⟨wrong, rfl⟩
      | ok terms =>
        rw [hterms] at h
        cases h
    · cases h
      exact .inr rfl

theorem not_isHostStop_of_parseWithin {room : Nat} {text : String} {e : Stop}
    (h : Term.parseWithin room text = .error e) : ¬ e.IsHostStop := by
  rcases Term.parseWithin_error h with ⟨wrong, rfl⟩ | rfl <;> exact id

variable [Host.Platform]

theorem not_isHostStop_of_hostProgramWithin {room : Nat} {source : String} {names : List String}
    {e : Stop} (h : Expansion.hostProgramWithin room source names = .error e) :
    ¬ e.IsHostStop := by
  unfold Expansion.hostProgramWithin at h
  cases hchecked : Expansion.checkedHost room source names with
  | ok program =>
    rw [hchecked] at h
    cases h
  | error failure =>
    rw [hchecked] at h
    cases h
    cases failure <;> exact id

namespace Congruence

variable {C : Congruence} {own : Option ScopeId} {p q r : Passes}

/-- The three records have the same room, and their passes are related.
    Expanding binds in no scope that exists, evaluating and calling only in the
    scope they are given. -/
structure RelPasses (C : Congruence) (p q r : Passes) : Prop where
  room_eq : q.room = p.room ∧ r.room = p.room
  expand : ∀ t scope, C.rel none (p.expand t scope) (q.expand t scope) (r.expand t scope)
  evaluate : ∀ t scope,
    C.rel (some scope) (p.evaluate t scope) (q.evaluate t scope) (r.evaluate t scope)
  call : ∀ code arguments scope, C.rel (some scope) (p.call code arguments scope)
    (q.call code arguments scope) (r.call code arguments scope)

/-! ## One level -/

theorem rel_expand (hp : C.RelPasses p q r) (t : Term) (scope : ScopeId) :
    C.rel own (p.expand t scope) (q.expand t scope)
      (r.expand t scope) :=
  ofNone (hp.expand t scope)

theorem rel_expandAll (hp : C.RelPasses p q r) (ts : List Term) (scope : ScopeId) :
    C.rel own (p.expandAll ts scope) (q.expandAll ts scope)
      (r.expandAll ts scope) :=
  rel_mapM (fun t => rel_expand hp t scope) ts

theorem rel_expandBody (hp : C.RelPasses p q r) (ts : List Term) (scope : ScopeId) :
    C.rel own (p.expandBody ts scope) (q.expandBody ts scope)
      (r.expandBody ts scope) :=
  rel_bind (rel_expandAll hp ts scope) fun _ => rel_pure _

theorem rel_evaluateAll (hp : C.RelPasses p q r) (ts : List Term) (scope : ScopeId) :
    C.rel (some scope) (p.evaluateAll ts scope) (q.evaluateAll ts scope)
      (r.evaluateAll ts scope) :=
  rel_mapM (fun t => hp.evaluate t scope) ts

theorem rel_evaluateBody (hp : C.RelPasses p q r) (last : Term) (ts : List Term)
    (scope : ScopeId) :
    C.rel (some scope) (p.evaluateBody last ts scope) (q.evaluateBody last ts scope)
      (r.evaluateBody last ts scope) := by
  induction ts generalizing last with
  | nil => exact rel_pure last
  | cons t rest ih => exact rel_bind (hp.evaluate t scope) fun value => ih value

theorem rel_print (hp : C.RelPasses p q r) (t : Term) :
    C.rel own (p.print t) (q.print t) (r.print t) := by
  unfold Passes.print
  rw [hp.room_eq.1, hp.room_eq.2]
  exact rel_ofResult fun e h => not_isHostStop_of_printWithin h

theorem rel_parse (hp : C.RelPasses p q r) (text : String) :
    C.rel own (p.parse text) (q.parse text) (r.parse text) := by
  unfold Passes.parse
  rw [hp.room_eq.1, hp.room_eq.2]
  exact rel_ofResult fun e h => not_isHostStop_of_parseWithin h

/-! ### Templates -/

mutual

theorem rel_build (hp : C.RelPasses p q r) (scope : ScopeId) :
    (t : Term) → C.rel own (Template.build p scope t) (Template.build q scope t)
      (Template.build r scope t)
  | .list items => by
    unfold Template.build
    cases items with
    | nil => exact rel_pure _
    | cons head rest =>
      dsimp only
      split
      · split
        · exact rel_expand hp _ scope
        · exact rel_fail _
      · split
        · exact rel_fail _
        · exact rel_bind (rel_buildAll hp scope (head :: rest)) fun _ => rel_pure _
  | .nil => rel_pure _
  | .bool _ | .str _ | .num _ | .sym _ _ | .function _ _ => rel_pure _

theorem rel_buildAll (hp : C.RelPasses p q r) (scope : ScopeId) :
    (ts : List Term) → C.rel own (Template.buildAll p scope ts) (Template.buildAll q scope ts)
      (Template.buildAll r scope ts)
  | [] => rel_pure _
  | t :: rest => by
    unfold Template.buildAll
    refine rel_bind (rel_build hp scope t) fun part => ?_
    exact rel_bind (rel_buildAll hp scope rest) fun parts => rel_pure _

end

mutual

theorem rel_unfold (hp : C.RelPasses p q r) (scope : ScopeId) :
    (t : Term) → C.rel own (Template.unfold p scope t) (Template.unfold q scope t)
      (Template.unfold r scope t)
  | .list items => by
    unfold Template.unfold
    cases items with
    | nil => exact rel_pure _
    | cons head rest =>
      dsimp only
      split
      · exact rel_pure _
      · split
        · split
          · exact rel_build hp scope _
          · exact rel_fail _
        · exact rel_bind (rel_unfoldAll hp scope (head :: rest)) fun _ => rel_pure _
  | .nil | .bool _ | .str _ | .num _ | .sym _ _ | .function _ _ => rel_pure _

theorem rel_unfoldAll (hp : C.RelPasses p q r) (scope : ScopeId) :
    (ts : List Term) → C.rel own (Template.unfoldAll p scope ts) (Template.unfoldAll q scope ts)
      (Template.unfoldAll r scope ts)
  | [] => rel_pure _
  | t :: rest => by
    unfold Template.unfoldAll
    refine rel_bind (rel_unfold hp scope t) fun part => ?_
    exact rel_bind (rel_unfoldAll hp scope rest) fun parts => rel_pure _

end

theorem rel_demandRoom (hp : C.RelPasses p q r) (t : Term) :
    C.rel own (Template.demandRoom p t) (Template.demandRoom q t) (Template.demandRoom r t) := by
  unfold Template.demandRoom
  rw [hp.room_eq.1, hp.room_eq.2]
  split
  · exact rel_pure ()
  · exact C.stop own .exhausted id

theorem rel_template_expand (hp : C.RelPasses p q r) (t : Term) (scope : ScopeId) :
    C.rel own (Template.expand p t scope) (Template.expand q t scope)
      (Template.expand r t scope) :=
  rel_bind (rel_demandRoom hp t) fun _ => rel_build hp scope t

theorem rel_expandWithin (hp : C.RelPasses p q r) (t : Term) (scope : ScopeId) :
    C.rel own (Template.expandWithin p t scope) (Template.expandWithin q t scope)
      (Template.expandWithin r t scope) :=
  rel_bind (rel_demandRoom hp t) fun _ => rel_unfold hp scope t

/-! ### Special forms -/

theorem rel_expansion_define (hp : C.RelPasses p q r) (arguments : List Term)
    (scope : ScopeId) :
    C.rel own (Expansion.define p arguments scope) (Expansion.define q arguments scope)
      (Expansion.define r arguments scope) := by
  unfold Expansion.define
  split
  · extract_lets bind
    have hbind : ∀ value, C.rel.Same own (bind value) := fun value =>
      rel_bind (rel_newFunction _ _ _ _) fun step => rel_pure _
    split
    · exact rel_bind (rel_pure _) hbind
    · exact rel_bind (rel_expand hp _ scope) hbind
    · exact rel_bind (rel_fail _) hbind
  · exact rel_fail _
  · exact rel_fail _

theorem rel_expansion_assign (hp : C.RelPasses p q r) (arguments : List Term)
    (scope : ScopeId) :
    C.rel own (Expansion.assign p arguments scope) (Expansion.assign q arguments scope)
      (Expansion.assign r arguments scope) := by
  unfold Expansion.assign
  split
  · refine rel_bind (rel_newFunction _ _ _ _) fun step => ?_
    exact rel_bind (rel_expand hp _ scope) fun value => rel_pure _
  · exact rel_fail _
  · exact rel_fail _

theorem rel_lambda (hp : C.RelPasses p q r) (arguments : List Term) (scope : ScopeId) :
    C.rel own (Expansion.lambda p arguments scope) (Expansion.lambda q arguments scope)
      (Expansion.lambda r arguments scope) := by
  unfold Expansion.lambda
  dsimp only
  split
  · split
    · exact rel_fail _
    · split
      · exact rel_fail _
      · refine rel_bind (rel_expandBody hp _ scope) fun body => ?_
        have hmake : ∀ code, C.rel.Same own (do
            let step ← Action.newStep code
            return Term.list [step]) := fun code =>
          rel_bind (rel_newStep code) fun step => rel_pure _
        split
        · exact rel_bind (rel_pure _) fun id => hmake _
        · refine rel_bind rel_nextLambda fun number => ?_
          exact rel_bind (rel_pure _) fun id => hmake _
  · exact rel_fail _
  · exact rel_fail _

theorem rel_namedLambda (hp : C.RelPasses p q r) (arguments : List Term) (scope : ScopeId) :
    C.rel own (Expansion.namedLambda p arguments scope) (Expansion.namedLambda q arguments scope)
      (Expansion.namedLambda r arguments scope) := by
  unfold Expansion.namedLambda
  split
  · exact rel_expand hp _ scope
  · exact rel_fail _

theorem rel_branch (hp : C.RelPasses p q r) (arguments : List Term) (scope : ScopeId) :
    C.rel own (Expansion.branch p arguments scope) (Expansion.branch q arguments scope)
      (Expansion.branch r arguments scope) := by
  unfold Expansion.branch
  extract_lets rest restQ restR
  have hrest : ∀ parts, C.rel own (rest parts) (restQ parts) (restR parts) := by
    rintro ⟨condition, thenForm, elseForm⟩
    refine rel_bind (rel_expand hp _ scope) fun test => ?_
    refine rel_bind (rel_expand hp _ scope) fun thenCase => ?_
    extract_lets make
    have hmake : ∀ elseCase, C.rel.Same own (make elseCase) := fun elseCase =>
      rel_bind rel_nextBranch fun number =>
        rel_bind (rel_newFunction _ _ _ _) fun step => rel_pure _
    cases elseForm with
    | some e => exact rel_bind (rel_expand hp e scope) hmake
    | none => exact rel_bind (rel_pure _) hmake
  split
  · exact rel_bind (rel_pure _) hrest
  · exact rel_bind (rel_pure _) hrest
  · exact rel_bind (rel_fail _) hrest

theorem rel_begin (hp : C.RelPasses p q r) (arguments : List Term) (scope : ScopeId) :
    C.rel own (Expansion.begin p arguments scope) (Expansion.begin q arguments scope)
      (Expansion.begin r arguments scope) := by
  refine rel_bind (rel_newStep _) fun step => ?_
  exact rel_bind (rel_expandAll hp arguments scope) fun forms => rel_pure _

theorem rel_expansion_loop (hp : C.RelPasses p q r) (arguments : List Term)
    (scope : ScopeId) :
    C.rel own (Expansion.loop p arguments scope) (Expansion.loop q arguments scope)
      (Expansion.loop r arguments scope) := by
  unfold Expansion.loop
  split
  · exact rel_fail _
  · refine rel_bind (rel_expand hp _ scope) fun test => ?_
    refine rel_bind (rel_expandBody hp _ scope) fun body => ?_
    exact rel_bind (rel_newStep _) fun step => rel_pure _

theorem rel_leave (arguments : List Term) : C.rel.Same own (Expansion.leave arguments) := by
  unfold Expansion.leave
  split
  · exact rel_bind (rel_newStep _) fun step => rel_pure _
  · exact rel_fail _

theorem rel_guard (hp : C.RelPasses p q r) (arguments : List Term) (scope : ScopeId) :
    C.rel own (Expansion.guard p arguments scope) (Expansion.guard q arguments scope)
      (Expansion.guard r arguments scope) := by
  unfold Expansion.guard
  extract_lets rest restQ restR
  have hrest : ∀ parts, C.rel own (rest parts) (restQ parts) (restR parts) := by
    rintro ⟨body, fallback⟩
    refine rel_bind (rel_expand hp _ scope) fun body => ?_
    extract_lets make
    have hmake : ∀ fallback, C.rel.Same own (make fallback) := fun fallback =>
      rel_bind (rel_newStep _) fun step => rel_pure _
    cases fallback with
    | some f => exact rel_bind (rel_expand hp f scope) hmake
    | none => exact rel_bind (rel_pure _) hmake
  split
  · exact rel_bind (rel_pure _) hrest
  · exact rel_bind (rel_pure _) hrest
  · exact rel_bind (rel_fail _) hrest

theorem rel_applied (hp : C.RelPasses p q r) (code : Code) (wrong : FormError)
    (arguments : List Term) (scope : ScopeId) :
    C.rel own (Expansion.applied p code wrong arguments scope)
      (Expansion.applied q code wrong arguments scope)
      (Expansion.applied r code wrong arguments scope) := by
  unfold Expansion.applied
  split
  · refine rel_bind (rel_newStep code) fun step => ?_
    exact rel_bind (rel_expand hp _ scope) fun argument => rel_pure _
  · exact rel_fail _

theorem rel_expansion_host (hp : C.RelPasses p q r) (arguments : List Term) :
    C.rel own (Expansion.host p arguments) (Expansion.host q arguments)
      (Expansion.host r arguments) := by
  unfold Expansion.host
  rw [hp.room_eq.1, hp.room_eq.2]
  split
  · split
    · exact rel_fail _
    · refine rel_bind (rel_ofResult fun e h => not_isHostStop_of_hostProgramWithin h)
        fun program => ?_
      exact rel_bind (rel_newFunction _ _ _ _) fun step => rel_pure _
  · exact rel_fail _

theorem rel_quote (arguments : List Term) : C.rel.Same own (Expansion.quote arguments) := by
  unfold Expansion.quote
  split
  · exact rel_pure _
  · exact rel_fail _

theorem rel_quasiquote (hp : C.RelPasses p q r) (arguments : List Term) (scope : ScopeId) :
    C.rel own (Expansion.quasiquote p arguments scope) (Expansion.quasiquote q arguments scope)
      (Expansion.quasiquote r arguments scope) := by
  unfold Expansion.quasiquote
  split
  · exact rel_template_expand hp _ scope
  · exact rel_fail _

theorem rel_aliasMacro (name model : String) :
    C.rel.Same own (Expansion.aliasMacro name model) := by
  refine rel_bind (rel_findMacro model) fun found => ?_
  cases found with
  | none => exact rel_fail _
  | some m => exact rel_bind (rel_addMacro _) fun _ => rel_pure _

theorem rel_defineMacro (arguments : List Term) :
    C.rel.Same own (Expansion.defineMacro arguments) := by
  unfold Expansion.defineMacro
  split
  · exact rel_aliasMacro _ _
  · exact rel_fail _
  · split
    · exact rel_fail _
    · exact rel_bind (rel_addMacro _) fun _ => rel_pure _
    · exact rel_fail _
  · exact rel_fail _
  · exact rel_fail _
  · exact rel_fail _

/-! ### Macros -/

/-- The body of a template is evaluated in a scope of its own, so that its
    call binds nothing in the scope of the caller. -/
theorem rel_template (hp : C.RelPasses p q r) (name : String) (parameters : List String)
    (body arguments : List Term) (scope : ScopeId) :
    C.rel own (Expansion.template p name parameters body arguments scope)
      (Expansion.template q name parameters body arguments scope)
      (Expansion.template r name parameters body arguments scope) := by
  unfold Expansion.template
  split
  · exact rel_fail _
  · refine ofNone (C.newScope scope fun inner => ?_)
    refine rel_bind (rel_bindAll inner _) fun _ => ?_
    refine rel_bind (rel_expandWithin hp _ inner) fun code => ?_
    refine rel_bind (hp.evaluate code inner) fun produced => ?_
    refine rel_bind (rel_expand hp produced inner) fun expanded => ?_
    exact rel_expand hp expanded inner

theorem rel_special (hp : C.RelPasses p q r) (form : SpecialForm) (arguments : List Term)
    (scope : ScopeId) :
    C.rel own (Expansion.special p form arguments scope) (Expansion.special q form arguments scope)
      (Expansion.special r form arguments scope) := by
  cases form with
  | define => exact rel_expansion_define hp arguments scope
  | branch => exact rel_branch hp arguments scope
  | evaluate => exact rel_applied hp _ _ arguments scope
  | lambda => exact rel_lambda hp arguments scope
  | namedLambda => exact rel_namedLambda hp arguments scope
  | begin => exact rel_begin hp arguments scope
  | loop => exact rel_expansion_loop hp arguments scope
  | leave => exact rel_leave arguments
  | assign => exact rel_expansion_assign hp arguments scope
  | quote => exact rel_quote arguments
  | quasiquote => exact rel_quasiquote hp arguments scope
  | unquote => exact rel_fail _
  | unquoteSplice => exact rel_fail _
  | readText => exact rel_applied hp _ _ arguments scope
  | defineMacro => exact rel_defineMacro arguments
  | guard => exact rel_guard hp arguments scope
  | throw => exact rel_applied hp _ _ arguments scope
  | host => exact rel_expansion_host hp arguments

theorem rel_callMacro (hp : C.RelPasses p q r) (m : Macro) (arguments : List Term)
    (scope : ScopeId) :
    C.rel own (Expansion.callMacro p m arguments scope) (Expansion.callMacro q m arguments scope)
      (Expansion.callMacro r m arguments scope) := by
  unfold Expansion.callMacro
  split
  · exact rel_special hp _ arguments scope
  · exact rel_template hp _ _ _ arguments scope

theorem rel_macroOf (head : Term) : C.rel.Same own (Expansion.macroOf head) := by
  unfold Expansion.macroOf
  split
  · exact rel_findMacro _
  · exact rel_pure _

theorem rel_expansion_step (hp : C.RelPasses p q r) (t : Term) (scope : ScopeId) :
    C.rel own (Expansion.step p t scope) (Expansion.step q t scope)
      (Expansion.step r t scope) := by
  unfold Expansion.step
  split
  · split
    · exact rel_pure _
    · refine rel_bind (rel_macroOf _) fun found => ?_
      cases found with
      | some m => exact rel_callMacro hp m _ scope
      | none => exact rel_bind (rel_expandAll hp _ scope) fun expanded => rel_pure _
  · exact rel_pure _

/-! ### Builtins -/

theorem rel_refuse {α : Type} (e : CallError) :
    C.rel.Same own (Builtin.refuse e : Action α) :=
  rel_fail _

theorem rel_checked (result : Builtin.Checked Term) :
    C.rel.Same own (Builtin.checked result) := by
  unfold Builtin.checked
  split
  · exact rel_pure _
  · exact rel_refuse _

theorem rel_callEqual (hp : C.RelPasses p q r) (arguments : List Term) :
    C.rel own (Builtin.callEqual p arguments) (Builtin.callEqual q arguments)
      (Builtin.callEqual r arguments) := by
  unfold Builtin.callEqual
  split
  · refine rel_bind (rel_print hp _) fun text => ?_
    exact rel_bind (rel_print hp _) fun other => rel_pure _
  · exact rel_refuse _

theorem rel_callMap (hp : C.RelPasses p q r) (arguments : List Term) (scope : ScopeId) :
    C.rel (some scope) (Builtin.callMap p arguments scope) (Builtin.callMap q arguments scope)
      (Builtin.callMap r arguments scope) := by
  unfold Builtin.callMap
  split
  · next code items =>
    refine rel_bind (rel_mapM (fun t => hp.call code [t] scope) items) fun values => ?_
    exact rel_pure _
  · exact rel_refuse _

theorem rel_callFold (hp : C.RelPasses p q r) (code : Code) (reached : Term)
    (items : List Term) (scope : ScopeId) :
    C.rel (some scope) (Builtin.callFold p code reached items scope)
      (Builtin.callFold q code reached items scope)
      (Builtin.callFold r code reached items scope) := by
  induction items generalizing reached with
  | nil => exact rel_pure reached
  | cons t others ih => exact rel_bind (hp.call code _ scope) fun next => ih next

theorem rel_callReduce (hp : C.RelPasses p q r) (arguments : List Term) (scope : ScopeId) :
    C.rel (some scope) (Builtin.callReduce p arguments scope) (Builtin.callReduce q arguments scope)
      (Builtin.callReduce r arguments scope) := by
  unfold Builtin.callReduce
  split
  · exact rel_callFold hp _ _ _ scope
  · split
    · exact rel_pure _
    · exact rel_callFold hp _ _ _ scope
  · exact rel_refuse _

theorem rel_displayed (hp : C.RelPasses p q r) (t : Term) :
    C.rel own (Builtin.displayed p t) (Builtin.displayed q t) (Builtin.displayed r t) := by
  unfold Builtin.displayed
  split
  · exact rel_pure _
  · exact rel_print hp _

theorem rel_callPrint (hp : C.RelPasses p q r) (arguments : List Term) :
    C.rel own (Builtin.callPrint p arguments) (Builtin.callPrint q arguments)
      (Builtin.callPrint r arguments) := by
  refine rel_bind (rel_mapM (rel_displayed hp) arguments) fun texts => ?_
  exact rel_bind (rel_writeLine _) fun _ => rel_pure _

theorem rel_callRead (hcode : ¬ C.apart (.builtin .read)) (arguments : List Term) :
    C.rel.Same own (Builtin.callRead arguments) := by
  unfold Builtin.callRead
  split
  · exact rel_map _ (ofNone (C.readLine hcode _))
  · exact rel_map _ (ofNone (C.readLine hcode _))
  · exact rel_refuse _

theorem rel_apply (hp : C.RelPasses p q r) (b : Builtin) (hcode : ¬ C.apart (.builtin b))
    (arguments : List Term) (scope : ScopeId) :
    C.rel (some scope) (b.apply p arguments scope) (b.apply q arguments scope)
      (b.apply r arguments scope) := by
  cases b with
  | equal => exact rel_callEqual hp arguments
  | map => exact rel_callMap hp arguments scope
  | reduce => exact rel_callReduce hp arguments scope
  | print => exact rel_callPrint hp arguments
  | read => exact rel_callRead hcode arguments
  | list => exact rel_pure _
  -- The other builtins compute their value without looking at the state.
  | add | sub | mul | div | less | first | rest | cons | concat | characters | length | isEmpty
  | describe => exact rel_checked _

/-! ### Evaluation -/

theorem rel_callsMacro (items : List Term) : C.rel.Same own (Evaluation.callsMacro items) := by
  unfold Evaluation.callsMacro
  split
  · exact rel_bind (rel_findMacro _) fun found => rel_pure _
  · exact rel_pure _

theorem rel_symbolValue (hp : C.RelPasses p q r) (name : String) (line : Nat)
    (scope : ScopeId) :
    C.rel (some scope) (Evaluation.symbolValue p name line scope)
      (Evaluation.symbolValue q name line scope) (Evaluation.symbolValue r name line scope) := by
  refine rel_bind (rel_lookup scope name) fun found => ?_
  split
  · exact rel_fail _
  · exact rel_fail _
  · exact hp.evaluate _ scope
  · exact rel_pure _

theorem rel_applyValues (hp : C.RelPasses p q r) (line : Nat) (values : List Term)
    (scope : ScopeId) :
    C.rel (some scope) (Evaluation.applyValues p line values scope)
      (Evaluation.applyValues q line values scope)
      (Evaluation.applyValues r line values scope) := by
  unfold Evaluation.applyValues
  split
  · exact rel_pure _
  · exact hp.call _ _ scope
  · exact rel_fail _

theorem rel_evaluation_step (hp : C.RelPasses p q r) (t : Term) (scope : ScopeId) :
    C.rel (some scope) (Evaluation.step p t scope) (Evaluation.step q t scope)
      (Evaluation.step r t scope) := by
  unfold Evaluation.step
  split
  · exact rel_symbolValue hp _ _ scope
  · exact rel_pure _
  · refine rel_bind (rel_callsMacro _) fun calls => ?_
    split
    · exact rel_pure _
    · refine rel_bind (rel_evaluateAll hp _ scope) fun values => ?_
      exact rel_applyValues hp _ values scope
  · exact rel_pure _

/-! ### Calls -/

theorem rel_callClosure (hp : C.RelPasses p q r) (formals : List String)
    (rest : Option String) (body : List Term) (scope : ScopeId) (arguments : List Term) :
    C.rel own (Evaluation.callClosure p formals rest body scope arguments)
      (Evaluation.callClosure q formals rest body scope arguments)
      (Evaluation.callClosure r formals rest body scope arguments) := by
  unfold Evaluation.callClosure
  split
  · exact rel_fail _
  · refine ofNone (C.newScope scope fun inner => ?_)
    refine rel_bind (rel_bindAll inner _) fun _ => ?_
    exact rel_evaluateBody hp _ body inner

theorem rel_loopBody (hp : C.RelPasses p q r) (scope : ScopeId) (body : List Term) :
    C.rel (some scope) (Evaluation.loopBody p scope body) (Evaluation.loopBody q scope body)
      (Evaluation.loopBody r scope body) := by
  induction body with
  | nil => exact rel_pure false
  | cons t rest ih =>
    refine rel_bind (hp.evaluate t scope) fun _ => ?_
    refine rel_bind (C.state _) fun _ => ?_
    split
    · exact rel_pure true
    · exact ih

theorem rel_loopTurns (hp : C.RelPasses p q r) (condition : Term) (body : List Term)
    (scope : ScopeId) (turns : Nat) :
    C.rel (some scope) (Evaluation.loopTurns p condition body scope turns)
      (Evaluation.loopTurns q condition body scope turns)
      (Evaluation.loopTurns r condition body scope turns) := by
  induction turns with
  | zero => exact C.stop _ .unfinished id
  | succ n ih =>
    refine rel_bind (hp.evaluate condition scope) fun test => ?_
    split
    · refine rel_bind (rel_loopBody hp scope body) fun left => ?_
      split
      · exact rel_pure Term.nil
      · exact ih
    · exact rel_pure Term.nil

theorem rel_loop (hp : C.RelPasses p q r) (turns : Nat) (condition : Term)
    (body : List Term) (scope : ScopeId) :
    C.rel own (Evaluation.loop p turns condition body scope)
      (Evaluation.loop q turns condition body scope)
      (Evaluation.loop r turns condition body scope) := by
  refine ofNone (C.newScope scope fun inner => ?_)
  refine rel_bind (C.define inner _ _) fun _ => ?_
  exact rel_loopTurns hp condition body inner turns

theorem rel_evaluateValue (hp : C.RelPasses p q r) (value : Term) (scope : ScopeId) :
    C.rel (some scope) (Evaluation.evaluateValue p value scope)
      (Evaluation.evaluateValue q value scope) (Evaluation.evaluateValue r value scope) :=
  rel_bind (rel_expand hp value scope) fun form => hp.evaluate form scope

theorem rel_firstForm (hp : C.RelPasses p q r) (text : String) (scope : ScopeId) :
    C.rel own (Evaluation.firstForm p text scope) (Evaluation.firstForm q text scope)
      (Evaluation.firstForm r text scope) := by
  refine rel_bind (rel_parse hp text) fun forms => ?_
  split
  · exact rel_pure _
  · exact rel_expand hp _ scope

theorem rel_readText (hp : C.RelPasses p q r) (value : Term) (scope : ScopeId) :
    C.rel (some scope) (Evaluation.readText p value scope) (Evaluation.readText q value scope)
      (Evaluation.readText r value scope) := by
  unfold Evaluation.readText
  split
  · exact rel_pure _
  · exact rel_firstForm hp _ scope
  · refine rel_bind (hp.evaluate _ scope) fun result => ?_
    split
    · exact rel_firstForm hp _ scope
    · exact rel_pure _

theorem rel_guarded (hp : C.RelPasses p q r) (body fallback : Term) (scope : ScopeId) :
    C.rel (some scope) (Evaluation.guarded p body fallback scope)
      (Evaluation.guarded q body fallback scope) (Evaluation.guarded r body fallback scope) := by
  refine rel_recover (hp.evaluate body scope) fun e => ?_
  exact rel_bind (C.define scope _ _) fun _ => hp.evaluate fallback scope

theorem rel_host (hp : C.RelPasses p q r) (program : HostProgram)
    (hcode : ¬ C.apart (.host program)) (scope : ScopeId) :
    C.rel own (Evaluation.host p program scope) (Evaluation.host q program scope)
      (Evaluation.host r program scope) := by
  have hsame : ∀ other : Passes, other.room = p.room →
      Evaluation.host other program scope = Evaluation.host p program scope := by
    intro other hroom
    unfold Evaluation.host
    rw [hroom]
  rw [hsame q hp.room_eq.1, hsame r hp.room_eq.2]
  exact ofNone (C.host program hcode p scope)

/-- Calls, except those that are set apart. -/
theorem rel_call (hp : C.RelPasses p q r) (turns : Nat) {code : Code} (hcode : ¬ C.apart code)
    (arguments : List Term) (scope : ScopeId) :
    C.rel (some scope) (Evaluation.call turns p code arguments scope)
      (Evaluation.call turns q code arguments scope)
      (Evaluation.call turns r code arguments scope) := by
  cases code with
  | builtin b => exact rel_apply hp b hcode arguments scope
  | closure formals rest body home => exact rel_callClosure hp formals rest body home arguments
  | makeClosure formals rest body id description line => exact rel_newFunction _ _ _ _
  | define name => exact rel_bind (C.define scope name _) fun _ => rel_pure _
  | assign name => exact rel_bind (C.assign scope name _) fun _ => rel_pure _
  | branch thenForm elseForm =>
    unfold Evaluation.call
    dsimp only
    split
    · exact hp.evaluate thenForm scope
    · exact hp.evaluate elseForm scope
  | lastValue => exact rel_pure _
  | loop condition body => exact rel_loop hp turns condition body scope
  | leaveLoop => exact rel_bind (C.assign scope _ _) fun _ => rel_pure _
  | evaluateValue => exact rel_evaluateValue hp _ scope
  | readText => exact rel_readText hp _ scope
  | guarded body fallback => exact rel_guarded hp body fallback scope
  | throwValue => exact rel_bind (rel_print hp _) fun text => rel_fail _
  | host program => exact rel_host hp program hcode scope

/-! ## The passes together -/

theorem relPasses_exhausted : C.RelPasses .exhausted .exhausted .exhausted where
  room_eq := ⟨rfl, rfl⟩
  expand _ _ := C.stop _ .exhausted id
  evaluate _ _ := C.stop _ .exhausted id
  call _ _ _ := C.stop _ .exhausted id

/-- Where no call is set apart, the passes keep to a congruence on all
    levels. -/
theorem relPasses_passes (hnone : ∀ code, ¬ C.apart code) (turns depth : Nat) :
    C.RelPasses (passes turns depth) (passes turns depth) (passes turns depth) := by
  induction depth with
  | zero => exact relPasses_exhausted
  | succ n ih =>
    refine ⟨⟨rfl, rfl⟩, ?_, ?_, ?_⟩
    · exact fun t scope => rel_expansion_step ih t scope
    · exact fun t scope => rel_evaluation_step ih t scope
    · exact fun code arguments scope => rel_call ih turns (hnone code) arguments scope

end Congruence

end MiniLisp
