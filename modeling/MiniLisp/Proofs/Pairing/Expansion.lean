import MiniLisp.Proofs.Lockstep.Expansion
import MiniLisp.Proofs.Pairing

/-! # Expansion side by side

    The passes of one level are assumed to keep runs side by side, and the next
    level of expansion is shown to do so, too, form by form. Evaluation is only
    asked for where programs may add macros: no other form evaluates anything
    while it is expanded.

    * **`Pairing.SimPasses`** — passes that keep runs side by side;
    * **`Pairing.sim_expansion_step`** — one level of expansion. -/

namespace MiniLisp

namespace Pairing

/-- Two terms differ as the likeness of a pairing allows. -/
abbrev Like (P : Pairing) : Term → Term → Prop :=
  Term.Like P.toLikeness

variable {P : Pairing} {p : Passes} {scope scope' : ScopeId}

/-- The passes keep runs side by side on terms that are alike. -/
structure SimPasses (P : Pairing) (p : Passes) : Prop where
  expand : ∀ {t t' scope scope'}, P.Like t t' → P.near scope scope' →
    P.Sim P.Like (p.expand t scope) (p.expand t' scope')
  evaluate : P.form .defineMacro → ∀ {t t' scope scope'}, P.Like t t' → P.near scope scope' →
    P.Sim P.Like (p.evaluate t scope) (p.evaluate t' scope')

/-! ## Terms in a row -/

section Rows

variable {ts ts' : List Term}

theorem sim_expandAll (hp : P.SimPasses p) (hts : List.Forall₂ P.Like ts ts')
    (hscope : P.near scope scope') :
    P.Sim (List.Forall₂ P.Like) (p.expandAll ts scope) (p.expandAll ts' scope') :=
  sim_mapM hts fun _ _ ht => hp.expand ht hscope

theorem sim_expandBody (hp : P.SimPasses p) (hts : List.Forall₂ P.Like ts ts')
    (hscope : P.near scope scope') :
    P.Sim (List.Forall₂ P.Like) (p.expandBody ts scope) (p.expandBody ts' scope') :=
  sim_bind (sim_expandAll hp hts hscope) fun _ _ hexpanded => sim_pure (alike_filter hexpanded)

end Rows

/-! ## Templates -/

section Templates

mutual

theorem sim_build (hp : P.SimPasses p) (hscope : P.near scope scope') {t t' : Term}
    (ht : P.Like t t') :
    P.Sim P.Like (Template.build p scope t) (Template.build p scope' t') := by
  cases ht with
  | list each =>
    unfold Template.build
    cases each with
    | nil => exact sim_pure (.quoted (.list .nil))
    | cons first others =>
      dsimp only
      rw [first.isSymbol_eq, first.isSymbol_eq]
      split
      · cases others with
        | nil => exact sim_fail_self _
        | cons second more =>
          cases more with
          | nil => exact hp.expand second hscope
          | cons _ _ => exact sim_fail_self _
      · split
        · exact sim_fail_self _
        · refine sim_bind (sim_buildAll hp hscope (.cons first others)) fun parts _ hparts => ?_
          exact sim_pure (.list (.cons (.ofName P.written_list) hparts))
  | nil => exact sim_pure .nil
  | bool b => exact sim_pure (.quoted (.bool b))
  | str text => exact sim_pure (.quoted (.str text))
  | num x => exact sim_pure (.quoted (.num x))
  | sym known lines => exact sim_pure (.quoted (.sym known lines))
  | function tags codes => exact sim_pure (.quoted (.function tags codes))

theorem sim_buildAll (hp : P.SimPasses p) (hscope : P.near scope scope') {ts ts' : List Term}
    (hts : List.Forall₂ P.Like ts ts') :
    P.Sim (List.Forall₂ P.Like) (Template.buildAll p scope ts)
      (Template.buildAll p scope' ts') := by
  cases hts with
  | nil => exact sim_pure .nil
  | cons first others =>
    unfold Template.buildAll
    refine sim_bind (sim_build hp hscope first) fun part part' hpart => ?_
    refine sim_bind (sim_buildAll hp hscope others) fun parts parts' hparts => ?_
    exact sim_pure (.cons hpart hparts)

end

mutual

theorem sim_unfold (hp : P.SimPasses p) (hscope : P.near scope scope') {t t' : Term}
    (ht : P.Like t t') :
    P.Sim P.Like (Template.unfold p scope t) (Template.unfold p scope' t') := by
  cases ht with
  | list each =>
    unfold Template.unfold
    cases each with
    | nil => exact sim_pure (.list .nil)
    | cons first others =>
      dsimp only
      rw [first.isSymbol_eq, first.isSymbol_eq]
      split
      · exact sim_pure (.list (.cons first others))
      · split
        · cases others with
          | nil => exact sim_fail_self _
          | cons second more =>
            cases more with
            | nil => exact sim_build hp hscope second
            | cons _ _ => exact sim_fail_self _
        · refine sim_bind (sim_unfoldAll hp hscope (.cons first others)) fun parts _ hparts => ?_
          exact sim_pure (.list hparts)
  | nil => exact sim_pure .nil
  | bool b => exact sim_pure (.bool b)
  | str text => exact sim_pure (.str text)
  | num x => exact sim_pure (.num x)
  | sym known lines => exact sim_pure (.sym known lines)
  | function tags codes => exact sim_pure (.function tags codes)

theorem sim_unfoldAll (hp : P.SimPasses p) (hscope : P.near scope scope') {ts ts' : List Term}
    (hts : List.Forall₂ P.Like ts ts') :
    P.Sim (List.Forall₂ P.Like) (Template.unfoldAll p scope ts)
      (Template.unfoldAll p scope' ts') := by
  cases hts with
  | nil => exact sim_pure .nil
  | cons first others =>
    unfold Template.unfoldAll
    refine sim_bind (sim_unfold hp hscope first) fun part part' hpart => ?_
    refine sim_bind (sim_unfoldAll hp hscope others) fun parts parts' hparts => ?_
    exact sim_pure (.cons hpart hparts)

end

theorem sim_demandRoom {t t' : Term} (ht : P.Like t t') :
    P.Sim (fun _ _ => True) (Template.demandRoom p t) (Template.demandRoom p t') := by
  unfold Template.demandRoom
  rw [ht.depth_eq]
  split
  · exact sim_pure trivial
  · exact sim_throw (.refl _ _)

theorem sim_template_expand (hp : P.SimPasses p) (hscope : P.near scope scope') {t t' : Term}
    (ht : P.Like t t') :
    P.Sim P.Like (Template.expand p t scope) (Template.expand p t' scope') :=
  sim_bind (sim_demandRoom ht) fun _ _ _ => sim_build hp hscope ht

theorem sim_expandWithin (hp : P.SimPasses p) (hscope : P.near scope scope') {t t' : Term}
    (ht : P.Like t t') :
    P.Sim P.Like (Template.expandWithin p t scope) (Template.expandWithin p t' scope') :=
  sim_bind (sim_demandRoom ht) fun _ _ _ => sim_unfold hp hscope ht

end Templates

/-! ## Special forms -/

section Forms

variable {arguments arguments' : List Term}

theorem alike_pair {t t' u u' : Term} (ht : P.Like t t') (hu : P.Like u u') :
    P.Like (.list [t, u]) (.list [t', u']) :=
  .list (.cons ht (.cons hu .nil))

/-- A form that becomes a call of a function without arguments. -/
theorem sim_singleFunction (id description : Option String) {line line' : Nat}
    (hline : P.line line line') {code code' : Code} (hcode : code.Like P.toLikeness code') :
    P.Sim P.Like
      (do
        let step ← Action.newFunction id description line code
        return .list [step])
      (do
        let step ← Action.newFunction id description line' code'
        return .list [step]) := by
  refine sim_bind (sim_newFunction id description hline hcode) fun step step' hstep => ?_
  exact sim_pure (.list (.cons hstep .nil))

theorem sim_expansion_define (hp : P.SimPasses p) (hscope : P.near scope scope')
    (harguments : List.Forall₂ P.Like arguments arguments') :
    P.Sim P.Like (Expansion.define p arguments scope)
      (Expansion.define p arguments' scope') := by
  cases harguments with
  | nil => exact sim_fail_self _
  | cons first others =>
    cases first with
    | @sym key line line' known lines =>
      have hbind : ∀ value value' : Term, P.Like value value' →
          P.Sim P.Like
            (do
              let step ← Action.newFunction none none line (.define key)
              return .list [step, value])
            (do
              let step ← Action.newFunction none none line' (.define key)
              return .list [step, value']) := by
        intro value value' hvalue
        refine sim_bind (sim_newFunction _ _ lines (.define known)) fun step step' hstep => ?_
        exact sim_pure (alike_pair hstep hvalue)
      cases others with
      | nil => exact sim_bind (sim_pure .nil) hbind
      | cons second more =>
        cases more with
        | nil => exact sim_bind (hp.expand second hscope) hbind
        | cons _ _ =>
          have herror := Likeness.SameError.ofLine (fun l => .form (.defineCount l))
            (fun _ _ => rfl) lines
          exact sim_bind (sim_fail herror) hbind
    | function tags _ =>
      exact sim_fail (.ofLine (fun l => .form (.defineName l)) (fun _ _ => rfl) tags.line)
    | bool | nil | str | num | list => exact sim_fail_self _

theorem sim_expansion_assign (hp : P.SimPasses p) (hscope : P.near scope scope')
    (harguments : List.Forall₂ P.Like arguments arguments') :
    P.Sim P.Like (Expansion.assign p arguments scope)
      (Expansion.assign p arguments' scope') := by
  cases harguments with
  | nil => exact sim_fail_self _
  | cons first others =>
    cases others with
    | nil => cases first <;> exact sim_fail_self _
    | cons second more =>
      cases more with
      | cons _ _ => cases first <;> exact sim_fail_self _
      | nil =>
        cases first with
        | sym known lines =>
          refine sim_bind (sim_newFunction _ _ lines (.assign known)) fun step step' hstep => ?_
          refine sim_bind (hp.expand second hscope) fun value value' hvalue => ?_
          exact sim_pure (alike_pair hstep hvalue)
        | bool | nil | str | num | list | function => exact sim_fail_self _

/-- Arguments that are alike begin with the same text. -/
theorem takeText_eq (h : List.Forall₂ P.Like arguments arguments') :
    (Expansion.takeText arguments').1 = (Expansion.takeText arguments).1 ∧
      List.Forall₂ P.Like (Expansion.takeText arguments).2 (Expansion.takeText arguments').2 := by
  cases h with
  | nil => exact ⟨rfl, .nil⟩
  | cons first others =>
    cases first with
    | str text => exact ⟨rfl, others⟩
    | bool b => exact ⟨rfl, .cons (.bool b) others⟩
    | nil => exact ⟨rfl, .cons .nil others⟩
    | num x => exact ⟨rfl, .cons (.num x) others⟩
    | sym known lines => exact ⟨rfl, .cons (.sym known lines) others⟩
    | list each => exact ⟨rfl, .cons (.list each) others⟩
    | function tags codes => exact ⟨rfl, .cons (.function tags codes) others⟩

theorem alike_headLine {ts ts' : List Term} (h : List.Forall₂ P.Like ts ts') :
    P.line ((ts.head?.map Term.line).getD 0) ((ts'.head?.map Term.line).getD 0) := by
  cases h with
  | nil => exact P.line_zero
  | cons first _ => exact first.line

theorem sim_makeClosure {formals : List String} {rest : Option String}
    (hnames : ∀ key ∈ formals ++ rest.toList, P.name key) {body body' : List Term}
    (hbody : List.Forall₂ P.Like body body') {line line' : Nat} (hline : P.line line line')
    (description : Option String) (id id' : String) (hid : id = id') :
    P.Sim P.Like
      (do
        let step ← Action.newStep (.makeClosure formals rest body id description line)
        return .list [step])
      (do
        let step ← Action.newStep (.makeClosure formals rest body' id' description line')
        return .list [step]) := by
  subst hid
  exact sim_singleFunction none none P.line_zero (.makeClosure hnames hbody hline)

theorem sim_lambda (hp : P.SimPasses p) (hscope : P.near scope scope')
    (harguments : List.Forall₂ P.Like arguments arguments') :
    P.Sim P.Like (Expansion.lambda p arguments scope)
      (Expansion.lambda p arguments' scope') := by
  obtain ⟨hid, hafterId⟩ := takeText_eq harguments
  obtain ⟨hdescription, hremaining⟩ := takeText_eq hafterId
  unfold Expansion.lambda
  dsimp only
  rw [hid, hdescription]
  -- What the two optional texts were does not matter from here on.
  generalize (Expansion.takeText arguments).1 = id
  generalize (Expansion.takeText (Expansion.takeText arguments).2).1 = description
  generalize (Expansion.takeText (Expansion.takeText arguments).2).2 = remaining,
    (Expansion.takeText (Expansion.takeText arguments').2).2 = remaining' at hremaining
  cases hremaining with
  | nil => exact sim_fail_self _
  | cons first others =>
    cases others with
    | nil => cases first <;> exact sim_fail_self _
    | cons second more =>
      cases first with
      | @list parameters parameters' each =>
        dsimp only
        rw [symbolNames?_eq each]
        cases hnames : Term.symbolNames? parameters with
        | none => exact sim_fail_self _
        | some names =>
          dsimp only
          cases hsplit : Expansion.splitParameters names with
          | error e => exact sim_fail_self _
          | ok split =>
            obtain ⟨formals, rest⟩ := split
            have hknown : ∀ key ∈ formals ++ rest.toList, P.name key := fun key hkey =>
              known_of_symbolNames? each hnames key
                (Lockstep.mem_of_splitParameters hsplit key hkey)
            refine sim_bind (sim_expandBody hp (.cons second more) hscope) fun body _ hbody => ?_
            have hmake := sim_makeClosure hknown hbody (alike_headLine each) description
            -- A function without a name counts, which both runs do alike.
            cases id with
            | some id => exact sim_bind (sim_pure rfl) hmake
            | none =>
              refine sim_bind sim_nextLambda fun number number' (hnumber : number = number') => ?_
              exact sim_bind (sim_pure (hnumber ▸ rfl)) hmake
      | bool | nil | str | num | sym | function => exact sim_fail_self _

theorem sim_namedLambda (hp : P.SimPasses p) (hscope : P.near scope scope')
    (harguments : List.Forall₂ P.Like arguments arguments') :
    P.Sim P.Like (Expansion.namedLambda p arguments scope)
      (Expansion.namedLambda p arguments' scope') := by
  cases harguments with
  | nil => exact sim_fail_self _
  | cons first others =>
    cases first with
    | @sym key line line' known lines =>
      -- The two words of the longer form are new; all else comes from the arguments.
      have hword : ∀ form ∈ [SpecialForm.define, .lambda, .quote],
          P.Like (.sym form.name line) (.sym form.name line') := fun form hform =>
        .sym (P.written form hform) lines
      refine hp.expand (.list (.cons (hword .define (by simp)) ?_)) hscope
      refine .cons (.sym known lines) (.cons (.list ?_) .nil)
      exact .cons (hword .lambda (by simp)) (.cons (.str key) others)
    | bool | nil | str | num | list | function => exact sim_fail_self _

theorem sim_branch (hp : P.SimPasses p) (hscope : P.near scope scope')
    (harguments : List.Forall₂ P.Like arguments arguments') :
    P.Sim P.Like (Expansion.branch p arguments scope)
      (Expansion.branch p arguments' scope') := by
  unfold Expansion.branch
  extract_lets rest rest'
  -- The three shapes of the form lead to one continuation.
  have hrest : ∀ parts parts' : Term × Term × Option Term,
      P.Like parts.1 parts'.1 ∧ P.Like parts.2.1 parts'.2.1 ∧
        Option.Rel P.Like parts.2.2 parts'.2.2 →
      P.Sim P.Like (rest parts) (rest' parts') := by
    rintro ⟨condition, thenForm, elseForm⟩ ⟨condition', thenForm', elseForm'⟩
      ⟨hcondition, hthen, helse⟩
    refine sim_bind (hp.expand hcondition hscope) fun test test' htest => ?_
    refine sim_bind (hp.expand hthen hscope) fun thenCase thenCase' hthenCase => ?_
    extract_lets make make'
    have hmake : ∀ elseCase elseCase' : Term, P.Like elseCase elseCase' →
        P.Sim P.Like (make elseCase) (make' elseCase') := by
      intro elseCase elseCase' helseCase
      refine sim_bind sim_nextBranch fun number number' (hnumber : number = number') => ?_
      subst hnumber
      have hcode := Code.Like.branch hthenCase helseCase
      refine sim_bind (sim_newFunction _ _ hcondition.line hcode) fun step step' hstep => ?_
      exact sim_pure (alike_pair hstep htest)
    cases helse with
    | some h => exact sim_bind (hp.expand h hscope) hmake
    | none => exact sim_bind (sim_pure .nil) hmake
  cases harguments with
  | nil => exact sim_bind (sim_fail_self _) hrest
  | cons first others =>
    cases others with
    | nil => exact sim_bind (sim_fail_self _) hrest
    | cons second others =>
      cases others with
      | nil => exact sim_bind (sim_pure ⟨first, second, .none⟩) hrest
      | cons third others =>
        cases others with
        | nil => exact sim_bind (sim_pure ⟨first, second, .some third⟩) hrest
        | cons _ _ => exact sim_bind (sim_fail_self _) hrest

theorem sim_begin (hp : P.SimPasses p) (hscope : P.near scope scope')
    (harguments : List.Forall₂ P.Like arguments arguments') :
    P.Sim P.Like (Expansion.begin p arguments scope) (Expansion.begin p arguments' scope') := by
  refine sim_bind (sim_newStep .lastValue) fun step step' hstep => ?_
  refine sim_bind (sim_expandAll hp harguments hscope) fun forms forms' hforms => ?_
  exact sim_pure (.list (.cons hstep hforms))

theorem sim_expansion_loop (hp : P.SimPasses p) (hscope : P.near scope scope')
    (harguments : List.Forall₂ P.Like arguments arguments') :
    P.Sim P.Like (Expansion.loop p arguments scope) (Expansion.loop p arguments' scope') := by
  cases harguments with
  | nil => exact sim_fail_self _
  | cons first others =>
    refine sim_bind (hp.expand first hscope) fun test test' htest => ?_
    refine sim_bind (sim_expandBody hp others hscope) fun body body' hbody => ?_
    exact sim_singleFunction _ _ P.line_zero (.loop htest hbody)

theorem sim_leave (harguments : List.Forall₂ P.Like arguments arguments') :
    P.Sim P.Like (Expansion.leave arguments) (Expansion.leave arguments') := by
  cases harguments with
  | nil => exact sim_singleFunction _ _ P.line_zero .leaveLoop
  | cons _ _ => exact sim_fail_self _

theorem sim_guard (hp : P.SimPasses p) (hscope : P.near scope scope')
    (harguments : List.Forall₂ P.Like arguments arguments') :
    P.Sim P.Like (Expansion.guard p arguments scope) (Expansion.guard p arguments' scope') := by
  unfold Expansion.guard
  extract_lets rest rest'
  have hrest : ∀ parts parts' : Term × Option Term,
      P.Like parts.1 parts'.1 ∧ Option.Rel P.Like parts.2 parts'.2 →
      P.Sim P.Like (rest parts) (rest' parts') := by
    rintro ⟨body, fallback⟩ ⟨body', fallback'⟩ ⟨hbody, hfallback⟩
    refine sim_bind (hp.expand hbody hscope) fun expanded expanded' hexpanded => ?_
    extract_lets make make'
    have hmake : ∀ f f' : Term, P.Like f f' → P.Sim P.Like (make f) (make' f') :=
      fun f f' hf => sim_singleFunction _ _ P.line_zero (.guarded hexpanded hf)
    cases hfallback with
    | some h => exact sim_bind (hp.expand h hscope) hmake
    | none => exact sim_bind (sim_pure .nil) hmake
  cases harguments with
  | nil => exact sim_bind (sim_fail_self _) hrest
  | cons first others =>
    cases others with
    | nil => exact sim_bind (sim_pure ⟨first, .none⟩) hrest
    | cons second others =>
      cases others with
      | nil => exact sim_bind (sim_pure ⟨first, .some second⟩) hrest
      | cons _ _ => exact sim_bind (sim_fail_self _) hrest

theorem sim_applied (hp : P.SimPasses p) (hscope : P.near scope scope') {code : Code}
    (hcode : code.Like P.toLikeness code) (wrong : FormError)
    (harguments : List.Forall₂ P.Like arguments arguments') :
    P.Sim P.Like (Expansion.applied p code wrong arguments scope)
      (Expansion.applied p code wrong arguments' scope') := by
  cases harguments with
  | nil => exact sim_fail_self _
  | cons first others =>
    cases others with
    | nil =>
      refine sim_bind (sim_newStep hcode) fun step step' hstep => ?_
      refine sim_bind (hp.expand first hscope) fun argument argument' hargument => ?_
      exact sim_pure (alike_pair hstep hargument)
    | cons _ _ => exact sim_fail_self _

/-- A host expression has the variables that it was declared with. -/
theorem concur_hostProgramWithin [Host.Platform]
    (room : Nat) (source : String) (names : List String) :
    Concur (fun program program' => program' = program ∧ program.names = names)
      (Expansion.hostProgramWithin room source names)
      (Expansion.hostProgramWithin room source names) := by
  cases h : Expansion.hostProgramWithin room source names with
  | error e => exact .error e
  | ok program =>
    rcases extends_hostProgramWithin (Nat.le_refl room) source names with hout | ⟨-, hnames⟩
    · rw [h] at hout
      cases hout
    · exact .ok ⟨rfl, hnames program h⟩

theorem sim_expansion_host [Host.Platform] (harguments : List.Forall₂ P.Like arguments arguments') :
    P.Sim P.Like (Expansion.host p arguments) (Expansion.host p arguments') := by
  cases harguments with
  | nil => exact sim_fail_self _
  | @cons _ _ declared declared' first others =>
    cases first with
    | str source =>
      unfold Expansion.host
      dsimp only
      rw [symbolNames?_eq others]
      cases hnames : Term.symbolNames? declared with
      | none => exact sim_fail_self _
      | some names =>
        refine sim_bind (sim_ofResult (concur_hostProgramWithin p.room source names)) ?_
        rintro program _ ⟨rfl, hprogram⟩
        have hknown := known_of_symbolNames? others hnames
        exact sim_singleFunction _ _ P.line_zero (.host (hprogram ▸ hknown))
    | bool | nil | num | sym | list | function => exact sim_fail_self _

theorem sim_quote (harguments : List.Forall₂ P.Like arguments arguments') :
    P.Sim P.Like (Expansion.quote arguments) (Expansion.quote arguments') := by
  cases harguments with
  | nil => exact sim_fail_self _
  | cons first others =>
    cases others with
    | nil => exact sim_pure first
    | cons _ _ => exact sim_fail_self _

theorem sim_quasiquote (hp : P.SimPasses p) (hscope : P.near scope scope')
    (harguments : List.Forall₂ P.Like arguments arguments') :
    P.Sim P.Like (Expansion.quasiquote p arguments scope)
      (Expansion.quasiquote p arguments' scope') := by
  cases harguments with
  | nil => exact sim_fail_self _
  | cons first others =>
    cases others with
    | nil => exact sim_template_expand hp hscope first
    | cons _ _ => exact sim_fail_self _

section Adding

variable (adds : P.form .defineMacro)
include adds

theorem sim_aliasMacro {key model : String} (hkey : P.name key) (hmodel : P.name model) :
    P.Sim P.Like (Expansion.aliasMacro key model) (Expansion.aliasMacro key model) := by
  refine sim_bind (sim_findMacro hmodel) fun found found' hfound => ?_
  cases hfound with
  | none => exact sim_fail_self _
  | some h => exact sim_bind (sim_addMacro adds hkey h) fun _ _ _ => sim_pure .nil

theorem sim_defineMacro (harguments : List.Forall₂ P.Like arguments arguments') :
    P.Sim P.Like (Expansion.defineMacro arguments) (Expansion.defineMacro arguments') := by
  cases harguments with
  | nil => exact sim_fail_self _
  | cons first others =>
    cases others with
    | nil => cases first <;> exact sim_fail_self _
    | cons second others =>
      cases others with
      | nil =>
        cases first with
        | sym known _ =>
          cases second with
          | sym known' _ => exact sim_aliasMacro adds known known'
          | bool | nil | str | num | list | function => exact sim_fail_self _
        | bool | nil | str | num | list | function => exact sim_fail_self _
      | cons third others =>
        cases others with
        | nil =>
          cases first with
          | sym known _ =>
            cases second with
            | @list parameters _ each =>
              unfold Expansion.defineMacro
              dsimp only
              rw [symbolNames?_eq each]
              cases hnames : Term.symbolNames? parameters with
              | none => exact sim_fail_self _
              | some names =>
                have hknown := known_of_symbolNames? each hnames
                cases third with
                | list forms =>
                  refine sim_bind (sim_addMacro adds known (.template adds hknown forms)) ?_
                  exact fun _ _ _ => sim_pure .nil
                | bool | nil | str | num | sym | function => exact sim_fail_self _
            | bool | nil | str | num | sym | function => exact sim_fail_self _
          | bool | nil | str | num | list | function => exact sim_fail_self _
        | cons _ _ => cases first <;> cases second <;> exact sim_fail_self _

end Adding

end Forms

/-! ## Macros -/

section Macros

variable {arguments arguments' : List Term}

theorem alike_zip {names : List String} (hnames : ∀ name ∈ names, P.name name)
    {ts ts' : List Term} (h : List.Forall₂ P.Like ts ts') :
    List.Forall₂ P.LikeEntry (names.zip ts) (names.zip ts') := by
  induction h generalizing names with
  | nil => simp
  | cons first _ ih =>
    cases names with
    | nil => exact .nil
    | cons name rest =>
      obtain ⟨hname, hrest⟩ := List.forall_mem_cons.1 hnames
      exact .cons ⟨rfl, hname, first⟩ (ih hrest)

/-- The body of a template runs in a scope made for the call, whose parameters
    mean their quoted arguments. -/
theorem sim_template (hp : P.SimPasses p) (adds : P.form .defineMacro)
    (hscope : P.near scope scope') (key : String) {parameters : List String}
    (hparameters : ∀ name ∈ parameters, P.name name) {body body' : List Term}
    (hbody : List.Forall₂ P.Like body body')
    (harguments : List.Forall₂ P.Like arguments arguments') :
    P.Sim P.Like (Expansion.template p key parameters body arguments scope)
      (Expansion.template p key parameters body' arguments' scope') := by
  unfold Expansion.template
  rw [harguments.length_eq]
  split
  · exact sim_fail_self _
  · refine sim_bind (sim_newScope adds hscope) fun inner inner' hinner => ?_
    -- A closure among the arguments is quoted with them and bound like them.
    have hentries : List.Forall₂ P.LikeEntry (parameters.zip (arguments.map Term.quoted))
        (parameters.zip (arguments'.map Term.quoted)) :=
      alike_zip hparameters (List.rel_map (fun _ _ h => h.quoted) harguments)
    have hbind :=
      sim_bindAll (fun _ _ _ hkey hvalue => sim_define adds hinner hkey hvalue) hentries
    refine sim_bind hbind fun _ _ _ => ?_
    refine sim_bind (sim_expandWithin hp hinner (.list hbody)) fun code code' hcode => ?_
    refine sim_bind (hp.evaluate adds hcode hinner) fun produced produced' hproduced => ?_
    refine sim_bind (hp.expand hproduced hinner) fun expanded expanded' hexpanded => ?_
    exact hp.expand hexpanded hinner

theorem sim_special [Host.Platform]
    (hp : P.SimPasses p) (hscope : P.near scope scope') {form : SpecialForm}
    (known : P.form form) (harguments : List.Forall₂ P.Like arguments arguments') :
    P.Sim P.Like (Expansion.special p form arguments scope)
      (Expansion.special p form arguments' scope') := by
  cases form with
  | define => exact sim_expansion_define hp hscope harguments
  | branch => exact sim_branch hp hscope harguments
  | evaluate => exact sim_applied hp hscope .evaluateValue _ harguments
  | lambda => exact sim_lambda hp hscope harguments
  | namedLambda => exact sim_namedLambda hp hscope harguments
  | begin => exact sim_begin hp hscope harguments
  | loop => exact sim_expansion_loop hp hscope harguments
  | leave => exact sim_leave harguments
  | assign => exact sim_expansion_assign hp hscope harguments
  | quote => exact sim_quote harguments
  | quasiquote => exact sim_quasiquote hp hscope harguments
  | unquote => exact sim_fail_self _
  | unquoteSplice => exact sim_fail_self _
  | readText => exact sim_applied hp hscope (.readText known) _ harguments
  | defineMacro => exact sim_defineMacro known harguments
  | guard => exact sim_guard hp hscope harguments
  | throw => exact sim_applied hp hscope .throwValue _ harguments
  | host => exact sim_expansion_host harguments

theorem sim_callMacro [Host.Platform]
    (hp : P.SimPasses p) (hscope : P.near scope scope') {m m' : Macro}
    (hm : m.Like P.toLikeness m') (harguments : List.Forall₂ P.Like arguments arguments') :
    P.Sim P.Like (Expansion.callMacro p m arguments scope)
      (Expansion.callMacro p m' arguments' scope') := by
  obtain ⟨key, expander⟩ := m
  obtain ⟨key', expander'⟩ := m'
  cases hm with
  | special known => exact sim_special hp hscope known harguments
  | template adds known bodies => exact sim_template hp adds hscope _ known bodies harguments

theorem sim_macroOf {head head' : Term} (hhead : P.Like head head') :
    P.Sim (Option.Rel (Macro.Like P.toLikeness)) (Expansion.macroOf head)
      (Expansion.macroOf head') := by
  cases hhead with
  | sym known _ => exact sim_findMacro known
  | bool | nil | str | num | list | function => exact sim_pure .none

theorem sim_expansion_step [Host.Platform]
    (hp : P.SimPasses p) (hscope : P.near scope scope') {t t' : Term}
    (ht : P.Like t t') :
    P.Sim P.Like (Expansion.step p t scope) (Expansion.step p t' scope') := by
  cases ht with
  | @list items items' each =>
    unfold Expansion.step
    dsimp only
    have hitems := alike_filter each
    generalize items.filter (fun t => !t.isNil) = kept,
      items'.filter (fun t => !t.isNil) = kept' at hitems
    cases hitems with
    | nil => exact sim_pure .nil
    | cons first others =>
      refine sim_bind (sim_macroOf first) fun found found' hfound => ?_
      cases hfound with
      | some h => exact sim_callMacro hp hscope h others
      | none =>
        refine sim_bind (sim_expandAll hp (.cons first others) hscope) fun expanded _ h => ?_
        exact sim_pure (.list h)
  | bool b => exact sim_pure (.bool b)
  | nil => exact sim_pure .nil
  | str text => exact sim_pure (.str text)
  | num x => exact sim_pure (.num x)
  | sym known lines => exact sim_pure (.sym known lines)
  | function tags codes => exact sim_pure (.function tags codes)

end Macros

end Pairing

end MiniLisp
