import MiniLisp.Proofs.Lockstep

/-! # Expansion in lockstep

    The passes of one level are assumed to run in lockstep with those of
    another record, which may have more room, and the next level of expansion
    is shown to do so, too, form by form.

    The terms that come out mention only what the terms that went in mention,
    the words of the language, and the scopes that were made on the way.

    * **`Lockstep.SimPasses`** — two records of passes that run in lockstep;
    * **`Lockstep.sim_expansion_step`** — one level of expansion. -/

namespace MiniLisp

namespace Lockstep

variable {L : Lockstep} {p q : Passes} {scope : ScopeId}

/-- The passes run in lockstep on whatever is allowed. -/
structure SimPasses (L : Lockstep) (p q : Passes) : Prop where
  room_le : p.room ≤ q.room
  /-- The first run may only have less room if it is let go where that ends. -/
  room_eq : p.room = q.room ∨ L.excused .exhausted
  expand : ∀ t scope, t.Within L.allowed → L.allowed (.scope scope) →
    L.Sim (Term.Within L.allowed) (p.expand t scope) (q.expand t scope)
  evaluate : ∀ t scope, t.Within L.allowed → L.allowed (.scope scope) →
    L.Sim (Term.Within L.allowed) (p.evaluate t scope) (q.evaluate t scope)
  call : ∀ code arguments scope, code.Within L.allowed →
    (∀ t ∈ arguments, t.Within L.allowed) → L.allowed (.scope scope) →
    L.Sim (Term.Within L.allowed) (p.call code arguments scope) (q.call code arguments scope)

/-! ## Terms in a row -/

section Rows

variable {ts : List Term}

theorem sim_expandAll (hp : L.SimPasses p q) (hts : ∀ t ∈ ts, t.Within L.allowed)
    (hscope : L.allowed (.scope scope)) :
    L.Sim (fun out => ∀ t ∈ out, t.Within L.allowed) (p.expandAll ts scope)
      (q.expandAll ts scope) :=
  sim_mapM fun t ht => hp.expand t scope (hts t ht) hscope

theorem sim_expandBody (hp : L.SimPasses p q) (hts : ∀ t ∈ ts, t.Within L.allowed)
    (hscope : L.allowed (.scope scope)) :
    L.Sim (fun out => ∀ t ∈ out, t.Within L.allowed) (p.expandBody ts scope)
      (q.expandBody ts scope) := by
  refine sim_bind (sim_expandAll hp hts hscope) fun expanded hexpanded => ?_
  exact sim_pure fun t ht => hexpanded t (List.mem_of_mem_filter ht)

theorem sim_evaluateAll (hp : L.SimPasses p q) (hts : ∀ t ∈ ts, t.Within L.allowed)
    (hscope : L.allowed (.scope scope)) :
    L.Sim (fun out => ∀ t ∈ out, t.Within L.allowed) (p.evaluateAll ts scope)
      (q.evaluateAll ts scope) :=
  sim_mapM fun t ht => hp.evaluate t scope (hts t ht) hscope

theorem sim_evaluateBody (hp : L.SimPasses p q) {last : Term} (hlast : last.Within L.allowed)
    (hts : ∀ t ∈ ts, t.Within L.allowed) (hscope : L.allowed (.scope scope)) :
    L.Sim (Term.Within L.allowed) (p.evaluateBody last ts scope)
      (q.evaluateBody last ts scope) := by
  induction ts generalizing last with
  | nil => exact sim_pure hlast
  | cons t rest ih =>
    obtain ⟨ht, hrest⟩ := List.forall_mem_cons.1 hts
    exact sim_bind (hp.evaluate t scope ht hscope) fun value hvalue => ih hvalue hrest

end Rows

/-! ## Printing and reading -/

theorem sim_print (hp : L.SimPasses p q) (t : Term) :
    L.Sim (fun _ => True) (p.print t) (q.print t) := by
  have hroom := hp.room_le
  refine sim_ofResult ?_ (hp.room_eq.imp_left fun h => by rw [h])
  unfold Term.printWithin
  by_cases hdepth : t.depth ≤ p.room
  · rw [if_pos hdepth, if_pos (Nat.le_trans hdepth hroom)]
    exact extends_ok trivial
  · rw [if_neg hdepth]
    exact .inl rfl

theorem sim_parse (hp : L.SimPasses p q) (text : String) :
    L.Sim (fun forms => ∀ t ∈ forms, t.Within L.allowed) (p.parse text) (q.parse text) := by
  refine sim_ofResult ?_ (hp.room_eq.imp_left fun h => by rw [h])
  exact extends_parseWithin L.word hp.room_le text

/-! ## Templates -/

section Templates

theorem within_quoted {t : Term} (ht : t.Within L.allowed) : t.quoted.Within L.allowed := by
  have hword := L.word _ (isWord_specialForm .quote)
  simpa [Term.quoted, Term.ofName] using ⟨hword, ht⟩

mutual

theorem sim_build (hp : L.SimPasses p q) (hscope : L.allowed (.scope scope)) :
    (t : Term) → t.Within L.allowed →
      L.Sim (Term.Within L.allowed) (Template.build p scope t) (Template.build q scope t)
  | .list items, ht => by
    have hitems := Term.within_list.1 ht
    unfold Template.build
    cases items with
    | nil => exact sim_pure (within_quoted ht)
    | cons head rest =>
      dsimp only
      split
      · split
        · next t =>
          have harg : t.Within L.allowed := hitems t (by simp)
          exact hp.expand t scope harg hscope
        · exact sim_fail _
      · split
        · exact sim_fail _
        · refine sim_bind (sim_buildAll hp hscope (head :: rest) hitems) fun parts hparts => ?_
          have hlist := L.word _ (isWord_builtin .list)
          exact sim_pure (Term.within_list.2
            (List.forall_mem_cons.2 ⟨Term.within_sym.2 hlist, hparts⟩))
  | .nil, ht => sim_pure ht
  | .bool _, ht | .str _, ht | .num _, ht | .sym _ _, ht | .function _ _, ht =>
    sim_pure (within_quoted ht)

theorem sim_buildAll (hp : L.SimPasses p q) (hscope : L.allowed (.scope scope)) :
    (ts : List Term) → (∀ t ∈ ts, t.Within L.allowed) →
      L.Sim (fun out => ∀ t ∈ out, t.Within L.allowed) (Template.buildAll p scope ts)
        (Template.buildAll q scope ts)
  | [], _ => sim_pure (by simp)
  | t :: rest, hts => by
    obtain ⟨ht, hrest⟩ := List.forall_mem_cons.1 hts
    -- The first part is built first: it may expand macros of its own.
    unfold Template.buildAll
    refine sim_bind (sim_build hp hscope t ht) fun part hpart => ?_
    refine sim_bind (sim_buildAll hp hscope rest hrest) fun parts hparts => ?_
    exact sim_pure (List.forall_mem_cons.2 ⟨hpart, hparts⟩)

end

mutual

theorem sim_unfold (hp : L.SimPasses p q) (hscope : L.allowed (.scope scope)) :
    (t : Term) → t.Within L.allowed →
      L.Sim (Term.Within L.allowed) (Template.unfold p scope t) (Template.unfold q scope t)
  | .list items, ht => by
    have hitems := Term.within_list.1 ht
    unfold Template.unfold
    cases items with
    | nil => exact sim_pure ht
    | cons head rest =>
      dsimp only
      split
      · exact sim_pure ht
      · split
        · split
          · next t => exact sim_build hp hscope t (hitems t (by simp))
          · exact sim_fail _
        · refine sim_bind (sim_unfoldAll hp hscope (head :: rest) hitems) fun parts hparts => ?_
          exact sim_pure (Term.within_list.2 hparts)
  | .nil, ht | .bool _, ht | .str _, ht | .num _, ht | .sym _ _, ht | .function _ _, ht =>
    sim_pure ht

theorem sim_unfoldAll (hp : L.SimPasses p q) (hscope : L.allowed (.scope scope)) :
    (ts : List Term) → (∀ t ∈ ts, t.Within L.allowed) →
      L.Sim (fun out => ∀ t ∈ out, t.Within L.allowed) (Template.unfoldAll p scope ts)
        (Template.unfoldAll q scope ts)
  | [], _ => sim_pure (by simp)
  | t :: rest, hts => by
    obtain ⟨ht, hrest⟩ := List.forall_mem_cons.1 hts
    unfold Template.unfoldAll
    refine sim_bind (sim_unfold hp hscope t ht) fun part hpart => ?_
    refine sim_bind (sim_unfoldAll hp hscope rest hrest) fun parts hparts => ?_
    exact sim_pure (List.forall_mem_cons.2 ⟨hpart, hparts⟩)

end

theorem sim_demandRoom (hp : L.SimPasses p q) (t : Term) :
    L.Sim (fun _ => True) (Template.demandRoom p t) (Template.demandRoom q t) := by
  have hroom := hp.room_le
  unfold Template.demandRoom
  by_cases hdepth : t.depth ≤ p.room
  · rw [if_pos hdepth, if_pos (Nat.le_trans hdepth hroom)]
    exact sim_pure trivial
  -- The second run may have the room that the first one lacks.
  · rw [if_neg hdepth]
    rcases hp.room_eq with heq | hexcused
    · rw [if_neg (heq ▸ hdepth)]
      exact sim_throw _
    · exact sim_excused hexcused

theorem sim_template_expand (hp : L.SimPasses p q) {t : Term} (ht : t.Within L.allowed)
    (hscope : L.allowed (.scope scope)) :
    L.Sim (Term.Within L.allowed) (Template.expand p t scope) (Template.expand q t scope) :=
  sim_bind (sim_demandRoom hp t) fun _ _ => sim_build hp hscope t ht

theorem sim_expandWithin (hp : L.SimPasses p q) {t : Term} (ht : t.Within L.allowed)
    (hscope : L.allowed (.scope scope)) :
    L.Sim (Term.Within L.allowed) (Template.expandWithin p t scope)
      (Template.expandWithin q t scope) :=
  sim_bind (sim_demandRoom hp t) fun _ _ => sim_unfold hp hscope t ht

end Templates

/-! ## Special forms -/

section Forms

variable {arguments : List Term}

theorem within_pair {t u : Term} (ht : t.Within L.allowed) (hu : u.Within L.allowed) :
    (Term.list [t, u]).Within L.allowed := by
  simpa using ⟨ht, hu⟩

theorem within_single {t : Term} (ht : t.Within L.allowed) :
    (Term.list [t]).Within L.allowed := by
  simpa using ht

/-- A form that becomes a call of a function without arguments. -/
theorem sim_singleFunction (id description : Option String) (line : Nat) {code : Code}
    (hcode : code.Within L.allowed) :
    L.Sim (Term.Within L.allowed)
      (do
        let step ← Action.newFunction id description line code
        return .list [step])
      (do
        let step ← Action.newFunction id description line code
        return .list [step]) := by
  refine sim_bind (sim_newFunction id description line hcode) fun step hstep => ?_
  exact sim_pure (within_single hstep)

theorem sim_expansion_define (hp : L.SimPasses p q)
    (harguments : ∀ t ∈ arguments, t.Within L.allowed) (hscope : L.allowed (.scope scope)) :
    L.Sim (Term.Within L.allowed) (Expansion.define p arguments scope)
      (Expansion.define q arguments scope) := by
  unfold Expansion.define
  split
  · next name line values =>
    have hname : L.allowed (.name name) := Term.within_sym.1 (harguments _ List.mem_cons_self)
    extract_lets bind
    have hbind : ∀ value : Term, value.Within L.allowed →
        L.Sim (Term.Within L.allowed) (bind value) (bind value) := by
      intro value hvalue
      refine sim_bind (sim_newFunction _ _ _ (Code.within_define.2 hname)) fun step hstep => ?_
      exact sim_pure (within_pair hstep hvalue)
    split
    · exact sim_bind (sim_pure Term.within_nil) hbind
    · next t =>
      have ht : t.Within L.allowed := harguments t (by simp)
      exact sim_bind (hp.expand t scope ht hscope) hbind
    · exact sim_bind (sim_fail _) hbind
  · exact sim_fail _
  · exact sim_fail _

theorem sim_expansion_assign (hp : L.SimPasses p q)
    (harguments : ∀ t ∈ arguments, t.Within L.allowed) (hscope : L.allowed (.scope scope)) :
    L.Sim (Term.Within L.allowed) (Expansion.assign p arguments scope)
      (Expansion.assign q arguments scope) := by
  unfold Expansion.assign
  split
  · next name line t =>
    have hname : L.allowed (.name name) := Term.within_sym.1 (harguments _ List.mem_cons_self)
    have ht : t.Within L.allowed := harguments t (by simp)
    refine sim_bind (sim_newFunction _ _ _ (Code.within_assign.2 hname)) fun step hstep => ?_
    refine sim_bind (hp.expand t scope ht hscope) fun value hvalue => ?_
    exact sim_pure (within_pair hstep hvalue)
  · exact sim_fail _
  · exact sim_fail _

/-- The formal parameters and the rest parameter are among the names. -/
theorem mem_of_splitParameters {names formals : List String} {rest : Option String}
    (h : Expansion.splitParameters names = .ok (formals, rest)) :
    ∀ name ∈ formals ++ rest.toList, name ∈ names := by
  have hdrop : ∀ name ∈ names.dropWhile (· != "&"), name ∈ names := fun name hname =>
    (List.dropWhile_sublist _).subset hname
  unfold Expansion.splitParameters at h
  intro name hname
  split at h
  · cases h
    simpa using hname
  · next last hlast =>
    cases h
    rcases List.mem_append.1 hname with hformal | hrest
    · exact (List.takeWhile_sublist _).subset hformal
    · have heq : name = last := by simpa using hrest
      exact hdrop name (by simp [hlast, heq])
  · cases h

theorem subset_takeText (arguments : List Term) :
    ∀ t ∈ (Expansion.takeText arguments).2, t ∈ arguments := by
  unfold Expansion.takeText
  split
  · exact fun t ht => List.mem_cons_of_mem _ ht
  · exact fun t ht => ht

theorem sim_lambda (hp : L.SimPasses p q) (harguments : ∀ t ∈ arguments, t.Within L.allowed)
    (hscope : L.allowed (.scope scope)) :
    L.Sim (Term.Within L.allowed) (Expansion.lambda p arguments scope)
      (Expansion.lambda q arguments scope) := by
  unfold Expansion.lambda
  dsimp only
  have hremaining : ∀ t ∈ (Expansion.takeText (Expansion.takeText arguments).2).2,
      t.Within L.allowed := fun t ht =>
    harguments t (subset_takeText _ t (subset_takeText _ t ht))
  -- What the two optional texts were does not matter from here on.
  generalize (Expansion.takeText (Expansion.takeText arguments).2).2 = remaining at hremaining
  split
  · next parameters form forms =>
    have hparameters := Term.within_list.1 (hremaining _ List.mem_cons_self)
    have hforms : ∀ t ∈ form :: forms, t.Within L.allowed := fun t ht =>
      hremaining t (List.mem_cons_of_mem _ ht)
    split
    · exact sim_fail _
    · next names hnames =>
      split
      · exact sim_fail _
      · next formals rest hsplit =>
        have hallowed : ∀ name ∈ formals ++ rest.toList, L.allowed (.name name) := by
          intro name hname
          have hmem := mem_of_splitParameters hsplit name hname
          exact allowed_of_symbolNames? hnames hparameters name hmem
        refine sim_bind (sim_expandBody hp hforms hscope) fun body hbody => ?_
        have hcode : ∀ (id : String) (description : Option String) (line : Nat),
            (Code.makeClosure formals rest body id description line).Within L.allowed :=
          fun _ _ _ => Code.within_makeClosure.2 ⟨hallowed, hbody⟩
        have hid : ∀ id : String, L.Sim (fun _ => True) (pure id) (pure id) := fun _ =>
          sim_pure trivial
        -- A function without a name counts, which both runs do alike.
        split
        · exact sim_bind (hid _) fun id _ => sim_singleFunction _ _ _ (hcode id _ _)
        · refine sim_bind sim_nextLambda fun number _ => ?_
          exact sim_bind (hid _) fun id _ => sim_singleFunction _ _ _ (hcode id _ _)
  · exact sim_fail _
  · exact sim_fail _

theorem sim_namedLambda (hp : L.SimPasses p q) (harguments : ∀ t ∈ arguments, t.Within L.allowed)
    (hscope : L.allowed (.scope scope)) :
    L.Sim (Term.Within L.allowed) (Expansion.namedLambda p arguments scope)
      (Expansion.namedLambda q arguments scope) := by
  unfold Expansion.namedLambda
  split
  · next name line rest =>
    refine hp.expand _ scope ?_ hscope
    -- The two words of the longer form are new; all else comes from the arguments.
    have hdefine := L.word _ (isWord_specialForm .define)
    have hlambda := L.word _ (isWord_specialForm .lambda)
    obtain ⟨hname, hrest⟩ := List.forall_mem_cons.1 harguments
    simpa [hdefine, hlambda] using ⟨Term.within_sym.1 hname, hrest⟩
  · exact sim_fail _

theorem sim_branch (hp : L.SimPasses p q) (harguments : ∀ t ∈ arguments, t.Within L.allowed)
    (hscope : L.allowed (.scope scope)) :
    L.Sim (Term.Within L.allowed) (Expansion.branch p arguments scope)
      (Expansion.branch q arguments scope) := by
  unfold Expansion.branch
  extract_lets rest rest'
  -- The three shapes of the form lead to one continuation.
  have hrest : ∀ parts : Term × Term × Option Term,
      parts.1.Within L.allowed ∧ parts.2.1.Within L.allowed ∧
        (∀ e ∈ parts.2.2, e.Within L.allowed) →
      L.Sim (Term.Within L.allowed) (rest parts) (rest' parts) := by
    rintro ⟨condition, thenForm, elseForm⟩ ⟨hcondition, hthen, helse⟩
    refine sim_bind (hp.expand _ scope hcondition hscope) fun test htest => ?_
    refine sim_bind (hp.expand _ scope hthen hscope) fun thenCase hthenCase => ?_
    extract_lets make
    have hmake : ∀ elseCase : Term, elseCase.Within L.allowed →
        L.Sim (Term.Within L.allowed) (make elseCase) (make elseCase) := by
      intro elseCase helseCase
      refine sim_bind sim_nextBranch fun number _ => ?_
      have hcode : (Code.branch thenCase elseCase).Within L.allowed :=
        Code.within_branch.2 ⟨hthenCase, helseCase⟩
      refine sim_bind (sim_newFunction _ _ _ hcode) fun step hstep => ?_
      exact sim_pure (within_pair hstep htest)
    cases elseForm with
    | some e => exact sim_bind (hp.expand e scope (helse e rfl) hscope) hmake
    | none => exact sim_bind (sim_pure Term.within_nil) hmake
  split
  · refine sim_bind (sim_pure ?_) hrest
    exact ⟨harguments _ (by simp), harguments _ (by simp), by simp⟩
  · refine sim_bind (sim_pure ?_) hrest
    refine ⟨harguments _ (by simp), harguments _ (by simp), ?_⟩
    intro e he
    cases he
    exact harguments _ (by simp)
  · exact sim_bind (sim_fail _) hrest

theorem sim_begin (hp : L.SimPasses p q) (harguments : ∀ t ∈ arguments, t.Within L.allowed)
    (hscope : L.allowed (.scope scope)) :
    L.Sim (Term.Within L.allowed) (Expansion.begin p arguments scope)
      (Expansion.begin q arguments scope) := by
  refine sim_bind (sim_newStep Code.within_lastValue) fun step hstep => ?_
  refine sim_bind (sim_expandAll hp harguments hscope) fun forms hforms => ?_
  exact sim_pure (Term.within_list.2 (List.forall_mem_cons.2 ⟨hstep, hforms⟩))

theorem sim_expansion_loop (hp : L.SimPasses p q) (harguments : ∀ t ∈ arguments, t.Within L.allowed)
    (hscope : L.allowed (.scope scope)) :
    L.Sim (Term.Within L.allowed) (Expansion.loop p arguments scope)
      (Expansion.loop q arguments scope) := by
  unfold Expansion.loop
  split
  · exact sim_fail _
  · obtain ⟨hcondition, hforms⟩ := List.forall_mem_cons.1 harguments
    refine sim_bind (hp.expand _ scope hcondition hscope) fun test htest => ?_
    refine sim_bind (sim_expandBody hp hforms hscope) fun body hbody => ?_
    exact sim_singleFunction _ _ _ (Code.within_loop.2 ⟨htest, hbody⟩)

theorem sim_leave : L.Sim (Term.Within L.allowed) (Expansion.leave arguments)
    (Expansion.leave arguments) := by
  unfold Expansion.leave
  split
  · exact sim_singleFunction _ _ _ Code.within_leaveLoop
  · exact sim_fail _

theorem sim_guard (hp : L.SimPasses p q) (harguments : ∀ t ∈ arguments, t.Within L.allowed)
    (hscope : L.allowed (.scope scope)) :
    L.Sim (Term.Within L.allowed) (Expansion.guard p arguments scope)
      (Expansion.guard q arguments scope) := by
  unfold Expansion.guard
  extract_lets rest rest'
  have hrest : ∀ parts : Term × Option Term,
      parts.1.Within L.allowed ∧ (∀ f ∈ parts.2, f.Within L.allowed) →
      L.Sim (Term.Within L.allowed) (rest parts) (rest' parts) := by
    rintro ⟨body, fallback⟩ ⟨hbody, hfallback⟩
    refine sim_bind (hp.expand _ scope hbody hscope) fun expanded hexpanded => ?_
    extract_lets make
    have hmake : ∀ f : Term, f.Within L.allowed →
        L.Sim (Term.Within L.allowed) (make f) (make f) := by
      intro f hf
      have hcode : (Code.guarded expanded f).Within L.allowed :=
        Code.within_guarded.2 ⟨hexpanded, hf⟩
      exact sim_singleFunction _ _ _ hcode
    cases fallback with
    | some f => exact sim_bind (hp.expand f scope (hfallback f rfl) hscope) hmake
    | none => exact sim_bind (sim_pure Term.within_nil) hmake
  split
  · refine sim_bind (sim_pure ?_) hrest
    exact ⟨harguments _ (by simp), by simp⟩
  · refine sim_bind (sim_pure ?_) hrest
    refine ⟨harguments _ (by simp), ?_⟩
    intro f hf
    cases hf
    exact harguments _ (by simp)
  · exact sim_bind (sim_fail _) hrest

theorem sim_applied (hp : L.SimPasses p q) {code : Code} (hcode : code.Within L.allowed)
    (wrong : FormError) (harguments : ∀ t ∈ arguments, t.Within L.allowed)
    (hscope : L.allowed (.scope scope)) :
    L.Sim (Term.Within L.allowed) (Expansion.applied p code wrong arguments scope)
      (Expansion.applied q code wrong arguments scope) := by
  unfold Expansion.applied
  split
  · next t =>
    refine sim_bind (sim_newStep hcode) fun step hstep => ?_
    have ht : t.Within L.allowed := harguments t (by simp)
    refine sim_bind (hp.expand t scope ht hscope) fun argument hargument => ?_
    exact sim_pure (within_pair hstep hargument)
  · exact sim_fail _

theorem sim_expansion_host [Host.Platform] (hp : L.SimPasses p q)
    (harguments : ∀ t ∈ arguments, t.Within L.allowed) :
    L.Sim (Term.Within L.allowed) (Expansion.host p arguments) (Expansion.host q arguments) := by
  unfold Expansion.host
  split
  · next source declared =>
    split
    · exact sim_fail _
    · next names hnames =>
      have hdeclared : ∀ t ∈ declared, t.Within L.allowed := fun t ht =>
        harguments t (List.mem_cons_of_mem _ ht)
      have hallowed := allowed_of_symbolNames? hnames hdeclared
      have hprogram : L.Sim (fun program => program.names = names)
          (Action.ofResult (Expansion.hostProgramWithin p.room source names))
          (Action.ofResult (Expansion.hostProgramWithin q.room source names)) :=
        sim_ofResult (extends_hostProgramWithin hp.room_le source names)
          (hp.room_eq.imp_left fun h => by rw [h])
      refine sim_bind hprogram fun program heq => ?_
      have hcode : (Code.host program).Within L.allowed :=
        Code.within_host.2 (heq ▸ hallowed)
      exact sim_singleFunction _ _ _ hcode
  · exact sim_fail _

theorem sim_quote (harguments : ∀ t ∈ arguments, t.Within L.allowed) :
    L.Sim (Term.Within L.allowed) (Expansion.quote arguments) (Expansion.quote arguments) := by
  unfold Expansion.quote
  split
  · exact sim_pure (harguments _ List.mem_cons_self)
  · exact sim_fail _

theorem sim_quasiquote (hp : L.SimPasses p q) (harguments : ∀ t ∈ arguments, t.Within L.allowed)
    (hscope : L.allowed (.scope scope)) :
    L.Sim (Term.Within L.allowed) (Expansion.quasiquote p arguments scope)
      (Expansion.quasiquote q arguments scope) := by
  unfold Expansion.quasiquote
  split
  · exact sim_template_expand hp (harguments _ List.mem_cons_self) hscope
  · exact sim_fail _

theorem sim_aliasMacro (name model : String) :
    L.Sim (Term.Within L.allowed) (Expansion.aliasMacro name model)
      (Expansion.aliasMacro name model) := by
  refine sim_bind (sim_findMacro model) fun found hfound => ?_
  cases found with
  | none => exact sim_fail _
  | some m => exact sim_bind (sim_addMacro (hfound m rfl)) fun _ _ => sim_pure Term.within_nil

theorem sim_defineMacro (harguments : ∀ t ∈ arguments, t.Within L.allowed) :
    L.Sim (Term.Within L.allowed) (Expansion.defineMacro arguments)
      (Expansion.defineMacro arguments) := by
  unfold Expansion.defineMacro
  split
  · exact sim_aliasMacro _ _
  · exact sim_fail _
  · next name line parameters body =>
    split
    · exact sim_fail _
    · next names forms hnames =>
      have hparameters : (Term.list parameters).Within L.allowed := harguments _ (by simp)
      have hbody : (Term.list forms).Within L.allowed := harguments _ (by simp)
      have hallowed := allowed_of_symbolNames? hnames (Term.within_list.1 hparameters)
      refine sim_bind (sim_addMacro ⟨hallowed, Term.within_list.1 hbody⟩) fun _ _ => ?_
      exact sim_pure Term.within_nil
    · exact sim_fail _
  · exact sim_fail _
  · exact sim_fail _
  · exact sim_fail _

end Forms

/-! ## Macros -/

section Macros

variable {arguments : List Term}

/-- The body of a template runs in a scope made for the call, whose parameters
    mean their quoted arguments. -/
theorem sim_template (hp : L.SimPasses p q) (name : String) {parameters : List String}
    {body : List Term} (hparameters : ∀ name ∈ parameters, L.allowed (.name name))
    (hbody : ∀ t ∈ body, t.Within L.allowed) (harguments : ∀ t ∈ arguments, t.Within L.allowed)
    (hscope : L.allowed (.scope scope)) :
    L.Sim (Term.Within L.allowed) (Expansion.template p name parameters body arguments scope)
      (Expansion.template q name parameters body arguments scope) := by
  unfold Expansion.template
  split
  · exact sim_fail _
  · refine sim_bind (sim_newScope hscope) fun inner hinner => ?_
    -- A closure among the arguments is quoted with them and bound like them.
    have hentries : ∀ entry ∈ parameters.zip (arguments.map Term.quoted),
        L.allowed (.name entry.1) ∧ entry.2.Within L.allowed := by
      intro entry hentry
      obtain ⟨hname, hvalue⟩ := List.of_mem_zip hentry
      obtain ⟨t, ht, hquoted⟩ := List.mem_map.1 hvalue
      exact ⟨hparameters _ hname, hquoted ▸ within_quoted (harguments t ht)⟩
    refine sim_bind (sim_bindAll hinner hentries) fun _ _ => ?_
    refine sim_bind (sim_expandWithin hp (Term.within_list.2 hbody) hinner) fun code hcode => ?_
    refine sim_bind (hp.evaluate code inner hcode hinner) fun produced hproduced => ?_
    refine sim_bind (hp.expand produced inner hproduced hinner) fun expanded hexpanded => ?_
    exact hp.expand expanded inner hexpanded hinner

theorem sim_special [Host.Platform] (hp : L.SimPasses p q) (form : SpecialForm)
    (harguments : ∀ t ∈ arguments, t.Within L.allowed) (hscope : L.allowed (.scope scope)) :
    L.Sim (Term.Within L.allowed) (Expansion.special p form arguments scope)
      (Expansion.special q form arguments scope) := by
  cases form with
  | define => exact sim_expansion_define hp harguments hscope
  | branch => exact sim_branch hp harguments hscope
  | evaluate => exact sim_applied hp Code.within_evaluateValue _ harguments hscope
  | lambda => exact sim_lambda hp harguments hscope
  | namedLambda => exact sim_namedLambda hp harguments hscope
  | begin => exact sim_begin hp harguments hscope
  | loop => exact sim_expansion_loop hp harguments hscope
  | leave => exact sim_leave
  | assign => exact sim_expansion_assign hp harguments hscope
  | quote => exact sim_quote harguments
  | quasiquote => exact sim_quasiquote hp harguments hscope
  | unquote => exact sim_fail _
  | unquoteSplice => exact sim_fail _
  | readText => exact sim_applied hp Code.within_readText _ harguments hscope
  | defineMacro => exact sim_defineMacro harguments
  | guard => exact sim_guard hp harguments hscope
  | throw => exact sim_applied hp Code.within_throwValue _ harguments hscope
  | host => exact sim_expansion_host hp harguments

theorem sim_callMacro [Host.Platform]
    (hp : L.SimPasses p q) {m : Macro} (hm : m.expander.Within L.allowed)
    (harguments : ∀ t ∈ arguments, t.Within L.allowed) (hscope : L.allowed (.scope scope)) :
    L.Sim (Term.Within L.allowed) (Expansion.callMacro p m arguments scope)
      (Expansion.callMacro q m arguments scope) := by
  obtain ⟨key, expander⟩ := m
  cases expander with
  | special form => exact sim_special hp form harguments hscope
  | template name parameters body =>
    obtain ⟨hparameters, hbody⟩ := hm
    exact sim_template hp name hparameters hbody harguments hscope

theorem sim_macroOf (head : Term) :
    L.Sim (fun found => ∀ m, found = some m → m.expander.Within L.allowed)
      (Expansion.macroOf head) (Expansion.macroOf head) := by
  unfold Expansion.macroOf
  split
  · exact sim_findMacro _
  · exact sim_pure (by simp)

theorem sim_expansion_step [Host.Platform]
    (hp : L.SimPasses p q) {t : Term} (ht : t.Within L.allowed)
    (hscope : L.allowed (.scope scope)) :
    L.Sim (Term.Within L.allowed) (Expansion.step p t scope) (Expansion.step q t scope) := by
  unfold Expansion.step
  split
  · next items =>
    have hitems : ∀ u ∈ items.filter fun u => !u.isNil, u.Within L.allowed := fun u hu =>
      Term.within_list.1 ht u (List.mem_of_mem_filter hu)
    split
    · exact sim_pure Term.within_nil
    · next head arguments hfilter =>
      rw [hfilter] at hitems
      obtain ⟨-, harguments⟩ := List.forall_mem_cons.1 hitems
      refine sim_bind (sim_macroOf head) fun found hfound => ?_
      cases found with
      | some m => exact sim_callMacro hp (hfound m rfl) harguments hscope
      | none =>
        refine sim_bind (sim_expandAll hp hitems hscope) fun expanded hexpanded => ?_
        exact sim_pure (Term.within_list.2 hexpanded)
  · exact sim_pure ht

end Macros

end Lockstep

end MiniLisp
