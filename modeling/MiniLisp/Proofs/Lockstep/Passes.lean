import MiniLisp.Proofs.Lockstep.Expansion
import MiniLisp.Session

/-! # The passes run in every lockstep

    Evaluation and calls are shown to run in lockstep, code by code, if the
    passes of one level less do. At level zero the first passes are exhausted,
    so an induction on the number of levels reaches every run.

    * **`Lockstep.agree_call`** — one level of calls;
    * **`Lockstep.simPasses_passes`** — runs with the same limits;
    * **`Lockstep.sim_runProgram`** — whole programs. -/

namespace MiniLisp

namespace Lockstep

variable {L : Lockstep} {p q : Passes} {scope : ScopeId}

/-! ## Builtins -/

section Builtins

variable {arguments : List Term}

theorem sim_checked {result : Builtin.Checked Term} (h : Yields (Term.Within L.allowed) result) :
    L.Sim (Term.Within L.allowed) (Builtin.checked result) (Builtin.checked result) := by
  unfold Builtin.checked
  split
  · exact sim_pure (h _ rfl)
  · exact sim_fail _

theorem yields_firstItem (h : ∀ t ∈ arguments, t.Within L.allowed) :
    Yields (Term.Within L.allowed) (Builtin.firstItem arguments) := by
  unfold Builtin.firstItem
  split
  · next items =>
    have hitems := Term.within_list.1 (h _ List.mem_cons_self)
    refine yields_ok ?_
    cases items with
    | nil => exact Term.within_nil
    | cons t rest => exact hitems t List.mem_cons_self
  · exact yields_error _

theorem yields_otherItems (h : ∀ t ∈ arguments, t.Within L.allowed) :
    Yields (Term.Within L.allowed) (Builtin.otherItems arguments) := by
  unfold Builtin.otherItems
  split
  · next items =>
    have hitems := Term.within_list.1 (h _ List.mem_cons_self)
    exact yields_ok (Term.within_list.2 fun t ht => hitems t (List.mem_of_mem_tail ht))
  · exact yields_error _

theorem yields_prepended (h : ∀ t ∈ arguments, t.Within L.allowed) :
    Yields (Term.Within L.allowed) (Builtin.prepended arguments) := by
  unfold Builtin.prepended
  split
  · next head items =>
    have hhead : head.Within L.allowed := h _ (by simp)
    have hitems := Term.within_list.1 (h (.list items) (by simp))
    exact yields_ok (Term.within_list.2 (List.forall_mem_cons.2 ⟨hhead, hitems⟩))
  · next head =>
    have hhead : head.Within L.allowed := h _ (by simp)
    exact yields_ok (by simpa using hhead)
  · exact yields_error _

theorem yields_concatenation (arguments : List Term) :
    Yields (Term.Within L.allowed) (Builtin.concatenation arguments) := by
  unfold Builtin.concatenation
  split
  · exact yields_error _
  · split
    · exact yields_ok (Term.within_str _)
    · exact yields_error _

theorem yields_characterList (arguments : List Term) :
    Yields (Term.Within L.allowed) (Builtin.characterList arguments) := by
  unfold Builtin.characterList
  split
  · exact yields_ok (by simp)
  · exact yields_error _

theorem yields_description (arguments : List Term) :
    Yields (Term.Within L.allowed) (Builtin.description? arguments) := by
  unfold Builtin.description?
  split
  · refine yields_ok ?_
    unfold Builtin.described
    split
    · exact Term.within_str _
    · exact Term.within_nil
  · exact yields_error _

theorem sim_callEqual (hp : L.SimPasses p q) :
    L.Sim (Term.Within L.allowed) (Builtin.callEqual p arguments)
      (Builtin.callEqual q arguments) := by
  unfold Builtin.callEqual
  split
  · refine sim_bind (sim_print hp _) fun text _ => ?_
    exact sim_bind (sim_print hp _) fun other _ => sim_pure (Term.within_bool _)
  · exact sim_fail _

theorem sim_callMap (hp : L.SimPasses p q) (harguments : ∀ t ∈ arguments, t.Within L.allowed)
    (hscope : L.allowed (.scope scope)) :
    L.Sim (Term.Within L.allowed) (Builtin.callMap p arguments scope)
      (Builtin.callMap q arguments scope) := by
  unfold Builtin.callMap
  split
  · next tag code items =>
    have hcode : code.Within L.allowed := Term.within_function.1 (harguments _ List.mem_cons_self)
    have hitems := Term.within_list.1 (harguments (.list items) (by simp))
    have hcalls : L.Sim (fun out => ∀ t ∈ out, t.Within L.allowed)
        (items.mapM fun t => p.call code [t] scope) (items.mapM fun t => q.call code [t] scope) :=
      sim_mapM fun t ht => hp.call code [t] scope hcode (by simpa using hitems t ht) hscope
    exact sim_bind hcalls fun values hvalues => sim_pure (Term.within_list.2 hvalues)
  · exact sim_fail _

theorem sim_callFold (hp : L.SimPasses p q) {code : Code} (hcode : code.Within L.allowed)
    {reached : Term} (hreached : reached.Within L.allowed) {items : List Term}
    (hitems : ∀ t ∈ items, t.Within L.allowed) (hscope : L.allowed (.scope scope)) :
    L.Sim (Term.Within L.allowed) (Builtin.callFold p code reached items scope)
      (Builtin.callFold q code reached items scope) := by
  induction items generalizing reached with
  | nil => exact sim_pure hreached
  | cons t others ih =>
    obtain ⟨ht, hothers⟩ := List.forall_mem_cons.1 hitems
    have hpair : ∀ u ∈ [reached, t], u.Within L.allowed := by simpa using ⟨hreached, ht⟩
    exact sim_bind (hp.call code _ scope hcode hpair hscope) fun next hnext => ih hnext hothers

theorem sim_callReduce (hp : L.SimPasses p q) (harguments : ∀ t ∈ arguments, t.Within L.allowed)
    (hscope : L.allowed (.scope scope)) :
    L.Sim (Term.Within L.allowed) (Builtin.callReduce p arguments scope)
      (Builtin.callReduce q arguments scope) := by
  unfold Builtin.callReduce
  split
  · next tag code items initial =>
    have hcode : code.Within L.allowed := Term.within_function.1 (harguments _ List.mem_cons_self)
    have hitems := Term.within_list.1 (harguments (.list items) (by simp))
    exact sim_callFold hp hcode (harguments initial (by simp)) hitems hscope
  · next tag code items =>
    have hcode : code.Within L.allowed := Term.within_function.1 (harguments _ List.mem_cons_self)
    have hitems := Term.within_list.1 (harguments (.list items) (by simp))
    split
    · exact sim_pure Term.within_nil
    · obtain ⟨hfirst, hothers⟩ := List.forall_mem_cons.1 hitems
      exact sim_callFold hp hcode hfirst hothers hscope
  · exact sim_fail _

theorem sim_displayed (hp : L.SimPasses p q) (t : Term) :
    L.Sim (fun _ => True) (Builtin.displayed p t) (Builtin.displayed q t) := by
  unfold Builtin.displayed
  split
  · exact sim_pure trivial
  · exact sim_print hp _

theorem sim_callPrint (hp : L.SimPasses p q) :
    L.Sim (Term.Within L.allowed) (Builtin.callPrint p arguments)
      (Builtin.callPrint q arguments) := by
  refine sim_bind (sim_mapM fun t _ => sim_displayed hp t) fun texts _ => ?_
  exact sim_bind (sim_writeLine _) fun _ _ => sim_pure Term.within_nil

theorem sim_callRead :
    L.Sim (Term.Within L.allowed) (Builtin.callRead arguments) (Builtin.callRead arguments) := by
  unfold Builtin.callRead
  split
  · exact sim_map (sim_readLine _) fun text _ => Term.within_str text
  · exact sim_map (sim_readLine _) fun text _ => Term.within_str text
  · exact sim_fail _

theorem sim_apply (hp : L.SimPasses p q) (b : Builtin)
    (harguments : ∀ t ∈ arguments, t.Within L.allowed) (hscope : L.allowed (.scope scope)) :
    L.Sim (Term.Within L.allowed) (b.apply p arguments scope) (b.apply q arguments scope) := by
  cases b with
  | equal => exact sim_callEqual hp
  | map => exact sim_callMap hp harguments hscope
  | reduce => exact sim_callReduce hp harguments hscope
  | print => exact sim_callPrint hp
  | read => exact sim_callRead
  | list => exact sim_pure (Term.within_list.2 harguments)
  | first => exact sim_checked (yields_firstItem harguments)
  | rest => exact sim_checked (yields_otherItems harguments)
  | cons => exact sim_checked (yields_prepended harguments)
  | concat => exact sim_checked (yields_concatenation arguments)
  | characters => exact sim_checked (yields_characterList arguments)
  | describe => exact sim_checked (yields_description arguments)
  | add | mul | length | sub =>
    exact sim_checked (yields_then _ fun _ => yields_ok (Term.within_num _))
  | less | isEmpty => exact sim_checked (yields_then _ fun _ => yields_ok (Term.within_bool _))
  | div =>
    exact sim_checked (yields_then _ fun _ => yields_then _ fun _ =>
      yields_ok (Term.within_num _))

end Builtins

/-! ## Evaluation -/

section Evaluation

theorem sim_callsMacro (items : List Term) :
    L.Sim (fun _ => True) (Evaluation.callsMacro items) (Evaluation.callsMacro items) := by
  unfold Evaluation.callsMacro
  split
  · exact sim_bind (sim_findMacro _) fun _ _ => sim_pure trivial
  · exact sim_pure trivial

theorem sim_symbolValue (hp : L.SimPasses p q) (name : String) (line : Nat)
    (hscope : L.allowed (.scope scope)) :
    L.Sim (Term.Within L.allowed) (Evaluation.symbolValue p name line scope)
      (Evaluation.symbolValue q name line scope) := by
  refine sim_bind (sim_lookup hscope name) fun found hfound => ?_
  split
  · exact sim_fail _
  · exact sim_fail _
  · exact hp.evaluate _ scope (hfound _ rfl) hscope
  · exact sim_pure (hfound _ rfl)

theorem sim_applyValues (hp : L.SimPasses p q) (line : Nat) {values : List Term}
    (hvalues : ∀ t ∈ values, t.Within L.allowed) (hscope : L.allowed (.scope scope)) :
    L.Sim (Term.Within L.allowed) (Evaluation.applyValues p line values scope)
      (Evaluation.applyValues q line values scope) := by
  unfold Evaluation.applyValues
  split
  · exact sim_pure (by simp)
  · obtain ⟨hfunction, harguments⟩ := List.forall_mem_cons.1 hvalues
    exact hp.call _ _ scope (Term.within_function.1 hfunction) harguments hscope
  · exact sim_fail _

theorem sim_evaluation_step (hp : L.SimPasses p q) {t : Term} (ht : t.Within L.allowed)
    (hscope : L.allowed (.scope scope)) :
    L.Sim (Term.Within L.allowed) (Evaluation.step p t scope) (Evaluation.step q t scope) := by
  unfold Evaluation.step
  split
  · exact sim_symbolValue hp _ _ hscope
  · exact sim_pure ht
  · refine sim_bind (sim_callsMacro _) fun calls _ => ?_
    split
    · exact sim_pure ht
    · have hitems := Term.within_list.1 ht
      refine sim_bind (sim_evaluateAll hp hitems hscope) fun values hvalues => ?_
      exact sim_applyValues hp _ hvalues hscope
  · exact sim_pure ht

end Evaluation

/-! ## Calls -/

section Calls

variable {arguments : List Term}

theorem within_boundArguments {formals : List String} {rest : Option String}
    (hnames : ∀ name ∈ formals ++ rest.toList, L.allowed (.name name))
    (harguments : ∀ t ∈ arguments, t.Within L.allowed) :
    ∀ entry ∈ Evaluation.boundArguments formals rest arguments,
      L.allowed (.name entry.1) ∧ entry.2.Within L.allowed := by
  intro entry hentry
  rcases List.mem_append.1 hentry with hformal | hrest
  · obtain ⟨hname, hvalue⟩ := List.of_mem_zip hformal
    exact ⟨hnames _ (List.mem_append_left _ hname), harguments _ hvalue⟩
  · cases rest with
    | none => cases hrest
    | some name =>
      rw [List.mem_singleton] at hrest
      subst hrest
      refine ⟨hnames name (by simp), Term.within_list.2 ?_⟩
      exact fun t ht => harguments t (List.mem_of_mem_drop ht)

/-- A closure does not look at the scope that it is called from. -/
theorem sim_callClosure (hp : L.SimPasses p q) {formals : List String} {rest : Option String}
    {body : List Term} {home : ScopeId}
    (hcode : (Code.closure formals rest body home).Within L.allowed)
    (harguments : ∀ t ∈ arguments, t.Within L.allowed) :
    L.Sim (Term.Within L.allowed) (Evaluation.callClosure p formals rest body home arguments)
      (Evaluation.callClosure q formals rest body home arguments) := by
  obtain ⟨hhome, hnames, hbody⟩ := Code.within_closure.1 hcode
  unfold Evaluation.callClosure
  split
  · exact sim_fail _
  -- The scope of the call lies in the one that the closure mentions.
  · refine sim_bind (sim_newScope hhome) fun inner hinner => ?_
    refine sim_bind (sim_bindAll hinner (within_boundArguments hnames harguments)) fun _ _ => ?_
    exact sim_evaluateBody hp Term.within_nil hbody hinner

theorem sim_loopBody (hp : L.SimPasses p q) {body : List Term}
    (hbody : ∀ t ∈ body, t.Within L.allowed) (hscope : L.allowed (.scope scope)) :
    L.Sim (fun _ => True) (Evaluation.loopBody p scope body)
      (Evaluation.loopBody q scope body) := by
  induction body with
  | nil => exact sim_pure trivial
  | cons t rest ih =>
    obtain ⟨ht, hrest⟩ := List.forall_mem_cons.1 hbody
    refine sim_bind (hp.evaluate t scope ht hscope) fun _ _ => ?_
    -- Both runs read the same flag, since the loop's own scope is allowed.
    intro s hs
    have hflag : (L.twin s.scopes).bindingsOf scope = s.scopes.bindingsOf scope :=
      L.bindingsOf_twin s.scopes scope hscope
    have hnext := ih hrest s hs
    dsimp only [bind, EStateM.bind, get, getThe, MonadStateOf.get, EStateM.get, twinState]
    rw [hflag]
    cases (s.scopes.bindingsOf scope).get? loopFlag with
    | none => exact hnext
    | some flag =>
      cases flag with
      | bool value =>
        cases value with
        | true => exact .ok trivial hs rfl
        | false => exact hnext
      | nil | str _ | num _ | sym _ _ | list _ | function _ _ => exact hnext

theorem sim_loopTurns (hp : L.SimPasses p q) {condition : Term} {body : List Term}
    (hcondition : condition.Within L.allowed) (hbody : ∀ t ∈ body, t.Within L.allowed)
    (hscope : L.allowed (.scope scope)) {turns turns' : Nat}
    (hturns : turns = turns' ∨ turns ≤ turns' ∧ L.excused .unfinished) :
    L.Sim (Term.Within L.allowed) (Evaluation.loopTurns p condition body scope turns)
      (Evaluation.loopTurns q condition body scope turns') := by
  -- The induction is on the turns of the first run, which has not more of them.
  induction turns generalizing turns' with
  | zero =>
    rcases hturns with rfl | ⟨-, hexcused⟩
    · exact sim_throw .unfinished
    · exact sim_excused hexcused
  | succ n ih =>
    obtain ⟨n', rfl⟩ : ∃ n', turns' = n' + 1 := ⟨turns' - 1, by omega⟩
    have hless : n = n' ∨ n ≤ n' ∧ L.excused .unfinished := by
      rcases hturns with heq | ⟨hle, hexcused⟩
      · exact .inl (by omega)
      · exact .inr ⟨by omega, hexcused⟩
    refine sim_bind (hp.evaluate condition scope hcondition hscope) fun test _ => ?_
    split
    · refine sim_bind (sim_loopBody hp hbody hscope) fun left _ => ?_
      split
      · exact sim_pure Term.within_nil
      · exact ih hless
    · exact sim_pure Term.within_nil

/-- The state in which the turns of a loop begin: the loop has a scope of its
    own, which binds the flag. -/
def loopStart (s : State) (scope : ScopeId) : State :=
  { s with scopes := (s.scopes.addChild scope).define s.scopes.size loopFlag (.bool false) }

theorem loop_eq (p : Passes) (turns : Nat) (condition : Term) (body : List Term)
    (scope : ScopeId) (s : State) :
    Evaluation.loop p turns condition body scope s =
      Evaluation.loopTurns p condition body s.scopes.size turns (loopStart s scope) := rfl

theorem sim_loop (hp : L.SimPasses p q) {condition : Term} {body : List Term}
    (hcondition : condition.Within L.allowed) (hbody : ∀ t ∈ body, t.Within L.allowed)
    (hscope : L.allowed (.scope scope)) {turns turns' : Nat}
    (hturns : turns = turns' ∨ turns ≤ turns' ∧ L.excused .unfinished) :
    L.Sim (Term.Within L.allowed) (Evaluation.loop p turns condition body scope)
      (Evaluation.loop q turns' condition body scope) := by
  intro s hs
  have hinner := L.allowed_size s.scopes hs.keeps
  -- The scope and its flag are made in one go: no binding that a program could
  -- ask for has the name of the flag.
  have hstart : L.Sound (loopStart s scope) :=
    (hs.addChild hscope).define (Term.within_bool false) (L.keeps_loop s.scopes scope hs.keeps)
  have htwin : loopStart (L.twinState s) scope = L.twinState (loopStart s scope) := by
    simp [loopStart, twinState, L.twin_define _ _ _ _ hinner,
      L.twin_addChild s.scopes scope hs.keeps, L.size_twin]
  have hsize : (L.twinState s).scopes.size = s.scopes.size := L.size_twin s.scopes
  rw [loop_eq, loop_eq, htwin, hsize]
  exact sim_loopTurns hp hcondition hbody hinner hturns _ hstart

theorem sim_evaluateValue (hp : L.SimPasses p q) {value : Term} (hvalue : value.Within L.allowed)
    (hscope : L.allowed (.scope scope)) :
    L.Sim (Term.Within L.allowed) (Evaluation.evaluateValue p value scope)
      (Evaluation.evaluateValue q value scope) :=
  sim_bind (hp.expand value scope hvalue hscope) fun form hform =>
    hp.evaluate form scope hform hscope

theorem sim_firstForm (hp : L.SimPasses p q) (text : String) (hscope : L.allowed (.scope scope)) :
    L.Sim (Term.Within L.allowed) (Evaluation.firstForm p text scope)
      (Evaluation.firstForm q text scope) := by
  refine sim_bind (sim_parse hp text) fun forms hforms => ?_
  split
  · exact sim_pure Term.within_nil
  · exact hp.expand _ scope (hforms _ List.mem_cons_self) hscope

theorem sim_readText (hp : L.SimPasses p q) {value : Term} (hvalue : value.Within L.allowed)
    (hscope : L.allowed (.scope scope)) :
    L.Sim (Term.Within L.allowed) (Evaluation.readText p value scope)
      (Evaluation.readText q value scope) := by
  unfold Evaluation.readText
  split
  · exact sim_pure Term.within_nil
  · exact sim_firstForm hp _ hscope
  · refine sim_bind (hp.evaluate _ scope hvalue hscope) fun result hresult => ?_
    split
    · exact sim_firstForm hp _ hscope
    · exact sim_pure hresult

theorem sim_guarded (hp : L.SimPasses p q) {body fallback : Term}
    (hbody : body.Within L.allowed) (hfallback : fallback.Within L.allowed)
    (hscope : L.allowed (.scope scope)) :
    L.Sim (Term.Within L.allowed) (Evaluation.guarded p body fallback scope)
      (Evaluation.guarded q body fallback scope) := by
  have hname : L.allowed (.name caughtName) := L.word _ (by decide)
  -- An error leaves a sound state behind, in which the fallback goes on.
  refine sim_recover (hp.evaluate body scope hbody hscope) fun e => ?_
  refine sim_bind (sim_define hscope hname (Term.within_str _)) fun _ _ => ?_
  exact hp.evaluate fallback scope hfallback hscope

/-- A host expression sees its variables from the same scopes in both runs. -/
theorem hostValue_twin [Host.Platform]
    {s : State} (hs : L.Sound s) (hscope : L.allowed (.scope scope))
    (room : Nat) (program : HostProgram) :
    Evaluation.hostValue room program (L.twin s.scopes) scope =
      Evaluation.hostValue room program s.scopes scope := by
  have hfind : ∀ name : String,
      ((L.twin s.scopes).owner scope name).bind (fun owner =>
        (((L.twin s.scopes).bindingsOf owner).get? name).map fun t => (owner, t)) =
      (s.scopes.owner scope name).bind fun owner =>
        ((s.scopes.bindingsOf owner).get? name).map fun t => (owner, t) := by
    intro name
    rw [owner_twin hs hscope]
    cases howner : s.scopes.owner scope name with
    | none => rfl
    | some nearest =>
      have hnearest := hs.chain hscope nearest (Scopes.mem_chain_of_owner howner)
      simp only [Option.bind_some, L.bindingsOf_twin s.scopes nearest hnearest]
  simp only [Evaluation.hostValue, Evaluation.hostBindings, hfind]

theorem sim_host [Host.Platform] (hp : L.SimPasses p q) {program : HostProgram}
    (hprogram : (Code.host program).Within L.allowed) (hscope : L.allowed (.scope scope)) :
    L.Sim (Term.Within L.allowed) (Evaluation.host p program scope)
      (Evaluation.host q program scope) := by
  intro s hs
  have hnames := Code.within_host.1 hprogram
  have hbound : ∀ id ∈ s.scopes.chain scope, ∀ name t,
      (s.scopes.bindingsOf id).get? name = some t → t.Within L.allowed := fun id hid =>
    hs.bound id (hs.chain hscope id hid)
  have hvalue := extends_hostValue hbound hp.room_le program hnames
  have hrun := sim_ofResult hvalue (hp.room_eq.imp_left fun h => by rw [h]) s hs
  show L.Agree _
    (Action.ofResult (Evaluation.hostValue p.room program s.scopes scope) s)
    (Action.ofResult (Evaluation.hostValue q.room program (L.twin s.scopes) scope)
      (L.twinState s))
  rw [hostValue_twin hs hscope]
  exact hrun

theorem within_argument (harguments : ∀ t ∈ arguments, t.Within L.allowed) :
    (Evaluation.argument arguments).Within L.allowed := by
  cases arguments with
  | nil => exact Term.within_nil
  | cons t rest => exact harguments t List.mem_cons_self

/-- One level of calls. A loop may only be ended where the lockstep says so. -/
theorem agree_call [Host.Platform]
    (hp : L.SimPasses p q) {code : Code} (hcode : code.Within L.allowed)
    (harguments : ∀ t ∈ arguments, t.Within L.allowed) (hscope : L.allowed (.scope scope))
    {turns turns' : Nat} (hturns : turns = turns' ∨ turns ≤ turns' ∧ L.excused .unfinished)
    {s : State} (hs : L.Sound s) (hleave : code = .leaveLoop → L.mayLeave s.scopes scope) :
    L.Agree (Term.Within L.allowed) (Evaluation.call turns p code arguments scope s)
      (Evaluation.call turns' q code arguments scope (L.twinState s)) := by
  have hargument := within_argument harguments
  cases code with
  | builtin b => exact sim_apply hp b harguments hscope s hs
  | closure formals rest body home => exact sim_callClosure hp hcode harguments s hs
  | makeClosure formals rest body id description line =>
    obtain ⟨hnames, hbody⟩ := Code.within_makeClosure.1 hcode
    have hclosure := Code.within_closure.2 ⟨hscope, hnames, hbody⟩
    exact sim_newFunction (some id) description line hclosure s hs
  | define name =>
    have hdefine := sim_define hscope (Code.within_define.1 hcode) hargument
    exact sim_bind hdefine (fun _ _ => sim_pure hargument) s hs
  | assign name =>
    have hassign := sim_assign hscope (Code.within_assign.1 hcode) hargument
    exact sim_bind hassign (fun _ _ => sim_pure Term.within_nil) s hs
  | branch thenForm elseForm =>
    obtain ⟨hthen, helse⟩ := Code.within_branch.1 hcode
    unfold Evaluation.call
    dsimp only
    split
    · exact hp.evaluate thenForm scope hthen hscope s hs
    · exact hp.evaluate elseForm scope helse hscope s hs
  | lastValue =>
    refine .ok ?_ hs rfl
    cases hlast : arguments.getLast? with
    | none => simp [List.getLastD_eq_getLast?, hlast]
    | some t => simpa [List.getLastD_eq_getLast?, hlast] using
        harguments t (List.mem_of_getLast? hlast)
  | loop condition body =>
    obtain ⟨hcondition, hbody⟩ := Code.within_loop.1 hcode
    exact sim_loop hp hcondition hbody hscope hturns s hs
  -- The only flag that changes is the nearest one.
  | leaveLoop =>
    have howner := hs.owner hscope loopFlag
    have hkeeps := L.keeps_leave s.scopes scope hs.keeps howner (hleave rfl)
    refine .ok Term.within_nil (hs.define (Term.within_bool true) hkeeps) ?_
    simp [twinState, twin_assign hs hscope]
  | evaluateValue => exact sim_evaluateValue hp hargument hscope s hs
  | readText => exact sim_readText hp hargument hscope s hs
  | guarded body fallback =>
    obtain ⟨hbody, hfallback⟩ := Code.within_guarded.1 hcode
    exact sim_guarded hp hbody hfallback hscope s hs
  | throwValue => exact sim_bind (sim_print hp _) (fun text _ => sim_fail _) s hs
  | host program => exact sim_host hp hcode hscope s hs

end Calls

/-! ## The passes together -/

section Together

variable {turns turns' : Nat}

theorem simPasses_exhausted : L.SimPasses .exhausted .exhausted where
  room_le := Nat.le_refl 0
  room_eq := .inl rfl
  expand _ _ _ _ := sim_throw .exhausted
  evaluate _ _ _ _ := sim_throw .exhausted
  call _ _ _ _ _ _ := sim_throw .exhausted

/-- A first run without room may be let go at once. -/
theorem simPasses_of_excused (h : L.excused .exhausted) (q : Passes) :
    L.SimPasses .exhausted q where
  room_le := Nat.zero_le q.room
  room_eq := .inr h
  expand _ _ _ _ := sim_excused h
  evaluate _ _ _ _ := sim_excused h
  call _ _ _ _ _ _ := sim_excused h

theorem simPasses_next [Host.Platform] (hp : L.SimPasses p q)
    (hturns : turns = turns' ∨ turns ≤ turns' ∧ L.excused .unfinished)
    (hleave : ∀ s scope, L.mayLeave s scope) : L.SimPasses (p.next turns) (q.next turns') where
  room_le := Nat.succ_le_succ hp.room_le
  room_eq := hp.room_eq.imp_left fun h => congrArg (· + 1) h
  expand _ _ ht hscope := sim_expansion_step hp ht hscope
  evaluate _ _ ht hscope := sim_evaluation_step hp ht hscope
  call _ _ scope hcode harguments hscope := fun s hs =>
    agree_call hp hcode harguments hscope hturns hs fun _ => hleave s.scopes scope

/-- Runs with the same limits go in lockstep. -/
theorem simPasses_passes [Host.Platform]
    (hleave : ∀ s scope, L.mayLeave s scope) (turns depth : Nat) :
    L.SimPasses (passes turns depth) (passes turns depth) := by
  induction depth with
  | zero => exact simPasses_exhausted
  | succ n ih => exact simPasses_next ih (.inl rfl) hleave

end Together

/-! ## Programs -/

section Programs

variable {forms : List Term}

theorem sim_runForms (hp : L.SimPasses p q) (hforms : ∀ t ∈ forms, t.Within L.allowed)
    (hscope : L.allowed (.scope scope)) :
    L.Sim (fun _ => True) (runForms p forms scope) (runForms q forms scope) := by
  refine sim_bind (sim_expandBody hp hforms hscope) fun expanded hexpanded => ?_
  cases expanded with
  | nil => exact sim_pure trivial
  | cons form rest =>
    have hbody := sim_evaluateBody hp Term.within_nil hexpanded hscope
    exact sim_map hbody fun _ _ => trivial

theorem sim_runProgram (hp : L.SimPasses p q) (hforms : ∀ t ∈ forms, t.Within L.allowed)
    (hscope : L.allowed (.scope scope)) :
    L.Sim (fun _ => True) (runProgram p forms scope) (runProgram q forms scope) := by
  refine sim_bind (sim_runForms hp hforms hscope) fun result _ => ?_
  cases result with
  | some t => exact sim_print hp t
  | none => exact sim_pure trivial

end Programs

end Lockstep

end MiniLisp
