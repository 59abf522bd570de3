import MiniLisp.Proofs.Pairing.Twins
import MiniLisp.Proofs.ReadTerms

/-! # Runs from twins

    Evaluation and calls are shown to keep states twins, code by code, if the
    passes of one level less do. At level zero both runs are exhausted, so an
    induction on the number of levels reaches every run.

    A program that reads text as code brings any name and any line into a run;
    so it may do that only where data is like itself. The message of a caught
    error may tell a line; so where lines differ, the name to which it is bound
    is not looked at.

    * **`SimTwins`** — passes that keep states twins;
    * **`simTwins_passes`** — the passes of every number of levels do;
    * **`sim_runProgram`** — whole programs. -/

namespace MiniLisp

namespace Pairing

variable {L : Likeness} {N : Numbering L} {p : Passes} {scope : ScopeId}

/-- The passes keep states twins. -/
structure SimTwins (N : Numbering L) (p : Passes) : Prop where
  expand : ∀ {t t'} scope, Term.Like L t t' →
    (twins N).Sim (Term.Like L) (p.expand t scope) (p.expand t' scope)
  evaluate : ∀ {t t'} scope, Term.Like L t t' →
    (twins N).Sim (Term.Like L) (p.evaluate t scope) (p.evaluate t' scope)
  call : ∀ {code code' arguments arguments'} scope, Code.Like L code code' →
    List.Forall₂ (Term.Like L) arguments arguments' →
    (twins N).Sim (Term.Like L) (p.call code arguments scope) (p.call code' arguments' scope)

theorem SimTwins.simPasses (hp : SimTwins N p) : (twins N).SimPasses p where
  expand := by
    rintro t t' scope _ ht rfl
    exact hp.expand scope ht
  evaluate := by
    rintro - t t' scope _ ht rfl
    exact hp.evaluate scope ht

/-! ## Builtins -/

section Builtins

variable {arguments arguments' : List Term}

theorem sim_print {t t' : Term} (h : t.Like L t') : (twins N).Sim Eq (p.print t) (p.print t') := by
  unfold Passes.print Term.printWithin
  rw [h.depth_eq, h.print_eq]
  split
  · exact sim_pure rfl
  · exact sim_throw (.refl _ _)

theorem sim_checked {x y : Builtin.Checked Term} (h : Concur (Term.Like L) x y) :
    (twins N).Sim (Term.Like L) (Builtin.checked x) (Builtin.checked y) := by
  cases h with
  | ok values => exact sim_pure values
  | error e => exact sim_fail_self _

theorem numbers?_eq (h : List.Forall₂ (Term.Like L) arguments arguments') :
    Builtin.numbers? arguments' = Builtin.numbers? arguments := by
  unfold Builtin.numbers?
  induction h with
  | nil => rfl
  | cons first _ ih =>
    rw [List.mapM_cons, List.mapM_cons, ih]
    cases first <;> rfl

theorem strings?_eq (h : List.Forall₂ (Term.Like L) arguments arguments') :
    Builtin.strings? arguments' = Builtin.strings? arguments := by
  unfold Builtin.strings?
  induction h with
  | nil => rfl
  | cons first _ ih =>
    rw [List.mapM_cons, List.mapM_cons, ih]
    cases first <;> rfl

theorem manyNumbers_eq (b : Builtin) (h : List.Forall₂ (Term.Like L) arguments arguments') :
    Builtin.manyNumbers b arguments' = Builtin.manyNumbers b arguments := by
  rw [Builtin.manyNumbers, Builtin.manyNumbers, h.length_eq, numbers?_eq h]

theorem twoNumbers_eq (b : Builtin) (h : List.Forall₂ (Term.Like L) arguments arguments') :
    Builtin.twoNumbers b arguments' = Builtin.twoNumbers b arguments := by
  cases h with
  | nil => rfl
  | cons first others =>
    cases others with
    | nil => cases first <;> rfl
    | cons second others =>
      cases others with
      | nil => cases first <;> cases second <;> rfl
      | cons _ _ => cases first <;> cases second <;> rfl

theorem size_eq (b : Builtin) (h : List.Forall₂ (Term.Like L) arguments arguments') :
    Builtin.size b arguments' = Builtin.size b arguments := by
  cases h with
  | nil => rfl
  | cons first others =>
    cases others with
    | nil =>
      cases first with
      | list each => simp only [Builtin.size, each.length_eq]
      | bool | nil | str | num | sym | function => rfl
    | cons _ _ => cases first <;> rfl

theorem concur_firstItem (h : List.Forall₂ (Term.Like L) arguments arguments') :
    Concur (Term.Like L) (Builtin.firstItem arguments) (Builtin.firstItem arguments') := by
  cases h with
  | nil => exact .error _
  | cons first others =>
    cases others with
    | nil =>
      cases first with
      | list each =>
        cases each with
        | nil => exact .ok .nil
        | cons item _ => exact .ok item
      | bool | nil | str | num | sym | function => exact .error _
    | cons _ _ => cases first <;> exact .error _

theorem concur_otherItems (h : List.Forall₂ (Term.Like L) arguments arguments') :
    Concur (Term.Like L) (Builtin.otherItems arguments) (Builtin.otherItems arguments') := by
  cases h with
  | nil => exact .error _
  | cons first others =>
    cases others with
    | nil =>
      cases first with
      | list each =>
        cases each with
        | nil => exact .ok (.list .nil)
        | cons _ items => exact .ok (.list items)
      | bool | nil | str | num | sym | function => exact .error _
    | cons _ _ => cases first <;> exact .error _

theorem concur_prepended (h : List.Forall₂ (Term.Like L) arguments arguments') :
    Concur (Term.Like L) (Builtin.prepended arguments) (Builtin.prepended arguments') := by
  cases h with
  | nil => exact .error _
  | cons first others =>
    cases others with
    | nil => exact .error _
    | cons second others =>
      cases others with
      | nil =>
        cases second with
        | list each => exact .ok (.list (.cons first each))
        | nil => exact .ok (.list (.cons first .nil))
        | bool | str | num | sym | function => exact .error _
      | cons _ _ => cases second <;> exact .error _

theorem concur_concatenation (h : List.Forall₂ (Term.Like L) arguments arguments') :
    Concur (Term.Like L) (Builtin.concatenation arguments)
      (Builtin.concatenation arguments') := by
  have hempty : arguments'.isEmpty = arguments.isEmpty := by cases h <;> rfl
  unfold Builtin.concatenation
  rw [hempty, strings?_eq h]
  split
  · exact .error _
  · split
    · exact .ok (.str _)
    · exact .error _

theorem concur_characterList (h : List.Forall₂ (Term.Like L) arguments arguments') :
    Concur (Term.Like L) (Builtin.characterList arguments)
      (Builtin.characterList arguments') := by
  cases h with
  | nil => exact .error _
  | cons first others =>
    cases others with
    | nil =>
      cases first with
      | str text =>
        refine .ok (.list (List.rel_map (R := Eq) ?_ (List.forall₂_refl text.toList)))
        rintro c _ rfl
        exact .str _
      | bool | nil | num | sym | list | function => exact .error _
    | cons _ _ => cases first <;> exact .error _

theorem concur_description (h : List.Forall₂ (Term.Like L) arguments arguments') :
    Concur (Term.Like L) (Builtin.description? arguments) (Builtin.description? arguments') := by
  cases h with
  | nil => exact .error _
  | cons first others =>
    cases others with
    | nil =>
      cases first with
      | function tags _ =>
        unfold Builtin.description? Builtin.described
        dsimp only
        rw [tags.id, tags.description]
        split
        · exact .ok (.str _)
        · exact .ok .nil
      | bool | nil | str | num | sym | list => exact .error _
    | cons _ _ => cases first <;> exact .error _

theorem sim_callEqual (h : List.Forall₂ (Term.Like L) arguments arguments') :
    (twins N).Sim (Term.Like L) (Builtin.callEqual p arguments)
      (Builtin.callEqual p arguments') := by
  cases h with
  | nil => exact sim_fail_self _
  | cons first others =>
    cases others with
    | nil => exact sim_fail_self _
    | cons second others =>
      cases others with
      | cons _ _ => exact sim_fail_self _
      | nil =>
        refine sim_bind (sim_print first) fun text text' (htext : text = text') => ?_
        refine sim_bind (sim_print second) fun other other' (hother : other = other') => ?_
        subst htext hother
        exact sim_pure (.bool _)

theorem sim_callMap (hp : SimTwins N p) (h : List.Forall₂ (Term.Like L) arguments arguments') :
    (twins N).Sim (Term.Like L) (Builtin.callMap p arguments scope)
      (Builtin.callMap p arguments' scope) := by
  cases h with
  | nil => exact sim_fail_self _
  | cons first others =>
    cases others with
    | nil => cases first <;> exact sim_fail_self _
    | cons second others =>
      cases others with
      | cons _ _ => cases first <;> cases second <;> exact sim_fail_self _
      | nil =>
        cases first with
        | function _ codes =>
          cases second with
          | list each =>
            refine sim_bind (sim_mapM each fun t t' ht => hp.call scope codes (.cons ht .nil)) ?_
            exact fun _ _ hvalues => sim_pure (.list hvalues)
          | bool | nil | str | num | sym | function => exact sim_fail_self _
        | bool | nil | str | num | sym | list => exact sim_fail_self _

theorem sim_callFold (hp : SimTwins N p) {code code' : Code} (hcode : code.Like L code')
    {reached reached' : Term} (hreached : reached.Like L reached') {items items' : List Term}
    (hitems : List.Forall₂ (Term.Like L) items items') :
    (twins N).Sim (Term.Like L) (Builtin.callFold p code reached items scope)
      (Builtin.callFold p code' reached' items' scope) := by
  induction hitems generalizing reached reached' with
  | nil => exact sim_pure hreached
  | cons first _ ih =>
    have hpair := List.Forall₂.cons hreached (.cons first .nil)
    exact sim_bind (hp.call scope hcode hpair) fun next next' hnext => ih hnext

theorem sim_callReduce (hp : SimTwins N p)
    (h : List.Forall₂ (Term.Like L) arguments arguments') :
    (twins N).Sim (Term.Like L) (Builtin.callReduce p arguments scope)
      (Builtin.callReduce p arguments' scope) := by
  cases h with
  | nil => exact sim_fail_self _
  | cons first others =>
    cases others with
    | nil => cases first <;> exact sim_fail_self _
    | cons second others =>
      cases first with
      | function _ codes =>
        cases second with
        | list each =>
          cases others with
          | nil =>
            cases each with
            | nil => exact sim_pure .nil
            | cons item items => exact sim_callFold hp codes item items
          | cons third others =>
            cases others with
            | nil => exact sim_callFold hp codes third each
            | cons _ _ => exact sim_fail_self _
        | bool | nil | str | num | sym | function => exact sim_fail_self _
      | bool | nil | str | num | sym | list => exact sim_fail_self _

theorem sim_displayed {t t' : Term} (h : t.Like L t') :
    (twins N).Sim Eq (Builtin.displayed p t) (Builtin.displayed p t') := by
  have hprint := sim_print (N := N) (p := p) h
  cases h with
  | str text => exact sim_pure rfl
  | bool | nil | num | sym | list | function => exact hprint

theorem sim_writeLine (text : String) :
    (twins N).Sim (fun _ _ => True) (Action.writeLine text) (Action.writeLine text) :=
  sim_of_ends (fun _ => Nat.le_refl _) fun _ _ hs =>
    .ok trivial { hs with console := congrArg (·.writeLine text) hs.console }

theorem sim_callPrint (h : List.Forall₂ (Term.Like L) arguments arguments') :
    (twins N).Sim (Term.Like L) (Builtin.callPrint p arguments)
      (Builtin.callPrint p arguments') := by
  refine sim_bind (sim_mapM h fun t t' ht => sim_displayed ht) fun texts texts' htexts => ?_
  rw [List.forall₂_eq_eq_eq] at htexts
  subst htexts
  exact sim_bind (sim_writeLine _) fun _ _ _ => sim_pure .nil

theorem sim_readLine (prompt : String) :
    (twins N).Sim Eq (Action.readLine prompt) (Action.readLine prompt) := by
  refine sim_bind ?_ fun line line' (hline : line = line') => ?_
  · refine sim_of_ends (fun _ => Nat.le_refl _) fun s s' hs => ?_
    have hread := congrArg (·.readLine prompt) hs.console
    exact .ok (congrArg Prod.fst hread).symm { hs with console := congrArg Prod.snd hread }
  · subst hline
    cases line with
    | some text => exact sim_pure rfl
    | none => exact sim_fail_self _

theorem sim_callRead (h : List.Forall₂ (Term.Like L) arguments arguments') :
    (twins N).Sim (Term.Like L) (Builtin.callRead arguments) (Builtin.callRead arguments') := by
  have hread : ∀ prompt, (twins N).Sim (Term.Like L) (.str <$> Action.readLine prompt)
      (.str <$> Action.readLine prompt) := by
    intro prompt
    refine sim_map (sim_readLine prompt) ?_
    rintro text _ rfl
    exact .str text
  cases h with
  | nil => exact hread ""
  | cons first others =>
    cases others with
    | nil =>
      cases first with
      | str prompt => exact hread prompt
      | bool | nil | num | sym | list | function => exact sim_fail_self _
    | cons _ _ => cases first <;> exact sim_fail_self _

theorem sim_apply (hp : SimTwins N p) (b : Builtin)
    (h : List.Forall₂ (Term.Like L) arguments arguments') :
    (twins N).Sim (Term.Like L) (b.apply p arguments scope) (b.apply p arguments' scope) := by
  cases b with
  | equal => exact sim_callEqual h
  | map => exact sim_callMap hp h
  | reduce => exact sim_callReduce hp h
  | print => exact sim_callPrint h
  | read => exact sim_callRead h
  | list => exact sim_pure (.list h)
  | first => exact sim_checked (concur_firstItem h)
  | rest => exact sim_checked (concur_otherItems h)
  | cons => exact sim_checked (concur_prepended h)
  | concat => exact sim_checked (concur_concatenation h)
  | characters => exact sim_checked (concur_characterList h)
  | describe => exact sim_checked (concur_description h)
  | add | mul =>
    simp only [Builtin.apply, manyNumbers_eq _ h]
    exact sim_checked (concur_then _ fun _ => .ok (.num _))
  | sub =>
    simp only [Builtin.apply, twoNumbers_eq _ h]
    exact sim_checked (concur_then _ fun _ => .ok (.num _))
  | less =>
    simp only [Builtin.apply, twoNumbers_eq _ h]
    exact sim_checked (concur_then _ fun _ => .ok (.bool _))
  | div =>
    simp only [Builtin.apply, twoNumbers_eq _ h]
    exact sim_checked (concur_then _ fun _ => concur_then _ fun _ => .ok (.num _))
  | length =>
    simp only [Builtin.apply, size_eq _ h]
    exact sim_checked (concur_then _ fun _ => .ok (.num _))
  | isEmpty =>
    simp only [Builtin.apply, size_eq _ h]
    exact sim_checked (concur_then _ fun _ => .ok (.bool _))

end Builtins

/-! ## Evaluation -/

section Evaluation

theorem sim_lookup {key : String} (hkey : L.name key) :
    (twins N).Sim (Option.Rel (Term.Like L)) (Action.lookup scope key)
      (Action.lookup scope key) :=
  sim_of_ends (fun _ => Nat.le_refl _) fun _ _ hs => .ok (Twin.lookup hs scope (.inl hkey)) hs

theorem sim_callsMacro {items items' : List Term} (h : List.Forall₂ (Term.Like L) items items') :
    (twins N).Sim Eq (Evaluation.callsMacro items) (Evaluation.callsMacro items') := by
  cases h with
  | nil => exact sim_pure rfl
  | cons first _ =>
    cases first with
    | sym known _ =>
      refine sim_bind (sim_findMacro known) fun found found' hfound => ?_
      refine sim_pure ?_
      cases hfound <;> rfl
    | bool | nil | str | num | list | function => exact sim_pure rfl

theorem sim_symbolValue (hp : SimTwins N p) {key : String} (hkey : L.name key)
    {line line' : Nat} (hline : L.line line line') :
    (twins N).Sim (Term.Like L) (Evaluation.symbolValue p key line scope)
      (Evaluation.symbolValue p key line' scope) := by
  have hunbound : (twins N).Sim (Term.Like L) (Action.fail (.unboundSymbol key line))
      (Action.fail (.unboundSymbol key line')) :=
    sim_fail (.ofLine (.unboundSymbol key) (fun _ _ => rfl) hline)
  refine sim_bind (sim_lookup hkey) fun found found' hfound => ?_
  cases hfound with
  | none => exact hunbound
  | some halike =>
    cases halike with
    | nil => exact hunbound
    | sym known lines => exact hp.evaluate scope (.sym known lines)
    | bool b => exact sim_pure (.bool b)
    | str text => exact sim_pure (.str text)
    | num x => exact sim_pure (.num x)
    | list each => exact sim_pure (.list each)
    | function tags codes => exact sim_pure (.function tags codes)

theorem sim_applyValues (hp : SimTwins N p) {line line' : Nat} (hline : L.line line line')
    {values values' : List Term} (h : List.Forall₂ (Term.Like L) values values') :
    (twins N).Sim (Term.Like L) (Evaluation.applyValues p line values scope)
      (Evaluation.applyValues p line' values' scope) := by
  cases h with
  | nil => exact sim_pure (.list .nil)
  | cons first others =>
    cases first with
    | function _ codes => exact hp.call scope codes others
    | bool | nil | str | num | sym | list =>
      exact sim_fail (.ofLine (fun l => .notAFunction l _) (fun _ _ => rfl) hline)

theorem sim_evaluation_step (hp : SimTwins N p) {t t' : Term} (ht : t.Like L t') :
    (twins N).Sim (Term.Like L) (Evaluation.step p t scope) (Evaluation.step p t' scope) := by
  cases ht with
  | sym known lines => exact sim_symbolValue hp known lines
  | list each =>
    cases each with
    | nil => exact sim_pure (.list .nil)
    | cons first others =>
      have hitems := List.Forall₂.cons first others
      refine sim_bind (sim_callsMacro hitems) fun calls calls' (hcalls : calls = calls') => ?_
      subst hcalls
      cases calls with
      | true => exact sim_pure (.list hitems)
      | false =>
        refine sim_bind (sim_mapM hitems fun t t' ht => hp.evaluate scope ht) ?_
        exact fun values values' hvalues => sim_applyValues hp first.line hvalues
  | bool b => exact sim_pure (.bool b)
  | nil => exact sim_pure .nil
  | str text => exact sim_pure (.str text)
  | num x => exact sim_pure (.num x)
  | function tags codes => exact sim_pure (.function tags codes)

theorem sim_evaluateBody (hp : SimTwins N p) {last last' : Term} (hlast : last.Like L last')
    {ts ts' : List Term} (hts : List.Forall₂ (Term.Like L) ts ts') :
    (twins N).Sim (Term.Like L) (p.evaluateBody last ts scope)
      (p.evaluateBody last' ts' scope) := by
  induction hts generalizing last last' with
  | nil => exact sim_pure hlast
  | cons first _ ih => exact sim_bind (hp.evaluate scope first) fun _ _ hvalue => ih hvalue

end Evaluation

/-! ## Calls -/

section Calls

variable {arguments arguments' : List Term}

theorem sim_defineAny (scope : ScopeId) {key : String} {value value' : Term}
    (hvalue : L.Visible key → value.Like L value') :
    (twins N).Sim (fun _ _ => True) (Action.define scope key value)
      (Action.define scope key value') :=
  sim_of_ends (fun _ => Nat.le_refl _) fun _ _ hs => .ok trivial (Twin.define hs scope hvalue)

theorem sim_assign (scope : ScopeId) {key : String} (hkey : L.Visible key) {value value' : Term}
    (hvalue : value.Like L value') :
    (twins N).Sim (fun _ _ => True) (Action.assign scope key value)
      (Action.assign scope key value') :=
  sim_of_ends (fun _ => Nat.le_refl _) fun _ _ hs =>
    .ok trivial (Twin.assign hs scope hkey hvalue)

theorem sim_addChild (scope : ScopeId) :
    (twins N).Sim Eq (Action.newScope scope) (Action.newScope scope) :=
  sim_of_ends (fun _ => Nat.le_refl _) fun _ _ hs =>
    .ok (Twin.size hs).symm (Twin.addChild hs scope)

theorem alike_boundArguments {formals : List String} {rest : Option String}
    (hnames : ∀ key ∈ formals ++ rest.toList, L.name key)
    (harguments : List.Forall₂ (Term.Like L) arguments arguments') :
    List.Forall₂ (twins N).LikeEntry (Evaluation.boundArguments formals rest arguments)
      (Evaluation.boundArguments formals rest arguments') := by
  refine List.rel_append (alike_zip (fun key hkey => ?_) harguments) ?_
  · exact hnames key (List.mem_append_left _ hkey)
  · cases rest with
    | none => exact .nil
    | some key =>
      have hdropped := List.forall₂_drop formals.length harguments
      exact .cons ⟨rfl, hnames key (by simp), .list hdropped⟩ .nil

theorem sim_callClosure (hp : SimTwins N p) {formals : List String} {rest : Option String}
    (hnames : ∀ key ∈ formals ++ rest.toList, L.name key) {body body' : List Term}
    (hbody : List.Forall₂ (Term.Like L) body body') (home : ScopeId)
    (harguments : List.Forall₂ (Term.Like L) arguments arguments') :
    (twins N).Sim (Term.Like L) (Evaluation.callClosure p formals rest body home arguments)
      (Evaluation.callClosure p formals rest body' home arguments') := by
  unfold Evaluation.callClosure
  rw [harguments.length_eq]
  split
  · exact sim_fail_self _
  · refine sim_bind (sim_addChild home) fun inner inner' (hinner : inner = inner') => ?_
    subst hinner
    have hbind := sim_bindAll (P := twins N)
      (fun _ _ _ _ hvalue => sim_defineAny inner fun _ => hvalue)
      (alike_boundArguments hnames harguments)
    refine sim_bind hbind ?_
    exact fun _ _ _ => sim_evaluateBody hp .nil hbody

theorem sim_loopBody (hp : SimTwins N p) {body body' : List Term}
    (hbody : List.Forall₂ (Term.Like L) body body') :
    (twins N).Sim Eq (Evaluation.loopBody p scope body) (Evaluation.loopBody p scope body') := by
  induction hbody with
  | nil => exact sim_pure rfl
  | cons first _ ih =>
    refine sim_bind (hp.evaluate scope first) fun _ _ _ => sim_get fun s s' hs => ?_
    -- Both runs read the same flag of the loop.
    have hflag := Twin.bound hs scope loopFlag (.inr rfl)
    generalize (s.scopes.bindingsOf scope).get? loopFlag = flag,
      (s'.scopes.bindingsOf scope).get? loopFlag = flag' at hflag
    cases hflag with
    | none => exact ih
    | some halike =>
      cases halike with
      | bool b =>
        cases b with
        | true => exact sim_pure rfl
        | false => exact ih
      | nil | str | num | sym | list | function => exact ih

theorem sim_loopTurns (hp : SimTwins N p) {condition condition' : Term} {body body' : List Term}
    (hcondition : condition.Like L condition') (hbody : List.Forall₂ (Term.Like L) body body')
    (turns : Nat) :
    (twins N).Sim (Term.Like L) (Evaluation.loopTurns p condition body scope turns)
      (Evaluation.loopTurns p condition' body' scope turns) := by
  induction turns with
  | zero => exact sim_throw (.refl _ _)
  | succ n ih =>
    refine sim_bind (hp.evaluate scope hcondition) fun test test' htest => ?_
    cases htest with
    | bool b =>
      cases b with
      | false => exact sim_pure .nil
      | true =>
        refine sim_bind (sim_loopBody hp hbody) fun left left' (hleft : left = left') => ?_
        subst hleft
        cases left with
        | true => exact sim_pure .nil
        | false => exact ih
    | nil | str | num | sym | list | function => exact sim_pure .nil

theorem sim_loop (hp : SimTwins N p) {condition condition' : Term} {body body' : List Term}
    (hcondition : condition.Like L condition') (hbody : List.Forall₂ (Term.Like L) body body')
    (turns : Nat) :
    (twins N).Sim (Term.Like L) (Evaluation.loop p turns condition body scope)
      (Evaluation.loop p turns condition' body' scope) := by
  refine sim_bind (sim_addChild scope) fun inner inner' (hinner : inner = inner') => ?_
  subst hinner
  refine sim_bind (sim_defineAny inner fun _ => .bool false) fun _ _ _ => ?_
  exact sim_loopTurns hp hcondition hbody turns

theorem sim_guarded (hp : SimTwins N p) (catches : L.name caughtName → L.exact)
    {body body' fallback fallback' : Term} (hbody : body.Like L body')
    (hfallback : fallback.Like L fallback') :
    (twins N).Sim (Term.Like L) (Evaluation.guarded p body fallback scope)
      (Evaluation.guarded p body' fallback' scope) := by
  refine sim_recover (hp.evaluate scope hbody) fun e e' herror => ?_
  -- The message is only looked at where the errors are the same.
  have hmessage : L.Visible caughtName → Term.Like L (.str e.message) (.str e'.message) := by
    rintro (hname | hflag)
    · rw [herror.eq (catches hname)]
      exact .str _
    · exact absurd hflag (by decide)
  exact sim_bind (sim_defineAny scope hmessage) fun _ _ _ => hp.evaluate scope hfallback

theorem sim_host [Host.Platform]
    (program : HostProgram) (hnames : ∀ key ∈ program.names, L.name key) :
    (twins N).Sim (Term.Like L) (Evaluation.host p program scope)
      (Evaluation.host p program scope) := by
  refine sim_get fun s s' hs => sim_ofResult ?_
  exact concur_hostValue (fun key hkey => Twin.find hs scope (.inl hkey)) p.room program hnames

theorem alike_argument (h : List.Forall₂ (Term.Like L) arguments arguments') :
    (Evaluation.argument arguments).Like L (Evaluation.argument arguments') := by
  cases h with
  | nil => exact .nil
  | cons first _ => exact first

theorem alike_getLastD (h : List.Forall₂ (Term.Like L) arguments arguments') {t t' : Term}
    (ht : t.Like L t') : (arguments.getLastD t).Like L (arguments'.getLastD t') := by
  induction h generalizing t t' with
  | nil => exact ht
  | cons first _ ih =>
    rw [List.getLastD_cons, List.getLastD_cons]
    exact ih first

theorem sim_firstForm (hp : SimTwins N p) (hdata : ∀ t : Term, t.IsData → t.Like L t)
    (text : String) :
    (twins N).Sim (Term.Like L) (Evaluation.firstForm p text scope)
      (Evaluation.firstForm p text scope) := by
  have hparse : (twins N).Sim (List.Forall₂ (Term.Like L)) (p.parse text) (p.parse text) := by
    refine sim_ofResult ?_
    cases hforms : Term.parseWithin p.room text with
    | error stop => exact .error stop
    | ok forms =>
      have hread := isData_of_parseWithin hforms
      exact .ok (List.forall₂_same.2 fun t ht => hdata t (hread t ht))
  refine sim_bind hparse fun forms forms' hforms => ?_
  cases hforms with
  | nil => exact sim_pure .nil
  | cons first _ => exact hp.expand scope first

theorem sim_readText (hp : SimTwins N p) (hdata : ∀ t : Term, t.IsData → t.Like L t)
    {value value' : Term} (hvalue : value.Like L value') :
    (twins N).Sim (Term.Like L) (Evaluation.readText p value scope)
      (Evaluation.readText p value' scope) := by
  have hfirst : ∀ text, (twins N).Sim (Term.Like L) (Evaluation.firstForm p text scope)
      (Evaluation.firstForm p text scope) := fun text => sim_firstForm hp hdata text
  have hsame := hvalue
  cases hvalue with
  | nil => exact sim_pure .nil
  | str text => exact hfirst text
  -- What is no string is evaluated, and then it may be one.
  | bool | num | sym | list | function =>
    refine sim_bind (hp.evaluate scope hsame) fun result result' hresult => ?_
    have hlike := hresult
    cases hresult with
    | str text => exact hfirst text
    | bool | nil | num | sym | list | function => exact sim_pure hlike

theorem sim_call [Host.Platform] (hp : SimTwins N p)
    (reads : L.form .readText → ∀ t : Term, t.IsData → t.Like L t)
    (catches : L.name caughtName → L.exact) (turns : Nat) {code code' : Code}
    (hcode : code.Like L code') (h : List.Forall₂ (Term.Like L) arguments arguments') :
    (twins N).Sim (Term.Like L) (Evaluation.call turns p code arguments scope)
      (Evaluation.call turns p code' arguments' scope) := by
  have hargument := alike_argument h
  cases hcode with
  | builtin b => exact sim_apply hp b h
  | closure known bodies => exact sim_callClosure hp known bodies _ h
  | makeClosure known bodies lines =>
    exact sim_newFunction _ _ lines (.closure known bodies)
  | define known =>
    exact sim_bind (sim_defineAny scope fun _ => hargument) fun _ _ _ => sim_pure hargument
  | assign known =>
    exact sim_bind (sim_assign scope (.inl known) hargument) fun _ _ _ => sim_pure .nil
  | branch thens elses =>
    cases h with
    | nil => exact hp.evaluate scope elses
    | cons first _ =>
      cases first with
      | bool b =>
        cases b with
        | true => exact hp.evaluate scope thens
        | false => exact hp.evaluate scope elses
      | nil | str | num | sym | list | function => exact hp.evaluate scope elses
  | lastValue => exact sim_pure (alike_getLastD h .nil)
  | loop conditions bodies => exact sim_loop hp conditions bodies turns
  | leaveLoop =>
    exact sim_bind (sim_assign scope (.inr rfl) (.bool true)) fun _ _ _ => sim_pure .nil
  | evaluateValue =>
    exact sim_bind (hp.expand scope hargument) fun _ _ hform => hp.evaluate scope hform
  | readText known => exact sim_readText hp (reads known) hargument
  | guarded tries fallbacks => exact sim_guarded hp catches tries fallbacks
  | throwValue =>
    refine sim_bind (sim_print hargument) fun text text' (htext : text = text') => ?_
    exact htext ▸ sim_fail_self _
  | host known => exact sim_host _ known

end Calls

/-! ## All levels -/

theorem simTwins_exhausted : SimTwins N .exhausted where
  expand _ _ := sim_throw (.refl _ _)
  evaluate _ _ := sim_throw (.refl _ _)
  call _ _ _ := sim_throw (.refl _ _)

theorem simTwins_passes [Host.Platform]
    (reads : L.form .readText → ∀ t : Term, t.IsData → t.Like L t)
    (catches : L.name caughtName → L.exact) (turns depth : Nat) :
    SimTwins N (passes turns depth) := by
  induction depth with
  | zero => exact simTwins_exhausted
  | succ n ih =>
    exact {
      expand := fun _ ht => sim_expansion_step ih.simPasses rfl ht
      evaluate := fun _ ht => sim_evaluation_step ih ht
      call := fun _ hcode h => sim_call ih reads catches turns hcode h }

/-! ## Programs -/

theorem sim_runForms (hp : SimTwins N p) {forms forms' : List Term}
    (hforms : List.Forall₂ (Term.Like L) forms forms') :
    (twins N).Sim (Option.Rel (Term.Like L)) (runForms p forms scope)
      (runForms p forms' scope) := by
  refine sim_bind (sim_expandBody hp.simPasses hforms rfl) fun expanded expanded' h => ?_
  cases h with
  | nil => exact sim_pure .none
  | cons first others =>
    exact sim_map (sim_evaluateBody hp .nil (.cons first others)) fun _ _ hvalue => .some hvalue

theorem sim_runProgram (hp : SimTwins N p) {forms forms' : List Term}
    (hforms : List.Forall₂ (Term.Like L) forms forms') :
    (twins N).Sim Eq (runProgram p forms scope) (runProgram p forms' scope) := by
  refine sim_bind (sim_runForms hp hforms) fun result result' h => ?_
  cases h with
  | none => exact sim_pure rfl
  | some halike => exact sim_print halike

end Pairing

end MiniLisp
