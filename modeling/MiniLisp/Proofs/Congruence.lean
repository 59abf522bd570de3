import MiniLisp.Evaluation

/-! # Congruences

    Much of what can be said about a run is said of all its steps at once: no
    scope is taken away, no line is unwritten, what happens in its course
    happens in order. Such a property passes from the parts of a run to the
    whole, whatever the parts are.

    A congruence is a property of this kind. It relates three actions side by
    side, so that a run can be set beside two others that take the same steps
    but are watched; a property of one run alone ignores the other two. It may
    also depend on the scope that the run is evaluated in.

    Some calls may be right only because they are watched. A congruence sets
    their codes apart and promises nothing about them.

    * **`Action.sequel`** — what follows an action, however it ends;
    * **`Congruence`** — the relation with its laws;
    * **`Congruence.rel_bind`** and **`Congruence.rel_recover`** — the two ways
      in which one action follows another one.

    That the passes keep to every congruence is shown in
    `MiniLisp.Proofs.Congruence.Passes`. -/

namespace MiniLisp

/-! ## How actions end -/

namespace Action

variable {α β : Type} {x y : Action α} {s s' : State}

/-- The state that an action leaves behind, be it finished or stopped. -/
def after (x : Action α) (s : State) : State :=
  match x s with
  | .ok _ s' => s'
  | .error _ s' => s'

/-- How an action ends. -/
def ending (x : Action α) (s : State) : Except Stop α :=
  match x s with
  | .ok a _ => .ok a
  | .error e _ => .error e

/-- What follows an action, however it ends. Both sequences and recovery are of
    this form. -/
def sequel (x : Action α) (k : Except Stop α → Action β) : Action β :=
  fun s => k (x.ending s) (x.after s)

theorem after_ok {a : α} (h : x s = .ok a s') : x.after s = s' := by
  rw [after, h]

theorem after_error {e : Stop} (h : x s = .error e s') : x.after s = s' := by
  rw [after, h]

theorem after_congr (h : y s = x s) : y.after s = x.after s := by
  rw [after, h, after]

theorem ending_congr (h : y s = x s) : y.ending s = x.ending s := by
  rw [ending, h, ending]

theorem eq_of_ending_error {e : Stop} (h : x.ending s = .error e) : x s = .error e (x.after s) := by
  unfold ending at h
  unfold after
  cases hx : x s with
  | ok a s' =>
    rw [hx] at h
    cases h
  | error e' s' =>
    rw [hx] at h
    cases h
    rfl

theorem bind_eq_sequel (x : Action α) (f : α → Action β) :
    x >>= f = x.sequel fun
      | .ok a => f a
      | .error e => throw e := by
  funext s
  unfold sequel ending after
  cases hx : x s with
  | ok a s' => exact bind_ok hx
  | error e s' => exact bind_error hx

theorem recover_eq_sequel (x : Action α) (f : LispError → Action α) :
    recover x f = x.sequel fun
      | .ok a => pure a
      | .error (.error e) => f e
      | .error stop => throw stop := by
  funext s
  unfold sequel ending after recover
  cases x s with
  | ok a s' => rfl
  | error stop s' => cases stop <;> rfl

theorem after_ofResult (result : Except Stop α) (s : State) : (ofResult result).after s = s := by
  cases result <;> rfl

theorem readLine_eq (prompt : String) (s : State) :
    readLine prompt s =
      match (s.console.readLine prompt).1 with
      | some text => .ok text { s with console := (s.console.readLine prompt).2 }
      | none => .error (.error (.read .endOfInput))
          { s with console := (s.console.readLine prompt).2 } := by
  unfold readLine
  refine Eq.trans (bind_ok (show _ = EStateM.Result.ok (s.console.readLine prompt).1
    { s with console := (s.console.readLine prompt).2 } from rfl)) ?_
  cases (s.console.readLine prompt).1 <;> rfl

theorem after_readLine (prompt : String) (s : State) :
    (readLine prompt).after s = { s with console := (s.console.readLine prompt).2 } := by
  rw [after, readLine_eq]
  cases (s.console.readLine prompt).1 <;> rfl

theorem after_host [Host.Platform]
    (p : Passes) (program : HostProgram) (scope : ScopeId) (s : State) :
    (Evaluation.host p program scope).after s = s :=
  after_ofResult (Evaluation.hostValue p.room program s.scopes scope) s

end Action

/-! ## Congruences -/

/-- The stops that only a host expression brings about. -/
def Stop.IsHostStop : Stop → Prop
  | .overflow | .memory => True
  | .error _ | .exhausted | .unfinished => False

/-- A relation of three actions that begin in the same state. It may depend on
    the scope that they are evaluated in; with no scope, they do only what is
    right in every scope. -/
abbrev ActionRelation := Option ScopeId → {α : Type} → Action α → Action α → Action α → Prop

/-- The relation holds of an action beside itself. -/
abbrev ActionRelation.Same (rel : ActionRelation) (own : Option ScopeId) {α : Type}
    (x : Action α) : Prop :=
  rel own x x x

/-- Where the relation holds of every stop beside itself, it holds of what comes
    after the stops of host expressions, too. -/
theorem ActionRelation.each (rel : ActionRelation) (own : Option ScopeId) {α β : Type}
    {k l m : Except Stop α → Action β} (hstop : ∀ e : Stop, rel.Same own (throw e : Action β))
    (hk : ∀ r, (∀ e, r = .error e → ¬ e.IsHostStop) → rel own (k r) (l r) (m r))
    (hthrow : ∀ e, e.IsHostStop →
      k (.error e) = throw e ∧ l (.error e) = throw e ∧ m (.error e) = throw e)
    (r : Except Stop α) : rel own (k r) (l r) (m r) := by
  by_cases hhost : ∃ e, r = .error e ∧ e.IsHostStop
  · obtain ⟨e, rfl, he⟩ := hhost
    obtain ⟨hkthrow, hlthrow, hmthrow⟩ := hthrow e he
    rw [hkthrow, hlthrow, hmthrow]
    exact hstop e
  · exact hk r fun e hr he => hhost ⟨e, hr, he⟩

variable [Host.Platform]

/-- A relation of three actions that all ways to put actions together respect. -/
structure Congruence where
  rel : ActionRelation
  /-- The codes whose calls are set apart. -/
  apart : Code → Prop
  widen : ∀ scope {α : Type} {x y z : Action α}, rel none x y z → rel (some scope) x y z
  value : ∀ own {α : Type} (a : α), rel.Same own (pure a)
  stop : ∀ own {α : Type} (e : Stop), ¬ e.IsHostStop → rel.Same own (throw e : Action α)
  state : ∀ own, rel.Same own (get : Action State)
  /-- Nothing comes after the stops of host expressions. -/
  sequel : ∀ own {α β : Type} {x y z : Action α} {k l m : Except Stop α → Action β},
    rel own x y z →
    (∀ r, (∀ e, r = .error e → ¬ e.IsHostStop) → rel own (k r) (l r) (m r)) →
    (∀ e, e.IsHostStop → k (.error e) = throw e ∧ l (.error e) = throw e ∧ m (.error e) = throw e) →
    rel own (x.sequel k) (y.sequel l) (z.sequel m)
  /-- What is done in a scope made for it is done in no scope that existed. -/
  newScope : ∀ scope {α : Type} {f g h : ScopeId → Action α},
    (∀ inner, rel (some inner) (f inner) (g inner) (h inner)) →
    rel none (Action.newScope scope >>= f) (Action.newScope scope >>= g)
      (Action.newScope scope >>= h)
  define : ∀ scope name value, rel.Same (some scope) (Action.define scope name value)
  assign : ∀ scope name value, rel.Same (some scope) (Action.assign scope name value)
  addMacro : ∀ m, rel.Same none (Action.addMacro m)
  newFunction : ∀ id description line code,
    rel.Same none (Action.newFunction id description line code)
  nextBranch : rel.Same none Action.nextBranch
  nextLambda : rel.Same none Action.nextLambda
  writeLine : ∀ text, rel.Same none (Action.writeLine text)
  readLine : ¬ apart (.builtin .read) → ∀ prompt, rel.Same none (Action.readLine prompt)
  host : ∀ program, ¬ apart (.host program) → ∀ p scope,
    rel.Same none (Evaluation.host p program scope)

namespace Congruence

variable {C : Congruence} {own : Option ScopeId} {α β : Type} {x y z : Action α}

/-! ## Sequences -/

/-- What is right in every scope is right in each. -/
theorem ofNone (h : C.rel none x y z) : C.rel own x y z := by
  cases own with
  | none => exact h
  | some scope => exact C.widen scope h

theorem rel_pure (a : α) : C.rel.Same own (pure a : Action α) :=
  C.value own a

theorem rel_fail (e : LispError) : C.rel.Same own (Action.fail e : Action α) :=
  C.stop own (.error e) id

theorem rel_bind {f g h : α → Action β} (hxyz : C.rel own x y z)
    (hfgh : ∀ a, C.rel own (f a) (g a) (h a)) : C.rel own (x >>= f) (y >>= g) (z >>= h) := by
  rw [Action.bind_eq_sequel, Action.bind_eq_sequel, Action.bind_eq_sequel]
  refine C.sequel own hxyz (fun r hr => ?_) fun e _ => ⟨rfl, rfl, rfl⟩
  cases r with
  | ok a => exact hfgh a
  | error e => exact C.stop own e (hr e rfl)

theorem rel_recover {f g h : LispError → Action α} (hxyz : C.rel own x y z)
    (hfgh : ∀ e, C.rel own (f e) (g e) (h e)) :
    C.rel own (Action.recover x f) (Action.recover y g) (Action.recover z h) := by
  rw [Action.recover_eq_sequel, Action.recover_eq_sequel, Action.recover_eq_sequel]
  refine C.sequel own hxyz (fun r hr => ?_) fun e he => ?_
  · cases r with
    | ok a => exact rel_pure a
    | error stop =>
      cases stop with
      | error e => exact hfgh e
      | exhausted => exact C.stop own .exhausted id
      | unfinished => exact C.stop own .unfinished id
      | overflow | memory => exact absurd trivial (hr _ rfl)
  · cases e with
    | overflow | memory => exact ⟨rfl, rfl, rfl⟩
    | error _ | exhausted | unfinished => exact he.elim

theorem rel_map (f : α → β) (hxyz : C.rel own x y z) :
    C.rel own (f <$> x) (f <$> y) (f <$> z) := by
  rw [← bind_pure_comp, ← bind_pure_comp, ← bind_pure_comp]
  exact rel_bind hxyz fun a => rel_pure (f a)

theorem rel_ofResult {result : Except Stop α} (h : ∀ e, result = .error e → ¬ e.IsHostStop) :
    C.rel.Same own (Action.ofResult result) := by
  cases result with
  | ok a => exact rel_pure a
  | error e => exact C.stop own e (h e rfl)

theorem rel_mapM {f g h : β → Action α} (hfgh : ∀ b, C.rel own (f b) (g b) (h b))
    (bs : List β) : C.rel own (bs.mapM f) (bs.mapM g) (bs.mapM h) := by
  induction bs with
  | nil => exact rel_pure []
  | cons b rest ih =>
    rw [List.mapM_cons, List.mapM_cons, List.mapM_cons]
    exact rel_bind (hfgh b) fun a => rel_bind ih fun as => rel_pure (a :: as)

/-! ## The actions that change the state -/

theorem rel_lookup (scope : ScopeId) (name : String) :
    C.rel.Same own (Action.lookup scope name) :=
  rel_bind (C.state own) fun _ => rel_pure _

theorem rel_findMacro (name : String) : C.rel.Same own (Action.findMacro name) :=
  rel_bind (C.state own) fun _ => rel_pure _

theorem rel_addMacro (m : Macro) : C.rel.Same own (Action.addMacro m) :=
  ofNone (C.addMacro m)

theorem rel_newFunction (id description : Option String) (line : Nat) (code : Code) :
    C.rel.Same own (Action.newFunction id description line code) :=
  ofNone (C.newFunction id description line code)

theorem rel_newStep (code : Code) : C.rel.Same own (Action.newStep code) :=
  rel_newFunction none none 0 code

theorem rel_nextBranch : C.rel.Same own Action.nextBranch :=
  ofNone C.nextBranch

theorem rel_nextLambda : C.rel.Same own Action.nextLambda :=
  ofNone C.nextLambda

theorem rel_writeLine (text : String) : C.rel.Same own (Action.writeLine text) :=
  ofNone (C.writeLine text)

theorem rel_bindAll (scope : ScopeId) (entries : List (String × Term)) :
    C.rel.Same (some scope) (Expansion.bindAll scope entries) := by
  induction entries with
  | nil => exact rel_pure ()
  | cons entry rest ih =>
    obtain ⟨name, value⟩ := entry
    exact rel_bind (C.define scope name value) fun _ => ih

end Congruence

end MiniLisp
