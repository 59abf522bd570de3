import MiniLisp.Proofs.AppendOnly

/-! # What escapes from a run

    A run is meant to end in a text or in an error of the language, which an
    enclosing form can catch. The recursion bound is made an error when the run
    ends. What a host expression does wrong is made an error too, while it is
    evaluated; but its value is turned into a term only afterwards, and a whole
    number beyond the doubles then stops the run with something that is no
    error. This is the only such case, apart from memory that runs out and
    loops that go on for too long.

    * **`Host.Value.HoldsTooLarge`** — values that cannot be turned into terms
      for this reason;
    * **`Visit.yieldsTooLarge`** — the calls that are to blame;
    * **`overflows_iff`** — a run stops like this exactly if it has such a call;
    * **`only_overflow_escapes`** — how the run of a program ends. -/

namespace MiniLisp

/-! ## Values beyond the doubles -/

/-- A whole number beyond the doubles is in the value. -/
inductive Host.Value.HoldsTooLarge : Host.Value → Prop where
  | int {n : Int} (h : Binary64.ofInt? n = Option.none) : HoldsTooLarge (.int n)
  | item {items : List Host.Value} {v : Host.Value} (hmem : v ∈ items) (h : v.HoldsTooLarge) :
      HoldsTooLarge (.list items)

namespace Host

mutual

theorem holdsTooLarge_of_toTerm : (room : Nat) → (v : Value) →
    v.toTerm room = .error .tooLarge → v.HoldsTooLarge
  | room + 1, .int n, h => by
    unfold Value.toTerm at h
    split at h
    · cases h
    · next hn => exact .int hn
  | room + 1, .list items, h => by
    unfold Value.toTerm at h
    cases hitems : Value.toTerms room items with
    | ok terms =>
      rw [hitems] at h
      cases h
    | error e =>
      rw [hitems] at h
      cases h
      obtain ⟨v, hmem, hv⟩ := holdsTooLarge_of_toTerms room items hitems
      exact .item hmem hv
  | 0, v, h => by
    unfold Value.toTerm at h
    cases h
  | room + 1, .none, h | room + 1, .bool _, h | room + 1, .real _ _, h | room + 1, .text _, h
  | room + 1, .function _ _, h | room + 1, .helper _, h | room + 1, .slice _ _ _, h => by
    unfold Value.toTerm at h
    cases h

theorem holdsTooLarge_of_toTerms : (room : Nat) → (vs : List Value) →
    Value.toTerms room vs = .error .tooLarge → ∃ v ∈ vs, v.HoldsTooLarge
  | room, [], h => by
    unfold Value.toTerms at h
    cases h
  | room, v :: rest, h => by
    unfold Value.toTerms at h
    cases hv : v.toTerm room with
    | error e =>
      rw [hv] at h
      cases h
      exact ⟨v, List.mem_cons_self, holdsTooLarge_of_toTerm room v hv⟩
    | ok t =>
      rw [hv] at h
      cases hrest : Value.toTerms room rest with
      | error e =>
        rw [hrest] at h
        cases h
        obtain ⟨w, hmem, hw⟩ := holdsTooLarge_of_toTerms room rest hrest
        exact ⟨w, List.mem_cons_of_mem _ hmem, hw⟩
      | ok ts =>
        rw [hrest] at h
        cases h

end

end Host

/-! ## Calls of host expressions -/

/-- The expression has a value in the scope, but none that could be turned into
    a term, since a number in it is too large. -/
def HostProgram.TooLarge [Host.Platform] (room : Nat) (program : HostProgram) (scopes : Scopes)
    (scope : ScopeId) : Prop :=
  ∃ bindings value, Evaluation.hostBindings room scopes scope program.names = .ok bindings ∧
    program.body.eval bindings room = .ok value ∧ value.toTerm room = .error .tooLarge ∧
    value.HoldsTooLarge

/-- How a host expression fails: with an error, for want of room or memory, or
    because its value is too large. -/
theorem hostValue_error [Host.Platform]
    {room : Nat} {program : HostProgram} {scopes : Scopes} {scope : ScopeId}
    {stop : Stop} (h : Evaluation.hostValue room program scopes scope = .error stop) :
    (∃ e, stop = .error (.host e)) ∨ stop = .exhausted ∨ stop = .memory ∨
      stop = .overflow ∧ program.TooLarge room scopes scope := by
  unfold Evaluation.hostValue at h
  cases hbindings : Evaluation.hostBindings room scopes scope program.names with
  | error e =>
    rw [hbindings] at h
    cases h
    cases e with
    | unbound name => exact .inl ⟨_, rfl⟩
    | exhausted => exact .inr (.inl rfl)
  | ok bindings =>
    rw [hbindings] at h
    change ((program.body.eval bindings room).mapError Evaluation.hostStop >>= fun value =>
      (value.toTerm room).mapError Evaluation.valueStop) = .error stop at h
    cases heval : program.body.eval bindings room with
    | error e =>
      rw [heval] at h
      cases h
      cases e with
      | fault f => exact .inl ⟨_, rfl⟩
      | unusable => exact .inl ⟨_, rfl⟩
      | memory => exact .inr (.inr (.inl rfl))
      | exhausted => exact .inr (.inl rfl)
      | stuck what => exact .inl ⟨_, rfl⟩
    | ok value =>
      rw [heval] at h
      change (value.toTerm room).mapError Evaluation.valueStop = .error stop at h
      cases hterm : value.toTerm room with
      | ok t =>
        rw [hterm] at h
        cases h
      | error e =>
        rw [hterm] at h
        cases h
        cases e with
        | tooLarge =>
          refine .inr (.inr (.inr ⟨rfl, bindings, value, hbindings, heval, hterm, ?_⟩))
          exact Host.holdsTooLarge_of_toTerm room value hterm
        | unusable => exact .inl ⟨_, rfl⟩
        | exhausted => exact .inr (.inl rfl)

/-- A call of a host expression changes nothing, and it fails as the expression
    does. -/
theorem host_error [Host.Platform]
    {p : Passes} {program : HostProgram} {scope : ScopeId} {s s' : State}
    {stop : Stop} (h : Evaluation.host p program scope s = .error stop s') :
    s' = s ∧ ((∃ e, stop = .error (.host e)) ∨ stop = .exhausted ∨ stop = .memory ∨
      stop = .overflow ∧ program.TooLarge p.room s.scopes scope) := by
  change Action.ofResult (Evaluation.hostValue p.room program s.scopes scope) s = _ at h
  cases hvalue : Evaluation.hostValue p.room program s.scopes scope with
  | ok t =>
    rw [hvalue] at h
    cases h
  | error e =>
    rw [hvalue] at h
    cases h
    exact ⟨rfl, hostValue_error hvalue⟩

/-- The call of a host expression whose value is too large. -/
def Visit.yieldsTooLarge [Host.Platform] : Watch :=
  fun v s r => ∃ program arguments scope room, v = .call (.host program) arguments scope ∧
    program.TooLarge room s.scopes scope ∧ r = .error .overflow s

/-! ## Runs that overflow -/

/-- Unless the watch itself overflows, the second action never does, and where
    the two differ the first one does. -/
def OverflowsApart {α : Type} (stop : Stop) (x y : Action α) : Prop :=
  ∀ s, (stop ≠ .overflow → ∀ s', y s ≠ .error .overflow s') ∧
    (y s ≠ x s → ∃ s', x s = .error .overflow s')

section Overflows

variable {turns depth : Nat} {stop : Stop} {α β : Type} {x y : Action α}
  {k l : Except Stop α → Action β}

theorem OverflowsApart.same (hx : ∀ s s', x s ≠ .error .overflow s') :
    OverflowsApart stop x x :=
  fun s => ⟨fun _ => hx s, fun hne => absurd rfl hne⟩

theorem OverflowsApart.sequel (hxy : OverflowsApart stop x y)
    (hk : ∀ r, r ≠ .error .overflow → OverflowsApart stop (k r) (l r))
    (hthrow : k (.error .overflow) = throw .overflow)
    (hthrow' : l (.error .overflow) = throw .overflow) :
    OverflowsApart stop (x.sequel k) (y.sequel l) := by
  intro s
  constructor
  · intro hstop s' hover
    have hending : y.ending s ≠ .error .overflow := fun h =>
      (hxy s).1 hstop _ (Action.eq_of_ending_error h)
    exact (hk _ hending (y.after s)).1 hstop s' hover
  · intro hne
    rcases sequel_ne hne with hne | hne
    · obtain ⟨s', hover⟩ := (hxy s).2 hne
      refine ⟨s', ?_⟩
      unfold Action.sequel Action.ending Action.after
      rw [hover, hthrow]
      rfl
    -- After an overflow both actions stop in the same way.
    · have hending : x.ending s ≠ .error .overflow := by
        intro h
        rw [h, hthrow, hthrow'] at hne
        exact hne rfl
      exact (hk _ hending (x.after s)).2 hne

variable [Host.Platform]

/-- To overflow only apart from the watch is a congruence. Calls of host
    expressions are set apart. -/
def overflows (stop : Stop) : Congruence where
  rel _ _ x y _ := OverflowsApart stop x y
  apart code := ∃ program, code = .host program
  widen _ _ _ _ _ hxy := hxy
  value _ _ _ := .same fun _ _ h => by cases h
  stop _ _ e he := .same fun _ _ h => by
    cases h
    exact he trivial
  state _ := .same fun _ _ h => by cases h
  sequel _ _ _ _ _ _ _ _ _ hxy hk hthrow := by
    refine hxy.sequel (fun r hr => ?_) (hthrow .overflow trivial).1 (hthrow .overflow trivial).2.1
    by_cases hmemory : r = .error .memory
    · obtain ⟨hthrow, hthrow', -⟩ := hthrow .memory trivial
      rw [hmemory, hthrow, hthrow']
      exact .same fun _ _ h => by cases h
    · refine hk r fun e he hhost => ?_
      cases e with
      | overflow => exact hr he
      | memory => exact hmemory he
      | error _ | exhausted | unfinished => exact hhost
  newScope scope _ _ _ _ hf :=
    fun s => hf s.scopes.size { s with scopes := s.scopes.addChild scope }
  define _ _ _ := .same fun _ _ h => by cases h
  assign _ _ _ := .same fun _ _ h => by cases h
  addMacro _ := .same fun _ _ h => by cases h
  newFunction _ _ _ _ := .same fun _ _ h => by cases h
  nextBranch := .same fun _ _ h => by cases h
  nextLambda := .same fun _ _ h => by cases h
  writeLine _ := .same fun _ _ h => by cases h
  readLine _ prompt := .same fun s _ h => by
    rw [Action.readLine_eq] at h
    split at h <;> cases h
  host program hcode := absurd ⟨program, rfl⟩ hcode

theorem room_watchedPasses (turns : Nat) (bad : Watch) (stop : Stop) (depth : Nat) :
    (watchedPasses turns bad stop depth).room = depth := by
  induction depth with
  | zero => rfl
  | succ n ih => exact congrArg (· + 1) ih

/-- A call of a host expression does the same with a watch on its course. -/
theorem run_coursePasses_host {bad : Watch} (turns n : Nat) (program : HostProgram)
    (arguments : List Term) (scope : ScopeId) :
    (Visit.call (.host program) arguments scope).run (coursePasses turns bad stop n) =
      (Visit.call (.host program) arguments scope).run (passes turns n) := by
  cases n with
  | zero => rfl
  | succ n =>
    show Evaluation.host (watchedPasses turns bad stop n) program scope =
      Evaluation.host (passes turns n) program scope
    unfold Evaluation.host
    rw [room_watchedPasses, room_passes]

theorem yieldsTooLarge_of_overflow {n : Nat} {program : HostProgram} {arguments : List Term}
    {scope : ScopeId} {s s' : State}
    (h : (Visit.call (.host program) arguments scope).run (passes turns n) s =
      .error .overflow s') :
    Visit.yieldsTooLarge (.call (.host program) arguments scope) s (.error .overflow s') := by
  cases n with
  | zero => cases h
  | succ n =>
    obtain ⟨rfl, hstop⟩ := host_error (p := passes turns n) h
    rcases hstop with ⟨e, he⟩ | he | he | ⟨-, htoo⟩
    · cases he
    · cases he
    · cases he
    · exact ⟨program, arguments, scope, _, rfl, htoo, rfl⟩

theorem relPasses_overflows (turns : Nat) (stop : Stop) (depth : Nat) :
    (overflows stop).RelPasses (passes turns depth)
      (watchedPasses turns Visit.yieldsTooLarge stop depth)
      (watchedPasses turns Visit.yieldsTooLarge stop depth) := by
  refine Congruence.relPasses_watchedPasses (fun n v hcourse s => ?_) depth
  by_cases hbad : Visit.yieldsTooLarge v s
      (v.run (coursePasses turns Visit.yieldsTooLarge stop n) s)
  · have hstops : (v.run (coursePasses turns Visit.yieldsTooLarge stop n)).watched
        (Visit.yieldsTooLarge v) stop s = .error stop s := Action.watched_of_bad hbad
    obtain ⟨program, arguments, scope, room, rfl, -, hover⟩ := hbad
    rw [run_coursePasses_host] at hover
    constructor
    · intro hstop s' h
      rw [hstops] at h
      cases h
      exact hstop rfl
    · exact fun _ => ⟨s, hover⟩
  · rw [Action.watched_of_not hbad]
    by_cases hv : v.Apart (overflows stop).apart
    · cases v with
      | expand t scope => exact hv.elim
      | evaluate t scope => exact hv.elim
      | call code arguments scope =>
        obtain ⟨program, rfl⟩ : ∃ program, code = .host program := hv
        rw [run_coursePasses_host] at hbad ⊢
        constructor
        · intro _ s' hover
          rw [hover] at hbad
          exact hbad (yieldsTooLarge_of_overflow hover)
        · exact fun hne => absurd rfl hne
    · exact hcourse hv s

/-- A run stops with an overflow exactly if it has a call of a host expression
    whose value is too large. -/
theorem overflows_iff {own : Option ScopeId} {run : Passes → Action α} (hrun : Regular own run)
    (s : State) : (∃ s', run (passes turns depth) s = .error .overflow s') ↔
      ¬ Avoids turns depth Visit.yieldsTooLarge run s := by
  have hapart : ∀ stop, OverflowsApart stop (run (passes turns depth))
      (run (watchedPasses turns Visit.yieldsTooLarge stop depth)) := fun stop =>
    hrun _ _ _ _ (relPasses_overflows turns stop depth)
  constructor
  · rintro ⟨s', hover⟩ havoids
    rw [← havoids .memory] at hover
    exact (hapart .memory s).1 (fun h => by cases h) s' hover
  · intro hmeets
    obtain ⟨stop, hne⟩ := not_forall.1 hmeets
    exact (hapart stop s).2 hne

end Overflows

/-! ## How programs end -/

theorem Stop.closed_cases (stop : Stop) :
    (∃ e, stop.closed = .error e) ∨ stop.closed = .memory ∨ stop.closed = .unfinished ∨
      stop.closed = .overflow := by
  cases stop with
  | error e => exact .inl ⟨e, rfl⟩
  | exhausted => exact .inl ⟨.recursion, rfl⟩
  | overflow => exact .inr (.inr (.inr rfl))
  | memory => exact .inr (.inl rfl)
  | unfinished => exact .inr (.inr (.inl rfl))

theorem Stop.closed_eq_overflow {stop : Stop} : stop.closed = .overflow ↔ stop = .overflow := by
  cases stop <;> simp [Stop.closed]

/-- The run of a program overflows if the run of its forms does. -/
theorem Session.run_overflow_iff [Host.Platform]
    (l : Limits) (session : Session) (program : String) :
    (session.run l program).1 = .error .overflow ↔
      ∃ forms, Term.parseWithin l.depth program = .ok forms ∧
        ∃ s, session.course forms l.passes session.initial = .error .overflow s := by
  unfold run course
  cases hforms : Term.parseWithin l.depth program with
  | error stop =>
    have hstop := not_isHostStop_of_parseWithin hforms
    constructor
    · intro h
      have hclosed : stop.closed = .overflow := Except.error.inj h
      rw [Stop.closed_eq_overflow.1 hclosed] at hstop
      exact absurd trivial hstop
    · rintro ⟨forms, h, -⟩
      cases h
  | ok forms =>
    dsimp only
    cases hends : runProgram l.passes (session.prelude ++ forms) rootScope session.initial with
    | ok text s =>
      constructor
      · intro h
        cases h
      · rintro ⟨forms', h, s', hover⟩
        cases h
        rw [hends] at hover
        cases hover
    | error stop s =>
      constructor
      · intro h
        have hclosed : stop.closed = .overflow := Except.error.inj h
        obtain rfl := Stop.closed_eq_overflow.1 hclosed
        exact ⟨forms, rfl, s, hends⟩
      · rintro ⟨forms', h, s', hover⟩
        cases h
        rw [hends] at hover
        cases hover
        rfl

theorem Session.run_error [Host.Platform]
    {l : Limits} {session : Session} {program : String} {stop : Stop}
    (h : (session.run l program).1 = .error stop) :
    (∃ e, stop = .error e) ∨ stop = .memory ∨ stop = .unfinished ∨ stop = .overflow := by
  unfold run at h
  split at h
  · cases h
    exact Stop.closed_cases _
  · split at h
    · cases h
    · cases h
      exact Stop.closed_cases _

theorem Session.start_error {l : Limits} {prelude : Option String} {console : Console}
    {stop : Stop} (h : start l prelude console = .error stop) :
    (∃ e, stop = .error (.read e)) ∨ stop = .exhausted := by
  unfold start at h
  cases prelude with
  | none => cases h
  | some text =>
    dsimp only at h
    cases hforms : Term.parseWithin l.depth text with
    | error e =>
      rw [hforms] at h
      cases h
      exact Term.parseWithin_error hforms
    | ok forms =>
      rw [hforms] at h
      cases h

/-- A run ends in a text or an error unless it is cut short or overflows, and it
    overflows only if it calls a host expression that has a value, in which a
    whole number is beyond the doubles. All other failures of host expressions
    are errors that leave the state alone or for want of room or memory; a guard
    goes on with its fallback after any error; and a prelude that is not read is
    wrong or nested too deep. -/
theorem only_overflow_escapes [Host.Platform] (l : Limits) (session : Session) (program : String) :
    (∀ stop, (session.run l program).1 = .error stop →
      (∃ e, stop = .error e) ∨ stop = .memory ∨ stop = .unfinished ∨ stop = .overflow) ∧
    ((session.run l program).1 = .error .overflow ↔
      ∃ forms, Term.parseWithin l.depth program = .ok forms ∧
        ¬ Avoids l.turns l.depth Visit.yieldsTooLarge (session.course forms) session.initial) ∧
    (∀ p host scope s stop s', Evaluation.host p host scope s = .error stop s' →
      s' = s ∧ ((∃ e, stop = .error (.host e)) ∨ stop = .exhausted ∨ stop = .memory ∨
        stop = .overflow ∧ host.TooLarge p.room s.scopes scope)) ∧
    (∀ p body fallback scope s e s', p.evaluate body scope s = .error (.error e) s' →
      Evaluation.guarded p body fallback scope s =
        (Action.define scope caughtName (.str e.message) >>= fun _ =>
          p.evaluate fallback scope) s') ∧
    ∀ prelude console stop, Session.start l prelude console = .error stop →
      (∃ e, stop = .error (.read e)) ∨ stop = .exhausted := by
  refine ⟨fun stop h => Session.run_error h, ?_, fun _ _ _ _ _ _ h => host_error h, ?_,
    fun _ _ _ h => Session.start_error h⟩
  · rw [Session.run_overflow_iff]
    have hregular : ∀ forms, Regular (some rootScope) (session.course forms) := fun forms =>
      regular_runProgram (session.prelude ++ forms) rootScope
    constructor
    · rintro ⟨forms, hforms, hover⟩
      exact ⟨forms, hforms, (overflows_iff (hregular forms) session.initial).1 hover⟩
    · rintro ⟨forms, hforms, hmeets⟩
      exact ⟨forms, hforms, (overflows_iff (hregular forms) session.initial).2 hmeets⟩
  · intro p body fallback scope s e s' h
    exact Action.recover_error h

/-- The result is no error of the language. -/
def Overflowed (result : Except Stop String) : Bool :=
  match result with
  | .error .overflow => true
  | _ => false

theorem eq_of_overflowed {result : Except Stop String} (h : Overflowed result = true) :
    result = .error .overflow := by
  unfold Overflowed at h
  split at h
  · rfl
  · cases h

/-- A number beyond the doubles in a guard, which does not catch it. -/
theorem unguarded_integer :
    let session : Session := ⟨[], Console.ofLines [], 0, 0⟩
    let program := "(try (native \"int('z' * 200, 36)\") \"caught\")"
    Session.start .standard none (Console.ofLines []) = .ok session ∧
      (session.run .standard program).1 = .error .overflow := by
  intro session program
  have hover : Overflowed (session.run .standard program).1 = true := by decide +kernel
  exact ⟨rfl, eq_of_overflowed hover⟩

end MiniLisp
