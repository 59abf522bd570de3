import MiniLisp.Proofs.ChildScope
import MiniLisp.Proofs.HostRoom

/-! # Two runs in lockstep

    Two runs of the same form are compared that start in states which differ in
    their scopes only, the second one perhaps with more room or more turns of
    its loops. They do the same, step by step, as long as the second state
    differs only where neither run can look: each ends in the same value or
    stops for the same reason, and the scopes still differ in the same way. A
    first run that meets one of its limits is let go.

    Where a run can look is told by the mentions of its terms. So a lockstep
    says what may be mentioned, and a state is sound for it if no more than
    that is mentioned by what the scopes bind and by the macros.

    * **`Invariant`** — what runs may mention and what they keep true;
    * **`Lockstep`** — what the second run may differ in, with its laws;
    * **`Lockstep.Sound`** — the states in which both runs look at the same;
    * **`Lockstep.Sim`** — two actions that run in lockstep.

    That the passes run in every lockstep is shown in
    `MiniLisp.Proofs.Lockstep.Passes`. -/

namespace MiniLisp

namespace Scopes

/-! ## What new bindings and new scopes bring -/

/-- A scope binds what it was given to bind, or else what it bound. -/
theorem get?_define {s : Scopes} {id i : ScopeId} {name n : String} {value v : Term}
    (h : ((s.define id name value).bindingsOf i).get? n = some v) :
    n = name ∧ v = value ∨ (s.bindingsOf i).get? n = some v := by
  rw [get?_define_eq] at h
  split at h
  · next hself =>
    cases h
    exact .inl ⟨hself.2.2, rfl⟩
  · exact .inr h

/-- A new scope lies in scopes of the chain that it was made in. -/
theorem mem_enclosing_addChild {s : Scopes} {scope i j : ScopeId}
    (h : j ∈ (s.addChild scope).enclosing i) : j ∈ s.enclosing i ∨ j ∈ s.chain scope := by
  rw [enclosing_addChild_eq] at h
  split at h
  · split at h
    · exact .inr h
    · simp at h
  · exact .inl h

end Scopes

/-! ## Invariants and locksteps -/

/-- What runs may mention, and what they keep true of their scopes. -/
structure Invariant where
  /-- What the terms of the runs may mention. -/
  allowed : Mention → Prop
  /-- What holds of the scopes. -/
  keeps : Scopes → Prop
  /-- The scopes in which a loop may be ended. -/
  mayLeave : Scopes → ScopeId → Prop
  word : ∀ name, IsWord name → allowed (.name name)
  /-- A new scope may be mentioned. -/
  allowed_size : ∀ s, keeps s → allowed (.scope s.size)
  keeps_define : ∀ s id name value, keeps s → allowed (.scope id) → allowed (.name name) →
    keeps (s.define id name value)
  keeps_addChild : ∀ s id, keeps s → keeps (s.addChild id)
  /-- The flag of a loop has no name that a program could mention. -/
  keeps_loop : ∀ s id, keeps s →
    keeps ((s.addChild id).define s.size loopFlag (.bool false))
  keeps_leave : ∀ s id, keeps s → allowed (.scope ((s.owner id loopFlag).getD id)) →
    mayLeave s id → keeps (s.assign id loopFlag (.bool true))

/-- How a second run may differ from a first one. -/
structure Lockstep extends Invariant where
  /-- The scopes of the second run. -/
  twin : Scopes → Scopes
  /-- The stops after which the first run is let go. -/
  excused : Stop → Prop
  not_excused : ∀ e, ¬ excused (.error e)
  size_twin : ∀ s, (twin s).size = s.size
  enclosing_twin : ∀ s id, (twin s).enclosing id = s.enclosing id
  bindingsOf_twin : ∀ s id, allowed (.scope id) → (twin s).bindingsOf id = s.bindingsOf id
  twin_define : ∀ s id name value, allowed (.scope id) →
    twin (s.define id name value) = (twin s).define id name value
  twin_addChild : ∀ s id, keeps s → twin (s.addChild id) = (twin s).addChild id

namespace Invariant

/-- The second run starts in the same scopes. -/
def lockstep (I : Invariant) (excused : Stop → Prop)
    (not_excused : ∀ e, ¬ excused (.error e)) : Lockstep where
  toInvariant := I
  twin s := s
  excused := excused
  not_excused := not_excused
  size_twin _ := rfl
  enclosing_twin _ _ := rfl
  bindingsOf_twin _ _ _ := rfl
  twin_define _ _ _ _ _ := rfl
  twin_addChild _ _ _ := rfl

/-- A run beside itself, which is never let go. -/
def single (I : Invariant) : Lockstep :=
  I.lockstep (fun _ => False) fun _ h => h

end Invariant

namespace Lockstep

variable {L : Lockstep} {α β : Type} {good : α → Prop} {good' : β → Prop}

/-- The state of the second run. -/
def twinState (L : Lockstep) (s : State) : State :=
  { s with scopes := L.twin s.scopes }

/-- Whatever can be reached from what is allowed is allowed, too. -/
structure Sound (L : Lockstep) (s : State) : Prop where
  keeps : L.keeps s.scopes
  enclosing : ∀ id, L.allowed (.scope id) → ∀ outer ∈ s.scopes.enclosing id,
    L.allowed (.scope outer)
  bound : ∀ id, L.allowed (.scope id) → ∀ name t,
    (s.scopes.bindingsOf id).get? name = some t → t.Within L.allowed
  macros : ∀ name m, s.macros.get? name = some m → m.expander.Within L.allowed

/-! ### Sound states -/

namespace Sound

variable {s : State} {scope id : ScopeId}

theorem chain (hs : L.Sound s) (hscope : L.allowed (.scope scope)) :
    ∀ i ∈ s.scopes.chain scope, L.allowed (.scope i) := by
  intro i hi
  rcases List.mem_cons.1 hi with rfl | henclosing
  · exact hscope
  · exact hs.enclosing scope hscope i henclosing

theorem owner (hs : L.Sound s) (hscope : L.allowed (.scope scope)) (name : String) :
    L.allowed (.scope ((s.scopes.owner scope name).getD scope)) := by
  -- Where no scope owns the name, it is bound in the scope itself.
  cases howner : s.scopes.owner scope name with
  | none => exact hscope
  | some nearest => exact hs.chain hscope nearest (Scopes.mem_chain_of_owner howner)

theorem lookup (hs : L.Sound s) (hscope : L.allowed (.scope scope)) {name : String} {t : Term}
    (h : s.scopes.lookup scope name = some t) : t.Within L.allowed := by
  obtain ⟨i, hi, hget⟩ := List.exists_of_findSome?_eq_some h
  exact hs.bound i (hs.chain hscope i hi) name t hget

/-- A binding keeps the state sound if its value is allowed. -/
theorem define (hs : L.Sound s) {name : String} {value : Term} (hvalue : value.Within L.allowed)
    (hkeeps : L.keeps (s.scopes.define id name value)) :
    L.Sound { s with scopes := s.scopes.define id name value } where
  keeps := hkeeps
  enclosing i hi outer houter := by
    rw [Scopes.enclosing_define] at houter
    exact hs.enclosing i hi outer houter
  bound i hi n t ht := by
    rcases Scopes.get?_define ht with ⟨-, rfl⟩ | hold
    · exact hvalue
    · exact hs.bound i hi n t hold
  macros := hs.macros

theorem addChild (hs : L.Sound s) (hscope : L.allowed (.scope scope)) :
    L.Sound { s with scopes := s.scopes.addChild scope } where
  keeps := L.keeps_addChild s.scopes scope hs.keeps
  enclosing i hi outer houter := by
    rcases Scopes.mem_enclosing_addChild houter with hold | hchain
    · exact hs.enclosing i hi outer hold
    · exact hs.chain hscope outer hchain
  bound i hi n t ht := by
    rw [Scopes.bindingsOf_addChild_eq] at ht
    exact hs.bound i hi n t ht
  macros := hs.macros

theorem addMacro (hs : L.Sound s) {m : Macro} (hm : m.expander.Within L.allowed) :
    L.Sound { s with macros := s.macros.add m } where
  keeps := hs.keeps
  enclosing := hs.enclosing
  bound := hs.bound
  macros name other hother := by
    rw [MacroTable.add, Bindings.get?_set] at hother
    split at hother
    · cases hother
      exact hm
    · exact hs.macros name other hother

/-- The rest of a state has nothing to do with its being sound. -/
theorem congr {s' : State} (hs : L.Sound s) (hscopes : s'.scopes = s.scopes)
    (hmacros : s'.macros = s.macros) : L.Sound s' where
  keeps := hscopes ▸ hs.keeps
  enclosing := hscopes ▸ hs.enclosing
  bound := hscopes ▸ hs.bound
  macros := hmacros ▸ hs.macros

end Sound

/-! ### Where both runs look at the same -/

section Twin

variable {s : State} {scope : ScopeId}

theorem chain_twin (L : Lockstep) (s : Scopes) (scope : ScopeId) :
    (L.twin s).chain scope = s.chain scope := by
  rw [Scopes.chain, Scopes.chain, L.enclosing_twin]

theorem lookup_twin (hs : L.Sound s) (hscope : L.allowed (.scope scope)) (name : String) :
    (L.twin s.scopes).lookup scope name = s.scopes.lookup scope name := by
  have hsame : ∀ i ∈ s.scopes.chain scope,
      ((L.twin s.scopes).bindingsOf i).get? name = (s.scopes.bindingsOf i).get? name := by
    intro i hi
    rw [L.bindingsOf_twin s.scopes i (hs.chain hscope i hi)]
  -- The value is the first one along the chain, which is the same in both.
  rw [Scopes.lookup, chain_twin, Scopes.lookup, ← List.head?_filterMap, ← List.head?_filterMap,
    List.filterMap_congr hsame]

theorem owner_twin (hs : L.Sound s) (hscope : L.allowed (.scope scope)) (name : String) :
    (L.twin s.scopes).owner scope name = s.scopes.owner scope name := by
  have hsame : ∀ i ∈ s.scopes.chain scope,
      ((L.twin s.scopes).bindingsOf i).contains name =
        (s.scopes.bindingsOf i).contains name := by
    intro i hi
    rw [L.bindingsOf_twin s.scopes i (hs.chain hscope i hi)]
  rw [Scopes.owner, chain_twin, Scopes.owner, ← List.head?_filter, ← List.head?_filter,
    List.filter_congr hsame]

theorem twin_assign (hs : L.Sound s) (hscope : L.allowed (.scope scope)) (name : String)
    (value : Term) :
    L.twin (s.scopes.assign scope name value) = (L.twin s.scopes).assign scope name value := by
  rw [Scopes.assign, Scopes.assign, owner_twin hs hscope]
  exact L.twin_define s.scopes _ name value (hs.owner hscope name)

end Twin

/-! ## Actions in lockstep -/

/-- How two runs may end. -/
inductive Agree (L : Lockstep) (good : α → Prop) :
    EStateM.Result Stop State α → EStateM.Result Stop State α → Prop where
  | ok {a : α} {s t : State} (value : good a) (sound : L.Sound s) (same : t = L.twinState s) :
      Agree L good (.ok a s) (.ok a t)
  | stop {e : Stop} {s t : State} (sound : L.Sound s) (same : t = L.twinState s) :
      Agree L good (.error e s) (.error e t)
  | excused {e : Stop} {s : State} {r : EStateM.Result Stop State α} (h : L.excused e) :
      Agree L good (.error e s) r

/-- From every sound state, both actions end in the same value, which has the
    property, or stop for the same reason. -/
def Sim (L : Lockstep) (good : α → Prop) (x y : Action α) : Prop :=
  ∀ s, L.Sound s → L.Agree good (x s) (y (L.twinState s))

theorem sim_pure {a : α} (h : good a) : L.Sim good (pure a) (pure a) :=
  fun _ hs => .ok h hs rfl

theorem sim_throw (e : Stop) : L.Sim good (throw e) (throw e) :=
  fun _ hs => .stop hs rfl

theorem sim_fail (e : LispError) : L.Sim good (Action.fail e) (Action.fail e) :=
  sim_throw (.error e)

theorem sim_excused {e : Stop} {y : Action α} (h : L.excused e) : L.Sim good (throw e) y :=
  fun _ _ => .excused h

theorem Sim.weaken {good'' : α → Prop} {x y : Action α} (hx : L.Sim good x y)
    (h : ∀ a, good a → good'' a) : L.Sim good'' x y := by
  intro s hs
  have hfirst := hx s hs
  generalize x s = r, y (L.twinState s) = r' at hfirst
  cases hfirst with
  | ok value sound same => exact .ok (h _ value) sound same
  | stop sound same => exact .stop sound same
  | excused h => exact .excused h

theorem sim_bind {x y : Action α} {f g : α → Action β} (hx : L.Sim good x y)
    (hf : ∀ a, good a → L.Sim good' (f a) (g a)) : L.Sim good' (x >>= f) (y >>= g) := by
  intro s hs
  have hfirst := hx s hs
  generalize hr : x s = r, hr' : y (L.twinState s) = r' at hfirst
  cases hfirst with
  | ok value sound same =>
    subst same
    rw [Action.bind_ok hr, Action.bind_ok hr']
    exact hf _ value _ sound
  | stop sound same =>
    rw [Action.bind_error hr, Action.bind_error hr']
    exact .stop sound same
  | excused h =>
    rw [Action.bind_error hr]
    exact .excused h

theorem sim_map {x y : Action α} {f : α → β} (hx : L.Sim good x y)
    (hf : ∀ a, good a → good' (f a)) : L.Sim good' (f <$> x) (f <$> y) := by
  rw [← bind_pure_comp, ← bind_pure_comp]
  exact sim_bind hx fun a ha => sim_pure (hf a ha)

theorem sim_mapM {f g : β → Action α} {bs : List β}
    (hf : ∀ b ∈ bs, L.Sim good (f b) (g b)) :
    L.Sim (fun as => ∀ a ∈ as, good a) (bs.mapM f) (bs.mapM g) := by
  induction bs with
  | nil => exact sim_pure (by simp)
  | cons b rest ih =>
    rw [List.mapM_cons, List.mapM_cons]
    refine sim_bind (hf b List.mem_cons_self) fun a ha => ?_
    refine sim_bind (ih fun c hc => hf c (List.mem_cons_of_mem b hc)) fun as has => ?_
    exact sim_pure (List.forall_mem_cons.2 ⟨ha, has⟩)

theorem sim_recover {x y : Action α} {f g : LispError → Action α} (hx : L.Sim good x y)
    (hf : ∀ e, L.Sim good (f e) (g e)) :
    L.Sim good (Action.recover x f) (Action.recover y g) := by
  intro s hs
  have hfirst := hx s hs
  generalize hr : x s = r, hr' : y (L.twinState s) = r' at hfirst
  cases hfirst with
  | ok value sound same =>
    rw [Action.recover_ok hr, Action.recover_ok hr']
    exact .ok value sound same
  | @stop e s' t sound same =>
    cases e with
    | error e =>
      subst same
      rw [Action.recover_error hr, Action.recover_error hr']
      exact hf e _ sound
    | exhausted | overflow | memory | unfinished =>
      rw [Action.recover, hr, Action.recover, hr']
      exact .stop sound same
  | @excused e s' _ h =>
    cases e with
    | error e => exact absurd h (L.not_excused e)
    -- A stop that is no error passes the handler untouched.
    | exhausted | overflow | memory | unfinished =>
      rw [Action.recover, hr]
      exact .excused h

theorem sim_ofResult {x y : Except Stop α} (h : Extends .exhausted good x y)
    (hroom : x = y ∨ L.excused .exhausted) :
    L.Sim good (Action.ofResult x) (Action.ofResult y) := by
  have hsame : Yields good x → L.Sim good (Action.ofResult x) (Action.ofResult x) := by
    intro hgood
    cases x with
    | error e => exact sim_throw e
    | ok a => exact sim_pure (hgood a rfl)
  -- With the same room both gave up; with less, the first run is let go.
  rcases h with rfl | ⟨rfl, hgood⟩
  · rcases hroom with rfl | hexcused
    · exact hsame (yields_error _)
    · exact sim_excused hexcused
  · exact hsame hgood

/-! ### Variables -/

theorem sim_lookup {scope : ScopeId} (hscope : L.allowed (.scope scope)) (name : String) :
    L.Sim (fun found => ∀ t, found = some t → t.Within L.allowed) (Action.lookup scope name)
      (Action.lookup scope name) := by
  intro s hs
  show L.Agree _ (.ok (s.scopes.lookup scope name) s)
    (.ok ((L.twin s.scopes).lookup scope name) (L.twinState s))
  rw [lookup_twin hs hscope]
  exact .ok (fun t ht => hs.lookup hscope ht) hs rfl

theorem sim_define {scope : ScopeId} (hscope : L.allowed (.scope scope)) {name : String}
    (hname : L.allowed (.name name)) {value : Term} (hvalue : value.Within L.allowed) :
    L.Sim (fun _ => True) (Action.define scope name value) (Action.define scope name value) := by
  intro s hs
  have hkeeps := L.keeps_define s.scopes scope name value hs.keeps hscope hname
  refine .ok trivial (hs.define hvalue hkeeps) ?_
  simp [twinState, L.twin_define s.scopes scope name value hscope]

theorem sim_assign {scope : ScopeId} (hscope : L.allowed (.scope scope)) {name : String}
    (hname : L.allowed (.name name)) {value : Term} (hvalue : value.Within L.allowed) :
    L.Sim (fun _ => True) (Action.assign scope name value) (Action.assign scope name value) := by
  intro s hs
  have howner := hs.owner hscope name
  have hkeeps := L.keeps_define s.scopes _ name value hs.keeps howner hname
  refine .ok trivial (hs.define hvalue hkeeps) ?_
  simp [twinState, twin_assign hs hscope]

theorem sim_bindAll {scope : ScopeId} (hscope : L.allowed (.scope scope))
    {entries : List (String × Term)}
    (hentries : ∀ entry ∈ entries, L.allowed (.name entry.1) ∧ entry.2.Within L.allowed) :
    L.Sim (fun _ => True) (Expansion.bindAll scope entries) (Expansion.bindAll scope entries) := by
  induction entries with
  | nil => exact sim_pure trivial
  | cons entry rest ih =>
    obtain ⟨⟨hname, hvalue⟩, hrest⟩ := List.forall_mem_cons.1 hentries
    exact sim_bind (sim_define hscope hname hvalue) fun _ _ => ih hrest

theorem sim_newScope {scope : ScopeId} (hscope : L.allowed (.scope scope)) :
    L.Sim (fun inner => L.allowed (.scope inner)) (Action.newScope scope)
      (Action.newScope scope) := by
  intro s hs
  show L.Agree _ (.ok s.scopes.size { s with scopes := s.scopes.addChild scope })
    (.ok (L.twin s.scopes).size
      { L.twinState s with scopes := (L.twin s.scopes).addChild scope })
  rw [L.size_twin]
  refine .ok (L.allowed_size s.scopes hs.keeps) (hs.addChild hscope) ?_
  simp [twinState, L.twin_addChild s.scopes scope hs.keeps]

/-! ### The rest of the state -/

theorem sim_findMacro (name : String) :
    L.Sim (fun found => ∀ m, found = some m → m.expander.Within L.allowed)
      (Action.findMacro name) (Action.findMacro name) :=
  fun _ hs => .ok (fun m hm => hs.macros name m hm) hs rfl

theorem sim_addMacro {m : Macro} (hm : m.expander.Within L.allowed) :
    L.Sim (fun _ => True) (Action.addMacro m) (Action.addMacro m) :=
  fun _ hs => .ok trivial (hs.addMacro hm) rfl

theorem sim_newFunction (id description : Option String) (line : Nat) {code : Code}
    (hcode : code.Within L.allowed) :
    L.Sim (Term.Within L.allowed) (Action.newFunction id description line code)
      (Action.newFunction id description line code) :=
  fun _ hs => .ok (Term.within_function.2 hcode) (hs.congr rfl rfl) rfl

theorem sim_newStep {code : Code} (hcode : code.Within L.allowed) :
    L.Sim (Term.Within L.allowed) (Action.newStep code) (Action.newStep code) :=
  sim_newFunction none none 0 hcode

theorem sim_nextBranch : L.Sim (fun _ => True) Action.nextBranch Action.nextBranch :=
  fun _ hs => .ok trivial (hs.congr rfl rfl) rfl

theorem sim_nextLambda : L.Sim (fun _ => True) Action.nextLambda Action.nextLambda :=
  fun _ hs => .ok trivial (hs.congr rfl rfl) rfl

theorem sim_writeLine (text : String) :
    L.Sim (fun _ => True) (Action.writeLine text) (Action.writeLine text) :=
  fun _ hs => .ok trivial (hs.congr rfl rfl) rfl

theorem sim_readLine (prompt : String) :
    L.Sim (fun _ => True) (Action.readLine prompt) (Action.readLine prompt) := by
  refine sim_bind ?_ fun line (_ : True) => ?_
  · exact fun _ hs => .ok trivial (hs.congr rfl rfl) rfl
  · cases line with
    | some text => exact sim_pure trivial
    | none => exact sim_fail _

end Lockstep

end MiniLisp
