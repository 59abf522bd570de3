import MiniLisp.Proofs.Footprint
import MiniLisp.Proofs.Lockstep.Passes

/-! # Scopes that cannot be reached

    A run finds scopes in three places only: around the scope that it is
    evaluated in, in the closures that occur in its term or in the bodies of
    macros, and in the closures among the values that such scopes bind. What
    any other scope binds, it neither sees nor changes. So a closure that is
    called has nothing to do with the variables of its caller, unless it was
    handed a closure over them.

    * **`Reaches`** — the scopes that a run may find;
    * **`Isolated`** — an action has nothing to do with what a scope binds;
    * **`Lockstep.elsewhere`** — a second run where that scope binds other
      values;
    * **`isolated_of_not_reaches`** — runs and scopes that they do not reach. -/

namespace MiniLisp

/-! ## Scopes with other bindings -/

namespace Scopes

/-- The scopes with what one of them binds replaced. -/
def rebind (s : Scopes) (id : ScopeId) (bindings : Bindings Term) : Scopes where
  frames := s.frames.modify id fun frame => { frame with bindings }
  enclosing_lt := by
    intro i frame hf outer ho
    rw [Array.getElem?_modify] at hf
    split at hf
    · obtain ⟨old, h, rfl⟩ := Option.map_eq_some_iff.1 hf
      exact s.enclosing_lt i old h outer ho
    · exact s.enclosing_lt i frame hf outer ho

theorem eq_of_frames {s t : Scopes} (h : s.frames = t.frames) : s = t := by
  cases s
  cases t
  cases h
  rfl

variable {s : Scopes} {id i : ScopeId} {bindings : Bindings Term}

@[simp] theorem size_rebind : (s.rebind id bindings).size = s.size := by
  simp [size, rebind]

@[simp] theorem enclosing_rebind : (s.rebind id bindings).enclosing i = s.enclosing i := by
  simp only [enclosing, rebind, Array.getElem?_modify]
  by_cases h : id = i
  · subst h
    cases s.frames[id]? <;> simp
  · simp [h]

theorem bindingsOf_rebind_ne (h : id ≠ i) :
    (s.rebind id bindings).bindingsOf i = s.bindingsOf i := by
  simp [bindingsOf, rebind, Array.getElem?_modify, h]

/-- Bindings of two scopes can be changed in any order. -/
theorem rebind_define (h : id ≠ i) (name : String) (value : Term) :
    (s.define i name value).rebind id bindings = (s.rebind id bindings).define i name value := by
  refine eq_of_frames (Array.ext_getElem? fun j => ?_)
  simp only [rebind, define, Array.getElem?_modify]
  -- Each of the two changes concerns one frame, and not the same.
  by_cases hid : id = j
  · have hi : i ≠ j := fun e => h (hid.trans e.symm)
    simp [hid, hi]
  · by_cases hi : i = j
    · simp [hid, hi]
    · simp [hid, hi]

theorem rebind_add (h : id < s.size) (around : List ScopeId)
    (hs : ∀ outer ∈ around, outer < s.size)
    (hr : ∀ outer ∈ around, outer < (s.rebind id bindings).size) :
    (s.add around hs).rebind id bindings = (s.rebind id bindings).add around hr := by
  refine eq_of_frames (Array.ext_getElem? fun j => ?_)
  have hne : s.frames.size ≠ id := Nat.ne_of_gt h
  simp only [rebind, add, Array.getElem?_modify, Array.getElem?_push, Array.size_modify]
  by_cases hid : id = j
  · subst hid
    simp [Ne.symm hne]
  · simp [hid]

/-- A new scope is none of those that were there. -/
theorem rebind_addChild (h : id < s.size) (scope : ScopeId) :
    (s.addChild scope).rebind id bindings = (s.rebind id bindings).addChild scope := by
  have hchain : (s.rebind id bindings).chain scope = s.chain scope := by simp [chain]
  unfold addChild addRoot
  by_cases hscope : scope < s.size
  · simp only [size_rebind, dif_pos hscope, hchain]
    exact rebind_add h _ _ _
  · simp only [size_rebind, dif_neg hscope]
    exact rebind_add h _ _ _

end Scopes

/-- The state with what one scope binds replaced. -/
def State.rebind (s : State) (id : ScopeId) (bindings : Bindings Term) : State :=
  { s with scopes := s.scopes.rebind id bindings }

/-! ## What can be reached -/

/-- The forms that a macro holds. -/
def Expander.body : Expander → List Term
  | .special _ => []
  | .template _ _ body => body

/-- `Reaches s scope t id`: a run of the term in the scope may find the scope
    `id`. -/
inductive Reaches (s : State) (scope : ScopeId) (t : Term) : ScopeId → Prop where
  | own : Reaches s scope t scope
  /-- A closure in the term was made in the scope. -/
  | term {id : ScopeId} (captured : .scope id ∈ t.mentions) : Reaches s scope t id
  /-- A closure in a macro was made in the scope. -/
  | template {name : String} {m : Macro} {u : Term} {id : ScopeId}
      (defined : s.macros.get? name = some m) (held : u ∈ m.expander.body)
      (captured : .scope id ∈ u.mentions) : Reaches s scope t id
  /-- The scope lies around one that is reached. -/
  | around {inner outer : ScopeId} (reached : Reaches s scope t inner)
      (encloses : outer ∈ s.scopes.enclosing inner) : Reaches s scope t outer
  /-- A closure in a value that is bound in a reached scope was made in the
      scope. -/
  | bound {owner : ScopeId} {name : String} {u : Term} {id : ScopeId}
      (reached : Reaches s scope t owner)
      (binds : (s.scopes.bindingsOf owner).get? name = some u)
      (captured : .scope id ∈ u.mentions) : Reaches s scope t id

/-- From the state, the action neither reads nor changes what the scope binds:
    if it binds other values, the action yields the same or stops for the same
    reason, and leaves the same state behind but for those other values. -/
structure Isolated {α : Type} (id : ScopeId) (x : Action α) (s : State) : Prop where
  unchanged : (x.after s).scopes.bindingsOf id = s.scopes.bindingsOf id
  unread : ∀ bindings, x (s.rebind id bindings) =
    match x s with
    | .ok a s' => .ok a (s'.rebind id bindings)
    | .error e s' => .error e (s'.rebind id bindings)

/-! ## A run where the scope binds other values -/

section Elsewhere

variable {s : State} {scope id : ScopeId} {t : Term}

/-- The second run starts where a scope that cannot be reached binds other
    values. Scopes that are made on the way may be mentioned, too. -/
def Lockstep.elsewhere (s : State) (scope : ScopeId) (t : Term) (id : ScopeId)
    (bindings : Bindings Term) (hid : id < s.scopes.size) (hreach : ¬ Reaches s scope t id) :
    Lockstep where
  allowed
    | .name _ => True
    | .scope i => Reaches s scope t i ∨ s.scopes.size ≤ i
  twin r := r.rebind id bindings
  keeps r := s.scopes.size ≤ r.size ∧ r.bindingsOf id = s.scopes.bindingsOf id
  excused _ := False
  mayLeave _ _ := True
  word _ _ := trivial
  not_excused _ h := h
  size_twin _ := Scopes.size_rebind
  enclosing_twin _ _ := Scopes.enclosing_rebind
  bindingsOf_twin r i hi := by
    refine Scopes.bindingsOf_rebind_ne ?_
    rintro rfl
    exact hi.elim hreach (Nat.not_le_of_lt hid)
  twin_define r i name value hi := by
    refine Scopes.rebind_define ?_ name value
    rintro rfl
    exact hi.elim hreach (Nat.not_le_of_lt hid)
  twin_addChild r i hr := Scopes.rebind_addChild (Nat.lt_of_lt_of_le hid hr.1) i
  allowed_size r hr := .inr hr.1
  keeps_define r i name value hr hi _ := by
    refine ⟨by simpa using hr.1, ?_⟩
    rw [Scopes.bindingsOf_define_ne, hr.2]
    rintro rfl
    exact hi.elim hreach (Nat.not_le_of_lt hid)
  keeps_addChild r i hr := by
    refine ⟨?_, ?_⟩
    · rw [Scopes.size_addChild]
      exact Nat.le_succ_of_le hr.1
    · rw [Scopes.bindingsOf_addChild_eq, hr.2]
  keeps_loop r i hr := by
    have hne : r.size ≠ id := Nat.ne_of_gt (Nat.lt_of_lt_of_le hid hr.1)
    refine ⟨?_, ?_⟩
    · rw [Scopes.size_define, Scopes.size_addChild]
      exact Nat.le_succ_of_le hr.1
    · rw [Scopes.bindingsOf_define_ne _ _ _ hne, Scopes.bindingsOf_addChild_eq, hr.2]
  keeps_leave r i hr hi _ := by
    refine ⟨by simpa [Scopes.assign] using hr.1, ?_⟩
    rw [Scopes.assign, Scopes.bindingsOf_define_ne, hr.2]
    rintro rfl
    exact hi.elim hreach (Nat.not_le_of_lt hid)

namespace Lockstep

variable {bindings : Bindings Term} {hid : id < s.scopes.size} {hreach : ¬ Reaches s scope t id}

/-- What is reached mentions only what is reached. -/
theorem sound_elsewhere : (elsewhere s scope t id bindings hid hreach).Sound s where
  keeps := ⟨Nat.le_refl _, rfl⟩
  enclosing i hi outer houter := by
    rcases hi with hreached | hnew
    · exact .inl (hreached.around houter)
    · have hnone : s.scopes.frames[i]? = none := Array.getElem?_eq_none_iff.2 hnew
      simp [Scopes.enclosing, hnone] at houter
  bound i hi name u hu m hm := by
    cases m with
    | name n => trivial
    | scope j =>
      rcases hi with hreached | hnew
      · exact .inl (hreached.bound hu hm)
      · have hnone : s.scopes.frames[i]? = none := Array.getElem?_eq_none_iff.2 hnew
        simp [Scopes.bindingsOf, hnone] at hu
  macros name m hm := by
    cases hx : m.expander with
    | special form => trivial
    | template own parameters body =>
      refine ⟨fun _ _ => trivial, fun u hu mention hmention => ?_⟩
      cases mention with
      | name n => trivial
      | scope j =>
        have hheld : u ∈ m.expander.body := by rw [hx]; exact hu
        exact .inl (.template hm hheld hmention)

theorem within_elsewhere : t.Within (elsewhere s scope t id bindings hid hreach).allowed := by
  intro m hm
  cases m with
  | name n => trivial
  | scope j => exact .inl (.term hm)

end Lockstep

/-- An action that runs in lockstep with itself whatever the scope binds has
    nothing to do with that. -/
theorem isolated_of_sim {x : Action Term} (hid : id < s.scopes.size)
    (hreach : ¬ Reaches s scope t id)
    (hx : ∀ bindings,
      (Lockstep.elsewhere s scope t id bindings hid hreach).Sim (fun _ => True) x x) :
    Isolated id x s := by
  have hagree : ∀ bindings, (Lockstep.elsewhere s scope t id bindings hid hreach).Agree
      (fun _ => True) (x s) (x (s.rebind id bindings)) := fun bindings =>
    hx bindings s Lockstep.sound_elsewhere
  refine ⟨?_, fun bindings => ?_⟩
  · have hfirst := hagree (s.scopes.bindingsOf id)
    unfold Action.after
    generalize x s = r, x (s.rebind id _) = r' at hfirst
    cases hfirst with
    | ok _ sound _ => exact sound.keeps.2
    | stop sound _ => exact sound.keeps.2
    | excused h => cases h
  · have hfirst := hagree bindings
    generalize x s = r, x (s.rebind id bindings) = r' at hfirst ⊢
    cases hfirst with
    | ok _ _ same => rw [same]; rfl
    | stop _ same => rw [same]; rfl
    | excused h => cases h

end Elsewhere

/-! ## Runs -/

/-- Evaluating and expanding a term has nothing to do with what a scope binds
    that is not reached, and neither has the call of a closure, from whatever
    scope it is called, if that scope is not reached from the scope that the
    closure was made in, its body and its arguments. -/
theorem isolated_of_not_reaches [Host.Platform] (turns depth : Nat) {s : State} {id : ScopeId}
    (hid : id < s.scopes.size) :
    (∀ t scope, ¬ Reaches s scope t id →
      Isolated id ((passes turns depth).evaluate t scope) s ∧
        Isolated id ((passes turns depth).expand t scope) s) ∧
    ∀ formals rest body home arguments caller,
      ¬ Reaches s home (.list (body ++ arguments)) id →
        Isolated id
          ((passes turns depth).call (.closure formals rest body home) arguments caller) s := by
  have hpasses : ∀ scope t bindings hreach,
      (Lockstep.elsewhere s scope t id bindings hid hreach).SimPasses (passes turns depth)
        (passes turns depth) := fun _ _ _ _ =>
    Lockstep.simPasses_passes (fun _ _ => trivial) turns depth
  refine ⟨fun t scope hreach => ⟨?_, ?_⟩, ?_⟩
  · refine isolated_of_sim hid hreach fun bindings => ?_
    have hrun := (hpasses scope t bindings hreach).evaluate t scope Lockstep.within_elsewhere
      (.inl .own)
    exact hrun.weaken fun _ _ => trivial
  · refine isolated_of_sim hid hreach fun bindings => ?_
    have hrun := (hpasses scope t bindings hreach).expand t scope Lockstep.within_elsewhere
      (.inl .own)
    exact hrun.weaken fun _ _ => trivial
  · intro formals rest body home arguments caller hreach
    -- A closure does not know its caller, so it may as well be called from home.
    have hcaller : (passes turns depth).call (.closure formals rest body home) arguments caller =
        (passes turns depth).call (.closure formals rest body home) arguments home := by
      cases depth <;> rfl
    rw [hcaller]
    refine isolated_of_sim hid hreach fun bindings => ?_
    have hterms : ∀ u ∈ body ++ arguments,
        u.Within (Lockstep.elsewhere s home (.list (body ++ arguments)) id bindings hid
          hreach).allowed := Term.within_list.1 Lockstep.within_elsewhere
    have hcode : (Code.closure formals rest body home).Within
        (Lockstep.elsewhere s home (.list (body ++ arguments)) id bindings hid hreach).allowed :=
      Code.within_closure.2
        ⟨.inl .own, fun _ _ => trivial, fun u hu => hterms u (List.mem_append_left _ hu)⟩
    have hrun := (hpasses home _ bindings hreach).call _ arguments home hcode
      (fun u hu => hterms u (List.mem_append_right _ hu)) (.inl .own)
    exact hrun.weaken fun _ _ => trivial

/-- A closure of the root scope that is called from a scope inside it. Both
    bind the name that the closure looks up. -/
theorem isolated_of_not_reaches_caller :
    let root := Scopes.empty.addRoot.define 0 "x" (.bool true)
    let s : State := { State.bare (Console.ofLines []) 0 0 with
      scopes := (root.addChild 0).define 1 "x" (.bool false) }
    1 < s.scopes.size ∧ ¬ Reaches s 0 (.list ([.sym "x" 1] ++ [])) 1 ∧
      Isolated 1 ((passes 1 3).call (.closure [] none [.sym "x" 1] 0) [] 1) s := by
  intro root s
  have hsize : 1 < s.scopes.size := by decide
  -- The root binds no closure, so nothing is reached but the root.
  have honly : ∀ id, Reaches s 0 (.list ([.sym "x" 1] ++ [])) id → id = 0 := by
    intro id h
    induction h with
    | own => rfl
    | term captured => simp [Term.mentions, Term.mentionsAll] at captured
    | template defined => cases defined
    | around _ encloses ih =>
      subst ih
      cases encloses
    | @bound owner name u id _ binds captured ih =>
      subst ih
      have hlookup : List.lookup name [("x", Term.bool true)] = some u := binds
      by_cases hname : name = "x"
      · subst hname
        cases hlookup
        cases captured
      · simp [List.lookup_cons, beq_eq_false_iff_ne.2 hname] at hlookup
  have hreach : ¬ Reaches s 0 (.list ([.sym "x" 1] ++ [])) 1 := by
    intro h
    cases honly 1 h
  exact ⟨hsize, hreach, (isolated_of_not_reaches 1 3 hsize).2 [] none _ 0 [] 1 hreach⟩

end MiniLisp
