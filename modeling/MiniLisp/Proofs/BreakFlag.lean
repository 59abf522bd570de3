import MiniLisp.Proofs.ReadTerms
import MiniLisp.Proofs.RootScope
import MiniLisp.Proofs.Watch

/-! # The flag of a loop

    A loop keeps the flag that ends it among the variables of a scope of its
    own, under a name that is no word. The safety of that rests on what a run
    can mention at all: the names in its terms, values, variables and macros
    are words, wherever they come from. So no program can name the flag, and
    the flag is what loops and breaks make of it. It never falls, and it rises
    only by a break that finds it first on the way outward.

    * **`Worded`** and **`State.Proper`** — all names are words, and flags are
      truth values;
    * **`Scopes.FlagsRise`** — flags stay and never fall;
    * **`BreaksAt`** — the breaks that end the loop of a scope;
    * **`Invariant.flags`** — what runs keep true of the flags;
    * **`break_flag_unforgeable`** — all of this in every run of a program. -/

namespace MiniLisp

/-! ## Names and flags -/

/-- Every name is a word. -/
def Worded : Mention → Prop
  | .name name => IsWord name
  | .scope _ => True

theorem not_isWord_loopFlag : ¬ IsWord loopFlag := by decide

theorem ne_loopFlag {name : String} (h : IsWord name) : name ≠ loopFlag := by
  rintro rfl
  exact not_isWord_loopFlag h

namespace Scopes

/-- What a scope itself binds to the name of the flag. -/
def flag? (s : Scopes) (id : ScopeId) : Option Term :=
  (s.bindingsOf id).get? loopFlag

/-- The scope has a flag. -/
def HasFlag (s : Scopes) (id : ScopeId) : Prop :=
  ∃ b, s.flag? id = some (.bool b)

/-- Flags stay where they are and never fall. -/
def FlagsRise (s r : Scopes) : Prop :=
  ∀ id b, s.flag? id = some (.bool b) → ∃ b', r.flag? id = some (.bool b') ∧ b ≤ b'

/-- Bound names are words, but for flags, whose values are truth values. -/
def NamesProper (s : Scopes) : Prop :=
  ∀ id name t, (s.bindingsOf id).get? name = some t →
    IsWord name ∨ name = loopFlag ∧ ∃ b, t = .bool b

section Flags

variable {s : Scopes} {id i : ScopeId}

theorem lt_size_of_flag? {t : Term} (h : s.flag? id = some t) : id < s.size := by
  by_contra hge
  have hnone : s.frames[id]? = none := Array.getElem?_eq_none_iff.2 (Nat.le_of_not_lt hge)
  simp [flag?, bindingsOf, hnone] at h

theorem flag?_addChild (s : Scopes) (scope id : ScopeId) :
    (s.addChild scope).flag? id = s.flag? id := by
  rw [flag?, flag?, bindingsOf_addChild_eq]

theorem flag?_define_word {name : String} (hname : IsWord name) (value : Term) :
    (s.define id name value).flag? i = s.flag? i := by
  by_cases hid : id = i
  · subst hid
    by_cases hlt : id < s.size
    · rw [flag?, bindingsOf_define_self s name value hlt,
        Bindings.get?_set_ne _ _ (Ne.symm (ne_loopFlag hname)), flag?]
    · have hnone : s.frames[id]? = none := Array.getElem?_eq_none_iff.2 (Nat.le_of_not_lt hlt)
      simp [flag?, bindingsOf, define, Array.getElem?_modify, hnone]
  · rw [flag?, bindingsOf_define_ne s name value hid, flag?]

theorem flag?_define_self (h : id < s.size) (value : Term) :
    (s.define id loopFlag value).flag? id = some value := by
  rw [flag?, bindingsOf_define_self s loopFlag value h, Bindings.get?_set_self]

theorem flag?_define_ne (h : id ≠ i) (value : Term) :
    (s.define id loopFlag value).flag? i = s.flag? i := by
  rw [flag?, bindingsOf_define_ne s loopFlag value h, flag?]

/-- A scope that binds the flag is the first owner on its own chain. -/
theorem flag?_of_owner_none {scope : ScopeId} (h : s.owner scope loopFlag = none) :
    s.flag? scope = none := by
  have hnot := List.find?_eq_none.1 h scope List.mem_cons_self
  simpa [Bindings.contains, flag?] using hnot

end Flags

end Scopes

/-- Names are words in all that is bound and in all macros, and flags are truth
    values. -/
structure State.Proper (s : State) : Prop where
  names : s.scopes.NamesProper
  bound : ∀ id name t, (s.scopes.bindingsOf id).get? name = some t → t.Within Worded
  macros : ∀ name m, s.macros.get? name = some m → m.expander.Within Worded

/-- What a visit takes and what it leaves behind: words as names and proper
    states, and no flag that was there has fallen. -/
structure Lawful (v : Visit) (s : State) (r : Outcome Term) : Prop where
  asked : v.Within Worded
  before : s.Proper
  value : ∀ t s', r = .ok t s' → t.Within Worded
  after : r.state.Proper
  rises : s.scopes.FlagsRise r.state.scopes

/-- The visit takes or leaves behind what it must not. -/
def Unlawful : Watch := fun v s r => ¬ Lawful v s r

/-- The visit is a break, and the nearest flag from its scope outward is the
    one of the scope `id`. -/
def BreaksAt (id : ScopeId) : Watch := fun v s _ =>
  ∃ arguments scope, v = .call .leaveLoop arguments scope ∧
    s.scopes.owner scope loopFlag = some id

/-- The visit starts or ends in a state where the scope has no flag. -/
def MissesFlag (id : ScopeId) : Watch := fun _ s r =>
  ¬ (s.scopes.HasFlag id ∧ r.state.scopes.HasFlag id)

/-! ## What runs keep true -/

/-- What holds of the scopes of a run that started with some others: the names
    are proper, flags have only risen, and the frozen ones are as they were. -/
structure Scopes.FlagsKept (frozen : ScopeId → Prop) (s r : Scopes) : Prop where
  names : r.NamesProper
  rise : s.FlagsRise r
  frozen : ∀ id b, frozen id → s.flag? id = some (.bool b) → r.flag? id = some (.bool b)

namespace Scopes.FlagsKept

variable {frozen : ScopeId → Prop} {s r : Scopes} {id : ScopeId}

theorem refl (h : s.NamesProper) : FlagsKept frozen s s where
  names := h
  rise _ b hb := ⟨b, hb, Bool.le_refl b⟩
  frozen _ _ _ hb := hb

/-- A variable of a program is no flag. -/
theorem define_word (h : FlagsKept frozen s r) {name : String} (hname : IsWord name)
    (value : Term) : FlagsKept frozen s (r.define id name value) where
  names i n t ht := by
    rcases get?_define ht with ⟨rfl, -⟩ | hold
    · exact .inl hname
    · exact h.names i n t hold
  rise i b hb := by
    rw [flag?_define_word hname]
    exact h.rise i b hb
  frozen i b hi hb := by
    rw [flag?_define_word hname]
    exact h.frozen i b hi hb

theorem addChild (h : FlagsKept frozen s r) (scope : ScopeId) :
    FlagsKept frozen s (r.addChild scope) where
  names i n t ht := by
    rw [bindingsOf_addChild_eq] at ht
    exact h.names i n t ht
  rise i b hb := by
    rw [flag?_addChild]
    exact h.rise i b hb
  frozen i b hi hb := by
    rw [flag?_addChild]
    exact h.frozen i b hi hb

/-- A flag may be bound where there is none, and raised where it is not
    frozen. -/
theorem define_flag (h : FlagsKept frozen s r) {value : Bool}
    (hfree : ∀ t, r.flag? id = some t → value = true ∧ ¬ frozen id) :
    FlagsKept frozen s (r.define id loopFlag (.bool value)) where
  names i n t ht := by
    rcases get?_define ht with ⟨rfl, rfl⟩ | hold
    · exact .inr ⟨rfl, value, rfl⟩
    · exact h.names i n t hold
  rise i b hb := by
    obtain ⟨b', hb', hle⟩ := h.rise i b hb
    by_cases hid : id = i
    · subst hid
      obtain ⟨rfl, -⟩ := hfree _ hb'
      exact ⟨true, flag?_define_self (lt_size_of_flag? hb') _, Bool.le_true b⟩
    · exact ⟨b', by rw [flag?_define_ne hid, hb'], hle⟩
  frozen i b hi hb := by
    have hold := h.frozen i b hi hb
    by_cases hid : id = i
    · subst hid
      exact absurd hi (hfree _ hold).2
    · rw [flag?_define_ne hid, hold]

/-- A loop has a new scope for its flag. -/
theorem loop (h : FlagsKept frozen s r) (scope : ScopeId) :
    FlagsKept frozen s ((r.addChild scope).define r.size loopFlag (.bool false)) := by
  refine (h.addChild scope).define_flag fun t ht => ?_
  -- The number of the new scope was nobody's before.
  rw [flag?_addChild] at ht
  exact absurd (lt_size_of_flag? ht) (Nat.lt_irrefl _)

/-- A break raises the nearest flag; where there is none, it makes one. -/
theorem leave (h : FlagsKept frozen s r) {scope : ScopeId}
    (hmay : ∀ i, r.owner scope loopFlag = some i → ¬ frozen i) :
    FlagsKept frozen s (r.assign scope loopFlag (.bool true)) := by
  refine h.define_flag fun t ht => ⟨rfl, ?_⟩
  -- A scope without an owner of the flag on its chain has none itself.
  cases howner : r.owner scope loopFlag with
  | some i => exact hmay i howner
  | none =>
    rw [howner, Option.getD_none, flag?_of_owner_none howner] at ht
    cases ht

end Scopes.FlagsKept

/-- Runs mention words only. They are seen from the scopes that they started
    with, and a loop may be ended if its flag is not frozen. -/
def Invariant.flags (start : Scopes) (frozen : ScopeId → Prop) : Invariant where
  allowed := Worded
  keeps r := start.FlagsKept frozen r
  mayLeave r scope := ∀ i, r.owner scope loopFlag = some i → ¬ frozen i
  word _ h := h
  allowed_size _ _ := trivial
  keeps_define _ _ _ value h _ hname := h.define_word hname value
  keeps_addChild _ id h := h.addChild id
  keeps_loop _ id h := h.loop id
  keeps_leave _ _ h _ hmay := h.leave hmay

namespace Invariant

variable {start : Scopes} {frozen : ScopeId → Prop} {s : State}

/-- No flag is frozen. -/
abbrev rising (start : Scopes) : Invariant :=
  flags start fun _ => False

theorem proper_of_sound (h : (flags start frozen).single.Sound s) : s.Proper where
  names := h.keeps.names
  bound id := h.bound id trivial
  macros := h.macros

/-- A proper state is sound seen from its own scopes, whatever is frozen. -/
theorem sound_flags (frozen : ScopeId → Prop) (h : s.Proper) :
    (flags s.scopes frozen).single.Sound s where
  keeps := .refl h.names
  enclosing _ _ _ _ := trivial
  bound id _ := h.bound id
  macros := h.macros

/-- Every run of proper states is in this lockstep with itself. -/
theorem simPasses_rising [Host.Platform] (start : Scopes) (turns depth : Nat) :
    (rising start).single.SimPasses (passes turns depth) (passes turns depth) :=
  Lockstep.simPasses_passes (fun _ _ _ _ h => h) turns depth

theorem mayLeave_of_not_breaksAt {id : ScopeId} {arguments : List Term} {scope : ScopeId}
    {r : Outcome Term} (h : ¬ BreaksAt id (.call .leaveLoop arguments scope) s r) :
    (flags start (· = id)).mayLeave s.scopes scope := by
  rintro i howner rfl
  exact h ⟨arguments, scope, rfl, howner⟩

end Invariant

/-! ## Where a program starts -/

namespace State.Proper

variable {s : State}

theorem define (h : s.Proper) (id : ScopeId) {name : String} (hname : IsWord name) {value : Term}
    (hvalue : value.Within Worded) :
    State.Proper { s with scopes := s.scopes.define id name value } := by
  have hsound := Invariant.sound_flags (fun _ => False) h
  have hkept : s.scopes.FlagsKept (fun _ => False) (s.scopes.define id name value) :=
    hsound.keeps.define_word hname value
  exact Invariant.proper_of_sound (hsound.define hvalue hkept)

theorem addMacro (h : s.Proper) {m : Macro} (hm : m.expander.Within Worded) :
    State.Proper { s with macros := s.macros.add m } :=
  Invariant.proper_of_sound ((Invariant.sound_flags (fun _ => False) h).addMacro hm)

theorem loopStart (h : s.Proper) (scope : ScopeId) : (Lockstep.loopStart s scope).Proper := by
  have hsound := Invariant.sound_flags (fun _ => False) h
  have hinner : (Invariant.rising s.scopes).single.Sound
      { s with scopes := s.scopes.addChild scope } := hsound.addChild trivial
  exact Invariant.proper_of_sound
    (hinner.define (Term.within_bool false) (hsound.keeps.loop scope))

theorem bare (console : Console) (branches lambdas : Nat) :
    (State.bare console branches lambdas).Proper := by
  have hempty : ∀ id, (State.bare console branches lambdas).scopes.bindingsOf id = ∅ := by
    intro id
    cases id with
    | zero => rfl
    | succ n => rfl
  refine ⟨fun id name t ht => ?_, fun id name t ht => ?_, fun name m hm => ?_⟩
  · rw [hempty] at ht
    cases ht
  · rw [hempty] at ht
    cases ht
  · cases hm

theorem defineBuiltins (bs : List Builtin) (h : s.Proper) :
    State.Proper { s with
      scopes := bs.foldl (fun r b => r.define rootScope b.name b.function) s.scopes } := by
  induction bs generalizing s with
  | nil => exact h
  | cons b rest ih =>
    have hfunction : b.function.Within Worded := Term.within_function.2 (Code.within_builtin b)
    exact ih (h.define rootScope (isWord_builtin b) hfunction)

theorem addSpecialForms (forms : List SpecialForm) (h : s.Proper) :
    State.Proper { s with
      macros := forms.foldl (fun table form => table.add ⟨form.name, .special form⟩)
        s.macros } := by
  induction forms generalizing s with
  | nil => exact h
  | cons form rest ih => exact ih (h.addMacro (m := ⟨form.name, .special form⟩) trivial)

/-- The builtins and the special forms have words as their names. -/
theorem root (console : Console) (branches lambdas : Nat) :
    (State.root console branches lambdas).Proper :=
  ((bare console branches lambdas).defineBuiltins Builtin.all).addSpecialForms SpecialForm.all

end State.Proper

theorem within_of_parseWithin {room : Nat} {text : String} {forms : List Term}
    (h : Term.parseWithin room text = .ok forms) : ∀ t ∈ forms, t.Within Worded := by
  have hwords : ∀ name, IsWord name → Worded (.name name) := fun _ hname => hname
  rcases extends_parseWithin hwords (Nat.le_refl room) text with hout | ⟨-, hyields⟩
  · rw [hout] at h
    cases h
  · exact hyields forms h

theorem within_of_start {l : Limits} {prelude : Option String} {console : Console}
    {session : Session} (h : Session.start l prelude console = .ok session) :
    ∀ t ∈ session.prelude, t.Within Worded := by
  rcases Session.start_cases h with ⟨-, rfl⟩ | ⟨text, forms, -, hparse, rfl⟩
  · exact List.forall_mem_nil _
  · exact within_of_parseWithin hparse

/-! ## The states of a run -/

section Visits

variable {turns depth : Nat} {s : State} {v : Visit}

/-- What a visit from a proper state takes and leaves behind. -/
theorem lawful_of_proper [Host.Platform]
    (turns depth : Nat) (hv : v.Within Worded) (hs : s.Proper) :
    Lawful v s (v.run (passes turns depth) s) := by
  have hpasses := Invariant.simPasses_rising s.scopes turns depth
  have hleaves := Invariant.leaves_of_sim (hpasses.visit hv) (Invariant.sound_flags _ hs)
  have hafter := Invariant.proper_of_sound hleaves.sound
  refine ⟨hv, hs, fun t s' hr => ?_, hafter, hleaves.sound.keeps.rise⟩
  rw [hr] at hleaves
  exact hleaves.1

/-- A visit leaves a flag as it is if no break in it finds that flag first. -/
theorem flag?_of_avoids [Host.Platform]
    {id : ScopeId} {b : Bool} (hv : v.Within Worded) (hs : s.Proper)
    (hflag : s.scopes.flag? id = some (.bool b))
    (havoids : Avoids turns depth (BreaksAt id) v.run s) :
    (Outcome.state (v.run (passes turns depth) s)).scopes.flag? id = some (.bool b) := by
  have hsound := Invariant.sound_flags (· = id) hs
  have hleaves := Invariant.leaves_of_avoids
    (fun _ _ _ _ => Invariant.mayLeave_of_not_breaksAt) havoids (fun p hp => hp.visit hv) hsound
  exact hleaves.sound.keeps.frozen id b rfl hflag

end Visits

/-! ## Loops -/

section Loops

variable {turns depth : Nat} {s : State} {condition : Term} {body : List Term} {scope : ScopeId}

theorem flag?_loopStart (s : State) (scope : ScopeId) :
    (Lockstep.loopStart s scope).scopes.flag? s.scopes.size = some (.bool false) := by
  refine Scopes.flag?_define_self ?_ _
  rw [Scopes.size_addChild]
  exact Nat.lt_succ_self _

/-- As long as a loop runs, its scope has a flag. -/
theorem avoids_missesFlag_of_loop [Host.Platform] (turns depth : Nat) (scope : ScopeId)
    (hcode : (Code.loop condition body).Within Worded) (hs : s.Proper) :
    Avoids turns depth (MissesFlag s.scopes.size)
      (fun p => Evaluation.loop p turns condition body scope) s := by
  obtain ⟨hcondition, hbody⟩ := Code.within_loop.1 hcode
  have hkept : ∀ r : State,
      (Invariant.rising (Lockstep.loopStart s scope).scopes).single.Sound r →
      r.scopes.HasFlag s.scopes.size := by
    intro r hr
    obtain ⟨b, hb, -⟩ := hr.keeps.rise _ false (flag?_loopStart s scope)
    exact ⟨b, hb⟩
  have hpass : ∀ n (v : Visit) r, v.Within Worded →
      (Invariant.rising (Lockstep.loopStart s scope).scopes).single.Sound r →
      ¬ MissesFlag s.scopes.size v r (v.run (passes turns n) r) := by
    intro n v r hv hr hmisses
    have hpasses := Invariant.simPasses_rising (Lockstep.loopStart s scope).scopes turns n
    have hleaves := Invariant.leaves_of_sim (hpasses.visit hv) hr
    exact hmisses ⟨hkept r hr, hkept _ hleaves.sound⟩
  -- The turns of the loop begin where its scope has got a flag.
  have hturns : Avoids turns depth (MissesFlag s.scopes.size)
      (fun p => Evaluation.loopTurns p condition body s.scopes.size turns)
      (Lockstep.loopStart s scope) :=
    Invariant.avoids_of_sim (I := Invariant.rising (Lockstep.loopStart s scope).scopes)
      (fun _ _ _ _ h => h) hpass
      (fun _ _ hp => Lockstep.sim_loopTurns hp hcondition hbody trivial (.inl rfl))
      (Invariant.sound_flags _ (hs.loopStart scope)) depth
  exact hturns

/-- A loop that no break ends keeps its flag. -/
theorem flag?_of_loop [Host.Platform]
    (hcode : (Code.loop condition body).Within Worded) (hs : s.Proper)
    (havoids : Avoids turns depth (BreaksAt s.scopes.size)
      (fun p => Evaluation.loop p turns condition body scope) s) :
    (Outcome.state (Evaluation.loop (passes turns depth) turns condition body scope s)).scopes.flag?
      s.scopes.size = some (.bool false) := by
  obtain ⟨hcondition, hbody⟩ := Code.within_loop.1 hcode
  have hsound := Invariant.sound_flags (· = s.scopes.size) (hs.loopStart scope)
  have hturns : Avoids turns depth (BreaksAt s.scopes.size)
      (fun p => Evaluation.loopTurns p condition body s.scopes.size turns)
      (Lockstep.loopStart s scope) := havoids
  have hleaves := Invariant.leaves_of_avoids
    (fun _ _ _ _ => Invariant.mayLeave_of_not_breaksAt) hturns
    (fun p hp => Lockstep.sim_loopTurns hp hcondition hbody trivial (.inl rfl)) hsound
  exact hleaves.sound.keeps.frozen _ false rfl (flag?_loopStart s scope)

end Loops

/-! ## Programs -/

/-- The name of the flag is no word. In every run of a program, after whatever
    prelude and with whatever console, all visits mention words only, their
    states bind nothing but words and flags, the flags are truth values, and no
    visit lets one fall. From every such state, a loop has its flag in its own
    scope at each of its visits, and that flag, like any other, stays as it is
    unless a break is called in a scope from which it is the nearest one. -/
theorem break_flag_unforgeable [Host.Platform]
    {l : Limits} {prelude : Option String} {console : Console}
    {started : Session} (hstart : Session.start l prelude console = .ok started)
    {session : Session} (hsession : session.prelude = started.prelude) {program : String}
    {forms : List Term} (hforms : Term.parseWithin l.depth program = .ok forms) :
    ¬ IsWord loopFlag ∧
      (∀ t ∈ session.prelude ++ forms, t.Within Worded) ∧
      session.initial.Proper ∧
      Avoids l.turns l.depth Unlawful
        (fun p => runProgram p (session.prelude ++ forms) rootScope) session.initial ∧
      ∀ turns depth (s : State), s.Proper →
        (∀ condition body scope, (Code.loop condition body).Within Worded →
          Avoids turns depth (MissesFlag s.scopes.size)
              (fun p => Evaluation.loop p turns condition body scope) s ∧
            (Avoids turns depth (BreaksAt s.scopes.size)
                (fun p => Evaluation.loop p turns condition body scope) s →
              (Outcome.state (Evaluation.loop (passes turns depth) turns condition body scope
                s)).scopes.flag? s.scopes.size = some (.bool false))) ∧
        ∀ (v : Visit) id b, v.Within Worded → s.scopes.flag? id = some (.bool b) →
          Avoids turns depth (BreaksAt id) v.run s →
            (Outcome.state (v.run (passes turns depth) s)).scopes.flag? id = some (.bool b) := by
  have hwithin : ∀ t ∈ session.prelude ++ forms, t.Within Worded := by
    intro t ht
    rw [hsession] at ht
    rcases List.mem_append.1 ht with hprelude | hform
    · exact within_of_start hstart t hprelude
    · exact within_of_parseWithin hforms t hform
  have hinitial : session.initial.Proper := .root session.console session.branches session.lambdas
  refine ⟨not_isWord_loopFlag, hwithin, hinitial, ?_, fun turns depth s hs => ⟨?_, ?_⟩⟩
  · have hpass : ∀ n (v : Visit) s, v.Within Worded →
        (Invariant.rising session.initial.scopes).single.Sound s →
        ¬ Unlawful v s (v.run (passes l.turns n) s) := fun n v s hv hs hbad =>
      hbad (lawful_of_proper l.turns n hv (Invariant.proper_of_sound hs))
    exact Invariant.avoids_of_sim (I := Invariant.rising session.initial.scopes)
      (fun _ _ _ _ h => h) hpass (fun _ _ hp => Lockstep.sim_runProgram hp hwithin trivial)
      (Invariant.sound_flags _ hinitial) l.depth
  · intro condition body scope hcode
    exact ⟨avoids_missesFlag_of_loop turns depth scope hcode hs, flag?_of_loop hcode hs⟩
  · intro v id b hv hflag havoids
    exact flag?_of_avoids hv hs hflag havoids

/-- Whether a flag is up. -/
def raised : Option Term → Bool
  | some (.bool b) => b
  | _ => false

/-- A loop that ends by a break, which is not avoided: the flag is up. -/
theorem break_flag_unforgeable_while :
    let l : Limits := ⟨8, 2⟩
    let session : Session := ⟨[], Console.ofLines [], 0, 0⟩
    let leave : Term := .list [.function ⟨0, none, none, 0⟩ .leaveLoop]
    ∃ forms, Term.parseWithin l.depth "(while true (break))" = .ok forms ∧
      Avoids l.turns l.depth Unlawful (fun p => runProgram p forms rootScope) session.initial ∧
      ¬ Avoids l.turns l.depth (BreaksAt 1)
        (fun p => Evaluation.loop p l.turns (.bool true) [leave] rootScope) session.initial := by
  intro l session leave
  have hreads : (Term.parseWithin l.depth "(while true (break))").isOk = true := by
    decide +kernel
  cases hforms : Term.parseWithin l.depth "(while true (break))" with
  | error stop =>
    rw [hforms] at hreads
    cases hreads
  | ok forms =>
    have hstart : Session.start l none (Console.ofLines []) = .ok session := rfl
    obtain ⟨-, -, hinitial, hlawful, hproper⟩ := break_flag_unforgeable hstart rfl hforms
    refine ⟨forms, rfl, hlawful, fun havoids => ?_⟩
    have hcode : (Code.loop (.bool true) [leave]).Within Worded := by
      simp [leave]
    have hsize : session.initial.scopes.size = 1 := by decide +kernel
    have hloop := (hproper l.turns l.depth session.initial hinitial).1 _ _ rootScope hcode
    rw [hsize] at hloop
    -- Had the break been avoided, the flag would be down at the end.
    have hdown := congrArg raised (hloop.2 havoids)
    have hup : raised ((Outcome.state (Evaluation.loop (passes l.turns l.depth) l.turns
        (.bool true) [leave] rootScope session.initial)).scopes.flag? 1) = true := by
      decide +kernel
    exact Bool.noConfusion (hup.symm.trans hdown)

end MiniLisp
