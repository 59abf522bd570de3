import MiniLisp.Proofs.Lockstep.Passes

/-! # Watching a run

    A run is made of visits: terms are expanded and evaluated and functions are
    called, each in the course of another visit or of the run itself. To tell
    what holds of all of them, a run is watched. At the end of each visit the
    watch looks at what was asked for, at the state before and at what came
    out, and if it finds the visit bad, it ends the run with a stop of its own.
    No visit was bad if watching makes no difference to the run, whatever that
    stop is.

    * **`Visit`** — what a pass is asked for;
    * **`watchedPasses`** — the passes where every visit is watched;
    * **`Avoids`** — a run without bad visits;
    * **`Invariant.avoids_of_sim`** — runs that avoid what no visit from a sound
      state does;
    * **`Invariant.leaves_of_avoids`** — what a run keeps true only because it
      has no bad visits. -/

namespace MiniLisp

/-- What comes out of an action: a value or a stop, and a state. -/
abbrev Outcome (α : Type) := EStateM.Result Stop State α

/-- The state that is left behind. -/
def Outcome.state {α : Type} : Outcome α → State
  | .ok _ s => s
  | .error _ s => s

/-- What a pass is asked for. -/
inductive Visit where
  | expand (t : Term) (scope : ScopeId)
  | evaluate (t : Term) (scope : ScopeId)
  | call (code : Code) (arguments : List Term) (scope : ScopeId)

namespace Visit

/-- Has the passes do what is asked for. -/
def run (v : Visit) (p : Passes) : Action Term :=
  match v with
  | .expand t scope => p.expand t scope
  | .evaluate t scope => p.evaluate t scope
  | .call code arguments scope => p.call code arguments scope

/-- The visit mentions nothing but what is allowed. -/
def Within (allowed : Mention → Prop) : Visit → Prop
  | .expand t scope => t.Within allowed ∧ allowed (.scope scope)
  | .evaluate t scope => t.Within allowed ∧ allowed (.scope scope)
  | .call code arguments scope =>
      code.Within allowed ∧ (∀ t ∈ arguments, t.Within allowed) ∧ allowed (.scope scope)

end Visit

/-! ## Watched passes -/

/-- Which visits are bad, by the state before and what came out. -/
abbrev Watch := Visit → State → Outcome Term → Prop

open Classical in
/-- The action, unless what it does is bad. -/
noncomputable def Action.watched (bad : State → Outcome Term → Prop) (stop : Stop)
    (x : Action Term) : Action Term := fun s =>
  if bad s (x s) then .error stop s else x s

/-- The passes with a watch on each visit. -/
noncomputable def Passes.watched (p : Passes) (bad : Watch) (stop : Stop) : Passes where
  room := p.room
  expand t scope := (p.expand t scope).watched (bad (.expand t scope)) stop
  evaluate t scope := (p.evaluate t scope).watched (bad (.evaluate t scope)) stop
  call code arguments scope :=
    (p.call code arguments scope).watched (bad (.call code arguments scope)) stop

/-- The passes for a number of levels with a watch on each visit. -/
noncomputable def watchedPasses [Host.Platform]
    (turns : Nat) (bad : Watch) (stop : Stop) : Nat → Passes
  | 0 => Passes.exhausted.watched bad stop
  | n + 1 => ((watchedPasses turns bad stop n).next turns).watched bad stop

/-- No visit of the run from the state is bad. -/
def Avoids [Host.Platform]
    {α : Type} (turns depth : Nat) (bad : Watch) (run : Passes → Action α) (s : State) :
    Prop :=
  ∀ stop, run (watchedPasses turns bad stop depth) s = run (passes turns depth) s

section Watched

variable {bad : Watch} {stop : Stop} {s : State} {v : Visit}

theorem Action.watched_of_not {bad : State → Outcome Term → Prop} {x : Action Term}
    (h : ¬ bad s (x s)) : x.watched bad stop s = x s :=
  if_neg h

theorem Action.watched_of_bad {bad : State → Outcome Term → Prop} {x : Action Term}
    (h : bad s (x s)) : x.watched bad stop s = .error stop s :=
  if_pos h

theorem Visit.run_watched (v : Visit) (p : Passes) (bad : Watch) (stop : Stop) :
    v.run (p.watched bad stop) = (v.run p).watched (bad v) stop := by
  cases v <;> rfl

theorem exists_watchedPasses_eq [Host.Platform] (turns depth : Nat) (bad : Watch) (stop : Stop) :
    ∃ p : Passes, watchedPasses turns bad stop depth = p.watched bad stop := by
  cases depth with
  | zero => exact ⟨_, rfl⟩
  | succ n => exact ⟨_, rfl⟩

/-- A visit that avoids what is bad is not bad itself. -/
theorem Avoids.not_bad [Host.Platform] {turns depth : Nat} (h : Avoids turns depth bad v.run s) :
    ¬ bad v s (v.run (passes turns depth) s) := by
  intro hbad
  -- The watch would have ended the visit with whatever stop it was given.
  have hends : ∀ stop, v.run (passes turns depth) s = .error stop s := by
    intro stop
    obtain ⟨p, hp⟩ := exists_watchedPasses_eq turns depth bad stop
    have hsame := h stop
    rw [hp, Visit.run_watched] at hsame
    by_cases hinner : bad v s (v.run p s)
    · rw [← hsame, Action.watched_of_bad hinner]
    · rw [Action.watched_of_not hinner] at hsame
      rw [hsame] at hinner
      exact absurd hbad hinner
  have hstops : (.error .memory s : Outcome Term) = .error .overflow s :=
    (hends .memory).symm.trans (hends .overflow)
  cases hstops

end Watched

/-! ## One run beside itself -/

section Single

variable {I : Invariant} {L : Lockstep} {α : Type} {good : α → Prop} {p q : Passes}
  {bad : Watch} {stop : Stop}

theorem Lockstep.SimPasses.visit (hp : L.SimPasses p q) {v : Visit} (hv : v.Within L.allowed) :
    L.Sim (Term.Within L.allowed) (v.run p) (v.run q) := by
  cases v with
  | expand t scope => exact hp.expand t scope hv.1 hv.2
  | evaluate t scope => exact hp.evaluate t scope hv.1 hv.2
  | call code arguments scope => exact hp.call code arguments scope hv.1 hv.2.1 hv.2.2

/-- Passes run in lockstep if they have the same room and every visit does. -/
theorem Lockstep.simPasses_of_visits (hroom : p.room = q.room ∨ L.excused .exhausted)
    (hle : p.room ≤ q.room) (h : ∀ v : Visit, v.Within L.allowed →
      L.Sim (Term.Within L.allowed) (v.run p) (v.run q)) : L.SimPasses p q where
  room_le := hle
  room_eq := hroom
  expand t scope ht hscope := h (.expand t scope) ⟨ht, hscope⟩
  evaluate t scope ht hscope := h (.evaluate t scope) ⟨ht, hscope⟩
  call code arguments scope hcode harguments hscope :=
    h (.call code arguments scope) ⟨hcode, harguments, hscope⟩

namespace Invariant

/-- What comes out has the property and leaves a sound state behind. -/
def Leaves (I : Invariant) (good : α → Prop) : Outcome α → Prop
  | .ok a s => good a ∧ I.single.Sound s
  | .error _ s => I.single.Sound s

theorem Leaves.sound {r : Outcome α} (h : I.Leaves good r) : I.single.Sound r.state := by
  cases r with
  | ok a s => exact h.2
  | error e s => exact h

theorem agree_iff {r r' : Outcome α} :
    I.single.Agree good r r' ↔ r' = r ∧ I.Leaves good r := by
  constructor
  · intro hagree
    cases hagree with
    | ok value sound same => exact ⟨by rw [same]; rfl, value, sound⟩
    | stop sound same => exact ⟨by rw [same]; rfl, sound⟩
    | excused h => cases h
  · rintro ⟨rfl, hleaves⟩
    cases r' with
    | ok a s => exact .ok hleaves.1 hleaves.2 rfl
    | error e s => exact .stop hleaves rfl

theorem leaves_of_sim {x y : Action α} (hxy : I.single.Sim good x y) {s : State}
    (hs : I.single.Sound s) : I.Leaves good (x s) :=
  (agree_iff.1 (hxy s hs)).2

theorem eq_of_sim {x y : Action α} (hxy : I.single.Sim good x y) {s : State}
    (hs : I.single.Sound s) : y s = x s :=
  (agree_iff.1 (hxy s hs)).1

/-- A watch does not disturb what is never bad. -/
theorem sim_watched {good : Term → Prop} {bad : State → Outcome Term → Prop} {x y : Action Term}
    (hxy : I.single.Sim good x y) (hpass : ∀ s, I.single.Sound s → ¬ bad s (x s)) :
    I.single.Sim good x (y.watched bad stop) := by
  intro s hs
  have hsame : y s = x s := eq_of_sim hxy hs
  have hgood : ¬ bad s (y s) := by
    rw [hsame]
    exact hpass s hs
  have hwatched : y.watched bad stop s = x s := by
    rw [Action.watched_of_not hgood, hsame]
  exact agree_iff.2 ⟨hwatched, leaves_of_sim hxy hs⟩

/-! ## Runs without bad visits -/

section Avoided

variable [Host.Platform] {turns : Nat}

/-- The watch never ends a run if no visit from a sound state is bad. -/
theorem simPasses_watched (hleave : ∀ s scope, I.mayLeave s scope)
    (hpass : ∀ n (v : Visit) s, v.Within I.allowed → I.single.Sound s →
      ¬ bad v s (v.run (passes turns n) s)) (depth : Nat) :
    I.single.SimPasses (passes turns depth) (watchedPasses turns bad stop depth) := by
  have hwatch : ∀ n q, I.single.SimPasses (passes turns n) q →
      I.single.SimPasses (passes turns n) (q.watched bad stop) := by
    intro n q hq
    refine Lockstep.simPasses_of_visits hq.room_eq hq.room_le fun v hv => ?_
    rw [Visit.run_watched]
    exact sim_watched (hq.visit hv) fun s hs => hpass n v s hv hs
  -- The passes of one level less are watched already when the next level is.
  induction depth with
  | zero => exact hwatch 0 .exhausted Lockstep.simPasses_exhausted
  | succ n ih => exact hwatch (n + 1) _ (Lockstep.simPasses_next ih (.inl rfl) hleave)

/-- A run avoids what no visit from a sound state does. -/
theorem avoids_of_sim (hleave : ∀ s scope, I.mayLeave s scope)
    (hpass : ∀ n (v : Visit) s, v.Within I.allowed → I.single.Sound s →
      ¬ bad v s (v.run (passes turns n) s)) {run : Passes → Action α}
    (hrun : ∀ p q, I.single.SimPasses p q → I.single.Sim good (run p) (run q)) {s : State}
    (hs : I.single.Sound s) (depth : Nat) : Avoids turns depth bad run s := by
  intro stop
  have hpasses : I.single.SimPasses (passes turns depth) (watchedPasses turns bad stop depth) :=
    simPasses_watched hleave hpass depth
  exact eq_of_sim (hrun _ _ hpasses) hs

omit [Host.Platform] in
/-- A level of passes that is watched keeps to the invariant if it does where
    nothing bad happens. -/
theorem simPasses_watched_self (hvisit : ∀ (v : Visit) s, v.Within I.allowed →
      I.single.Sound s → ¬ bad v s (v.run p s) → I.Leaves (Term.Within I.allowed) (v.run p s)) :
    I.single.SimPasses (p.watched bad stop) (p.watched bad stop) := by
  refine Lockstep.simPasses_of_visits (.inl rfl) (Nat.le_refl _) fun v hv s hs => ?_
  refine agree_iff.2 ⟨rfl, ?_⟩
  rw [Visit.run_watched]
  -- Where the watch ends the visit, the state is the one that it began in.
  by_cases hbad : bad v s (v.run p s)
  · rw [Action.watched_of_bad hbad]
    exact hs
  · rw [Action.watched_of_not hbad]
    exact hvisit v s hv hs hbad

/-- Where the watch ends all visits that end a loop which may not be ended, the
    watched passes keep to the invariant. -/
theorem simPasses_watchedPasses
    (hleave : ∀ arguments scope s r, ¬ bad (.call .leaveLoop arguments scope) s r →
      I.mayLeave s.scopes scope) (depth : Nat) :
    I.single.SimPasses (watchedPasses turns bad stop depth)
      (watchedPasses turns bad stop depth) := by
  induction depth with
  | zero =>
    refine simPasses_watched_self fun v s hv hs _ => ?_
    exact leaves_of_sim (Lockstep.simPasses_exhausted.visit hv) hs
  | succ n ih =>
    refine simPasses_watched_self fun v s hv hs hpass => ?_
    cases v with
    | expand t scope => exact leaves_of_sim (Lockstep.sim_expansion_step ih hv.1 hv.2) hs
    | evaluate t scope => exact leaves_of_sim (Lockstep.sim_evaluation_step ih hv.1 hv.2) hs
    | call code arguments scope =>
      obtain ⟨hcode, harguments, hscope⟩ := hv
      have hmay : code = .leaveLoop → I.mayLeave s.scopes scope := by
        rintro rfl
        exact hleave arguments scope s _ hpass
      have hturns : turns = turns ∨ turns ≤ turns ∧ I.single.excused .unfinished := .inl rfl
      have hagree := Lockstep.agree_call ih hcode harguments hscope hturns hs hmay
      exact (agree_iff.1 hagree).2

/-- A run that avoids those visits keeps to the invariant, too. -/
theorem leaves_of_avoids
    (hleave : ∀ arguments scope s r, ¬ bad (.call .leaveLoop arguments scope) s r →
      I.mayLeave s.scopes scope) {depth : Nat} {run : Passes → Action α} {s : State}
    (havoids : Avoids turns depth bad run s)
    (hrun : ∀ p, I.single.SimPasses p p → I.single.Sim good (run p) (run p))
    (hs : I.single.Sound s) : I.Leaves good (run (passes turns depth) s) := by
  have hpasses : I.single.SimPasses (watchedPasses turns bad .memory depth)
      (watchedPasses turns bad .memory depth) := simPasses_watchedPasses hleave depth
  -- The watched passes are those of the run; any stop will do for the watch.
  rw [← havoids .memory]
  exact leaves_of_sim (hrun _ hpasses) hs

end Avoided

end Invariant

end Single

end MiniLisp
