import MiniLisp.Proofs.Congruence.Passes
import MiniLisp.Proofs.Watch
import MiniLisp.Session

/-! # Watched runs and congruences

    A run stands beside two others that are watched, each for something of its
    own. To see that a congruence relates the three, it is enough to look at
    one visit: what it does in its course is related already, and the watches
    at its end must keep the relation. A call that is set apart must be right
    because of the watches.

    * **`coursePasses`** — the passes where the visits in the course of the
      outermost one are watched, but not that one;
    * **`Congruence.relPasses_watchedPasses`** — from one visit to all levels;
    * **`Regular`** — a run that every congruence relates to itself, such as the
      run of a program. -/

namespace MiniLisp

/-! ## The course of a visit -/

variable [Host.Platform]

/-- The passes where all visits but the outermost one are watched. -/
noncomputable def coursePasses (turns : Nat) (bad : Watch) (stop : Stop) : Nat → Passes
  | 0 => .exhausted
  | n + 1 => (watchedPasses turns bad stop n).next turns

theorem watchedPasses_eq_watched (turns : Nat) (bad : Watch) (stop : Stop) (depth : Nat) :
    watchedPasses turns bad stop depth = (coursePasses turns bad stop depth).watched bad stop := by
  cases depth with
  | zero => rfl
  | succ n => rfl

namespace Visit

/-- The scope in which a visit may bind names. -/
def own : Visit → Option ScopeId
  | .expand _ _ => none
  | .evaluate _ scope => some scope
  | .call _ _ scope => some scope

/-- The visit calls a function whose code is set apart. -/
def Apart (apart : Code → Prop) : Visit → Prop
  | .expand _ _ => False
  | .evaluate _ _ => False
  | .call code _ _ => apart code

end Visit

/-! ## From one visit to all runs -/

namespace Congruence

variable {C : Congruence} {p q r : Passes}

theorem RelPasses.visit (hp : C.RelPasses p q r) (v : Visit) :
    C.rel v.own (v.run p) (v.run q) (v.run r) := by
  cases v with
  | expand t scope => exact hp.expand t scope
  | evaluate t scope => exact hp.evaluate t scope
  | call code arguments scope => exact hp.call code arguments scope

theorem relPasses_of_visits (hroom : q.room = p.room ∧ r.room = p.room)
    (h : ∀ v : Visit, C.rel v.own (v.run p) (v.run q) (v.run r)) : C.RelPasses p q r where
  room_eq := hroom
  expand t scope := h (.expand t scope)
  evaluate t scope := h (.evaluate t scope)
  call code arguments scope := h (.call code arguments scope)

theorem rel_visit_next (hp : C.RelPasses p q r) (turns : Nat) (v : Visit)
    (hv : ¬ v.Apart C.apart) :
    C.rel v.own (v.run (p.next turns)) (v.run (q.next turns)) (v.run (r.next turns)) := by
  cases v with
  | expand t scope => exact rel_expansion_step hp t scope
  | evaluate t scope => exact rel_evaluation_step hp t scope
  | call code arguments scope => exact rel_call hp turns hv arguments scope

variable {turns : Nat} {bad bad' : Watch} {stop stop' : Stop}

/-- If the watches keep the relation at the end of each visit, they keep it on
    all levels. -/
theorem relPasses_watchedPasses
    (hvisit : ∀ n (v : Visit),
      (¬ v.Apart C.apart → C.rel v.own (v.run (passes turns n))
        (v.run (coursePasses turns bad stop n)) (v.run (coursePasses turns bad' stop' n))) →
      C.rel v.own (v.run (passes turns n))
        ((v.run (coursePasses turns bad stop n)).watched (bad v) stop)
        ((v.run (coursePasses turns bad' stop' n)).watched (bad' v) stop')) (depth : Nat) :
    C.RelPasses (passes turns depth) (watchedPasses turns bad stop depth)
      (watchedPasses turns bad' stop' depth) := by
  have hlevel : ∀ n, (∀ v : Visit, ¬ v.Apart C.apart → C.rel v.own (v.run (passes turns n))
        (v.run (coursePasses turns bad stop n)) (v.run (coursePasses turns bad' stop' n))) →
      (coursePasses turns bad stop n).room = (passes turns n).room ∧
        (coursePasses turns bad' stop' n).room = (passes turns n).room →
      C.RelPasses (passes turns n) (watchedPasses turns bad stop n)
        (watchedPasses turns bad' stop' n) := by
    intro n hcourse hroom
    rw [watchedPasses_eq_watched, watchedPasses_eq_watched]
    refine relPasses_of_visits hroom fun v => ?_
    rw [Visit.run_watched, Visit.run_watched]
    exact hvisit n v (hcourse v)
  induction depth with
  | zero => exact hlevel 0 (fun v _ => relPasses_exhausted.visit v) ⟨rfl, rfl⟩
  | succ n ih =>
    have hroom := ih.room_eq
    refine hlevel (n + 1) (fun v hv => rel_visit_next ih turns v hv) ⟨?_, ?_⟩
    · exact congrArg (· + 1) hroom.1
    · exact congrArg (· + 1) hroom.2

/-- What a visit does in its course is related, if the watches keep the relation
    at the end of each visit. -/
theorem rel_coursePasses (hp : ∀ n, C.RelPasses (passes turns n) (watchedPasses turns bad stop n)
      (watchedPasses turns bad' stop' n)) (n : Nat) (v : Visit) (hv : ¬ v.Apart C.apart) :
    C.rel v.own (v.run (passes turns n)) (v.run (coursePasses turns bad stop n))
      (v.run (coursePasses turns bad' stop' n)) := by
  cases n with
  | zero => exact relPasses_exhausted.visit v
  | succ n => exact rel_visit_next (hp n) turns v hv

end Congruence

/-! ## Runs made of visits -/

/-- Whatever congruence relates the visits, it relates the run made of them. -/
def Regular (own : Option ScopeId) {α : Type} (run : Passes → Action α) : Prop :=
  ∀ (C : Congruence) (p q r : Passes), C.RelPasses p q r → C.rel own (run p) (run q) (run r)

theorem regular_visit (v : Visit) : Regular v.own v.run :=
  fun _ _ _ _ hp => hp.visit v

theorem regular_runProgram (forms : List Term) (scope : ScopeId) :
    Regular (some scope) fun p => runProgram p forms scope := by
  intro C p q r hp
  refine Congruence.rel_bind ?_ fun result => ?_
  · refine Congruence.rel_bind (Congruence.rel_expandBody hp forms scope) fun expanded => ?_
    cases expanded with
    | nil => exact Congruence.rel_pure none
    | cons form rest =>
      exact Congruence.rel_map some (Congruence.rel_evaluateBody hp .nil (form :: rest) scope)
  · cases result with
    | some t => exact Congruence.rel_print hp t
    | none => exact Congruence.rel_pure ""

end MiniLisp
