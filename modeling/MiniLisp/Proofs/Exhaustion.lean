import MiniLisp.Proofs.Congruence
import MiniLisp.Proofs.Lockstep.Passes

/-! # Limits never become answers

    A run has limits that the language does not know: the levels of its
    recursion and the turns of its loops. Where a limit is met, the run as a
    whole is given up. No form catches that, so no value and no error of a
    program is made of a part that was given up; and what a program answers
    within some limits it answers within all higher ones, with the same
    console.

    * **`MetLimit`** — a result that only tells that a limit was met;
    * **`Lockstep.higher`** — a second run with higher limits;
    * **`evaluateValue_eq_of_higher`** — evaluating a form within higher limits;
    * **`Session.run_eq_of_higher`** — running a program within higher limits;
    * **`answer_eq_of_higher_limits`** — starting a session and running one. -/

namespace MiniLisp

/-- The result is no answer of a program: it only tells that a limit of the run
    was met. A recursion that is too deep is reported as an error of its own
    when the run is over. -/
def MetLimit {α : Type} : Except Stop α → Bool
  | .error .exhausted => true
  | .error .unfinished => true
  | .error (.error .recursion) => true
  | _ => false

/-! ## Runs with higher limits -/

/-- All is allowed, and nothing needs to be kept. -/
def Invariant.free : Invariant where
  allowed _ := True
  keeps _ := True
  mayLeave _ _ := True
  word _ _ := trivial
  allowed_size _ _ := trivial
  keeps_define _ _ _ _ _ _ _ := trivial
  keeps_addChild _ _ _ := trivial
  keeps_loop _ _ _ := trivial
  keeps_leave _ _ _ _ _ := trivial

/-- Both runs look at the same scopes. The first one is let go where it meets
    one of its limits. -/
def Lockstep.higher : Lockstep :=
  Invariant.free.lockstep (fun stop => stop = .exhausted ∨ stop = .unfinished) fun _ h => by
    rcases h with h | h <;> cases h

namespace Lockstep

theorem within_higher (t : Term) : t.Within higher.allowed :=
  fun _ _ => trivial

theorem sound_higher (s : State) : higher.Sound s where
  keeps := trivial
  enclosing _ _ _ _ := trivial
  bound _ _ _ t _ := within_higher t
  macros _ m _ := by
    cases m.expander with
    | special form => trivial
    | template name parameters body => exact ⟨fun _ _ => trivial, fun t _ => within_higher t⟩

/-- Passes with fewer levels and fewer turns of loops run in lockstep with
    those that have more. -/
theorem simPasses_higher [Host.Platform] {turns turns' depth depth' : Nat} (hturns : turns ≤ turns')
    (hdepth : depth ≤ depth') : higher.SimPasses (passes turns depth) (passes turns' depth') := by
  -- Both runs spend their levels together; the first one has no more of them.
  induction depth generalizing depth' with
  | zero =>
    have hexcused : higher.excused .exhausted := Or.inl rfl
    exact simPasses_of_excused hexcused _
  | succ n ih =>
    obtain ⟨n', rfl⟩ : ∃ n', depth' = n' + 1 := ⟨depth' - 1, by omega⟩
    have hlevel : higher.SimPasses (passes turns n) (passes turns' n') := ih (by omega)
    have hexcused : higher.excused .unfinished := Or.inr rfl
    exact simPasses_next hlevel (.inr ⟨hturns, hexcused⟩) fun _ _ => trivial

/-- What ends within its limits ends the same way beside higher ones. -/
theorem Sim.eq_of_ending {α : Type} {good : α → Prop} {x y : Action α} (h : higher.Sim good x y)
    {s : State} (hends : MetLimit (x.ending s) = false) : y s = x s := by
  have hagree : higher.Agree good (x s) (y s) := h s (sound_higher s)
  unfold Action.ending at hends
  generalize x s = r, y s = r' at hagree hends
  cases hagree with
  | ok _ _ same => exact congrArg _ same
  | stop _ same => exact congrArg _ same
  | excused h =>
    -- A first run that met a limit has given no answer.
    rcases h with rfl | rfl
    · cases hends
    · cases hends

end Lockstep

/-- Evaluating what a form expands to, within higher limits. -/
theorem evaluateValue_eq_of_higher [Host.Platform]
    {l : Limits} {turns depth : Nat} (hdepth : l.depth ≤ depth)
    (hturns : l.turns ≤ turns) (form : Term) (scope : ScopeId) {s : State}
    (hends : MetLimit ((Evaluation.evaluateValue l.passes form scope).ending s) = false) :
    Evaluation.evaluateValue (passes turns depth) form scope s =
      Evaluation.evaluateValue l.passes form scope s := by
  have hpasses := Lockstep.simPasses_higher hturns hdepth
  exact (Lockstep.sim_evaluateValue hpasses (Lockstep.within_higher form)
    trivial).eq_of_ending hends

/-! ## Sessions -/

section Limits

variable {l l' : Limits}

/-- A text is read the same with more room, or is nested too deeply for less. -/
theorem parseWithin_eq_or_exhausted (hdepth : l.depth ≤ l'.depth) (text : String) :
    Term.parseWithin l.depth text = .error .exhausted ∨
      Term.parseWithin l'.depth text = Term.parseWithin l.depth text := by
  have hparse := extends_parseWithin Lockstep.higher.word hdepth text
  exact hparse.imp_right fun h => h.1

theorem Session.start_eq_of_higher (hdepth : l.depth ≤ l'.depth) (prelude : Option String)
    (console : Console) (hstart : MetLimit (Session.start l prelude console) = false) :
    Session.start l' prelude console = Session.start l prelude console := by
  cases prelude with
  | none => rfl
  | some text =>
    rcases parseWithin_eq_or_exhausted hdepth text with h | h
    · simp only [Session.start, h] at hstart
      cases hstart
    · simp only [Session.start, h]

/-- Running a program of any session within higher limits. -/
theorem Session.run_eq_of_higher [Host.Platform]
    (hdepth : l.depth ≤ l'.depth) (hturns : l.turns ≤ l'.turns)
    (session : Session) (program : String)
    (hrun : MetLimit (session.run l program).1 = false) :
    session.run l' program = session.run l program := by
  rcases parseWithin_eq_or_exhausted hdepth program with hparse | hparse
  · rw [Session.run, hparse] at hrun
    cases hrun
  · unfold Session.run at hrun ⊢
    rw [hparse]
    cases hforms : Term.parseWithin l.depth program with
    | error stop => rfl
    | ok forms =>
      rw [hforms] at hrun
      have hpasses := Lockstep.simPasses_higher hturns hdepth
      have hwithin : ∀ t ∈ session.prelude ++ forms, t.Within Lockstep.higher.allowed :=
        fun t _ => Lockstep.within_higher t
      have hroot : Lockstep.higher.allowed (.scope rootScope) := trivial
      have hsim : Lockstep.higher.Sim (fun _ => True)
          (runProgram l.passes (session.prelude ++ forms) rootScope)
          (runProgram l'.passes (session.prelude ++ forms) rootScope) :=
        Lockstep.sim_runProgram hpasses hwithin hroot
      have hending : MetLimit ((runProgram l.passes (session.prelude ++ forms) rootScope).ending
          session.initial) = false := by
        unfold Action.ending
        dsimp only at hrun ⊢
        generalize runProgram l.passes (session.prelude ++ forms) rootScope session.initial = r
          at hrun ⊢
        -- Where a limit was met the answer would be that.
        cases r with
        | ok text s => rfl
        | error stop s =>
          cases stop with
          | exhausted => cases hrun
          | error | overflow | memory | unfinished => exact hrun
      dsimp only
      rw [hsim.eq_of_ending hending]

end Limits

/-- What a session answers to a program within some limits, it answers within
    all higher ones, and it leaves the same console behind. -/
theorem answer_eq_of_higher_limits [Host.Platform] {l l' : Limits} (hdepth : l.depth ≤ l'.depth)
    (hturns : l.turns ≤ l'.turns) {prelude : Option String} {console : Console}
    {session : Session} (hstart : Session.start l prelude console = .ok session)
    {program : String} (hrun : MetLimit (session.run l program).1 = false) :
    Session.start l' prelude console = .ok session ∧
      session.run l' program = session.run l program := by
  have hready : MetLimit (Session.start l prelude console) = false := by rw [hstart]; rfl
  constructor
  · rw [Session.start_eq_of_higher hdepth prelude console hready, hstart]
  · exact Session.run_eq_of_higher hdepth hturns session program hrun

/-- A fallback that is evaluated for the sake of an error, and not for the sake
    of a limit. -/
theorem answer_eq_of_higher_limits_guard :
    let session : Session := ⟨[], Console.ofLines ["x"], 0, 0⟩
    let program := "(try (car 1) (read))"
    MetLimit (session.run ⟨3, 1⟩ program).1 = true ∧
      MetLimit (session.run ⟨4, 1⟩ program).1 = false ∧
      session.run ⟨100, 5⟩ program = session.run ⟨4, 1⟩ program := by
  intro session program
  have hanswer : MetLimit (session.run ⟨4, 1⟩ program).1 = false := by decide +kernel
  have hstart : Session.start ⟨4, 1⟩ none (Console.ofLines ["x"]) = .ok session := rfl
  refine ⟨by decide +kernel, hanswer, ?_⟩
  exact (answer_eq_of_higher_limits (by decide) (by decide) hstart hanswer).2

end MiniLisp
