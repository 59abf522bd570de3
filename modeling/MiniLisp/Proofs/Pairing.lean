import MiniLisp.Proofs.Footprint
import MiniLisp.Proofs.Likeness.HostExpressions

/-! # Two runs side by side

    Two runs of terms that are alike are compared that start in states which
    are side by side. They go on side by side: each ends in a value that is
    like the one of the other, or both stop for the same reason, and the states
    in which they end are side by side again.

    The serial numbers that functions get in the two runs correspond, but how
    they do may hold for a time only: a first run that has made too many
    functions is let go.

    * **`Pairing`** — which states are side by side, with what makes that last;
    * **`Pairing.Sim`** — two actions that keep the states side by side;
    * **`Pairing.sim_bind`** and the other rules for sequences of actions.

    That expansion keeps states side by side is shown in
    `MiniLisp.Proofs.Pairing.Expansion`. -/

namespace MiniLisp

/-- Which states of two runs are side by side. Only expansion is asked for
    here, which binds names for the templates of macros alone. -/
structure Pairing extends Likeness where
  /-- The scopes that correspond. -/
  near : ScopeId → ScopeId → Prop
  beside : State → State → Prop
  /-- The numbers of functions at which a first run is let go. -/
  past : Nat → Prop
  past_mono : ∀ {n m}, n ≤ m → past n → past m
  newFunction : ∀ {s s'}, beside s s' → ∃ n, serial s.functions n ∧
    beside { s with functions := s.functions + 1 } { s' with functions := n + 1 } ∧
      (n = s'.functions ∨ past (s.functions + 1))
  nextBranch : ∀ {s s'}, beside s s' → s'.branches = s.branches ∧
    beside { s with branches := s.branches + 1 } { s' with branches := s'.branches + 1 }
  nextLambda : ∀ {s s'}, beside s s' → s'.lambdas = s.lambdas ∧
    beside { s with lambdas := s.lambdas + 1 } { s' with lambdas := s'.lambdas + 1 }
  findMacro : ∀ {s s' key}, beside s s' → name key →
    Option.Rel (Macro.Like toLikeness) (s.macros.get? key) (s'.macros.get? key)
  addMacro : form .defineMacro → ∀ {s s' key e e'}, beside s s' → name key →
    Expander.Like toLikeness e e' →
    beside { s with macros := s.macros.add ⟨key, e⟩ } { s' with macros := s'.macros.add ⟨key, e'⟩ }
  newScope : form .defineMacro → ∀ {s s' scope scope'}, beside s s' → near scope scope' →
    near s.scopes.size s'.scopes.size ∧
      beside { s with scopes := s.scopes.addChild scope }
        { s' with scopes := s'.scopes.addChild scope' }
  define : form .defineMacro → ∀ {s s' scope scope' key value value'}, beside s s' →
    near scope scope' → name key → value.Like toLikeness value' →
    beside { s with scopes := s.scopes.define scope key value }
      { s' with scopes := s'.scopes.define scope' key value' }

namespace Pairing

variable {P : Pairing} {α β : Type} {good : α → α → Prop} {good' : β → β → Prop}

/-- How two runs end that are side by side. -/
inductive Ends (P : Pairing) (good : α → α → Prop) :
    EStateM.Result Stop State α → EStateM.Result Stop State α → Prop where
  | ok {a a' : α} {s s' : State} (values : good a a') (states : P.beside s s') :
      Ends P good (.ok a s) (.ok a' s')
  | stop {e e' : Stop} {s s' : State} (causes : P.SameStop e e') (states : P.beside s s') :
      Ends P good (.error e s) (.error e' s')

/-- From states that are side by side, both actions end side by side. A first
    one that is let go has some end beside it, which need not be the one of
    the second. No functions are unmade. -/
def Sim (P : Pairing) (good : α → α → Prop) (x y : Action α) : Prop :=
  ∀ s s', P.beside s s' → s.functions ≤ (x.after s).functions ∧
    ∃ r, P.Ends good (x s) r ∧ (r = y s' ∨ P.past (x.after s).functions)

/-! ## Sequences of actions -/

/-- Actions that end side by side, with no need to let the first one go. -/
theorem sim_of_ends {x y : Action α} (hle : ∀ s, s.functions ≤ (x.after s).functions)
    (h : ∀ s s', P.beside s s' → P.Ends good (x s) (y s')) : P.Sim good x y :=
  fun s s' hs => ⟨hle s, y s', h s s' hs, .inl rfl⟩

theorem sim_pure {a a' : α} (h : good a a') : P.Sim good (pure a) (pure a') :=
  sim_of_ends (fun _ => Nat.le_refl _) fun _ _ hs => .ok h hs

theorem sim_throw {e e' : Stop} (h : P.SameStop e e') :
    P.Sim good (throw e : Action α) (throw e') :=
  sim_of_ends (fun _ => Nat.le_refl _) fun _ _ hs => .stop h hs

theorem sim_fail {e e' : LispError} (h : P.SameError e e') :
    P.Sim good (Action.fail e : Action α) (Action.fail e') :=
  sim_throw (.error h)

/-- The error tells no line. -/
theorem sim_fail_self (e : LispError) : P.Sim good (Action.fail e : Action α) (Action.fail e) :=
  sim_fail (.refl _ e)

/-- A first action that is not let go ends beside the second one. -/
theorem Sim.ends {x y : Action α} {s s' : State} (h : P.Sim good x y) (hs : P.beside s s')
    (hpast : ¬ P.past (x.after s).functions) : P.Ends good (x s) (y s') := by
  obtain ⟨-, r, hends, hr⟩ := h s s' hs
  rcases hr with rfl | hlate
  · exact hends
  · exact absurd hlate hpast

theorem sim_bind {x y : Action α} {f g : α → Action β} (hx : P.Sim good x y)
    (hf : ∀ a a', good a a' → P.Sim good' (f a) (g a')) : P.Sim good' (x >>= f) (y >>= g) := by
  intro s s' hs
  obtain ⟨hle, r, hends, hr⟩ := hx s s' hs
  generalize hfirst : x s = first at hends
  cases hends with
  | @ok a a' t t' values states =>
    rw [Action.after_ok hfirst] at hle hr
    obtain ⟨hle', r', hends', hr'⟩ := hf a a' values t t' states
    have hafter : (x >>= f).after s = (f a).after t := by
      rw [Action.after, Action.bind_ok hfirst, Action.after]
    rw [hafter, Action.bind_ok hfirst]
    refine ⟨Nat.le_trans hle hle', r', hends', ?_⟩
    -- A first run that was let go by now stays so.
    rcases hr with hsecond | hlate
    · rw [Action.bind_ok hsecond.symm]
      exact hr'
    · exact .inr (P.past_mono hle' hlate)
  | @stop e e' t t' causes states =>
    rw [Action.after_error hfirst] at hle hr
    rw [Action.after_error (Action.bind_error hfirst), Action.bind_error hfirst]
    refine ⟨hle, .error e' t', .stop causes states, ?_⟩
    rcases hr with hsecond | hlate
    · exact .inl (Action.bind_error hsecond.symm).symm
    · exact .inr hlate

theorem sim_map {x y : Action α} {f : α → β} (hx : P.Sim good x y)
    (hf : ∀ a a', good a a' → good' (f a) (f a')) : P.Sim good' (f <$> x) (f <$> y) := by
  rw [← bind_pure_comp, ← bind_pure_comp]
  exact sim_bind hx fun a a' ha => sim_pure (hf a a' ha)

theorem sim_mapM {f g : β → Action α} {bs bs' : List β} (h : List.Forall₂ good' bs bs')
    (hf : ∀ b b', good' b b' → P.Sim good (f b) (g b')) :
    P.Sim (List.Forall₂ good) (bs.mapM f) (bs'.mapM g) := by
  induction h with
  | nil => exact sim_pure .nil
  | cons first _ ih =>
    rw [List.mapM_cons, List.mapM_cons]
    refine sim_bind (hf _ _ first) fun a a' ha => ?_
    refine sim_bind ih fun as as' has => ?_
    exact sim_pure (.cons ha has)

theorem sim_recover {x y : Action α} {f g : LispError → Action α} (hx : P.Sim good x y)
    (hf : ∀ e e', P.SameError e e' → P.Sim good (f e) (g e')) :
    P.Sim good (Action.recover x f) (Action.recover y g) := by
  intro s s' hs
  obtain ⟨hle, r, hends, hr⟩ := hx s s' hs
  generalize hfirst : x s = first at hends
  cases hends with
  | @ok a a' t t' values states =>
    rw [Action.after_ok hfirst] at hle hr
    rw [Action.after_ok (Action.recover_ok hfirst), Action.recover_ok hfirst]
    refine ⟨hle, .ok a' t', .ok values states, ?_⟩
    exact hr.imp_left fun hsecond => (Action.recover_ok hsecond.symm).symm
  | @stop e e' t t' causes states =>
    rw [Action.after_error hfirst] at hle hr
    cases causes with
    | @error e e' causes =>
      obtain ⟨hle', r', hends', hr'⟩ := hf e e' causes t t' states
      have hafter : (Action.recover x f).after s = (f e).after t := by
        rw [Action.after, Action.recover_error hfirst, Action.after]
      rw [hafter, Action.recover_error hfirst]
      refine ⟨Nat.le_trans hle hle', r', hends', ?_⟩
      rcases hr with hsecond | hlate
      · rw [Action.recover_error hsecond.symm]
        exact hr'
      · exact .inr (P.past_mono hle' hlate)
    -- A stop that is no error passes the handler untouched.
    | limit noError =>
      have hpass : ∀ {z : Action α} {h : LispError → Action α} {u u' : State},
          z u = .error e u' → Action.recover z h u = .error e u' := by
        intro z h u u' hz
        rw [Action.recover, hz]
        cases e with
        | error e => exact absurd rfl (noError e)
        | exhausted | overflow | memory | unfinished => rfl
      rw [Action.after_error (hpass hfirst), hpass hfirst]
      refine ⟨hle, .error e t', .stop (.limit noError) states, ?_⟩
      exact hr.imp_left fun hsecond => (hpass hsecond.symm).symm

/-- Actions that first look at the state. -/
theorem sim_get {f g : State → Action α}
    (h : ∀ s s', P.beside s s' → P.Sim good (f s) (g s')) : P.Sim good (get >>= f) (get >>= g) :=
  fun s s' hs => h s s' hs s s' hs

theorem sim_ofResult {x y : Except Stop α} (h : Concur good x y) :
    P.Sim good (Action.ofResult x) (Action.ofResult y) := by
  cases h with
  | ok values => exact sim_pure values
  | error e => exact sim_throw (.refl _ e)

/-! ## Functions and numbers -/

theorem sim_newFunction (id description : Option String) {line line' : Nat}
    (hline : P.line line line') {code code' : Code} (hcode : code.Like P.toLikeness code') :
    P.Sim (Term.Like P.toLikeness) (Action.newFunction id description line code)
      (Action.newFunction id description line' code') := by
  intro s s' hs
  obtain ⟨n, hserial, hbeside, hn⟩ := P.newFunction hs
  refine ⟨Nat.le_succ _, .ok (.function ⟨n, id, description, line'⟩ code')
    { s' with functions := n + 1 }, ?_, ?_⟩
  · exact .ok (.function ⟨hserial, rfl, rfl, hline⟩ hcode) hbeside
  · refine hn.imp_left ?_
    rintro rfl
    rfl

theorem sim_newStep {code code' : Code} (hcode : code.Like P.toLikeness code') :
    P.Sim (Term.Like P.toLikeness) (Action.newStep code) (Action.newStep code') :=
  sim_newFunction none none P.line_zero hcode

theorem sim_nextBranch : P.Sim Eq Action.nextBranch Action.nextBranch :=
  sim_of_ends (fun _ => Nat.le_refl _) fun _ _ hs =>
    .ok (P.nextBranch hs).1.symm (P.nextBranch hs).2

theorem sim_nextLambda : P.Sim Eq Action.nextLambda Action.nextLambda :=
  sim_of_ends (fun _ => Nat.le_refl _) fun _ _ hs =>
    .ok (P.nextLambda hs).1.symm (P.nextLambda hs).2

/-! ## Macros and scopes -/

theorem sim_findMacro {key : String} (hkey : P.name key) :
    P.Sim (Option.Rel (Macro.Like P.toLikeness)) (Action.findMacro key)
      (Action.findMacro key) :=
  sim_of_ends (fun _ => Nat.le_refl _) fun _ _ hs => .ok (P.findMacro hs hkey) hs

section Adding

variable (adds : P.form .defineMacro) {scope scope' : ScopeId}
include adds

theorem sim_addMacro {key : String} (hkey : P.name key) {e e' : Expander}
    (he : e.Like P.toLikeness e') :
    P.Sim (fun _ _ => True) (Action.addMacro ⟨key, e⟩) (Action.addMacro ⟨key, e'⟩) :=
  sim_of_ends (fun _ => Nat.le_refl _) fun _ _ hs => .ok trivial (P.addMacro adds hs hkey he)

theorem sim_newScope (hscope : P.near scope scope') :
    P.Sim P.near (Action.newScope scope) (Action.newScope scope') :=
  sim_of_ends (fun _ => Nat.le_refl _) fun _ _ hs =>
    .ok (P.newScope adds hs hscope).1 (P.newScope adds hs hscope).2

theorem sim_define (hscope : P.near scope scope') {key : String} (hkey : P.name key)
    {value value' : Term} (hvalue : value.Like P.toLikeness value') :
    P.Sim (fun _ _ => True) (Action.define scope key value) (Action.define scope' key value') :=
  sim_of_ends (fun _ => Nat.le_refl _) fun _ _ hs =>
    .ok trivial (P.define adds hs hscope hkey hvalue)

end Adding

/-- What a name is bound to in one run is like what it is in the other. -/
def LikeEntry (P : Pairing) (entry entry' : String × Term) : Prop :=
  entry'.1 = entry.1 ∧ P.name entry.1 ∧ entry.2.Like P.toLikeness entry'.2

/-- Names are bound in a row if each of them can be bound. -/
theorem sim_bindAll {scope scope' : ScopeId}
    (hdefine : ∀ key value value', P.name key → Term.Like P.toLikeness value value' →
      P.Sim (fun _ _ => True) (Action.define scope key value) (Action.define scope' key value'))
    {entries entries' : List (String × Term)} (h : List.Forall₂ P.LikeEntry entries entries') :
    P.Sim (fun _ _ => True) (Expansion.bindAll scope entries)
      (Expansion.bindAll scope' entries') := by
  induction h with
  | nil => exact sim_pure trivial
  | @cons entry entry' _ _ first _ ih =>
    obtain ⟨key, value⟩ := entry
    obtain ⟨key', value'⟩ := entry'
    obtain ⟨rfl, hkey, hvalue⟩ := first
    exact sim_bind (hdefine _ _ _ hkey hvalue) fun _ _ _ => ih

end Pairing

end MiniLisp
