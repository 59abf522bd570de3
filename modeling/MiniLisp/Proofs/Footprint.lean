import MiniLisp.Proofs.Congruence.Passes

/-! # Footprints of runs

    A footprint says which states a run may lead to: it is a relation between
    the state before and the state after that is reflexive and transitive, and
    each of the few actions that change the state is in it. It may depend on
    the scope that the run is evaluated in.

    * **`Footprint`** — the relation with its laws;
    * **`Footprint.Bounds`** — an action stays within the footprint;
    * **`Footprint.bounds_passes`** — the passes stay within every footprint,
      because to do so is a congruence. -/

namespace MiniLisp

/-- Which states a run may lead to. The first argument of `allows` is the
    scope that the run is evaluated in, or `none` for a run that may do only
    what is allowed in every scope. -/
structure Footprint where
  allows : Option ScopeId → State → State → Prop
  refl : ∀ own s, allows own s s
  trans : ∀ own s s' s'', allows own s s' → allows own s' s'' → allows own s s''
  widen : ∀ scope s s', allows none s s' → allows (some scope) s s'
  /-- A run in a scope made for it is a run in no scope that existed. -/
  fresh : ∀ scope s s',
    allows (some s.scopes.size) { s with scopes := s.scopes.addChild scope } s' → allows none s s'
  define : ∀ scope name value s,
    allows (some scope) s { s with scopes := s.scopes.define scope name value }
  assign : ∀ scope name value s,
    allows (some scope) s { s with scopes := s.scopes.assign scope name value }
  addMacro : ∀ m s, allows none s { s with macros := s.macros.add m }
  newFunction : ∀ s, allows none s { s with functions := s.functions + 1 }
  nextBranch : ∀ s, allows none s { s with branches := s.branches + 1 }
  nextLambda : ∀ s, allows none s { s with lambdas := s.lambdas + 1 }
  writeLine : ∀ text s, allows none s { s with console := s.console.writeLine text }
  readLine : ∀ prompt s, allows none s { s with console := (s.console.readLine prompt).2 }

namespace Footprint

/-- From every state, the action leads only where the footprint allows. -/
def Bounds (F : Footprint) (own : Option ScopeId) {α : Type} (x : Action α) : Prop :=
  ∀ s, F.allows own s (x.after s)

variable {F : Footprint} {own : Option ScopeId} {α β : Type}

theorem Bounds.widen {scope : ScopeId} {x : Action α} (h : F.Bounds none x) :
    F.Bounds (some scope) x :=
  fun s => F.widen scope s _ (h s)

theorem bounds_sequel {x : Action α} {k : Except Stop α → Action β} (hx : F.Bounds own x)
    (hk : ∀ r, F.Bounds own (k r)) : F.Bounds own (x.sequel k) :=
  fun s => F.trans own s (x.after s) _ (hx s) (hk (x.ending s) (x.after s))

/-- What is done in a new scope leaves no trace in the scopes that existed. -/
theorem bounds_newScope {scope : ScopeId} {f : ScopeId → Action α}
    (hf : ∀ inner, F.Bounds (some inner) (f inner)) :
    F.Bounds none (Action.newScope scope >>= f) :=
  fun s => F.fresh scope s _ (hf s.scopes.size { s with scopes := s.scopes.addChild scope })

theorem bounds_readLine (prompt : String) : F.Bounds none (Action.readLine prompt) := by
  intro s
  rw [Action.after_readLine]
  exact F.readLine prompt s

variable [Host.Platform]

theorem bounds_host (p : Passes) (program : HostProgram) (scope : ScopeId) :
    F.Bounds none (Evaluation.host p program scope) := by
  intro s
  rw [Action.after_host]
  exact F.refl none s

/-! ## Whole runs -/

/-- To stay within a footprint is a property of one run alone. -/
def congruence (F : Footprint) : Congruence where
  rel own _ x _ _ := F.Bounds own x
  apart _ := False
  widen _ _ _ _ _ h := h.widen
  value own _ _ s := F.refl own s
  stop own _ _ _ s := F.refl own s
  state own s := F.refl own s
  sequel own _ _ _ _ _ _ _ _ hx hk hthrow :=
    bounds_sequel hx (ActionRelation.each (fun own _ x _ _ => F.Bounds own x) own
      (fun _ s => F.refl own s) hk hthrow)
  newScope _ _ _ _ _ hf := bounds_newScope hf
  define scope name value := F.define scope name value
  assign scope name value := F.assign scope name value
  addMacro := F.addMacro
  newFunction _ _ _ _ := F.newFunction
  nextBranch := F.nextBranch
  nextLambda := F.nextLambda
  writeLine := F.writeLine
  readLine _ prompt := bounds_readLine prompt
  host program _ p scope := bounds_host p program scope

/-- The three passes stay within the footprint. Expanding binds in no scope
    that exists, evaluating and calling only in the scope they are given. -/
structure BoundsPasses (F : Footprint) (p : Passes) : Prop where
  expand : ∀ t scope, F.Bounds none (p.expand t scope)
  evaluate : ∀ t scope, F.Bounds (some scope) (p.evaluate t scope)
  call : ∀ code arguments scope, F.Bounds (some scope) (p.call code arguments scope)

/-- Every run stays within every footprint, however it ends. -/
theorem bounds_passes (F : Footprint) (turns depth : Nat) :
    F.BoundsPasses (passes turns depth) := by
  have hpasses := Congruence.relPasses_passes (C := F.congruence) (fun _ => id) turns depth
  exact ⟨hpasses.expand, hpasses.evaluate, hpasses.call⟩

end Footprint

end MiniLisp
