import MiniLisp.Proofs.Pairing.Expansion
import MiniLisp.Proofs.RootScope

/-! # States that are twins

    Two states are twins if they have the same scopes, which bind the names
    alike that programs may use, and if their macros are alike, too; they show
    and read the same on the console and have counted alike. What is bound to
    any other name may differ, and so may the serial numbers of functions.

    * **`Numbering`** — how two runs number their functions;
    * **`Twin`** — the states, with what keeps them twins;
    * **`Pairing.twins`** — twins are side by side. -/

namespace MiniLisp

variable {L : Likeness}

/-! ## Twins -/

/-- How two runs number their functions, and up to which number that holds. -/
structure Numbering (L : Likeness) where
  /-- The serial numbers that the next functions of the runs get. -/
  count : Nat → Nat → Prop
  past : Nat → Prop
  past_mono : ∀ {n m}, n ≤ m → past n → past m
  next : ∀ {n n'}, count n n' →
    ∃ k, L.serial n k ∧ count (n + 1) (k + 1) ∧ (k = n' ∨ past (n + 1))

/-- The names whose values runs may look at: besides those of programs, that of
    the flag of a loop. -/
def Likeness.Visible (L : Likeness) (key : String) : Prop :=
  L.name key ∨ key = loopFlag

/-- Two states differ only where runs do not look. -/
structure Twin (N : Numbering L) (s s' : State) : Prop where
  size : s'.scopes.size = s.scopes.size
  enclosing : ∀ id, s'.scopes.enclosing id = s.scopes.enclosing id
  bound : ∀ id key, L.Visible key → Option.Rel (Term.Like L)
    ((s.scopes.bindingsOf id).get? key) ((s'.scopes.bindingsOf id).get? key)
  macros : ∀ key, L.name key →
    Option.Rel (Macro.Like L) (s.macros.get? key) (s'.macros.get? key)
  console : s'.console = s.console
  branches : s'.branches = s.branches
  lambdas : s'.lambdas = s.lambdas
  functions : N.count s.functions s'.functions

namespace Twin

variable {N : Numbering L} {s s' : State}

/-! ### What keeps states twins -/

theorem define (h : Twin N s s') (scope : ScopeId) {key : String} {value value' : Term}
    (hvalue : L.Visible key → value.Like L value') :
    Twin N { s with scopes := s.scopes.define scope key value }
      { s' with scopes := s'.scopes.define scope key value' } where
  __ := h
  size := by simpa using h.size
  enclosing id := by simpa using h.enclosing id
  bound id n hn := by
    dsimp only
    rw [Scopes.get?_define_eq, Scopes.get?_define_eq, h.size]
    split
    · next hself => exact .some (hvalue (hself.2.2 ▸ hn))
    · exact h.bound id n hn

theorem addChild (h : Twin N s s') (scope : ScopeId) :
    Twin N { s with scopes := s.scopes.addChild scope }
      { s' with scopes := s'.scopes.addChild scope } where
  __ := h
  size := by simpa using h.size
  enclosing id := by
    dsimp only
    rw [Scopes.enclosing_addChild_eq, Scopes.enclosing_addChild_eq, h.size, h.enclosing,
      Scopes.chain, Scopes.chain, h.enclosing]
  bound id n hn := by
    dsimp only
    rw [Scopes.bindingsOf_addChild_eq, Scopes.bindingsOf_addChild_eq]
    exact h.bound id n hn

theorem addMacro (h : Twin N s s') {key : String} {e e' : Expander} (he : e.Like L e') :
    Twin N { s with macros := s.macros.add ⟨key, e⟩ }
      { s' with macros := s'.macros.add ⟨key, e'⟩ } where
  __ := h
  macros n hn := by
    dsimp only
    rw [MacroTable.add, MacroTable.add, Bindings.get?_set, Bindings.get?_set]
    split
    · exact .some he
    · exact h.macros n hn

/-! ### What runs see of twins -/

theorem chain_eq (h : Twin N s s') (scope : ScopeId) :
    s'.scopes.chain scope = s.scopes.chain scope := by
  rw [Scopes.chain, Scopes.chain, h.enclosing]

theorem contains_eq (h : Twin N s s') (id : ScopeId) {key : String} (hkey : L.Visible key) :
    (s'.scopes.bindingsOf id).contains key = (s.scopes.bindingsOf id).contains key := by
  have hbound := h.bound id key hkey
  rw [Bindings.contains, Bindings.contains]
  generalize (s.scopes.bindingsOf id).get? key = x,
    (s'.scopes.bindingsOf id).get? key = y at hbound
  cases hbound <;> rfl

theorem owner_eq (h : Twin N s s') (scope : ScopeId) {key : String} (hkey : L.Visible key) :
    s'.scopes.owner scope key = s.scopes.owner scope key := by
  rw [Scopes.owner, Scopes.owner, h.chain_eq]
  simp only [h.contains_eq _ hkey]

theorem lookup (h : Twin N s s') (scope : ScopeId) {key : String} (hkey : L.Visible key) :
    Option.Rel (Term.Like L) (s.scopes.lookup scope key) (s'.scopes.lookup scope key) := by
  rw [Scopes.lookup, Scopes.lookup, h.chain_eq]
  -- The value is the first one along the chain, which is the same in both.
  induction s.scopes.chain scope with
  | nil => exact .none
  | cons id rest ih =>
    have hbound := h.bound id key hkey
    rw [List.findSome?_cons, List.findSome?_cons]
    generalize (s.scopes.bindingsOf id).get? key = x,
      (s'.scopes.bindingsOf id).get? key = y at hbound
    cases hbound with
    | some halike => exact .some halike
    | none => exact ih

/-- Where a name is bound is the same in twins, and to what is alike. -/
theorem find (h : Twin N s s') (scope : ScopeId) {key : String} (hkey : L.Visible key) :
    Option.Rel (Host.LikeEntry L) (s.scopes.find scope key) (s'.scopes.find scope key) := by
  rw [Scopes.find, Scopes.find, h.owner_eq scope hkey]
  cases s.scopes.owner scope key with
  | none => exact .none
  | some owner =>
    have hbound := h.bound owner key hkey
    dsimp only [Option.bind_some]
    generalize (s.scopes.bindingsOf owner).get? key = x,
      (s'.scopes.bindingsOf owner).get? key = y at hbound
    cases hbound with
    | some halike => exact .some ⟨rfl, halike⟩
    | none => exact .none

theorem assign (h : Twin N s s') (scope : ScopeId) {key : String} (hkey : L.Visible key)
    {value value' : Term} (hvalue : value.Like L value') :
    Twin N { s with scopes := s.scopes.assign scope key value }
      { s' with scopes := s'.scopes.assign scope key value' } := by
  rw [Scopes.assign, Scopes.assign, h.owner_eq scope hkey]
  exact h.define _ fun _ => hvalue

end Twin

/-- Twins are side by side. -/
def Pairing.twins (N : Numbering L) : Pairing where
  toLikeness := L
  near := Eq
  beside := Twin N
  past := N.past
  past_mono := N.past_mono
  newFunction h := by
    obtain ⟨k, hserial, hcount, hk⟩ := N.next h.functions
    exact ⟨k, hserial, { h with functions := hcount }, hk⟩
  nextBranch h := ⟨h.branches, { h with branches := congrArg (· + 1) h.branches }⟩
  nextLambda h := ⟨h.lambdas, { h with lambdas := congrArg (· + 1) h.lambdas }⟩
  findMacro h hkey := h.macros _ hkey
  addMacro _ _ _ _ _ _ h _ he := h.addMacro he
  newScope := by
    rintro - s s' scope _ h rfl
    exact ⟨h.size.symm, h.addChild scope⟩
  define := by
    rintro - s s' scope _ key value value' h rfl - hvalue
    exact h.define scope fun _ => hvalue

end MiniLisp
