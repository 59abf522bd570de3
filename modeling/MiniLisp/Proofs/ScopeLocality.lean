import MiniLisp.Proofs.ChildScope
import MiniLisp.Proofs.Footprint

/-! # Names stay in their scope

    A run changes the scopes that existed before it in one way only: the scope
    that it is evaluated in may bind more names. Other scopes may get other
    values for the names that they bind, but no name is added to them, none is
    taken away from any scope, and no scope is moved to another place.
    Expanding a term does not even add names to its own scope, since the body
    of a template is evaluated in a scope made for the call.

    * **`Scopes.GrowAt`** — how scopes may change;
    * **`Footprint.growth`** — every action changes them in this way;
    * **`names_grow_only_at_own_scope`** — so does every run. -/

namespace MiniLisp

namespace Scopes

/-- The scopes `s` have become `s'`: those that existed lie where they lay,
    and none but `own` has got new names. -/
structure GrowAt (own : Option ScopeId) (s s' : Scopes) : Prop where
  size_le : s.size ≤ s'.size
  /-- The scopes around a scope stay, the nearest of them first. -/
  enclosing_eq : ∀ id < s.size, s'.enclosing id = s.enclosing id
  /-- No name is taken away. -/
  names_subset : ∀ id < s.size, (s.bindingsOf id).names ⊆ (s'.bindingsOf id).names
  /-- No name is added to any scope but `own`. -/
  names_eq : ∀ id < s.size, own ≠ some id →
    (s'.bindingsOf id).names = (s.bindingsOf id).names

/-! ## Bound names -/

theorem names_subset_set {α : Type} (b : Bindings α) (name : String) (value : α) :
    b.names ⊆ (b.set name value).names := by
  intro n hn
  rw [Bindings.names_set]
  split
  · exact hn
  · exact List.mem_append_left _ hn

/-- Defining a name leaves the names of a scope alone if the scope has the
    name already or if it is another scope. -/
theorem names_define_eq (s : Scopes) {scope id : ScopeId} (name : String) (value : Term)
    (hid : id < s.size) (h : scope = id → name ∈ (s.bindingsOf id).names) :
    ((s.define scope name value).bindingsOf id).names = (s.bindingsOf id).names := by
  by_cases hscope : scope = id
  · subst hscope
    rw [bindingsOf_define_self s name value hid, Bindings.names_set, if_pos (h rfl)]
  · rw [bindingsOf_define_ne s name value hscope]

theorem names_subset_define (s : Scopes) (scope : ScopeId) {id : ScopeId} (name : String)
    (value : Term) (hid : id < s.size) :
    (s.bindingsOf id).names ⊆ ((s.define scope name value).bindingsOf id).names := by
  by_cases hscope : scope = id
  · subst hscope
    rw [bindingsOf_define_self s name value hid]
    exact names_subset_set _ name value
  · rw [bindingsOf_define_ne s name value hscope]
    exact List.Subset.refl _

/-- The owner of a name binds it. -/
theorem mem_names_of_owner {s : Scopes} {scope nearest : ScopeId} {name : String}
    (h : s.owner scope name = some nearest) : name ∈ (s.bindingsOf nearest).names := by
  unfold owner at h
  have hbound := List.find?_some h
  exact (Bindings.contains_iff _ name).1 hbound

/-! ## How scopes grow -/

namespace GrowAt

variable {own : Option ScopeId} {s s' s'' : Scopes}

theorem refl (own : Option ScopeId) (s : Scopes) : GrowAt own s s where
  size_le := Nat.le_refl _
  enclosing_eq _ _ := rfl
  names_subset _ _ := List.Subset.refl _
  names_eq _ _ _ := rfl

theorem trans (h : GrowAt own s s') (h' : GrowAt own s' s'') : GrowAt own s s'' := by
  have hsize : ∀ id < s.size, id < s'.size := fun id hid => Nat.lt_of_lt_of_le hid h.size_le
  refine ⟨Nat.le_trans h.size_le h'.size_le, ?_, ?_, ?_⟩
  · intro id hid
    rw [h'.enclosing_eq id (hsize id hid), h.enclosing_eq id hid]
  · intro id hid
    exact List.Subset.trans (h.names_subset id hid) (h'.names_subset id (hsize id hid))
  · intro id hid hown
    rw [h'.names_eq id (hsize id hid) hown, h.names_eq id hid hown]

theorem widen (own : Option ScopeId) (h : GrowAt none s s') : GrowAt own s s' :=
  ⟨h.size_le, h.enclosing_eq, h.names_subset, fun id hid _ => h.names_eq id hid (by simp)⟩

/-- A scope that is made on the way is not among those that existed. -/
theorem fresh {scope : ScopeId} (h : GrowAt (some s.size) (s.addChild scope) s') :
    GrowAt none s s' := by
  have hsize : ∀ id < s.size, id < (s.addChild scope).size := by
    intro id hid
    rw [size_addChild]
    omega
  refine ⟨?_, ?_, ?_, ?_⟩
  · have hle := h.size_le
    rw [size_addChild] at hle
    omega
  · intro id hid
    rw [h.enclosing_eq id (hsize id hid), enclosing_addChild s scope hid]
  · intro id hid
    have hsub := h.names_subset id (hsize id hid)
    rw [bindingsOf_addChild_eq] at hsub
    exact hsub
  · intro id hid _
    have hne : some s.size ≠ some id := by
      intro e
      have := Option.some.inj e
      omega
    rw [h.names_eq id (hsize id hid) hne, bindingsOf_addChild_eq]

/-- Defining a name in a scope is growth at `own` if the scope is `own` or has
    the name already. -/
theorem define (scope : ScopeId) (name : String) (value : Term)
    (h : own ≠ some scope → name ∈ (s.bindingsOf scope).names) :
    GrowAt own s (s.define scope name value) := by
  refine ⟨Nat.le_of_eq (size_define s scope name value).symm, ?_, ?_, ?_⟩
  · intro id _
    exact enclosing_define s scope id name value
  · intro id hid
    exact names_subset_define s scope name value hid
  · intro id hid hown
    refine names_define_eq s name value hid ?_
    rintro rfl
    exact h hown

theorem assign (scope : ScopeId) (name : String) (value : Term) :
    GrowAt (some scope) s (s.assign scope name value) := by
  unfold Scopes.assign
  -- A name that no scope has goes to the scope itself.
  cases howner : s.owner scope name with
  | none => exact define scope name value fun hne => absurd rfl hne
  | some nearest => exact define nearest name value fun _ => mem_names_of_owner howner

end GrowAt

end Scopes

/-- Scopes grow at most at the scope that a run is evaluated in. -/
def Footprint.growth : Footprint where
  allows own s s' := Scopes.GrowAt own s.scopes s'.scopes
  refl own s := .refl own s.scopes
  trans _ _ _ _ h h' := h.trans h'
  widen scope _ _ h := h.widen (some scope)
  fresh _ _ _ h := h.fresh
  define scope name value _ := .define scope name value fun hne => absurd rfl hne
  assign scope name value _ := .assign scope name value
  addMacro _ s := .refl none s.scopes
  newFunction s := .refl none s.scopes
  nextBranch s := .refl none s.scopes
  nextLambda s := .refl none s.scopes
  writeLine _ s := .refl none s.scopes
  readLine _ s := .refl none s.scopes

/-- Whether it ends in a value or stops, evaluating a term adds names to no
    scope that existed but the one it is evaluated in, expanding a term to none
    at all, and neither moves a scope or takes a name away. -/
theorem names_grow_only_at_own_scope [Host.Platform]
    (turns depth : Nat) (t : Term) (scope : ScopeId)
    (s : State) :
    Scopes.GrowAt (some scope) s.scopes
        (((passes turns depth).evaluate t scope).after s).scopes ∧
      Scopes.GrowAt none s.scopes (((passes turns depth).expand t scope).after s).scopes := by
  have hpasses := Footprint.bounds_passes Footprint.growth turns depth
  constructor
  · exact hpasses.evaluate t scope s
  · exact hpasses.expand t scope s

end MiniLisp
