import MiniLisp.Bindings
import MiniLisp.Term

/-! # Scopes

    Variables live in scopes. Every scope but a root lies inside another one,
    and the scopes around it never change. A name means its nearest binding,
    from a scope outward; so a new binding hides the ones further out.

    Scopes are only ever added, and a scope lies inside scopes that were made
    before it.

    * **`Scopes.chain`** — a scope and the scopes around it, nearest first;
    * **`Scopes.owner`** — the nearest scope that binds a name;
    * **`Scopes.define`** and **`Scopes.assign`** — the two ways to bind.
-/

namespace MiniLisp

/-- One scope: the scopes around it, nearest first, and what it binds. -/
structure Frame where
  enclosing : List ScopeId
  bindings : Bindings Term

/-- All scopes; a scope's number is its place. -/
structure Scopes where
  frames : Array Frame
  enclosing_lt : ∀ (id : ScopeId) (frame : Frame), frames[id]? = some frame →
    ∀ outer ∈ frame.enclosing, outer < id

namespace Scopes

/-- No scope at all. -/
def empty : Scopes where
  frames := #[]
  enclosing_lt := by simp

instance : EmptyCollection Scopes := ⟨empty⟩

instance : Inhabited Scopes := ⟨empty⟩

/-- The number of scopes, which is the number that the next scope gets. -/
def size (s : Scopes) : Nat :=
  s.frames.size

/-- What a scope itself binds. -/
def bindingsOf (s : Scopes) (id : ScopeId) : Bindings Term :=
  match s.frames[id]? with
  | some frame => frame.bindings
  | none => ∅

/-- The scopes around a scope, nearest first. -/
def enclosing (s : Scopes) (id : ScopeId) : List ScopeId :=
  match s.frames[id]? with
  | some frame => frame.enclosing
  | none => []

/-- The scope around a scope. -/
def outer? (s : Scopes) (id : ScopeId) : Option ScopeId :=
  (s.enclosing id).head?

/-- A scope and the scopes around it, nearest first. -/
def chain (s : Scopes) (id : ScopeId) : List ScopeId :=
  id :: s.enclosing id

/-- The nearest scope that binds a name. -/
def owner (s : Scopes) (id : ScopeId) (name : String) : Option ScopeId :=
  (s.chain id).find? fun i => (s.bindingsOf i).contains name

/-- The value of a name, seen from a scope. -/
def lookup (s : Scopes) (id : ScopeId) (name : String) : Option Term :=
  (s.chain id).findSome? fun i => (s.bindingsOf i).get? name

/-! ## New scopes -/

theorem enclosing_lt_size (s : Scopes) (id : ScopeId) :
    ∀ outer ∈ s.enclosing id, outer < s.size := by
  intro outer h
  unfold enclosing at h
  split at h
  · next frame hf =>
    have lt := s.enclosing_lt id frame hf outer h
    obtain ⟨hs, _⟩ := Array.getElem?_eq_some_iff.1 hf
    exact Nat.lt_trans lt hs
  · simp at h

/-- Adds a scope inside the given ones. -/
def add (s : Scopes) (around : List ScopeId) (h : ∀ outer ∈ around, outer < s.size) : Scopes where
  frames := s.frames.push ⟨around, ∅⟩
  enclosing_lt := by
    intro id frame hf outer ho
    rw [Array.getElem?_push] at hf
    split at hf
    · next e =>
      cases hf
      exact e ▸ h outer ho
    · exact s.enclosing_lt id frame hf outer ho

/-- Adds a scope that lies inside no other one. Its number is the size before. -/
def addRoot (s : Scopes) : Scopes :=
  s.add [] (by simp)

/-- Adds a scope inside a scope. Its number is the size before. -/
def addChild (s : Scopes) (id : ScopeId) : Scopes :=
  if h : id < s.size then
    s.add (s.chain id) (by
      intro outer ho
      rcases List.mem_cons.1 ho with e | m
      · exact e ▸ h
      · exact s.enclosing_lt_size id outer m)
  else s.addRoot

/-! ## Binding names -/

/-- Binds a name in a scope itself. -/
def define (s : Scopes) (id : ScopeId) (name : String) (value : Term) : Scopes where
  frames := s.frames.modify id fun frame =>
    { frame with bindings := frame.bindings.set name value }
  enclosing_lt := by
    intro i frame hf outer ho
    rw [Array.getElem?_modify] at hf
    split at hf
    · obtain ⟨old, h, rfl⟩ := Option.map_eq_some_iff.1 hf
      exact s.enclosing_lt i old h outer ho
    · exact s.enclosing_lt i frame hf outer ho

/-- Binds a name in the nearest scope that has it, or else in the scope
    itself. -/
def assign (s : Scopes) (id : ScopeId) (name : String) (value : Term) : Scopes :=
  s.define ((s.owner id name).getD id) name value

/-! ## What binding a name changes -/

@[simp] theorem size_define (s : Scopes) (id : ScopeId) (name : String) (value : Term) :
    (s.define id name value).size = s.size := by
  simp [size, define]

@[simp] theorem enclosing_define (s : Scopes) (id i : ScopeId) (name : String) (value : Term) :
    (s.define id name value).enclosing i = s.enclosing i := by
  simp only [enclosing, define, Array.getElem?_modify]
  by_cases h : id = i
  · subst h
    cases s.frames[id]? <;> simp
  · simp [h]

@[simp] theorem chain_define (s : Scopes) (id i : ScopeId) (name : String) (value : Term) :
    (s.define id name value).chain i = s.chain i := by
  simp [chain]

theorem bindingsOf_define_self (s : Scopes) {id : ScopeId} (name : String) (value : Term)
    (h : id < s.size) :
    (s.define id name value).bindingsOf id = (s.bindingsOf id).set name value := by
  have hf : s.frames[id]? = some (s.frames[id]) := Array.getElem?_eq_getElem h
  simp [bindingsOf, define, Array.getElem?_modify, hf]

theorem bindingsOf_define_ne (s : Scopes) {id i : ScopeId} (name : String) (value : Term)
    (h : id ≠ i) : (s.define id name value).bindingsOf i = s.bindingsOf i := by
  simp [bindingsOf, define, Array.getElem?_modify, h]

@[simp] theorem size_add (s : Scopes) (around : List ScopeId)
    (h : ∀ outer ∈ around, outer < s.size) : (s.add around h).size = s.size + 1 := by
  simp [size, add]

@[simp] theorem size_addRoot (s : Scopes) : s.addRoot.size = s.size + 1 := by
  simp [addRoot]

@[simp] theorem size_addChild (s : Scopes) (id : ScopeId) :
    (s.addChild id).size = s.size + 1 := by
  unfold addChild
  split <;> simp

end Scopes

end MiniLisp
