import MiniLisp.Expansion
import Mathlib.Data.List.Basic

/-! # The scope of a call

    Calls of closures and of templates begin alike: a scope is made inside
    another one, and names are bound in it one after the other. What a name
    means in that scope is its last binding there, or else what it means in the
    scope around it.

    * **`State.withChild`** — the state in which the body of a call starts;
    * **`newScope_bindAll`** — how it comes about;
    * **`lookup_withChild`** — what names mean in the new scope. -/

namespace MiniLisp

/-! ## Binding several names -/

namespace Bindings

variable {α : Type}

/-- The last binding of a name counts. -/
theorem get?_setAll (b : Bindings α) (entries : List (String × α)) (name : String) :
    (b.setAll entries).get? name = (entries.reverse.lookup name).or (b.get? name) := by
  induction entries generalizing b with
  | nil => rfl
  | cons entry rest ih =>
    obtain ⟨n, value⟩ := entry
    have hstep : b.setAll ((n, value) :: rest) = (b.set n value).setAll rest := rfl
    rw [hstep, ih, get?_set, List.reverse_cons, List.lookup_append, Option.or_assoc]
    congr 1
    by_cases h : name = n
    · simp [h]
    · simp [h, lookup_cons_ne value [] h]

/-- Among distinct names there is only one binding of each. -/
theorem lookup_reverse {entries : List (String × α)} (h : (entries.map Prod.fst).Nodup)
    (name : String) : entries.reverse.lookup name = entries.lookup name := by
  induction entries with
  | nil => rfl
  | cons entry rest ih =>
    obtain ⟨n, value⟩ := entry
    rw [List.map_cons, List.nodup_cons] at h
    rw [List.reverse_cons, List.lookup_append, ih h.2]
    by_cases hn : name = n
    · have hnone : rest.lookup n = none := by
        rw [← Option.not_isSome_iff_eq_none, lookup_isSome_iff]
        exact h.1
      simp [hn, hnone]
    · rw [lookup_cons_ne value rest hn, lookup_cons_ne value [] hn, List.lookup_nil, Option.or_none]

end Bindings

namespace Scopes

/-- Binds names in a scope, one after the other. -/
def defineAll (s : Scopes) (scope : ScopeId) (entries : List (String × Term)) : Scopes :=
  entries.foldl (fun s entry => s.define scope entry.1 entry.2) s

theorem defineAll_cons (s : Scopes) (scope : ScopeId) (entry : String × Term)
    (rest : List (String × Term)) :
    s.defineAll scope (entry :: rest) = (s.define scope entry.1 entry.2).defineAll scope rest := rfl

@[simp] theorem size_defineAll (s : Scopes) (scope : ScopeId) (entries : List (String × Term)) :
    (s.defineAll scope entries).size = s.size := by
  induction entries generalizing s with
  | nil => rfl
  | cons entry rest ih => rw [defineAll_cons, ih, size_define]

@[simp] theorem chain_defineAll (s : Scopes) (scope id : ScopeId)
    (entries : List (String × Term)) : (s.defineAll scope entries).chain id = s.chain id := by
  induction entries generalizing s with
  | nil => rfl
  | cons entry rest ih => rw [defineAll_cons, ih, chain_define]

theorem bindingsOf_defineAll_self (s : Scopes) {scope : ScopeId}
    (entries : List (String × Term)) (h : scope < s.size) :
    (s.defineAll scope entries).bindingsOf scope = (s.bindingsOf scope).setAll entries := by
  induction entries generalizing s with
  | nil => rfl
  | cons entry rest ih =>
    have hsize : scope < (s.define scope entry.1 entry.2).size := by
      rw [size_define]
      exact h
    rw [defineAll_cons, ih _ hsize, bindingsOf_define_self s entry.1 entry.2 h]
    rfl

theorem bindingsOf_defineAll_ne (s : Scopes) {scope id : ScopeId}
    (entries : List (String × Term)) (h : scope ≠ id) :
    (s.defineAll scope entries).bindingsOf id = s.bindingsOf id := by
  induction entries generalizing s with
  | nil => rfl
  | cons entry rest ih => rw [defineAll_cons, ih, bindingsOf_define_ne s _ _ h]

/-- What a scope binds after a name was bound: to the scope itself, the new
    value; to any other, what it bound. -/
theorem get?_define_eq (s : Scopes) (id i : ScopeId) (key n : String) (value : Term) :
    ((s.define id key value).bindingsOf i).get? n =
      if id = i ∧ id < s.size ∧ n = key then some value else (s.bindingsOf i).get? n := by
  by_cases hid : id = i
  · subst hid
    by_cases hlt : id < s.size
    · rw [bindingsOf_define_self s key value hlt, Bindings.get?_set]
      simp [hlt]
    · have hnone : s.frames[id]? = none := Array.getElem?_eq_none_iff.2 (Nat.le_of_not_lt hlt)
      simp [bindingsOf, define, Array.getElem?_modify, hnone, hlt]
  · rw [bindingsOf_define_ne s key value hid, if_neg fun h => hid h.1]

/-! ## A new scope -/

theorem enclosing_add (s : Scopes) (around : List ScopeId) (h : ∀ outer ∈ around, outer < s.size)
    (id : ScopeId) :
    (s.add around h).enclosing id = if id = s.size then around else s.enclosing id := by
  simp only [enclosing, add, size, Array.getElem?_push]
  by_cases hid : id = s.frames.size
  · simp [hid]
  · simp [hid]

/-- A new scope binds nothing, and the others bind what they bound. -/
theorem bindingsOf_add (s : Scopes) (around : List ScopeId) (h : ∀ outer ∈ around, outer < s.size)
    (id : ScopeId) : (s.add around h).bindingsOf id = s.bindingsOf id := by
  simp only [bindingsOf, add, Array.getElem?_push]
  by_cases hid : id = s.frames.size
  · simp [hid]
  · simp [hid]

theorem enclosing_addChild_eq (s : Scopes) (scope id : ScopeId) :
    (s.addChild scope).enclosing id =
      if id = s.size then if scope < s.size then s.chain scope else []
      else s.enclosing id := by
  unfold addChild
  split
  · exact enclosing_add s _ _ id
  · exact enclosing_add s [] _ id

theorem bindingsOf_addChild_eq (s : Scopes) (scope id : ScopeId) :
    (s.addChild scope).bindingsOf id = s.bindingsOf id := by
  unfold addChild
  split
  · exact bindingsOf_add s _ _ id
  · exact bindingsOf_add s [] _ id

/-- The scopes around a scope that exists stay what they are. -/
theorem enclosing_addChild (s : Scopes) (scope : ScopeId) {id : ScopeId} (h : id < s.size) :
    (s.addChild scope).enclosing id = s.enclosing id := by
  rw [enclosing_addChild_eq, if_neg (Nat.ne_of_lt h)]

theorem bindingsOf_size (s : Scopes) : s.bindingsOf s.size = ∅ := by
  have hnone : s.frames[s.size]? = none := Array.getElem?_eq_none_iff.2 (Nat.le_refl _)
  rw [bindingsOf, hnone]

variable {s : Scopes} {scope : ScopeId}

theorem chain_addChild_self (h : scope < s.size) :
    (s.addChild scope).chain s.size = s.size :: s.chain scope := by
  rw [chain, enclosing_addChild_eq, if_pos rfl, if_pos h]

/-- The scopes of a chain exist. -/
theorem lt_size_of_mem_chain (h : scope < s.size) {id : ScopeId} (hid : id ∈ s.chain scope) :
    id < s.size := by
  rcases List.mem_cons.1 hid with rfl | henclosing
  · exact h
  · exact s.enclosing_lt_size scope id henclosing

theorem mem_chain_of_owner {own : ScopeId} {name : String} (h : s.owner scope name = some own) :
    own ∈ s.chain scope :=
  List.mem_of_find?_eq_some h

/-- A scope in which a name means something exists. -/
theorem lt_size_of_lookup {name : String} {value : Term}
    (h : s.lookup scope name = some value) : scope < s.size := by
  by_cases hlt : scope < s.size
  · exact hlt
  · have hframe : s.frames[scope]? = none := by
      rw [Array.getElem?_eq_none_iff]
      exact Nat.le_of_not_lt hlt
    simp [lookup, chain, enclosing, bindingsOf, hframe] at h

end Scopes

/-! ## The state in which a call starts -/

/-- The state after a scope was made inside a scope and names were bound in
    the new one. -/
def State.withChild (s : State) (scope : ScopeId) (entries : List (String × Term)) : State :=
  { s with scopes := (s.scopes.addChild scope).defineAll s.scopes.size entries }

theorem bindAll_eq (scope : ScopeId) (entries : List (String × Term)) (s : State) :
    Expansion.bindAll scope entries s =
      .ok () { s with scopes := s.scopes.defineAll scope entries } := by
  induction entries generalizing s with
  | nil => rfl
  | cons entry rest ih =>
    have hdefine : Action.define scope entry.1 entry.2 s =
        .ok () { s with scopes := s.scopes.define scope entry.1 entry.2 } := rfl
    rw [Expansion.bindAll, Action.bind_ok hdefine, ih]
    rfl

/-- A call starts by making its scope and binding names in it. -/
theorem newScope_bindAll {α : Type} (scope : ScopeId) (entries : List (String × Term))
    (body : ScopeId → Action α) (s : State) :
    (do
      let inner ← Action.newScope scope
      Expansion.bindAll inner entries
      body inner : Action α) s =
      body s.scopes.size (s.withChild scope entries) := by
  have hnew : Action.newScope scope s =
      .ok s.scopes.size { s with scopes := s.scopes.addChild scope } := rfl
  rw [Action.bind_ok hnew, Action.bind_ok (bindAll_eq _ entries _)]
  rfl

/-- A name means its last binding in the new scope, or else what it means in
    the scope around it. -/
theorem lookup_withChild (s : State) {scope : ScopeId} (entries : List (String × Term))
    (h : scope < s.scopes.size) (name : String) :
    (s.withChild scope entries).scopes.lookup s.scopes.size name =
      (entries.reverse.lookup name).or (s.scopes.lookup scope name) := by
  have hown : ((s.withChild scope entries).scopes.bindingsOf s.scopes.size).get? name =
      entries.reverse.lookup name := by
    have hsize : s.scopes.size < (s.scopes.addChild scope).size := by
      rw [Scopes.size_addChild]
      omega
    rw [State.withChild, Scopes.bindingsOf_defineAll_self _ entries hsize,
      Scopes.bindingsOf_addChild_eq, Scopes.bindingsOf_size, Bindings.get?_setAll,
      Bindings.get?_empty, Option.or_none]
  -- The scopes around are older than the new one, so they bind what they bound.
  have hother : ∀ id ∈ s.scopes.chain scope,
      ((s.withChild scope entries).scopes.bindingsOf id).get? name =
        (s.scopes.bindingsOf id).get? name := by
    intro id hid
    have hlt := Scopes.lt_size_of_mem_chain h hid
    rw [State.withChild, Scopes.bindingsOf_defineAll_ne _ entries (Nat.ne_of_gt hlt),
      Scopes.bindingsOf_addChild_eq]
  have hchain : (s.withChild scope entries).scopes.chain s.scopes.size =
      s.scopes.size :: s.scopes.chain scope := by
    rw [State.withChild, Scopes.chain_defineAll, Scopes.chain_addChild_self h]
  rw [Scopes.lookup, hchain, List.findSome?_cons, hown, Scopes.lookup]
  cases entries.reverse.lookup name with
  | some value => rfl
  | none =>
    simp only [Option.none_or]
    rw [← List.head?_filterMap, ← List.head?_filterMap, List.filterMap_congr hother]

end MiniLisp
