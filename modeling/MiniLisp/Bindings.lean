/-! # Bindings

    Finite maps from names to values that remember the order in which the
    names were first bound. Binding a name again replaces its value and keeps
    its place; nothing is ever removed.

    * **`Bindings.get?`** — the value of a name;
    * **`Bindings.set`** — binds a name;
    * **`Bindings.names`** — the bound names, in order of first binding.
-/

namespace MiniLisp

/-- Binds a name in a list of entries, at its place or else at the end. -/
def setEntry {α : Type} (name : String) (value : α) : List (String × α) → List (String × α)
  | [] => [(name, value)]
  | (other, old) :: rest =>
      if other = name then (name, value) :: rest else (other, old) :: setEntry name value rest

theorem map_fst_setEntry {α : Type} (name : String) (value : α) (entries : List (String × α)) :
    (setEntry name value entries).map Prod.fst =
      if name ∈ entries.map Prod.fst then entries.map Prod.fst
      else entries.map Prod.fst ++ [name] := by
  induction entries with
  | nil => simp [setEntry]
  | cons entry rest ih =>
    obtain ⟨other, old⟩ := entry
    by_cases h : other = name
    · simp [setEntry, h]
    · have h' : ¬ name = other := fun e => h e.symm
      simp only [setEntry, if_neg h, List.map_cons, ih, List.mem_cons, h', false_or]
      split <;> simp

/-- A map from names to values with each name once. -/
structure Bindings (α : Type) where
  entries : List (String × α)
  nodup : (entries.map Prod.fst).Nodup

namespace Bindings

variable {α : Type}

/-- No name is bound. -/
def empty : Bindings α where
  entries := []
  nodup := List.nodup_nil

instance : EmptyCollection (Bindings α) := ⟨empty⟩

instance : Inhabited (Bindings α) := ⟨empty⟩

/-- The bound names, in the order in which they were first bound. -/
def names (b : Bindings α) : List String :=
  b.entries.map Prod.fst

/-- The value of a name. -/
def get? (b : Bindings α) (name : String) : Option α :=
  b.entries.lookup name

/-- Whether a name is bound. -/
def contains (b : Bindings α) (name : String) : Bool :=
  (b.get? name).isSome

/-- Binds a name to a value. -/
def set (b : Bindings α) (name : String) (value : α) : Bindings α where
  entries := setEntry name value b.entries
  nodup := by
    rw [map_fst_setEntry]
    split
    · exact b.nodup
    · next h =>
      refine List.nodup_append.2 ⟨b.nodup, by simp, ?_⟩
      intro x hx y hy e
      rw [List.mem_singleton] at hy
      exact h (hy ▸ e ▸ hx)

/-- Binds the names of a list one after the other, so that a later value of a
    name replaces an earlier one. -/
def setAll (b : Bindings α) (entries : List (String × α)) : Bindings α :=
  entries.foldl (fun b entry => b.set entry.1 entry.2) b

/-! ## What binding a name does -/

@[simp] theorem get?_empty (name : String) : (∅ : Bindings α).get? name = none := rfl

@[simp] theorem names_empty : (∅ : Bindings α).names = [] := rfl

theorem names_set (b : Bindings α) (name : String) (value : α) :
    (b.set name value).names = if name ∈ b.names then b.names else b.names ++ [name] :=
  map_fst_setEntry name value b.entries

theorem lookup_cons_ne {name other : String} (value : α) (entries : List (String × α))
    (h : ¬ other = name) :
    List.lookup other ((name, value) :: entries) = entries.lookup other := by
  rw [List.lookup_cons, beq_eq_false_iff_ne.2 h]

theorem lookup_setEntry (name other : String) (value : α) (entries : List (String × α)) :
    (setEntry name value entries).lookup other =
      if other = name then some value else entries.lookup other := by
  induction entries with
  | nil =>
    by_cases h : other = name
    · simp [setEntry, h]
    · simp [setEntry, lookup_cons_ne value [] h, h]
  | cons entry rest ih =>
    obtain ⟨n, old⟩ := entry
    by_cases hn : n = name
    · subst hn
      by_cases h : other = n
      · simp [setEntry, h]
      · simp [setEntry, lookup_cons_ne _ _ h, h]
    · simp only [setEntry, if_neg hn]
      by_cases h : other = n
      · subst h
        simp [hn]
      · simp [lookup_cons_ne _ _ h, ih]

theorem get?_set (b : Bindings α) (name other : String) (value : α) :
    (b.set name value).get? other = if other = name then some value else b.get? other :=
  lookup_setEntry name other value b.entries

@[simp] theorem get?_set_self (b : Bindings α) (name : String) (value : α) :
    (b.set name value).get? name = some value := by
  simp [get?_set]

@[simp] theorem get?_set_ne (b : Bindings α) {name other : String} (value : α)
    (h : other ≠ name) : (b.set name value).get? other = b.get? other := by
  simp [get?_set, h]

theorem lookup_isSome_iff (name : String) (entries : List (String × α)) :
    (entries.lookup name).isSome ↔ name ∈ entries.map Prod.fst := by
  induction entries with
  | nil => simp
  | cons entry rest ih =>
    obtain ⟨n, old⟩ := entry
    by_cases h : name = n
    · simp [h]
    · simp [lookup_cons_ne old rest h, ih, h]

theorem contains_iff (b : Bindings α) (name : String) :
    b.contains name = true ↔ name ∈ b.names :=
  lookup_isSome_iff name b.entries

end Bindings

end MiniLisp
