import MiniLisp.Proofs.ChildScope
import MiniLisp.Session

/-! # What a program starts with

    A program starts in a root scope that binds each builtin to its name, with
    a macro table that holds each special form under its name. No name stands
    for both a builtin and a special form.

    * **`lookup_builtin`** — what the names of builtins mean;
    * **`get?_special`** — what the names of special forms mean;
    * **`get?_special_builtin`** — the name of a builtin is no macro's. -/

namespace MiniLisp

/-! ## Names -/

theorem Builtin.nodup_names : (all.map name).Nodup := by
  decide

theorem SpecialForm.nodup_names : (all.map name).Nodup := by
  decide

theorem SpecialForm.name_ne_builtin (form : SpecialForm) (b : Builtin) : form.name ≠ b.name := by
  cases form <;> cases b <;> decide

/-- Binding distinct names gives each of them its value. -/
theorem Bindings.get?_setAll_of_mem {α : Type} {entries : List (String × α)}
    (h : (entries.map Prod.fst).Nodup) {name : String} {value : α}
    (hmem : (name, value) ∈ entries) :
    ((∅ : Bindings α).setAll entries).get? name = some value := by
  rw [get?_setAll, get?_empty, Option.or_none, lookup_reverse h]
  induction entries with
  | nil => cases hmem
  | cons entry rest ih =>
    obtain ⟨n, other⟩ := entry
    rw [List.map_cons, List.nodup_cons] at h
    rcases List.mem_cons.1 hmem with heq | hrest
    · cases heq
      exact List.lookup_cons_self
    · have hne : ¬ name = n := by
        rintro rfl
        exact h.1 (List.mem_map.2 ⟨_, hrest, rfl⟩)
      rw [lookup_cons_ne other rest hne, ih h.2 hrest]

/-! ## The macro table -/

namespace MacroTable

theorem special_eq :
    special = (∅ : MacroTable).setAll
      (SpecialForm.all.map fun form => (form.name, ⟨form.name, .special form⟩)) := by
  rw [Bindings.setAll, List.foldl_map]
  rfl

theorem get?_special (form : SpecialForm) :
    special.get? form.name = some ⟨form.name, .special form⟩ := by
  rw [special_eq]
  refine Bindings.get?_setAll_of_mem ?_ (List.mem_map_of_mem (SpecialForm.mem_all form))
  rw [List.map_map]
  exact SpecialForm.nodup_names

/-- The macros of the table of the special forms are the special forms. -/
theorem eq_of_get?_special {key : String} {m : Macro}
    (h : special.get? key = some m) : ∃ form : SpecialForm, key = form.name ∧
      m = ⟨form.name, .special form⟩ := by
  rw [special_eq, Bindings.get?_setAll, Bindings.get?_empty, Option.or_none] at h
  obtain ⟨before, after, heq, -⟩ := List.lookup_eq_some_iff.1 h
  have hmem : (key, m) ∈ SpecialForm.all.map fun form =>
      (form.name, (⟨form.name, .special form⟩ : Macro)) := by
    rw [← List.mem_reverse, heq]
    simp
  obtain ⟨form, -, hform⟩ := List.mem_map.1 hmem
  cases hform
  exact ⟨form, rfl, rfl⟩

theorem get?_special_builtin (b : Builtin) : special.get? b.name = none := by
  rw [special_eq, Bindings.get?_setAll, Bindings.get?_empty, Option.or_none,
    ← Option.not_isSome_iff_eq_none, Bindings.lookup_isSome_iff, List.map_reverse,
    List.mem_reverse, List.map_map, List.mem_map]
  rintro ⟨form, _, hname⟩
  exact form.name_ne_builtin b hname

end MacroTable

/-! ## The root scope -/

theorem Scopes.withBuiltins_eq (s : Scopes) :
    s.withBuiltins = s.defineAll rootScope (Builtin.all.map fun b => (b.name, b.function)) := by
  rw [defineAll, List.foldl_map]
  rfl

theorem State.lookup_builtin (console : Console) (branches lambdas : Nat) (b : Builtin) :
    (State.root console branches lambdas).scopes.lookup rootScope b.name = some b.function := by
  have hbound : ((State.root console branches lambdas).scopes.bindingsOf rootScope).get? b.name =
      some b.function := by
    have hroot : (State.root console branches lambdas).scopes =
        Scopes.empty.addRoot.withBuiltins := rfl
    have hsize : rootScope < Scopes.empty.addRoot.size := by
      rw [Scopes.size_addRoot]
      exact Nat.succ_pos _
    have hempty : Scopes.empty.addRoot.bindingsOf rootScope = ∅ := rfl
    rw [hroot, Scopes.withBuiltins_eq, Scopes.bindingsOf_defineAll_self _ _ hsize, hempty]
    refine Bindings.get?_setAll_of_mem ?_ (List.mem_map_of_mem (Builtin.mem_all b))
    rw [List.map_map]
    exact Builtin.nodup_names
  rw [Scopes.lookup, Scopes.chain, List.findSome?_cons, hbound]

end MiniLisp
