import MiniLisp.Proofs.Pairing.Passes

/-! # Where twins start

    The state in which a program starts binds nothing but the builtins, and its
    macros are the special forms. So it is a twin of itself, whatever the names
    are that a likeness leaves out.

    * **`alike_root`** — what the root scope binds;
    * **`alike_special`** — the special forms;
    * **`Twin.root`** — the state in which a program starts. -/

namespace MiniLisp

variable {L : Likeness}

/-! ## The root scope and its macros -/

theorem alike_builtin (hserial : ∀ n < Builtin.all.length, L.serial n n) (b : Builtin) :
    b.function.Like L b.function := by
  have hplace : Builtin.all.idxOf b < Builtin.all.length :=
    List.idxOf_lt_length_of_mem (Builtin.mem_all b)
  exact .function ⟨hserial _ hplace, rfl, rfl, L.line_zero⟩ (.builtin b)

/-- Everything that the root scope binds is like itself. -/
theorem alike_root (hserial : ∀ n < Builtin.all.length, L.serial n n) (console : Console)
    (branches lambdas : Nat) (id : ScopeId) (key : String) :
    Option.Rel (Term.Like L)
      (((State.root console branches lambdas).scopes.bindingsOf id).get? key)
      (((State.root console branches lambdas).scopes.bindingsOf id).get? key) := by
  have hdefined : ∀ (bs : List Builtin) (s : Scopes),
      (∀ key t, (s.bindingsOf id).get? key = some t → t.Like L t) →
      ∀ key t, ((bs.foldl (fun s b => s.define rootScope b.name b.function) s).bindingsOf id).get?
        key = some t → t.Like L t := by
    intro bs
    induction bs with
    | nil => exact fun s hs => hs
    | cons b rest ih =>
      refine fun s hs => ih _ fun key t ht => ?_
      rcases Scopes.get?_define ht with ⟨-, rfl⟩ | hold
      · exact alike_builtin hserial b
      · exact hs key t hold
  have hempty : ∀ key t,
      ((State.bare console branches lambdas).scopes.bindingsOf id).get? key = some t →
        t.Like L t := by
    intro key t ht
    cases id with
    | zero => cases ht
    | succ n => cases ht
  cases hfound : ((State.root console branches lambdas).scopes.bindingsOf id).get? key with
  | none => exact .none
  | some t => exact .some (hdefined Builtin.all _ hempty key t hfound)

theorem alike_special (hforms : ∀ form : SpecialForm, L.name form.name → L.form form)
    {key : String} (hkey : L.name key) :
    Option.Rel (Macro.Like L) (MacroTable.special.get? key) (MacroTable.special.get? key) := by
  cases hfound : MacroTable.special.get? key with
  | none => exact .none
  | some m =>
    obtain ⟨form, rfl, rfl⟩ := MacroTable.eq_of_get?_special hfound
    exact .some (.special (hforms form hkey))

theorem Twin.root {N : Numbering L} (hserial : ∀ n < Builtin.all.length, L.serial n n)
    (hforms : ∀ form : SpecialForm, L.name form.name → L.form form)
    (hcount : N.count Builtin.all.length Builtin.all.length) (console : Console)
    (branches lambdas : Nat) :
    Twin N (State.root console branches lambdas) (State.root console branches lambdas) where
  size := rfl
  enclosing _ := rfl
  bound id key _ := alike_root hserial console branches lambdas id key
  macros _ hkey := alike_special hforms hkey
  console := rfl
  branches := rfl
  lambdas := rfl
  functions := hcount

end MiniLisp
