import Mathlib
import MiniLisp.Proofs.Quotation
import MiniLisp.Proofs.SymbolResolution

/-! # Between terms and host values

    The variables of a host expression are terms that become host values, and
    its value becomes a term again. A term that goes there and back has its
    symbols resolved and is otherwise the same. Only nil does not come back: it
    becomes nothing, for which no term stands.

    * **`Term.HoldsNil`** — nil is in a term;
    * **`Host.Value.StandsFor`** — the term that a value becomes;
    * **`Host.resolves_of_valueOf`** — there and back;
    * **`Host.bound_of_meets`** — a value tells that all names had bindings;
    * **`crossing_settles`** — both ways, with the errors that stop a run;
    * **`evaluateValue_variable`** — the native form of a variable;
    * **`boundary_is_faithful`** — for all terms, and for this form. -/

namespace MiniLisp

/-! ## Nil -/

/-- Nil is in the term, at some depth of its lists. -/
inductive Term.HoldsNil : Term → Prop where
  | nil : HoldsNil .nil
  | item {items : List Term} {t : Term} (hmem : t ∈ items) (h : t.HoldsNil) :
      HoldsNil (.list items)

theorem Term.holdsNil_list {items : List Term} :
    (Term.list items).HoldsNil ↔ ∃ t ∈ items, t.HoldsNil := by
  constructor
  · intro h
    cases h with
    | item hmem h => exact ⟨_, hmem, h⟩
  · rintro ⟨t, hmem, h⟩
    exact .item hmem h

namespace Host

open Term

/-! ## From host values to terms -/

/-- In enough room the value becomes the term. If nil is in the term, something
    in the value is nothing, so that no term comes out. -/
def Value.StandsFor (v : Value) (t : Term) : Prop :=
  ∃ bound, ∀ room, bound ≤ room →
    (¬ t.HoldsNil → v.toTerm room = .ok t) ∧ (t.HoldsNil → v.toTerm room = .error .unusable)

/-- A value that becomes a term at once. -/
theorem standsFor_of_toTerm {v : Value} {t : Term} (hnil : ¬ t.HoldsNil)
    (h : ∀ room, v.toTerm (room + 1) = .ok t) : v.StandsFor t := by
  refine ⟨1, ?_⟩
  intro room hroom
  obtain ⟨room, rfl⟩ : ∃ n, room = n + 1 := ⟨room - 1, by omega⟩
  exact ⟨fun _ => h room, fun hholds => absurd hholds hnil⟩

theorem standsFor_none : Value.none.StandsFor .nil := by
  refine ⟨1, ?_⟩
  intro room hroom
  obtain ⟨room, rfl⟩ : ∃ n, room = n + 1 := ⟨room - 1, by omega⟩
  refine ⟨fun hnil => absurd .nil hnil, ?_⟩
  intro _
  rw [Value.toTerm]

/-- The values of a list become terms one after the other, up to one that is
    nothing. -/
theorem toTerms_of_standsFor {values : List Value} {ts : List Term}
    (h : List.Forall₂ Value.StandsFor values ts) :
    ∃ bound, ∀ room, bound ≤ room →
      ((∀ t ∈ ts, ¬ t.HoldsNil) → Value.toTerms room values = .ok ts) ∧
        ((∃ t ∈ ts, t.HoldsNil) → Value.toTerms room values = .error .unusable) := by
  induction h with
  | nil =>
    refine ⟨0, ?_⟩
    intro room _
    refine ⟨fun _ => by rw [Value.toTerms], ?_⟩
    rintro ⟨t, ht, -⟩
    cases ht
  | @cons v t values ts hfirst _ ih =>
    obtain ⟨bound, hbound⟩ := hfirst
    obtain ⟨bound', hbound'⟩ := ih
    -- Both have room enough in the greater of their rooms.
    refine ⟨max bound bound', ?_⟩
    intro room hroom
    obtain ⟨hok, hunusable⟩ := hbound room (by omega)
    obtain ⟨hoks, hunusables⟩ := hbound' room (by omega)
    constructor
    · intro hall
      obtain ⟨hnil, hothers⟩ := List.forall_mem_cons.1 hall
      rw [Value.toTerms, hok hnil, hoks hothers]
      rfl
    · intro hsome
      by_cases hnil : t.HoldsNil
      · rw [Value.toTerms, hunusable hnil]
        rfl
      · have hothers : ∃ u ∈ ts, u.HoldsNil := by
          obtain ⟨u, hu, hholds⟩ := hsome
          rcases List.mem_cons.1 hu with rfl | hu
          · exact absurd hholds hnil
          · exact ⟨u, hu, hholds⟩
        rw [Value.toTerms, hok hnil, hunusables hothers]
        rfl

theorem standsFor_list {values : List Value} {ts : List Term}
    (h : List.Forall₂ Value.StandsFor values ts) : (Value.list values).StandsFor (.list ts) := by
  obtain ⟨bound, hbound⟩ := toTerms_of_standsFor h
  refine ⟨bound + 1, ?_⟩
  intro room hroom
  obtain ⟨room, rfl⟩ : ∃ n, room = n + 1 := ⟨room - 1, by omega⟩
  obtain ⟨hok, hunusable⟩ := hbound room (by omega)
  constructor
  · intro hnil
    have hall : ∀ t ∈ ts, ¬ t.HoldsNil := fun t ht hholds => hnil (.item ht hholds)
    rw [Value.toTerm, hok hall]
    rfl
  · intro hnil
    rw [Value.toTerm, hunusable (holdsNil_list.1 hnil)]
    rfl

/-! ## There and back -/

variable {find : String → Option (ScopeId × Term)} {lookup : String → Option Term}

/-- The terms through which items and values are related. -/
theorem exists_between {R : Term → Term → Prop} {S : Value → Term → Prop} {items : List Term}
    {values : List Value}
    (h : List.Forall₂ (fun item value => ∃ u, R item u ∧ S value u) items values) :
    ∃ us, List.Forall₂ R items us ∧ List.Forall₂ S values us := by
  induction h with
  | nil => exact ⟨[], .nil, .nil⟩
  | cons hfirst _ ih =>
    obtain ⟨u, hleft, hright⟩ := hfirst
    obtain ⟨us, hlefts, hrights⟩ := ih
    exact ⟨u :: us, .cons hleft hlefts, .cons hright hrights⟩

/-- The value of a term stands for the term with its symbols resolved. -/
theorem resolves_of_valueOf (hlookup : ∀ name, lookup name = (find name).map Prod.snd)
    {room : Nat} {origin : Origin} {t : Term} {v : Value}
    (h : valueOf find room origin t = .ok v) :
    ∃ u, t.Resolves lookup u ∧ v.StandsFor u := by
  -- Bindings are not smaller than their symbols, but the room is less for them.
  induction room generalizing origin t v with
  | zero =>
    rw [valueOf] at h
    cases h
  | succ room ih =>
    cases t with
    | sym name line =>
      have hfound := hlookup name
      rw [valueOf] at h
      cases hfind : find name with
      | none =>
        rw [hfind] at h
        cases h
      | some found =>
        obtain ⟨scope, bound⟩ := found
        rw [hfind] at h hfound
        obtain ⟨u, hresolves, hstands⟩ := ih h
        exact ⟨u, .sym line hfound hresolves, hstands⟩
    | list items =>
      obtain ⟨values, rfl, hvalues⟩ := exists_item_values h
      have hitems : List.Forall₂
          (fun item value => ∃ u, Resolves lookup item u ∧ Value.StandsFor value u)
          items values := by
        apply hvalues.imp
        rintro item value ⟨place, hvalue⟩
        exact ih hvalue
      obtain ⟨us, hresolves, hstands⟩ := exists_between hitems
      exact ⟨.list us, .list hresolves, standsFor_list hstands⟩
    | bool value =>
      rw [valueOf] at h
      cases h
      exact ⟨_, .bool value, standsFor_of_toTerm (fun hnil => by cases hnil)
        fun _ => by rw [Value.toTerm]⟩
    | str text =>
      rw [valueOf] at h
      cases h
      exact ⟨_, .str text, standsFor_of_toTerm (fun hnil => by cases hnil)
        fun _ => by rw [Value.toTerm]⟩
    | num value =>
      rw [valueOf] at h
      cases h
      exact ⟨_, .num value, standsFor_of_toTerm (fun hnil => by cases hnil)
        fun _ => by rw [Value.toTerm]⟩
    | function tag code =>
      rw [valueOf] at h
      cases h
      exact ⟨_, .function tag code, standsFor_of_toTerm (fun hnil => by cases hnil)
        fun _ => by rw [Value.toTerm]⟩
    | nil =>
      rw [valueOf] at h
      cases h
      exact ⟨_, .nil, standsFor_none⟩

/-- Where a term has a value, its symbols are bound to terms that have values. -/
theorem exists_value_of_symbol (hlookup : ∀ name, lookup name = (find name).map Prod.snd)
    {room : Nat} {origin : Origin} {t : Term} {v : Value}
    (h : valueOf find room origin t = .ok v) {name : String} (hname : name ∈ t.symbols) :
    ∃ bound, lookup name = some bound ∧
      ∃ room place value, valueOf find room place bound = .ok value := by
  induction room generalizing origin t v with
  | zero =>
    rw [valueOf] at h
    cases h
  | succ room ih =>
    cases t with
    | sym other line =>
      have hsame : name = other := List.mem_singleton.1 hname
      subst hsame
      have hfound := hlookup name
      rw [valueOf] at h
      cases hfind : find name with
      | none =>
        rw [hfind] at h
        cases h
      | some found =>
        obtain ⟨scope, bound⟩ := found
        rw [hfind] at h hfound
        exact ⟨bound, hfound, room, ⟨scope, name, []⟩, v, h⟩
    | list items =>
      obtain ⟨item, hitem, hsymbol⟩ := mem_symbols_list.1 hname
      obtain ⟨place, value, hvalue⟩ := exists_value_of_item h hitem
      exact ih hvalue hsymbol
    | bool _ | str _ | num _ | nil | function _ _ => cases hname

/-- Where a term has a value, every name that is met from it has a binding. -/
theorem bound_of_meets (hlookup : ∀ name, lookup name = (find name).map Prod.snd) {t : Term}
    {name : String} (hmeets : t.Meets lookup name) {room : Nat} {origin : Origin} {v : Value}
    (h : valueOf find room origin t = .ok v) : lookup name ≠ none := by
  induction hmeets generalizing room origin v with
  | here hname =>
    obtain ⟨bound, hbound, -⟩ := exists_value_of_symbol hlookup h hname
    rw [hbound]
    exact Option.some_ne_none bound
  | onward hname hbound _ ih =>
    obtain ⟨inner, hinner, room, place, value, hvalue⟩ := exists_value_of_symbol hlookup h hname
    rw [hbound] at hinner
    cases hinner
    exact ih hvalue

end Host

open Evaluation

/-! ## The crossing as a run sees it -/

/-- From some room on, a term without a cycle becomes a host value, unless a name
    that is met from it has no binding; and the value becomes the resolved term,
    unless nil is in that one. -/
theorem crossing_settles (scopes : Scopes) (scope : ScopeId) {t : Term}
    (hacyclic : t.Acyclic (scopes.lookup scope)) (origin : Host.Origin) :
    ∃ bound,
      (∃ name, t.Meets (scopes.lookup scope) name ∧ scopes.lookup scope name = none ∧
        ∀ room, bound ≤ room →
          (Host.valueOf (scopes.find scope) room origin t).mapError variableStop =
            .error (.error (.host (.unbound name)))) ∨
      (∀ name, t.Meets (scopes.lookup scope) name → scopes.lookup scope name ≠ none) ∧
        ∃ v u, t.Resolves (scopes.lookup scope) u ∧ ∀ room, bound ≤ room →
          (Host.valueOf (scopes.find scope) room origin t).mapError variableStop = .ok v ∧
            (¬ u.HoldsNil → (v.toTerm room).mapError valueStop = .ok u) ∧
            (u.HoldsNil →
              (v.toTerm room).mapError valueStop = .error (.error (.host .unusable))) := by
  have hlookup := scopes.lookup_eq_map_find scope
  have hsettles := Host.settles_valueOf hlookup (scopes.visibleNames scope).toFinset
    (fun name inner h => List.mem_toFinset.2 (scopes.mem_visibleNames scope h)) hacyclic origin
  obtain ⟨bound, r, hr, hends⟩ := hsettles.ends
  cases r with
  | error e =>
    refine ⟨bound, .inl ?_⟩
    rcases hsettles.fails bound e (hends bound (Nat.le_refl _)) with rfl | hmisses
    · exact absurd rfl hr
    · obtain ⟨name, rfl, hmeets, hnone⟩ := hmisses
      refine ⟨name, hmeets, hnone, ?_⟩
      intro room hroom
      rw [hends room hroom]
      rfl
  | ok v =>
    have hvalue := hends bound (Nat.le_refl _)
    obtain ⟨u, hresolves, bound', hstands⟩ := Host.resolves_of_valueOf hlookup hvalue
    -- Both ways have room enough in the greater of their rooms.
    refine ⟨max bound bound', .inr ⟨?_, v, u, hresolves, ?_⟩⟩
    · intro name hmeets
      exact Host.bound_of_meets hlookup hmeets hvalue
    · intro room hroom
      obtain ⟨hok, hunusable⟩ := hstands room (by omega)
      rw [hends room (by omega)]
      refine ⟨rfl, ?_, ?_⟩
      · intro hnil
        rw [hok hnil]
        rfl
      · intro hnil
        rw [hunusable hnil]
        rfl

/-- A variable whose term has neither nil nor symbols in it comes back as that
    term. -/
theorem crossing_of_variable {scopes : Scopes} {scope : ScopeId} {name : String} {t : Term}
    (hlookup : scopes.lookup scope name = some t) (hnil : ¬ t.HoldsNil)
    (hsymbols : t.symbols = []) :
    ∃ bound v, ∀ room, bound ≤ room →
      (Host.valueOf (scopes.find scope) room ⟨scope, name, []⟩ (.sym name 0)).mapError
          variableStop = .ok v ∧
        (v.toTerm room).mapError valueStop = .ok t := by
  -- The only name that is met is that of the variable.
  have honly : ∀ other, (Term.sym name 0).Meets (scopes.lookup scope) other → other = name := by
    intro other hmeets
    cases hmeets with
    | here hother => exact List.mem_singleton.1 hother
    | onward hname hbound hmeets =>
      rw [List.mem_singleton.1 hname, hlookup] at hbound
      cases hbound
      exact absurd hmeets (Term.not_meets_of_symbols hsymbols)
  have hacyclic : (Term.sym name 0).Acyclic (scopes.lookup scope) := by
    intro other bound hmeets hbound
    rw [honly other hmeets, hlookup] at hbound
    cases hbound
    exact Term.not_meets_of_symbols hsymbols
  obtain ⟨bound, hcrossing⟩ := crossing_settles scopes scope hacyclic ⟨scope, name, []⟩
  rcases hcrossing with ⟨other, hmeets, hnone, -⟩ | ⟨-, v, u, hresolves, hends⟩
  · rw [honly other hmeets, hlookup] at hnone
    cases hnone
  · have hu : u = t := hresolves.unique (.sym 0 hlookup (Term.resolves_self t hsymbols))
    subst hu
    refine ⟨bound, v, ?_⟩
    intro room hroom
    obtain ⟨hthere, hback, -⟩ := hends room hroom
    exact ⟨hthere, hback hnil⟩

/-! ## The native form of a variable -/

/-- A host expression that is its only variable yields what comes back of the
    symbol. -/
theorem hostValue_variable [Host.Platform] (room : Nat) (source name : String) (scopes : Scopes)
    (scope : ScopeId) :
    hostValue (room + 1) ⟨source, [name], .name name⟩ scopes scope =
      ((Host.valueOf (scopes.find scope) (room + 1) ⟨scope, name, []⟩ (.sym name 0)).mapError
        variableStop >>= fun value => (value.toTerm (room + 1)).mapError valueStop) := by
  have hbindings : hostBindings (room + 1) scopes scope [name] =
      (Host.valueOf (scopes.find scope) (room + 1) ⟨scope, name, []⟩ (.sym name 0)).map
        fun value => [(name, value)] := by
    rw [hostBindings, List.mapM_cons, List.mapM_nil]
    change ((Host.valueOf (scopes.find scope) (room + 1) ⟨scope, name, []⟩ (.sym name 0) >>=
      fun value => .ok (name, value)) >>= _) = _
    cases Host.valueOf (scopes.find scope) (room + 1) ⟨scope, name, []⟩ (.sym name 0) <;> rfl
  rw [hostValue, hbindings]
  cases Host.valueOf (scopes.find scope) (room + 1) ⟨scope, name, []⟩ (.sym name 0) with
  | error e => rfl
  | ok value =>
    have heval : Host.Expr.eval [(name, value)] (room + 1) (.name name) = .ok value := by
      rw [Host.Expr.eval, Host.nameValue, List.lookup_cons_self]
    show ((Host.Expr.eval [(name, value)] (room + 1) (.name name)).mapError hostStop >>= _) = _
    rw [heval]
    rfl

/-- A single letter is read as a name. -/
theorem parse_x [Host.Platform] : Host.Expr.parse? "x" = some (.name "x") := by
  have hparse : Host.Expr.parse? "x" = some (.name (Host.Platform.nameForm "x")) := by cbv
  rw [hparse, Host.Platform.nameForm_plain "x" (by simp)]

/-- The host expression `x` of the variable `x`. -/
def variableProgram : HostProgram := ⟨"x", ["x"], .name "x"⟩

/-- The form that evaluates it. -/
def variableForm (line line' : Nat) : Term :=
  .list [.sym SpecialForm.host.name line, .str "x", .sym "x" line']

section Form

variable [Host.Platform] (turns : Nat) {s : State} (scope : ScopeId)

/-- The form becomes the call of a function that evaluates the variable. -/
theorem expand_variableForm
    (hnative : ∃ m, s.macros.get? SpecialForm.host.name = some m ∧ m.expander = .special .host)
    (n line line' : Nat) :
    (passes turns (n + 2)).expand (variableForm line line') scope s =
      .ok (.list [.function ⟨s.functions, none, some "x", 0⟩ (.host variableProgram)])
        { s with functions := s.functions + 1 } := by
  obtain ⟨m, hm, hexpander⟩ := hnative
  have hprogram : Expansion.hostProgramWithin (n + 1) "x" ["x"] = .ok variableProgram := by
    unfold Expansion.hostProgramWithin Expansion.checkedHost Expansion.hostBody
    rw [parse_x]
    rfl
  rw [variableForm, Template.expand_macro_call turns hm (by simp), Expansion.callMacro, hexpander]
  show (Action.ofResult (Expansion.hostProgramWithin (passes turns (n + 1)).room "x" ["x"]) >>=
    fun program => Action.newFunction none (some "x") 0 (.host program) >>=
    fun step => pure (Term.list [step])) s = _
  rw [room_passes, hprogram]
  rfl

/-- Evaluating the form makes one function and finds the value of the host
    expression. -/
theorem evaluateValue_variableForm
    (hnative : ∃ m, s.macros.get? SpecialForm.host.name = some m ∧ m.expander = .special .host)
    (n line line' : Nat) :
    evaluateValue (passes turns (n + 2)) (variableForm line line') scope s =
      Action.ofResult (hostValue n variableProgram s.scopes scope)
        { s with functions := s.functions + 1 } := by
  let s₁ : State := { s with functions := s.functions + 1 }
  let step : Term := .function ⟨s.functions, none, some "x", 0⟩ (.host variableProgram)
  have hexpand := expand_variableForm turns scope hnative n line line'
  have hcall : (Term.list [step]).standsForItself s₁.macros = false := rfl
  have hvalues : (passes turns (n + 1)).evaluateAll [step] scope s₁ = .ok [step] s₁ :=
    Action.mapM_of_forall₂ (.cons rfl .nil)
  rw [evaluateValue, Action.bind_ok hexpand, evaluate_call turns (n + 1) hcall,
    Action.bind_ok hvalues]
  show Action.ofResult (hostValue (passes turns n).room variableProgram s₁.scopes scope) s₁ = _
  rw [room_passes]

/-- In enough room, the form yields what the variable is bound to, if there is
    neither nil nor a symbol in it. -/
theorem evaluateValue_variable
    (hnative : ∃ m, s.macros.get? SpecialForm.host.name = some m ∧ m.expander = .special .host)
    {v : Term} (hv : s.scopes.lookup scope "x" = some v) (hnil : ¬ v.HoldsNil)
    (hsymbols : v.symbols = []) :
    ∃ bound, ∀ turns depth, bound ≤ depth → ∀ line line',
      evaluateValue (passes turns depth) (variableForm line line') scope s =
        .ok v { s with functions := s.functions + 1 } := by
  obtain ⟨bound, value, hvalue⟩ := crossing_of_variable hv hnil hsymbols
  -- The form is expanded and called before the room for its value is looked at.
  refine ⟨bound + 3, ?_⟩
  intro turns depth hdepth line line'
  obtain ⟨room, rfl⟩ : ∃ room, depth = room + 1 + 2 := ⟨depth - 3, by omega⟩
  obtain ⟨hthere, hback⟩ := hvalue (room + 1) (by omega)
  have hhost : hostValue (room + 1) variableProgram s.scopes scope = .ok v := by
    rw [variableProgram, hostValue_variable, hthere]
    exact hback
  rw [evaluateValue_variableForm turns scope hnative, hhost]
  rfl

end Form

/-! ## All terms -/

/-- A term becomes a host value and a term again, in as much room as that takes,
    if following its symbols never runs into a cycle. It fails on the way there
    exactly if a name that is met has no binding, and this with the error of an
    unbound symbol. Otherwise it comes back with its symbols resolved, and on the
    way back it fails exactly if nil is among what they resolve to. So the native
    form of a variable yields the value of the variable, unchanged, if there is
    neither nil nor a symbol in it, and changes nothing but that one function more
    has been made. -/
theorem boundary_is_faithful [Host.Platform] (s : State) (scope : ScopeId) :
    let lookup := s.scopes.lookup scope
    (∀ t : Term, t.Acyclic lookup → ∀ origin, ∃ bound, ∀ room, bound ≤ room →
      let unpacked := (Host.valueOf (s.scopes.find scope) room origin t).mapError variableStop
      ((∃ e, unpacked = .error (.error e) ∧ e.kind = .unboundSymbol) ↔
        ∃ name, t.Meets lookup name ∧ lookup name = none) ∧
      ((∀ name, t.Meets lookup name → lookup name ≠ none) →
        ∃ v u, unpacked = .ok v ∧ t.Resolves lookup u ∧
          let packed := (v.toTerm room).mapError valueStop
          (¬ u.HoldsNil → packed = .ok u) ∧
          (u.HoldsNil → ∃ e, packed = .error (.error e) ∧ e.kind = .host ∧
            e.message = "[native] code returned an invalid value"))) ∧
    ((∃ m, s.macros.get? "native" = some m ∧ m.expander = .special .host) →
      ∀ v, lookup "x" = some v → ¬ v.HoldsNil → v.symbols = [] →
      ∃ bound, ∀ turns depth, bound ≤ depth → ∀ line line',
        evaluateValue (passes turns depth)
            (.list [.sym "native" line, .str "x", .sym "x" line']) scope s =
          .ok v { s with functions := s.functions + 1 }) := by
  intro lookup
  constructor
  · intro t hacyclic origin
    obtain ⟨bound, hcrossing⟩ := crossing_settles s.scopes scope hacyclic origin
    refine ⟨bound, ?_⟩
    intro room hroom unpacked
    rcases hcrossing with ⟨name, hmeets, hnone, hends⟩ | ⟨hbound, v, u, hresolves, hends⟩
    · have hunpacked : unpacked = .error (.error (.host (.unbound name))) := hends room hroom
      constructor
      · constructor
        · intro _
          exact ⟨name, hmeets, hnone⟩
        · intro _
          exact ⟨_, hunpacked, rfl⟩
      · intro hbound
        exact absurd hnone (hbound name hmeets)
    · obtain ⟨hunpacked, hok, hunusable⟩ := hends room hroom
      constructor
      · constructor
        · rintro ⟨e, he, -⟩
          cases he.symm.trans hunpacked
        · rintro ⟨name, hmeets, hnone⟩
          exact absurd hnone (hbound name hmeets)
      · intro _
        refine ⟨v, u, hunpacked, hresolves, hok, ?_⟩
        intro hnil
        exact ⟨_, hunusable hnil, rfl, rfl⟩
  · intro hnative v hv hnil hsymbols
    exact evaluateValue_variable scope hnative hv hnil hsymbols

/-- The symbol `y` leads to the symbol `x`, which leads to a list. -/
theorem boundary_is_faithful_chain :
    let scopes := (Scopes.empty.addRoot.define rootScope "x" (.list [.bool true, .str "a"])).define
      rootScope "y" (.sym "x" 1)
    let s : State := { State.root (Console.ofLines []) 0 0 with scopes := scopes }
    let lookup := scopes.lookup rootScope
    let t := Term.list [.sym "y" 1, .str "b"]
    t.Acyclic lookup ∧
      (∃ room, ((Host.valueOf (scopes.find rootScope) room ⟨rootScope, "z", []⟩ t).mapError
          variableStop >>= fun value => (value.toTerm room).mapError valueStop) =
        .ok (.list [.list [.bool true, .str "a"], .str "b"])) ∧
      ∃ turns depth, evaluateValue (passes turns depth)
        (.list [.sym "native" 1, .str "x", .sym "x" 1]) rootScope s =
          .ok (.list [.bool true, .str "a"]) { s with functions := s.functions + 1 } := by
  intro scopes s lookup t
  let v := Term.list [.bool true, .str "a"]
  have hx : lookup "x" = some v := rfl
  have hy : lookup "y" = some (.sym "x" 1) := rfl
  have hsymbols : v.symbols = [] := rfl
  have hmeets_x : ∀ name, ¬ v.Meets lookup name := fun _ => Term.not_meets_of_symbols hsymbols
  have hmeets_y : ∀ name, (Term.sym "x" 1).Meets lookup name → name = "x" := by
    intro name h
    cases h with
    | here hname => exact List.mem_singleton.1 hname
    | onward hname hbound h =>
      rw [List.mem_singleton.1 hname, hx] at hbound
      cases hbound
      exact absurd h (hmeets_x name)
  have hmeets : ∀ name, t.Meets lookup name → name = "x" ∨ name = "y" := by
    intro name h
    cases h with
    | here hname => exact .inr (List.mem_singleton.1 hname)
    | onward hname hbound h =>
      rw [List.mem_singleton.1 hname, hy] at hbound
      cases hbound
      exact .inl (hmeets_y name h)
  have hacyclic : t.Acyclic lookup := by
    intro name bound hname hbound h
    rcases hmeets name hname with rfl | rfl
    · rw [hx] at hbound
      cases hbound
      exact hmeets_x "x" h
    · rw [hy] at hbound
      cases hbound
      exact absurd (hmeets_y "y" h) (by decide)
  have hnil : ¬ v.HoldsNil := by
    intro h
    obtain ⟨item, hitem, hholds⟩ := Term.holdsNil_list.1 h
    simp only [List.mem_cons, List.not_mem_nil, or_false] at hitem
    rcases hitem with rfl | rfl <;> cases hholds
  have hnative : ∃ m, s.macros.get? "native" = some m ∧ m.expander = .special .host :=
    ⟨_, MacroTable.get?_special .host, rfl⟩
  obtain ⟨hterms, hvariable⟩ := boundary_is_faithful s rootScope
  refine ⟨hacyclic, ?_, ?_⟩
  · obtain ⟨bound, hbound⟩ := hterms t hacyclic ⟨rootScope, "z", []⟩
    obtain ⟨-, hcrosses⟩ := hbound bound (Nat.le_refl _)
    have hall : ∀ name, t.Meets lookup name → lookup name ≠ none := by
      intro name hname
      rcases hmeets name hname with rfl | rfl
      · rw [hx]
        exact Option.some_ne_none v
      · rw [hy]
        exact Option.some_ne_none _
    obtain ⟨value, u, hunpacked, hresolves, hpacked, -⟩ := hcrosses hall
    have hitem : (Term.sym "y" 1).Resolves lookup v :=
      .sym 1 hy (.sym 1 hx (Term.resolves_self v hsymbols))
    have hu : u = .list [v, .str "b"] :=
      hresolves.unique (.list (.cons hitem (.cons (.str "b") .nil)))
    subst hu
    have hnils : ¬ (Term.list [v, .str "b"]).HoldsNil := by
      intro h
      obtain ⟨item, hmem, hholds⟩ := Term.holdsNil_list.1 h
      simp only [List.mem_cons, List.not_mem_nil, or_false] at hmem
      rcases hmem with rfl | rfl
      · exact hnil hholds
      · cases hholds
    refine ⟨bound, ?_⟩
    rw [hunpacked]
    exact hpacked hnils
  · obtain ⟨bound, hvalue⟩ := hvariable hnative v hx hnil hsymbols
    exact ⟨1, bound, hvalue 1 bound (Nat.le_refl _) 1 1⟩

end MiniLisp
