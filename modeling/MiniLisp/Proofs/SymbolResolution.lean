import MiniLisp.Proofs.ExpansionEnds
import MiniLisp.Proofs.HostProgress
import MiniLisp.Proofs.Likeness.HostExpressions
import MiniLisp.Proofs.ScopedBindings
import Mathlib.Data.Finset.Card

/-! # Following symbols

    A host expression sees no symbols. Before a term becomes a host value, each
    symbol in it is replaced by what it is bound to, in which symbols are
    replaced in turn. A symbol may be met that has no binding; and a symbol may
    lead back to itself, so that there is no end to it.

    Where no symbol leads back to itself there is an end to it: the names that
    can still be met become fewer with each binding that is looked into, and a
    scope sees only so many names.

    * **`Term.Meets`** — the names that are met from a term;
    * **`Term.Acyclic`** — no name is met again from its own binding;
    * **`Term.Resolves`** — what is left when no symbol is;
    * **`settles_valueOf`** — an acyclic term becomes a host value, or a name
      that is met has no binding. -/

namespace MiniLisp

/-! ## What symbols lead to -/

namespace Term

/-- The name is met when the symbols of a term are followed to their bindings,
    and the symbols in these in turn. -/
inductive Meets (lookup : String → Option Term) : Term → String → Prop where
  | here {t : Term} {name : String} (hname : name ∈ t.symbols) : Meets lookup t name
  | onward {t bound : Term} {name other : String} (hname : name ∈ t.symbols)
      (hbound : lookup name = some bound) (h : Meets lookup bound other) : Meets lookup t other

/-- No name that is met from the term is met again from its own binding. -/
def Acyclic (lookup : String → Option Term) (t : Term) : Prop :=
  ∀ name bound, t.Meets lookup name → lookup name = some bound → ¬ bound.Meets lookup name

/-- The second term is the first one with every symbol replaced by what it
    resolves to. -/
inductive Resolves (lookup : String → Option Term) : Term → Term → Prop where
  | bool (value : Bool) : Resolves lookup (.bool value) (.bool value)
  | nil : Resolves lookup .nil .nil
  | str (text : String) : Resolves lookup (.str text) (.str text)
  | num (value : Float) : Resolves lookup (.num value) (.num value)
  | function (tag : FunctionTag) (code : Code) :
      Resolves lookup (.function tag code) (.function tag code)
  | sym {name : String} {bound t : Term} (line : Nat) (hbound : lookup name = some bound)
      (h : Resolves lookup bound t) : Resolves lookup (.sym name line) t
  | list {items items' : List Term} (each : List.Forall₂ (Resolves lookup) items items') :
      Resolves lookup (.list items) (.list items')

variable {lookup : String → Option Term} {t : Term} {items : List Term} {name : String}

theorem mem_symbols_list :
    name ∈ (Term.list items).symbols ↔ ∃ item ∈ items, name ∈ item.symbols := by
  constructor
  · intro h
    rw [symbols] at h
    induction items with
    | nil => cases h
    | cons head rest ih =>
      rw [symbolsAll] at h
      rcases List.mem_append.1 h with hhead | hrest
      · exact ⟨head, List.mem_cons_self, hhead⟩
      · obtain ⟨item, hitem, hname⟩ := ih hrest
        exact ⟨item, List.mem_cons_of_mem head hitem, hname⟩
  · rintro ⟨item, hitem, hname⟩
    exact symbols_subset_symbolsAll hitem hname

theorem Meets.ofItem {item : Term} (hitem : item ∈ items) (h : item.Meets lookup name) :
    (Term.list items).Meets lookup name := by
  cases h with
  | here hname => exact .here (mem_symbols_list.2 ⟨item, hitem, hname⟩)
  | onward hname hbound h => exact .onward (mem_symbols_list.2 ⟨item, hitem, hname⟩) hbound h

theorem Acyclic.item {item : Term} (h : (Term.list items).Acyclic lookup) (hitem : item ∈ items) :
    item.Acyclic lookup := by
  intro name bound hmeets
  exact h name bound (.ofItem hitem hmeets)

theorem Acyclic.bound {bound : Term} (h : t.Acyclic lookup) (hname : name ∈ t.symbols)
    (hbound : lookup name = some bound) : bound.Acyclic lookup := by
  intro other inner hmeets
  exact h other inner (.onward hname hbound hmeets)

/-- A term without symbols meets no names. -/
theorem not_meets_of_symbols (h : t.symbols = []) : ¬ t.Meets lookup name := by
  intro hmeets
  cases hmeets with
  | here hname =>
    rw [h] at hname
    cases hname
  | onward hname _ _ =>
    rw [h] at hname
    cases hname

mutual

/-- A term without symbols is left as it is. -/
theorem resolves_self : (t : Term) → t.symbols = [] → t.Resolves lookup t
  | .bool value, _ => .bool value
  | .nil, _ => .nil
  | .str text, _ => .str text
  | .num value, _ => .num value
  | .function tag code, _ => .function tag code
  | .sym _ _, h => nomatch h
  | .list items, h => by
    rw [symbols] at h
    exact .list (resolves_self_all items h)

theorem resolves_self_all : (items : List Term) → symbolsAll items = [] →
    List.Forall₂ (Resolves lookup) items items
  | [], _ => .nil
  | t :: rest, h => by
    rw [symbolsAll, List.append_eq_nil_iff] at h
    exact .cons (resolves_self t h.1) (resolves_self_all rest h.2)

end

/-- A term resolves to one term only. -/
theorem Resolves.unique {u u' : Term} (h : t.Resolves lookup u) (h' : t.Resolves lookup u') :
    u = u' := by
  -- The induction is on the first derivation and those of the items in it.
  suffices hunique : ∀ other, t.Resolves lookup other → u = other from hunique u' h'
  refine @Resolves.rec lookup (fun t u _ => ∀ other, t.Resolves lookup other → u = other)
    (fun items us _ => ∀ others, List.Forall₂ (Resolves lookup) items others → us = others)
    ?bool ?nil ?str ?num ?function ?sym ?list ?none ?cons t u h
  case sym =>
    intro name bound t line hbound _ ih other hother
    cases hother with
    | sym _ hbound' hother =>
      rw [hbound] at hbound'
      cases hbound'
      exact ih other hother
  case list =>
    intro items us _ ih other hother
    cases hother with
    | list each => rw [ih _ each]
  case none =>
    intro others hothers
    cases hothers
    rfl
  case cons =>
    intro item u items us _ _ ihfirst ihrest others hothers
    cases hothers with
    | cons hfirst hrest => rw [ihfirst _ hfirst, ihrest _ hrest]
  all_goals
    intros
    rename_i hother
    cases hother
    rfl

end Term

/-! ## The names that a scope sees -/

namespace Scopes

variable (s : Scopes) (scope : ScopeId)

theorem lookup_eq_map_find (name : String) :
    s.lookup scope name = (s.find scope name).map Prod.snd := by
  rw [lookup_eq_bind_owner, find]
  cases s.owner scope name with
  | none => rfl
  | some owner =>
    show (s.bindingsOf owner).get? name =
      (((s.bindingsOf owner).get? name).map fun t => (owner, t)).map Prod.snd
    cases (s.bindingsOf owner).get? name <;> rfl

/-- The names that are bound in the scopes of a chain. -/
def visibleNames : List String :=
  (s.chain scope).flatMap fun id => (s.bindingsOf id).names

theorem mem_visibleNames {name : String} {bound : Term} (h : s.lookup scope name = some bound) :
    name ∈ s.visibleNames scope := by
  rw [lookup_eq_bind_owner] at h
  obtain ⟨owner, howner, -⟩ := Option.bind_eq_some_iff.1 h
  have hchain : owner ∈ s.chain scope := mem_chain_of_owner howner
  exact List.mem_flatMap.2 ⟨owner, hchain, mem_names_of_owner howner⟩

end Scopes

/-! ## From terms to host values -/

namespace Host

open Term

variable {find : String → Option (ScopeId × Term)} {lookup : String → Option Term}

/-- A name that is met from the term has no binding. -/
def MissesName (lookup : String → Option Term) (t : Term) (e : NoValue) : Prop :=
  ∃ name, e = .unbound name ∧ t.Meets lookup name ∧ lookup name = none

/-- Looking for the value of a term settles if it does for everything that the
    symbols of the term are bound to. -/
theorem settles_valueOf_of_bound (hlookup : ∀ name, lookup name = (find name).map Prod.snd) :
    (t : Term) → (origin : Origin) →
      (∀ name ∈ t.symbols, ∀ bound, lookup name = some bound → ∀ place,
        Settles .exhausted (MissesName lookup bound) fun room => valueOf find room place bound) →
      Settles .exhausted (MissesName lookup t) fun room => valueOf find room origin t
  | .sym name line, origin, hbound => by
    have hname : name ∈ (Term.sym name line).symbols := List.mem_cons_self
    have hfound := hlookup name
    apply settles_succ (by rw [valueOf])
    simp only [valueOf]
    cases hfind : find name with
    | none =>
      rw [hfind] at hfound
      apply settles_const
      intro e he
      cases he
      have hkind : NoValue.unbound name ≠ .exhausted := by
        intro h
        cases h
      exact ⟨hkind, name, rfl, .here hname, hfound⟩
    | some found =>
      obtain ⟨scope, bound⟩ := found
      rw [hfind] at hfound
      apply (hbound name hname bound hfound ⟨scope, name, []⟩).refine
      rintro room e - ⟨other, rfl, hmeets, hother⟩
      exact ⟨other, rfl, .onward hname hfound hmeets, hother⟩
  | .list items, origin, hbound => by
    apply settles_succ (by rw [valueOf])
    simp only [valueOf]
    refine settles_bind (settles_mapM ?_) fun values _ => settles_ok (Value.list values)
    rintro ⟨item, i⟩ hmem
    have hitem : item ∈ items := List.fst_mem_of_mem_zipIdx hmem
    have hsettles := settles_valueOf_of_bound hlookup item { origin with path := i :: origin.path }
      fun name hname => hbound name (mem_symbols_list.2 ⟨item, hitem, hname⟩)
    apply hsettles.refine
    rintro room e - ⟨name, rfl, hmeets, hnone⟩
    exact ⟨name, rfl, .ofItem hitem hmeets, hnone⟩
  | .bool _, _, _ | .str _, _, _ | .num _, _, _ | .nil, _, _ | .function _ _, _, _ => by
    apply settles_succ (by rw [valueOf])
    simp only [valueOf]
    exact settles_ok _
termination_by t => t.depth
decreasing_by exact depth_lt_of_mem hitem

open Classical in
/-- Fewer names are met from the binding of a symbol than from the symbol: the
    symbol itself is not. -/
theorem card_meets_lt (names : Finset String) {t bound : Term} {name : String}
    (hacyclic : t.Acyclic lookup) (hname : name ∈ t.symbols) (hbound : lookup name = some bound)
    (hmem : name ∈ names) :
    (names.filter fun other => bound.Meets lookup other).card <
      (names.filter fun other => t.Meets lookup other).card := by
  apply Finset.card_lt_card
  rw [Finset.ssubset_iff_of_subset]
  · refine ⟨name, Finset.mem_filter.2 ⟨hmem, .here hname⟩, ?_⟩
    intro h
    exact hacyclic name bound (.here hname) hbound (Finset.mem_filter.1 h).2
  · intro other h
    obtain ⟨hother, hmeets⟩ := Finset.mem_filter.1 h
    exact Finset.mem_filter.2 ⟨hother, .onward hname hbound hmeets⟩

open Classical in
/-- Of an acyclic term the value is found in enough room, unless a name that is
    met has no binding; and it fails for no other reason. -/
theorem settles_valueOf (hlookup : ∀ name, lookup name = (find name).map Prod.snd)
    (names : Finset String) (hnames : ∀ name bound, lookup name = some bound → name ∈ names)
    {t : Term} (hacyclic : t.Acyclic lookup) (origin : Origin) :
    Settles .exhausted (MissesName lookup t) fun room => valueOf find room origin t := by
  -- The names that can be met become fewer with each binding.
  induction hn : (names.filter fun other => t.Meets lookup other).card using Nat.strongRecOn
    generalizing t origin with
  | ind n ih =>
    apply settles_valueOf_of_bound hlookup
    intro name hname bound hbound origin
    have hlt := card_meets_lt names hacyclic hname hbound (hnames name bound hbound)
    rw [hn] at hlt
    exact ih _ hlt (hacyclic.bound hname hbound) origin rfl

/-- A try that succeeds has succeeded at its first part. -/
theorem exists_of_bind_ok {ε α β : Type} {x : Except ε α} {f : α → Except ε β} {b : β}
    (h : x >>= f = .ok b) : ∃ a, x = .ok a ∧ f a = .ok b := by
  cases x with
  | error e => cases h
  | ok a => exact ⟨a, rfl, h⟩

/-- The results of a list of tries that all succeed. -/
theorem forall₂_of_mapM {ε α β : Type} {f : β → Except ε α} {bs : List β} {as : List α}
    (h : bs.mapM f = .ok as) : List.Forall₂ (fun b a => f b = .ok a) bs as := by
  induction bs generalizing as with
  | nil =>
    cases h
    exact .nil
  | cons b rest ih =>
    rw [List.mapM_cons] at h
    obtain ⟨a, hfirst, h⟩ := exists_of_bind_ok h
    obtain ⟨others, hothers, h⟩ := exists_of_bind_ok h
    cases h
    exact .cons hfirst (ih hothers)

/-- The value of a list is the list of the values of its items. -/
theorem exists_item_values {room : Nat} {origin : Origin} {items : List Term} {v : Value}
    (h : valueOf find (room + 1) origin (.list items) = .ok v) :
    ∃ values, v = .list values ∧
      List.Forall₂ (fun item value => ∃ place, valueOf find room place item = .ok value)
        items values := by
  rw [valueOf] at h
  obtain ⟨values, hvalues, h⟩ := exists_of_bind_ok h
  cases h
  have hplaces : List.Forall₂
      (fun item value => ∃ place, valueOf find room place item = .ok value)
      (items.zipIdx.map Prod.fst) values := by
    apply List.forall₂_map_left_iff.2
    exact (forall₂_of_mapM hvalues).imp fun _ _ hvalue => ⟨_, hvalue⟩
  rw [List.zipIdx_map_fst] at hplaces
  exact ⟨values, rfl, hplaces⟩

/-- Where a list has a value, each of its items has one. -/
theorem exists_value_of_item {room : Nat} {origin : Origin} {items : List Term} {v : Value}
    (h : valueOf find (room + 1) origin (.list items) = .ok v) {item : Term}
    (hitem : item ∈ items) : ∃ place value, valueOf find room place item = .ok value := by
  obtain ⟨values, -, hvalues⟩ := exists_item_values h
  clear h
  induction hvalues with
  | nil => cases hitem
  | cons hfirst _ ih =>
    rcases List.mem_cons.1 hitem with rfl | hitem
    · obtain ⟨place, hvalue⟩ := hfirst
      exact ⟨place, _, hvalue⟩
    · exact ih hitem

end Host

end MiniLisp
