import MiniLisp.Proofs.ScopeLocality

/-! # Scoped bindings

    Scopes are made one by one, each at the root or inside a scope that is
    there already, and names are bound in them in between. Many chains run
    through one scope, those of the scopes inside it and inside those; a write
    to it is seen along each of these chains, unless a scope that lies before
    it on the chain binds the name, too.

    * **`Scopes.Grown`** — the scopes that can be made, with what was written;
    * **`Scopes.WritesAt`** — all that a write to one scope changes;
    * **`Scopes.writes_reach_nearest_owner`** — `define` writes to the scope
      itself, `assign` to the nearest owner of the name. -/

namespace MiniLisp

namespace Scopes

variable {s : Scopes}

/-! ## Scopes that can be made -/

/-- Scopes that were made and written to one after the other, with a record of
    the writes: which name was written to which scope. -/
inductive Grown : Scopes → List (ScopeId × String) → Prop
  | empty : Grown ∅ []
  | root {s written} : Grown s written → Grown s.addRoot written
  | child {s written} (scope : ScopeId) :
      Grown s written → scope < s.size → Grown (s.addChild scope) written
  | define {s written} (scope : ScopeId) (name : String) (value : Term) :
      Grown s written → scope < s.size →
      Grown (s.define scope name value) (written ++ [(scope, name)])
  | assign {s written} (scope : ScopeId) (name : String) (value : Term) :
      Grown s written → scope < s.size →
      Grown (s.assign scope name value)
        (written ++ [((s.owner scope name).getD scope, name)])

/-- The names that were written to a scope, each where it was first. -/
def firstWritten (written : List (ScopeId × String)) (id : ScopeId) : List String :=
  ((written.filter fun write => write.1 = id).map Prod.snd).eraseDups

/-- The only difference between two states of the scopes is that the scope `own`
    binds a name to a value now. -/
structure WritesAt (s s' : Scopes) (own : ScopeId) (name : String) (value : Term) : Prop where
  size : s'.size = s.size
  /-- Every scope stays where it is. -/
  chain : ∀ id, s'.chain id = s.chain id
  here : s'.bindingsOf own = (s.bindingsOf own).set name value
  elsewhere : ∀ id, id ≠ own → s'.bindingsOf id = s.bindingsOf id
  /-- From any scope, another value is found only for the name itself, and only
      where `own` is now its nearest owner. -/
  lookup : ∀ id key, s'.lookup id key =
    if key = name ∧ s'.owner id name = some own then some value else s.lookup id key

/-! ## Chains -/

theorem chain_add (s : Scopes) (around : List ScopeId) (h : ∀ outer ∈ around, outer < s.size)
    {id : ScopeId} (hid : id < s.size) : (s.add around h).chain id = s.chain id := by
  rw [chain, chain, enclosing_add, if_neg (Nat.ne_of_lt hid)]

/-- The chain of a scope goes on with the chain of the scope around it. -/
def Linked (s : Scopes) : Prop :=
  ∀ id, s.chain id = id :: ((s.outer? id).map s.chain).getD []

/-- A scope that is added at the root, or with the chain of another one around
    it, leaves the scopes linked. -/
theorem Linked.add (hs : s.Linked) {around : List ScopeId}
    (h : ∀ outer ∈ around, outer < s.size) (haround : around = [] ∨ ∃ id, around = s.chain id) :
    (s.add around h).Linked := by
  intro id
  rw [chain, outer?, enclosing_add]
  by_cases hid : id = s.size
  · rw [if_pos hid]
    obtain rfl | ⟨outer, rfl⟩ := haround
    · simp
    · have hlt : outer < s.size := h outer (by simp [chain])
      show id :: s.chain outer = id :: (s.add (s.chain outer) h).chain outer
      rw [chain_add s _ h hlt]
  · rw [if_neg hid]
    have hold := hs id
    rw [chain, outer?] at hold
    rw [hold]
    -- The scope around an old one is older still.
    cases houter : (s.enclosing id).head? with
    | none => rfl
    | some outer =>
      have hlt := s.enclosing_lt_size id outer (List.mem_of_head? houter)
      simp [chain_add s around h hlt]

theorem Linked.define (hs : s.Linked) (scope : ScopeId) (name : String) (value : Term) :
    (s.define scope name value).Linked := by
  have hchain : (s.define scope name value).chain = s.chain := by
    funext id
    exact chain_define s scope id name value
  intro id
  rw [hchain, outer?, enclosing_define]
  exact hs id

theorem Grown.linked {written : List (ScopeId × String)} (h : s.Grown written) : s.Linked := by
  induction h with
  | empty =>
    intro id
    rfl
  | root _ ih => exact ih.add _ (.inl rfl)
  | @child s _ scope _ hscope ih =>
    rw [addChild, dif_pos hscope]
    exact ih.add _ (.inr ⟨scope, rfl⟩)
  | define scope name value _ _ ih => exact ih.define scope name value
  | assign scope name value _ _ ih => exact ih.define _ name value

/-! ## Names -/

theorem firstWritten_append (written : List (ScopeId × String)) (own id : ScopeId)
    (name : String) :
    firstWritten (written ++ [(own, name)]) id =
      if own = id ∧ name ∉ firstWritten written id then firstWritten written id ++ [name]
      else firstWritten written id := by
  by_cases hid : own = id
  · rw [firstWritten, List.filter_append, List.map_append,
      List.filter_cons_of_pos (by simp [hid]), firstWritten]
    generalize ((written.filter fun write => write.1 = id).map Prod.snd) = names
    rw [List.filter_nil, List.map_cons, List.map_nil, List.eraseDups_append]
    by_cases hname : name ∈ names
    · simp [hid, hname, List.removeAll]
    · simp [hid, hname, List.removeAll, List.eraseDups_cons]
  · simp [firstWritten, hid]

theorem names_define (s : Scopes) {own : ScopeId} (hown : own < s.size) (id : ScopeId)
    (name : String) (value : Term) :
    ((s.define own name value).bindingsOf id).names =
      if own = id ∧ name ∉ (s.bindingsOf id).names then (s.bindingsOf id).names ++ [name]
      else (s.bindingsOf id).names := by
  by_cases hid : own = id
  · subst hid
    rw [bindingsOf_define_self s name value hown, Bindings.names_set]
    by_cases hname : name ∈ (s.bindingsOf own).names
    · simp [hname]
    · simp [hname]
  · rw [bindingsOf_define_ne s name value hid, if_neg fun h => hid h.1]

/-- The owner of a name exists. -/
theorem lt_size_of_owner {scope own : ScopeId} {name : String} (hscope : scope < s.size)
    (h : s.owner scope name = some own) : own < s.size :=
  lt_size_of_mem_chain hscope (mem_chain_of_owner h)

theorem getD_owner_lt_size {scope : ScopeId} (hscope : scope < s.size) (name : String) :
    (s.owner scope name).getD scope < s.size := by
  cases howner : s.owner scope name with
  | none => exact hscope
  | some own => exact lt_size_of_owner hscope howner

/-- A scope has the names that were written to it, in the order in which they
    were first written. -/
theorem Grown.names_eq {written : List (ScopeId × String)} (h : s.Grown written) (id : ScopeId) :
    (s.bindingsOf id).names = firstWritten written id := by
  induction h with
  | empty => rfl
  | root _ ih => rw [addRoot, bindingsOf_add, ih]
  | child scope _ _ ih => rw [bindingsOf_addChild_eq, ih]
  | define scope name value _ hscope ih =>
    rw [names_define _ hscope, firstWritten_append, ih]
  | assign scope name value _ hscope ih =>
    rw [Scopes.assign, names_define _ (getD_owner_lt_size hscope name), firstWritten_append, ih]

/-! ## Nearest owners -/

/-- A name means what its nearest owner binds it to. -/
theorem lookup_eq_bind_owner (s : Scopes) (id : ScopeId) (key : String) :
    s.lookup id key = (s.owner id key).bind fun own => (s.bindingsOf own).get? key := by
  rw [lookup, owner]
  induction s.chain id with
  | nil => rfl
  | cons i rest ih =>
    rw [List.findSome?_cons, List.find?_cons, Bindings.contains]
    cases hget : (s.bindingsOf i).get? key with
    | some value => simp [hget]
    | none => simpa using ih

/-! ## Writes -/

/-- What a name means along a list of scopes after a write to one of them. -/
theorem findSome?_define (s : Scopes) {own : ScopeId} (hown : own < s.size) (name : String)
    (value : Term) (ids : List ScopeId) :
    (ids.findSome? fun i => ((s.define own name value).bindingsOf i).get? name) =
      if (ids.find? fun i => ((s.define own name value).bindingsOf i).contains name) = some own
      then some value
      else ids.findSome? fun i => (s.bindingsOf i).get? name := by
  induction ids with
  | nil => simp
  | cons i rest ih =>
    rw [List.findSome?_cons, List.find?_cons, List.findSome?_cons, Bindings.contains]
    by_cases hi : own = i
    · subst hi
      simp [get?_define_eq, hown]
    · have hget : ((s.define own name value).bindingsOf i).get? name =
          (s.bindingsOf i).get? name := by
        rw [get?_define_eq, if_neg fun h => hi h.1]
      rw [hget]
      -- A scope before `own` that binds the name hides the write.
      cases (s.bindingsOf i).get? name with
      | some old =>
        have hne : some i ≠ some own := fun h => hi (Option.some.inj h).symm
        simp [hne]
      | none => exact ih

theorem writesAt_define (s : Scopes) {own : ScopeId} (hown : own < s.size) (name : String)
    (value : Term) : s.WritesAt (s.define own name value) own name value where
  size := size_define s own name value
  chain id := chain_define s own id name value
  here := bindingsOf_define_self s name value hown
  elsewhere id hid := bindingsOf_define_ne s name value (Ne.symm hid)
  lookup id key := by
    by_cases hkey : key = name
    · subst hkey
      rw [lookup, owner, chain_define, findSome?_define s hown key value]
      simp [lookup]
    · rw [if_neg fun h => hkey h.1, lookup, lookup, chain_define]
      simp [get?_define_eq, hkey]

/-- A write to a scope that has the name already brings no name to any scope,
    and every name keeps its owners. -/
theorem owner_define_of_mem (s : Scopes) {own : ScopeId} (hown : own < s.size) {name : String}
    (value : Term) (hname : name ∈ (s.bindingsOf own).names) :
    (∀ id, ((s.define own name value).bindingsOf id).names = (s.bindingsOf id).names) ∧
    ∀ id key, (s.define own name value).owner id key = s.owner id key := by
  have hnames : ∀ id,
      ((s.define own name value).bindingsOf id).names = (s.bindingsOf id).names := by
    intro id
    rw [names_define s hown, if_neg]
    rintro ⟨rfl, hnot⟩
    exact hnot hname
  refine ⟨hnames, ?_⟩
  intro id key
  have hcontains : ∀ i, ((s.define own name value).bindingsOf i).contains key =
      (s.bindingsOf i).contains key := by
    intro i
    rw [Bool.eq_iff_iff, Bindings.contains_iff, Bindings.contains_iff, hnames]
  simp only [owner, chain_define, hcontains]

/-- Of scopes that were made and written to in any order: a chain follows the
    scopes around, each scope has the names written to it once and in the order
    of the first writes, and what a name means is what its nearest owner binds
    it to. `define` writes to the scope itself; `assign` writes to the nearest
    owner of the name, or to the scope itself if the name has none. Both change
    what a name means just where the scope written to is its nearest owner then,
    and an `assign` to an owner brings no new name and no other owner. -/
theorem writes_reach_nearest_owner {written : List (ScopeId × String)} (h : s.Grown written) :
    s.Linked ∧
    (∀ id, (s.bindingsOf id).names.Nodup ∧ (s.bindingsOf id).names = firstWritten written id) ∧
    (∀ id key, s.lookup id key =
      (s.owner id key).bind fun own => (s.bindingsOf own).get? key) ∧
    ∀ scope, scope < s.size → ∀ name value,
      s.WritesAt (s.define scope name value) scope name value ∧
      s.WritesAt (s.assign scope name value) ((s.owner scope name).getD scope) name value ∧
      (s.owner scope name ≠ none →
        (∀ id, ((s.assign scope name value).bindingsOf id).names = (s.bindingsOf id).names) ∧
        ∀ id key, (s.assign scope name value).owner id key = s.owner id key) := by
  refine ⟨h.linked, fun id => ⟨(s.bindingsOf id).nodup, h.names_eq id⟩,
    s.lookup_eq_bind_owner, ?_⟩
  intro scope hscope name value
  refine ⟨writesAt_define s hscope name value,
    writesAt_define s (getD_owner_lt_size hscope name) name value, ?_⟩
  intro howned
  obtain ⟨own, howner⟩ := Option.ne_none_iff_exists'.1 howned
  rw [assign, howner]
  exact owner_define_of_mem s (lt_size_of_owner hscope howner) value (mem_names_of_owner howner)

/-- An `assign` from the innermost of three scopes writes to the middle one,
    which hides the name from the root; a sibling of the middle one still sees
    what the root binds. -/
theorem writes_reach_nearest_owner_sibling :
    let s := ((((∅ : Scopes).addRoot.addChild 0).addChild 1).addChild 0 |>.define 0 "x" .nil
      |>.define 1 "x" .nil)
    s.Grown [(0, "x"), (1, "x")] ∧
      (s.assign 2 "x" (.bool true)).lookup 2 "x" = some (.bool true) ∧
      (s.assign 2 "x" (.bool true)).lookup 3 "x" = some .nil := by
  intro s
  have hgrown : s.Grown [(0, "x"), (1, "x")] :=
    .define 1 "x" .nil (.define 0 "x" .nil (.child 0 (.child 1 (.child 0 (.root .empty)
      (by decide)) (by decide)) (by decide)) (by decide)) (by decide)
  obtain ⟨-, -, -, hwrites⟩ := writes_reach_nearest_owner hgrown
  obtain ⟨-, hassign, -⟩ := hwrites 2 (by decide) "x" (.bool true)
  refine ⟨hgrown, ?_, ?_⟩
  · rw [hassign.lookup]
    rfl
  · rw [hassign.lookup]
    rfl

end Scopes

end MiniLisp
