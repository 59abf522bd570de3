import MiniLisp.Proofs.Exhaustion
import MiniLisp.Proofs.Expanded
import MiniLisp.Proofs.HostCheck

/-! # Expansion ends

    Under the special forms alone, expanding a term needs no more levels of
    recursion than can be told from the term, whatever it means and wherever it
    is expanded. A form expands its parts, which are smaller; only a definition
    of a function expands a longer form in its place, and that one a longer
    function. Three levels for each list pay for this detour.

    A form that defines a macro is left out: it would change the table.

    * **`Term.levels`** — the levels that a term needs;
    * **`Action.Ends`** — an action ends in a value or an error;
    * **`ending_passes`** — expansion at every level;
    * **`expansion_ends`** — its outcome, which is the same at all levels that
      are enough. -/

namespace MiniLisp

/-! ## What is measured -/

namespace Term

mutual

/-- The names of the symbols that a term is made of. A function is no part of
    the text of a term, so nothing in it counts. -/
def symbols : Term → List String
  | .sym name _ => [name]
  | .list items => symbolsAll items
  | .bool _ | .nil | .str _ | .num _ | .function _ _ => []

/-- The names of the symbols in a list of terms. -/
def symbolsAll : List Term → List String
  | [] => []
  | t :: rest => t.symbols ++ symbolsAll rest

end

variable [Host.Platform]

mutual

/-- How many levels of recursion expanding the term takes at most: three for
    each list on the longest way down, and those of the host expression that a
    text at its end spells. -/
def levels : Term → Nat
  | .list items => levelsAll items + 3
  | .str text => ((Host.Expr.parse? text).map Host.Expr.depth).getD 0
  | .bool _ | .nil | .num _ | .sym _ _ | .function _ _ => 0

/-- The most levels that a term of a list takes. -/
def levelsAll : List Term → Nat
  | [] => 0
  | t :: rest => max t.levels (levelsAll rest)

end

omit [Host.Platform] in
theorem symbols_subset_symbolsAll {t : Term} {items : List Term} (h : t ∈ items) :
    t.symbols ⊆ symbolsAll items := by
  induction items with
  | nil => cases h
  | cons head rest ih =>
    rw [symbolsAll]
    obtain rfl | hrest := List.mem_cons.1 h
    · exact List.subset_append_left _ _
    · exact List.subset_append_of_subset_right _ (ih hrest)

theorem levels_le_levelsAll {t : Term} {items : List Term} (h : t ∈ items) :
    t.levels ≤ levelsAll items := by
  induction items with
  | nil => cases h
  | cons head rest ih =>
    rw [levelsAll]
    obtain rfl | hrest := List.mem_cons.1 h
    · exact Nat.le_max_left _ _
    · exact Nat.le_trans (ih hrest) (Nat.le_max_right _ _)

mutual

/-- A term is no deeper than it takes levels. -/
theorem depth_le_levels : (t : Term) → t.depth ≤ t.levels
  | .list items => by
    have hle := depthList_le_levelsAll items
    simp only [depth, levels]
    omega
  | .bool _ | .nil | .str _ | .num _ | .sym _ _ | .function _ _ => by simp [depth]

theorem depthList_le_levelsAll : (items : List Term) → depthList items ≤ levelsAll items
  | [] => Nat.le_refl _
  | t :: rest => by
    have hfirst := depth_le_levels t
    have hrest := depthList_le_levelsAll rest
    simp only [depthList, levelsAll]
    omega

end

/-- The term takes fewer levels than there are, and it defines no macro. -/
structure Fits (room : Nat) (t : Term) : Prop where
  levels_lt : t.levels < room
  defines : SpecialForm.defineMacro.name ∉ t.symbols

variable {room more : Nat} {t : Term} {items : List Term}

theorem Fits.mono (h : t.Fits room) (hle : room ≤ more) : t.Fits more where
  levels_lt := Nat.lt_of_lt_of_le h.levels_lt hle
  defines := h.defines

theorem Fits.item (h : (Term.list items).Fits room) (ht : t ∈ items) : t.Fits (room - 3) where
  levels_lt := by
    have hle := levels_le_levelsAll ht
    have hlt := h.levels_lt
    rw [levels] at hlt
    omega
  defines := by
    have hnot := h.defines
    rw [symbols] at hnot
    exact fun hmem => hnot (symbols_subset_symbolsAll ht hmem)

end Term

/-! ## How actions end -/

/-- Where the macros are the special forms, the action ends in a value or in an
    error of the program, and it leaves the macros as they are. -/
def Action.Ends {α : Type} (x : Action α) : Prop :=
  ∀ s : State, s.macros = MacroTable.special →
    (∃ a s', x s = .ok a s' ∧ s'.macros = MacroTable.special) ∨
      ∃ e s', x s = .error (.error e) s' ∧ s'.macros = MacroTable.special

section Ends

variable {α β : Type}

theorem ends_pure (a : α) : (pure a : Action α).Ends := by
  intro s hs
  exact .inl ⟨a, s, rfl, hs⟩

theorem ends_fail (e : LispError) : (Action.fail e : Action α).Ends := by
  intro s hs
  exact .inr ⟨e, s, rfl, hs⟩

theorem ends_bind {x : Action α} {f : α → Action β} (hx : x.Ends) (hf : ∀ a, (f a).Ends) :
    (x >>= f).Ends := by
  intro s hs
  obtain ⟨a, s₁, hfirst, hs₁⟩ | ⟨e, s₁, hfirst, hs₁⟩ := hx s hs
  · rw [Action.bind_ok hfirst]
    exact hf a s₁ hs₁
  · rw [Action.bind_error hfirst]
    exact .inr ⟨e, s₁, rfl, hs₁⟩

theorem ends_failed (e : LispError) (f : β → Action α) : (Action.fail e >>= f).Ends := by
  intro s hs
  exact .inr ⟨e, s, rfl, hs⟩

theorem ends_mapM {f : β → Action α} {bs : List β} (h : ∀ b ∈ bs, (f b).Ends) :
    (bs.mapM f).Ends := by
  induction bs with
  | nil => exact ends_pure []
  | cons b rest ih =>
    obtain ⟨hb, hrest⟩ := List.forall_mem_cons.1 h
    rw [List.mapM_cons]
    refine ends_bind hb fun a => ?_
    exact ends_bind (ih hrest) fun as => ends_pure (a :: as)

theorem ends_newFunction (id description : Option String) (line : Nat) (code : Code) :
    (Action.newFunction id description line code).Ends := by
  intro s hs
  exact .inl ⟨_, _, rfl, hs⟩

theorem ends_newStep (code : Code) : (Action.newStep code).Ends :=
  ends_newFunction none none 0 code

theorem ends_nextBranch : Action.nextBranch.Ends := by
  intro s hs
  exact .inl ⟨_, _, rfl, hs⟩

theorem ends_nextLambda : Action.nextLambda.Ends := by
  intro s hs
  exact .inl ⟨_, _, rfl, hs⟩

/-- A call whose head is a new function. -/
theorem ends_call (id description : Option String) (line : Nat) (code : Code)
    (operands : List Term) :
    (do
      let step ← Action.newFunction id description line code
      return Term.list (step :: operands) : Action Term).Ends :=
  ends_bind (ends_newFunction id description line code) fun _ => ends_pure _

end Ends

/-! ## The special forms -/

/-- Expansion ends for all terms that the room is enough for. -/
def Passes.Ending [Host.Platform] (p : Passes) : Prop :=
  ∀ t scope, t.Fits p.room → (p.expand t scope).Ends

section Forms

variable [Host.Platform] {p : Passes} {scope : ScopeId} {arguments : List Term}

theorem ends_expandAll (hp : p.Ending) (harguments : ∀ t ∈ arguments, t.Fits p.room) :
    (p.expandAll arguments scope).Ends :=
  ends_mapM fun t ht => hp t scope (harguments t ht)

theorem ends_body (hp : p.Ending) (harguments : ∀ t ∈ arguments, t.Fits p.room) :
    (p.expandBody arguments scope).Ends :=
  ends_bind (ends_expandAll hp harguments) fun _ => ends_pure _

omit [Host.Platform] in
/-- The value of a definition is expanded in its place, whatever room it needs. -/
theorem ends_define (harguments : ∀ t ∈ arguments.tail, (p.expand t scope).Ends) :
    (Expansion.define p arguments scope).Ends := by
  cases arguments with
  | nil => exact ends_fail _
  | cons first values =>
    cases first with
    | sym name line =>
      cases values with
      | nil => exact ends_call none none line (.define name) [.nil]
      | cons value more =>
        cases more with
        | nil =>
          refine ends_bind (harguments value (by simp)) fun u => ?_
          exact ends_call none none line (.define name) [u]
        | cons _ _ => exact ends_failed _ _
    | bool | nil | str | num | list | function => exact ends_fail _

theorem ends_assign (hp : p.Ending) (harguments : ∀ t ∈ arguments, t.Fits p.room) :
    (Expansion.assign p arguments scope).Ends := by
  unfold Expansion.assign
  split
  · refine ends_bind (ends_newFunction _ _ _ _) fun step => ?_
    exact ends_bind (hp _ scope (harguments _ (by simp))) fun u => ends_pure _
  · exact ends_fail _
  · exact ends_fail _

/-- Only the forms after the texts and the parameters are expanded. -/
theorem ends_lambda (hp : p.Ending)
    (hforms : ∀ t ∈ (Expansion.takeText (Expansion.takeText arguments).2).2, t.Fits p.room) :
    (Expansion.lambda p arguments scope).Ends := by
  unfold Expansion.lambda
  dsimp only
  split
  · next parameters form forms heq =>
    rw [heq] at hforms
    split
    · exact ends_fail _
    · split
      · exact ends_fail _
      · refine ends_bind (ends_body hp fun t ht => hforms t (List.mem_cons_of_mem _ ht))
          fun body => ?_
        split
        · exact ends_call _ _ _ _ _
        · exact ends_bind ends_nextLambda fun number => ends_call _ _ _ _ _
  · exact ends_fail _
  · exact ends_fail _

theorem ends_branch (hp : p.Ending) (harguments : ∀ t ∈ arguments, t.Fits p.room) :
    (Expansion.branch p arguments scope).Ends := by
  unfold Expansion.branch
  extract_lets rest
  have hrest : ∀ condition thenForm elseForm, condition.Fits p.room → thenForm.Fits p.room →
      (∀ e ∈ elseForm, e.Fits p.room) → (rest (condition, thenForm, elseForm)).Ends := by
    intro condition thenForm elseForm hcondition hthen helse
    refine ends_bind (hp _ scope hcondition) fun test => ?_
    refine ends_bind (hp _ scope hthen) fun thenCase => ?_
    extract_lets make
    have hmake : ∀ elseCase, (make elseCase).Ends := fun elseCase =>
      ends_bind ends_nextBranch fun number => ends_call _ _ _ _ _
    cases elseForm with
    | none => exact hmake .nil
    | some e => exact ends_bind (hp _ scope (helse e rfl)) hmake
  split
  · exact hrest _ _ none (harguments _ (by simp)) (harguments _ (by simp)) (by simp)
  · exact hrest _ _ (some _) (harguments _ (by simp)) (harguments _ (by simp))
      (by simpa using harguments _ (by simp))
  · exact ends_failed _ _

theorem ends_begin (hp : p.Ending) (harguments : ∀ t ∈ arguments, t.Fits p.room) :
    (Expansion.begin p arguments scope).Ends := by
  refine ends_bind (ends_newStep .lastValue) fun step => ?_
  exact ends_bind (ends_expandAll hp harguments) fun forms => ends_pure _

theorem ends_loop (hp : p.Ending) (harguments : ∀ t ∈ arguments, t.Fits p.room) :
    (Expansion.loop p arguments scope).Ends := by
  cases arguments with
  | nil => exact ends_fail _
  | cons condition forms =>
    obtain ⟨hcondition, hforms⟩ := List.forall_mem_cons.1 harguments
    refine ends_bind (hp _ scope hcondition) fun test => ?_
    refine ends_bind (ends_body hp hforms) fun body => ?_
    exact ends_call none none 0 (.loop test body) []

omit [Host.Platform] in
theorem ends_leave : (Expansion.leave arguments).Ends := by
  cases arguments with
  | nil => exact ends_call none none 0 .leaveLoop []
  | cons _ _ => exact ends_fail _

theorem ends_guard (hp : p.Ending) (harguments : ∀ t ∈ arguments, t.Fits p.room) :
    (Expansion.guard p arguments scope).Ends := by
  unfold Expansion.guard
  extract_lets rest
  have hrest : ∀ body fallback, body.Fits p.room → (∀ f ∈ fallback, f.Fits p.room) →
      (rest (body, fallback)).Ends := by
    intro body fallback hbody hfallback
    refine ends_bind (hp _ scope hbody) fun tried => ?_
    extract_lets make
    have hmake : ∀ f, (make f).Ends := fun f => ends_call none none 0 (.guarded tried f) []
    cases fallback with
    | none => exact hmake .nil
    | some f => exact ends_bind (hp _ scope (hfallback f rfl)) hmake
  split
  · exact hrest _ none (harguments _ (by simp)) (by simp)
  · exact hrest _ (some _) (harguments _ (by simp)) (by simpa using harguments _ (by simp))
  · exact ends_failed _ _

theorem ends_applied (hp : p.Ending) (code : Code) (wrong : FormError)
    (harguments : ∀ t ∈ arguments, t.Fits p.room) :
    (Expansion.applied p code wrong arguments scope).Ends := by
  unfold Expansion.applied
  split
  · refine ends_bind (ends_newStep code) fun step => ?_
    exact ends_bind (hp _ scope (harguments _ (by simp))) fun u => ends_pure _
  · exact ends_fail _

/-- In room for all of its tree, a host expression is checked as without a bound. -/
theorem hostProgramWithin_of_depth_le {room : Nat} {source : String} (names : List String)
    (hroom : ∀ body, Host.Expr.parse? source = some body → body.depth ≤ room) :
    Expansion.hostProgramWithin room source names =
      (Expansion.hostProgram source names).mapError fun e => .error (.form e) := by
  unfold Expansion.hostProgramWithin Expansion.checkedHost Expansion.hostProgram
    Expansion.hostBody
  cases hparse : Host.Expr.parse? source with
  | none => rfl
  | some body =>
    simp only [Except.mapError, bind, Except.bind]
    rw [Host.checkWithin_of_depth_le (hroom body hparse)]
    cases body.check names <;> rfl

/-- The room is enough for the check of a text that fits it. -/
theorem ends_host (harguments : ∀ t ∈ arguments, t.Fits p.room) :
    (Expansion.host p arguments).Ends := by
  unfold Expansion.host
  split
  · next source declared =>
    split
    · exact ends_fail _
    · next names _ =>
      have hfits := harguments (.str source) (by simp)
      have hroom : ∀ body, Host.Expr.parse? source = some body → body.depth ≤ p.room := by
        intro body hparse
        have hlt := hfits.levels_lt
        simp only [Term.levels, hparse, Option.map_some, Option.getD_some] at hlt
        omega
      refine ends_bind ?_ fun program => ends_call _ _ _ _ _
      rw [hostProgramWithin_of_depth_le names hroom]
      cases Expansion.hostProgram source names with
      | error e => exact ends_fail _
      | ok program => exact ends_pure _
  · exact ends_fail _

omit [Host.Platform] in
theorem ends_quote : (Expansion.quote arguments).Ends := by
  unfold Expansion.quote
  split
  · exact ends_pure _
  · exact ends_fail _

mutual

/-- Building a template expands what is unquoted in it. -/
theorem ends_build (hp : p.Ending) : (t : Term) → t.Fits p.room → (Template.build p scope t).Ends
  | .list items, ht => by
    have hitems : ∀ t ∈ items, t.Fits p.room := fun t hmem =>
      (ht.item hmem).mono (Nat.sub_le p.room 3)
    unfold Template.build
    cases items with
    | nil => exact ends_pure _
    | cons head rest =>
      dsimp only
      split
      · split
        · next t => exact hp t scope (hitems t (by simp))
        · exact ends_fail _
      · split
        · exact ends_fail _
        · exact ends_bind (ends_buildAll hp (head :: rest) hitems) fun parts => ends_pure _
  | .nil, _ => ends_pure _
  | .bool _, _ | .str _, _ | .num _, _ | .sym _ _, _ | .function _ _, _ => ends_pure _

theorem ends_buildAll (hp : p.Ending) :
    (ts : List Term) → (∀ t ∈ ts, t.Fits p.room) → (Template.buildAll p scope ts).Ends
  | [], _ => ends_pure _
  | t :: rest, hts => by
    obtain ⟨ht, hrest⟩ := List.forall_mem_cons.1 hts
    unfold Template.buildAll
    refine ends_bind (ends_build hp t ht) fun part => ?_
    exact ends_bind (ends_buildAll hp rest hrest) fun parts => ends_pure _

end

theorem ends_quasiquote (hp : p.Ending) (harguments : ∀ t ∈ arguments, t.Fits p.room) :
    (Expansion.quasiquote p arguments scope).Ends := by
  unfold Expansion.quasiquote
  split
  · next t =>
    have ht := harguments t (by simp)
    have hroom : t.depth ≤ p.room := by
      have hle := t.depth_le_levels
      have hlt := ht.levels_lt
      omega
    refine ends_bind ?_ fun _ => ends_build hp t ht
    unfold Template.demandRoom
    rw [if_pos hroom]
    exact ends_pure ()
  · exact ends_fail _

end Forms

/-! ## All levels -/

section Levels

variable [Host.Platform] {turns n : Nat} {scope : ScopeId} {arguments : List Term}

/-- A list whose head is the name of a special form is expanded as that form,
    without the nils in it. -/
theorem ends_step_form {p : Passes} {items : List Term} (form : SpecialForm) (line : Nat)
    (hkept : (items.filter fun t => !t.isNil) = .sym form.name line :: arguments)
    (h : (Expansion.special p form arguments scope).Ends) :
    (Expansion.step p (.list items) scope).Ends := by
  intro s hs
  rw [Expansion.step, hkept]
  dsimp only
  rw [Action.bind_ok (macroOf_form form line hs)]
  exact h s hs

theorem ends_expand_form (form : SpecialForm) (line : Nat)
    (h : (Expansion.special (passes turns n) form (arguments.filter fun t => !t.isNil)
      scope).Ends) :
    ((passes turns (n + 1)).expand (.list (.sym form.name line :: arguments)) scope).Ends := by
  rw [expand_passes]
  exact ends_step_form form line (List.filter_cons_of_pos (by rfl)) h

/-- A named function is expanded as a definition, whose value is a function that
    is longer by its name. That takes two levels before the body is reached. -/
theorem ends_namedLambda (hp : (passes turns n).Ending) (harguments : ∀ t ∈ arguments, t.Fits n) :
    (Expansion.namedLambda (passes turns (n + 2)) arguments scope).Ends := by
  unfold Expansion.namedLambda
  split
  · next name line rest =>
    refine ends_expand_form .define line ?_
    show (Expansion.define (passes turns (n + 1)) [.sym name line,
      .list (.sym SpecialForm.lambda.name line :: .str name :: rest)] scope).Ends
    refine ends_define ?_
    simp only [List.tail_cons, List.mem_singleton, forall_eq]
    refine ends_expand_form .lambda line ?_
    rw [List.filter_cons_of_pos (by rfl)]
    show (Expansion.lambda (passes turns n) (.str name :: rest.filter fun t => !t.isNil)
      scope).Ends
    refine ends_lambda hp ?_
    intro u hu
    -- The name is taken off first, so what is left is among the other arguments.
    have hmem := List.mem_of_mem_filter (Lockstep.subset_takeText _ u hu)
    rw [room_passes]
    exact harguments u (List.mem_cons_of_mem _ hmem)
  · exact ends_fail _

theorem ends_special (hp : (passes turns n).Ending) (hq : (passes turns (n + 2)).Ending)
    {form : SpecialForm} (hform : form ≠ .defineMacro) (harguments : ∀ t ∈ arguments, t.Fits n) :
    (Expansion.special (passes turns (n + 2)) form arguments scope).Ends := by
  have hfits : ∀ t ∈ arguments, t.Fits (passes turns (n + 2)).room := by
    intro t ht
    rw [room_passes]
    exact (harguments t ht).mono (by omega)
  cases form with
  | define => exact ends_define fun t ht => hq t scope (hfits t (List.mem_of_mem_tail ht))
  | branch => exact ends_branch hq hfits
  | evaluate => exact ends_applied hq .evaluateValue .evaluateCount hfits
  | lambda =>
    refine ends_lambda hq fun t ht => hfits t ?_
    exact Lockstep.subset_takeText _ t (Lockstep.subset_takeText _ t ht)
  | namedLambda => exact ends_namedLambda hp harguments
  | begin => exact ends_begin hq hfits
  | loop => exact ends_loop hq hfits
  | leave => exact ends_leave
  | assign => exact ends_assign hq hfits
  | quote => exact ends_quote
  | quasiquote => exact ends_quasiquote hq hfits
  | unquote | unquoteSplice => exact ends_fail _
  | readText => exact ends_applied hq .readText .readTextCount hfits
  | defineMacro => exact absurd rfl hform
  | guard => exact ends_guard hq hfits
  | throw => exact ends_applied hq .throwValue .throwCount hfits
  | host => exact ends_host hfits

/-- A list takes three levels more than its items, so two are left to spare. -/
theorem ends_step_list (hp : (passes turns n).Ending) (hq : (passes turns (n + 2)).Ending)
    {items : List Term} (hitems : ∀ t ∈ items, t.Fits n) :
    (Expansion.step (passes turns (n + 2)) (.list items) scope).Ends := by
  have hkept : ∀ t ∈ items.filter fun t => !t.isNil, t.Fits n := fun t ht =>
    hitems t (List.mem_of_mem_filter ht)
  cases hlist : items.filter fun t => !t.isNil with
  | nil =>
    rw [Expansion.step, hlist]
    exact ends_pure Term.nil
  | cons head arguments =>
    rw [hlist] at hkept
    obtain ⟨hhead, harguments⟩ := List.forall_mem_cons.1 hkept
    by_cases hcall : ∃ (form : SpecialForm) (line : Nat), head = .sym form.name line
    · obtain ⟨form, line, rfl⟩ := hcall
      refine ends_step_form form line hlist (ends_special hp hq ?_ harguments)
      -- A head that is the name of the form would define a macro.
      rintro rfl
      exact hhead.defines (by simp [Term.symbols])
    · intro s hs
      have hnone : Expansion.macroOf head s = .ok none s :=
        macroOf_eq_none (fun form line heq => hcall ⟨form, line, heq⟩) hs
      rw [Expansion.step, hlist]
      dsimp only
      rw [Action.bind_ok hnone]
      refine ends_bind (ends_expandAll hq ?_) (fun expanded => ends_pure _) s hs
      intro t ht
      rw [room_passes]
      exact (hkept t ht).mono (by omega)

/-- Expansion ends at every level for the terms that it is enough for. -/
theorem ending_passes (turns : Nat) (depth : Nat) : (passes turns depth).Ending := by
  intro t scope ht
  rw [room_passes] at ht
  have hlt := ht.levels_lt
  cases t with
  | list items =>
    simp only [Term.levels] at hlt
    obtain ⟨n, rfl⟩ : ∃ n, depth = n + 3 := ⟨depth - 3, by omega⟩
    exact ends_step_list (ending_passes turns n) (ending_passes turns (n + 2)) fun t hmem =>
      ht.item hmem
  | bool _ | nil | str _ | num _ | sym _ _ | function _ _ =>
    obtain ⟨n, rfl⟩ : ∃ n, depth = n + 1 := ⟨depth - 1, by omega⟩
    exact ends_pure _
termination_by depth

end Levels

/-- Where the macros are the special forms, the expansion of a term without a
    definition of a macro has one outcome, which is a term or an error of the
    program: any number of levels beyond those that the term takes yields it,
    in any scope and state, and the macros stay what they are. -/
theorem expansion_ends [Host.Platform]
    {t : Term} (hdefines : "defmacro" ∉ t.symbols) (scope : ScopeId)
    {s : State} (hmacros : s.macros = MacroTable.special) :
    ∃ outcome : EStateM.Result Stop State Term,
      ((∃ u s', outcome = .ok u s' ∧ s'.macros = MacroTable.special) ∨
        ∃ e s', outcome = .error (.error e) s' ∧ s'.macros = MacroTable.special) ∧
      ∀ turns depth, t.levels < depth → (passes turns depth).expand t scope s = outcome := by
  have hfits : t.Fits (passes 0 (t.levels + 1)).room := by
    rw [room_passes]
    exact ⟨Nat.lt_succ_self _, hdefines⟩
  have hends := ending_passes 0 (t.levels + 1) t scope hfits s hmacros
  refine ⟨_, hends, ?_⟩
  intro turns depth hdepth
  have hpasses := Lockstep.simPasses_higher (Nat.zero_le turns) (Nat.succ_le_of_lt hdepth)
  have hroot : Lockstep.higher.allowed (.scope scope) := trivial
  have hagree : Lockstep.higher.Agree (Term.Within Lockstep.higher.allowed)
      ((passes 0 (t.levels + 1)).expand t scope s) ((passes turns depth).expand t scope s) :=
    hpasses.expand t scope (Lockstep.within_higher t) hroot s (Lockstep.sound_higher s)
  generalize (passes 0 (t.levels + 1)).expand t scope s = r at hagree hends ⊢
  generalize (passes turns depth).expand t scope s = r' at hagree ⊢
  cases hagree with
  | ok _ _ same => rw [same]; rfl
  | stop _ same => rw [same]; rfl
  | excused h =>
    -- The first run met no limit: it has ended.
    obtain ⟨u, s', heq, -⟩ | ⟨e, s', heq, -⟩ := hends
    · cases heq
    · cases heq
      rcases h with h | h
      · cases h
      · cases h

/-- A named function whose body chooses between a template and a host expression
    takes fifteen levels at most. -/
theorem expansion_ends_namedLambda :
    let t : Term := .list [.sym "defn" 1, .sym "f" 1, .list [.sym "x" 1],
      .list [.sym "if" 1, .sym "x" 1,
        .list [.sym "quasiquote" 1, .list [.sym "g" 1, .list [.sym "unquote" 1, .sym "x" 1]]],
        .list [.sym "native" 1, .str "x * (x + 1)", .sym "x" 1]]]
    let s := State.root (Console.ofLines []) 0 0
    t.levels = 15 ∧ ∃ u s', ∀ turns depth, 15 < depth →
      (passes turns depth).expand t rootScope s = .ok u s' := by
  intro t s
  have hlevels : t.levels = 15 := by decide +kernel
  have hdefines : "defmacro" ∉ t.symbols := by decide
  obtain ⟨outcome, hends, hsame⟩ := expansion_ends hdefines rootScope (s := s) rfl
  have hvalue : (match (passes 0 16).expand t rootScope s with
      | .ok _ _ => true
      | .error _ _ => false) = true := by decide +kernel
  have hlevel : t.levels < 16 := hlevels ▸ by decide
  obtain ⟨u, s', rfl, -⟩ | ⟨e, s', rfl, -⟩ := hends
  · exact ⟨hlevels, u, s', fun turns depth hdepth => hsame turns depth (hlevels ▸ hdepth)⟩
  · rw [hsame 0 16 hlevel] at hvalue
    cases hvalue

end MiniLisp
