import MiniLisp.Proofs.Expanded

/-! # Expansion is complete

    The expansions of tidy terms are macro-free and compact. This is shown
    level by level, one special form after the other: every part of a form that
    is kept, be it in the call that the form becomes or in the function at its
    head, has been expanded. Quoting is what could keep a part as it is, so it
    is left out, and so are definitions of macros.

    * **`Term.Ordinary`** — the terms that are considered;
    * **`Action.Ensures`** — what an action yields under the special forms;
    * **`settles_passes`** — expansion at every level;
    * **`expand_complete`** — what expansion yields, and yields again. -/

namespace MiniLisp

/-! ## Ordinary terms -/

/-- The symbols by which a term may keep parts as they are or add macros. -/
def keepingNames : List String :=
  [SpecialForm.quote.name, SpecialForm.quasiquote.name, SpecialForm.unquote.name,
   SpecialForm.unquoteSplice.name, SpecialForm.defineMacro.name]

/-- Tidy data that neither quotes nor defines macros. -/
structure Term.Ordinary (t : Term) : Prop where
  data : t.IsData
  tidy : t.Tidy
  leaves : t.LeavesOut keepingNames

section Parameters

variable {t head : Term} {items arguments : List Term}

theorem mem_of_besidesParameters (h : t ∈ besidesParameters items) : t ∈ items := by
  cases items with
  | nil => cases h
  | cons head arguments =>
    rw [besidesParameters] at h
    split at h
    · rcases List.mem_cons.1 h with rfl | hmem
      · exact List.mem_cons_self
      · exact List.mem_cons_of_mem _ (List.mem_of_mem_eraseP hmem)
    · exact h

/-- Only a list is left out. -/
theorem mem_besidesParameters (h : t ∈ items) (hlist : t.isList = false) :
    t ∈ besidesParameters items := by
  cases items with
  | nil => cases h
  | cons head arguments =>
    rw [besidesParameters]
    split
    · rcases List.mem_cons.1 h with rfl | hmem
      · exact List.mem_cons_self
      · exact List.mem_cons_of_mem _ ((List.mem_eraseP_of_neg (by simp [hlist])).2 hmem)
    · exact h

theorem besidesParameters_of_ne
    (hlambda : head.isSymbol SpecialForm.lambda.name = false)
    (hnamed : head.isSymbol SpecialForm.namedLambda.name = false) :
    besidesParameters (head :: arguments) = head :: arguments := by
  simp [besidesParameters, hlambda, hnamed]

/-- The texts before a parameter list are no lists. -/
theorem mem_eraseP_of_takeText
    (h : t ∈ (Expansion.takeText arguments).2.eraseP Term.isList) :
    t ∈ arguments.eraseP Term.isList := by
  unfold Expansion.takeText at h
  split at h
  · rw [List.eraseP_cons_of_neg (by simp [Term.isList])]
    exact List.mem_cons_of_mem _ h
  · exact h

end Parameters

namespace Term.Ordinary

variable {t : Term} {items : List Term}

theorem item (h : (Term.list items).Ordinary) (ht : t ∈ besidesParameters items) :
    t.Ordinary where
  data := Term.isData_list.1 h.data t (mem_of_besidesParameters ht)
  tidy := by
    cases h.tidy with
    | list _ _ each => exact each t ht
  leaves := Term.leavesOut_list.1 h.leaves t (mem_of_besidesParameters ht)

theorem ne_nil (h : t.Ordinary) : t ≠ .nil := by
  rintro rfl
  cases h.tidy

theorem items_ne_nil (h : (Term.list items).Ordinary) : ∀ t ∈ items, t ≠ .nil := by
  intro t ht hnil
  have hlist : t.isList = false := by rw [hnil]; rfl
  exact (h.item (mem_besidesParameters ht hlist)).ne_nil hnil

end Term.Ordinary

/-! ## What actions yield -/

/-- What an action yields where the macros are the special forms, which it
    leaves as they are. -/
def Action.Ensures {α : Type} (x : Action α) (good : α → Prop) : Prop :=
  ∀ (s s' : State) (a : α), s.macros = MacroTable.special → x s = .ok a s' →
    good a ∧ s'.macros = MacroTable.special

section Ensures

variable {α β : Type} {good : α → Prop} {good' : β → Prop}

theorem ensures_pure {a : α} (h : good a) : (pure a : Action α).Ensures good := by
  rintro s s' b hs ⟨⟩
  exact ⟨h, hs⟩

theorem ensures_throw (e : Stop) : (throw e : Action α).Ensures good := by
  rintro s s' b hs ⟨⟩

theorem ensures_fail (e : LispError) : (Action.fail e : Action α).Ensures good :=
  ensures_throw _

theorem ensures_bind {x : Action α} {f : α → Action β} (hx : x.Ensures good)
    (hf : ∀ a, good a → (f a).Ensures good') : (x >>= f).Ensures good' := by
  intro s s' b hs hrun
  obtain ⟨a, t, hfirst, hrest⟩ := Action.exists_of_bind_ok hrun
  obtain ⟨ha, ht⟩ := hx s t a hs hfirst
  exact hf a ha t s' b ht hrest

theorem Action.Ensures.imp {x : Action α} {good'' : α → Prop} (hx : x.Ensures good)
    (h : ∀ a, good a → good'' a) : x.Ensures good'' := by
  intro s s' a hs hrun
  obtain ⟨ha, hs'⟩ := hx s s' a hs hrun
  exact ⟨h a ha, hs'⟩

theorem ensures_failed (e : LispError) {f : β → Action α} :
    (Action.fail e >>= f).Ensures good := by
  rintro s s' a hs ⟨⟩

theorem ensures_mapM {f : β → Action α} {good : β → α → Prop} {bs : List β}
    (h : ∀ b ∈ bs, (f b).Ensures (good b)) : (bs.mapM f).Ensures (List.Forall₂ good bs) := by
  induction bs with
  | nil => exact ensures_pure .nil
  | cons b rest ih =>
    obtain ⟨hb, hrest⟩ := List.forall_mem_cons.1 h
    rw [List.mapM_cons]
    refine ensures_bind hb fun a ha => ?_
    refine ensures_bind (ih hrest) fun as has => ?_
    exact ensures_pure (.cons ha has)

theorem ensures_ofResult {x : Except Stop α} (h : ∀ a, x = .ok a → good a) :
    (Action.ofResult x).Ensures good := by
  cases x with
  | ok a => exact ensures_pure (h a rfl)
  | error e => exact ensures_throw e

theorem ensures_newFunction (id description : Option String) (line : Nat) (code : Code) :
    (Action.newFunction id description line code).Ensures
      fun u => ∃ tag, u = .function tag code := by
  rintro s s' u hs ⟨⟩
  exact ⟨⟨_, rfl⟩, hs⟩

theorem ensures_newStep (code : Code) :
    (Action.newStep code).Ensures fun u => ∃ tag, u = .function tag code :=
  ensures_newFunction _ _ _ _

theorem ensures_nextBranch : Action.nextBranch.Ensures fun _ => True := by
  rintro s s' n hs ⟨⟩
  exact ⟨trivial, hs⟩

theorem ensures_nextLambda : Action.nextLambda.Ensures fun _ => True := by
  rintro s s' n hs ⟨⟩
  exact ⟨trivial, hs⟩

theorem ensures_findMacro (name : String) :
    (Action.findMacro name).Ensures fun found => found = MacroTable.special.get? name := by
  rintro s s' found hs ⟨⟩
  exact ⟨by rw [← hs], hs⟩

end Ensures

/-! ## Settled forms -/

/-- A form that is expanded for good, with at most so many lists in each other. -/
structure Term.Settled (n : Nat) (u : Term) : Prop where
  macroFree : u.MacroFree
  compact : u.Compact
  depth : u.depth ≤ n

/-- A list that is expanded for good. -/
structure Term.SettledList (n : Nat) (u : Term) : Prop extends u.Settled n where
  isList : u.isList = true

section Settled

variable {n : Nat} {items : List Term} {tag : FunctionTag} {code : Code}

theorem Term.Settled.mono {m : Nat} (h : n ≤ m) {u : Term} (hu : u.Settled n) : u.Settled m :=
  { hu with depth := Nat.le_trans hu.depth h }

theorem Term.depthList_le (h : ∀ t ∈ items, t.depth ≤ n) : Term.depthList items ≤ n := by
  induction items with
  | nil => exact Nat.zero_le n
  | cons t rest ih =>
    obtain ⟨ht, hrest⟩ := List.forall_mem_cons.1 h
    exact Nat.max_le.2 ⟨ht, ih hrest⟩

theorem settled_list (nonempty : items ≠ [])
    (head : ∀ (form : SpecialForm) line rest, items ≠ .sym form.name line :: rest)
    (each : ∀ t ∈ items, t.Settled n) : (Term.list items).SettledList (n + 1) where
  macroFree := .list head fun t ht => (each t ht).macroFree
  compact := .list nonempty fun t ht => (each t ht).compact
  depth := Nat.succ_le_succ (Term.depthList_le fun t ht => (each t ht).depth)
  isList := rfl

/-- The call of a function that holds back nothing but macro-free terms. -/
theorem settled_call (held : ∀ t ∈ code.held, t.MacroFree) (each : ∀ t ∈ items, t.Settled n) :
    (Term.list (.function tag code :: items)).SettledList (n + 1) := by
  refine settled_list (by simp) (by simp) (List.forall_mem_cons.2 ⟨?_, each⟩)
  exact ⟨.function held, .function _ _, Nat.zero_le n⟩

end Settled

/-! ## Special forms -/

/-- Expansion settles ordinary terms. What it yields is a list, or the term. -/
def Passes.Settles (p : Passes) (n : Nat) : Prop :=
  ∀ (t : Term) (scope : ScopeId), t.Ordinary →
    (p.expand t scope).Ensures fun u => u.Settled n ∧ (u.isList = false → u = t)

section Forms

variable {p : Passes} {n : Nat} {arguments : List Term} {scope : ScopeId}

/-- Terms in a row are settled one by one. -/
theorem ensures_expandAll (hp : p.Settles n) {ts : List Term} (hts : ∀ t ∈ ts, t.Ordinary) :
    (p.expandAll ts scope).Ensures
      (List.Forall₂ (fun t u => u.Settled n ∧ (u.isList = false → u = t)) ts) :=
  ensures_mapM fun t ht => hp t scope (hts t ht)

theorem forall_settled {ts us : List Term} {R : Term → Term → Prop}
    (h : List.Forall₂ (fun t u => u.Settled n ∧ R t u) ts us) : ∀ u ∈ us, u.Settled n := by
  induction h with
  | nil => exact List.forall_mem_nil _
  | cons first _ ih => exact List.forall_mem_cons.2 ⟨first.1, ih⟩

theorem ensures_expandBody (hp : p.Settles n) {ts : List Term} (hts : ∀ t ∈ ts, t.Ordinary) :
    (p.expandBody ts scope).Ensures fun us => ∀ u ∈ us, u.Settled n := by
  refine ensures_bind (ensures_expandAll hp hts) fun us hus => ?_
  exact ensures_pure fun u hu => forall_settled hus u (List.mem_of_mem_filter hu)

/-- A form that becomes the call of a new function. -/
theorem ensures_call (id description : Option String) (line : Nat) {code : Code}
    (held : ∀ t ∈ code.held, t.MacroFree) {us : List Term} (hus : ∀ u ∈ us, u.Settled n) :
    (do
      let step ← Action.newFunction id description line code
      return Term.list (step :: us)).Ensures (Term.SettledList (n + 1)) := by
  refine ensures_bind (ensures_newFunction id description line code) fun step hstep => ?_
  obtain ⟨tag, rfl⟩ := hstep
  exact ensures_pure (settled_call held hus)

theorem ensures_define (hp : p.Settles n) (hvalued : 2 ≤ arguments.length)
    (harguments : ∀ t ∈ arguments, t.Ordinary) :
    (Expansion.define p arguments scope).Ensures (Term.SettledList (n + 1)) := by
  cases arguments with
  | nil => exact ensures_fail _
  | cons first values =>
    cases first with
    | sym name line =>
      cases values with
      | nil => simp at hvalued
      | cons value more =>
        cases more with
        | nil =>
          refine ensures_bind (hp value scope (harguments value (by simp))) fun u hu => ?_
          exact ensures_call none none line (by simp [Code.held]) (by simpa using hu.1)
        | cons _ _ => exact ensures_failed _
    | bool | nil | str | num | list | function => exact ensures_fail _

theorem ensures_assign (hp : p.Settles n) (harguments : ∀ t ∈ arguments, t.Ordinary) :
    (Expansion.assign p arguments scope).Ensures (Term.SettledList (n + 1)) := by
  unfold Expansion.assign
  split
  · refine ensures_bind (ensures_newFunction _ _ _ _) fun step hstep => ?_
    obtain ⟨tag, rfl⟩ := hstep
    refine ensures_bind (hp _ scope (harguments _ (by simp))) fun u hu => ?_
    exact ensures_pure (settled_call (by simp [Code.held]) (by simpa using hu.1))
  · exact ensures_fail _
  · exact ensures_fail _

/-- The body of a function is settled; its parameters are no part of it. -/
theorem ensures_lambda (hp : p.Settles n)
    (hforms : ∀ t ∈ arguments.eraseP Term.isList, t.Ordinary) :
    (Expansion.lambda p arguments scope).Ensures (Term.SettledList (n + 1)) := by
  have hremaining : ∀ t ∈ (Expansion.takeText (Expansion.takeText arguments).2).2.eraseP
      Term.isList, t.Ordinary := fun t ht =>
    hforms t (mem_eraseP_of_takeText (mem_eraseP_of_takeText ht))
  unfold Expansion.lambda
  dsimp only
  generalize (Expansion.takeText arguments).1 = id
  generalize (Expansion.takeText (Expansion.takeText arguments).2).1 = description
  generalize (Expansion.takeText (Expansion.takeText arguments).2).2 = remaining at hremaining
  split
  · next parameters form forms =>
    cases hnames : Term.symbolNames? parameters with
    | none => exact ensures_fail _
    | some names =>
      dsimp only
      cases hsplit : Expansion.splitParameters names with
      | error e => exact ensures_fail _
      | ok split =>
        obtain ⟨formals, rest⟩ := split
        refine ensures_bind (ensures_expandBody hp hremaining) fun body hbody => ?_
        -- The body is held back by the function that makes the closure.
        have hheld : ∀ id line, ∀ t ∈ (Code.makeClosure formals rest body id description line).held,
            t.MacroFree := fun _ _ t ht => (hbody t ht).macroFree
        cases id with
        | some id => exact ensures_call none none 0 (hheld id _) (List.forall_mem_nil _)
        | none =>
          refine ensures_bind ensures_nextLambda fun number _ => ?_
          exact ensures_call none none 0 (hheld _ _) (List.forall_mem_nil _)
  · exact ensures_fail _
  · exact ensures_fail _

/-- The longer form of a named function is ordinary, too. -/
theorem ordinary_namedLambda {name : String} {line line' : Nat} {rest : List Term}
    (h : (Term.list (.sym SpecialForm.namedLambda.name line :: .sym name line' :: rest)).Ordinary) :
    (Term.list [.sym SpecialForm.define.name line', .sym name line',
      .list (.sym SpecialForm.lambda.name line' :: .str name :: rest)]).Ordinary := by
  have hname : (Term.sym name line').Ordinary := h.item (mem_besidesParameters (by simp) rfl)
  have hkept : ∀ t ∈ rest.eraseP Term.isList, t.Tidy := by
    intro t ht
    have hmem : t ∈ besidesParameters (.sym SpecialForm.namedLambda.name line ::
        .sym name line' :: rest) := by
      simp [besidesParameters, Term.isSymbol, Term.symbolName?, Term.isList, ht]
    exact (h.item hmem).tidy
  have hdata := Term.isData_list.1 h.data
  have hout := Term.leavesOut_list.1 h.leaves
  simp only [List.forall_mem_cons] at hdata hout
  -- The new list has the same parameter list as the old one.
  have hlambda :
      (Term.list (.sym SpecialForm.lambda.name line' :: .str name :: rest)).Ordinary := by
    refine ⟨.list ?_, .list (by simp) ?_ ?_, Term.leavesOut_list.2 ?_⟩
    · simpa [List.forall_mem_cons] using ⟨.sym _ _, .str _, hdata.2.2⟩
    · intro line arguments heq
      simp [SpecialForm.name] at heq
    · simpa [besidesParameters, Term.isSymbol, Term.symbolName?, Term.isList] using hkept
    · simpa [List.forall_mem_cons] using ⟨Term.leavesOut_sym.2 (by decide),
        fun _ _ => List.not_mem_nil, hout.2.2⟩
  have hdefine : (Term.sym SpecialForm.define.name line').Ordinary :=
    ⟨.sym _ _, .sym _ _, Term.leavesOut_sym.2 (by decide)⟩
  have hall : ∀ t ∈ [Term.sym SpecialForm.define.name line', .sym name line',
      .list (.sym SpecialForm.lambda.name line' :: .str name :: rest)], t.Ordinary := by
    simp only [List.forall_mem_cons]
    exact ⟨hdefine, hname, hlambda, List.forall_mem_nil _⟩
  refine ⟨.list fun t ht => (hall t ht).data, .list (by simp) ?_ ?_,
    Term.leavesOut_list.2 fun t ht => (hall t ht).leaves⟩
  · intro line arguments heq
    cases heq
    simp
  · exact fun t ht => (hall t (mem_of_besidesParameters ht)).tidy

theorem ensures_namedLambda (hp : p.Settles n) {line : Nat}
    (h : (Term.list (.sym SpecialForm.namedLambda.name line :: arguments)).Ordinary) :
    (Expansion.namedLambda p arguments scope).Ensures (Term.SettledList (n + 1)) := by
  cases arguments with
  | nil => exact ensures_fail _
  | cons first rest =>
    cases first with
    | sym name line' =>
      have hmem : Term.sym name line' ∈ besidesParameters (.sym SpecialForm.namedLambda.name line ::
          .sym name line' :: rest) := mem_besidesParameters (by simp) rfl
      have hname := h.item hmem
      have hlonger := ordinary_namedLambda h
      intro s s' u hs hrun
      obtain ⟨⟨hsettled, hself⟩, hs'⟩ := hp _ scope hlonger s s' u hs hrun
      refine ⟨{ hsettled.mono (Nat.le_succ n) with isList := ?_ }, hs'⟩
      -- The expansion is no atom: that would be the longer form, which is a list.
      by_contra hatom
      have hsame := hself (by simpa using hatom)
      rw [hsame] at hatom
      exact hatom rfl
    | bool | nil | str | num | list | function => exact ensures_fail _

theorem ensures_branch (hp : p.Settles n) (harguments : ∀ t ∈ arguments, t.Ordinary) :
    (Expansion.branch p arguments scope).Ensures (Term.SettledList (n + 1)) := by
  unfold Expansion.branch
  extract_lets rest
  have hrest : ∀ condition thenForm elseForm, condition.Ordinary → thenForm.Ordinary →
      (∀ e ∈ elseForm, e.Ordinary) →
        (rest (condition, thenForm, elseForm)).Ensures (Term.SettledList (n + 1)) := by
    intro condition thenForm elseForm hcondition hthen helse
    refine ensures_bind (hp _ scope hcondition) fun test htest => ?_
    refine ensures_bind (hp _ scope hthen) fun thenCase hthenCase => ?_
    extract_lets make
    have hmake : ∀ elseCase : Term, elseCase.MacroFree →
        (make elseCase).Ensures (Term.SettledList (n + 1)) := by
      intro elseCase helseCase
      refine ensures_bind ensures_nextBranch fun number _ => ?_
      exact ensures_call _ _ _ (by simpa [Code.held] using ⟨hthenCase.1.macroFree, helseCase⟩)
        (by simpa using htest.1)
    cases elseForm with
    | none => exact hmake .nil .nil
    | some e =>
      refine ensures_bind (hp _ scope (helse e rfl)) fun elseCase helseCase => ?_
      exact hmake elseCase helseCase.1.macroFree
  split
  · exact hrest _ _ none (harguments _ (by simp)) (harguments _ (by simp)) (by simp)
  · exact hrest _ _ (some _) (harguments _ (by simp)) (harguments _ (by simp))
      (by simpa using harguments _ (by simp))
  · exact ensures_failed _

theorem ensures_begin (hp : p.Settles n) (harguments : ∀ t ∈ arguments, t.Ordinary) :
    (Expansion.begin p arguments scope).Ensures (Term.SettledList (n + 1)) := by
  refine ensures_bind (ensures_newStep .lastValue) fun step hstep => ?_
  obtain ⟨tag, rfl⟩ := hstep
  refine ensures_bind (ensures_expandAll hp harguments) fun forms hforms => ?_
  exact ensures_pure (settled_call (by simp [Code.held]) (forall_settled hforms))

theorem ensures_loop (hp : p.Settles n) (harguments : ∀ t ∈ arguments, t.Ordinary) :
    (Expansion.loop p arguments scope).Ensures (Term.SettledList (n + 1)) := by
  cases arguments with
  | nil => exact ensures_fail _
  | cons condition forms =>
    obtain ⟨hcondition, hforms⟩ := List.forall_mem_cons.1 harguments
    refine ensures_bind (hp _ scope hcondition) fun test htest => ?_
    refine ensures_bind (ensures_expandBody hp hforms) fun body hbody => ?_
    have hheld : ∀ t ∈ (Code.loop test body).held, t.MacroFree :=
      List.forall_mem_cons.2 ⟨htest.1.macroFree, fun t ht => (hbody t ht).macroFree⟩
    exact ensures_call none none 0 hheld (List.forall_mem_nil (Term.Settled n))

theorem ensures_leave : (Expansion.leave arguments).Ensures (Term.SettledList (n + 1)) := by
  cases arguments with
  | nil => exact ensures_call none none 0 (by simp [Code.held]) (List.forall_mem_nil _)
  | cons _ _ => exact ensures_fail _

theorem ensures_guard (hp : p.Settles n) (harguments : ∀ t ∈ arguments, t.Ordinary) :
    (Expansion.guard p arguments scope).Ensures (Term.SettledList (n + 1)) := by
  unfold Expansion.guard
  extract_lets rest
  have hrest : ∀ body fallback, body.Ordinary → (∀ f ∈ fallback, f.Ordinary) →
      (rest (body, fallback)).Ensures (Term.SettledList (n + 1)) := by
    intro body fallback hbody hfallback
    refine ensures_bind (hp _ scope hbody) fun tried htried => ?_
    extract_lets make
    have hmake : ∀ f : Term, f.MacroFree → (make f).Ensures (Term.SettledList (n + 1)) := by
      intro f hf
      have hheld : ∀ t ∈ (Code.guarded tried f).held, t.MacroFree := by
        simpa [Code.held] using ⟨htried.1.macroFree, hf⟩
      exact ensures_call none none 0 hheld (List.forall_mem_nil _)
    cases fallback with
    | none => exact hmake .nil .nil
    | some f =>
      refine ensures_bind (hp _ scope (hfallback f rfl)) fun expanded hexpanded => ?_
      exact hmake expanded hexpanded.1.macroFree
  split
  · exact hrest _ none (harguments _ (by simp)) (by simp)
  · exact hrest _ (some _) (harguments _ (by simp)) (by simpa using harguments _ (by simp))
  · exact ensures_failed _

theorem ensures_applied (hp : p.Settles n) {code : Code} (hcode : code.held = [])
    (wrong : FormError) (harguments : ∀ t ∈ arguments, t.Ordinary) :
    (Expansion.applied p code wrong arguments scope).Ensures (Term.SettledList (n + 1)) := by
  unfold Expansion.applied
  split
  · refine ensures_bind (ensures_newStep code) fun step hstep => ?_
    obtain ⟨tag, rfl⟩ := hstep
    refine ensures_bind (hp _ scope (harguments _ (by simp))) fun u hu => ?_
    exact ensures_pure (settled_call (by simp [hcode]) (by simpa using hu.1))
  · exact ensures_fail _

theorem ensures_host [Host.Platform] :
    (Expansion.host p arguments).Ensures (Term.SettledList (n + 1)) := by
  unfold Expansion.host
  split
  · split
    · exact ensures_fail _
    · refine ensures_bind (ensures_ofResult fun _ _ => trivial) fun program _ => ?_
      exact ensures_call _ _ _ (by simp [Code.held]) (List.forall_mem_nil _)
  · exact ensures_fail _

/-- Each form that neither quotes nor defines a macro settles. -/
theorem ensures_special [Host.Platform] (hp : p.Settles n) {form : SpecialForm} {line : Nat}
    (h : (Term.list (.sym form.name line :: arguments)).Ordinary) :
    (Expansion.special p form arguments scope).Ensures (Term.SettledList (n + 1)) := by
  have hform : form.name ∉ keepingNames :=
    Term.leavesOut_sym.1 (Term.leavesOut_list.1 h.leaves _ List.mem_cons_self)
  -- All arguments are ordinary, but the parameters of a function.
  have harguments : (Term.sym form.name line).isSymbol SpecialForm.lambda.name = false →
      (Term.sym form.name line).isSymbol SpecialForm.namedLambda.name = false →
      ∀ t ∈ arguments, t.Ordinary := by
    intro hlambda hnamed t ht
    refine h.item ?_
    rw [besidesParameters_of_ne hlambda hnamed]
    exact List.mem_cons_of_mem _ ht
  cases form with
  | define =>
    cases h.tidy with
    | list _ valued _ => exact ensures_define hp (valued line arguments rfl) (harguments rfl rfl)
  | branch => exact ensures_branch hp (harguments rfl rfl)
  | evaluate => exact ensures_applied hp rfl _ (harguments rfl rfl)
  | lambda =>
    refine ensures_lambda hp fun t ht => h.item ?_
    exact List.mem_cons_of_mem _ ht
  | namedLambda => exact ensures_namedLambda hp h
  | begin => exact ensures_begin hp (harguments rfl rfl)
  | loop => exact ensures_loop hp (harguments rfl rfl)
  | leave => exact ensures_leave
  | assign => exact ensures_assign hp (harguments rfl rfl)
  | readText => exact ensures_applied hp rfl _ (harguments rfl rfl)
  | guard => exact ensures_guard hp (harguments rfl rfl)
  | throw => exact ensures_applied hp rfl _ (harguments rfl rfl)
  | host => exact ensures_host
  | quote | quasiquote | unquote | unquoteSplice | defineMacro =>
    exact absurd (by simp [keepingNames]) hform

/-! ## All levels -/

/-- A head calls a special form exactly if it is the name of one. -/
theorem ensures_macroOf (head : Term) :
    (Expansion.macroOf head).Ensures fun found =>
      (∃ (form : SpecialForm) (line : Nat), head = .sym form.name line ∧
        found = some ⟨form.name, .special form⟩) ∨
      found = none ∧ ∀ (form : SpecialForm) line, head ≠ .sym form.name line := by
  intro s s' found hs hrun
  by_cases hhead : ∃ (form : SpecialForm) (line : Nat), head = .sym form.name line
  · obtain ⟨form, line, rfl⟩ := hhead
    obtain ⟨hfound, hs'⟩ := ensures_findMacro form.name s s' found hs hrun
    exact ⟨.inl ⟨form, line, rfl, hfound.trans (MacroTable.get?_special form)⟩, hs'⟩
  · have hnone : ∀ (form : SpecialForm) line, head ≠ .sym form.name line :=
      fun form line heq => hhead ⟨form, line, heq⟩
    rw [macroOf_eq_none hnone hs] at hrun
    cases hrun
    exact ⟨.inr ⟨rfl, hnone⟩, hs⟩

theorem isSymbol_form {head : Term}
    (hhead : ∀ (form : SpecialForm) line, head ≠ .sym form.name line) (form : SpecialForm) :
    head.isSymbol form.name = false := by
  cases head with
  | sym name line =>
    refine beq_eq_false_iff_ne.2 fun hname => hhead form line ?_
    rw [Option.some.inj hname]
  | bool | nil | str | num | list | function => rfl

/-- A list that calls no special form is settled by its items. -/
theorem settledList_of_forall₂ {head : Term} {us : List Term}
    (hhead : ∀ (form : SpecialForm) line, head ≠ .sym form.name line)
    (h : List.Forall₂ (fun t u => Term.Settled n u ∧ (u.isList = false → u = t))
      (head :: arguments) us) : (Term.list us).SettledList (n + 1) := by
  refine settled_list ?_ ?_ (forall_settled h)
  · rintro rfl
    cases h
  -- A symbol at the head is expanded to itself, and the old head was no form's name.
  · rintro form line rest rfl
    obtain ⟨⟨-, hself⟩, -⟩ := List.forall₂_cons.1 h
    exact hhead form line (hself rfl).symm

theorem ensures_step [Host.Platform] (hp : p.Settles n) {t : Term} (ht : t.Ordinary) :
    (Expansion.step p t scope).Ensures
      fun u => u.Settled (n + 1) ∧ (u.isList = false → u = t) := by
  have hlist : ∀ u : Term, u.SettledList (n + 1) →
      u.Settled (n + 1) ∧ (u.isList = false → u = t) := fun u hu =>
    ⟨hu.toSettled, fun hatom => absurd (hu.isList.symm.trans hatom) (by simp)⟩
  cases t with
  | bool b => exact ensures_pure ⟨⟨.bool b, .bool b, Nat.zero_le _⟩, fun _ => rfl⟩
  | nil => exact absurd rfl ht.ne_nil
  | str text => exact ensures_pure ⟨⟨.str text, .str text, Nat.zero_le _⟩, fun _ => rfl⟩
  | num x => exact ensures_pure ⟨⟨.num x, .num x, Nat.zero_le _⟩, fun _ => rfl⟩
  | sym name line =>
    exact ensures_pure ⟨⟨.sym name line, .sym name line, Nat.zero_le _⟩, fun _ => rfl⟩
  | function => cases ht.data
  | list items =>
    rw [Expansion.step, Template.filter_of_ne_nil ht.items_ne_nil]
    cases items with
    | nil =>
      cases ht.tidy with
      | list nonempty _ _ => exact absurd rfl nonempty
    | cons head arguments =>
      refine ensures_bind (ensures_macroOf head) fun found hfound => ?_
      rcases hfound with ⟨form, line, rfl, rfl⟩ | ⟨rfl, hhead⟩
      · exact (ensures_special hp ht).imp hlist
      · have hordinary : ∀ u ∈ head :: arguments, u.Ordinary := by
          intro u hu
          refine ht.item ?_
          rwa [besidesParameters_of_ne (isSymbol_form hhead _) (isSymbol_form hhead _)]
        refine ensures_bind (ensures_expandAll hp hordinary) fun us hus => ?_
        exact ensures_pure (hlist _ (settledList_of_forall₂ hhead hus))

end Forms

/-- Expansion settles ordinary terms at every level. -/
theorem settles_passes [Host.Platform] (turns depth : Nat) :
    (passes turns depth).Settles depth := by
  induction depth with
  | zero => exact fun _ _ _ => ensures_throw _
  | succ n ih => exact fun _ _ ht => ensures_step ih ht

/-- A term that is read from a text, in which neither quoting nor a definition
    of a macro occurs, nor nil, nor an empty list except for the parameters of a
    function, nor a definition without a value, is expanded for good: no list in
    its expansion, or in what the functions of the expansion hold back, is
    headed by the name of a special form, and expanding the expansion again
    yields it again and gives no number away. -/
theorem expand_complete [Host.Platform]
    {text : String} {forms : List Term} (hparse : Term.parse text = .ok forms)
    {t : Term} (ht : t ∈ forms)
    (hleaves : t.LeavesOut ["quote", "quasiquote", "unquote", "unquote-splice", "defmacro"])
    (htidy : t.Tidy) {turns depth : Nat} {scope : ScopeId} {s s' : State} {u : Term}
    (hmacros : s.macros = MacroTable.special)
    (hexpand : (passes turns depth).expand t scope s = .ok u s') :
    u.MacroFree ∧ u.depth ≤ depth ∧
      ∀ turns' depth' scope' s'', u.depth < depth' → s''.macros = MacroTable.special →
        (passes turns' depth').expand u scope' s'' = .ok u s'' := by
  obtain ⟨tokens, -, hreads⟩ := Term.reads_of_parse hparse
  have hordinary : t.Ordinary := ⟨hreads.isData t ht, htidy, hleaves⟩
  obtain ⟨⟨hsettled, -⟩, -⟩ :=
    settles_passes turns depth t scope hordinary s s' u hmacros hexpand
  refine ⟨hsettled.macroFree, hsettled.depth, ?_⟩
  intro turns' depth' scope' s'' hdepth hmacros'
  exact expand_eq_self turns' hsettled.macroFree hsettled.compact hdepth scope' hmacros'

/-- A function without parameters, whose body is a choice with a loop in it. -/
theorem expand_complete_lambda :
    let s := State.root (Console.ofLines []) 0 0
    let t : Term := .list [.sym "lambda" 1, .list [],
      .list [.sym "if" 1, .sym "x" 1, .list [.sym "while" 1, .sym "y" 1, .list [.sym "f" 1]]]]
    ∃ u s', (passes 1 5).expand t rootScope s = .ok u s' ∧ u.MacroFree ∧
      (passes 1 5).expand u rootScope s' = .ok u s' := by
  intro s t
  have hscan : Token.scan "(lambda () (if x (while y (f))))" = .ok [⟨.openParen, some "(", 1⟩,
      ⟨.symbol, some "lambda", 1⟩, ⟨.openParen, some "(", 1⟩, ⟨.closeParen, some ")", 1⟩,
      ⟨.openParen, some "(", 1⟩, ⟨.symbol, some "if", 1⟩, ⟨.symbol, some "x", 1⟩,
      ⟨.openParen, some "(", 1⟩, ⟨.symbol, some "while", 1⟩, ⟨.symbol, some "y", 1⟩,
      ⟨.openParen, some "(", 1⟩, ⟨.symbol, some "f", 1⟩, ⟨.closeParen, some ")", 1⟩,
      ⟨.closeParen, some ")", 1⟩, ⟨.closeParen, some ")", 1⟩, ⟨.closeParen, some ")", 1⟩] := by
    decide +kernel
  have hparse : Term.parse "(lambda () (if x (while y (f))))" = .ok [t] := by
    simp only [Term.parse, hscan]
    rfl
  have htidy : t.Tidy := by
    simp [t, Term.tidy_list, besidesParameters, SpecialForm.name, Term.isSymbol, Term.symbolName?,
      Term.isList, List.eraseP_cons]
  have hleaves : t.LeavesOut ["quote", "quasiquote", "unquote", "unquote-splice", "defmacro"] := by
    decide
  obtain ⟨u, s', hexpand, hmacros, hdepth⟩ : ∃ u s', (passes 1 5).expand t rootScope s = .ok u s' ∧
      s'.macros = MacroTable.special ∧ u.depth < 5 := ⟨_, _, rfl, rfl, by decide⟩
  obtain ⟨hfree, -, hagain⟩ := expand_complete hparse List.mem_cons_self hleaves htidy rfl hexpand
  exact ⟨u, s', hexpand, hfree, hagain 1 5 rootScope s' hdepth hmacros⟩

end MiniLisp
