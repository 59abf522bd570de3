import MiniLisp.Proofs.Happening

/-! # Numbers are given once

    Each choice between two forms and each function without a name gets a
    number when its form has been expanded. The number is taken from a counter
    after the parts of the form were expanded, and the counter never falls. So
    what happens in the course of such an expansion has smaller numbers, and
    what happens after it has greater ones.

    * **`Happening.Expands`** — a happening that expands a special form;
    * **`Happening.Takes`** — a happening that takes a number from a counter;
    * **`Ordered.eq_of_takes`** — no number is taken twice;
    * **`Happening.Expands.branch_takes`** and
      **`Happening.Expands.lambda_takes`** — the two forms that take numbers. -/

namespace MiniLisp

/-! ## Taking a number from a counter -/

/-- The number is taken from the counter at the end of the happening: nothing in
    its course goes beyond it. -/
structure Happening.Takes [Host.Platform]
    (turns : Nat) (counter : State → Nat) (h : Happening) (n : Nat) :
    Prop where
  before_le : counter h.before ≤ n
  after_eq : counter h.after = n + 1
  inside_le : ∀ h', Inside turns h' h → counter h'.after ≤ n

/-- Two happenings of a run that take the same number are the same one. -/
theorem Ordered.eq_of_takes [Host.Platform]
    {turns n : Nat} {counter : State → Nat} {h h' : Happening}
    (hcounter : ∀ s s', State.Onward s s' → counter s ≤ counter s') (hordered : Ordered turns h h')
    (hn : h.Takes turns counter n) (hn' : h'.Takes turns counter n) : h = h' := by
  have hafter := hn.after_eq
  have hafter' := hn'.after_eq
  cases hordered with
  | same heq => exact heq
  | earlier honward =>
    have hle := hcounter _ _ honward
    have hbefore := hn'.before_le
    omega
  | later honward =>
    have hle := hcounter _ _ honward
    have hbefore := hn.before_le
    omega
  | inside hinside =>
    have hle := hn'.inside_le h hinside
    omega
  | around haround =>
    have hle := hn.inside_le h' haround
    omega

/-! ## Expansions of special forms -/

/-- In the state, the term is a call of the special form with the arguments. -/
def Term.Calls (s : State) (form : SpecialForm) (arguments : List Term) (t : Term) : Prop :=
  ∃ items name line m, t = .list items ∧
    items.filter (fun t => !t.isNil) = .sym name line :: arguments ∧
    s.macros.get? name = some m ∧ m.expander = .special form

theorem Term.Calls.step_eq [Host.Platform]
    {s : State} {form : SpecialForm} {arguments : List Term} {t : Term}
    (ht : t.Calls s form arguments) (p : Passes) (scope : ScopeId) :
    Expansion.step p t scope s = Expansion.special p form arguments scope s := by
  obtain ⟨items, name, line, m, rfl, hitems, hfound, hm⟩ := ht
  have hmacro : Expansion.macroOf (.sym name line) s = .ok (some m) s := by
    rw [← hfound]
    rfl
  unfold Expansion.step
  simp only [hitems]
  rw [Action.bind_ok hmacro]
  show Expansion.callMacro p m arguments scope s = _
  unfold Expansion.callMacro
  rw [hm]

/-- The happening expands a call of the special form, and this is what comes
    out. -/
def Happening.Expands (h : Happening) (form : SpecialForm) (arguments : List Term) (r : Term) :
    Prop :=
  ∃ t scope s', h.visit = .expand t scope ∧ t.Calls h.before form arguments ∧
    h.outcome = .ok r s'

section Expansions

variable {turns : Nat} {counter : State → Nat} {h : Happening} {form : SpecialForm}
  {arguments : List Term} {r : Term} {s : State} {β : Type} {parts : Passes → Action β}
  {finish : β → Action Term}

/-- Where an expansion is made of parts that visit and of an end that does not,
    what happens inside of it happens in the parts. -/
theorem onward_parts [Host.Platform] {n : Nat} {stop : Stop} (hparts : Regular none parts)
    (hne : (parts (watchedPasses turns h.watch stop n) >>= finish) s ≠
      (parts (passes turns n) >>= finish) s) :
    h.after.Onward ((parts (passes turns n)).after s) := by
  have hpasses := relPasses_orders turns h h stop stop n
  refine ((hparts _ _ _ _ hpasses).first s fun hsame => hne ?_).2.1
  exact Action.bind_congr hsame finish

/-- An expansion takes a number, and shows it, if its end does. -/
theorem Happening.Expands.takes [Host.Platform] {parts : ScopeId → Passes → Action β}
    (shows : Nat → Term → Prop) (hexpands : h.Expands form arguments r) (hgenuine : h.Genuine turns)
    (hcounter : ∀ s s', State.Onward s s' → counter s ≤ counter s')
    (hparts : ∀ scope, Regular none (parts scope))
    (hspecial : ∀ p scope, Expansion.special p form arguments scope = parts scope p >>= finish)
    (hfinish : ∀ b s r s', finish b s = .ok r s' →
      shows (counter s) r ∧ counter s' = counter s + 1) :
    ∃ n, shows n r ∧ h.Takes turns counter n := by
  obtain ⟨visit, s, outcome⟩ := h
  obtain ⟨t, scope, s', rfl, hcalls, rfl⟩ := hexpands
  have hstep : ∀ p, Expansion.step p t scope s = (parts scope p >>= finish) s := fun p =>
    (hcalls.step_eq p scope).trans (congrFun (hspecial p scope) s)
  -- On every level where the expansion ends like this, so do its parts.
  have hlevel : ∀ m, .ok r s' = ((passes turns m).expand t scope) s →
      ∃ k, m = k + 1 ∧ shows (counter ((parts scope (passes turns k)).after s)) r ∧
        counter s' = counter ((parts scope (passes turns k)).after s) + 1 := by
    intro m hm
    cases m with
    | zero => cases hm
    | succ k =>
      rw [expand_passes, hstep] at hm
      obtain ⟨b, s₁, hends, hfinished⟩ := Action.exists_of_bind_ok hm.symm
      refine ⟨k, rfl, ?_⟩
      rw [Action.after_ok hends]
      exact hfinish b s₁ r s' hfinished
  obtain ⟨m, hm⟩ := hgenuine
  obtain ⟨k, -, hshows, hs'⟩ := hlevel m hm
  refine ⟨_, hshows, ?_, hs', ?_⟩
  · have hpasses := Congruence.relPasses_passes (C := Footprint.onward.congruence) (fun _ => id)
      turns k
    exact hcounter _ _ (hparts scope _ _ _ _ hpasses s)
  · rintro h' ⟨m', stop, hm', hne⟩
    obtain ⟨k', rfl, -, hs''⟩ := hlevel m' hm'
    rw [hm'] at hne
    change Expansion.step (watchedPasses turns h'.watch stop k') t scope s ≠
      Expansion.step (passes turns k') t scope s at hne
    rw [hstep, hstep] at hne
    have honward := hcounter _ _ (onward_parts (hparts scope) hne)
    omega

end Expansions

/-- What is put between two texts can be told from the whole. -/
theorem eq_of_enclosed {m n : Nat} {left right : String}
    (h : left ++ toString m ++ right = left ++ toString n ++ right) : m = n := by
  have hdigits : Nat.toDigits 10 m = Nat.toDigits 10 n := by
    simpa using congrArg String.toList h
  have hread : ∀ k, Nat.ofDigitChars 10 (Nat.toDigits 10 k) 0 = k := fun k =>
    Nat.ofDigitChars_toDigits (by decide) (by decide)
  rw [← hread m, hdigits, hread n]

/-! ## Choices between two forms -/

/-- The id of the choice with a number. -/
def branchId (n : Nat) : String :=
  "<native if[" ++ toString n ++ "]>"

/-- The expanded choice has the number. -/
def Term.ShowsBranch (n : Nat) (t : Term) : Prop :=
  ∃ tag code test, t = .list [.function tag code, test] ∧ tag.id = some (branchId n)

theorem Term.ShowsBranch.unique {m n : Nat} {t : Term} (hm : t.ShowsBranch m)
    (hn : t.ShowsBranch n) : m = n := by
  obtain ⟨tag, code, test, rfl, hid⟩ := hm
  obtain ⟨_, _, _, heq, hid'⟩ := hn
  cases heq
  exact eq_of_enclosed (Option.some.inj (hid.symm.trans hid'))

/-- The expansion of the parts of a choice. -/
def branchParts (arguments : List Term) (scope : ScopeId) (p : Passes) : Action (List Term) :=
  match arguments with
  | [c, t] => p.expandAll [c, t] scope
  | [c, t, e] => p.expandAll [c, t, e] scope
  | _ => Action.fail (.form .branchCount)

/-- What follows the expansion of the parts of a choice. -/
def numberBranch (line : Nat) : List Term → Action Term
  | test :: thenCase :: others => do
      let number ← Action.nextBranch
      let step ← Action.newFunction (some (branchId number)) none line
        (.branch thenCase (others.headD .nil))
      return .list [step, test]
  | _ => Action.fail (.form .branchCount)

theorem branch_eq (p : Passes) (arguments : List Term) (scope : ScopeId) :
    Expansion.branch p arguments scope =
      branchParts arguments scope p >>= numberBranch (arguments.headD .nil).line := by
  match arguments with
  | [c, t] => simp [Expansion.branch, branchParts, Passes.expandAll, numberBranch, branchId]
  | [c, t, e] => simp [Expansion.branch, branchParts, Passes.expandAll, numberBranch, branchId]
  | [] | [_] | _ :: _ :: _ :: _ :: _ => rfl

theorem regular_branchParts [Host.Platform] (arguments : List Term) (scope : ScopeId) :
    Regular none (branchParts arguments scope) := by
  intro C p q r hp
  unfold branchParts
  split
  · exact Congruence.rel_expandAll hp _ scope
  · exact Congruence.rel_expandAll hp _ scope
  · exact Congruence.rel_fail _

theorem showsBranch_of_numberBranch {line : Nat} {parts : List Term} {r : Term} {s s' : State}
    (h : numberBranch line parts s = .ok r s') :
    r.ShowsBranch s.branches ∧ s'.branches = s.branches + 1 := by
  unfold numberBranch at h
  split at h
  · cases h
    exact ⟨⟨_, _, _, rfl, rfl⟩, rfl⟩
  · cases h

/-- A choice that is expanded takes its number from the counter for choices. -/
theorem Happening.Expands.branch_takes [Host.Platform]
    {turns : Nat} {h : Happening} {arguments : List Term}
    {r : Term} (hexpands : h.Expands .branch arguments r) (hgenuine : h.Genuine turns) :
    ∃ n, r.ShowsBranch n ∧ h.Takes turns State.branches n :=
  hexpands.takes Term.ShowsBranch hgenuine (fun _ _ honward => honward.branches_le)
    (regular_branchParts arguments) (fun p scope => branch_eq p arguments scope)
    fun _ _ _ _ hends => showsBranch_of_numberBranch hends

/-! ## Functions without a name -/

/-- The id of the function without a name that has a number. -/
def lambdaId (n : Nat) : String :=
  "(anonymous lambda #" ++ toString n ++ ")"

/-- The functions that the expanded form makes have the number. -/
def Term.ShowsLambda (n : Nat) (t : Term) : Prop :=
  ∃ tag formals rest body description line, t = .list [.function tag
    (.makeClosure formals rest body (lambdaId n) description line)]

theorem Term.ShowsLambda.unique {m n : Nat} {t : Term} (hm : t.ShowsLambda m)
    (hn : t.ShowsLambda n) : m = n := by
  obtain ⟨tag, formals, rest, body, description, line, rfl⟩ := hm
  obtain ⟨_, _, _, _, _, _, heq⟩ := hn
  injection heq with hitems
  injection hitems with hfunction
  injection hfunction with htag hcode
  injection hcode with _ _ _ hid
  exact eq_of_enclosed hid

/-- The shape of a function and the expansion of its body. -/
def lambdaParts (arguments : List Term) (scope : ScopeId) (p : Passes) :
    Action (List String × Option String × Nat × List Term) :=
  match arguments with
  | .list parameters :: form :: forms =>
      match Term.symbolNames? parameters with
      | none => Action.fail (.form .lambdaParameters)
      | some names =>
        match Expansion.splitParameters names with
        | .error e => Action.fail (.form e)
        | .ok (formals, rest) => do
            let body ← p.expandBody (form :: forms) scope
            return (formals, rest, (parameters.head?.map Term.line).getD 0, body)
  | _ :: _ :: _ => Action.fail (.form .lambdaParameters)
  | _ => Action.fail (.form .lambdaCount)

/-- What follows the expansion of the body of a function without a name. -/
def numberLambda : List String × Option String × Nat × List Term → Action Term
  | (formals, rest, line, body) => do
      let number ← Action.nextLambda
      let step ← Action.newStep (.makeClosure formals rest body (lambdaId number) none line)
      return .list [step]

theorem lambda_eq {arguments : List Term} (h : (Expansion.takeText arguments).1 = none)
    (p : Passes) (scope : ScopeId) :
    Expansion.lambda p arguments scope = lambdaParts arguments scope p >>= numberLambda := by
  have htext : Expansion.takeText arguments = (none, arguments) := by
    unfold Expansion.takeText at h ⊢
    split
    · cases h
    · rfl
  unfold Expansion.lambda
  simp only [htext]
  rcases arguments with _ | ⟨first, _ | ⟨form, forms⟩⟩
  · rfl
  · cases first <;> rfl
  · cases first with
    | list parameters =>
      dsimp only [lambdaParts]
      cases hnames : Term.symbolNames? parameters with
      | none => rfl
      | some names =>
        dsimp only
        cases hsplit : Expansion.splitParameters names with
        | error e => rfl
        | ok formals =>
          simp only [bind_assoc, pure_bind]
          rfl
    | bool _ | nil | str _ | num _ | sym _ _ | function _ _ => rfl

theorem regular_lambdaParts [Host.Platform] (arguments : List Term) (scope : ScopeId) :
    Regular none (lambdaParts arguments scope) := by
  intro C p q r hp
  unfold lambdaParts
  split
  · split
    · exact Congruence.rel_fail _
    · split
      · exact Congruence.rel_fail _
      · refine Congruence.rel_bind (Congruence.rel_expandBody hp _ scope) fun body => ?_
        exact Congruence.rel_pure _
  · exact Congruence.rel_fail _
  · exact Congruence.rel_fail _

theorem showsLambda_of_numberLambda {parts : List String × Option String × Nat × List Term}
    {r : Term} {s s' : State} (h : numberLambda parts s = .ok r s') :
    r.ShowsLambda s.lambdas ∧ s'.lambdas = s.lambdas + 1 := by
  obtain ⟨formals, rest, line, body⟩ := parts
  cases h
  exact ⟨⟨_, _, _, _, _, _, rfl⟩, rfl⟩

/-- A function without a name that is expanded takes its number from the counter
    for such functions. -/
theorem Happening.Expands.lambda_takes [Host.Platform]
    {turns : Nat} {h : Happening} {arguments : List Term}
    {r : Term} (hexpands : h.Expands .lambda arguments r)
    (hunnamed : (Expansion.takeText arguments).1 = none) (hgenuine : h.Genuine turns) :
    ∃ n, r.ShowsLambda n ∧ h.Takes turns State.lambdas n :=
  hexpands.takes Term.ShowsLambda hgenuine (fun _ _ honward => honward.lambdas_le)
    (regular_lambdaParts arguments) (fun p scope => lambda_eq hunnamed p scope)
    fun _ _ _ _ hends => showsLambda_of_numberLambda hends

end MiniLisp
