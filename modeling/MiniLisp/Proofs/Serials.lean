import MiniLisp.Proofs.Expanded
import MiniLisp.Proofs.Pairing.Root
import MiniLisp.Proofs.Watch

/-! # Serial numbers

    A function gets the next serial number when it is made, so no function that
    a run can come by has a number that is still to be given away. This holds in
    the state in which a program starts, and everything that a run does keeps it
    so. Hence it makes no difference at which number a run goes on: with one
    number left out, the functions that it makes have other numbers, and nothing
    else changes.

    Both are read off a comparison of two runs, one of which has left out a
    number. If it is one that the runs do not reach, they are the same run, and
    what they end with is numbered below it.

    * **`State.Numbered`** — all functions have numbers that were given away;
    * **`Likeness.later`** — from a number on, all numbers are later by one;
    * **`Visit.numbered`** — runs keep states numbered;
    * **`Visit.ends_later`** — a run that goes on with the number after next. -/

namespace MiniLisp

/-! ## Numbers that were given away -/

/-- Every function in the term, and in what functions in it hold back, has a
    serial number below `n`. -/
inductive Term.MadeBefore (n : Nat) : Term → Prop where
  | bool (value : Bool) : MadeBefore n (.bool value)
  | nil : MadeBefore n .nil
  | str (text : String) : MadeBefore n (.str text)
  | num (value : Float) : MadeBefore n (.num value)
  | sym (name : String) (line : Nat) : MadeBefore n (.sym name line)
  | list {items : List Term} (each : ∀ t ∈ items, t.MadeBefore n) : MadeBefore n (.list items)
  | function {tag : FunctionTag} {code : Code} (serial : tag.serial < n)
      (held : ∀ t ∈ code.held, t.MadeBefore n) : MadeBefore n (.function tag code)

/-- Every function in the body of a template has a serial number below `n`. -/
def Expander.MadeBefore (n : Nat) : Expander → Prop
  | .special _ => True
  | .template _ _ body => ∀ t ∈ body, t.MadeBefore n

/-- Every function that a pass is given has a serial number below `n`. -/
def Visit.MadeBefore (n : Nat) : Visit → Prop
  | .expand t _ => t.MadeBefore n
  | .evaluate t _ => t.MadeBefore n
  | .call code arguments _ =>
      (∀ t ∈ code.held, t.MadeBefore n) ∧ ∀ t ∈ arguments, t.MadeBefore n

/-- No function that is bound, or that a template holds, has a serial number
    that is still to be given away. -/
structure State.Numbered (s : State) : Prop where
  bound : ∀ id key t, (s.scopes.bindingsOf id).get? key = some t → t.MadeBefore s.functions
  macros : ∀ key m, s.macros.get? key = some m → m.expander.MadeBefore s.functions

/-- Data is numbered, since there are no functions in it. -/
theorem Term.IsData.madeBefore {t : Term} (h : t.IsData) (n : Nat) : t.MadeBefore n := by
  induction h with
  | bool value => exact .bool value
  | nil => exact .nil
  | str text => exact .str text
  | num value => exact .num value
  | sym name line => exact .sym name line
  | list _ ih => exact .list ih

/-! ## Leaving out a number -/

/-- Nothing but the serial numbers differs: those from `m` on are later by one. -/
def Likeness.later (m : Nat) : Likeness where
  __ := Likeness.same
  serial a a' := a' = if a < m then a else a + 1
  serial_iff := by
    intro a a' b b' ha hb
    split_ifs at ha hb <;> omega

variable {m n : Nat}

/-- A number below `m` is the same in both runs. -/
theorem serial_later_self {a : Nat} : (Likeness.later m).serial a a ↔ a < m := by
  simp only [Likeness.later]
  constructor
  · intro h
    by_contra hge
    rw [if_neg hge] at h
    omega
  · intro h
    rw [if_pos h]

/-! ### Terms that are like themselves -/

theorem code_like_self {code : Code} (h : ∀ t ∈ code.held, t.Like (.later m) t) :
    code.Like (.later m) code := by
  cases code with
  | builtin b => exact .builtin b
  | closure => exact .closure (fun _ _ => trivial) (List.forall₂_same.2 h)
  | makeClosure => exact .makeClosure (fun _ _ => trivial) (List.forall₂_same.2 h) rfl
  | define => exact .define trivial
  | assign => exact .assign trivial
  | branch thenForm elseForm =>
    exact .branch (h _ (by simp [Code.held])) (h _ (by simp [Code.held]))
  | lastValue => exact .lastValue
  | loop condition body =>
    obtain ⟨hcondition, hbody⟩ := List.forall_mem_cons.1 h
    exact .loop hcondition (List.forall₂_same.2 hbody)
  | leaveLoop => exact .leaveLoop
  | evaluateValue => exact .evaluateValue
  | readText => exact .readText trivial
  | guarded body fallback => exact .guarded (h _ (by simp [Code.held])) (h _ (by simp [Code.held]))
  | throwValue => exact .throwValue
  | host => exact .host fun _ _ => trivial

theorem Term.MadeBefore.like_self {t : Term} (h : t.MadeBefore n) (hle : n ≤ m) :
    t.Like (.later m) t := by
  induction h with
  | bool value => exact .bool value
  | nil => exact .nil
  | str text => exact .str text
  | num value => exact .num value
  | sym name line => exact .sym trivial rfl
  | list _ ih => exact .list (List.forall₂_same.2 ih)
  | function serial _ ih =>
    have hserial := serial_later_self.2 (Nat.lt_of_lt_of_le serial hle)
    exact .function ⟨hserial, rfl, rfl, rfl⟩ (code_like_self ih)

theorem alike_self_of_madeBefore {ts : List Term} (h : ∀ t ∈ ts, t.MadeBefore n) (hle : n ≤ m) :
    List.Forall₂ (Term.Like (.later m)) ts ts :=
  List.forall₂_same.2 fun t ht => (h t ht).like_self hle

mutual

/-- A term that is like itself has no numbers from `m` on. -/
theorem madeBefore_of_like {t t' : Term} (h : t.Like (.later m) t') (heq : t' = t) :
    t.MadeBefore m := by
  cases h with
  | bool value => exact .bool value
  | nil => exact .nil
  | str text => exact .str text
  | num value => exact .num value
  | sym => exact .sym _ _
  | list each => exact .list (madeBefore_of_forall₂ each (Term.list.inj heq))
  | function tags codes =>
    obtain ⟨rfl, hcode⟩ := Term.function.inj heq
    exact .function (serial_later_self.1 tags.serial) (madeBefore_of_codeLike codes hcode)

theorem madeBefore_of_forall₂ {ts ts' : List Term} (h : List.Forall₂ (Term.Like (.later m)) ts ts')
    (heq : ts' = ts) : ∀ t ∈ ts, t.MadeBefore m := by
  cases h with
  | nil => exact List.forall_mem_nil _
  | cons first others =>
    obtain ⟨hfirst, hothers⟩ := List.cons.inj heq
    exact List.forall_mem_cons.2
      ⟨madeBefore_of_like first hfirst, madeBefore_of_forall₂ others hothers⟩

theorem madeBefore_of_codeLike {code code' : Code} (h : code.Like (.later m) code')
    (heq : code' = code) : ∀ t ∈ code.held, t.MadeBefore m := by
  cases h with
  | closure _ bodies =>
    obtain ⟨-, -, hbody, -⟩ := Code.closure.inj heq
    exact madeBefore_of_forall₂ bodies hbody
  | makeClosure _ bodies _ =>
    obtain ⟨-, -, hbody, -⟩ := Code.makeClosure.inj heq
    exact madeBefore_of_forall₂ bodies hbody
  | branch thens elses =>
    obtain ⟨hthen, helse⟩ := Code.branch.inj heq
    have hpair := And.intro (madeBefore_of_like thens hthen) (madeBefore_of_like elses helse)
    simpa [Code.held] using hpair
  | loop conditions bodies =>
    obtain ⟨hcondition, hbody⟩ := Code.loop.inj heq
    exact List.forall_mem_cons.2
      ⟨madeBefore_of_like conditions hcondition, madeBefore_of_forall₂ bodies hbody⟩
  | guarded tries fallbacks =>
    obtain ⟨htry, hfallback⟩ := Code.guarded.inj heq
    have hpair := And.intro (madeBefore_of_like tries htry) (madeBefore_of_like fallbacks hfallback)
    simpa [Code.held] using hpair
  | builtin | define | assign | lastValue | leaveLoop | evaluateValue | readText | throwValue
  | host => exact List.forall_mem_nil _

end

theorem Term.Like.madeBefore {t : Term} (h : t.Like (.later m) t) : t.MadeBefore m :=
  madeBefore_of_like h rfl

theorem expander_like_self {e : Expander} (h : e.MadeBefore n) (hle : n ≤ m) :
    e.Like (.later m) e := by
  cases e with
  | special form => exact .special trivial
  | template => exact .template trivial (fun _ _ => trivial) (alike_self_of_madeBefore h hle)

theorem madeBefore_of_expanderLike {e : Expander} (h : e.Like (.later m) e) :
    e.MadeBefore m := by
  cases h with
  | special => trivial
  | template _ _ bodies => exact madeBefore_of_forall₂ bodies rfl

/-! ### States and the numbers to come -/

/-- The number that corresponds to the next one, if the number `m` is left out
    when it is its turn. -/
theorem exists_serial_upTo (m n : Nat) :
    ∃ k, (Likeness.later m).serial n k ∧ k + 1 = (if n + 1 ≤ m then n + 1 else n + 1 + 1) ∧
      (k = (if n ≤ m then n else n + 1) ∨ ¬ n + 1 ≤ m) := by
  refine ⟨if n < m then n else n + 1, rfl, ?_, ?_⟩
  · split_ifs <;> omega
  · split_ifs <;> omega

/-- The second run leaves out the number `m` when it comes to it. Until then the
    runs are the same, and from then on the first one is let go. -/
def Numbering.upTo (m : Nat) : Numbering (.later m) where
  count n n' := n' = if n ≤ m then n else n + 1
  past n := ¬ n ≤ m
  past_mono hle hpast hle' := hpast (Nat.le_trans hle hle')
  next := by
    rintro n _ rfl
    exact exists_serial_upTo m n

/-- The second run has left out the number `m`. -/
def Numbering.later (m : Nat) : Numbering (.later m) where
  count n n' := m ≤ n ∧ n' = n + 1
  past _ := False
  past_mono _ h := h
  next := by
    rintro n _ ⟨hle, rfl⟩
    exact ⟨n + 1, (if_neg (Nat.not_lt.2 hle)).symm, ⟨Nat.le_succ_of_le hle, rfl⟩, .inl rfl⟩

section States

variable {s s' : State} {N : Numbering (.later m)}

/-- A state that is numbered is a twin of itself but for the next number. -/
theorem State.Numbered.twin (h : s.Numbered) (hle : s.functions ≤ m) {next : Nat}
    (hnext : N.count s.functions next) : Twin N s { s with functions := next } where
  size := rfl
  enclosing _ := rfl
  bound id key _ := by
    dsimp only
    cases hfound : (s.scopes.bindingsOf id).get? key with
    | none => exact .none
    | some t => exact .some ((h.bound id key t hfound).like_self hle)
  macros key _ := by
    dsimp only
    cases hfound : s.macros.get? key with
    | none => exact .none
    | some found => exact .some (expander_like_self (h.macros key found hfound) hle)
  console := rfl
  branches := rfl
  lambdas := rfl
  functions := hnext

/-- A state that is a twin of itself is numbered, if the number that is left out
    comes next. -/
theorem Twin.numbered (h : Twin N s s) (hnext : s.functions = m) : s.Numbered where
  bound id key t ht := by
    have hbound := h.bound id key (.inl trivial)
    rw [ht] at hbound
    cases hbound with
    | some halike => exact hnext ▸ halike.madeBefore
  macros key found hfound := by
    have hmacros := h.macros key trivial
    rw [hfound] at hmacros
    cases hmacros with
    | some halike => exact hnext ▸ madeBefore_of_expanderLike halike

end States

/-! ## Runs -/

section Runs

variable [Host.Platform] {s : State} {v : Visit}

/-- Whatever a pass is given that is numbered, it keeps twins twins. -/
theorem Visit.sim_self (hv : v.MadeBefore n) (hle : n ≤ m) (N : Numbering (.later m))
    (turns depth : Nat) :
    (Pairing.twins N).Sim (Term.Like (.later m)) (v.run (passes turns depth))
      (v.run (passes turns depth)) := by
  have reads : (Likeness.later m).form .readText → ∀ t : Term, t.IsData → t.Like (.later m) t :=
    fun _ t ht => (ht.madeBefore 0).like_self (Nat.zero_le m)
  have hpasses := Pairing.simTwins_passes (N := N) reads (fun _ => trivial) turns depth
  cases v with
  | expand t scope => exact hpasses.expand scope (Term.MadeBefore.like_self hv hle)
  | evaluate t scope => exact hpasses.evaluate scope (Term.MadeBefore.like_self hv hle)
  | call code arguments scope =>
    obtain ⟨hcode, harguments⟩ := hv
    have hheld : ∀ t ∈ code.held, t.Like (.later m) t := fun t ht => (hcode t ht).like_self hle
    exact hpasses.call scope (code_like_self hheld) (alike_self_of_madeBefore harguments hle)

/-- What a pass does keeps the state numbered, and the value is numbered, too. No
    number is taken back. -/
theorem Visit.numbered (hs : s.Numbered) (hv : v.MadeBefore s.functions) (turns depth : Nat) :
    let x := v.run (passes turns depth)
    s.functions ≤ (x.after s).functions ∧ (x.after s).Numbered ∧
      ∀ t, x.ending s = .ok t → t.MadeBefore (x.after s).functions := by
  intro x
  have hsim : ∀ m, s.functions ≤ m →
      (Pairing.twins (.upTo m)).Sim (Term.Like (.later m)) x x := fun m hle =>
    Visit.sim_self hv hle (.upTo m) turns depth
  have htwin : ∀ m, s.functions ≤ m → Twin (.upTo m) s s := fun m hle =>
    hs.twin hle (if_pos hle).symm
  have hle : s.functions ≤ (x.after s).functions :=
    (hsim _ (Nat.le_refl _) s s (htwin _ (Nat.le_refl _))).1
  -- The number that is left out is the one that the run has come to.
  have hends := (hsim _ hle).ends (htwin _ hle) fun hpast => hpast (Nat.le_refl _)
  refine ⟨hle, ?_⟩
  unfold Action.after Action.ending at *
  generalize x s = r at hends ⊢
  cases r with
  | ok value s' =>
    cases hends with
    | ok values states =>
      refine ⟨Twin.numbered states rfl, ?_⟩
      rintro t ⟨⟩
      exact Term.Like.madeBefore values
  | error stop s' =>
    cases hends with
    | stop causes states => exact ⟨Twin.numbered states rfl, nofun⟩

/-- A run that goes on with the number after next ends like the one that goes on
    with the next number. -/
theorem Visit.ends_later (hs : s.Numbered) (hv : v.MadeBefore s.functions) (turns depth : Nat) :
    (Pairing.twins (.later s.functions)).Ends (Term.Like (.later s.functions))
      (v.run (passes turns depth) s)
      (v.run (passes turns depth) { s with functions := s.functions + 1 }) := by
  have hsim := Visit.sim_self hv (Nat.le_refl _) (.later s.functions) turns depth
  have htwin := hs.twin (N := .later s.functions) (Nat.le_refl _) ⟨Nat.le_refl _, rfl⟩
  exact hsim.ends htwin id

end Runs

/-- The state in which a program starts is numbered. -/
theorem State.numbered_root (console : Console) (branches lambdas : Nat) :
    (State.root console branches lambdas).Numbered := by
  have htwin : Twin (.upTo Builtin.all.length) (State.root console branches lambdas)
      (State.root console branches lambdas) :=
    .root (fun _ h => serial_later_self.2 h) (fun _ _ => trivial) (if_pos (Nat.le_refl _)).symm
      console branches lambdas
  exact htwin.numbered rfl

end MiniLisp
