import MiniLisp.Proofs.Congruence.Watched
import MiniLisp.Proofs.Footprint

/-! # What happens in a run, and in which order

    In the course of a run one visit comes after another one or inside of it.
    A visit is pinned down by what was asked for, the state it began in and
    what came out; it happens in a run if the run is another one when just this
    visit is watched for.

    As long as a run goes on, some things only ever become more: what was
    shown, the macros that have a name, the numbers that were given out. So the
    state at an earlier moment leads onward to the state at a later one. Any two
    happenings of a run are ordered in this sense, however the run ends: one of
    them is over before the other one begins, or it happens in its course.

    * **`State.Onward`** and **`State.Carried`** — the way from one state to a
      later one, in the same program or in another one of a session;
    * **`Happening`**, **`Happens`**, **`Inside`** — what happens in a run;
    * **`Ordered`** — the order of two happenings;
    * **`Happens.onward`** and **`Happens.ordered`** — every run is in order. -/

namespace MiniLisp

/-! ## Onward -/

/-- A console goes on: what was shown stays, more may be shown after it, and
    each prompt that is shown takes away the first line that is unread. -/
structure Console.Onward (c c' : Console) : Prop where
  shown : c.shown.toList <+: c'.shown.toList
  unread : c'.unread = c.unread.drop (c'.prompts.length - c.prompts.length)

namespace Console.Onward

variable {c c' c'' : Console}

theorem lines (h : c.Onward c') : c.lines <+: c'.lines :=
  h.shown.filterMap _

theorem prompts (h : c.Onward c') : c.prompts <+: c'.prompts :=
  h.shown.filterMap _

theorem refl (c : Console) : c.Onward c where
  shown := List.prefix_refl _
  unread := by simp

theorem trans (h : c.Onward c') (h' : c'.Onward c'') : c.Onward c'' where
  shown := h.shown.trans h'.shown
  unread := by
    have hle := h.prompts.length_le
    have hle' := h'.prompts.length_le
    rw [h'.unread, h.unread, List.drop_drop]
    congr 1
    omega

theorem writeLine (c : Console) (text : String) : c.Onward (c.writeLine text) where
  shown := by simp [Console.writeLine]
  unread := by simp

theorem readLine (c : Console) (prompt : String) : c.Onward (c.readLine prompt).2 where
  shown := by
    unfold Console.readLine
    split <;> simp
  unread := by
    rw [prompts_readLine, List.length_append, Nat.add_sub_cancel_left]
    unfold Console.readLine
    split <;> simp [*]

end Console.Onward

/-- What a session carries from one program to the next has gone on: the
    console does, and no number is given out again. -/
structure State.Carried (s s' : State) : Prop where
  console : s.console.Onward s'.console
  branches_le : s.branches ≤ s'.branches
  lambdas_le : s.lambdas ≤ s'.lambdas

theorem State.Carried.trans {s s' s'' : State} (h : s.Carried s') (h' : s'.Carried s'') :
    s.Carried s'' :=
  ⟨h.console.trans h'.console, Nat.le_trans h.branches_le h'.branches_le,
    Nat.le_trans h.lambdas_le h'.lambdas_le⟩

/-- A state goes on in the course of a run: macros keep their names, too. -/
structure State.Onward (s s' : State) : Prop extends State.Carried s s' where
  macros : s.macros.names ⊆ s'.macros.names

namespace State.Onward

variable {s s' s'' : State}

/-- Nothing has become more. -/
theorem unchanged (hconsole : s'.console = s.console) (hmacros : s'.macros = s.macros)
    (hbranches : s'.branches = s.branches) (hlambdas : s'.lambdas = s.lambdas) : s.Onward s' where
  console := hconsole ▸ .refl _
  branches_le := hbranches.ge
  lambdas_le := hlambdas.ge
  macros := hmacros ▸ List.Subset.refl _

theorem refl (s : State) : s.Onward s :=
  .unchanged rfl rfl rfl rfl

theorem trans (h : s.Onward s') (h' : s'.Onward s'') : s.Onward s'' where
  toCarried := h.toCarried.trans h'.toCarried
  macros := List.Subset.trans h.macros h'.macros

theorem addMacro (m : Macro) (s : State) : s.Onward { s with macros := s.macros.add m } where
  console := .refl _
  branches_le := Nat.le_refl _
  lambdas_le := Nat.le_refl _
  macros name hname := by
    unfold MacroTable.add
    rw [Bindings.names_set]
    split
    · exact hname
    · exact List.mem_append_left _ hname

theorem ofConsole {c : Console} (h : s.console.Onward c) : s.Onward { s with console := c } where
  console := h
  branches_le := Nat.le_refl _
  lambdas_le := Nat.le_refl _
  macros := List.Subset.refl _

end State.Onward

/-- Every action goes onward. -/
def Footprint.onward : Footprint where
  allows _ s s' := s.Onward s'
  refl _ s := .refl s
  trans _ _ _ _ h h' := h.trans h'
  widen _ _ _ h := h
  fresh _ _ _ h := ⟨⟨h.console, h.branches_le, h.lambdas_le⟩, h.macros⟩
  define _ _ _ _ := .unchanged rfl rfl rfl rfl
  assign _ _ _ _ := .unchanged rfl rfl rfl rfl
  addMacro m s := .addMacro m s
  newFunction _ := .unchanged rfl rfl rfl rfl
  nextBranch _ := ⟨⟨.refl _, Nat.le_succ _, Nat.le_refl _⟩, List.Subset.refl _⟩
  nextLambda _ := ⟨⟨.refl _, Nat.le_refl _, Nat.le_succ _⟩, List.Subset.refl _⟩
  writeLine text _ := .ofConsole (.writeLine _ text)
  readLine prompt _ := .ofConsole (.readLine _ prompt)

/-! ## Happenings -/

/-- A visit with the state it began in and what came out. -/
structure Happening where
  visit : Visit
  before : State
  outcome : Outcome Term

namespace Happening

/-- The state that the visit left behind. -/
def after (h : Happening) : State :=
  h.outcome.state

/-- The watch that finds just this happening bad. -/
def watch (h : Happening) : Watch :=
  fun v s r => h = ⟨v, s, r⟩

/-- What came out is what comes out of the visit on some level. -/
def Genuine [Host.Platform] (turns : Nat) (h : Happening) : Prop :=
  ∃ n, h.outcome = h.visit.run (passes turns n) h.before

end Happening

variable [Host.Platform]

/-- It happens in the course of the run: watching for it makes a difference. -/
def Happens {α : Type} (turns depth : Nat) (run : Passes → Action α) (s : State)
    (h : Happening) : Prop :=
  ¬ Avoids turns depth h.watch run s

/-- The first one happens in the course of the second one. -/
def Inside (turns : Nat) (h h' : Happening) : Prop :=
  ∃ n stop, h'.outcome = h'.visit.run (passes turns n) h'.before ∧
    h'.visit.run (coursePasses turns h.watch stop n) h'.before ≠ h'.outcome

/-- The order of two happenings. -/
inductive Ordered (turns : Nat) (h h' : Happening) : Prop where
  | same (heq : h = h')
  | earlier (honward : h.after.Onward h'.before)
  | later (honward : h'.after.Onward h.before)
  | inside (hinside : Inside turns h h')
  | around (haround : Inside turns h' h)

/-! ## Where a watch makes a difference -/

section Differences

variable {α β : Type} {x y : Action α} {s : State}

omit [Host.Platform] in
theorem state_eq_after (x : Action α) (s : State) : Outcome.state (x s) = x.after s := by
  unfold Outcome.state Action.after
  cases x s <;> rfl

omit [Host.Platform] in
/-- A difference is made by the action itself or by its sequel. -/
theorem sequel_ne {k l : Except Stop α → Action β} (hne : y.sequel l s ≠ x.sequel k s) :
    y s ≠ x s ∨ l (x.ending s) (x.after s) ≠ k (x.ending s) (x.after s) := by
  by_cases hsame : y s = x s
  · right
    unfold Action.sequel at hne
    rwa [Action.ending_congr hsame, Action.after_congr hsame] at hne
  · exact .inl hsame

omit [Host.Platform] in
/-- A difference is made by the visit itself or by the watch at its end. -/
theorem watched_ne {x y : Action Term} {bad : State → Outcome Term → Prop} {stop : Stop}
    (hne : y.watched bad stop s ≠ x s) : y s ≠ x s ∨ bad s (x s) := by
  by_cases hsame : y s = x s
  · right
    by_contra hgood
    rw [← hsame] at hgood hne
    exact hne (Action.watched_of_not hgood)
  · exact .inl hsame

end Differences

/-! ## What a run passes through -/

/-- The action goes onward from every state. -/
def GoesOnward {α : Type} (x : Action α) : Prop :=
  ∀ s : State, s.Onward (x.after s)

/-- Where the watch makes a difference, the action passes through the
    happening. -/
def Meets {α : Type} (turns : Nat) (h : Happening) (x y : Action α) : Prop :=
  ∀ s : State, y s ≠ x s →
    s.Onward h.before ∧ h.after.Onward (x.after s) ∧ h.Genuine turns

/-- The action goes onward and passes through two happenings in order. -/
structure Orders {α : Type} (turns : Nat) (h h' : Happening) (x y z : Action α) : Prop where
  onward : GoesOnward x
  first : Meets turns h x y
  second : Meets turns h' x z
  ordered : ∀ s : State, y s ≠ x s → z s ≠ x s → Ordered turns h h'

section Orders

variable {turns : Nat} {h h' : Happening} {α β : Type} {x y z : Action α}
  {k l m : Except Stop α → Action β}

/-- An action without visits passes through nothing. -/
theorem Orders.same (hx : GoesOnward x) : Orders turns h h' x x x where
  onward := hx
  first _ hne := absurd rfl hne
  second _ hne := absurd rfl hne
  ordered _ hne _ := absurd rfl hne

theorem Meets.sequel (hx : GoesOnward x) (hk : ∀ r, GoesOnward (k r)) (hfirst : Meets turns h x y)
    (hsecond : ∀ r, Meets turns h (k r) (l r)) :
    Meets turns h (x.sequel k) (y.sequel l) := by
  intro s hne
  have hend : (x.after s).Onward ((x.sequel k).after s) := hk (x.ending s) (x.after s)
  rcases sequel_ne hne with hne | hne
  · obtain ⟨hbefore, hafter, hgenuine⟩ := hfirst s hne
    exact ⟨hbefore, hafter.trans hend, hgenuine⟩
  · obtain ⟨hbefore, hafter, hgenuine⟩ := hsecond _ _ hne
    exact ⟨(hx s).trans hbefore, hafter, hgenuine⟩

theorem Orders.sequel (hx : Orders turns h h' x y z)
    (hk : ∀ r, Orders turns h h' (k r) (l r) (m r)) :
    Orders turns h h' (x.sequel k) (y.sequel l) (z.sequel m) where
  onward s := (hx.onward s).trans ((hk _).onward (x.after s))
  first := .sequel hx.onward (fun r => (hk r).onward) hx.first fun r => (hk r).first
  second := .sequel hx.onward (fun r => (hk r).onward) hx.second fun r => (hk r).second
  ordered s hne hne' := by
    rcases sequel_ne hne with hne | hne <;> rcases sequel_ne hne' with hne' | hne'
    · exact hx.ordered s hne hne'
    -- What happens in the first part is over before the second part begins.
    · have hover := (hx.first s hne).2.1
      have hbegins := ((hk _).second _ hne').1
      exact .earlier (hover.trans hbegins)
    · have hover := (hx.second s hne').2.1
      have hbegins := ((hk _).first _ hne).1
      exact .later (hover.trans hbegins)
    · exact (hk _).ordered _ hne hne'

/-- To pass through two happenings in order is a congruence. -/
def orders (turns : Nat) (h h' : Happening) : Congruence where
  rel _ _ x y z := Orders turns h h' x y z
  apart _ := False
  widen _ _ _ _ _ hx := hx
  value _ _ a := .same fun s => .refl s
  stop _ _ _ _ := .same fun s => .refl s
  state _ := .same fun s => .refl s
  sequel own _ _ _ _ _ _ _ _ hx hk hthrow :=
    hx.sequel (ActionRelation.each (fun _ _ x y z => Orders turns h h' x y z) own
      (fun _ => .same fun s => .refl s) hk hthrow)
  newScope scope _ f g j hf := by
    rw [Action.bind_eq_sequel, Action.bind_eq_sequel, Action.bind_eq_sequel]
    refine .sequel (.same fun s => .unchanged rfl rfl rfl rfl) fun r => ?_
    cases r with
    | ok inner => exact hf inner
    | error e => exact .same fun s => .refl s
  define scope name value := .same (Footprint.onward.define scope name value)
  assign scope name value := .same (Footprint.onward.assign scope name value)
  addMacro m := .same (Footprint.onward.addMacro m)
  newFunction _ _ _ _ := .same Footprint.onward.newFunction
  nextBranch := .same Footprint.onward.nextBranch
  nextLambda := .same Footprint.onward.nextLambda
  writeLine text := .same (Footprint.onward.writeLine text)
  readLine _ prompt := .same (Footprint.bounds_readLine (F := .onward) prompt)
  host program _ p scope := .same (Footprint.bounds_host (F := .onward) p program scope)

/-- A watch for a happening lets a visit pass through it, if it is not met in
    the course of the visit already. -/
theorem Meets.watched {v : Visit} {n : Nat} {stop : Stop} {y : Action Term}
    (hcourse : Meets turns h (v.run (passes turns n)) y) :
    Meets turns h (v.run (passes turns n)) (y.watched (h.watch v) stop) := by
  intro s hne
  rcases watched_ne hne with hne | hself
  · exact hcourse s hne
  · subst hself
    refine ⟨.refl s, ?_, n, rfl⟩
    rw [← state_eq_after]
    exact .refl _

/-- All levels pass through two happenings in order. -/
theorem relPasses_orders (turns : Nat) (h h' : Happening) (stop stop' : Stop) (depth : Nat) :
    (orders turns h h').RelPasses (passes turns depth) (watchedPasses turns h.watch stop depth)
      (watchedPasses turns h'.watch stop' depth) := by
  refine Congruence.relPasses_watchedPasses (fun n v hcourse => ?_) depth
  have hv : ¬ v.Apart (orders turns h h').apart := by
    cases v <;> exact id
  have hinner : Orders turns h h' (v.run (passes turns n))
    (v.run (coursePasses turns h.watch stop n)) (v.run (coursePasses turns h'.watch stop' n)) :=
    hcourse hv
  refine ⟨hinner.onward, hinner.first.watched, hinner.second.watched, fun s hne hne' => ?_⟩
  -- Each of the two is the visit itself or happens in its course.
  rcases watched_ne hne with hne | hself <;> rcases watched_ne hne' with hne' | hself'
  · exact hinner.ordered s hne hne'
  · subst hself'
    exact .inside ⟨n, stop, rfl, hne⟩
  · subst hself
    exact .around ⟨n, stop', rfl, hne'⟩
  · exact .same (hself.trans hself'.symm)

end Orders

/-! ## Every run is in order -/

section Runs

variable {turns depth : Nat} {own : Option ScopeId} {α : Type} {run : Passes → Action α}
  {s : State} {h h' : Happening}

/-- The happenings of a run lie between its beginning and its end. -/
theorem Happens.onward (hrun : Regular own run) (hh : Happens turns depth run s h) :
    s.Onward h.before ∧ h.after.Onward ((run (passes turns depth)).after s) ∧
      h.Genuine turns := by
  obtain ⟨stop, hne⟩ := not_forall.1 hh
  have hpasses := relPasses_orders turns h h stop stop depth
  exact (hrun _ _ _ _ hpasses).first s hne

/-- Any two happenings of a run are ordered. -/
theorem Happens.ordered (hrun : Regular own run) (hh : Happens turns depth run s h)
    (hh' : Happens turns depth run s h') : Ordered turns h h' := by
  obtain ⟨stop, hne⟩ := not_forall.1 hh
  obtain ⟨stop', hne'⟩ := not_forall.1 hh'
  have hpasses := relPasses_orders turns h h' stop stop' depth
  exact (hrun _ _ _ _ hpasses).ordered s hne hne'

theorem Happening.Genuine.onward (hh : h.Genuine turns) : h.before.Onward h.after := by
  obtain ⟨n, hn⟩ := hh
  unfold Happening.after
  rw [hn, state_eq_after]
  exact (relPasses_orders turns h h .memory .memory n).visit h.visit |>.onward h.before

/-- What happens inside of a happening lies between its beginning and its
    end. -/
theorem Inside.onward (hh : Inside turns h h') :
    h'.before.Onward h.before ∧ h.after.Onward h'.after ∧ h.Genuine turns := by
  obtain ⟨n, stop, hn, hne⟩ := hh
  have hpasses := relPasses_orders turns h h stop stop
  have hv : ¬ h'.visit.Apart (orders turns h h).apart := by
    cases h'.visit <;> exact id
  have hcourse := Congruence.rel_coursePasses hpasses n h'.visit hv
  unfold Happening.after
  rw [hn] at hne ⊢
  rw [state_eq_after]
  exact hcourse.first h'.before hne

/-- The ends of two ordered happenings can be compared. -/
theorem Ordered.total (hordered : Ordered turns h h') (hh : h.Genuine turns)
    (hh' : h'.Genuine turns) {s s' : State} (hs : s = h.before ∨ s = h.after)
    (hs' : s' = h'.before ∨ s' = h'.after) : s.Onward s' ∨ s'.Onward s := by
  have hgoes := hh.onward
  have hgoes' := hh'.onward
  -- Each end lies between the beginning and the end of its happening.
  have hends : h.before.Onward s ∧ s.Onward h.after := by
    rcases hs with rfl | rfl
    · exact ⟨.refl _, hgoes⟩
    · exact ⟨hgoes, .refl _⟩
  have hends' : h'.before.Onward s' ∧ s'.Onward h'.after := by
    rcases hs' with rfl | rfl
    · exact ⟨.refl _, hgoes'⟩
    · exact ⟨hgoes', .refl _⟩
  cases hordered with
  | same heq =>
    subst heq
    rcases hs with rfl | rfl
    · exact .inl hends'.1
    · exact .inr hends'.2
  | earlier honward => exact .inl ((hends.2.trans honward).trans hends'.1)
  | later honward => exact .inr ((hends'.2.trans honward).trans hends.1)
  | inside hinside =>
    obtain ⟨hbefore, hafter, -⟩ := hinside.onward
    rcases hs' with rfl | rfl
    · exact .inr (hbefore.trans hends.1)
    · exact .inl (hends.2.trans hafter)
  | around haround =>
    obtain ⟨hbefore, hafter, -⟩ := haround.onward
    rcases hs with rfl | rfl
    · exact .inl (hbefore.trans hends'.1)
    · exact .inr (hends'.2.trans hafter)

end Runs

end MiniLisp
