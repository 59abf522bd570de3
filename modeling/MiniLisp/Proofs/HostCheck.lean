import MiniLisp.Proofs.HostRoom

/-! # Which host expressions are accepted

    A host expression is accepted exactly if each expression in it, at any depth
    and also where it may never be evaluated, is of the closed set. What is in
    the set is told of a single expression, without a walk over the tree; the
    check finds out about all of them in as many levels of room as the tree has.

    * **`Expr.Part`** — an expression occurs in another one;
    * **`Expr.Permitted`** — the closed set;
    * **`Expr.Accepted`** — everything in an expression is of the closed set;
    * **`judges_checkWithin`** — the check decides that;
    * **`checkWithin_of_depth_le`** — room for all of the tree is as good as no bound. -/

open MiniLisp.Host.Expr

namespace MiniLisp.Host

/-! ## The closed set -/

namespace Expr

/-- The expressions right below an expression. -/
def children : Expr → List Expr
  | .literal _ => []
  | .name _ => []
  | .binary _ left right => [left, right]
  | .unary _ operand => [operand]
  | .conjunction operands => operands
  | .disjunction operands => operands
  | .comparison first links => first :: links.map Prod.snd
  | .conditional test thenCase elseCase => [test, thenCase, elseCase]
  | .subscript value index => [value, index]
  | .slice lower upper step => lower.toList ++ upper.toList ++ step.toList
  | .list items => items
  | .tuple items => items
  | .call function arguments keywords => function :: (arguments ++ keywords)
  | .unsupported _ operands => operands

/-- An expression occurs in another one, or is it. -/
inductive Part : Expr → Expr → Prop
  | self (e : Expr) : Part e e
  | inside {part child e : Expr} : child ∈ e.children → Part part child → Part part e

/-- The expressions of the closed set over some variables, whatever is below
    them. A literal is kept with its value unless it is of another type. -/
def Permitted (names : List String) : Expr → Prop
  | .literal l => ∀ shown, l ≠ .other shown
  | .name id => id ∈ names ∨ ∃ h : Helper, h.name = id
  | .binary op _ _ => op ∈ [.add, .sub, .mul, .div, .floorDiv, .mod]
  | .unary op _ => op ∈ [.negate, .plus, .not]
  | .conjunction _ => True
  | .disjunction _ => True
  | .comparison _ links =>
      ∀ link ∈ links, link.1 ∈ [.eq, .ne, .lt, .le, .gt, .ge, .member, .notMember]
  | .conditional _ _ _ => True
  | .subscript _ _ => True
  | .slice _ _ _ => True
  | .list _ => True
  | .tuple _ => True
  | .call function _ keywords => (∃ h : Helper, function = .name h.name) ∧ keywords = []
  | .unsupported _ _ => False

/-- Everything in the expression is of the closed set. -/
def Accepted (names : List String) (e : Expr) : Prop :=
  ∀ part, Part part e → part.Permitted names

variable {names : List String}

theorem accepted_iff (e : Expr) :
    e.Accepted names ↔ e.Permitted names ∧ ∀ child ∈ e.children, child.Accepted names := by
  constructor
  · intro h
    exact ⟨h e (.self e), fun child hchild part hpart => h part (.inside hchild hpart)⟩
  · intro h part hpart
    cases hpart with
    | self => exact h.1
    | inside hchild hpart => exact h.2 _ hchild part hpart

end Expr

theorem Helper.isSome_ofName?_iff (id : String) :
    (Helper.ofName? id).isSome ↔ ∃ h : Helper, h.name = id := by
  rw [Helper.ofName?, List.find?_isSome]
  simp [Helper.mem_all]

theorem BinaryOp.isSupported_iff (op : BinaryOp) :
    op.isSupported ↔ op ∈ [.add, .sub, .mul, .div, .floorDiv, .mod] := by
  cases op <;> simp [BinaryOp.isSupported]

theorem UnaryOp.isSupported_iff (op : UnaryOp) : op.isSupported ↔ op ∈ [.negate, .plus, .not] := by
  cases op <;> simp [UnaryOp.isSupported]

theorem Comparison.isSupported_iff (op : Comparison) :
    op.isSupported ↔ op ∈ [.eq, .ne, .lt, .le, .gt, .ge, .member, .notMember] := by
  cases op <;> simp [Comparison.isSupported]

/-! ## What a check finds out -/

/-- The check ends well if the property holds, and otherwise with a refusal. -/
def Judges (good : Prop) (x : Except CheckFailure Unit) : Prop :=
  good ∧ x = .ok () ∨ ¬ good ∧ ∃ refusal, x = .error (.refused refusal)

section Judges

variable {good good' : Prop} {x y : Except CheckFailure Unit}

theorem Judges.congr (h : Judges good x) (hiff : good ↔ good') : Judges good' x := by
  rw [← propext hiff]
  exact h

theorem judges_ok (h : good) : Judges good (.ok ()) :=
  .inl ⟨h, rfl⟩

theorem judges_refused (refusal : Refusal) (h : ¬ good) :
    Judges good (.error (.refused refusal)) :=
  .inr ⟨h, refusal, rfl⟩

/-- Two checks, one after the other, find out about both. -/
theorem judges_bind (hx : Judges good x) (hy : Judges good' y) :
    Judges (good ∧ good') (x >>= fun _ => y) := by
  obtain ⟨hgood, rfl⟩ | ⟨hbad, refusal, rfl⟩ := hx
  · obtain ⟨hgood', rfl⟩ | ⟨hbad', refusal, rfl⟩ := hy
    · exact judges_ok ⟨hgood, hgood'⟩
    · exact judges_refused refusal fun h => hbad' h.2
  · exact judges_refused refusal fun h => hbad h.1

theorem Judges.ok_iff (h : Judges good x) : x = .ok () ↔ good := by
  obtain ⟨hgood, rfl⟩ | ⟨hbad, refusal, rfl⟩ := h
  · simp [hgood]
  · simp [hbad]

theorem Judges.not_exhausted (h : Judges good x) : x ≠ .error .exhausted := by
  obtain ⟨-, rfl⟩ | ⟨-, refusal, rfl⟩ := h
  · simp
  · simp

end Judges

/-! ## The walk over the tree -/

theorem judges_checkOperators (links : List (Comparison × Expr)) :
    Judges (∀ link ∈ links, link.1 ∈ [.eq, .ne, .lt, .le, .gt, .ge, .member, .notMember])
      (checkOperators links) := by
  induction links with
  | nil => exact judges_ok (by simp)
  | cons link rest ih =>
    obtain ⟨op, e⟩ := link
    rw [checkOperators, List.forall_mem_cons, ← Comparison.isSupported_iff]
    by_cases hop : op.isSupported
    · rw [if_pos hop]
      exact ih.congr (by simp [hop])
    · rw [if_neg hop]
      exact judges_refused _ fun h => hop h.1

theorem one_le_depth (e : Expr) : 1 ≤ e.depth := by
  cases e <;> simp [depth]

variable {names : List String}

mutual

/-- With a level of room for each level of the tree, the check tells whether
    everything in the tree is of the closed set. -/
theorem judges_checkWithin {room : Nat} (e : Expr) (hroom : e.depth ≤ room) :
    Judges (e.Accepted names) (e.checkWithin names room) := by
  obtain ⟨room, rfl⟩ : ∃ n, room = n + 1 := ⟨room - 1, by have := one_le_depth e; omega⟩
  cases e with
  | literal l =>
    rw [accepted_iff]
    cases l with
    | other shown => exact judges_refused _ fun h => h.1 shown rfl
    | none | bool _ | int _ | real _ | text _ => exact judges_ok (by simp [Permitted, children])
  | name id =>
    rw [accepted_iff, checkWithin]
    split
    · next h =>
      rw [Bool.or_eq_true, List.contains_iff_mem, Helper.isSome_ofName?_iff] at h
      exact judges_ok (by simp [Permitted, children, h])
    · next h =>
      rw [Bool.or_eq_true, List.contains_iff_mem, Helper.isSome_ofName?_iff] at h
      exact judges_refused _ fun hgood => h hgood.1
  | binary op left right =>
    rw [accepted_iff, Permitted, ← BinaryOp.isSupported_iff, checkWithin]
    simp only [depth, Nat.succ_le_succ_iff, Nat.max_le] at hroom
    have hparts := judges_bind (judges_checkWithin left hroom.1) (judges_checkWithin right hroom.2)
    split
    · next hop => exact hparts.congr (by simp [children, hop])
    · next hop => exact judges_refused _ fun h => hop h.1
  | unary op operand =>
    rw [accepted_iff, Permitted, ← UnaryOp.isSupported_iff, checkWithin]
    simp only [depth, Nat.succ_le_succ_iff] at hroom
    split
    · next hop => exact (judges_checkWithin operand hroom).congr (by simp [children, hop])
    · next hop => exact judges_refused _ fun h => hop h.1
  | conjunction operands | disjunction operands | list operands | tuple operands =>
    rw [accepted_iff, checkWithin]
    simp only [depth, Nat.succ_le_succ_iff] at hroom
    exact (judges_checkAll operands hroom).congr (by simp [Permitted, children])
  | comparison first links =>
    rw [accepted_iff, checkWithin]
    simp only [depth, Nat.succ_le_succ_iff, Nat.max_le] at hroom
    have hparts := judges_bind (judges_checkWithin first hroom.1) (judges_checkLinks links hroom.2)
    exact (judges_bind (judges_checkOperators links) hparts).congr
      (by rw [Permitted, children, List.forall_mem_cons, List.forall_mem_map])
  | conditional test thenCase elseCase =>
    rw [accepted_iff, checkWithin]
    simp only [depth, Nat.succ_le_succ_iff, Nat.max_le] at hroom
    -- Both cases are checked, whichever is taken later.
    have hcases := judges_bind (judges_checkWithin thenCase hroom.2.1)
      (judges_checkWithin elseCase hroom.2.2)
    exact (judges_bind (judges_checkWithin test hroom.1) hcases).congr
      (by simp [Permitted, children])
  | subscript value index =>
    rw [accepted_iff, checkWithin]
    simp only [depth, Nat.succ_le_succ_iff, Nat.max_le] at hroom
    exact (judges_bind (judges_checkWithin value hroom.1) (judges_checkWithin index hroom.2)).congr
      (by simp [Permitted, children])
  | slice lower upper step =>
    rw [accepted_iff, checkWithin]
    simp only [depth, Nat.succ_le_succ_iff, Nat.max_le] at hroom
    have hparts := judges_bind (judges_checkPart upper hroom.2.1) (judges_checkPart step hroom.2.2)
    exact (judges_bind (judges_checkPart lower hroom.1) hparts).congr
      (by simp [Permitted, children, or_imp, forall_and])
  | call function arguments keywords =>
    rw [accepted_iff]
    simp only [depth, Nat.succ_le_succ_iff, Nat.max_le] at hroom
    cases function with
    | name id =>
      cases keywords with
      | nil =>
        rw [checkWithin]
        split
        · next h =>
          have hhelper := (Helper.isSome_ofName?_iff id).1 h
          have hname : (Expr.name id).Accepted names :=
            (accepted_iff _).2 ⟨.inr hhelper, by simp [children]⟩
          obtain ⟨helper, rfl⟩ := hhelper
          exact (judges_checkAll arguments hroom.2.1).congr
            (by simp [Permitted, children, hname])
        · next h =>
          refine judges_refused _ fun hgood => h ?_
          obtain ⟨⟨helper, heq⟩, -⟩ := hgood.1
          exact (Helper.isSome_ofName?_iff id).2 ⟨helper, (Expr.name.inj heq).symm⟩
      | cons keyword rest =>
        exact judges_refused _ fun hgood => nomatch hgood.1.2
    | literal _ | binary _ _ _ | unary _ _ | conjunction _ | disjunction _ | comparison _ _
    | conditional _ _ _ | subscript _ _ | slice _ _ _ | list _ | tuple _ | call _ _ _
    | unsupported _ _ =>
      refine judges_refused _ fun hgood => ?_
      obtain ⟨⟨helper, heq⟩, -⟩ := hgood.1
      cases heq
  | unsupported which operands =>
    rw [accepted_iff]
    exact judges_refused _ fun h => h.1

theorem judges_checkAll {room : Nat} :
    (es : List Expr) → depthList es ≤ room →
      Judges (∀ e ∈ es, e.Accepted names) (checkAll names room es)
  | [], _ => judges_ok (by simp)
  | e :: rest, hroom => by
    rw [depthList, Nat.max_le] at hroom
    rw [checkAll, List.forall_mem_cons]
    exact judges_bind (judges_checkWithin e hroom.1) (judges_checkAll rest hroom.2)

theorem judges_checkLinks {room : Nat} :
    (links : List (Comparison × Expr)) → depthLinks links ≤ room →
      Judges (∀ link ∈ links, link.2.Accepted names) (checkLinks names room links)
  | [], _ => judges_ok (by simp)
  | (_, e) :: rest, hroom => by
    rw [depthLinks, Nat.max_le] at hroom
    rw [checkLinks, List.forall_mem_cons]
    exact judges_bind (judges_checkWithin e hroom.1) (judges_checkLinks rest hroom.2)

theorem judges_checkPart {room : Nat} :
    (part : Option Expr) → depthOption part ≤ room →
      Judges (∀ e ∈ part, e.Accepted names) (checkPart names room part)
  | none, _ => judges_ok (by simp)
  | some e, hroom => by
    rw [checkPart]
    exact (judges_checkWithin e hroom).congr (by simp)

end

/-- With room for all of it, the check accepts what is of the closed set. -/
theorem check_eq_ok_iff {e : Expr} : e.check names = .ok () ↔ e.Accepted names := by
  have hjudges : Judges (e.Accepted names) (e.checkWithin names e.depth) :=
    judges_checkWithin e (Nat.le_refl _)
  obtain ⟨hgood, hok⟩ | ⟨hbad, refusal, hrefused⟩ := hjudges
  · simp [check, hok, hgood]
  · simp [check, hrefused, hbad]

/-- In room for all of the tree a check finds out what it does without a bound. -/
theorem checkWithin_of_depth_le {e : Expr} {room : Nat} (hroom : e.depth ≤ room) :
    e.checkWithin names room = (e.check names).mapError CheckFailure.refused := by
  have hjudges : Judges (e.Accepted names) (e.checkWithin names e.depth) :=
    judges_checkWithin e (Nat.le_refl _)
  have hextends : Extends .exhausted (fun _ => True) (e.checkWithin names e.depth)
      (e.checkWithin names room) := extends_checkWithin hroom e
  rcases hextends with hout | ⟨hsame, -⟩
  · exact absurd hout hjudges.not_exhausted
  · rw [hsame]
    obtain ⟨-, hok⟩ | ⟨-, refusal, hrefused⟩ := hjudges
    · simp [check, hok, Except.mapError]
    · simp [check, hrefused, Except.mapError]

/-- What is accepted in any room is of the closed set. -/
theorem accepted_of_checkWithin {e : Expr} {room : Nat} (h : e.checkWithin names room = .ok ()) :
    e.Accepted names := by
  have hmore : Judges (e.Accepted names) (e.checkWithin names (max room e.depth)) :=
    judges_checkWithin e (by omega)
  have hextends : Extends .exhausted (fun _ => True) (e.checkWithin names room)
      (e.checkWithin names (max room e.depth)) := extends_checkWithin (by omega) e
  rcases hextends with hout | ⟨hsame, -⟩
  · rw [hout] at h
    cases h
  · exact hmore.ok_iff.1 (hsame.trans h)

end MiniLisp.Host
