import MiniLisp.Proofs.HostCheck

/-! # Chains of comparisons

    A chain of comparisons means that each of its links holds. It is evaluated
    from left to right, each operand once, and the first link that does not
    hold ends it. The conjunction of the links compares the same pairs of
    values: it evaluates each operand in the middle a second time, which gives
    the same value again, for evaluation changes nothing.

    The conjunction is one level deeper than the chain, so it takes one level of
    room more.

    * **`Expr.pairs`** — the links of a chain as comparisons by themselves;
    * **`evalAnd_pairs`** — evaluating them one after the other;
    * **`evalLinks_append`** — a chain that has ended;
    * **`chain_means_conjunction`** — the chain and the conjunction. -/

open MiniLisp.Host.Expr

namespace MiniLisp.Host

namespace Expr

/-- The links of a chain that begins with `left`. Each one compares the operand
    before it with its own. -/
def pairs (left : Expr) : List (Comparison × Expr) → List Expr
  | [] => []
  | (op, right) :: rest => .comparison left [(op, right)] :: pairs right rest

variable {names : List String}

/-- Comparing two operands is accepted if both are and the operator is. -/
theorem accepted_pair {left right : Expr} {op : Comparison} (hleft : left.Accepted names)
    (hop : op ∈ [.eq, .ne, .lt, .le, .gt, .ge, .member, .notMember])
    (hright : right.Accepted names) : (Expr.comparison left [(op, right)]).Accepted names := by
  apply (accepted_iff _).2
  constructor
  · exact List.forall_mem_singleton.2 hop
  · exact List.forall_mem_cons.2 ⟨hleft, List.forall_mem_singleton.2 hright⟩

theorem accepted_pairs {left : Expr} {links : List (Comparison × Expr)}
    (hleft : left.Accepted names)
    (hops : ∀ link ∈ links, link.1 ∈ [.eq, .ne, .lt, .le, .gt, .ge, .member, .notMember])
    (hoperands : ∀ link ∈ links, link.2.Accepted names) :
    ∀ e ∈ pairs left links, e.Accepted names := by
  induction links generalizing left with
  | nil => exact List.forall_mem_nil _
  | cons link rest ih =>
    obtain ⟨op, right⟩ := link
    obtain ⟨hop, hrestOps⟩ := List.forall_mem_cons.1 hops
    obtain ⟨hright, hrest⟩ := List.forall_mem_cons.1 hoperands
    rw [pairs]
    exact List.forall_mem_cons.2 ⟨accepted_pair hleft hop hright, ih hright hrestOps hrest⟩

/-- An accepted chain is accepted as a conjunction, too. -/
theorem accepted_conjunction_pairs {first : Expr} {links : List (Comparison × Expr)}
    (h : (Expr.comparison first links).Accepted names) :
    (Expr.conjunction (pairs first links)).Accepted names := by
  obtain ⟨hops, hchildren⟩ := (accepted_iff _).1 h
  obtain ⟨hfirst, hoperands⟩ := List.forall_mem_cons.1 hchildren
  apply (accepted_iff _).2
  refine ⟨trivial, accepted_pairs hfirst hops ?_⟩
  intro link hlink
  exact hoperands link.2 (List.mem_map_of_mem hlink)

/-! ## Evaluation -/

variable [Platform] {bindings : Bindings} {room : Nat}

theorem evalAnd_of_error {e : Expr} {f : Failure} (last : Value) (rest : List Expr)
    (h : e.eval bindings room = .error f) : evalAnd bindings room last (e :: rest) = .error f := by
  rw [evalAnd, h]
  rfl

theorem evalAnd_of_ok {e : Expr} {v : Value} (last : Value) (rest : List Expr)
    (h : e.eval bindings room = .ok v) :
    evalAnd bindings room last (e :: rest) =
      if v.truth then evalAnd bindings room v rest else .ok v := by
  rw [evalAnd, h]
  rfl

/-- The last conjunct gives its value to the conjunction, true or not. -/
theorem evalAnd_singleton (last : Value) (e : Expr) :
    evalAnd bindings room last [e] = e.eval bindings room := by
  cases h : e.eval bindings room with
  | error f => exact evalAnd_of_error last [] h
  | ok v =>
    rw [evalAnd_of_ok last [] h, evalAnd]
    split <;> rfl

theorem evalLinks_of_error {op : Comparison} {right : Expr} {f : Failure} (left : Value)
    (rest : List (Comparison × Expr)) (h : right.eval bindings room = .error f) :
    evalLinks bindings room left ((op, right) :: rest) = .error f := by
  rw [evalLinks, h]
  rfl

theorem evalLinks_of_ok {right : Expr} {w : Value} (op : Comparison) (left : Value)
    (rest : List (Comparison × Expr)) (h : right.eval bindings room = .ok w) :
    evalLinks bindings room left ((op, right) :: rest) =
      (compared op left w >>= fun holds =>
        if holds then evalLinks bindings room w rest else .ok (.bool false)) := by
  rw [evalLinks, h]
  rfl

theorem eval_comparison_of_ok {first : Expr} {v : Value} (links : List (Comparison × Expr))
    (h : first.eval bindings room = .ok v) :
    (Expr.comparison first links).eval bindings (room + 1) = evalLinks bindings room v links := by
  rw [eval, h]
  rfl

theorem eval_comparison_of_error {first : Expr} {f : Failure}
    (links : List (Comparison × Expr)) (h : first.eval bindings room = .error f) :
    (Expr.comparison first links).eval bindings (room + 1) = .error f := by
  rw [eval, h]
  rfl

/-- Evaluating the links as comparisons by themselves, until one does not hold,
    is evaluating the chain. -/
theorem evalAnd_pairs (last : Value) (left : Expr) {links : List (Comparison × Expr)}
    (hlinks : links ≠ []) :
    evalAnd bindings (room + 1) last (pairs left links) =
      (Expr.comparison left links).eval bindings (room + 1) := by
  induction links generalizing last left with
  | nil => exact absurd rfl hlinks
  | cons link rest ih =>
    obtain ⟨op, right⟩ := link
    rw [pairs]
    by_cases hrest : rest = []
    · -- The only link is a chain already.
      subst hrest
      rw [pairs, evalAnd_singleton]
    · cases hleft : left.eval bindings room with
      | error f =>
        rw [eval_comparison_of_error _ hleft]
        exact evalAnd_of_error last _ (eval_comparison_of_error _ hleft)
      | ok v =>
        rw [eval_comparison_of_ok _ hleft]
        have hpair := eval_comparison_of_ok [(op, right)] hleft
        cases hright : right.eval bindings room with
        | error f =>
          rw [evalLinks_of_error v _ hright] at hpair ⊢
          exact evalAnd_of_error last _ hpair
        | ok w =>
          -- The next pair evaluates the operand again, to the same value.
          have hagain := ih (.bool true) right hrest
          rw [eval_comparison_of_ok _ hright] at hagain
          rw [evalLinks_of_ok op v _ hright] at hpair ⊢
          cases hcompared : compared op v w with
          | error f =>
            rw [hcompared] at hpair
            exact evalAnd_of_error last _ hpair
          | ok holds =>
            rw [hcompared] at hpair
            cases holds with
            | true =>
              have htrue : (Expr.comparison left [(op, right)]).eval bindings (room + 1) =
                  .ok (.bool true) := by
                rw [hpair, evalLinks]
                rfl
              rw [evalAnd_of_ok last _ htrue]
              exact hagain
            | false => exact evalAnd_of_ok last _ hpair

/-- The value of a chain is a truth value. -/
theorem yields_evalLinks (left : Value) (links : List (Comparison × Expr)) :
    Yields (fun v => ∃ b, v = .bool b) (evalLinks bindings room left links) := by
  induction links generalizing left with
  | nil =>
    rw [evalLinks]
    exact yields_ok ⟨true, rfl⟩
  | cons link rest ih =>
    obtain ⟨op, right⟩ := link
    rw [evalLinks]
    apply yields_then
    intro w
    apply yields_then
    intro holds
    cases holds with
    | true => exact ih w
    | false => exact yields_ok ⟨false, rfl⟩

/-- A chain that has ended, in a value or in a failure, is not gone on with. -/
theorem evalLinks_append (left : Value) (before after : List (Comparison × Expr))
    (h : evalLinks bindings room left before ≠ .ok (.bool true)) :
    evalLinks bindings room left (before ++ after) = evalLinks bindings room left before := by
  induction before generalizing left with
  | nil =>
    rw [evalLinks] at h
    exact absurd rfl h
  | cons link rest ih =>
    obtain ⟨op, right⟩ := link
    rw [List.cons_append]
    cases hright : right.eval bindings room with
    | error f => rw [evalLinks_of_error left _ hright, evalLinks_of_error left _ hright]
    | ok w =>
      rw [evalLinks_of_ok op left _ hright] at h
      rw [evalLinks_of_ok op left _ hright, evalLinks_of_ok op left _ hright]
      cases hcompared : compared op left w with
      | error f => rfl
      | ok holds =>
        rw [hcompared] at h
        cases holds with
        | true => exact ih w h
        | false => rfl

end Expr

/-- With one level of room more, the conjunction of the links is evaluated as
    the chain is. -/
theorem eval_conjunction_pairs [Platform] (bindings : Bindings) (first : Expr)
    {links : List (Comparison × Expr)} (hlinks : links ≠ []) (room : Nat) :
    (Expr.conjunction (pairs first links)).eval bindings (room + 1) =
      (Expr.comparison first links).eval bindings room := by
  rw [eval]
  cases room with
  | zero =>
    obtain ⟨⟨op, right⟩, rest, rfl⟩ := List.exists_cons_of_ne_nil hlinks
    rw [pairs, eval]
    exact evalAnd_of_error _ _ (by rw [eval])
  | succ room => exact evalAnd_pairs (.bool true) first hlinks

/-- An accepted chain of comparisons means the conjunction of its links, which is
    accepted, too. Both end alike, in the same value or in the same failure,
    where the conjunction has a level of room more for its additional level; and
    in the same room, too, unless the room of the conjunction gives out. The
    value is a truth value. Once a part of the chain that it begins with is not
    true, the rest does not matter, whatever it would be or fail with. -/
theorem chain_means_conjunction [Platform] {names : List String} {first : Expr}
    {links : List (Comparison × Expr)} (hlinks : links ≠ [])
    (hcheck : (Expr.comparison first links).check names = .ok ()) (bindings : Bindings) :
    let chain := Expr.comparison first links
    let conjunction := Expr.conjunction (pairs first links)
    conjunction.check names = .ok () ∧
      (∀ room, conjunction.eval bindings (room + 1) = chain.eval bindings room) ∧
      (∀ room, conjunction.eval bindings room = .error .exhausted ∨
        conjunction.eval bindings room = chain.eval bindings room) ∧
      (∀ room v, chain.eval bindings room = .ok v → ∃ b, v = .bool b) ∧
      (∀ before after room, links = before ++ after →
        (Expr.comparison first before).eval bindings room ≠ .ok (.bool true) →
        chain.eval bindings room = (Expr.comparison first before).eval bindings room) := by
  intro chain conjunction
  have hdeeper := eval_conjunction_pairs bindings first hlinks
  refine ⟨?_, hdeeper, ?_, ?_, ?_⟩
  · exact check_eq_ok_iff.2 (accepted_conjunction_pairs (check_eq_ok_iff.1 hcheck))
  · intro room
    cases room with
    | zero =>
      left
      rw [eval]
    | succ room =>
      -- The chain gives out in less room, or stays the same.
      have hmore : Extends .exhausted (Value.Within fun _ => True) (chain.eval bindings room)
          (chain.eval bindings (room + 1)) :=
        extends_eval (Nat.le_succ room) (fun _ _ _ _ => trivial) chain
      rw [hdeeper room]
      obtain hout | ⟨hsame, -⟩ := hmore
      · exact .inl hout
      · exact .inr hsame.symm
  · intro room v hv
    cases room with
    | zero =>
      rw [eval] at hv
      cases hv
    | succ room =>
      rw [eval] at hv
      have hyields : Yields (fun v => ∃ b, v = .bool b)
          (first.eval bindings room >>= fun v => evalLinks bindings room v links) :=
        yields_then _ fun left => yields_evalLinks left links
      exact hyields v hv
  · rintro before after room rfl h
    cases room with
    | zero => rw [eval, eval]
    | succ room =>
      cases hfirst : first.eval bindings room with
      | error f => rw [eval_comparison_of_error _ hfirst, eval_comparison_of_error _ hfirst]
      | ok v =>
        rw [eval_comparison_of_ok _ hfirst] at h
        rw [eval_comparison_of_ok _ hfirst, eval_comparison_of_ok _ hfirst]
        exact evalLinks_append v before after h

/-- The second link does not hold, so the division in the third one is never
    done. -/
theorem chain_means_conjunction_unreached :
    let division := Expr.binary .div (.literal (.int 1)) (.literal (.int 0))
    let links : List (Comparison × Expr) :=
      [(.le, .literal (.int 2)), (.lt, .name "x"), (.eq, division)]
    let bindings : Bindings := [("x", .int 1)]
    links ≠ [] ∧ (Expr.comparison (.name "x") links).check ["x"] = .ok () ∧
      division.eval bindings 2 = .error (.fault (.divisionByZero .div false)) ∧
      (Expr.comparison (.name "x") links).eval bindings 3 = .ok (.bool false) ∧
      (Expr.conjunction (pairs (.name "x") links)).eval bindings 4 = .ok (.bool false) := by
  intro division links bindings
  have hlinks : links ≠ [] := List.cons_ne_nil _ _
  have hcheck : (Expr.comparison (.name "x") links).check ["x"] = .ok () := by decide +kernel
  obtain ⟨-, hdeeper, -⟩ := chain_means_conjunction hlinks hcheck bindings
  have hchain : (Expr.comparison (.name "x") links).eval bindings 3 = .ok (.bool false) := rfl
  exact ⟨hlinks, hcheck, rfl, hchain, (hdeeper 3).trans hchain⟩

end MiniLisp.Host
