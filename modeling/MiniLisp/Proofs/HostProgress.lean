import MiniLisp.Proofs.HostCheck
import MiniLisp.Proofs.HostFailures
import Mathlib.Data.List.Forall2

/-! # Accepted host expressions evaluate

    The check and the evaluation are two walks over the same tree. Whatever the
    check accepts, the evaluation knows: it meets no construct, operator or name
    that it has nothing for, and in enough room it ends, in a value or in a
    failure that an operator or a helper makes of the values it is given.

    * **`Settles`** — a recursion that stays the same from some room on;
    * **`Expr.Raises`** — an operator or a helper fails at an expression;
    * **`settles_eval`** — the walk over an accepted expression;
    * **`accepted_iff_and_never_stuck`** — both walks together. -/

open MiniLisp.Host.Expr

namespace MiniLisp.Host

/-! ## Recursions in growing room -/

section Settles

variable {ε α β : Type} {out : ε} {bad bad' : ε → Prop}

/-- In any room a recursion ran out of room or failed in one of the ways told,
    if it failed; and from some room on it has room enough and stays the same. -/
structure Settles (out : ε) (bad : ε → Prop) (x : Nat → Except ε α) : Prop where
  fails : ∀ room e, x room = .error e → e = out ∨ bad e
  ends : ∃ bound r, r ≠ .error out ∧ ∀ room, bound ≤ room → x room = r

/-- What takes no room settles at once. -/
theorem settles_const {r : Except ε α} (h : ∀ e, r = .error e → e ≠ out ∧ bad e) :
    Settles out bad fun _ => r where
  fails _ e he := .inr (h e he).2
  ends := ⟨0, r, fun he => (h out he).1 rfl, fun _ _ => rfl⟩

theorem settles_ok (a : α) : Settles out bad fun _ => .ok a :=
  settles_const fun _ h => nomatch h

/-- The ways to fail can be told anew. -/
theorem Settles.refine {x : Nat → Except ε α} (hx : Settles out bad x)
    (h : ∀ room e, x room = .error e → bad e → bad' e) : Settles out bad' x where
  fails room e he := (hx.fails room e he).imp_right (h room e he)
  ends := hx.ends

/-- The first level of room is spent on the recursion itself. -/
theorem settles_succ {x : Nat → Except ε α} (hzero : x 0 = .error out)
    (hx : Settles out bad fun room => x (room + 1)) : Settles out bad x where
  fails room e he := by
    cases room with
    | zero =>
      rw [hzero] at he
      cases he
      exact .inl rfl
    | succ room => exact hx.fails room e he
  ends := by
    obtain ⟨bound, r, hr, hends⟩ := hx.ends
    refine ⟨bound + 1, r, hr, ?_⟩
    intro room hroom
    obtain ⟨room, rfl⟩ : ∃ n, room = n + 1 := ⟨room - 1, by omega⟩
    exact hends room (by omega)

theorem settles_bind {x : Nat → Except ε α} {f : Nat → α → Except ε β} (hx : Settles out bad x)
    (hf : ∀ a, (∃ room, x room = .ok a) → Settles out bad fun room => f room a) :
    Settles out bad fun room => x room >>= f room where
  fails room e he := by
    cases h : x room with
    | error e' =>
      rw [h] at he
      cases he
      exact hx.fails room e h
    | ok a =>
      rw [h] at he
      exact (hf a ⟨room, h⟩).fails room e he
  ends := by
    obtain ⟨bound, r, hr, hends⟩ := hx.ends
    cases r with
    | error e =>
      refine ⟨bound, .error e, fun h => hr (by cases h; rfl), ?_⟩
      intro room hroom
      rw [hends room hroom]
      rfl
    | ok a =>
      -- Both steps have settled in the greater of their rooms.
      obtain ⟨bound', r', hr', hends'⟩ := (hf a ⟨bound, hends bound (Nat.le_refl _)⟩).ends
      refine ⟨max bound bound', r', hr', ?_⟩
      intro room hroom
      rw [hends room (by omega)]
      exact hends' room (by omega)

theorem settles_map {x : Nat → Except ε α} (f : α → β) (hx : Settles out bad x) :
    Settles out bad fun room => (x room).map f := by
  have hbind := settles_bind (f := fun _ a => .ok (f a)) hx fun a _ => settles_ok (f a)
  exact hbind

theorem settles_mapM {f : Nat → β → Except ε α} {bs : List β}
    (h : ∀ b ∈ bs, Settles out bad fun room => f room b) :
    Settles out bad fun room => bs.mapM (f room) := by
  induction bs with
  | nil => exact settles_ok []
  | cons b rest ih =>
    obtain ⟨hfirst, hrest⟩ := List.forall_mem_cons.1 h
    simp only [List.mapM_cons]
    refine settles_bind hfirst fun a _ => ?_
    exact settles_bind (ih hrest) fun as _ => settles_ok (a :: as)

end Settles

/-! ## Helpers -/

/-- What operations make of values takes no room. -/
theorem settles_of_raising {α : Type} {x : Nat → Outcome α} (hsame : ∀ room, x room = x 0)
    (h : Raising (x 0)) : Settles .exhausted Failure.IsRaised x := by
  rw [funext hsame]
  refine settles_const fun f hf => ⟨?_, h f hf⟩
  rintro rfl
  exact h _ hf

mutual

theorem settles_toTerm (v : Value) :
    Settles .exhausted (fun _ => True) fun room => v.toTerm room := by
  refine settles_succ (by rw [Value.toTerm]) ?_
  cases v with
  | list items =>
    simp only [Value.toTerm]
    exact settles_bind (settles_toTerms items) fun terms _ => settles_ok _
  | int n =>
    simp only [Value.toTerm]
    split
    · exact settles_ok _
    · exact settles_const fun e he => by cases he; exact ⟨nofun, trivial⟩
  | none | helper _ | slice _ _ _ =>
    exact settles_const fun e he => by cases he; exact ⟨nofun, trivial⟩
  | bool _ | text _ | real _ _ | function _ _ => exact settles_ok _

theorem settles_toTerms :
    (vs : List Value) → Settles .exhausted (fun _ => True) fun room => Value.toTerms room vs
  | [] => settles_ok _
  | v :: rest => by
    simp only [Value.toTerms]
    refine settles_bind (settles_toTerm v) fun t _ => ?_
    exact settles_bind (settles_toTerms rest) fun ts _ => settles_ok _

end

/-- Only the text of a list takes room. -/
theorem settles_shownAsTerm (v : Value) :
    Settles .exhausted Failure.IsRaised fun room => shownAsTerm room v := by
  cases v with
  | list items =>
    have hterm := settles_toTerm (.list items)
    refine ⟨?_, ?_⟩
    · intro room f hf
      unfold shownAsTerm at hf
      dsimp only at hf
      split at hf
      · cases hf
      · cases hf
        exact .inr trivial
      · cases hf
        exact .inr trivial
      · cases hf
        exact .inl rfl
    · obtain ⟨bound, r, hr, hends⟩ := hterm.ends
      refine ⟨bound, shownAsTerm bound (.list items), ?_, ?_⟩
      · unfold shownAsTerm
        dsimp only
        rw [hends bound (Nat.le_refl _)]
        intro hout
        split at hout
        · cases hout
        · cases hout
        · cases hout
        · exact hr rfl
      · intro room hroom
        unfold shownAsTerm
        dsimp only
        rw [hends room hroom, hends bound (Nat.le_refl _)]
  | none | bool _ => exact settles_ok _
  | int _ | real _ _ | text _ | function _ _ | helper _ | slice _ _ _ =>
    exact settles_of_raising (fun _ => rfl) (raising_shownAsTerm (by simp) 0)

theorem settles_callOne [Platform] (helper : Helper) (v : Value) :
    Settles .exhausted Failure.IsRaised fun room => callOne room helper v := by
  cases helper with
  | str => exact settles_map _ (settles_shownAsTerm v)
  | len => exact settles_of_raising (fun _ => rfl) (raising_lengthOf v)
  | abs => exact settles_of_raising (fun _ => rfl) (raising_magnitude v)
  | float => exact settles_of_raising (fun _ => rfl) (raising_toReal v)
  | int =>
    have hmap := (raising_map_iff (toInt v) Value.int).2 (raising_toInt v)
    exact settles_of_raising (fun _ => rfl) hmap
  | round => exact settles_of_raising (fun _ => rfl) (raising_rounded v)
  | min => exact settles_of_raising (fun _ => rfl) (raising_extremeOf .min .lt [v])
  | max => exact settles_of_raising (fun _ => rfl) (raising_extremeOf .max .gt [v])
  | upper | lower => exact settles_of_raising (fun _ => rfl) (raising_changeCase _ _ v)
  | isNumber | isString | isList | isBool | isNil => exact settles_ok _

theorem settles_helperCall [Platform] (helper : Helper) (arguments : List Value) :
    Settles .exhausted Failure.IsRaised fun room => helper.call room arguments := by
  unfold Helper.call
  split
  · exact settles_of_raising (fun _ => rfl) (raising_extremeOf _ _ _)
  · exact settles_of_raising (fun _ => rfl) (raising_extremeOf _ _ _)
  · exact settles_ok _
  · exact settles_ok _
  · exact settles_of_raising (fun _ => rfl) (by simp)
  · exact settles_of_raising (fun _ => rfl) (raising_roundedTo _ _)
  · exact settles_callOne _ _
  · exact settles_of_raising (fun _ => rfl) (raising_raise _)

/-! ## The walk over the tree -/

namespace Expr

variable [Platform]

/-- The value of an expression in some room, and so in any room but a smaller
    one that gives out. -/
def HasValue (bindings : Bindings) (e : Expr) (v : Value) : Prop :=
  ∃ room, e.eval bindings room = .ok v

/-- At this expression an operator or a helper fails, given the values of the
    operands. -/
inductive Raises (bindings : Bindings) : Expr → Failure → Prop
  | binary {op : BinaryOp} {left right : Expr} {v w : Value} {f : Failure} :
      left.HasValue bindings v → right.HasValue bindings w → applyBinary op v w = .error f →
      Raises bindings (.binary op left right) f
  | unary {op : UnaryOp} {operand : Expr} {v : Value} {f : Failure} :
      operand.HasValue bindings v → applyUnary op v = .error f →
      Raises bindings (.unary op operand) f
  | comparison {first before operand : Expr} {links : List (Comparison × Expr)}
      {op : Comparison} {v w : Value} {f : Failure} :
      before ∈ first :: links.map Prod.snd → before.HasValue bindings v →
      (op, operand) ∈ links → operand.HasValue bindings w → compared op v w = .error f →
      Raises bindings (.comparison first links) f
  | subscript {value index : Expr} {v i : Value} {f : Failure} :
      value.HasValue bindings v → index.HasValue bindings i → subscripted v i = .error f →
      Raises bindings (.subscript value index) f
  | call {helper : Helper} {arguments : List Expr} {values : List Value} {room : Nat}
      {f : Failure} :
      List.Forall₂ (HasValue bindings) arguments values → helper.call room values = .error f →
      Raises bindings (.call (.name helper.name) arguments []) f

/-- A failure that an operator or a helper makes somewhere in an expression. -/
def Blames (bindings : Bindings) (e : Expr) (f : Failure) : Prop :=
  f.IsRaised ∧ ∃ part, Part part e ∧ part.Raises bindings f

variable {bindings : Bindings} {names : List String}

theorem Blames.of_self {e : Expr} {f : Failure} (hraised : f.IsRaised) (h : e.Raises bindings f) :
    e.Blames bindings f :=
  ⟨hraised, e, .self e, h⟩

theorem Blames.inside {child e : Expr} (hchild : child ∈ e.children) {f : Failure}
    (h : child.Blames bindings f) : e.Blames bindings f := by
  obtain ⟨hraised, part, hpart, hraises⟩ := h
  exact ⟨hraised, part, .inside hchild hpart, hraises⟩

end Expr

variable {bindings : Bindings} {names : List String}

theorem exists_literal_value {l : Literal} (h : ∀ shown, l ≠ .other shown) :
    ∃ v, l.value = .ok v := by
  cases l with
  | other shown => exact absurd rfl (h shown)
  | none | bool _ | int _ | real _ | text _ => exact ⟨_, rfl⟩

/-- A name that is declared or a helper has a value. -/
theorem exists_nameValue (hbound : names ⊆ bindings.map Prod.fst) {id : String}
    (h : id ∈ names ∨ ∃ helper : Helper, helper.name = id) :
    ∃ v, nameValue bindings id = .ok v := by
  unfold nameValue
  split
  · next v _ => exact ⟨v, rfl⟩
  · next hnone =>
    obtain hname | ⟨helper, rfl⟩ := h
    · have hsome := (Bindings.lookup_isSome_iff id bindings).2 (hbound hname)
      rw [hnone] at hsome
      cases hsome
    · exact ⟨.helper helper, by rw [Helper.ofName?_name]⟩

theorem forall₂_hasValue [Platform] {room : Nat} {es : List Expr} {values : List Value}
    (h : evalAll bindings room es = .ok values) :
    List.Forall₂ (HasValue bindings) es values := by
  induction es generalizing values with
  | nil =>
    cases h
    exact .nil
  | cons e rest ih =>
    rw [evalAll] at h
    cases hv : e.eval bindings room with
    | error f =>
      rw [hv] at h
      cases h
    | ok v =>
      cases hvs : evalAll bindings room rest with
      | error f =>
        rw [hv, hvs] at h
        cases h
      | ok vs =>
        rw [hv, hvs] at h
        cases h
        exact .cons ⟨room, hv⟩ (ih hvs)

/-- The value of an operator or a helper settles if what it raises is blamed. -/
theorem settles_blamed [Platform] {α : Type} {e : Expr} {x : Outcome α} (hx : Raising x)
    (h : ∀ f, x = .error f → e.Raises bindings f) :
    Settles .exhausted (e.Blames bindings) fun _ => x :=
  (settles_of_raising (fun _ => rfl) hx).refine fun _ f hf hraised => .of_self hraised (h f hf)

/-- What is blamed on an expression is blamed on those around it. -/
theorem Settles.inside [Platform] {α : Type} {x : Nat → Outcome α} {child e : Expr}
    (hx : Settles .exhausted (child.Blames bindings) x) (hchild : child ∈ e.children) :
    Settles .exhausted (e.Blames bindings) x :=
  hx.refine fun _ _ _ hblames => hblames.inside hchild

/-! ### Several operands

    The operands are among those right below an expression `e`. -/

section Operands

variable [Platform] {e : Expr} {last left : Value}

theorem settles_evalAll {es : List Expr} (hes : es ⊆ e.children)
    (heval : ∀ child ∈ es,
      Settles .exhausted (child.Blames bindings) fun room => child.eval bindings room) :
    Settles .exhausted (e.Blames bindings) fun room => evalAll bindings room es := by
  induction es with
  | nil => exact settles_ok _
  | cons child rest ih =>
    obtain ⟨hchild, hrest⟩ := List.cons_subset.1 hes
    obtain ⟨hfirst, hothers⟩ := List.forall_mem_cons.1 heval
    simp only [evalAll]
    refine settles_bind (hfirst.inside hchild) fun v _ => ?_
    exact settles_bind (ih hrest hothers) fun vs _ => settles_ok _

theorem settles_evalAnd {es : List Expr} (hes : es ⊆ e.children)
    (heval : ∀ child ∈ es,
      Settles .exhausted (child.Blames bindings) fun room => child.eval bindings room) :
    Settles .exhausted (e.Blames bindings) fun room => evalAnd bindings room last es := by
  induction es generalizing last with
  | nil => exact settles_ok _
  | cons child rest ih =>
    obtain ⟨hchild, hrest⟩ := List.cons_subset.1 hes
    obtain ⟨hfirst, hothers⟩ := List.forall_mem_cons.1 heval
    simp only [evalAnd]
    refine settles_bind (hfirst.inside hchild) fun v _ => ?_
    by_cases hv : v.truth
    · simpa only [hv, if_true] using ih hrest hothers
    · simp only [hv, Bool.false_eq_true, if_false]
      exact settles_ok v

theorem settles_evalOr {es : List Expr} (hes : es ⊆ e.children)
    (heval : ∀ child ∈ es,
      Settles .exhausted (child.Blames bindings) fun room => child.eval bindings room) :
    Settles .exhausted (e.Blames bindings) fun room => evalOr bindings room last es := by
  induction es generalizing last with
  | nil => exact settles_ok _
  | cons child rest ih =>
    obtain ⟨hchild, hrest⟩ := List.cons_subset.1 hes
    obtain ⟨hfirst, hothers⟩ := List.forall_mem_cons.1 heval
    simp only [evalOr]
    refine settles_bind (hfirst.inside hchild) fun v _ => ?_
    by_cases hv : v.truth
    · simp only [hv, if_true]
      exact settles_ok v
    · simpa only [hv, Bool.false_eq_true, if_false] using ih hrest hothers

theorem settles_evalPart {part : Option Expr} (hpart : part.toList ⊆ e.children)
    (heval : ∀ child ∈ part.toList,
      Settles .exhausted (child.Blames bindings) fun room => child.eval bindings room) :
    Settles .exhausted (e.Blames bindings) fun room => evalPart bindings room part := by
  cases part with
  | none => exact settles_ok _
  | some child =>
    have hchild : child ∈ (some child).toList := by simp
    simp only [evalPart]
    exact (heval child hchild).inside (hpart hchild)

/-- The links of a comparison, `left` being the value of an operand before
    them. -/
theorem settles_evalLinks {first : Expr} {all links : List (Comparison × Expr)}
    (hlinks : links ⊆ all) (hsupported : ∀ link ∈ links, link.1.isSupported)
    (heval : ∀ link ∈ links,
      Settles .exhausted (link.2.Blames bindings) fun room => link.2.eval bindings room)
    (hleft : ∃ before ∈ first :: all.map Prod.snd, before.HasValue bindings left) :
    Settles .exhausted (Expr.Blames bindings (.comparison first all))
      fun room => evalLinks bindings room left links := by
  induction links generalizing left with
  | nil => exact settles_ok _
  | cons link rest ih =>
    obtain ⟨op, operand⟩ := link
    obtain ⟨hlink, hrest⟩ := List.cons_subset.1 hlinks
    obtain ⟨hop, hops⟩ := List.forall_mem_cons.1 hsupported
    obtain ⟨hfirst, hothers⟩ := List.forall_mem_cons.1 heval
    have hchild : operand ∈ first :: all.map Prod.snd :=
      List.mem_cons_of_mem first (List.mem_map_of_mem hlink)
    simp only [evalLinks]
    refine settles_bind (hfirst.inside hchild) fun right hright => ?_
    have hcompared : Settles .exhausted (Expr.Blames bindings (.comparison first all))
        fun _ => compared op left right := by
      refine settles_blamed (raising_compared hop left right) fun f hf => ?_
      obtain ⟨before, hbefore, hvalue⟩ := hleft
      exact .comparison hbefore hvalue hlink hright hf
    refine settles_bind hcompared fun holds _ => ?_
    -- The chain goes on from the operand on the right if the comparison holds.
    cases holds with
    | false => exact settles_ok _
    | true => exact ih hrest hops hothers ⟨operand, hchild, hright⟩

end Operands

/-! ### Any expression -/

theorem le_depthList {e : Expr} {es : List Expr} (h : e ∈ es) : e.depth ≤ depthList es := by
  induction es with
  | nil => cases h
  | cons other rest ih =>
    rw [depthList]
    obtain rfl | hrest := List.mem_cons.1 h
    · exact Nat.le_max_left _ _
    · exact Nat.le_trans (ih hrest) (Nat.le_max_right _ _)

theorem le_depthLinks {e : Expr} {links : List (Comparison × Expr)}
    (h : e ∈ links.map Prod.snd) : e.depth ≤ depthLinks links := by
  induction links with
  | nil => cases h
  | cons link rest ih =>
    rw [depthLinks]
    obtain rfl | hrest := List.mem_cons.1 h
    · exact Nat.le_max_left _ _
    · exact Nat.le_trans (ih hrest) (Nat.le_max_right _ _)

theorem le_depthOption {e : Expr} {part : Option Expr} (h : e ∈ part.toList) :
    e.depth ≤ depthOption part := by
  obtain rfl := Option.mem_toList.1 h
  exact Nat.le_refl _

theorem depth_lt_of_mem_children {child e : Expr} (h : child ∈ e.children) :
    child.depth < e.depth := by
  cases e with
  | literal _ | name _ => cases h
  | binary _ _ _ | unary _ _ | conditional _ _ _ | subscript _ _ =>
    simp only [children, List.mem_cons, List.not_mem_nil, or_false] at h
    simp only [depth]
    grind
  | conjunction _ | disjunction _ | list _ | tuple _ | unsupported _ _ =>
    have hle := le_depthList h
    simp only [children] at hle
    simp only [depth]
    omega
  | comparison first links =>
    simp only [depth]
    obtain rfl | hlink := List.mem_cons.1 h
    · omega
    · have hle := le_depthLinks hlink
      omega
  | slice lower upper step =>
    simp only [children, List.mem_append] at h
    simp only [depth]
    obtain (hpart | hpart) | hpart := h
    · have hle := le_depthOption hpart
      omega
    · have hle := le_depthOption hpart
      omega
    · have hle := le_depthOption hpart
      omega
  | call function arguments keywords =>
    simp only [children, List.mem_cons, List.mem_append] at h
    simp only [depth]
    obtain rfl | hargument | hkeyword := h
    · omega
    · have hle := le_depthList hargument
      omega
    · have hle := le_depthList hkeyword
      omega

/-- The walk over an accepted expression settles, and what fails in it is an
    operator or a helper. The induction is on the depth of the tree. -/
theorem settles_eval [Platform] (hbound : names ⊆ bindings.map Prod.fst) (e : Expr)
    (haccepted : e.Accepted names) :
    Settles .exhausted (e.Blames bindings) fun room => e.eval bindings room := by
  obtain ⟨hpermitted, hchildren⟩ := (accepted_iff e).1 haccepted
  have heval : ∀ child ∈ e.children,
      Settles .exhausted (child.Blames bindings) fun room => child.eval bindings room := by
    intro child hchild
    have hless := depth_lt_of_mem_children hchild
    exact settles_eval hbound child (hchildren child hchild)
  have hinside : ∀ child ∈ e.children,
      Settles .exhausted (e.Blames bindings) fun room => child.eval bindings room :=
    fun child hchild => (heval child hchild).inside hchild
  refine settles_succ (by rw [Expr.eval]) ?_
  cases e with
  | literal l =>
    obtain ⟨v, hv⟩ := exists_literal_value hpermitted
    simp only [Expr.eval, hv]
    exact settles_ok v
  | name id =>
    obtain ⟨v, hv⟩ := exists_nameValue hbound hpermitted
    simp only [Expr.eval, hv]
    exact settles_ok v
  | binary op left right =>
    have hop := (BinaryOp.isSupported_iff op).2 hpermitted
    simp only [Expr.eval, hop, if_true]
    refine settles_bind (hinside left (by simp [children])) fun v hv => ?_
    refine settles_bind (hinside right (by simp [children])) fun w hw => ?_
    exact settles_blamed (raising_applyBinary hop v w) fun f hf => .binary hv hw hf
  | unary op operand =>
    have hop := (UnaryOp.isSupported_iff op).2 hpermitted
    simp only [Expr.eval]
    refine settles_bind (hinside operand (by simp [children])) fun v hv => ?_
    exact settles_blamed (raising_applyUnary hop v) fun f hf => .unary hv hf
  | conjunction operands =>
    simp only [Expr.eval]
    exact settles_evalAnd (List.Subset.refl _) heval
  | disjunction operands =>
    simp only [Expr.eval]
    exact settles_evalOr (List.Subset.refl _) heval
  | comparison first links =>
    have hops : ∀ link ∈ links, link.1.isSupported := fun link hlink =>
      (Comparison.isSupported_iff link.1).2 (hpermitted link hlink)
    simp only [Expr.eval]
    refine settles_bind (hinside first (by simp [children])) fun v hv => ?_
    refine settles_evalLinks (List.Subset.refl _) hops ?_ ⟨first, by simp, hv⟩
    intro link hlink
    exact heval link.2 (List.mem_cons_of_mem first (List.mem_map_of_mem hlink))
  | conditional test thenCase elseCase =>
    simp only [Expr.eval]
    refine settles_bind (hinside test (by simp [children])) fun v _ => ?_
    by_cases hv : v.truth
    · simpa only [hv, if_true] using hinside thenCase (by simp [children])
    · simpa only [hv, Bool.false_eq_true, if_false] using hinside elseCase (by simp [children])
  | subscript value index =>
    simp only [Expr.eval]
    refine settles_bind (hinside value (by simp [children])) fun v hv => ?_
    refine settles_bind (hinside index (by simp [children])) fun i hi => ?_
    exact settles_blamed (raising_subscripted v i) fun f hf => .subscript hv hi hf
  | slice lower upper step =>
    have hpart : ∀ part : Option Expr, part.toList ⊆ (Expr.slice lower upper step).children →
        Settles .exhausted (Expr.Blames bindings (.slice lower upper step))
          fun room => evalPart bindings room part :=
      fun part h => settles_evalPart h fun child hchild => heval child (h hchild)
    simp only [Expr.eval]
    refine settles_bind (hpart lower (by simp [children])) fun a _ => ?_
    refine settles_bind (hpart upper (by simp [children])) fun b _ => ?_
    refine settles_bind (hpart step (by simp [children])) fun c _ => ?_
    exact settles_ok _
  | list items | tuple items =>
    simp only [Expr.eval]
    exact settles_bind (settles_evalAll (List.Subset.refl _) heval) fun values _ => settles_ok _
  | call function arguments keywords =>
    obtain ⟨⟨helper, rfl⟩, rfl⟩ := hpermitted
    simp only [Expr.eval, Helper.ofName?_name]
    have harguments : arguments ⊆ (Expr.call (.name helper.name) arguments []).children := by
      simp [children]
    refine settles_bind (settles_evalAll harguments fun child hchild =>
      heval child (harguments hchild)) fun values hvalues => ?_
    obtain ⟨room, hroom⟩ := hvalues
    refine (settles_helperCall helper values).refine fun room' f hf hraised => ?_
    exact .of_self hraised (.call (forall₂_hasValue hroom) hf)
  | unsupported which operands => exact hpermitted.elim
termination_by e.depth

/-- An expression is accepted exactly if everything in it is of the closed set,
    and in as much room as it has levels the check finds that out. Whatever is
    accepted can be evaluated in bindings of the declared names: in no room does
    the walk meet anything that it has nothing for; from some room on it ends
    always alike, in a value or in a failure; and every failure but that the room
    gave out is one that an operator or a helper makes, at some expression in it,
    of the values of the operands there. -/
theorem accepted_iff_and_never_stuck [Platform] (names : List String) (e : Expr) :
    (e.check names = .ok () ↔ e.Accepted names) ∧
    (∀ room, e.depth ≤ room →
      (e.checkWithin names room = .ok () ↔ e.Accepted names) ∧
        e.checkWithin names room ≠ .error .exhausted) ∧
    ∀ room, e.checkWithin names room = .ok () → e.Accepted names ∧
      ∀ bindings : Bindings, (∀ name, name ∈ bindings.map Prod.fst ↔ name ∈ names) →
        (∀ room what, e.eval bindings room ≠ .error (.stuck what)) ∧
        (∀ room f, e.eval bindings room = .error f → f = .exhausted ∨ e.Blames bindings f) ∧
        ∃ bound, (∃ v, ∀ room, bound ≤ room → e.eval bindings room = .ok v) ∨
          ∃ f, e.Blames bindings f ∧ ∀ room, bound ≤ room → e.eval bindings room = .error f := by
  refine ⟨?_, ?_, ?_⟩
  · have hjudges : Judges (e.Accepted names) (e.checkWithin names e.depth) :=
      judges_checkWithin e (Nat.le_refl _)
    obtain ⟨hgood, hok⟩ | ⟨hbad, refusal, hrefused⟩ := hjudges
    · simp [check, hok, hgood]
    · simp [check, hrefused, hbad]
  · intro room hroom
    have hjudges : Judges (e.Accepted names) (e.checkWithin names room) :=
      judges_checkWithin e hroom
    exact ⟨hjudges.ok_iff, hjudges.not_exhausted⟩
  · intro room hcheck
    have haccepted := accepted_of_checkWithin hcheck
    refine ⟨haccepted, ?_⟩
    intro bindings hnames
    have hsettles := settles_eval (fun name hname => (hnames name).2 hname) e haccepted
    refine ⟨?_, hsettles.fails, ?_⟩
    · intro room what hstuck
      obtain hout | ⟨hraised, -⟩ := hsettles.fails room _ hstuck
      · cases hout
      · exact hraised
    · obtain ⟨bound, r, hr, hends⟩ := hsettles.ends
      refine ⟨bound, ?_⟩
      cases r with
      | ok v => exact .inl ⟨v, hends⟩
      | error f =>
        refine .inr ⟨f, ?_, hends⟩
        obtain rfl | hblames := hsettles.fails bound f (hends bound (Nat.le_refl _))
        · exact absurd rfl hr
        · exact hblames

/-- In a conditional, a division by zero is accepted beside a call that is not
    evaluated; it fails, and the failure is one of the operator. -/
theorem accepted_iff_and_never_stuck_division :
    let e : Expr := .conditional (.name "t") (.binary .div (.name "x") (.literal (.int 0)))
      (.call (.name "len") [.slice none (some (.name "x")) none] [])
    e.depth ≤ 4 ∧ e.checkWithin ["t", "x"] 4 = .ok () ∧ e.Accepted ["t", "x"] ∧
      e.Blames [("x", .int 1), ("t", .bool true)] (.fault (.divisionByZero .div false)) := by
  intro e
  have hdepth : e.depth ≤ 4 := by decide
  obtain ⟨-, hcheck, hprogress⟩ := accepted_iff_and_never_stuck ["t", "x"] e
  have hok : e.checkWithin ["t", "x"] 4 = .ok () := by decide +kernel
  obtain ⟨-, hwalk⟩ := hprogress 4 hok
  obtain ⟨-, hfails, -⟩ := hwalk [("x", .int 1), ("t", .bool true)] (by simp [or_comm])
  refine ⟨hdepth, hok, (hcheck 4 hdepth).1.1 hok, ?_⟩
  exact (hfails 4 _ rfl).resolve_left nofun

end MiniLisp.Host
