import MiniLisp.Evaluation
import MiniLisp.Proofs.HostValues

/-! # Host expressions in more room

    A host expression recurses over its tree, over the terms of its variables
    and over its value, and all of that within the room that is left. With more
    room nothing changes but that less is given up: the value and every failure
    stay the same, since no failure is made of an exhausted recursion. The same
    holds of checking a host expression and of reading a text.

    * **`extends_hostValue`** — evaluating a host expression;
    * **`extends_hostProgramWithin`** — checking one;
    * **`extends_parseWithin`** — reading a text. -/

namespace MiniLisp

namespace Host

variable {allowed : Mention → Prop}

section Room

/-! ## The value of an expression

    `room` is the room of the first result and `more` that of the second. -/

variable {room more : Nat}

mutual

theorem extends_toTerm {room more : Nat} (hroom : room ≤ more)
    (v : Value) (hv : v.Within allowed) :
    Extends .exhausted (Term.Within allowed) (v.toTerm room) (v.toTerm more) := by
  cases room with
  | zero => exact .inl (by rw [Value.toTerm])
  | succ room =>
    -- The second result has a level to spend, too.
    obtain ⟨more, rfl⟩ : ∃ n, more = n + 1 := ⟨more - 1, by omega⟩
    cases v with
    | list items =>
      rw [Value.toTerm, Value.toTerm]
      have hitems := Value.within_list.1 hv
      refine extends_bind (extends_toTerms (by omega) items hitems) fun terms hterms => ?_
      exact extends_ok (Term.within_list.2 hterms)
    | function tag code =>
      rw [Value.toTerm, Value.toTerm]
      exact extends_ok (Term.within_function.2 hv)
    | int n =>
      rw [Value.toTerm, Value.toTerm]
      split
      · exact extends_ok (Term.within_num _)
      · exact extends_error _
    | bool b => exact extends_ok (Term.within_bool b)
    | text s => exact extends_ok (Term.within_str s)
    | real x o => exact extends_ok (Term.within_num x)
    | none | helper _ | slice _ _ _ => exact extends_error _

theorem extends_toTerms {room more : Nat} (hroom : room ≤ more) :
    (vs : List Value) → (∀ v ∈ vs, v.Within allowed) →
      Extends .exhausted (fun terms => ∀ t ∈ terms, t.Within allowed)
        (Value.toTerms room vs) (Value.toTerms more vs)
  | [], _ => extends_ok (by simp)
  | v :: rest, hvs => by
    obtain ⟨hv, hrest⟩ := List.forall_mem_cons.1 hvs
    rw [Value.toTerms, Value.toTerms]
    refine extends_bind (extends_toTerm hroom v hv) fun t ht => ?_
    refine extends_bind (extends_toTerms hroom rest hrest) fun ts hts => ?_
    exact extends_ok (List.forall_mem_cons.2 ⟨ht, hts⟩)

end

theorem extends_shownAsTerm (hroom : room ≤ more) (v : Value) :
    Extends .exhausted (fun _ => True) (shownAsTerm room v) (shownAsTerm more v) := by
  have hsame : ∀ x : Outcome String, Extends .exhausted (fun _ => True) x x := fun x =>
    extends_self fun _ _ => trivial
  cases v with
  | list items =>
    have hv : (Value.list items).Within fun _ => True := fun _ _ => trivial
    -- A list that is no term is shown as a host value, unless the room gave out.
    unfold shownAsTerm
    dsimp only
    rcases extends_toTerm hroom _ hv with h | ⟨h, -⟩
    · rw [h]
      exact .inl rfl
    · rw [h]
      exact hsame _
  | none | bool _ | int _ | real _ _ | text _ | function _ _ | helper _ | slice _ _ _ =>
    exact hsame _

theorem extends_callOne [Host.Platform]
    (hroom : room ≤ more) (h : Helper) {v : Value} (hv : v.Within allowed) :
    Extends .exhausted (Value.Within allowed) (callOne room h v) (callOne more h v) := by
  have hone : ∀ u ∈ [v], u.Within allowed := by simpa using hv
  -- Only showing a value needs room.
  cases h with
  | str =>
    refine extends_map (extends_shownAsTerm hroom v) fun s _ => ?_
    exact Value.within_of_mentions_nil rfl
  | min => exact extends_self (within_extremeOf .min .lt hone)
  | max => exact extends_self (within_extremeOf .max .gt hone)
  | float => exact extends_self (within_toReal hv)
  | round => exact extends_self (plain_rounded v).within
  | int =>
    have hplain : Plain ((toInt v).map .int) := yields_map fun _ => rfl
    exact extends_self hplain.within
  | len =>
    refine extends_self (Plain.within ?_)
    unfold callOne lengthOf
    dsimp only
    split
    · exact plain_int _
    · exact plain_int _
    · exact plain_raise _
  | abs =>
    refine extends_self (Plain.within ?_)
    unfold callOne magnitude
    dsimp only
    split
    · exact plain_int _
    · exact plain_real _
    · exact plain_raise _
  | upper | lower =>
    refine extends_self (Plain.within ?_)
    unfold callOne changeCase
    dsimp only
    split
    · exact plain_text _
    · split
      · exact plain_raise _
      · exact plain_raise _
    · exact plain_raise _
  | isNumber | isString | isList | isBool | isNil => exact extends_self (plain_bool _).within

theorem extends_helperCall [Host.Platform]
    (hroom : room ≤ more) (h : Helper) {arguments : List Value}
    (harguments : ∀ v ∈ arguments, v.Within allowed) :
    Extends .exhausted (Value.Within allowed) (h.call room arguments) (h.call more arguments) := by
  unfold Helper.call
  split
  · exact extends_self (within_extremeOf .min .lt harguments)
  · exact extends_self (within_extremeOf .max .gt harguments)
  · exact extends_self (plain_real _).within
  · exact extends_self (plain_int _).within
  · have hplain : ∀ x : Outcome Int, Plain (x.map .int) := fun x => yields_map fun _ => rfl
    exact extends_self (hplain _).within
  · exact extends_self (plain_roundedTo _ _).within
  · exact extends_callOne hroom h (harguments _ List.mem_cons_self)
  · exact extends_self (plain_raise _).within

/-! ### The walk over the tree -/

variable {bindings : Bindings}

theorem within_nameValue (hbindings : ∀ entry ∈ bindings, entry.2.Within allowed) (id : String) :
    Yields (Value.Within allowed) (nameValue bindings id) := by
  unfold nameValue
  split
  · next v hv =>
    obtain ⟨before, after, heq, -⟩ := List.lookup_eq_some_iff.1 hv
    exact yields_ok (hbindings (id, v) (by simp [heq]))
  · split
    · exact yields_ok (Value.within_of_mentions_nil rfl)
    · exact yields_error _

mutual

theorem extends_eval [Host.Platform] {room more : Nat} (hroom : room ≤ more)
    (hbindings : ∀ entry ∈ bindings, entry.2.Within allowed) (e : Expr) :
    Extends .exhausted (Value.Within allowed) (e.eval bindings room) (e.eval bindings more) := by
  cases room with
  | zero => exact .inl (by rw [Expr.eval])
  | succ room =>
    obtain ⟨more, rfl⟩ : ∃ n, more = n + 1 := ⟨more - 1, by omega⟩
    have hless : room ≤ more := by omega
    cases e with
    | literal l =>
      rw [Expr.eval, Expr.eval]
      exact extends_self (plain_literal l).within
    | name id =>
      rw [Expr.eval, Expr.eval]
      exact extends_self (within_nameValue hbindings id)
    | binary op left right =>
      rw [Expr.eval, Expr.eval]
      split
      · refine extends_bind (extends_eval hless hbindings left) fun v hv => ?_
        refine extends_bind (extends_eval hless hbindings right) fun w hw => ?_
        exact extends_self (within_applyBinary op hv hw)
      · exact extends_error _
    | unary op operand =>
      rw [Expr.eval, Expr.eval]
      refine extends_bind (extends_eval hless hbindings operand) fun v hv => ?_
      exact extends_self (within_applyUnary op hv)
    | conjunction operands =>
      rw [Expr.eval, Expr.eval]
      exact extends_evalAnd hless hbindings operands (Value.within_of_mentions_nil rfl)
    | disjunction operands =>
      rw [Expr.eval, Expr.eval]
      exact extends_evalOr hless hbindings operands (Value.within_of_mentions_nil rfl)
    | comparison first links =>
      rw [Expr.eval, Expr.eval]
      refine extends_bind (extends_eval hless hbindings first) fun v hv => ?_
      exact extends_evalLinks hless hbindings links hv
    | conditional test thenCase elseCase =>
      rw [Expr.eval, Expr.eval]
      refine extends_bind (extends_eval hless hbindings test) fun v hv => ?_
      -- The test has the same value in both, so the same case is taken.
      split
      · exact extends_eval hless hbindings thenCase
      · exact extends_eval hless hbindings elseCase
    | subscript value index =>
      rw [Expr.eval, Expr.eval]
      refine extends_bind (extends_eval hless hbindings value) fun v hv => ?_
      refine extends_bind (extends_eval hless hbindings index) fun i hi => ?_
      exact extends_self (within_subscripted hv i)
    | slice lower upper step =>
      rw [Expr.eval, Expr.eval]
      refine extends_bind (extends_evalPart hless hbindings lower) fun a _ => ?_
      refine extends_bind (extends_evalPart hless hbindings upper) fun b _ => ?_
      refine extends_bind (extends_evalPart hless hbindings step) fun c _ => ?_
      exact extends_ok (Value.within_of_mentions_nil rfl)
    | list items =>
      rw [Expr.eval, Expr.eval]
      refine extends_bind (extends_evalAll hless hbindings items) fun values hvalues => ?_
      exact extends_ok (Value.within_list.2 hvalues)
    | tuple items =>
      rw [Expr.eval, Expr.eval]
      refine extends_bind (extends_evalAll hless hbindings items) fun values hvalues => ?_
      exact extends_ok (Value.within_list.2 hvalues)
    | call function arguments keywords =>
      cases function with
      | name id =>
        rw [Expr.eval, Expr.eval]
        split
        · refine extends_bind (extends_evalAll hless hbindings arguments) fun values hvalues => ?_
          exact extends_helperCall hless _ hvalues
        · exact extends_error _
      | literal _ | binary _ _ _ | unary _ _ | conjunction _ | disjunction _ | comparison _ _
      | conditional _ _ _ | subscript _ _ | slice _ _ _ | list _ | tuple _ | call _ _ _
      | unsupported _ _ => exact extends_error _
    | unsupported which operands => exact extends_error _

theorem extends_evalAll [Host.Platform] {room more : Nat} (hroom : room ≤ more)
    (hbindings : ∀ entry ∈ bindings, entry.2.Within allowed) :
    (es : List Expr) → Extends .exhausted (fun values => ∀ v ∈ values, v.Within allowed)
      (Expr.evalAll bindings room es) (Expr.evalAll bindings more es)
  | [] => extends_ok (by simp)
  | e :: rest => by
    rw [Expr.evalAll, Expr.evalAll]
    refine extends_bind (extends_eval hroom hbindings e) fun v hv => ?_
    refine extends_bind (extends_evalAll hroom hbindings rest) fun vs hvs => ?_
    exact extends_ok (List.forall_mem_cons.2 ⟨hv, hvs⟩)

theorem extends_evalAnd [Host.Platform] {room more : Nat} (hroom : room ≤ more)
    (hbindings : ∀ entry ∈ bindings, entry.2.Within allowed) {last : Value} :
    (es : List Expr) → last.Within allowed →
      Extends .exhausted (Value.Within allowed) (Expr.evalAnd bindings room last es)
        (Expr.evalAnd bindings more last es)
  | [], hlast => extends_ok hlast
  | e :: rest, _ => by
    rw [Expr.evalAnd, Expr.evalAnd]
    refine extends_bind (extends_eval hroom hbindings e) fun v hv => ?_
    split
    · exact extends_evalAnd hroom hbindings rest hv
    · exact extends_ok hv

theorem extends_evalOr [Host.Platform] {room more : Nat} (hroom : room ≤ more)
    (hbindings : ∀ entry ∈ bindings, entry.2.Within allowed) {last : Value} :
    (es : List Expr) → last.Within allowed →
      Extends .exhausted (Value.Within allowed) (Expr.evalOr bindings room last es)
        (Expr.evalOr bindings more last es)
  | [], hlast => extends_ok hlast
  | e :: rest, _ => by
    rw [Expr.evalOr, Expr.evalOr]
    refine extends_bind (extends_eval hroom hbindings e) fun v hv => ?_
    split
    · exact extends_ok hv
    · exact extends_evalOr hroom hbindings rest hv

theorem extends_evalLinks [Host.Platform] {room more : Nat} (hroom : room ≤ more)
    (hbindings : ∀ entry ∈ bindings, entry.2.Within allowed) {left : Value} :
    (links : List (Comparison × Expr)) → left.Within allowed →
      Extends .exhausted (Value.Within allowed) (Expr.evalLinks bindings room left links)
        (Expr.evalLinks bindings more left links)
  | [], _ => extends_self (plain_bool true).within
  | (op, e) :: rest, _ => by
    rw [Expr.evalLinks, Expr.evalLinks]
    refine extends_bind (extends_eval hroom hbindings e) fun right hright => ?_
    -- Comparing two values takes no room.
    refine extends_bind (extends_self fun _ _ => trivial : Extends _ (fun _ => True) _ _) ?_
    intro holds _
    split
    · exact extends_evalLinks hroom hbindings rest hright
    · exact extends_self (plain_bool false).within

theorem extends_evalPart [Host.Platform] {room more : Nat} (hroom : room ≤ more)
    (hbindings : ∀ entry ∈ bindings, entry.2.Within allowed) :
    (part : Option Expr) → Extends .exhausted (Value.Within allowed)
      (Expr.evalPart bindings room part) (Expr.evalPart bindings more part)
  | none => extends_ok (Value.within_of_mentions_nil rfl)
  | some e => by
    rw [Expr.evalPart, Expr.evalPart]
    exact extends_eval hroom hbindings e

end

/-! ### The check -/

variable {names : List String}

mutual

theorem extends_checkWithin {room more : Nat} (hroom : room ≤ more) (e : Expr) :
    Extends .exhausted (fun _ => True) (e.checkWithin names room) (e.checkWithin names more) := by
  cases room with
  | zero => exact .inl (by rw [Expr.checkWithin])
  | succ room =>
    obtain ⟨more, rfl⟩ : ∃ n, more = n + 1 := ⟨more - 1, by omega⟩
    have hless : room ≤ more := by omega
    cases e with
    | literal l => cases l <;> exact extends_self fun _ _ => trivial
    | name id => exact extends_self fun _ _ => trivial
    | binary op left right =>
      rw [Expr.checkWithin, Expr.checkWithin]
      split
      · exact extends_bind (extends_checkWithin hless left) fun _ _ =>
          extends_checkWithin hless right
      · exact extends_error _
    | unary op operand =>
      rw [Expr.checkWithin, Expr.checkWithin]
      split
      · exact extends_checkWithin hless operand
      · exact extends_error _
    | conjunction operands | disjunction operands | list operands | tuple operands =>
      rw [Expr.checkWithin, Expr.checkWithin]
      exact extends_checkAll hless operands
    | comparison first links =>
      rw [Expr.checkWithin, Expr.checkWithin]
      have hoperators : Extends .exhausted (fun _ => True) (Expr.checkOperators links)
          (Expr.checkOperators links) := extends_self fun _ _ => trivial
      refine extends_bind hoperators fun _ _ => ?_
      exact extends_bind (extends_checkWithin hless first) fun _ _ =>
        extends_checkLinks hless links
    | conditional test thenCase elseCase =>
      rw [Expr.checkWithin, Expr.checkWithin]
      refine extends_bind (extends_checkWithin hless test) fun _ _ => ?_
      exact extends_bind (extends_checkWithin hless thenCase) fun _ _ =>
        extends_checkWithin hless elseCase
    | subscript value index =>
      rw [Expr.checkWithin, Expr.checkWithin]
      exact extends_bind (extends_checkWithin hless value) fun _ _ =>
        extends_checkWithin hless index
    | slice lower upper step =>
      rw [Expr.checkWithin, Expr.checkWithin]
      refine extends_bind (extends_checkPart hless lower) fun _ _ => ?_
      exact extends_bind (extends_checkPart hless upper) fun _ _ =>
        extends_checkPart hless step
    | call function arguments keywords =>
      cases function with
      | name id =>
        cases keywords with
        | nil =>
          rw [Expr.checkWithin, Expr.checkWithin]
          split
          · exact extends_checkAll hless arguments
          · exact extends_error _
        | cons _ _ => exact extends_error _
      | literal _ | binary _ _ _ | unary _ _ | conjunction _ | disjunction _ | comparison _ _
      | conditional _ _ _ | subscript _ _ | slice _ _ _ | list _ | tuple _ | call _ _ _
      | unsupported _ _ => exact extends_error _
    | unsupported which operands => exact extends_error _

theorem extends_checkAll {room more : Nat} (hroom : room ≤ more) :
    (es : List Expr) → Extends .exhausted (fun _ => True) (Expr.checkAll names room es)
      (Expr.checkAll names more es)
  | [] => extends_ok trivial
  | e :: rest => by
    rw [Expr.checkAll, Expr.checkAll]
    exact extends_bind (extends_checkWithin hroom e) fun _ _ => extends_checkAll hroom rest

theorem extends_checkLinks {room more : Nat} (hroom : room ≤ more) :
    (links : List (Comparison × Expr)) → Extends .exhausted (fun _ => True)
      (Expr.checkLinks names room links) (Expr.checkLinks names more links)
  | [] => extends_ok trivial
  | (_, e) :: rest => by
    rw [Expr.checkLinks, Expr.checkLinks]
    exact extends_bind (extends_checkWithin hroom e) fun _ _ => extends_checkLinks hroom rest

theorem extends_checkPart {room more : Nat} (hroom : room ≤ more) :
    (part : Option Expr) → Extends .exhausted (fun _ => True) (Expr.checkPart names room part)
      (Expr.checkPart names more part)
  | none => extends_ok trivial
  | some e => by
    rw [Expr.checkPart, Expr.checkPart]
    exact extends_checkWithin hroom e

end

/-! ### Variables -/

theorem extends_valueOf {find : String → Option (ScopeId × Term)}
    (hfind : ∀ name scope t, find name = some (scope, t) → t.Within allowed)
    (hroom : room ≤ more) {t : Term} (ht : t.Within allowed) (origin : Origin) :
    Extends .exhausted (Value.Within allowed) (valueOf find room origin t)
      (valueOf find more origin t) := by
  induction room generalizing more t origin with
  | zero => exact .inl (by rw [valueOf])
  | succ room ih =>
    obtain ⟨more, rfl⟩ : ∃ n, more = n + 1 := ⟨more - 1, by omega⟩
    have hless : room ≤ more := by omega
    cases t with
    | sym name line =>
      rw [valueOf, valueOf]
      cases hfound : find name with
      | none => exact extends_error _
      | some found =>
        obtain ⟨scope, bound⟩ := found
        exact ih hless (hfind name scope bound hfound) _
    | list items =>
      rw [valueOf, valueOf]
      have hitems := Term.within_list.1 ht
      refine extends_bind (extends_mapM ?_) fun values (h : ∀ v ∈ values, v.Within allowed) => ?_
      · rintro ⟨item, i⟩ hmem
        exact ih hless (hitems item (List.fst_mem_of_mem_zipIdx hmem)) _
      · exact extends_ok (Value.within_list.2 h)
    | function tag code =>
      exact extends_ok (Term.within_function.1 ht)
    | bool _ | str _ | num _ | nil => exact extends_ok (Value.within_of_mentions_nil rfl)

end Room

end Host

/-! ## In a scope -/

section Scopes

variable {allowed : Mention → Prop} {scopes : Scopes} {scope : ScopeId} {room more : Nat}

theorem extends_hostBindings
    (hbound : ∀ id ∈ scopes.chain scope, ∀ name t,
      (scopes.bindingsOf id).get? name = some t → t.Within allowed)
    (hroom : room ≤ more) (names : List String)
    (hnames : ∀ name ∈ names, allowed (.name name)) :
    Extends .exhausted (fun entries => ∀ entry ∈ entries, entry.2.Within allowed)
      (Evaluation.hostBindings room scopes scope names)
      (Evaluation.hostBindings more scopes scope names) := by
  refine extends_mapM fun name hname => ?_
  dsimp only
  have hsym : (Term.sym name 0).Within allowed := Term.within_sym.2 (hnames name hname)
  refine extends_bind (Host.extends_valueOf ?_ hroom hsym _) fun value hvalue => ?_
  · intro other owner t hfind
    obtain ⟨nearest, hnearest, hbind⟩ := Option.bind_eq_some_iff.1 hfind
    obtain ⟨u, hu, heq⟩ := Option.map_eq_some_iff.1 hbind
    cases heq
    exact hbound owner (List.mem_of_find?_eq_some hnearest) other t hu
  · exact extends_ok hvalue

variable [Host.Platform]

/-- A host expression yields the same in more room, unless it ran out of room;
    and it mentions only what the scopes it is evaluated in do. -/
theorem extends_hostValue
    (hbound : ∀ id ∈ scopes.chain scope, ∀ name t,
      (scopes.bindingsOf id).get? name = some t → t.Within allowed)
    (hroom : room ≤ more) (program : HostProgram)
    (hnames : ∀ name ∈ program.names, allowed (.name name)) :
    Extends .exhausted (Term.Within allowed) (Evaluation.hostValue room program scopes scope)
      (Evaluation.hostValue more program scopes scope) := by
  have hbindings := extends_mapError Evaluation.variableStop
    (extends_hostBindings hbound hroom program.names hnames)
  refine extends_bind hbindings fun bindings hvalues => ?_
  have heval := extends_mapError Evaluation.hostStop
    (Host.extends_eval hroom hvalues program.body)
  refine extends_bind heval fun value hvalue => ?_
  exact extends_mapError Evaluation.valueStop (Host.extends_toTerm hroom value hvalue)

theorem extends_checkedHost (hroom : room ≤ more) (source : String) (names : List String) :
    Extends .exhausted (fun program => program.names = names)
      (Expansion.checkedHost room source names) (Expansion.checkedHost more source names) := by
  unfold Expansion.checkedHost
  cases Expansion.hostBody source with
  | error refusal => exact extends_error _
  | ok body =>
    change Extends .exhausted _
      (body.checkWithin names room >>= fun _ => .ok (HostProgram.mk source names body))
      (body.checkWithin names more >>= fun _ => .ok (HostProgram.mk source names body))
    exact extends_bind (Host.extends_checkWithin hroom body) fun _ _ => extends_ok rfl

theorem extends_hostProgramWithin (hroom : room ≤ more) (source : String) (names : List String) :
    Extends .exhausted (fun program => program.names = names)
      (Expansion.hostProgramWithin room source names)
      (Expansion.hostProgramWithin more source names) :=
  extends_mapError (Expansion.refusalStop source) (extends_checkedHost hroom source names)

end Scopes

/-! ## Reading programs -/

/-- A text is read the same in more room, unless its lists do not fit the room;
    and it brings no names but words. -/
theorem extends_parseWithin {allowed : Mention → Prop} {room more : Nat}
    (words : ∀ name, IsWord name → allowed (.name name)) (hroom : room ≤ more) (text : String) :
    Extends .exhausted (fun forms => ∀ t ∈ forms, t.Within allowed)
      (Term.parseWithin room text) (Term.parseWithin more text) := by
  cases hscan : Token.scan text with
  | error e =>
    simp only [Term.parseWithin, hscan]
    exact extends_error _
  | ok tokens =>
    have hparse : Term.parse text = Term.ofTokens tokens := by simp only [Term.parse, hscan]; rfl
    have hwithin : ∀ n, Term.parseWithin n text = Term.ofTokensWithin n tokens := by
      intro n
      simp only [Term.parseWithin, hscan]
      rfl
    rw [hwithin, hwithin]
    unfold Term.ofTokensWithin
    by_cases hnesting : Draft.nesting 0 tokens ≤ room
    · rw [if_pos hnesting, if_pos (Nat.le_trans hnesting hroom)]
      refine extends_self ?_
      intro forms hforms
      cases hread : Term.ofTokens tokens with
      | error e =>
        rw [hread] at hforms
        cases hforms
      | ok forms' =>
        rw [hread] at hforms
        cases hforms
        exact Term.parse_within (hparse.trans hread) words
    · rw [if_neg hnesting]
      exact .inl rfl

end MiniLisp
