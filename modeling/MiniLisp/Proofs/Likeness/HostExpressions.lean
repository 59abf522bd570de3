import MiniLisp.Proofs.Likeness.HostValues

/-! # Host expressions in runs that are alike

    A host expression whose variables are bound to terms that are alike yields
    terms that are alike, or the same failure. The walk over its tree is the
    same in both runs, since values that are alike count as true alike.

    * **`Host.concur_valueOf`** and **`Host.concur_toTerm`** — from terms to
      values and back;
    * **`Host.concur_eval`** — the walk over the tree;
    * **`concur_hostValue`** — a host expression in a scope. -/

namespace MiniLisp

variable {L : Likeness}

namespace Host

/-! ## Terms and values -/

section Terms

mutual

theorem concur_toTerm (room : Nat) {v v' : Value} (h : v.Like L v') :
    Concur (Term.Like L) (v.toTerm room) (v'.toTerm room) := by
  cases room with
  | zero =>
    rw [Value.toTerm, Value.toTerm]
    exact .error _
  | succ room =>
    cases h with
    | list each =>
      rw [Value.toTerm, Value.toTerm]
      exact concur_bind (concur_toTerms room each) fun _ _ terms => .ok (.list terms)
    | function tags codes =>
      rw [Value.toTerm, Value.toTerm]
      exact .ok (.function tags codes)
    | int n =>
      rw [Value.toTerm]
      split
      · exact .ok (.num _)
      · exact .error _
    | bool b => exact .ok (.bool b)
    | text s => exact .ok (.str s)
    | real x origin => exact .ok (.num x)
    | none | helper | slice => exact .error _

theorem concur_toTerms (room : Nat) {vs vs' : List Value}
    (h : List.Forall₂ (Value.Like L) vs vs') :
    Concur (List.Forall₂ (Term.Like L)) (Value.toTerms room vs) (Value.toTerms room vs') := by
  cases h with
  | nil => exact .ok .nil
  | cons first others =>
    rw [Value.toTerms, Value.toTerms]
    refine concur_bind (concur_toTerm room first) fun t t' ht => ?_
    refine concur_bind (concur_toTerms room others) fun ts ts' hts => ?_
    exact .ok (.cons ht hts)

end

theorem shownAsTerm_eq (room : Nat) {v v' : Value} (h : v.Like L v') :
    shownAsTerm room v' = shownAsTerm room v := by
  have hshow := h.show?_eq
  have hterm := concur_toTerm room h
  cases h with
  | @list items items' each =>
    unfold shownAsTerm
    dsimp only
    generalize (Value.list items).toTerm room = x, (Value.list items').toTerm room = y at hterm
    cases hterm with
    | ok values => simp only [values.display_eq]
    | error e => rfl
  | function | slice => exact congrArg lift hshow
  | none | bool | int | real | text | helper => rfl

/-- Where a name is bound, in the second run as in the first one. -/
def LikeEntry (L : Likeness) (entry entry' : ScopeId × Term) : Prop :=
  entry'.1 = entry.1 ∧ entry.2.Like L entry'.2

theorem alike_zipIdx {ts ts' : List Term} (h : List.Forall₂ (Term.Like L) ts ts') (n : Nat) :
    List.Forall₂ (fun item item' => item.1.Like L item'.1 ∧ item'.2 = item.2) (ts.zipIdx n)
      (ts'.zipIdx n) := by
  induction h generalizing n with
  | nil => exact .nil
  | cons first _ ih => exact .cons ⟨first, rfl⟩ (ih (n + 1))

theorem concur_valueOf {find find' : String → Option (ScopeId × Term)}
    (hfind : ∀ name, L.name name → Option.Rel (LikeEntry L) (find name) (find' name))
    (room : Nat) {t t' : Term} (ht : t.Like L t') (origin : Origin) :
    Concur (Value.Like L) (valueOf find room origin t) (valueOf find' room origin t') := by
  induction room generalizing t t' origin with
  | zero =>
    rw [valueOf, valueOf]
    exact .error _
  | succ room ih =>
    cases ht with
    | sym known lines =>
      rw [valueOf, valueOf]
      have hbound := hfind _ known
      generalize find _ = x, find' _ = y at hbound
      cases hbound with
      | none => exact .error _
      | @some entry entry' h =>
        obtain ⟨scope, bound⟩ := entry
        obtain ⟨scope', bound'⟩ := entry'
        obtain ⟨rfl, halike⟩ := h
        exact ih halike _
    | list each =>
      rw [valueOf, valueOf]
      refine concur_bind (concur_mapM (alike_zipIdx each 0) ?_)
        fun values values' (h : List.Forall₂ (Value.Like L) values values') => ?_
      · rintro ⟨item, i⟩ ⟨item', i'⟩ ⟨halike, hplace⟩
        dsimp only at halike hplace ⊢
        subst hplace
        exact ih halike _
      · exact .ok (.list h)
    | function tags codes => exact .ok (.function tags codes)
    | bool b => exact .ok (.bool b)
    | str text => exact .ok (.text text)
    | num x => exact .ok (.real x _)
    | nil => exact .ok .none

end Terms

/-! ## Helpers that are called -/

section Calls

variable {v v' : Value}

theorem concur_callOne [Host.Platform] (room : Nat) (h : Helper) (hv : v.Like L v') :
    Concur (Value.Like L) (callOne room h v) (callOne room h v') := by
  cases h with
  | len =>
    cases hv with
    | list each =>
      simp only [callOne, lengthOf, each.length_eq]
      exact .ok (.int _)
    | text s => exact .ok (.int _)
    | none | bool | int | real | function | helper | slice => exact .error _
  | abs =>
    simp only [callOne, magnitude, hv.numeral?_eq, hv.kind_eq]
    split
    · exact .ok (.int _)
    · exact .ok (.real _ _)
    · exact .error _
  | str =>
    simp only [callOne, shownAsTerm_eq room hv]
    exact concur_map _ fun _ => .text _
  | upper | lower =>
    cases hv with
    | text s => exact .ok (.text _)
    | helper h =>
      simp only [callOne, changeCase]
      split
      · exact .error _
      · exact .error _
    | none | bool | int | real | list | function | slice => exact .error _
  | isNumber => cases hv <;> exact .ok (.bool _)
  | isString | isList | isBool | isNil =>
    simp only [callOne, hv.kind_eq]
    exact .ok (.bool _)
  | float => exact concur_toReal hv
  | int =>
    have hsame : toInt v' = toInt v := by cases hv <;> rfl
    simp only [callOne, hsame]
    exact concur_map _ fun _ => .int _
  | round =>
    have hsame : rounded v' = rounded v := by cases hv <;> rfl
    simp only [callOne, hsame]
    exact concur_rounded v
  | min => exact concur_extremeOf .min .lt (.cons hv .nil)
  | max => exact concur_extremeOf .max .gt (.cons hv .nil)

theorem concur_call [Host.Platform] (room : Nat) (h : Helper) {arguments arguments' : List Value}
    (harguments : List.Forall₂ (Value.Like L) arguments arguments') :
    Concur (Value.Like L) (h.call room arguments) (h.call room arguments') := by
  have hcount : Concur (Value.Like L) (raise (.argumentCount h arguments.length))
      (raise (.argumentCount h arguments'.length)) := by
    rw [harguments.length_eq]
    exact .error _
  have hone : ∀ {u u' : Value}, u.Like L u' →
      Concur (Value.Like L) (callOne room h u) (callOne room h u') := concur_callOne room h
  cases h with
  | min => exact concur_extremeOf .min .lt harguments
  | max => exact concur_extremeOf .max .gt harguments
  | float =>
    cases harguments with
    | nil => exact .ok (.real _ _)
    | cons first others =>
      cases others with
      | nil => exact hone first
      | cons _ _ => exact hcount
  | int =>
    cases harguments with
    | nil => exact .ok (.int 0)
    | cons first others =>
      cases others with
      | nil => exact hone first
      | cons second others =>
        cases others with
        | nil =>
          have hsame : ∀ {u u' base base' : Value}, u.Like L u' → base.Like L base' →
              toIntInBase u' base' = toIntInBase u base := by
            intro u u' base base' hu hbase
            cases hbase <;> cases hu <;> rfl
          simp only [Helper.call, hsame first second]
          exact concur_map _ fun _ => .int _
        | cons _ _ => exact hcount
  | round =>
    cases harguments with
    | nil => exact hcount
    | cons first others =>
      cases others with
      | nil => exact hone first
      | cons second others =>
        cases others with
        | nil =>
          simp only [Helper.call, roundedTo_eq first second]
          exact concur_roundedTo _ _
        | cons _ _ => exact hcount
  | len | abs | str | upper | lower | isNumber | isString | isList | isBool | isNil =>
    cases harguments with
    | nil => exact hcount
    | cons first others =>
      cases others with
      | nil => exact hone first
      | cons _ _ => exact hcount

end Calls

/-! ## The walk over the tree -/

section Walk

/-- What a variable means, in the second run as in the first one. -/
def LikeBinding (L : Likeness) (entry entry' : String × Value) : Prop :=
  entry'.1 = entry.1 ∧ entry.2.Like L entry'.2

variable {bindings bindings' : Bindings}

theorem concur_nameValue (hbindings : List.Forall₂ (LikeBinding L) bindings bindings')
    (id : String) :
    Concur (Value.Like L) (nameValue bindings id) (nameValue bindings' id) := by
  have hlookup : Option.Rel (Value.Like L) (bindings.lookup id) (bindings'.lookup id) := by
    induction hbindings with
    | nil => exact .none
    | @cons entry entry' _ _ first _ ih =>
      obtain ⟨name, v⟩ := entry
      obtain ⟨name', v'⟩ := entry'
      obtain ⟨rfl, halike⟩ := first
      rw [List.lookup_cons, List.lookup_cons]
      dsimp only
      cases id == name' with
      | true => exact .some halike
      | false => exact ih
  unfold nameValue
  generalize bindings.lookup id = x, bindings'.lookup id = y at hlookup
  cases hlookup with
  | some halike => exact .ok halike
  | none =>
    dsimp only
    split
    · exact .ok (.helper _)
    · exact .error _

mutual

theorem concur_eval [Host.Platform]
    (hbindings : List.Forall₂ (LikeBinding L) bindings bindings') (room : Nat)
    (e : Expr) : Concur (Value.Like L) (e.eval bindings room) (e.eval bindings' room) := by
  cases room with
  | zero =>
    rw [Expr.eval, Expr.eval]
    exact .error _
  | succ room =>
    cases e with
    | literal l =>
      rw [Expr.eval, Expr.eval]
      exact concur_literal l
    | name id =>
      rw [Expr.eval, Expr.eval]
      exact concur_nameValue hbindings id
    | binary op left right =>
      rw [Expr.eval, Expr.eval]
      split
      · refine concur_bind (concur_eval hbindings room left) fun v v' hv => ?_
        exact concur_bind (concur_eval hbindings room right) fun w w' hw =>
          concur_applyBinary op hv hw
      · exact .error _
    | unary op operand =>
      rw [Expr.eval, Expr.eval]
      exact concur_bind (concur_eval hbindings room operand) fun v v' hv =>
        concur_applyUnary op hv
    | conjunction operands =>
      rw [Expr.eval, Expr.eval]
      exact concur_evalAnd hbindings room operands (.bool true)
    | disjunction operands =>
      rw [Expr.eval, Expr.eval]
      exact concur_evalOr hbindings room operands (.bool false)
    | comparison first links =>
      rw [Expr.eval, Expr.eval]
      exact concur_bind (concur_eval hbindings room first) fun v v' hv =>
        concur_evalLinks hbindings room links hv
    | conditional test thenCase elseCase =>
      rw [Expr.eval, Expr.eval]
      refine concur_bind (concur_eval hbindings room test) fun v v' hv => ?_
      -- Values that are alike count as true alike, so the same case is taken.
      rw [hv.truth_eq]
      split
      · exact concur_eval hbindings room thenCase
      · exact concur_eval hbindings room elseCase
    | subscript value index =>
      rw [Expr.eval, Expr.eval]
      refine concur_bind (concur_eval hbindings room value) fun v v' hv => ?_
      exact concur_bind (concur_eval hbindings room index) fun i i' hi => concur_subscripted hv hi
    | slice lower upper step =>
      rw [Expr.eval, Expr.eval]
      refine concur_bind (concur_evalPart hbindings room lower) fun a a' ha => ?_
      refine concur_bind (concur_evalPart hbindings room upper) fun b b' hb => ?_
      refine concur_bind (concur_evalPart hbindings room step) fun c c' hc => ?_
      exact .ok (.slice ha hb hc)
    | list items =>
      rw [Expr.eval, Expr.eval]
      exact concur_bind (concur_evalAll hbindings room items) fun _ _ each => .ok (.list each)
    | tuple items =>
      rw [Expr.eval, Expr.eval]
      exact concur_bind (concur_evalAll hbindings room items) fun _ _ each => .ok (.list each)
    | call function arguments keywords =>
      cases function with
      | name id =>
        rw [Expr.eval, Expr.eval]
        split
        · exact concur_bind (concur_evalAll hbindings room arguments) fun _ _ each =>
            concur_call room _ each
        · exact .error _
      | literal _ | binary _ _ _ | unary _ _ | conjunction _ | disjunction _ | comparison _ _
      | conditional _ _ _ | subscript _ _ | slice _ _ _ | list _ | tuple _ | call _ _ _
      | unsupported _ _ => exact .error _
    | unsupported which operands => exact .error _

theorem concur_evalAll [Host.Platform] (hbindings : List.Forall₂ (LikeBinding L) bindings bindings')
    (room : Nat) : (es : List Expr) → Concur (List.Forall₂ (Value.Like L))
      (Expr.evalAll bindings room es) (Expr.evalAll bindings' room es)
  | [] => .ok .nil
  | e :: rest => by
    rw [Expr.evalAll, Expr.evalAll]
    refine concur_bind (concur_eval hbindings room e) fun v v' hv => ?_
    refine concur_bind (concur_evalAll hbindings room rest) fun vs vs' hvs => ?_
    exact .ok (.cons hv hvs)

theorem concur_evalAnd [Host.Platform] (hbindings : List.Forall₂ (LikeBinding L) bindings bindings')
    (room : Nat) {last last' : Value} : (es : List Expr) → last.Like L last' →
      Concur (Value.Like L) (Expr.evalAnd bindings room last es)
        (Expr.evalAnd bindings' room last' es)
  | [], hlast => .ok hlast
  | e :: rest, _ => by
    rw [Expr.evalAnd, Expr.evalAnd]
    refine concur_bind (concur_eval hbindings room e) fun v v' hv => ?_
    rw [hv.truth_eq]
    split
    · exact concur_evalAnd hbindings room rest hv
    · exact .ok hv

theorem concur_evalOr [Host.Platform] (hbindings : List.Forall₂ (LikeBinding L) bindings bindings')
    (room : Nat) {last last' : Value} : (es : List Expr) → last.Like L last' →
      Concur (Value.Like L) (Expr.evalOr bindings room last es)
        (Expr.evalOr bindings' room last' es)
  | [], hlast => .ok hlast
  | e :: rest, _ => by
    rw [Expr.evalOr, Expr.evalOr]
    refine concur_bind (concur_eval hbindings room e) fun v v' hv => ?_
    rw [hv.truth_eq]
    split
    · exact .ok hv
    · exact concur_evalOr hbindings room rest hv

theorem concur_evalLinks [Host.Platform]
    (hbindings : List.Forall₂ (LikeBinding L) bindings bindings')
    (room : Nat) {left left' : Value} : (links : List (Comparison × Expr)) →
      left.Like L left' → Concur (Value.Like L) (Expr.evalLinks bindings room left links)
        (Expr.evalLinks bindings' room left' links)
  | [], _ => .ok (.bool true)
  | (op, e) :: rest, hleft => by
    rw [Expr.evalLinks, Expr.evalLinks]
    refine concur_bind (concur_eval hbindings room e) fun right right' hright => ?_
    rw [hleft.compared_eq op hright]
    refine concur_then _ fun holds => ?_
    split
    · exact concur_evalLinks hbindings room rest hright
    · exact .ok (.bool false)

theorem concur_evalPart [Host.Platform]
    (hbindings : List.Forall₂ (LikeBinding L) bindings bindings')
    (room : Nat) : (part : Option Expr) → Concur (Value.Like L)
      (Expr.evalPart bindings room part) (Expr.evalPart bindings' room part)
  | none => .ok .none
  | some e => by
    rw [Expr.evalPart, Expr.evalPart]
    exact concur_eval hbindings room e

end

end Walk

end Host

/-! ## In a scope -/

section Scopes

variable {scopes scopes' : Scopes} {scope : ScopeId}

/-- Where a name is bound, seen from a scope, and to what. -/
def Scopes.find (s : Scopes) (scope : ScopeId) (name : String) : Option (ScopeId × Term) :=
  (s.owner scope name).bind fun owner =>
    ((s.bindingsOf owner).get? name).map fun t => (owner, t)

/-- A host expression has the same value in scopes that bind the names alike
    that its variables may lead to. -/
theorem concur_hostValue [Host.Platform]
    (hfind : ∀ name, L.name name →
      Option.Rel (Host.LikeEntry L) (scopes.find scope name) (scopes'.find scope name))
    (room : Nat) (program : HostProgram) (hnames : ∀ name ∈ program.names, L.name name) :
    Concur (Term.Like L) (Evaluation.hostValue room program scopes scope)
      (Evaluation.hostValue room program scopes' scope) := by
  have hbindings : Concur (List.Forall₂ (Host.LikeBinding L))
      (Evaluation.hostBindings room scopes scope program.names)
      (Evaluation.hostBindings room scopes' scope program.names) := by
    have hsame : List.Forall₂ (fun name name' => name' = name ∧ L.name name) program.names
        program.names := List.forall₂_same.2 fun name hname => ⟨rfl, hnames name hname⟩
    refine concur_mapM hsame ?_
    rintro _ name ⟨rfl, hname⟩
    have hsymbol : (Term.sym name 0).Like L (.sym name 0) := Term.Like.ofName hname
    have hvalue := Host.concur_valueOf hfind room hsymbol ⟨scope, name, []⟩
    exact concur_bind hvalue fun v v' hv => .ok ⟨rfl, hv⟩
  refine concur_bind (concur_mapError _ hbindings) fun bindings bindings' h => ?_
  refine concur_bind (concur_mapError _ (Host.concur_eval h room program.body)) fun v v' hv => ?_
  exact concur_mapError _ (Host.concur_toTerm room hv)

end Scopes

end MiniLisp
