import MiniLisp.Evaluation
import MiniLisp.Proofs.Likeness

/-! # Host values that are alike

    A host expression takes the terms of its variables over as values, and two
    runs whose terms are alike compute with values that are alike. No operation
    tells such values apart: they compare and are shown alike, and what is
    computed from them is alike again or fails with the same fault. Functions
    are compared by their serial numbers, which correspond one to one.

    * **`Concur`** — two results that are related, or the same error;
    * **`Host.Value.Like`** — two values that differ as a likeness allows;
    * **`Host.Value.Like.compared_eq`** — comparisons;
    * **`Host.concur_applyBinary`**, **`Host.concur_applyUnary`** and
      **`Host.concur_subscripted`** — operators. -/

namespace MiniLisp

/-! ## Results -/

section Results

variable {ε ε' α β γ : Type} {good : α → α → Prop} {good' : β → β → Prop}

/-- Both results are values, which are related, or both are the same error. -/
inductive Concur (good : α → α → Prop) : Except ε α → Except ε α → Prop where
  | ok {a a' : α} (values : good a a') : Concur good (.ok a) (.ok a')
  | error (e : ε) : Concur good (.error e) (.error e)

theorem concur_bind {x y : Except ε α} {f g : α → Except ε β} (hx : Concur good x y)
    (hf : ∀ a a', good a a' → Concur good' (f a) (g a')) :
    Concur good' (x >>= f) (y >>= g) := by
  cases hx with
  | ok values => exact hf _ _ values
  | error e => exact .error e

/-- What comes first is the same, so it does not matter what it is. -/
theorem concur_then (x : Except ε α) {f g : α → Except ε β}
    (hf : ∀ a, Concur good' (f a) (g a)) : Concur good' (x >>= f) (x >>= g) := by
  cases x with
  | error e => exact .error e
  | ok a => exact hf a

theorem concur_map (x : Except ε α) {f : α → β} (hf : ∀ a, good' (f a) (f a)) :
    Concur good' (x.map f) (x.map f) := by
  cases x with
  | ok a => exact .ok (hf a)
  | error e => exact .error e

theorem concur_mapError {x y : Except ε α} (f : ε → ε') (hx : Concur good x y) :
    Concur good (x.mapError f) (y.mapError f) := by
  cases hx with
  | ok values => exact .ok values
  | error e => exact .error (f e)

theorem concur_mapM {f g : β → Except ε α} {bs bs' : List β} (h : List.Forall₂ good' bs bs')
    (hf : ∀ b b', good' b b' → Concur good (f b) (g b')) :
    Concur (List.Forall₂ good) (bs.mapM f) (bs'.mapM g) := by
  induction h with
  | nil => exact .ok .nil
  | cons first _ ih =>
    rw [List.mapM_cons, List.mapM_cons]
    refine concur_bind (hf _ _ first) fun a a' ha => ?_
    refine concur_bind ih fun as as' has => ?_
    exact .ok (.cons ha has)

end Results

variable {L : Likeness}

namespace Host

/-! ## Values -/

/-- Two host values differ at most as the likeness allows. -/
inductive Value.Like (L : Likeness) : Value → Value → Prop where
  | none : Value.Like L .none .none
  | bool (b : Bool) : Value.Like L (.bool b) (.bool b)
  | int (n : Int) : Value.Like L (.int n) (.int n)
  | real (x : Float) (origin : Option Origin) : Value.Like L (.real x origin) (.real x origin)
  | text (s : String) : Value.Like L (.text s) (.text s)
  | list {items items' : List Value} (each : List.Forall₂ (Value.Like L) items items') :
      Value.Like L (.list items) (.list items')
  | function {tag tag' : FunctionTag} {code code' : Code} (tags : tag.Like L tag')
      (codes : code.Like L code') : Value.Like L (.function tag code) (.function tag' code')
  | helper (h : Helper) : Value.Like L (.helper h) (.helper h)
  | slice {a a' b b' c c' : Value} (lower : Value.Like L a a') (upper : Value.Like L b b')
      (step : Value.Like L c c') : Value.Like L (.slice a b c) (.slice a' b' c')

namespace Value.Like

variable {v v' w w' : Value}

theorem kind_eq (h : v.Like L v') : v'.kind = v.kind := by
  cases h <;> rfl

theorem truth_eq (h : v.Like L v') : v'.truth = v.truth := by
  cases h with
  | list each => cases each <;> rfl
  | none | bool | int | real | text | function | helper | slice => rfl

theorem int?_eq (h : v.Like L v') : v'.int? = v.int? := by
  cases h <;> rfl

theorem numeral?_eq (h : v.Like L v') : v'.numeral? = v.numeral? := by
  cases h <;> rfl

mutual

theorem repr_eq {v v' : Value} (h : v.Like L v') : v'.repr = v.repr := by
  cases h with
  | list each => simp only [Value.repr, reprItems_eq each]
  | function tags _ => simp only [Value.repr, FunctionTag.text, tags.id]
  | slice lower upper step =>
    simp only [Value.repr, repr_eq lower, repr_eq upper, repr_eq step]
  | none | bool | int | real | text | helper => rfl

theorem reprItems_eq {vs vs' : List Value} (h : List.Forall₂ (Value.Like L) vs vs') :
    Value.reprItems vs' = Value.reprItems vs := by
  cases h with
  | nil => rfl
  | cons first others => simp only [Value.reprItems, repr_eq first, reprItems_eq others]

end

theorem show?_eq (h : v.Like L v') : v'.show? = v.show? := by
  have hrepr := h.repr_eq
  cases h with
  | text => rfl
  | none | bool | int | real | list | function | helper | slice => exact hrepr

variable [Host.Platform]

theorem identical_eq (hv : v.Like L v') (hw : w.Like L w') :
    Value.identical v' w' = Value.identical v w := by
  cases hv with
  | real x origin => cases origin <;> cases hw <;> rfl
  | none | bool | int | text | list | function | helper | slice => rfl

mutual

theorem equal_eq {v v' w w' : Value} (hv : v.Like L v') (hw : w.Like L w') :
    Value.equal v' w' = Value.equal v w := by
  cases hv with
  | list each =>
    cases hw with
    | list each' => simp only [Value.equal, equalItems_eq each each']
    | none | bool | int | real | text | function | helper | slice => rfl
  | function tags _ =>
    cases hw with
    | function tags' _ =>
      have hserial := L.serial_iff tags.serial tags'.serial
      simp only [Value.equal]
      exact Bool.eq_iff_iff.2 (by simpa using hserial)
    | none | bool | int | real | text | list | helper | slice => rfl
  | slice lower upper step =>
    cases hw with
    | slice lower' upper' step' =>
      simp only [Value.equal, equal_eq lower lower', equal_eq upper upper', equal_eq step step']
    | none | bool | int | real | text | list | function | helper => rfl
  | none | bool | int | real | text | helper => cases hw <;> rfl

theorem equalItems_eq {vs vs' ws ws' : List Value} (hvs : List.Forall₂ (Value.Like L) vs vs')
    (hws : List.Forall₂ (Value.Like L) ws ws') :
    Value.equalItems vs' ws' = Value.equalItems vs ws := by
  cases hvs with
  | nil => cases hws <;> rfl
  | cons first others =>
    cases hws with
    | nil => rfl
    | cons first' others' =>
      simp only [Value.equalItems, identical_eq first first', equal_eq first first',
        equalItems_eq others others']

end

theorem sameItem_eq (hv : v.Like L v') (hw : w.Like L w') :
    Value.sameItem v' w' = Value.sameItem v w := by
  rw [Value.sameItem, Value.sameItem, identical_eq hv hw, equal_eq hv hw]

mutual

theorem ordered_eq {v v' w w' : Value} (op : Comparison) (hv : v.Like L v') (hw : w.Like L w') :
    ordered op v' w' = ordered op v w := by
  cases hv with
  | list each =>
    cases hw with
    | list each' => simp only [ordered, orderedItems_eq op each each']
    | none | bool | int | real | text | function | slice => rfl
    | helper h => rfl
  | function tags _ => cases hw <;> rfl
  | slice lower upper step => cases hw <;> rfl
  | none | bool | int | real | text | helper => cases hw <;> rfl

theorem orderedItems_eq {vs vs' ws ws' : List Value} (op : Comparison)
    (hvs : List.Forall₂ (Value.Like L) vs vs') (hws : List.Forall₂ (Value.Like L) ws ws') :
    orderedItems op vs' ws' = orderedItems op vs ws := by
  cases hvs with
  | nil => cases hws <;> rfl
  | cons first others =>
    cases hws with
    | nil => rfl
    | cons first' others' =>
      simp only [orderedItems, sameItem_eq first first', ordered_eq op first first',
        orderedItems_eq op others others']

end

theorem member_eq (hv : v.Like L v') (hw : w.Like L w') : member v' w' = member v w := by
  cases hw with
  | list each =>
    simp only [member]
    congr 1
    induction each with
    | nil => rfl
    | cons first _ ih => simp only [List.any_cons, sameItem_eq first hv, ih]
  | text t => cases hv <;> rfl
  | none | bool | int | real | function | helper | slice => rfl

theorem compared_eq (op : Comparison) (hv : v.Like L v') (hw : w.Like L w') :
    compared op v' w' = compared op v w := by
  cases op with
  | eq | ne => simp only [compared, equal_eq hv hw]
  | lt | le | gt | ge => exact ordered_eq _ hv hw
  | member | notMember => simp only [compared, member_eq hv hw]
  | same | notSame => rfl

end Value.Like

/-! ## Operators -/

section Operators

variable {v v' w w' : Value}

theorem concur_literal (l : Literal) : Concur (Value.Like L) l.value l.value := by
  cases l with
  | none => exact .ok .none
  | bool b => exact .ok (.bool b)
  | int n => exact .ok (.int n)
  | real x => exact .ok (.real x _)
  | text s => exact .ok (.text s)
  | other shown => exact .error _

theorem concur_intOperation (op : BinaryOp) (m n : Int) :
    Concur (Value.Like L) (intOperation op m n) (intOperation op m n) := by
  unfold intOperation
  split
  · exact .ok (.int _)
  · exact .ok (.int _)
  · exact .ok (.int _)
  · unfold intQuotient
    split
    · exact .error _
    · extract_lets bits
      split
      · exact .error _
      · exact .ok (.real _ _)
  · split
    · exact .error _
    · exact .ok (.int _)
  · split
    · exact .error _
    · exact .ok (.int _)
  · exact .error _

theorem concur_realOperation (op : BinaryOp) (x y : Float) :
    Concur (Value.Like L) (realOperation op x y) (realOperation op x y) := by
  unfold realOperation
  split
  · exact .ok (.real _ _)
  · exact .ok (.real _ _)
  · exact .ok (.real _ _)
  · split
    · exact .error _
    · exact .ok (.real _ _)
  · split
    · exact .error _
    · exact .ok (.real _ _)
  · split
    · exact .error _
    · exact .ok (.real _ _)
  · exact .error _

theorem concur_numeralOperation (op : BinaryOp) (m n : Numeral) :
    Concur (Value.Like L) (numeralOperation op m n) (numeralOperation op m n) := by
  unfold numeralOperation
  split
  · exact concur_intOperation op _ _
  · exact concur_then _ fun x => concur_then _ fun y => concur_realOperation op x y

theorem concur_repeatText [Host.Platform] (s : String) (n : Int) :
    Concur (Value.Like L) (repeatText s n) (repeatText s n) := by
  refine concur_then _ fun count => ?_
  dsimp only
  split
  · exact .ok (.text "")
  · split
    · exact .error _
    · split
      · exact .error _
      · exact .ok (.text _)

theorem concur_repeatList [Host.Platform] {items items' : List Value}
    (h : List.Forall₂ (Value.Like L) items items') (n : Int) :
    Concur (Value.Like L) (repeatList items n) (repeatList items' n) := by
  refine concur_then _ fun count => ?_
  have hempty : items'.isEmpty = items.isEmpty := by cases h <;> rfl
  rw [hempty, h.length_eq]
  split
  · exact .ok (.list .nil)
  · dsimp only
    split
    · exact .error _
    · refine .ok (.list (List.rel_flatten ?_))
      exact List.forall₂_iff_get.2 ⟨by simp, by simpa using fun _ _ => h⟩

theorem concur_repeated {again again' : Int → Outcome Value} (hcount : w.Like L w')
    (h : ∀ n, Concur (Value.Like L) (again n) (again' n)) :
    Concur (Value.Like L) (repeated again w) (repeated again' w') := by
  unfold repeated
  rw [hcount.int?_eq, hcount.kind_eq]
  cases w.int? with
  | some n => exact h n
  | none => exact .error _

theorem concur_joined (hv : v.Like L v') (hw : w.Like L w') :
    Concur (Value.Like L) (joined v w) (joined v' w') := by
  cases hv with
  | text s =>
    cases hw with
    | text t => exact .ok (.text _)
    | none | bool | int | real | list | function | helper | slice => exact .error _
  | list each =>
    cases hw with
    | list each' => exact .ok (.list (List.rel_append each each'))
    | none | bool | int | real | text | function | helper | slice => exact .error _
  | none | bool | int | real | function | helper | slice => cases hw <;> exact .error _

theorem concur_multiplied [Host.Platform] (hv : v.Like L v') (hw : w.Like L w') :
    Concur (Value.Like L) (multiplied v w) (multiplied v' w') := by
  have htext : ∀ s : String, Concur (Value.Like L) (repeated (repeatText s) v)
      (repeated (repeatText s) v') := fun s => concur_repeated hv (concur_repeatText s)
  have hlist : ∀ {items items' : List Value}, List.Forall₂ (Value.Like L) items items' →
      Concur (Value.Like L) (repeated (repeatList items) v) (repeated (repeatList items') v') :=
    fun each => concur_repeated hv (concur_repeatList each)
  cases hv with
  | text s => exact concur_repeated hw (concur_repeatText s)
  | list each => exact concur_repeated hw (concur_repeatList each)
  | none | bool | int | real | function | helper | slice =>
    cases hw with
    | text t => exact htext t
    | list each => exact hlist each
    | none | bool | int | real | function | helper | slice => exact .error _

/-! ### Filling values into text -/

theorem takeStar_eq (h : v.Like L v') (used : Bool) :
    Percent.takeStar v' used = Percent.takeStar v used := by
  cases used with
  | true => rfl
  | false =>
    have htake : ∀ x : Value, Percent.takeStar x false = x.int?.elim (raise .formatStar) .ok := by
      intro x
      simp only [Percent.takeStar, Percent.take, Bool.false_eq_true, if_false, bind, Except.bind]
      cases x.int? <;> rfl
    rw [htake, htake, h.int?_eq]

theorem fillIn_eq [Host.Platform]
    (h : v.Like L v') (f : Percent.Field) (letter : Char) (index : Nat) :
    Percent.fillIn f letter index v' = Percent.fillIn f letter index v := by
  have hcharacter : Percent.character v' = Percent.character v := by cases h <;> rfl
  unfold Percent.fillIn Percent.shown Percent.wholeValue
  rw [h.show?_eq, h.repr_eq, h.numeral?_eq, h.kind_eq, hcharacter]

theorem isTable_eq (h : v.Like L v') : Percent.isTable v' = Percent.isTable v := by
  cases h <;> rfl

section

variable [Host.Platform]

theorem take_fillIn_eq (h : v.Like L v') (used : Bool) (f : Percent.Field) (letter : Char)
    (index : Nat) :
    (Percent.take v' used >>= Percent.fillIn f letter index) =
      (Percent.take v used >>= Percent.fillIn f letter index) := by
  cases used with
  | true => rfl
  | false => exact fillIn_eq h f letter index

theorem oneField_eq (h : v.Like L v') (used : Bool) (length : Nat) (text : List Char) :
    Percent.oneField v' used length text = Percent.oneField v used length text := by
  have htake := take_fillIn_eq h
  unfold Percent.oneField Percent.width Percent.precision
  simp only [takeStar_eq h, isTable_eq h, ← bind_assoc, htake]

theorem fields_eq (h : v.Like L v') (length steps : Nat) (used : Bool) (text : List Char) :
    Percent.fields v' length steps used text = Percent.fields v length steps used text := by
  induction steps generalizing used text with
  | zero => cases text <;> rfl
  | succ n ih =>
    cases text with
    | nil => rfl
    | cons c rest => simp only [Percent.fields, oneField_eq h, ih]

theorem concur_format (h : v.Like L v') (s : String) :
    Concur (Value.Like L) (Percent.format s v) (Percent.format s v') := by
  unfold Percent.format
  simp only [fields_eq h, isTable_eq h]
  refine concur_then _ fun filled => ?_
  split
  · exact .ok (.text _)
  · exact .error _

/-- All operators but the percent sign after a text. -/
theorem concur_arithmetic (op : BinaryOp) (hv : v.Like L v') (hw : w.Like L w') :
    Concur (Value.Like L)
      (match v.numeral?, w.numeral? with
        | some m, some n => numeralOperation op m n
        | _, _ =>
          match op with
          | .add => joined v w
          | .mul => multiplied v w
          | _ => raise (.operands op v.kind w.kind))
      (match v'.numeral?, w'.numeral? with
        | some m, some n => numeralOperation op m n
        | _, _ =>
          match op with
          | .add => joined v' w'
          | .mul => multiplied v' w'
          | _ => raise (.operands op v'.kind w'.kind)) := by
  rw [hv.numeral?_eq, hw.numeral?_eq, hv.kind_eq, hw.kind_eq]
  split
  · exact concur_numeralOperation op _ _
  · split
    · exact concur_joined hv hw
    · exact concur_multiplied hv hw
    · exact .error _

theorem concur_applyBinary (op : BinaryOp) (hv : v.Like L v') (hw : w.Like L w') :
    Concur (Value.Like L) (applyBinary op v w) (applyBinary op v' w') := by
  have harithmetic := concur_arithmetic op hv hw
  -- A text before the percent sign is a format; all else is arithmetic.
  cases hv with
  | text s =>
    cases op with
    | mod => exact concur_format hw s
    | _ => exact harithmetic
  | none | bool | int | real | list | function | helper | slice => cases op <;> exact harithmetic

end

theorem concur_applyUnary (op : UnaryOp) (hv : v.Like L v') :
    Concur (Value.Like L) (applyUnary op v) (applyUnary op v') := by
  cases op with
  | not =>
    simp only [applyUnary, hv.truth_eq]
    exact .ok (.bool _)
  | invert => exact .error _
  | negate =>
    simp only [applyUnary, hv.numeral?_eq, hv.kind_eq]
    split
    · exact .ok (.int _)
    · exact .ok (.real _ _)
    · exact .error _
  | plus =>
    cases hv with
    | real x origin => exact .ok (.real x origin)
    | int n => exact .ok (.int n)
    | bool b => exact .ok (.int _)
    | none | text | list | function | helper | slice => exact .error _

/-! ## Subscripts -/

theorem slicePositions_eq {a a' b b' c c' : Value} (ha : a.Like L a') (hb : b.Like L b')
    (hc : c.Like L c') (length : Nat) :
    slicePositions length a' b' c' = slicePositions length a b c := by
  have hpart : ∀ {x x' : Value}, x.Like L x' → slicePart x' = slicePart x := by
    intro x x' hx
    cases hx <;> rfl
  rw [slicePositions, slicePositions, hpart ha, hpart hb, hpart hc]

theorem alike_getElem? {items items' : List Value}
    (h : List.Forall₂ (Value.Like L) items items') (i : Nat) :
    Option.Rel (Value.Like L) items[i]? items'[i]? := by
  induction h generalizing i with
  | nil => exact .none
  | cons first _ ih =>
    cases i with
    | zero => exact .some first
    | succ i => exact ih i

theorem concur_itemAt {items items' : List Value}
    (h : List.Forall₂ (Value.Like L) items items') (n : Int) :
    Concur (Value.Like L)
      (do
        let position ← indexPosition items.length .listIndexRange n
        match items[position]? with
        | some v => return v
        | none => raise .listIndexRange)
      (do
        let position ← indexPosition items'.length .listIndexRange n
        match items'[position]? with
        | some v => return v
        | none => raise .listIndexRange) := by
  rw [h.length_eq]
  refine concur_then _ fun position => ?_
  have hitem := alike_getElem? h position
  generalize items[position]? = found, items'[position]? = found' at hitem
  cases hitem with
  | none => exact .error _
  | some values => exact .ok values

theorem concur_listAt {items items' : List Value} {index index' : Value}
    (h : List.Forall₂ (Value.Like L) items items') (hindex : index.Like L index') :
    Concur (Value.Like L) (listAt items index) (listAt items' index') := by
  cases hindex with
  | slice lower upper step =>
    simp only [listAt, slicePositions_eq lower upper step, h.length_eq]
    refine concur_then _ fun selected => ?_
    refine .ok (.list (List.rel_filterMap (R := Eq) ?_ (List.forall₂_refl selected)))
    rintro i _ rfl
    simpa using alike_getElem? h i
  | int n => exact concur_itemAt h n
  | bool b => exact concur_itemAt h _
  | none | real | text | list | function | helper => exact .error _

theorem concur_textAt (s : String) {index index' : Value} (hindex : index.Like L index') :
    Concur (Value.Like L) (textAt s index) (textAt s index') := by
  have hsame : textAt s index' = textAt s index := by
    cases hindex with
    | slice lower upper step => simp only [textAt, slicePositions_eq lower upper step]
    | none | bool | int | real | text | list | function | helper => rfl
  rw [hsame]
  unfold textAt
  extract_lets chars
  split
  · exact concur_then _ fun _ => .ok (.text _)
  · split
    · exact .error _
    · refine concur_then _ fun position => ?_
      split
      · exact .ok (.text _)
      · exact .error _

theorem concur_subscripted {index index' : Value} (hv : v.Like L v')
    (hindex : index.Like L index') :
    Concur (Value.Like L) (subscripted v index) (subscripted v' index') := by
  cases hv with
  | list each => exact concur_listAt each hindex
  | text s => exact concur_textAt s hindex
  | helper h =>
    simp only [subscripted]
    split
    · exact .error _
    · exact .error _
  | none | bool | int | real | function | slice => exact .error _

/-! ## Helpers -/

theorem concur_itemsOf (hv : v.Like L v') :
    Concur (List.Forall₂ (Value.Like L)) (itemsOf v) (itemsOf v') := by
  cases hv with
  | list each => exact .ok each
  | text s =>
    refine .ok ?_
    induction s.toList with
    | nil => exact .nil
    | cons c rest ih => exact .cons (.text _) ih
  | none | bool | int | real | function | helper | slice => exact .error _

theorem concur_extreme [Host.Platform]
    (op : Comparison) {best best' : Value} (hbest : best.Like L best')
    {vs vs' : List Value} (hvs : List.Forall₂ (Value.Like L) vs vs') :
    Concur (Value.Like L) (extreme op best vs) (extreme op best' vs') := by
  induction hvs generalizing best best' with
  | nil => exact .ok hbest
  | cons first _ ih =>
    rw [extreme, extreme, first.ordered_eq op hbest]
    refine concur_then _ fun better => ?_
    cases better with
    | true => exact ih first
    | false => exact ih hbest

theorem concur_extremeOfItems [Host.Platform]
    (h : Helper) (op : Comparison) {items items' : List Value} :
    List.Forall₂ (Value.Like L) items items' → Concur (Value.Like L)
      (match items with
        | [] => raise (.emptySequence h)
        | first :: rest => extreme op first rest)
      (match items' with
        | [] => raise (.emptySequence h)
        | first :: rest => extreme op first rest) := by
  intro each
  cases each with
  | nil => exact .error _
  | cons first others => exact concur_extreme op first others

theorem concur_extremeOf [Host.Platform]
    (h : Helper) (op : Comparison) {arguments arguments' : List Value}
    (harguments : List.Forall₂ (Value.Like L) arguments arguments') :
    Concur (Value.Like L) (extremeOf h op arguments) (extremeOf h op arguments') := by
  cases harguments with
  | nil => exact .error _
  | cons first others =>
    cases others with
    | nil =>
      exact concur_bind (concur_itemsOf first) fun _ _ each => concur_extremeOfItems h op each
    | cons second others => exact concur_extreme op first (.cons second others)

theorem concur_toReal (hv : v.Like L v') : Concur (Value.Like L) (toReal v) (toReal v') := by
  have hwhole : ∀ n : Int, Concur (Value.Like L) ((Numeral.toFloat? (.int n)).map .ofFloat)
      ((Numeral.toFloat? (.int n)).map .ofFloat) := fun n => concur_map _ fun x => .real x none
  cases hv with
  | real x origin => exact .ok (.real x origin)
  | text s =>
    unfold toReal
    dsimp only
    split
    · exact .ok (.real _ _)
    · exact .error _
  | int n => exact hwhole n
  | bool b => exact hwhole _
  | none | list | function | helper | slice => exact .error _

theorem concur_rounded (v : Value) : Concur (Value.Like L) (rounded v) (rounded v) := by
  unfold rounded
  split
  · exact .ok (.int _)
  · unfold roundReal
    split
    · exact .error _
    · exact .error _
    · exact .ok (.int _)
  · exact .error _

theorem roundedTo_eq {places places' : Value} (hv : v.Like L v')
    (hplaces : places.Like L places') : roundedTo v' places' = roundedTo v places := by
  cases hv with
  | none | text | list | function | helper | slice => rfl
  | bool | int | real => cases hplaces <;> rfl

theorem concur_roundedTo (v places : Value) :
    Concur (Value.Like L) (roundedTo v places) (roundedTo v places) := by
  unfold roundedTo
  split
  · exact .error _
  · exact concur_rounded v
  · split
    · exact .error _
    · split
      · unfold roundRealTo
        split
        · split
          · exact .ok (.real _ _)
          · split
            · exact .ok (.real _ _)
            · extract_lets y
              split
              · exact .error _
              · exact .ok (.real _ _)
        · exact .ok (.real _ _)
      · exact .ok (.int _)

end Operators

end Host

end MiniLisp
