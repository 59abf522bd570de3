import MiniLisp.Host.Call
import MiniLisp.Host.Evaluation
import MiniLisp.Proofs.Mentions

/-! # What host values mention

    A host expression hands on what its variables mention and nothing else: the
    functions in its value are among those of its variables. Most operations
    make numbers and text only; the others choose among values, join them or
    repeat them.

    * **`Yields`** — a property of whatever a result yields;
    * **`Extends`** — a second result is the first one, or that one gave up;
    * **`Host.Value.Within`** — a value mentions nothing but what is allowed;
    * **`Host.Plain`** — a result without functions. -/

namespace MiniLisp

/-! ## Results -/

section Results

variable {ε ε' α β : Type} {out : ε} {good : α → Prop} {good' : β → Prop}

/-- Whatever the result yields has the property. -/
def Yields (good : α → Prop) (x : Except ε α) : Prop :=
  ∀ a, x = .ok a → good a

theorem yields_ok {a : α} (h : good a) : Yields good (.ok a : Except ε α) := by
  intro b hb
  cases hb
  exact h

theorem yields_error (e : ε) : Yields good (.error e : Except ε α) := by
  intro b hb
  cases hb

theorem yields_bind {x : Except ε α} {f : α → Except ε β} (hx : Yields good x)
    (hf : ∀ a, good a → Yields good' (f a)) : Yields good' (x >>= f) := by
  cases x with
  | error e => exact yields_error e
  | ok a => exact hf a (hx a rfl)

/-- What comes first does not matter if the property holds after anything. -/
theorem yields_then (x : Except ε α) {f : α → Except ε β} (hf : ∀ a, Yields good' (f a)) :
    Yields good' (x >>= f) := by
  cases x with
  | error e => exact yields_error e
  | ok a => exact hf a

theorem yields_map {x : Except ε α} {f : α → β} (hf : ∀ a, good' (f a)) :
    Yields good' (x.map f) := by
  cases x with
  | error e => exact yields_error e
  | ok a => exact yields_ok (hf a)

/-- The first result gave up, or else the second one is the same, and what
    they yield has the property. -/
def Extends (out : ε) (good : α → Prop) (x y : Except ε α) : Prop :=
  x = .error out ∨ y = x ∧ Yields good x

theorem extends_self {x : Except ε α} (h : Yields good x) : Extends out good x x :=
  .inr ⟨rfl, h⟩

theorem extends_ok {a : α} (h : good a) : Extends out good (.ok a) (.ok a) :=
  extends_self (yields_ok h)

theorem extends_error (e : ε) : Extends out good (.error e) (.error e) :=
  extends_self (yields_error e)

theorem extends_bind {x y : Except ε α} {f g : α → Except ε β} (hx : Extends out good x y)
    (hf : ∀ a, good a → Extends out good' (f a) (g a)) :
    Extends out good' (x >>= f) (y >>= g) := by
  rcases hx with rfl | ⟨rfl, hgood⟩
  · exact .inl rfl
  · cases y with
    | error e => exact extends_error e
    | ok a => exact hf a (hgood a rfl)

theorem extends_mapError {x y : Except ε α} (f : ε → ε') (hx : Extends out good x y) :
    Extends (f out) good (x.mapError f) (y.mapError f) := by
  rcases hx with rfl | ⟨rfl, hgood⟩
  · exact .inl rfl
  · cases y with
    | error e => exact extends_error (f e)
    | ok a => exact extends_ok (hgood a rfl)

theorem extends_map {x y : Except ε α} {f : α → β} (hx : Extends out good x y)
    (hf : ∀ a, good a → good' (f a)) : Extends out good' (x.map f) (y.map f) := by
  rcases hx with rfl | ⟨rfl, hgood⟩
  · exact .inl rfl
  · cases y with
    | error e => exact extends_error e
    | ok a => exact extends_ok (hf a (hgood a rfl))

theorem extends_mapM {f g : β → Except ε α} {bs : List β}
    (hf : ∀ b ∈ bs, Extends out good (f b) (g b)) :
    Extends out (fun as => ∀ a ∈ as, good a) (bs.mapM f) (bs.mapM g) := by
  induction bs with
  | nil => exact extends_ok (by simp)
  | cons b rest ih =>
    rw [List.mapM_cons, List.mapM_cons]
    refine extends_bind (hf b List.mem_cons_self) fun a ha => ?_
    refine extends_bind (ih fun c hc => hf c (List.mem_cons_of_mem b hc)) fun as has => ?_
    exact extends_ok (List.forall_mem_cons.2 ⟨ha, has⟩)

end Results

namespace Host

variable {allowed : Mention → Prop}

/-! ## What values mention -/

mutual

/-- The names and scopes in a value. No value is taken out of a slice again, so
    a slice has none. -/
def Value.mentions : Value → List Mention
  | .list items => Value.mentionsAll items
  | .function _ code => code.mentions
  | .none | .bool _ | .int _ | .real _ _ | .text _ | .helper _ | .slice _ _ _ => []

/-- The names and scopes in the values of a list. -/
def Value.mentionsAll : List Value → List Mention
  | [] => []
  | v :: rest => v.mentions ++ Value.mentionsAll rest

end

/-- A value mentions nothing but what is allowed. -/
def Value.Within (allowed : Mention → Prop) (v : Value) : Prop :=
  ∀ m ∈ v.mentions, allowed m

theorem Value.within_of_mentions_nil {v : Value} (h : v.mentions = []) : v.Within allowed := by
  intro m hm
  rw [h] at hm
  cases hm

@[simp] theorem Value.within_list {items : List Value} :
    (Value.list items).Within allowed ↔ ∀ v ∈ items, v.Within allowed := by
  unfold Within
  rw [mentions]
  induction items with
  | nil => simp [mentionsAll]
  | cons v rest ih => simp [mentionsAll, or_imp, forall_and, ih]

/-- A result that holds no function. -/
def Plain (x : Outcome Value) : Prop :=
  Yields (fun v => v.mentions = []) x

theorem Plain.within {x : Outcome Value} (h : Plain x) : Yields (Value.Within allowed) x :=
  fun v hv => Value.within_of_mentions_nil (h v hv)

section Plain

theorem plain_raise (f : Fault) : Plain (raise f) :=
  yields_error _

theorem plain_bool (b : Bool) : Plain (.ok (.bool b)) :=
  yields_ok rfl

theorem plain_int (n : Int) : Plain (.ok (.int n)) :=
  yields_ok rfl

theorem plain_real (x : Float) : Plain (.ok (.ofFloat x)) :=
  yields_ok rfl

theorem plain_text (s : String) : Plain (.ok (.text s)) :=
  yields_ok rfl

end Plain

/-! ### Operators -/

theorem plain_literal (l : Literal) : Plain l.value := by
  cases l with
  | none => exact yields_ok rfl
  | bool b => exact plain_bool b
  | int n => exact plain_int n
  | real x => exact plain_real x
  | text s => exact plain_text s
  | other shown => exact yields_error _

theorem plain_intOperation (op : BinaryOp) (m n : Int) : Plain (intOperation op m n) := by
  unfold intOperation
  split
  · exact plain_int _
  · exact plain_int _
  · exact plain_int _
  · unfold intQuotient
    split
    · exact plain_raise _
    · extract_lets bits
      split
      · exact plain_raise _
      · exact plain_real _
  · split
    · exact plain_raise _
    · exact plain_int _
  · split
    · exact plain_raise _
    · exact plain_int _
  · exact yields_error _

theorem plain_realOperation (op : BinaryOp) (x y : Float) : Plain (realOperation op x y) := by
  unfold realOperation
  split
  · exact plain_real _
  · exact plain_real _
  · exact plain_real _
  · split
    · exact plain_raise _
    · exact plain_real _
  · split
    · exact plain_raise _
    · exact plain_real _
  · split
    · exact plain_raise _
    · exact plain_real _
  · exact yields_error _

theorem plain_numeralOperation (op : BinaryOp) (m n : Numeral) :
    Plain (numeralOperation op m n) := by
  unfold numeralOperation
  split
  · exact plain_intOperation op _ _
  · exact yields_then _ fun x => yields_then _ fun y => plain_realOperation op x y

theorem plain_format [Host.Platform] (s : String) (w : Value) : Plain (Percent.format s w) := by
  refine yields_then _ ?_
  rintro ⟨filled, used⟩
  dsimp only
  split
  · exact plain_text _
  · exact plain_raise _

theorem plain_repeatText [Host.Platform] (s : String) (n : Int) : Plain (repeatText s n) := by
  refine yields_then _ fun count => ?_
  dsimp only
  split
  · exact plain_text ""
  · split
    · exact plain_raise _
    · split
      · exact yields_error _
      · exact plain_text _

theorem within_repeatList [Host.Platform]
    {items : List Value} (h : ∀ v ∈ items, v.Within allowed) (n : Int) :
    Yields (Value.Within allowed) (repeatList items n) := by
  refine yields_then _ fun count => ?_
  split
  · exact yields_ok (by simp)
  · dsimp only
    split
    · exact yields_error _
    · refine yields_ok (Value.within_list.2 ?_)
      intro v hv
      -- Every copy is the list itself.
      obtain ⟨copy, hcopy, hmem⟩ := List.mem_flatten.1 hv
      rw [List.eq_of_mem_replicate hcopy] at hmem
      exact h v hmem

theorem within_repeated {again : Int → Outcome Value} (count : Value)
    (h : ∀ n, Yields (Value.Within allowed) (again n)) :
    Yields (Value.Within allowed) (repeated again count) := by
  unfold repeated
  split
  · exact h _
  · exact (plain_raise _).within

theorem within_joined {v w : Value} (hv : v.Within allowed) (hw : w.Within allowed) :
    Yields (Value.Within allowed) (joined v w) := by
  unfold joined
  split
  · exact (plain_text _).within
  · refine yields_ok (Value.within_list.2 ?_)
    intro u hu
    rcases List.mem_append.1 hu with hleft | hright
    · exact Value.within_list.1 hv u hleft
    · exact Value.within_list.1 hw u hright
  · exact (plain_raise _).within
  · exact (plain_raise _).within
  · exact (plain_raise _).within

theorem within_multiplied [Host.Platform]
    {v w : Value} (hv : v.Within allowed) (hw : w.Within allowed) :
    Yields (Value.Within allowed) (multiplied v w) := by
  unfold multiplied
  split
  · exact within_repeated w fun n => (plain_repeatText _ n).within
  · exact within_repeated w fun n => within_repeatList (Value.within_list.1 hv) n
  · exact within_repeated v fun n => (plain_repeatText _ n).within
  · exact within_repeated v fun n => within_repeatList (Value.within_list.1 hw) n
  · exact (plain_raise _).within

theorem within_applyBinary [Host.Platform] (op : BinaryOp) {v w : Value} (hv : v.Within allowed)
    (hw : w.Within allowed) : Yields (Value.Within allowed) (applyBinary op v w) := by
  unfold applyBinary
  split
  · exact (plain_format _ w).within
  · split
    · exact (plain_numeralOperation op _ _).within
    · split
      · exact within_joined hv hw
      · exact within_multiplied hv hw
      · exact (plain_raise _).within

theorem within_applyUnary (op : UnaryOp) {v : Value} (hv : v.Within allowed) :
    Yields (Value.Within allowed) (applyUnary op v) := by
  unfold applyUnary
  split
  · exact (plain_bool _).within
  · exact yields_error _
  · split
    · exact (plain_int _).within
    · exact (plain_real _).within
    · exact (plain_raise _).within
  · split
    · exact yields_ok hv
    · split
      · exact (plain_int _).within
      · exact (plain_raise _).within

/-! ### Subscripts -/

theorem within_listAt {items : List Value} (h : ∀ v ∈ items, v.Within allowed) (index : Value) :
    Yields (Value.Within allowed) (listAt items index) := by
  unfold listAt
  split
  -- A slice chooses among the items, and an index takes one of them.
  · refine yields_then _ fun selected => ?_
    refine yields_ok (Value.within_list.2 ?_)
    intro v hv
    obtain ⟨i, -, hi⟩ := List.mem_filterMap.1 hv
    have hmem := Array.mem_of_getElem? hi
    exact h v (by simpa using hmem)
  · split
    · exact (plain_raise _).within
    · refine yields_then _ fun position => ?_
      split
      · next v hv => exact yields_ok (h v (List.mem_of_getElem? hv))
      · exact (plain_raise _).within

theorem plain_textAt (s : String) (index : Value) : Plain (textAt s index) := by
  unfold textAt
  extract_lets chars
  split
  · exact yields_then _ fun _ => plain_text _
  · split
    · exact plain_raise _
    · refine yields_then _ fun position => ?_
      split
      · exact plain_text _
      · exact plain_raise _

theorem within_subscripted {v : Value} (hv : v.Within allowed) (index : Value) :
    Yields (Value.Within allowed) (subscripted v index) := by
  unfold subscripted
  split
  · exact within_listAt (Value.within_list.1 hv) index
  · exact (plain_textAt _ index).within
  · split
    · exact (plain_raise _).within
    · exact (plain_raise _).within
  · exact (plain_raise _).within

/-! ### Helpers -/

theorem within_itemsOf {v : Value} (hv : v.Within allowed) :
    Yields (fun items => ∀ u ∈ items, u.Within allowed) (itemsOf v) := by
  unfold itemsOf
  split
  · exact yields_ok (Value.within_list.1 hv)
  · refine yields_ok ?_
    intro u hu
    obtain ⟨c, -, rfl⟩ := List.mem_map.1 hu
    exact Value.within_of_mentions_nil rfl
  · exact yields_error _

theorem within_extreme [Host.Platform]
    (op : Comparison) {best : Value} (hbest : best.Within allowed)
    {vs : List Value} (hvs : ∀ v ∈ vs, v.Within allowed) :
    Yields (Value.Within allowed) (extreme op best vs) := by
  induction vs generalizing best with
  | nil => exact yields_ok hbest
  | cons v rest ih =>
    obtain ⟨hv, hrest⟩ := List.forall_mem_cons.1 hvs
    refine yields_then _ fun better => ?_
    split
    · exact ih hv hrest
    · exact ih hbest hrest

theorem within_extremeOf [Host.Platform] (h : Helper) (op : Comparison) {arguments : List Value}
    (harguments : ∀ v ∈ arguments, v.Within allowed) :
    Yields (Value.Within allowed) (extremeOf h op arguments) := by
  unfold extremeOf
  split
  · exact (plain_raise _).within
  · refine yields_bind (within_itemsOf (harguments _ List.mem_cons_self)) fun items hitems => ?_
    split
    · exact (plain_raise _).within
    · obtain ⟨hfirst, hrest⟩ := List.forall_mem_cons.1 hitems
      exact within_extreme op hfirst hrest
  · obtain ⟨hfirst, hrest⟩ := List.forall_mem_cons.1 harguments
    exact within_extreme op hfirst hrest

theorem within_toReal {v : Value} (hv : v.Within allowed) :
    Yields (Value.Within allowed) (toReal v) := by
  unfold toReal
  split
  · exact yields_ok hv
  · split
    · exact (plain_real _).within
    · exact (plain_raise _).within
  · split
    · next n _ =>
      have hplain : Plain ((Numeral.toFloat? (.int n)).map Value.ofFloat) :=
        yields_map fun _ => rfl
      exact hplain.within
    · exact (plain_raise _).within

theorem plain_rounded (v : Value) : Plain (rounded v) := by
  unfold rounded
  split
  · exact plain_int _
  · unfold roundReal
    split
    · exact plain_raise _
    · exact plain_raise _
    · exact plain_int _
  · exact plain_raise _

theorem plain_roundedTo (v places : Value) : Plain (roundedTo v places) := by
  unfold roundedTo
  split
  · exact plain_raise _
  · exact plain_rounded v
  · split
    · exact plain_raise _
    · split
      · unfold roundRealTo
        split
        · split
          · exact plain_real _
          · split
            · exact plain_real _
            · extract_lets y
              split
              · exact plain_raise _
              · exact plain_real _
        · exact plain_real _
      · exact plain_int _

end Host

end MiniLisp
