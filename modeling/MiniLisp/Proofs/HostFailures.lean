import MiniLisp.Host.Call
import MiniLisp.Host.Evaluation

/-! # How host operations fail

    An operator or a helper fails with a fault, for want of memory, or because
    a value cannot be shown as a term. That the room gives out or that
    something is not among the accepted ones are failures of the walk over the
    tree: no operation of the language makes them, but for an operator that is
    never accepted and for the text of a list, which is as deep as the list.

    * **`Failure.IsRaised`** — the failures that operations make;
    * **`Raising`** — an outcome without any other failure;
    * **`raising_applyBinary`** and its like — the operators and helpers. -/

namespace MiniLisp.Host

/-- A failure of an operation, not of the walk over the tree. -/
def Failure.IsRaised : Failure → Prop
  | .fault _ | .unusable | .memory => True
  | .exhausted | .stuck _ => False

/-- All failures of an outcome are those of operations. -/
def Raising {α : Type} (x : Outcome α) : Prop :=
  ∀ f, x = .error f → f.IsRaised

section Outcomes

variable {α β : Type}

@[simp] theorem raising_ok (a : α) : Raising (.ok a) := by
  intro f h
  cases h

@[simp] theorem raising_pure (a : α) : Raising (pure a : Outcome α) :=
  raising_ok a

@[simp] theorem raising_raise (f : Fault) : Raising (raise f : Outcome α) := by
  intro g h
  cases h
  trivial

@[simp] theorem raising_memory : Raising (.error .memory : Outcome α) := by
  intro f h
  cases h
  trivial

@[simp] theorem raising_unusable : Raising (.error .unusable : Outcome α) := by
  intro f h
  cases h
  trivial

@[simp] theorem raising_lift (x : Except Fault α) : Raising (lift x) := by
  cases x with
  | ok a => exact raising_ok a
  | error f => exact raising_raise f

/-- What comes second matters only for what the first yields. -/
@[simp] theorem raising_bind_iff (x : Outcome α) (g : α → Outcome β) :
    Raising (x >>= g) ↔ Raising x ∧ ∀ a, x = .ok a → Raising (g a) := by
  cases x with
  | error f =>
    refine ⟨fun h => ⟨?_, fun a ha => nomatch ha⟩, fun h => ?_⟩
    · intro f' hf'
      cases hf'
      exact h f rfl
    · intro f' hf'
      cases hf'
      exact h.1 f rfl
  | ok a =>
    refine ⟨fun h => ⟨raising_ok a, ?_⟩, fun h => h.2 a rfl⟩
    intro b hb
    cases hb
    exact h

@[simp] theorem raising_map_iff (x : Outcome α) (g : α → β) :
    Raising (x.map g) ↔ Raising x := by
  cases x with
  | ok a => simp [Except.map]
  | error f =>
    refine ⟨fun h => ?_, fun h => ?_⟩
    · intro f' hf'
      cases hf'
      exact h f rfl
    · intro f' hf'
      cases hf'
      exact h f rfl

@[simp] theorem raising_fmap_iff (x : Outcome α) (g : α → β) :
    Raising (g <$> x) ↔ Raising x :=
  raising_map_iff x g

/-- A failure ends a sequence of steps. -/
@[simp] theorem raise_bind (f : Fault) (g : α → Outcome β) : raise f >>= g = raise f := rfl

@[simp] theorem error_bind (f : Failure) (g : α → Outcome β) :
    (.error f : Outcome α) >>= g = .error f := rfl

end Outcomes

/-! ## Numbers -/

@[simp] theorem raising_toFloat? (n : Numeral) : Raising n.toFloat? := by
  unfold Numeral.toFloat?
  split
  · simp
  · split <;> simp

theorem raising_intOperation {op : BinaryOp} (h : op.isSupported) (m n : Int) :
    Raising (intOperation op m n) := by
  cases op with
  | add | sub | mul => simp [intOperation]
  | div =>
    simp only [intOperation, intQuotient]
    split
    · simp
    · split <;> simp
  | floorDiv | mod =>
    simp only [intOperation]
    split <;> simp
  | power | matrixMul | shiftLeft | shiftRight | bitOr | bitXor | bitAnd =>
    simp [BinaryOp.isSupported] at h

theorem raising_realOperation {op : BinaryOp} (h : op.isSupported) (x y : Float) :
    Raising (realOperation op x y) := by
  cases op with
  | add | sub | mul => simp [realOperation]
  | div | floorDiv | mod =>
    simp only [realOperation]
    split <;> simp
  | power | matrixMul | shiftLeft | shiftRight | bitOr | bitXor | bitAnd =>
    simp [BinaryOp.isSupported] at h

theorem raising_numeralOperation {op : BinaryOp} (h : op.isSupported) (m n : Numeral) :
    Raising (numeralOperation op m n) := by
  unfold numeralOperation
  split
  · exact raising_intOperation h _ _
  · simp [raising_realOperation h]

@[simp] theorem raising_truncated (x : Float) : Raising (Percent.truncated x) := by
  unfold Percent.truncated
  split <;> simp

/-! ## Sequences -/

@[simp] theorem raising_repetitions (n : Int) : Raising (repetitions n) := by
  unfold repetitions
  split <;> simp

@[simp] theorem raising_repeatText [Platform]
    (s : String) (n : Int) : Raising (repeatText s n) := by
  unfold repeatText
  simp only [raising_bind_iff, raising_repetitions, true_and]
  intro count _
  split
  · simp
  · split
    · simp
    · split <;> simp

@[simp] theorem raising_repeatList [Platform] (items : List Value) (n : Int) :
    Raising (repeatList items n) := by
  unfold repeatList
  simp only [raising_bind_iff, raising_repetitions, true_and]
  intro count _
  split
  · simp
  · split <;> simp

theorem raising_repeated {again : Int → Outcome Value} (h : ∀ n, Raising (again n))
    (count : Value) : Raising (repeated again count) := by
  unfold repeated
  split
  · exact h _
  · simp

theorem raising_joined (v w : Value) : Raising (joined v w) := by
  unfold joined
  split <;> simp

theorem raising_multiplied [Platform] (v w : Value) : Raising (multiplied v w) := by
  unfold multiplied
  split
  · exact raising_repeated (raising_repeatText _) _
  · exact raising_repeated (raising_repeatList _) _
  · exact raising_repeated (raising_repeatText _) _
  · exact raising_repeated (raising_repeatList _) _
  · simp

/-! ## Texts with fields -/

namespace Percent

@[simp] theorem raising_take (v : Value) (used : Bool) : Raising (take v used) := by
  unfold take
  split <;> simp

@[simp] theorem raising_takeStar (v : Value) (used : Bool) : Raising (takeStar v used) := by
  unfold takeStar
  simp only [raising_bind_iff, raising_take, true_and]
  intro v _
  split <;> simp

@[simp] theorem raising_width (f : Field) (v : Value) (used : Bool) (text : List Char) :
    Raising (width f v used text) := by
  unfold width
  split
  · simp only [raising_bind_iff, raising_takeStar, true_and]
    intro n _
    split <;> simp
  · split <;> simp

@[simp] theorem raising_precision (f : Field) (v : Value) (used : Bool) (text : List Char) :
    Raising (precision f v used text) := by
  unfold precision
  split
  · simp only [raising_bind_iff, raising_takeStar, true_and]
    intro n _
    split <;> simp
  · split <;> simp
  · simp

@[simp] theorem raising_wholeNumber [Platform] (f : Field) (letter : Char) (n : Int) :
    Raising (wholeNumber f letter n) := by
  unfold wholeNumber
  -- The steps after each test are named, so that none of them is looked into twice.
  extract_lets base precision _ _ _ _ write limited checked
  split
  · simp
  · dsimp only [checked]
    split
    · simp
    · dsimp only [limited]
      split
      · simp
      · exact raising_pure _

@[simp] theorem raising_real [Platform] (f : Field) (letter : Char) (x : Float) :
    Raising (real f letter x) := by
  unfold real
  dsimp only
  split
  · simp
  · split <;> simp

@[simp] theorem raising_wholeValue (letter : Char) (v : Value) :
    Raising (wholeValue letter v) := by
  unfold wholeValue
  split
  · simp
  · split <;> simp
  · split <;> simp

@[simp] theorem raising_character (v : Value) : Raising (character v) := by
  unfold character
  split
  · split <;> simp
  · split
    · split <;> simp
    · simp

@[simp] theorem raising_shown (letter : Char) (v : Value) : Raising (shown letter v) := by
  unfold shown
  split
  · simp
  · simp only [raising_bind_iff, raising_lift, true_and]
    intro text _
    split <;> simp

variable [Platform]

@[simp] theorem raising_fillIn (f : Field) (letter : Char) (index : Nat) (v : Value) :
    Raising (fillIn f letter index v) := by
  unfold fillIn
  dsimp only
  split
  · simp
  · split
    · simp
    · split
      · simp
      · split
        · split <;> simp
        · split <;> simp

@[simp] theorem raising_oneField (v : Value) (used : Bool) (length : Nat) (text : List Char) :
    Raising (oneField v used length text) := by
  unfold oneField
  split
  · simp
  · split
    · simp
    · split <;> simp
  · simp only [raising_bind_iff, raising_width, raising_precision, true_and]
    intro read _ read' _
    split <;> simp

theorem raising_fields (v : Value) (length : Nat) (steps : Nat) (used : Bool) (text : List Char) :
    Raising (fields v length steps used text) := by
  induction steps generalizing used text with
  | zero => cases text <;> simp [fields]
  | succ steps ih =>
    cases text with
    | nil => simp [fields]
    | cons c rest =>
      rw [fields]
      split <;> simp [ih]

@[simp] theorem raising_format (text : String) (v : Value) : Raising (format text v) := by
  unfold format
  simp only [raising_bind_iff, raising_fields, true_and]
  intro filled _
  split <;> simp

end Percent

/-! ## Operators -/

theorem raising_applyBinary [Platform] {op : BinaryOp} (h : op.isSupported) (v w : Value) :
    Raising (applyBinary op v w) := by
  unfold applyBinary
  split
  · simp
  · split
    · exact raising_numeralOperation h _ _
    · split
      · exact raising_joined v w
      · exact raising_multiplied v w
      · simp

theorem raising_applyUnary {op : UnaryOp} (h : op.isSupported) (v : Value) :
    Raising (applyUnary op v) := by
  cases op with
  | not => simp [applyUnary]
  | negate =>
    simp only [applyUnary]
    split <;> simp
  | plus =>
    simp only [applyUnary]
    split
    · simp
    · split <;> simp
  | invert => simp [UnaryOp.isSupported] at h

mutual

theorem raising_ordered [Platform] (op : Comparison) (v w : Value) : Raising (ordered op v w) := by
  unfold ordered
  split
  · simp
  · exact raising_orderedItems op _ _
  · split
    · split <;> simp
    · simp
termination_by sizeOf v

theorem raising_orderedItems [Platform] (op : Comparison) (vs ws : List Value) :
    Raising (orderedItems op vs ws) := by
  unfold orderedItems
  split
  · split
    · exact raising_orderedItems op _ _
    · exact raising_ordered op _ _
  · simp
  · simp
  · simp
termination_by sizeOf vs

end

theorem raising_member [Platform] (v w : Value) : Raising (member v w) := by
  unfold member
  split
  · simp
  · split <;> simp
  · simp

theorem raising_compared [Platform] {op : Comparison} (h : op.isSupported) (v w : Value) :
    Raising (compared op v w) := by
  cases op with
  | eq | ne => simp [compared]
  | lt | le | gt | ge => exact raising_ordered _ v w
  | member => exact raising_member v w
  | notMember => simpa [compared] using raising_member v w
  | same | notSame => simp [Comparison.isSupported] at h

@[simp] theorem raising_slicePart (v : Value) : Raising (slicePart v) := by
  unfold slicePart
  split
  · simp
  · split <;> simp

@[simp] theorem raising_slicePositions (length : Nat) (lower upper step : Value) :
    Raising (slicePositions length lower upper step) := by
  unfold slicePositions
  simp only [raising_bind_iff, raising_slicePart, true_and]
  intro step _
  split
  · simp
  · simp only [raising_bind_iff, raising_slicePart, true_and]
    intro lower _ upper _
    split <;> simp

@[simp] theorem raising_indexPosition (length : Nat) (outside : Fault) (n : Int) :
    Raising (indexPosition length outside n) := by
  unfold indexPosition
  split
  · simp
  · extract_lets position
    split <;> simp

theorem raising_listAt (items : List Value) (index : Value) : Raising (listAt items index) := by
  unfold listAt
  split
  · simp
  · split
    · simp
    · simp only [raising_bind_iff, raising_indexPosition, true_and]
      intro position _
      split <;> simp

theorem raising_textAt (s : String) (index : Value) : Raising (textAt s index) := by
  unfold textAt
  dsimp only
  split
  · simp
  · split
    · simp
    · simp only [raising_bind_iff, raising_indexPosition, true_and]
      intro position _
      split <;> simp

theorem raising_subscripted (v index : Value) : Raising (subscripted v index) := by
  unfold subscripted
  split
  · exact raising_listAt _ index
  · exact raising_textAt _ index
  · split <;> simp
  · simp

/-! ## Helpers -/

@[simp] theorem raising_readInt (base : Nat) (text : String) : Raising (readInt base text) := by
  unfold readInt
  dsimp only
  split
  · simp
  · split
    · simp
    · split
      · simp
      · split <;> simp

@[simp] theorem raising_toInt (v : Value) : Raising (toInt v) := by
  unfold toInt
  split
  · simp
  · split <;> simp

@[simp] theorem raising_toIntInBase (v base : Value) : Raising (toIntInBase v base) := by
  unfold toIntInBase
  split
  · simp
  · split
    · simp
    · split <;> simp

theorem raising_toReal (v : Value) : Raising (toReal v) := by
  unfold toReal
  split
  · simp
  · split <;> simp
  · split <;> simp

theorem raising_rounded (v : Value) : Raising (rounded v) := by
  unfold rounded
  split
  · simp
  · unfold roundReal
    split <;> simp
  · simp

theorem raising_roundRealTo (x : Float) (places : Int) : Raising (roundRealTo x places) := by
  unfold roundRealTo
  split
  · split
    · simp
    · split
      · simp
      · dsimp only
        split <;> simp
  · simp

theorem raising_roundedTo (v places : Value) : Raising (roundedTo v places) := by
  unfold roundedTo
  split
  · simp
  · exact raising_rounded v
  · split
    · simp
    · split
      · exact raising_roundRealTo _ _
      · simp

theorem raising_extreme [Platform] (op : Comparison) (best : Value) (vs : List Value) :
    Raising (extreme op best vs) := by
  induction vs generalizing best with
  | nil => simp [extreme]
  | cons v rest ih => simp [extreme, raising_ordered, ih]

theorem raising_extremeOf [Platform] (helper : Helper) (op : Comparison) (arguments : List Value) :
    Raising (extremeOf helper op arguments) := by
  unfold extremeOf
  split
  · simp
  · have hitems : ∀ v, Raising (itemsOf v) := by
      intro v
      unfold itemsOf
      split <;> simp
    simp only [raising_bind_iff, hitems, true_and]
    intro items _
    split
    · simp
    · exact raising_extreme op _ _
  · exact raising_extreme op _ _

theorem raising_lengthOf (v : Value) : Raising (lengthOf v) := by
  unfold lengthOf
  split <;> simp

theorem raising_magnitude (v : Value) : Raising (magnitude v) := by
  unfold magnitude
  split <;> simp

/-- What is no list is shown without a walk over it. -/
theorem raising_shownAsTerm {v : Value} (h : ∀ items, v ≠ .list items) (room : Nat) :
    Raising (shownAsTerm room v) := by
  unfold shownAsTerm
  split
  · simp
  · simp
  · next items => exact absurd rfl (h items)
  · split <;> simp

theorem raising_changeCase (helper : Helper) (change : String → String) (v : Value) :
    Raising (changeCase helper change v) := by
  unfold changeCase
  split
  · simp
  · split <;> simp
  · simp

end MiniLisp.Host
