import MiniLisp.Host.Value

/-! # Arithmetic of host values

    Whole numbers are exact and have no bounds; as soon as a double takes part
    the arithmetic is that of doubles. Division to the floor and its remainder
    go together: the remainder has the sign of the divisor. Text and lists can
    be joined and repeated.
-/

namespace MiniLisp.Host

/-- Why no value comes out of an expression. -/
inductive Failure where
  /-- A fault that is shown to the program. -/
  | fault (f : Fault)
  /-- A value that no term stands for. -/
  | unusable
  /-- A sequence too long to be built. -/
  | memory
  /-- The recursion is deeper than the room. -/
  | exhausted
  /-- An expression that is not among the accepted ones. -/
  | stuck (what : String)
  deriving Repr

/-- The outcome of an operation. -/
abbrev Outcome (α : Type) := Except Failure α

/-- Fails with a fault. -/
def raise {α : Type} (f : Fault) : Outcome α :=
  .error (.fault f)

/-- An outcome whose only failures are faults. -/
def lift {α : Type} : Except Fault α → Outcome α
  | .ok a => .ok a
  | .error f => raise f

/-! ## Exact remainders of doubles -/

/-- A double with the sign of another one. -/
def isNegative (x : Float) : Bool :=
  decide (Nat.pow 2 63 ≤ x.toBits.toNat)

/-- Zero with the sign of a double. -/
def zeroLike (x : Float) : Float :=
  Binary64.ofSignBits (isNegative x) 0

/-- The remainder of a division toward zero; it is exact and has the sign of
    the dividend. -/
def truncatedRemainder (x y : Float) : Float :=
  match Binary64.parts x, Binary64.parts y with
  | .finite _ _ _, .infinite _ => x
  | .finite negative m e, .finite _ n f =>
      if n = 0 then 0.0 / 0.0
      else
        let place := min e f
        let rest := (m * Nat.pow 2 (e - place).toNat) % (n * Nat.pow 2 (f - place).toNat)
        let (num, den) := Binary64.ratio rest place
        Binary64.ofRatio negative num den
  | _, _ => 0.0 / 0.0

/-- The remainder of a division to the floor. -/
def floorRemainder (x y : Float) : Float :=
  let rest := truncatedRemainder x y
  if rest == 0 then zeroLike y
  else if (y < 0) != (rest < 0) then rest + y
  else rest

/-- The quotient of a division to the floor: the quotient after the remainder
    is taken off is close to a whole number, to which it is moved. -/
def floorQuotient (x y : Float) : Float :=
  let rest := truncatedRemainder x y
  let quotient := (x - rest) / y
  let quotient := if rest != 0 && (y < 0) != (rest < 0) then quotient - 1.0 else quotient
  if quotient == 0 then zeroLike (x / y)
  else
    let whole := quotient.floor
    if 0.5 < quotient - whole then whole + 1.0 else whole

/-! ## Operators on numbers -/

/-- A number as a double. -/
def Numeral.toFloat? : Numeral → Outcome Float
  | .real x => .ok x
  | .int n =>
      match Binary64.ofInt? n with
      | some x => .ok x
      | none => raise .intTooLarge

/-- The quotient of two whole numbers, correctly rounded. -/
def intQuotient (m n : Int) : Outcome Value :=
  if n = 0 then raise (.divisionByZero .div false)
  else
    let bits := Binary64.magnitudeBits m.natAbs n.natAbs
    if bits = Binary64.infinityBits then raise .quotientTooLarge
    else .ok (.ofFloat (Binary64.ofSignBits (decide (m < 0) != decide (n < 0)) bits))

/-- An operator on whole numbers. -/
def intOperation (op : BinaryOp) (m n : Int) : Outcome Value :=
  match op with
  | .add => .ok (.int (m + n))
  | .sub => .ok (.int (m - n))
  | .mul => .ok (.int (m * n))
  | .div => intQuotient m n
  | .floorDiv => if n = 0 then raise (.divisionByZero op false) else .ok (.int (m.fdiv n))
  | .mod => if n = 0 then raise (.divisionByZero op false) else .ok (.int (m.fmod n))
  | op => .error (.stuck op.kind)

/-- An operator on doubles. -/
def realOperation (op : BinaryOp) (x y : Float) : Outcome Value :=
  match op with
  | .add => .ok (.ofFloat (x + y))
  | .sub => .ok (.ofFloat (x - y))
  | .mul => .ok (.ofFloat (x * y))
  | .div => if y == 0 then raise (.divisionByZero op true) else .ok (.ofFloat (x / y))
  | .floorDiv =>
      if y == 0 then raise (.divisionByZero op true) else .ok (.ofFloat (floorQuotient x y))
  | .mod => if y == 0 then raise (.divisionByZero op true) else .ok (.ofFloat (floorRemainder x y))
  | op => .error (.stuck op.kind)

/-- An operator on numbers. -/
def numeralOperation (op : BinaryOp) : Numeral → Numeral → Outcome Value
  | .int m, .int n => intOperation op m n
  | m, n => do
      let x ← m.toFloat?
      let y ← n.toFloat?
      realOperation op x y

/-! ## Operators on sequences -/

variable [Platform]

/-- The greatest count and length that the host can handle. -/
def maxSize : Int := Nat.pow 2 63 - 1

/-- A count as a number of repetitions; fewer than none is none. -/
def repetitions (n : Int) : Outcome Nat :=
  if maxSize < n ∨ n < -maxSize - 1 then raise .countTooLarge else .ok n.toNat

/-- A text several times in a row. -/
def repeatText (s : String) (n : Int) : Outcome Value := do
  let count ← repetitions n
  let length := s.length
  if length = 0 then return .text ""
  if maxSize < length * count then raise .textTooLong
  if Platform.memory < length * count then .error .memory
  return .text (String.join (List.replicate count s))

/-- A list several times in a row. -/
def repeatList (items : List Value) (n : Int) : Outcome Value := do
  let count ← repetitions n
  if items.isEmpty then return .list []
  if Platform.memory < items.length * count then .error .memory
  return .list (List.replicate count items).flatten

/-- Repeats a sequence if the count is a whole number. -/
def repeated (again : Int → Outcome Value) (count : Value) : Outcome Value :=
  match count.int? with
  | some n => again n
  | none => raise (.repetition count.kind)

/-- Joins two values that are not both numbers. -/
def joined (v w : Value) : Outcome Value :=
  match v, w with
  | .text s, .text t => .ok (.text (s ++ t))
  | .list xs, .list ys => .ok (.list (xs ++ ys))
  | .text _, _ => raise (.concatenation .text w.kind)
  | .list _, _ => raise (.concatenation .list w.kind)
  | _, _ => raise (.operands .add v.kind w.kind)

/-- Multiplies two values that are not both numbers. -/
def multiplied (v w : Value) : Outcome Value :=
  match v, w with
  | .text s, _ => repeated (repeatText s) w
  | .list xs, _ => repeated (repeatList xs) w
  | _, .text s => repeated (repeatText s) v
  | _, .list xs => repeated (repeatList xs) v
  | _, _ => raise (.operands .mul v.kind w.kind)

/-- The value of an operator before its operand. -/
def applyUnary (op : UnaryOp) (v : Value) : Outcome Value :=
  match op with
  | .not => .ok (.bool !v.truth)
  | .invert => .error (.stuck op.kind)
  | .negate =>
      match v.numeral? with
      | some (.int n) => .ok (.int (-n))
      | some (.real x) => .ok (.ofFloat (-x))
      | none => raise (.operand op v.kind)
  | .plus =>
      match v with
      | .real _ _ => .ok v
      | _ =>
        match v.int? with
        | some n => .ok (.int n)
        | none => raise (.operand op v.kind)

end MiniLisp.Host
