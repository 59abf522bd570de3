import MiniLisp.Host.Lexer
import MiniLisp.Host.Percent
import MiniLisp.Number.Reading

/-! # Conversions of host values

    Text becomes a number if it spells one, doubles become whole numbers by
    cutting or rounding, and values become terms if a term stands for them.
-/

namespace MiniLisp.Host

/-! ## Terms -/

/-- Why no term comes out of a value. -/
inductive NoTerm where
  /-- A whole number beyond the doubles. -/
  | tooLarge
  /-- Nothing, a helper or a slice. -/
  | unusable
  /-- The value is nested deeper than the room. -/
  | exhausted
  deriving DecidableEq, Repr

namespace Value

mutual

/-- The term that a value stands for, if it fits the room. Whole numbers become
    the nearest number. -/
def toTerm : Nat → Value → Except NoTerm Term
  | 0, _ => .error .exhausted
  | _ + 1, .bool b => .ok (.bool b)
  | _ + 1, .text s => .ok (.str s)
  | _ + 1, .real x _ => .ok (.num x)
  | _ + 1, .int n =>
      match Binary64.ofInt? n with
      | some x => .ok (.num x)
      | Option.none => .error .tooLarge
  | room + 1, .list items => do
      let terms ← toTerms room items
      return .list terms
  | _ + 1, .function tag code => .ok (.function tag code)
  | _ + 1, .none => .error .unusable
  | _ + 1, .helper _ => .error .unusable
  | _ + 1, .slice _ _ _ => .error .unusable

/-- The terms that the values of a list stand for. -/
def toTerms (room : Nat) : List Value → Except NoTerm (List Term)
  | [] => .ok []
  | v :: rest => do
      let t ← toTerm room v
      let ts ← toTerms room rest
      return t :: ts

end

end Value

/-- The text of a value as the program would show it. A list that becomes a
    term within the room can also be printed within it. -/
def shownAsTerm (room : Nat) (v : Value) : Outcome String :=
  match v with
  | .none => .ok "nil"
  | .bool b => .ok (if b then "true" else "false")
  | .list _ =>
      match v.toTerm room with
      | .ok t => .ok t.display
      | .error .tooLarge => raise .intTooLarge
      | .error .unusable => .error .unusable
      | .error .exhausted => .error .exhausted
  | _ =>
    match v.numeral? with
    | some n => do
        let x ← n.toFloat?
        return Number.text x
    | none => lift v.show?

/-! ## Whole numbers -/

/-- Whether numbers in a base have a bounded number of digits. -/
def isBounded (base : Nat) : Bool :=
  !([2, 4, 8, 16, 32].contains base)

/-- The base that the beginning of a number asks for, and what follows it. In
    base zero the beginning decides; a zero without a letter must then be the
    number zero, which the last component says. -/
def splitBase (base : Nat) (text : List Char) : Nat × List Char × Bool :=
  let letterBase : Char → Option Nat
    | 'x' => some 16
    | 'X' => some 16
    | 'o' => some 8
    | 'O' => some 8
    | 'b' => some 2
    | 'B' => some 2
    | _ => none
  match text with
  | '0' :: c :: rest =>
      match letterBase c with
      | some b =>
          if base = 0 ∨ base = b then (b, rest, false) else (base, text, false)
      | none => if base = 0 then (10, text, true) else (base, text, false)
  | '0' :: _ => if base = 0 then (10, text, true) else (base, text, false)
  | _ => (if base = 0 then 10 else base, text, false)

/-- Reads a whole number in a base; base zero takes the base of the number's
    beginning. -/
def readInt (base : Nat) (text : String) : Outcome Int :=
  let wrong : Outcome Int := raise (.intText base text)
  let (negative, unsigned) := Number.spanSign (Number.plain text.toList)
  let (radix, digits, mustBeZero) := splitBase base unsigned
  let startsWrong := digits.head? == some '_' && digits.length == unsigned.length
  let isDigit (c : Char) := match Text.alphanumeric? c with
    | some d => d < radix
    | none => false
  match Lexeme.spanDigits isDigit digits with
  | none => wrong
  | some (ds, rest) =>
      if ds.isEmpty || startsWrong then wrong
      else if isBounded radix && Value.maxDigits < ds.length then raise (.digitsRead ds.length)
      else
        let n := Text.ofDigits radix (ds.filterMap Text.alphanumeric?)
        if !rest.isEmpty || (mustBeZero && n ≠ 0) then wrong
        else .ok (if negative then -(n : Int) else n)

/-- A value as a whole number. -/
def toInt (v : Value) : Outcome Int :=
  match v with
  | .text s => readInt 10 s
  | _ =>
    match v.numeral? with
    | some (.int n) => .ok n
    | some (.real x) => Percent.truncated x
    | none => raise (.intArgument v.kind)

/-- A value as a whole number in a base. -/
def toIntInBase (v base : Value) : Outcome Int :=
  match base.int? with
  | none => raise (.notWhole base.kind)
  | some b =>
      if (b ≠ 0 ∧ b < 2) ∨ 36 < b then raise .badBase
      else match v with
        | .text s => readInt b.toNat s
        | _ => raise .explicitBase

/-! ## Doubles -/

/-- A value as a double. -/
def toReal (v : Value) : Outcome Value :=
  match v with
  | .real _ _ => .ok v
  | .text s =>
      match Number.read? s.toList with
      | some x => .ok (.ofFloat x)
      | none => raise (.realText s)
  | _ =>
    match v.int? with
    | some n => (Numeral.toFloat? (.int n)).map .ofFloat
    | none => raise (.realArgument v.kind)

/-! ## Rounding -/

/-- A double rounded to a whole number. -/
def roundReal (x : Float) : Outcome Value :=
  match Binary64.parts x with
  | .nan => raise .nanToInt
  | .infinite _ => raise .infinityToInt
  | .finite negative significand exponent =>
      let (num, den) := Binary64.ratio significand exponent
      let size : Int := roundHalfEven num den
      .ok (.int (if negative then -size else size))

/-- A double rounded to decimal places. Beyond the places of all doubles it
    stays the same; before them it becomes zero. -/
def roundRealTo (x : Float) (places : Int) : Outcome Value :=
  match Binary64.parts x with
  | .finite negative significand exponent =>
      if 323 < places then .ok (.ofFloat x)
      else if places < -308 then .ok (.ofFloat (0.0 * x))
      else
        let y := Number.roundPlaces negative significand exponent places
        match Binary64.parts y with
        | .infinite _ => raise .roundedTooLarge
        | _ => .ok (.ofFloat y)
  | _ => .ok (.ofFloat x)

/-- A value rounded to a whole number. -/
def rounded (v : Value) : Outcome Value :=
  match v.numeral? with
  | some (.int n) => .ok (.int n)
  | some (.real x) => roundReal x
  | none => raise (.noRounding v.kind)

/-- A value rounded to decimal places. -/
def roundedTo (v places : Value) : Outcome Value :=
  match v.numeral?, places with
  | none, _ => raise (.noRounding v.kind)
  | some _, .none => rounded v
  | some n, places =>
    match places.int? with
    | none => raise (.notWhole places.kind)
    | some p =>
      match n with
      | .real x => roundRealTo x p
      | .int n => .ok (.int (if 0 ≤ p then n else Number.roundZeros n (-p).toNat))

end MiniLisp.Host
