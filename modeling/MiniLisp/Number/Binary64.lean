/-! # Doubles as exact fractions

    A finite double is a whole number times a power of two. This module opens
    the 64 bits of a `Float` into that form and goes the other way by rounding
    a fraction of whole numbers to the nearest double. Everything in between
    is exact arithmetic on `Nat` and `Int`:

    * **`parts`** — sign, significand and exponent of a double;
    * **`ofRatio`** — the double nearest to a fraction, ties to the even one;
    * **`ofDecimal`** — the double nearest to `digits · 10 ^ exponent`.
-/

namespace MiniLisp

/-! ## Rounding a quotient -/

/-- `num / den` rounded to the nearest whole number, a half to the even one. -/
def roundHalfEven (num den : Nat) : Nat :=
  let whole := num / den
  let twice := 2 * (num % den)
  if twice < den then whole
  else if den < twice then whole + 1
  else whole + whole % 2

/-- A rounded quotient is one of the two whole numbers around the exact one. -/
theorem roundHalfEven_bounds (num den : Nat) :
    num / den ≤ roundHalfEven num den ∧ roundHalfEven num den ≤ num / den + 1 := by
  have h : num / den % 2 < 2 := Nat.mod_lt _ (by omega)
  unfold roundHalfEven
  dsimp only
  split
  · omega
  · split <;> omega

/-- The number of decimal digits of `n`; zero has one. -/
def decimalLength (n : Nat) : Nat :=
  (Nat.toDigits 10 n).length

/-- The exponent `p` with `10 ^ p ≤ num / den < 10 ^ (p + 1)`, for positive
    `num` and `den`. Comparing the two lengths leaves one bit open, which the
    comparison settles. -/
def decimalExponent (num den : Nat) : Int :=
  let estimate : Int := (decimalLength num : Int) - decimalLength den
  let reached :=
    if 0 ≤ estimate then den * Nat.pow 10 estimate.toNat ≤ num
    else den ≤ num * Nat.pow 10 (-estimate).toNat
  if reached then estimate else estimate - 1

namespace Binary64

/-! ## Opening a double -/

/-- What the bits of a double stand for. -/
inductive Parts where
  | nan
  | infinite (negative : Bool)
  /-- The number `± significand · 2 ^ exponent`. -/
  | finite (negative : Bool) (significand : Nat) (exponent : Int)
  deriving DecidableEq, Repr

/-- The parts that the bits `bits` of a double encode. -/
def partsOfBits (bits : Nat) : Parts :=
  let negative := decide (Nat.pow 2 63 ≤ bits)
  let biased : Nat := (bits / Nat.pow 2 52) % 2048
  let fraction : Nat := bits % Nat.pow 2 52
  if biased = 2047 then
    if fraction = 0 then .infinite negative else .nan
  else if biased = 0 then .finite negative fraction (-1074)
  else .finite negative (Nat.pow 2 52 + fraction) ((biased : Int) - 1075)

/-- The parts of `x`. -/
def parts (x : Float) : Parts :=
  partsOfBits x.toBits.toNat

/-- The numerator and denominator of `significand · 2 ^ exponent`. -/
def ratio (significand : Nat) (exponent : Int) : Nat × Nat :=
  if 0 ≤ exponent then (significand * Nat.pow 2 exponent.toNat, 1)
  else (significand, Nat.pow 2 (-exponent).toNat)

/-! ## Closing a double -/

/-- The bits of positive infinity: every larger magnitude rounds to it. -/
def infinityBits : Nat := 2047 * Nat.pow 2 52

/-- The exponent `e` with `2 ^ e ≤ num / den < 2 ^ (e + 1)`, for positive
    `num` and `den`. -/
def binaryExponent (num den : Nat) : Int :=
  let estimate : Int := (num.log2 : Int) - den.log2
  let reached :=
    if 0 ≤ estimate then den * Nat.pow 2 estimate.toNat ≤ num
    else den ≤ num * Nat.pow 2 (-estimate).toNat
  if reached then estimate else estimate - 1

/-- The bits of the double nearest to `num / den`, a tie going to the even
    significand. The significand is rounded at the last place of its binade,
    or at the last subnormal place; a carry out of it runs into the exponent
    field, where it belongs. -/
def magnitudeBits (num den : Nat) : Nat :=
  if num = 0 then 0
  else
    let place := max (binaryExponent num den - 52) (-1074)
    let significand :=
      if 0 ≤ place then roundHalfEven num (den * Nat.pow 2 place.toNat)
      else roundHalfEven (num * Nat.pow 2 (-place).toNat) den
    min ((place + 1074).toNat * Nat.pow 2 52 + significand) infinityBits

/-- The double with the given sign and magnitude bits. -/
def ofSignBits (negative : Bool) (bits : Nat) : Float :=
  Float.ofBits (UInt64.ofNat (if negative then Nat.pow 2 63 + bits else bits))

/-- The double nearest to `± num / den`. -/
def ofRatio (negative : Bool) (num den : Nat) : Float :=
  ofSignBits negative (magnitudeBits num den)

/-- The double nearest to `± digits · 10 ^ exponent`. A number far outside the
    range of doubles is not written out first: it is infinite, or zero. -/
def ofDecimal (negative : Bool) (digits : Nat) (exponent : Int) : Float :=
  let scale := (decimalLength digits : Int) + exponent
  if digits = 0 ∨ scale < -400 then ofSignBits negative 0
  else if 400 < scale then ofSignBits negative infinityBits
  else if 0 ≤ exponent then ofRatio negative (digits * Nat.pow 10 exponent.toNat) 1
  else ofRatio negative digits (Nat.pow 10 (-exponent).toNat)

/-- The double nearest to a whole number, or `none` when that is infinite. -/
def ofInt? (n : Int) : Option Float :=
  let bits := if 1100 < n.natAbs.log2 then infinityBits else magnitudeBits n.natAbs 1
  if bits = infinityBits then none else some (ofSignBits (decide (n < 0)) bits)

/-- The double nearest to a whole number, infinite if it is out of range. -/
def ofInt (n : Int) : Float :=
  (ofInt? n).getD (ofSignBits (decide (n < 0)) infinityBits)

end Binary64

end MiniLisp
