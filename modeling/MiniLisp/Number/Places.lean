import MiniLisp.Number.Binary64

/-! # Rounding to a number of places

    A double is an exact fraction, so it can be rounded exactly to a number of
    decimal places or of significant digits, a half to the even neighbour.
-/

namespace MiniLisp.Number

/-- `num / den · 10 ^ places`, rounded to a whole number. -/
def scaled (num den : Nat) (places : Int) : Nat :=
  if 0 ≤ places then roundHalfEven (num * Nat.pow 10 places.toNat) den
  else roundHalfEven num (den * Nat.pow 10 (-places).toNat)

/-- The first `count` significant digits of a positive `num / den` as a whole
    number, rounded, with the exponent of the first of them. -/
def significant (num den count : Nat) : Nat × Int :=
  let leading := decimalExponent num den
  let digits := scaled num den ((count : Int) - 1 - leading)
  if digits = Nat.pow 10 count then (digits / 10, leading + 1) else (digits, leading)

/-- The double nearest to a double rounded to decimal places. -/
def roundPlaces (negative : Bool) (significand : Nat) (exponent places : Int) : Float :=
  let (num, den) := Binary64.ratio significand exponent
  Binary64.ofDecimal negative (scaled num den places) (-places)

/-- A whole number rounded to a multiple of `10 ^ zeros`. -/
def roundZeros (n : Int) (zeros : Nat) : Int :=
  if decimalLength n.natAbs < zeros then 0
  else
    let size := roundHalfEven n.natAbs (Nat.pow 10 zeros) * Nat.pow 10 zeros
    if n < 0 then -size else size

end MiniLisp.Number
