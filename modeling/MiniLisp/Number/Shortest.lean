import MiniLisp.Number.Binary64

/-! # The shortest decimal that reads back

    Every double is the nearest one to a whole interval of reals. Among the
    decimals in that interval the shortest one is chosen, and among those of
    equal length the one nearest to the double, a tie going to the even digit.

    The search looks at the grids of decimals with 1, 2, … 17 digits in turn.
    If any point of a grid lies in the interval, so does one of the two
    neighbours of the double on that grid, so two tests per grid are enough;
    seventeen digits always suffice.
-/

namespace MiniLisp

/-- The number `digits · 10 ^ exponent`. -/
structure Decimal where
  digits : Nat
  exponent : Int
  deriving DecidableEq, Repr

namespace Decimal

/-- The exponent of the first digit: `p` in `d.ddd · 10 ^ p`. -/
def leading (d : Decimal) : Int :=
  (decimalLength d.digits : Int) - 1 + d.exponent

/-- The same number without zeros at the end of its digits. -/
def trim (digits : Nat) (exponent : Int) : Decimal :=
  if h : 0 < digits ∧ digits % 10 = 0 then trim (digits / 10) (exponent + 1)
  else ⟨digits, exponent⟩
termination_by digits
decreasing_by omega

/-- The nearest point to `significand · 2 ^ exponent` on the grid of multiples
    of `10 ^ place`, if it reads back as that double.

    The ends of the interval lie half a unit away in the last place, or a
    quarter below the least significand of a binade; they belong to it when
    the significand is even, because a tie is read as the even neighbour. -/
def onGrid (significand : Nat) (exponent place : Int) : Option Nat :=
  let quarter := exponent - 2
  let grid := Nat.pow 10 place.toNat * Nat.pow 2 (-quarter).toNat
  let unit := Nat.pow 2 quarter.toNat * Nat.pow 10 (-place).toNat
  let value := 4 * significand * unit
  let gap := if significand = Nat.pow 2 52 ∧ -1074 < exponent then 1 else 2
  let lower := (4 * significand - gap) * unit
  let upper := (4 * significand + 2) * unit
  let inside (point : Nat) : Bool :=
    if significand % 2 = 0 then lower ≤ point * grid && point * grid ≤ upper
    else lower < point * grid && point * grid < upper
  let below := value / grid
  match inside below, inside (below + 1) with
  | true, true => some (roundHalfEven value grid)
  | true, false => some below
  | false, true => some (below + 1)
  | false, false => none

/-- The exponent of the first digit of `significand · 2 ^ exponent`. -/
def leadingOf (significand : Nat) (exponent : Int) : Int :=
  let (num, den) := Binary64.ratio significand exponent
  decimalExponent num den

/-- The shortest decimal that reads back as the positive double
    `significand · 2 ^ exponent`. -/
def shortest (significand : Nat) (exponent : Int) : Decimal :=
  let top := leadingOf significand exponent
  let found := (List.range 17).findSome? fun (extra : Nat) =>
    let place := top - (extra : Int)
    (onGrid significand exponent place).map fun digits => trim digits place
  found.getD ⟨significand, 0⟩

end Decimal

end MiniLisp
