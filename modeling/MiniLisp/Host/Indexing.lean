import MiniLisp.Host.Arithmetic

/-! # Subscripts of host values

    Lists and text can be indexed and sliced. Indices below zero count from
    the end. The bounds of a slice are moved into the sequence, so that only
    its step can be wrong.
-/

namespace MiniLisp.Host

/-- A part of a slice as a number; a missing part is no number. -/
def slicePart (v : Value) : Outcome (Option Int) :=
  match v with
  | .none => .ok none
  | _ =>
    match v.int? with
    | some n => .ok (some n)
    | none => raise .sliceBound

/-- A bound of a slice moved into a sequence: bounds below zero count from the
    end, and what still lies outside becomes the nearest of `low` and `high`. -/
def clampBound (length low high bound : Int) : Int :=
  let bound := if bound < 0 then bound + length else bound
  max low (min high bound)

/-- The positions from `start` on, `step` apart, up to `stop` but without it. -/
def positions (start stop step : Int) : List Nat :=
  let count :=
    if 0 < step then (stop - start + step - 1) / step
    else (start - stop - step - 1) / (-step)
  (List.range count.toNat).map fun (i : Nat) => (start + (i : Int) * step).toNat

/-- The positions that a slice selects in a sequence of the given length. The
    step is looked at first. -/
def slicePositions (length : Nat) (lower upper step : Value) : Outcome (List Nat) := do
  let step ← slicePart step
  let step := step.getD 1
  if step = 0 then raise .sliceStep
  let lower ← slicePart lower
  let upper ← slicePart upper
  let n : Int := length
  if 0 < step then
    return positions (clampBound n 0 n (lower.getD 0)) (clampBound n 0 n (upper.getD n)) step
  else
    let start := match lower with
      | some l => clampBound n (-1) (n - 1) l
      | none => n - 1
    let stop := match upper with
      | some u => clampBound n (-1) (n - 1) u
      | none => -1
    return positions start stop step

/-- The position that an index means in a sequence of the given length. -/
def indexPosition (length : Nat) (outside : Fault) (n : Int) : Outcome Nat :=
  if maxSize < n ∨ n < -maxSize - 1 then raise .indexTooLarge
  else
    let position := if n < 0 then n + length else n
    if 0 ≤ position ∧ position < length then .ok position.toNat else raise outside

/-- The items of an array at the given positions. -/
def itemsAt {α : Type} (items : Array α) (selected : List Nat) : List α :=
  selected.filterMap fun i => items[i]?

/-- A list at an index. -/
def listAt (items : List Value) (index : Value) : Outcome Value :=
  match index with
  | .slice lower upper step => do
      let selected ← slicePositions items.length lower upper step
      return .list (itemsAt items.toArray selected)
  | _ =>
    match index.int? with
    | none => raise (.listIndex index.kind)
    | some n => do
        let position ← indexPosition items.length .listIndexRange n
        match items[position]? with
        | some v => return v
        | none => raise .listIndexRange

/-- A text at an index. -/
def textAt (s : String) (index : Value) : Outcome Value :=
  let chars := s.toList
  match index with
  | .slice lower upper step => do
      let selected ← slicePositions chars.length lower upper step
      return .text (String.ofList (itemsAt chars.toArray selected))
  | _ =>
    match index.int? with
    | none => raise (.textIndex index.kind)
    | some n => do
        let position ← indexPosition chars.length .textIndexRange n
        match chars[position]? with
        | some c => return .text c.toString
        | none => raise .textIndexRange

/-- A value at an index. -/
def subscripted (v index : Value) : Outcome Value :=
  match v with
  | .list items => listAt items index
  | .text s => textAt s index
  | .helper h =>
      if h.kind = .type then raise (.typeNotSubscriptable h) else raise (.notSubscriptable h.kind)
  | _ => raise (.notSubscriptable v.kind)

end MiniLisp.Host
