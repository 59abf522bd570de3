import MiniLisp.Host.Arithmetic

/-! # Comparing host values

    Numbers are ordered by their exact values, text by code points, lists by
    their first different items; nothing else is ordered. Equality is defined
    on all values.
-/

namespace MiniLisp.Host

variable [Platform]

/-- What an ordering says about a comparison. -/
def Comparison.holds (op : Comparison) : Ordering → Bool
  | .lt => op == .lt || op == .le || op == .ne
  | .eq => op == .eq || op == .le || op == .ge
  | .gt => op == .gt || op == .ge || op == .ne

mutual

/-- Whether two values stand in an order. -/
def ordered (op : Comparison) : Value → Value → Outcome Bool
  | .text s, .text t => .ok (op.holds (compare s t))
  | .list xs, .list ys => orderedItems op xs ys
  | v, w =>
      match v.numeral?, w.numeral? with
      | some m, some n =>
          match m.compare? n with
          | some o => .ok (op.holds o)
          | none => .ok false
      | _, _ => raise (.order op v.kind w.kind)

/-- Whether two lists stand in an order. -/
def orderedItems (op : Comparison) : List Value → List Value → Outcome Bool
  | x :: xs, y :: ys => if Value.sameItem x y then orderedItems op xs ys else ordered op x y
  | [], [] => .ok (op.holds .eq)
  | [], _ :: _ => .ok (op.holds .lt)
  | _ :: _, [] => .ok (op.holds .gt)

end

/-- Whether a text occurs in another one. -/
def occursIn (part : List Char) : List Char → Bool
  | [] => part.isEmpty
  | c :: rest => part.isPrefixOf (c :: rest) || occursIn part rest

/-- Whether a value is a member of another one. -/
def member (v w : Value) : Outcome Bool :=
  match w with
  | .list items => .ok (items.any fun item => Value.sameItem item v)
  | .text t =>
      match v with
      | .text s => .ok (occursIn s.toList t.toList)
      | _ => raise (.notInText v.kind)
  | _ => raise (.noMembers w.kind)

/-- Whether a comparison holds. -/
def compared (op : Comparison) (v w : Value) : Outcome Bool :=
  match op with
  | .eq => .ok (Value.equal v w)
  | .ne => .ok !Value.equal v w
  | .lt | .le | .gt | .ge => ordered op v w
  | .member => member v w
  | .notMember => (member v w).map not
  | .same | .notSame => .error (.stuck op.kind)

end MiniLisp.Host
