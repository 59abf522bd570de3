import MiniLisp.Term

/-! # The platform of the host

    The grammar of host expressions and the meaning of their operators are the
    same everywhere. A few things are not: how much memory there is, what the
    tables of characters hold, in which words a malformed text is refused, and
    which undefined numbers are kept as one. They are collected in a `Platform`,
    and all that is said of host expressions holds on every platform.
-/

namespace MiniLisp.Host

/-- Where an undefined number was taken from. An undefined number differs from
    every number, but inside of lists a value is held to be equal to itself
    without a look at its content; so it matters whether two undefined numbers
    are the same one. -/
structure Origin where
  scope : ScopeId
  name : String
  path : List Nat
  deriving DecidableEq, Repr

/-- What the platform decides. -/
class Platform where
  /-- The length up to which sequences are built. -/
  memory : Nat
  /-- The form in which names are compared. -/
  nameForm : String → String
  /-- Names of plain characters have this form already. -/
  nameForm_plain : ∀ name : String, (∀ c ∈ name.toList, c.toNat < 128) → nameForm name = name
  /-- The character of a name. -/
  character? : String → Option Char
  /-- What is added to the refusal of a text that is no expression. -/
  complaint : String → String
  /-- Whether the undefined numbers of two origins are one and the same, as
      those of a name and of another name for its value are. A term does not
      tell where the number in it was made. -/
  same : Origin → Origin → Bool

/-- A platform that knows plain names only and adds no words of its own. -/
instance plainPlatform : Platform where
  memory := Nat.pow 2 27
  nameForm := id
  nameForm_plain _ _ := rfl
  character? _ := none
  complaint _ := ""
  same _ _ := false

end MiniLisp.Host
