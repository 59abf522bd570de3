import MiniLisp.Number.Reading
import MiniLisp.Term
import MiniLisp.Token.Lexer

/-! # From tokens to terms

    Reading takes two steps. The first one builds the tree that the
    parentheses describe and leaves every abbreviation in its place as a mark:
    the result is a list of drafts. The second one joins each mark with the
    form after it, so that `'x` becomes `(quote x)`.

    Parentheses need not balance: one that closes nothing is skipped, and the
    end of the text closes every open list. Only a mark with no form after it
    in its list is refused.
-/

namespace MiniLisp

/-- A form whose abbreviations are not joined yet. -/
inductive Draft where
  | atom (term : Term)
  | mark (mark : QuoteMark) (line : Nat)
  | list (items : List Draft)

namespace Draft

/-! ## The tree of the parentheses -/

/-- The atom that a token stands for. Digits and points that spell no number
    stand for the undefined number. -/
def ofAtom (t : Token) : Term :=
  let text := t.text.getD ""
  match t.kind with
  | .number => .num ((Number.read? text.toList).getD (0.0 / 0.0))
  | .string => .str text
  | .boolean => .bool (text == "true")
  | .symbol => .sym text t.line
  | _ => .nil

/-- Closes every open list: `items` are those of the innermost one, `outer`
    those of the lists around it, all of them last first. -/
def closeAll (items : List Draft) (outer : List (List Draft)) : List Draft :=
  match outer with
  | [] => items.reverse
  | around :: rest => closeAll (.list items.reverse :: around) rest

/-- Builds the tree of the tokens onto the open lists. -/
def build (items : List Draft) (outer : List (List Draft)) : List Token → List Draft
  | [] => closeAll items outer
  | t :: tokens =>
      match t.kind with
      | .openParen => build [] (items :: outer) tokens
      | .closeParen =>
          match outer with
          | [] => build items [] tokens
          | around :: rest => build (.list items.reverse :: around) rest tokens
      | kind =>
          match kind.mark? with
          | some m => build (.mark m t.line :: items) outer tokens
          | none => build (.atom (ofAtom t) :: items) outer tokens

/-- The drafts of a sequence of tokens. -/
def ofTokens (tokens : List Token) : List Draft :=
  build [] [] tokens

/-- The greatest number of lists that are open at once, `now` being open
    before the tokens. -/
def nesting (now : Nat) : List Token → Nat
  | [] => now
  | t :: tokens =>
      match t.kind with
      | .openParen => nesting (now + 1) tokens
      | .closeParen => max now (nesting (now - 1) tokens)
      | _ => nesting now tokens

/-! ## Joining the marks -/

mutual

/-- Joins every mark with the form after it. The list is walked from its end,
    so that marks in a row nest, and a list inside it is joined when the walk
    comes to it. -/
def join : List Draft → Except ReadError (List Term)
  | [] => .ok []
  | d :: rest => do
      let joined ← join rest
      place d joined

/-- Puts a draft before the terms that follow it. A mark takes the first of
    them. -/
def place : Draft → List Term → Except ReadError (List Term)
  | .atom t, after => .ok (t :: after)
  | .list items, after => do
      let inner ← join items
      return .list inner :: after
  | .mark m line, [] => .error (.danglingMark m line)
  | .mark m line, t :: after => .ok (.list [.sym m.symbol line, t] :: after)

end

end Draft

/-- The terms that a sequence of tokens spells. -/
def Term.ofTokens (tokens : List Token) : Except ReadError (List Term) :=
  Draft.join (Draft.ofTokens tokens)

/-- The terms of a program text. -/
def Term.parse (text : String) : Except ReadError (List Term) := do
  let tokens ← Token.scan text
  Term.ofTokens tokens

end MiniLisp
