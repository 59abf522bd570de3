import MiniLisp.Error

/-! # Tokens

    A program text is a sequence of tokens, each with the line it starts on.
-/

namespace MiniLisp

/-- The kinds of tokens. -/
inductive TokenKind where
  | openParen | closeParen | symbol | string | number | boolean | nil
  | quote | backquote | unquote | unquoteSplice
  deriving DecidableEq, Repr

/-- The spelling of a kind where a token has no text of its own. -/
def TokenKind.spelling : TokenKind → String
  | .openParen => "("
  | .closeParen => ")"
  | .symbol => "symbol"
  | .string => "string"
  | .number => "number"
  | .boolean => "boolean"
  | .nil => "nil"
  | .quote => "'"
  | .backquote => "\x60"
  | .unquote => ","
  | .unquoteSplice => ",@"

/-- The abbreviation that a token of the kind is. -/
def TokenKind.mark? : TokenKind → Option QuoteMark
  | .quote => some .quote
  | .backquote => some .quasiquote
  | .unquote => some .unquote
  | .unquoteSplice => some .unquoteSplice
  | _ => none

/-- A token. The text of a string is what the string stands for. -/
structure Token where
  kind : TokenKind
  text : Option String
  line : Nat
  deriving DecidableEq, Repr

/-- How a token is written: strings between quotes, without escapes. -/
def Token.spelling (t : Token) : String :=
  match t.kind, t.text with
  | .string, text => "\"" ++ text.getD "" ++ "\""
  | _, some text => text
  | kind, none => kind.spelling

end MiniLisp
