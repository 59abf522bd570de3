import MiniLisp.Host.Lexer
import MiniLisp.Host.Platform
import MiniLisp.Host.TextLiteral
import MiniLisp.Text.Blank
import MiniLisp.Text.Quoted

/-! # The grammar of host expressions

    A recursive descent over the lexemes. Every function takes the lexemes
    that are left and gives back what it read and the lexemes after it. The
    first argument bounds how deeply the functions may call each other; the
    bound of `Expr.parse?` follows from the length of the text and is never
    reached.

    The grammar is that of the whole host language, not only of the part that
    may be evaluated: what lies outside of it is told apart from what is no
    expression at all.
-/

namespace MiniLisp.Host

namespace Grammar

/-- The lexemes that are left. -/
abbrev Input := List Lexeme

/-! ## Words and marks -/

/-- The words that are no names. -/
def reserved : List String :=
  ["False", "None", "True", "and", "as", "assert", "async", "await", "break", "class", "continue",
   "def", "del", "elif", "else", "except", "finally", "for", "from", "global", "if", "import",
   "in", "is", "lambda", "nonlocal", "not", "or", "pass", "raise", "return", "try", "while",
   "with", "yield"]

/-- Whether a word is a name. -/
def isName (word : String) : Bool :=
  !reserved.contains word

/-- What follows the given word. -/
def afterWord? (word : String) : Input → Option Input
  | .word w :: rest => if w == word then some rest else none
  | _ => none

/-- What follows the given mark. -/
def afterMark? (mark : String) : Input → Option Input
  | .mark m :: rest => if m == mark then some rest else none
  | _ => none

/-- Whether the clauses of a comprehension begin here. -/
def startsClauses : Input → Bool
  | .word "for" :: _ => true
  | .word "async" :: .word "for" :: _ => true
  | _ => false

/-! ## Operators -/

/-- The operators between operands, by how tightly they bind. -/
def operatorAt? (level : Nat) (mark : String) : Option BinaryOp :=
  match level, mark with
  | 0, "|" => some .bitOr
  | 1, "^" => some .bitXor
  | 2, "&" => some .bitAnd
  | 3, "<<" => some .shiftLeft
  | 3, ">>" => some .shiftRight
  | 4, "+" => some .add
  | 4, "-" => some .sub
  | 5, "*" => some .mul
  | 5, "/" => some .div
  | 5, "//" => some .floorDiv
  | 5, "%" => some .mod
  | 5, "@" => some .matrixMul
  | _, _ => none

/-- The number of levels of operators between operands. -/
def levels : Nat := 6

/-- The comparison that begins here. -/
def comparison? : Input → Option (Comparison × Input)
  | .mark "==" :: rest => some (.eq, rest)
  | .mark "!=" :: rest => some (.ne, rest)
  | .mark "<" :: rest => some (.lt, rest)
  | .mark "<=" :: rest => some (.le, rest)
  | .mark ">" :: rest => some (.gt, rest)
  | .mark ">=" :: rest => some (.ge, rest)
  | .word "in" :: rest => some (.member, rest)
  | .word "not" :: .word "in" :: rest => some (.notMember, rest)
  | .word "is" :: .word "not" :: rest => some (.notSame, rest)
  | .word "is" :: rest => some (.same, rest)
  | _ => none

/-- The operator before an operand that begins here. -/
def unaryOp? : Input → Option (UnaryOp × Input)
  | .mark "-" :: rest => some (.negate, rest)
  | .mark "+" :: rest => some (.plus, rest)
  | .mark "~" :: rest => some (.invert, rest)
  | _ => none

/-! ## Targets of comprehensions -/

mutual

/-- Whether an expression may stand for a variable of a comprehension. -/
def isTarget : Expr → Bool
  | .name _ => true
  | .subscript _ _ => true
  | .list items => areTargets items
  | .tuple items => areTargets items
  | .unsupported .access _ => true
  | _ => false

/-- Whether all of the expressions may, also after a star. -/
def areTargets : List Expr → Bool
  | [] => true
  | .unsupported .starred [e] :: rest => isTarget e && areTargets rest
  | e :: rest => isTarget e && areTargets rest

end

/-! ## Formatted text -/

/-- The plain characters of a formatted text up to the next field. The last
    component is true if they end with a doubled brace, which stands for
    itself. Inside of a field braces are not doubled, and braces around the name
    of a character, which `named` tells, begin no field. -/
def spanPlain (raw outer named : Bool) : List Char → Option (List Char × List Char × Bool)
  | [] => some ([], [], false)
  | c :: rest =>
      if named then
        (spanPlain raw outer (c != '\x7d') rest).map fun (plain, more) => (c :: plain, more)
      else if c == '\x7b' || c == '\x7d' then
        if !outer then some ([], c :: rest, false)
        else match rest with
          | d :: after =>
              if d == c then some ([c], after, true)
              else if c == '\x7d' then none
              else some ([], c :: rest, false)
          | [] => if c == '\x7d' then none else some ([], [c], false)
      else if c == '\\' && !raw then
        match rest with
        | d :: after =>
            if d == '\x7b' || d == '\x7d' then
              (spanPlain raw outer false (d :: after)).map fun (plain, more) => (c :: plain, more)
            else
              let named := d == 'N' && after.head? == some '\x7b'
              (spanPlain raw outer named after).map fun (plain, more) => (c :: d :: plain, more)
        | [] => some ([c], [], false)
      else (spanPlain raw outer false rest).map fun (plain, more) => (c :: plain, more)

/-- Where the search for the end of a field stands. -/
structure FieldState where
  /-- The brackets that are open, innermost first. -/
  brackets : List Char
  /-- The quote of the text literal that is open, and whether it is tripled. -/
  quote : Option (Char × Bool)
  /-- How many characters have been dealt with already. -/
  skip : Nat

/-- The bracket that a closing bracket closes. -/
def opening? : Char → Option Char
  | ')' => some '('
  | ']' => some '['
  | '\x7d' => some '\x7b'
  | _ => none

/-- The characters of the expression of a field. It ends at a brace, a colon,
    an exclamation mark or an equals sign outside of brackets and text. -/
def spanField (s : FieldState) : List Char → Option (List Char × List Char)
  | [] => none
  | c :: rest =>
      let go (s : FieldState) := (spanField s rest).map fun (field, after) => (c :: field, after)
      if 0 < s.skip then go { s with skip := s.skip - 1 }
      else if c == '\\' then none
      else match s.quote with
        | some (q, tripled) =>
            if c != q then go s
            else if !tripled then go { s with quote := none }
            else if [q, q].isPrefixOf rest then go { s with quote := none, skip := 2 }
            else go s
        | none =>
            if c == '"' || c == '\'' then
              if [c, c].isPrefixOf rest then go { s with quote := some (c, true), skip := 2 }
              else go { s with quote := some (c, false) }
            else if c == '(' || c == '[' || c == '\x7b' then
              go { s with brackets := c :: s.brackets }
            else if c == '#' then none
            else if s.brackets.isEmpty && ['!', ':', '\x7d', '=', '<', '>'].contains c then
              if ['!', '=', '<', '>'].contains c && rest.head? == some '=' then
                go { s with skip := 1 }
              else if c == '<' || c == '>' then go s
              else some ([], c :: rest)
            else match opening? c with
              | none => go s
              | some o =>
                match s.brackets with
                | b :: outer => if b == o then go { s with brackets := outer } else none
                | [] => none

/-- What follows the conversion of a field, if there is one. -/
def afterConversion? : List Char → Option (List Char)
  | '!' :: c :: rest => if c == 's' || c == 'r' || c == 'a' then some rest else none
  | ['!'] => none
  | rest => some rest

/-- What follows the equals sign of a field, if there is one. -/
def afterEquals : List Char → List Char
  | '=' :: rest => rest.dropWhile Char.isWhitespace
  | rest => rest

/-! ## Parameters of functions -/

/-- What has been read of a parameter list. -/
structure ParameterState where
  /-- A parameter has been read. -/
  any : Bool
  /-- A slash has been read. -/
  slash : Bool
  /-- A parameter with a default has been read. -/
  defaulted : Bool
  /-- A star has been read. -/
  star : Bool
  /-- A star has been read that still needs a parameter after it. -/
  bare : Bool

/-- The state before the first parameter. -/
def ParameterState.start : ParameterState := ⟨false, false, false, false, false⟩

/-- The state after a parameter. -/
def ParameterState.after (s : ParameterState) (hasDefault : Bool) : ParameterState :=
  { s with any := true, defaulted := s.defaulted || (hasDefault && !s.star), bare := false }

/-- Whether a slash may come next: once, after a parameter and before a star. -/
def ParameterState.takesSlash (s : ParameterState) : Bool :=
  s.any && !s.slash && !s.star

/-- What follows the comma after a parameter; the colon that ends the list is
    left in place. -/
def afterParameter? : Input → Option Input
  | .mark "," :: rest => some rest
  | .mark ":" :: rest => some (.mark ":" :: rest)
  | _ => none

/-! ## The grammar -/

variable [Platform]

mutual

/-- A conditional expression or a function. -/
def expression : Nat → Input → Option (Expr × Input)
  | 0, _ => none
  | n + 1, .word "lambda" :: rest => do
      let (defaults, rest) ← parameters n .start rest
      let (body, rest) ← expression n rest
      return (.unsupported .lambda (defaults ++ [body]), rest)
  | n + 1, ts => do
      let (body, rest) ← disjunction n ts
      match rest with
      | .word "if" :: rest =>
          let (test, rest) ← disjunction n rest
          let rest ← afterWord? "else" rest
          let (other, rest) ← expression n rest
          return (.conditional test body other, rest)
      | rest => return (body, rest)
termination_by structural n => n

/-- An expression that may be given a name. -/
def named : Nat → Input → Option (Expr × Input)
  | 0, _ => none
  | n + 1, .word w :: .mark ":=" :: rest =>
      if isName w then do
        let (e, rest) ← expression n rest
        return (.unsupported .assignment [.name (Platform.nameForm w), e], rest)
      else none
  | n + 1, ts => expression n ts
termination_by structural n => n

/-- An item of a display: an expression, or a star and an operation. -/
def item : Nat → Input → Option (Expr × Input)
  | 0, _ => none
  | n + 1, .mark "*" :: rest => do
      let (e, rest) ← operation n 0 rest
      return (.unsupported .starred [e], rest)
  | n + 1, ts => named n ts
termination_by structural n => n

/-- The items up to a closing mark, separated by commas, with an optional
    comma at the end. -/
def items : Nat → String → Input → Option (List Expr × Input)
  | 0, _, _ => none
  | n + 1, close, ts =>
      match afterMark? close ts with
      | some rest => some ([], rest)
      | none => do
          let (e, rest) ← item n ts
          match afterMark? close rest with
          | some rest => return ([e], rest)
          | none =>
              let rest ← afterMark? "," rest
              let (es, rest) ← items n close rest
              return (e :: es, rest)
termination_by structural n => n

/-- Operands joined by `or`. -/
def disjunction : Nat → Input → Option (Expr × Input)
  | 0, _ => none
  | n + 1, ts => do
      let (first, rest) ← conjunction n ts
      let (more, rest) ← disjuncts n rest
      return (if more.isEmpty then first else .disjunction (first :: more), rest)
termination_by structural n => n

/-- The operands after the first one. -/
def disjuncts : Nat → Input → Option (List Expr × Input)
  | n + 1, .word "or" :: rest => do
      let (e, rest) ← conjunction n rest
      let (es, rest) ← disjuncts n rest
      return (e :: es, rest)
  | _, ts => some ([], ts)
termination_by structural n => n

/-- Operands joined by `and`. -/
def conjunction : Nat → Input → Option (Expr × Input)
  | 0, _ => none
  | n + 1, ts => do
      let (first, rest) ← inversion n ts
      let (more, rest) ← conjuncts n rest
      return (if more.isEmpty then first else .conjunction (first :: more), rest)
termination_by structural n => n

/-- The operands after the first one. -/
def conjuncts : Nat → Input → Option (List Expr × Input)
  | n + 1, .word "and" :: rest => do
      let (e, rest) ← inversion n rest
      let (es, rest) ← conjuncts n rest
      return (e :: es, rest)
  | _, ts => some ([], ts)
termination_by structural n => n

/-- A comparison, perhaps negated. -/
def inversion : Nat → Input → Option (Expr × Input)
  | 0, _ => none
  | n + 1, .word "not" :: rest => do
      let (e, rest) ← inversion n rest
      return (.unary .not e, rest)
  | n + 1, ts => do
      let (first, rest) ← operation n 0 ts
      let (more, rest) ← links n rest
      return (if more.isEmpty then first else .comparison first more, rest)
termination_by structural n => n

/-- The links of a chain of comparisons. -/
def links : Nat → Input → Option (List (Comparison × Expr) × Input)
  | 0, ts => some ([], ts)
  | n + 1, ts =>
      match comparison? ts with
      | none => some ([], ts)
      | some (op, rest) => do
          let (e, rest) ← operation n 0 rest
          let (more, rest) ← links n rest
          return ((op, e) :: more, rest)
termination_by structural n => n

/-- Operands joined by operators that bind at least as tightly as a level. -/
def operation : Nat → Nat → Input → Option (Expr × Input)
  | 0, _, _ => none
  | n + 1, level, ts =>
      if levels ≤ level then factor n ts
      else do
        let (left, rest) ← operation n (level + 1) ts
        operationAfter n level left rest
termination_by structural n => n

/-- The operators of a level after their first operand, from left to right. -/
def operationAfter : Nat → Nat → Expr → Input → Option (Expr × Input)
  | n + 1, level, left, .mark m :: rest =>
      match operatorAt? level m with
      | none => some (left, .mark m :: rest)
      | some op => do
          let (right, rest) ← operation n (level + 1) rest
          operationAfter n level (.binary op left right) rest
  | _, _, left, ts => some (left, ts)
termination_by structural n => n

/-- An operand with operators before it, or a power. -/
def factor : Nat → Input → Option (Expr × Input)
  | 0, _ => none
  | n + 1, ts =>
      match unaryOp? ts with
      | some (op, rest) => do
          let (e, rest) ← factor n rest
          return (.unary op e, rest)
      | none => do
          let (base, rest) ← awaited n ts
          match afterMark? "**" rest with
          | none => return (base, rest)
          | some rest =>
              let (exponent, rest) ← factor n rest
              return (.binary .power base exponent, rest)
termination_by structural n => n

/-- A primary, perhaps awaited. -/
def awaited : Nat → Input → Option (Expr × Input)
  | 0, _ => none
  | n + 1, .word "await" :: rest => do
      let (e, rest) ← primary n rest
      return (.unsupported .await [e], rest)
  | n + 1, ts => primary n ts
termination_by structural n => n

/-- An atom with attributes, calls and subscripts after it. -/
def primary : Nat → Input → Option (Expr × Input)
  | 0, _ => none
  | n + 1, ts => do
      let (e, rest) ← atom n ts
      trailers n e rest
termination_by structural n => n

/-- The attributes, calls and subscripts after an expression. -/
def trailers : Nat → Expr → Input → Option (Expr × Input)
  | n + 1, e, .mark "." :: .word w :: rest =>
      if isName w then trailers n (.unsupported .access [e]) rest else none
  | n + 1, e, .mark "(" :: rest => do
      let (arguments, keywords, rest) ← call n rest
      trailers n (.call e arguments keywords) rest
  | n + 1, e, .mark "[" :: rest => do
      let (index, rest) ← subscripts n rest
      trailers n (.subscript e index) rest
  | _, e, ts => some (e, ts)
termination_by structural n => n

/-- A name, a literal or something between brackets. -/
def atom : Nat → Input → Option (Expr × Input)
  | 0, _ => none
  | n + 1, ts =>
      match ts with
      | .word "None" :: rest => some (.literal .none, rest)
      | .word "True" :: rest => some (.literal (.bool true), rest)
      | .word "False" :: rest => some (.literal (.bool false), rest)
      | .word w :: rest => if isName w then some (.name (Platform.nameForm w), rest) else none
      | .number value :: rest => some (.literal value, rest)
      | .mark "..." :: rest => some (.literal (.other "Ellipsis"), rest)
      | .mark "(" :: rest => group n rest
      | .mark "[" :: rest => listDisplay n rest
      | .mark "\x7b" :: rest => braces n rest
      | .text _ _ :: _ => texts n ts
      | _ => none
termination_by structural n => n

/-- What follows an opening parenthesis. -/
def group : Nat → Input → Option (Expr × Input)
  | 0, _ => none
  | _ + 1, .mark ")" :: rest => some (.tuple [], rest)
  | n + 1, .word "yield" :: .word "from" :: rest => do
      let (e, rest) ← expression n rest
      let rest ← afterMark? ")" rest
      return (.unsupported .yieldFrom [e], rest)
  | _ + 1, .word "yield" :: .mark ")" :: rest => some (.unsupported .yield [], rest)
  | n + 1, .word "yield" :: rest => do
      let (e, rest) ← yielded n rest
      match rest with
      | .mark ")" :: rest => return (.unsupported .yield [e], rest)
      | rest =>
          let rest ← afterMark? "," rest
          let (es, rest) ← yieldedMore n rest
          return (.unsupported .yield [.tuple (e :: es)], rest)
  | n + 1, ts => do
      let (first, rest) ← item n ts
      let starred := match first with
        | .unsupported .starred _ => true
        | _ => false
      if startsClauses rest && !starred then
        let (parts, rest) ← clauses n rest
        let rest ← afterMark? ")" rest
        return (.unsupported .generator (first :: parts), rest)
      else match rest with
        | .mark ")" :: rest => if starred then none else return (first, rest)
        | rest =>
            let rest ← afterMark? "," rest
            let (more, rest) ← items n ")" rest
            return (.tuple (first :: more), rest)
termination_by structural n => n

/-- A value that is yielded. -/
def yielded : Nat → Input → Option (Expr × Input)
  | 0, _ => none
  | n + 1, .mark "*" :: rest => do
      let (e, rest) ← operation n 0 rest
      return (.unsupported .starred [e], rest)
  | n + 1, ts => expression n ts
termination_by structural n => n

/-- The values that are yielded after the first one. -/
def yieldedMore : Nat → Input → Option (List Expr × Input)
  | 0, _ => none
  | _ + 1, .mark ")" :: rest => some ([], rest)
  | n + 1, ts => do
      let (e, rest) ← yielded n ts
      match rest with
      | .mark ")" :: rest => return ([e], rest)
      | rest =>
          let rest ← afterMark? "," rest
          let (es, rest) ← yieldedMore n rest
          return (e :: es, rest)
termination_by structural n => n

/-- What follows an opening square bracket at the beginning of an atom. -/
def listDisplay : Nat → Input → Option (Expr × Input)
  | 0, _ => none
  | _ + 1, .mark "]" :: rest => some (.list [], rest)
  | n + 1, ts => do
      let (first, rest) ← item n ts
      if startsClauses rest then
        match first with
        | .unsupported .starred _ => none
        | _ =>
            let (parts, rest) ← clauses n rest
            let rest ← afterMark? "]" rest
            return (.unsupported .listComprehension (first :: parts), rest)
      else match rest with
        | .mark "]" :: rest => return (.list [first], rest)
        | rest =>
            let rest ← afterMark? "," rest
            let (more, rest) ← items n "]" rest
            return (.list (first :: more), rest)
termination_by structural n => n

/-- What follows an opening brace. -/
def braces : Nat → Input → Option (Expr × Input)
  | 0, _ => none
  | _ + 1, .mark "\x7d" :: rest => some (.unsupported .dict [], rest)
  | n + 1, .mark "**" :: rest => do
      let (parts, rest) ← dictItems n (.mark "**" :: rest)
      return (.unsupported .dict parts, rest)
  | n + 1, ts => do
      let (first, rest) ← item n ts
      match rest, first with
      | .mark ":" :: _, .unsupported .starred _ => none
      | .mark ":" :: _, .unsupported .assignment _ =>
          -- Only an assignment between parentheses may be a key.
          match ts with
          | .word _ :: .mark ":=" :: _ => none
          | _ => dictDisplay n first rest
      | .mark ":" :: _, _ => dictDisplay n first rest
      | .mark "\x7d" :: rest, _ => return (.unsupported .set [first], rest)
      | rest, _ =>
          if startsClauses rest then
            match first with
            | .unsupported .starred _ => none
            | _ =>
                let (parts, rest) ← clauses n rest
                let rest ← afterMark? "\x7d" rest
                return (.unsupported .setComprehension (first :: parts), rest)
          else
            let rest ← afterMark? "," rest
            let (more, rest) ← items n "\x7d" rest
            return (.unsupported .set (first :: more), rest)
termination_by structural n => n

/-- A dictionary of which the first key has been read. -/
def dictDisplay : Nat → Expr → Input → Option (Expr × Input)
  | 0, _, _ => none
  | n + 1, key, ts => do
      let rest ← afterMark? ":" ts
      let (value, rest) ← expression n rest
      if startsClauses rest then
        let (parts, rest) ← clauses n rest
        let rest ← afterMark? "\x7d" rest
        return (.unsupported .dictComprehension (key :: value :: parts), rest)
      else match rest with
        | .mark "\x7d" :: rest => return (.unsupported .dict [key, value], rest)
        | rest =>
            let rest ← afterMark? "," rest
            let (parts, rest) ← dictItems n rest
            return (.unsupported .dict (key :: value :: parts), rest)
termination_by structural n => n

/-- The items of a dictionary up to the closing brace. -/
def dictItems : Nat → Input → Option (List Expr × Input)
  | 0, _ => none
  | _ + 1, .mark "\x7d" :: rest => some ([], rest)
  | n + 1, ts => do
      let (parts, rest) ← dictItem n ts
      match rest with
      | .mark "\x7d" :: rest => return (parts, rest)
      | rest =>
          let rest ← afterMark? "," rest
          let (more, rest) ← dictItems n rest
          return (parts ++ more, rest)
termination_by structural n => n

/-- An item of a dictionary: two stars and an operation, or a key and a
    value. -/
def dictItem : Nat → Input → Option (List Expr × Input)
  | 0, _ => none
  | n + 1, .mark "**" :: rest => do
      let (e, rest) ← operation n 0 rest
      return ([e], rest)
  | n + 1, ts => do
      let (key, rest) ← expression n ts
      let rest ← afterMark? ":" rest
      let (value, rest) ← expression n rest
      return ([key, value], rest)
termination_by structural n => n

/-- The clauses of a comprehension. -/
def clauses : Nat → Input → Option (List Expr × Input)
  | 0, _ => none
  | n + 1, ts => do
      let rest := (afterWord? "async" ts).getD ts
      let rest ← afterWord? "for" rest
      let (bound, rest) ← targets n rest
      let rest ← afterWord? "in" rest
      let (source, rest) ← disjunction n rest
      let (tests, rest) ← conditions n rest
      if startsClauses rest then
        let (more, rest) ← clauses n rest
        return (bound ++ source :: tests ++ more, rest)
      else return (bound ++ source :: tests, rest)
termination_by structural n => n

/-- The conditions of a clause. -/
def conditions : Nat → Input → Option (List Expr × Input)
  | n + 1, .word "if" :: rest => do
      let (e, rest) ← disjunction n rest
      let (es, rest) ← conditions n rest
      return (e :: es, rest)
  | _, ts => some ([], ts)
termination_by structural n => n

/-- The variables of a clause. -/
def targets : Nat → Input → Option (List Expr × Input)
  | 0, _ => none
  | n + 1, ts => do
      let (e, rest) ← primary n ((afterMark? "*" ts).getD ts)
      if !isTarget e then none
      else match rest with
        | .mark "," :: .word "in" :: rest => return ([e], .word "in" :: rest)
        | .mark "," :: rest =>
            let (es, rest) ← targets n rest
            return (e :: es, rest)
        | rest => return ([e], rest)
termination_by structural n => n

/-- What follows the opening parenthesis of a call: positional arguments and
    the values of keyword arguments. -/
def call : Nat → Input → Option (List Expr × List Expr × Input)
  | 0, _ => none
  | n + 1, ts => do
      match ts with
      | .mark "*" :: _ => arguments n 0 ts
      | .mark "**" :: _ => arguments n 0 ts
      | .mark ")" :: _ => arguments n 0 ts
      | .word _ :: .mark "=" :: _ => arguments n 0 ts
      | _ =>
          let (first, rest) ← named n ts
          if startsClauses rest then
            let (parts, rest) ← clauses n rest
            let rest ← afterMark? ")" rest
            return ([.unsupported .generator (first :: parts)], [], rest)
          else match rest with
            | .mark ")" :: rest => return ([first], [], rest)
            | rest =>
                let rest ← afterMark? "," rest
                let (positional, keywords, rest) ← arguments n 0 rest
                return (first :: positional, keywords, rest)
termination_by structural n => n

/-- The arguments up to the closing parenthesis. After a keyword argument
    (`phase` one) no positional argument may follow, and after an argument
    with two stars (`phase` two) none with one star. -/
def arguments : Nat → Nat → Input → Option (List Expr × List Expr × Input)
  | 0, _, _ => none
  | _ + 1, _, .mark ")" :: rest => some ([], [], rest)
  | n + 1, phase, ts => do
      let (isKeyword, e, phase, rest) ← argument n phase ts
      let rest ← match rest with
        | .mark "," :: rest => some rest
        | .mark ")" :: rest => some (.mark ")" :: rest)
        | _ => none
      let (positional, keywords, rest) ← arguments n phase rest
      if isKeyword then return (positional, e :: keywords, rest)
      else return (e :: positional, keywords, rest)
termination_by structural n => n

/-- An argument: whether it is a keyword argument, its value, and the phase
    after it. -/
def argument : Nat → Nat → Input → Option (Bool × Expr × Nat × Input)
  | 0, _, _ => none
  | n + 1, phase, .mark "**" :: rest => do
      let (e, rest) ← expression n rest
      return (true, e, max phase 2, rest)
  | n + 1, phase, .mark "*" :: rest =>
      if phase = 2 then none
      else do
        let (e, rest) ← expression n rest
        return (false, .unsupported .starred [e], phase, rest)
  | n + 1, phase, .word w :: .mark "=" :: rest =>
      if isName w then do
        let (e, rest) ← expression n rest
        return (true, e, max phase 1, rest)
      else none
  | n + 1, phase, ts =>
      if phase = 0 then do
        let (e, rest) ← named n ts
        return (false, e, 0, rest)
      else none
termination_by structural n => n

/-- What follows the opening bracket of a subscript. -/
def subscripts : Nat → Input → Option (Expr × Input)
  | 0, _ => none
  | n + 1, ts => do
      let (first, rest) ← subscript n ts
      match rest, first with
      | .mark "]" :: rest, .unsupported .starred _ => return (.tuple [first], rest)
      | .mark "]" :: rest, _ => return (first, rest)
      | rest, _ =>
          let rest ← afterMark? "," rest
          let (more, rest) ← subscriptsMore n rest
          return (.tuple (first :: more), rest)
termination_by structural n => n

/-- The items of a subscript after the first one. -/
def subscriptsMore : Nat → Input → Option (List Expr × Input)
  | 0, _ => none
  | _ + 1, .mark "]" :: rest => some ([], rest)
  | n + 1, ts => do
      let (e, rest) ← subscript n ts
      match rest with
      | .mark "]" :: rest => return ([e], rest)
      | rest =>
          let rest ← afterMark? "," rest
          let (es, rest) ← subscriptsMore n rest
          return (e :: es, rest)
termination_by structural n => n

/-- An item of a subscript: an expression or a slice. -/
def subscript : Nat → Input → Option (Expr × Input)
  | 0, _ => none
  | n + 1, .mark "*" :: rest => do
      let (e, rest) ← expression n rest
      return (.unsupported .starred [e], rest)
  | n + 1, .mark ":" :: rest => sliceAfter n none rest
  | n + 1, ts => do
      let (e, rest) ← named n ts
      match rest, ts with
      | .mark ":" :: _, .word _ :: .mark ":=" :: _ => none
      | .mark ":" :: rest, _ => sliceAfter n (some e) rest
      | rest, _ => return (e, rest)
termination_by structural n => n

/-- A slice after its first colon. -/
def sliceAfter : Nat → Option Expr → Input → Option (Expr × Input)
  | 0, _, _ => none
  | n + 1, lower, ts => do
      let (upper, rest) ← bound n ts
      match rest with
      | .mark ":" :: rest =>
          let (step, rest) ← bound n rest
          return (.slice lower upper step, rest)
      | rest => return (.slice lower upper none, rest)
termination_by structural n => n

/-- A part of a slice, which may be missing. -/
def bound : Nat → Input → Option (Option Expr × Input)
  | 0, _ => none
  | n + 1, ts =>
      match ts with
      | .mark ":" :: _ => some (none, ts)
      | .mark "," :: _ => some (none, ts)
      | .mark "]" :: _ => some (none, ts)
      | _ => do
          let (e, rest) ← expression n ts
          return (some e, rest)
termination_by structural n => n

/-- The parameters of a function up to the colon; of them only the defaults
    are expressions. -/
def parameters : Nat → ParameterState → Input → Option (List Expr × Input)
  | 0, _, _ => none
  | n + 1, s, ts =>
      match ts with
      | .mark ":" :: rest => if s.bare then none else some ([], rest)
      | .mark "/" :: rest =>
          if s.takesSlash then do
            let rest ← afterParameter? rest
            parameters n { s with slash := true } rest
          else none
      | .mark "**" :: .word w :: rest =>
          if isName w && !s.bare then
            match rest with
            | .mark "," :: .mark ":" :: rest => some ([], rest)
            | .mark ":" :: rest => some ([], rest)
            | _ => none
          else none
      | .mark "*" :: .mark "," :: rest =>
          if s.star then none
          else parameters n { s with star := true, bare := true } rest
      | .mark "*" :: .word w :: rest =>
          if isName w && !s.star then do
            let rest ← afterParameter? rest
            parameters n { s with star := true } rest
          else none
      | .word w :: .mark "=" :: rest =>
          if isName w then do
            let (e, rest) ← expression n rest
            let rest ← afterParameter? rest
            let (es, rest) ← parameters n (s.after true) rest
            return (e :: es, rest)
          else none
      | .word w :: rest =>
          if isName w && (s.star || !s.defaulted) then do
            let rest ← afterParameter? rest
            parameters n (s.after false) rest
          else none
      | _ => none
termination_by structural n => n

/-- Text literals in a row, which are one literal. -/
def texts : Nat → Input → Option (Expr × Input)
  | 0, _ => none
  | n + 1, ts => do
      let isText : Lexeme → Option (TextFlags × List Char)
        | .text flags body => some (flags, body)
        | _ => none
      let literals := (ts.takeWhile fun t => (isText t).isSome).filterMap isText
      let rest := ts.drop literals.length
      if literals.all (·.1.bytes) then
        let bytes ← literals.mapM fun (flags, body) => TextLiteral.bytes? flags.raw body
        return (.literal (.other (Text.quotedBytes bytes.flatten)), rest)
      else if literals.any (·.1.bytes) then none
      else if literals.any (·.1.formatted) then
        let parts ← formattedTexts n literals
        return (.unsupported .formatted parts, rest)
      else
        let chars ← literals.mapM fun (flags, body) => TextLiteral.text? flags.raw body
        return (.literal (.text (String.ofList chars.flatten)), rest)
termination_by structural n => n

/-- The fields of text literals in a row. -/
def formattedTexts : Nat → List (TextFlags × List Char) → Option (List Expr)
  | 0, _ => none
  | _, [] => some []
  | n + 1, (flags, body) :: more => do
      let fields ←
        if flags.formatted then do
          let (fields, after) ← formatted n flags.raw 0 body
          if after.isEmpty then some fields else none
        else do
          let _ ← TextLiteral.text? flags.raw body
          some []
      let others ← formattedTexts n more
      return fields ++ others
termination_by structural n => n

/-- The fields of a formatted text, up to its end or, inside of a field, up to
    the brace that closes the field. -/
def formatted : Nat → Bool → Nat → List Char → Option (List Expr × List Char)
  | 0, _, _, _ => none
  | n + 1, raw, level, text => do
      let (plain, rest, doubled) ← spanPlain raw (level == 0) false text
      let _ ← TextLiteral.text? raw plain
      if doubled then formatted n raw level rest
      else match rest with
        | [] => if level = 0 then some ([], []) else none
        | c :: after =>
            if c == '\x7d' then some ([], rest)
            else do
              let (fields, rest) ← field n raw level after
              let (more, rest) ← formatted n raw level rest
              return (fields ++ more, rest)
termination_by structural n => n

/-- A field after its opening brace. Fields inside of fields may not hold
    fields in turn. -/
def field : Nat → Bool → Nat → List Char → Option (List Expr × List Char)
  | 0, _, _, _ => none
  | n + 1, raw, level, text =>
      if 2 ≤ level then none
      else do
        let (chars, rest) ← spanField ⟨[], none, 0⟩ text
        if chars.all fun c => c == ' ' || c == '\t' || c == '\n' || c == '\x0c' then none
        else
          let lexemes ← Lexeme.ofText? ('(' :: chars ++ [')'])
          let (e, left) ← group n (lexemes.drop 1)
          if !left.isEmpty then none
          else
            let rest ← afterConversion? (afterEquals rest)
            match rest with
            | ':' :: spec =>
                let (inner, rest) ← formatted n raw (level + 1) spec
                match rest with
                | _ :: rest => return (e :: inner, rest)
                | [] => none
            | c :: rest => if c == '\x7d' then return ([e], rest) else none
            | [] => none
termination_by structural n => n

end

/-- Expressions separated by commas, which make a tuple. -/
def expressions : Nat → Input → Option (List Expr)
  | 0, _ => none
  | n + 1, ts => do
      let (e, rest) ← expression n ts
      match rest with
      | [] => return [e]
      | [.mark ","] => return [e]
      | rest =>
          let rest ← afterMark? "," rest
          let es ← expressions n rest
          return e :: es

/-- Whether the lexemes end with a comma. -/
def endsWithComma (ts : Input) : Bool :=
  match ts.getLast? with
  | some (.mark ",") => true
  | _ => false

end Grammar

/-- The expression that a text spells, `none` if it spells none. -/
def Expr.parse? [Platform] (text : String) : Option Expr := do
  let chars := Text.trim text.toList
  let lexemes ← Lexeme.ofText? chars
  let es ← Grammar.expressions (40 * (chars.length + 2)) lexemes
  match es with
  | [e] => return if Grammar.endsWithComma lexemes then .tuple [e] else e
  | es => return .tuple es

end MiniLisp.Host
