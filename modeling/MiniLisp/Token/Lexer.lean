import MiniLisp.Token

/-! # From text to tokens

    The text is cut into pieces from left to right. The first character of a
    piece decides what it is:

    * separators and comments stand between tokens;
    * parentheses and the four abbreviations are tokens by themselves;
    * a double quote begins a string, which ends at the next double quote that
      no unpaired backslash precedes;
    * a digit or a point begins a number, which goes on over digits and points;
    * everything else begins a symbol, which goes on to the next separator or
      parenthesis.

    Only a string without an end is refused.
-/

namespace MiniLisp.Token

/-! ## Classes of characters -/

/-- Separators: space, tab, carriage return and line feed. -/
def isSeparator (c : Char) : Bool :=
  c == ' ' || c == '\t' || c == '\r' || c == '\n'

/-- The characters of a number: digits and the point. -/
def isNumberChar (c : Char) : Bool :=
  c.isDigit || c == '.'

/-- The characters of a symbol after its first one. -/
def isSymbolChar (c : Char) : Bool :=
  !isSeparator c && c != '(' && c != ')'

/-! ## Strings -/

/-- Splits the text after an opening quote at the closing one. A backslash
    takes the next character with it. -/
def splitString : List Char → Option (List Char × List Char)
  | [] => none
  | '"' :: rest => some ([], rest)
  | ['\\'] => none
  | '\\' :: c :: rest => (splitString rest).map fun (body, after) => ('\\' :: c :: body, after)
  | c :: rest => (splitString rest).map fun (body, after) => (c :: body, after)

/-- The text that the body of a string stands for. A backslash before any
    character but the four that can be escaped stands for itself. -/
def unescape : List Char → List Char
  | '\\' :: c :: rest =>
      match c with
      | 'n' => '\n' :: unescape rest
      | 't' => '\t' :: unescape rest
      | '"' => '"' :: unescape rest
      | '\\' => '\\' :: unescape rest
      | c => '\\' :: c :: unescape rest
  | c :: rest => c :: unescape rest
  | [] => []

/-! ## Pieces -/

/-- What a text begins with. -/
inductive Piece where
  /-- Separators, or a comment up to the end of its line. -/
  | gap (text : List Char)
  /-- A token whose text is its spelling. -/
  | plain (kind : TokenKind) (text : List Char)
  /-- A string with the given body. -/
  | string (body : List Char)
  deriving Repr

/-- The characters that a piece was cut from. -/
def Piece.source : Piece → List Char
  | .gap text => text
  | .plain _ text => text
  | .string body => '"' :: (body ++ ['"'])

/-- The kind of a symbol: three names are reserved. -/
def symbolKind (name : List Char) : TokenKind :=
  if name = "true".toList ∨ name = "false".toList then .boolean
  else if name = "nil".toList then .nil
  else .symbol

/-- The first piece of a text that begins with `c`, and what follows the
    piece; `none` if the piece is a string without an end. -/
def cut? (c : Char) (rest : List Char) : Option (Piece × List Char) :=
  match c with
  | '(' => some (.plain .openParen ['('], rest)
  | ')' => some (.plain .closeParen [')'], rest)
  | '\'' => some (.plain .quote ['\''], rest)
  | '\x60' => some (.plain .backquote ['\x60'], rest)
  | ',' =>
      match rest with
      | '@' :: after => some (.plain .unquoteSplice [',', '@'], after)
      | _ => some (.plain .unquote [','], rest)
  | ';' => some (.gap (';' :: rest.takeWhile (· != '\n')), rest.dropWhile (· != '\n'))
  | '"' => (splitString rest).map fun (body, after) => (.string body, after)
  | c =>
      if isSeparator c then
        some (.gap (c :: rest.takeWhile isSeparator), rest.dropWhile isSeparator)
      else if isNumberChar c then
        some (.plain .number (c :: rest.takeWhile isNumberChar), rest.dropWhile isNumberChar)
      else
        let name := c :: rest.takeWhile isSymbolChar
        some (.plain (symbolKind name) name, rest.dropWhile isSymbolChar)

/-! ### Nothing is lost -/

theorem source_splitString {text body after : List Char}
    (h : splitString text = some (body, after)) : body ++ '"' :: after = text := by
  fun_induction splitString text generalizing body after with
  | case1 => simp at h
  | case2 rest => simp at h; simp [h]
  | case3 => simp at h
  | case4 c rest ih =>
    obtain ⟨⟨b, a⟩, hb, he⟩ := Option.map_eq_some_iff.1 h
    obtain ⟨rfl, rfl⟩ := Prod.mk.inj he
    simp [ih hb]
  | case5 c rest _ _ _ ih =>
    obtain ⟨⟨b, a⟩, hb, he⟩ := Option.map_eq_some_iff.1 h
    obtain ⟨rfl, rfl⟩ := Prod.mk.inj he
    simp [ih hb]

/-- A piece and what follows it are the text it was cut from. -/
theorem source_cut? {c : Char} {rest after : List Char} {piece : Piece}
    (h : cut? c rest = some (piece, after)) : piece.source ++ after = c :: rest := by
  unfold cut? at h
  split at h
  · cases h; rfl
  · cases h; rfl
  · cases h; rfl
  · cases h; rfl
  · split at h <;> cases h <;> rfl
  · cases h; simp [Piece.source]
  · obtain ⟨⟨b, a⟩, hb, he⟩ := Option.map_eq_some_iff.1 h
    obtain ⟨rfl, rfl⟩ := Prod.mk.inj he
    simp [Piece.source, source_splitString hb]
  · split at h
    · cases h; simp [Piece.source]
    · split at h <;> cases h <;> simp [Piece.source]

/-- What follows a piece is shorter than the text. -/
theorem length_lt_of_cut? {c : Char} {rest after : List Char} {piece : Piece}
    (h : cut? c rest = some (piece, after)) : after.length < (c :: rest).length := by
  have hsource := source_cut? h
  have hlen := congrArg List.length hsource
  have hpos : 0 < piece.source.length := by
    unfold cut? at h
    split at h
    · cases h; simp [Piece.source]
    · cases h; simp [Piece.source]
    · cases h; simp [Piece.source]
    · cases h; simp [Piece.source]
    · split at h <;> cases h <;> simp [Piece.source]
    · cases h; simp [Piece.source]
    · obtain ⟨⟨b, a⟩, hb, he⟩ := Option.map_eq_some_iff.1 h
      obtain ⟨rfl, rfl⟩ := Prod.mk.inj he
      simp [Piece.source]
    · split at h
      · cases h; simp [Piece.source]
      · split at h <;> cases h <;> simp [Piece.source]
  simp only [List.length_append] at hlen
  omega

/-! ## The tokens of a text -/

/-- The token that a piece on the given line is. -/
def Piece.token? (line : Nat) : Piece → Option Token
  | .gap _ => none
  | .plain kind text => some ⟨kind, some (String.ofList text), line⟩
  | .string body => some ⟨.string, some (String.ofList (unescape body)), line⟩

/-- The line after a piece that begins on the given line. -/
def Piece.lineAfter (line : Nat) (piece : Piece) : Nat :=
  line + piece.source.count '\n'

/-- The tokens of the text from the given line on. -/
def scanFrom (line : Nat) (text : List Char) : Except ReadError (List Token) :=
  match text with
  | [] => .ok []
  | c :: rest =>
    match _h : cut? c rest with
    | none => .error (.openString line)
    | some (piece, after) =>
      match scanFrom (piece.lineAfter line) after with
      | .error e => .error e
      | .ok tokens => .ok ((piece.token? line).toList ++ tokens)
termination_by text.length
decreasing_by exact length_lt_of_cut? _h

/-- The tokens of a text. -/
def scan (text : String) : Except ReadError (List Token) :=
  scanFrom 1 text.toList

end MiniLisp.Token
