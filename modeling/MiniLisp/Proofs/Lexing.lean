import MiniLisp.Token.Lexer

/-! # Cutting text into tokens, piece by piece

    What the first piece of a text is depends on its first character and on
    where the piece ends. The lemmas here say for each kind of piece where that
    is, for a piece that is followed by arbitrary text.

    * **`Token.EndsWord`** — texts that a symbol or a number does not run into;
    * **`Token.scanFrom_cut`** — the first piece, then the rest;
    * **`Token.scanFrom_separator`** — separators only count lines. -/

namespace MiniLisp.Token

/-! ## One piece at a time -/

/-- The tokens of a text are those of its first piece and those of the rest. -/
theorem scanFrom_cut {line : Nat} {c : Char} {rest after : List Char} {piece : Piece}
    (h : cut? c rest = some (piece, after)) :
    scanFrom line (c :: rest) =
      (scanFrom (piece.lineAfter line) after).map ((piece.token? line).toList ++ ·) := by
  rw [scanFrom]
  split
  · next hnone =>
    rw [h] at hnone
    cases hnone
  · next piece' after' hsome =>
    rw [h] at hsome
    cases hsome
    cases scanFrom (piece.lineAfter line) after <;> rfl

theorem scanFrom_nil (line : Nat) : scanFrom line [] = .ok [] := by
  rw [scanFrom]

/-- A piece that is no token leaves the tokens after it as they are. -/
theorem scanFrom_gap {line : Nat} {c : Char} {rest gap after : List Char}
    (h : cut? c rest = some (.gap gap, after)) :
    scanFrom line (c :: rest) = scanFrom (line + gap.count '\n') after := by
  rw [scanFrom_cut h, Piece.lineAfter, Piece.source]
  cases scanFrom (line + gap.count '\n') after <;> rfl

/-! ## Separators -/

theorem cut?_separator {c : Char} (hc : isSeparator c = true) (rest : List Char) :
    cut? c rest = some (.gap (c :: rest.takeWhile isSeparator), rest.dropWhile isSeparator) := by
  unfold cut?
  split <;> simp_all [isSeparator]

/-- A separator is skipped; a line feed counts as a line. -/
theorem scanFrom_separator {c : Char} (hc : isSeparator c = true) (line : Nat)
    (rest : List Char) :
    scanFrom line (c :: rest) = scanFrom (line + [c].count '\n') rest := by
  rw [scanFrom_gap (cut?_separator hc rest)]
  cases rest with
  | nil => rfl
  | cons d rest =>
    -- A run of separators is one gap, so the rest of a longer run is a gap, too.
    by_cases hd : isSeparator d = true
    · rw [scanFrom_gap (cut?_separator hd rest), List.takeWhile_cons, if_pos hd,
        List.dropWhile_cons, if_pos hd, ← List.singleton_append (x := c), List.count_append,
        Nat.add_assoc]
    · rw [List.takeWhile_cons, if_neg hd, List.dropWhile_cons, if_neg hd]

/-! ## Words -/

/-- The text is empty or begins with a separator or a parenthesis: a symbol or
    a number before it ends where the text begins. -/
def EndsWord (rest : List Char) : Prop :=
  ∀ c ∈ rest.head?, isSymbolChar c = false

theorem endsWord_nil : EndsWord [] := by
  intro c hc
  cases hc

theorem endsWord_cons {c : Char} (hc : isSymbolChar c = false) (rest : List Char) :
    EndsWord (c :: rest) := by
  intro d hd
  cases hd
  exact hc

/-- A maximal run of characters is cut off where the first other one stands. -/
theorem takeWhile_run {p : Char → Bool} {run rest : List Char} (hrun : ∀ c ∈ run, p c = true)
    (hrest : ∀ c ∈ rest.head?, p c = false) : (run ++ rest).takeWhile p = run := by
  rw [List.takeWhile_append_of_pos hrun]
  cases rest with
  | nil => simp
  | cons c rest => simp [hrest c rfl]

theorem dropWhile_run {p : Char → Bool} {run rest : List Char} (hrun : ∀ c ∈ run, p c = true)
    (hrest : ∀ c ∈ rest.head?, p c = false) : (run ++ rest).dropWhile p = rest := by
  rw [List.dropWhile_append_of_pos hrun]
  cases rest with
  | nil => rfl
  | cons c rest => simp [hrest c rfl]

/-- What ends a symbol ends a number, too. -/
theorem not_isNumberChar_of_not_isSymbolChar {c : Char} (h : isSymbolChar c = false) :
    isNumberChar c = false := by
  have hcases : c ∈ [' ', '\t', '\r', '\n', '(', ')'] := by
    simp [isSymbolChar, isSeparator] at h ⊢
    grind
  simp only [List.mem_cons, List.not_mem_nil, or_false] at hcases
  rcases hcases with rfl | rfl | rfl | rfl | rfl | rfl <;> decide

/-- The characters that are or begin a piece of their own. -/
def isSpecial (c : Char) : Bool :=
  c ∈ ['(', ')', '\'', '\x60', ',', ';', '"']

/-- Any other character begins a run of characters of its class. -/
theorem cut?_run {c : Char} (hc : isSpecial c = false) (hsep : isSeparator c = false)
    (rest : List Char) :
    cut? c rest =
      if isNumberChar c then
        some (.plain .number (c :: rest.takeWhile isNumberChar), rest.dropWhile isNumberChar)
      else some (.plain (symbolKind (c :: rest.takeWhile isSymbolChar))
        (c :: rest.takeWhile isSymbolChar), rest.dropWhile isSymbolChar) := by
  unfold cut?
  split <;> simp_all [isSpecial]

theorem cut?_symbol {c : Char} {run rest : List Char} (hc : isSpecial c = false)
    (hnumber : isNumberChar c = false) (hrun : ∀ d ∈ c :: run, isSymbolChar d = true)
    (hrest : EndsWord rest) :
    cut? c (run ++ rest) = some (.plain (symbolKind (c :: run)) (c :: run), rest) := by
  have hsep : isSeparator c = false := by
    have hsymbol := hrun c List.mem_cons_self
    simp [isSymbolChar] at hsymbol
    exact hsymbol.1.1
  have htail : ∀ d ∈ run, isSymbolChar d = true := fun d hd => hrun d (List.mem_cons_of_mem _ hd)
  rw [cut?_run hc hsep, if_neg (by simp [hnumber]), takeWhile_run htail hrest,
    dropWhile_run htail hrest]

/-- A number goes on over digits and points only. -/
theorem cut?_numberRun {c : Char} {run rest : List Char}
    (hrun : ∀ d ∈ c :: run, isNumberChar d = true)
    (hend : ∀ d ∈ rest.head?, isNumberChar d = false) :
    cut? c (run ++ rest) = some (.plain .number (c :: run), rest) := by
  have hc : isNumberChar c = true := hrun c List.mem_cons_self
  have hspecial : isSpecial c = false := by
    cases h : isSpecial c with
    | false => rfl
    | true =>
      simp [isSpecial] at h
      rcases h with rfl | rfl | rfl | rfl | rfl | rfl | rfl <;> exact absurd hc (by decide)
  have hsep : isSeparator c = false := by
    cases h : isSeparator c with
    | false => rfl
    | true =>
      simp [isSeparator] at h
      rcases h with ((rfl | rfl) | rfl) | rfl <;> exact absurd hc (by decide)
  have htail : ∀ d ∈ run, isNumberChar d = true := fun d hd => hrun d (List.mem_cons_of_mem _ hd)
  rw [cut?_run hspecial hsep, if_pos hc, takeWhile_run htail hend, dropWhile_run htail hend]

theorem cut?_number {c : Char} {run rest : List Char}
    (hrun : ∀ d ∈ c :: run, isNumberChar d = true) (hrest : EndsWord rest) :
    cut? c (run ++ rest) = some (.plain .number (c :: run), rest) := by
  refine cut?_numberRun hrun ?_
  intro d hd
  exact not_isNumberChar_of_not_isSymbolChar (hrest d hd)

/-! ## Strings -/

/-- A body without quotes and backslashes ends at the first quote after it. -/
theorem splitString_plain {body : List Char} (hquote : '"' ∉ body) (hslash : '\\' ∉ body)
    (rest : List Char) : splitString (body ++ '"' :: rest) = some (body, rest) := by
  induction body with
  | nil => simp [splitString]
  | cons c body ih =>
    simp only [List.mem_cons, not_or] at hquote hslash
    rw [List.cons_append]
    unfold splitString
    split <;> simp_all

/-- Such a body stands for itself. -/
theorem unescape_plain {body : List Char} (hslash : '\\' ∉ body) : unescape body = body := by
  induction body with
  | nil => simp [unescape]
  | cons c body ih =>
    simp only [List.mem_cons, not_or] at hslash
    unfold unescape
    split <;> simp_all

end MiniLisp.Token
