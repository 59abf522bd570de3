import MiniLisp.Proofs.Lexing
import Mathlib.Data.List.TakeWhile

/-! # The lexical grammar

    A text is a sequence of lexemes with gaps between them, before the first
    and after the last one. The grammar says what a gap and a lexeme are and
    how far each of them goes, without a word on how they are found; tokens are
    the lexemes in order, each with the line it stands on.

    The scanner finds the tokens of this grammar. It fails on the texts that
    hold a string without an end where a lexeme should begin, and on no other
    text; so every text is of exactly one of the two sorts.

    * **`IsGap`**, **`IsLexeme`** — the parts of a text;
    * **`Splits`** — a text is gaps and lexemes, the tokens being given;
    * **`Unclosed`** — a text is gaps and lexemes up to a string without an end;
    * **`scan_iff_splits`** — the scanner follows the grammar. -/

namespace MiniLisp.Token

/-! ## Gaps -/

/-- A run of separators and comments in front of the given text. A comment goes
    up to the next line feed or to the end of the text. -/
inductive IsGap : List Char → List Char → Prop where
  | nil (rest : List Char) : IsGap [] rest
  | separator {c : Char} {gap rest : List Char} (hc : isSeparator c = true)
      (hgap : IsGap gap rest) : IsGap (c :: gap) rest
  | comment {text gap rest : List Char} (htext : '\n' ∉ text)
      (hend : ∀ c ∈ (gap ++ rest).head?, c = '\n') (hgap : IsGap gap rest) :
      IsGap (';' :: text ++ gap) rest

/-! ## Strings -/

/-- The number of backslashes at the end of a text. -/
def trailingBackslashes (text : List Char) : Nat :=
  (text.reverse.takeWhile (· == '\\')).length

/-- The last backslash of the text is not paired with one before it, so that it
    would take the next character with it. -/
def EndsUnpaired (text : List Char) : Prop :=
  trailingBackslashes text % 2 = 1

/-- The text between a double quote and the first one after it that no unpaired
    backslash precedes. -/
structure IsBody (body : List Char) : Prop where
  closed : ¬ EndsUnpaired body
  first : ∀ before after, body = before ++ '"' :: after → EndsUnpaired before

/-- The characters that a letter after a backslash stands for. -/
def escaped? : Char → Option Char
  | 'n' => some '\n'
  | 't' => some '\t'
  | '"' => some '"'
  | '\\' => some '\\'
  | _ => none

/-- The text that a body stands for: the four escapes are replaced, and a
    backslash before any other character stands for itself. -/
inductive Decodes : List Char → List Char → Prop where
  | nil : Decodes [] []
  | plain {c : Char} {body value : List Char} (hc : c ≠ '\\') (h : Decodes body value) :
      Decodes (c :: body) (c :: value)
  | escape {c d : Char} {body value : List Char} (hc : escaped? c = some d)
      (h : Decodes body value) : Decodes ('\\' :: c :: body) (d :: value)
  | other {c : Char} {body value : List Char} (hc : escaped? c = none)
      (h : Decodes body value) : Decodes ('\\' :: c :: body) ('\\' :: c :: value)

/-! ## Lexemes -/

/-- The text begins no lexeme of another kind: it is no parenthesis, no
    abbreviation, no double quote, no digit, no point, and begins no comment. -/
def BeginsSymbol (c : Char) : Prop :=
  isSpecial c = false ∧ isNumberChar c = false

/-- A lexeme in front of the given text, with the kind and the value of its
    token. The first character decides what it is; numbers and symbols go on as
    long as they can. -/
inductive IsLexeme : List Char → List Char → TokenKind → List Char → Prop where
  | openParen (rest : List Char) : IsLexeme ['('] rest .openParen ['(']
  | closeParen (rest : List Char) : IsLexeme [')'] rest .closeParen [')']
  | unquoteSplice (rest : List Char) : IsLexeme [',', '@'] rest .unquoteSplice [',', '@']
  | unquote {rest : List Char} (h : rest.head? ≠ some '@') : IsLexeme [','] rest .unquote [',']
  | quote (rest : List Char) : IsLexeme ['\''] rest .quote ['\'']
  | backquote (rest : List Char) : IsLexeme ['\x60'] rest .backquote ['\x60']
  | string {body value : List Char} (rest : List Char) (hbody : IsBody body)
      (hvalue : Decodes body value) : IsLexeme ('"' :: (body ++ ['"'])) rest .string value
  | number {c : Char} {run rest : List Char} (hrun : ∀ d ∈ c :: run, isNumberChar d = true)
      (hend : ∀ d ∈ rest.head?, isNumberChar d = false) :
      IsLexeme (c :: run) rest .number (c :: run)
  | symbol {c : Char} {run rest : List Char} (hc : BeginsSymbol c)
      (hrun : ∀ d ∈ c :: run, isSymbolChar d = true)
      (hend : ∀ d ∈ rest.head?, isSymbolChar d = false) :
      IsLexeme (c :: run) rest (symbolKind (c :: run)) (c :: run)

/-! ## Texts -/

/-- The line of what stands after the given text. -/
def lineAfter (before : List Char) : Nat :=
  1 + before.count '\n'

/-- The text that follows `before` is a gap, a lexeme, a gap and so on up to a
    last gap, and these are the tokens of its lexemes. -/
inductive Splits : List Char → List Char → List Token → Prop where
  | done {before gap : List Char} (hgap : IsGap gap []) : Splits before gap []
  | token {before gap lexeme rest value : List Char} {kind : TokenKind} {tokens : List Token}
      (hgap : IsGap gap (lexeme ++ rest)) (hlexeme : IsLexeme lexeme rest kind value)
      (hrest : Splits (before ++ gap ++ lexeme) rest tokens) :
      Splits before (gap ++ (lexeme ++ rest))
        (⟨kind, some (String.ofList value), lineAfter (before ++ gap)⟩ :: tokens)

/-- The text that follows `before` is gaps and lexemes up to a double quote on
    the given line, and no double quote after that one closes it. -/
inductive Unclosed : List Char → List Char → Nat → Prop where
  | here {before gap rest : List Char} (hgap : IsGap gap ('"' :: rest))
      (hopen : ∀ body after, rest = body ++ '"' :: after → EndsUnpaired body) :
      Unclosed before (gap ++ '"' :: rest) (lineAfter (before ++ gap))
  | later {before gap lexeme rest value : List Char} {kind : TokenKind} {line : Nat}
      (hgap : IsGap gap (lexeme ++ rest)) (hlexeme : IsLexeme lexeme rest kind value)
      (hrest : Unclosed (before ++ gap ++ lexeme) rest line) :
      Unclosed before (gap ++ (lexeme ++ rest)) line

/-! ## Where strings end

    A character that no backslash takes with it changes nothing about the
    backslashes at the end of what follows, and neither does a backslash with
    the character it takes. So the parity at the end of a text can be followed
    from its beginning, which is how the scanner goes through a string. -/

theorem trailingBackslashes_le (text : List Char) :
    trailingBackslashes text ≤ text.length := by
  have hle := (text.reverse.takeWhile_prefix (p := (· == '\\'))).length_le
  rwa [List.length_reverse] at hle

/-- A character in front counts only if it is a backslash and nothing but
    backslashes follow it. -/
theorem trailingBackslashes_cons (c : Char) (text : List Char) :
    trailingBackslashes (c :: text) =
      if trailingBackslashes text = text.length ∧ c = '\\' then text.length + 1
      else trailingBackslashes text := by
  unfold trailingBackslashes
  rw [List.reverse_cons, List.takeWhile_append, List.length_reverse]
  by_cases hall : (text.reverse.takeWhile (· == '\\')).length = text.length
  · by_cases hc : c = '\\'
    · simp [hall, hc]
    · simp [hall, hc]
  · simp [hall]

theorem not_endsUnpaired_nil : ¬ EndsUnpaired [] := by
  simp [EndsUnpaired, trailingBackslashes]

theorem endsUnpaired_backslash : EndsUnpaired ['\\'] := by
  simp [EndsUnpaired, trailingBackslashes]

theorem endsUnpaired_cons {c : Char} (hc : c ≠ '\\') (text : List Char) :
    EndsUnpaired (c :: text) ↔ EndsUnpaired text := by
  have hcount : trailingBackslashes (c :: text) = trailingBackslashes text := by
    rw [trailingBackslashes_cons, if_neg fun h => hc h.2]
  rw [EndsUnpaired, hcount, EndsUnpaired]

/-- A backslash and the character after it are two more backslashes at the end,
    or none. -/
theorem endsUnpaired_pair (c : Char) (text : List Char) :
    EndsUnpaired ('\\' :: c :: text) ↔ EndsUnpaired text := by
  have hle := trailingBackslashes_le text
  unfold EndsUnpaired
  rw [trailingBackslashes_cons, trailingBackslashes_cons, List.length_cons]
  -- The two characters count only if all of the text is backslashes.
  by_cases hall : trailingBackslashes text = text.length
  · by_cases hc : c = '\\'
    · simp only [hall, hc, and_self, if_true]
      omega
    · have hne : ¬ text.length = text.length + 1 := by omega
      simp [hall, hc]
  · have hne : ¬ trailingBackslashes text = text.length + 1 := by omega
    simp [hall, hne]

/-- What a character other than a backslash and a quote does to a body. -/
theorem isBody_cons {c : Char} (hquote : c ≠ '"') (hslash : c ≠ '\\') {body : List Char} :
    IsBody (c :: body) ↔ IsBody body := by
  constructor
  · intro h
    refine ⟨?_, ?_⟩
    · intro hunpaired
      exact h.closed ((endsUnpaired_cons hslash body).2 hunpaired)
    · intro before after hbody
      have hlonger := h.first (c :: before) after (by rw [hbody, List.cons_append])
      exact (endsUnpaired_cons hslash before).1 hlonger
  · intro h
    refine ⟨?_, ?_⟩
    · intro hunpaired
      exact h.closed ((endsUnpaired_cons hslash body).1 hunpaired)
    · intro before after hbody
      cases before with
      | nil => exact absurd (List.cons.inj hbody).1 hquote
      | cons d before =>
        obtain ⟨rfl, hrest⟩ := List.cons.inj hbody
        exact (endsUnpaired_cons hslash before).2 (h.first before after hrest)

/-- A backslash takes the next character with it, be it a quote. -/
theorem isBody_pair (c : Char) {body : List Char} :
    IsBody ('\\' :: c :: body) ↔ IsBody body := by
  constructor
  · intro h
    refine ⟨?_, ?_⟩
    · intro hunpaired
      exact h.closed ((endsUnpaired_pair c body).2 hunpaired)
    · intro before after hbody
      have hlonger := h.first ('\\' :: c :: before) after (by rw [hbody]; rfl)
      exact (endsUnpaired_pair c before).1 hlonger
  · intro h
    refine ⟨?_, ?_⟩
    · intro hunpaired
      exact h.closed ((endsUnpaired_pair c body).1 hunpaired)
    · intro before after hbody
      -- A quote in the longer body comes after both characters, or is the second one.
      match before with
      | [] =>
        have hne : '\\' ≠ '"' := by decide
        exact absurd (List.cons.inj hbody).1 hne
      | [d] =>
        obtain ⟨rfl, _⟩ := List.cons.inj hbody
        exact endsUnpaired_backslash
      | d :: e :: before =>
        obtain ⟨rfl, htail⟩ := List.cons.inj hbody
        obtain ⟨rfl, hrest⟩ := List.cons.inj htail
        exact (endsUnpaired_pair c before).2 (h.first before after hrest)

theorem isBody_nil : IsBody [] := by
  refine ⟨not_endsUnpaired_nil, ?_⟩
  intro before after h
  cases before <;> cases h

theorem not_isBody_quote (body : List Char) : ¬ IsBody ('"' :: body) := by
  intro h
  exact not_endsUnpaired_nil (h.first [] body rfl)

theorem not_isBody_backslash : ¬ IsBody ['\\'] := by
  intro h
  exact h.closed endsUnpaired_backslash

/-- The scanner has looked for a backslash, at the end and before a character. -/
theorem ne_backslash {c : Char} {rest : List Char} (hlast : c = '\\' → rest = [] → False)
    (hslash : ∀ d tail, c = '\\' → rest = d :: tail → False) : c ≠ '\\' := by
  intro hc
  cases rest with
  | nil => exact hlast hc rfl
  | cons d tail => exact hslash d tail hc rfl

/-- The scanner cuts a string off at the quote that closes it. -/
theorem splitString_of_isBody {body : List Char} (h : IsBody body) (after : List Char) :
    splitString (body ++ '"' :: after) = some (body, after) := by
  induction body using splitString.induct with
  | case1 => rw [List.nil_append, splitString]
  | case2 rest => exact absurd h (not_isBody_quote rest)
  | case3 => exact absurd h not_isBody_backslash
  | case4 c rest ih =>
    have hrest := ih ((isBody_pair c).1 h)
    simp only [List.cons_append, splitString, hrest, Option.map_some]
  | case5 c rest hquote hlast hslash ih =>
    have hc := ne_backslash hlast hslash
    have hrest := ih ((isBody_cons hquote hc).1 h)
    rw [List.cons_append, splitString, hrest, Option.map_some]
    · exact hquote
    · exact fun h _ => hc h
    · exact fun _ _ h _ => hc h

theorem isBody_of_splitString {text body after : List Char}
    (h : splitString text = some (body, after)) : IsBody body := by
  fun_induction splitString text generalizing body after with
  | case1 => cases h
  | case2 rest =>
    cases h
    exact isBody_nil
  | case3 => cases h
  | case4 c rest ih =>
    obtain ⟨⟨inner, tail⟩, hinner, heq⟩ := Option.map_eq_some_iff.1 h
    cases heq
    exact (isBody_pair c).2 (ih hinner)
  | case5 c rest hquote hlast hslash ih =>
    obtain ⟨⟨inner, tail⟩, hinner, heq⟩ := Option.map_eq_some_iff.1 h
    cases heq
    have hc := ne_backslash hlast hslash
    exact (isBody_cons hquote hc).2 (ih hinner)

/-- A string has no end if every quote after its first one is preceded by an
    unpaired backslash. -/
theorem splitString_eq_none_iff (text : List Char) :
    splitString text = none ↔
      ∀ body after, text = body ++ '"' :: after → EndsUnpaired body := by
  constructor
  · intro hnone body
    -- A shortest counterexample would be a body, which the scanner cuts off.
    induction hn : body.length using Nat.strongRecOn generalizing body with
    | ind n ih =>
      intro after htext
      by_contra hpaired
      have hbody : IsBody body := by
        refine ⟨hpaired, ?_⟩
        intro before middle hsplit
        have hshorter : before.length < n := by
          rw [← hn, hsplit, List.length_append, List.length_cons]
          omega
        refine ih before.length hshorter before rfl (middle ++ '"' :: after) ?_
        rw [htext, hsplit, List.append_assoc, List.cons_append]
      rw [htext, splitString_of_isBody hbody] at hnone
      cases hnone
  · intro hopen
    cases hsplit : splitString text with
    | none => rfl
    | some parts =>
      obtain ⟨body, after⟩ := parts
      have hbody := isBody_of_splitString hsplit
      have htext := source_splitString hsplit
      exact absurd (hopen body after htext.symm) hbody.closed

/-! ## What strings stand for -/

theorem unescape_cons {c : Char} (hc : c ≠ '\\') (body : List Char) :
    unescape (c :: body) = c :: unescape body := by
  rw [unescape]
  exact fun _ _ h _ => hc h

theorem unescape_escape {c d : Char} (hc : escaped? c = some d) (body : List Char) :
    unescape ('\\' :: c :: body) = d :: unescape body := by
  unfold escaped? at hc
  split at hc
  · cases hc
    rw [unescape]
  · cases hc
    rw [unescape]
  · cases hc
    rw [unescape]
  · cases hc
    rw [unescape]
  · cases hc

theorem unescape_other {c : Char} (hc : escaped? c = none) (body : List Char) :
    unescape ('\\' :: c :: body) = '\\' :: c :: unescape body := by
  unfold escaped? at hc
  split at hc
  · cases hc
  · cases hc
  · cases hc
  · cases hc
  · next hn ht hquote hslash =>
    rw [unescape]
    · exact hn
    · exact ht
    · exact hquote
    · exact hslash

theorem decodes_unescape {body : List Char} (h : IsBody body) : Decodes body (unescape body) := by
  induction body using splitString.induct with
  | case1 =>
    rw [unescape]
    exact .nil
  | case2 rest => exact absurd h (not_isBody_quote rest)
  | case3 => exact absurd h not_isBody_backslash
  | case4 c rest ih =>
    have hrest := ih ((isBody_pair c).1 h)
    cases hc : escaped? c with
    | some d =>
      rw [unescape_escape hc]
      exact .escape hc hrest
    | none =>
      rw [unescape_other hc]
      exact .other hc hrest
  | case5 c rest hquote hlast hslash ih =>
    have hc := ne_backslash hlast hslash
    rw [unescape_cons hc]
    exact .plain hc (ih ((isBody_cons hquote hc).1 h))

theorem unescape_of_decodes {body value : List Char} (h : Decodes body value) :
    unescape body = value := by
  induction h with
  | nil => rw [unescape]
  | plain hc _ ih => rw [unescape_cons hc, ih]
  | escape hc _ ih => rw [unescape_escape hc, ih]
  | other hc _ ih => rw [unescape_other hc, ih]

/-! ## From the grammar to the scanner -/

theorem cut?_comment {text rest : List Char} (htext : '\n' ∉ text)
    (hend : ∀ c ∈ rest.head?, c = '\n') :
    cut? ';' (text ++ rest) = some (.gap (';' :: text), rest) := by
  have hrun : ∀ c ∈ text, (c != '\n') = true := by
    intro c hc
    rw [bne_iff_ne]
    rintro rfl
    exact htext hc
  have hstop : ∀ c ∈ rest.head?, (c != '\n') = false := by
    intro c hc
    rw [hend c hc]
    rfl
  rw [cut?, takeWhile_run hrun hstop, dropWhile_run hrun hstop]

theorem cut?_unquote {rest : List Char} (hat : rest.head? ≠ some '@') :
    cut? ',' rest = some (.plain .unquote [','], rest) := by
  cases rest with
  | nil => rfl
  | cons c rest =>
    have hc : c ≠ '@' := by
      rintro rfl
      exact hat rfl
    simp [cut?, hc]

/-- A gap is skipped. Only its line feeds count. -/
theorem scanFrom_isGap {gap rest : List Char} (h : IsGap gap rest) (line : Nat) :
    scanFrom line (gap ++ rest) = scanFrom (line + gap.count '\n') rest := by
  induction h generalizing line with
  | nil rest => rfl
  | @separator c gap rest hc _ ih =>
    have hcount : (c :: gap).count '\n' = [c].count '\n' + gap.count '\n' := by
      rw [← List.count_append, List.singleton_append]
    rw [List.cons_append, scanFrom_separator hc, ih, hcount, Nat.add_assoc]
  | @comment text gap rest htext hend _ ih =>
    have hcut := cut?_comment htext hend
    rw [List.append_assoc, List.cons_append, scanFrom_gap hcut, ih, List.count_append,
      Nat.add_assoc]

/-- A lexeme becomes the first token of the text that begins with it. -/
theorem scanFrom_isLexeme {lexeme rest value : List Char} {kind : TokenKind}
    (h : IsLexeme lexeme rest kind value) (line : Nat) :
    scanFrom line (lexeme ++ rest) =
      (scanFrom (line + lexeme.count '\n') rest).map
        (⟨kind, some (String.ofList value), line⟩ :: ·) := by
  cases h with
  | openParen =>
    have hcut : cut? '(' rest = some (.plain .openParen ['('], rest) := rfl
    exact scanFrom_cut hcut
  | closeParen =>
    have hcut : cut? ')' rest = some (.plain .closeParen [')'], rest) := rfl
    exact scanFrom_cut hcut
  | unquoteSplice =>
    have hcut : cut? ',' ('@' :: rest) = some (.plain .unquoteSplice [',', '@'], rest) := rfl
    exact scanFrom_cut hcut
  | unquote hat => exact scanFrom_cut (cut?_unquote hat)
  | quote =>
    have hcut : cut? '\'' rest = some (.plain .quote ['\''], rest) := rfl
    exact scanFrom_cut hcut
  | backquote =>
    have hcut : cut? '\x60' rest = some (.plain .backquote ['\x60'], rest) := rfl
    exact scanFrom_cut hcut
  | string rest hbody hvalue =>
    rename_i body
    have hcut : cut? '"' (body ++ '"' :: rest) = some (.string body, rest) := by
      rw [cut?, splitString_of_isBody hbody, Option.map_some]
    rw [List.cons_append, List.append_assoc, List.singleton_append, scanFrom_cut hcut,
      Piece.token?, unescape_of_decodes hvalue]
    rfl
  | number hrun hend =>
    exact scanFrom_cut (cut?_numberRun hrun hend)
  | symbol hc hrun hend =>
    exact scanFrom_cut (cut?_symbol hc.1 hc.2 hrun hend)

theorem lineAfter_append (before text : List Char) :
    lineAfter (before ++ text) = lineAfter before + text.count '\n' := by
  unfold lineAfter
  rw [List.count_append, Nat.add_assoc]

theorem scanFrom_of_splits {before text : List Char} {tokens : List Token}
    (h : Splits before text tokens) : scanFrom (lineAfter before) text = .ok tokens := by
  induction h with
  | @done before gap hgap =>
    have hscan := scanFrom_isGap hgap (lineAfter before)
    rw [List.append_nil] at hscan
    rw [hscan, scanFrom_nil]
  | @token before gap lexeme rest value kind tokens hgap hlexeme _ ih =>
    rw [scanFrom_isGap hgap, ← lineAfter_append, scanFrom_isLexeme hlexeme, ← lineAfter_append, ih]
    rfl

theorem scanFrom_of_unclosed {before text : List Char} {line : Nat}
    (h : Unclosed before text line) :
    scanFrom (lineAfter before) text = .error (.openString line) := by
  induction h with
  | @here before gap rest hgap hopen =>
    have hcut : cut? '"' rest = none := by
      rw [cut?, (splitString_eq_none_iff rest).2 hopen, Option.map_none]
    rw [scanFrom_isGap hgap, ← lineAfter_append, scanFrom]
    split
    · rfl
    · next hsome =>
      rw [hcut] at hsome
      cases hsome
  | @later before gap lexeme rest value kind line hgap hlexeme _ ih =>
    rw [scanFrom_isGap hgap, ← lineAfter_append, scanFrom_isLexeme hlexeme, ← lineAfter_append, ih]
    rfl

/-! ## From the scanner to the grammar -/

/-- What the grammar says of a piece in front of the given text. -/
def Piece.Fits (after : List Char) : Piece → Prop
  | .gap text => IsGap text after
  | .plain kind text => IsLexeme text after kind text
  | .string body => IsLexeme ('"' :: (body ++ ['"'])) after .string (unescape body)

theorem isGap_separators {run : List Char} (hrun : ∀ c ∈ run, isSeparator c = true)
    (rest : List Char) : IsGap run rest := by
  induction run with
  | nil => exact .nil rest
  | cons c run ih =>
    have hc := hrun c List.mem_cons_self
    exact .separator hc (ih fun d hd => hrun d (List.mem_cons_of_mem c hd))

/-- A run of characters ends in front of a character that is not of its class. -/
theorem head?_dropWhile {p : Char → Bool} {text : List Char} :
    ∀ c ∈ (text.dropWhile p).head?, p c = false := by
  intro c hc
  have hnot := List.head?_dropWhile_not p text
  rw [Option.mem_def.1 hc] at hnot
  exact hnot

theorem all_cons_takeWhile {p : Char → Bool} {c : Char} (hc : p c = true) (text : List Char) :
    ∀ d ∈ c :: text.takeWhile p, p d = true := by
  intro d hd
  rcases List.mem_cons.1 hd with rfl | hrest
  · exact hc
  · exact List.mem_takeWhile_imp hrest

/-- Every piece that the scanner cuts off is one of the grammar, and goes as
    far as the grammar says. -/
theorem fits_of_cut? {c : Char} {rest after : List Char} {piece : Piece}
    (h : cut? c rest = some (piece, after)) : piece.Fits after := by
  unfold cut? at h
  split at h
  · cases h
    exact .openParen _
  · cases h
    exact .closeParen _
  · cases h
    exact .quote _
  · cases h
    exact .backquote _
  · split at h
    · cases h
      exact .unquoteSplice _
    · next hat =>
      cases h
      refine .unquote ?_
      intro hhead
      obtain ⟨tail, hrest⟩ := List.head?_eq_some_iff.1 hhead
      exact hat tail hrest
  · cases h
    have htext : '\n' ∉ rest.takeWhile (· != '\n') := by
      intro hmem
      have hne := List.mem_takeWhile_imp hmem
      simp at hne
    have hend : ∀ d ∈ ([] ++ rest.dropWhile (· != '\n')).head?, d = '\n' := by
      intro d hd
      have hstop := head?_dropWhile d hd
      simpa using hstop
    have hgap := IsGap.comment htext hend (.nil _)
    rwa [List.append_nil] at hgap
  · obtain ⟨⟨body, tail⟩, hsplit, heq⟩ := Option.map_eq_some_iff.1 h
    cases heq
    have hbody := isBody_of_splitString hsplit
    exact .string _ hbody (decodes_unescape hbody)
  -- No lexeme of its own begins with the character: what is left are runs.
  · next hopen hclose hquote hbackquote hcomma hsemicolon hstring =>
    split at h
    · next hsep =>
      cases h
      exact isGap_separators (all_cons_takeWhile hsep rest) _
    · next hsep =>
      split at h
      · next hnumber =>
        cases h
        exact .number (all_cons_takeWhile hnumber rest) head?_dropWhile
      · next hnumber =>
        cases h
        have hbegins : BeginsSymbol c := by
          refine ⟨?_, Bool.eq_false_iff.2 hnumber⟩
          rw [isSpecial, decide_eq_false_iff_not]
          simp only [List.mem_cons, List.not_mem_nil, or_false, not_or]
          exact ⟨hopen, hclose, hquote, hbackquote, hcomma, hsemicolon, hstring⟩
        have hsymbol : isSymbolChar c = true := by
          simp only [isSymbolChar, Bool.and_eq_true, Bool.not_eq_true', bne_iff_ne]
          exact ⟨⟨Bool.eq_false_iff.2 hsep, hopen⟩, hclose⟩
        exact .symbol hbegins (all_cons_takeWhile hsymbol rest) head?_dropWhile

theorem IsGap.append {first gap rest : List Char} (hfirst : IsGap first (gap ++ rest))
    (hgap : IsGap gap rest) : IsGap (first ++ gap) rest := by
  -- The induction needs the text after the first gap as a variable.
  generalize hall : gap ++ rest = all at hfirst
  induction hfirst with
  | nil => exact hgap
  | separator hc _ ih => exact .separator hc (ih hall)
  | @comment text inner all htext hend _ ih =>
    subst hall
    rw [← List.append_assoc] at hend
    rw [List.append_assoc]
    exact .comment htext hend (ih rfl)

/-- A gap in front of a text joins the gap that the text begins with. -/
theorem Splits.gap {before gap text : List Char} {tokens : List Token} (hgap : IsGap gap text)
    (h : Splits (before ++ gap) text tokens) : Splits before (gap ++ text) tokens := by
  cases h with
  | done hlast =>
    rw [← List.append_nil text] at hgap
    exact .done (hgap.append hlast)
  | @token _ first lexeme rest value kind tokens hfirst hlexeme hrest =>
    rw [List.append_assoc before gap first] at hrest ⊢
    rw [← List.append_assoc gap first]
    exact .token (hgap.append hfirst) hlexeme hrest

theorem Unclosed.gap {before gap text : List Char} {line : Nat} (hgap : IsGap gap text)
    (h : Unclosed (before ++ gap) text line) : Unclosed before (gap ++ text) line := by
  cases h with
  | @here _ first rest hfirst hopen =>
    rw [List.append_assoc before gap first, ← List.append_assoc gap first]
    exact .here (hgap.append hfirst) hopen
  | @later _ first lexeme rest value kind line hfirst hlexeme hrest =>
    rw [List.append_assoc before gap first] at hrest
    rw [← List.append_assoc gap first]
    exact .later (hgap.append hfirst) hlexeme hrest

/-- A text that begins with a lexeme is split if what follows it is. -/
theorem splits_or_unclosed_of_isLexeme {before lexeme rest value : List Char} {kind : TokenKind}
    (hlexeme : IsLexeme lexeme rest kind value)
    (h : (∃ tokens, Splits (before ++ lexeme) rest tokens) ∨
      ∃ line, Unclosed (before ++ lexeme) rest line) :
    (∃ tokens, Splits before (lexeme ++ rest) tokens) ∨
      ∃ line, Unclosed before (lexeme ++ rest) line := by
  rw [← List.append_nil before] at h
  rcases h with ⟨tokens, hsplits⟩ | ⟨line, hunclosed⟩
  · exact .inl ⟨_, .token (.nil _) hlexeme hsplits⟩
  · exact .inr ⟨line, .later (.nil _) hlexeme hunclosed⟩

/-- Only a double quote that nothing closes begins no piece. -/
theorem unclosed_of_cut?_none {c : Char} {rest : List Char} (h : cut? c rest = none)
    (before : List Char) : Unclosed before (c :: rest) (lineAfter before) := by
  unfold cut? at h
  split at h
  · cases h
  · cases h
  · cases h
  · cases h
  · split at h <;> cases h
  · cases h
  · have hopen := (splitString_eq_none_iff rest).1 (Option.map_eq_none_iff.1 h)
    have hhere : Unclosed before ([] ++ '"' :: rest) (lineAfter (before ++ [])) :=
      .here (.nil _) hopen
    rwa [List.append_nil] at hhere
  · split at h
    · cases h
    · split at h <;> cases h

/-- Every text is gaps and lexemes, up to its end or up to a string without an
    end. -/
theorem splits_or_unclosed (before text : List Char) :
    (∃ tokens, Splits before text tokens) ∨ ∃ line, Unclosed before text line := by
  -- A piece is never empty, so what follows it is shorter.
  induction hn : text.length using Nat.strongRecOn generalizing before text with
  | ind n ih =>
    cases text with
    | nil => exact .inl ⟨[], .done (.nil [])⟩
    | cons c rest =>
      cases hcut : cut? c rest with
      | none => exact .inr ⟨_, unclosed_of_cut?_none hcut before⟩
      | some cutOff =>
        obtain ⟨piece, after⟩ := cutOff
        have hfits := fits_of_cut? hcut
        have hlt := length_lt_of_cut? hcut
        have hrest := ih after.length (hn ▸ hlt) (before ++ piece.source) after rfl
        rw [← source_cut? hcut]
        cases piece with
        | gap text =>
          rcases hrest with ⟨tokens, hsplits⟩ | ⟨line, hunclosed⟩
          · exact .inl ⟨tokens, hsplits.gap hfits⟩
          · exact .inr ⟨line, hunclosed.gap hfits⟩
        | plain kind text => exact splits_or_unclosed_of_isLexeme hfits hrest
        | string body => exact splits_or_unclosed_of_isLexeme hfits hrest

/-- What the scanner finds is a division of the text into lexemes. -/
theorem splits_of_scan {text : String} {tokens : List Token} (h : scan text = .ok tokens) :
    Splits [] text.toList tokens := by
  have hline : lineAfter [] = 1 := rfl
  rw [scan, ← hline] at h
  rcases splits_or_unclosed [] text.toList with ⟨others, hsplits⟩ | ⟨line, hunclosed⟩
  · rw [scanFrom_of_splits hsplits] at h
    cases h
    exact hsplits
  · rw [scanFrom_of_unclosed hunclosed] at h
    cases h

/-- The scanner follows the lexical grammar: its tokens are those of the
    lexemes into which the text splits. It fails on the texts that do not
    split, since a string begins in them that has no end, and on no other text;
    the error tells the line on which that string begins. -/
theorem scan_iff_splits (text : String) :
    (∀ tokens, scan text = .ok tokens ↔ Splits [] text.toList tokens) ∧
      ∀ e, scan text = .error e ↔ ∃ line, Unclosed [] text.toList line ∧
        e = .openString line ∧
        e.message = "Error in readString: Unmatched quote (line " ++ toString line ++ ")" := by
  have hline : lineAfter [] = 1 := rfl
  have hsplits : ∀ tokens, Splits [] text.toList tokens → scan text = .ok tokens := by
    intro tokens h
    rw [scan, ← hline, scanFrom_of_splits h]
  have hunclosed : ∀ line, Unclosed [] text.toList line →
      scan text = .error (.openString line) := by
    intro line h
    rw [scan, ← hline, scanFrom_of_unclosed h]
  refine ⟨?_, ?_⟩
  · intro tokens
    refine ⟨?_, hsplits tokens⟩
    intro hscan
    rcases splits_or_unclosed [] text.toList with ⟨others, h⟩ | ⟨line, h⟩
    · rw [hsplits others h] at hscan
      cases hscan
      exact h
    · rw [hunclosed line h] at hscan
      cases hscan
  · intro e
    constructor
    · intro hscan
      rcases splits_or_unclosed [] text.toList with ⟨tokens, h⟩ | ⟨line, h⟩
      · rw [hsplits tokens h] at hscan
        cases hscan
      · rw [hunclosed line h] at hscan
        cases hscan
        exact ⟨line, h, rfl, rfl⟩
    · rintro ⟨line, h, rfl, _⟩
      exact hunclosed line h

end MiniLisp.Token
