import MiniLisp.Proofs.LexicalGrammar

/-! # Respacing

    The tokens of a text can be written out again with a single space between
    them. A lexeme that was found in front of any text is also one in front of a
    space and at the end of a text, for a space goes on no word, and a word that
    ended earlier ends there, too. So the same tokens are found again, up to
    the lines that they are on.

    A string is written as what it stands for. That is a spelling of it only if
    nothing in it needs a backslash.

    * **`StandsAlone`** — a token whose spelling is a lexeme of its own;
    * **`standsAlone_of_splits`** — the tokens that are found in a text;
    * **`scan_respaced`** — finding them again. -/

namespace MiniLisp.Token

/-- Wherever a word may end, the spelling of the token is a lexeme, and this
    lexeme gives the token its kind and its text. -/
def StandsAlone (t : Token) : Prop :=
  ∃ value, t.text = some (String.ofList value) ∧
    ∀ rest, EndsWord rest → IsLexeme t.spelling.toList rest t.kind value

/-- A token that can be written without escapes. -/
def PlainString (t : Token) : Prop :=
  t.kind = .string → ∀ value ∈ t.text, '"' ∉ value.toList ∧ '\\' ∉ value.toList

/-! ## Single tokens -/

/-- What stands after a lexeme matters only to how far it goes. -/
theorem IsLexeme.beforeEnd {lexeme after value : List Char} {kind : TokenKind}
    (h : IsLexeme lexeme after kind value) {rest : List Char} (hrest : EndsWord rest) :
    IsLexeme lexeme rest kind value := by
  cases h with
  | openParen => exact .openParen rest
  | closeParen => exact .closeParen rest
  | unquoteSplice => exact .unquoteSplice rest
  | unquote =>
    apply IsLexeme.unquote
    -- An at sign would go on a word, so it cannot come next.
    intro hat
    have hsymbol : isSymbolChar '@' = true := by decide
    rw [hrest '@' hat] at hsymbol
    cases hsymbol
  | quote => exact .quote rest
  | backquote => exact .backquote rest
  | string _ hbody hvalue => exact .string rest hbody hvalue
  | number hrun _ =>
    apply IsLexeme.number hrun
    intro d hd
    exact not_isNumberChar_of_not_isSymbolChar (hrest d hd)
  | symbol hc hrun _ => exact .symbol hc hrun hrest

/-- Every lexeme but a string is its own value. -/
theorem IsLexeme.eq_value {lexeme after value : List Char} {kind : TokenKind}
    (h : IsLexeme lexeme after kind value) (hkind : kind ≠ .string) : lexeme = value := by
  cases h with
  | string => exact absurd rfl hkind
  | _ => rfl

/-- A text that needs no backslash is a spelling of itself. -/
theorem isLexeme_string_plain {value : List Char} (hquote : '"' ∉ value) (hslash : '\\' ∉ value)
    (rest : List Char) : IsLexeme ('"' :: (value ++ ['"'])) rest .string value := by
  have hbody : IsBody value := isBody_of_splitString (splitString_plain hquote hslash [])
  have hdecodes : Decodes value (unescape value) := decodes_unescape hbody
  rw [unescape_plain hslash] at hdecodes
  exact .string rest hbody hdecodes

theorem spelling_of_ne_string {kind : TokenKind} (hkind : kind ≠ .string) (text : String)
    (line : Nat) : (⟨kind, some text, line⟩ : Token).spelling = text := by
  cases kind with
  | string => exact absurd rfl hkind
  | _ => rfl

theorem toList_spelling_string (value : List Char) (line : Nat) :
    (⟨.string, some (String.ofList value), line⟩ : Token).spelling.toList =
      '"' :: (value ++ ['"']) := by
  simp [spelling]

theorem IsLexeme.standsAlone {lexeme after value : List Char} {kind : TokenKind} {line : Nat}
    (h : IsLexeme lexeme after kind value)
    (hplain : PlainString ⟨kind, some (String.ofList value), line⟩) :
    StandsAlone ⟨kind, some (String.ofList value), line⟩ := by
  refine ⟨value, rfl, ?_⟩
  intro rest hrest
  by_cases hkind : kind = .string
  · subst hkind
    obtain ⟨hquote, hslash⟩ := hplain rfl _ rfl
    rw [String.toList_ofList] at hquote hslash
    rw [toList_spelling_string]
    exact isLexeme_string_plain hquote hslash rest
  · have hlexeme := h.beforeEnd hrest
    rw [h.eq_value hkind] at hlexeme
    rw [spelling_of_ne_string hkind, String.toList_ofList]
    exact hlexeme

/-! ## The tokens of a text -/

theorem standsAlone_of_splits {before text : List Char} {tokens : List Token}
    (h : Splits before text tokens) (hplain : ∀ t ∈ tokens, t.PlainString) :
    ∀ t ∈ tokens, t.StandsAlone := by
  induction h with
  | done => exact List.forall_mem_nil _
  | token _ hlexeme _ ih =>
    obtain ⟨hfirst, hothers⟩ := List.forall_mem_cons.1 hplain
    exact List.forall_mem_cons.2 ⟨hlexeme.standsAlone hfirst, ih hothers⟩

/-- A token that stands alone is found in front of whatever ends a word. -/
theorem scanFrom_standsAlone {t : Token} (h : t.StandsAlone) {rest : List Char}
    (hrest : EndsWord rest) (line : Nat) :
    ∃ below, scanFrom line (t.spelling.toList ++ rest) =
      (scanFrom below rest).map (⟨t.kind, t.text, line⟩ :: ·) := by
  obtain ⟨value, htext, hlexeme⟩ := h
  refine ⟨line + t.spelling.toList.count '\n', ?_⟩
  rw [scanFrom_isLexeme (hlexeme rest hrest), htext]

/-- Tokens that stand alone are found again when they are written with spaces
    between them. -/
theorem scanFrom_intercalate {tokens : List Token} (h : ∀ t ∈ tokens, t.StandsAlone)
    (line : Nat) :
    ∃ again, scanFrom line (" ".intercalate (tokens.map spelling)).toList = .ok again ∧
      again.map (fun t => (t.kind, t.text)) = tokens.map fun t => (t.kind, t.text) := by
  induction tokens generalizing line with
  | nil => exact ⟨[], scanFrom_nil line, rfl⟩
  | cons t others ih =>
    obtain ⟨hfirst, hrest⟩ := List.forall_mem_cons.1 h
    cases others with
    | nil =>
      -- The last token ends with the text.
      obtain ⟨below, hscan⟩ := scanFrom_standsAlone hfirst endsWord_nil line
      rw [List.append_nil, scanFrom_nil] at hscan
      refine ⟨[⟨t.kind, t.text, line⟩], ?_, rfl⟩
      rw [List.map_singleton, String.intercalate_singleton, hscan]
      rfl
    | cons u others =>
      have hspace : isSeparator ' ' = true := by decide
      have hends : EndsWord (' ' :: (" ".intercalate ((u :: others).map spelling)).toList) :=
        endsWord_cons (by decide) _
      obtain ⟨below, hscan⟩ := scanFrom_standsAlone hfirst hends line
      rw [scanFrom_separator hspace] at hscan
      obtain ⟨again, hagain, hsame⟩ := ih hrest (below + [' '].count '\n')
      have htext : (" ".intercalate ((t :: u :: others).map spelling)).toList =
          t.spelling.toList ++ ' ' :: (" ".intercalate ((u :: others).map spelling)).toList := by
        simp [String.intercalate_cons_cons]
      refine ⟨⟨t.kind, t.text, line⟩ :: again, ?_, ?_⟩
      · rw [htext, hscan, hagain]
        rfl
      · rw [List.map_cons, hsame]
        rfl

/-- If no string of a text stands for a quote or a backslash, then the spellings
    of the tokens of the text, joined by single spaces, have tokens of the same
    kinds and texts in the same order. Parentheses may be balanced or not. -/
theorem scan_respaced {text : String} {tokens : List Token} (hscan : scan text = .ok tokens)
    (hplain : ∀ t ∈ tokens, t.kind = .string →
      ∀ value ∈ t.text, '"' ∉ value.toList ∧ '\\' ∉ value.toList) :
    ∃ again, scan (" ".intercalate (tokens.map spelling)) = .ok again ∧
      again.map (fun t => (t.kind, t.text)) = tokens.map fun t => (t.kind, t.text) := by
  have halone : ∀ t ∈ tokens, t.StandsAlone := standsAlone_of_splits (splits_of_scan hscan) hplain
  exact scanFrom_intercalate halone 1

/-- Lexemes that only their kinds keep apart, and a parenthesis too many. -/
theorem scan_respaced_adjacent :
    let tokens : List Token := [⟨.number, some "12", 1⟩, ⟨.symbol, some "ab'", 1⟩,
      ⟨.closeParen, some ")", 1⟩, ⟨.unquote, some ",", 1⟩, ⟨.unquoteSplice, some ",@", 1⟩,
      ⟨.symbol, some "x;,", 1⟩, ⟨.string, some "a\n", 1⟩, ⟨.nil, some "nil", 2⟩]
    scan "12ab'),,@x;, \"a\n\"nil" = .ok tokens ∧
      (∀ t ∈ tokens, t.kind = .string →
        ∀ value ∈ t.text, '"' ∉ value.toList ∧ '\\' ∉ value.toList) ∧
      " ".intercalate (tokens.map spelling) = "12 ab' ) , ,@ x;, \"a\n\" nil" ∧
      ∃ again, scan (" ".intercalate (tokens.map spelling)) = .ok again ∧
        again.map (fun t => (t.kind, t.text)) = tokens.map fun t => (t.kind, t.text) := by
  intro tokens
  have hscan : scan "12ab'),,@x;, \"a\n\"nil" = .ok tokens := by decide +kernel
  have hplain : ∀ t ∈ tokens, t.kind = .string →
      ∀ value ∈ t.text, '"' ∉ value.toList ∧ '\\' ∉ value.toList := by decide
  exact ⟨hscan, hplain, by decide +kernel, scan_respaced hscan hplain⟩

end MiniLisp.Token
