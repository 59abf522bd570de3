import Mathlib.Data.List.Forall2
import MiniLisp.Proofs.Grammar
import MiniLisp.Proofs.Lexing
import MiniLisp.Term.Printer

/-! # Reading undoes printing

    Data that is printed and read again comes back, up to the lines of its
    symbols. Printing escapes nothing and reading knows a number only by its
    digits, so some data is left out: strings with a quote or a backslash,
    numbers with a sign or an exponent, functions, and symbols that no token
    spells.

    Text is related to terms in two steps, over the tokens: a printed term in
    front of a text that does not run into it puts tokens in front of the
    tokens of that text, and these tokens put the term in front of the forms.

    * **`Term.Readable`** — the data that can be read back;
    * **`Term.Alike`** — terms that differ in lines only;
    * **`parse_printLines`** — the round trip. -/

namespace MiniLisp

/-! ## Data that can be read back -/

/-- The number that digits and points are read as. -/
def Number.ofText (text : String) : Float :=
  (Number.read? text.toList).getD (0.0 / 0.0)

/-- A name that is one token and a symbol. -/
structure PlainName (name : String) : Prop where
  nonempty : name ≠ ""
  /-- It holds no separator and no parenthesis. -/
  chars : ∀ c ∈ name.toList, c ∉ [' ', '\t', '\r', '\n', '(', ')']
  /-- It does not begin as another token or a comment does. -/
  first : ∀ c ∈ name.toList.head?, c ∉ ['"', ';', ',', '\'', '\x60', '.'] ∧ c.isDigit = false
  /-- It is not reserved for a value. -/
  free : name ∉ ["true", "false", "nil"]

namespace Term

/-- Data that can be read back. A number is written with digits and points
    only and comes back as a number that is the `same`. -/
inductive Readable (same : Float → Float → Prop) : Term → Prop where
  | bool (value : Bool) : Readable same (.bool value)
  | nil : Readable same .nil
  | str {text : String} (quote : '"' ∉ text.toList) (backslash : '\\' ∉ text.toList) :
      Readable same (.str text)
  | num {x : Float} (chars : ∀ c ∈ (Number.text x).toList, c.isDigit = true ∨ c = '.')
      (back : same (Number.ofText (Number.text x)) x) : Readable same (.num x)
  | sym {name : String} (line : Nat) (plain : PlainName name) : Readable same (.sym name line)
  | list {items : List Term} (all : ∀ t ∈ items, Readable same t) : Readable same (.list items)

/-- Terms that differ only in the lines of their symbols; their numbers are the
    `same`. -/
inductive Alike (same : Float → Float → Prop) : Term → Term → Prop where
  | bool (value : Bool) : Alike same (.bool value) (.bool value)
  | nil : Alike same .nil .nil
  | str (text : String) : Alike same (.str text) (.str text)
  | num {x y : Float} (h : same x y) : Alike same (.num x) (.num y)
  | sym (name : String) (line line' : Nat) : Alike same (.sym name line) (.sym name line')
  | list {items items' : List Term} (all : List.Forall₂ (Alike same) items items') :
      Alike same (.list items) (.list items')

end Term

/-! ## Tokens in front of tokens -/

/-- Wherever units may stand, the tokens are units that spell the forms. -/
def Spells (tokens : List Token) (forms : List Term) : Prop :=
  ∀ depth after forms' rest, Reads depth after forms' rest →
    Reads depth (tokens ++ after) (forms ++ forms') rest

theorem spells_nil : Spells [] [] := fun _ _ _ _ h => h

theorem spells_atom {t : Token} (kind : t.kind.isAtom = true) : Spells [t] [Draft.ofAtom t] :=
  fun _ _ _ _ h => .atom kind h

theorem Spells.append {tokens tokens' : List Token} {forms forms' : List Term}
    (h : Spells tokens forms) (h' : Spells tokens' forms') :
    Spells (tokens ++ tokens') (forms ++ forms') := by
  intro depth after forms'' rest hreads
  rw [List.append_assoc, List.append_assoc]
  exact h _ _ _ _ (h' _ _ _ _ hreads)

/-- Units between parentheses. -/
theorem Spells.list {tokens : List Token} {items : List Term} {t close : Token}
    (h : Spells tokens items) (kind : t.kind = .openParen) (closeKind : close.kind = .closeParen) :
    Spells (t :: (tokens ++ [close])) [.list items] := by
  intro depth after forms' rest hreads
  have hinner : Reads (depth + 1) (tokens ++ close :: after) items (close :: after) := by
    simpa using h (depth + 1) (close :: after) [] (close :: after) .nothing
  rw [List.cons_append, List.append_assoc]
  exact .list kind hinner (.paren closeKind) hreads

/-- In front of the text `rest`, the text `written` is cut into tokens that
    spell terms like the given ones. -/
def Writes (same : Float → Float → Prop) (written : List Char) (ts : List Term)
    (rest : List Char) : Prop :=
  ∀ line, ∃ tokens line' forms, List.Forall₂ (Term.Alike same) forms ts ∧ Spells tokens forms ∧
    Token.scanFrom line (written ++ rest) = (Token.scanFrom line' rest).map (tokens ++ ·)

section writes

variable {same : Float → Float → Prop} {written written' rest : List Char} {ts ts' : List Term}

theorem writes_nil (rest : List Char) : Writes same [] [] rest := by
  intro line
  refine ⟨[], line, [], .nil, spells_nil, ?_⟩
  cases h : Token.scanFrom line rest <;> simp [h, Except.map]

theorem Writes.append (h : Writes same written ts (written' ++ rest))
    (h' : Writes same written' ts' rest) : Writes same (written ++ written') (ts ++ ts') rest := by
  intro line
  obtain ⟨tokens, line', forms, halike, hspells, hscan⟩ := h line
  obtain ⟨tokens', line'', forms', halike', hspells', hscan'⟩ := h' line'
  refine ⟨tokens ++ tokens', line'', forms ++ forms', ?_, hspells.append hspells', ?_⟩
  · exact List.rel_append halike halike'
  · rw [List.append_assoc, hscan, hscan']
    cases Token.scanFrom line'' rest <;> simp [Except.map]

/-- A separator in front changes nothing but lines. -/
theorem Writes.separator {c : Char} (hc : Token.isSeparator c = true)
    (h : Writes same written ts rest) : Writes same (c :: written) ts rest := by
  intro line
  obtain ⟨tokens, line', forms, halike, hspells, hscan⟩ := h (line + [c].count '\n')
  refine ⟨tokens, line', forms, halike, hspells, ?_⟩
  rw [List.cons_append, Token.scanFrom_separator hc, hscan]

/-- A piece that is one token, which spells an atom. -/
theorem writes_piece (kind : TokenKind) (text : String) {c : Char} {run : List Char}
    {piece : Token.Piece} {t : Term} (hcut : Token.cut? c (run ++ rest) = some (piece, rest))
    (htoken : ∀ line, piece.token? line = some ⟨kind, some text, line⟩)
    (hkind : kind.isAtom = true)
    (halike : ∀ line, Term.Alike same (Draft.ofAtom ⟨kind, some text, line⟩) t) :
    Writes same (c :: run) [t] rest := by
  intro line
  refine ⟨[⟨kind, some text, line⟩], piece.lineAfter line, [Draft.ofAtom ⟨kind, some text, line⟩],
    .cons (halike line) .nil, spells_atom hkind, ?_⟩
  rw [List.cons_append, Token.scanFrom_cut hcut, htoken line]
  rfl

/-- Printed items between parentheses. -/
theorem Writes.list (h : Writes same written ts (')' :: rest)) :
    Writes same ('(' :: (written ++ [')'])) [.list ts] rest := by
  intro line
  obtain ⟨tokens, line', forms, halike, hspells, hscan⟩ := h (line + ['('].count '\n')
  refine ⟨⟨.openParen, some "(", line⟩ :: (tokens ++ [⟨.closeParen, some ")", line'⟩]), line',
    [.list forms], .cons (.list halike) .nil, hspells.list rfl rfl, ?_⟩
  have hopen : Token.cut? '(' (written ++ ')' :: rest) =
      some (.plain .openParen ['('], written ++ ')' :: rest) := rfl
  have hclose : Token.cut? ')' rest = some (.plain .closeParen [')'], rest) := rfl
  rw [List.cons_append, List.append_assoc, List.singleton_append, Token.scanFrom_cut hopen]
  show (Token.scanFrom (line + ['('].count '\n') _).map _ = _
  rw [hscan, Token.scanFrom_cut hclose]
  show ((((Token.scanFrom (line' + [')'].count '\n') rest).map _).map _).map _) = _
  cases h : Token.scanFrom line' rest <;> simp [h, Except.map, Token.Piece.token?]

/-- Terms that are written one after the other, with separators between. -/
theorem writes_intercalate {sep : String} {c : Char} (hsep : sep.toList = [c])
    (hc : Token.isSeparator c = true) (ts : List Term)
    (h : ∀ t ∈ ts, ∀ rest, Token.EndsWord rest → Writes same t.print.toList [t] rest)
    (rest : List Char) (hrest : Token.EndsWord rest) :
    Writes same (sep.intercalate (ts.map Term.print)).toList ts rest := by
  induction ts with
  | nil => simpa using writes_nil rest
  | cons t others ih =>
    have hothers := ih fun u hu => h u (List.mem_cons_of_mem _ hu)
    cases others with
    | nil => simpa using h t List.mem_cons_self rest hrest
    | cons u others =>
      -- The separator ends the last word of the term before it.
      have hends : Token.EndsWord (c :: ((sep.intercalate ((u :: others).map Term.print)).toList
          ++ rest)) := Token.endsWord_cons (by simp [Token.isSymbolChar, hc]) _
      have happend := (h t List.mem_cons_self _ hends).append (hothers.separator hc)
      simpa [String.intercalate_cons_cons, hsep] using happend

end writes

/-! ## Numbers have a text -/

theorem DecimalStyle.positional_ne_nil (style : DecimalStyle) {digits : List Char}
    (h : digits ≠ []) (leading : Int) : style.positional digits leading ≠ [] := by
  unfold positional
  split
  · simp
  · dsimp only
    split
    · simp [h]
    · simp

theorem DecimalStyle.render_ne_nil (style : DecimalStyle) (d : Decimal) : style.render d ≠ [] := by
  unfold render
  dsimp only
  split
  · exact style.positional_ne_nil Nat.toDigits_ne_nil d.leading
  · simp [scientific]

/-- A number is never written as the empty text. -/
theorem Number.text_ne_nil (x : Float) : (Number.text x).toList ≠ [] := by
  unfold Number.text
  split
  · simp
  · simp
  · simp
  · split
    · simp
    · unfold DecimalStyle.renderParts
      rw [String.toList_ofList]
      split
      · simp
      · exact Number.style.render_ne_nil _

/-! ## Every kind of readable term -/

section kinds

variable {same : Float → Float → Prop} {rest : List Char}

/-- The characters of a plain name could all stand in a symbol. -/
theorem PlainName.isSymbolChar {name : String} (h : PlainName name) :
    ∀ c ∈ name.toList, Token.isSymbolChar c = true := by
  intro c hc
  have hno := h.chars c hc
  simp at hno
  simp [Token.isSymbolChar, Token.isSeparator, hno]

theorem PlainName.symbolKind {name : String} (h : PlainName name) :
    Token.symbolKind name.toList = .symbol := by
  have hne : ∀ other ∈ ["true", "false", "nil"], name.toList ≠ other.toList := by
    intro other hother e
    rw [String.toList_inj.1 e] at h
    exact h.free hother
  rw [Token.symbolKind, if_neg, if_neg]
  · exact hne "nil" (by simp)
  · exact not_or.2 ⟨hne "true" (by simp), hne "false" (by simp)⟩

theorem writes_sym {name : String} (h : PlainName name) (line : Nat) (hrest : Token.EndsWord rest) :
    Writes same name.toList [.sym name line] rest := by
  have hchars := h.isSymbolChar
  have hfirst := h.first
  have hkind := h.symbolKind
  cases hname : name.toList with
  | nil => exact absurd (String.toList_eq_nil_iff.1 hname) h.nonempty
  | cons c run =>
    rw [hname] at hchars hfirst hkind
    obtain ⟨hno, hdigit⟩ := hfirst c rfl
    have hsymbol := hchars c List.mem_cons_self
    have hspecial : Token.isSpecial c = false := by
      simp at hno
      simp [Token.isSymbolChar] at hsymbol
      simp [Token.isSpecial, hno, hsymbol]
    have hnumber : Token.isNumberChar c = false := by
      simp at hno
      simp [Token.isNumberChar, hno, hdigit]
    refine writes_piece .symbol name (Token.cut?_symbol hspecial hnumber hchars hrest) ?_ rfl ?_
    · intro line'
      rw [hkind, ← hname, Token.Piece.token?, String.ofList_toList]
    · intro line'
      exact .sym name line' line

/-- The words for truth values and for nil. -/
theorem writes_reserved (word : String) (kind : TokenKind) {t : Term}
    (hword : word ∈ ["true", "false", "nil"]) (hkind : Token.symbolKind word.toList = kind)
    (hatom : kind.isAtom = true) (ht : ∀ line, Draft.ofAtom ⟨kind, some word, line⟩ = t)
    (halike : Term.Alike same t t) (hrest : Token.EndsWord rest) :
    Writes same word.toList [t] rest := by
  have hchars : ∀ c ∈ word.toList, Token.isSymbolChar c = true := by
    simp at hword
    rcases hword with rfl | rfl | rfl <;> exact List.all_eq_true.1 (by decide)
  have hfirst : ∃ c run, word.toList = c :: run ∧ Token.isSpecial c = false ∧
      Token.isNumberChar c = false := by
    simp at hword
    rcases hword with rfl | rfl | rfl <;> exact ⟨_, _, rfl, by decide, by decide⟩
  obtain ⟨c, run, hcons, hspecial, hnumber⟩ := hfirst
  rw [hcons] at hchars hkind ⊢
  refine writes_piece kind word (Token.cut?_symbol hspecial hnumber hchars hrest) ?_ hatom ?_
  · intro line
    rw [hkind, ← hcons, Token.Piece.token?, String.ofList_toList]
  · intro line
    rw [ht line]
    exact halike

theorem writes_str {text : String} (hquote : '"' ∉ text.toList) (hslash : '\\' ∉ text.toList) :
    Writes same ("\"" ++ text ++ "\"").toList [.str text] rest := by
  have hcut : Token.cut? '"' ((text.toList ++ ['"']) ++ rest) =
      some (.string text.toList, rest) := by
    simp [Token.cut?, Token.splitString_plain hquote hslash]
  have hwritten : ("\"" ++ text ++ "\"").toList = '"' :: (text.toList ++ ['"']) := by
    simp
  rw [hwritten]
  refine writes_piece .string text hcut ?_ rfl ?_
  · intro line
    rw [Token.Piece.token?, Token.unescape_plain hslash, String.ofList_toList]
  · intro line
    exact .str text

theorem writes_num {x : Float}
    (hchars : ∀ c ∈ (Number.text x).toList, c.isDigit = true ∨ c = '.')
    (hback : same (Number.ofText (Number.text x)) x) (hrest : Token.EndsWord rest) :
    Writes same (Number.text x).toList [.num x] rest := by
  cases htext : (Number.text x).toList with
  | nil => exact absurd htext (Number.text_ne_nil x)
  | cons c run =>
    -- A sign or an exponent would end the run, so the digits must be all.
    have hrun : ∀ d ∈ c :: run, Token.isNumberChar d = true := by
      intro d hd
      simpa [Token.isNumberChar] using hchars d (htext ▸ hd)
    refine writes_piece .number (Number.text x) (Token.cut?_number hrun hrest) ?_ rfl ?_
    · intro line
      rw [← htext, Token.Piece.token?, String.ofList_toList]
    · intro line
      exact .num hback

/-- A readable term writes itself. -/
theorem writes_print {t : Term} (h : t.Readable same) (hrest : Token.EndsWord rest) :
    Writes same t.print.toList [t] rest := by
  induction h generalizing rest with
  | bool value =>
    cases value with
    | true =>
      exact writes_reserved "true" .boolean (by simp) rfl rfl (fun _ => rfl) (.bool true) hrest
    | false =>
      exact writes_reserved "false" .boolean (by simp) rfl rfl (fun _ => rfl) (.bool false) hrest
  | nil => exact writes_reserved "nil" .nil (by simp) rfl rfl (fun _ => rfl) .nil hrest
  | str quote backslash => exact writes_str quote backslash
  | num chars back => exact writes_num chars back hrest
  | sym line plain => exact writes_sym plain line hrest
  | @list items _ ih =>
    -- The last item stands in front of the parenthesis, not of the end.
    have hitems : Writes same (" ".intercalate (items.map Term.print)).toList items
        (')' :: rest) :=
      writes_intercalate rfl (by decide) items (fun t ht rest hrest => ih t ht hrest) _
        (Token.endsWord_cons (by decide) rest)
    simpa [Term.print] using hitems.list

end kinds

/-! ## The round trip -/

/-- Printing readable terms one per line and reading the text gives the terms
    back, up to lines, whatever numbers count as the same. -/
theorem parse_printLines (same : Float → Float → Prop) (ts : List Term)
    (h : ∀ t ∈ ts, t.Readable same) :
    ∃ forms, Term.parse (Term.printLines ts) = .ok forms ∧
      List.Forall₂ (Term.Alike same) forms ts := by
  have hwrites : Writes same (Term.printLines ts).toList ts [] :=
    writes_intercalate rfl (by decide) ts (fun t ht rest hrest => writes_print (h t ht) hrest) []
      Token.endsWord_nil
  obtain ⟨tokens, line', forms, halike, hspells, hscan⟩ := hwrites 1
  have htokens : Token.scan (Term.printLines ts) = .ok tokens := by
    rw [List.append_nil, Token.scanFrom_nil] at hscan
    simpa [Token.scan, Except.map] using hscan
  have hreads : Reads 0 tokens forms [] := by
    simpa using hspells 0 [] [] [] .nothing
  refine ⟨forms, ?_, halike⟩
  rw [Term.parse, htokens]
  exact ofTokens_of_reads hreads

/-- The round trip of `(a'b (4.5 ()) "(;\n")` and `true`. -/
theorem parse_printLines_nested :
    (∀ t ∈ [Term.list [.sym "a'b" 7, .list [.num 4.5, .list []], .str "(;\n"], .bool true],
      t.Readable Eq) ∧
    ∃ forms, Term.parse (Term.printLines
        [.list [.sym "a'b" 7, .list [.num 4.5, .list []], .str "(;\n"], .bool true]) = .ok forms ∧
      List.Forall₂ (Term.Alike Eq) forms
        [.list [.sym "a'b" 7, .list [.num 4.5, .list []], .str "(;\n"], .bool true] := by
  have hname : PlainName "a'b" := by
    refine ⟨by decide, ?_, by simp, by decide⟩
    intro c hc
    simp at hc
    rcases hc with rfl | rfl | rfl <;> decide
  have htext : Number.text 4.5 = "4.5" := by decide +kernel
  have hback : Number.ofText "4.5" = 4.5 := by decide +kernel
  have hnumber : (Term.num 4.5).Readable Eq := by
    refine .num ?_ ?_
    · intro c hc
      rw [htext] at hc
      simp at hc
      rcases hc with rfl | rfl | rfl <;> decide
    · rw [htext, hback]
  have hall : ∀ t ∈ [Term.list [.sym "a'b" 7, .list [.num 4.5, .list []], .str "(;\n"],
      .bool true], t.Readable Eq := by
    intro t ht
    simp only [List.mem_cons, List.not_mem_nil, or_false] at ht
    rcases ht with rfl | rfl
    · refine .list fun u hu => ?_
      simp only [List.mem_cons, List.not_mem_nil, or_false] at hu
      rcases hu with rfl | rfl | rfl
      · exact .sym 7 hname
      · refine .list fun v hv => ?_
        simp only [List.mem_cons, List.not_mem_nil, or_false] at hv
        rcases hv with rfl | rfl
        · exact hnumber
        · exact .list fun w hw => absurd hw List.not_mem_nil
      · exact .str (by decide) (by decide)
    · exact .bool true
  exact ⟨hall, parse_printLines Eq _ hall⟩

end MiniLisp
