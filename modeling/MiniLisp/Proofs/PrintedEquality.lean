import MiniLisp.Proofs.LexicalGrammar
import MiniLisp.Proofs.RoundTrip
import MiniLisp.Session

/-! # Equality of printed forms

    Two terms count as equal when they print as the same text, and nothing in
    that text is escaped. On data this is no accident: the text of a term tells
    where the term ends and what it is. A word ends where no character of a
    symbol follows, a string ends at the next quote, and a list where a
    parenthesis stands in place of a space.

    * **`Term.Comparable`** — data without a quote in its strings and without
      names that look like a number;
    * **`Term.SameData`** — data that differs in lines only;
    * **`Term.Comparable.recoverable`** — the text of a term determines it,
      whatever stands after it;
    * **`equal_iff_sameData`** — what equality decides. -/

namespace MiniLisp

/-! ## Data that can be compared -/

/-- A name that is one token by itself, a symbol, and that no number is written
    as. -/
structure SymbolName (name : String) : Prop where
  read : ∃ line, Token.scan name = .ok [⟨.symbol, some name, line⟩]
  no_number : ∀ x, Number.text x ≠ name

namespace Term

/-- Data that is written as a single word. -/
inductive Word : Term → Prop where
  | bool (value : Bool) : Word (.bool value)
  | nil : Word .nil
  | num (x : Float) : Word (.num x)
  | sym {name : String} (line : Nat) (h : SymbolName name) : Word (.sym name line)

/-- Data that its printed form can be told from. -/
inductive Comparable : Term → Prop where
  | word {t : Term} (h : t.Word) : Comparable t
  | str {text : String} (quote : '"' ∉ text.toList) : Comparable (.str text)
  | list {items : List Term} (all : ∀ t ∈ items, Comparable t) : Comparable (.list items)

/-- The same data: all that may differ is the lines of symbols, and numbers
    that are written alike. -/
abbrev SameData : Term → Term → Prop :=
  Alike fun x y => Number.text x = Number.text y

end Term

/-! ## The characters of a number -/

/-- The characters besides digits that a number may be written with. -/
def numeralLetters : List Char :=
  ['.', 'e', '+', '-', 'N', 'a', 'I', 'n', 'f', 'i', 't', 'y']

/-- All characters of the text may stand in the text of a number. -/
def IsNumeral (text : List Char) : Prop :=
  ∀ c ∈ text, c.isDigit = true ∨ c ∈ numeralLetters

section numerals

variable {digits text more : List Char} {c : Char}

theorem isNumeral_append (h : IsNumeral text) (h' : IsNumeral more) : IsNumeral (text ++ more) :=
  List.forall_mem_append.2 ⟨h, h'⟩

theorem isNumeral_cons (hc : c ∈ numeralLetters) (h : IsNumeral text) : IsNumeral (c :: text) :=
  List.forall_mem_cons.2 ⟨.inr hc, h⟩

theorem isNumeral_digits (n : Nat) : IsNumeral (Nat.toDigits 10 n) :=
  fun _ hc => .inl (Nat.isDigit_of_mem_toDigits (by decide) (by decide) hc)

theorem isNumeral_zeros (count : Nat) : IsNumeral (DecimalStyle.zeros count) := by
  intro c hc
  rw [List.eq_of_mem_replicate hc]
  exact .inl (by decide)

theorem isNumeral_positional (h : IsNumeral digits) (leading : Int) :
    IsNumeral (Number.style.positional digits leading) := by
  unfold DecimalStyle.positional
  split
  · have hplaces := isNumeral_append (isNumeral_zeros (-leading - 1).toNat) h
    exact List.forall_mem_cons.2 ⟨.inl (by decide), isNumeral_cons (by decide) hplaces⟩
  · dsimp only
    split
    · -- A whole number has no mark after its digits.
      have hmark : Number.style.wholeMark.toList = [] := rfl
      rw [hmark, List.append_nil]
      exact isNumeral_append h (isNumeral_zeros _)
    · have hwhole : IsNumeral (digits.take (leading.toNat + 1)) :=
        fun c hc => h c (List.mem_of_mem_take hc)
      have hplaces : IsNumeral (digits.drop (leading.toNat + 1)) :=
        fun c hc => h c (List.mem_of_mem_drop hc)
      exact isNumeral_append hwhole (isNumeral_cons (by decide) hplaces)

theorem isNumeral_scientific (h : IsNumeral digits) (leading : Int) :
    IsNumeral (Number.style.scientific digits leading) := by
  have hexponent : IsNumeral (DecimalStyle.zeros
      (Number.style.exponentWidth - (Nat.toDigits 10 leading.natAbs).length) ++
        Nat.toDigits 10 leading.natAbs) :=
    isNumeral_append (isNumeral_zeros _) (isNumeral_digits _)
  unfold DecimalStyle.scientific
  dsimp only
  refine isNumeral_append ?_ (isNumeral_cons (by decide) ?_)
  · split
    · exact h
    · exact h
    · obtain ⟨hfirst, hothers⟩ := List.forall_mem_cons.1 h
      exact List.forall_mem_cons.2 ⟨hfirst, isNumeral_cons (by decide) hothers⟩
  · split
    · exact isNumeral_cons (by decide) hexponent
    · exact isNumeral_cons (by decide) hexponent

theorem isNumeral_render (d : Decimal) : IsNumeral (Number.style.render d) := by
  unfold DecimalStyle.render
  dsimp only
  split
  · exact isNumeral_positional (isNumeral_digits _) _
  · exact isNumeral_scientific (isNumeral_digits _) _

theorem isNumeral_text (x : Float) : IsNumeral (Number.text x).toList := by
  unfold Number.text
  split
  · simp [IsNumeral, numeralLetters]
  · simp [IsNumeral, numeralLetters]
  · simp [IsNumeral, numeralLetters]
  · split
    · simp [IsNumeral]
    · unfold DecimalStyle.renderParts
      rw [String.toList_ofList]
      split
      · exact isNumeral_cons (by decide) (isNumeral_render _)
      · exact isNumeral_render _

/-- The text of a number would all go into one symbol. -/
theorem IsNumeral.isSymbolChar (h : IsNumeral text) :
    ∀ c ∈ text, Token.isSymbolChar c = true := by
  intro c hc
  by_contra hno
  have hnumber := Token.not_isNumberChar_of_not_isSymbolChar (by simpa using hno)
  rcases h c hc with hdigit | hletter
  · simp [Token.isNumberChar, hdigit] at hnumber
  · have hall : ∀ d ∈ numeralLetters, Token.isSymbolChar d = true :=
      List.all_eq_true.1 (by decide)
    exact hno (hall c hletter)

theorem IsNumeral.ne_quote (h : IsNumeral text) : '"' ∉ text := by
  intro hmem
  have hno := h _ hmem
  revert hno
  decide

/-- No number is written as a word that stands for another value. -/
theorem Number.text_not_reserved (x : Float) : Number.text x ∉ ["true", "false", "nil"] := by
  have hreserved : ∀ word ∈ ["true", "false", "nil"], ¬ IsNumeral word.toList := by
    simp [IsNumeral, numeralLetters]
  intro hmem
  exact hreserved _ hmem (isNumeral_text x)

end numerals

/-! ## Words -/

/-- A text that stands on its own between separators and parentheses and is no
    string. -/
structure IsBare (text : List Char) : Prop where
  chars : ∀ c ∈ text, Token.isSymbolChar c = true
  nonempty : text ≠ []
  first : text.head? ≠ some '"'

/-- The first token of a text is a lexeme of it. -/
theorem Token.isLexeme_of_splits {before text : List Char} {t : Token} {tokens : List Token}
    (h : Splits before text (t :: tokens)) :
    ∃ lexeme rest value, IsLexeme lexeme rest t.kind value ∧
      t.text = some (String.ofList value) := by
  cases h with
  | token hgap hlexeme hrest => exact ⟨_, _, _, hlexeme, rfl⟩

namespace SymbolName

variable {name : String}

theorem isBare_and_symbolKind (h : SymbolName name) :
    IsBare name.toList ∧ Token.symbolKind name.toList = .symbol := by
  obtain ⟨line, hscan⟩ := h.read
  obtain ⟨lexeme, rest, value, hlexeme, htext⟩ :=
    Token.isLexeme_of_splits (Token.splits_of_scan hscan)
  obtain rfl : name = String.ofList value := Option.some.inj htext
  rw [String.toList_ofList]
  generalize hsymbol : TokenKind.symbol = kind at hlexeme ⊢
  cases hlexeme with
  | @symbol c run _ hc hrun hend =>
    refine ⟨⟨hrun, by simp, ?_⟩, rfl⟩
    rintro ⟨rfl⟩
    exact absurd hc.1 (by decide)
  | openParen | closeParen | unquoteSplice | unquote | quote | backquote | string | number =>
    cases hsymbol

theorem not_reserved (h : SymbolName name) : name ∉ ["true", "false", "nil"] := by
  have hkind := h.isBare_and_symbolKind.2
  intro hmem
  simp only [List.mem_cons, List.not_mem_nil, or_false] at hmem
  rcases hmem with rfl | rfl | rfl <;> exact absurd hkind (by decide)

end SymbolName

namespace Term

variable {t a b : Term}

theorem Word.isBare (h : t.Word) : IsBare t.print.toList := by
  cases h with
  | bool value => cases value <;> exact ⟨List.all_eq_true.1 (by decide), by decide, by decide⟩
  | nil => exact ⟨List.all_eq_true.1 (by decide), by decide, by decide⟩
  | num x =>
    have hnumeral := isNumeral_text x
    refine ⟨hnumeral.isSymbolChar, Number.text_ne_nil x, ?_⟩
    intro hfirst
    exact hnumeral.ne_quote (List.mem_of_mem_head? hfirst)
  | sym line h => exact h.isBare_and_symbolKind.1

/-- The reserved words are written for nothing but the values they stand for. -/
theorem Word.eq_of_reserved (h : t.Word) (hreserved : t.print ∈ ["true", "false", "nil"]) :
    t = .bool true ∨ t = .bool false ∨ t = .nil := by
  cases h with
  | bool value => cases value <;> simp
  | nil => simp
  | num x => exact absurd hreserved (Number.text_not_reserved x)
  | sym line h => exact absurd hreserved h.not_reserved

/-- Words that are written alike are the same. -/
theorem Word.sameData (ha : a.Word) (hb : b.Word) (h : a.print = b.print) : SameData a b := by
  by_cases hreserved : a.print ∈ ["true", "false", "nil"]
  · rcases ha.eq_of_reserved hreserved with rfl | rfl | rfl <;>
      rcases hb.eq_of_reserved (h ▸ hreserved) with rfl | rfl | rfl <;>
      first
        | exact .bool _
        | exact .nil
        | exact absurd h (by decide)
  · have hreserved' : b.print ∉ ["true", "false", "nil"] := h ▸ hreserved
    cases ha with
    | bool value => cases value <;> exact absurd (by decide) hreserved
    | nil => exact absurd (by decide) hreserved
    | num x =>
      cases hb with
      | bool other => cases other <;> exact absurd (by decide) hreserved'
      | nil => exact absurd (by decide) hreserved'
      | num y => exact .num h
      | sym line hname => exact absurd h (hname.no_number x)
    | @sym name line hname =>
      cases hb with
      | bool other => cases other <;> exact absurd (by decide) hreserved'
      | nil => exact absurd (by decide) hreserved'
      | num y => exact absurd h.symm (hname.no_number y)
      | sym line' _ =>
        obtain rfl : name = _ := h
        exact .sym name line line'

end Term

/-! ## Texts one after the other -/

/-- A run of characters of a class is told from what follows it. -/
theorem append_inj_of_run {p : Char → Bool} {run run' rest rest' : List Char}
    (hrun : ∀ c ∈ run, p c = true) (hrun' : ∀ c ∈ run', p c = true)
    (hrest : ∀ c ∈ rest.head?, p c = false) (hrest' : ∀ c ∈ rest'.head?, p c = false)
    (h : run ++ rest = run' ++ rest') : run = run' ∧ rest = rest' := by
  have htake := congrArg (List.takeWhile p) h
  have hdrop := congrArg (List.dropWhile p) h
  rw [Token.takeWhile_run hrun hrest, Token.takeWhile_run hrun' hrest'] at htake
  rw [Token.dropWhile_run hrun hrest, Token.dropWhile_run hrun' hrest'] at hdrop
  exact ⟨htake, hdrop⟩

/-- A word does not begin as a list or a string does, nor as a list ends. -/
theorem IsBare.append_ne_cons {text : List Char} (h : IsBare text) {c : Char}
    (hc : c ∈ ['(', ')', '"']) (rest rest' : List Char) : text ++ rest ≠ c :: rest' := by
  intro heq
  obtain ⟨d, run, rfl⟩ := List.exists_cons_of_ne_nil h.nonempty
  obtain rfl : d = c := List.head_eq_of_cons_eq heq
  have hsymbol := h.chars d List.mem_cons_self
  have hquote : d ≠ '"' := fun e => h.first (congrArg some e)
  simp at hc
  rcases hc with rfl | rfl | rfl
  · exact absurd hsymbol (by decide)
  · exact absurd hsymbol (by decide)
  · exact hquote rfl

namespace Term

variable {a b : Term} {items items' : List Term} {rest rest' : List Char}

theorem print_str (text : String) :
    (Term.str text).print.toList = '"' :: (text.toList ++ ['"']) := by
  simp [print]

/-- The printed items of a list, each after a space. -/
def spaced (items : List Term) : List Char :=
  items.flatMap fun t => ' ' :: t.print.toList

/-- The printed items of a list with a space between them. -/
def joined : List Term → List Char
  | [] => []
  | t :: others => t.print.toList ++ spaced others

theorem print_list (items : List Term) :
    (Term.list items).print.toList = '(' :: (joined items ++ [')']) := by
  have hjoined : (" ".intercalate (items.map print)).toList = joined items := by
    induction items with
    | nil => rfl
    | cons t others ih =>
      cases others with
      | nil => simp [joined, spaced]
      | cons u others =>
        rw [List.map_cons, List.map_cons, String.intercalate_cons_cons, String.toList_append,
          String.toList_append, ← List.map_cons, ih]
        simp [joined, spaced]
  simp only [print, printEach_eq_map, String.toList_append, hjoined]
  rfl

theorem endsWord_spaced (items : List Term) (rest : List Char) :
    Token.EndsWord (spaced items ++ ')' :: rest) := by
  cases items with
  | nil => exact Token.endsWord_cons (by decide) rest
  | cons t others => exact Token.endsWord_cons (by decide) _

theorem Comparable.append_ne_close (h : a.Comparable) (rest rest' : List Char) :
    a.print.toList ++ rest ≠ ')' :: rest' := by
  cases h with
  | word hword => exact hword.isBare.append_ne_cons (by simp) rest rest'
  | str quote => simp [print_str]
  | list all => simp [print_list]

/-- In front of a text that does not run into it, the text of the term tells
    which data it is and where it ends. -/
def Recoverable (a : Term) : Prop :=
  ∀ ⦃b : Term⦄, b.Comparable → ∀ ⦃rest rest' : List Char⦄, Token.EndsWord rest →
    Token.EndsWord rest' → a.print.toList ++ rest = b.print.toList ++ rest' →
    SameData a b ∧ rest = rest'

/-- Items after spaces are told from the parenthesis after them. -/
theorem forall₂_of_spaced (ih : ∀ t ∈ items, t.Recoverable) (hall : ∀ t ∈ items', t.Comparable)
    (h : spaced items ++ ')' :: rest = spaced items' ++ ')' :: rest') :
    List.Forall₂ SameData items items' ∧ rest = rest' := by
  induction items generalizing items' with
  | nil =>
    cases items' with
    | nil => exact ⟨.nil, List.tail_eq_of_cons_eq h⟩
    | cons u others' => simp [spaced] at h
  | cons t others ihOthers =>
    cases items' with
    | nil => simp [spaced] at h
    | cons u others' =>
      obtain ⟨ht, hothers⟩ := List.forall_mem_cons.1 ih
      obtain ⟨hu, hothers'⟩ := List.forall_mem_cons.1 hall
      have htexts : t.print.toList ++ (spaced others ++ ')' :: rest) =
          u.print.toList ++ (spaced others' ++ ')' :: rest') := by
        simpa [spaced] using h
      obtain ⟨hsame, htails⟩ := ht hu (endsWord_spaced _ _) (endsWord_spaced _ _) htexts
      obtain ⟨hitems, hrest⟩ := ihOthers hothers hothers' htails
      exact ⟨.cons hsame hitems, hrest⟩

theorem forall₂_of_joined (hitems : ∀ t ∈ items, t.Comparable) (ih : ∀ t ∈ items, t.Recoverable)
    (hall : ∀ t ∈ items', t.Comparable)
    (h : joined items ++ ')' :: rest = joined items' ++ ')' :: rest') :
    List.Forall₂ SameData items items' ∧ rest = rest' := by
  cases items with
  | nil =>
    cases items' with
    | nil => exact ⟨.nil, List.tail_eq_of_cons_eq h⟩
    | cons u others' =>
      have hu := hall u List.mem_cons_self
      exact absurd (by simpa [joined] using h.symm) (hu.append_ne_close _ rest)
  | cons t others =>
    cases items' with
    | nil =>
      have ht := hitems t List.mem_cons_self
      exact absurd (by simpa [joined] using h) (ht.append_ne_close _ rest')
    | cons u others' =>
      -- One more space in front makes the first items like all others.
      exact forall₂_of_spaced ih hall (congrArg (' ' :: ·) h)

/-- The induction is on the term whose text is taken apart; each kind of term
    is known by the first character of its text. -/
theorem Comparable.recoverable (h : a.Comparable) : a.Recoverable := by
  induction h with
  | @word a hword =>
    intro b hb rest rest' hrest hrest' htexts
    cases hb with
    | word hword' =>
      obtain ⟨hprint, hrests⟩ :=
        append_inj_of_run hword.isBare.chars hword'.isBare.chars hrest hrest' htexts
      exact ⟨hword.sameData hword' (String.toList_inj.1 hprint), hrests⟩
    | str quote =>
      rw [print_str] at htexts
      exact absurd htexts (hword.isBare.append_ne_cons (by simp) _ _)
    | list all =>
      rw [print_list] at htexts
      exact absurd htexts (hword.isBare.append_ne_cons (by simp) _ _)
  | @str text quote =>
    intro b hb rest rest' hrest hrest' htexts
    rw [print_str] at htexts
    cases hb with
    | word hword' => exact absurd htexts.symm (hword'.isBare.append_ne_cons (by simp) _ _)
    | @str text' quote' =>
      -- The next quote ends either string.
      have hbodies : text.toList ++ '"' :: rest = text'.toList ++ '"' :: rest' := by
        simpa [print_str] using htexts
      have hplain : ∀ {text : String}, '"' ∉ text.toList →
          ∀ c ∈ text.toList, (c != '"') = true := by
        intro text hquote c hc
        simpa using ne_of_mem_of_not_mem hc hquote
      obtain ⟨hbody, hrests⟩ := append_inj_of_run (hplain quote) (hplain quote')
        (by simp) (by simp) hbodies
      obtain rfl := String.toList_inj.1 hbody
      exact ⟨.str text, List.tail_eq_of_cons_eq hrests⟩
    | list all =>
      rw [print_list] at htexts
      cases htexts
  | @list items all ih =>
    intro b hb rest rest' hrest hrest' htexts
    rw [print_list] at htexts
    cases hb with
    | word hword' => exact absurd htexts.symm (hword'.isBare.append_ne_cons (by simp) _ _)
    | str quote =>
      rw [print_str] at htexts
      cases htexts
    | @list items' all' =>
      have hitems : joined items ++ ')' :: rest = joined items' ++ ')' :: rest' := by
        simpa [print_list] using htexts
      obtain ⟨hsame, hrests⟩ := forall₂_of_joined all ih all' hitems
      exact ⟨.list hsame, hrests⟩

/-- The same data is written the same. -/
theorem SameData.print_eq (ha : a.Comparable) (h : SameData a b) : a.print = b.print := by
  induction ha generalizing b with
  | word hword =>
    cases hword with
    | num x =>
      cases h with
      | num htext => exact htext
    | bool | nil | sym =>
      cases h
      rfl
  | str =>
    cases h
    rfl
  | @list items all ih =>
    cases h with
    | @list _ items' hsame =>
      have hprints : items.map print = items'.map print := by
        induction hsame with
        | nil => rfl
        | cons hfirst _ ihOthers =>
          obtain ⟨hhead, htail⟩ := List.forall_mem_cons.1 ih
          rw [List.map_cons, List.map_cons, hhead hfirst,
            ihOthers (List.forall_mem_cons.1 all).2 htail]
      simp only [print, printEach_eq_map, hprints]

/-- On comparable data printing forgets nothing but lines. -/
theorem print_eq_iff_sameData (ha : a.Comparable) (hb : b.Comparable) :
    a.print = b.print ↔ SameData a b := by
  constructor
  · intro h
    have htexts : a.print.toList ++ [] = b.print.toList ++ [] := by
      rw [h]
    exact (ha.recoverable hb Token.endsWord_nil Token.endsWord_nil htexts).1
  · exact SameData.print_eq ha

end Term

/-! ## Equality -/

section equality

variable {a b : Term} {turns depth : Nat}

/-- Equality prints both arguments, for which their lists must fit the room. -/
theorem callEqual_pair (p : Passes) (a b : Term) (s : State) :
    Builtin.callEqual p [a, b] s =
      if max a.depth b.depth ≤ p.room then .ok (.bool (a.print == b.print)) s
      else .error .exhausted s := by
  unfold Builtin.callEqual Passes.print Term.printWithin
  by_cases ha : a.depth ≤ p.room
  · by_cases hb : b.depth ≤ p.room
    · simp only [if_pos ha, if_pos hb, if_pos (Nat.max_le.2 ⟨ha, hb⟩)]
      rfl
    · simp only [if_pos ha, if_neg hb, if_neg (fun h => hb (Nat.max_le.1 h).2)]
      rfl
  · simp only [if_neg ha, if_neg (fun h => ha (Nat.max_le.1 h).1)]
    rfl

/-- Equality of comparable data is sameness of data. It changes nothing, and
    lists that are too deep for the recursion are all that it fails on. -/
theorem equal_iff_sameData [Host.Platform]
    (ha : a.Comparable) (hb : b.Comparable) (turns depth : Nat)
    (scope : ScopeId) (s : State) :
    ((passes turns (depth + 1)).call (.builtin .equal) [a, b] scope s = .ok (.bool true) s ↔
      max a.depth b.depth ≤ depth ∧ Term.SameData a b) ∧
    ((passes turns (depth + 1)).call (.builtin .equal) [a, b] scope s = .ok (.bool false) s ↔
      max a.depth b.depth ≤ depth ∧ ¬ Term.SameData a b) ∧
    ((passes turns (depth + 1)).call (.builtin .equal) [a, b] scope s = .error .exhausted s ↔
      depth < max a.depth b.depth) := by
  have hcall : (passes turns (depth + 1)).call (.builtin .equal) [a, b] scope s =
      Builtin.callEqual (passes turns depth) [a, b] s := rfl
  rw [hcall, callEqual_pair, room_passes, ← Term.print_eq_iff_sameData ha hb]
  generalize max a.depth b.depth = nesting
  by_cases hroom : nesting ≤ depth
  · have hnot : ¬ depth < nesting := Nat.not_lt.2 hroom
    by_cases hprint : a.print = b.print <;> simp [hroom, hnot, hprint]
  · have hless : depth < nesting := Nat.lt_of_not_le hroom
    simp [hroom, hless]

/-- A symbol with a quote in it, next to a string with a parenthesis and a
    backslash, is equal to itself on another line, and not to a string. -/
theorem equal_iff_sameData_quoted :
    let t (line : Nat) : Term := .list [.sym "a\"b" line, .str "\\) (", .list [], .num 1.5]
    let u : Term := .list [.str "a", .str "\\) (", .list [], .num 1.5]
    let s := State.root (Console.ofLines []) 0 0
    (t 1).Comparable ∧ (t 2).Comparable ∧ u.Comparable ∧
      (passes 0 3).call (.builtin .equal) [t 1, t 2] rootScope s = .ok (.bool true) s ∧
      (passes 0 3).call (.builtin .equal) [t 1, u] rootScope s = .ok (.bool false) s := by
  intro t u s
  have hname : SymbolName "a\"b" := by
    refine ⟨⟨1, by decide +kernel⟩, fun x hx => ?_⟩
    have hno : ¬ IsNumeral "a\"b".toList := by
      simp [IsNumeral, numeralLetters]
    exact hno (hx ▸ isNumeral_text x)
  have hempty : (Term.list []).Comparable := .list (by simp)
  have hnumber : (Term.num 1.5).Comparable := .word (.num 1.5)
  have ht : ∀ line, (t line).Comparable := by
    intro line
    refine .list ?_
    simp only [List.forall_mem_cons]
    exact ⟨.word (.sym line hname), .str (by decide), hempty, hnumber, by simp⟩
  have hu : u.Comparable := by
    refine .list ?_
    simp only [List.forall_mem_cons]
    exact ⟨.str (by decide), .str (by decide), hempty, hnumber, by simp⟩
  have hsame : Term.SameData (t 1) (t 2) :=
    .list (.cons (.sym _ 1 2) (.cons (.str _) (.cons (.list .nil) (.cons (.num rfl) .nil))))
  have hother : ¬ Term.SameData (t 1) u := by
    intro (h : Term.SameData (.list (.sym _ _ :: _)) (.list (.str _ :: _)))
    cases h with
    | list h =>
      cases h with
      | cons hfirst _ => cases hfirst
  refine ⟨ht 1, ht 2, hu, ?_, ?_⟩
  · exact (equal_iff_sameData (ht 1) (ht 2) 0 2 rootScope s).1.2 ⟨by decide, hsame⟩
  · exact (equal_iff_sameData (ht 1) hu 0 2 rootScope s).2.1.2 ⟨by decide, hother⟩

end equality

end MiniLisp
