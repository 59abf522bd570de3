import MiniLisp.Proofs.Grammar
import MiniLisp.Proofs.LexicalGrammar
import MiniLisp.Proofs.ReadTerms

/-! # Reading texts one after the other

    Two texts with a line break between them are read as the one and then the
    other, provided that the first one can be read by itself and leaves no list
    open. No piece of the first text runs over the line break, no `)` and no
    mark of the second one meets anything of the first, and all that the second
    one owes to its place is the lines that it stands on.

    * **`Term.shiftLines`** — a form that is moved down by some lines;
    * **`LeavesNoListOpen`** — texts that close what they open;
    * **`Token.scan_joined`**, **`Term.ofTokens_append`** — tokens and forms of
      two parts;
    * **`joined_texts_read_apart`** — reading joined texts, and what that means for a text
      that is the prelude of the other. -/

namespace MiniLisp

/-! ## Moving down -/

/-- The same token some lines further down. -/
def Token.shiftLines (n : Nat) (t : Token) : Token :=
  { t with line := t.line + n }

mutual

/-- The same term with all symbols some lines further down. -/
def Term.shiftLines (n : Nat) : Term → Term
  | .sym name line => .sym name (line + n)
  | .list items => .list (Term.shiftAll n items)
  | t => t

/-- The same terms with all symbols some lines further down. -/
def Term.shiftAll (n : Nat) : List Term → List Term
  | [] => []
  | t :: rest => t.shiftLines n :: Term.shiftAll n rest

end

mutual

/-- The same draft some lines further down. -/
def Draft.shiftLines (n : Nat) : Draft → Draft
  | .atom t => .atom (t.shiftLines n)
  | .mark m line => .mark m (line + n)
  | .list items => .list (Draft.shiftAll n items)

/-- The same drafts some lines further down. -/
def Draft.shiftAll (n : Nat) : List Draft → List Draft
  | [] => []
  | d :: rest => d.shiftLines n :: Draft.shiftAll n rest

end

/-- The same read error some lines further down. -/
def ReadError.shiftLines (n : Nat) : ReadError → ReadError
  | .openString line => .openString (line + n)
  | .danglingMark m line => .danglingMark m (line + n)
  | .endOfInput => .endOfInput

/-- The same stop with a read error some lines further down. -/
def Stop.shiftLines (n : Nat) : Stop → Stop
  | .error (.read e) => .error (.read (e.shiftLines n))
  | stop => stop

theorem Term.shiftAll_eq_map (n : Nat) (ts : List Term) :
    Term.shiftAll n ts = ts.map (Term.shiftLines n) := by
  induction ts with
  | nil => rfl
  | cons t rest ih => rw [shiftAll, ih, List.map_cons]

theorem Draft.shiftAll_eq_map (n : Nat) (ds : List Draft) :
    Draft.shiftAll n ds = ds.map (Draft.shiftLines n) := by
  induction ds with
  | nil => rfl
  | cons d rest ih => rw [shiftAll, ih, List.map_cons]

theorem Draft.shiftLines_list (n : Nat) (ds : List Draft) :
    (Draft.list ds).shiftLines n = .list (ds.map (Draft.shiftLines n)) := by
  rw [Draft.shiftLines, shiftAll_eq_map]

/-! ### Tokens further down -/

namespace Token

/-- A text that begins some lines further down has the same tokens, and they
    stand on the lines further down. -/
theorem scanFrom_shiftLines (n line : Nat) (text : List Char) :
    scanFrom (line + n) text =
      ((scanFrom line text).mapError (ReadError.shiftLines n)).map (List.map (shiftLines n)) := by
  induction hn : text.length using Nat.strongRecOn generalizing line text with
  | ind k ih =>
    cases text with
    | nil =>
      rw [scanFrom_nil, scanFrom_nil]
      rfl
    | cons c rest =>
      cases hcut : cut? c rest with
      | none =>
        have hopen : ∀ line, scanFrom line (c :: rest) = .error (.openString line) := by
          intro line
          rw [scanFrom]
          split
          · rfl
          · next hsome =>
            rw [hcut] at hsome
            cases hsome
        rw [hopen, hopen]
        rfl
      | some cutOff =>
        obtain ⟨piece, after⟩ := cutOff
        have hlt := length_lt_of_cut? hcut
        have hafter : piece.lineAfter (line + n) = piece.lineAfter line + n := by
          unfold Piece.lineAfter
          omega
        have htoken : (piece.token? (line + n)).toList =
            ((piece.token? line).toList).map (shiftLines n) := by
          cases piece <;> rfl
        rw [scanFrom_cut hcut, scanFrom_cut hcut, hafter,
          ih after.length (hn ▸ hlt) (piece.lineAfter line) after rfl, htoken]
        cases scanFrom (piece.lineAfter line) after with
        | error e => rfl
        | ok tokens => exact congrArg Except.ok List.map_append.symm

end Token

/-! ### Forms further down -/

namespace Draft

variable {n : Nat}

theorem ofAtom_shiftLines (n : Nat) {t : Token} (kind : t.kind.isAtom = true) :
    ofAtom (t.shiftLines n) = (ofAtom t).shiftLines n := by
  obtain ⟨k, text, line⟩ := t
  cases k <;> cases kind <;> rfl

theorem closeAll_shiftLines (n : Nat) (items : List Draft) (outer : List (List Draft)) :
    closeAll (items.map (shiftLines n)) (outer.map (List.map (shiftLines n))) =
      (closeAll items outer).map (shiftLines n) := by
  induction outer generalizing items with
  | nil => simp [closeAll]
  | cons around rest ih =>
    rw [List.map_cons, closeAll, closeAll, ← ih, List.map_cons, shiftLines_list, List.map_reverse]

theorem build_shiftLines (n : Nat) (tokens : List Token) (items : List Draft)
    (outer : List (List Draft)) :
    build (items.map (shiftLines n)) (outer.map (List.map (shiftLines n)))
        (tokens.map (Token.shiftLines n)) =
      (build items outer tokens).map (shiftLines n) := by
  induction tokens generalizing items outer with
  | nil => exact closeAll_shiftLines n items outer
  | cons t tokens ih =>
    have hkind : (t.shiftLines n).kind = t.kind := rfl
    rw [List.map_cons]
    rcases t.kind.openClose_or_mark_or_atom with kind | kind | ⟨m, kind⟩ | kind
    · rw [build_open (hkind.trans kind), build_open kind]
      exact ih [] (items :: outer)
    · cases outer with
      | nil =>
        rw [build_stray kind, ← ih]
        exact build_stray (hkind.trans kind)
      | cons around rest =>
        rw [build_close kind, ← ih, List.map_cons, build_close (hkind.trans kind), List.map_cons,
          shiftLines_list, List.map_reverse]
    · rw [build_mark (hkind.symm ▸ kind), build_mark kind, ← ih]
      rfl
    · rw [build_atom (hkind.symm ▸ kind), build_atom kind, ← ih, ofAtom_shiftLines n kind]
      rfl

/-- What the second pass makes of a draft further down, given the terms after
    it. -/
def PlacesShifted (n : Nat) (d : Draft) : Prop :=
  ∀ after, place (d.shiftLines n) (after.map (Term.shiftLines n)) =
    ((place d after).mapError (ReadError.shiftLines n)).map (List.map (Term.shiftLines n))

mutual

theorem join_shiftLines (n : Nat) : (ds : List Draft) →
    join (ds.map (shiftLines n)) =
      ((join ds).mapError (ReadError.shiftLines n)).map (List.map (Term.shiftLines n))
  | [] => rfl
  | d :: rest => by
    have hrest := join_shiftLines n rest
    rw [List.map_cons]
    cases hjoin : join rest with
    | error e =>
      rw [hjoin] at hrest
      rw [join_cons_error hrest, join_cons_error hjoin]
      rfl
    | ok after =>
      rw [hjoin] at hrest
      rw [join_cons_ok hrest, join_cons_ok hjoin]
      exact place_shiftLines n d after

theorem place_shiftLines (n : Nat) : (d : Draft) → PlacesShifted n d
  | .atom t => fun after => rfl
  | .mark m line => fun after => by
    cases after with
    | nil => rfl
    | cons t rest =>
      rw [shiftLines, List.map_cons, place, place]
      rfl
  | .list items => fun after => by
    have hitems := join_shiftLines n items
    rw [shiftLines_list, place_list, place_list, hitems]
    cases join items with
    | error e => rfl
    | ok inner =>
      refine congrArg Except.ok (congrArg (· :: after.map (Term.shiftLines n)) ?_)
      rw [Term.shiftLines, Term.shiftAll_eq_map]

end

end Draft

theorem Term.ofTokens_shiftLines (n : Nat) (tokens : List Token) :
    Term.ofTokens (tokens.map (Token.shiftLines n)) =
      ((Term.ofTokens tokens).mapError (ReadError.shiftLines n)).map
        (List.map (Term.shiftLines n)) := by
  have hbuild := Draft.build_shiftLines n tokens [] []
  rw [Term.ofTokens, Draft.ofTokens]
  rw [List.map_nil, List.map_nil] at hbuild
  rw [hbuild, Draft.join_shiftLines]
  rfl

/-! ## Tokens of two texts

    A line break ends every piece but a string and belongs to none that a text
    can end with. So a text that is split by itself is split in the same way in
    front of a line break. -/

namespace Token

theorem IsGap.beforeBreak {gap rest : List Char} (h : IsGap gap rest) (more : List Char) :
    IsGap gap (rest ++ '\n' :: more) := by
  induction h with
  | nil rest => exact .nil _
  | separator hc _ ih => exact .separator hc ih
  | @comment text gap rest htext hend _ ih =>
    refine .comment htext ?_ ih
    intro c hc
    rw [← List.append_assoc, List.head?_append] at hc
    -- Where the text ends with the comment, the line break comes next.
    cases hhead : (gap ++ rest).head? with
    | none =>
      rw [hhead] at hc
      cases hc
      rfl
    | some d =>
      rw [hhead] at hc hend
      cases hc
      exact hend _ rfl

/-- A run that ends where a text ends also ends before a line break. -/
theorem stops_beforeBreak {p : Char → Bool} (hbreak : p '\n' = false) {rest : List Char}
    (h : ∀ d ∈ rest.head?, p d = false) (more : List Char) :
    ∀ d ∈ (rest ++ '\n' :: more).head?, p d = false := by
  intro d hd
  cases rest with
  | nil =>
    cases hd
    exact hbreak
  | cons c rest => exact h d hd

theorem IsLexeme.beforeBreak {lexeme rest value : List Char} {kind : TokenKind}
    (h : IsLexeme lexeme rest kind value) (more : List Char) :
    IsLexeme lexeme (rest ++ '\n' :: more) kind value := by
  cases h with
  | openParen => exact .openParen _
  | closeParen => exact .closeParen _
  | unquoteSplice => exact .unquoteSplice _
  | unquote hat =>
    refine .unquote ?_
    cases rest with
    | nil => exact fun h => nomatch h
    | cons c rest => exact hat
  | quote => exact .quote _
  | backquote => exact .backquote _
  | string _ hbody hvalue => exact .string _ hbody hvalue
  | number hrun hend => exact .number hrun (stops_beforeBreak (by decide) hend more)
  | symbol hc hrun hend => exact .symbol hc hrun (stops_beforeBreak (by decide) hend more)

/-- The scanner goes through a text and over the line break after it. -/
theorem scanFrom_joined {before text : List Char} {tokens : List Token}
    (h : Splits before text tokens) (more : List Char) :
    scanFrom (lineAfter before) (text ++ '\n' :: more) =
      (scanFrom (lineAfter (before ++ text) + 1) more).map (tokens ++ ·) := by
  induction h with
  | @done before gap hgap =>
    have hbreak : isSeparator '\n' = true := by decide
    have hgap' : IsGap gap ('\n' :: more) := hgap.beforeBreak more
    have hone : ['\n'].count '\n' = 1 := rfl
    rw [scanFrom_isGap hgap', scanFrom_separator hbreak, ← lineAfter_append, hone]
    cases scanFrom (lineAfter (before ++ gap) + 1) more <;> rfl
  | @token before gap lexeme rest value kind tokens hgap hlexeme _ ih =>
    have hgap' := hgap.beforeBreak more
    rw [List.append_assoc] at hgap'
    rw [List.append_assoc, List.append_assoc, scanFrom_isGap hgap', ← lineAfter_append,
      scanFrom_isLexeme (hlexeme.beforeBreak more), ← lineAfter_append, ih]
    simp only [List.append_assoc]
    cases scanFrom (lineAfter (before ++ (gap ++ (lexeme ++ rest))) + 1) more <;> rfl

/-- How many lines further down a text begins after another one and a line
    break. -/
def linesBefore (text : String) : Nat :=
  1 + text.toList.count '\n'

/-- The tokens of two joined texts are those of the one and those of the other,
    which stand further down. -/
theorem scan_joined {p : String} {tokens : List Token} (hp : scan p = .ok tokens) (q : String) :
    scan (p ++ "\n" ++ q) =
      ((scan q).mapError (ReadError.shiftLines (linesBefore p))).map
        fun more => tokens ++ more.map (shiftLines (linesBefore p)) := by
  have htext : (p ++ "\n" ++ q).toList = p.toList ++ '\n' :: q.toList := by
    rw [String.toList_append, String.toList_append]
    simp
  have hline : lineAfter p.toList + 1 = 1 + linesBefore p := by
    unfold lineAfter linesBefore
    omega
  have hjoined := scanFrom_joined (splits_of_scan hp) q.toList
  rw [List.nil_append, hline, scanFrom_shiftLines] at hjoined
  rw [scan, htext]
  refine hjoined.trans ?_
  rw [scan]
  cases scanFrom 1 q.toList <;> rfl

end Token

/-! ## Forms of two sequences of tokens -/

namespace Draft

/-- What stands at the bottom of the open lists comes out first. -/
theorem closeAll_onto (below items : List Draft) (outer : List (List Draft)) :
    closeAll (items ++ below) [] = below.reverse ++ closeAll items [] ∧
      ∀ around, closeAll items (outer ++ [around ++ below]) =
        below.reverse ++ closeAll items (outer ++ [around]) := by
  constructor
  · simp [closeAll]
  · intro around
    induction outer generalizing items with
    | nil => simp [closeAll]
    | cons inner rest ih => exact ih _

/-- Tokens are built onto what there is, which stays as it is. -/
theorem build_onto (below : List Draft) (tokens : List Token) (items : List Draft)
    (outer : List (List Draft)) :
    build (items ++ below) [] tokens = below.reverse ++ build items [] tokens ∧
      ∀ around, build items (outer ++ [around ++ below]) tokens =
        below.reverse ++ build items (outer ++ [around]) tokens := by
  induction tokens generalizing items outer with
  | nil => exact closeAll_onto below items outer
  | cons t tokens ih =>
    rcases t.kind.openClose_or_mark_or_atom with kind | kind | ⟨m, kind⟩ | kind
    · constructor
      · rw [build_open kind, build_open kind]
        exact (ih [] []).2 items
      · intro around
        rw [build_open kind, build_open kind]
        exact (ih [] (items :: outer)).2 around
    · constructor
      · rw [build_stray kind, build_stray kind]
        exact (ih items []).1
      · intro around
        -- The list that ends may be the one right above the bottom.
        cases outer with
        | nil =>
          rw [List.nil_append, List.nil_append, build_close kind, build_close kind]
          exact (ih (.list items.reverse :: around) []).1
        | cons inner rest =>
          rw [List.cons_append, List.cons_append, build_close kind, build_close kind]
          exact (ih (.list items.reverse :: inner) rest).2 around
    · constructor
      · rw [build_mark kind, build_mark kind]
        exact (ih (.mark m t.line :: items) []).1
      · intro around
        rw [build_mark kind, build_mark kind]
        exact (ih (.mark m t.line :: items) outer).2 around
    · constructor
      · rw [build_atom kind, build_atom kind]
        exact (ih (.atom (ofAtom t) :: items) []).1
      · intro around
        rw [build_atom kind, build_atom kind]
        exact (ih (.atom (ofAtom t) :: items) outer).2 around

/-- Where no list is left open, the drafts of two parts are those of the one
    and those of the other. -/
theorem ofTokens_append {tokens : List Token} (hclosed : openLists 0 tokens = 0)
    (more : List Token) : ofTokens (tokens ++ more) = ofTokens tokens ++ ofTokens more := by
  obtain ⟨items, outer, hdepth, hbuild⟩ := build_append tokens [] []
  rw [List.length_nil, hclosed] at hdepth
  cases List.length_eq_zero_iff.1 hdepth
  have hmore : ofTokens (tokens ++ more) = items.reverse ++ ofTokens more := by
    rw [ofTokens, hbuild]
    exact (build_onto items more [] []).1
  have hnone : ofTokens tokens = items.reverse := by
    have happend := hbuild []
    rw [List.append_nil] at happend
    exact happend
  rw [hmore, hnone]

/-- A draft that is placed before some terms by itself is placed before more
    of them in the same way. -/
theorem place_append {d : Draft} {after joined : List Term} (h : place d after = .ok joined)
    (more : List Term) : place d (after ++ more) = .ok (joined ++ more) := by
  cases d with
  | atom t =>
    cases h
    rfl
  | mark m line =>
    cases after with
    | nil => cases h
    | cons t rest =>
      cases h
      rfl
  | list items =>
    rw [place_list] at h ⊢
    cases hitems : join items with
    | error e =>
      rw [hitems] at h
      cases h
    | ok inner =>
      rw [hitems] at h
      cases h
      rfl

theorem join_append {ds : List Draft} {joined : List Term} (h : join ds = .ok joined)
    (es : List Draft) : join (ds ++ es) = (join es).map (joined ++ ·) := by
  induction ds generalizing joined with
  | nil =>
    cases h
    rw [List.nil_append]
    cases join es <;> rfl
  | cons d rest ih =>
    cases hrest : join rest with
    | error e =>
      rw [join_cons_error hrest] at h
      cases h
    | ok after =>
      rw [join_cons_ok hrest] at h
      have hboth := ih hrest
      rw [List.cons_append]
      cases hmore : join es with
      | error e =>
        rw [hmore] at hboth
        exact join_cons_error hboth
      | ok more =>
        rw [hmore] at hboth
        rw [join_cons_ok hboth]
        exact place_append h more

theorem nesting_shiftLines (n now : Nat) (tokens : List Token) :
    nesting now (tokens.map (Token.shiftLines n)) = nesting now tokens := by
  induction tokens generalizing now with
  | nil => rfl
  | cons t tokens ih =>
    have hkind : (t.shiftLines n).kind = t.kind := rfl
    rw [List.map_cons, nesting, nesting, hkind, ih, ih, ih]

end Draft

/-- Where no list is left open, two parts are read as the one and the other. -/
theorem Term.ofTokens_append {tokens : List Token} {forms : List Term}
    (htokens : Term.ofTokens tokens = .ok forms) (hclosed : openLists 0 tokens = 0)
    (more : List Token) :
    Term.ofTokens (tokens ++ more) = (Term.ofTokens more).map (forms ++ ·) := by
  rw [Term.ofTokens, Draft.ofTokens_append hclosed]
  exact Draft.join_append htokens _

/-- The same where the other part stands further down. -/
theorem Term.ofTokens_joined {tokens : List Token} {forms : List Term}
    (htokens : Term.ofTokens tokens = .ok forms) (hclosed : openLists 0 tokens = 0) (n : Nat)
    (more : List Token) :
    Term.ofTokens (tokens ++ more.map (Token.shiftLines n)) =
      ((Term.ofTokens more).mapError (ReadError.shiftLines n)).map
        fun others => forms ++ others.map (Term.shiftLines n) := by
  rw [ofTokens_append htokens hclosed, ofTokens_shiftLines]
  cases Term.ofTokens more <;> rfl

/-! ## Joined texts -/

/-- A text that closes all lists that it opens. -/
def LeavesNoListOpen (text : String) : Prop :=
  ∀ tokens, Token.scan text = .ok tokens → openLists 0 tokens = 0

section Joined

variable {p : String} {forms : List Term}

theorem Term.parse_joined (hp : Term.parse p = .ok forms) (hclosed : LeavesNoListOpen p)
    (q : String) :
    Term.parse (p ++ "\n" ++ q) =
      ((Term.parse q).mapError (ReadError.shiftLines (Token.linesBefore p))).map
        fun others => forms ++ others.map (Term.shiftLines (Token.linesBefore p)) := by
  obtain ⟨tokens, hscan, hreads⟩ := Term.reads_of_parse hp
  have htokens : Term.ofTokens tokens = .ok forms := ofTokens_of_reads hreads
  have hjoined := Term.ofTokens_joined htokens (hclosed tokens hscan) (Token.linesBefore p)
  rw [Term.parse, Token.scan_joined hscan, Term.parse]
  cases Token.scan q with
  | error e => rfl
  | ok more => exact hjoined more

/-- Joined texts need as much room as the one of them that needs more. -/
theorem Term.parseWithin_joined {room : Nat} (hp : Term.parseWithin room p = .ok forms)
    (hclosed : LeavesNoListOpen p) (q : String) :
    Term.parseWithin room (p ++ "\n" ++ q) =
      ((Term.parseWithin room q).mapError (Stop.shiftLines (Token.linesBefore p))).map
        fun others => forms ++ others.map (Term.shiftLines (Token.linesBefore p)) := by
  obtain ⟨tokens, hscan, hreads⟩ := Term.reads_of_parse (Term.parse_of_parseWithin hp)
  have htokens : Term.ofTokens tokens = .ok forms := ofTokens_of_reads hreads
  have hopen : openLists 0 tokens = 0 := hclosed tokens hscan
  have hfits : Draft.nesting 0 tokens ≤ room := by
    rw [Term.parseWithin_of_scan room hscan, Term.ofTokensWithin] at hp
    by_contra hlarge
    rw [if_neg hlarge] at hp
    cases hp
  have hboth := Token.scan_joined hscan q
  cases hmore : Token.scan q with
  | error e =>
    rw [hmore] at hboth
    have hspoilt : Token.scan (p ++ "\n" ++ q) = .error (e.shiftLines (Token.linesBefore p)) :=
      hboth
    simp only [Term.parseWithin, hspoilt, hmore]
    rfl
  | ok more =>
    rw [hmore] at hboth
    have hnesting : Draft.nesting 0 (tokens ++ more.map (Token.shiftLines (Token.linesBefore p))) ≤
        room ↔ Draft.nesting 0 more ≤ room := by
      rw [Draft.nesting_append, hopen, Draft.nesting_shiftLines]
      omega
    rw [Term.parseWithin_of_scan room hboth, Term.parseWithin_of_scan room hmore,
      Term.ofTokensWithin, Term.ofTokensWithin, if_congr hnesting rfl rfl,
      Term.ofTokens_joined htokens hopen]
    split
    · cases Term.ofTokens more <;> rfl
    · rfl

end Joined

/-! ## A prelude and a program -/

/-- Runs forms in a session, whatever text they were read from. -/
def Session.runForms [Host.Platform] (l : Limits) (session : Session) (forms : List Term) :
    Except Stop String × Session :=
  match runProgram l.passes forms rootScope session.initial with
  | .ok text s => (.ok text, session.resume s)
  | .error stop s => (.error stop.closed, session.resume s)

theorem Session.run_of_parseWithin [Host.Platform]
    {l : Limits} {program : String} {forms : List Term}
    (h : Term.parseWithin l.depth program = .ok forms) (session : Session) :
    session.run l program = session.runForms l (session.prelude ++ forms) := by
  simp only [run, h]
  rfl

theorem Session.run_of_parseWithin_error [Host.Platform]
    {l : Limits} {program : String} {stop : Stop}
    (h : Term.parseWithin l.depth program = .error stop) (session : Session) :
    session.run l program = (.error stop.closed, session) := by
  simp only [run, h]

/-- After a text that can be read and leaves no list open, another one on the
    lines below is read as it is by itself, be it into forms or into an error,
    but for the lines that it stands on. So it makes no difference to the forms
    of a program, except for these lines, whether such a text is the prelude of
    a session or the beginning of the program. -/
theorem joined_texts_read_apart [Host.Platform]
    {p : String} {forms : List Term} (hp : Term.parse p = .ok forms)
    (hclosed : LeavesNoListOpen p) (q : String) :
    let n := 1 + p.toList.count '\n'
    (∀ others, Term.parse q = .ok others →
      Term.parse (p ++ "\n" ++ q) = .ok (forms ++ others.map (Term.shiftLines n))) ∧
    (∀ e, Term.parse q = .error e →
      Term.parse (p ++ "\n" ++ q) = .error (e.shiftLines n)) ∧
    ∀ (l : Limits) (console : Console) (started : Session),
      Session.start l (some p) console = .ok started →
      ∀ session plain : Session, session.prelude = started.prelude → plain.prelude = [] →
        (∀ others, Term.parseWithin l.depth q = .ok others →
          session.run l q = session.runForms l (forms ++ others) ∧
          plain.run l (p ++ "\n" ++ q) =
            plain.runForms l (forms ++ others.map (Term.shiftLines n))) ∧
        ∀ stop, Term.parseWithin l.depth q = .error stop →
          session.run l q = (.error stop.closed, session) ∧
          plain.run l (p ++ "\n" ++ q) = (.error (stop.shiftLines n).closed, plain) := by
  intro n
  have hparse := Term.parse_joined hp hclosed q
  refine ⟨?_, ?_, ?_⟩
  · intro others hq
    rw [hq] at hparse
    exact hparse
  · intro e hq
    rw [hq] at hparse
    exact hparse
  · intro l console started hstart session plain hsession hplain
    obtain ⟨h, -⟩ | ⟨text, read, hsome, hread, rfl⟩ := Session.start_cases hstart
    · cases h
    cases hsome
    -- What the session read is what the text is read as.
    have hsame := Term.parse_of_parseWithin hread
    rw [hp] at hsame
    cases hsame
    have hjoined := Term.parseWithin_joined hread hclosed q
    constructor
    · intro others hq
      rw [hq] at hjoined
      rw [Session.run_of_parseWithin hq, Session.run_of_parseWithin hjoined, hsession, hplain]
      exact ⟨rfl, rfl⟩
    · intro stop hq
      rw [hq] at hjoined
      exact ⟨Session.run_of_parseWithin_error hq session,
        Session.run_of_parseWithin_error hjoined plain⟩

/-- The first text ends with a `)` that closes nothing and with a comment that
    would begin a string, and the second one begins with such a `)`. The third
    one cannot be read. -/
theorem joined_texts_read_apart_stray :
    let p := "(f 'a)) ; \"("
    let q := ") 'b"
    let wrong := "x\n'"
    let forms : List Term := [.list [.sym "f" 1, .list [.sym "quote" 1, .sym "a" 1]]]
    let session : Session := ⟨forms, Console.ofLines [], 0, 0⟩
    let plain : Session := ⟨[], Console.ofLines [], 0, 0⟩
    Term.parse p = .ok forms ∧ LeavesNoListOpen p ∧
      Term.parse (p ++ "\n" ++ q) = .ok (forms ++ [.list [.sym "quote" 2, .sym "b" 2]]) ∧
      Term.parse (p ++ "\n" ++ wrong) = .error (.danglingMark .quote 3) ∧
      session.run ⟨5, 1⟩ q =
        session.runForms ⟨5, 1⟩ (forms ++ [.list [.sym "quote" 1, .sym "b" 1]]) ∧
      plain.run ⟨5, 1⟩ (p ++ "\n" ++ wrong) =
        (.error (.error (.read (.danglingMark .quote 3))), plain) := by
  intro p q wrong forms session plain
  have hscan : Token.scan p = .ok [⟨.openParen, some "(", 1⟩, ⟨.symbol, some "f", 1⟩,
      ⟨.quote, some "'", 1⟩, ⟨.symbol, some "a", 1⟩, ⟨.closeParen, some ")", 1⟩,
      ⟨.closeParen, some ")", 1⟩] := by
    decide +kernel
  have hscanq : Token.scan q = .ok [⟨.closeParen, some ")", 1⟩, ⟨.quote, some "'", 1⟩,
      ⟨.symbol, some "b", 1⟩] := by
    decide +kernel
  have hscanw : Token.scan wrong = .ok [⟨.symbol, some "x", 1⟩, ⟨.quote, some "'", 2⟩] := by
    decide +kernel
  have hp : Term.parse p = .ok forms := by
    rw [Term.parse, hscan]
    rfl
  have hclosed : LeavesNoListOpen p := by
    intro tokens h
    rw [hscan] at h
    cases h
    rfl
  have hq : Term.parse q = .ok [.list [.sym "quote" 1, .sym "b" 1]] := by
    rw [Term.parse, hscanq]
    rfl
  have hw : Term.parse wrong = .error (.danglingMark .quote 2) := by
    rw [Term.parse, hscanw]
    rfl
  have hqWithin : Term.parseWithin 5 q = .ok [.list [.sym "quote" 1, .sym "b" 1]] := by
    rw [Term.parseWithin_of_scan 5 hscanq]
    rfl
  have hwWithin : Term.parseWithin 5 wrong = .error (.error (.read (.danglingMark .quote 2))) := by
    rw [Term.parseWithin_of_scan 5 hscanw]
    rfl
  have hstart : Session.start ⟨5, 1⟩ (some p) (Console.ofLines []) = .ok session := by
    simp only [Session.start, Term.parseWithin_of_scan 5 hscan]
    rfl
  obtain ⟨hforms, -, hrunq⟩ := joined_texts_read_apart hp hclosed q
  obtain ⟨-, herror, hrunw⟩ := joined_texts_read_apart hp hclosed wrong
  have hprogram := (hrunq ⟨5, 1⟩ _ session hstart session plain rfl rfl).1 _ hqWithin
  have hspoilt := (hrunw ⟨5, 1⟩ _ session hstart session plain rfl rfl).2 _ hwWithin
  have hread := hforms _ hq
  have hrefused := herror _ hw
  have hone : 1 + p.toList.count '\n' = 1 := by decide +kernel
  rw [hone] at hread hrefused hspoilt
  exact ⟨hp, hclosed, hread, hrefused, hprogram.1, hspoilt.2⟩

end MiniLisp
