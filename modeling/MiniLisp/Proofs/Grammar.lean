import MiniLisp.Draft

/-! # The grammar of forms

    Reading takes two steps: a tree with the marks still in it is built from
    left to right, and the marks are joined with what follows them from right
    to left. This module shows that both steps together are one grammar, in
    which a mark and the unit after it are a unit.

    * **`Reads`** — the units that tokens begin with and the forms they spell;
    * **`Dangles`** — a mark that no unit follows;
    * **`ofTokens_iff_grammar`** — a sequence of tokens is read as the forms
      that the grammar gives it, and refused exactly when a mark dangles. -/

namespace MiniLisp

/-! ## Units -/

/-- The tokens that are forms by themselves. -/
def TokenKind.isAtom : TokenKind → Bool
  | .symbol | .string | .number | .boolean | .nil => true
  | _ => false

/-- A token opens a list, closes one, is a mark or is an atom. -/
theorem TokenKind.openClose_or_mark_or_atom (kind : TokenKind) :
    kind = .openParen ∨ kind = .closeParen ∨ (∃ m, kind.mark? = some m) ∨ kind.isAtom = true := by
  cases kind <;> simp [mark?, isAtom]

/-- The `)` of a list, which the end of the input stands in for. -/
inductive Closes : List Token → List Token → Prop where
  | paren {t : Token} {after : List Token} (kind : t.kind = .closeParen) : Closes (t :: after) after
  | endOfInput : Closes [] []

/-- `Reads depth tokens forms rest`: inside `depth` open lists, the tokens
    begin with units that spell the forms and go on with `rest`. -/
inductive Reads : Nat → List Token → List Term → List Token → Prop where
  | nothing {depth : Nat} {rest : List Token} : Reads depth rest [] rest
  /-- An atom is a unit. -/
  | atom {depth : Nat} {t : Token} {tokens rest : List Token} {forms : List Term}
      (kind : t.kind.isAtom = true) (others : Reads depth tokens forms rest) :
      Reads depth (t :: tokens) (Draft.ofAtom t :: forms) rest
  /-- Units between parentheses are a unit. -/
  | list {depth : Nat} {t : Token} {tokens close after rest : List Token}
      {items forms : List Term} (kind : t.kind = .openParen)
      (inner : Reads (depth + 1) tokens items close) (closes : Closes close after)
      (others : Reads depth after forms rest) :
      Reads depth (t :: tokens) (.list items :: forms) rest
  /-- A mark and the unit after it are a unit, which spells the list of the
      symbol that the mark stands for, on the line of the mark, and the form. -/
  | marked {depth : Nat} {t : Token} {m : QuoteMark} {tokens rest : List Token} {form : Term}
      {forms : List Term} (kind : t.kind.mark? = some m)
      (others : Reads depth tokens (form :: forms) rest) :
      Reads depth (t :: tokens) (.list [.sym m.symbol t.line, form] :: forms) rest
  /-- Where no list is open, a `)` is skipped wherever a token is awaited. -/
  | stray {t : Token} {tokens rest : List Token} {forms : List Term}
      (kind : t.kind = .closeParen) (others : Reads 0 tokens forms rest) :
      Reads 0 (t :: tokens) forms rest

/-! ## Marks without a unit -/

/-- The number of lists that are open after tokens, `depth` being open before
    them. -/
def openLists (depth : Nat) : List Token → Nat
  | [] => depth
  | t :: tokens =>
      match t.kind with
      | .openParen => openLists (depth + 1) tokens
      | .closeParen => openLists (depth - 1) tokens
      | _ => openLists depth tokens

section openLists

variable {depth : Nat} {t : Token} {tokens : List Token}

theorem openLists_open (kind : t.kind = .openParen) :
    openLists depth (t :: tokens) = openLists (depth + 1) tokens := by
  cases t
  cases kind
  rfl

theorem openLists_close (kind : t.kind = .closeParen) :
    openLists depth (t :: tokens) = openLists (depth - 1) tokens := by
  cases t
  cases kind
  rfl

theorem openLists_mark {m : QuoteMark} (kind : t.kind.mark? = some m) :
    openLists depth (t :: tokens) = openLists depth tokens := by
  obtain ⟨k, text, line⟩ := t
  cases k <;> cases kind <;> rfl

theorem openLists_atom (kind : t.kind.isAtom = true) :
    openLists depth (t :: tokens) = openLists depth tokens := by
  obtain ⟨k, text, line⟩ := t
  cases k <;> cases kind <;> rfl

theorem openLists_append (depth : Nat) (before after : List Token) :
    openLists depth (before ++ after) = openLists (openLists depth before) after := by
  induction before generalizing depth with
  | nil => rfl
  | cons t before ih =>
    rw [List.cons_append]
    rcases t.kind.openClose_or_mark_or_atom with kind | kind | ⟨m, kind⟩ | kind
    · rw [openLists_open kind, openLists_open kind, ih]
    · rw [openLists_close kind, openLists_close kind, ih]
    · rw [openLists_mark kind, openLists_mark kind, ih]
    · rw [openLists_atom kind, openLists_atom kind, ih]

end openLists

/-- No unit comes next: after any further marks, the tokens meet the `)` of the
    list that they are in or the end of the input. -/
inductive NoUnit : Nat → List Token → Prop where
  | endOfInput {depth : Nat} : NoUnit depth []
  | close {depth : Nat} {t : Token} {tokens : List Token} (kind : t.kind = .closeParen)
      (inside : 0 < depth) : NoUnit depth (t :: tokens)
  | mark {depth : Nat} {t : Token} {m : QuoteMark} {tokens : List Token}
      (kind : t.kind.mark? = some m) (others : NoUnit depth tokens) : NoUnit depth (t :: tokens)
  | stray {t : Token} {tokens : List Token} (kind : t.kind = .closeParen)
      (others : NoUnit 0 tokens) : NoUnit 0 (t :: tokens)

/-- Some mark has no unit after it, `depth` lists being open before the
    tokens. -/
def Dangles (depth : Nat) (tokens : List Token) : Prop :=
  ∃ before t m after, tokens = before ++ t :: after ∧ t.kind.mark? = some m ∧
    NoUnit (openLists depth before) after

namespace Draft

/-! ## Steps of the first pass -/

section build

variable {items around : List Draft} {outer : List (List Draft)} {t : Token}
  {tokens : List Token}

theorem build_open (kind : t.kind = .openParen) :
    build items outer (t :: tokens) = build [] (items :: outer) tokens := by
  cases t
  cases kind
  rfl

theorem build_close (kind : t.kind = .closeParen) :
    build items (around :: outer) (t :: tokens) =
      build (.list items.reverse :: around) outer tokens := by
  cases t
  cases kind
  rfl

theorem build_stray (kind : t.kind = .closeParen) :
    build items [] (t :: tokens) = build items [] tokens := by
  cases t
  cases kind
  rfl

theorem build_mark {m : QuoteMark} (kind : t.kind.mark? = some m) :
    build items outer (t :: tokens) = build (.mark m t.line :: items) outer tokens := by
  obtain ⟨k, text, line⟩ := t
  cases k <;> cases kind <;> rfl

theorem build_atom (kind : t.kind.isAtom = true) :
    build items outer (t :: tokens) = build (.atom (ofAtom t) :: items) outer tokens := by
  obtain ⟨k, text, line⟩ := t
  cases k <;> cases kind <;> rfl

/-- The end of the input closes a list as its `)` does. -/
theorem build_closes {close after : List Token} (h : Closes close after) :
    build items (around :: outer) close = build (.list items.reverse :: around) outer after := by
  cases h with
  | paren kind => exact build_close kind
  | endOfInput => rfl

end build

/-! ## Steps of the second pass -/

section join

variable {d : Draft} {ds : List Draft} {js ks : List Term}

theorem join_cons_ok (h : join ds = .ok js) : join (d :: ds) = place d js := by
  show (do let joined ← join ds; place d joined) = _
  rw [h]
  rfl

theorem join_cons_error {e : ReadError} (h : join ds = .error e) : join (d :: ds) = .error e := by
  show (do let joined ← join ds; place d joined) = _
  rw [h]
  rfl

theorem place_list (inner : List Draft) (js : List Term) :
    place (.list inner) js = do
      let joined ← join inner
      return Term.list joined :: js := rfl

theorem join_atom (t : Term) (h : join ds = .ok js) : join (.atom t :: ds) = .ok (t :: js) := by
  rw [join_cons_ok h]
  rfl

theorem join_mark (m : QuoteMark) (line : Nat) {t : Term} (h : join ds = .ok (t :: js)) :
    join (.mark m line :: ds) = .ok (.list [.sym m.symbol line, t] :: js) := by
  rw [join_cons_ok h]
  rfl

theorem join_list {inner : List Draft} (hinner : join inner = .ok ks) (h : join ds = .ok js) :
    join (.list inner :: ds) = .ok (.list ks :: js) := by
  rw [join_cons_ok h, place_list, hinner]
  rfl

/-- A list that cannot be joined spoils every list that it is in. -/
theorem join_error_of_mem {inner : List Draft} {e : ReadError} (hinner : join inner = .error e)
    (hmem : .list inner ∈ ds) : ∃ e', join ds = .error e' := by
  induction ds with
  | nil => simp at hmem
  | cons d ds ih =>
    cases hds : join ds with
    | error e' => exact ⟨e', join_cons_error hds⟩
    | ok js =>
      rcases List.mem_cons.1 hmem with rfl | hrest
      · refine ⟨e, ?_⟩
        rw [join_cons_ok hds, place_list, hinner]
        rfl
      · obtain ⟨e', he'⟩ := ih hrest
        rw [hds] at he'
        cases he'

/-- A mark at the end of a list cannot be joined. -/
theorem join_error_of_last_mark (ds : List Draft) (m : QuoteMark) (line : Nat) :
    ∃ e, join (ds ++ [.mark m line]) = .error e := by
  induction ds with
  | nil => exact ⟨.danglingMark m line, rfl⟩
  | cons d ds ih =>
    obtain ⟨e, he⟩ := ih
    exact ⟨e, join_cons_error he⟩

end join

/-! ## How many lists are open at once -/

/-- No more lists are open at the beginning than at the widest place. -/
theorem le_nesting (now : Nat) (tokens : List Token) : now ≤ nesting now tokens := by
  induction tokens generalizing now with
  | nil => exact Nat.le_refl now
  | cons t tokens ih =>
    rw [nesting]
    split
    · exact Nat.le_of_succ_le (ih (now + 1))
    · exact Nat.le_max_left _ _
    · exact ih now

theorem nesting_append (now : Nat) (tokens more : List Token) :
    nesting now (tokens ++ more) =
      max (nesting now tokens) (nesting (openLists now tokens) more) := by
  induction tokens generalizing now with
  | nil =>
    have hle := le_nesting now more
    rw [List.nil_append, nesting, openLists]
    omega
  | cons t tokens ih =>
    obtain ⟨kind, text, line⟩ := t
    cases kind with
    | openParen => exact ih (now + 1)
    | closeParen =>
      show max now (nesting (now - 1) (tokens ++ more)) =
        max (max now (nesting (now - 1) tokens)) (nesting (openLists (now - 1) tokens) more)
      rw [ih (now - 1), Nat.max_assoc]
    | _ => exact ih now

end Draft

/-! ## What the grammar reads is read -/

/-- Units put drafts onto the open list that join to the forms. -/
theorem build_of_reads {depth : Nat} {tokens rest : List Token} {forms : List Term}
    (h : Reads depth tokens forms rest) :
    ∃ ds, (∀ after js, Draft.join after = .ok js → Draft.join (ds ++ after) = .ok (forms ++ js)) ∧
      ∀ items outer, outer.length = depth →
        Draft.build items outer tokens = Draft.build (ds.reverse ++ items) outer rest := by
  induction h with
  | nothing => exact ⟨[], fun after js hjoin => hjoin, fun items outer _ => rfl⟩
  | @atom _ t _ _ _ kind _ ih =>
    obtain ⟨ds, hjoin, hbuild⟩ := ih
    refine ⟨.atom (Draft.ofAtom t) :: ds, ?_, ?_⟩
    · intro after js hafter
      exact Draft.join_atom _ (hjoin after js hafter)
    · intro items outer hdepth
      rw [Draft.build_atom kind, hbuild _ outer hdepth]
      simp
  | @list _ t _ _ _ _ inner _ kind _ closes _ ihInner ih =>
    obtain ⟨innerDs, hinnerJoin, hinnerBuild⟩ := ihInner
    obtain ⟨ds, hjoin, hbuild⟩ := ih
    have hinner : Draft.join innerDs = .ok inner := by
      simpa using hinnerJoin [] [] rfl
    refine ⟨.list innerDs :: ds, ?_, ?_⟩
    · intro after js hafter
      exact Draft.join_list hinner (hjoin after js hafter)
    · intro items outer hdepth
      have hdeeper : (items :: outer).length = outer.length + 1 := rfl
      rw [Draft.build_open kind, hinnerBuild [] (items :: outer) (hdepth ▸ hdeeper),
        Draft.build_closes closes, hbuild _ outer hdepth]
      simp
  | @marked _ t m _ _ form _ kind _ ih =>
    obtain ⟨ds, hjoin, hbuild⟩ := ih
    refine ⟨.mark m t.line :: ds, ?_, ?_⟩
    · intro after js hafter
      exact Draft.join_mark m t.line (hjoin after js hafter)
    · intro items outer hdepth
      rw [Draft.build_mark kind, hbuild _ outer hdepth]
      simp
  | stray kind _ ih =>
    obtain ⟨ds, hjoin, hbuild⟩ := ih
    refine ⟨ds, hjoin, ?_⟩
    intro items outer hdepth
    cases List.length_eq_zero_iff.1 hdepth
    rw [Draft.build_stray kind, hbuild items [] rfl]

/-- Tokens that are units from their beginning to their end are read as the
    forms that the units spell. -/
theorem ofTokens_of_reads {tokens : List Token} {forms : List Term}
    (h : Reads 0 tokens forms []) : Term.ofTokens tokens = .ok forms := by
  obtain ⟨ds, hjoin, hbuild⟩ := build_of_reads h
  have hdrafts : Draft.ofTokens tokens = ds := by
    rw [Draft.ofTokens, hbuild [] [] rfl]
    show (ds.reverse ++ []).reverse = ds
    simp
  rw [Term.ofTokens, hdrafts]
  simpa using hjoin [] [] rfl

/-! ## Tokens with a dangling mark are refused -/

/-- Among the open lists is a finished list that cannot be joined. -/
def Spoiled (items : List Draft) (outer : List (List Draft)) : Prop :=
  ∃ inner e, Draft.join inner = .error e ∧ ∃ list ∈ items :: outer, .list inner ∈ list

namespace Spoiled

variable {items around : List Draft} {outer : List (List Draft)} {d : Draft}

theorem cons (h : Spoiled items outer) : Spoiled (d :: items) outer := by
  obtain ⟨inner, e, he, list, hlist, hmem⟩ := h
  rcases List.mem_cons.1 hlist with rfl | houter
  · exact ⟨inner, e, he, d :: list, by simp, List.mem_cons_of_mem _ hmem⟩
  · exact ⟨inner, e, he, list, List.mem_cons_of_mem _ houter, hmem⟩

theorem enter (h : Spoiled items outer) : Spoiled [] (items :: outer) := by
  obtain ⟨inner, e, he, list, hlist, hmem⟩ := h
  exact ⟨inner, e, he, list, List.mem_cons_of_mem _ hlist, hmem⟩

/-- A list is spoiled by what was finished in it. -/
theorem leave (h : Spoiled items (around :: outer)) :
    Spoiled (.list items.reverse :: around) outer := by
  obtain ⟨inner, e, he, list, hlist, hmem⟩ := h
  rcases List.mem_cons.1 hlist with rfl | houter
  · obtain ⟨e', he'⟩ := Draft.join_error_of_mem he (List.mem_reverse.2 hmem)
    exact ⟨list.reverse, e', he', .list list.reverse :: around, by simp, by simp⟩
  · have hrest : Spoiled around outer := ⟨inner, e, he, list, houter, hmem⟩
    exact hrest.cons

theorem closeAll (h : Spoiled items outer) :
    ∃ e, Draft.join (Draft.closeAll items outer) = .error e := by
  induction outer generalizing items with
  | nil =>
    obtain ⟨inner, e, he, list, hlist, hmem⟩ := h
    cases List.mem_singleton.1 hlist
    exact Draft.join_error_of_mem he (List.mem_reverse.2 hmem)
  | cons around rest ih => exact ih h.leave

/-- Whatever tokens follow, the result cannot be joined. -/
theorem build (h : Spoiled items outer) (tokens : List Token) :
    ∃ e, Draft.join (Draft.build items outer tokens) = .error e := by
  induction tokens generalizing items outer with
  | nil => exact h.closeAll
  | cons t tokens ih =>
    rcases t.kind.openClose_or_mark_or_atom with kind | kind | ⟨m, kind⟩ | kind
    · rw [Draft.build_open kind]
      exact ih h.enter
    · cases outer with
      | nil =>
        rw [Draft.build_stray kind]
        exact ih h
      | cons around rest =>
        rw [Draft.build_close kind]
        exact ih h.leave
    · rw [Draft.build_mark kind]
      exact ih h.cons
    · rw [Draft.build_atom kind]
      exact ih h.cons

end Spoiled

/-- A list that ends with a mark spoils the list around it. -/
theorem spoiled_of_last_mark (items : List Draft) (m : QuoteMark) (line : Nat)
    (around : List Draft) (outer : List (List Draft)) :
    Spoiled (.list (.mark m line :: items).reverse :: around) outer := by
  obtain ⟨e, he⟩ := Draft.join_error_of_last_mark items.reverse m line
  rw [← List.reverse_cons] at he
  exact ⟨_, e, he, _, List.mem_cons_self, List.mem_cons_self⟩

/-- If no unit follows a mark, the result cannot be joined. -/
theorem build_mark_noUnit {depth : Nat} {tokens : List Token} (h : NoUnit depth tokens)
    (m : QuoteMark) (line : Nat) (items : List Draft) (outer : List (List Draft))
    (hdepth : outer.length = depth) :
    ∃ e, Draft.join (Draft.build (.mark m line :: items) outer tokens) = .error e := by
  induction h generalizing m line items outer with
  | endOfInput =>
    -- The mark ends the top level or the innermost open list.
    cases outer with
    | nil =>
      rw [Draft.build, Draft.closeAll, List.reverse_cons]
      exact Draft.join_error_of_last_mark items.reverse m line
    | cons around rest =>
      rw [Draft.build_closes .endOfInput]
      exact (spoiled_of_last_mark items m line around rest).build []
  | @close _ t tokens kind inside =>
    cases outer with
    | nil =>
      rw [← hdepth] at inside
      exact absurd inside (Nat.lt_irrefl 0)
    | cons around rest =>
      rw [Draft.build_close kind]
      exact (spoiled_of_last_mark items m line around rest).build tokens
  | @mark _ t m' tokens kind _ ih =>
    -- The further mark is the one that ends its list.
    rw [Draft.build_mark kind]
    exact ih m' t.line (.mark m line :: items) outer hdepth
  | stray kind _ ih =>
    cases List.length_eq_zero_iff.1 hdepth
    rw [Draft.build_stray kind]
    exact ih m line items [] rfl

/-- After tokens, as many lists are open as `openLists` counts. -/
theorem build_append (before : List Token) (items : List Draft) (outer : List (List Draft)) :
    ∃ items' outer', outer'.length = openLists outer.length before ∧
      ∀ after, Draft.build items outer (before ++ after) = Draft.build items' outer' after := by
  induction before generalizing items outer with
  | nil => exact ⟨items, outer, rfl, fun _ => rfl⟩
  | cons t before ih =>
    rcases t.kind.openClose_or_mark_or_atom with kind | kind | ⟨m, kind⟩ | kind
    · simp only [List.cons_append, Draft.build_open kind, openLists_open kind]
      exact ih [] (items :: outer)
    · rw [openLists_close kind]
      cases outer with
      | nil =>
        simp only [List.cons_append, Draft.build_stray kind]
        exact ih items []
      | cons around rest =>
        simp only [List.cons_append, Draft.build_close kind]
        exact ih (.list items.reverse :: around) rest
    · simp only [List.cons_append, Draft.build_mark kind, openLists_mark kind]
      exact ih _ outer
    · simp only [List.cons_append, Draft.build_atom kind, openLists_atom kind]
      exact ih _ outer

theorem ofTokens_error_of_dangles {tokens : List Token} (h : Dangles 0 tokens) :
    ∃ e, Term.ofTokens tokens = .error e := by
  obtain ⟨before, t, m, after, rfl, kind, hno⟩ := h
  obtain ⟨items, outer, hdepth, hbuild⟩ := build_append before [] []
  rw [Term.ofTokens, Draft.ofTokens, hbuild, Draft.build_mark kind]
  exact build_mark_noUnit hno m t.line items outer hdepth

/-! ## There is no third case -/

/-- A mark that dangles later in the input dangles in the whole input. -/
theorem Dangles.append {depth : Nat} {tokens : List Token} (before : List Token)
    (h : Dangles (openLists depth before) tokens) : Dangles depth (before ++ tokens) := by
  obtain ⟨inner, t, m, after, rfl, kind, hno⟩ := h
  rw [← openLists_append] at hno
  exact ⟨before ++ inner, t, m, after, by simp, kind, hno⟩

/-- Where units end before the input does, every list in them was closed. -/
theorem Reads.split {depth : Nat} {tokens rest : List Token} {forms : List Term}
    (h : Reads depth tokens forms rest) :
    ∃ before, tokens = before ++ rest ∧ (rest = [] ∨ openLists depth before = depth) := by
  induction h with
  | nothing => exact ⟨[], rfl, .inr rfl⟩
  | @atom _ t _ _ _ kind _ ih =>
    obtain ⟨before, rfl, hdepth⟩ := ih
    refine ⟨t :: before, rfl, ?_⟩
    rw [openLists_atom kind]
    exact hdepth
  | @list depth t _ _ _ rest _ _ kind _ closes others ihInner ih =>
    obtain ⟨inner, rfl, hinner⟩ := ihInner
    obtain ⟨before, hafter, hdepth⟩ := ih
    cases closes with
    | @paren c after closeKind =>
      subst hafter
      refine ⟨t :: (inner ++ c :: before), by simp, ?_⟩
      rw [openLists_open kind, openLists_append]
      rcases hinner with hnil | hinner
      · cases hnil
      · rw [hinner, openLists_close closeKind]
        exact hdepth
    | endOfInput =>
      -- The list is left open, but then nothing follows it.
      obtain ⟨rfl, rfl⟩ := List.append_eq_nil_iff.1 hafter.symm
      exact ⟨t :: inner, by simp, .inl rfl⟩
  | @marked _ t _ _ _ _ _ kind _ ih =>
    obtain ⟨before, rfl, hdepth⟩ := ih
    refine ⟨t :: before, rfl, ?_⟩
    rw [openLists_mark kind]
    exact hdepth
  | @stray t _ _ _ kind _ ih =>
    obtain ⟨before, rfl, hdepth⟩ := ih
    refine ⟨t :: before, rfl, ?_⟩
    rw [openLists_close kind]
    exact hdepth

/-- Where units may end: at the end of the input or at the `)` of the list
    that they are in. -/
def AtEnd (depth : Nat) (rest : List Token) : Prop :=
  rest = [] ∨ 0 < depth ∧ ∃ t after, rest = t :: after ∧ t.kind = .closeParen

/-- If no unit can be read up to an end, no unit comes next. -/
theorem Reads.noUnit {depth : Nat} {tokens rest : List Token} {forms : List Term}
    (h : Reads depth tokens forms rest) (hforms : forms = []) (hend : AtEnd depth rest) :
    NoUnit depth tokens := by
  induction h with
  | nothing =>
    rcases hend with rfl | ⟨hinside, t, after, rfl, kind⟩
    · exact .endOfInput
    · exact .close kind hinside
  | atom => cases hforms
  | list => cases hforms
  | marked => cases hforms
  | stray kind _ ih => exact .stray kind (ih hforms hend)

/-- Tokens are units up to where units may end, or else a mark dangles. -/
theorem reads_or_dangles (depth : Nat) (tokens : List Token) :
    (∃ forms rest, Reads depth tokens forms rest ∧ AtEnd depth rest) ∨ Dangles depth tokens := by
  match tokens with
  | [] => exact .inl ⟨[], [], .nothing, .inl rfl⟩
  | t :: tokens =>
    have hlater : ∀ {d}, openLists depth [t] = d → Dangles d tokens →
        Dangles depth (t :: tokens) := by
      intro d hd hdangles
      rw [← hd] at hdangles
      exact hdangles.append [t]
    rcases t.kind.openClose_or_mark_or_atom with kind | kind | ⟨m, kind⟩ | kind
    · -- A list is read up to its end, and the tokens go on after it.
      rcases reads_or_dangles (depth + 1) tokens with ⟨items, close, hinner, hend⟩ | hdangles
      · obtain ⟨inner, rfl, hdepth⟩ := hinner.split
        rcases hend with rfl | ⟨-, c, after, rfl, closeKind⟩
        · exact .inl ⟨_, [], .list kind hinner .endOfInput .nothing, .inl rfl⟩
        · have hinnerDepth : openLists (depth + 1) inner = depth + 1 := by simpa using hdepth
          have hclosed : openLists depth (t :: inner ++ [c]) = depth := by
            rw [List.cons_append, openLists_open kind, openLists_append, hinnerDepth,
              openLists_close closeKind]
            rfl
          rcases reads_or_dangles depth after with ⟨forms, rest, hrest, hend⟩ | hdangles
          · exact .inl ⟨_, rest, .list kind hinner (.paren closeKind) hrest, hend⟩
          · rw [← hclosed] at hdangles
            have happend := hdangles.append (t :: inner ++ [c])
            exact .inr (by simpa using happend)
      · exact .inr (hlater (openLists_open kind) hdangles)
    · by_cases hinside : 0 < depth
      · exact .inl ⟨[], t :: tokens, .nothing, .inr ⟨hinside, t, tokens, rfl, kind⟩⟩
      · cases Nat.eq_zero_of_not_pos hinside
        rcases reads_or_dangles 0 tokens with ⟨forms, rest, hreads, hend⟩ | hdangles
        · exact .inl ⟨forms, rest, .stray kind hreads, hend⟩
        · exact .inr (hlater (openLists_close kind) hdangles)
    · -- The mark needs a first form among those that are read after it.
      rcases reads_or_dangles depth tokens with ⟨forms, rest, hreads, hend⟩ | hdangles
      · cases forms with
        | nil => exact .inr ⟨[], t, m, tokens, rfl, kind, hreads.noUnit rfl hend⟩
        | cons form forms => exact .inl ⟨_, rest, .marked kind hreads, hend⟩
      · exact .inr (hlater (openLists_mark kind) hdangles)
    · rcases reads_or_dangles depth tokens with ⟨forms, rest, hreads, hend⟩ | hdangles
      · exact .inl ⟨_, rest, .atom kind hreads, hend⟩
      · exact .inr (hlater (openLists_atom kind) hdangles)
termination_by tokens.length

/-! ## Reading and the grammar -/

/-- A sequence of tokens is read as the forms that its units spell, and it is
    refused exactly when a mark has no unit after it. Forms are terms, so no
    mark is left in them. -/
theorem ofTokens_iff_grammar (tokens : List Token) :
    (∀ forms, Term.ofTokens tokens = .ok forms ↔ Reads 0 tokens forms []) ∧
      ((∃ e, Term.ofTokens tokens = .error e) ↔ Dangles 0 tokens) := by
  have hcases : (∃ forms, Reads 0 tokens forms []) ∨ Dangles 0 tokens := by
    rcases reads_or_dangles 0 tokens with ⟨forms, rest, hreads, rfl | ⟨habsurd, -⟩⟩ | hdangles
    · exact .inl ⟨forms, hreads⟩
    · exact absurd habsurd (Nat.lt_irrefl 0)
    · exact .inr hdangles
  refine ⟨fun forms => ⟨fun hok => ?_, ofTokens_of_reads⟩,
    ⟨fun ⟨e, herror⟩ => ?_, ofTokens_error_of_dangles⟩⟩
  · rcases hcases with ⟨forms', hreads⟩ | hdangles
    · have hok' := ofTokens_of_reads hreads
      rw [hok] at hok'
      cases hok'
      exact hreads
    · obtain ⟨e, herror⟩ := ofTokens_error_of_dangles hdangles
      rw [hok] at herror
      cases herror
  · rcases hcases with ⟨forms, hreads⟩ | hdangles
    · have hok := ofTokens_of_reads hreads
      rw [herror] at hok
      cases hok
    · exact hdangles

/-- A `)` that closes nothing does not come between a mark and its unit. -/
example : Term.ofTokens [⟨.quote, some "'", 1⟩, ⟨.closeParen, some ")", 1⟩,
    ⟨.symbol, some "a", 2⟩] = .ok [.list [.sym "quote" 1, .sym "a" 2]] := rfl

end MiniLisp
