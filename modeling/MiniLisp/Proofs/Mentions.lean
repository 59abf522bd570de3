import MiniLisp.Macro
import MiniLisp.Proofs.Grammar
import MiniLisp.Proofs.LexicalGrammar

/-! # What terms mention

    A term reaches the scopes of a run in two ways only: by a name that some
    scope may bind, and by a scope that one of its closures was made in. Both
    are counted as mentions of the term, wherever in it they stand: in a list,
    in the body of a closure, or among the forms that an expanded special form
    holds back.

    * **`Term.mentions`** and **`Code.mentions`** — the names and scopes;
    * **`Term.Within`** — a term mentions nothing but what is allowed;
    * **`IsWord`** — the names that can be written in a program;
    * **`Term.parse_within`** — reading a text yields no other names. -/

namespace MiniLisp

/-- Something by which a term reaches the scopes of a run. -/
inductive Mention where
  | name (name : String)
  | scope (id : ScopeId)
  deriving DecidableEq, Repr

/-! ## Terms and code -/

mutual

/-- The names and scopes in a term. -/
def Term.mentions : Term → List Mention
  | .sym name _ => [.name name]
  | .list items => Term.mentionsAll items
  | .function _ code => code.mentions
  | .bool _ | .nil | .str _ | .num _ => []

/-- The names and scopes in the terms of a list. -/
def Term.mentionsAll : List Term → List Mention
  | [] => []
  | t :: rest => t.mentions ++ Term.mentionsAll rest

/-- The names and scopes in what a function does. A name that it binds counts
    as much as one that it looks up. -/
def Code.mentions : Code → List Mention
  | .closure formals rest body scope =>
      .scope scope :: (formals ++ rest.toList).map .name ++ Term.mentionsAll body
  | .makeClosure formals rest body _ _ _ =>
      (formals ++ rest.toList).map .name ++ Term.mentionsAll body
  | .define name => [.name name]
  | .assign name => [.name name]
  | .branch thenForm elseForm => thenForm.mentions ++ elseForm.mentions
  | .loop condition body => condition.mentions ++ Term.mentionsAll body
  | .guarded body fallback => body.mentions ++ fallback.mentions
  | .host program => program.names.map .name
  | .builtin _ | .lastValue | .leaveLoop | .evaluateValue | .readText | .throwValue => []

end

/-- A term mentions nothing but what is allowed. -/
def Term.Within (allowed : Mention → Prop) (t : Term) : Prop :=
  ∀ m ∈ t.mentions, allowed m

/-- A function's code mentions nothing but what is allowed. -/
def Code.Within (allowed : Mention → Prop) (code : Code) : Prop :=
  ∀ m ∈ code.mentions, allowed m

/-- A macro mentions nothing but what is allowed. -/
def Expander.Within (allowed : Mention → Prop) : Expander → Prop
  | .special _ => True
  | .template _ parameters body =>
      (∀ name ∈ parameters, allowed (.name name)) ∧ ∀ t ∈ body, t.Within allowed

section Within

variable {allowed : Mention → Prop}

theorem mem_mentionsAll {m : Mention} {ts : List Term} :
    m ∈ Term.mentionsAll ts ↔ ∃ t ∈ ts, m ∈ t.mentions := by
  induction ts with
  | nil => simp [Term.mentionsAll]
  | cons t rest ih => simp [Term.mentionsAll, ih]

theorem forall_mem_mentionsAll {ts : List Term} :
    (∀ m ∈ Term.mentionsAll ts, allowed m) ↔ ∀ t ∈ ts, t.Within allowed := by
  simp only [mem_mentionsAll, Term.Within]
  constructor
  · intro h t ht m hm
    exact h m ⟨t, ht, hm⟩
  · rintro h m ⟨t, ht, hm⟩
    exact h t ht m hm

namespace Term

@[simp] theorem within_bool (b : Bool) : (Term.bool b).Within allowed :=
  List.forall_mem_nil allowed

@[simp] theorem within_nil : Term.nil.Within allowed :=
  List.forall_mem_nil allowed

@[simp] theorem within_str (text : String) : (Term.str text).Within allowed :=
  List.forall_mem_nil allowed

@[simp] theorem within_num (x : Float) : (Term.num x).Within allowed :=
  List.forall_mem_nil allowed

@[simp] theorem within_sym {name : String} {line : Nat} :
    (Term.sym name line).Within allowed ↔ allowed (.name name) :=
  List.forall_mem_singleton

@[simp] theorem within_list {items : List Term} :
    (Term.list items).Within allowed ↔ ∀ t ∈ items, t.Within allowed :=
  forall_mem_mentionsAll

@[simp] theorem within_function {tag : FunctionTag} {code : Code} :
    (Term.function tag code).Within allowed ↔ code.Within allowed :=
  Iff.rfl

end Term

namespace Code

variable {formals : List String} {rest : Option String} {body : List Term}

theorem forall_mem_bodyMentions {names : List String} :
    (∀ m ∈ names.map Mention.name ++ Term.mentionsAll body, allowed m) ↔
      (∀ name ∈ names, allowed (.name name)) ∧ ∀ t ∈ body, t.Within allowed :=
  List.forall_mem_append.trans (and_congr List.forall_mem_map forall_mem_mentionsAll)

@[simp] theorem within_builtin (b : Builtin) : (Code.builtin b).Within allowed :=
  List.forall_mem_nil allowed

@[simp] theorem within_lastValue : Code.lastValue.Within allowed :=
  List.forall_mem_nil allowed

@[simp] theorem within_leaveLoop : Code.leaveLoop.Within allowed :=
  List.forall_mem_nil allowed

@[simp] theorem within_evaluateValue : Code.evaluateValue.Within allowed :=
  List.forall_mem_nil allowed

@[simp] theorem within_readText : Code.readText.Within allowed :=
  List.forall_mem_nil allowed

@[simp] theorem within_throwValue : Code.throwValue.Within allowed :=
  List.forall_mem_nil allowed

@[simp] theorem within_define {name : String} :
    (Code.define name).Within allowed ↔ allowed (.name name) :=
  List.forall_mem_singleton

@[simp] theorem within_assign {name : String} :
    (Code.assign name).Within allowed ↔ allowed (.name name) :=
  List.forall_mem_singleton

@[simp] theorem within_branch {thenForm elseForm : Term} :
    (Code.branch thenForm elseForm).Within allowed ↔
      thenForm.Within allowed ∧ elseForm.Within allowed :=
  List.forall_mem_append

@[simp] theorem within_guarded {t fallback : Term} :
    (Code.guarded t fallback).Within allowed ↔
      t.Within allowed ∧ fallback.Within allowed :=
  List.forall_mem_append

@[simp] theorem within_loop {condition : Term} :
    (Code.loop condition body).Within allowed ↔
      condition.Within allowed ∧ ∀ t ∈ body, t.Within allowed :=
  List.forall_mem_append.trans (and_congr_right' forall_mem_mentionsAll)

@[simp] theorem within_host {program : HostProgram} :
    (Code.host program).Within allowed ↔ ∀ name ∈ program.names, allowed (.name name) :=
  List.forall_mem_map

@[simp] theorem within_makeClosure {id : String} {description : Option String} {line : Nat} :
    (Code.makeClosure formals rest body id description line).Within allowed ↔
      (∀ name ∈ formals ++ rest.toList, allowed (.name name)) ∧
        ∀ t ∈ body, t.Within allowed :=
  forall_mem_bodyMentions

@[simp] theorem within_closure {scope : ScopeId} :
    (Code.closure formals rest body scope).Within allowed ↔
      allowed (.scope scope) ∧ (∀ name ∈ formals ++ rest.toList, allowed (.name name)) ∧
        ∀ t ∈ body, t.Within allowed :=
  List.forall_mem_cons.trans (and_congr_right' forall_mem_bodyMentions)

end Code

/-- Where symbols are turned into their names, the names are mentioned. -/
theorem allowed_of_symbolNames? {ts : List Term} {names : List String}
    (h : Term.symbolNames? ts = some names) (hts : ∀ t ∈ ts, t.Within allowed) :
    ∀ name ∈ names, allowed (.name name) := by
  induction ts generalizing names with
  | nil =>
    simp [Term.symbolNames?] at h
    simp [h]
  | cons t rest ih =>
    have ht : t.Within allowed := hts t List.mem_cons_self
    have hrest : ∀ u ∈ rest, u.Within allowed := fun u hu => hts u (List.mem_cons_of_mem t hu)
    cases t with
    | sym first line =>
      simp only [Term.symbolNames?, List.mapM_cons, Term.symbolName?] at h
      obtain ⟨_, hfirst, hmap⟩ := Option.bind_eq_some_iff.1 h
      cases hfirst
      obtain ⟨others, hothers, hnames⟩ := Option.bind_eq_some_iff.1 hmap
      cases hnames
      intro name hname
      rcases List.mem_cons.1 hname with rfl | hmem
      · exact Term.within_sym.1 ht
      · exact ih hothers hrest name hmem
    | bool _ | nil | str _ | num _ | list _ | function _ _ =>
      simp [Term.symbolNames?, Term.symbolName?] at h

end Within

/-! ## Words -/

/-- A name that can be written in a program: it is not empty and holds neither
    a separator nor a parenthesis. -/
def IsWord (name : String) : Prop :=
  name ≠ "" ∧ ∀ c ∈ name.toList, Token.isSymbolChar c = true

instance (name : String) : Decidable (IsWord name) :=
  @instDecidableAnd _ _ inferInstance (List.decidableBAll _ _)

theorem isWord_specialForm (form : SpecialForm) : IsWord form.name := by
  cases form <;> decide

theorem isWord_builtin (b : Builtin) : IsWord b.name := by
  cases b <;> decide

theorem isWord_mark (m : QuoteMark) : IsWord m.symbol := by
  cases m <;> decide

/-! ## Reading -/

namespace Token

/-- A token that may become a symbol is spelled as a word. -/
def Spelled (t : Token) : Prop :=
  t.kind = .symbol → IsWord (t.text.getD "")

theorem isWord_of_isLexeme {lexeme rest value : List Char} {kind : TokenKind}
    (h : IsLexeme lexeme rest kind value) (hkind : kind = .symbol) :
    IsWord (String.ofList value) := by
  cases h with
  | @symbol c run _ hc hrun hend =>
    refine ⟨?_, by simpa using hrun⟩
    intro hempty
    simpa using congrArg String.toList hempty
  | openParen | closeParen | unquoteSplice | unquote | quote | backquote | string | number =>
    cases hkind

theorem spelled_of_cut? {c : Char} {rest after : List Char} {piece : Piece}
    (h : cut? c rest = some (piece, after)) (line : Nat) :
    ∀ t ∈ piece.token? line, t.Spelled := by
  have hfits := fits_of_cut? h
  intro t ht hkind
  cases piece with
  | gap text => cases ht
  | plain kind text =>
    cases ht
    exact isWord_of_isLexeme hfits hkind
  | string body =>
    cases ht
    cases hkind

/-- Scanning yields no symbol but words. -/
theorem spelled_of_scanFrom {line : Nat} {text : List Char} {tokens : List Token}
    (h : scanFrom line text = .ok tokens) : ∀ t ∈ tokens, t.Spelled := by
  fun_induction scanFrom line text generalizing tokens with
  | case1 =>
    cases h
    simp
  | case2 => cases h
  | case3 => cases h
  | case4 line c rest piece after hcut others hothers ih =>
    cases h
    intro t ht
    rcases List.mem_append.1 ht with hfirst | hrest
    · exact spelled_of_cut? hcut line t (by simpa using hfirst)
    · exact ih hothers t hrest

end Token

section Reading

variable {allowed : Mention → Prop}

/-- The forms that tokens spell mention only the words of the tokens and those
    that the abbreviations stand for. -/
theorem Reads.within {depth : Nat} {tokens rest : List Token} {forms : List Term}
    (h : Reads depth tokens forms rest) (words : ∀ name, IsWord name → allowed (.name name))
    (htokens : ∀ t ∈ tokens, t.Spelled) :
    (∀ t ∈ rest, t ∈ tokens) ∧ ∀ form ∈ forms, form.Within allowed := by
  induction h with
  | nothing => simp
  | @atom depth t tokens rest forms kind others ih =>
    obtain ⟨hrest, hforms⟩ := ih fun u hu => htokens u (List.mem_cons_of_mem _ hu)
    refine ⟨fun u hu => List.mem_cons_of_mem _ (hrest u hu), ?_⟩
    intro form hform
    rcases List.mem_cons.1 hform with rfl | hmem
    · have hspelled := htokens t List.mem_cons_self
      cases hkind : t.kind with
      | symbol => simpa [Draft.ofAtom, hkind] using words _ (hspelled hkind)
      | openParen | closeParen | string | number | boolean | nil | quote | backquote | unquote
      | unquoteSplice => simp [Draft.ofAtom, hkind]
    · exact hforms form hmem
  | @list depth t tokens close after rest items forms kind inner closes others ihinner ihothers =>
    obtain ⟨hclose, hitems⟩ := ihinner fun u hu => htokens u (List.mem_cons_of_mem _ hu)
    -- What follows the list is part of what follows its opening token.
    have hafter : ∀ u ∈ after, u ∈ tokens := by
      intro u hu
      refine hclose u ?_
      cases closes with
      | paren _ => exact List.mem_cons_of_mem _ hu
      | endOfInput => exact hu
    obtain ⟨hrest, hforms⟩ := ihothers fun u hu =>
      htokens u (List.mem_cons_of_mem _ (hafter u hu))
    refine ⟨fun u hu => List.mem_cons_of_mem _ (hafter u (hrest u hu)), ?_⟩
    intro form hform
    rcases List.mem_cons.1 hform with rfl | hmem
    · exact Term.within_list.2 hitems
    · exact hforms form hmem
  | @marked depth t m tokens rest form forms kind others ih =>
    obtain ⟨hrest, hforms⟩ := ih fun u hu => htokens u (List.mem_cons_of_mem _ hu)
    refine ⟨fun u hu => List.mem_cons_of_mem _ (hrest u hu), ?_⟩
    intro g hg
    rcases List.mem_cons.1 hg with rfl | hmem
    · have hform := hforms form List.mem_cons_self
      simpa using ⟨words _ (isWord_mark m), hform⟩
    · exact hforms g (List.mem_cons_of_mem _ hmem)
  | stray kind others ih =>
    obtain ⟨hrest, hforms⟩ := ih fun u hu => htokens u (List.mem_cons_of_mem _ hu)
    exact ⟨fun u hu => List.mem_cons_of_mem _ (hrest u hu), hforms⟩

/-- The forms of a text are those that the grammar reads off its tokens. -/
theorem Term.reads_of_parse {text : String} {forms : List Term}
    (h : Term.parse text = .ok forms) :
    ∃ tokens, Token.scan text = .ok tokens ∧ Reads 0 tokens forms [] := by
  unfold Term.parse at h
  cases hscan : Token.scan text with
  | error e =>
    rw [hscan] at h
    cases h
  | ok tokens =>
    rw [hscan] at h
    have hread : Term.ofTokens tokens = .ok forms := h
    rcases reads_or_dangles 0 tokens with ⟨forms', rest, hreads, hend⟩ | hdangles
    · have hnil : rest = [] := by
        rcases hend with rfl | ⟨habsurd, -⟩
        · rfl
        · exact absurd habsurd (Nat.lt_irrefl 0)
      subst hnil
      have hok := ofTokens_of_reads hreads
      rw [hread] at hok
      cases hok
      exact ⟨tokens, rfl, hreads⟩
    · obtain ⟨e, herror⟩ := ofTokens_error_of_dangles hdangles
      rw [hread] at herror
      cases herror

/-- Reading a text yields no names but words. -/
theorem Term.parse_within {text : String} {forms : List Term} (h : Term.parse text = .ok forms)
    (words : ∀ name, IsWord name → allowed (.name name)) :
    ∀ form ∈ forms, form.Within allowed := by
  obtain ⟨tokens, hscan, hreads⟩ := Term.reads_of_parse h
  exact (hreads.within words (Token.spelled_of_scanFrom hscan)).2

end Reading

end MiniLisp
